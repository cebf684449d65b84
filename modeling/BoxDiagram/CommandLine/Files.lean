namespace BoxDiagram

/-!
# Files

A program sees files only through a few actions, so that it can run in any monad.
-/

/-- Why a file cannot be read or written. -/
inductive FileError where
  | notFound
  | notDirectory
  | isDirectory
  | nameTooLong
  /-- The path holds the character that ends paths for the system. -/
  | endedPath
  | other (message : String)
  deriving Repr, DecidableEq

/-- The error as the system tells it. -/
def FileError.message : FileError → String
  | .notFound => "No such file or directory (os error 2)"
  | .notDirectory => "Not a directory (os error 20)"
  | .isDirectory => "Is a directory (os error 21)"
  | .nameTooLong => "File name too long (os error 36)"
  | .endedPath => "file name contained an unexpected NUL byte"
  | .other message => message

/-- What a program may do with files. -/
structure Files (m : Type → Type) where
  found : String → m Bool
  read : String → m (Except FileError ByteArray)
  write : String → String → m (Except FileError Unit)
  print : String → m Unit
  /-- The directory of the configurations of all programs, if there is one. -/
  configDirectory : Option String

end BoxDiagram
