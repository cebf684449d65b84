import BoxDiagram.CommandLine.Files
import BoxDiagram.Text.Char

namespace BoxDiagram

/-!
# Files in memory

A disk holds files by the names on their paths from the root. A directory is there
as long as a file or the working directory lies in it. A path is followed name by
name, and each name but the last one must lead to a directory.
-/

/-- Files by the names on their paths from the root, and the directory where paths start. -/
structure Disk where
  files : List (List String × ByteArray)
  working : List String

namespace Disk

/-- The greatest number of bytes of a name. -/
def nameLimit : Nat := 255

/-- The least number of bytes of a path that is too long. -/
def pathLimit : Nat := 4096

/-- The parts of a path around its slashes. -/
def parts (path : String) : List String :=
  (Text.splitOn '/' path.toList).map String.ofList

/-- A part of a path stays where it is. -/
def isIdle (part : String) : Bool := part == "" || part == "."

/-- The content of the file with given names. -/
def content? (disk : Disk) (names : List String) : Option ByteArray :=
  disk.files.lookup names

/-- The names lead to a directory: the working one, or one above a file. -/
def isDirectory (disk : Disk) (names : List String) : Bool :=
  names.isPrefixOf disk.working ||
    disk.files.any fun file => names.isPrefixOf file.1 && names.length < file.1.length

/-- The names to which the parts of a path lead from a place. -/
def follow (disk : Disk) (place : List String) : List String → Except FileError (List String)
  | [] => .ok place
  | part :: rest =>
      if !disk.isDirectory place then
        .error (if (disk.content? place).isSome then .notDirectory else .notFound)
      else if isIdle part then disk.follow place rest
      else if part == ".." then disk.follow place.dropLast rest
      else if nameLimit < part.utf8ByteSize then .error .nameTooLong
      else disk.follow (place ++ [part]) rest

/-- The names to which a path leads. -/
def resolve (disk : Disk) (path : String) : Except FileError (List String) :=
  if path.contains '\x00' then .error .endedPath
  else if path.isEmpty then .error .notFound
  else if pathLimit ≤ path.utf8ByteSize then .error .nameTooLong
  else disk.follow (if path.startsWith "/" then [] else disk.working) (parts path)

/-- The content of the file of a path. -/
def read (disk : Disk) (path : String) : Except FileError ByteArray := do
  let names ← disk.resolve path
  if disk.isDirectory names then throw .isDirectory
  match disk.content? names with
  | some bytes => return bytes
  | none => throw .notFound

/-- A path leads to a file or a directory. -/
def found (disk : Disk) (path : String) : Bool :=
  match disk.read path with
  | .ok _ | .error .isDirectory => true
  | .error _ => false

/-- The disk with a file written, in place of the one that was there. -/
def write (disk : Disk) (path : String) (bytes : ByteArray) : Except FileError Disk := do
  let names ← disk.resolve path
  if disk.isDirectory names then throw .isDirectory
  return { disk with files := (names, bytes) :: disk.files.filter (·.1 != names) }

/-- A disk with a working directory and the files in it, by their paths. -/
def ofFiles (working : List String) (files : List (String × ByteArray)) : Disk :=
  let names (path : String) : List String := (parts path).filter (!isIdle ·)
  ⟨files.map fun file => (working ++ names file.1, file.2), working⟩

/-- The actions on the files of a disk. -/
def actions (configDirectory : Option String) : Files (StateM Disk) where
  found path := return (← get).found path
  read path := return (← get).read path
  write path text := do
    match (← get).write path text.toUTF8 with
    | .ok after =>
        set after
        return .ok ()
    | .error error => return .error error
  print _ := return
  configDirectory := configDirectory

end Disk

end BoxDiagram
