import BoxDiagram.CommandLine.Arguments
import BoxDiagram.CommandLine.Files
import BoxDiagram.Compiler.Basic
import BoxDiagram.Layout.Export
import BoxDiagram.Toml.Document

namespace BoxDiagram

/-!
# Running a command line

A run finds its configuration, reads its input, compiles it and writes the layout.
-/

namespace CommandLine

/-- Where a configuration is looked for. -/
def localConfig : String := "tessera/config.toml"

/-- The configuration file in the directory of the configurations of all programs. -/
def systemConfig (directory : String) : String := s!"{directory}/{localConfig}"

/-- The failure that a file cannot be used. -/
def fileFailure (error : FileError) : Failure := .io error.message

/-- The text of the bytes of a file. -/
def decode (bytes : ByteArray) : Except Failure String :=
  match String.fromUTF8? bytes with
  | some text => .ok text
  | none => .error (.io "stream did not contain valid UTF-8")

/-- The configuration that a text gives. -/
def parseConfig (text : String) : Except Failure Config :=
  match (Toml.document? text).bind (Config.read? .toml) with
  | some config => .ok config
  | none => .error (.io "Failed to parse TOML configuration")

variable {m : Type → Type} [Monad m]

/-- The text of a file. -/
def readText (files : Files m) (path : String) : ExceptT Failure m String := do
  match ← files.read path with
  | .ok bytes => decode bytes
  | .error error => throw (fileFailure error)

/-- The configuration of a file that has to be there. -/
def readConfig (files : Files m) (path : String) : ExceptT Failure m Config := do
  if ← files.found path then
    let text ← readText files path
    parseConfig text
  else throw (.io s!"Missing configuration file: {path}")

/-- The first of some files that exists. -/
def firstFound (files : Files m) : List String → ExceptT Failure m (Option String)
  | [] => return none
  | path :: rest => do
      if ← files.found path then return some path
      firstFound files rest

/-- The configuration of a run: of the named file, of the project, or of the system. -/
def loadConfig (files : Files m) (explicit : Option String) : ExceptT Failure m Config := do
  match explicit with
  | some path => readConfig files path
  | none =>
      let places := localConfig :: (files.configDirectory.map systemConfig).toList
      match ← firstFound files places with
      | some path => readConfig files path
      | none => return {}

/-- The layout of a source as text. -/
def compile (config : Config) (pretty : Bool) (source : String) : Except Failure String := do
  let compiler : Compiler Float32 := { config }
  let layout ← compiler.compile source
  return layout.fileText (pretty || config.output.pretty)

/-- Reads the input, compiles it and writes the layout where it is wanted. -/
def run (files : Files m) (arguments : Arguments) : ExceptT Failure m Unit := do
  let loaded ← loadConfig files arguments.config
  let config := (arguments.planner.map loaded.withPlanner).getD loaded
  let source ← readText files arguments.input
  let text ← compile config arguments.pretty source
  match arguments.output with
  | none => files.print text
  | some path =>
      match ← files.write path text with
      | .ok _ => return
      | .error error => throw (fileFailure error)

end CommandLine

end BoxDiagram
