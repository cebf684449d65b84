import BoxDiagram.CommandLine.Run
import BoxDiagram.Diagnostic.Report

namespace BoxDiagram

/-!
# The program
-/

namespace CommandLine

/-- The reason for which an action on a file failed. -/
def fileError : IO.Error → FileError
  | .noFileOrDirectory .. => .notFound
  | .inappropriateType _ code _ => if code = 21 then .isDirectory else .notDirectory
  | .invalidArgument name code details =>
      if code = 36 then .nameTooLong
      else .other (toString (IO.Error.invalidArgument name code details))
  | error => .other (toString error)

/-- An action on a file with the reason for which it failed. -/
def attempt {β : Type} (action : IO β) : IO (Except FileError β) := do
  try
    return .ok (← action)
  catch error =>
    return .error (fileError error)

/-- The directory of the configurations of all programs. -/
def configDirectory : IO (Option String) := do
  match ← IO.getEnv "XDG_CONFIG_HOME" with
  | some directory => if directory.startsWith "/" then return some directory
  | none => pure ()
  return (← IO.getEnv "HOME").map fun home => s!"{home}/.config"

/-- The files of the machine, with reports as its system gives them. -/
def realFiles : IO (Files IO) := do
  return {
    found := fun path => do
      match ← attempt (IO.FS.Handle.mk path .read) with
      | .error .notFound => return false
      | .error .notDirectory => return false
      | _ => return true
    read := fun path => attempt (IO.FS.readBinFile path)
    write := fun path text => attempt (IO.FS.writeFile path text)
    print := fun text => IO.print text
    configDirectory := ← configDirectory }

/-- What the program prints when it is asked how it is used. -/
def usage : String :=
  "Usage: boxdiagram [OPTIONS] <INPUT>\n\n" ++
  "Arguments:\n" ++
  "  <INPUT>  Path to the input file\n\n" ++
  "Options:\n" ++
  "  -o, --output <OUTPUT>        Path to the output JSON file; standard output when omitted\n" ++
  "  -c, --config <CONFIG>        Path to configuration file (TOML)\n" ++
  "      --log-level <LOG_LEVEL>  Log level (off, error, warn, info, debug, trace)\n" ++
  "      --planner <PLANNER>      Route planner, overriding the configuration\n" ++
  "      --pretty                 Write indented JSON\n" ++
  "  -h, --help                   Print help\n" ++
  "  -V, --version                Print version"

/-- A report as it is written for a reader, with its help below. -/
def reportText (report : Report) : String :=
  let code := match report.code with
    | some code => s!"{code}: "
    | none => ""
  let help := match report.help with
    | some help => s!"\n  help: {help}"
    | none => ""
  s!"{code}{report.display}{help}"

/-- Runs a command line and tells whether it failed. -/
def execute (arguments : Arguments) : IO UInt32 := do
  match ← (run (← realFiles) arguments).run with
  | .ok _ => return 0
  | .error failure =>
      for report in Report.list failure do
        IO.eprintln (reportText report)
      return 1

end CommandLine

end BoxDiagram

/-- Reads the arguments and does what they ask for. -/
def main (arguments : List String) : IO UInt32 := do
  match BoxDiagram.Arguments.read arguments with
  | .ok read => BoxDiagram.CommandLine.execute read
  | .error .helpWanted =>
      IO.println BoxDiagram.CommandLine.usage
      return 0
  | .error .versionWanted =>
      IO.println "boxdiagram 0.1.0"
      return 0
  | .error error =>
      IO.eprintln s!"error: {error.name}\n\n{BoxDiagram.CommandLine.usage}"
      return 2
