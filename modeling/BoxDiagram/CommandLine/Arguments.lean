import BoxDiagram.Config.Basic

namespace BoxDiagram

/-!
# Arguments of the command line

A command line names one input, and sets options in any order around it. A long
option takes its value after an equals sign or as the next argument, a short one
also right behind its letter. After two hyphens alone every argument is an input.
An option is done, and its value looked at, when the next argument is met.
-/

/-- What is wrong with a command line, or what it asks for instead of a run. -/
inductive UsageError where
  | unknownArgument
  | invalidValue
  | tooManyValues
  | repeatedArgument
  | missingInput
  | helpWanted
  | versionWanted
  deriving Repr, DecidableEq

/-- The name under which a usage error is documented. -/
def UsageError.name : UsageError → String
  | .unknownArgument => "UnknownArgument"
  | .invalidValue => "InvalidValue"
  | .tooManyValues => "TooManyValues"
  | .repeatedArgument => "ArgumentConflict"
  | .missingInput => "MissingRequiredArgument"
  | .helpWanted => "DisplayHelp"
  | .versionWanted => "DisplayVersion"

/-- What a command line asks for. -/
structure Arguments where
  input : String
  output : Option String
  config : Option String
  logLevel : Option String
  planner : Option PlannerKind
  pretty : Bool
  deriving Repr, DecidableEq

namespace Arguments

/-- An option that takes a value. -/
inductive Setting where
  | output
  | config
  | logLevel
  | planner
  deriving Repr, DecidableEq

/-- An option without a value. -/
inductive Switch where
  | pretty
  | help
  | version
  deriving Repr, DecidableEq

/-- An option. -/
inductive Choice where
  | setting (setting : Setting)
  | switch (switch : Switch)
  deriving Repr, DecidableEq

/-- The choice of a long name. -/
def Choice.ofLongName? : String → Option Choice
  | "output" => some (.setting .output)
  | "config" => some (.setting .config)
  | "log-level" => some (.setting .logLevel)
  | "planner" => some (.setting .planner)
  | "pretty" => some (.switch .pretty)
  | "help" => some (.switch .help)
  | "version" => some (.switch .version)
  | _ => none

/-- The choice of a letter. -/
def Choice.ofLetter? : Char → Option Choice
  | 'o' => some (.setting .output)
  | 'c' => some (.setting .config)
  | 'h' => some (.switch .help)
  | 'V' => some (.switch .version)
  | _ => none

/-- An option that is not done yet, with its value once it is known. -/
structure Pending where
  setting : Setting
  value : Option String
  deriving Repr, DecidableEq

/-- What the arguments so far have set. -/
structure Progress where
  input : Option String := none
  output : Option String := none
  config : Option String := none
  logLevel : Option String := none
  planner : Option PlannerKind := none
  pretty : Bool := false
  pending : Option Pending := none
  /-- Two hyphens alone were met. -/
  inputsOnly : Bool := false
  deriving Repr, DecidableEq

namespace Progress

/-- A value that is set for the first time. -/
def once {β : Type} (old : Option β) (new : β) : Except UsageError (Option β) :=
  if old.isSome then .error .repeatedArgument else .ok (some new)

/-- Takes a value for a setting, once. -/
def set (progress : Progress) (setting : Setting) (value : String) :
    Except UsageError Progress := do
  match setting with
  | .output => return { progress with output := ← once progress.output value }
  | .config => return { progress with config := ← once progress.config value }
  | .logLevel => return { progress with logLevel := ← once progress.logLevel value }
  | .planner =>
      if progress.planner.isSome then throw .repeatedArgument
      match PlannerKind.ofName? value with
      | some kind => return { progress with planner := some kind }
      | none => throw .invalidValue

/-- The progress with the last option done. -/
def settle (progress : Progress) : Except UsageError Progress :=
  match progress.pending with
  | none => .ok progress
  | some { setting, value := some value } => { progress with pending := none }.set setting value
  | some { setting := _, value := none } => .error .invalidValue

/-- Takes a switch, once; some switches end the reading. -/
def flip (progress : Progress) (switch : Switch) : Except UsageError Progress := do
  let progress ← progress.settle
  match switch with
  | .help => throw .helpWanted
  | .version => throw .versionWanted
  | .pretty =>
      if progress.pretty then throw .repeatedArgument
      return { progress with pretty := true }

/-- An option with its value, or one that waits for its value. -/
def choose (progress : Progress) (setting : Setting) (value : Option String) :
    Except UsageError Progress := do
  let progress ← progress.settle
  match value with
  | some value => progress.set setting value
  | none => return { progress with pending := some ⟨setting, none⟩ }

/-- An option by its long name, with the value after its equals sign. -/
def long (progress : Progress) (name : String) (value : Option String) :
    Except UsageError Progress :=
  match Choice.ofLongName? name, value with
  | some (.setting setting), value => progress.choose setting value
  | some (.switch switch), none => progress.flip switch
  | some (.switch _), some _ => .error .tooManyValues
  | none, _ => .error .unknownArgument

/-- An option by its letter, with the text behind the letter. -/
def short (progress : Progress) (letter : Char) (rest : List Char) :
    Except UsageError Progress :=
  match Choice.ofLetter? letter, rest with
  | some (.setting setting), [] => progress.choose setting none
  | some (.setting setting), '=' :: value => progress.choose setting (some (String.ofList value))
  | some (.setting setting), value => progress.choose setting (some (String.ofList value))
  | some (.switch switch), _ => progress.flip switch
  | none, _ => .error .unknownArgument

/-- An argument that is no option: the value of the last option, or the input. -/
def plain (progress : Progress) (argument : String) : Except UsageError Progress := do
  match progress.pending, progress.inputsOnly with
  | some { setting, value := none }, false =>
      return { progress with pending := some ⟨setting, some argument⟩ }
  | _, _ =>
      if progress.input.isSome then throw .unknownArgument
      let progress ← progress.settle
      return { progress with input := some argument }

/-- The name and the value around the first equals sign of a text. -/
def splitValue (text : List Char) : String × Option String :=
  let name := String.ofList (text.takeWhile (· != '='))
  match text.dropWhile (· != '=') with
  | _ :: value => (name, some (String.ofList value))
  | [] => (name, none)

/-- Takes one argument. -/
def take (progress : Progress) (argument : String) : Except UsageError Progress :=
  if progress.inputsOnly then progress.plain argument
  else
    match argument.toList with
    | ['-', '-'] => .ok { progress with inputsOnly := true }
    | '-' :: '-' :: rest =>
        let (name, value) := splitValue rest
        progress.long name value
    | '-' :: letter :: rest => progress.short letter rest
    | _ => progress.plain argument

/-- What the command line asks for when all arguments were met. -/
def finish (progress : Progress) : Except UsageError Arguments := do
  let progress ← progress.settle
  match progress.input with
  | none => throw .missingInput
  | some input =>
      return {
        input
        output := progress.output
        config := progress.config
        logLevel := progress.logLevel
        planner := progress.planner
        pretty := progress.pretty }

end Progress

/-- What a list of arguments asks for. -/
def read (arguments : List String) : Except UsageError Arguments := do
  (← arguments.foldlM Progress.take {}).finish

end Arguments

end BoxDiagram
