import ApiAccessors.CommandLine.Commands
import ApiAccessors.Generator.Generate
import ApiAccessors.Logging

namespace ApiAccessors
namespace CommandLine

/-!
# Runs of the program

What the program prints and how it ends, for given arguments and a given environment.  The log of
the generator is printed as it is set up by the arguments; colours are only printed where they are
wanted.
-/

/-- How a run of the program ended. -/
structure Finish where
  exitCode : Nat
  output : String
  errors : String
  /-- A fault that nobody foresaw. -/
  raised : Option Fault
  machine : Machine

structure Surroundings where
  environment : List (String × String)
  hasColors : Bool
  machine : Machine

namespace Surroundings

/-- A variable of the environment; an empty one counts as not set. -/
def lookUp? (surroundings : Surroundings) (name : String) : Option String :=
  match surroundings.environment.lookup name with
  | some value => if value.isEmpty then none else some value
  | none => none

end Surroundings

/-- Whether a character may stand between the beginning and the end of a colour mark. -/
def isMarkChar (c : Char) : Bool := c.isDigit || c == ';' || c == '?'

/-- The text behind a colour mark, if one begins here. -/
def dropMark? : List Char → Option (List Char)
  | '\x1B' :: '[' :: rest =>
      match rest.dropWhile isMarkChar with
      | c :: behind => if c.isAlpha then some behind else none
      | [] => none
  | _ => none

/-- Leave out colour marks; `fuel` bounds the number of steps. -/
def dropMarks : Nat → List Char → List Char
  | 0, text => text
  | _ + 1, [] => []
  | fuel + 1, c :: rest =>
      match dropMark? (c :: rest) with
      | some behind => dropMarks fuel behind
      | none => c :: dropMarks fuel rest

def printed (hasColors : Bool) (text : String) : String :=
  if hasColors then text else String.ofList (dropMarks text.length text.toList)

/-- A text in the colour of file names. -/
def colored (text : String) : String := "\x1B[36m" ++ text ++ "\x1B[0m"

/-- End with a text that was asked for. -/
def finishWith (surroundings : Surroundings) (text : String) : Finish :=
  ⟨0, text, "", none, surroundings.machine⟩

/-- End because the arguments make no sense. -/
def refuse (surroundings : Surroundings) (command : Option Command) (problem : UsageProblem) :
    Finish :=
  let usage :=
    if problem.showsUsage then usageLine command ++ hintLine command ++ "\n" else ""
  let message := printed surroundings.hasColors ("Error: " ++ problem.message ++ "\n")
  ⟨2, "", usage ++ message, none, surroundings.machine⟩

/-- The values of flags as they may stand in the environment. -/
def truthWords : List (String × Bool) := [
  ("", false), ("0", false), ("1", true), ("f", false), ("false", false), ("n", false),
  ("no", false), ("off", false), ("on", true), ("t", true), ("true", true), ("y", true),
  ("yes", true)]

/-- The value of a flag in the environment. -/
def readFlag (switch : Switch) (value : String) : Except UsageProblem Bool :=
  let word := String.ofList (Text.lower (Text.trim value.toList))
  match truthWords.lookup word with
  | some value => .ok value
  | none =>
      .error (.invalidValue switch.hint
        (quoteText value ++ " is not a valid boolean. Recognized values: " ++
          ", ".intercalate (truthWords.map (·.1))))

/-- Check that a path is no file or no directory, where it must not be one. -/
def checkPath (machine : Machine) (switch : Switch) (mayBeFile mayBeDirectory : Bool)
    (value : String) : Except UsageProblem Unit :=
  let entry :=
    if value.isEmpty then none else machine.files.at? machine.home (FilePath.ofText value)
  match entry with
  | some (.file _) =>
      if mayBeFile then .ok ()
      else .error (.invalidValue switch.hint ("Directory " ++ quoteText value ++ " is a file."))
  | some .directory =>
      if mayBeDirectory then .ok ()
      else .error (.invalidValue switch.hint ("File " ++ quoteText value ++ " is a directory."))
  | _ => .ok ()

/-- The text that a switch has: from the arguments, from the environment, or by default. -/
def textOf (surroundings : Surroundings) (arguments : Arguments) (switch : Switch) :
    Option String :=
  match arguments.last? switch, switch.environment.bind surroundings.lookUp? with
  | some value, _ => some value
  | none, some value => some value
  | none, none => switch.missing

def flagOf (surroundings : Surroundings) (arguments : Arguments) (switch : Switch) :
    Except UsageProblem Bool :=
  if arguments.has switch then .ok true
  else
    match switch.environment.bind surroundings.lookUp? with
    | some value => readFlag switch value
    | none => .ok false

def checkSwitch (surroundings : Surroundings) (arguments : Arguments) (switch : Switch) :
    Except UsageProblem Unit :=
  match switch.kind with
  | .flag => (flagOf surroundings arguments switch).map (fun _ => ())
  | .path mayBeFile mayBeDirectory =>
      match textOf surroundings arguments switch with
      | some value => checkPath surroundings.machine switch mayBeFile mayBeDirectory value
      | none => .ok ()
  | _ => .ok ()

/-- Check the values of all switches, and that nothing is left of the arguments. -/
def checkArguments (surroundings : Surroundings) (arguments : Arguments)
    (switches : List Switch) : Except UsageProblem Unit := do
  let _ ← (arguments.order switches).mapM (checkSwitch surroundings arguments)
  if arguments.rest.isEmpty then pure () else throw (.extraArguments arguments.rest)

/-- Whether a flag is set, once the arguments have been checked. -/
def isSet (surroundings : Surroundings) (arguments : Arguments) (switch : Switch) : Bool :=
  match flagOf surroundings arguments switch with
  | .ok value => value
  | .error _ => false

/-- The settings that arguments and environment stand for. -/
def settings (surroundings : Surroundings) (arguments : Arguments) : Config :=
  let home : FilePath := ⟨1, surroundings.machine.home⟩
  let text := fun switch => textOf surroundings arguments switch
  let value := fun switch => Value.text ((text switch).getD "")
  let resolved := fun switch => (text switch).map (fun path => home.resolve (FilePath.ofText path))
  { schemaPath := resolved schemaSwitch
    outputDirectory := resolved outputSwitch
    runtimeImport := value runtimeSwitch
    apiPrefix := value apiPrefixSwitch
    baseUrl := value baseUrlSwitch
    tokenVariable := value tokenSwitch
    generateTypes := .bool (isSet surroundings arguments typesSwitch)
    typesPath := resolved typesOutputSwitch
    manifestPath := (text manifestSwitch).map FilePath.ofText }

def pathText (path : Option FilePath) : String := (path.map (·.text)).getD ""

/-- What is going to be done. -/
def banner (config : Config) : String :=
  let types :=
    if config.generateTypes.truthy then
      match config.typesTarget with
      | .ok path => ["Types Output: " ++ path.text]
      | .error _ => []
    else []
  let shownPrefix :=
    if config.apiPrefix.truthy then ["API Prefix: " ++ config.apiPrefix.display] else []
  "\n".intercalate ([
    "Schema: " ++ pathText config.schemaPath,
    "Output: " ++ pathText config.outputDirectory,
    "Runtime: " ++ config.runtimeImport.display,
    "Types: " ++ (if config.generateTypes.truthy then "Yes" else "No")] ++ types ++ shownPrefix)

/-- The mark in front of a branch of the tree. -/
def branch (isLast : Bool) : String := if isLast then "└──" else "├──"

def operationLines (isLastModule : Bool) : List Value → List String
  | [] => []
  | operation :: rest =>
      ((if isLastModule then "    " else "│   ") ++ branch rest.isEmpty ++ " " ++
        (Slot.ofField "name" operation).print) :: operationLines isLastModule rest

/-- The items of a field that is a list. -/
def itemsOf (name : String) (record : Value) : List Value :=
  match Slot.ofField name record with
  | some (.list items) => items
  | _ => []

/-- The lines of modules and their operations. -/
def treeLines : List Value → List String
  | [] => []
  | summary :: rest =>
      (branch rest.isEmpty ++ " " ++ colored (Slot.ofField "file_name" summary).print) ::
        operationLines rest.isEmpty (itemsOf "methods" summary) ++ treeLines rest

/-- End with a problem that the generator foresaw. -/
def problemText (hasColors : Bool) (message : String) : String :=
  printed hasColors ("Error: " ++ message ++ "\n")

def printLines (hasColors : Bool) (lines : List String) : String :=
  String.join (lines.map (fun line => printed hasColors (line ++ "\n")))

def generateWith (surroundings : Surroundings) (verbose quiet : Bool) (config : Config) : Finish :=
  let hasColors := surroundings.hasColors
  let machine := surroundings.machine
  let schema := config.schemaPath.getD ⟨0, []⟩
  if (machine.files.at? machine.home schema).isNone then
    ⟨1, "", problemText hasColors ("Schema file not found at: " ++ schema.text), none, machine⟩
  else
    let opening := if quiet then "" else printLines hasColors [banner config, ""]
    let (result, machine) := (Generator.generate config).run.run machine
    let log := Logging.printAll (Logging.configure verbose quiet Logging.initial) machine.log
    match result with
    | .ok summaries =>
        let heading := "Generated " ++ toString summaries.length ++ " modules:"
        ⟨0, opening ++ printLines hasColors (heading :: treeLines summaries), log, none, machine⟩
    | .error (.fault cause) => ⟨1, opening, log, some cause, machine⟩
    | .error problem =>
        ⟨1, opening, log ++ problemText hasColors (problem.message?.getD ""), none, machine⟩

def runCommand (surroundings : Surroundings) (command : Command) (words : List String) : Finish :=
  match readArguments command.switches false words with
  | .error problem => refuse surroundings (some command) problem
  | .ok arguments =>
      match arguments.request? with
      | some _ => finishWith surroundings (commandHelp command)
      | none =>
          match checkArguments surroundings arguments command.switches, command with
          | .error problem, _ => refuse surroundings (some command) problem
          | .ok (), .start => finishWith surroundings startText
          | .ok (), .generate =>
              generateWith surroundings (isSet surroundings arguments verboseSwitch)
                (isSet surroundings arguments quietSwitch) (settings surroundings arguments)

def requestedText (switch : Switch) : String :=
  if switch.long == versionSwitch.long then versionText else programHelp

def looksLikeSwitch (name : String) : Bool :=
  match name.toList with
  | [] => false
  | first :: _ => !Text.isWord first || first == '_'

/-- What becomes of a name that is no command; what looks like a switch is read as one first. -/
def refuseCommand (surroundings : Surroundings) (name : String) (words : List String) : Finish :=
  let unknown := refuse surroundings none
    (.noSuchCommand name (Text.Resemblance.closest name (Command.all.map Command.name)))
  if looksLikeSwitch name then
    match readArguments programSwitches true words with
    | .error problem => refuse surroundings none problem
    | .ok arguments =>
        match arguments.request? with
        | some switch => finishWith surroundings (requestedText switch)
        | none => unknown
  else unknown

/-- Run the program with its arguments. -/
def run (surroundings : Surroundings) (words : List String) : Finish :=
  if words.isEmpty then ⟨2, "", programHelp, none, surroundings.machine⟩
  else
    match readArguments programSwitches true words with
    | .error problem => refuse surroundings none problem
    | .ok arguments =>
        match arguments.request?, arguments.rest with
        | some switch, _ => finishWith surroundings (requestedText switch)
        | none, [] => refuse surroundings none .missingCommand
        | none, name :: rest =>
            match Command.ofName? name with
            | some command => runCommand surroundings command rest
            | none => refuseCommand surroundings name (name :: rest)

end CommandLine
end ApiAccessors
