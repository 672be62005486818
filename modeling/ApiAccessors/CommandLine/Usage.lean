import ApiAccessors.Document.Display
import ApiAccessors.Text.Resemblance
import ApiAccessors.Text.Split

namespace ApiAccessors
namespace CommandLine

/-!
# Reading arguments

How the arguments of a command are read.  A switch has a long name and perhaps a short one; it takes
a value or is a flag.  Short flags may be written together, and a value may stand in the argument of
its switch or in the next one.  What the reader refuses is a usage problem, with a wording of its
own.
-/

inductive SwitchKind where
  | flag
  /-- A flag that is not a setting but asks for a text, before all else is looked at. -/
  | request
  | text
  | path (mayBeFile mayBeDirectory : Bool)
deriving DecidableEq, Repr

structure Switch where
  long : String
  short : Option Char
  kind : SwitchKind
  /-- The environment variable that gives the value where the arguments do not. -/
  environment : Option String
  missing : Option String
deriving Repr

namespace Switch

def longName (switch : Switch) : String := "--" ++ switch.long

def shortName (letter : Char) : String := String.ofList ['-', letter]

def takesValue (switch : Switch) : Bool :=
  match switch.kind with
  | .flag => false
  | .request => false
  | _ => true

/-- The names of a switch, as problems with it show them. -/
def hint (switch : Switch) : String :=
  let names :=
    match switch.short with
    | some letter => [shortName letter, switch.longName]
    | none => [switch.longName]
  " / ".intercalate (names.map (fun name => "'" ++ name ++ "'"))

end Switch

/-- Why arguments make no sense. -/
inductive UsageProblem where
  | needsArgument (name : String)
  | takesNoValue (name : String)
  | noSuchOption (name : String) (suggestions : List String)
  | noSuchCommand (name : String) (suggestions : List String)
  | missingCommand
  | extraArguments (arguments : List String)
  | invalidValue (hint detail : String)
deriving DecidableEq, Repr

namespace UsageProblem

/-- What is said of names that resemble the one that was given. -/
def suggestionText (suggestions : List String) : String :=
  match suggestions with
  | [] => ""
  | [name] => " Did you mean " ++ quoteText name ++ "?"
  | names => " (Did you mean one of: " ++ ", ".intercalate (names.map quoteText) ++ "?)"

def message : UsageProblem → String
  | .needsArgument name => "Option " ++ quoteText name ++ " requires an argument."
  | .takesNoValue name => "Option " ++ quoteText name ++ " does not take a value."
  | .noSuchOption name suggestions =>
      "No such option " ++ quoteText name ++ "." ++ suggestionText suggestions
  | .noSuchCommand name suggestions =>
      "No such command " ++ quoteText name ++ "." ++ suggestionText suggestions
  | .missingCommand => "Missing command."
  | .extraArguments arguments =>
      "Got unexpected extra argument" ++ (if arguments.length = 1 then "" else "s") ++ " (" ++
        " ".intercalate arguments ++ ")"
  | .invalidValue hint detail => "Invalid value for " ++ hint ++ ": " ++ detail

def showsUsage : UsageProblem → Bool
  | .needsArgument _ => false
  | .takesNoValue _ => false
  | _ => true

end UsageProblem

/-- A switch that was given, and its value if it takes one. -/
structure Given where
  switch : Switch
  value : Option String

/-- Arguments that have been read: the switches in order, and what is left. -/
structure Arguments where
  given : List Given
  rest : List String

/-- What an argument says: switches, and perhaps one whose value is the next argument. -/
structure Reading where
  given : List Given
  pending : Option (String × Switch)

/-- Read an argument that begins with a dash as the long name of a switch, if it is one. -/
def readLong (switches : List Switch) (argument : String) :
    Option (Except UsageProblem Reading) :=
  let (name, value) := Text.cutFirst '=' argument.toList
  let name := String.ofList name
  match switches.find? (fun switch => switch.longName == name) with
  | none => none
  | some switch =>
      some
        (match switch.takesValue, value with
          | true, some value => .ok ⟨[⟨switch, some (String.ofList value)⟩], none⟩
          | true, none => .ok ⟨[], some (name, switch)⟩
          | false, some _ => .error (.takesNoValue name)
          | false, none => .ok ⟨[⟨switch, none⟩], none⟩)

/-- Read letters as the short names of switches; the value of one may follow its letter. -/
def readShort (switches : List Switch) : List Char → Except UsageProblem Reading
  | [] => .ok ⟨[], none⟩
  | letter :: rest =>
      let name := Switch.shortName letter
      match switches.find? (fun switch => switch.short == some letter) with
      | none => .error (.noSuchOption name [])
      | some switch =>
          if switch.takesValue then
            if rest.isEmpty then .ok ⟨[], some (name, switch)⟩
            else .ok ⟨[⟨switch, some (String.ofList rest)⟩], none⟩
          else do
            let others ← readShort switches rest
            pure { others with given := ⟨switch, none⟩ :: others.given }

/-- Read an argument that begins with a dash. -/
def readSwitch (switches : List Switch) (argument : String) : Except UsageProblem Reading :=
  match readLong switches argument with
  | some reading => reading
  | none =>
      match argument.toList with
      | '-' :: '-' :: _ =>
          let name := String.ofList (Text.cutFirst '=' argument.toList).1
          .error (.noSuchOption name
            (Text.Resemblance.closest name (switches.map Switch.longName)))
      | _ => readShort switches (argument.toList.drop 1)

/-- Whether an argument is read as a switch. -/
def isSwitch (argument : String) : Bool :=
  argument.toList.head? == some '-' && argument.length != 1

/-- Read arguments; a command that has commands of its own stops at the first other argument. -/
def readArguments (switches : List Switch) (stopsEarly : Bool) :
    List String → Except UsageProblem Arguments
  | [] => .ok ⟨[], []⟩
  | argument :: rest =>
      if argument = "--" then .ok ⟨[], rest⟩
      else if isSwitch argument then
        match readSwitch switches argument with
        | .error problem => .error problem
        | .ok reading =>
            match reading.pending with
            | none => do
                let others ← readArguments switches stopsEarly rest
                pure { others with given := reading.given ++ others.given }
            | some (name, switch) =>
                match rest with
                | [] => .error (.needsArgument name)
                | value :: more => do
                    let others ← readArguments switches stopsEarly more
                    pure { others with
                      given := reading.given ++ ⟨switch, some value⟩ :: others.given }
      else if stopsEarly then .ok ⟨[], argument :: rest⟩
      else do
        let others ← readArguments switches stopsEarly rest
        pure { others with rest := argument :: others.rest }

namespace Arguments

/-- Whether a switch was given. -/
def has (arguments : Arguments) (switch : Switch) : Bool :=
  arguments.given.any (fun given => given.switch.long == switch.long)

/-- The value of a switch; the last one counts. -/
def last? (arguments : Arguments) (switch : Switch) : Option String :=
  ((arguments.given.filter (fun given => given.switch.long == switch.long)).getLast?).bind
    (·.value)

/-- The order in which switches are looked at: those that were given, and then the others. -/
def order (arguments : Arguments) (switches : List Switch) : List Switch :=
  let given := (arguments.given.map (·.switch.long)).eraseDups
  given.filterMap (fun name => switches.find? (fun switch => switch.long == name)) ++
    switches.filter (fun switch => !given.contains switch.long)

/-- The first of the given switches that asks for a text. -/
def request? (arguments : Arguments) : Option Switch :=
  (arguments.given.find? (fun given => given.switch.kind = .request)).map (·.switch)

end Arguments
end CommandLine
end ApiAccessors
