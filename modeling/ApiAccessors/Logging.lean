import ApiAccessors.Log
import ApiAccessors.Table

namespace ApiAccessors
namespace Logging

/-!
# Loggers

Names of loggers have parts with dots between them, and a logger is below those whose names its own
name continues.  An entry is seen by the handlers of its logger and, as long as no logger keeps its
entries for itself, by those of the loggers above.  Loggers are registered when they are asked for,
and a new one has neither a level nor a handler.

All loggers of a program are below a single one, which is the only one that is ever set up.  The
first call gives it a handler, and every further call changes the level.  Before that, warnings and
worse are printed as they are; the handler puts their level in front of them as a tag.
-/

/-- A logger.  Its handlers differ in their levels only, as all of them print to the same place. -/
structure Logger where
  /-- The least level of its entries, if it has one of its own. -/
  level : Option Int
  /-- The least levels that its handlers print. -/
  handlers : List Int
  /-- Whether handlers of the loggers above see its entries. -/
  propagates : Bool
deriving DecidableEq, Repr

/-- A logger that is not set up. -/
def Logger.fresh : Logger := ⟨none, [], true⟩

/-- The registered loggers with their names. -/
abbrev Loggers := List (String × Logger)

def initial : Loggers := []

/-- The logger of a name; it is a fresh one if the name is not registered. -/
def named (name : String) (loggers : Loggers) : Logger := (loggers.lookup name).getD .fresh

/-- The logger that all others are below. -/
def rootLogger : String := "resourcegen"

/-- The full name of a logger: only the last part of the given name counts. -/
def loggerName : Option String → String
  | none => rootLogger
  | some name =>
      if name = rootLogger then rootLogger
      else rootLogger ++ "." ++ String.ofList (Text.afterLast '.' name.toList)

/-- What stands before the dots of a name that is read from its end; a dot right before one of them
is passed over. -/
def beforeDots : List Char → List (List Char)
  | [] => []
  | '.' :: c :: rest => (c :: rest) :: beforeDots rest
  | _ :: rest => beforeDots rest

/-- The names above a name, the nearest first. -/
def above (name : String) : List String :=
  (beforeDots name.toList.reverse).map (fun before => String.ofList before.reverse)

/-- Ask for a logger, which is then registered. -/
def getLogger (name : Option String) (loggers : Loggers) : String × Loggers :=
  let full := loggerName name
  (full, Table.put full (named full loggers) loggers)

/-- The level that the options ask for; being verbose counts before being quiet. -/
def chosenLevel (verbose quiet : Bool) : Level :=
  if verbose then .debug else if quiet then .warning else .info

/-- Set up the logger above all others, or change its level. -/
def configure (verbose quiet : Bool) (loggers : Loggers) : Loggers :=
  let level := (chosenLevel verbose quiet).number
  let root := { named rootLogger loggers with level := some level }
  let configured :=
    match root.handlers with
    | [] => { root with handlers := [level], propagates := false }
    | handlers => { root with handlers := handlers.map (fun _ => level) }
  Table.put rootLogger configured loggers

/-- What entries of a level are tagged with; a level between the usual ones is told by number. -/
def tagOf (level : Int) : String :=
  match [Level.debug, .info, .warning, .error, .critical].find? (·.number == level) with
  | some usual => usual.tag
  | none => "level " ++ toString level

/-- A printed line: a tag from warnings on. -/
def line (level : Int) (message : String) : String :=
  (if level < Level.warning.number then "" else "[" ++ tagOf level ++ "] ") ++ message ++ "\n"

/-- The registered loggers that see an entry if none is kept: the one of the name and those above
it. -/
def chain (loggers : Loggers) (name : String) : List Logger :=
  (name :: above name).filterMap (fun name => loggers.lookup name)

/-- The level of the first logger that has one; entries that get past all of them have to be
warnings. -/
def effectiveLevel : List Logger → Int
  | [] => Level.warning.number
  | logger :: above => logger.level.getD (effectiveLevel above)

/-- The handlers of a logger and, if it does not keep its entries, of the loggers above it. -/
def handlersOf : List Logger → List Int
  | [] => []
  | logger :: above => logger.handlers ++ if logger.propagates then handlersOf above else []

/-- What is printed of an entry, a text for each handler that prints it.  Warnings are printed also
if there is no handler at all. -/
def written (loggers : Loggers) (name : String) (level : Int) (message : String) : List String :=
  let seenBy := chain loggers name
  if level < effectiveLevel seenBy then []
  else
    match handlersOf seenBy with
    | [] => if level < Level.warning.number then [] else [message ++ "\n"]
    | handlers => (handlers.filter (fun least => least ≤ level)).map (fun _ => line level message)

def printAll (loggers : Loggers) (log : List LogEntry) : String :=
  String.join (log.flatMap (fun entry =>
    written loggers entry.logger entry.level.number entry.message))

end Logging
end ApiAccessors
