import ApiAccessors.Fault
import ApiAccessors.Text.Split

namespace ApiAccessors

/-!
# Log entries

What a computation reports on its way.  A computation that can stop and that reports keeps what it
has reported up to where it stopped.
-/

/-- How much an entry matters. -/
inductive Level where
  | debug
  | info
  | warning
  | error
  | critical
deriving DecidableEq, Repr

namespace Level

def number : Level → Int
  | .debug => 10
  | .info => 20
  | .warning => 30
  | .error => 40
  | .critical => 50

def name : Level → String
  | .debug => "DEBUG"
  | .info => "INFO"
  | .warning => "WARNING"
  | .error => "ERROR"
  | .critical => "CRITICAL"

/-- The name in front of messages. -/
def tag : Level → String
  | .debug => "debug"
  | .info => "info"
  | .warning => "warning"
  | .error => "error"
  | .critical => "critical"

end Level

/-- A message with the name of the logger that it was given to. -/
structure LogEntry where
  level : Level
  logger : String
  message : String
deriving DecidableEq, Repr

/-- A computation that reports. -/
abbrev Logged := ExceptT Fault (StateM (List LogEntry))

namespace Logged

/-- Stop where a part stops. -/
def lift {α : Type} : Except Fault α → Logged α
  | .ok value => pure value
  | .error fault => throw fault

def report (level : Level) (logger message : String) : Logged Unit :=
  modify (· ++ [⟨level, logger, message⟩])

/-- The result of a computation that starts with an empty log, and its log. -/
def runLog {α : Type} (computation : Logged α) : Except Fault α × List LogEntry :=
  computation.run.run []

end Logged
end ApiAccessors
