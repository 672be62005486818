namespace ApiAccessors

/-!
# Faults

What can go wrong with values whose shape nobody has checked.  Documents, template records and
request arguments come from outside; an operation that they do not fit stops with one of these
causes.
-/

/-- Why the system refuses something whatever the files are. -/
inductive Refusal where
  | nameTooLong
  | denied
  /-- The device failed. -/
  | brokenDevice
deriving DecidableEq, Repr

/-- Why a file operation could not be done. -/
inductive FileFault where
  /-- Something stands already where a new entry is to be made. -/
  | occupied
  | notFound
  /-- A file stands where a directory is needed. -/
  | notADirectory
  /-- A directory stands where a file is needed. -/
  | isADirectory
  /-- Links lead on and on. -/
  | tooManyLinks
  | refused (cause : Refusal)
deriving DecidableEq, Repr

/-- Why a text is no label of a host name. -/
inductive LabelFault where
  /-- The text as a whole has not the form of a label. -/
  | form
  /-- A character that no label contains. -/
  | character
  /-- A character that its neighbours do not allow. -/
  | place
  /-- Letters of different directions that cannot stand together. -/
  | direction
deriving DecidableEq, Repr

/-- Why an operation on unchecked input stopped. -/
inductive Fault where
  /-- The value does not have the named operation, as when a list is asked for a field. -/
  | noSuchOperation
  /-- The value is of a kind that the operation does not take. -/
  | wrongKind
  /-- A required entry is missing. -/
  | missingEntry
  /-- A position outside the value was asked for. -/
  | missingPosition
  /-- The value is of the right kind, but has no meaning there. -/
  | badValue
  /-- A number beyond all numbers that are used there. -/
  | tooLarge
  /-- What was to be looked up leads back to itself and never ends. -/
  | endless
  /-- Values inside each other, more of them than are followed. -/
  | tooDeep
  /-- A name that was never given was used as if it had been. -/
  | undefinedName
  /-- Bytes that are no text. -/
  | undecodable
  /-- Bytes that do not begin with the mark that their encoding needs. -/
  | noMark
  /-- A text that has no bytes in the required encoding. -/
  | unencodable
  /-- Half of a surrogate pair without the other half, which no text here can hold. -/
  | unpaired
  /-- A reply that claims to be a document and is none. -/
  | unreadableReply
  /-- An address that no request can be sent to. -/
  | badAddress
  /-- An address whose host is no name. -/
  | badHost (fault : LabelFault)
  /-- The client was closed before. -/
  | closedClient
  | file (fault : FileFault)
deriving DecidableEq, Repr

/-- Whether an operation stopped because of what its input was, a value of the right kind. -/
def Fault.liesInValue : Fault → Bool
  | .badValue | .undecodable | .noMark | .unencodable | .unreadableReply | .badHost _ => true
  | _ => false

end ApiAccessors
