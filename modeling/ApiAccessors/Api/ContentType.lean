import ApiAccessors.Api.Resource

namespace ApiAccessors
namespace ContentType

/-!
# Content types

The one content type that an operation is called with.  What the body of the request may be counts
before what a successful response may be.  Patches are merged where that is offered, collections
are read with links where that is offered, and everything else prefers plain notation.
-/

def json : String := "application/json"

def linked : String := "application/ld+json"

def mergePatch : String := "application/merge-patch+json"

def isDeclared (declared : List Value) (name : String) : Bool :=
  declared.any (fun type => type.sameKey (.text name))

def preferred? (declared : List Value) (preferred : List String) : Option Value :=
  (preferred.find? (isDeclared declared)).map .text

/-- The first preferred type that is declared, or else the first declared one. -/
def choose (declared : List Value) (preferred : List String) : Value :=
  match preferred? declared preferred, declared with
  | some type, _ => type
  | none, first :: _ => first
  | none, [] => .text json

/-- The types that a request body or a response declares. -/
def declaredIn (part : Value) : Except Fault (List Value) := do
  let content ← part.fieldOrEmpty "content"
  content.elements

/-- The response to a request that succeeded; the status may be written as a number. -/
def success (operation : Value) : Except Fault Value := do
  match (← operation.fieldOrEmpty "responses").entries? with
  | some responses =>
      pure (Value.orElse (Entries.field? responses "200")
        (Value.orElse (Entries.get? responses (.int 200)) .empty))
  | none => .error .noSuchOperation

/-- The type of an operation that may have any body and responses. -/
def ofOperation (path method : String) (operation : Value) : Except Fault Value := do
  let requested ← declaredIn (← operation.fieldOrEmpty "requestBody")
  if !requested.isEmpty then
    if method = "patch" && isDeclared requested mergePatch then pure (.text mergePatch)
    else pure (choose requested [json, linked])
  else
    let answered ← declaredIn (← success operation)
    if method = "get" && Path.isCollection path then pure (choose answered [linked, json])
    else pure (choose answered [json, linked])

/-- The type of the operation that a document has for a path and a method. -/
def of (spec : Value) (path method : String) : Except Fault Value := do
  let item ← Resource.pathItem spec path
  let operation ← item.field method
  match operation.entries? with
  | some _ => ofOperation path method operation
  | none => pure (.text json)

end ContentType
end ApiAccessors
