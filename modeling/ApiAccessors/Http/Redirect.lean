import ApiAccessors.Http.Address
import ApiAccessors.Http.Reply

namespace ApiAccessors
namespace Redirect

/-!
# Redirects

A reply may name another place to go to.  Nobody goes there, but the place is looked up all the
same: an address that cannot be read spoils the reply.
-/

/-- Why the place of a redirect is none. -/
inductive Problem where
  | unreadable (fault : AddressFault)
  | fault (cause : Fault)

/-- The statuses that name another place. -/
def statuses : List Int := [301, 302, 303, 307, 308]

/-- The other place that a reply names. -/
def location? (reply : Reply) : Option String :=
  if statuses.contains reply.status then reply.headers.get? "Location" else none

/-- Look up a place, which is on the host of the request if it names none. -/
def lookUp (request : Address) (location : List Char) : Except Problem Unit := do
  let place ← (Address.read location).mapError Problem.unreadable
  let host := if place.host.isEmpty then request.host else place.host
  (Label.checkName host).mapError (fun fault => .fault (.badHost fault))
  if !place.scheme.isEmpty && place.host.isEmpty then
    (Address.checkPath true true place.path).mapError (fun _ => .fault .badAddress)

/-- Check the place that a reply names, if it names one. -/
def check (request : Address) (reply : Reply) : Except Problem Unit :=
  match location? reply with
  | some location => lookUp request location.toList
  | none => .ok ()

/-- What is said of a place that cannot be read. -/
def complaint (fault : AddressFault) : String :=
  "Invalid URL in location header: " ++ fault.message ++ "."

end Redirect
end ApiAccessors
