import ApiAccessors.Http.ContentCoding
import ApiAccessors.Http.CookieJar
import ApiAccessors.Http.Query
import ApiAccessors.Http.Redirect
import ApiAccessors.Text.Base64

namespace ApiAccessors

/-!
# Sessions

A library that sends messages.  It makes a request for an address out of a message, signs it in
where the address names a user, and keeps cookies from one request to the next.  The transport is
not part of it: what comes back is given.
-/

structure Request where
  method : String
  address : Address
  headers : Headers
  body : List UInt8
deriving Repr

/-- What comes back from a request. -/
inductive Outcome where
  | reply (value : Reply)
  | failure (message : String)
  /-- The transport itself stopped. -/
  | broken (cause : Fault)

structure Session where
  /-- How many collections inside each other are read in a reply. -/
  room : Nat
  base : Address
  headers : Headers
  isClosed : Bool
  cookies : CookieJar
  /-- The time, in seconds from the beginning of 1970. -/
  now : Int
  /-- The request that was sent last. -/
  sent : Option Request

abbrev Sending := ExceptT Trouble (StateM Session)

namespace Sending

def stop {α : Type} (cause : Fault) : Sending α := throw (.broken cause)

/-- Stop where a computation stops. -/
def lift {α : Type} : Except Fault α → Sending α
  | .ok value => pure value
  | .error cause => stop cause

end Sending

namespace Session

/-- The headers that are sent where nothing else is said. -/
def usualHeaders : Headers := [("Accept", "*/*")]

/-- Stop where a text is no address. -/
def refuseAddress (address : Except AddressFault Address) : Except Fault Address :=
  address.mapError (fun _ => .badAddress)

/-- A session for an address, with headers for all its requests. -/
def make (room : Nat) (now : Int) (baseUrl headers : Value) : Except Fault Session := do
  let address ←
    match baseUrl with
    | .text url => refuseAddress (Address.read url.toList)
    | _ => throw .wrongKind
  let headers ← Headers.ofValue headers
  let base ← refuseAddress address.asBase
  pure {
    room, base, now
    headers := usualHeaders.replaceBy headers
    isClosed := false
    cookies := []
    sent := none }

def close (session : Session) : Session := { session with isClosed := true }

inductive Body where
  | none
  | bytes (content : List UInt8)
  /-- A row of parts, of which there is none that can be sent. -/
  | parts (isEmpty : Bool)

/-- The body that content makes. -/
def bodyOf : Value → Except Fault Body
  | .null => .ok .none
  | .text text => .ok (.bytes (Text.Utf8.encode text.toList))
  | .bytes bytes => .ok (.bytes bytes)
  | .list items => .ok (.parts items.isEmpty)
  | .tuple items => .ok (.parts items.isEmpty)
  | .set members => .ok (.parts members.isEmpty)
  | _ => .error .wrongKind

def bodyHeaders : Body → Headers
  | .none => []
  | .bytes content =>
      if content.isEmpty then [] else [("Content-Length", toString content.length)]
  | .parts _ => [("Transfer-Encoding", "chunked")]

/-- The methods that always say how long their body is. -/
def bodyMethods : List String := ["POST", "PUT", "PATCH"]

/-- Add a header of the body; the length of a body rules out that it is sent in parts. -/
def addBodyHeader (headers : Headers) (header : String × String) : Headers :=
  if Headers.sameName header.1 "Transfer-Encoding" && headers.has "Content-Length" then headers
  else headers.addMissing header.1 header.2

def sentHeaders (headers : Headers) (method : String) (address : Address) (body : Body) :
    Headers :=
  let described := (bodyHeaders body).foldl addBodyHeader headers
  let isDescribed := described.has "Content-Length" || described.has "Transfer-Encoding"
  let hosted :=
    if address.host.isEmpty || described.has "Host" then []
    else [("Host", String.ofList address.place)]
  let sized :=
    if !isDescribed && bodyMethods.contains method then [("Content-Length", "0")] else []
  hosted ++ sized ++ described

/-- Sign in as the user that the address names. -/
def addCredentials (headers : Headers) (address : Address) : Headers :=
  match address.credentials with
  | some (user, password) =>
      let bytes := Text.Utf8.encode (user ++ ':' :: password)
      headers.setHeader "Authorization" ("Basic " ++ String.ofList (Text.Base64.encode bytes))
  | none => headers

/-- Add the cookies that go with a request; the kind of its address must be known for that. -/
def addCookies (session : Session) (address : Address) (headers : Headers) :
    Except Fault Headers :=
  if session.cookies.cookies.isEmpty then .ok headers
  else if address.hasKind then
    match session.cookies.header? session.now (CookieSite.ofAddress address) with
    | some value => .ok (headers.addMissing "Cookie" value)
    | none => .ok headers
  else .error .badValue

/-- Check the name of a host, which need not be one where another host is given. -/
def checkHost (headers : Headers) (address : Address) : Except Fault Unit :=
  if headers.has "Host" then .ok ()
  else (Label.checkName address.host).mapError Fault.badHost

/-- The request for a message, together with the body that it will have. -/
def requestOf (session : Session) (message : Message) : Except Fault (Request × Body) := do
  let below ← refuseAddress (do session.base.below (← Address.read message.path.toList))
  let own ← Headers.ofPairs message.headers
  let address ← refuseAddress (below.withQuery (Query.write message.query))
  let given ← session.addCookies address (session.headers.replaceBy own)
  let body ← bodyOf message.content
  checkHost given address
  let headers := sentHeaders given message.method address body
  let bytes :=
    match body with
    | .bytes content => content
    | _ => []
  pure (⟨message.method, address, addCredentials headers address, bytes⟩, body)

/-- Keep the cookies of a reply; the kind of the address must be known for that. -/
def keepCookies (address : Address) (reply : Reply) : Sending Unit := do
  if !address.hasKind then Sending.stop .badValue
  modify (fun session =>
    { session with
      cookies :=
        session.cookies.takeFrom session.now (CookieSite.ofAddress address) reply.headers })

/-- Check the place that a reply names. -/
def checkRedirect (address : Address) (reply : Reply) : Sending Unit :=
  match Redirect.check address reply with
  | .ok () => pure ()
  | .error (.unreadable fault) => throw (.unanswered (Redirect.complaint fault))
  | .error (.fault cause) => Sending.stop cause

/-- Take what comes back from an address. -/
def receive (address : Address) : Outcome → Sending Response
  | .failure message => throw (.unanswered message)
  | .broken cause => Sending.stop cause
  | .reply reply =>
      match ContentCoding.decode reply with
      | .error fault => throw (.unanswered fault.message)
      | .ok reply => do
          keepCookies address reply
          checkRedirect address reply
          pure (reply.response (← get).room)

/-- Send a message, given what comes back.  A closed session sends nothing. -/
def deliver (outcome : Outcome) (message : Message) : Sending Response := do
  let session ← get
  let (request, body) ← Sending.lift (session.requestOf message)
  if session.isClosed then Sending.stop .closedClient
  match body with
  | .parts false => Sending.stop .wrongKind
  | _ => pure ()
  set { session with sent := some request }
  receive request.address outcome

/-- Send a message in a session, given what comes back. -/
def send (outcome : Outcome) (message : Message) (session : Session) :
    Except Trouble Response × Session :=
  (deliver outcome message).run.run session

end Session
end ApiAccessors
