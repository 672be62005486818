import ApiAccessors.Api.ContentType
import ApiAccessors.Http.Exchange
import ApiAccessors.Http.Headers
import ApiAccessors.Http.Query
import ApiAccessors.Json.Writer
import ApiAccessors.Log

namespace ApiAccessors

/-!
# Clients

A client makes the requests of generated accessors.  From a path, parameters, a query and a body it
makes a message, which a library sends for it, and from the response it gives a value or an error.
What the library does with a message is not part of it: the library is given.
-/

/-- A call that was not answered with success. -/
structure ApiError where
  /-- The status of the reply, if there was one. -/
  status : Option Int
  message : String
  payload : Value
deriving BEq, Repr

namespace ApiError

def text (error : ApiError) : String :=
  match error.status with
  | some status =>
      if status = 0 then error.message else toString status ++ " " ++ error.message
  | none => error.message

end ApiError

/-- Why a call gave no value. -/
inductive CallProblem where
  | api (error : ApiError)
  | fault (cause : Fault)
deriving BEq, Repr

/--
The library that sends requests, and the room on the call stack for collections inside each other.
The library keeps something of its own from one message to the next.
-/
structure Surroundings (σ : Type) where
  writingRoom : Nat
  send : Message → σ → Except Trouble Response × σ

/-- What a call leaves behind: its log, and what the library keeps. -/
structure CallTrace (σ : Type) where
  log : List LogEntry
  kept : σ

abbrev Call (σ : Type) := ExceptT CallProblem (StateM (CallTrace σ))

namespace Call

variable {σ α : Type}

def stop (fault : Fault) : Call σ α := throw (.fault fault)

/-- Stop where a computation stops. -/
def lift : Except Fault α → Call σ α
  | .ok value => pure value
  | .error fault => stop fault

def logger : String := "resourcegen.runtime"

def report (level : Level) (message : String) : Call σ Unit :=
  modify (fun trace => { trace with log := trace.log ++ [⟨level, logger, message⟩] })

/-- Give up, because no reply came that can be read. -/
def fail (message : String) : Call σ α := do
  report .error ("API call failed: " ++ message)
  throw (.api ⟨none, "Network Error", .null⟩)

end Call

/-- A client; its settings are values of unchecked shape. -/
structure Client where
  apiPrefix : Value
  token : Value
  authScheme : Value

namespace Client

/-- The settings that a client can be given; some of them are for the library. -/
def settingNames : List String := ["api_prefix", "token", "auth_scheme", "headers", "timeout"]

/-- A prefix without the slashes at its end. -/
def trimPrefix : Value → Except Fault Value
  | .text given =>
      .ok (.text (String.ofList (Text.dropEndWhile (· == '/') given.toList)))
  | _ => .error .noSuchOperation

/-- A client with some settings. -/
def make (settings : List (String × Value)) : Except Fault Client := do
  if !settings.all (fun setting => settingNames.contains setting.1) then throw .wrongKind
  let setting := fun name missing => (settings.lookup name).getD missing
  let apiPrefix ← trimPrefix (setting "api_prefix" (.text ""))
  pure {
    apiPrefix
    token := setting "token" .null
    authScheme := setting "auth_scheme" (.text "Bearer") }

def change (client : Client) (name : String) (value : Value) : Client :=
  match name with
  | "token" => { client with token := value }
  | "auth_scheme" => { client with authScheme := value }
  | "api_prefix" => { client with apiPrefix := value }
  | _ => client

/-- What stands for a piece of a path: parameters without a value stay as they are. -/
def fillPiece (parameters : Value) : Path.Piece → Except Fault (List Char)
  | .char value => .ok [value]
  | .parameter name =>
      match parameters with
      | .map entries =>
          match Entries.field? entries (String.ofList name) with
          | none => .ok (Path.Piece.parameter name).text
          | some .null => .ok (Path.Piece.parameter name).text
          | some value => value.spell.map String.toList
      | _ => .error .noSuchOperation

/-- A path with values for its parameters. -/
def fill (path parameters : Value) : Except Fault (List Char) := do
  match path with
  | .text path =>
      let given := if parameters.truthy then parameters else .empty
      let parts ← (Path.pieces path.toList).mapM (fillPiece given)
      pure parts.flatten
  | _ => throw .wrongKind

/-- The path of a call, behind the prefix if there is one. -/
def buildPath (client : Client) (path parameters : Value) : Except Fault String := do
  let filled ← fill path parameters
  if client.apiPrefix.truthy then
    let front ← client.apiPrefix.spell
    pure (String.ofList (front.toList ++ '/' :: filled.dropWhile (· == '/')))
  else pure (String.ofList filled)

/-- What a call is made of. -/
structure Arguments where
  method : Value
  path : Value
  parameters : Value
  query : Value
  body : Value
  contentType : Value
  headers : Value

/-- The content that a value is sent as. -/
def contentOf (room : Nat) (contentType body : Value) : Except Fault Value :=
  match body with
  | .null => .ok .null
  | value =>
      match contentType with
      | .text type =>
          if MediaType.isJson type then
            (Json.write room Json.compact value).map (fun text =>
              .bytes (Text.Utf8.encode text.toList))
          else .ok value
      | _ => .error .noSuchOperation

/-- The type of the reply that is asked for; merging patches is no form of a reply. -/
def acceptedType (contentType : Value) : Value :=
  if contentType.sameKey (.text ContentType.mergePatch) then .text ContentType.json
  else contentType

/-- The headers of a call, in which those that the caller gives count. -/
def callHeaders (client : Client) (contentType extra : Value) : Except Fault Entries :=
  let usual : Entries :=
    [(.text "Content-Type", contentType), (.text "Accept", acceptedType contentType)]
  let signed :=
    if client.token.truthy then
      let value := client.authScheme.display ++ " " ++ client.token.display
      usual ++ [(.text "Authorization", .text value)]
    else usual
  Headers.extend signed extra

def methodName : Value → Except Fault String
  | .text method => .ok (String.ofList (Text.upper method.toList))
  | _ => .error .noSuchOperation

/-- What a message begins with: its path, its content and its method. -/
def openMessage (room : Nat) (client : Client) (arguments : Arguments) : Except Fault Message := do
  let path ← client.buildPath arguments.path arguments.parameters
  let content ← contentOf room arguments.contentType arguments.body
  let method ← methodName arguments.method
  pure { method, path, content, query := [], headers := [] }

/-- Complete a message by its query and its headers. -/
def complete (client : Client) (arguments : Arguments) (opened : Message) :
    Except Fault Message := do
  let query ← Query.pairs arguments.query
  let headers ← client.callHeaders arguments.contentType arguments.headers
  pure { opened with query, headers }

/-- What becomes of a response. -/
def answer {σ : Type} (response : Response) : Call σ Value :=
  if Status.isSuccess response.status then Call.lift response.value
  else do
    let (message, payload) ← Call.lift response.complaint
    Call.report .error ("API Error " ++ toString response.status ++ ": " ++ message)
    throw (.api ⟨some response.status, message, payload⟩)

/-- What becomes of a call, once its message is sent. -/
def conclude {σ : Type} : Except Trouble Response → Call σ Value
  | .ok response => answer response
  | .error (.unanswered message) => Call.fail message
  | .error (.broken cause) => Call.stop cause

section

variable {σ : Type} (surroundings : Surroundings σ)

/-- Have a message sent, and see what comes of it. -/
def exchange (message : Message) : Call σ Value := do
  let trace ← get
  let (came, kept) := surroundings.send message trace.kept
  set { trace with kept }
  conclude came

/-- Make a call. -/
def request (client : Client) (arguments : Arguments) : Call σ Value := do
  let opened ← Call.lift (client.openMessage surroundings.writingRoom arguments)
  Call.report .debug (opened.method ++ " " ++ opened.path)
  let message ← Call.lift (client.complete arguments opened)
  exchange surroundings message

/-- Make a call with what the library keeps from those before. -/
def perform (client : Client) (arguments : Arguments) (kept : σ) :
    Except CallProblem Value × CallTrace σ :=
  (client.request surroundings arguments).run.run ⟨[], kept⟩

end

/-- An operation that has been bound to a client. -/
structure Accessor where
  path : Value
  method : Value
  contentType : Value

namespace Accessor

/-- Bind an operation, given its path, its method and perhaps its content type. -/
def bindTo : List Value → Except Fault Accessor
  | [path, method] => .ok ⟨path, method, .text ContentType.json⟩
  | [path, method, contentType] => .ok ⟨path, method, contentType⟩
  | _ => .error .wrongKind

/-- The text that stands for an accessor. -/
def describe (accessor : Accessor) : Except Fault String := do
  let method ← methodName accessor.method
  let path ← accessor.path.spell
  let contentType ← accessor.contentType.spell
  pure ("<ApiMethod " ++ method ++ " " ++ path ++ " (" ++ contentType ++ ")>")

end Accessor
end Client
end ApiAccessors
