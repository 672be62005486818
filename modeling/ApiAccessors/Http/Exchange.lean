import ApiAccessors.Document.Value
import ApiAccessors.Http.Status
import ApiAccessors.Text.Blank
import ApiAccessors.Text.Case
import ApiAccessors.Text.Split

namespace ApiAccessors

/-!
# Exchanges

What a client and the library that sends its requests have to say to each other.  The client hands
over a message of unchecked values.  The library hands back a response or says what troubled it.  A
response comes with its readings: whether its content is a document or a text, and which, is for the
library to find out.
-/

/-- What a client asks the library to send. -/
structure Message where
  method : String
  path : String
  query : List (Value × String)
  content : Value
  headers : Entries

/-- Why there is no response to a message. -/
inductive Trouble where
  /-- No reply came, or none that the library can take. -/
  | unanswered (message : String)
  /-- The message could not be sent as it is, or the library itself stopped. -/
  | broken (cause : Fault)
deriving DecidableEq, Repr

structure Response where
  status : Int
  /-- The phrase that goes with the status, which may be empty. -/
  phrase : String
  /-- The header for the type of the content, empty if there is none. -/
  contentType : String
  content : List UInt8
  /-- The content read as a document. -/
  document : Except Fault Value
  /-- The content read as a text. -/
  text : Except Fault String

namespace MediaType

/-- The type itself, without its parameters. -/
def essence (type : String) : List Char :=
  Text.lower (Text.trim (Text.cutFirst ';' type.toList).1)

/-- Whether a type stands for documents. -/
def isJson (type : String) : Bool :=
  let name := essence type
  "/json".toList.isSuffixOf name || "+json".toList.isSuffixOf name

end MediaType

namespace Response

/-- What a response with success stands for; empty content stands for nothing. -/
def value (response : Response) : Except Fault Value :=
  if response.content.isEmpty then .ok .null
  else if MediaType.isJson response.contentType then response.document
  else response.text.map .text

/-- The fields that may hold the message of an error, in order of preference. -/
def messageFields : List String := ["message", "detail", "hydra:description", "title"]

/-- What is said of an error that says nothing itself. -/
def unnamedError : String := "API Error"

/-- The message of a document: the first of the fields that holds a text. -/
def messageOf (document : Value) : String :=
  (messageFields.findSome? (fun name =>
    match document with
    | .map entries =>
        match Entries.field? entries name with
        | some (.text message) => some message
        | _ => none
    | _ => none)).getD unnamedError

/-- The message and the details of an error.  Content that is no document is given as a text. -/
def complaint (response : Response) : Except Fault (String × Value) :=
  match response.document with
  | .ok document => .ok (messageOf document, document)
  | .error cause =>
      if cause.liesInValue then
        response.text.map (fun text =>
          (if response.phrase.isEmpty then unnamedError else response.phrase, .text text))
      else .error cause

end Response
end ApiAccessors
