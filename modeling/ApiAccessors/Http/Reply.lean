import ApiAccessors.Http.Exchange
import ApiAccessors.Http.Headers
import ApiAccessors.Json.Reader
import ApiAccessors.Text.Charset

namespace ApiAccessors

/-!
# Replies

The reply to a request as it comes over the wire, and how its body is read.  A document may be in
any of the encodings that its first bytes show, and a text in any that its type names.
-/

structure Reply where
  status : Int
  /-- The phrase in the line of the status; old protocols have none. -/
  phrase : Option String
  headers : Headers
  body : List UInt8

namespace MediaType

/-- A value without quotes around it. -/
def unquote (value : List Char) : List Char :=
  match value with
  | '"' :: rest => if rest.getLast? == some '"' then rest.dropLast else rest
  | _ => value

/-- The encoding that a type names. -/
def charset? (type : String) : Option (List Char) :=
  ((Text.splitWhere (· == ';') type.toList).drop 1).findSome? (fun parameter =>
    let (name, value) := Text.cutFirst '=' parameter
    match value with
    | some value =>
        if Text.lower (Text.trim name) = "charset".toList then some (unquote (Text.trim value))
        else none
    | none => none)

end MediaType

namespace Reply

/-- The encoding of the body, if it is a text. -/
def charset (reply : Reply) : Text.Charset :=
  match (reply.headers.get? "content-type").bind MediaType.charset? with
  | some name => Text.Charset.ofName name
  | none => .utf8

/-- The body as a text; bytes that are no text are replaced. -/
def text (reply : Reply) : Except Fault String :=
  match reply.charset.decode? reply.body with
  | some text => .ok (String.ofList text)
  | none => .error .noMark

/-- Read bytes in the encoding that the first of them show. -/
def decodeDocument (bytes : List UInt8) : Option (List Char) :=
  match bytes with
  | 0x00 :: 0x00 :: 0xFE :: 0xFF :: rest => Text.decodeQuads? .big rest
  | 0xFF :: 0xFE :: 0x00 :: 0x00 :: rest => Text.decodeQuads? .little rest
  | 0xFE :: 0xFF :: rest => Text.decodePairs? .big rest
  | 0xFF :: 0xFE :: rest => Text.decodePairs? .little rest
  | 0xEF :: 0xBB :: 0xBF :: rest => Text.Utf8.decode? rest
  | a :: b :: c :: d :: _ =>
      if a = 0 then
        if b = 0 then Text.decodeQuads? .big bytes else Text.decodePairs? .big bytes
      else if b = 0 then
        if c = 0 && d = 0 then Text.decodeQuads? .little bytes
        else Text.decodePairs? .little bytes
      else Text.Utf8.decode? bytes
  | [a, b] =>
      if a = 0 then Text.decodePairs? .big bytes
      else if b = 0 then Text.decodePairs? .little bytes
      else Text.Utf8.decode? bytes
  | _ => Text.Utf8.decode? bytes

/-- The document that the body is, read with some room for collections inside each other. -/
def document (room : Nat) (reply : Reply) : Except Fault Value :=
  match decodeDocument reply.body with
  | none => .error .undecodable
  | some text =>
      match Json.read room text with
      | .ok value => .ok value
      | .error (.complaint _ _) => .error .unreadableReply
      | .error .tooManyDigits => .error .badValue
      | .error .tooDeep => .error .tooDeep
      | .error .unpaired => .error .unpaired

/-- A reply as a client sees it. -/
def response (room : Nat) (reply : Reply) : Response where
  status := reply.status
  phrase := reply.phrase.getD (Status.phrase reply.status)
  contentType := (reply.headers.get? "content-type").getD ""
  content := reply.body
  document := reply.document room
  text := reply.text

end Reply
end ApiAccessors
