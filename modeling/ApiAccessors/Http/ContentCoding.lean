import ApiAccessors.Compression.Envelope
import ApiAccessors.Http.Reply

namespace ApiAccessors
namespace ContentCoding

/-!
# Content codings

A reply may say that its body was compressed on the way, perhaps several times.  Codings that
nobody knows are passed over.
-/

/-- The ways to read a coding that are known. -/
def readers : List (String × (List UInt8 → Except Envelope.Fault (List UInt8))) :=
  [("gzip", Envelope.openLong), ("deflate", Envelope.openAny)]

/-- The codings of a body, the first one that was used first. -/
def ofReply (reply : Reply) : List String :=
  let values := (reply.headers.filter (fun header =>
    Headers.sameName header.1 "Content-Encoding")).map (·.2)
  values.flatMap (fun value =>
    (Text.splitWhere (· == ',') value.toList).map (fun part =>
      String.ofList (Text.lower (Text.trim part))))

/-- Undo a coding; nothing is no coded body. -/
def undo (body : List UInt8) (coding : String) : Except Envelope.Fault (List UInt8) :=
  match readers.lookup coding with
  | some read => if body.isEmpty then .ok [] else read body
  | none => .ok body

/-- A reply with the body that was meant. -/
def decode (reply : Reply) : Except Envelope.Fault Reply := do
  let body ← (ofReply reply).reverse.foldlM undo reply.body
  pure { reply with body }

end ContentCoding
end ApiAccessors
