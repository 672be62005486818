import ApiAccessors.Json.Reader
import ApiAccessors.Text.Utf8
import ApiAccessors.Yaml.Scalar

namespace ApiAccessors
namespace Yaml

/-!
# Directives, anchors and tags

The names that a document gives to its own parts.  A directive stands on a line of its own in front
of the document; an anchor names a node and an alias repeats it; a tag says what kind of value a
node is, and is written out between angle brackets or abbreviated by a handle.  `fuel` bounds the
characters that are still to come.
-/

inductive TagName where
  /-- The tag in full. -/
  | full (name : String)
  /-- A handle, whose meaning the directives give, and the rest of the tag. -/
  | short (handle suffix : String)
deriving DecidableEq, Repr

inductive Directive where
  | version (major : Nat)
  | handle (handle meaning : String)
  /-- A directive that is passed over. -/
  | other
deriving DecidableEq, Repr

/-- The characters that a tag is made of. -/
def isTagChar (c : Char) : Bool :=
  c.isAlphanum || "-;/?:@&=+$,_.!~*'()[]%".toList.contains c

/-- The bytes that a row of percent escapes stands for. -/
def escapedBytes : Nat → Cursor → Except Failure (List UInt8 × Cursor)
  | 0, cursor => .ok ([], cursor)
  | fuel + 1, cursor =>
      match cursor.rest with
      | '%' :: rest =>
          match Text.readHex 2 0 rest with
          | none => .error .malformed
          | some (byte, _) => do
              let (others, last) ← escapedBytes fuel (cursor.advanceBy 3)
              pure (byte.toUInt8 :: others, last)
      | _ => .ok ([], cursor)

/-- The characters of a tag, with the escaped ones decoded. -/
def tagChars : Nat → Cursor → Except Failure (List Char × Cursor)
  | 0, cursor => .ok ([], cursor)
  | fuel + 1, cursor =>
      match cursor.rest with
      | [] => .ok ([], cursor)
      | c :: _ =>
          if c == '%' then do
            let (bytes, behind) ← escapedBytes fuel cursor
            match Text.Utf8.decode? bytes with
            | none => .error .malformed
            | some chars => do
                let (others, last) ← tagChars fuel behind
                pure (chars ++ others, last)
          else if isTagChar c then do
            let (others, last) ← tagChars fuel cursor.advance
            pure (c :: others, last)
          else .ok ([], cursor)

/-- A tag or the beginning of one: at least one character. -/
def tagText (fuel : Nat) (cursor : Cursor) : Except Failure (String × Cursor) := do
  let (chars, behind) ← tagChars fuel cursor
  if behind.offset = cursor.offset then .error .malformed else pure (String.ofList chars, behind)

/-- A handle: one exclamation mark, or a name between two of them. -/
def tagHandle (cursor : Cursor) : Except Failure (String × Cursor) :=
  match cursor.rest with
  | '!' :: rest =>
      if rest.head? == some ' ' then .ok ("!", cursor.advance)
      else
        let name := rest.takeWhile isNameChar
        if (rest.drop name.length).head? == some '!' then
          .ok (String.ofList ('!' :: (name ++ ['!'])), cursor.advanceBy (name.length + 2))
        else .error .malformed
  | _ => .error .malformed

/-- Whether another exclamation mark comes before the next space. -/
def hasHandle : List Char → Bool
  | [] => false
  | c :: rest => !(isBreak c || c == ' ') && (c == '!' || hasHandle rest)

/-- The tag that begins with the next character; white space must follow it. -/
def tag (fuel : Nat) (cursor : Cursor) : Except Failure (TagName × Cursor) := do
  let inner := cursor.advance
  let (name, behind) ←
    if inner.rest.head? == some '<' then do
      let (name, behind) ← tagText fuel inner.advance
      if behind.rest.head? == some '>' then pure (TagName.full name, behind.advance)
      else .error .malformed
    else if atBlank inner.rest then pure (TagName.full "!", inner)
    else if hasHandle inner.rest then do
      let (handle, behind) ← tagHandle cursor
      let (suffix, last) ← tagText fuel behind
      pure (TagName.short handle suffix, last)
    else do
      let (suffix, last) ← tagText fuel inner
      pure (TagName.short "!" suffix, last)
  if atSpace behind.rest then pure (name, behind) else .error .malformed

def endsAnchor : List Char → Bool
  | [] => true
  | c :: _ => isBreak c || isSpaceOrTab c || "?:,]\x7d%@\x60".toList.contains c

/-- The name of an anchor or of an alias behind its mark. -/
def anchorName (cursor : Cursor) : Except Failure (String × Cursor) :=
  let (name, behind) := cursor.advance.span isNameChar
  if name.isEmpty || !endsAnchor behind.rest then .error .malformed
  else .ok (String.ofList name, behind)

def versionNumber (cursor : Cursor) : Except Failure (Nat × Cursor) :=
  let (digits, behind) := cursor.span Char.isDigit
  if digits.isEmpty then .error .malformed
  else if Text.digitLimit < digits.length then .error (.fault .badValue)
  else .ok (Json.digitsValue digits, behind)

/-- The version of the notation: two numbers with a point between them. -/
def versionValue (cursor : Cursor) : Except Failure (Directive × Cursor) := do
  let (major, behind) ← versionNumber cursor.skipSpaces
  if behind.rest.head? == some '.' then do
    let (_, last) ← versionNumber behind.advance
    if atSpace last.rest then pure (.version major, last) else .error .malformed
  else .error .malformed

def handleValue (fuel : Nat) (cursor : Cursor) : Except Failure (Directive × Cursor) := do
  let (handle, behind) ← tagHandle cursor.skipSpaces
  if behind.rest.head? == some ' ' then do
    let (meaning, last) ← tagText fuel behind.skipSpaces
    if atSpace last.rest then pure (.handle handle meaning, last) else .error .malformed
  else .error .malformed

/-- The directive that begins with the next character, with the line it stands on. -/
def directive (fuel : Nat) (cursor : Cursor) : Except Failure (Directive × Cursor) := do
  let (name, behind) := cursor.advance.span isNameChar
  if name.isEmpty || !atSpace behind.rest then .error .malformed
  else do
    let (value, last) ←
      if name == "YAML".toList then versionValue behind
      else if name == "TAG".toList then handleValue fuel behind
      else pure (.other, behind.skipLine)
    let next ← emptyLine last
    pure (value, next)

end Yaml
end ApiAccessors
