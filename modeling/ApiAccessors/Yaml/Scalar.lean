import ApiAccessors.Text.Hex
import ApiAccessors.Yaml.Cursor

namespace ApiAccessors
namespace Yaml

/-!
# Scalars

The three ways to write a scalar: between quotes, plain, and as a block of lines.  In the first two
a line end inside the text is folded to a space, and blank lines behind it are kept; a block says
by its header whether its lines are folded and what becomes of its last line end.  `fuel` bounds
the characters that are still to come.
-/

/-- What folding makes of a line end and of the blank lines behind it. -/
def foldBreak (first others : List Char) : List Char :=
  (if first != ['\n'] then first else if others.isEmpty then [' '] else []) ++ others

/-- The character that a one-letter escape stands for. -/
def escapedChar? : Char → Option Char
  | '0' => some '\x00'
  | 'a' => some '\x07'
  | 'b' => some '\x08'
  | 't' => some '\t'
  | '\t' => some '\t'
  | 'n' => some '\n'
  | 'v' => some '\x0B'
  | 'f' => some '\x0C'
  | 'r' => some '\r'
  | 'e' => some '\x1B'
  | ' ' => some ' '
  | '"' => some '"'
  | '\\' => some '\\'
  | '/' => some '/'
  | 'N' => some '\x85'
  | '_' => some '\xA0'
  | 'L' => some '\u2028'
  | 'P' => some '\u2029'
  | _ => none

/-- How many digits a numeric escape has. -/
def escapeWidth? : Char → Option Nat
  | 'x' => some 2
  | 'u' => some 4
  | 'U' => some 8
  | _ => none

def greatestCode : Nat := 0x10FFFF

/-- The greatest number that is asked for its character at all. -/
def greatestNumber : Nat := 0x7FFFFFFF

/-- The blank lines inside quotes, which no mark between documents may interrupt. -/
def quotedBreaks : Nat → Cursor → Except Failure (List Char × Cursor)
  | 0, cursor => .ok ([], cursor)
  | fuel + 1, cursor =>
      if cursor.atDocumentMark then .error .malformed
      else
        let inner := cursor.skipWhile isSpaceOrTab
        match inner.takeBreak with
        | ([], _) => .ok ([], inner)
        | (first, behind) => do
            let (others, last) ← quotedBreaks fuel behind
            pure (first ++ others, last)

def numericEscape (width : Nat) (cursor : Cursor) : Except Failure (Char × Cursor) :=
  match Text.readHex width 0 cursor.rest with
  | none => .error .malformed
  | some (code, _) =>
      if greatestNumber < code then .error (.fault .tooLarge)
      else if greatestCode < code then .error (.fault .badValue)
      else if 0xD800 ≤ code && code < 0xE000 then .error (.fault .unpaired)
      else .ok (Char.ofNat code, cursor.advanceBy width)

/-- An escape behind its backslash; an escaped line end stands for nothing. -/
def escapeSequence (fuel : Nat) (cursor : Cursor) : Except Failure (List Char × Cursor) :=
  match cursor.rest with
  | [] => .error .malformed
  | mark :: _ =>
      match escapedChar? mark, escapeWidth? mark with
      | some c, _ => .ok ([c], cursor.advance)
      | none, some width => do
          let (c, behind) ← numericEscape width cursor.advance
          pure ([c], behind)
      | none, none =>
          if isBreak mark then quotedBreaks fuel cursor.takeBreak.2 else .error .malformed

/-- White space inside quotes: folded where a line ends in it, and kept otherwise. -/
def quotedSpace (fuel : Nat) (cursor : Cursor) : Except Failure (List Char × Cursor) :=
  let (blanks, inner) := cursor.span isSpaceOrTab
  match inner.takeBreak with
  | ([], _) => .ok (blanks, inner)
  | (first, behind) => do
      let (others, last) ← quotedBreaks fuel behind
      pure (foldBreak first others, last)

/-- The rest of a quoted scalar up to its closing quote, and the place behind that. -/
def quotedRest (quote : Char) : Nat → Cursor → Except Failure (List Char × Cursor)
  | 0, _ => .error .malformed
  | fuel + 1, cursor =>
      match cursor.rest with
      | [] => .error .malformed
      | c :: rest =>
          if c == quote then
            if quote == '\'' && rest.head? == some '\'' then do
              let (others, last) ← quotedRest quote fuel (cursor.advanceBy 2)
              pure ('\'' :: others, last)
            else .ok ([], cursor.advance)
          else if quote == '"' && c == '\\' then do
            let (first, behind) ← escapeSequence fuel cursor.advance
            let (others, last) ← quotedRest quote fuel behind
            pure (first ++ others, last)
          else if isBreak c || isSpaceOrTab c then do
            let (first, behind) ← quotedSpace fuel cursor
            let (others, last) ← quotedRest quote fuel behind
            pure (first ++ others, last)
          else do
            let (others, last) ← quotedRest quote fuel cursor.advance
            pure (c :: others, last)

/-- The quoted scalar that begins with the next character. -/
def quotedScalar (quote : Char) (fuel : Nat) (cursor : Cursor) :
    Except Failure (String × Cursor) := do
  let (text, last) ← quotedRest quote fuel cursor.advance
  pure (String.ofList text, last)

/-- The marks that structure a collection between brackets. -/
def isFlowMark (c : Char) : Bool :=
  c == ',' || c == '[' || c == ']' || c == '\x7b' || c == '\x7d'

/-- Whether what follows makes a colon the mark between key and value. -/
def endsKey (flow : Bool) (rest : List Char) : Bool :=
  atBlank rest || (flow && (rest.head?.map isFlowMark).getD false)

/-- How many characters a plain scalar takes before white space or a mark. -/
def plainLength (flow : Bool) : List Char → Nat
  | [] => 0
  | c :: rest =>
      if isBreak c || isSpaceOrTab c then 0
      else if c == ':' && endsKey flow rest then 0
      else if flow && (isFlowMark c || c == '?') then 0
      else plainLength flow rest + 1

/-- Whether a character may begin a plain scalar; three marks may if more of the word follows. -/
def beginsPlain (flow : Bool) : List Char → Bool
  | [] => false
  | c :: rest =>
      let marks := "-?:,[]\x7b\x7d#&*!|>'\"%@\x60".toList
      !(isBreak c || isSpaceOrTab c || marks.contains c) ||
        (!atBlank rest && (c == '-' || (!flow && (c == '?' || c == ':'))))

/-- A plain scalar, and whether a line ended behind its text. -/
structure PlainScalar where
  text : List Char
  brokeLine : Bool

/-- The blank lines behind the first line end, or nothing if a mark between documents comes. -/
def plainBreaks : Nat → Cursor → Option (List Char) × Cursor
  | 0, cursor => (some [], cursor)
  | fuel + 1, cursor =>
      if cursor.atDocumentMark then (none, cursor)
      else
        let inner := cursor.skipSpaces
        match inner.takeBreak with
        | ([], _) => (some [], inner)
        | (first, behind) =>
            let (others, last) := plainBreaks fuel behind
            (others.map (first ++ ·), last)

/-- The white space inside a plain scalar; none at all means that the scalar ends here. -/
def plainSpace (fuel : Nat) (cursor : Cursor) : PlainScalar × Cursor :=
  let (blanks, inner) := cursor.span (· == ' ')
  match inner.takeBreak with
  | ([], _) => (⟨blanks, false⟩, inner)
  | (first, behind) =>
      match plainBreaks fuel behind with
      | (none, last) => (⟨[], true⟩, last)
      | (some others, last) => (⟨foldBreak first others, true⟩, last)

/-- The plain scalar that goes on here, whose lines must stand at least `indent` columns in. -/
def plainScalar (flow : Bool) (indent : Nat) : Nat → Cursor → PlainScalar × Cursor
  | 0, cursor => (⟨[], false⟩, cursor)
  | fuel + 1, cursor =>
      let length := plainLength flow cursor.rest
      let word := cursor.rest.take length
      let (space, behind) := plainSpace fuel (cursor.advanceBy length)
      let ends := space.text.isEmpty || behind.rest.head? == some '#' ||
        (!flow && decide (behind.column < indent)) || plainLength flow behind.rest == 0
      if ends then (⟨word, space.brokeLine⟩, behind)
      else
        let (others, last) := plainScalar flow indent fuel behind
        (⟨word ++ space.text ++ others.text, others.brokeLine⟩, last)

/-- What becomes of the line ends behind the last line of a block. -/
inductive Chomping where
  /-- The last line end is kept. -/
  | clip
  /-- None is kept. -/
  | strip
  /-- All are kept. -/
  | keep
deriving DecidableEq

def chomping? : List Char → Option Chomping
  | '+' :: _ => some .keep
  | '-' :: _ => some .strip
  | _ => none

/-- The digit that gives the indentation of a block; zero is no indentation. -/
def blockDigit (cursor : Cursor) : Except Failure (Option Nat × Cursor) :=
  match cursor.rest with
  | c :: _ =>
      if c == '0' then .error .malformed
      else if c.isDigit then .ok (some (c.toNat - '0'.toNat), cursor.advance)
      else .ok (none, cursor)
  | [] => .ok (none, cursor)

/-- The two indicators of a block, in either order. -/
def blockIndicators (cursor : Cursor) : Except Failure ((Chomping × Option Nat) × Cursor) :=
  match chomping? cursor.rest with
  | some chomping => do
      let (increment, behind) ← blockDigit cursor.advance
      pure ((chomping, increment), behind)
  | none => do
      let (increment, behind) ← blockDigit cursor
      match increment, chomping? behind.rest with
      | some _, some chomping => pure ((chomping, increment), behind.advance)
      | _, _ => pure ((.clip, increment), behind)

/-- The rest of a line that may hold nothing more than a comment. -/
def emptyLine (cursor : Cursor) : Except Failure Cursor :=
  let inner := cursor.skipSpaces
  let behind := if inner.rest.head? == some '#' then inner.skipLine else inner
  if atLineEnd behind.rest then .ok behind.takeBreak.2 else .error .malformed

/-- Blank lines before the first line of a block, and the greatest column they reach. -/
def leadingBreaks : Nat → Cursor → List Char × Nat × Cursor
  | 0, cursor => ([], 0, cursor)
  | fuel + 1, cursor =>
      let inner := cursor.skipSpaces
      let reached := if inner.offset = cursor.offset then 0 else inner.column
      match inner.takeBreak with
      | ([], _) => ([], reached, inner)
      | (first, behind) =>
          let (others, column, last) := leadingBreaks fuel behind
          (first ++ others, max reached column, last)

/-- Leave out the indentation of a block. -/
def skipIndent (indent : Nat) (cursor : Cursor) : Cursor :=
  let spaces := (cursor.rest.takeWhile (· == ' ')).length
  cursor.advanceBy (min spaces (indent - cursor.column))

/-- Whether the line goes on with something other than white space. -/
def startsWord : List Char → Bool
  | [] => true
  | c :: _ => !isSpaceOrTab c

/-- The lines of a block that stand `indent` columns in, each with the breaks in front of it. -/
def blockLines (folded : Bool) (chomping : Chomping) (indent : Nat) :
    Nat → List Char → Cursor → List Char × Cursor
  | 0, _, cursor => ([], cursor)
  | fuel + 1, breaks, cursor =>
      let (line, behind) := cursor.span (fun c => !isBreak c)
      let (ending, next) := behind.takeBreak
      let (blanks, inner) := next.takeBreaks (skipIndent indent) fuel
      if inner.column = indent && !inner.rest.isEmpty then
        let joint :=
          if folded && ending == ['\n'] && startsWord cursor.rest && startsWord inner.rest then
            if blanks.isEmpty then [' '] else []
          else ending
        let (others, last) := blockLines folded chomping indent fuel blanks inner
        (breaks ++ line ++ joint ++ others, last)
      else
        let final :=
          match chomping with
          | .strip => []
          | .clip => ending
          | .keep => ending ++ blanks
        (breaks ++ line ++ final, inner)

/-- The block scalar that begins with the next character, inside an indentation. -/
def blockScalar (folded : Bool) (leastIndent fuel : Nat) (cursor : Cursor) :
    Except Failure (String × Cursor) := do
  let ((chomping, increment), header) ← blockIndicators cursor.advance
  let () ← if atSpace header.rest then pure () else .error .malformed
  let body ← emptyLine header
  let (breaks, indent, first) :=
    match increment with
    | none =>
        let (breaks, reached, first) := leadingBreaks fuel body
        (breaks, max leastIndent reached, first)
    | some number =>
        let indent := leastIndent + number - 1
        let (breaks, first) := body.takeBreaks (skipIndent indent) fuel
        (breaks, indent, first)
  if first.column = indent && !first.rest.isEmpty then
    let (text, last) := blockLines folded chomping indent fuel breaks first
    pure (String.ofList text, last)
  else
    pure (if chomping = .keep then String.ofList breaks else "", first)

end Yaml
end ApiAccessors
