import ApiAccessors.Fault

namespace ApiAccessors
namespace Yaml

/-!
# Places in a document

The characters that are still to come, together with where they stand: offset, line and column are
counted from zero.  A byte order mark takes no column.  The classes of characters that end a token
are defined on what is still to come, because the end of the document counts as a member of each.
-/

/-- Why a document was not read. -/
inductive Failure where
  /-- The text is no document of this notation. -/
  | malformed
  /-- The notation is right, but something in it has no value. -/
  | fault (cause : Fault)
deriving DecidableEq, Repr

/-- The characters that end a line. -/
def isBreak (c : Char) : Bool :=
  c == '\n' || c == '\r' || c == '\x85' || c == '\u2028' || c == '\u2029'

def isSpaceOrTab (c : Char) : Bool := c == ' ' || c == '\t'

def atLineEnd : List Char → Bool
  | [] => true
  | c :: _ => isBreak c

/-- The end of the document or of a line, or a space. -/
def atSpace : List Char → Bool
  | [] => true
  | c :: _ => isBreak c || c == ' '

/-- The end of the document or of a line, a space or a tab. -/
def atBlank : List Char → Bool
  | [] => true
  | c :: _ => isBreak c || isSpaceOrTab c

/-- The letters, digits and signs that names of anchors and tags are made of. -/
def isNameChar (c : Char) : Bool := c.isAlphanum || c == '-' || c == '_'

/-- What is still to come, and where it stands. -/
structure Cursor where
  rest : List Char
  offset : Nat
  line : Nat
  column : Nat
deriving Repr

namespace Cursor

/-- The beginning of a document. -/
def start (text : List Char) : Cursor := ⟨text, 0, 0, 0⟩

/-- The place behind the next character. -/
def advance (cursor : Cursor) : Cursor :=
  match cursor.rest with
  | [] => cursor
  | c :: rest =>
      if isBreak c && !(c == '\r' && rest.head? == some '\n') then
        ⟨rest, cursor.offset + 1, cursor.line + 1, 0⟩
      else if c == '\uFEFF' then { cursor with rest, offset := cursor.offset + 1 }
      else { cursor with rest, offset := cursor.offset + 1, column := cursor.column + 1 }

/-- The place a number of characters further on. -/
def advanceBy : Nat → Cursor → Cursor
  | 0, cursor => cursor
  | count + 1, cursor => advanceBy count cursor.advance

/-- The characters that satisfy the test, and the place behind them. -/
def span (cursor : Cursor) (test : Char → Bool) : List Char × Cursor :=
  let taken := cursor.rest.takeWhile test
  (taken, cursor.advanceBy taken.length)

/-- The place behind the characters that satisfy the test. -/
def skipWhile (cursor : Cursor) (test : Char → Bool) : Cursor := (cursor.span test).2

def skipSpaces (cursor : Cursor) : Cursor := cursor.skipWhile (· == ' ')

/-- The place at the end of the line. -/
def skipLine (cursor : Cursor) : Cursor := cursor.skipWhile (fun c => !isBreak c)

/--
The character that a line end stands for, and the place behind it.  Only the separators of lines
and paragraphs stand for themselves; all others are a newline.  Where no line ends there is none.
-/
def takeBreak (cursor : Cursor) : List Char × Cursor :=
  match cursor.rest with
  | '\r' :: '\n' :: _ => (['\n'], cursor.advanceBy 2)
  | c :: _ =>
      if c == '\u2028' || c == '\u2029' then ([c], cursor.advance)
      else if isBreak c then (['\n'], cursor.advance)
      else ([], cursor)
  | [] => ([], cursor)

/-- Whether the line is one of the marks between documents: three characters and a blank. -/
def atMark (mark : Char) (cursor : Cursor) : Bool :=
  cursor.column == 0 && cursor.rest.take 3 == [mark, mark, mark] && atBlank (cursor.rest.drop 3)

/-- Whether the line begins or ends a document. -/
def atDocumentMark (cursor : Cursor) : Bool := cursor.atMark '-' || cursor.atMark '.'

/--
The line ends from here on, with the indentation before and after each of them left out as far as
`skip` says; `fuel` bounds their number.
-/
def takeBreaks (skip : Cursor → Cursor) : Nat → Cursor → List Char × Cursor
  | 0, cursor => ([], cursor)
  | fuel + 1, cursor =>
      let inner := skip cursor
      if atLineEnd inner.rest && !inner.rest.isEmpty then
        let (first, behind) := inner.takeBreak
        let (others, last) := takeBreaks skip fuel behind
        (first ++ others, last)
      else ([], inner)

end Cursor
end Yaml
end ApiAccessors
