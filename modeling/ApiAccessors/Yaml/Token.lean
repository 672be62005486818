import ApiAccessors.Yaml.Property

namespace ApiAccessors
namespace Yaml

/-!
# Tokens

The words and marks of a document.  The structure of block collections, which the document shows by
indentation, is explicit in the tokens: they open and close like the collections between brackets.
-/

/-- A word or mark of a document. -/
inductive Token where
  | directive (value : Directive)
  | documentStart
  | documentEnd
  | blockList
  | blockMap
  | blockEnd
  | listOpen
  | listClose
  | mapOpen
  | mapClose
  /-- The dash in front of an item of a block list. -/
  | item
  /-- The comma between items in brackets. -/
  | comma
  | key
  | value
  | alias (name : String)
  | anchor (name : String)
  | tag (name : TagName)
  /-- A scalar; a plain one was written without quotes and not as a block. -/
  | scalar (text : String) (plain : Bool)
  | finish
  /-- The place from where on there are no more tokens, because the document is broken. -/
  | broken (failure : Failure)
deriving DecidableEq, Repr

/--
Something that turns out to be a key if a colon follows.  It is kept by the number of tokens in
front of it and by its place; one that must be a key stands at the indentation of its mapping.
-/
structure PendingKey where
  number : Nat
  required : Bool
  place : Cursor

/--
The state of a lexer.  `indents` are the columns of the open block collections, the innermost one
first.  `pending` has an entry for each open bracket and a last one for the block around them all.
-/
structure Lexer where
  cursor : Cursor
  indents : List Nat
  pending : List (Option PendingKey)
  keyAllowed : Bool
  /-- The tokens so far, the last one first. -/
  emitted : List Token
  /-- How many tokens there are so far. -/
  count : Nat

namespace Lexer

/-- A lexer at the beginning of a document, behind a byte order mark. -/
def start (text : List Char) : Lexer where
  cursor :=
    match text with
    | '\uFEFF' :: _ => (Cursor.start text).advance
    | _ => Cursor.start text
  indents := []
  pending := [none]
  keyAllowed := true
  emitted := []
  count := 0

/-- Whether the lexer is between brackets. -/
def inFlow (lexer : Lexer) : Bool := decide (1 < lexer.pending.length)

/-- The column that the lines of an inner collection must reach. -/
def leastIndent (lexer : Lexer) : Nat :=
  match lexer.indents with
  | [] => 0
  | column :: _ => column + 1

def emit (token : Token) (lexer : Lexer) : Lexer :=
  { lexer with emitted := token :: lexer.emitted, count := lexer.count + 1 }

def moveTo (cursor : Cursor) (lexer : Lexer) : Lexer := { lexer with cursor }

/-- Put a token in its place among the others, given the number of those before it. -/
def emitAt (number : Nat) (token : Token) (lexer : Lexer) : Lexer :=
  let behind := lexer.count - number
  { lexer with
    emitted := lexer.emitted.take behind ++ token :: lexer.emitted.drop behind
    count := lexer.count + 1 }

/-- Close the block collections that stand further in than a column. -/
def closeBlocks (column : Nat) : List Nat → List Token → List Nat × List Token
  | [], emitted => ([], emitted)
  | indent :: outer, emitted =>
      if column < indent then closeBlocks column outer (.blockEnd :: emitted)
      else (indent :: outer, emitted)

/-- Close what the indentation of the line closes; brackets stand above indentation. -/
def unwind (column : Nat) (lexer : Lexer) : Lexer :=
  if lexer.inFlow then lexer
  else
    let (indents, emitted) := closeBlocks column lexer.indents lexer.emitted
    { lexer with
      indents, emitted
      count := lexer.count + (lexer.indents.length - indents.length) }

/-- Close all block collections. -/
def unwindAll (lexer : Lexer) : Lexer :=
  if lexer.inFlow then lexer
  else
    { lexer with
      indents := []
      emitted := List.replicate lexer.indents.length .blockEnd ++ lexer.emitted
      count := lexer.count + lexer.indents.length }

/-- The greatest distance between a key and its colon. -/
def keyLimit : Nat := 1024

/-- Give up a pending key; one that must be a key cannot be given up. -/
def giveUp : Option PendingKey → Except Failure (Option PendingKey)
  | some key => if key.required then .error .malformed else .ok none
  | none => .ok none

/-- Give up the keys that are on another line or too far away. -/
def dropStale (cursor : Cursor) : List (Option PendingKey) →
    Except Failure (List (Option PendingKey))
  | [] => .ok []
  | entry :: outer => do
      let first ←
        match entry with
        | some key =>
            if key.place.line != cursor.line ||
                decide (keyLimit < cursor.offset - key.place.offset) then giveUp entry
            else .ok entry
        | none => .ok none
      let others ← dropStale cursor outer
      pure (first :: others)

/-- Give up the pending key of the innermost collection. -/
def removeKey (lexer : Lexer) : Except Failure Lexer :=
  match lexer.pending with
  | [] => .ok lexer
  | entry :: outer => do
      let first ← giveUp entry
      pure { lexer with pending := first :: outer }

/-- Remember that what comes next may be a key. -/
def saveKey (lexer : Lexer) : Except Failure Lexer :=
  if lexer.keyAllowed then do
    let cleared ← lexer.removeKey
    let required := !lexer.inFlow && lexer.indents.head? == some lexer.cursor.column
    pure { cleared with
      pending :=
        some ⟨lexer.count, required, lexer.cursor⟩ :: cleared.pending.drop 1 }
  else .ok lexer

/-- Whether a column is further in than all open block collections. -/
def deeper (column : Nat) (lexer : Lexer) : Bool := decide (lexer.leastIndent ≤ column)

/-- Open a block collection at a column, if it is further in than the others. -/
def openBlock (column : Nat) (token : Token) (number : Nat) (lexer : Lexer) : Lexer :=
  if lexer.deeper column then
    { lexer.emitAt number token with indents := column :: lexer.indents }
  else lexer

/-- White space, comments and line ends; behind a line end a key may stand. -/
def skipSpace : Nat → Lexer → Lexer
  | 0, lexer => lexer
  | fuel + 1, lexer =>
      let inner := lexer.cursor.skipSpaces
      let behind := if inner.rest.head? == some '#' then inner.skipLine else inner
      match behind.takeBreak with
      | ([], _) => lexer.moveTo behind
      | (_, next) =>
          skipSpace fuel
            { lexer with cursor := next, keyAllowed := lexer.keyAllowed || !lexer.inFlow }

/-- A directive, a document mark: everything that was open ends. -/
def betweenDocuments (lexer : Lexer) : Except Failure Lexer := do
  let cleared ← lexer.unwindAll.removeKey
  pure { cleared with keyAllowed := false }

def takeDirective (fuel : Nat) (lexer : Lexer) : Except Failure Lexer := do
  let cleared ← lexer.betweenDocuments
  let (value, behind) ← directive fuel lexer.cursor
  pure ((cleared.emit (.directive value)).moveTo behind)

def takeMark (token : Token) (lexer : Lexer) : Except Failure Lexer := do
  let cleared ← lexer.betweenDocuments
  pure ((cleared.emit token).moveTo (lexer.cursor.advanceBy 3))

/-- An opening bracket may begin a key. -/
def takeOpening (token : Token) (lexer : Lexer) : Except Failure Lexer := do
  let saved ← lexer.saveKey
  pure { (saved.emit token).moveTo lexer.cursor.advance with
    pending := none :: saved.pending
    keyAllowed := true }

/-- A closing bracket needs an opening one. -/
def takeClosing (token : Token) (lexer : Lexer) : Except Failure Lexer := do
  let cleared ← lexer.removeKey
  if cleared.inFlow then
    pure { (cleared.emit token).moveTo lexer.cursor.advance with
      pending := cleared.pending.drop 1
      keyAllowed := false }
  else .error .malformed

def takeComma (lexer : Lexer) : Except Failure Lexer := do
  let cleared ← lexer.removeKey
  pure { (cleared.emit .comma).moveTo lexer.cursor.advance with keyAllowed := true }

/-- The dash of a block list, which opens the list if it is further in. -/
def takeItem (lexer : Lexer) : Except Failure Lexer := do
  let opened ←
    if lexer.inFlow then pure lexer
    else if lexer.keyAllowed then
      pure (lexer.openBlock lexer.cursor.column .blockList lexer.count)
    else .error .malformed
  let cleared ← opened.removeKey
  pure { (cleared.emit .item).moveTo lexer.cursor.advance with keyAllowed := true }

/-- Open a block mapping for a key or a value that stands alone. -/
def openMap (lexer : Lexer) : Except Failure Lexer :=
  if lexer.inFlow then .ok lexer
  else if lexer.keyAllowed then
    .ok (lexer.openBlock lexer.cursor.column .blockMap lexer.count)
  else .error .malformed

def takeKey (lexer : Lexer) : Except Failure Lexer := do
  let opened ← lexer.openMap
  let cleared ← opened.removeKey
  pure { (cleared.emit .key).moveTo lexer.cursor.advance with keyAllowed := !lexer.inFlow }

/-- The colon before a value: what was pending becomes a key. -/
def takeValue (lexer : Lexer) : Except Failure Lexer :=
  match lexer.pending with
  | some key :: outer =>
      let keyed := { lexer.emitAt key.number .key with pending := none :: outer }
      let opened :=
        if lexer.inFlow then keyed else keyed.openBlock key.place.column .blockMap key.number
      .ok { (opened.emit .value).moveTo lexer.cursor.advance with keyAllowed := false }
  | _ => do
      let opened ← lexer.openMap
      let cleared ← opened.removeKey
      pure { (cleared.emit .value).moveTo lexer.cursor.advance with keyAllowed := !lexer.inFlow }

/-- A property of a node may begin a key. -/
def takeProperty {α : Type} (read : Cursor → Except Failure (α × Cursor)) (token : α → Token)
    (lexer : Lexer) : Except Failure Lexer := do
  let saved ← lexer.saveKey
  let (value, behind) ← read lexer.cursor
  pure { (saved.emit (token value)).moveTo behind with keyAllowed := false }

/-- A block ends with a line, so that a key may follow it. -/
def takeBlock (folded : Bool) (fuel : Nat) (lexer : Lexer) : Except Failure Lexer := do
  let cleared ← lexer.removeKey
  let (text, behind) ← blockScalar folded (max 1 lexer.leastIndent) fuel lexer.cursor
  pure { (cleared.emit (.scalar text false)).moveTo behind with keyAllowed := true }

def takePlain (fuel : Nat) (lexer : Lexer) : Except Failure Lexer := do
  let saved ← lexer.saveKey
  let (scalar, behind) := plainScalar lexer.inFlow lexer.leastIndent fuel lexer.cursor
  pure { (saved.emit (.scalar (String.ofList scalar.text) true)).moveTo behind with
    keyAllowed := scalar.brokeLine }

/-- Whether the mark that comes next stands alone; between brackets it need not. -/
def standsAlone (lexer : Lexer) (rest : List Char) : Bool := lexer.inFlow || atBlank rest

/--
The token that begins with the character that comes next; `fuel` bounds the characters to come.
-/
def takeToken (fuel : Nat) (c : Char) (rest : List Char) (lexer : Lexer) : Except Failure Lexer :=
  if c == '%' && lexer.cursor.column == 0 then lexer.takeDirective fuel
  else if lexer.cursor.atMark '-' then lexer.takeMark .documentStart
  else if lexer.cursor.atMark '.' then lexer.takeMark .documentEnd
  else if c == '[' then lexer.takeOpening .listOpen
  else if c == '\x7b' then lexer.takeOpening .mapOpen
  else if c == ']' then lexer.takeClosing .listClose
  else if c == '\x7d' then lexer.takeClosing .mapClose
  else if c == ',' then lexer.takeComma
  else if c == '-' && atBlank rest then lexer.takeItem
  else if c == '?' && lexer.standsAlone rest then lexer.takeKey
  else if c == ':' && lexer.standsAlone rest then lexer.takeValue
  else if c == '*' then lexer.takeProperty anchorName .alias
  else if c == '&' then lexer.takeProperty anchorName .anchor
  else if c == '!' then lexer.takeProperty (Yaml.tag fuel) .tag
  else if c == '|' && !lexer.inFlow then lexer.takeBlock false fuel
  else if c == '>' && !lexer.inFlow then lexer.takeBlock true fuel
  else if c == '\'' || c == '"' then
    lexer.takeProperty (quotedScalar c fuel) (fun text => .scalar text false)
  else if beginsPlain lexer.inFlow (c :: rest) then lexer.takePlain fuel
  else .error .malformed

/-- The end of the document. -/
def takeFinish (lexer : Lexer) : Except Failure Lexer := do
  let cleared ← lexer.unwindAll.removeKey
  pure (cleared.emit .finish)

/-- The first of the tokens that may still become a key. -/
def firstPending (lexer : Lexer) : Option Nat :=
  (lexer.pending.filterMap (·.map (·.number))).getLast?

/-- The tokens in front of a broken place; those that may still become keys are not among them. -/
def stop (failure : Failure) (lexer : Lexer) : List Token :=
  let emitted := lexer.emitted.reverse
  let kept :=
    match lexer.firstPending with
    | some number => emitted.take number
    | none => emitted
  kept ++ [.broken failure]

/-- The tokens from here on; `fuel` bounds the characters to come, of which each takes one. -/
def tokens : Nat → Lexer → List Token
  | 0, lexer => lexer.stop .malformed
  | fuel + 1, lexer =>
      let spaced := skipSpace fuel lexer
      match dropStale spaced.cursor spaced.pending with
      | .error failure => spaced.stop failure
      | .ok pending =>
          let ready := unwind spaced.cursor.column { spaced with pending }
          match ready.cursor.rest with
          | [] =>
              match ready.takeFinish with
              | .error failure => ready.stop failure
              | .ok last => last.emitted.reverse
          | c :: rest =>
              match ready.takeToken fuel c rest with
              | .error failure => ready.stop failure
              | .ok next => tokens fuel next

end Lexer

/-- The characters that a document may contain. -/
def isDocumentChar (c : Char) : Bool :=
  let code := c.toNat
  c == '\t' || c == '\n' || c == '\r' || c == '\x85' || (0x20 ≤ code && code ≤ 0x7E) ||
    (0xA0 ≤ code && code ≤ 0xFFFD) || 0x10000 ≤ code

def tokens (text : List Char) : List Token :=
  if text.all isDocumentChar then Lexer.tokens (text.length + 2) (Lexer.start text)
  else [.broken .malformed]

end Yaml
end ApiAccessors
