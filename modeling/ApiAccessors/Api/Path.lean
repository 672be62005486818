import ApiAccessors.Text.Split

namespace ApiAccessors
namespace Path

/-!
# Paths of an interface

A path is a text whose segments stand between slashes.  Parts of it in curly braces are parameters:
`pieces` cuts a path into parameters and the characters around them.
-/

def segments (path : String) : List String :=
  ((Text.splitWhere (· == '/') path.toList).filter (fun part => !part.isEmpty)).map String.ofList

/-- Whether a segment holds a parameter. -/
def isParameter (segment : String) : Bool := segment.toList.contains '\x7b'

/-- The segment that stands in front of all resources. -/
def root : String := "api"

/-- A character of a path, or a parameter in braces. -/
inductive Piece where
  | char (value : Char)
  | parameter (name : List Char)
deriving DecidableEq, Repr

/--
The pieces of a path, with what has been read behind an opening brace, in reverse, if there is one.
Braces that never close, or that have nothing between them, are ordinary characters.
-/
def piecesFrom : Option (List Char) → List Char → List Piece
  | none, [] => []
  | some read, [] => .char '\x7b' :: read.reverse.map .char
  | none, c :: rest =>
      if c = '\x7b' then piecesFrom (some []) rest else .char c :: piecesFrom none rest
  | some read, c :: rest =>
      if c = '\x7d' then
        match read with
        | [] => .char '\x7b' :: .char c :: piecesFrom none rest
        | _ :: _ => .parameter read.reverse :: piecesFrom none rest
      else piecesFrom (some (c :: read)) rest

def pieces (path : List Char) : List Piece := piecesFrom none path

def Piece.text : Piece → List Char
  | .char value => [value]
  | .parameter name => '\x7b' :: (name ++ ['\x7d'])

/-- The pieces of a path make up the path. -/
theorem text_piecesFrom (opened : Option (List Char)) (path : List Char) :
    (piecesFrom opened path).flatMap Piece.text =
      (match opened with
        | none => path
        | some read => '\x7b' :: (read.reverse ++ path)) := by
  have chars : ∀ text : List Char, (text.map Piece.char).flatMap Piece.text = text := by
    intro text
    induction text with
    | nil => rfl
    | cons c rest ih => simpa [List.flatMap_cons, Piece.text] using ih
  induction path generalizing opened with
  | nil =>
      cases opened with
      | none => rfl
      | some read => simpa [piecesFrom, Piece.text] using chars read.reverse
  | cons c rest ih =>
      cases opened with
      | none =>
          simp only [piecesFrom]
          split
          · rename_i opening
            simp [ih, opening]
          · simp [ih, Piece.text]
      | some read =>
          simp only [piecesFrom]
          split
          · rename_i closing
            cases read <;> simp [ih, Piece.text, closing]
          · simp [ih]

theorem text_pieces (path : List Char) : (pieces path).flatMap Piece.text = path :=
  text_piecesFrom none path

/-- The names of the parameters, in order. -/
def parameters (path : String) : List String :=
  (pieces path.toList).filterMap (fun piece =>
    match piece with
    | .char _ => none
    | .parameter name => some (String.ofList name))

/-- The parameter that tells the items of a collection apart. -/
def itemParameter : List Char := ['\x7b', 'i', 'd', '\x7d']

def isItem (path : String) : Bool := Text.occursIn itemParameter path.toList

def isCollection (path : String) : Bool := !isItem path

/-- The position of the resource: behind the first root segment, unless a parameter stands there. -/
def resourceIndexFrom : Nat → List String → Option Nat
  | _, [] => none
  | _, [_] => none
  | index, segment :: next :: rest =>
      if segment = root then if isParameter next then none else some (index + 1)
      else resourceIndexFrom (index + 1) (next :: rest)

def resourceIndex (path : String) : Option Nat := resourceIndexFrom 0 (segments path)

/-- The segments behind the first one that satisfies the test, that one included. -/
def fromFirst (test : String → Bool) (segments : List String) : List String :=
  segments.dropWhile (fun segment => !test segment)

/--
The word of an action: the last segment, if it is no parameter and at least one more stands between
it and the segment that follows the root.
-/
def action (path : String) : Option String :=
  let rest := (fromFirst (· == root) (segments path)).drop 2
  match rest.getLast? with
  | some word => if 2 ≤ rest.length && !isParameter word then some word else none
  | none => none

end Path
end ApiAccessors
