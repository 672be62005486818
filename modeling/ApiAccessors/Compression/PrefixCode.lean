namespace ApiAccessors

/-!
# Prefix codes

A code gives each of the symbols from zero on a row of bits, so that no row begins with another one.
It is known from the lengths of the rows alone: shorter rows come before longer ones, and rows of
one length follow each other in the order of their symbols.
-/

/-- A code, by how many rows of bits there are of each length from one on, and by its symbols. -/
structure PrefixCode where
  counts : List Nat
  symbols : List Nat
deriving DecidableEq, Repr

namespace PrefixCode

/-- No row of bits is longer. -/
def lengthLimit : Nat := 15

/-- The code whose symbols have rows of the given lengths; a symbol of length zero has none. -/
def ofLengths (lengths : List Nat) : PrefixCode :=
  let numbered := lengths.zipIdx
  let places := (List.range lengthLimit).map (· + 1)
  let longest := lengths.foldl max 0
  { counts := (places.map (fun length => lengths.count length)).take longest
    symbols := places.flatMap (fun length =>
      (numbered.filter (fun symbol => symbol.1 = length)).map (·.2)) }

def isEmpty (code : PrefixCode) : Bool := code.symbols.isEmpty

/--
How many rows of the greatest length are still free when all symbols have theirs; nothing if there
are too many symbols.
-/
def free? (code : PrefixCode) : Option Nat :=
  code.counts.foldl (fun left count =>
    left.bind (fun left => if 2 * left < count then none else some (2 * left - count))) (some 1)

/-- Whether every row of bits leads to a symbol. -/
def isComplete (code : PrefixCode) : Bool := code.free? == some 0

/-- Whether there is but one symbol, with a single bit, or none at all. -/
def isTiny (code : PrefixCode) : Bool := code.isEmpty || code.counts == [1]

/-- What the beginning of a row of bits leads to. -/
inductive Found where
  | symbol (symbol : Nat) (rest : List Bool)
  /-- The bits end inside a row. -/
  | short
  /-- No row begins like this. -/
  | nothing
deriving DecidableEq, Repr

/--
Follow bits to a symbol.  `ahead` is how far the bits so far are behind the first row of their
length, and the symbols are those that have not been passed.
-/
def follow : List Nat → List Nat → Nat → List Bool → Found
  | [], _, _, _ => .nothing
  | _ :: _, _, _, [] => .short
  | count :: counts, symbols, ahead, bit :: rest =>
      let place := 2 * ahead + bit.toNat
      if place < count then
        match symbols[place]? with
        | some symbol => .symbol symbol rest
        | none => .nothing
      else follow counts (symbols.drop count) (place - count) rest

/-- The symbol that bits begin with.  A code without symbols looks at one bit. -/
def find (code : PrefixCode) (bits : List Bool) : Found :=
  follow (if code.isEmpty then [0] else code.counts) code.symbols 0 bits

end PrefixCode
end ApiAccessors
