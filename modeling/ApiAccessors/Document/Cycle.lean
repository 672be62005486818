import ApiAccessors.Document.Basic

namespace ApiAccessors

/-!
# Collections that contain themselves

A collection that contains itself is a finite value in which a number stands for it.  Unfolding it
puts the collection back in the place of its number, once for each place, so that its parts can be
taken out of it and still be complete.
-/

namespace Value

mutual

/-- A value in which a collection stands in the place of its number. -/
def putBack (number : Nat) (whole : Value) : Value → Value
  | .again other => if other = number then whole else .again other
  | .list items => .list (putBackItems number whole items)
  | .tuple items => .tuple (putBackItems number whole items)
  | .map entries => .map (putBackEntries number whole entries)
  | .cyclic other body =>
      if other = number then .cyclic other body else .cyclic other (putBack number whole body)
  | other => other

/-- The items of a list or tuple. -/
def putBackItems (number : Nat) (whole : Value) : List Value → List Value
  | [] => []
  | item :: rest => putBack number whole item :: putBackItems number whole rest

/-- The entries of a mapping, whose keys are scalars. -/
def putBackEntries (number : Nat) (whole : Value) : List (Value × Value) → List (Value × Value)
  | [] => []
  | (key, value) :: rest => (key, putBack number whole value) :: putBackEntries number whole rest

end

/-- A value whose outermost form can be seen. -/
def unfolded : Value → Value
  | .cyclic number body => putBack number (.cyclic number body) body
  | other => other

def entries? (value : Value) : Option Entries :=
  match value.unfolded with
  | .map entries => some entries
  | _ => none

end Value
end ApiAccessors
