import ApiAccessors.Api.Path
import Mathlib.Data.List.Infix

namespace ApiAccessors
namespace Path

/-!
# Where the parameters of a path are

A path is read from left to right.  Wherever a name in braces begins it is taken as a parameter, and
reading goes on behind it; a brace that no name follows is an ordinary character.  So the parameters
cut a path into gaps, and a path has one such cut only: no parameter begins in a gap, even if the
text behind the gap is taken into account.
-/

/-- A text that can be the name of a parameter. -/
def IsName (name : List Char) : Prop := name ≠ [] ∧ '\x7d' ∉ name

def braced (name : List Char) : List Char := '\x7b' :: (name ++ ['\x7d'])

/-- A parameter begins where the text begins. -/
def Opens (text : List Char) : Prop := ∃ name rest, IsName name ∧ text = braced name ++ rest

/-- A parameter stands somewhere in the text. -/
def Holds (text : List Char) : Prop := ∃ before after, text = before ++ after ∧ Opens after

/-- No parameter begins in a gap, with the text behind it taken into account. -/
def IsSilent (gap behind : List Char) : Prop :=
  ∀ before after, gap = before ++ after → after ≠ [] → ¬ Opens (after ++ behind)

/-- A path in parts: the text in front of the first parameter, and the name of each parameter with
the text behind it. -/
structure Cut where
  first : List Char
  later : List (List Char × List Char)

namespace Cut

def names (cut : Cut) : List (List Char) := cut.later.map (·.1)

def gaps (cut : Cut) : List (List Char) := cut.first :: cut.later.map (·.2)

/-- The path with something in the place of each parameter. -/
def fill (cut : Cut) (form : List Char → List Char) : List Char :=
  cut.first ++ cut.later.flatMap (fun part => form part.1 ++ part.2)

end Cut

/-- A path is cut at its parameters. -/
inductive IsCut : List Char → Cut → Prop
  | last {gap : List Char} (silent : IsSilent gap []) : IsCut gap ⟨gap, []⟩
  | next {gap name rest : List Char} {cut : Cut} (isName : IsName name)
      (silent : IsSilent gap (braced name ++ rest)) (later : IsCut rest cut) :
      IsCut (gap ++ (braced name ++ rest)) ⟨gap, (name, cut.first) :: cut.later⟩

/-- The cut at the parameters among some pieces. -/
def cutOf : List Piece → Cut
  | [] => ⟨[], []⟩
  | .char c :: rest => ⟨c :: (cutOf rest).first, (cutOf rest).later⟩
  | .parameter name :: rest => ⟨[], (name, (cutOf rest).first) :: (cutOf rest).later⟩

section

variable {text rest other : List Char} {c : Char}

theorem Opens.append (opens : Opens text) (more : List Char) : Opens (text ++ more) := by
  rcases opens with ⟨name, behind, isName, rfl⟩
  exact ⟨name, behind ++ more, isName, List.append_assoc _ _ _⟩

theorem opens_braced {name : List Char} (isName : IsName name) (rest : List Char) :
    Opens (braced name ++ rest) := ⟨name, rest, isName, rfl⟩

theorem IsSilent.cons {gap behind : List Char} (closed : ¬ Opens (c :: (gap ++ behind)))
    (silent : IsSilent gap behind) : IsSilent (c :: gap) behind := by
  intro before after same notEmpty
  cases before with
  | nil =>
      rw [← show c :: gap = after from same]
      exact closed
  | cons d others => exact silent others after (List.cons_eq_cons.mp same).2 notEmpty

/-- A parameter that stands in a gap begins there. -/
theorem IsSilent.not_holds {gap behind : List Char} (silent : IsSilent gap behind) :
    ¬ Holds gap := by
  rintro ⟨before, after, same, opens⟩
  refine silent before after same ?_ (opens.append behind)
  rintro rfl
  rcases opens with ⟨name, rest, -, isEmpty⟩
  cases isEmpty

/-- A text in braces is a name up to the first brace that closes. -/
theorem eq_of_braced_eq {name otherName : List Char} (isName : IsName name)
    (isOther : IsName otherName) (same : braced name ++ rest = braced otherName ++ other) :
    name = otherName ∧ rest = other := by
  have upTo : ∀ {name : List Char} (behind : List Char), IsName name →
      (name ++ '\x7d' :: behind).takeWhile (· != '\x7d') = name := by
    intro name behind isName
    have plain : ∀ c ∈ name, (c != '\x7d') = true := fun c member =>
      bne_iff_ne.mpr (fun closes => isName.2 (closes ▸ member))
    rw [List.takeWhile_append_of_pos plain, List.takeWhile_cons_of_neg (by simp), List.append_nil]
  have tails : name ++ '\x7d' :: rest = otherName ++ '\x7d' :: other := by
    simpa [braced] using same
  have sameName : name = otherName := by
    rw [← upTo rest isName, tails, upTo other isOther]
  subst sameName
  exact ⟨rfl, (List.cons_eq_cons.mp (List.append_cancel_left tails)).2⟩

end

section

variable {path : List Char} {pieces : List Piece} {cut : Cut}

theorem IsCut.isName (isCut : IsCut path cut) : ∀ name ∈ cut.names, IsName name := by
  induction isCut with
  | last _ => exact List.forall_mem_nil _
  | next isName _ _ ih => exact List.forall_mem_cons.mpr ⟨isName, ih⟩

theorem IsCut.not_holds (isCut : IsCut path cut) : ∀ gap ∈ cut.gaps, ¬ Holds gap := by
  induction isCut with
  | last silent => exact List.forall_mem_cons.mpr ⟨silent.not_holds, List.forall_mem_nil _⟩
  | next _ silent _ ih => exact List.forall_mem_cons.mpr ⟨silent.not_holds, ih⟩

/-- A cut has no parameter just if its path holds none; else it begins with the first one. -/
theorem IsCut.cases (isCut : IsCut path cut) :
    (cut = ⟨path, []⟩ ∧ ¬ Holds path) ∨
      ∃ gap name rest tail, path = gap ++ (braced name ++ rest) ∧
        cut = ⟨gap, (name, tail.first) :: tail.later⟩ ∧ IsName name ∧
        IsSilent gap (braced name ++ rest) ∧ IsCut rest tail := by
  cases isCut with
  | last silent => exact Or.inl ⟨rfl, silent.not_holds⟩
  | next isName silent later =>
      exact Or.inr ⟨_, _, _, _, rfl, rfl, isName, silent, later⟩

/-- A gap ends where the next parameter begins. -/
theorem IsSilent.eq_nil {gap more name otherName rest other : List Char} (isName : IsName name)
    (silent : IsSilent (gap ++ more) (braced otherName ++ other))
    (same : braced name ++ rest = more ++ (braced otherName ++ other)) : more = [] := by
  by_contra notEmpty
  exact silent gap more rfl notEmpty (same ▸ opens_braced isName rest)

/-- There is only one way to cut a path at its parameters. -/
theorem IsCut.unique {other : Cut} (isCut : IsCut path cut) (isOther : IsCut path other) :
    other = cut := by
  induction isCut generalizing other with
  | last silent =>
      rcases isOther.cases with ⟨same, -⟩ | ⟨gap, name, rest, tail, rfl, -, isName, -, -⟩
      · exact same
      · exact absurd ⟨gap, _, rfl, opens_braced isName rest⟩ silent.not_holds
  | @next gap name rest tail isName silent _ ih =>
      rcases isOther.cases with ⟨-, noHolds⟩ |
        ⟨otherGap, otherName, otherRest, otherTail, same, rfl, isOtherName, otherSilent, later⟩
      · exact absurd ⟨gap, _, rfl, opens_braced isName rest⟩ noHolds
      · have sameGap : otherGap = gap := by
          rcases List.append_eq_append_iff.mp same with ⟨more, rfl, behind⟩ | ⟨more, rfl, behind⟩
          · rw [otherSilent.eq_nil isName behind, List.append_nil]
          · rw [silent.eq_nil isOtherName behind, List.append_nil]
        subst sameGap
        rcases eq_of_braced_eq isName isOtherName (List.append_cancel_left same) with ⟨rfl, rfl⟩
        rw [ih later]

theorem fill_cutOf (form : List Char → List Char) (pieces : List Piece) :
    (cutOf pieces).fill form = pieces.flatMap (fun piece =>
      match piece with
      | .char c => [c]
      | .parameter name => form name) := by
  induction pieces with
  | nil => rfl
  | cons piece rest ih =>
      rw [List.flatMap_cons, ← ih]
      cases piece with
      | char c => rfl
      | parameter name => simp [cutOf, Cut.fill]

theorem mem_names_cutOf {name : List Char} {pieces : List Piece} :
    name ∈ (cutOf pieces).names ↔ .parameter name ∈ pieces := by
  induction pieces with
  | nil => exact iff_of_false List.not_mem_nil List.not_mem_nil
  | cons piece rest ih =>
      cases piece with
      | char c => simpa [cutOf, Cut.names] using ih
      | parameter other => simpa [cutOf, Cut.names] using or_congr Iff.rfl ih

theorem parameters_eq_names (path : String) :
    parameters path = (cutOf (Path.pieces path.toList)).names.map String.ofList := by
  unfold parameters
  generalize Path.pieces path.toList = pieces
  induction pieces with
  | nil => rfl
  | cons piece rest ih =>
      cases piece with
      | char c => exact ih
      | parameter name => exact congrArg (String.ofList name :: ·) ih

end

end Path
end ApiAccessors
