import ApiAccessors.Client
import ApiAccessors.Proofs.Outcome
import ApiAccessors.Proofs.Path.Parameters
import Mathlib.Data.List.TakeWhile

namespace ApiAccessors
namespace Client

/-!
# The path of a call

A client puts values in the places of the parameters of a path.  All of them are put in at once: the
path is cut at its parameters before anything is filled in, and a value is never looked at again,
even if it contains braces.  A prefix comes in front of the filled path, with one slash between the
two however many slashes end the one and begin the other.

An integer that is too long has no text.  The call then stops in the way in which writing the
integer does.
-/

/-- What stands in the place of a parameter: the text of its value or, without one, the parameter
itself. -/
def placed (parameters : Entries) (name : List Char) : List Char :=
  match Entries.field? parameters (String.ofList name) with
  | none => Path.braced name
  | some .null => Path.braced name
  | some value => value.display.toList

/-- Whether there is a text for the place of a parameter. -/
def hasText (parameters : Entries) (name : List Char) : Bool :=
  (Entries.field? parameters (String.ofList name)).all (fun value => !value.hasLongInteger)

section

variable (parameters : Entries)

def pieceHasText : Path.Piece → Bool
  | .char _ => true
  | .parameter name => hasText parameters name

theorem fillPiece_eq (piece : Path.Piece) :
    fillPiece (.map parameters) piece =
      if pieceHasText parameters piece then
        .ok (match piece with
          | .char c => [c]
          | .parameter name => placed parameters name)
      else .error .badValue := by
  cases piece with
  | char c => rfl
  | parameter name =>
      cases given : Entries.field? parameters (String.ofList name) with
      | none =>
          simp only [fillPiece, placed, pieceHasText, hasText, given]
          rfl
      | some value =>
          have spelled : value.spell.map String.toList =
              if (!value.hasLongInteger) = true then .ok value.display.toList
              else .error .badValue := by
            unfold Value.spell
            cases value.hasLongInteger <;> rfl
          simp only [fillPiece, placed, pieceHasText, hasText, given, Option.all_some]
          cases value with
          | null => rfl
          | _ => exact spelled

theorem hasText_iff (pieces : List Path.Piece) :
    (∀ piece ∈ pieces, pieceHasText parameters piece = true) ↔
      ∀ name ∈ (Path.cutOf pieces).names, hasText parameters name = true := by
  constructor
  · exact fun texts name isName => texts _ (Path.mem_names_cutOf.mp isName)
  · intro texts piece member
    cases piece with
    | char c => rfl
    | parameter name => exact texts name (Path.mem_names_cutOf.mpr member)

/-- Filling a path takes its pieces one by one. -/
theorem fill_eq (path : String) :
    fill (.text path) (.map parameters) =
      if ∀ name ∈ (Path.cutOf (Path.pieces path.toList)).names, hasText parameters name = true
      then .ok ((Path.cutOf (Path.pieces path.toList)).fill (placed parameters))
      else .error .badValue := by
  have given : (if (Value.map parameters).truthy then Value.map parameters else .empty) =
      .map parameters := by
    cases parameters with
    | nil => rfl
    | cons first rest => rfl
  unfold fill
  simp only [given]
  rw [Outcome.mapM_eq_ite (fun piece _ => fillPiece_eq parameters piece), Path.fill_cutOf,
    List.flatMap_def]
  simp only [hasText_iff]
  split <;> rfl

end

section

variable (text : List Char)

end

section

variable {settings : List (String × Value)} {client : Client}

end

end Client
end ApiAccessors
