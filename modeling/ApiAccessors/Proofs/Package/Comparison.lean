import ApiAccessors.Proofs.Package.Emission
import Mathlib.Data.List.Forall2

namespace ApiAccessors
namespace Package

/-!
# Runs on two documents

The modules that are made for two documents are compared by a relation.  A module claims its names
by its title and for its resources, so if related modules differ only in what they contain, both
runs claim the same names.  Then it is enough to compare the modules of single units: the relation
carries over to all modules, and both runs report the same.
-/

/-- Two modules that differ at most in what they contain. -/
def SameNames (left right : AccessorModule) : Prop :=
  right = { left with
    operations := right.operations, apiTitle := right.apiTitle, apiVersion := right.apiVersion }

/-- A relation between the modules of units that does not depend on their final names. -/
structure Compares (spec other : Value) (relation : AccessorModule → AccessorModule → Prop) :
    Prop where
  made : ∀ {title : String} {members : List String} {result : Option AccessorModule}
    {log after : List LogEntry},
    (buildModule spec title members).outcome log = some (result, after) →
      ∃ otherResult, (buildModule other title members).outcome log = some (otherResult, after) ∧
        Option.Rel relation result otherResult
  sameNames : ∀ {left right : AccessorModule}, relation left right → SameNames left right
  renamed : ∀ {left right : AccessorModule} (className fileName : String), relation left right →
    relation { left with className := className, fileName := fileName }
      { right with className := className, fileName := fileName }

namespace Compares

variable {spec other : Value} {relation : AccessorModule → AccessorModule → Prop}
  (compares : Compares spec other relation)

include compares

/-- Related modules claim the same names, and are related with them as well. -/
theorem exists_claimNames {plain otherPlain claimed : AccessorModule} {taken : List String}
    {log after : List LogEntry} (related : relation plain otherPlain)
    (named : (claimNames taken plain).outcome log = some (claimed, after)) :
    ∃ otherClaimed, (claimNames taken otherPlain).outcome log = some (otherClaimed, after) ∧
      relation claimed otherClaimed := by
  have same := compares.sameNames related
  have renamed := fun className fileName => compares.renamed className fileName related
  rw [same] at related renamed ⊢
  unfold claimNames at named ⊢
  dsimp only at named ⊢
  split at named
  · next plainNames =>
    rw [if_pos plainNames]
    cases named
    exact ⟨_, rfl, related⟩
  · next otherNames =>
    rw [if_neg otherNames]
    cases named
    exact ⟨_, rfl, renamed _ _⟩

/-- The modules of both runs are related one by one. -/
theorem exists_buildModules {taken : List String} {groups : List (String × List String)}
    {modules : List AccessorModule} {log after : List LogEntry}
    (ended : (buildModules spec taken groups).outcome log = some (modules, after)) :
    ∃ otherModules, (buildModules other taken groups).outcome log = some (otherModules, after) ∧
      List.Forall₂ relation modules otherModules := by
  induction groups generalizing taken log after modules with
  | nil =>
      cases ended
      exact ⟨[], rfl, .nil⟩
  | cons group rest ih =>
      rcases group with ⟨title, members⟩
      rcases Logged.outcome_bind_eq_some_iff.mp ended with ⟨result, between, built, later⟩
      rcases compares.made built with ⟨otherResult, otherBuilt, related⟩
      cases related with
      | none =>
          rcases ih later with ⟨otherModules, otherLater, others⟩
          exact ⟨otherModules, (Logged.outcome_bind_of_some otherBuilt).trans otherLater, others⟩
      | some related =>
          rcases Logged.outcome_bind_eq_some_iff.mp later with ⟨claimed, middle, named, later⟩
          rcases Logged.outcome_bind_eq_some_iff.mp later with ⟨restModules, _, restEnded, equal⟩
          cases equal
          rcases compares.exists_claimNames related named with
            ⟨otherClaimed, otherNamed, relatedClaimed⟩
          -- The same names are taken for the groups behind.
          have same := compares.sameNames relatedClaimed
          have taken : otherClaimed.fileName :: otherClaimed.className :: taken =
              claimed.fileName :: claimed.className :: taken := by
            rw [same]
          rcases ih restEnded with ⟨otherModules, otherLater, others⟩
          rw [← taken] at otherLater
          exact ⟨otherClaimed :: otherModules, (Logged.outcome_bind_of_some otherBuilt).trans
            ((Logged.outcome_bind_of_some otherNamed).trans
              (Logged.outcome_bind_of_some otherLater)), .cons relatedClaimed others⟩

end Compares

end Package
end ApiAccessors
