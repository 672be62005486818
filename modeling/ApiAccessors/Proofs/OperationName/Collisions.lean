import ApiAccessors.Api.OperationName
import Mathlib.Data.List.Infix

namespace ApiAccessors
namespace OperationName

/-!
# Operations of one path

The candidates for the operations of a path are made from one resource and one path, so only their
verbs can tell them apart.  The name of an action leaves the verb out.  Every other name begins with
its verb or, where something is created, with another word in its place; and of all these words none
begins another one.  What follows them may be any text, even one that begins with a verb itself.

Which of the rules a path falls under is not looked at: a name begins with a word of its verb under
all of them.
-/

/-- The words that a name other than that of an action can begin with. -/
def openings : String → List String
  | "post" => ["post", "create"]
  | verb => [verb]

/-- A name begins with a word of its verb. -/
def OpensWith (verb name : String) : Prop := ∃ word ∈ openings verb, word.toList <+: name.toList

theorem OpensWith.append {verb name : String} (opens : OpensWith verb name) (behind : String) :
    OpensWith verb (name ++ behind) := by
  rcases opens with ⟨word, isOpening, begins⟩
  refine ⟨word, isOpening, begins.trans ?_⟩
  rw [String.toList_append]
  exact List.prefix_append _ _

theorem opensWith_of_mem {verb word : String} (isOpening : word ∈ openings verb) :
    OpensWith verb word :=
  ⟨word, isOpening, List.prefix_refl _⟩

theorem mem_openings (verb : String) : verb ∈ openings verb := by
  unfold openings
  split <;> exact List.mem_cons_self

/-- No word of a verb begins a word of another one, so a name begins with words of one verb only. -/
theorem OpensWith.unique {first second name : String} (isFirst : first ∈ Resource.verbs)
    (isSecond : second ∈ Resource.verbs) (opens : OpensWith first name)
    (otherOpens : OpensWith second name) : first = second := by
  have apart : ∀ first ∈ Resource.verbs, ∀ second ∈ Resource.verbs,
      ∀ word ∈ openings first, ∀ other ∈ openings second,
        word.toList <+: other.toList → first = second := by
    decide
  rcases opens with ⟨word, isOpening, begins⟩
  rcases otherOpens with ⟨other, isOther, otherBegins⟩
  rcases List.prefix_or_prefix_of_prefix begins otherBegins with within | within
  · exact apart first isFirst second isSecond word isOpening other isOther within
  · exact (apart second isSecond first isFirst other isOther word isOpening within).symm

/-- What stands between the resource and the ending of a name. -/
inductive IsNoun : String → Prop
  | nothing : IsNoun ""
  | collection : IsNoun "Collection"
  | item : IsNoun "Item"
  | itemBy (parameter : String) : IsNoun ("ItemBy" ++ Naming.pascalCase parameter)

/-- A name is made of a word of its verb, the resource and a noun. -/
def IsNamed (base method name : String) : Prop :=
  ∃ word ∈ openings method, ∃ noun, IsNoun noun ∧ name = word ++ base ++ noun ++ ending

section

variable {base path method name : String}

theorem isNamed_of_table (isName : collectionName? base method = some name ∨
    itemName? base method = some name) : IsNamed base method name := by
  rcases isName with isName | isName
  · unfold collectionName? at isName
    split at isName <;> cases isName
    · exact ⟨_, by decide, _, .collection, rfl⟩
    · exact ⟨_, by decide, _, .item, rfl⟩
  · unfold itemName? at isName
    split at isName <;> cases isName
    all_goals exact ⟨_, by decide, _, .item, rfl⟩

private theorem mem_openings_of_lookupVerb? {verb : String}
    (isVerb : lookupVerb? method = some verb) : verb ∈ openings method := by
  unfold lookupVerb? at isVerb
  split at isVerb <;> cases isVerb
  all_goals decide

theorem isNamed_plainName (base path method : String) :
    IsNamed base method (plainName base path method) := by
  have plain : IsNamed base method (method ++ base ++ ending) :=
    ⟨method, mem_openings method, _, .nothing, by rw [String.append_empty]⟩
  have item : IsNamed base method ((itemName? base method).getD (method ++ base ++ ending)) := by
    cases isName : itemName? base method with
    | none => exact plain
    | some name => exact isNamed_of_table (Or.inr isName)
  unfold plainName
  split
  · split
    · rename_i isName
      exact isNamed_of_table (Or.inl isName)
    · split
      · exact item
      · exact plain
  · rename_i parameter _ _
    split
    · exact item
    · split
      · rename_i isVerb
        refine ⟨_, mem_openings_of_lookupVerb? isVerb, _, .itemBy parameter, ?_⟩
        simp only [String.append_assoc]
      · exact plain

theorem opensWith_plainName (base path method : String) :
    OpensWith method (plainName base path method) := by
  rcases isNamed_plainName base path method with ⟨word, isOpening, noun, -, same⟩
  rw [same]
  exact (((opensWith_of_mem isOpening).append base).append noun).append ending

end

/-- The operations of a path with a resource all have a candidate.  Those of two different verbs
have the same one if and only if the path is that of an action, whatever the resource and the
parameters are called. -/
theorem candidates_collide_iff {spec : Value} {path resource : String}
    (isResource : Resource.ofPath spec path = .ok resource) (notEmpty : resource ≠ "") :
    (∀ verb, ∃ name, candidate spec path verb = .ok name) ∧
      ∀ first ∈ Resource.verbs, ∀ second ∈ Resource.verbs, first ≠ second →
        (candidate spec path first = candidate spec path second ↔
          ∃ word, Path.action path = some word) := by
  have isCandidate : ∀ verb, candidate spec path verb = .ok (ofResource resource path verb) := by
    intro verb
    unfold candidate
    rw [isResource]
    exact congrArg Except.ok (if_neg (mt String.isEmpty_iff.mp notEmpty))
  refine ⟨fun verb => ⟨_, isCandidate verb⟩, ?_⟩
  intro first isFirst second isSecond different
  rw [isCandidate, isCandidate, Except.ok.injEq]
  cases isAction : Path.action path with
  | some word =>
      have named : ∀ verb, ofResource resource path verb =
          Naming.camelCase word ++ Naming.pascalCase resource ++ ending := by
        intro verb
        rw [ofResource, isAction]
      exact iff_of_true ((named first).trans (named second).symm) ⟨word, rfl⟩
  | none =>
      have opens : ∀ verb, OpensWith verb (ofResource resource path verb) := by
        intro verb
        rw [ofResource, isAction]
        exact opensWith_plainName _ path verb
      refine iff_of_false ?_ (fun ⟨_, isWord⟩ => nomatch isWord)
      intro same
      exact different (OpensWith.unique isFirst isSecond (same ▸ opens first) (opens second))

/-- A document that says nothing about its paths. -/
def silentSpec : Value := .record [("paths", .empty)]

theorem candidates_collide_iff_createPost :
    candidate silentSpec "/api/create/\x7bpost\x7d" "get" ≠
        candidate silentSpec "/api/create/\x7bpost\x7d" "post" ∧
      candidate silentSpec "/api/create/\x7bpost\x7d/post" "get" =
        candidate silentSpec "/api/create/\x7bpost\x7d/post" "post" := by
  have lookup : Resource.ofPath silentSpec "/api/create/\x7bpost\x7d" = .ok "create" := by
    decide
  have action : Resource.ofPath silentSpec "/api/create/\x7bpost\x7d/post" = .ok "create" := by
    decide
  have noWord : Path.action "/api/create/\x7bpost\x7d" = none := by decide
  have apart := (candidates_collide_iff lookup (by decide)).2 "get" (by decide) "post" (by decide)
    (by decide)
  have collide := (candidates_collide_iff action (by decide)).2 "get" (by decide) "post" (by decide)
    (by decide)
  refine ⟨mt apart.mp ?_, collide.mpr ⟨"post", by decide⟩⟩
  rintro ⟨word, isWord⟩
  cases noWord.symm.trans isWord

end OperationName
end ApiAccessors
