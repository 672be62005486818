import ApiAccessors.Proofs.Naming.Characters
import ApiAccessors.Proofs.OperationName.Collisions
import ApiAccessors.Proofs.OperationName.Unique

namespace ApiAccessors
namespace OperationName

/-!
# The form of names

A candidate with a resource ends in what all names end in, whichever rule it was made by.  Settling
it may put a word behind its verb or a number behind its end.  The word stands in front of the
ending because no verb reaches into it, and a number is a row of digits, so the ending stays where
it is.  Neither the rules nor the changes bring in an underscore.

An operation without a resource has its bare verb for a candidate.  Here settling gives a verb with
a word or with a number, which need not end like the other names.
-/

/-- A name ends in what all names end in, possibly with digits behind it. -/
def HasEnding (name : String) : Prop :=
  ∃ front digits : String, name = front ++ ending ++ digits ∧
    ∀ c ∈ digits.toList, Text.isAsciiDigit c = true

/-- What can be the name of an operation whose candidate is its bare verb. -/
inductive ExtendsVerb (path verb : String) : String → Prop
  | bare : ExtendsVerb path verb verb
  | word {segment : String} (member : segment ∈ distinctive path) :
      ExtendsVerb path verb (verb ++ Naming.pascalCase segment)
  | number (number : Nat) : ExtendsVerb path verb (numbered verb number)

/-- What settling can make of a candidate. -/
inductive Settles (path name : String) : String → Prop
  | kept : Settles path name name
  | inserted {variant : String} (member : variant ∈ variants name path) : Settles path name variant
  | numbered (number : Nat) : Settles path name (numbered name number)

/-- A name that has no underscore in front of its ending and nothing behind it. -/
private def IsBuilt (name : String) : Prop :=
  ∃ front : String, '_' ∉ front.toList ∧ name = front ++ ending

private theorem not_mem_append {c : Char} {left right : String} (notLeft : c ∉ left.toList)
    (notRight : c ∉ right.toList) : c ∉ (left ++ right).toList := by
  rw [String.toList_append, List.mem_append]
  exact not_or_intro notLeft notRight

section

variable {base path method : String}

private theorem underscore_not_mem_noun {noun : String} (isNoun : IsNoun noun) :
    '_' ∉ noun.toList := by
  cases isNoun with
  | nothing => decide
  | collection => decide
  | item => decide
  | itemBy parameter =>
      exact not_mem_append (by decide) (Naming.underscore_not_mem_pascalCase parameter)

private theorem underscore_not_mem_opening {word : String} (methodWithout : '_' ∉ method.toList)
    (isOpening : word ∈ openings method) : '_' ∉ word.toList := by
  unfold openings at isOpening
  split at isOpening
  · have plain : ∀ word ∈ ["post", "create"], '_' ∉ word.toList := by decide
    exact plain word isOpening
  · exact List.mem_singleton.mp isOpening ▸ methodWithout

private theorem isBuilt_plainName (baseWithout : '_' ∉ base.toList)
    (methodWithout : '_' ∉ method.toList) : IsBuilt (plainName base path method) := by
  rcases isNamed_plainName base path method with ⟨word, isOpening, noun, isNoun, same⟩
  refine ⟨word ++ base ++ noun, ?_, same⟩
  exact not_mem_append (not_mem_append (underscore_not_mem_opening methodWithout isOpening)
    baseWithout) (underscore_not_mem_noun isNoun)

private theorem isBuilt_ofResource (resource : String) (methodWithout : '_' ∉ method.toList) :
    IsBuilt (ofResource resource path method) := by
  have baseWithout := Naming.underscore_not_mem_pascalCase resource
  unfold ofResource
  split
  · exact ⟨_, not_mem_append (Naming.underscore_not_mem_camelCase _) baseWithout, rfl⟩
  · exact isBuilt_plainName baseWithout methodWithout

end

/-- The name of an operation on a resource ends like all names, for every path. -/
theorem hasEnding_ofResource (resource path : String) {method : String}
    (methodWithout : '_' ∉ method.toList) : HasEnding (ofResource resource path method) := by
  rcases isBuilt_ofResource resource methodWithout with ⟨front, -, same⟩
  exact ⟨front, "", same.trans String.append_empty.symm, List.forall_mem_nil _⟩

theorem settles_settle (alone : String → Bool) (claimed : List String) (path name : String) :
    Settles path name (settle alone claimed path name) := by
  rcases settle_cases alone claimed path name with ⟨same, -⟩ | ⟨variant, same, member, -⟩ | same
  · rw [same]
    exact .kept
  · rw [same]
    exact .inserted member
  · rw [same]
    exact .numbered _

private theorem exists_settles_of_mem_settleAll {alone : String → Bool} {claimed : List String}
    {candidates : List (Key × String)} {key : Key} {final : String}
    (member : (key, final) ∈ settleAll alone claimed candidates) :
    ∃ name, (key, name) ∈ candidates ∧ Settles key.1 name final := by
  induction candidates generalizing claimed with
  | nil => cases member
  | cons candidate rest ih =>
      rcases candidate with ⟨first, name⟩
      rw [settleAll] at member
      rcases List.mem_cons.mp member with same | later
      · cases same
        exact ⟨name, List.mem_cons_self, settles_settle alone claimed _ name⟩
      · rcases ih later with ⟨other, isCandidate, settled⟩
        exact ⟨other, List.mem_cons_of_mem _ isCandidate, settled⟩

/-- Every final name is what settling made of the candidate of its operation. -/
theorem exists_settles_of_mem_unique {candidates : List (Key × String)} {key : Key}
    {final : String} (member : (key, final) ∈ unique candidates) :
    ∃ name, (key, name) ∈ candidates ∧ Settles key.1 name final :=
  exists_settles_of_mem_settleAll member

/-- A word is put behind a verb that the name begins with. -/
theorem exists_verb_of_insertWord? {name word variant : String}
    (inserted : insertWord? name word = some variant) :
    ∃ verb ∈ leadingVerbs, ∃ rest : String,
      name = verb ++ rest ∧ variant = verb ++ word ++ rest := by
  unfold insertWord? at inserted
  split at inserted
  · rename_i verb isVerb
    cases inserted
    have isPrefix := List.find?_some isVerb
    rcases List.isPrefixOf_iff_prefix.mp isPrefix with ⟨rest, same⟩
    have isRest : name.toList.drop verb.toList.length = rest := by
      rw [← same, List.drop_left]
    refine ⟨verb, List.mem_of_find?_eq_some isVerb, String.ofList rest, ?_, ?_⟩
    · apply String.toList_inj.mp
      rw [String.toList_append, String.toList_ofList, same]
    · rw [isRest]
  · cases inserted

theorem exists_verb_of_mem_variants {name path variant : String}
    (member : variant ∈ variants name path) :
    ∃ segment ∈ distinctive path, ∃ verb ∈ leadingVerbs, ∃ rest : String, name = verb ++ rest ∧
      variant = verb ++ Naming.pascalCase segment ++ rest := by
  rcases List.mem_filterMap.mp member with ⟨segment, isSegment, inserted⟩
  exact ⟨segment, isSegment, exists_verb_of_insertWord? inserted⟩

/-- No verb reaches into the ending, so the ending stays behind a word that is put in. -/
theorem HasEnding.insert {verb word rest : String} (isVerb : verb ∈ leadingVerbs)
    (ends : HasEnding (verb ++ rest)) : HasEnding (verb ++ word ++ rest) := by
  rcases ends with ⟨front, digits, same, areDigits⟩
  have noCapital : ∀ verb ∈ leadingVerbs, 'A' ∉ verb.toList := by decide
  have texts : verb.toList ++ rest.toList =
      front.toList ++ (ending.toList ++ digits.toList) := by
    rw [← String.toList_append, same, String.toList_append, String.toList_append,
      List.append_assoc]
  have endsRest : ∃ between : List Char,
      rest.toList = between ++ (ending.toList ++ digits.toList) := by
    rcases List.append_eq_append_iff.mp texts with
      ⟨between, -, isRest⟩ | ⟨beyond, isVerbText, isEnd⟩
    · exact ⟨between, isRest⟩
    · -- A verb that reached into the ending would contain its first letter.
      cases beyond with
      | nil => exact ⟨[], isEnd.symm⟩
      | cons first others =>
          have isCapital : 'A' = first := (List.cons.inj isEnd).1
          apply False.elim
          apply noCapital verb isVerb
          rw [isVerbText, isCapital]
          exact List.mem_append_right _ List.mem_cons_self
  rcases endsRest with ⟨between, isRest⟩
  refine ⟨verb ++ word ++ String.ofList between, digits, ?_, areDigits⟩
  apply String.toList_inj.mp
  simp only [String.toList_append, String.toList_ofList, isRest, List.append_assoc]

theorem HasEnding.number {name : String} (ends : HasEnding name) (number : Nat) :
    HasEnding (numbered name number) := by
  rcases ends with ⟨front, digits, same, areDigits⟩
  refine ⟨front, digits ++ toString number, ?_, ?_⟩
  · rw [numbered, same, String.append_assoc]
  · intro c member
    rw [String.toList_append] at member
    rcases List.mem_append.mp member with before | behind
    · exact areDigits c before
    · exact Naming.isAsciiDigit_of_mem_toString behind

theorem Settles.hasEnding {path name final : String} (settles : Settles path name final)
    (ends : HasEnding name) : HasEnding final := by
  cases settles with
  | kept => exact ends
  | inserted member =>
      rcases exists_verb_of_mem_variants member with ⟨segment, -, verb, isVerb, rest, same, isFinal⟩
      rw [isFinal]
      exact HasEnding.insert isVerb (same ▸ ends)
  | numbered number => exact ends.number number

/-- A verb begins with no other verb, so a word that is put in stands behind the whole of it. -/
theorem Settles.extendsVerb {path verb final : String} (settles : Settles path verb final)
    (isVerb : verb ∈ Resource.verbs) : ExtendsVerb path verb final := by
  have noneLonger : ∀ verb ∈ Resource.verbs, ∀ leading ∈ leadingVerbs,
      leading.toList <+: verb.toList → leading = verb := by
    decide
  cases settles with
  | kept => exact .bare
  | inserted member =>
      rcases exists_verb_of_mem_variants member with
        ⟨segment, isSegment, leading, isLeading, rest, same, isFinal⟩
      have within : leading.toList <+: verb.toList :=
        ⟨rest.toList, by rw [same, String.toList_append]⟩
      have isWhole := noneLonger verb isVerb leading isLeading within
      have noRest : rest = "" := by
        rw [← isWhole] at same
        exact String.append_right_inj _ |>.mp (same.symm.trans String.append_empty.symm)
      rw [isFinal, noRest, isWhole, String.append_empty]
      exact .word isSegment
  | numbered number => exact .number number

end OperationName
end ApiAccessors
