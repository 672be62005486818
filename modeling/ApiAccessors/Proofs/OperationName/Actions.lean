import ApiAccessors.Api.OperationName
import Mathlib.Data.List.TakeWhile
import Mathlib.Data.List.Infix

namespace ApiAccessors

/-!
# Where actions are

Two rules look behind the first root segment of a path.  The resource is the segment there, unless
it is a parameter; the word of an action is the last segment, if two segments or more follow that
place.  The second rule does not ask what stands at the place itself.  So the two agree on every
path but those with a parameter for a resource and a word at the end: such a path has no resource
segment, and yet its operations are named like actions.
-/

namespace Path

/-- The first root segment stands between these segments. -/
structure IsRooted (segments front behind : List String) : Prop where
  eq : segments = front ++ root :: behind
  first : root ∉ front

/-- A word ends some segments, of which there are two or more. -/
structure EndsIn (segments : List String) (word : String) : Prop where
  enough : 2 ≤ segments.length
  last : segments.getLast? = some word
  literal : isParameter word = false

/-- A word ends a path that has a resource segment with at least one more segment between them. -/
def IsActionWord (path word : String) : Prop :=
  ∃ index, resourceIndex path = some index ∧ index + 2 < (segments path).length ∧
    (segments path).getLast? = some word ∧ isParameter word = false

/-- A word ends a path that has a parameter where its resource would be. -/
def SkipsParameter (path word : String) : Prop :=
  ∃ front name later, IsRooted (segments path) front (name :: later) ∧ isParameter name = true ∧
    EndsIn later word

section

variable {segments front behind : List String}

theorem isRooted_or (segments : List String) :
    root ∉ segments ∨ ∃ front behind, IsRooted segments front behind := by
  by_cases member : root ∈ segments
  · rcases List.eq_append_cons_of_mem member with ⟨front, behind, same, first⟩
    exact Or.inr ⟨front, behind, same, first⟩
  · exact Or.inl member

theorem resourceIndexFrom_of_not_mem (noRoot : root ∉ segments) (index : Nat) :
    resourceIndexFrom index segments = none := by
  induction segments generalizing index with
  | nil => rfl
  | cons first rest ih =>
      rcases not_or.mp (mt List.mem_cons.mpr noRoot) with ⟨different, later⟩
      cases rest with
      | nil => rfl
      | cons next others =>
          rw [resourceIndexFrom, if_neg (Ne.symm different)]
          exact ih later (index + 1)

/-- The place behind some segments and a root segment, unless a parameter stands there. -/
def placeBehind (front : List String) : List String → Option Nat
  | [] => none
  | name :: _ => if isParameter name then none else some (front.length + 1)

theorem resourceIndexFrom_append (first : root ∉ front) (index : Nat) :
    resourceIndexFrom index (front ++ root :: behind) =
      (placeBehind front behind).map (index + ·) := by
  induction front generalizing index with
  | nil =>
      cases behind with
      | nil => rfl
      | cons name later =>
          rw [List.nil_append, resourceIndexFrom, if_pos rfl, placeBehind]
          split
          · rfl
          · rw [List.length_nil, Nat.zero_add, Option.map_some]
  | cons segment rest ih =>
      rcases not_or.mp (mt List.mem_cons.mpr first) with ⟨different, later⟩
      have skipped : resourceIndexFrom index (segment :: (rest ++ root :: behind)) =
          resourceIndexFrom (index + 1) (rest ++ root :: behind) := by
        cases rest with
        | nil => rw [List.nil_append, resourceIndexFrom, if_neg (Ne.symm different)]
        | cons next others =>
            rw [List.cons_append, resourceIndexFrom, if_neg (Ne.symm different)]
      rw [List.cons_append, skipped, ih later]
      cases behind with
      | nil => rfl
      | cons name others =>
          rw [placeBehind, placeBehind]
          split
          · rfl
          · rw [Option.map_some, Option.map_some, List.length_cons]
            exact congrArg some (by omega)

theorem IsRooted.resourceIndex_eq {path : String}
    (rooted : IsRooted (Path.segments path) front behind) :
    resourceIndex path = placeBehind front behind := by
  unfold resourceIndex
  rw [rooted.eq, resourceIndexFrom_append rooted.first]
  cases placeBehind front behind with
  | none => rfl
  | some index => exact congrArg some (Nat.zero_add index)

theorem fromFirst_of_not_mem (noRoot : root ∉ segments) : fromFirst (· == root) segments = [] := by
  unfold fromFirst
  refine List.dropWhile_eq_nil_iff.mpr (fun segment member => ?_)
  have different : segment ≠ root := fun same => noRoot (same ▸ member)
  simpa using different

theorem IsRooted.fromFirst_eq (rooted : IsRooted segments front behind) :
    fromFirst (· == root) segments = root :: behind := by
  rcases rooted with ⟨rfl, first⟩
  unfold fromFirst
  rw [List.dropWhile_append_of_pos]
  · rfl
  · intro segment member
    have different : segment ≠ root := fun same => first (same ▸ member)
    simpa using different

end

section

variable {path word : String} {front behind : List String}

theorem action_eq_none_of_not_mem (noRoot : root ∉ segments path) : action path = none := by
  unfold action
  rw [fromFirst_of_not_mem noRoot]
  rfl

theorem IsRooted.action_eq_some_iff (rooted : IsRooted (segments path) front behind) :
    action path = some word ↔ EndsIn behind.tail word := by
  have isRest : (fromFirst (· == root) (segments path)).drop 2 = behind.tail := by
    rw [rooted.fromFirst_eq, List.drop_succ_cons, List.drop_one]
  unfold action
  simp only [isRest]
  constructor
  · intro isWord
    split at isWord
    · rename_i last isLast
      split at isWord
      · rename_i isAction
        cases isWord
        rw [Bool.and_eq_true, decide_eq_true_eq, Bool.not_eq_true'] at isAction
        exact ⟨isAction.1, isLast, isAction.2⟩
      · cases isWord
    · cases isWord
  · rintro ⟨enough, isLast, literal⟩
    rw [isLast]
    simp only [decide_eq_true enough, literal, Bool.not_false, Bool.and_self, if_true]

/-- Where the resource of a path has its place, the word of an action ends what follows it. -/
theorem IsRooted.isActionWord_iff {name : String} {later : List String}
    (rooted : IsRooted (segments path) front (name :: later)) (literal : isParameter name = false) :
    IsActionWord path word ↔ EndsIn later word := by
  have place : resourceIndex path = some (front.length + 1) := by
    rw [rooted.resourceIndex_eq, placeBehind, if_neg (by rw [literal]; decide)]
  have length : (segments path).length = front.length + (later.length + 2) := by
    rw [rooted.eq, List.length_append, List.length_cons, List.length_cons]
  have last : later ≠ [] → (segments path).getLast? = later.getLast? := by
    intro notEmpty
    rcases List.exists_cons_of_ne_nil notEmpty with ⟨next, others, rfl⟩
    rw [rooted.eq, List.getLast?_append_of_ne_nil _ (List.cons_ne_nil _ _),
      List.getLast?_cons_cons, List.getLast?_cons_cons]
  constructor
  · rintro ⟨index, isIndex, enough, isLast, isLiteral⟩
    cases place.symm.trans isIndex
    have some : 2 ≤ later.length := by omega
    have notEmpty : later ≠ [] := List.ne_nil_of_length_pos (by omega)
    exact ⟨some, (last notEmpty).symm.trans isLast, isLiteral⟩
  · rintro ⟨enough, isLast, isLiteral⟩
    have notEmpty : later ≠ [] := List.ne_nil_of_length_pos (by omega)
    exact ⟨_, place, by omega, (last notEmpty).trans isLast, isLiteral⟩

theorem IsRooted.skipsParameter_iff (rooted : IsRooted (segments path) front behind) :
    SkipsParameter path word ↔
      ∃ name later, behind = name :: later ∧ isParameter name = true ∧ EndsIn later word := by
  constructor
  · rintro ⟨_, name, later, others, isName, ends⟩
    have same := rooted.fromFirst_eq.symm.trans others.fromFirst_eq
    exact ⟨name, later, (List.cons.inj same).2, isName, ends⟩
  · rintro ⟨name, later, rfl, isName, ends⟩
    exact ⟨front, name, later, rooted, isName, ends⟩

/-- The word of an action ends what follows the resource, or what follows a parameter in its
place. -/
theorem action_eq_some_iff (path word : String) :
    action path = some word ↔ IsActionWord path word ∨ SkipsParameter path word := by
  rcases isRooted_or (segments path) with noRoot | ⟨front, behind, rooted⟩
  · rw [action_eq_none_of_not_mem noRoot]
    refine iff_of_false (by simp) ?_
    rintro (⟨index, isIndex, -⟩ | ⟨front, name, later, rooted, -⟩)
    · cases (resourceIndexFrom_of_not_mem noRoot 0).symm.trans isIndex
    · exact noRoot (rooted.eq ▸ List.mem_append_right _ List.mem_cons_self)
  · rw [rooted.action_eq_some_iff, rooted.skipsParameter_iff]
    cases behind with
    | nil =>
        refine iff_of_false (fun ends => by cases ends.last) ?_
        rintro (⟨index, isIndex, -⟩ | ⟨name, later, same, -⟩)
        · cases rooted.resourceIndex_eq.symm.trans isIndex
        · cases same
    | cons name later =>
        cases isName : isParameter name with
        | false =>
            rw [rooted.isActionWord_iff isName]
            constructor
            · exact Or.inl
            · rintro (ends | ⟨_, _, same, isParameter, -⟩)
              · exact ends
              · cases same
                cases isName.symm.trans isParameter
        | true =>
            have noPlace : resourceIndex path = none := by
              rw [rooted.resourceIndex_eq, placeBehind, if_pos isName]
            constructor
            · exact fun ends => Or.inr ⟨name, later, rfl, isName, ends⟩
            · rintro (⟨index, isIndex, -⟩ | ⟨_, _, same, -, ends⟩)
              · cases noPlace.symm.trans isIndex
              · cases same
                exact ends

theorem SkipsParameter.resourceIndex_eq_none (skips : SkipsParameter path word) :
    resourceIndex path = none := by
  rcases skips with ⟨front, name, later, rooted, isName, -⟩
  rw [rooted.resourceIndex_eq, placeBehind, if_pos isName]

end

end Path

namespace OperationName

open ApiAccessors.Path (IsActionWord SkipsParameter)

/-- The two rules agree on a path exactly if no word of an action follows a parameter in the place
of its resource.  A path without a resource segment on which they agree has no name of an action:
its operations have their bare methods or plain names.  On one on which they do not, the last
segment makes names of actions, as soon as anything else gives the path a resource. -/
theorem action_agrees_iff (path : String) :
    (∀ word, Path.action path = some word ↔ IsActionWord path word ∨ SkipsParameter path word) ∧
      ((∀ word, Path.action path = some word ↔ IsActionWord path word) ↔
        ∀ word, ¬SkipsParameter path word) ∧
      (Path.resourceIndex path = none → ∀ spec method resource,
        Resource.ofPath spec path = .ok resource →
          ((∀ word, ¬SkipsParameter path word) →
            candidate spec path method = .ok (if resource.isEmpty then method
              else plainName (Naming.pascalCase resource) path method)) ∧
          ∀ word, SkipsParameter path word →
            candidate spec path method = .ok (if resource.isEmpty then method
              else Naming.camelCase word ++ Naming.pascalCase resource ++ ending)) := by
  have words := Path.action_eq_some_iff path
  refine ⟨words, ?_, ?_⟩
  · constructor
    · intro agrees word skips
      have isWord := (agrees word).mp ((words word).mpr (Or.inr skips))
      rcases isWord with ⟨index, isIndex, -⟩
      cases skips.resourceIndex_eq_none.symm.trans isIndex
    · intro noneSkips word
      rw [words word, or_iff_left (noneSkips word)]
  · intro noPlace spec method resource isResource
    have notWord : ∀ word, ¬IsActionWord path word := by
      rintro word ⟨index, isIndex, -⟩
      cases noPlace.symm.trans isIndex
    have isCandidate : candidate spec path method = .ok (if resource.isEmpty then method
        else ofResource resource path method) := by
      unfold candidate
      rw [isResource]
      rfl
    constructor
    · intro noneSkips
      have noAction : Path.action path = none := by
        cases isWord : Path.action path with
        | none => rfl
        | some word =>
            have noWord := not_or_intro (notWord word) (noneSkips word)
            exact absurd ((words word).mp isWord) noWord
      rw [isCandidate, ofResource, noAction]
    · intro word skips
      rw [isCandidate, ofResource, (words word).mpr (Or.inr skips)]

/-- A path with a parameter for its resource and a word at its end. -/
def archivePath : String := "/api/\x7bversion\x7d/tasks/archive"

/-- A document in which a tag gives this path a resource. -/
def archiveSpec : Value := .record [("paths", .record [(archivePath, .record [
  ("get", .record [("tags", .texts ["Tasks"])])])])]

private theorem skipsParameter_archive : SkipsParameter archivePath "archive" :=
  ⟨[], "\x7bversion\x7d", ["tasks", "archive"], ⟨by decide, by decide⟩, by decide,
    ⟨by decide, by decide, by decide⟩⟩

private theorem ofPath_archive : Resource.ofPath archiveSpec archivePath = .ok "tasks" := by
  decide

theorem action_agrees_iff_archive :
    Path.resourceIndex archivePath = none ∧
      Resource.ofPath archiveSpec archivePath = .ok "tasks" ∧
      SkipsParameter archivePath "archive" ∧
      candidate archiveSpec archivePath "get" = .ok "archiveTasksApi" := by
  have skips := skipsParameter_archive
  rcases action_agrees_iff archivePath with ⟨-, -, named⟩
  have isName := (named skips.resourceIndex_eq_none archiveSpec "get" _ ofPath_archive).2 _ skips
  refine ⟨skips.resourceIndex_eq_none, ofPath_archive, skips, isName.trans ?_⟩
  decide

/-- A path without a resource segment gets the name of an action. -/
theorem action_without_resource_segment :
    Path.resourceIndex archivePath = none ∧ Path.action archivePath = some "archive" ∧
      ¬IsActionWord archivePath "archive" ∧
      candidate archiveSpec archivePath "get" = .ok "archiveTasksApi" ∧
      plainName "Tasks" archivePath "get" = "getTasksItemByVersionApi" := by
  refine ⟨by decide, by decide, ?_, by decide, by decide⟩
  rintro ⟨index, isIndex, -⟩
  cases skipsParameter_archive.resourceIndex_eq_none.symm.trans isIndex

end OperationName
end ApiAccessors
