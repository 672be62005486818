import ApiAccessors.Proofs.Naming.Characters
import ApiAccessors.Proofs.OperationName.Actions
import ApiAccessors.Proofs.Path.Segments
import ApiAccessors.Proofs.Resource.Shape
import ApiAccessors.Proofs.Resource.Sorted

namespace ApiAccessors

/-!
# A path that matches a rule is routed

A path gets its resource by the first of three rules that matches it: as a path for signing in, by
the segment behind the root, or by a tag.  The empty name stands for a path without a resource, and
such paths are left out of every module.  So a rule that matched and then gave the empty name would
drop a path without a word.

None does.  The segment behind the root is looked for once to see whether there is one and once more
to take it, and both times it is the same literal segment.  A tag is turned into a name of which
nothing may be left over only if the tag is empty, and then the rule does not match.
-/

namespace Path

/-- A literal segment stands at a place, right behind the first root segment. -/
structure IsResourcePlace (path : String) (index : Nat) (segment : String) : Prop where
  rooted : ∃ front behind, IsRooted (segments path) front (segment :: behind) ∧
    front.length + 1 = index
  literal : isParameter segment = false
  not_empty : segment ≠ ""

section

variable {path segment : String} {index : Nat}

theorem IsResourcePlace.getElem? (place : IsResourcePlace path index segment) :
    (segments path)[index]? = some segment := by
  rcases place.rooted with ⟨front, behind, rooted, isIndex⟩
  rw [rooted.eq, ← isIndex, List.getElem?_append_right (Nat.le_add_right _ 1),
    Nat.add_sub_cancel_left]
  rfl

/-- An index is found exactly for the place of a resource. -/
theorem resourceIndex_eq_some_iff :
    resourceIndex path = some index ↔ ∃ segment, IsResourcePlace path index segment := by
  constructor
  · intro isIndex
    rcases isRooted_or (segments path) with noRoot | ⟨front, behind, rooted⟩
    · cases (resourceIndexFrom_of_not_mem noRoot 0).symm.trans isIndex
    · rw [rooted.resourceIndex_eq] at isIndex
      cases behind with
      | nil => cases isIndex
      | cons segment later =>
          rw [placeBehind] at isIndex
          split at isIndex
          · cases isIndex
          · rename_i literal
            have member : segment ∈ segments path := by
              rw [rooted.eq]
              exact List.mem_append_right _ (List.mem_cons_of_mem _ List.mem_cons_self)
            refine ⟨segment, ⟨front, later, rooted, Option.some.inj isIndex⟩,
              Bool.eq_false_iff.mpr literal, (mem_segments member).1⟩
  · rintro ⟨segment, ⟨front, behind, rooted, isIndex⟩, literal, -⟩
    rw [rooted.resourceIndex_eq, placeBehind, literal, if_neg Bool.false_ne_true, isIndex]

end

end Path

namespace Resource

/-- The rules by which a path gets a resource, in the order in which they are tried. -/
inductive Rule where
  | authentication
  | root
  | tag
deriving DecidableEq, Repr

/-- A rule matches a path. -/
def Matches (spec : Value) (path : String) : Rule → Prop
  | .authentication => isAuthentication (Path.segments path) = true
  | .root => ∃ index, Path.resourceIndex path = some index
  | .tag => ∃ tag, firstTag spec path = .ok (some tag) ∧ tag.truthy = true

/-- The item of a path is a mapping, and all tags in it are lists of texts. -/
def TagsAreTexts (spec : Value) (path : String) : Prop :=
  ∃ item, pathItem spec path = .ok item ∧ item.isMapping = true ∧
    ∀ verb ∈ verbs, ((item.member verb).member "tags").truthy = true →
      ∃ tags, (item.member verb).member "tags" = .texts tags

/-- The resource of a path by the first rule that matches it, or the empty text. -/
inductive Routes (spec : Value) (path : String) : String → Prop
  | authentication (isMatch : Matches spec path .authentication) : Routes spec path authentication
  | root {index : Nat} {segment : String} (notBefore : ¬Matches spec path .authentication)
      (place : Path.IsResourcePlace path index segment) : Routes spec path segment
  | tag {tag : String} (notFirst : ¬Matches spec path .authentication)
      (notBefore : ¬Matches spec path .root)
      (isTag : firstTag spec path = .ok (some (.text tag))) (given : tag ≠ "") :
      Routes spec path (Naming.kebabCase tag)
  | nothing (noMatch : ∀ rule, ¬Matches spec path rule) : Routes spec path ""

section

variable {spec : Value} {path name : String}

theorem ofPath_of_authentication (isMatch : Matches spec path .authentication) :
    ofPath spec path = .ok authentication := by
  have isTested : isAuthentication (Path.segments path) = true := isMatch
  unfold ofPath
  rw [if_pos isTested]

theorem ofPath_of_place (notBefore : ¬Matches spec path .authentication) {index : Nat}
    {segment : String} (place : Path.IsResourcePlace path index segment) :
    ofPath spec path = .ok segment := by
  have notTested : ¬isAuthentication (Path.segments path) = true := notBefore
  have isSegment : rootSegment path = some segment := by
    unfold rootSegment
    rw [Path.resourceIndex_eq_some_iff.mpr ⟨segment, place⟩]
    exact place.getElem?
  unfold ofPath
  rw [if_neg notTested, isSegment]

theorem ofPath_of_no_place (notFirst : ¬Matches spec path .authentication)
    (notBefore : ¬Matches spec path .root) : ofPath spec path = firstTag spec path >>= ofTag := by
  have notTested : ¬isAuthentication (Path.segments path) = true := notFirst
  have noSegment : rootSegment path = none := by
    unfold rootSegment
    cases isIndex : Path.resourceIndex path with
    | none => rfl
    | some index => exact absurd ⟨index, isIndex⟩ notBefore
  unfold ofPath
  rw [if_neg notTested, noSegment]

/-- Where the tags of an item are texts, one of them is found or there is none. -/
theorem TagsAreTexts.exists_firstTag (texts : TagsAreTexts spec path) :
    firstTag spec path = .ok none ∨ ∃ tag, firstTag spec path = .ok (some (.text tag)) := by
  rcases texts with ⟨item, isItem, isMapping, areTexts⟩
  unfold firstTag
  rw [isItem, Outcome.ok_bind, firstTagIn_eq isMapping]
  cases found : tagsIn item verbs with
  | none => exact Or.inl rfl
  | some tags =>
      have given := List.find?_some found
      rcases List.mem_map.mp (List.mem_of_find?_eq_some found) with ⟨verb, isVerb, rfl⟩
      rcases areTexts verb isVerb given with ⟨tags, same⟩
      rw [same] at given ⊢
      cases tags with
      | nil => cases given
      | cons tag rest => exact Or.inr ⟨tag, rfl⟩

/-- The first rule that matches gives a path its resource. -/
theorem TagsAreTexts.exists_routes (texts : TagsAreTexts spec path) :
    ∃ name, ofPath spec path = .ok name ∧ Routes spec path name := by
  by_cases isMatch : Matches spec path .authentication
  · exact ⟨_, ofPath_of_authentication isMatch, .authentication isMatch⟩
  by_cases isRoot : Matches spec path .root
  · rcases isRoot with ⟨index, isIndex⟩
    rcases Path.resourceIndex_eq_some_iff.mp isIndex with ⟨segment, place⟩
    exact ⟨segment, ofPath_of_place isMatch place, .root isMatch place⟩
  have unrouted (noTag : ¬Matches spec path .tag) : Routes spec path "" := by
    apply Routes.nothing
    rintro (_ | _ | _)
    · exact isMatch
    · exact isRoot
    · exact noTag
  rw [ofPath_of_no_place isMatch isRoot]
  rcases texts.exists_firstTag with isTag | ⟨tag, isTag⟩
  · refine ⟨"", by rw [isTag]; rfl, unrouted ?_⟩
    rintro ⟨other, isOther, -⟩
    cases isTag.symm.trans isOther
  · refine ⟨Naming.kebabCase tag, by rw [isTag]; rfl, ?_⟩
    by_cases given : tag = ""
    · rw [Naming.kebabCase_eq_empty_iff.mpr given]
      apply unrouted
      rintro ⟨other, isOther, truthy⟩
      cases isTag.symm.trans isOther
      rw [given] at truthy
      cases truthy
    · exact .tag isMatch isRoot isTag given

/-- Only where no rule matches a path has the empty name for its resource. -/
theorem Routes.eq_empty_iff (routes : Routes spec path name) :
    name = "" ↔ ∀ rule, ¬Matches spec path rule := by
  cases routes with
  | authentication isMatch => exact iff_of_false (by decide) (fun noMatch => noMatch _ isMatch)
  | root notBefore place =>
      refine iff_of_false place.not_empty (fun noMatch => noMatch .root ?_)
      exact ⟨_, Path.resourceIndex_eq_some_iff.mpr ⟨_, place⟩⟩
  | tag notFirst notBefore isTag given =>
      refine iff_of_false (mt Naming.kebabCase_eq_empty_iff.mp given)
        (fun noMatch => noMatch .tag ⟨_, isTag, ?_⟩)
      simpa [Value.truthy] using given
  | nothing noMatch => exact iff_of_true rfl noMatch

end

/-- A path whose tags are texts has a resource exactly if a rule matches it.  The rule of the root
matches by the place of a literal segment behind the first root segment, which is there to be taken;
the rule of the tags matches by a text of which a name is left.  So a path of a document that
matches a rule is among the paths of a resource. -/
theorem ofPath_empty_iff {spec : Value} {path : String} (texts : TagsAreTexts spec path) :
    ∃ name, ofPath spec path = .ok name ∧
      (name = "" ↔ ∀ rule, ¬Matches spec path rule) ∧
      (∀ index, Path.resourceIndex path = some index →
        ∃ segment, Path.IsResourcePlace path index segment ∧
          (Path.segments path)[index]? = some segment) ∧
      (∀ tag, firstTag spec path = .ok (some tag) → tag.truthy = true →
        ∃ text, tag = .text text ∧ Naming.kebabCase text ≠ "") ∧
      ∀ entries item resources, Lists spec entries → (.text path, item) ∈ entries →
        all spec = .ok resources → (name ∈ resources ↔ ∃ rule, Matches spec path rule) := by
  rcases texts.exists_routes with ⟨name, isName, routes⟩
  refine ⟨name, isName, routes.eq_empty_iff, ?_, ?_, ?_⟩
  · intro index isIndex
    rcases Path.resourceIndex_eq_some_iff.mp isIndex with ⟨segment, place⟩
    exact ⟨segment, place, place.getElem?⟩
  · intro tag isTag given
    rcases texts.exists_firstTag with noTag | ⟨text, isText⟩
    · cases noTag.symm.trans isTag
    · cases isText.symm.trans isTag
      refine ⟨text, rfl, mt Naming.kebabCase_eq_empty_iff.mp ?_⟩
      simpa [Value.truthy] using given
  · intro entries item resources lists isEntry found
    have listed : ∃ entry ∈ entries, nameOf spec entry.1 = name :=
      ⟨_, isEntry, nameOf_text isName⟩
    rw [lists.mem_all_iff found, and_iff_left listed, Ne, routes.eq_empty_iff, not_forall_not]

/-- A document with a path that has nothing but a blank tag. -/
def blankTag : Value :=
  .record [("paths", .record [("/custom", .record [("get", .record [("tags", .texts ["\t"])])])])]

theorem ofPath_empty_iff_blankTag :
    TagsAreTexts blankTag "/custom" ∧ ofPath blankTag "/custom" = .ok "-" ∧
      ∃ rule, Matches blankTag "/custom" rule := by
  have isItem : pathItem blankTag "/custom" =
      .ok (.record [("get", .record [("tags", .texts ["\t"])])]) := rfl
  have texts : TagsAreTexts blankTag "/custom" := by
    refine ⟨_, isItem, rfl, ?_⟩
    intro verb isVerb given
    rcases List.mem_cons.mp isVerb with rfl | isOther
    · exact ⟨["\t"], rfl⟩
    · have noTags : ∀ verb ∈ verbs.tail, (((Value.record [("get", .record
          [("tags", .texts ["\t"])])]).member verb).member "tags").truthy = false := by
        decide
      cases (noTags verb isOther).symm.trans given
  have routed : ofPath blankTag "/custom" = .ok "-" := by decide
  rcases ofPath_empty_iff texts with ⟨name, isName, isEmpty, -⟩
  cases routed.symm.trans isName
  refine ⟨texts, routed, ?_⟩
  by_contra noRule
  exact absurd (isEmpty.mpr (not_exists.mp noRule)) (by decide)

end Resource
end ApiAccessors
