import ApiAccessors.Proofs.Document.Shape
import ApiAccessors.Proofs.Resource.Declared

namespace ApiAccessors

/-!
# The shape that a path needs

Nothing is checked about the item of a path before it is used.  It is used in three places: for the
resource of a path that has no other than that of its tags, for the verbs of a path with a resource,
and for the content type of each of its operations.  They do not ask for the same: an item that
counts as not given has no tags and no content types, but of its verbs only a value that can be gone
through gives none.  For each place it is said here which items let it end.
-/

namespace ContentType

/-- The declared types of a part can be gone through. -/
def declaresTypes (part : Value) : Bool := part.isMapping && (part.given "content").isIterable

/-- The response to a request that succeeded, as far as responses are given. -/
def answer (operation : Value) : Value :=
  let responses := ((operation.given "responses").entries?).getD []
  Value.orElse (Entries.field? responses "200")
    (Value.orElse (Entries.get? responses (.int 200)) .empty)

def declaresRequest (operation : Value) : Bool :=
  !(Outcome.value (declaredIn (operation.given "requestBody"))).isEmpty

/-- An operation has the shape from which its content type is found.  Responses are looked at only
where the request declares nothing, and something other than a mapping is not looked at. -/
def hasType (operation : Value) : Bool :=
  !operation.isMapping || declaresTypes (operation.given "requestBody") &&
    (declaresRequest operation ||
      (operation.given "responses").isMapping && declaresTypes (answer operation))

theorem exists_declaredIn_iff {part : Value} :
    (∃ types, declaredIn part = .ok types) ↔ declaresTypes part = true := by
  unfold declaredIn declaresTypes
  rw [Outcome.exists_bind_iff]
  simp only [Value.fieldOrEmpty_eq_ok_iff, and_assoc, exists_and_left, exists_eq_left,
    Value.exists_elements_iff, Bool.and_eq_true]

theorem success_eq_ok_iff {operation found : Value} (isMapping : operation.isMapping = true) :
    success operation = .ok found ↔
      (operation.given "responses").isMapping = true ∧ found = answer operation := by
  unfold success answer
  rw [Outcome.bind_eq_ok_iff]
  simp only [Value.fieldOrEmpty_eq_ok_iff, isMapping, true_and, exists_eq_left]
  unfold Value.isMapping
  cases (operation.given "responses").entries? with
  | none => simp
  | some responses => simp [pure, Except.pure, eq_comm]

section

variable {operation : Value} {path method : String}

private theorem ofOperation_eq_of_request {types : List Value}
    (isMapping : operation.isMapping = true)
    (declared : declaredIn (operation.given "requestBody") = .ok types) (notEmpty : types ≠ []) :
    ∃ type, ofOperation path method operation = .ok type := by
  have body := Value.fieldOrEmpty_of_isMapping isMapping "requestBody"
  unfold ofOperation
  rw [body, Outcome.ok_bind, declared, Outcome.ok_bind]
  have some : (!types.isEmpty) = true := by simpa using notEmpty
  rw [if_pos some]
  split
  · exact ⟨_, rfl⟩
  · exact ⟨_, rfl⟩

private theorem exists_ofOperation_iff_answer (isMapping : operation.isMapping = true)
    (declared : declaredIn (operation.given "requestBody") = .ok []) :
    (∃ type, ofOperation path method operation = .ok type) ↔
      (operation.given "responses").isMapping = true ∧ declaresTypes (answer operation) = true := by
  have body := Value.fieldOrEmpty_of_isMapping isMapping "requestBody"
  unfold ofOperation
  rw [body, Outcome.ok_bind, declared, Outcome.ok_bind, if_neg (by simp),
    Outcome.exists_bind_iff]
  simp only [success_eq_ok_iff isMapping, and_assoc, exists_and_left, exists_eq_left]
  apply and_congr_right
  intro _
  rw [← exists_declaredIn_iff, Outcome.exists_bind_iff]
  apply exists_congr
  intro types
  apply and_iff_left
  split
  · exact ⟨_, rfl⟩
  · exact ⟨_, rfl⟩

theorem exists_ofOperation_iff (isMapping : operation.isMapping = true) :
    (∃ type, ofOperation path method operation = .ok type) ↔ hasType operation = true := by
  have body := Value.fieldOrEmpty_of_isMapping isMapping "requestBody"
  unfold hasType declaresRequest
  rw [isMapping, Bool.not_true, Bool.false_or, Bool.and_eq_true, ← exists_declaredIn_iff]
  cases declared : declaredIn (operation.given "requestBody") with
  | error fault =>
      have stopped : ofOperation path method operation = .error fault := by
        unfold ofOperation
        rw [body, Outcome.ok_bind, declared]
        rfl
      simp [stopped]
  | ok types =>
      rw [Outcome.value_ok]
      cases types with
      | nil => simp [exists_ofOperation_iff_answer isMapping declared]
      | cons first rest => simp [ofOperation_eq_of_request isMapping declared]

end

/-- The content type of an operation is found if the item of its path is a mapping in which the
operation has the shape that it needs. -/
theorem exists_of_iff {spec item : Value} {path method : String}
    (isItem : Resource.pathItem spec path = .ok item) :
    (∃ type, of spec path method = .ok type) ↔
      item.isMapping = true ∧ hasType (item.member method) = true := by
  unfold of
  rw [isItem, Outcome.ok_bind, Outcome.exists_bind_iff]
  simp only [Value.field_eq_ok_iff, and_assoc, exists_and_left, exists_eq_left]
  apply and_congr_right
  intro _
  cases isMapping : (item.member method).isMapping with
  | false =>
      rw [Value.entries?_eq_none isMapping, hasType, isMapping]
      exact iff_of_true ⟨_, rfl⟩ rfl
  | true =>
      rcases Value.isMapping_iff.mp isMapping with ⟨entries, areEntries⟩
      rw [areEntries]
      exact exists_ofOperation_iff isMapping

/-- What is no mapping gives an operation no content information. -/
theorem of_eq_of_not_isMapping {spec item type : Value} {path method : String}
    (isItem : Resource.pathItem spec path = .ok item)
    (noMapping : (item.member method).isMapping = false) (found : of spec path method = .ok type) :
    type = .text json := by
  unfold of at found
  rw [isItem, Outcome.ok_bind] at found
  rcases Outcome.bind_eq_ok_iff.mp found with ⟨operation, isOperation, later⟩
  rw [(Value.field_eq_ok_iff.mp isOperation).2, Value.entries?_eq_none noMapping] at later
  cases later
  rfl

end ContentType

namespace Resource

/-- The tags of the first operation of an item that has any. -/
def tagsIn (item : Value) (verbs : List String) : Option Value :=
  (verbs.map (fun verb => (item.member verb).member "tags")).find? Value.truthy

/-- The first of some tags is a text or counts as not given. -/
def nameResource (tags : Value) : Bool :=
  match tags.first with
  | .ok (.text _) => true
  | .ok other => !other.truthy
  | .error _ => false

theorem firstTagIn_eq {item : Value} (isMapping : item.isMapping = true) (verbs : List String) :
    firstTagIn item verbs =
      match tagsIn item verbs with
      | some tags => some <$> tags.first
      | none => .ok none := by
  induction verbs with
  | nil => rfl
  | cons verb rest ih =>
      rw [firstTagIn, Value.field_of_isMapping isMapping, Outcome.ok_bind]
      have tagsOf : (item.member verb).member "tags" =
          ((item.member verb).entries?.bind (Entries.field? · "tags")).getD .null := rfl
      unfold tagsIn at ih ⊢
      rw [List.map_cons, List.find?_cons, tagsOf]
      cases areEntries : (item.member verb).entries? with
      | none => exact ih
      | some entries =>
          simp only [Option.bind_some]
          cases Entries.field? entries "tags" with
          | none => exact ih
          | some tags =>
              cases given : tags.truthy with
              | true => simp [given]
              | false => simpa [given] using ih

theorem exists_ofTag_iff {tags : Value} :
    (∃ name, (some <$> tags.first >>= ofTag) = .ok name) ↔ nameResource tags = true := by
  unfold nameResource
  cases tags.first with
  | error fault =>
      apply iff_of_false
      · rintro ⟨name, ended⟩
        cases ended
      · exact Bool.false_ne_true
  | ok tag =>
      change (∃ name, ofTag (some tag) = .ok name) ↔ _
      cases tag with
      | text name => exact iff_of_true ⟨_, rfl⟩ rfl
      | _ =>
          simp only [ofTag]
          split <;> simp [*]

/-- The resource of a path is found without its item, or the item has the shape that is needed. -/
def isRouted (path : String) (item : Value) : Bool :=
  isAuthentication (Path.segments path) || (rootSegment path).isSome ||
    (!item.truthy || item.isMapping) && (tagsIn item verbs).all nameResource

section

variable {spec item : Value} {path : String}

private theorem exists_firstTag_iff (isMapping : item.isMapping = true) :
    (∃ name, (firstTagIn item verbs >>= ofTag) = .ok name) ↔
      (tagsIn item verbs).all nameResource = true := by
  rw [firstTagIn_eq isMapping]
  cases tagsIn item verbs with
  | none => exact iff_of_true ⟨_, rfl⟩ rfl
  | some tags => exact exists_ofTag_iff

private theorem not_exists_firstTag (noMapping : item.isMapping = false) :
    ¬∃ name, (firstTagIn item verbs >>= ofTag) = .ok name := by
  rintro ⟨name, ended⟩
  rcases Outcome.bind_eq_ok_iff.mp ended with ⟨tag, found, -⟩
  rcases Outcome.bind_eq_ok_iff.mp found with ⟨operation, isOperation, -⟩
  rw [(Value.field_eq_ok_iff.mp isOperation).1] at noMapping
  cases noMapping

/-- The tags of what counts as not given are those of the empty mapping. -/
private theorem tagsIn_of_not_truthy (missing : item.truthy = false) :
    tagsIn item verbs = none := by
  have nothing : ∀ verb, item.member verb = .null := by
    intro verb
    cases item with
    | map entries =>
        have empty : entries = [] := by simpa [Value.truthy] using missing
        rw [empty]
        rfl
    | cyclic number body => cases missing
    | _ => rfl
  unfold tagsIn
  simp only [nothing]
  rfl

/-- The resource of a path is found if its item has the shape that is needed. -/
theorem exists_ofPath_iff
    (isItem : pathItem spec path = .ok (if item.truthy then item else .empty)) :
    (∃ name, ofPath spec path = .ok name) ↔ isRouted path item = true := by
  have looked : firstTag spec path =
      firstTagIn (if item.truthy then item else .empty) verbs := by
    unfold firstTag
    rw [isItem, Outcome.ok_bind]
  unfold ofPath isRouted
  cases isAuthentication (Path.segments path) with
  | true => exact iff_of_true ⟨_, rfl⟩ rfl
  | false =>
      cases rootSegment path with
      | some segment => exact iff_of_true ⟨_, rfl⟩ rfl
      | none =>
          rw [if_neg Bool.false_ne_true, looked]
          simp only [Option.isSome_none, Bool.or_self, Bool.false_or]
          cases given : item.truthy with
          | false =>
              rw [if_neg Bool.false_ne_true, tagsIn_of_not_truthy given]
              exact iff_of_true ⟨_, rfl⟩ rfl
          | true =>
              rw [if_pos rfl, Bool.not_true, Bool.false_or]
              cases isMapping : item.isMapping with
              | false => exact iff_of_false (not_exists_firstTag isMapping) Bool.false_ne_true
              | true => exact exists_firstTag_iff isMapping

end

/-- The operations of an item are found: its verbs can be gone through and, if there are any, the
item is a mapping in which each of them has the shape from which its content type is found. -/
def hasOperations (item : Value) : Bool :=
  item.isIterable &&
    (declared item).all (fun verb => item.isMapping && ContentType.hasType (item.member verb))

theorem exists_declaredVerbs_iff {item : Value} :
    (∃ found, declaredVerbs item = .ok found) ↔ item.isIterable = true := by
  rw [← Value.exists_elements_iff]
  unfold declaredVerbs
  rw [Outcome.exists_bind_iff]
  exact exists_congr fun keys => and_iff_left ⟨_, rfl⟩

/-- The verbs of a path and the content types of its operations are found if its item has the shape
that is needed. -/
theorem hasOperations_iff {spec item : Value} {path : String}
    (isItem : pathItem spec path = .ok (if item.truthy then item else .empty)) :
    hasOperations item = true ↔ declaredVerbs item = .ok (declared item) ∧
      ∀ verb ∈ declared item, ∃ type, ContentType.of spec path verb = .ok type := by
  unfold hasOperations
  rw [Bool.and_eq_true, ← exists_declaredVerbs_iff, List.all_eq_true]
  apply and_congr Outcome.exists_ok_iff_value
  apply forall₂_congr
  intro verb isDeclared
  rw [if_pos (truthy_of_mem_declared isDeclared)] at isItem
  rw [ContentType.exists_of_iff isItem, Bool.and_eq_true]

end Resource
end ApiAccessors
