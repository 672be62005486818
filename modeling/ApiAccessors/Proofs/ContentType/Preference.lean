import ApiAccessors.Proofs.Resource.Shape
import Mathlib.Data.List.Infix

namespace ApiAccessors

/-!
# Which content type is preferred

An operation may declare content types in two places: for the body of its request, and for the
response to a request that succeeded.  The response is looked at only if the request declares
nothing.  Of the declared types the one that stands first in an order of preference is taken, and
the first declared one if none of them stands there.

The order of preference depends on the place, on the method and on whether the path leads to one
item.  What is said here is about operations in which every part that is looked up is a mapping, or
null, or missing.
-/

namespace Value

/-- The entries of a mapping; nothing else has any. -/
def contents (value : Value) : Entries := value.entries?.getD []

/-- A mapping, or nothing in its place. -/
def IsMappingOrNull (value : Value) : Prop := value.isMapping = true ∨ value = .null

section

variable {value other : Value} {name : String}

/-- What is found in a value depends on its contents alone. -/
theorem member_eq_get? (value : Value) (name : String) :
    value.member name = (Entries.get? value.contents (.text name)).getD .null := by
  unfold member contents
  cases value.entries? with
  | none => rfl
  | some entries => rfl

theorem member_congr (same : value.contents = other.contents) (name : String) :
    value.member name = other.member name := by
  rw [member_eq_get?, member_eq_get?, same]

theorem elements_of_isMapping (isMapping : value.isMapping = true) :
    value.elements = .ok (value.contents.map (·.1)) := by
  rcases isMapping_iff.mp isMapping with ⟨entries, areEntries⟩
  unfold elements contents
  rw [entries?_eq_some_iff.mp areEntries, areEntries]
  rfl

/-- Only mappings have contents, and only mappings that count as given. -/
theorem isMapping_of_contents (notEmpty : value.contents ≠ []) :
    value.isMapping = true ∧ value.truthy = true := by
  unfold contents at notEmpty
  cases areEntries : value.entries? with
  | none =>
      rw [areEntries] at notEmpty
      exact absurd rfl notEmpty
  | some entries =>
      rw [areEntries] at notEmpty
      exact ⟨isMapping_iff.mpr ⟨entries, areEntries⟩, truthy_of_entries? areEntries notEmpty⟩

theorem contents_of_not_truthy (missing : value.truthy = false) : value.contents = [] := by
  by_contra notEmpty
  rw [(isMapping_of_contents notEmpty).2] at missing
  cases missing

/-- A field is only found in a mapping, so whatever has contents below a value shows that the value
itself is one. -/
theorem contents_of_member (found : value.member name ≠ .null) : value.contents ≠ [] := by
  intro isEmpty
  rw [member_eq_get?, isEmpty] at found
  exact found rfl

theorem contents_of_contents_member (notEmpty : (value.member name).contents ≠ []) :
    value.contents ≠ [] := by
  have found : value.member name ≠ .null := by
    intro isNull
    rw [isNull] at notEmpty
    exact notEmpty rfl
  exact contents_of_member found

/-- A field with contents is not replaced. -/
theorem given_of_contents (notEmpty : (value.member name).contents ≠ []) :
    value.given name = value.member name := by
  rw [given_eq_ite, if_pos (isMapping_of_contents notEmpty).2]

theorem IsMappingOrNull.given (shape : (value.member name).IsMappingOrNull) :
    (value.given name).isMapping = true ∧
      (value.given name).contents = (value.member name).contents := by
  rw [given_eq_ite]
  cases isGiven : (value.member name).truthy with
  | true =>
      rw [if_pos rfl]
      rcases shape with isMapping | isNull
      · exact ⟨isMapping, rfl⟩
      · rw [isNull] at isGiven
        cases isGiven
  | false =>
      rw [if_neg (by simp), contents_of_not_truthy isGiven]
      exact ⟨rfl, rfl⟩

end

end Value

namespace ContentType

/-! ## What an operation declares -/

/-- The operation that a document has for a path and a method, or null. -/
def operationAt (spec : Value) (path method : String) : Value :=
  ((spec.member "paths").member path).member method

/-- The types that a request body or a response declares. -/
def declaredTypes (part : Value) : List Value := (part.member "content").contents.map (·.1)

/-- The response that an operation has for a status, or null. -/
def responseFor (operation status : Value) : Value :=
  (Entries.get? (operation.member "responses").contents status).getD .null

/-- The response to a request that succeeded.  The number is looked up where the text is missing or
nothing stands there. -/
def successResponse (operation : Value) : Value :=
  if (responseFor operation (.text "200")).truthy then responseFor operation (.text "200")
  else responseFor operation (.int 200)

/-- The types that are declared for the request or, failing that, for the response. -/
def candidates (operation : Value) : List Value :=
  if declaredTypes (operation.member "requestBody") = [] then
    declaredTypes (successResponse operation)
  else declaredTypes (operation.member "requestBody")

def requestOrder (method : String) : List String :=
  if method = "patch" then [mergePatch, json, linked] else [json, linked]

def responseOrder (path method : String) : List String :=
  if method = "get" ∧ ¬ Path.itemParameter <:+: path.toList then [linked, json]
  else [json, linked]

def preferenceOrder (path method : String) (operation : Value) : List String :=
  if declaredTypes (operation.member "requestBody") = [] then responseOrder path method
  else requestOrder method

/-- A part of an operation has the shape in which types are declared. -/
def IsRegularPart (part : Value) : Prop :=
  part.IsMappingOrNull ∧ (part.member "content").IsMappingOrNull

/-- Whatever has to be looked up for the content type of an operation is a mapping, null or
missing. -/
structure IsRegular (spec : Value) (path method : String) : Prop where
  document : spec.isMapping = true
  paths : (spec.member "paths").IsMappingOrNull
  item : ((spec.member "paths").member path).IsMappingOrNull
  operation : (operationAt spec path method).IsMappingOrNull
  request : IsRegularPart ((operationAt spec path method).member "requestBody")
  responses : ((operationAt spec path method).member "responses").IsMappingOrNull
  response : IsRegularPart (successResponse (operationAt spec path method))

/-- The choice among declared types: the first one in the order of preference that is declared,
the first declared one if none of them is, and plain notation where nothing is declared. -/
inductive Chosen (order : List String) (declared : List Value) : Value → Prop
  | preferred {before after : List String} {name : String}
      (isOrder : order = before ++ name :: after)
      (earlier : ∀ other ∈ before, Value.text other ∉ declared)
      (isDeclared : .text name ∈ declared) : Chosen order declared (.text name)
  | first {type : Value} {rest : List Value} (noneIs : ∀ name ∈ order, Value.text name ∉ declared)
      (isDeclared : declared = type :: rest) : Chosen order declared type
  | usual (nothing : declared = []) : Chosen order declared (.text json)

/-! ## Choosing -/

section

variable {declared other : List Value} {order : List String} {name : String} {type : Value}

theorem isDeclared_iff : isDeclared declared name = true ↔ .text name ∈ declared := by
  unfold isDeclared
  rw [List.any_eq_true]
  constructor
  · rintro ⟨type, member, same⟩
    exact Entries.sameKey_text_iff.mp same ▸ member
  · intro member
    exact ⟨_, member, Entries.sameKey_text_iff.mpr rfl⟩

theorem chosen_choose (declared : List Value) (order : List String) :
    Chosen order declared (choose declared order) := by
  unfold choose preferred?
  cases found : order.find? (isDeclared declared) with
  | some name =>
      rcases List.find?_eq_some_iff_append.mp found with ⟨holds, before, after, isOrder, earlier⟩
      refine .preferred isOrder (fun other member isOther => ?_) (isDeclared_iff.mp holds)
      have refused := earlier other member
      rw [isDeclared_iff.mpr isOther] at refused
      cases refused
  | none =>
      have noneIs : ∀ name ∈ order, Value.text name ∉ declared := fun name member isName =>
        List.find?_eq_none.mp found name member (isDeclared_iff.mpr isName)
      cases declared with
      | nil => exact .usual rfl
      | cons first rest => exact .first noneIs rfl

theorem Chosen.mem (chosen : Chosen order declared type) (notEmpty : declared ≠ []) :
    type ∈ declared := by
  cases chosen with
  | preferred _ _ isDeclared => exact isDeclared
  | first _ isDeclared =>
      rw [isDeclared]
      exact List.mem_cons_self
  | usual nothing => exact absurd nothing notEmpty

/-- Where a preferred type is declared, nothing but what is declared counts. -/
theorem choose_perm (reordered : other.Perm declared)
    (isPreferred : ∃ name ∈ order, .text name ∈ declared) :
    choose other order = choose declared order := by
  have sameDeclared : isDeclared other = isDeclared declared := by
    funext name
    rw [Bool.eq_iff_iff, isDeclared_iff, isDeclared_iff, reordered.mem_iff]
  rcases isPreferred with ⟨name, member, isName⟩
  have isFound : (order.find? (isDeclared declared)).isSome = true :=
    List.find?_isSome.mpr ⟨name, member, isDeclared_iff.mpr isName⟩
  rcases Option.isSome_iff_exists.mp isFound with ⟨found, isFirst⟩
  unfold choose preferred?
  rw [sameDeclared, isFirst]
  rfl

/-- A type that is tried before the others stands first in the order. -/
theorem choose_cons (declared : List Value) (name : String) (order : List String) :
    choose declared (name :: order) =
      if isDeclared declared name then .text name else choose declared order := by
  unfold choose preferred?
  rw [List.find?_cons]
  cases isDeclared declared name with
  | true => rfl
  | false => rfl

theorem choose_nil (order : List String) : choose [] order = .text json := by
  induction order with
  | nil => rfl
  | cons name rest ih =>
      rw [choose_cons, if_neg (fun isName => List.not_mem_nil (isDeclared_iff.mp isName)), ih]

end

/-! ## The parts of an operation -/

section

variable {spec other operation part : Value} {path method : String}

theorem isCollection_iff :
    Path.isCollection path = true ↔ ¬ Path.itemParameter <:+: path.toList := by
  unfold Path.isCollection Path.isItem
  rw [Bool.not_eq_true', ← Bool.not_eq_true, Text.occursIn_iff]

theorem declaredIn_eq (isMapping : part.isMapping = true)
    (shape : (part.member "content").IsMappingOrNull) :
    declaredIn part = .ok (declaredTypes part) := by
  unfold declaredIn declaredTypes
  rw [Value.fieldOrEmpty_of_isMapping isMapping, Outcome.ok_bind,
    Value.elements_of_isMapping shape.given.1, shape.given.2]

/-- Only a part with contents declares anything. -/
theorem contents_of_declaredTypes (declares : declaredTypes part ≠ []) :
    (part.member "content").contents ≠ [] := by
  intro isEmpty
  rw [declaredTypes, isEmpty] at declares
  exact declares rfl

/-- A part that counts as not given declares nothing. -/
theorem declaredTypes_of_not_truthy (missing : part.truthy = false) : declaredTypes part = [] := by
  unfold declaredTypes
  rw [Value.member_eq_get?, Value.contents_of_not_truthy missing]
  rfl

theorem declaredTypes_congr (same : part.contents = other.contents) :
    declaredTypes part = declaredTypes other := by
  unfold declaredTypes
  rw [Value.member_congr same]

theorem IsRegularPart.declaredIn_given {name : String}
    (regular : IsRegularPart (operation.member name)) :
    declaredIn (operation.given name) = .ok (declaredTypes (operation.member name)) := by
  rcases regular with ⟨shape, content⟩
  rw [← Value.member_congr shape.given.2] at content
  rw [declaredIn_eq shape.given.1 content, declaredTypes_congr shape.given.2]

theorem IsRegularPart.isMapping (regular : IsRegularPart part) (isGiven : part.truthy = true) :
    part.isMapping = true := by
  rcases regular.1 with isMapping | isNull
  · exact isMapping
  · rw [isNull] at isGiven
    cases isGiven

theorem orElse_eq_ite (found : Option Value) (missing : Value) :
    Value.orElse found missing =
      if (found.getD .null).truthy then found.getD .null else missing := by
  cases found with
  | none => rfl
  | some value => rfl

/-- The response that is looked at is the one to a request that succeeded, unless that counts as
not given. -/
theorem answer_eq_ite (responses : (operation.member "responses").IsMappingOrNull) :
    answer operation =
      if (successResponse operation).truthy then successResponse operation else .empty := by
  have sameContents := responses.given.2
  unfold Value.contents at sameContents
  unfold answer Entries.field?
  rw [orElse_eq_ite, orElse_eq_ite, sameContents]
  change (if (responseFor operation (.text "200")).truthy then responseFor operation (.text "200")
    else if (responseFor operation (.int 200)).truthy then responseFor operation (.int 200)
    else .empty) = _
  unfold successResponse
  by_cases isGiven : (responseFor operation (.text "200")).truthy = true
  · rw [if_pos isGiven, if_pos isGiven, if_pos isGiven]
  · rw [if_neg isGiven, if_neg isGiven]

theorem declaredIn_answer (responses : (operation.member "responses").IsMappingOrNull)
    (response : IsRegularPart (successResponse operation)) :
    declaredIn (answer operation) = .ok (declaredTypes (successResponse operation)) := by
  rw [answer_eq_ite responses]
  split
  · rename_i isGiven
    exact declaredIn_eq (response.isMapping isGiven) response.2
  · rename_i missing
    rw [declaredTypes_of_not_truthy (Bool.eq_false_iff.mpr missing)]
    rfl

/-! ## Requests and responses -/

/-- The types of a request that declares any are the only ones that count. -/
theorem ofOperation_of_request (isMapping : operation.isMapping = true)
    (declares : declaredTypes (operation.member "requestBody") ≠ []) :
    ofOperation path method operation =
      .ok (choose (declaredTypes (operation.member "requestBody")) (requestOrder method)) := by
  have content := contents_of_declaredTypes declares
  have body := Value.contents_of_contents_member content
  have regular : IsRegularPart (operation.member "requestBody") :=
    ⟨.inl (Value.isMapping_of_contents body).1,
      .inl (Value.isMapping_of_contents content).1⟩
  unfold ofOperation requestOrder
  rw [Value.fieldOrEmpty_of_isMapping isMapping, Outcome.ok_bind, regular.declaredIn_given,
    Outcome.ok_bind, if_pos (by simpa using declares)]
  by_cases isPatch : method = "patch"
  · rw [if_pos isPatch, decide_eq_true isPatch, Bool.true_and, choose_cons _ mergePatch]
    split
    · rfl
    · rfl
  · rw [if_neg isPatch, decide_eq_false isPatch, Bool.false_and, if_neg Bool.false_ne_true]
    rfl

theorem ofOperation_of_response (isMapping : operation.isMapping = true)
    (request : IsRegularPart (operation.member "requestBody"))
    (silent : declaredTypes (operation.member "requestBody") = [])
    (responses : (operation.member "responses").IsMappingOrNull)
    (response : IsRegularPart (successResponse operation)) :
    ofOperation path method operation =
      .ok (choose (declaredTypes (successResponse operation)) (responseOrder path method)) := by
  have succeeded : success operation = .ok (answer operation) :=
    (success_eq_ok_iff isMapping).mpr ⟨responses.given.1, rfl⟩
  unfold ofOperation responseOrder
  rw [Value.fieldOrEmpty_of_isMapping isMapping, Outcome.ok_bind, request.declaredIn_given,
    Outcome.ok_bind, silent, if_neg (by simp), succeeded, Outcome.ok_bind,
    declaredIn_answer responses response, Outcome.ok_bind]
  have isListed : (decide (method = "get") && Path.isCollection path) = true ↔
      method = "get" ∧ ¬ Path.itemParameter <:+: path.toList := by
    rw [Bool.and_eq_true, decide_eq_true_iff, isCollection_iff]
  by_cases listed : method = "get" ∧ ¬ Path.itemParameter <:+: path.toList
  · rw [if_pos listed, if_pos (isListed.mpr listed)]
    rfl
  · rw [if_neg listed, if_neg (fun holds => listed (isListed.mp holds))]
    rfl

/-! ## Whole documents -/

/-- What is looked up in a document that has the operation somewhere is the operation itself. -/
theorem of_eq_ofOperation (isMapping : (operationAt spec path method).isMapping = true) :
    of spec path method = ofOperation path method (operationAt spec path method) := by
  have found : operationAt spec path method ≠ .null := by
    intro isNull
    rw [isNull] at isMapping
    cases isMapping
  -- What is found below them shows that the item, the paths and the document are mappings.
  have item := Value.contents_of_member found
  have paths := Value.contents_of_contents_member item
  have document := Value.contents_of_contents_member paths
  have isOperation := Value.field_of_isMapping (Value.isMapping_of_contents item).1 method
  rcases Value.isMapping_iff.mp isMapping with ⟨entries, areEntries⟩
  unfold operationAt at areEntries
  unfold of Resource.pathItem Resource.paths
  rw [Value.fieldOrEmpty_of_isMapping (Value.isMapping_of_contents document).1,
    Value.given_of_contents paths, Outcome.ok_bind,
    Value.fieldOrEmpty_of_isMapping (Value.isMapping_of_contents paths).1,
    Value.given_of_contents item, Outcome.ok_bind, isOperation, Outcome.ok_bind, areEntries]
  rfl

theorem of_eq_choose_of_request
    (declares : declaredTypes ((operationAt spec path method).member "requestBody") ≠ []) :
    of spec path method =
      .ok (choose (declaredTypes ((operationAt spec path method).member "requestBody"))
        (requestOrder method)) := by
  have body := Value.contents_of_contents_member (contents_of_declaredTypes declares)
  have operation := Value.contents_of_contents_member body
  have isMapping := (Value.isMapping_of_contents operation).1
  rw [of_eq_ofOperation isMapping, ofOperation_of_request isMapping declares]

/-- The type of an operation in a regular document is chosen among all that it declares. -/
theorem IsRegular.of_eq_choose (regular : IsRegular spec path method) :
    of spec path method =
      .ok (choose (candidates (operationAt spec path method))
        (preferenceOrder path method (operationAt spec path method))) := by
  unfold candidates preferenceOrder
  by_cases silent : declaredTypes ((operationAt spec path method).member "requestBody") = []
  · rw [if_pos silent, if_pos silent]
    rcases regular.operation with isMapping | isNull
    · rw [of_eq_ofOperation isMapping, ofOperation_of_response isMapping regular.request silent
        regular.responses regular.response]
    · -- Without an operation the path item is still looked up, so it has to be a mapping.
      have paths := regular.paths.given
      have itemShape := regular.item
      rw [← Value.member_congr paths.2] at itemShape
      have isOperation :
          (((spec.given "paths").given path).member method) = .null := by
        rw [Value.member_congr itemShape.given.2, Value.member_congr paths.2]
        exact isNull
      unfold of Resource.pathItem Resource.paths
      rw [Value.fieldOrEmpty_of_isMapping regular.document, Outcome.ok_bind,
        Value.fieldOrEmpty_of_isMapping paths.1, Outcome.ok_bind,
        Value.field_of_isMapping itemShape.given.1, Outcome.ok_bind, isOperation, isNull]
      have nothing : declaredTypes (successResponse .null) = [] := rfl
      rw [nothing, choose_nil]
      rfl
  · rw [if_neg silent, if_neg silent]
    exact of_eq_choose_of_request silent

theorem silent_iff (requests : (declaredTypes (other.member "requestBody")).Perm
      (declaredTypes (operation.member "requestBody"))) :
    declaredTypes (other.member "requestBody") = [] ↔
      declaredTypes (operation.member "requestBody") = [] := by
  rw [← List.length_eq_zero_iff, requests.length_eq, List.length_eq_zero_iff]

/-- The order in which types are declared does not decide which ones are preferred. -/
theorem preferenceOrder_congr (path method : String)
    (requests : (declaredTypes (other.member "requestBody")).Perm
      (declaredTypes (operation.member "requestBody"))) :
    preferenceOrder path method other = preferenceOrder path method operation := by
  unfold preferenceOrder
  simp only [silent_iff requests]

/-- An operation that declares the same types in another order has the same candidates, as far as
their order does not matter. -/
theorem candidates_perm (requests : (declaredTypes (other.member "requestBody")).Perm
      (declaredTypes (operation.member "requestBody")))
    (responses : (declaredTypes (successResponse other)).Perm
      (declaredTypes (successResponse operation))) :
    (candidates other).Perm (candidates operation) := by
  unfold candidates
  simp only [silent_iff requests]
  split
  · exact responses
  · exact requests

/-- In a regular document every path and method have a content type.  It is the most preferred type
that the operation declares, or else the first declared one, or plain notation if none is declared;
so it is among the declared types if there are any.  If the request declares a type, every document
with the same request body has the same type there, whatever it says of responses.  If a preferred
type is declared, the order in which the types are declared does not matter. -/
theorem chosen_from_declared (regular : IsRegular spec path method) :
    ∃ type, of spec path method = .ok type ∧
      Chosen (preferenceOrder path method (operationAt spec path method))
        (candidates (operationAt spec path method)) type ∧
      (candidates (operationAt spec path method) ≠ [] →
        type ∈ candidates (operationAt spec path method)) ∧
      (declaredTypes ((operationAt spec path method).member "requestBody") ≠ [] →
        ∀ other, (operationAt other path method).member "requestBody" =
            (operationAt spec path method).member "requestBody" →
          of other path method = .ok type) ∧
      ((∃ name ∈ preferenceOrder path method (operationAt spec path method),
          .text name ∈ candidates (operationAt spec path method)) →
        ∀ other, IsRegular other path method →
          (declaredTypes ((operationAt other path method).member "requestBody")).Perm
            (declaredTypes ((operationAt spec path method).member "requestBody")) →
          (declaredTypes (successResponse (operationAt other path method))).Perm
            (declaredTypes (successResponse (operationAt spec path method))) →
          of other path method = .ok type) := by
  have chosen := chosen_choose (candidates (operationAt spec path method))
    (preferenceOrder path method (operationAt spec path method))
  refine ⟨_, regular.of_eq_choose, chosen, chosen.mem, ?_, ?_⟩
  · intro declares other sameRequest
    have found := of_eq_choose_of_request declares
    rw [← regular.of_eq_choose, found, ← sameRequest]
    exact of_eq_choose_of_request (sameRequest ▸ declares)
  · intro isPreferred other otherRegular requests responses
    rw [otherRegular.of_eq_choose, preferenceOrder_congr path method requests,
      choose_perm (candidates_perm requests responses) isPreferred]

end

/-- A document with one operation, whose response to success has a number for its status. -/
def reportsWith (types : List String) : Value :=
  .record [("paths", .record [("/api/reports", .record [("get", .map [
    (.text "requestBody", .null),
    (.text "responses", .map [(.text "200", .empty),
      (.int 200, .record [("content", .record (types.map fun type => (type, .empty)))])])])])])]

private theorem isRegular_reportsWith (types : List String) :
    IsRegular (reportsWith types) "/api/reports" "get" where
  document := rfl
  paths := .inl rfl
  item := .inl rfl
  operation := .inl rfl
  request := ⟨.inr rfl, .inr rfl⟩
  responses := .inl rfl
  response := ⟨.inl rfl, .inl rfl⟩

private theorem declaredTypes_reportsWith (types : List String) :
    declaredTypes (successResponse (operationAt (reportsWith types) "/api/reports" "get")) =
      types.map .text := by
  change ((types.map fun type => (type, Value.empty)).map fun field =>
    (Value.text field.1, field.2)).map (·.1) = _
  rw [List.map_map, List.map_map]
  rfl

theorem chosen_from_declared_reports :
    IsRegular (reportsWith ["text/csv", json, linked]) "/api/reports" "get" ∧
      of (reportsWith ["text/csv", json, linked]) "/api/reports" "get" = .ok (.text linked) ∧
      of (reportsWith [linked, "text/csv", json]) "/api/reports" "get" = .ok (.text linked) := by
  have regular := isRegular_reportsWith ["text/csv", json, linked]
  have isLinked :
      of (reportsWith ["text/csv", json, linked]) "/api/reports" "get" = .ok (.text linked) := by
    rfl
  rcases chosen_from_declared regular with ⟨type, found, -, -, -, reordered⟩
  cases isLinked.symm.trans found
  have order : [linked, "text/csv", json].Perm ["text/csv", json, linked] := by decide
  have responses := order.map Value.text
  rw [← declaredTypes_reportsWith, ← declaredTypes_reportsWith] at responses
  have isPreferred : .text linked ∈
      candidates (operationAt (reportsWith ["text/csv", json, linked]) "/api/reports" "get") := by
    change _ ∈ declaredTypes (successResponse _)
    rw [declaredTypes_reportsWith]
    exact List.mem_map_of_mem (by decide)
  exact ⟨regular, isLinked, reordered ⟨linked, by decide, isPreferred⟩ _ (isRegular_reportsWith _)
    (.refl _) responses⟩

end ContentType
end ApiAccessors
