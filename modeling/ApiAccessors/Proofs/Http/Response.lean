import ApiAccessors.Http.Exchange

namespace ApiAccessors
namespace Response

/-!
# What responses stand for

Whether the content of a response is a document or a text, and which, the library has found out.
Which of the two counts for a response with success is said by its type; the response to a refused
request is taken for a document whenever it is one.

All four results are described by rules, so that what a response stands for and why it stands for
nothing can be told without the order in which the client tries the readings.
-/

/-- Whether the type of a response says that its content is a document. -/
def declaresDocument (response : Response) : Bool := MediaType.isJson response.contentType

/-- What the content stands for, as its type says. -/
inductive StandsFor (response : Response) : Value → Prop
  | nothing (isEmpty : response.content = []) : StandsFor response .null
  | document {value : Value} (notEmpty : response.content ≠ [])
      (declared : response.declaresDocument = true) (isDocument : response.document = .ok value) :
      StandsFor response value
  | text {text : String} (notEmpty : response.content ≠ [])
      (notDeclared : response.declaresDocument = false) (isText : response.text = .ok text) :
      StandsFor response (.text text)

/-- The content cannot be read as its type says. -/
inductive IsUnreadable (response : Response) : Fault → Prop
  | document {cause : Fault} (notEmpty : response.content ≠ [])
      (declared : response.declaresDocument = true)
      (noDocument : response.document = .error cause) : IsUnreadable response cause
  | text {cause : Fault} (notEmpty : response.content ≠ [])
      (notDeclared : response.declaresDocument = false) (noText : response.text = .error cause) :
      IsUnreadable response cause

/-- What is said of a refused request whose response is no document. -/
def bareMessage (response : Response) : String :=
  if response.phrase = "" then unnamedError else response.phrase

/-- The content is no document because of what it is, and not because reading it failed. -/
def IsNoDocument (response : Response) : Prop :=
  ∃ cause : Fault, response.document = .error cause ∧ cause.liesInValue = true

/-- The message and the details of a refused request. -/
inductive Complains (response : Response) : String → Value → Prop
  | document {document : Value} (isDocument : response.document = .ok document) :
      Complains response (messageOf document) document
  | text {text : String} (isNoDocument : response.IsNoDocument)
      (isText : response.text = .ok text) :
      Complains response response.bareMessage (.text text)

/-- The response to a refused request has neither message nor details. -/
inductive IsMute (response : Response) : Fault → Prop
  | document {cause : Fault} (noDocument : response.document = .error cause)
      (failed : cause.liesInValue = false) : IsMute response cause
  | text {cause : Fault} (isNoDocument : response.IsNoDocument)
      (noText : response.text = .error cause) : IsMute response cause

section

variable {response : Response} {value payload : Value} {message : String} {cause : Fault}

private theorem value_of_notEmpty (notEmpty : response.content ≠ []) :
    response.value =
      if response.declaresDocument then response.document else response.text.map .text := by
  unfold value
  rw [if_neg (by simpa using notEmpty)]
  rfl

theorem value_of_standsFor (stands : response.StandsFor value) : response.value = .ok value := by
  cases stands with
  | nothing isEmpty =>
      unfold Response.value
      rw [isEmpty]
      rfl
  | document notEmpty declared isDocument =>
      rw [value_of_notEmpty notEmpty, if_pos declared, isDocument]
  | text notEmpty notDeclared isText =>
      rw [value_of_notEmpty notEmpty, notDeclared, isText]
      rfl

theorem value_of_isUnreadable (unreadable : response.IsUnreadable cause) :
    response.value = .error cause := by
  cases unreadable with
  | document notEmpty declared noDocument =>
      rw [value_of_notEmpty notEmpty, if_pos declared, noDocument]
  | text notEmpty notDeclared noText =>
      rw [value_of_notEmpty notEmpty, notDeclared, noText]
      rfl

/-- All content stands for one value or cannot be read for one cause. -/
theorem standsFor_or_isUnreadable (response : Response) :
    (∃ value, response.StandsFor value) ∨ ∃ cause, response.IsUnreadable cause := by
  by_cases isEmpty : response.content = []
  · exact Or.inl ⟨_, .nothing isEmpty⟩
  · cases declared : response.declaresDocument with
    | true =>
        cases read : response.document with
        | ok value => exact Or.inl ⟨_, .document isEmpty declared read⟩
        | error cause => exact Or.inr ⟨_, .document isEmpty declared read⟩
    | false =>
        cases read : response.text with
        | ok text => exact Or.inl ⟨_, .text isEmpty declared read⟩
        | error cause => exact Or.inr ⟨_, .text isEmpty declared read⟩

private theorem complaint_of_isNoDocument (isNoDocument : response.IsNoDocument) :
    response.complaint =
      response.text.map (fun text => (response.bareMessage, .text text)) := by
  have phrase : (if response.phrase.isEmpty then unnamedError else response.phrase) =
      response.bareMessage := by
    unfold bareMessage
    by_cases isEmpty : response.phrase = ""
    · rw [if_pos isEmpty, isEmpty]
      rfl
    · rw [if_neg isEmpty, if_neg (by simpa using isEmpty)]
  rcases isNoDocument with ⟨cause, noDocument, inValue⟩
  unfold complaint
  rw [noDocument, ← phrase]
  exact if_pos inValue

theorem complaint_of_complains (complains : response.Complains message payload) :
    response.complaint = .ok (message, payload) := by
  cases complains with
  | document isDocument =>
      unfold complaint
      rw [isDocument]
  | text isNoDocument isText =>
      rw [complaint_of_isNoDocument isNoDocument, isText]
      rfl

theorem complaint_of_isMute (mute : response.IsMute cause) :
    response.complaint = .error cause := by
  cases mute with
  | document noDocument failed =>
      unfold complaint
      rw [noDocument]
      exact if_neg (Bool.eq_false_iff.mp failed)
  | text isNoDocument noText =>
      rw [complaint_of_isNoDocument isNoDocument, noText]
      rfl

/-- Every response to a refused request has a message or has none for one cause. -/
theorem complains_or_isMute (response : Response) :
    (∃ message payload, response.Complains message payload) ∨ ∃ cause, response.IsMute cause := by
  cases read : response.document with
  | ok document => exact Or.inl ⟨_, _, .document read⟩
  | error cause =>
      cases inValue : cause.liesInValue with
      | false => exact Or.inr ⟨_, .document read inValue⟩
      | true =>
          have isNoDocument : response.IsNoDocument := ⟨cause, read, inValue⟩
          cases isText : response.text with
          | ok text => exact Or.inl ⟨_, _, .text isNoDocument isText⟩
          | error cause => exact Or.inr ⟨_, .text isNoDocument isText⟩

/-- A document is a mapping that has a text in a field. -/
def HasText (document : Value) (name message : String) : Prop :=
  ∃ entries, document = .map entries ∧ Entries.field? entries name = some (.text message)

/-- What a document says of an error. -/
inductive IsMessage (document : Value) : String → Prop
  | field {before after : List String} {name message : String}
      (isOrder : ["message", "detail", "hydra:description", "title"] = before ++ name :: after)
      (earlier : ∀ other ∈ before, ∀ text, ¬ HasText document other text)
      (holds : HasText document name message) : IsMessage document message
  | nothing
      (silent : ∀ name ∈ ["message", "detail", "hydra:description", "title"],
        ∀ text, ¬ HasText document name text) :
      IsMessage document "API Error"

/-- The message and the details of a refused request, as its response gives them. -/
inductive Tells (response : Response) : String → Value → Prop
  | document {document : Value} {message : String} (isDocument : response.document = .ok document)
      (isMessage : IsMessage document message) : Tells response message document
  | text {text : String} (isNoDocument : response.IsNoDocument)
      (isText : response.text = .ok text) :
      Tells response (if response.phrase = "" then "API Error" else response.phrase) (.text text)

/-- The text in a field of a document. -/
def textIn (document : Value) (name : String) : Option String :=
  match document with
  | .map entries =>
      match Entries.field? entries name with
      | some (.text message) => some message
      | _ => none
  | _ => none

variable {document : Value} {name : String}

theorem textIn_eq_some_iff :
    textIn document name = some message ↔ HasText document name message := by
  unfold HasText
  cases document with
  | map entries =>
      unfold textIn
      simp only
      cases found : Entries.field? entries name with
      | none => simp [found]
      | some value => cases value <;> simp [found]
  | _ => simp [textIn]

theorem textIn_eq_none_iff :
    textIn document name = none ↔ ∀ text, ¬ HasText document name text := by
  rw [Option.eq_none_iff_forall_ne_some]
  exact forall_congr' fun text => not_congr textIn_eq_some_iff

theorem messageOf_eq (document : Value) :
    messageOf document = (messageFields.findSome? (textIn document)).getD "API Error" := by
  unfold messageOf
  congr 2
  funext name
  cases document <;> rfl

theorem isMessage_iff : IsMessage document message ↔ message = messageOf document := by
  rw [messageOf_eq]
  constructor
  · intro isMessage
    cases isMessage with
    | field isOrder earlier holds =>
        have found : messageFields.findSome? (textIn document) = some message :=
          List.findSome?_eq_some_iff.mpr ⟨_, _, _, isOrder, textIn_eq_some_iff.mpr holds,
            fun other member => textIn_eq_none_iff.mpr (earlier other member)⟩
        rw [found]
        rfl
    | nothing silent =>
        have found : messageFields.findSome? (textIn document) = none :=
          List.findSome?_eq_none_iff.mpr fun name member =>
            textIn_eq_none_iff.mpr (silent name member)
        rw [found]
        rfl
  · rintro rfl
    cases found : messageFields.findSome? (textIn document) with
    | some message =>
        rcases List.findSome?_eq_some_iff.mp found with
          ⟨before, name, after, isOrder, holds, earlier⟩
        exact .field isOrder (fun other member => textIn_eq_none_iff.mp (earlier other member))
          (textIn_eq_some_iff.mp holds)
    | none =>
        exact .nothing fun name member =>
          textIn_eq_none_iff.mp (List.findSome?_eq_none_iff.mp found name member)

theorem tells_iff_complains :
    response.Tells message payload ↔ response.Complains message payload := by
  constructor
  · rintro (⟨isDocument, isMessage⟩ | ⟨isNoDocument, isText⟩)
    · rw [isMessage_iff.mp isMessage]
      exact .document isDocument
    · exact .text isNoDocument isText
  · rintro (isDocument | ⟨isNoDocument, isText⟩)
    · exact .document isDocument (isMessage_iff.mpr rfl)
    · exact .text isNoDocument isText

/-- A response tells something just if it is a document, or else a text. -/
theorem exists_tells_iff :
    (∃ message payload, response.Tells message payload) ↔
      (∃ document, response.document = .ok document) ∨
        (response.IsNoDocument ∧ ∃ text, response.text = .ok text) := by
  constructor
  · rintro ⟨message, payload, tells⟩
    cases tells with
    | document isDocument _ => exact Or.inl ⟨_, isDocument⟩
    | text isNoDocument isText => exact Or.inr ⟨isNoDocument, _, isText⟩
  · rintro (⟨document, isDocument⟩ | ⟨isNoDocument, text, isText⟩)
    · exact ⟨_, _, .document isDocument (isMessage_iff.mpr rfl)⟩
    · exact ⟨_, _, .text isNoDocument isText⟩

end

end Response
end ApiAccessors
