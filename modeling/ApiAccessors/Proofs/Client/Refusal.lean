import ApiAccessors.Proofs.Client.Answer

namespace ApiAccessors

/-!
# What is said of refused requests

A response with a status other than that of success makes a call stop.  If its content is a
document, the error holds the document, and its message is the text in the first of four fields that
has one, whatever the order of the fields in the document.  Otherwise the error holds the content as
a text, and its message is the phrase of the response.

This is so only if the library has a response and its content can be read in one of the two ways.  A
reply that the library does not take for one makes the same error as no reply at all, and content
that is neither document nor text stops the call with a fault.
-/

namespace Client

section

variable {σ : Type} {surroundings : Surroundings σ} {client : Client} {arguments : Arguments}
  {message : Message} {kept : σ}

/-- The library has no response to a message or one that refuses it. -/
def IsRefused (came : Except Trouble Response) : Prop :=
  ∀ response, came = .ok response → response.status < 200 ∨ 300 ≤ response.status

theorem isSuccess_of_isRefused {came : Except Trouble Response} (refused : IsRefused came)
    {response : Response} (isResponse : came = .ok response) :
    Status.isSuccess response.status = false := by
  have range := refused response isResponse
  unfold Status.isSuccess
  rw [Bool.and_eq_false_iff, decide_eq_false_iff_not, decide_eq_false_iff_not]
  omega

/-- A call whose request is refused never gives a value.  It ends with an error of a status just if
the library has a response of this status that tells something, and then the error is what it
tells; a response tells something if its content is a document, or none because of what it is and
then a text.  The only other error is that of no response, and all else is a fault. -/
theorem refused_call_cases
    (isMessage : client.message surroundings.writingRoom arguments = .ok message)
    (refused : IsRefused (surroundings.send message kept).1) :
    (∀ value, (client.perform surroundings arguments kept).1 ≠ .ok value) ∧
    (∀ status said payload,
      (client.perform surroundings arguments kept).1 =
          .error (.api ⟨some status, said, payload⟩) ↔
        ∃ response, (surroundings.send message kept).1 = .ok response ∧
          response.status = status ∧ response.Tells said payload) ∧
    (∀ response, (surroundings.send message kept).1 = .ok response →
      ((∃ said payload, (client.perform surroundings arguments kept).1 =
          .error (.api ⟨some response.status, said, payload⟩)) ↔
        (∃ document, response.document = .ok document) ∨
          (response.IsNoDocument ∧ ∃ text, response.text = .ok text))) ∧
    (∀ error, error.status = none →
      ((client.perform surroundings arguments kept).1 = .error (.api error) ↔
        (∃ reason, (surroundings.send message kept).1 = .error (.unanswered reason)) ∧
          error = networkError)) ∧
    ∀ cause, (client.perform surroundings arguments kept).1 = .error (.fault cause) ↔
      (surroundings.send message kept).1 = .error (.broken cause) ∨
        ∃ response, (surroundings.send message kept).1 = .ok response ∧
          response.IsMute cause := by
  rcases perform_cases isMessage kept with ⟨values, errors, faults⟩
  have told (status : Int) (said : String) (payload : Value) :
      (client.perform surroundings arguments kept).1 =
          .error (.api ⟨some status, said, payload⟩) ↔
        ∃ response, (surroundings.send message kept).1 = .ok response ∧
          response.status = status ∧ response.Tells said payload := by
    rw [errors]
    constructor
    · rintro (⟨-, isNetwork⟩ | ⟨response, isResponse, -, isStatus, complains⟩)
      · cases isNetwork
      · exact ⟨response, isResponse, (Option.some.inj isStatus).symm,
          Response.tells_iff_complains.mpr complains⟩
    · rintro ⟨response, isResponse, rfl, tells⟩
      exact Or.inr ⟨response, isResponse, isSuccess_of_isRefused refused isResponse, rfl,
        Response.tells_iff_complains.mp tells⟩
  refine ⟨fun value same => ?_, told, fun response isResponse => ?_, fun error noStatus => ?_,
    fun cause => ?_⟩
  · rcases (values value).mp same with ⟨response, isResponse, success, -⟩
    rw [isSuccess_of_isRefused refused isResponse] at success
    cases success
  · simp only [told, isResponse, Except.ok.injEq, exists_eq_left', true_and]
    exact Response.exists_tells_iff
  · rw [errors]
    constructor
    · rintro (unanswered | ⟨response, -, -, isStatus, -⟩)
      · exact unanswered
      · rw [noStatus] at isStatus
        cases isStatus
    · exact Or.inl
  · rw [faults]
    refine or_congr_right (exists_congr fun response => and_congr_right fun isResponse => ?_)
    simp [isSuccess_of_isRefused refused isResponse]

end

/-- A document with texts in two of the fields for messages, and a number in a third. -/
def missingTask : Value :=
  .map [(.text "title", .text "Not found"), (.text "message", .int 7),
    (.text "detail", .text "No such task")]

def missingTaskText : String :=
  "\x7b\"title\": \"Not found\", \"message\": 7, \"detail\": \"No such task\"\x7d"

def missingTaskReply : Reply := ⟨404, none, [], Text.Utf8.encode missingTaskText.toList⟩

private theorem document_missingTaskReply :
    (missingTaskReply.response 985).document = .ok missingTask := by
  have characters : missingTaskText.toList = _ := String.toList_ofList
  have isText : Reply.decodeDocument missingTaskReply.body = some missingTaskText.toList := by
    decide +kernel
  change Reply.document 985 missingTaskReply = _
  unfold Reply.document
  rw [isText, characters]
  rfl

private theorem send_missingTaskReply :
    ((through (.reply missingTaskReply)).send listTasksMessage tasksSession).1 =
      .ok (missingTaskReply.response 985) := rfl

theorem refused_call_cases_missingTask :
    plainClient.message 985 listTasks = .ok listTasksMessage ∧
      IsRefused ((through (.reply missingTaskReply)).send listTasksMessage tasksSession).1 ∧
      (plainClient.perform (through (.reply missingTaskReply)) listTasks tasksSession).1 =
        .error (.api ⟨some 404, "No such task", missingTask⟩) := by
  have refused :
      IsRefused ((through (.reply missingTaskReply)).send listTasksMessage tasksSession).1 := by
    rw [send_missingTaskReply]
    intro response isResponse
    cases isResponse
    exact Or.inr (by decide)
  have isMessage : Response.IsMessage missingTask "No such task" :=
    Response.isMessage_iff.mpr (by decide)
  exact ⟨message_listTasks, refused,
    ((refused_call_cases message_listTasks refused).2.1 _ _ _).mpr
      ⟨_, send_missingTaskReply, rfl, .document document_missingTaskReply isMessage⟩⟩

/-- A reply that names a place whose port is no number. -/
def misplacedReply : Reply := ⟨302, none, [("location", "http://next.example.test:bad/")], []⟩

/-- A reply whose body needs a mark for its encoding and has none. -/
def unmarkedReply : Reply :=
  ⟨500, none, [("content-type", "text/plain; charset=utf-16")],
    [0, 0x4F, 0, 0x6F, 0, 0x70, 0, 0x73]⟩

private theorem isMute_unmarkedReply : (unmarkedReply.response 985).IsMute .noMark :=
  .text ⟨.unreadableReply, rfl, rfl⟩ rfl

/-- Two refused requests that are answered: for one of them there is an error without a status, and
for the other one no error of the interface at all. -/
theorem refused_call_not_told :
    make [] = .ok plainClient ∧
      Session.make 985 0 (.text "https://api.example.test") .null = .ok tasksSession ∧
      (plainClient.perform (through (.reply misplacedReply)) listTasks tasksSession).1 =
        .error (.api networkError) ∧
      (plainClient.perform (through (.reply unmarkedReply)) listTasks tasksSession).1 =
        .error (.fault .noMark) := by
  refine ⟨make_plainClient, make_tasksSession, (perform_eq_iff message_listTasks).mpr ?_,
    (perform_eq_iff message_listTasks).mpr ?_⟩
  · exact .unanswered _
  · exact .mute (by decide) isMute_unmarkedReply

end Client
end ApiAccessors
