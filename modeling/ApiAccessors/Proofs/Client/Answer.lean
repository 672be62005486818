import ApiAccessors.Client
import ApiAccessors.Http.Session
import ApiAccessors.Proofs.Http.Response
import ApiAccessors.Proofs.Outcome

namespace ApiAccessors

/-!
# What calls give

A call whose message can be made gives a value, an error of the interface, or a fault.  Which of
them it is depends on what the library makes of the message, whatever library it is.  It may have
no response, because nothing came that counts as one, or because it stopped itself.  Else the status
of the response says whether its content is read as a value or as a complaint.

Errors of the interface do not cover all that can go wrong.  A response with success whose content
is not what its type says stops the call with a fault.
-/

namespace Call

variable {σ α β : Type} {trace after : CallTrace σ}

/-- A call ends with a value and leaves a trace behind. -/
def Ends (call : Call σ α) (trace : CallTrace σ) (value : α) (after : CallTrace σ) : Prop :=
  call.run.run trace = (.ok value, after)

/-- A call stops with a problem and leaves a trace behind. -/
def Stops (call : Call σ α) (trace : CallTrace σ) (problem : CallProblem)
    (after : CallTrace σ) : Prop :=
  call.run.run trace = (.error problem, after)

theorem run_bind_of_ends {call : Call σ α} {next : α → Call σ β} {value : α}
    (ended : Ends call trace value after) :
    (call >>= next).run.run trace = (next value).run.run after := by
  rw [ExceptT.run_bind, StateT.run_bind, ended]
  rfl

theorem run_lift_bind_of_ok {computation : Except Fault α} {value : α} {next : α → Call σ β}
    (ended : computation = .ok value) :
    (lift computation >>= next).run.run trace = (next value).run.run trace := by
  rw [ended]
  rfl

end Call

/-- The error for a request that no reply came to. -/
def networkError : ApiError := ⟨none, "Network Error", .null⟩

namespace Client

def message (room : Nat) (client : Client) (arguments : Arguments) : Except Fault Message := do
  client.complete arguments (← client.openMessage room arguments)

/-- What a call gives, by what the library makes of its message. -/
inductive Results : Except Trouble Response → Except CallProblem Value → Prop
  | value {response : Response} {value : Value}
      (success : Status.isSuccess response.status = true) (stands : response.StandsFor value) :
      Results (.ok response) (.ok value)
  | unreadable {response : Response} {cause : Fault}
      (success : Status.isSuccess response.status = true)
      (unreadable : response.IsUnreadable cause) : Results (.ok response) (.error (.fault cause))
  | refused {response : Response} {message : String} {payload : Value}
      (refused : Status.isSuccess response.status = false)
      (complains : response.Complains message payload) :
      Results (.ok response) (.error (.api ⟨some response.status, message, payload⟩))
  | mute {response : Response} {cause : Fault} (refused : Status.isSuccess response.status = false)
      (mute : response.IsMute cause) : Results (.ok response) (.error (.fault cause))
  | unanswered (reason : String) :
      Results (.error (.unanswered reason)) (.error (.api networkError))
  | broken (cause : Fault) : Results (.error (.broken cause)) (.error (.fault cause))

section

variable {σ : Type} {surroundings : Surroundings σ} {client : Client} {arguments : Arguments}
  {message : Message}

section

variable {response : Response} {trace : CallTrace σ} {cause : Fault}

theorem ends_answer_of_standsFor {value : Value} (success : Status.isSuccess response.status = true)
    (stands : response.StandsFor value) : Call.Ends (answer response) trace value trace := by
  unfold answer
  rw [if_pos success, Response.value_of_standsFor stands]
  rfl

theorem stops_answer_of_isUnreadable (success : Status.isSuccess response.status = true)
    (unreadable : response.IsUnreadable cause) :
    Call.Stops (answer response) trace (.fault cause) trace := by
  unfold answer
  rw [if_pos success, Response.value_of_isUnreadable unreadable]
  rfl

theorem stops_answer_of_complains (trace : CallTrace σ) {message : String} {payload : Value}
    (refused : Status.isSuccess response.status = false)
    (complains : response.Complains message payload) :
    ∃ after,
      Call.Stops (answer response) trace (.api ⟨some response.status, message, payload⟩) after := by
  unfold answer
  rw [if_neg (Bool.eq_false_iff.mp refused), Response.complaint_of_complains complains]
  exact ⟨_, rfl⟩

theorem stops_answer_of_isMute (refused : Status.isSuccess response.status = false)
    (mute : response.IsMute cause) : Call.Stops (answer response) trace (.fault cause) trace := by
  unfold answer
  rw [if_neg (Bool.eq_false_iff.mp refused), Response.complaint_of_isMute mute]
  rfl

end

/-- A call has its message sent once, and goes on with what the library makes of it. -/
theorem perform_of_message
    (isMessage : client.message surroundings.writingRoom arguments = .ok message) (kept : σ) :
    ∃ trace : CallTrace σ, client.perform surroundings arguments kept =
      (conclude (surroundings.send message kept).1).run.run trace := by
  rcases Outcome.bind_eq_ok_iff.mp isMessage with ⟨opened, isOpened, completed⟩
  refine ⟨⟨[⟨.debug, Call.logger, opened.method ++ " " ++ opened.path⟩],
    (surroundings.send message kept).2⟩, ?_⟩
  have reported : Call.Ends (Call.report .debug (opened.method ++ " " ++ opened.path)) ⟨[], kept⟩ ()
      ⟨[⟨.debug, Call.logger, opened.method ++ " " ++ opened.path⟩], kept⟩ := rfl
  unfold perform Client.request
  rw [Call.run_lift_bind_of_ok isOpened, Call.run_bind_of_ends reported,
    Call.run_lift_bind_of_ok completed]
  rfl

theorem conclude_of_results {came : Except Trouble Response} (trace : CallTrace σ)
    {result : Except CallProblem Value} (results : Results came result) :
    ((conclude came).run.run trace).1 = result := by
  cases results with
  | value success stands => exact congrArg Prod.fst (ends_answer_of_standsFor success stands)
  | unreadable success unreadable =>
      exact congrArg Prod.fst (stops_answer_of_isUnreadable success unreadable)
  | refused refused complains =>
      rcases stops_answer_of_complains trace refused complains with ⟨after, stopped⟩
      exact congrArg Prod.fst stopped
  | mute refused mute => exact congrArg Prod.fst (stops_answer_of_isMute refused mute)
  | unanswered reason => rfl
  | broken cause => rfl

theorem exists_results (came : Except Trouble Response) : ∃ result, Results came result := by
  rcases came with (reason | cause) | response
  · exact ⟨_, .unanswered reason⟩
  · exact ⟨_, .broken cause⟩
  · cases success : Status.isSuccess response.status with
    | true =>
        rcases response.standsFor_or_isUnreadable with ⟨value, stands⟩ | ⟨cause, unreadable⟩
        · exact ⟨_, .value success stands⟩
        · exact ⟨_, .unreadable success unreadable⟩
    | false =>
        rcases response.complains_or_isMute with ⟨message, payload, complains⟩ | ⟨cause, mute⟩
        · exact ⟨_, .refused success complains⟩
        · exact ⟨_, .mute success mute⟩

/-- The rules say exactly what a call gives, since one of them applies to all that can come. -/
theorem perform_eq_iff
    (isMessage : client.message surroundings.writingRoom arguments = .ok message) {kept : σ}
    {result : Except CallProblem Value} :
    (client.perform surroundings arguments kept).1 = result ↔
      Results (surroundings.send message kept).1 result := by
  rcases perform_of_message isMessage kept with ⟨trace, performed⟩
  rw [performed]
  constructor
  · intro same
    -- Some rule applies, and what it gives is the result that the call is known to have.
    rcases exists_results (surroundings.send message kept).1 with ⟨found, results⟩
    rw [← same, conclude_of_results trace results]
    exact results
  · exact conclude_of_results trace

/-- A call gives a value just if the library has a response with success and its content can be read
as its type says.  It gives an error of the interface just if the library has no response because
nothing came that counts as one, or has one whose status is no success and that has a message.  In
all other cases it stops with a fault, also where the content of a response with success cannot be
read. -/
theorem perform_cases
    (isMessage : client.message surroundings.writingRoom arguments = .ok message) (kept : σ) :
    (∀ value, (client.perform surroundings arguments kept).1 = .ok value ↔
      ∃ response, (surroundings.send message kept).1 = .ok response ∧
        Status.isSuccess response.status = true ∧ response.StandsFor value) ∧
    (∀ error, (client.perform surroundings arguments kept).1 = .error (.api error) ↔
      ((∃ reason, (surroundings.send message kept).1 = .error (.unanswered reason)) ∧
        error = networkError) ∨
      ∃ response, (surroundings.send message kept).1 = .ok response ∧
        Status.isSuccess response.status = false ∧ error.status = some response.status ∧
        response.Complains error.message error.payload) ∧
    ∀ cause, (client.perform surroundings arguments kept).1 = .error (.fault cause) ↔
      (surroundings.send message kept).1 = .error (.broken cause) ∨
      ∃ response, (surroundings.send message kept).1 = .ok response ∧
        ((Status.isSuccess response.status = true ∧ response.IsUnreadable cause) ∨
          (Status.isSuccess response.status = false ∧ response.IsMute cause)) := by
  simp only [perform_eq_iff isMessage]
  generalize (surroundings.send message kept).1 = came
  refine ⟨fun value => ⟨?_, ?_⟩, fun error => ⟨?_, ?_⟩, fun cause => ⟨?_, ?_⟩⟩
  · rintro ⟨success, stands⟩
    exact ⟨_, rfl, success, stands⟩
  · rintro ⟨response, rfl, success, stands⟩
    exact .value success stands
  · rintro (_ | _ | ⟨refused, complains⟩ | _ | reason)
    · exact Or.inr ⟨_, rfl, refused, rfl, complains⟩
    · exact Or.inl ⟨⟨_, rfl⟩, rfl⟩
  · rintro (⟨⟨reason, rfl⟩, rfl⟩ | ⟨response, rfl, refused, isStatus, complains⟩)
    · exact .unanswered reason
    · rcases error with ⟨status, message, payload⟩
      cases isStatus
      exact .refused refused complains
  · intro results
    cases results with
    | unreadable success unreadable => exact Or.inr ⟨_, rfl, Or.inl ⟨success, unreadable⟩⟩
    | mute refused mute => exact Or.inr ⟨_, rfl, Or.inr ⟨refused, mute⟩⟩
    | broken cause => exact Or.inl rfl
  · rintro (rfl | ⟨response, rfl, ⟨success, unreadable⟩ | ⟨refused, mute⟩⟩)
    · exact .broken cause
    · exact .unreadable success unreadable
    · exact .mute refused mute

end

/-! ## A call for tasks

The library is a session here.  Nothing has been sent in it before.
-/

/-- A client without settings. -/
def plainClient : Client := ⟨.text "", .null, .text "Bearer"⟩

theorem make_plainClient : make [] = .ok plainClient := rfl

/-- A session before its first request. -/
def tasksSession : Session where
  room := 985
  base := ⟨"https".toList, [], "api.example.test".toList, none, [], none, none⟩
  headers := Session.usualHeaders
  isClosed := false
  cookies := []
  now := 0
  sent := none

theorem make_tasksSession :
    Session.make 985 0 (.text "https://api.example.test") .null = .ok tasksSession := rfl

/-- A call without a body. -/
def listTasks : Arguments :=
  ⟨.text "get", .text "/api/tasks", .null, .null, .null, .text ContentType.json, .null⟩

def listTasksMessage : Message where
  method := "GET"
  path := "/api/tasks"
  query := []
  content := .null
  headers := [(.text "Content-Type", .text ContentType.json),
    (.text "Accept", .text ContentType.json)]

theorem message_listTasks : plainClient.message 985 listTasks = .ok listTasksMessage := rfl

/-- The session as the library of a client, with what comes back from its request. -/
def through (outcome : Outcome) : Surroundings Session := ⟨985, Session.send outcome⟩

/-- A reply whose type says that its body is a document, which it is not. -/
def garbledReply : Reply :=
  ⟨200, none, [("content-type", "application/json")], Text.Utf8.encode ("\x7bbad".toList)⟩

private theorem send_garbledReply :
    ((through (.reply garbledReply)).send listTasksMessage tasksSession).1 =
      .ok (garbledReply.response 985) := rfl

private theorem isUnreadable_garbledReply :
    (garbledReply.response 985).IsUnreadable .unreadableReply := by
  have refused : ((garbledReply.response 985).document matches .error .unreadableReply) = true := by
    decide +kernel
  refine .document (by decide) (by decide) ?_
  split at refused
  · assumption
  · cases refused

theorem perform_cases_listTasks :
    make [] = .ok plainClient ∧
      Session.make 985 0 (.text "https://api.example.test") .null = .ok tasksSession ∧
      plainClient.message 985 listTasks = .ok listTasksMessage ∧
      (plainClient.perform (through (.reply ⟨204, none, [], []⟩)) listTasks tasksSession).1 =
        .ok .null ∧
      (plainClient.perform (through (.failure "connection refused")) listTasks tasksSession).1 =
        .error (.api networkError) ∧
      (plainClient.perform (through (.reply garbledReply)) listTasks tasksSession).1 =
        .error (.fault .unreadableReply) := by
  refine ⟨make_plainClient, make_tasksSession, message_listTasks, ?_, ?_, ?_⟩
  · exact ((perform_cases message_listTasks tasksSession).1 _).mpr
      ⟨_, rfl, by decide, .nothing rfl⟩
  · exact ((perform_cases message_listTasks tasksSession).2.1 _).mpr (Or.inl ⟨⟨_, rfl⟩, rfl⟩)
  · exact ((perform_cases message_listTasks tasksSession).2.2 _).mpr
      (Or.inr ⟨_, send_garbledReply, Or.inl ⟨by decide, isUnreadable_garbledReply⟩⟩)

/-- The content of a response with success that is no document, though its type says so, gives
neither a value nor an error of the interface. -/
theorem garbled_reply_is_fault :
    ((through (.reply garbledReply)).send listTasksMessage tasksSession).1 =
        .ok (garbledReply.response 985) ∧
      Status.isSuccess (garbledReply.response 985).status = true ∧
      (plainClient.perform (through (.reply garbledReply)) listTasks tasksSession).1 =
        .error (.fault .unreadableReply) := by
  refine ⟨send_garbledReply, by decide, (perform_eq_iff message_listTasks).mpr ?_⟩
  rw [send_garbledReply]
  exact .unreadable (by decide) isUnreadable_garbledReply

end Client
end ApiAccessors
