import ApiAccessors.Log
import Mathlib.Data.List.Forall2
import Mathlib.Data.Option.Basic

namespace ApiAccessors

/-!
# Computations that end

A computation on unchecked values may stop with a fault.  Most statements are about those that do
not, and two computations are often compared only as far as both give a result.  Seen as an option,
a computation forgets its fault and keeps its result; sequences of computations are then sequences
of options.

A walk over a list stops at the first fault, so it ends only if every step does; its results are
the results of the single steps, whatever the order of the walk.
-/

namespace Outcome

variable {α β : Type}

/-- The result of a computation, or the default where it stops. -/
def value [Inhabited α] (computation : Except Fault α) : α := computation.toOption.getD default

@[simp]
theorem value_ok [Inhabited α] (result : α) : value (.ok result) = result := rfl

theorem toOption_eq_some_iff {ε : Type} {computation : Except ε α} {result : α} :
    computation.toOption = some result ↔ computation = .ok result := by
  cases computation <;> simp [Except.toOption]

theorem toOption_eq_of_imp {first second : Except Fault α}
    (forth : ∀ result, first = .ok result → second = .ok result)
    (back : ∀ result, second = .ok result → first = .ok result) :
    first.toOption = second.toOption := by
  apply Option.ext
  intro result
  rw [toOption_eq_some_iff, toOption_eq_some_iff]
  exact ⟨forth result, back result⟩

theorem ok_bind {ε : Type} (middle : α) (next : α → Except ε β) :
    (Except.ok middle >>= next) = next middle := rfl

/-- A sequence ends only if its first part does. -/
theorem bind_eq_ok_iff {ε : Type} {first : Except ε α} {next : α → Except ε β} {result : β} :
    (first >>= next) = .ok result ↔ ∃ middle, first = .ok middle ∧ next middle = .ok result := by
  cases first with
  | error fault => exact ⟨fun ended => (by cases ended), fun ⟨_, ended, _⟩ => (by cases ended)⟩
  | ok middle =>
      constructor
      · intro ended
        exact ⟨middle, rfl, ended⟩
      · rintro ⟨_, same, ended⟩
        cases same
        exact ended

/-- A sequence ends if its first part does and what follows does. -/
theorem exists_bind_iff {ε : Type} {first : Except ε α} {next : α → Except ε β} :
    (∃ result, (first >>= next) = .ok result) ↔
      ∃ middle, first = .ok middle ∧ ∃ result, next middle = .ok result := by
  simp only [bind_eq_ok_iff]
  exact exists_comm.trans (exists_congr fun _ => exists_and_left)

theorem eq_ok_value [Inhabited α] {computation : Except Fault α} {result : α}
    (ended : computation = .ok result) : computation = .ok (value computation) := by
  rw [ended, value_ok]

theorem eq_ok_iff_value [Inhabited α] {computation : Except Fault α} {result : α} :
    computation = .ok result ↔
      computation = .ok (value computation) ∧ result = value computation := by
  constructor
  · intro ended
    exact ⟨eq_ok_value ended, by rw [ended, value_ok]⟩
  · rintro ⟨ended, same⟩
    rw [same]
    exact ended

theorem exists_ok_iff_value [Inhabited α] {computation : Except Fault α} :
    (∃ result, computation = .ok result) ↔ computation = .ok (value computation) :=
  ⟨fun ⟨_, ended⟩ => eq_ok_value ended, fun ended => ⟨_, ended⟩⟩

theorem exists_eq_ok_iff [Inhabited α] {computation : Except Fault α} {property : α → Prop} :
    (∃ result, computation = .ok result ∧ property result) ↔
      computation = .ok (value computation) ∧ property (value computation) := by
  constructor
  · rintro ⟨result, ended, holds⟩
    rw [ended, value_ok]
    exact ⟨rfl, holds⟩
  · intro parts
    exact ⟨value computation, parts⟩

/-- A computation whose result is given another form. -/
theorem bind_pure_eq_ok_iff [Inhabited α] {computation : Except Fault α} {form : α → β}
    {result : β} :
    (do pure (form (← computation))) = Except.ok result ↔
      computation = .ok (value computation) ∧ result = form (value computation) := by
  rw [bind_eq_ok_iff]
  constructor
  · rintro ⟨middle, ended, same⟩
    cases same
    rw [ended, value_ok]
    exact ⟨rfl, rfl⟩
  · rintro ⟨ended, same⟩
    rw [same]
    exact ⟨_, ended, rfl⟩

/-! ## Walks over a list

What a single step does is given as a condition under which it ends and a function for its result.
-/

section

variable {ends : α → Prop}

/-- A walk ends exactly if every step does, and gives the results of the steps. -/
theorem mapM_eq_ok_iff_of {step : α → Except Fault β} {result : α → β}
    (stepEnds : ∀ input output, step input = .ok output ↔ ends input ∧ output = result input)
    {inputs : List α} {outputs : List β} :
    inputs.mapM step = .ok outputs ↔
      (∀ input ∈ inputs, ends input) ∧ outputs = inputs.map result := by
  induction inputs generalizing outputs with
  | nil =>
      rw [List.mapM_nil]
      constructor
      · intro ended
        cases ended
        exact ⟨List.forall_mem_nil _, rfl⟩
      · rintro ⟨-, same⟩
        rw [same]
        rfl
  | cons input rest ih =>
      rw [List.mapM_cons, bind_eq_ok_iff, List.forall_mem_cons, List.map_cons]
      constructor
      · rintro ⟨first, ended, later⟩
        rcases bind_eq_ok_iff.mp later with ⟨others, restEnded, same⟩
        cases same
        have here := (stepEnds input first).mp ended
        have parts := ih.mp restEnded
        exact ⟨⟨here.1, parts.1⟩, by rw [here.2, parts.2]⟩
      · rintro ⟨⟨here, others⟩, same⟩
        refine ⟨result input, (stepEnds input _).mpr ⟨here, rfl⟩, bind_eq_ok_iff.mpr ?_⟩
        refine ⟨rest.map result, ih.mpr ⟨others, rfl⟩, ?_⟩
        rw [same]
        rfl

/-- A walk that carries a state ends exactly if every step does, whatever the states are. -/
theorem foldlM_eq_ok_iff_of {step : β → α → Except Fault β} {result : β → α → β}
    (stepEnds : ∀ state input after,
      step state input = .ok after ↔ ends input ∧ after = result state input)
    {inputs : List α} {state after : β} :
    inputs.foldlM step state = .ok after ↔
      (∀ input ∈ inputs, ends input) ∧ after = inputs.foldl result state := by
  induction inputs generalizing state with
  | nil =>
      rw [List.foldlM_nil, List.foldl_nil]
      constructor
      · intro ended
        cases ended
        exact ⟨List.forall_mem_nil _, rfl⟩
      · rintro ⟨-, same⟩
        rw [same]
        rfl
  | cons input rest ih =>
      rw [List.foldlM_cons, bind_eq_ok_iff, List.forall_mem_cons, List.foldl_cons]
      constructor
      · rintro ⟨middle, ended, later⟩
        have here := (stepEnds state input middle).mp ended
        have parts := ih.mp later
        exact ⟨⟨here.1, parts.1⟩, by rw [parts.2, here.2]⟩
      · rintro ⟨⟨here, others⟩, same⟩
        exact ⟨result state input, (stepEnds state input _).mpr ⟨here, rfl⟩,
          ih.mpr ⟨others, same⟩⟩

end

/-- A walk gives the values of its steps, if all of them end. -/
theorem mapM_eq_ok_iff [Inhabited β] {step : α → Except Fault β} {inputs : List α}
    {outputs : List β} :
    inputs.mapM step = .ok outputs ↔
      (∀ input ∈ inputs, step input = .ok (value (step input))) ∧
        outputs = inputs.map (fun input => value (step input)) :=
  mapM_eq_ok_iff_of (fun _ _ => eq_ok_iff_value)

theorem mapM_eq_map {step : α → Except Fault β} {form : α → β} {inputs : List α}
    (allEnd : ∀ input ∈ inputs, step input = .ok (form input)) :
    inputs.mapM step = .ok (inputs.map form) := by
  induction inputs with
  | nil => rfl
  | cons input rest ih =>
      rcases List.forall_mem_cons.mp allEnd with ⟨here, later⟩
      rw [List.mapM_cons, here, ok_bind, ih later]
      rfl

/-- A walk whose steps all stop with the same fault, where they stop. -/
theorem mapM_eq_ite {step : α → Except Fault β} {fits : α → Prop} [DecidablePred fits]
    {form : α → β} {fault : Fault} {inputs : List α}
    (steps : ∀ input ∈ inputs,
      step input = if fits input then .ok (form input) else .error fault) :
    inputs.mapM step =
      if ∀ input ∈ inputs, fits input then .ok (inputs.map form) else .error fault := by
  induction inputs with
  | nil => rfl
  | cons input rest ih =>
      rcases List.forall_mem_cons.mp steps with ⟨here, later⟩
      rw [List.mapM_cons, here, ih later]
      simp only [List.forall_mem_cons]
      by_cases first : fits input
      · by_cases others : ∀ input ∈ rest, fits input
        · rw [if_pos first, if_pos others, if_pos ⟨first, others⟩]
          rfl
        · rw [if_pos first, if_neg others, if_neg (fun both : _ ∧ _ => others both.2)]
          rfl
      · rw [if_neg first, if_neg (fun both : _ ∧ _ => first both.1)]
        rfl

theorem exists_mapM [Inhabited β] {step : α → Except Fault β} {inputs : List α}
    (allEnd : ∀ input ∈ inputs, step input = .ok (value (step input))) :
    ∃ outputs, inputs.mapM step = .ok outputs :=
  ⟨_, mapM_eq_ok_iff.mpr ⟨allEnd, rfl⟩⟩

section

variable {σ ε : Type} {state after : σ}

theorem run_bind_of_ok {first : StateT σ (Except ε) α} {next : α → StateT σ (Except ε) β}
    {result : α} (isFirst : first.run state = .ok (result, after)) :
    (first >>= next).run state = (next result).run after := by
  rw [StateT.run_bind, isFirst]
  rfl

theorem run_map_of_ok {step : StateT σ (Except ε) α} {change : α → β} {result : α}
    (isStep : step.run state = .ok (result, after)) :
    (change <$> step).run state = .ok (change result, after) := by
  rw [StateT.run_map, isStep]
  rfl

end

end Outcome

namespace Logged

variable {α β : Type}

/-- What a reporting computation gives and the log behind it, if it does not stop. -/
def outcome (computation : Logged α) (log : List LogEntry) : Option (α × List LogEntry) :=
  match computation.run.run log with
  | (.ok result, after) => some (result, after)
  | (.error _, _) => none

@[simp]
theorem outcome_lift (computation : Except Fault α) (log : List LogEntry) :
    (lift computation).outcome log = computation.toOption.map (fun result => (result, log)) := by
  cases computation <;> rfl

theorem outcome_bind (first : Logged α) (next : α → Logged β) (log : List LogEntry) :
    (first >>= next).outcome log =
      (first.outcome log).bind (fun middle => (next middle.1).outcome middle.2) := by
  unfold outcome
  rw [ExceptT.run_bind, StateT.run_bind]
  rcases first.run.run log with ⟨ended, after⟩
  cases ended <;> rfl

/-- A sequence ends only if its first part does, and goes on with the log of that part. -/
theorem outcome_bind_eq_some_iff {first : Logged α} {next : α → Logged β}
    {log after : List LogEntry} {result : β} :
    (first >>= next).outcome log = some (result, after) ↔
      ∃ middle between, first.outcome log = some (middle, between) ∧
        (next middle).outcome between = some (result, after) := by
  rw [outcome_bind, Option.bind_eq_some_iff, Prod.exists]

theorem outcome_bind_of_some {first : Logged α} {next : α → Logged β}
    {log between : List LogEntry} {middle : α}
    (ended : first.outcome log = some (middle, between)) :
    (first >>= next).outcome log = (next middle).outcome between := by
  rw [outcome_bind, ended, Option.bind_some]

/-- A computation ends, whatever it gives, if the log before it is this one. -/
def Ends (computation : Logged α) (log : List LogEntry) : Prop :=
  ∃ result after, computation.outcome log = some (result, after)

theorem ends_bind_iff {first : Logged α} {next : α → Logged β} {log : List LogEntry} :
    Ends (first >>= next) log ↔
      ∃ middle between, first.outcome log = some (middle, between) ∧
        Ends (next middle) between := by
  unfold Ends
  simp only [outcome_bind_eq_some_iff]
  constructor
  · rintro ⟨result, after, middle, between, ended, later⟩
    exact ⟨middle, between, ended, result, after, later⟩
  · rintro ⟨middle, between, ended, result, after, later⟩
    exact ⟨result, after, middle, between, ended, later⟩

theorem ends_pure (result : α) (log : List LogEntry) : Ends (pure result) log := ⟨_, _, rfl⟩

theorem outcome_lift_eq_some_iff {computation : Except Fault α} {log after : List LogEntry}
    {result : α} :
    (lift computation).outcome log = some (result, after) ↔
      computation = .ok result ∧ log = after := by
  cases computation with
  | error fault => simp [Except.toOption]
  | ok other => simp [Except.toOption]

theorem ends_lift_bind_iff {computation : Except Fault α} {next : α → Logged β}
    {log : List LogEntry} :
    Ends (lift computation >>= next) log ↔
      ∃ middle, computation = .ok middle ∧ Ends (next middle) log := by
  rw [ends_bind_iff]
  simp only [outcome_lift_eq_some_iff, and_assoc, exists_and_left, exists_eq_left']

/-- A computation that starts with an empty log. -/
theorem runLog_eq_ok_iff {computation : Logged α} {result : α} {log : List LogEntry} :
    computation.runLog = (.ok result, log) ↔ computation.outcome [] = some (result, log) := by
  unfold outcome runLog
  rcases computation.run.run [] with ⟨ended, after⟩
  cases ended <;> simp

/-- A computation ends with a result exactly if it does so with some log. -/
theorem runLog_fst_eq_ok_iff {computation : Logged α} {result : α} :
    computation.runLog.1 = .ok result ↔ ∃ log, computation.outcome [] = some (result, log) := by
  unfold outcome runLog
  rcases computation.run.run [] with ⟨ended, after⟩
  cases ended <;> simp

theorem exists_runLog_iff {computation : Logged α} :
    (∃ result, computation.runLog.1 = .ok result) ↔ Ends computation [] :=
  exists_congr fun _ => runLog_fst_eq_ok_iff

end Logged
end ApiAccessors
