import ApiAccessors.Machine
import ApiAccessors.Proofs.Files.Tree

namespace ApiAccessors
namespace Run

/-!
# Runs that end

A run of the generator that does not stop gives a result and leaves a machine behind.  For each kind
of step it is said here what a run does that begins with the step: the step asks for something, and
the rest of the run then starts from another machine.  So a run is taken apart, and put together
again, from its beginning on.
-/

variable {α β : Type} {machine after : Machine} {result : β}

/-- A run from one machine ends with a result and leaves another machine behind. -/
def Ends (run : Run α) (machine : Machine) (result : α) (after : Machine) : Prop :=
  run.run.run machine = (.ok result, after)

theorem ends_pure_iff {value : β} :
    Ends (pure value) machine result after ↔ result = value ∧ after = machine := by
  constructor
  · intro ended
    cases ended
    exact ⟨rfl, rfl⟩
  · rintro ⟨rfl, rfl⟩
    rfl

theorem lift_ok (value : α) : lift (.ok value) = pure value := rfl

theorem not_ends_stop_bind {fault : Fault} {next : α → Run β} :
    ¬Ends (stop fault >>= next) machine result after := by
  intro ended
  cases ended

theorem not_ends_throw_bind {problem : Problem} {next : α → Run β} :
    ¬Ends (throw problem >>= next) machine result after := by
  intro ended
  cases ended

theorem ends_get_bind_iff {next : Machine → Run β} :
    Ends (get >>= next) machine result after ↔ Ends (next machine) machine result after :=
  Iff.rfl

theorem ends_set_bind_iff {other : Machine} {next : PUnit → Run β} :
    Ends (set other >>= next) machine result after ↔ Ends (next ⟨⟩) other result after :=
  Iff.rfl

theorem ends_lift_bind_iff {computation : Except Fault α} {next : α → Run β} :
    Ends (lift computation >>= next) machine result after ↔
      ∃ value, computation = .ok value ∧ Ends (next value) machine result after := by
  cases computation with
  | error fault =>
      apply iff_of_false not_ends_stop_bind
      rintro ⟨_, ended, -⟩
      cases ended
  | ok value =>
      simp only [Except.ok.injEq, exists_eq_left']
      exact Iff.rfl

theorem ends_lift_iff {computation : Except Fault β} :
    Ends (lift computation) machine result after ↔
      computation = .ok result ∧ after = machine := by
  cases computation with
  | error fault =>
      constructor
      · intro ended
        cases ended
      · rintro ⟨ended, -⟩
        cases ended
  | ok value =>
      rw [lift_ok, ends_pure_iff, Except.ok.injEq, eq_comm]

theorem ends_report_bind_iff {level : Level} {logger message : String} {next : Unit → Run β} :
    Ends (report level logger message >>= next) machine result after ↔
      Ends (next ()) { machine with log := machine.log ++ [⟨level, logger, message⟩] }
        result after :=
  Iff.rfl

theorem ends_report_iff {level : Level} {logger message : String} :
    Ends (report level logger message) machine () after ↔
      after = { machine with log := machine.log ++ [⟨level, logger, message⟩] } := by
  constructor
  · intro ended
    cases ended
    rfl
  · intro same
    rw [same]
    rfl

/-- A run that goes on only if a check does not fail. -/
theorem ends_unless_iff {condition : Bool} {problem : Problem} {next : Unit → Run β} :
    Ends (if condition = true then throw problem >>= next else next ()) machine result after ↔
      condition = false ∧ Ends (next ()) machine result after := by
  cases condition with
  | true => exact iff_of_false not_ends_throw_bind (fun parts => Bool.noConfusion parts.1)
  | false => exact (and_iff_right rfl).symm

theorem ends_permit_bind_iff {computation : Except FileFault α} {next : α → Run β} :
    Ends (permit computation >>= next) machine result after ↔
      ∃ value, computation = .ok value ∧ Ends (next value) machine result after := by
  cases computation with
  | error fault =>
      apply iff_of_false not_ends_stop_bind
      rintro ⟨_, ended, -⟩
      cases ended
  | ok value =>
      simp only [Except.ok.injEq, exists_eq_left']
      exact Iff.rfl

/-- What is found at a path, if looking there is not refused. -/
def found (machine : Machine) (path : FilePath) : Except FileFault (Option Entry) :=
  if isImpossible path then .ok none else machine.files.look machine.home path

theorem entryAt_bind_eq (path : FilePath) (next : Option Entry → Run β) :
    (entryAt path >>= next).run.run machine =
      (permit (found machine path) >>= next).run.run machine := by
  unfold entryAt found
  cases isImpossible path <;> rfl

theorem ends_entryAt_bind_iff {path : FilePath} {next : Option Entry → Run β} :
    Ends (entryAt path >>= next) machine result after ↔
      ∃ entry, found machine path = .ok entry ∧ Ends (next entry) machine result after := by
  unfold Ends
  rw [entryAt_bind_eq]
  exact ends_permit_bind_iff

theorem ends_writeText_bind_iff {path : FilePath} {text : String} {next : Unit → Run β} :
    Ends (writeText path text >>= next) machine result after ↔
      isImpossible path = false ∧ ∃ files,
        machine.files.writeFile machine.home path (Text.Utf8.encode text.toList) = .ok files ∧
          Ends (next ()) { machine with files } result after := by
  unfold writeText
  cases isImpossible path with
  | true =>
      apply iff_of_false not_ends_stop_bind
      rintro ⟨possible, -⟩
      cases possible
  | false =>
      simp only [Bool.false_eq_true, if_false, bind_assoc, ends_get_bind_iff, ends_permit_bind_iff,
        ends_set_bind_iff, true_and]

theorem ends_bind_iff {run : Run α} {next : α → Run β} :
    Ends (run >>= next) machine result after ↔
      ∃ value between, Ends run machine value between ∧ Ends (next value) between result after := by
  unfold Ends
  rw [ExceptT.run_bind, StateT.run_bind]
  rcases run.run.run machine with ⟨stopped | value, between⟩
  · constructor
    · intro ended
      cases ended
    · rintro ⟨_, _, ended, -⟩
      cases ended
  · constructor
    · intro ended
      exact ⟨value, between, rfl, ended⟩
    · rintro ⟨_, _, same, ended⟩
      cases same
      exact ended

/-- A computation that reports puts its reports behind those that are there. -/
theorem ends_logged_iff {computation : Logged β} :
    Ends (logged computation) machine result after ↔
      computation.runLog.1 = .ok result ∧
        after = { machine with log := machine.log ++ computation.runLog.2 } := by
  have isReport : logged computation = (do
      modify (fun machine => { machine with log := machine.log ++ computation.runLog.2 })
      lift computation.runLog.1) := rfl
  rw [isReport, ends_bind_iff]
  constructor
  · rintro ⟨_, between, reported, lifted⟩
    cases reported
    exact ends_lift_iff.mp lifted
  · rintro ⟨ended, same⟩
    exact ⟨⟨⟩, _, rfl, ends_lift_iff.mpr ⟨ended, same⟩⟩

theorem ends_makeDirectories_iff {path : FilePath} {mayExist : Bool} :
    Ends (makeDirectories path mayExist) machine () after ↔
      isImpossible path = false ∧ ∃ files,
        FileTree.makeAll machine.home path mayExist machine.files = (none, files) ∧
          after = { machine with files } := by
  unfold makeDirectories
  cases isImpossible path with
  | true =>
      apply iff_of_false not_ends_stop_bind
      rintro ⟨possible, -⟩
      cases possible
  | false =>
      simp only [Bool.false_eq_true, if_false, ends_get_bind_iff, true_and]
      rcases FileTree.makeAll machine.home path mayExist machine.files with ⟨_ | fault, files⟩
      · simp only [ends_set_bind_iff, ends_pure_iff, Prod.mk.injEq, true_and, exists_eq_left']
      · simp only [ends_set_bind_iff]
        constructor
        · intro ended
          cases ended
        · rintro ⟨_, ended, -⟩
          cases ended

theorem ends_makeDirectories_bind_iff {path : FilePath} {mayExist : Bool} {next : Unit → Run β} :
    Ends (makeDirectories path mayExist >>= next) machine result after ↔
      isImpossible path = false ∧ ∃ files,
        FileTree.makeAll machine.home path mayExist machine.files = (none, files) ∧
          Ends (next ()) { machine with files } result after := by
  rw [ends_bind_iff]
  constructor
  · rintro ⟨_, between, isMade, later⟩
    rcases ends_makeDirectories_iff.mp isMade with ⟨possible, files, made, rfl⟩
    exact ⟨possible, files, made, later⟩
  · rintro ⟨possible, files, made, later⟩
    exact ⟨(), _, ends_makeDirectories_iff.mpr ⟨possible, files, made, rfl⟩, later⟩

/-- To make a directory changes nothing that is there or refused. -/
theorem grows_of_ends_makeDirectories_bind {path : FilePath} {mayExist : Bool}
    {next : Unit → Run β}
    (ended : Ends (makeDirectories path mayExist >>= next) machine result after) :
    ∃ files, FileTree.Grows machine.files files ∧ files.refusal = machine.files.refusal ∧
      Ends (next ()) { machine with files } result after := by
  rcases ends_makeDirectories_bind_iff.mp ended with ⟨-, files, made, later⟩
  have along := FileTree.GrowsAlong.makeAll machine.home path mayExist machine.files
  have refusal := FileTree.refusal_makeAll machine.home path mayExist machine.files
  rw [made] at along refusal
  exact ⟨files, along.grows, refusal, later⟩

section

variable {problem : Problem}

/-- A run from one machine stops with a problem and leaves another machine behind. -/
def Stops (run : Run α) (machine : Machine) (problem : Problem) (after : Machine) : Prop :=
  run.run.run machine = (.error problem, after)

/-- A run in two parts stops in the first one, or in the second one after the first has ended. -/
theorem stops_bind_iff {run : Run α} {next : α → Run β} :
    Stops (run >>= next) machine problem after ↔
      Stops run machine problem after ∨
        ∃ value between, Ends run machine value between ∧
          Stops (next value) between problem after := by
  unfold Stops Ends
  rw [ExceptT.run_bind, StateT.run_bind]
  rcases run.run.run machine with ⟨stopped | value, between⟩
  · constructor
    · intro same
      cases same
      exact Or.inl rfl
    · rintro (same | ⟨_, _, ended, -⟩)
      · cases same
        rfl
      · cases ended
  · constructor
    · intro stopped
      exact Or.inr ⟨value, between, rfl, stopped⟩
    · rintro (stopped | ⟨_, _, ended, stopped⟩)
      · cases stopped
      · cases ended
        exact stopped

theorem run_bind_of_ends {run : Run α} {next : α → Run β} {value : α}
    (ended : Ends run machine value after) :
    (run >>= next).run.run machine = (next value).run.run after := by
  rw [ExceptT.run_bind, StateT.run_bind, ended]
  rfl

theorem not_stops_pure {value : α} : ¬Stops (pure value) machine problem after := by
  intro stopped
  cases stopped

theorem stops_throw_iff {other : Problem} :
    Stops (throw other : Run α) machine problem after ↔ problem = other ∧ after = machine := by
  constructor
  · intro stopped
    cases stopped
    exact ⟨rfl, rfl⟩
  · rintro ⟨rfl, rfl⟩
    rfl

/-! ### Runs that only report -/

/-- A run that, whether it ends or stops, changes nothing but what has been reported. -/
def OnlyReports (run : Run α) : Prop :=
  ∀ machine, ∃ log, (run.run.run machine).2 = { machine with log }

namespace OnlyReports

theorem of_ends {run : Run α} {value : α} (reports : OnlyReports run)
    (ended : Ends run machine value after) : ∃ log, after = { machine with log } := by
  have changed := reports machine
  rwa [ended] at changed

theorem of_stops {run : Run α} (reports : OnlyReports run)
    (stopped : Stops run machine problem after) : ∃ log, after = { machine with log } := by
  have changed := reports machine
  rwa [stopped] at changed

theorem bind {run : Run α} {next : α → Run β} (first : OnlyReports run)
    (second : ∀ value, OnlyReports (next value)) : OnlyReports (run >>= next) := by
  intro machine
  rcases first machine with ⟨log, changed⟩
  rw [ExceptT.run_bind, StateT.run_bind]
  rcases outcome : run.run.run machine with ⟨stopped | value, between⟩
  · rw [outcome] at changed
    exact ⟨log, changed⟩
  · rw [outcome] at changed
    cases changed
    exact second value _

theorem guarded {condition : Prop} [Decidable condition] {problem : Problem} {next : PUnit → Run β}
    (later : OnlyReports (next ⟨⟩)) :
    OnlyReports (if condition then MonadExcept.throw problem >>= next else next ⟨⟩) := by
  split
  · exact fun machine => ⟨machine.log, rfl⟩
  · exact later

theorem pure (value : α) : OnlyReports (Pure.pure value) := fun machine => ⟨machine.log, rfl⟩

theorem throw (problem : Problem) : OnlyReports (MonadExcept.throw problem : Run α) :=
  fun machine => ⟨machine.log, rfl⟩

theorem lift (computation : Except Fault α) : OnlyReports (lift computation) := by
  cases computation with
  | error fault => exact throw _
  | ok value => exact pure value

theorem report (level : Level) (logger message : String) :
    OnlyReports (report level logger message) :=
  fun _ => ⟨_, rfl⟩

theorem permit (computation : Except FileFault α) : OnlyReports (permit computation) := by
  cases computation with
  | error fault => exact throw _
  | ok value => exact pure value

theorem get : OnlyReports (MonadState.get : Run Machine) := fun machine => ⟨machine.log, rfl⟩

theorem entryAt (path : FilePath) : OnlyReports (entryAt path) := by
  unfold Run.entryAt
  split
  · exact pure none
  · exact get.bind (fun machine => permit _)

end OnlyReports

/-! ### Problems that no check foresaw -/

/-- A run that, where it stops, stops with a fault. -/
def OnlyFaults (run : Run α) : Prop :=
  ∀ machine problem after, Stops run machine problem after → ∃ cause, problem = .fault cause

namespace OnlyFaults

theorem bind {run : Run α} {next : α → Run β} (first : OnlyFaults run)
    (second : ∀ value, OnlyFaults (next value)) : OnlyFaults (run >>= next) := by
  intro machine problem after stopped
  rcases stops_bind_iff.mp stopped with stopped | ⟨value, between, -, stopped⟩
  · exact first _ _ _ stopped
  · exact second value _ _ _ stopped

theorem ite {condition : Prop} [Decidable condition] {first second : Run α}
    (yes : OnlyFaults first) (no : OnlyFaults second) :
    OnlyFaults (if condition then first else second) := by
  split
  · exact yes
  · exact no

theorem stop_bind {fault : Fault} {next : α → Run β} : OnlyFaults (Run.stop fault >>= next) := by
  intro machine problem after stopped
  cases stopped
  exact ⟨fault, rfl⟩

theorem guarded {condition : Prop} [Decidable condition] {fault : Fault} {next : PUnit → Run β}
    (later : OnlyFaults (next ⟨⟩)) :
    OnlyFaults (if condition then Run.stop fault >>= next else next ⟨⟩) :=
  ite stop_bind later

/-- A run that has no problem from any machine. -/
theorem of_ends {run : Run α} (ends : ∀ machine, ∃ value after, Ends run machine value after) :
    OnlyFaults run := by
  intro machine problem after stopped
  rcases ends machine with ⟨value, other, ended⟩
  rw [Ends, stopped] at ended
  cases ended

theorem pure (value : α) : OnlyFaults (Pure.pure value) :=
  of_ends (fun _ => ⟨_, _, rfl⟩)

theorem get : OnlyFaults (MonadState.get : Run Machine) := of_ends (fun _ => ⟨_, _, rfl⟩)

theorem set (machine : Machine) : OnlyFaults (MonadStateOf.set machine : Run PUnit) :=
  of_ends (fun _ => ⟨_, _, rfl⟩)

theorem report (level : Level) (logger message : String) :
    OnlyFaults (report level logger message) :=
  of_ends (fun _ => ⟨_, _, rfl⟩)

theorem stop (fault : Fault) : OnlyFaults (stop fault : Run α) :=
  fun _ _ _ stopped => ⟨fault, (stops_throw_iff.mp stopped).1⟩

theorem permit (computation : Except FileFault α) : OnlyFaults (permit computation) := by
  cases computation with
  | error fault => exact stop _
  | ok value => exact pure value

theorem entryAt (path : FilePath) : OnlyFaults (entryAt path) := by
  unfold Run.entryAt
  exact ite (pure none) (get.bind (fun machine => permit _))

theorem lift (computation : Except Fault α) : OnlyFaults (lift computation) := by
  cases computation with
  | error fault => exact stop fault
  | ok value => exact pure value

theorem logged (computation : Logged α) : OnlyFaults (logged computation) :=
  bind (of_ends (fun _ => ⟨_, _, rfl⟩)) (fun _ => lift _)

theorem makeDirectories (path : FilePath) (mayExist : Bool) :
    OnlyFaults (makeDirectories path mayExist) := by
  unfold Run.makeDirectories
  apply guarded
  refine bind get (fun machine => bind (set _) (fun _ => ?_))
  split
  · exact stop _
  · exact pure ()

theorem writeText (path : FilePath) (text : String) : OnlyFaults (writeText path text) := by
  unfold Run.writeText
  apply guarded
  exact bind get (fun machine => bind (permit _) (fun files => set _))

end OnlyFaults

end

end Run
end ApiAccessors
