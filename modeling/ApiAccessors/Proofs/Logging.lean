import ApiAccessors.Logging
import Mathlib.Data.List.TakeWhile

namespace ApiAccessors
namespace Logging

/-!
# Set up once, heard once

However often the logger above all others is set up, it has a single handler, and both its own level
and that of the handler are the latest one.  It keeps its entries for itself.  The loggers below it
are never changed, so an entry goes up to this one handler, whichever logger it is given to.

Calls come in any order.  The first invariant says what holds before and after every call; once a
call has set a level, the second one says how the loggers stand until another level is set.
-/

theorem named_put (name other : String) (logger : Logger) (loggers : Loggers) :
    named other (Table.put name logger loggers) =
      if other = name then logger else named other loggers := by
  unfold named
  rw [Table.lookup_put]
  split
  · rfl
  · rfl

/-- To ask for a logger changes none. -/
@[simp]
theorem named_getLogger (name : Option String) (other : String) (loggers : Loggers) :
    named other (getLogger name loggers).2 = named other loggers := by
  unfold getLogger
  rw [named_put]
  split
  · next same => rw [same]
  · rfl

/-- Only registered loggers differ from a fresh one. -/
theorem lookup_of_named {name : String} {loggers : Loggers}
    (notFresh : named name loggers ≠ .fresh) :
    loggers.lookup name = some (named name loggers) := by
  unfold named at notFresh ⊢
  cases found : loggers.lookup name with
  | none =>
      rw [found] at notFresh
      exact False.elim (notFresh rfl)
  | some logger => rfl

private theorem not_mem_afterLast (mark : Char) (text : List Char) :
    mark ∉ Text.afterLast mark text := by
  intro member
  have passes := List.mem_takeWhile_imp (List.mem_reverse.mp member)
  simp only [bne_self_eq_false, Bool.false_eq_true] at passes

private theorem beforeDots_append {front : List Char} (noDot : '.' ∉ front) (behind : List Char) :
    beforeDots (front ++ behind) = beforeDots behind := by
  induction front with
  | nil => rfl
  | cons c rest ih =>
      have isOther : c ≠ '.' := fun same => noDot (same ▸ List.mem_cons_self)
      have passed := beforeDots.eq_3 c (rest ++ behind) (fun _ _ isDot => absurd isDot isOther)
      rw [List.cons_append, passed]
      exact ih (fun member => noDot (List.mem_cons_of_mem c member))

/-- Every logger that can be asked for is the one above all others or right below it. -/
theorem above_loggerName (name : Option String) (isOther : loggerName name ≠ rootLogger) :
    above (loggerName name) = [rootLogger] := by
  cases name with
  | none => exact False.elim (isOther rfl)
  | some given =>
      unfold loggerName at isOther ⊢
      dsimp only at isOther ⊢
      split at isOther
      · exact False.elim (isOther rfl)
      · next notRoot =>
        have noDot : '.' ∉ (Text.afterLast '.' given.toList).reverse :=
          fun member => not_mem_afterLast '.' _ (List.mem_reverse.mp member)
        rw [if_neg notRoot]
        unfold above
        rw [String.toList_append, String.toList_ofList, List.reverse_append,
          beforeDots_append noDot]
        decide

/-- What a program can do with its loggers. -/
inductive Call where
  | configure (verbose quiet : Bool)
  | getLogger (name : Option String)
  | log (name : Option String) (level : Int) (message : String)

/-- The loggers after a call, and what it prints. -/
def step (loggers : Loggers) : Call → Loggers × List String
  | .configure verbose quiet => (configure verbose quiet loggers, [])
  | .getLogger name => ((getLogger name loggers).2, [])
  | .log name level message =>
      let (full, registered) := getLogger name loggers
      (registered, written registered full level message)

/-- The loggers after several calls, and what they print. -/
def run (loggers : Loggers) : List Call → Loggers × List String
  | [] => (loggers, [])
  | call :: rest =>
      let here := step loggers call
      let later := run here.1 rest
      (later.1, here.2 ++ later.2)

theorem run_append (loggers : Loggers) (earlier later : List Call) :
    run loggers (earlier ++ later) =
      ((run (run loggers earlier).1 later).1,
        (run loggers earlier).2 ++ (run (run loggers earlier).1 later).2) := by
  induction earlier generalizing loggers with
  | nil => rfl
  | cons call rest ih =>
      rw [List.cons_append, run, ih, run]
      exact Prod.ext rfl (List.append_assoc _ _ _).symm

/-- The loggers below the one above all others are fresh ones. -/
def AreFresh (loggers : Loggers) : Prop :=
  ∀ name, loggerName name ≠ rootLogger → named (loggerName name) loggers = .fresh

section

variable {loggers : Loggers} (areFresh : AreFresh loggers)

include areFresh

theorem AreFresh.getLogger (name : Option String) : AreFresh (getLogger name loggers).2 := by
  intro other isOther
  rw [named_getLogger]
  exact areFresh other isOther

theorem AreFresh.configure (verbose quiet : Bool) : AreFresh (configure verbose quiet loggers) := by
  intro name isOther
  unfold Logging.configure
  rw [named_put, if_neg isOther]
  exact areFresh name isOther

end

/-- There is no handler yet, or there is a single one and entries are kept. -/
structure IsSound (loggers : Loggers) : Prop where
  root : (named rootLogger loggers).handlers = [] ∨
    ∃ level, (named rootLogger loggers).handlers = [level] ∧
      (named rootLogger loggers).propagates = false
  others : AreFresh loggers

/-- A logger with one handler, which has the same level and alone sees the entries. -/
def Logger.withOneHandler (level : Int) : Logger := ⟨some level, [level], false⟩

/-- The logger above all others has one handler and is the only one with any. -/
structure IsSetUp (level : Int) (loggers : Loggers) : Prop where
  root : named rootLogger loggers = .withOneHandler level
  others : AreFresh loggers

theorem IsSetUp.isSound {level : Int} {loggers : Loggers} (setUp : IsSetUp level loggers) :
    IsSound loggers := by
  refine ⟨Or.inr ⟨level, ?_, ?_⟩, setUp.others⟩
  · rw [setUp.root, Logger.withOneHandler]
  · rw [setUp.root, Logger.withOneHandler]

section

variable {loggers : Loggers} (isSound : IsSound loggers)

include isSound

/-- To set up loggers leads to the same state, whether there is a handler already or not. -/
theorem IsSound.configure (verbose quiet : Bool) :
    IsSetUp (chosenLevel verbose quiet).number (configure verbose quiet loggers) := by
  refine ⟨?_, isSound.others.configure verbose quiet⟩
  unfold Logging.configure
  rw [named_put, if_pos rfl]
  rcases isSound.root with none | ⟨level, one, kept⟩
  · dsimp only
    rw [none]
    rfl
  · dsimp only
    rw [one, kept]
    rfl

theorem IsSound.getLogger (name : Option String) : IsSound (getLogger name loggers).2 := by
  refine ⟨?_, isSound.others.getLogger name⟩
  rw [named_getLogger]
  exact isSound.root

theorem IsSound.step (call : Call) : IsSound (step loggers call).1 := by
  cases call with
  | configure verbose quiet => exact (isSound.configure verbose quiet).isSound
  | getLogger name => exact isSound.getLogger name
  | log name level message => exact isSound.getLogger name

end

theorem IsSound.run {loggers : Loggers} (isSound : IsSound loggers) (calls : List Call) :
    IsSound (run loggers calls).1 := by
  induction calls generalizing loggers with
  | nil => exact isSound
  | cons call rest ih => exact ih (isSound.step call)

/-- The level after a call, if there is one before it. -/
def levelAfter (level : Int) : Call → Int
  | .configure verbose quiet => (chosenLevel verbose quiet).number
  | _ => level

/-- What a call prints while a level is set. -/
def printedFrom (level : Int) : Call → List String
  | .log _ number message => if level ≤ number then [line number message] else []
  | _ => []

/-- What several calls print: each of them finds the level that was set last. -/
def printedBy (level : Int) : List Call → List String
  | [] => []
  | call :: rest => printedFrom level call ++ printedBy (levelAfter level call) rest

section

variable {level : Int} {loggers : Loggers}

/-- The logger above all others sees every entry; the one that an entry is given to, if it is
another one, neither has a level nor a handler. -/
theorem IsSetUp.chain_cases (setUp : IsSetUp level loggers) (name : Option String) :
    chain loggers (loggerName name) = [.withOneHandler level] ∨
      chain loggers (loggerName name) = [.fresh, .withOneHandler level] := by
  have isRoot : loggers.lookup rootLogger = some (.withOneHandler level) := by
    rw [lookup_of_named, setUp.root]
    rw [setUp.root]
    exact fun same => nomatch same
  unfold chain
  by_cases same : loggerName name = rootLogger
  · left
    rw [same]
    have noneAbove : above rootLogger = [] := by decide
    rw [noneAbove, List.filterMap_cons, isRoot]
    rfl
  · -- The logger itself is perhaps not registered; if it is, an entry passes it unchanged.
    rw [above_loggerName name same, List.filterMap_cons]
    have isFresh := setUp.others name same
    unfold named at isFresh
    cases found : loggers.lookup (loggerName name) with
    | none =>
        left
        rw [List.filterMap_cons, isRoot]
        rfl
    | some logger =>
        right
        rw [found] at isFresh
        rw [List.filterMap_cons, isRoot, ← isFresh]
        rfl

/-- An entry of the level that is set, or of a higher one, is printed once, and others are not. -/
theorem IsSetUp.written_eq (setUp : IsSetUp level loggers) (name : Option String) (number : Int)
    (message : String) :
    written loggers (loggerName name) number message =
      if level ≤ number then [line number message] else [] := by
  have seen : effectiveLevel (chain loggers (loggerName name)) = level ∧
      handlersOf (chain loggers (loggerName name)) = [level] := by
    rcases setUp.chain_cases name with same | same
    · rw [same]
      exact ⟨rfl, rfl⟩
    · rw [same]
      exact ⟨rfl, rfl⟩
  unfold written
  dsimp only
  rw [seen.1, seen.2]
  by_cases reaches : level ≤ number
  · rw [if_neg (Int.not_lt.mpr reaches), if_pos reaches]
    have heard : [level].filter (fun least => least ≤ number) = [level] :=
      List.filter_cons_of_pos (decide_eq_true reaches)
    dsimp only
    rw [heard]
    rfl
  · rw [if_pos (Int.not_le.mp reaches), if_neg reaches]

theorem IsSetUp.getLogger (setUp : IsSetUp level loggers) (name : Option String) :
    IsSetUp level (getLogger name loggers).2 := by
  refine ⟨?_, setUp.others.getLogger name⟩
  rw [named_getLogger]
  exact setUp.root

theorem IsSetUp.step (setUp : IsSetUp level loggers) (call : Call) :
    IsSetUp (levelAfter level call) (step loggers call).1 ∧
      (step loggers call).2 = printedFrom level call := by
  cases call with
  | configure verbose quiet => exact ⟨setUp.isSound.configure verbose quiet, rfl⟩
  | getLogger name => exact ⟨setUp.getLogger name, rfl⟩
  | log name number message =>
      have asked := setUp.getLogger name
      exact ⟨asked, asked.written_eq name number message⟩

theorem IsSetUp.run (setUp : IsSetUp level loggers) (calls : List Call) :
    IsSetUp (calls.foldl levelAfter level) (run loggers calls).1 ∧
      (run loggers calls).2 = printedBy level calls := by
  induction calls generalizing level loggers with
  | nil => exact ⟨setUp, rfl⟩
  | cons call rest ih =>
      rcases setUp.step call with ⟨here, printed⟩
      rcases ih here with ⟨ended, printedLater⟩
      refine ⟨ended, ?_⟩
      rw [Logging.run, printedBy, ← printed, ← printedLater]

end

theorem line_eq (level : Int) (message : String) :
    line level message =
      if Level.warning.number ≤ level then "[" ++ tagOf level ++ "] " ++ message ++ "\n"
      else message ++ "\n" := by
  unfold line
  by_cases tagged : Level.warning.number ≤ level
  · rw [if_neg (Int.not_lt.mpr tagged), if_pos tagged]
  · rw [if_pos (Int.not_le.mp tagged), if_neg tagged, String.empty_append]

theorem tagOf_number (level : Level) : tagOf level.number = level.tag := by
  cases level <;> rfl

/-- From the first call that sets up the loggers, the logger above all others has one handler, and
both have the latest level, where being verbose counts before being quiet.  An entry that is given
to any logger is printed once if its level is at least this one, and is not printed otherwise.
Printed lines have a tag from warnings on. -/
theorem entries_printed_once {start : Loggers}
    (noHandler : (named rootLogger start).handlers = []) (areFresh : AreFresh start)
    (earlier later : List Call) (verbose quiet : Bool) :
    named rootLogger (run start (earlier ++ .configure verbose quiet :: later)).1 =
      .withOneHandler (later.foldl levelAfter (chosenLevel verbose quiet).number) ∧
    (run start (earlier ++ .configure verbose quiet :: later)).2 =
      (run start earlier).2 ++ printedBy (chosenLevel verbose quiet).number later ∧
    (∀ level message, line level message =
      if Level.warning.number ≤ level then "[" ++ tagOf level ++ "] " ++ message ++ "\n"
      else message ++ "\n") ∧
    (∀ level : Level, tagOf level.number = level.tag) ∧
    chosenLevel true quiet = .debug ∧ chosenLevel false true = .warning ∧
    chosenLevel false false = .info := by
  have sound : IsSound start := ⟨Or.inl noHandler, areFresh⟩
  have setUp := (sound.run earlier).configure verbose quiet
  rcases setUp.run later with ⟨ended, printed⟩
  rw [run_append]
  refine ⟨ended.root, ?_, line_eq, tagOf_number, rfl, rfl, rfl⟩
  exact congrArg ((run start earlier).2 ++ ·) printed

theorem entries_printed_once_verbose :
    (run initial [.log (some "resourcegen.config") 30 "early", .configure false true,
      .getLogger (some "hooks."), .log (some "some.plugin.hooks") 20 "hidden",
      .configure true false, .log (some "hooks.") 20 "shown", .log none 40 "tagged"]).2 =
        ["early\n", "shown\n", "[error] tagged\n"] := by
  have noHandler : (named rootLogger initial).handlers = [] := rfl
  have areFresh : AreFresh initial := fun _ _ => rfl
  have printed := (entries_printed_once noHandler areFresh
    [.log (some "resourcegen.config") 30 "early"]
    [.getLogger (some "hooks."), .log (some "some.plugin.hooks") 20 "hidden",
      .configure true false, .log (some "hooks.") 20 "shown", .log none 40 "tagged"]
    false true).2.1
  refine printed.trans ?_
  decide

end Logging
end ApiAccessors
