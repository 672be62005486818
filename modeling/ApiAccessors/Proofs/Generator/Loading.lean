import ApiAccessors.Generator.SpecFile
import ApiAccessors.Proofs.Document.Shape
import ApiAccessors.Proofs.Json.Refused
import ApiAccessors.Proofs.Run
import ApiAccessors.Proofs.Text.Utf8

namespace ApiAccessors
namespace SpecFile

/-!
# Loaded documents

What comes of reading a document from a file, for every path and all contents.  The reader is given
a text, so the bytes must be those of one; what the reader gives must be a mapping.  All else is
told to the user, except where the system refuses to look or to read, where the bytes are no text,
and where a reader fails with a cause of its own.  The reader of the interchange notation does so
only for long numbers, for lone halves of surrogate pairs and for want of room; the reader of the
other notation is a library, and may do so for any text.
-/

open Run (Ends Stops)

variable {path : FilePath} {machine after : Machine} {content : List UInt8} {spec : Value}
  {problem : Problem} {cause : Fault} {platform : Platform} {text : List Char}

/-- The bytes that can be read at a path. -/
def contentAt (machine : Machine) (path : FilePath) : Option (List UInt8) :=
  match Run.found machine path, machine.files.refusal .read path with
  | .ok (some (.file content)), none => some content
  | _, _ => none

/-- The machine after the report that a document is read. -/
def announced (machine : Machine) (path : FilePath) : Machine :=
  { machine with
    log := machine.log ++ [⟨.info, logger, "Reading OpenAPI schema from: " ++ path.text⟩] }

private theorem run_outcome (outcome : Except Problem Value) (machine : Machine) :
    (match outcome with
      | .ok spec => pure spec
      | .error problem => throw problem : Run Value).run.run machine = (outcome, machine) := by
  cases outcome <;> rfl

/-- What reading the document at a path comes to, and the machine that it leaves. -/
theorem load_eq (path : FilePath) (machine : Machine) :
    (load path).run.run machine =
      match Run.found machine path with
      | .error fault => (.error (.fault (.file fault)), machine)
      | .ok (some (.file content)) =>
          match machine.files.refusal .read path with
          | some cause => (.error (.fault (.file (.refused cause))), announced machine path)
          | none => (decode machine.platform path content, announced machine path)
      | .ok _ => (.error (.spec (.notFound path.text)), machine) := by
  unfold load
  rw [Run.entryAt_bind_eq]
  cases Run.found machine path with
  | error fault => rfl
  | ok entry =>
      rcases entry with _ | _ | content | target
      · rfl
      · rfl
      · change (Run.permit (machine.files.allow .read path) >>= fun _ =>
          match decode machine.platform path content with
          | .ok spec => pure spec
          | .error problem => throw problem : Run Value).run.run (announced machine path) = _
        unfold FileTree.allow
        cases machine.files.refusal .read path with
        | some cause => rfl
        | none => exact run_outcome _ _
      · rfl

theorem load_of_contentAt (found : contentAt machine path = some content) :
    (load path).run.run machine =
      (decode machine.platform path content, announced machine path) := by
  rw [load_eq]
  unfold contentAt at found
  split at found
  · rename_i other isFile allowed
    cases found
    simp only [isFile, allowed]
  · cases found

theorem ends_load_iff :
    Ends (load path) machine spec after ↔
      ∃ content, contentAt machine path = some content ∧
        decode machine.platform path content = .ok spec ∧ after = announced machine path := by
  constructor
  · intro ended
    cases found : contentAt machine path with
    | some content =>
        have same := (load_of_contentAt found).symm.trans ended
        rcases Prod.mk.inj same with ⟨isSpec, isAfter⟩
        exact ⟨content, rfl, isSpec, isAfter.symm⟩
    | none =>
        have same := (load_eq path machine).symm.trans ended
        unfold contentAt at found
        split at same
        · cases same
        · rename_i content isFile
          split at same
          · cases same
          · rename_i allowed
            simp [isFile, allowed] at found
        · cases same
  · rintro ⟨content, found, isSpec, rfl⟩
    exact (load_of_contentAt found).trans (by rw [isSpec])

theorem decode_encode (text : List Char) :
    decode platform path (Text.Utf8.encode text) = (do
      let value ← readText platform path (Text.unifyLines text)
      match value.entries? with
      | some _ => pure value
      | none => throw (.spec (.noMapping path.text))) := by
  unfold decode
  generalize isText : Text.Utf8.decode? (Text.Utf8.encode text) = found
  cases isText.symm.trans (Text.Utf8.decode?_encode text)
  rfl

theorem decode_of_no_text (noText : ∀ text, content ≠ Text.Utf8.encode text) :
    decode platform path content = .error (.fault .undecodable) := by
  unfold decode
  rw [Text.Utf8.decode?_eq_none_iff.mpr noText]
  rfl

theorem decode_encode_of_ok {value : Value}
    (isRead : readText platform path (Text.unifyLines text) = .ok value) :
    decode platform path (Text.Utf8.encode text) =
      if value.isMapping then .ok value else .error (.spec (.noMapping path.text)) := by
  rw [decode_encode, isRead, Value.isMapping]
  change (match value.entries? with
    | some _ => pure value
    | none => throw (Problem.spec (.noMapping path.text))) = _
  cases value.entries? with
  | none => rfl
  | some entries => rfl

theorem decode_encode_of_error
    (fails : readText platform path (Text.unifyLines text) = .error problem) :
    decode platform path (Text.Utf8.encode text) = .error problem := by
  rw [decode_encode, fails]
  rfl

/-- Whether the ending of the file name stands for the interchange notation. -/
def IsInterchange (path : FilePath) : Prop := Text.lower path.suffix.toList = ".json".toList

theorem readText_eq_ok_iff (isInterchange : IsInterchange path) {value : Value} :
    readText platform path text = .ok value ↔ Json.read platform.readingRoom text = .ok value := by
  have isEnding : Text.lower path.suffix.toList = ".json".toList := isInterchange
  unfold readText
  rw [if_pos isEnding]
  split
  · rename_i isRead
    rw [isRead, Except.ok.injEq, Except.ok.injEq]
  all_goals
    rename_i fails
    rw [fails]
    exact iff_of_false (fun same => by cases same) (fun same => by cases same)

theorem problem_of_readText (fails : readText platform path text = .error problem) :
    (∃ told, problem = .spec told) ∨ ∃ cause, problem = .fault cause := by
  unfold readText at fails
  split at fails
  all_goals
    split at fails
    all_goals cases fails
    all_goals simp

/-- Of what the reader of a text fails with, the user is told. -/
def TellsText (platform : Platform) (path : FilePath) (text : List Char) : Prop :=
  ∀ cause, readText platform path text ≠ .error (.fault cause)

theorem tellsText_of_interchange (isInterchange : IsInterchange path)
    (short : ¬ Json.HasLongNumber text) (paired : ¬ Json.HasLoneHalf text)
    (flat : Json.openings text ≤ platform.readingRoom) : TellsText platform path text := by
  intro cause fails
  have isEnding : Text.lower path.suffix.toList = ".json".toList := isInterchange
  unfold readText at fails
  rw [if_pos isEnding] at fails
  cases outcome : Json.read platform.readingRoom text with
  | ok value =>
      rw [outcome] at fails
      cases fails
  | error fault =>
      rcases Json.cause_of_read outcome with
        ⟨what, place, rfl⟩ | ⟨-, long⟩ | ⟨-, lone⟩ | ⟨-, deep⟩
      · rw [outcome] at fails
        cases fails
      · exact short long
      · exact paired lone
      · exact absurd deep (by omega)

theorem tellsText_iff_of_other (other : ¬ IsInterchange path) :
    TellsText platform path text ↔ ∀ cause, platform.yaml text ≠ .error (.fault cause) := by
  have noEnding : ¬ Text.lower path.suffix.toList = ".json".toList := other
  unfold TellsText readText
  rw [if_neg noEnding]
  refine forall_congr' (fun cause => not_congr ?_)
  split
  · rename_i value isRead
    simp [isRead]
  · rename_i malformed
    simp [malformed]
  · rename_i found fails
    simp [fails]

theorem decode_cases (platform : Platform) (path : FilePath) (content : List UInt8) :
    (∃ spec, decode platform path content = .ok spec ∧ spec.isMapping = true) ∨
      (∃ told, decode platform path content = .error (.spec told)) ∨
        ∃ cause, decode platform path content = .error (.fault cause) := by
  by_cases isText : ∃ text, content = Text.Utf8.encode text
  · rcases isText with ⟨text, rfl⟩
    cases outcome : readText platform path (Text.unifyLines text) with
    | ok value =>
        rw [decode_encode_of_ok outcome]
        cases isMapping : value.isMapping with
        | true => exact Or.inl ⟨value, rfl, isMapping⟩
        | false => exact Or.inr (Or.inl ⟨_, rfl⟩)
    | error problem =>
        rw [decode_encode_of_error outcome]
        rcases problem_of_readText outcome with ⟨told, rfl⟩ | ⟨cause, rfl⟩
        · exact Or.inr (Or.inl ⟨told, rfl⟩)
        · exact Or.inr (Or.inr ⟨cause, rfl⟩)
  · exact Or.inr (Or.inr ⟨_, decode_of_no_text (not_exists.mp isText)⟩)

/-- What the user gets from reading the document at a path: a mapping, or word of what is wrong. -/
def IsTold (path : FilePath) (machine : Machine) : Prop :=
  (∃ spec after, Ends (load path) machine spec after ∧ spec.isMapping = true) ∨
    ∃ told after, Stops (load path) machine (.spec told) after

theorem not_isTold_of_fault (stopped : Stops (load path) machine (.fault cause) after) :
    ¬ IsTold path machine := by
  rintro (⟨spec, after, ended, -⟩ | ⟨told, after, other⟩)
  · cases stopped.symm.trans ended
  · cases stopped.symm.trans other

theorem isTold_or_exists_fault (path : FilePath) (machine : Machine) :
    IsTold path machine ∨ ∃ cause after, Stops (load path) machine (.fault cause) after := by
  have loaded := load_eq path machine
  split at loaded
  · exact Or.inr ⟨_, _, loaded⟩
  · split at loaded
    · exact Or.inr ⟨_, _, loaded⟩
    · rename_i content _ _ _
      rcases decode_cases machine.platform path content with
        ⟨spec, isSpec, isMapping⟩ | ⟨told, fails⟩ | ⟨cause, fails⟩
      · rw [isSpec] at loaded
        exact Or.inl (Or.inl ⟨spec, _, loaded, isMapping⟩)
      · rw [fails] at loaded
        exact Or.inl (Or.inr ⟨told, _, loaded⟩)
      · rw [fails] at loaded
        exact Or.inr ⟨cause, _, loaded⟩
  · exact Or.inl (Or.inr ⟨_, _, loaded⟩)

/-- What stands in a file is told just if it is a text that its reader tells. -/
theorem isTold_iff_of_contentAt (stands : contentAt machine path = some content) :
    IsTold path machine ↔ ∃ text, content = Text.Utf8.encode text ∧
      TellsText machine.platform path (Text.unifyLines text) := by
  have loaded := load_of_contentAt stands
  constructor
  · intro told
    by_cases isText : ∃ text, content = Text.Utf8.encode text
    · rcases isText with ⟨text, rfl⟩
      refine ⟨text, rfl, fun cause fails => ?_⟩
      rw [decode_encode_of_error fails] at loaded
      exact not_isTold_of_fault loaded told
    · rw [decode_of_no_text (not_exists.mp isText)] at loaded
      exact absurd told (not_isTold_of_fault loaded)
  · rintro ⟨text, rfl, tells⟩
    refine (isTold_or_exists_fault path machine).resolve_right ?_
    rintro ⟨cause, after, stopped⟩
    cases outcome : readText machine.platform path (Text.unifyLines text) with
    | ok value =>
        rw [decode_encode_of_ok outcome] at loaded
        split at loaded
        all_goals cases loaded.symm.trans stopped
    | error problem =>
        rw [decode_encode_of_error outcome] at loaded
        cases loaded.symm.trans stopped
        exact tells cause outcome

/-- Reading a document gives a mapping or stops with word for the user, unless the system refuses to
look or to read, or the bytes are no text, or the reader fails with a cause of its own; then it
stops with a fault.  The reader of the interchange notation fails so only for long numbers and for
want of room, and the reader of the other notation where the library does.  A string with half of a
surrogate pair is no text here, so nothing is said of documents with such strings. -/
theorem load_told_iff (path : FilePath) (machine : Machine)
    (paired : ∀ text, contentAt machine path = some (Text.Utf8.encode text) →
      ¬Json.HasLoneHalf (Text.unifyLines text)) :
    (IsTold path machine ↔
      ∃ entry, Run.found machine path = .ok entry ∧
        ∀ content, entry = some (.file content) →
          machine.files.refusal .read path = none ∧
            ∃ text, content = Text.Utf8.encode text ∧
              TellsText machine.platform path (Text.unifyLines text)) ∧
    (IsTold path machine ∨ ∃ cause after, Stops (load path) machine (.fault cause) after) ∧
    ∀ text, contentAt machine path = some (Text.Utf8.encode text) →
      (IsInterchange path ∧ ¬Json.HasLongNumber (Text.unifyLines text) ∧
        Json.openings (Text.unifyLines text) ≤ machine.platform.readingRoom →
          TellsText machine.platform path (Text.unifyLines text)) ∧
      (¬IsInterchange path →
        (TellsText machine.platform path (Text.unifyLines text) ↔
          ∀ cause, machine.platform.yaml (Text.unifyLines text) ≠ .error (.fault cause))) := by
  refine ⟨⟨?_, ?_⟩, isTold_or_exists_fault path machine,
    fun text stands => ⟨?_, tellsText_iff_of_other⟩⟩
  · intro told
    have loaded := load_eq path machine
    cases isFound : Run.found machine path with
    | error fault =>
        rw [isFound] at loaded
        exact absurd told (not_isTold_of_fault loaded)
    | ok entry =>
        refine ⟨entry, rfl, ?_⟩
        rintro content rfl
        rw [isFound] at loaded
        cases refused : machine.files.refusal .read path with
        | some cause =>
            rw [refused] at loaded
            exact absurd told (not_isTold_of_fault loaded)
        | none =>
            have stands : contentAt machine path = some content := by
              rw [contentAt, isFound, refused]
            exact ⟨rfl, (isTold_iff_of_contentAt stands).mp told⟩
  · rintro ⟨entry, isFound, ofFile⟩
    have loaded := load_eq path machine
    rw [isFound] at loaded
    rcases entry with _ | _ | content | target
    · exact Or.inr ⟨_, _, loaded⟩
    · exact Or.inr ⟨_, _, loaded⟩
    · rcases ofFile content rfl with ⟨allowed, isTexts⟩
      have stands : contentAt machine path = some content := by
        rw [contentAt, isFound, allowed]
      exact (isTold_iff_of_contentAt stands).mpr isTexts
    · exact Or.inr ⟨_, _, loaded⟩
  · rintro ⟨isInterchange, short, flat⟩
    exact tellsText_of_interchange isInterchange short (paired text stands) flat

def emptyDocument : Machine :=
  .start .usual ⟨[(["api.json"], .file (Text.Utf8.encode ['\x7b', '\x7d']))], fun _ _ => none⟩ []
    ⟨none, 0, none⟩

theorem load_told_iff_emptyDocument :
    (∀ text, contentAt emptyDocument ⟨0, ["api.json"]⟩ = some (Text.Utf8.encode text) →
      ¬Json.HasLoneHalf (Text.unifyLines text)) ∧
    IsTold ⟨0, ["api.json"]⟩ emptyDocument := by
  have stands : contentAt emptyDocument ⟨0, ["api.json"]⟩ =
      some (Text.Utf8.encode ['\x7b', '\x7d']) := rfl
  have isUnified : Text.unifyLines ['\x7b', '\x7d'] = ['\x7b', '\x7d'] := by decide
  have paired : ∀ text, contentAt emptyDocument ⟨0, ["api.json"]⟩ = some (Text.Utf8.encode text) →
      ¬Json.HasLoneHalf (Text.unifyLines text) := by
    rintro text found ⟨raw, units, -, -, inside⟩
    have bytes := congrArg Text.Utf8.decode? (Option.some.inj (found.symm.trans stands))
    rw [Text.Utf8.decode?_encode, Text.Utf8.decode?_encode] at bytes
    rw [Option.some.inj bytes, isUnified] at inside
    have isQuote : '"' ∈ ['\x7b', '\x7d'] := inside.subset List.mem_cons_self
    exact absurd isQuote (by decide)
  refine ⟨paired, (load_told_iff _ _ paired).1.mpr ⟨_, rfl, ?_⟩⟩
  rintro content ⟨⟩
  refine ⟨rfl, _, rfl, ((load_told_iff _ _ paired).2.2 _ stands).1 ⟨?_, ?_, ?_⟩⟩
  · unfold IsInterchange
    decide
  · rintro ⟨digits, inside, -, long⟩
    rw [isUnified] at inside
    have short := inside.length_le
    exact absurd (Nat.lt_of_lt_of_le long short) (by decide)
  · rw [isUnified]
    decide

def strayByte : Machine :=
  Machine.start .usual ⟨[(["api.json"], .file [0xFF])], fun _ _ => none⟩ [] ⟨none, 0, none⟩

theorem stray_byte_not_told : ¬∀ path machine, IsTold path machine := by
  intro told
  have noText : Text.Utf8.decode? [0xFF] = none := by decide +kernel
  have stands : contentAt strayByte ⟨0, ["api.json"]⟩ = some [0xFF] := rfl
  have stopped := load_of_contentAt stands
  rw [decode_of_no_text (Text.Utf8.decode?_eq_none_iff.mp noText)] at stopped
  exact not_isTold_of_fault stopped (told _ _)

end SpecFile
end ApiAccessors
