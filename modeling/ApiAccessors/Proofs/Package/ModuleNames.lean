import ApiAccessors.Proofs.Naming.Characters
import ApiAccessors.Proofs.Naming.FreeNumber
import ApiAccessors.Proofs.Package.Emission
import ApiAccessors.Proofs.Package.Groups
import Mathlib.Data.Finset.Dedup

namespace ApiAccessors
namespace Package

/-!
# Names of modules

Two titles can have the same class name, the same file name, or both, since each of the two names
forgets something else.  A module therefore gets the first number with which neither name is taken,
and both are taken from then on.

Class names and file names are taken in one list.  To bound the number one has to know that a taken
name stands in the way of one number only, although a number has two names.  A file name has a point
and a class name has none, so that no name is of both kinds; and names of one kind with different
numbers differ.
-/

theorem suffix_injective : Function.Injective suffix := by
  intro left right same
  unfold suffix at same
  by_cases leftZero : left = 0
  · by_cases rightZero : right = 0
    · rw [leftZero, rightZero]
    · rw [if_pos leftZero, if_neg rightZero] at same
      exact False.elim (Naming.toString_ne_empty right same.symm)
  · by_cases rightZero : right = 0
    · rw [if_neg leftZero, if_pos rightZero] at same
      exact False.elim (Naming.toString_ne_empty left same)
    · rw [if_neg leftZero, if_neg rightZero] at same
      exact Naming.toString_injective same

theorem isAsciiDigit_of_mem_suffix {number : Nat} {c : Char}
    (member : c ∈ (suffix number).toList) : Text.isAsciiDigit c = true := by
  unfold suffix at member
  split at member
  · cases member
  · exact Naming.isAsciiDigit_of_mem_toString member

theorem mem_safeTitle {title : String} {c : Char} (member : c ∈ safeTitle title) :
    Text.isWord c = true ∨ c = '_' := by
  have isWord : ∀ {kept : List Char}, title.toList.filter Text.isWord = kept →
      ∀ c ∈ kept, Text.isWord c = true := by
    intro kept same c keptMember
    rw [← same] at keptMember
    exact (List.mem_filter.mp keptMember).2
  unfold safeTitle at member
  cases isKept : title.toList.filter Text.isWord with
  | nil =>
      rw [isKept] at member
      cases member
  | cons first rest =>
      simp only [isKept] at member
      split at member
      · rcases List.mem_cons.mp member with mark | inner
        · exact Or.inr mark
        · exact Or.inl (isWord isKept c inner)
      · exact Or.inl (isWord isKept c member)

/-- A character that is none of the characters of a name does not stand in a class name. -/
theorem not_mem_numberedClass {c : Char} (notWord : Text.isWord c = false) (notMark : c ≠ '_')
    (notEnding : c ∉ "Api".toList) (notDigit : Text.isAsciiDigit c = false) (title : String)
    (number : Nat) : c ∉ (numberedClass title number).toList := by
  intro member
  unfold numberedClass className at member
  simp only [String.toList_append, String.toList_ofList, List.mem_append] at member
  rcases member with (inTitle | inEnding) | inSuffix
  · rcases mem_safeTitle inTitle with isWord | isMark
    · rw [notWord] at isWord
      cases isWord
    · exact notMark isMark
  · exact notEnding inEnding
  · rw [isAsciiDigit_of_mem_suffix inSuffix] at notDigit
    cases notDigit

/-- A class name with a number has no point in it. -/
theorem point_not_mem_numberedClass (title : String) (number : Nat) :
    '.' ∉ (numberedClass title number).toList :=
  not_mem_numberedClass (by decide) (by decide) (by decide) (by decide) title number

theorem point_mem_numberedFile (title : String) (number : Nat) :
    '.' ∈ (numberedFile title number).toList := by
  unfold numberedFile
  rw [String.toList_append]
  exact List.mem_append_right _ (by decide)

theorem numberedClass_ne_numberedFile (title other : String) (number otherNumber : Nat) :
    numberedClass title number ≠ numberedFile other otherNumber := by
  intro same
  exact point_not_mem_numberedClass title number (same ▸ point_mem_numberedFile other otherNumber)

/-- A character that is below the small letters and is none of the characters of a name does not
stand in a file name without its extension. -/
theorem not_mem_stem {c : Char} (notWord : Text.isWord c = false) (below : c.toNat < 0x61)
    (notMark : c ≠ '_') (title : String) :
    c ∉ (Naming.snakeCase (String.ofList (safeTitle title))).toList := by
  intro member
  rcases Naming.mem_snakeCase member with given | isMark | above
  · rw [String.toList_ofList] at given
    rcases mem_safeTitle given with isWord | isMark
    · rw [notWord] at isWord
      cases isWord
    · exact notMark isMark
  · exact notMark isMark
  · omega

/-- Whether one of the two names of a title with a number is taken. -/
def isTaken (taken : List String) (title : String) (number : Nat) : Bool :=
  taken.contains (numberedClass title number) || taken.contains (numberedFile title number)

/-- The number is the first one with which neither name of a title is taken. -/
structure IsFirstFree (taken : List String) (title : String) (number : Nat) : Prop where
  class_free : numberedClass title number ∉ taken
  file_free : numberedFile title number ∉ taken
  earlier_taken : ∀ earlier < number,
    numberedClass title earlier ∈ taken ∨ numberedFile title earlier ∈ taken

theorem isTaken_iff {taken : List String} {title : String} {number : Nat} :
    isTaken taken title number = true ↔
      numberedClass title number ∈ taken ∨ numberedFile title number ∈ taken := by
  unfold isTaken
  rw [Bool.or_eq_true_iff, List.contains_iff_mem, List.contains_iff_mem]

/-- A taken name that stands in the way of a number. -/
private def obstacle (taken : List String) (title : String) (number : Nat) : String :=
  if numberedClass title number ∈ taken then numberedClass title number
  else numberedFile title number

/-- A name stands in the way of one number at most. -/
private theorem obstacle_injective (taken : List String) (title : String) :
    Function.Injective (obstacle taken title) := by
  have classInjective : Function.Injective (numberedClass title) := by
    intro left right same
    exact suffix_injective ((String.append_right_inj _).mp same)
  have fileInjective : Function.Injective (numberedFile title) := by
    intro left right same
    have stems := (String.append_left_inj _).mp same
    exact suffix_injective ((String.append_right_inj _).mp stems)
  intro left right same
  unfold obstacle at same
  split at same
  · split at same
    · exact classInjective same
    · exact False.elim (numberedClass_ne_numberedFile title title left right same)
  · split at same
    · exact False.elim (numberedClass_ne_numberedFile title title right left same.symm)
    · exact fileInjective same

/-- The loop that looks for a free number ends, at most as many rounds later as there are taken
names, and with the first free number. -/
theorem freeNumber_spec (taken : List String) (title : String) :
    ∃ number, number ≤ taken.toFinset.card ∧ IsFirstFree taken title number ∧
      freeNumber taken (className title) (fileStem title) = number ∧
      ∀ rounds, taken.toFinset.card < rounds →
        Naming.seek (isTaken taken title) rounds 0 = some number := by
  have held : ∀ number, isTaken taken title number = true →
      obstacle taken title number ∈ taken.toFinset := by
    intro number isHeld
    apply List.mem_toFinset.mpr
    unfold obstacle
    split
    · assumption
    · rename_i classFree
      exact (isTaken_iff.mp isHeld).resolve_left classFree
  rcases Naming.seek_eq_least held (obstacle_injective taken title) 0 with
    ⟨number, free, -, near, before, ends⟩
  have neither : ¬(numberedClass title number ∈ taken ∨ numberedFile title number ∈ taken) := by
    intro either
    rw [isTaken_iff.mpr either] at free
    cases free
  refine ⟨number, by omega, ⟨?_, ?_, ?_⟩, ?_, ends⟩
  · exact fun member => neither (Or.inl member)
  · exact fun member => neither (Or.inr member)
  · intro earlier below
    exact isTaken_iff.mp (before earlier (Nat.zero_le _) below)
  · have found := ends (taken.length + 1) (Nat.lt_succ_of_le (List.toFinset_card_le taken))
    exact congrArg (fun found => found.getD 0) found

section

variable {spec : Value} {taken : List String} {groups : List (String × List String)}
  {modules : List AccessorModule}

/-- The names of a module are those of its title with a number. -/
theorem Emits.numbered (emits : Emits spec taken groups modules) :
    ∀ module ∈ modules, ∃ number, module.className = numberedClass module.title number ∧
      module.fileName = numberedFile module.title number := by
  induction emits with
  | nothing taken => exact List.forall_mem_nil _
  | skipped found later ih => exact ih
  | emitted found notEmpty isNumber isClassName isFileName later ih =>
      intro module member
      rcases List.mem_cons.mp member with same | member
      · rw [same]
        exact ⟨_, isClassName, isFileName⟩
      · exact ih module member

/-- No module has a name that is taken before, and the names of different modules differ.  The first
part is what carries the induction: the names of a module are taken for all modules behind it. -/
theorem Emits.names_differ (emits : Emits spec taken groups modules) :
    (∀ module ∈ modules, module.className ∉ taken ∧ module.fileName ∉ taken) ∧
      (modules.map (·.className)).Nodup ∧ (modules.map (·.fileName)).Nodup := by
  induction emits with
  | nothing taken => exact ⟨List.forall_mem_nil _, List.nodup_nil, List.nodup_nil⟩
  | skipped found later ih => exact ih
  | @emitted taken title className fileName _ _ modules _ _ _ _ found notEmpty isNumber isClassName
      isFileName later ih =>
      rcases freeNumber_spec taken title with ⟨number, -, first, isFree, -⟩
      rw [isFree] at isNumber
      cases isNumber
      have classFree : className ∉ taken := isClassName ▸ first.class_free
      have fileFree : fileName ∉ taken := isFileName ▸ first.file_free
      have behind : ∀ module ∈ modules, module.className ∉ taken ∧ module.fileName ∉ taken := by
        intro module member
        have parts := ih.1 module member
        exact ⟨fun inTaken => parts.1 (List.mem_cons_of_mem _ (List.mem_cons_of_mem _ inTaken)),
          fun inTaken => parts.2 (List.mem_cons_of_mem _ (List.mem_cons_of_mem _ inTaken))⟩
      have classNew : className ∉ modules.map (·.className) := by
        intro again
        rcases List.mem_map.mp again with ⟨module, member, same⟩
        apply (ih.1 module member).1
        rw [same]
        exact List.mem_cons_of_mem _ List.mem_cons_self
      have fileNew : fileName ∉ modules.map (·.fileName) := by
        intro again
        rcases List.mem_map.mp again with ⟨module, member, same⟩
        apply (ih.1 module member).2
        rw [same]
        exact List.mem_cons_self
      refine ⟨?_, List.nodup_cons.mpr ⟨classNew, ih.2.1⟩, List.nodup_cons.mpr ⟨fileNew, ih.2.2⟩⟩
      intro module member
      rcases List.mem_cons.mp member with same | member
      · rw [same]
        exact ⟨classFree, fileFree⟩
      · exact behind module member

end

/-- A name of a file that lies directly in its directory and has the form of a module. -/
structure IsModuleFile (name : String) : Prop where
  form : ∃ stem digits : String, name = stem ++ "_api" ++ digits ++ ".py" ∧
    ∀ c ∈ digits.toList, Text.isAsciiDigit c = true
  no_slash : '/' ∉ name.toList
  no_backslash : '\\' ∉ name.toList

theorem isModuleFile_numberedFile (title : String) (number : Nat) :
    IsModuleFile (numberedFile title number) := by
  have separator : ∀ c : Char, Text.isWord c = false → c.toNat < 0x61 → c ≠ '_' →
      c ∉ "_api".toList → c ∉ extension.toList → Text.isAsciiDigit c = false →
      c ∉ (numberedFile title number).toList := by
    intro c notWord below notMark notEnding notExtension notDigit member
    unfold numberedFile fileStem at member
    simp only [String.toList_append, List.mem_append] at member
    rcases member with ((inStem | inEnding) | inSuffix) | inExtension
    · exact not_mem_stem notWord below notMark title inStem
    · exact notEnding inEnding
    · rw [isAsciiDigit_of_mem_suffix inSuffix] at notDigit
      cases notDigit
    · exact notExtension inExtension
  refine ⟨⟨Naming.snakeCase (String.ofList (safeTitle title)), suffix number, rfl, ?_⟩, ?_, ?_⟩
  · intro c member
    exact isAsciiDigit_of_mem_suffix member
  · apply separator
    all_goals decide
  · apply separator
    all_goals decide

/-- The other files of a package have names of another form: an `a` stands in the name of every
module. -/
theorem IsModuleFile.other {name : String} (isModule : IsModuleFile name) :
    name ≠ "client.py" ∧ name ≠ "__init__.py" := by
  rcases isModule.form with ⟨stem, digits, same, -⟩
  have letter : 'a' ∈ name.toList := by
    rw [same]
    simp only [String.toList_append, List.mem_append]
    exact Or.inl (Or.inl (Or.inr (by decide)))
  constructor
  · intro isClient
    rw [isClient] at letter
    revert letter
    decide
  · intro isContents
    rw [isContents] at letter
    revert letter
    decide

structure IsPlain (module : AccessorModule) : Prop where
  class_eq : module.className = className module.title
  file_eq : module.fileName = fileName module.title

/-- The modules of a package differ in their class names and in their file names, and no module has
the file name of another file of the package.  To claim names for a module is a search that always
ends: with the first number for which both names are free, which is no larger than the number of
taken names.  A module whose plain names are free keeps them, and nothing is reported. -/
theorem module_names_differ :
    (∀ (spec : Value) (resources : List String) (package : Package),
      (build spec resources).runLog.1 = .ok package →
      (package.modules.map (·.className)).Nodup ∧ (package.modules.map (·.fileName)).Nodup ∧
        ∀ module ∈ package.modules, IsModuleFile module.fileName ∧
          module.fileName ≠ "client.py" ∧ module.fileName ≠ "__init__.py") ∧
    (∀ (taken : List String) (module : AccessorModule) (log : List LogEntry), IsPlain module →
      ∃ number after, number ≤ taken.toFinset.card ∧ IsFirstFree taken module.title number ∧
        (∀ rounds, taken.toFinset.card < rounds →
          Naming.seek (isTaken taken module.title) rounds 0 = some number) ∧
        (claimNames taken module).outcome log = some ({ module with
          className := numberedClass module.title number,
          fileName := numberedFile module.title number }, after)) ∧
    ∀ (taken : List String) (module : AccessorModule) (log : List LogEntry), IsPlain module →
      module.className ∉ taken → module.fileName ∉ taken →
      (claimNames taken module).outcome log = some (module, log) := by
  refine ⟨?_, ?_, ?_⟩
  · intro spec resources package ended
    rcases Logged.runLog_fst_eq_ok_iff.mp ended with ⟨log, built⟩
    have emits := emits_of_build built
    refine ⟨emits.names_differ.2.1, emits.names_differ.2.2, ?_⟩
    intro module member
    rcases emits.numbered module member with ⟨number, -, isFile⟩
    have isModule := isModuleFile_numberedFile module.title number
    rw [← isFile] at isModule
    exact ⟨isModule, isModule.other⟩
  · intro taken module log plain
    rcases freeNumber_spec taken module.title with ⟨number, near, first, isNumber, ends⟩
    rcases claimNames_outcome taken module plain.class_eq plain.file_eq isNumber log with
      ⟨after, claims, -⟩
    exact ⟨number, after, near, first, ends, claims⟩
  · intro taken module log plain classFree fileFree
    rcases freeNumber_spec taken module.title with ⟨number, -, first, isNumber, -⟩
    have zero : number = 0 := by
      by_contra positive
      rcases first.earlier_taken 0 (Nat.pos_of_ne_zero positive) with classTaken | fileTaken
      · rw [numberedClass_zero, ← plain.class_eq] at classTaken
        exact classFree classTaken
      · rw [numberedFile_zero, ← plain.file_eq] at fileTaken
        exact fileFree fileTaken
    rcases claimNames_outcome taken module plain.class_eq plain.file_eq isNumber log with
      ⟨after, claims, unchanged⟩
    rw [claims, unchanged zero, zero, numberedClass_zero, numberedFile_zero, ← plain.class_eq,
      ← plain.file_eq]

/-- A document with two resources whose titles have the same class name and the same file name. -/
def twoVersions : Value :=
  .record [("paths", .record [
    ("/api/v1.2/a", .record [("get", .record [])]),
    ("/api/v12/b", .record [("get", .record [])])])]

theorem build_twoVersions :
    (build twoVersions ["v1.2", "v12"]).runLog.1.toOption.map (fun package =>
      package.modules.map (fun module => (module.className, module.fileName))) =
        some [("V12Api", "v12_api.py"), ("V12Api1", "v12_api1.py")] := by
  have lists : Resource.Lists twoVersions [
      (.text "/api/v1.2/a", .record [("get", .record [])]),
      (.text "/api/v12/b", .record [("get", .record [])])] := ⟨_, rfl, rfl⟩
  have routed : Resource.AllRouted twoVersions [
      (.text "/api/v1.2/a", .record [("get", .record [])]),
      (.text "/api/v12/b", .record [("get", .record [])])] := by
    unfold Resource.AllRouted
    decide
  have first := lists.pathsOf_of_pairwise routed "v1.2" (by decide)
  have second := lists.pathsOf_of_pairwise routed "v12" (by decide)
  have groups : group ["v1.2", "v12"] = [("V1.2", ["v1.2"]), ("V12", ["v12"])] := by
    apply group_of_pairwise
    all_goals decide
  simp only [build, groups, buildModules, buildModule, operations, pathsOf, first, second]
  decide

private def plainModule : AccessorModule :=
  ⟨"V12", "V12Api", "v12_api.py", ["v12"], [], .null, .null⟩

theorem module_names_differ_twoVersions :
    (∃ package, (build twoVersions ["v1.2", "v12"]).runLog.1 = .ok package ∧
      package.modules.map (fun module => (module.className, module.fileName)) =
        [("V12Api", "v12_api.py"), ("V12Api1", "v12_api1.py")] ∧
      (package.modules.map (·.className)).Nodup) ∧
    (∃ number after, 0 < number ∧ number ≤ ["v12_api.py", "V12Api"].toFinset.card ∧
      (claimNames ["v12_api.py", "V12Api"] plainModule).outcome [] = some ({ plainModule with
        className := numberedClass "V12" number, fileName := numberedFile "V12" number }, after)) ∧
    (claimNames [] plainModule).outcome [] = some (plainModule, []) := by
  have plain : IsPlain plainModule := ⟨by decide, by decide⟩
  refine ⟨?_, ?_, ?_⟩
  · rcases Option.map_eq_some_iff.mp build_twoVersions with ⟨package, ended, names⟩
    have built := Outcome.toOption_eq_some_iff.mp ended
    exact ⟨package, built, names, (module_names_differ.1 twoVersions _ package built).1⟩
  · rcases module_names_differ.2.1 ["v12_api.py", "V12Api"] plainModule [] plain with
      ⟨number, after, near, first, -, claims⟩
    have positive : 0 < number := by
      apply Nat.pos_of_ne_zero
      intro zero
      apply first.class_free
      rw [zero]
      decide
    exact ⟨number, after, positive, near, claims⟩
  · exact module_names_differ.2.2 [] plainModule [] plain List.not_mem_nil List.not_mem_nil

end Package
end ApiAccessors
