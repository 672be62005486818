import ApiAccessors.Proofs.Naming.SpelledAlike
import ApiAccessors.Proofs.Package.ModuleNames

namespace ApiAccessors
namespace Package

/-!
# Titles that are kept apart

The names of a module are made from its title, and in general they forget something of it.  But if
formatting leaves a title as it is, then each of the two names leads back to it: what a name has in
front of its ending is formatted to the title.  So two titles of this kind have no name in common,
and numbers bring none about, since in front of a number there is a letter.

A number is given to a module because of names that modules before it have.  So with a title of this
kind a module gets a number only because of modules with titles of another kind.
-/

/-- A title that is made from a plain name and is left as it is when it is formatted again. -/
structure IsStable (title : String) : Prop where
  made : ∃ name, Naming.IsPlain name ∧ Naming.pascalCase name = title
  kept : Naming.pascalCase title = title

section

variable {title : String}

theorem IsStable.alphanum (stable : IsStable title) :
    ∀ c ∈ title.toList, c.isAlphanum = true := by
  rcases stable.made with ⟨name, plain, same⟩
  rw [← same]
  exact plain.isAlphanum_pascalCase

theorem IsStable.capitalsApart (stable : IsStable title) :
    Naming.CapitalsApart title.toList := by
  apply (Naming.pascalCase_eq_self_iff stable.alphanum _).mp stable.kept
  rcases stable.made with ⟨name, plain, same⟩
  rw [← same]
  exact plain.head_pascalCase

theorem isWord_of_isAlphanum {c : Char} (alphanum : c.isAlphanum = true) :
    Text.isWord c = true := by
  apply Naming.forall_alphanum _ _ alphanum
  decide

/-- In a name nothing of a title of letters and digits is missing; there may be a mark before it. -/
theorem safeTitle_of_alphanum (alphanum : ∀ c ∈ title.toList, c.isAlphanum = true) :
    safeTitle title = title.toList ∨ safeTitle title = '_' :: title.toList := by
  have all : title.toList.filter Text.isWord = title.toList :=
    List.filter_eq_self.mpr (fun c member => isWord_of_isAlphanum (alphanum c member))
  unfold safeTitle
  rw [all]
  cases title.toList with
  | nil => exact Or.inl rfl
  | cons first rest =>
      by_cases isDigit : Text.isDigit first = true
      · exact Or.inr (if_pos isDigit)
      · exact Or.inl (if_neg isDigit)

/-- What the class name and the file name have in front of their endings is formatted to the
title. -/
theorem IsStable.pascalCase_safeTitle (stable : IsStable title) :
    Naming.pascalCase (String.ofList (safeTitle title)) = title ∧
      Naming.pascalCase (Naming.snakeCase (String.ofList (safeTitle title))) = title := by
  have ascii : Text.IsAscii title.toList :=
    fun c member => Naming.toNat_lt_of_isAlphanum (stable.alphanum c member)
  have readBack : ∀ {safe : List Char}, safe = title.toList ∨ safe = '_' :: title.toList →
      Text.IsAscii safe ∧ Naming.CapitalsApart safe ∧
        Naming.pascalCase (String.ofList safe) = title := by
    intro safe form
    rcases form with same | marked
    · rw [same, String.ofList_toList]
      exact ⟨ascii, stable.capitalsApart, stable.kept⟩
    · rw [marked]
      refine ⟨List.forall_mem_cons.mpr ⟨by decide, ascii⟩, stable.capitalsApart.cons ?_, ?_⟩
      · rintro next - ⟨markCapital, -⟩
        exact absurd markCapital (by decide)
      · unfold Naming.pascalCase
        rw [String.toList_ofList, Naming.words_cons (by decide)]
        exact stable.kept
  rcases readBack (safeTitle_of_alphanum stable.alphanum) with ⟨safeAscii, apart, same⟩
  refine ⟨same, ?_⟩
  rw [Naming.pascalCase_snakeCase, same]
  · rw [String.toList_ofList]
    exact safeAscii
  · rw [String.toList_ofList]
    exact apart

end

/-- Where an ending does not end with a digit, a number behind it can be told from it. -/
theorem eq_of_append_suffix_eq {ending left right : String} {leftNumber rightNumber : Nat}
    (ends : ∃ last ∈ ending.toList.getLast?, Text.isAsciiDigit last = false)
    (same : left ++ ending ++ suffix leftNumber = right ++ ending ++ suffix rightNumber) :
    left = right := by
  have nothing : ∀ {text : String} {before rest : List Char} {number : Nat},
      (text ++ ending).toList = before ++ rest → (∀ c ∈ rest, c ∈ (suffix number).toList) →
      rest = [] := by
    intro text before rest number isText within
    rcases ends with ⟨last, isLast, noDigit⟩
    by_contra notEmpty
    have lasts := congrArg List.getLast? isText
    rw [String.toList_append, List.getLast?_append, Option.mem_def.mp isLast,
      List.getLast?_append, List.getLast?_eq_some_getLast notEmpty] at lasts
    have isDigit := isAsciiDigit_of_mem_suffix (within _ (List.getLast_mem notEmpty))
    rw [← Option.some_inj.mp lasts, noDigit] at isDigit
    cases isDigit
  have texts : (left ++ ending).toList ++ (suffix leftNumber).toList =
      (right ++ ending).toList ++ (suffix rightNumber).toList := by
    rw [← String.toList_append, ← String.toList_append, same]
  apply (String.append_left_inj ending).mp
  apply String.toList_inj.mp
  rcases List.append_eq_append_iff.mp texts with
    ⟨rest, isRight, isSuffix⟩ | ⟨rest, isLeft, isSuffix⟩
  · have isEmpty := nothing isRight (fun c member => isSuffix ▸ List.mem_append_left _ member)
    rw [isRight, isEmpty, List.append_nil]
  · have isEmpty := nothing isLeft (fun c member => isSuffix ▸ List.mem_append_left _ member)
    rw [isLeft, isEmpty, List.append_nil]

/-- A name that two stable titles have in common, with whatever numbers, makes them equal. -/
theorem IsStable.eq_of_numbered_eq {left right : String} {leftNumber rightNumber : Nat}
    (leftStable : IsStable left) (rightStable : IsStable right)
    (same : numberedClass left leftNumber = numberedClass right rightNumber ∨
      numberedFile left leftNumber = numberedFile right rightNumber) : left = right := by
  rcases same with classSame | fileSame
  · have safe := eq_of_append_suffix_eq ⟨'i', by decide, by decide⟩ classSame
    rw [← leftStable.pascalCase_safeTitle.1, safe, rightStable.pascalCase_safeTitle.1]
  · have stems := (String.append_left_inj _).mp fileSame
    have safe := eq_of_append_suffix_eq ⟨'i', by decide, by decide⟩ stems
    rw [← leftStable.pascalCase_safeTitle.2, safe, rightStable.pascalCase_safeTitle.2]

/-- The names that are taken when some modules have got theirs. -/
def claimed (taken : List String) (modules : List AccessorModule) : List String :=
  modules.foldl (fun taken module => module.fileName :: module.className :: taken) taken

theorem mem_claimed {taken : List String} {modules : List AccessorModule} {name : String} :
    name ∈ claimed taken modules ↔
      name ∈ taken ∨ ∃ module ∈ modules, name = module.fileName ∨ name = module.className := by
  induction modules generalizing taken with
  | nil => simp [claimed]
  | cons module rest ih =>
      change name ∈ claimed (module.fileName :: module.className :: taken) rest ↔ _
      rw [ih, List.mem_cons, List.mem_cons, List.exists_mem_cons_iff, ← or_assoc,
        @or_comm (_ ∨ _) (name ∈ taken), or_assoc]

/-- Every module has the first number with which its names are taken by no module before it. -/
theorem Emits.exists_isFirstFree {spec : Value} {taken : List String}
    {groups : List (String × List String)} {before behind : List AccessorModule}
    {module : AccessorModule} (emits : Emits spec taken groups (before ++ module :: behind)) :
    ∃ number, module.className = numberedClass module.title number ∧
      module.fileName = numberedFile module.title number ∧
      IsFirstFree (claimed taken before) module.title number := by
  generalize isAll : before ++ module :: behind = modules at emits
  induction emits generalizing before with
  | nothing taken => simp at isAll
  | skipped found later ih => exact ih isAll
  | @emitted taken title _ _ _ _ _ _ _ _ _ found notEmpty isNumber isClassName isFileName later
      ih =>
      cases before with
      | nil =>
          cases isAll
          rcases freeNumber_spec taken title with ⟨number, -, first, isFree, -⟩
          rw [isFree] at isNumber
          exact ⟨number, isNumber ▸ isClassName, isNumber ▸ isFileName, first⟩
      | cons first rest =>
          cases isAll
          exact ih rfl

/-- No two modules of a package have the same title. -/
theorem Emits.title_ne {spec : Value} {taken resources : List String}
    {before behind : List AccessorModule} {module : AccessorModule}
    (emits : Emits spec taken (group resources) (before ++ module :: behind)) :
    ∀ other ∈ before, other.title ≠ module.title := by
  intro other member
  have inOrder := List.pairwise_append.mp emits.titles_increase
  exact String.ne_of_lt (inOrder.2.2 other member module List.mem_cons_self)

/-- A name that is claimed and is one of the names of a title with a number is a name of the same
kind. -/
theorem exists_claimed {before : List AccessorModule} {title : String} {number : Nat}
    (numbered : ∀ other ∈ before, ∃ k, other.className = numberedClass other.title k ∧
      other.fileName = numberedFile other.title k)
    (isClaimed : numberedClass title number ∈ claimed [] before ∨
      numberedFile title number ∈ claimed [] before) :
    ∃ other ∈ before, other.className = numberedClass title number ∨
      other.fileName = numberedFile title number := by
  rcases isClaimed with classClaimed | fileClaimed
  · rcases mem_claimed.mp classClaimed with inEmpty | ⟨other, member, isFile | isClass⟩
    · cases inEmpty
    · rcases numbered other member with ⟨k, -, otherFile⟩
      exact absurd (isFile.trans otherFile) (numberedClass_ne_numberedFile _ _ _ _)
    · exact ⟨other, member, Or.inl isClass.symm⟩
  · rcases mem_claimed.mp fileClaimed with inEmpty | ⟨other, member, isFile | isClass⟩
    · cases inEmpty
    · exact ⟨other, member, Or.inr isFile.symm⟩
    · rcases numbered other member with ⟨k, otherClass, -⟩
      exact absurd (otherClass.symm.trans isClass.symm) (numberedClass_ne_numberedFile _ _ _ _)

/-- Where the names of a module with a stable title are taken, they are taken by modules with titles
that are not stable. -/
theorem Emits.exists_number_of_isStable {spec : Value} {resources : List String}
    {modules : List AccessorModule} (emits : Emits spec [] (group resources) modules)
    {module : AccessorModule} (member : module ∈ modules) (stable : IsStable module.title) :
    ∃ number, module.className = numberedClass module.title number ∧
      module.fileName = numberedFile module.title number ∧
      ∀ earlier < number, ∃ other ∈ modules, ¬IsStable other.title ∧
        (other.className = numberedClass module.title earlier ∨
          other.fileName = numberedFile module.title earlier) := by
  rcases List.append_of_mem member with ⟨before, behind, isAll⟩
  have within : ∀ other ∈ before, other ∈ modules :=
    fun other isBefore => isAll ▸ List.mem_append_left _ isBefore
  have numbered := emits.numbered
  rw [isAll] at emits
  rcases emits.exists_isFirstFree with ⟨number, isClass, isFile, first⟩
  refine ⟨number, isClass, isFile, ?_⟩
  intro earlier below
  rcases exists_claimed (fun other isBefore => numbered other (within other isBefore))
    (first.earlier_taken earlier below) with ⟨other, isBefore, blocks⟩
  refine ⟨other, within other isBefore, ?_, blocks⟩
  intro otherStable
  rcases numbered other (within other isBefore) with ⟨k, otherClass, otherFile⟩
  apply emits.title_ne other isBefore
  apply otherStable.eq_of_numbered_eq stable
  rw [otherClass, otherFile] at blocks
  exact blocks

/-- Formatting the name with underscores that is made from a stable formatted name gives the
formatted name back.  Each of the two names of a stable title determines the title, and where the
names of a module with a stable title are taken, they are taken by modules with titles that are not
stable. -/
theorem stable_titles_read_back :
    (∀ name, Naming.IsPlain name →
      Naming.pascalCase (Naming.pascalCase name) = Naming.pascalCase name →
      Naming.pascalCase (Naming.snakeCase (Naming.pascalCase name)) = Naming.pascalCase name) ∧
    (∀ left right, IsStable left → IsStable right → left ≠ right →
      className left ≠ className right ∧ fileName left ≠ fileName right) ∧
    ∀ (spec : Value) (resources : List String) (package : Package),
      (build spec resources).runLog.1 = .ok package →
      ∀ module ∈ package.modules, IsStable module.title →
        ∃ number, module.className = numberedClass module.title number ∧
          module.fileName = numberedFile module.title number ∧
          ∀ earlier < number, ∃ other ∈ package.modules, ¬IsStable other.title ∧
            (other.className = numberedClass module.title earlier ∨
              other.fileName = numberedFile module.title earlier) := by
  refine ⟨?_, ?_, ?_⟩
  · intro name plain kept
    have stable : IsStable (Naming.pascalCase name) := ⟨⟨name, plain, rfl⟩, kept⟩
    rw [Naming.pascalCase_snakeCase _ stable.capitalsApart, kept]
    exact fun c member => Naming.toNat_lt_of_isAlphanum (stable.alphanum c member)
  · intro left right leftStable rightStable different
    constructor
    · intro same
      apply different
      apply leftStable.eq_of_numbered_eq rightStable
      exact Or.inl ((numberedClass_zero left).trans (same.trans (numberedClass_zero right).symm))
    · intro same
      apply different
      apply leftStable.eq_of_numbered_eq rightStable
      exact Or.inr ((numberedFile_zero left).trans (same.trans (numberedFile_zero right).symm))
  · intro spec resources package ended module member stable
    rcases Logged.runLog_fst_eq_ok_iff.mp ended with ⟨log, built⟩
    exact (emits_of_build built).exists_number_of_isStable member stable

/-- A document with two resources whose names consist of two words each. -/
def twoFactor : Value :=
  .record [("paths", .record [
    ("/api/2fa-codes", .record [("get", .record [])]),
    ("/api/audit_log", .record [("get", .record [])])])]

private theorem group_twoFactor : group ["2fa-codes", "audit_log"] =
    [("2faCodes", ["2fa-codes"]), ("AuditLog", ["audit_log"])] := by
  apply group_of_pairwise
  all_goals decide

private theorem build_twoFactor :
    (build twoFactor ["2fa-codes", "audit_log"]).runLog.1.toOption.map (fun package =>
      package.modules.map (·.fileName)) = some ["_2fa_codes_api.py", "audit_log_api.py"] := by
  have lists : Resource.Lists twoFactor [
      (.text "/api/2fa-codes", .record [("get", .record [])]),
      (.text "/api/audit_log", .record [("get", .record [])])] := ⟨_, rfl, rfl⟩
  have routed : Resource.AllRouted twoFactor [
      (.text "/api/2fa-codes", .record [("get", .record [])]),
      (.text "/api/audit_log", .record [("get", .record [])])] := by
    unfold Resource.AllRouted
    decide
  have first := lists.pathsOf_of_pairwise routed "2fa-codes" (by decide)
  have second := lists.pathsOf_of_pairwise routed "audit_log" (by decide)
  simp only [build, group_twoFactor, buildModules, buildModule, operations, pathsOf, first, second]
  decide

private theorem isStable_twoFactor : IsStable "2faCodes" ∧ IsStable "AuditLog" := by
  constructor
  · exact ⟨⟨"2fa-codes", by decide, by decide⟩, by decide⟩
  · exact ⟨⟨"audit_log", by decide, by decide⟩, by decide⟩

/-- Two modules with stable titles have their plain names. -/
theorem stable_titles_read_back_twoFactor :
    Naming.pascalCase (Naming.snakeCase (Naming.pascalCase "2fa-codes")) =
      Naming.pascalCase "2fa-codes" ∧
    (className "2faCodes" ≠ className "AuditLog" ∧ fileName "2faCodes" ≠ fileName "AuditLog") ∧
    ∃ package, (build twoFactor ["2fa-codes", "audit_log"]).runLog.1 = .ok package ∧
      package.modules.map (·.fileName) = ["_2fa_codes_api.py", "audit_log_api.py"] ∧
      ∀ module ∈ package.modules, IsPlain module := by
  refine ⟨?_, ?_, ?_⟩
  · exact stable_titles_read_back.1 "2fa-codes" (by decide) (by decide)
  · exact stable_titles_read_back.2.1 _ _ isStable_twoFactor.1 isStable_twoFactor.2 (by decide)
  · rcases Option.map_eq_some_iff.mp build_twoFactor with ⟨package, isPackage, files⟩
    have ended := Outcome.toOption_eq_some_iff.mp isPackage
    refine ⟨package, ended, files, ?_⟩
    rcases Logged.runLog_fst_eq_ok_iff.mp ended with ⟨log, built⟩
    have allStable : ∀ module ∈ package.modules, IsStable module.title := by
      intro module member
      have isGroup := ((emits_of_build built).exists_group module member).1
      rw [group_twoFactor] at isGroup
      simp only [List.mem_cons, Prod.mk.injEq, List.not_mem_nil, or_false] at isGroup
      rcases isGroup with ⟨isTitle, -⟩ | ⟨isTitle, -⟩
      · exact isTitle ▸ isStable_twoFactor.1
      · exact isTitle ▸ isStable_twoFactor.2
    intro module member
    rcases stable_titles_read_back.2.2 twoFactor _ package ended module member
      (allStable module member) with ⟨number, isClass, isFile, blocked⟩
    have zero : number = 0 := by
      by_contra positive
      rcases blocked 0 (Nat.pos_of_ne_zero positive) with ⟨other, isOther, notStable, -⟩
      exact notStable (allStable other isOther)
    rw [zero] at isClass isFile
    exact ⟨isClass.trans (numberedClass_zero _), isFile.trans (numberedFile_zero _)⟩

end Package
end ApiAccessors
