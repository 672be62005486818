import ApiAccessors.Proofs.Package.ModuleNames

namespace ApiAccessors
namespace Package

/-!
# Module names as identifiers

A class name is written in a class statement, and the name of a file, without its extension, in the
statement that imports it, so both should be identifiers.  They are made from the word characters of
a title, with a mark in front of a digit.  But some word characters stand in no identifier, such as
superscripts and fractions, and a few can continue an identifier without being able to begin one.
What a title has to satisfy is therefore stated here, and it is shown that exactly then the two
names of its module are identifiers, whichever number the module has.
-/

/-- The first word character of a title is a digit, before which a mark is put, or it can begin an
identifier, and all of them can stand in one. -/
@[mk_iff]
structure HasIdentifierCharacters (title : String) : Prop where
  starts : ∀ first, (title.toList.filter Text.isWord).head? = some first →
    Text.isDigit first = true ∨ Text.identifierStartTable.has first = true
  continues : ∀ c ∈ title.toList.filter Text.isWord, Text.identifierContinueTable.has c = true

theorem isWord_of_mem_safeTitle {title : String} {c : Char} (member : c ∈ safeTitle title) :
    Text.isWord c = true := by
  rcases mem_safeTitle member with inWord | isMark
  · exact inWord
  · rw [isMark]
    decide

theorem opensIdentifier_safeTitle_iff (title : String) :
    Text.OpensIdentifier (safeTitle title) ↔ HasIdentifierCharacters title := by
  have mark : Text.identifierStartTable.has '_' = true := by decide
  rw [Text.opensIdentifier_iff, hasIdentifierCharacters_iff]
  unfold safeTitle
  cases title.toList.filter Text.isWord with
  | nil => simp only [List.head?_nil, reduceCtorEq, false_implies, implies_true, List.not_mem_nil]
  | cons first rest =>
      by_cases isDigit : Text.isDigit first = true
      · simp only [isDigit, if_true, List.head?_cons, Option.some.injEq, forall_eq', mark,
          List.forall_mem_cons, Text.continues_of_starts mark, true_and, true_or]
      · simp only [isDigit, if_false, List.head?_cons, Option.some.injEq, forall_eq', false_or,
          Bool.false_eq_true]

/-- What follows the characters of a title in a name is an identifier, also with a number. -/
theorem isIdentifier_ending (ending : String) (isEnding : Text.isIdentifier ending.toList = true)
    (number : Nat) : Text.isIdentifier (ending.toList ++ (suffix number).toList) = true := by
  apply Text.isIdentifier_append isEnding
  intro c member
  have isDigit := isAsciiDigit_of_mem_suffix member
  simp only [Text.isAsciiDigit, Bool.and_eq_true, decide_eq_true_eq] at isDigit
  have spanned : Text.Intervals.spans Text.identifierContinueTable.pairs 0x30 0x39 = true := by
    decide
  exact Text.Intervals.covers_of_spans spanned isDigit.1 isDigit.2

theorem isIdentifier_numberedClass_iff (title : String) (number : Nat) :
    Text.isIdentifier (numberedClass title number).toList = true ↔
      HasIdentifierCharacters title := by
  have ending := isIdentifier_ending "Api" (by decide) number
  unfold numberedClass className
  rw [String.toList_append, String.toList_append, String.toList_ofList, List.append_assoc,
    Text.isIdentifier_append_iff ending, opensIdentifier_safeTitle_iff]

theorem isIdentifier_numberedStem_iff (title : String) (number : Nat) :
    Text.isIdentifier (fileStem title ++ suffix number).toList = true ↔
      HasIdentifierCharacters title := by
  have ending := isIdentifier_ending "_api" (by decide) number
  have inWords : ∀ c ∈ safeTitle title, Text.isWord c = true :=
    fun c member => isWord_of_mem_safeTitle member
  unfold fileStem
  rw [String.toList_append, String.toList_append, List.append_assoc,
    Text.isIdentifier_append_iff ending, Naming.opensIdentifier_snakeCase_iff inWords,
    opensIdentifier_safeTitle_iff]

/-- No name of a class or of a file is a reserved word. -/
theorem numbered_not_reserved (title : String) (number : Nat) :
    numberedClass title number ∉ Text.reservedWords ∧
      fileStem title ++ suffix number ∉ Text.reservedWords := by
  have lacks : ∀ word ∈ Text.reservedWords, 'A' ∉ word.toList ∧ '_' ∉ word.toList := by
    decide
  constructor
  · intro reserved
    apply (lacks _ reserved).1
    unfold numberedClass className
    simp only [String.toList_append, List.mem_append]
    exact Or.inl (Or.inr (by decide))
  · intro reserved
    apply (lacks _ reserved).2
    unfold fileStem
    simp only [String.toList_append, List.mem_append]
    exact Or.inl (Or.inr (by decide))

/-- The class name of a module of a package and the stem of its file name are identifiers just if
the characters of its title allow it, and they are never reserved words. -/
theorem module_names_identifiers_iff {spec : Value} {resources : List String} {package : Package}
    (ended : (build spec resources).runLog.1 = .ok package) {module : AccessorModule}
    (member : module ∈ package.modules) :
    ∃ stem, module.fileName = stem ++ ".py" ∧
      (Text.isIdentifier module.className.toList = true ↔ HasIdentifierCharacters module.title) ∧
      (Text.isIdentifier stem.toList = true ↔ HasIdentifierCharacters module.title) ∧
      module.className ∉ Text.reservedWords ∧ stem ∉ Text.reservedWords := by
  rcases Logged.runLog_fst_eq_ok_iff.mp ended with ⟨log, built⟩
  rcases (emits_of_build built).numbered module member with ⟨number, isClass, isFile⟩
  refine ⟨fileStem module.title ++ suffix number, isFile, ?_⟩
  rw [isClass]
  exact ⟨isIdentifier_numberedClass_iff _ _, isIdentifier_numberedStem_iff _ _,
    numbered_not_reserved _ _⟩

/-- A document with a resource that has a superscript in its name, and one whose name begins with a
digit. -/
def squareMetres : Value :=
  .record [("paths", .record [
    ("/api/2fa", .record [("get", .record [])]),
    ("/api/m²", .record [("get", .record [])])])]

private theorem build_squareMetres :
    (build squareMetres ["2fa", "m²"]).runLog.1.toOption.map (fun package =>
      package.modules.map (fun module => (module.title, module.className, module.fileName))) =
        some [("2fa", "_2faApi", "_2fa_api.py"), ("M²", "M²Api", "m²_api.py")] := by
  have lists : Resource.Lists squareMetres [
      (.text "/api/2fa", .record [("get", .record [])]),
      (.text "/api/m²", .record [("get", .record [])])] := ⟨_, rfl, rfl⟩
  have routed : Resource.AllRouted squareMetres [
      (.text "/api/2fa", .record [("get", .record [])]),
      (.text "/api/m²", .record [("get", .record [])])] := by
    unfold Resource.AllRouted
    decide
  have first := lists.pathsOf_of_pairwise routed "2fa" (by decide)
  have second := lists.pathsOf_of_pairwise routed "m²" (by decide)
  have groups : group ["2fa", "m²"] = [("2fa", ["2fa"]), ("M²", ["m²"])] := by
    apply group_of_pairwise
    all_goals decide
  simp only [build, groups, buildModules, buildModule, operations, pathsOf, first, second]
  decide

private theorem exists_squareMetres :
    ∃ package, (build squareMetres ["2fa", "m²"]).runLog.1 = .ok package ∧
      (∃ module ∈ package.modules, module.title = "2fa") ∧
      ∃ module ∈ package.modules, module.className = "M²Api" ∧ module.fileName = "m²_api.py" := by
  rcases Option.map_eq_some_iff.mp build_squareMetres with ⟨package, ended, names⟩
  have named : ∀ {entry : String × String × String},
      entry ∈ [("2fa", "_2faApi", "_2fa_api.py"), ("M²", "M²Api", "m²_api.py")] →
      ∃ module ∈ package.modules, (module.title, module.className, module.fileName) = entry := by
    intro entry member
    rw [← names] at member
    exact List.mem_map.mp member
  rcases named List.mem_cons_self with ⟨digit, isDigit, digitNames⟩
  rcases named (List.mem_cons_of_mem _ List.mem_cons_self) with ⟨metres, isMetres, metresNames⟩
  simp only [Prod.mk.injEq] at digitNames metresNames
  exact ⟨package, Outcome.toOption_eq_some_iff.mp ended, ⟨digit, isDigit, digitNames.1⟩, metres,
    isMetres, metresNames.2⟩

theorem module_names_identifiers_iff_digit :
    ∃ package, (build squareMetres ["2fa", "m²"]).runLog.1 = .ok package ∧
      ∃ module ∈ package.modules, module.title = "2fa" ∧ ∃ stem, module.fileName = stem ++ ".py" ∧
        Text.isIdentifier module.className.toList = true ∧
        Text.isIdentifier stem.toList = true := by
  rcases exists_squareMetres with ⟨package, ended, ⟨module, member, isTitle⟩, -⟩
  have inWords : module.title.toList.filter Text.isWord = ['2', 'f', 'a'] := by
    rw [isTitle]
    decide
  have characters : HasIdentifierCharacters module.title := by
    have allContinue : ['2', 'f', 'a'].all Text.identifierContinueTable.has = true := by
      decide
    rw [hasIdentifierCharacters_iff, inWords]
    refine ⟨?_, List.all_eq_true.mp allContinue⟩
    intro first isFirst
    cases isFirst
    exact Or.inl (by decide)
  rcases module_names_identifiers_iff ended member with ⟨stem, isFile, classIff, stemIff, -, -⟩
  exact ⟨package, ended, module, member, isTitle, stem, isFile, classIff.mpr characters,
    stemIff.mpr characters⟩

/-- A resource with a superscript in its name has a module whose names are no identifiers. -/
theorem module_names_no_identifiers :
    ∃ package, (build squareMetres ["2fa", "m²"]).runLog.1 = .ok package ∧
      ∃ module ∈ package.modules, module.className = "M²Api" ∧ module.fileName = "m²_api.py" ∧
        Text.isIdentifier "M²Api".toList = false ∧ Text.isIdentifier "m²_api".toList = false := by
  rcases exists_squareMetres with ⟨package, ended, -, module, member, isClass, isFile⟩
  exact ⟨package, ended, module, member, isClass, isFile, by decide, by decide⟩

end Package
end ApiAccessors
