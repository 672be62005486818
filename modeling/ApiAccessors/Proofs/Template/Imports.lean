import ApiAccessors.Proofs.Template.Layout
import ApiAccessors.Proofs.Text.Normal

namespace ApiAccessors
namespace Template

/-!
# What the contents import

An import line names a module and a class by identifiers.  A name is looked up in its normal form,
and for some identifiers this is another text.  A class is also made under the normal form of its
name, so the line finds it; but the name of a file is taken as it is.  So the contents get the
classes of the modules from their files just if all names are identifiers and those of the files are
in normal form.
-/

/-- A line imports a class from a module beside it. -/
inductive Imports (line : String) : String → String → Prop
  | intro {stem className : String} (isStem : Text.isAttributeName stem = true)
      (isClass : Text.isAttributeName className = true)
      (isLine : line = "from ." ++ stem ++ " import " ++ className ++ "\n") :
      Imports line (Text.lookedUp stem) (Text.lookedUp className)

/-- The lines import the class of each module, in order, from the file of the module. -/
def ImportModules (modules : List AccessorModule) (lines : List String) : Prop :=
  List.Forall₂ (fun module line => ∃ stem, module.fileName = stem ++ ".py" ∧
    Imports line stem (Text.lookedUp module.className)) modules lines

/-- The names of a module are identifiers, and the one of its file is in normal form. -/
def IsImportable (module : AccessorModule) : Prop :=
  ∃ stem, module.fileName = stem ++ ".py" ∧ Text.isAttributeName stem = true ∧
    Text.isAttributeName module.className = true ∧ Text.lookedUp stem = stem

theorem space_not_mem_of_isAttributeName {name : String}
    (isName : Text.isAttributeName name = true) : ' ' ∉ name.toList := by
  intro member
  have isWhole := (Bool.and_eq_true_iff.mp isName).1
  cases isText : name.toList with
  | nil =>
      rw [isText] at member
      cases member
  | cons first rest =>
      rw [isText, Text.isIdentifier, Bool.and_eq_true, List.all_eq_true] at isWhole
      rw [isText] at member
      rcases List.mem_cons.mp member with rfl | member
      · exact absurd isWhole.1 (by decide)
      · exact absurd (isWhole.2 _ member) (by decide)

/-- Two texts around a word between spaces are found again, if they have no spaces themselves. -/
theorem eq_of_append_word_eq {before after other more word : List Char}
    (plainBefore : ' ' ∉ before) (plainAfter : ' ' ∉ after)
    (same : before ++ (' ' :: word ++ ' ' :: after) = other ++ (' ' :: word ++ ' ' :: more)) :
    other = before ∧ more = after := by
  have counts := congrArg (List.count ' ') same
  simp only [List.count_append, List.count_cons_self, List.cons_append,
    List.count_eq_zero_of_not_mem plainBefore, List.count_eq_zero_of_not_mem plainAfter] at counts
  have plainOther : ' ' ∉ other := List.count_eq_zero.mp (by omega)
  have upTo {text behind : List Char} (plain : ' ' ∉ text) :
      (text ++ ' ' :: behind).takeWhile (· != ' ') = text := by
    have isPlain : ∀ c ∈ text, (c != ' ') = true := fun c member =>
      bne_iff_ne.mpr (fun isSpace => plain (isSpace ▸ member))
    rw [List.takeWhile_append_of_pos isPlain, List.takeWhile_cons_of_neg (by simp),
      List.append_nil]
  have starts := congrArg (List.takeWhile (· != ' ')) same
  rw [List.cons_append, List.cons_append, upTo plainBefore, upTo plainOther] at starts
  rw [starts] at same
  have behind := List.append_cancel_left (List.append_cancel_left same)
  exact ⟨starts.symm, (List.cons_eq_cons.mp behind).2.symm⟩

/-- A line that imports something was written for the names that it imports. -/
theorem eq_of_import_line_eq {stem className otherStem otherClass : String}
    (isStem : Text.isAttributeName stem = true) (isClass : Text.isAttributeName className = true)
    (same : "from ." ++ stem ++ " import " ++ className ++ "\n" =
      "from ." ++ otherStem ++ " import " ++ otherClass ++ "\n") :
    otherStem = stem ∧ otherClass = className := by
  have lists := congrArg String.toList same
  simp only [String.toList_append, List.append_assoc] at lists
  have inner := List.append_cancel_left lists
  have cut (first second : List Char) :
      first ++ (" import ".toList ++ (second ++ "\n".toList)) =
        (first ++ (' ' :: "import".toList ++ ' ' :: second)) ++ "\n".toList := by
    simp
  rw [cut, cut] at inner
  rcases eq_of_append_word_eq (space_not_mem_of_isAttributeName isStem)
    (space_not_mem_of_isAttributeName isClass) (List.append_cancel_right inner) with
    ⟨sameStem, sameClass⟩
  exact ⟨String.toList_inj.mp sameStem, String.toList_inj.mp sameClass⟩

/-- The line for a module imports its class from its file just if the names of both allow it. -/
theorem imports_of_isImport_iff {module : AccessorModule} {line : String}
    (isLine : IsImport module line) :
    (∃ stem, module.fileName = stem ++ ".py" ∧ Imports line stem (Text.lookedUp module.className)) ↔
      IsImportable module := by
  rcases isLine with ⟨written, isFile, rfl⟩
  constructor
  · rintro ⟨stem, isStem, imports⟩
    generalize isClass : Text.lookedUp module.className = found at imports
    cases imports with
    | intro isName isClassName same =>
        rcases eq_of_import_line_eq isName isClassName same.symm with ⟨rfl, rfl⟩
        refine ⟨written, isFile, isName, isClassName, ?_⟩
        exact (String.append_left_inj _).mp (isStem.symm.trans isFile)
  · rintro ⟨stem, isStem, isName, isClassName, isNormal⟩
    have same : written = stem := (String.append_left_inj _).mp (isFile.symm.trans isStem)
    rw [same]
    refine ⟨stem, isStem, ?_⟩
    have imports := Imports.intro isName isClassName rfl
    rwa [isNormal] at imports

theorem importModules_iff {modules : List AccessorModule} {lines : List String}
    (areLines : List.Forall₂ IsImport modules lines) :
    ImportModules modules lines ↔ ∀ module ∈ modules, IsImportable module := by
  induction areLines with
  | nil => exact iff_of_true .nil (List.forall_mem_nil _)
  | cons isLine _ ih =>
      rw [ImportModules, List.forall₂_cons, List.forall_mem_cons, imports_of_isImport_iff isLine]
      exact and_congr_right' ih

end Template
end ApiAccessors
