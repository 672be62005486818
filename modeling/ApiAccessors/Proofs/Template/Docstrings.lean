import ApiAccessors.Proofs.Naming.FreeNumber
import ApiAccessors.Proofs.Template.Layout
import ApiAccessors.Proofs.Text.Docstring

namespace ApiAccessors
namespace Template

/-!
# Docstrings of generated texts

Every generated text is laid out as code with docstrings in it.  Values are shown inside docstrings
as they are.  A docstring ends where it is laid out to end exactly if none of these values ends it:
behind every value stands a character that neither ends a docstring nor escapes anything.
-/

open Text.Docstring

def Part.outside : Part → Option String
  | .code text => some text
  | .docstring _ => none

namespace Layout

/-- The code around the docstrings, each of which leaves a gap. -/
def outside (layout : Layout) : List (Option String) := layout.map Part.outside

/-- Every docstring of a text ends where it is laid out to end. -/
def DocstringsEnd : Layout → Prop
  | [] => True
  | .code _ :: rest => DocstringsEnd rest
  | .docstring inside :: rest =>
      rest? .plain (inside.toList ++ quotes ++ (text rest).toList) = some (text rest).toList ∧
        DocstringsEnd rest

@[simp] theorem docstringsEnd_nil : DocstringsEnd [] ↔ True := Iff.rfl

@[simp] theorem docstringsEnd_code {code : String} {rest : Layout} :
    DocstringsEnd (.code code :: rest) ↔ DocstringsEnd rest :=
  Iff.rfl

@[simp] theorem docstringsEnd_docstring {inside : String} {rest : Layout} :
    DocstringsEnd (.docstring inside :: rest) ↔
      read .plain inside.toList = some .plain ∧ DocstringsEnd rest :=
  and_congr_left' (rest?_quotes_iff _ _)

end Layout

theorem unlines_cons (line : String) (lines : List String) :
    unlines (line :: lines) = line ++ ("\n" ++ unlines lines) := by
  unfold unlines
  rw [List.map_cons, String.join_cons, String.append_assoc]

theorem read_unlines {lines : List String}
    (reads : ∀ line ∈ lines, read .plain line.toList = some .plain) :
    read .plain (unlines lines).toList = some .plain := by
  induction lines with
  | nil => rfl
  | cons line rest ih =>
      rcases List.forall_mem_cons.mp reads with ⟨here, later⟩
      rw [unlines_cons, String.toList_append, String.toList_append, read_plain_append here,
        read_plain_append (read_literal (by decide))]
      exact ih later

theorem resets_unlines {line : String} {lines : List String} (resets : Resets line.toList)
    (reads : ∀ line ∈ lines, read .plain line.toList = some .plain) :
    Resets (unlines (line :: lines)).toList := by
  intro state
  rw [unlines_cons, String.toList_append, String.toList_append, read_append_of_read (resets state),
    read_plain_append (read_literal (by decide))]
  exact read_unlines reads

/-- What the text of a module shows. -/
def textsOf (module : AccessorModule) : ModuleTexts where
  className := module.className
  resources := ", ".intercalate module.resources
  hasManyResources := 1 < module.resources.length
  apiTitle := module.apiTitle.display
  apiVersion := module.apiVersion.display
  operationCount := module.operations.length
  statements := module.operations.map (fun operation =>
    Outcome.value (accessor operation.toValue))
  listings := module.operations.map (fun operation => listing operation.toValue)

theorem mapM_accessor_toValue (operations : List Operation) :
    (operations.map Operation.toValue).mapM accessor =
      .ok (operations.map (fun operation => Outcome.value (accessor operation.toValue))) := by
  have ends : ∀ item ∈ operations.map Operation.toValue,
      accessor item = .ok (Outcome.value (accessor item)) := by
    intro item member
    rcases List.mem_map.mp member with ⟨operation, -, same⟩
    rw [← same]
    exact accessor_toValue operation
  rw [Outcome.mapM_eq_map ends, List.map_map, Function.comp_def]

theorem accessors_eq_layout {module : AccessorModule} (notEmpty : module.operations ≠ [])
    (runtimeImport : Value) :
    accessors runtimeImport module.toValue = .ok ((textsOf module).layout runtimeImport).text := by
  have joined : (Slot.ofField "resources" module.toValue).joined =
      .ok (", ".intercalate module.resources) := by
    change Except.ok (", ".intercalate ((module.resources.map Value.text).map Value.display)) = _
    rw [List.map_map]
    exact congrArg (fun names => Except.ok (", ".intercalate names)) (List.map_id _)
  have resourceCount : (Slot.ofField "resources" module.toValue).size =
      .ok module.resources.length := congrArg Except.ok (List.length_map _)
  have operationCount : (Slot.ofField "methods" module.toValue).size =
      .ok module.operations.length := congrArg Except.ok (List.length_map _)
  have operations : (Slot.ofField "methods" module.toValue).elements =
      .ok (module.operations.map Operation.toValue) := rfl
  have texts : moduleTexts module.toValue = .ok (textsOf module) := by
    unfold moduleTexts textsOf
    simp only [joined, resourceCount, operationCount, operations, Outcome.ok_bind,
      mapM_accessor_toValue, List.map_map]
    rfl
  rw [accessors_toValue notEmpty]
  unfold accessorText
  rw [texts]
  rfl

theorem factory_eq_layout (package : Package) (settings : FactorySettings) :
    factory package.toValue settings =
      .ok (factoryLayout package.apiTitle.display settings).text := rfl

/-- The layout of the contents of a package. -/
def contentsOf (package : Package) : Layout :=
  contentsLayout package.apiTitle.display package.apiVersion.display
    (package.modules.map (fun module => Outcome.value (importLine module.toValue)))
    (package.modules.map (fun module => classLine module.toValue))

/-- The contents can be written if the names of all files have the ending of a module. -/
theorem contents_eq_layout {package : Package}
    (haveStems : ∀ module ∈ package.modules, ∃ stem, module.fileName = stem ++ ".py") :
    contents package.toValue = .ok (contentsOf package).text := by
  have names : namesOf ["self"] package.toValue = .ok package.toValue := rfl
  have units : (Slot.ofField "units" package.toValue).elements =
      .ok (package.modules.map AccessorModule.toValue) := rfl
  have imports : (package.modules.map AccessorModule.toValue).mapM importLine =
      .ok (package.modules.map (fun module => Outcome.value (importLine module.toValue))) := by
    have ends : ∀ item ∈ package.modules.map AccessorModule.toValue,
        importLine item = .ok (Outcome.value (importLine item)) := by
      intro item member
      rcases List.mem_map.mp member with ⟨module, isModule, same⟩
      rcases haveStems module isModule with ⟨stem, isFile⟩
      rw [← same, importLine_toValue isFile, Outcome.value_ok]
    rw [Outcome.mapM_eq_map ends, List.map_map, Function.comp_def]
  unfold contents
  simp only [names, units, imports, Outcome.ok_bind, List.map_map]
  rfl

theorem read_plural (isPlural : Bool) : read .plain (plural isPlural).toList = some .plain := by
  cases isPlural with
  | true => decide
  | false => rfl

theorem read_toString (number : Nat) : read .plain (toString number).toList = some .plain := by
  apply read_eq_plain
  intro c member
  have isDigit := Naming.isAsciiDigit_of_mem_toString member
  constructor
  · rintro rfl
    cases isDigit
  · rintro rfl
    cases isDigit

theorem read_heading_iff {module : AccessorModule}
    (className : read .plain module.className.toList = some .plain) :
    read .plain (textsOf module).heading.toList = some .plain ↔
      (∀ resource ∈ module.resources, IsQuiet resource) ∧
        IsQuiet module.apiTitle.display ∧ IsQuiet module.apiVersion.display := by
  unfold ModuleTexts.heading textsOf
  simp only [String.toList_append, List.append_assoc]
  have ending : ∀ line ∈ [".", ""], read .plain line.toList = some .plain :=
    List.forall_mem_cons.mpr ⟨read_literal (by decide), List.forall_mem_singleton.mpr rfl⟩
  rw [read_plain_append className, read_plain_append (read_literal (by decide)),
    read_intercalate_append_iff (resets_literal (by decide)) (resets_literal (by decide)),
    read_plain_append (read_plural _), read_plain_append (read_unlines ending),
    read_plain_append (read_literal (by decide)),
    read_value_append_iff (resets_literal (by decide)),
    read_value_iff (resets_unlines (resets_literal (by decide)) (List.forall_mem_nil _))]

theorem read_classHeading_iff (module : AccessorModule) :
    read .plain (textsOf module).classHeading.toList = some .plain ↔
      ∀ resource ∈ module.resources, IsQuiet resource := by
  unfold ModuleTexts.classHeading textsOf
  simp only [String.toList_append, List.append_assoc]
  rw [read_plain_append (read_toString _), read_plain_append (read_literal (by decide)),
    read_plain_append (read_plural _), read_plain_append (read_literal (by decide)),
    read_intercalate_iff (resets_literal (by decide)) (resets_literal (by decide))]

theorem read_factoryHeading_iff (title : String) (settings : FactorySettings) :
    read .plain (factoryHeading title settings).toList = some .plain ↔
      IsQuiet title ∧ IsQuiet settings.tokenVariable.display := by
  unfold factoryHeading
  simp only [String.toList_append, List.append_assoc]
  rw [read_plain_append (read_literal (by decide)),
    read_value_append_iff (resets_unlines (resets_literal (by decide)) ?_),
    read_plain_append (read_literal (by decide)),
    read_value_iff (resets_unlines (resets_literal (by decide)) (List.forall_mem_nil _))]
  simp only [List.mem_cons, List.not_mem_nil, or_false, forall_eq_or_imp, forall_eq]
  refine ⟨?_, ?_, ?_, ?_, ?_, ?_⟩
  all_goals exact read_literal (by decide)

theorem read_contentsHeading_iff (title version : String) :
    read .plain (contentsHeading title version).toList = some .plain ↔
      IsQuiet title ∧ IsQuiet version := by
  unfold contentsHeading
  simp only [String.toList_append, List.append_assoc]
  rw [read_plain_append (read_literal (by decide)),
    read_value_append_iff (resets_literal (by decide)), read_value_iff (resets_literal (by decide))]

theorem docstringsEnd_layout_iff {module : AccessorModule}
    (className : read .plain module.className.toList = some .plain) (runtimeImport : Value) :
    ((textsOf module).layout runtimeImport).DocstringsEnd ↔
      (∀ resource ∈ module.resources, IsQuiet resource) ∧
        IsQuiet module.apiTitle.display ∧ IsQuiet module.apiVersion.display := by
  have names : read .plain "Names of every accessor, in generation order.".toList =
      some .plain := read_literal (by decide)
  simp only [ModuleTexts.layout, Layout.docstringsEnd_docstring, Layout.docstringsEnd_code,
    Layout.docstringsEnd_nil, read_heading_iff className, read_classHeading_iff, names,
    and_true]
  exact and_iff_left_of_imp (fun quiet => quiet.1)

theorem docstringsEnd_factoryLayout_iff (title : String) (settings : FactorySettings) :
    (factoryLayout title settings).DocstringsEnd ↔
      IsQuiet title ∧ IsQuiet settings.tokenVariable.display := by
  have defaults : read .plain
      "Return a new ApiClient configured with the generation-time defaults.".toList =
        some .plain := read_literal (by decide)
  simp only [factoryLayout, Layout.docstringsEnd_docstring, Layout.docstringsEnd_code,
    Layout.docstringsEnd_nil, read_factoryHeading_iff, defaults, and_true]

theorem docstringsEnd_contentsLayout_iff (title version : String) (imports classes : List String) :
    (contentsLayout title version imports classes).DocstringsEnd ↔
      IsQuiet title ∧ IsQuiet version := by
  simp only [contentsLayout, Layout.docstringsEnd_docstring, Layout.docstringsEnd_code,
    Layout.docstringsEnd_nil, read_contentsHeading_iff, and_true]

end Template
end ApiAccessors
