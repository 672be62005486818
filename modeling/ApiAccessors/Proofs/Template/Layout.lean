import ApiAccessors.Api.Package
import ApiAccessors.Proofs.Document.Shape
import ApiAccessors.Proofs.Outcome
import ApiAccessors.Template.Accessors
import ApiAccessors.Template.Contents
import ApiAccessors.Template.Factory

namespace ApiAccessors
namespace Template

/-!
# Layout of generated texts

The text of an accessor module has a part that depends on single operations: the statements that set
the accessors, and the list of their names.  Before it come lines that show the names of the module,
one of which begins the class.  The text of the contents has one import line for each module.
-/

theorem unlines_append (lines more : List String) :
    unlines (lines ++ more) = unlines lines ++ unlines more := by
  unfold unlines
  rw [List.map_append, String.join_append]

/-- What stands in a module between the statements and the list of names. -/
def listingHead : String :=
  unlines ["", "    @property", "    def operations(self) -> tuple[str, ...]:"] ++ "        " ++
    (Part.docstring "Names of every accessor, in generation order.").text ++
    unlines ["", "        return ("]

def operationPart (statements : List String) (operations : List Value) : String :=
  String.join statements ++ listingHead ++ String.join (operations.map listing) ++
    unlines ["        )"]

/-- The lines with which the class of a module begins, and the one before the statements. -/
def classLines (className : String) : String := unlines ["", "class " ++ className ++ ":"]

def clientLine : String := unlines ["        self.client = client"]

theorem ModuleTexts.text_layout (runtimeImport : Value) (texts : ModuleTexts) :
    ∃ front middle, (texts.layout runtimeImport).text =
      front ++ classLines texts.className ++ middle ++ clientLine ++
        (String.join texts.statements ++ listingHead ++ String.join texts.listings ++
          unlines ["        )"]) := by
  have cutClass : ∃ imports, unlines ["", "", "from __future__ import annotations", "",
      "from " ++ runtimeImport.display ++ " import ApiClient", "", "",
      "class " ++ texts.className ++ ":"] = imports ++ classLines texts.className :=
    ⟨_, unlines_append [_, _, _, _, _, _] _⟩
  have cutClient : ∃ opening, unlines ["", "", "    def __init__(self, client: ApiClient) -> None:",
      "        self.client = client"] = opening ++ clientLine := ⟨_, unlines_append [_, _, _] _⟩
  rcases cutClass with ⟨imports, cutClass⟩
  rcases cutClient with ⟨opening, cutClient⟩
  refine ⟨(Part.docstring texts.heading).text ++ imports,
    "    " ++ (Part.docstring texts.classHeading).text ++ opening, ?_⟩
  unfold ModuleTexts.layout Layout.text listingHead
  simp only [List.map_cons, List.map_nil, String.join_cons, String.join_nil, Part.text]
  rw [cutClass, cutClient]
  simp only [String.append_assoc, String.append_empty]

theorem moduleTexts_eq_ok {names : Value} {texts : ModuleTexts}
    (ended : moduleTexts names = .ok texts) :
    ∃ operations, (Slot.ofField "methods" names).elements = .ok operations ∧
      operations.mapM accessor = .ok texts.statements ∧
      texts.className = (Slot.ofField "class_name" names).print ∧
      texts.listings = operations.map listing := by
  rcases Outcome.bind_eq_ok_iff.mp ended with ⟨resources, -, ended⟩
  rcases Outcome.bind_eq_ok_iff.mp ended with ⟨resourceCount, -, ended⟩
  rcases Outcome.bind_eq_ok_iff.mp ended with ⟨operationCount, -, ended⟩
  rcases Outcome.bind_eq_ok_iff.mp ended with ⟨operations, areElements, ended⟩
  rcases Outcome.bind_eq_ok_iff.mp ended with ⟨statements, areStatements, same⟩
  cases same
  exact ⟨operations, areElements, areStatements, rfl, rfl⟩

/-- A module begins with lines that do not depend on single operations; one of them begins its
class. -/
theorem accessorText_eq {runtimeImport names : Value} {text : String}
    (ended : accessorText runtimeImport names = .ok text) :
    ∃ front middle operations statements,
      (Slot.ofField "methods" names).elements = .ok operations ∧
      operations.mapM accessor = .ok statements ∧
      text = front ++ classLines (Slot.ofField "class_name" names).print ++ middle ++ clientLine ++
        operationPart statements operations := by
  rcases Outcome.bind_eq_ok_iff.mp ended with ⟨texts, areTexts, same⟩
  rcases moduleTexts_eq_ok areTexts with ⟨operations, areElements, areStatements, isClass, listed⟩
  rcases texts.text_layout runtimeImport with ⟨front, middle, isText⟩
  rw [isClass, listed] at isText
  exact ⟨front, middle, operations, _, areElements, areStatements,
    (Except.ok.inj same).symm.trans isText⟩

section

variable {unit : Value} {items : List Value}

/-- A field that is a list stands among the entries of a record. -/
theorem exists_entries_of_field {name : String} (isField : unit.field name = .ok (.list items)) :
    ∃ entries, unit.entries? = some entries ∧ Entries.field? entries name = some (.list items) := by
  unfold Value.field Value.field? at isField
  cases areEntries : unit.entries? with
  | none =>
      rw [areEntries] at isField
      cases isField
  | some entries =>
      rw [areEntries] at isField
      have given := Except.ok.inj isField
      refine ⟨entries, rfl, ?_⟩
      cases found : Entries.field? entries name with
      | none =>
          rw [found] at given
          cases given
      | some value =>
          rw [found] at given
          exact congrArg some given

theorem elements_of_field {name : String} (isField : unit.field name = .ok (.list items)) :
    (Slot.ofField name unit).elements = .ok items := by
  rcases exists_entries_of_field isField with ⟨entries, areEntries, found⟩
  unfold Slot.ofField
  rw [areEntries]
  simp only [found]
  rfl

/-- A unit with operations has a text if its fields can be the names of one. -/
theorem accessors_eq_accessorText {runtimeImport : Value}
    (isField : unit.field "methods" = .ok (.list items)) (notEmpty : items ≠ []) :
    accessors runtimeImport unit =
      (do accessorText runtimeImport (← namesOf ["self", "runtime_import"] unit)) := by
  rcases exists_entries_of_field isField with ⟨entries, areEntries, found⟩
  have listed : (Value.list items).truthy = true := by
    cases items with
    | nil => exact False.elim (notEmpty rfl)
    | cons first rest => rfl
  have notNil : entries ≠ [] := by
    rintro rfl
    cases found
  unfold accessors
  rw [Value.truthy_of_entries? areEntries notNil, if_neg (by exact Bool.false_ne_true), isField]
  change (if (Value.list items).truthy then _ else _) = _
  rw [if_pos listed]

end

/-- The text of a module with operations is made from its record. -/
theorem accessors_toValue {module : AccessorModule} (notEmpty : module.operations ≠ [])
    (runtimeImport : Value) :
    accessors runtimeImport module.toValue = accessorText runtimeImport module.toValue := by
  have isField : module.toValue.field "methods" =
      .ok (.list (module.operations.map Operation.toValue)) := rfl
  rw [accessors_eq_accessorText isField (by simpa using notEmpty)]
  rfl

/-- A module with operations defines the class with its name. -/
theorem exists_classLines {module : AccessorModule} (notEmpty : module.operations ≠ [])
    {runtimeImport : Value} {text : String}
    (ended : accessors runtimeImport module.toValue = .ok text) :
    ∃ before behind, text = before ++ classLines module.className ++ behind := by
  rw [accessors_toValue notEmpty] at ended
  rcases accessorText_eq ended with ⟨front, middle, operations, statements, -, -, same⟩
  refine ⟨front, middle ++ clientLine ++ operationPart statements operations, ?_⟩
  rw [same]
  simp only [String.append_assoc]
  rfl

/-- The statement for an operation of a package is made, as its name is a text. -/
theorem accessor_toValue (operation : Operation) :
    accessor operation.toValue = .ok (Outcome.value (accessor operation.toValue)) := rfl

/-- Elements that can be gone through can be counted. -/
theorem exists_size_of_elements {slot : Slot} {values : List Value}
    (listed : slot.elements = .ok values) : ∃ count, slot.size = .ok count := by
  cases slot with
  | none => exact ⟨0, rfl⟩
  | some value =>
      simp only [Slot.elements, Slot.size, Value.elements, Value.size] at listed ⊢
      cases isForm : value.unfolded
      all_goals rw [isForm] at listed
      all_goals first
        | exact ⟨_, rfl⟩
        | cases listed

/-- A text is made for a record as soon as its statements are made and its resources can be
listed. -/
theorem exists_accessorText {names : Value} {items resources : List Value}
    {statements : List String} (runtimeImport : Value)
    (areItems : (Slot.ofField "methods" names).elements = .ok items)
    (areStatements : items.mapM accessor = .ok statements)
    (listed : (Slot.ofField "resources" names).elements = .ok resources) :
    ∃ text, accessorText runtimeImport names = .ok text := by
  rcases exists_size_of_elements areItems with ⟨operationCount, operationsCounted⟩
  rcases exists_size_of_elements listed with ⟨resourceCount, resourcesCounted⟩
  have joined : (Slot.ofField "resources" names).joined =
      .ok (", ".intercalate (resources.map Value.display)) := by
    rw [Slot.joined, listed]
    rfl
  unfold accessorText moduleTexts
  simp only [joined, resourcesCounted, operationsCounted, areItems, Outcome.ok_bind,
    areStatements]
  exact ⟨_, rfl⟩

theorem exists_accessors {module : AccessorModule} (notEmpty : module.operations ≠ [])
    (runtimeImport : Value) : ∃ text, accessors runtimeImport module.toValue = .ok text := by
  have ends : ∀ item ∈ module.operations.map Operation.toValue,
      accessor item = .ok (Outcome.value (accessor item)) := by
    intro item member
    rcases List.mem_map.mp member with ⟨operation, -, same⟩
    rw [← same]
    exact accessor_toValue operation
  rcases Outcome.exists_mapM ends with ⟨statements, areStatements⟩
  have listed : (Slot.ofField "resources" module.toValue).elements =
      .ok (module.resources.map Value.text) := rfl
  rw [accessors_toValue notEmpty]
  exact exists_accessorText runtimeImport rfl areStatements listed

theorem isEmpty_of_accessors {module : AccessorModule} (notEmpty : module.operations ≠ [])
    {runtimeImport : Value} {text : String}
    (ended : accessors runtimeImport module.toValue = .ok text) : text.isEmpty = false := by
  rcases exists_classLines notEmpty ended with ⟨before, behind, same⟩
  rw [Bool.eq_false_iff]
  intro isEmpty
  rw [String.isEmpty_iff.mp isEmpty] at same
  have newline : '\n' ∈ (classLines module.className).toList := by
    simp only [classLines, unlines, List.map_cons, String.join_cons, String.toList_append,
      List.mem_append]
    exact Or.inl (Or.inr (by decide))
  have nowhere : '\n' ∈ "".toList := by
    rw [same, String.toList_append, String.toList_append]
    exact List.mem_append_left _ (List.mem_append_right _ newline)
  cases nowhere

/-- The line that imports the class of a module from its file. -/
def IsImport (module : AccessorModule) (line : String) : Prop :=
  ∃ stem, module.fileName = stem ++ ".py" ∧
    line = "from ." ++ stem ++ " import " ++ module.className ++ "\n"

/-- A text has an import line for each module of a package, and then the name of each class. -/
structure HasImportLines (package : Package) (imports : List String) (text : String) : Prop where
  areImports : List.Forall₂ IsImport package.modules imports
  text_eq : text = (contentsLayout package.apiTitle.display package.apiVersion.display imports
    (package.modules.map (fun module =>
      "    " ++ (Value.text module.className).quoted ++ ",\n"))).text

theorem importLine_toValue {module : AccessorModule} {stem : String}
    (isFile : module.fileName = stem ++ ".py") :
    importLine module.toValue =
      .ok ("from ." ++ stem ++ " import " ++ module.className ++ "\n") := by
  have field : Slot.ofField "file_name" module.toValue = some (.text (stem ++ ".py")) :=
    congrArg (fun name => some (Value.text name)) isFile
  have length : (stem ++ ".py").length - 3 = stem.toList.length := by
    rw [String.length_append, String.length_toList]
    exact Nat.add_sub_cancel _ 3
  unfold importLine
  rw [field, Slot.dropLast, length, String.toList_append, List.take_left, String.ofList_toList]
  rfl

/-- The contents can be written if the names of all files have the ending of a module. -/
theorem exists_contents {package : Package}
    (haveStems : ∀ module ∈ package.modules, ∃ stem, module.fileName = stem ++ ".py") :
    ∃ text, contents package.toValue = .ok text := by
  have ends : ∀ item ∈ package.modules.map AccessorModule.toValue,
      importLine item = .ok (Outcome.value (importLine item)) := by
    intro item member
    rcases List.mem_map.mp member with ⟨module, isModule, same⟩
    rcases haveStems module isModule with ⟨stem, isFile⟩
    rw [← same, importLine_toValue isFile, Outcome.value_ok]
  rcases Outcome.exists_mapM ends with ⟨imports, areImports⟩
  have names : namesOf ["self"] package.toValue = .ok package.toValue := rfl
  have units : (Slot.ofField "units" package.toValue).elements =
      .ok (package.modules.map AccessorModule.toValue) := rfl
  unfold contents
  simp only [names, units, areImports, Outcome.ok_bind]
  exact ⟨_, rfl⟩

theorem exists_importLines_of_contents {package : Package} {text : String}
    (haveStems : ∀ module ∈ package.modules, ∃ stem, module.fileName = stem ++ ".py")
    (ended : contents package.toValue = .ok text) :
    ∃ imports, HasImportLines package imports text := by
  rcases Outcome.bind_eq_ok_iff.mp ended with ⟨names, areNames, ended⟩
  cases areNames
  rcases Outcome.bind_eq_ok_iff.mp ended with ⟨units, areUnits, ended⟩
  cases areUnits
  rcases Outcome.bind_eq_ok_iff.mp ended with ⟨imports, areImports, same⟩
  rcases Outcome.mapM_eq_ok_iff.mp areImports with ⟨-, areLines⟩
  refine ⟨imports, ?_, ?_⟩
  · rw [areLines, List.map_map, List.forall₂_map_right_iff, List.forall₂_same]
    intro module member
    rcases haveStems module member with ⟨stem, isFile⟩
    refine ⟨stem, isFile, ?_⟩
    rw [Function.comp_apply, importLine_toValue isFile, Outcome.value_ok]
  · have isText := Except.ok.inj same
    rw [List.map_map] at isText
    exact isText.symm

theorem exists_factory (package : Package) (settings : FactorySettings) :
    ∃ text, factory package.toValue settings = .ok text := by
  have title : package.toValue.entry "api_title" = .ok package.apiTitle := rfl
  unfold factory
  rw [title, Outcome.ok_bind]
  exact ⟨_, rfl⟩

end Template
end ApiAccessors
