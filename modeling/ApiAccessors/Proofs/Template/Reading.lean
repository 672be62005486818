import ApiAccessors.Proofs.Template.Layout
import ApiAccessors.Proofs.Text.IdentifierChars
import ApiAccessors.Proofs.Text.Literal

namespace ApiAccessors
namespace Template

/-!
# Reading accessor modules

A reader of the part of an accessor module that depends on its operations.  It knows the lines that
stand there, reads literals by the rules of the generated language, and takes a name behind a point
only if it is one whole identifier and no reserved word.  Whatever characters the names, the paths
and the other texts of the operations have, the reader gives all operations back in their order.
-/

/-- What a statement says: the name of an accessor, and what it is made from. -/
structure AccessorRecord where
  name : String
  path : String
  method : String
  contentType : String
deriving DecidableEq

/-- Take a text away from the beginning of the input. -/
def expect (text : String) (input : List Char) : Option (List Char) :=
  text.toList.isPrefixOf? input

/-- A line with one named argument, whose value is a literal. -/
def readArgument (keyword : String) (input : List Char) : Option (String × List Char) := do
  let rest ← expect ("            " ++ keyword ++ "=") input
  let (value, rest) ← Text.Literal.read rest
  let rest ← expect ",\n" rest
  some (String.ofList value, rest)

/-- The arguments of a statement for the accessor of a name, and the line that closes it. -/
def readArguments (name closing : String) (input : List Char) :
    Option (AccessorRecord × List Char) := do
  let (path, rest) ← readArgument "path" input
  let (method, rest) ← readArgument "method" rest
  let (contentType, rest) ← readArgument "content_type" rest
  let rest ← expect closing rest
  some (⟨name, path, method, contentType⟩, rest)

/-- A statement that sets an attribute by its name, which goes as far as an identifier can. -/
def readDirect (input : List Char) : Option (AccessorRecord × List Char) := do
  let rest ← expect "        self." input
  let name := String.ofList (rest.takeWhile Text.identifierContinueTable.has)
  if Text.isAttributeName name then
    let rest ← expect " = client.create_api_method(\n"
      (rest.dropWhile Text.identifierContinueTable.has)
    readArguments name "        )\n" rest
  else none

/-- A statement that sets an attribute by a call. -/
def readCall (input : List Char) : Option (AccessorRecord × List Char) := do
  let rest ← expect "        setattr(self, " input
  let (name, rest) ← Text.Literal.read rest
  let rest ← expect ", client.create_api_method(\n" rest
  readArguments (String.ofList name) "        ))\n" rest

def readStatement (input : List Char) : Option (AccessorRecord × List Char) :=
  (readDirect input).or (readCall input)

/-- A line of the list of names. -/
def readName (input : List Char) : Option (String × List Char) := do
  let rest ← expect "            " input
  let (name, rest) ← Text.Literal.read rest
  let rest ← expect ",\n" rest
  some (String.ofList name, rest)

/-- The statements, and the names in the list behind them, which ends the text. -/
def readOperations (input : List Char) : Option (List AccessorRecord × List String) := do
  let (records, rest) := Text.readMany readStatement input
  let rest ← expect ("\n    @property\n    def operations(self) -> tuple[str, ...]:\n" ++
    "        \"\"\"Names of every accessor, in generation order.\"\"\"\n        return (\n") rest
  let (names, rest) := Text.readMany readName rest
  let rest ← expect "        )\n" rest
  if rest.isEmpty then some (records, names) else none

/-- A value is a record of an operation, all of whose fields are texts. -/
structure Describes (operation : Value) (record : AccessorRecord) : Prop where
  name : Slot.ofField "name" operation = some (.text record.name)
  path : Slot.ofField "path" operation = some (.text record.path)
  method : Slot.ofField "method" operation = some (.text record.method)
  contentType : Slot.ofField "content_type" operation = some (.text record.contentType)

def argumentLine (keyword value : String) : String :=
  "            " ++ keyword ++ "=" ++ quoteText value ++ ",\n"

def argumentLines (record : AccessorRecord) : String :=
  argumentLine "path" record.path ++ argumentLine "method" record.method ++
    argumentLine "content_type" record.contentType

def statement (record : AccessorRecord) : String :=
  if Text.isAttributeName record.name then
    "        self." ++ record.name ++ " = client.create_api_method(\n" ++
      argumentLines record ++ "        )\n"
  else
    "        setattr(self, " ++ quoteText record.name ++ ", client.create_api_method(\n" ++
      argumentLines record ++ "        ))\n"

def nameLine (record : AccessorRecord) : String :=
  "            " ++ quoteText record.name ++ ",\n"

section

variable {operation : Value} {record : AccessorRecord}

theorem accessor_eq_statement (describes : Describes operation record) :
    accessor operation = .ok (statement record) := by
  unfold accessor
  rw [describes.name, describes.path, describes.method, describes.contentType]
  have quoted : ∀ value : String, (Value.text value).quoted = quoteText value := fun _ => rfl
  have display : (Value.text record.name).display = record.name := rfl
  apply congrArg Except.ok
  unfold statement
  rw [← String.toList_inj]
  cases Text.isAttributeName record.name with
  | true =>
      simp [unlines, argumentLines, argumentLine, Slot.print, Slot.quoted, quoted, display]
  | false =>
      simp [unlines, argumentLines, argumentLine, Slot.quoted, quoted]

theorem listing_eq_nameLine (describes : Describes operation record) :
    listing operation = nameLine record := by
  unfold listing
  rw [describes.name]
  rfl

end

theorem expect_append (text : String) (rest : List Char) :
    expect text (text.toList ++ rest) = some rest :=
  List.isPrefixOf?_eq_some_iff_append_eq.mpr rfl

theorem expect_cons_eq_none {text : String} {first c : Char} {more : List Char}
    (begins : text.toList = first :: more) (different : (first == c) = false) (rest : List Char) :
    expect text (c :: rest) = none := by
  rw [expect, begins, List.isPrefixOf?, different]
  rfl

theorem read_quoteText (value : String) {rest : List Char} (apart : rest.head? ≠ some '\'') :
    Text.Literal.read ((quoteText value).toList ++ rest) = some (value.toList, rest) := by
  rw [quoteText, String.toList_ofList]
  exact Text.Literal.read_encode value.toList apart

theorem readArgument_argumentLine (keyword value : String) (rest : List Char) :
    readArgument keyword ((argumentLine keyword value).toList ++ rest) = some (value, rest) := by
  have apart : (",\n".toList ++ rest).head? ≠ some '\'' := by
    intro same
    cases same
  unfold readArgument argumentLine
  rw [String.toList_append, String.toList_append, List.append_assoc, List.append_assoc,
    expect_append]
  simp only [Option.bind_eq_bind, Option.bind_some, read_quoteText value apart, expect_append,
    String.ofList_toList]

theorem readArguments_argumentLines (record : AccessorRecord) (closing : String)
    (rest : List Char) :
    readArguments record.name closing
        ((argumentLines record).toList ++ (closing.toList ++ rest)) = some (record, rest) := by
  unfold readArguments argumentLines
  simp only [String.toList_append, List.append_assoc, readArgument_argumentLine,
    Option.bind_eq_bind, Option.bind_some, expect_append]

/-- A name that can stand behind a point is read up to the blank behind it. -/
theorem takeWhile_attributeName {name : String} (isName : Text.isAttributeName name = true)
    (rest : List Char) :
    (name.toList ++ ' ' :: rest).takeWhile Text.identifierContinueTable.has = name.toList ∧
      (name.toList ++ ' ' :: rest).dropWhile Text.identifierContinueTable.has = ' ' :: rest := by
  have blank : Text.identifierContinueTable.has ' ' = false := by decide
  have isIdentifier := (Bool.and_eq_true_iff.mp isName).1
  have continues := (Text.OpensIdentifier.of_isIdentifier isIdentifier).continues
  rw [List.takeWhile_append_of_pos continues, List.dropWhile_append_of_pos continues,
    List.takeWhile_cons, List.dropWhile_cons, blank]
  exact ⟨List.append_nil _, rfl⟩

theorem readDirect_statement {record : AccessorRecord}
    (isName : Text.isAttributeName record.name = true) (rest : List Char) :
    readDirect ((statement record).toList ++ rest) = some (record, rest) := by
  have assignment : ∀ later : List Char, " = client.create_api_method(\n".toList ++ later =
      ' ' :: ("= client.create_api_method(\n".toList ++ later) := fun _ => rfl
  unfold readDirect statement
  rw [isName, if_pos rfl]
  simp only [String.toList_append, List.append_assoc, expect_append, Option.bind_eq_bind,
    Option.bind_some]
  rw [assignment, (takeWhile_attributeName isName _).1, (takeWhile_attributeName isName _).2,
    ← assignment, String.ofList_toList, if_pos isName]
  simp only [expect_append, Option.bind_some, readArguments_argumentLines]

theorem readCall_statement {record : AccessorRecord}
    (isName : Text.isAttributeName record.name = false) (rest : List Char) :
    readCall ((statement record).toList ++ rest) = some (record, rest) := by
  have apart : ∀ later : List Char,
      (", client.create_api_method(\n".toList ++ later).head? ≠ some '\'' := by
    intro later same
    cases same
  unfold readCall statement
  rw [isName, if_neg Bool.false_ne_true]
  simp only [String.toList_append, List.append_assoc, expect_append, Option.bind_eq_bind,
    Option.bind_some, read_quoteText record.name (apart _), String.ofList_toList,
    readArguments_argumentLines]

/-- The statement for a record is read as the record. -/
theorem readStatement_statement (record : AccessorRecord) (rest : List Char) :
    readStatement ((statement record).toList ++ rest) = some (record, rest) := by
  unfold readStatement
  cases isName : Text.isAttributeName record.name with
  | true => rw [readDirect_statement isName, Option.some_or]
  | false =>
      have notDirect : readDirect ((statement record).toList ++ rest) = none := by
        unfold readDirect statement
        rw [isName, if_neg Bool.false_ne_true]
        simp only [String.toList_append, List.append_assoc]
        rfl
      rw [notDirect, Option.none_or, readCall_statement isName]

theorem readName_nameLine (record : AccessorRecord) (rest : List Char) :
    readName ((nameLine record).toList ++ rest) = some (record.name, rest) := by
  have apart : (",\n".toList ++ rest).head? ≠ some '\'' := by
    intro same
    cases same
  unfold readName nameLine
  simp only [String.toList_append, List.append_assoc, expect_append, Option.bind_eq_bind,
    Option.bind_some, read_quoteText record.name apart, String.ofList_toList]

/-- The lines between the statements and the list of names. -/
private def between : String :=
  "\n    @property\n    def operations(self) -> tuple[str, ...]:\n" ++
    "        \"\"\"Names of every accessor, in generation order.\"\"\"\n        return (\n"

private theorem listingHead_eq : listingHead = between := by
  decide

private theorem readStatement_between (rest : List Char) :
    readStatement (between.toList ++ rest) = none := by
  have begins : between.toList = '\n' :: between.toList.tail := by decide +kernel
  have notDirect : ∀ rest, expect "        self." ('\n' :: rest) = none :=
    expect_cons_eq_none rfl rfl
  have notCall : ∀ rest, expect "        setattr(self, " ('\n' :: rest) = none :=
    expect_cons_eq_none rfl rfl
  rw [begins, List.cons_append]
  simp only [readStatement, readDirect, readCall, notDirect, notCall, Option.bind_eq_bind,
    Option.bind_none, Option.or_none]

theorem readName_closing (rest : List Char) : readName ("        )\n".toList ++ rest) = none := by
  rfl

section

variable {operations : List Value} {records : List AccessorRecord}

theorem mapM_accessor (describe : List.Forall₂ Describes operations records) :
    operations.mapM accessor = .ok (records.map statement) := by
  induction describe with
  | nil => rfl
  | cons first _ ih =>
      rw [List.mapM_cons, accessor_eq_statement first, ih]
      rfl

theorem map_listing (describe : List.Forall₂ Describes operations records) :
    operations.map listing = records.map nameLine := by
  induction describe with
  | nil => rfl
  | cons first _ ih => rw [List.map_cons, listing_eq_nameLine first, ih, List.map_cons]

/-- The part of a module that depends on its operations is read as their records. -/
theorem readOperations_operationPart (describe : List.Forall₂ Describes operations records) :
    readOperations (operationPart (records.map statement) operations).toList =
      some (records, records.map (·.name)) := by
  have written : (operationPart (records.map statement) operations).toList =
      records.flatMap (fun record => (statement record).toList) ++ (between.toList ++
        (records.flatMap (fun record => (nameLine record).toList) ++
          ("        )\n".toList ++ []))) := by
    unfold operationPart
    rw [listingHead_eq, map_listing describe]
    simp only [String.toList_append, String.toList_join, List.flatMap_map, List.append_assoc]
    rfl
  have statements := Text.readMany_eq readStatement_statement rfl
    (readStatement_between (records.flatMap (fun record => (nameLine record).toList) ++
      ("        )\n".toList ++ []))) records
  have names := Text.readMany_eq readName_nameLine rfl (readName_closing []) records
  have lines : "\n    @property\n    def operations(self) -> tuple[str, ...]:\n" ++
    "        \"\"\"Names of every accessor, in generation order.\"\"\"\n        return (\n" =
      between := rfl
  unfold readOperations
  rw [written, lines, statements]
  simp only [expect_append, Option.bind_eq_bind, Option.bind_some, names, List.map_id']
  rfl

end

theorem ne_nil_of_describe {items : List Value} {records : List AccessorRecord}
    (describe : List.Forall₂ Describes items records) (notEmpty : records ≠ []) : items ≠ [] := by
  intro empty
  rw [empty] at describe
  cases describe
  exact notEmpty rfl

/-- The names of a text are given by the record itself. -/
theorem eq_of_namesOf {taken : List String} {unit names : Value}
    (areNames : namesOf taken unit = .ok names) : names = unit := by
  unfold namesOf at areNames
  split at areNames
  · split at areNames
    · exact (Except.ok.inj areNames).symm
    · cases areNames
  · cases areNames

/-- A module is read back.  The text behind the line that keeps the client gives the records of all
operations in their order, and then their names, for any texts as names, paths, methods and types.
A unit has a text as soon as its other fields can be shown. -/
theorem accessors_read_back :
    (∀ (runtimeImport unit : Value) (items : List Value) (records : List AccessorRecord)
      (text : String), unit.field "methods" = .ok (.list items) →
      List.Forall₂ Describes items records → records ≠ [] →
      accessors runtimeImport unit = .ok text →
      ∃ front behind, text = front ++ clientLine ++ behind ∧
        readOperations behind.toList = some (records, records.map (·.name))) ∧
    ∀ (runtimeImport : Value) (entries : Entries) (items resources : List Value)
      (records : List AccessorRecord), areFree ["self", "runtime_import"] entries = true →
      (Value.map entries).field "methods" = .ok (.list items) →
      List.Forall₂ Describes items records → records ≠ [] →
      (Slot.ofField "resources" (.map entries)).elements = .ok resources →
      ∃ text, accessors runtimeImport (.map entries) = .ok text := by
  refine ⟨?_, ?_⟩
  · intro runtimeImport unit items records text isField describe notEmpty ended
    rw [accessors_eq_accessorText isField (ne_nil_of_describe describe notEmpty)] at ended
    rcases Outcome.bind_eq_ok_iff.mp ended with ⟨names, areNames, isText⟩
    rw [eq_of_namesOf areNames] at isText
    rcases accessorText_eq isText with
      ⟨front, middle, operations, statements, areElements, areStatements, same⟩
    cases (elements_of_field isField).symm.trans areElements
    cases (mapM_accessor describe).symm.trans areStatements
    exact ⟨_, _, same, readOperations_operationPart describe⟩
  · intro runtimeImport entries items resources records free isField describe notEmpty listed
    have areNames : namesOf ["self", "runtime_import"] (.map entries) = .ok (.map entries) := by
      rw [namesOf, if_pos free]
    rcases exists_accessorText runtimeImport (elements_of_field isField) (mapM_accessor describe)
      listed with ⟨text, isText⟩
    rw [accessors_eq_accessorText isField (ne_nil_of_describe describe notEmpty), areNames]
    exact ⟨text, isText⟩

def AccessorRecord.toValue (record : AccessorRecord) : Value :=
  .record [("name", .text record.name), ("path", .text record.path),
    ("method", .text record.method), ("content_type", .text record.contentType)]

/-- Two operations: one with a plain name and with quotes in its path, and one with a reserved word
as its name and with a backslash and a line break in its type. -/
private def quotedRecords : List AccessorRecord := [
  ⟨"list", "/api/'tasks'/\x7bid\x7d", "get", "text/\"plain\""⟩,
  ⟨"class", "/api/tasks", "post", "a\\b\n\x07²"⟩]

private def quotedUnit : Entries := [
  (.text "class_name", .text "TasksApi"), (.text "resources", .texts ["tasks"]),
  (.text "methods", .list (quotedRecords.map AccessorRecord.toValue))]

theorem accessors_read_back_quoted :
    ∃ text front behind, accessors (.text "client.runtime") (.map quotedUnit) = .ok text ∧
      text = front ++ clientLine ++ behind ∧
      readOperations behind.toList = some (quotedRecords, ["list", "class"]) := by
  have isField : (Value.map quotedUnit).field "methods" =
      .ok (.list (quotedRecords.map AccessorRecord.toValue)) := rfl
  have listed : (Slot.ofField "resources" (.map quotedUnit)).elements = .ok [.text "tasks"] := rfl
  have describe : List.Forall₂ Describes (quotedRecords.map AccessorRecord.toValue)
      quotedRecords := by
    rw [List.forall₂_map_left_iff, List.forall₂_same]
    exact fun record _ => ⟨rfl, rfl, rfl, rfl⟩
  have notEmpty : quotedRecords ≠ [] := List.cons_ne_nil _ _
  rcases accessors_read_back.2 (.text "client.runtime") quotedUnit _ _ quotedRecords rfl isField
    describe notEmpty listed with ⟨text, ended⟩
  rcases accessors_read_back.1 (.text "client.runtime") (.map quotedUnit) _ quotedRecords text
    isField describe notEmpty ended with ⟨front, behind, same, reads⟩
  exact ⟨text, front, behind, ended, same, reads⟩

end Template
end ApiAccessors
