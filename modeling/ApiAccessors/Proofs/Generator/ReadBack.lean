import ApiAccessors.Client
import ApiAccessors.Proofs.Generator.Manifest
import ApiAccessors.Proofs.Generator.Written
import ApiAccessors.Proofs.Json.RoundTrip
import ApiAccessors.Proofs.Json.Soundness

namespace ApiAccessors

/-!
# Written values are read from files

Values are written in two places: into the manifest, in lines, and as the body of a request, on one
line.  Both are read back by the reader of documents, since nothing that it does to a text before
reading it touches a written form: that has no characters beyond the ASCII ones, and no line ends of
another kind.  A document that was read without a floating-point number in it fits, and so the
manifest that is made from it is read back.
-/

open Json (Fits)

theorem Text.unifyLines_eq_self {text : List Char} (noReturn : '\r' ∉ text) :
    unifyLines text = text := by
  induction text with
  | nil => rfl
  | cons c rest ih =>
      have apart := List.ne_of_not_mem_cons noReturn
      rw [unifyLines, ih (List.not_mem_of_not_mem_cons noReturn)]
      · rintro others rfl
        exact absurd rfl apart
      · rintro rfl
        exact absurd rfl apart

namespace SpecFile

/-- Bytes are read as a value from every file whose name stands for the interchange notation, with
room for so many collections inside each other. -/
def IsReadAs (room : Nat) (content : List UInt8) (value : Value) : Prop :=
  ∃ text, Text.Utf8.decode? content = some text ∧
    ∀ (platform : Platform) (path : FilePath), room ≤ platform.readingRoom → IsInterchange path →
      readText platform path (Text.unifyLines text) = .ok value

/-- A document in the interchange notation fits, if there is no floating-point number in it. -/
theorem fits_of_decode {platform : Platform} {path : FilePath} {content : List UInt8} {spec : Value}
    (isInterchange : IsInterchange path) (isSpec : decode platform path content = .ok spec)
    (none : spec.hasFloat = false) : Fits platform.readingRoom spec := by
  unfold decode at isSpec
  split at isSpec
  · cases isSpec
  · rcases Outcome.bind_eq_ok_iff.mp isSpec with ⟨value, isRead, later⟩
    split at later
    · cases later
      exact Json.fits_of_read ((readText_eq_ok_iff isInterchange).mp isRead) none
    · cases later

/-- What is written for a value in some style is read as the value wherever the value fits, also if
an end of line is put behind it. -/
theorem isReadAs_of_write {writing reading : Nat} {style : Json.Style} (gaps : style.AddsGaps)
    {value : Value} (fits : Fits reading value) {text : String}
    (wrote : Json.write writing style value = .ok text) {gap : String}
    (isGap : Json.IsGap gap.toList) :
    IsReadAs reading (Text.Utf8.encode (text ++ gap).toList) value := by
  have room : ∃ room, Fits room value ∧ room ≤ writing ∧ room ≤ reading := by
    rcases Nat.le_total writing reading with less | less
    · exact ⟨writing, fits.of_write wrote, Nat.le_refl _, less⟩
    · exact ⟨reading, fits, less, Nat.le_refl _⟩
  rcases room with ⟨room, fits, writable, readable⟩
  refine ⟨_, Text.Utf8.decode?_encode _, ?_⟩
  intro platform path more isInterchange
  rcases fits.exists_write gaps writable (readable.trans more) with ⟨own, isText, plain, back⟩
  cases wrote.symm.trans isText
  have noReturn : '\r' ∉ (text ++ gap).toList := by
    rw [String.toList_append]
    intro member
    have isPlain := List.forall_mem_append.mpr ⟨plain, isGap.plain⟩ _ member
    exact absurd isPlain (by decide)
  rw [Text.unifyLines_eq_self noReturn, readText_eq_ok_iff isInterchange, String.toList_append]
  exact back gap.toList isGap

/-- A value is written where it fits, and what is written is read back where it fits. -/
theorem exists_write_isReadAs {writing reading : Nat} {style : Json.Style} (gaps : style.AddsGaps)
    {value : Value} (written : Fits writing value) (fits : Fits reading value) :
    ∃ text, Json.write writing style value = .ok text ∧
      ∀ gap : String, Json.IsGap gap.toList →
        IsReadAs reading (Text.Utf8.encode (text ++ gap).toList) value := by
  rcases written.exists_write gaps (Nat.le_refl _) (Nat.le_refl writing) with ⟨text, isText, -⟩
  exact ⟨text, isText, fun gap isGap => isReadAs_of_write gaps fits isText isGap⟩

end SpecFile

theorem Client.contentOf_of_isJson {room : Nat} {type : String} {value : Value}
    (isJson : MediaType.isJson type = true) (notNull : value ≠ .null) :
    contentOf room (.text type) value = (Json.write room Json.compact value).map (fun text =>
      .bytes (Text.Utf8.encode text.toList)) := by
  unfold contentOf
  split
  · exact absurd rfl notNull
  · exact if_pos isJson

namespace Generator

open Run (Ends)

/-- The summaries of a document that was read need no more room than the document did, as long as
there is room for what is in every summary. -/
theorem fits_summaries_of_decode {platform : Platform} {path : FilePath} {content : List UInt8}
    {spec : Value} (isInterchange : SpecFile.IsInterchange path)
    (isSpec : SpecFile.decode platform path content = .ok spec) (none : spec.hasFloat = false)
    {resources : List String} {package : Package}
    (built : (Package.build spec resources).runLog.1 = .ok package) {room : Nat}
    (enough : platform.readingRoom ≤ room) (least : 5 ≤ room) :
    Fits room (.list (package.modules.map AccessorModule.summary)) := by
  -- A content type is inside of six collections in its document, and of four in the manifest.
  have fits : Fits (platform.readingRoom - 7 + 7) spec :=
    (SpecFile.fits_of_decode isInterchange isSpec none).mono (by omega)
  exact (Package.fits_summaries fits built).mono (by omega)

/-- Every value that fits is read back, with its keys in their order, from the file that it is
written into in lines and from the body that it is sent as; and whatever the document of a run, read
from the interchange notation, the manifest is read back as the summaries that the run gives. -/
theorem written_values_read_back :
    (∀ writing reading value, Fits writing value → Fits reading value →
      (∃ text, Json.write writing (Json.indented 2) value = .ok text ∧
        SpecFile.IsReadAs reading (Text.Utf8.encode (text ++ "\n").toList) value) ∧
      (∃ text, Json.write writing Json.compact value = .ok text ∧
        SpecFile.IsReadAs reading (Text.Utf8.encode text.toList) value) ∧
      ∀ type, MediaType.isJson type = true → value ≠ .null →
        ∃ bytes, Client.contentOf writing (.text type) value = .ok (.bytes bytes) ∧
          SpecFile.IsReadAs reading bytes value) ∧
    ∀ (config : Config) (effect : Types.Effect) (machine after : Machine) (summaries : List Value),
      Ends (generate config effect) machine summaries after →
      ∀ (schema path : FilePath) (content : List UInt8) (spec : Value),
        config.schemaPath = some schema → SpecFile.IsInterchange schema →
        SpecFile.contentAt machine schema = some content →
        SpecFile.decode machine.platform schema content = .ok spec → spec.hasFloat = false →
        config.manifestPath = some path →
        ∃ written, after.files.at? after.home path = some (.file written) ∧
          ∀ room, machine.platform.readingRoom ≤ room → 5 ≤ room →
            SpecFile.IsReadAs room written (.list summaries) := by
  constructor
  · intro writing reading value written fits
    have lines := SpecFile.exists_write_isReadAs (Json.addsGaps_indented 2) written fits
    have line := SpecFile.exists_write_isReadAs Json.addsGaps_compact written fits
    rcases lines with ⟨manifest, isManifest, read⟩
    rcases line with ⟨text, isText, isRead⟩
    have whole := isRead "" (List.forall_mem_nil _)
    rw [String.append_empty] at whole
    refine ⟨⟨manifest, isManifest, read "\n" (List.forall_mem_singleton.mpr (Or.inr rfl))⟩,
      ⟨text, isText, whole⟩, ?_⟩
    intro type isJson notNull
    refine ⟨_, ?_, whole⟩
    rw [Client.contentOf_of_isJson isJson notNull, isText]
    rfl
  · intro config effect machine after summaries ended schema path content spec given isInterchange
      found isSpec none wanted
    rcases exists_package_of_ends ended with
      ⟨own, ownContent, ownSpec, resources, package, isOwn, ownFound, isOwnSpec, built, rfl, wrote⟩
    cases given.symm.trans isOwn
    cases found.symm.trans ownFound
    cases isSpec.symm.trans isOwnSpec
    rcases wrote path wanted with ⟨between, wroteManifest⟩
    rcases Output.at?_of_ends_writeManifest wroteManifest with ⟨text, isText, isContent⟩
    refine ⟨_, isContent, fun room enough least => ?_⟩
    have fits := fits_summaries_of_decode isInterchange isSpec none built enough least
    exact SpecFile.isReadAs_of_write (Json.addsGaps_indented 2) fits isText
      (List.forall_mem_singleton.mpr (Or.inr rfl))

/-! ### A run with a manifest -/

/-- A document with one operation. -/
def oneTask : Value :=
  .map [(.text "openapi", .text "3.1.0"),
    (.text "paths", .map [(.text "/api/tasks", .map [(.text "get", .map [])])])]

def oneTaskText : List Char :=
  "\x7b\"openapi\":\"3.1.0\",\"paths\":\x7b\"/api/tasks\":\x7b\"get\":\x7b\x7d\x7d\x7d\x7d".toList

theorem isInterchange_api : SpecFile.IsInterchange ⟨0, ["api.json"]⟩ := by
  unfold SpecFile.IsInterchange
  decide

theorem decode_oneTask :
    SpecFile.decode .usual ⟨0, ["api.json"]⟩ (Text.Utf8.encode oneTaskText) = .ok oneTask := by
  have characters : oneTaskText = _ := String.toList_ofList
  have read : Json.read Platform.usual.readingRoom (Text.unifyLines oneTaskText) =
      .ok oneTask := by
    rw [characters]
    rfl
  rw [SpecFile.decode_encode_of_ok ((SpecFile.readText_eq_ok_iff isInterchange_api).mpr read)]
  rfl

/-- A place with the document and an empty directory. -/
def listingMachine (log : List LogEntry) : Machine :=
  ⟨.usual, ⟨[(["api.json"], .file (Text.Utf8.encode oneTaskText)), (["out"], .directory)],
    fun _ _ => none⟩, [], ⟨none, 0, none⟩, [], log⟩

/-- Settings that ask for a manifest. -/
def listingConfig : Config :=
  ⟨some ⟨0, ["api.json"]⟩, some ⟨0, ["out"]⟩, .text "runtime", .text "", .text "", .text "",
    .bool false, none, some ⟨0, ["units.json"]⟩⟩

theorem exists_build_oneTask :
    ∃ package, (Package.build oneTask ["tasks"]).runLog.1 = .ok package ∧
      package.modules.map (·.fileName) = ["tasks_api.py"] := by
  have lists : Resource.Lists oneTask [(.text "/api/tasks", .map [(.text "get", .map [])])] :=
    ⟨_, rfl, rfl⟩
  have routed : Resource.AllRouted oneTask
      [(.text "/api/tasks", .map [(.text "get", .map [])])] := by
    unfold Resource.AllRouted
    decide
  have own := lists.pathsOf_of_pairwise routed "tasks" (by decide)
  have groups : Package.group ["tasks"] = [("Tasks", ["tasks"])] := by
    apply Package.group_of_pairwise
    all_goals decide
  have built : (Package.build oneTask ["tasks"]).runLog.1.toOption.map
      (fun package => package.modules.map (·.fileName)) = some ["tasks_api.py"] := by
    simp only [Package.build, groups, Package.buildModules, Package.buildModule,
      Package.operations, Package.pathsOf, own]
    decide
  rcases Option.map_eq_some_iff.mp built with ⟨package, ended, names⟩
  exact ⟨package, Outcome.toOption_eq_some_iff.mp ended, names⟩

/-- The package is written into the directory that is there, and nothing stands at the place of the
manifest after that. -/
theorem exists_ends_write_oneTask {package : Package}
    (built : (Package.build oneTask ["tasks"]).runLog.1 = .ok package)
    (names : package.modules.map (·.fileName) = ["tasks_api.py"]) (log : List LogEntry) :
    ∃ written files entries, Ends (Output.write listingConfig package.toValue)
      (listingMachine log) written { listingMachine (log ++ entries) with files } ∧
      files.refusal = (listingMachine log).files.refusal ∧ files.get? ["units.json"] = none := by
  rcases Logged.runLog_fst_eq_ok_iff.mp built with ⟨_, isBuilt⟩
  have emits := Package.emits_of_build isBuilt
  have areNames : Output.fileNames package = ["client.py", "tasks_api.py", "__init__.py"] := by
    rw [Output.fileNames, names]
    rfl
  have possible : ∀ name ∈ "client.py" :: "__init__.py" :: package.modules.map (·.fileName),
      Run.isImpossible (FilePath.join ⟨0, ["out"]⟩ (FilePath.ofText name)) = false := by
    rw [names]
    decide
  have unused : ∀ name ∈ Output.fileNames package,
      (listingMachine log).files.get? (["out"] ++ [name]) = none := by
    rw [areNames]
    simp only [List.forall_mem_cons]
    exact ⟨rfl, rfl, rfl, List.forall_mem_nil _⟩
  have leads : (listingMachine log).files.LeadsTo (listingMachine log).home ⟨0, ["out"]⟩ ["out"] :=
    ⟨rfl, rfl⟩
  have wrote : Ends (Output.write listingConfig package.toValue) (listingMachine log) _ _ :=
    Output.ends_write_of_unused rfl emits possible leads rfl (fun _ _ => rfl) unused
  exact ⟨_, _, _, wrote, FileTree.refusal_putFiles _ _ _,
    FileTree.get?_putFiles_of_ne (by simp) (by simp)⟩

theorem exists_ends_writeManifest_oneTask {package : Package}
    (built : (Package.build oneTask ["tasks"]).runLog.1 = .ok package) {files : FileTree}
    (allowed : files.refusal = (listingMachine []).files.refusal)
    (free : files.get? ["units.json"] = none) (log : List LogEntry) :
    ∃ after, Ends (Output.writeManifest ⟨0, ["units.json"]⟩
      (package.modules.map AccessorModule.summary)) { listingMachine log with files } () after := by
  have fits : Fits 985 (.list (package.modules.map AccessorModule.summary)) :=
    fits_summaries_of_decode isInterchange_api decode_oneTask rfl built (Nat.le_refl _) (by decide)
  rcases fits.exists_write (Json.addsGaps_indented 2) (Nat.le_refl _) (Nat.le_refl 985) with
    ⟨text, isText, -⟩
  have leads : files.LeadsTo [] ⟨0, []⟩ [] := ⟨rfl, rfl⟩
  have noLink : ¬files.HasLink ([] ++ ["units.json"]) := fun ⟨_, isLink⟩ => by
    rw [List.nil_append, free] at isLink
    cases isLink
  have plain : IsPlainName "units.json" := ⟨by decide, by decide, by decide, by decide⟩
  have isPlace : files.IsPlace [] ⟨0, ["units.json"]⟩ ["units.json"] := by
    refine ⟨by rw [allowed]; rfl, leads.locate_join plain noLink, ?_⟩
    rw [free]
    exact (Option.some_ne_none _).symm
  have wrote := FileTree.writeFile_eq_ok_iff.mpr
    ⟨_, isPlace,
      (rfl : files.put ["units.json"] (.file (Text.Utf8.encode (text ++ "\n").toList)) = _)⟩
  have made : FileTree.makeAll [] (FilePath.parent ⟨0, ["units.json"]⟩) true files =
      (none, files) := rfl
  exact ⟨_, Output.ends_writeManifest_iff.mpr
    ⟨by decide, files, made, text, isText, by decide, _, wrote, rfl⟩⟩

theorem exists_ends_generate_oneTask :
    ∃ summaries after, Ends (generate listingConfig) (listingMachine []) summaries after := by
  rcases exists_build_oneTask with ⟨package, built, names⟩
  have accepted : SpecFile.IsAccepted oneTask := ⟨rfl, by decide, ⟨_, rfl, by decide⟩, rfl⟩
  have begun : ∃ log, (generate listingConfig).run.run (listingMachine []) =
      (finish listingConfig ⟨0, ["api.json"]⟩ Types.idle oneTask).run.run (listingMachine log) :=
    exists_generate_eq_finish rfl rfl rfl decode_oneTask accepted
  rcases begun with ⟨log, begun⟩
  have found : Resource.all oneTask = .ok ["tasks"] := by decide
  rcases exists_ends_write_oneTask built names (informed (listingMachine log) oneTask ["tasks"]).log
    with ⟨written, files, entries, wrote, allowed, free⟩
  rcases exists_ends_writeManifest_oneTask built allowed free _ with ⟨after, wroteManifest⟩
  have emitted : Ends (emit listingConfig oneTask ["tasks"]) (listingMachine log) _ after :=
    ends_emit_iff.mpr ⟨package, written, _, built, wrote, rfl, wroteManifest⟩
  have finished : Ends (finish listingConfig ⟨0, ["api.json"]⟩ Types.idle oneTask)
      (listingMachine log) (package.modules.map AccessorModule.summary) after := by
    unfold finish
    rw [makeTypes_eq_pure rfl, found]
    exact emitted
  exact ⟨_, after, begun.trans finished⟩

theorem written_values_read_back_oneTask :
    (∃ text, Json.write 985 (Json.indented 2) oneTask = .ok text ∧
      SpecFile.IsReadAs 985 (Text.Utf8.encode (text ++ "\n").toList) oneTask) ∧
    (∃ bytes, Client.contentOf 985 (.text ContentType.json) oneTask = .ok (.bytes bytes) ∧
      SpecFile.IsReadAs 985 bytes oneTask) ∧
    ∃ summaries after written, Ends (generate listingConfig) (listingMachine []) summaries after ∧
      after.files.at? after.home ⟨0, ["units.json"]⟩ = some (.file written) ∧
      SpecFile.IsReadAs 985 written (.list summaries) := by
  have fits : Fits 985 oneTask := SpecFile.fits_of_decode isInterchange_api decode_oneTask rfl
  have parts := written_values_read_back.1 985 985 oneTask fits fits
  refine ⟨parts.1, parts.2.2 ContentType.json (by decide) (by simp [oneTask]), ?_⟩
  rcases exists_ends_generate_oneTask with ⟨summaries, after, ended⟩
  rcases written_values_read_back.2 listingConfig Types.idle (listingMachine []) after summaries
    ended ⟨0, ["api.json"]⟩ ⟨0, ["units.json"]⟩ _ oneTask rfl isInterchange_api rfl decode_oneTask
    rfl rfl with ⟨written, found, isRead⟩
  exact ⟨summaries, after, written, ended, found, isRead 985 (Nat.le_refl _) (by decide)⟩

/-- An integer with too many digits is refused by the writer, and no text is read as it; and the
same holds of lists that are too many inside each other for the room that there is. -/
theorem too_long_or_too_deep_not_read_back :
    (∀ room style, Json.write room style (.int (10 ^ Text.digitLimit)) = .error .badValue) ∧
    (∀ room text, Json.read room text ≠ .ok (.int (10 ^ Text.digitLimit))) ∧
    (∀ room style, Json.write room style (Json.nested room) = .error .tooDeep) ∧
    ∀ room text, Json.read room text ≠ .ok (Json.nested room) := by
  refine ⟨?_, ?_, ?_, ?_⟩
  · exact Json.write_int_of_not_fits (Json.not_fits_pow 0)
  · intro room text isRead
    exact Json.not_fits_pow _ (Json.fits_of_read isRead rfl)
  · exact fun room => Json.write_nested (Nat.le_refl room)
  · intro room text isRead
    have fits := Json.fits_of_read isRead (Json.hasFloat_nested room)
    exact Nat.lt_irrefl _ fits.lt_of_nested

end Generator

end ApiAccessors
