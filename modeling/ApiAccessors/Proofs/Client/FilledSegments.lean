import ApiAccessors.Proofs.Client.FilledPath
import ApiAccessors.Proofs.Path.Segments

namespace ApiAccessors
namespace Client

/-!
# The segments of a call

A value goes into a path as it is.  So it stays inside its segment only as far as it has no slash:
one that has adds segments, and a segment that becomes empty is none.  What follows then stands at
another place of the path, and the call goes to another resource.  Braces and dots in a value change
nothing.
-/

/-- A segment with the values of a call in the places of its parameters. -/
def filledSegment (parameters : Entries) (segment : String) : String :=
  String.ofList (Path.fillText (placed parameters) segment.toList)

section

variable {client : Client} {path : String} {parameters : Entries}

theorem mem_parameters_iff {name : String} :
    name ∈ Path.parameters path ↔ .parameter name.toList ∈ Path.pieces path.toList := by
  rw [Path.parameters_eq_names, ← Path.mem_names_cutOf, List.mem_map]
  constructor
  · rintro ⟨found, member, rfl⟩
    rwa [String.toList_ofList]
  · exact fun member => ⟨_, member, String.ofList_toList⟩

theorem hasText_of_text {name value : String}
    (given : Entries.field? parameters name = some (.text value)) :
    hasText parameters name.toList = true := by
  unfold hasText
  rw [String.ofList_toList, given]
  rfl

theorem buildPath_of_noPrefix (noPrefix : client.apiPrefix.truthy = false)
    (given : ∀ name ∈ Path.parameters path,
      ∃ value, Entries.field? parameters name = some (.text value)) :
    client.buildPath (.text path) (.map parameters) =
      .ok (String.ofList (Path.fillText (placed parameters) path.toList)) := by
  have texts : ∀ name ∈ (Path.cutOf (Path.pieces path.toList)).names,
      hasText parameters name = true := by
    intro name isName
    rw [Path.parameters_eq_names] at given
    rcases given _ (List.mem_map_of_mem isName) with ⟨value, isValue⟩
    simpa using hasText_of_text isValue
  unfold buildPath
  rw [fill_eq, if_pos texts, Outcome.ok_bind, if_neg (by rw [noPrefix]; decide)]
  rfl

theorem placed_eq {name value : String}
    (given : Entries.field? parameters name = some (.text value)) :
    placed parameters name.toList = value.toList := by
  unfold placed
  rw [String.ofList_toList, given]
  rfl

theorem segments_of_plain {segment : String} (notEmpty : segment ≠ "")
    (plain : '/' ∉ segment.toList) : Path.segments segment = [segment] := by
  have isPart := Path.parts_of_plain plain (mt String.toList_eq_nil_iff.mp notEmpty)
  change (Path.parts segment.toList).map String.ofList = [segment]
  rw [isPart, List.map_singleton, String.ofList_toList]

/-- A parameter of a path is one of some segment. -/
theorem mem_pieces_iff (within : Path.StaysWithin (Path.pieces path.toList)) (name : List Char) :
    .parameter name ∈ Path.pieces path.toList ↔
      ∃ segment ∈ Path.segments path, .parameter name ∈ Path.pieces segment.toList := by
  have ofSegment : (∃ segment ∈ Path.segments path, .parameter name ∈ Path.pieces segment.toList) ↔
      ∃ part ∈ Path.parts path.toList, .parameter name ∈ Path.pieces part := by
    change (∃ segment ∈ (Path.parts path.toList).map String.ofList, _) ↔ _
    simp only [List.mem_map, exists_exists_and_eq_and, String.toList_ofList]
  rw [ofSegment, (Path.isRow_splitWhere path.toList).mem_pieces_iff within]
  constructor
  · rintro ⟨part, isPart, member⟩
    refine ⟨part, List.mem_filter.mpr ⟨isPart, ?_⟩, member⟩
    cases part with
    | nil => cases member
    | cons c rest => rfl
  · rintro ⟨part, isPart, member⟩
    exact ⟨part, (List.mem_filter.mp isPart).1, member⟩

/-- The segments of a filled path are those of the filled segments. -/
theorem segments_fillText (within : Path.StaysWithin (Path.pieces path.toList)) :
    Path.segments (String.ofList (Path.fillText (placed parameters) path.toList)) =
      (Path.segments path).flatMap
        (fun segment => Path.segments (filledSegment parameters segment)) := by
  have isRow := Path.isRow_splitWhere path.toList
  -- An empty part stays empty, so it makes no difference that segments leave it out.
  have dropped : ∀ row : List (List Char),
      row.flatMap (fun part => Path.parts (Path.fillText (placed parameters) part)) =
        (row.filter (fun part => !part.isEmpty)).flatMap
          (fun part => Path.parts (Path.fillText (placed parameters) part)) := by
    intro row
    induction row with
    | nil => rfl
    | cons part rest ih =>
        rw [List.flatMap_cons, ih]
        cases part with
        | nil => rfl
        | cons c others => rfl
  change (Path.parts (String.ofList _).toList).map String.ofList =
    ((Path.parts path.toList).map String.ofList).flatMap
      (fun segment => (Path.parts (String.ofList _).toList).map String.ofList)
  rw [String.toList_ofList, isRow.parts_fillText _ within, dropped, List.map_flatMap,
    List.flatMap_map]
  simp only [String.toList_ofList]
  rfl

/-- Every segment stands for itself just if none becomes empty and no value in it has a slash. -/
theorem segments_eq_map_iff (within : Path.StaysWithin (Path.pieces path.toList)) :
    Path.segments (String.ofList (Path.fillText (placed parameters) path.toList)) =
        (Path.segments path).map (filledSegment parameters) ↔
      (∀ name, .parameter name ∈ Path.pieces path.toList → '/' ∉ placed parameters name) ∧
        ∀ segment ∈ Path.segments path, filledSegment parameters segment ≠ "" := by
  have slash_iff : ∀ segment ∈ Path.segments path,
      ('/' ∉ (filledSegment parameters segment).toList ↔
        ∀ name, .parameter name ∈ Path.pieces segment.toList → '/' ∉ placed parameters name) := by
    intro segment isSegment
    rw [filledSegment, String.toList_ofList]
    exact Path.slash_not_mem_fillText_iff _ (Path.mem_segments isSegment).2
  constructor
  · intro same
    have stays : ∀ segment ∈ Path.segments path, filledSegment parameters segment ≠ "" ∧
        '/' ∉ (filledSegment parameters segment).toList := by
      intro segment isSegment
      have isMade := List.mem_map_of_mem (f := filledSegment parameters) isSegment
      rw [← same] at isMade
      exact Path.mem_segments isMade
    refine ⟨fun name member => ?_, fun segment isSegment => (stays segment isSegment).1⟩
    rcases (mem_pieces_iff within name).mp member with ⟨segment, isSegment, isPiece⟩
    exact (slash_iff segment isSegment).mp (stays segment isSegment).2 name isPiece
  · rintro ⟨noSlash, notEmpty⟩
    rw [segments_fillText within, List.map_eq_flatMap]
    refine List.flatMap_congr (fun segment isSegment => ?_)
    refine segments_of_plain (notEmpty segment isSegment) ((slash_iff segment isSegment).mpr ?_)
    exact fun name isPiece => noSlash name ((mem_pieces_iff within name).mpr
      ⟨segment, isSegment, isPiece⟩)

/-- If no name of a parameter reaches over a slash and all parameters have texts, then the segments
of a call are those of the filled segments of its path.  They are just the filled segments, in their
places, exactly if no text has a slash and no segment becomes empty. -/
theorem segments_buildPath (noPrefix : client.apiPrefix.truthy = false)
    (within : ∀ name ∈ Path.parameters path, '/' ∉ name.toList)
    (given : ∀ name ∈ Path.parameters path,
      ∃ value, Entries.field? parameters name = some (.text value)) :
    ∃ built, client.buildPath (.text path) (.map parameters) = .ok built ∧
      Path.segments built = (Path.segments path).flatMap
        (fun segment => Path.segments (filledSegment parameters segment)) ∧
      (Path.segments built = (Path.segments path).map (filledSegment parameters) ↔
        (∀ name ∈ Path.parameters path, ∀ value,
          Entries.field? parameters name = some (.text value) → '/' ∉ value.toList) ∧
        ∀ segment ∈ Path.segments path, filledSegment parameters segment ≠ "") := by
  have staysWithin : Path.StaysWithin (Path.pieces path.toList) := by
    intro name member
    have isName : String.ofList name ∈ Path.parameters path := by
      rw [mem_parameters_iff, String.toList_ofList]
      exact member
    simpa using within _ isName
  have noSlash_iff : (∀ name ∈ Path.parameters path, ∀ value,
      Entries.field? parameters name = some (.text value) → '/' ∉ value.toList) ↔
      ∀ name, .parameter name ∈ Path.pieces path.toList → '/' ∉ placed parameters name := by
    constructor
    · intro noSlash name member
      have isName : String.ofList name ∈ Path.parameters path := by
        rw [mem_parameters_iff, String.toList_ofList]
        exact member
      rcases given _ isName with ⟨value, isValue⟩
      have same := placed_eq isValue
      rw [String.toList_ofList] at same
      rw [same]
      exact noSlash _ isName value isValue
    · intro noSlash name member value isValue
      rw [← placed_eq isValue]
      exact noSlash _ (mem_parameters_iff.mp member)
  refine ⟨_, buildPath_of_noPrefix noPrefix given, segments_fillText staysWithin, ?_⟩
  rw [noSlash_iff]
  exact segments_eq_map_iff staysWithin

end

/-- A value that looks like a parameter and one that looks like the way up. -/
def noteParameters : Entries := [(.text "kind", .text "\x7bid\x7d"), (.text "id", .text "..")]

private theorem exists_make_withoutPrefix :
    ∃ client, make [] = .ok client ∧
      client.apiPrefix.truthy = false := by
  have ran : (make []).toOption.map (·.apiPrefix.truthy) =
      some false := by
    decide
  rcases Option.map_eq_some_iff.mp ran with ⟨client, isClient, noPrefix⟩
  exact ⟨client, Outcome.toOption_eq_some_iff.mp isClient, noPrefix⟩

theorem segments_buildPath_notes :
    ∃ client, make [] = .ok client ∧
      client.apiPrefix.truthy = false ∧
      (∀ name ∈ Path.parameters "/api/\x7bkind\x7d-\x7bid\x7d/notes", '/' ∉ name.toList) ∧
      (∀ name ∈ Path.parameters "/api/\x7bkind\x7d-\x7bid\x7d/notes",
        ∃ value, Entries.field? noteParameters name = some (.text value)) ∧
      ∃ built, client.buildPath (.text "/api/\x7bkind\x7d-\x7bid\x7d/notes")
          (.map noteParameters) = .ok built ∧
        Path.segments built = ["api", "\x7bid\x7d-..", "notes"] := by
  rcases exists_make_withoutPrefix with ⟨client, made, noPrefix⟩
  have names : Path.parameters "/api/\x7bkind\x7d-\x7bid\x7d/notes" = ["kind", "id"] := by
    decide
  have within : ∀ name ∈ Path.parameters "/api/\x7bkind\x7d-\x7bid\x7d/notes",
      '/' ∉ name.toList := by
    rw [names]
    decide
  have given : ∀ name ∈ Path.parameters "/api/\x7bkind\x7d-\x7bid\x7d/notes",
      ∃ value, Entries.field? noteParameters name = some (.text value) := by
    rw [names]
    exact List.forall_mem_cons.mpr ⟨⟨_, rfl⟩, List.forall_mem_singleton.mpr ⟨_, rfl⟩⟩
  rcases segments_buildPath noPrefix within given with ⟨built, isBuilt, areSegments, -⟩
  refine ⟨client, made, noPrefix, within, given, built, isBuilt, areSegments.trans ?_⟩
  decide

/-- A slash in a value adds a segment, and an empty value takes one away. -/
theorem value_moves_segments :
    ∃ client, make [] = .ok client ∧
      client.apiPrefix.truthy = false ∧
      client.buildPath (.text "/api/tasks/\x7bid\x7d") (.map [(.text "id", .text "7/notes")]) =
        .ok "/api/tasks/7/notes" ∧
      client.buildPath (.text "/api/tasks/\x7bid\x7d") (.map [(.text "id", .text "")]) =
        .ok "/api/tasks/" ∧
      Path.segments "/api/tasks/\x7bid\x7d" = ["api", "tasks", "\x7bid\x7d"] ∧
      Path.segments "/api/tasks/7/notes" = ["api", "tasks", "7", "notes"] ∧
      Path.segments "/api/tasks/" = ["api", "tasks"] := by
  rcases exists_make_withoutPrefix with ⟨client, made, noPrefix⟩
  have names : Path.parameters "/api/tasks/\x7bid\x7d" = ["id"] := by decide
  refine ⟨client, made, noPrefix, ?_, ?_, by decide⟩
  all_goals
    rw [buildPath_of_noPrefix noPrefix
      (by rw [names]; exact List.forall_mem_singleton.mpr ⟨_, rfl⟩)]
    decide

end Client
end ApiAccessors
