import ApiAccessors.Proofs.Files.Tree
import ApiAccessors.Proofs.Naming.Words
import ApiAccessors.Proofs.Path.Parameters

namespace ApiAccessors
namespace Path

/-!
# Segments with values in them

A path is a row of parts with a slash between two of them, and its segments are the parts that are
not empty.  If no name of a parameter reaches over a slash, the parts are cut at their parameters
one by one, so filling a path fills its parts.  What a part becomes may hold slashes of its own:
the segments of the filled path are those of the filled parts.
-/

/-- A text as a row of parts with slashes between them. -/
inductive IsRow : List Char → List (List Char) → Prop
  | last {part : List Char} (plain : '/' ∉ part) : IsRow part [part]
  | next {part rest : List Char} {row : List (List Char)} (plain : '/' ∉ part)
      (later : IsRow rest row) : IsRow (part ++ '/' :: rest) (part :: row)

/-- The parts of a text between slashes that are not empty. -/
def parts (text : List Char) : List (List Char) :=
  (Text.splitWhere (· == '/') text).filter (fun part => !part.isEmpty)

/-- A text with something in the place of each of its parameters. -/
def fillText (form : List Char → List Char) (text : List Char) : List Char :=
  (cutOf (pieces text)).fill form

/-- No name of a parameter reaches over a slash. -/
def StaysWithin (pieces : List Piece) : Prop := ∀ name, .parameter name ∈ pieces → '/' ∉ name

section

variable {text part : List Char} {row : List (List Char)}

theorem isRow_splitWhere (text : List Char) : IsRow text (Text.splitWhere (· == '/') text) := by
  induction text with
  | nil => exact .last (by simp)
  | cons c rest ih =>
      by_cases slash : c = '/'
      · have cut := @Naming.splitWhere_cons_of_cut (· == '/') '/' (beq_self_eq_true _) rest
        rw [slash, cut]
        exact @IsRow.next [] _ _ (by simp) ih
      · have isKept : (c == '/') = false := beq_eq_false_iff_ne.mpr slash
        rw [@Naming.splitWhere_cons_of_kept (· == '/') c isKept rest]
        have plain : ∀ {part : List Char}, '/' ∉ part → '/' ∉ c :: part := by
          intro part noSlash member
          exact (List.mem_cons.mp member).elim (fun same => slash same.symm) noSlash
        generalize Text.splitWhere (· == '/') rest = row at ih
        cases ih with
        | last noSlash => exact .last (plain noSlash)
        | @next part behind row noSlash later =>
            exact @IsRow.next (c :: part) _ _ (plain noSlash) later

theorem IsRow.plain (isRow : IsRow text row) : ∀ part ∈ row, '/' ∉ part := by
  induction isRow with
  | last plain => exact List.forall_mem_singleton.mpr plain
  | next plain _ ih => exact List.forall_mem_cons.mpr ⟨plain, ih⟩

theorem mem_parts (member : part ∈ parts text) : part ≠ [] ∧ '/' ∉ part := by
  rcases List.mem_filter.mp member with ⟨isPart, notEmpty⟩
  exact ⟨by simpa using notEmpty, (isRow_splitWhere text).plain part isPart⟩

theorem mem_segments {path segment : String} (member : segment ∈ segments path) :
    segment ≠ "" ∧ '/' ∉ segment.toList := by
  rcases List.mem_map.mp member with ⟨part, isPart, rfl⟩
  rcases mem_parts isPart with ⟨notEmpty, plain⟩
  rw [String.toList_ofList]
  exact ⟨mt String.ofList_eq_empty_iff.mp notEmpty, plain⟩

theorem parts_append_slash (before behind : List Char) :
    parts (before ++ '/' :: behind) = parts before ++ parts behind := by
  unfold parts
  rw [@Naming.splitWhere_append_cons (· == '/') '/' (beq_self_eq_true _), List.filter_append]

theorem parts_of_plain (plain : '/' ∉ part) (notEmpty : part ≠ []) : parts part = [part] := by
  have noCut : ∀ c ∈ part, (c == '/') = false :=
    fun c member => beq_eq_false_iff_ne.mpr (fun slash => plain (slash ▸ member))
  unfold parts
  rw [Text.splitWhere_eq_singleton noCut]
  simp [notEmpty]

end

section

variable {text : List Char}

theorem piecesFrom_none_cons (c : Char) (rest : List Char) :
    piecesFrom none (c :: rest) =
      if c = '\x7b' then piecesFrom (some []) rest else .char c :: piecesFrom none rest := rfl

theorem piecesFrom_some_cons (read : List Char) (c : Char) (rest : List Char) :
    piecesFrom (some read) (c :: rest) =
      if c = '\x7d' then
        match read with
        | [] => .char '\x7b' :: .char c :: piecesFrom none rest
        | _ :: _ => .parameter read.reverse :: piecesFrom none rest
      else piecesFrom (some (c :: read)) rest := rfl

theorem piecesFrom_unclosed (unclosed : '\x7d' ∉ text) :
    piecesFrom none text = text.map .char ∧
      ∀ read, piecesFrom (some read) text =
        .char '\x7b' :: (read.reverse ++ text).map .char := by
  induction text with
  | nil => exact ⟨rfl, fun read => by rw [piecesFrom, List.append_nil]⟩
  | cons c rest ih =>
      rcases not_or.mp (mt List.mem_cons.mpr unclosed) with ⟨noClosing, later⟩
      rcases ih later with ⟨outside, inside⟩
      constructor
      · rw [piecesFrom_none_cons, outside, inside]
        split
        · rename_i opens
          rw [opens]
          rfl
        · rfl
      · intro read
        rw [piecesFrom_some_cons, if_neg (fun closes => noClosing closes.symm), inside,
          List.reverse_cons, List.append_assoc]
        rfl

/-- What has been read behind an opening brace begins the next name, if a brace closes it. -/
theorem piecesFrom_closed (closed : '\x7d' ∈ text) {read : List Char} (notEmpty : read ≠ []) :
    ∃ name others, piecesFrom (some read) text = .parameter (read.reverse ++ name) :: others := by
  induction text generalizing read with
  | nil => cases closed
  | cons c rest ih =>
      rw [piecesFrom_some_cons]
      by_cases closes : c = '\x7d'
      · rw [if_pos closes]
        cases read with
        | nil => exact absurd rfl notEmpty
        | cons last earlier => exact ⟨[], _, by rw [List.append_nil]⟩
      · have later : '\x7d' ∈ rest :=
          (List.mem_cons.mp closed).resolve_left (fun same => closes same.symm)
        rcases ih later (List.cons_ne_nil c read) with ⟨name, others, same⟩
        rw [if_neg closes, same, List.reverse_cons, List.append_assoc]
        exact ⟨_, _, rfl⟩

theorem StaysWithin.of_cons {piece : Piece} {pieces : List Piece}
    (within : StaysWithin (piece :: pieces)) : StaysWithin pieces :=
  fun name member => within name (List.mem_cons_of_mem _ member)

/-- Reading goes on afresh behind a slash, whether or not a brace is open in front of it. -/
theorem piecesFrom_append_slash (opened : Option (List Char)) (before behind : List Char)
    (within : StaysWithin (piecesFrom opened (before ++ '/' :: behind))) :
    piecesFrom opened (before ++ '/' :: behind) =
      piecesFrom opened before ++ .char '/' :: piecesFrom none behind := by
  induction before generalizing opened with
  | nil =>
      cases opened with
      | none => rfl
      | some read =>
          have goesOn : piecesFrom (some read) ('/' :: behind) =
              piecesFrom (some ('/' :: read)) behind := rfl
          rw [List.nil_append, goesOn] at within ⊢
          by_cases closed : '\x7d' ∈ behind
          · -- The name that ends there would reach over the slash.
            rcases piecesFrom_closed closed (List.cons_ne_nil '/' read) with ⟨name, others, same⟩
            rw [same] at within
            exact absurd (by simp) (within _ List.mem_cons_self)
          · rcases piecesFrom_unclosed closed with ⟨outside, inside⟩
            rw [inside, outside, piecesFrom]
            simp
  | cons c rest ih =>
      cases opened with
      | none =>
          rw [List.cons_append, piecesFrom_none_cons] at within ⊢
          rw [piecesFrom_none_cons]
          split at within
          · rename_i opens
            rw [if_pos opens, if_pos opens, ih _ within]
          · rename_i noBrace
            rw [if_neg noBrace, if_neg noBrace, ih _ within.of_cons, List.cons_append]
      | some read =>
          rw [List.cons_append, piecesFrom_some_cons] at within ⊢
          rw [piecesFrom_some_cons]
          split at within
          · rename_i closes
            rw [if_pos closes, if_pos closes]
            cases read with
            | nil =>
                rw [ih _ within.of_cons.of_cons]
                rfl
            | cons last earlier =>
                rw [ih _ within.of_cons]
                rfl
          · rename_i noClosing
            rw [if_neg noClosing, if_neg noClosing, ih _ within]

theorem pieces_append_slash {before behind : List Char}
    (within : StaysWithin (pieces (before ++ '/' :: behind))) :
    pieces (before ++ '/' :: behind) = pieces before ++ .char '/' :: pieces behind :=
  piecesFrom_append_slash none before behind within

end

section

variable {text : List Char} {row : List (List Char)} (form : List Char → List Char)

/-- The pieces of a row are those of its parts, with a slash between two of them. -/
theorem IsRow.mem_pieces_iff (isRow : IsRow text row) (within : StaysWithin (pieces text))
    (name : List Char) :
    .parameter name ∈ pieces text ↔ ∃ part ∈ row, .parameter name ∈ pieces part := by
  induction isRow with
  | last plain => simp
  | next plain later ih =>
      have cut := pieces_append_slash within
      have behind : StaysWithin (pieces _) := fun name member =>
        within name (cut ▸ List.mem_append_right _ (List.mem_cons_of_mem _ member))
      rw [cut, List.mem_append, List.mem_cons, ih behind]
      simp

/-- The parts of a filled row are those of its filled parts. -/
theorem IsRow.parts_fillText (isRow : IsRow text row) (within : StaysWithin (pieces text)) :
    parts (fillText form text) = row.flatMap (fun part => parts (fillText form part)) := by
  induction isRow with
  | last plain => simp
  | @next part rest row plain later ih =>
      have cut := pieces_append_slash within
      have behind : StaysWithin (pieces rest) := fun name member =>
        within name (cut ▸ List.mem_append_right _ (List.mem_cons_of_mem _ member))
      have filled : fillText form (part ++ '/' :: rest) =
          fillText form part ++ '/' :: fillText form rest := by
        unfold fillText
        rw [cut]
        simp only [fill_cutOf, List.flatMap_append, List.flatMap_cons, List.singleton_append]
      rw [filled, parts_append_slash, List.flatMap_cons, ih behind]

/-- A filled part has no slash just if no value in it has one. -/
theorem slash_not_mem_fillText_iff {part : List Char} (plain : '/' ∉ part) :
    '/' ∉ fillText form part ↔ ∀ name, .parameter name ∈ pieces part → '/' ∉ form name := by
  have noChar : .char '/' ∉ pieces part := by
    intro member
    apply plain
    rw [← text_pieces part]
    exact List.mem_flatMap_of_mem member List.mem_cons_self
  unfold fillText
  rw [fill_cutOf, List.mem_flatMap, not_exists]
  constructor
  · intro noSlash name member slash
    exact noSlash (.parameter name) ⟨member, slash⟩
  · rintro noSlash (c | name) ⟨member, slash⟩
    · exact noChar (List.mem_singleton.mp slash ▸ member)
    · exact noSlash name member slash

end

end Path
end ApiAccessors
