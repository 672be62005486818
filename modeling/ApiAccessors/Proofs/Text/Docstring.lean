import Mathlib.Data.List.Infix

namespace ApiAccessors
namespace Text
namespace Docstring

/-!
# Reading docstrings

A docstring stands between three quotes and three quotes.  Inside it a backslash takes the next
character with it, whatever that is, and the first three quotes in a row that no backslash has taken
end the docstring.  So a reader has to remember little, and texts inside a docstring can be judged
one by one: what is read of a text depends on what comes before it only by the state that the reader
is in.
-/

/-- What a reader inside a docstring remembers of the characters before. -/
inductive State where
  | plain
  | oneQuote
  | twoQuotes
  | escape
deriving DecidableEq, Repr

/-- Read a quote; the third one in a row ends the docstring. -/
def State.afterQuote : State → Option State
  | .plain => some .oneQuote
  | .oneQuote => some .twoQuotes
  | .twoQuotes => none
  | .escape => some .plain

/-- Read a character, if it belongs to the docstring. -/
def next (state : State) (c : Char) : Option State :=
  if c = '"' then state.afterQuote
  else if c = '\\' ∧ state ≠ .escape then some .escape
  else some .plain

def read : State → List Char → Option State
  | state, [] => some state
  | state, c :: rest => (next state c).bind (fun state => read state rest)

/-- What follows behind the docstring, if it ends. -/
def rest? : State → List Char → Option (List Char)
  | _, [] => none
  | state, c :: rest =>
      match next state c with
      | some state => rest? state rest
      | none => some rest

def quotes : List Char := ['"', '"', '"']

/-- A text that does not end a docstring which it stands in. -/
def IsQuiet (text : String) : Prop := read .plain text.toList ≠ none

instance (text : String) : Decidable (IsQuiet text) :=
  inferInstanceAs (Decidable (_ ≠ _))

variable {state after : State} {text more behind : List Char}

theorem read_append (state : State) (text more : List Char) :
    read state (text ++ more) = (read state text).bind (fun state => read state more) := by
  induction text generalizing state with
  | nil => rfl
  | cons c rest ih =>
      simp only [List.cons_append, read, ih, Option.bind_assoc]

theorem rest?_append_of_read (reads : read state text = some after) :
    rest? state (text ++ more) = rest? after more := by
  induction text generalizing state with
  | nil =>
      cases reads
      rfl
  | cons c rest ih =>
      rcases Option.bind_eq_some_iff.mp reads with ⟨between, isNext, reads⟩
      rw [List.cons_append, rest?, isNext]
      exact ih reads

/-- Where a text ends the docstring, what follows the text does not matter. -/
theorem exists_rest?_append (ends : read state text = none) :
    ∃ behind, ∀ more, rest? state (text ++ more) = some (behind ++ more) := by
  induction text generalizing state with
  | nil => cases ends
  | cons c rest ih =>
      cases isNext : next state c with
      | none =>
          refine ⟨rest, fun more => ?_⟩
          rw [List.cons_append, rest?, isNext]
      | some between =>
          rw [read, isNext] at ends
          rcases ih ends with ⟨behind, same⟩
          refine ⟨behind, fun more => ?_⟩
          rw [List.cons_append, rest?, isNext]
          exact same more

theorem length_lt_of_rest? (ends : rest? state text = some behind) :
    behind.length < text.length := by
  induction text generalizing state with
  | nil => cases ends
  | cons c rest ih =>
      rw [rest?] at ends
      cases isNext : next state c with
      | none =>
          rw [isNext] at ends
          cases ends
          exact Nat.lt_succ_self _
      | some between =>
          rw [isNext] at ends
          exact Nat.lt_succ_of_lt (ih ends)

/-- The quotes behind a text end the docstring, and nothing before them does, if the reader has
nothing to remember where they begin. -/
theorem rest?_quotes_iff (inside behind : List Char) :
    rest? .plain (inside ++ quotes ++ behind) = some behind ↔
      read .plain inside = some .plain := by
  rw [List.append_assoc]
  constructor
  · intro ends
    cases reads : read .plain inside with
    | none =>
        rcases exists_rest?_append reads with ⟨early, same⟩
        have long := congrArg List.length (Option.some.inj ((same _).symm.trans ends))
        simp only [List.length_append, quotes, List.length_cons] at long
        omega
    | some state =>
        rw [rest?_append_of_read reads] at ends
        cases state with
        | plain => rfl
        | oneQuote => exact absurd (Option.some.inj ends) (List.cons_ne_self '"' behind)
        | twoQuotes =>
            have long := congrArg List.length (Option.some.inj ends)
            exact absurd long (Nat.ne_of_gt (Nat.lt_add_of_pos_right Nat.two_pos))
        | escape =>
            have early : rest? .twoQuotes behind = some behind := ends
            exact absurd (length_lt_of_rest? early) (Nat.lt_irrefl _)
  · intro reads
    rw [rest?_append_of_read reads]
    rfl

/-- Whatever the reader remembers, it has forgotten behind the text. -/
def Resets (text : List Char) : Prop := ∀ state, read state text = some .plain

theorem resets_iff : Resets text ↔
    read .plain text = some .plain ∧ read .oneQuote text = some .plain ∧
      read .twoQuotes text = some .plain ∧ read .escape text = some .plain := by
  constructor
  · intro resets
    exact ⟨resets .plain, resets .oneQuote, resets .twoQuotes, resets .escape⟩
  · rintro ⟨fromPlain, fromOne, fromTwo, fromEscape⟩ state
    cases state with
    | plain => exact fromPlain
    | oneQuote => exact fromOne
    | twoQuotes => exact fromTwo
    | escape => exact fromEscape

instance (text : List Char) : Decidable (Resets text) := decidable_of_iff' _ resets_iff

/-- An ordinary character makes the reader forget what was before it. -/
theorem next_eq_plain {c : Char} (notBackslash : c ≠ '\\') (notQuote : c ≠ '"') (state : State) :
    next state c = some .plain := by
  rw [next, if_neg notQuote, if_neg (fun escapes => notBackslash escapes.1)]

theorem resets_cons {c : Char} (notBackslash : c ≠ '\\') (notQuote : c ≠ '"')
    (reads : read .plain text = some .plain) : Resets (c :: text) := by
  intro state
  rw [read, next_eq_plain notBackslash notQuote]
  exact reads

/-- Ordinary characters do not end a docstring. -/
theorem read_eq_plain (ordinary : ∀ c ∈ text, c ≠ '\\' ∧ c ≠ '"') :
    read .plain text = some .plain := by
  induction text with
  | nil => rfl
  | cons c rest ih =>
      rcases List.forall_mem_cons.mp ordinary with ⟨⟨notBackslash, notQuote⟩, later⟩
      exact resets_cons notBackslash notQuote (ih later) .plain

theorem read_append_of_read (reads : read state text = some after) :
    read state (text ++ more) = read after more := by
  rw [read_append, reads, Option.bind_some]

theorem read_plain_append (reads : read .plain text = some .plain) :
    read .plain (text ++ more) = read .plain more :=
  read_append_of_read reads

/-- A value with a text behind it that makes the reader forget does no harm exactly if it does not
end the docstring itself. -/
theorem read_value_append_iff {value : String} (resets : Resets text) :
    read .plain (value.toList ++ (text ++ more)) = some .plain ↔
      IsQuiet value ∧ read .plain more = some .plain := by
  unfold IsQuiet
  rw [read_append]
  cases read .plain value.toList with
  | none => exact iff_of_false nofun (fun parts => parts.1 rfl)
  | some state =>
      rw [Option.bind_some, read_append_of_read (resets state)]
      exact (and_iff_right nofun).symm

theorem read_value_iff {value : String} (resets : Resets text) :
    read .plain (value.toList ++ text) = some .plain ↔ IsQuiet value := by
  have behind : read .plain (value.toList ++ (text ++ [])) = some .plain ↔
      IsQuiet value ∧ read .plain [] = some .plain := read_value_append_iff resets
  rw [List.append_nil] at behind
  exact behind.trans (and_iff_left rfl)

/-- The same for values with a text between each two of them. -/
theorem read_intercalate_append_iff {between : String} (separates : Resets between.toList)
    (resets : Resets text) (values : List String) :
    read .plain ((between.intercalate values).toList ++ (text ++ more)) = some .plain ↔
      (∀ value ∈ values, IsQuiet value) ∧ read .plain more = some .plain := by
  induction values with
  | nil =>
      rw [String.intercalate_nil]
      change read .plain (text ++ more) = _ ↔ _
      rw [read_append_of_read (resets .plain)]
      exact (and_iff_right (fun _ => nofun)).symm
  | cons value rest ih =>
      rw [List.forall_mem_cons]
      cases rest with
      | nil =>
          rw [String.intercalate_singleton, read_value_append_iff resets]
          simp only [List.not_mem_nil, false_imp_iff, implies_true, and_true]
      | cons second others =>
          rw [String.intercalate_cons_cons, String.toList_append, String.toList_append,
            List.append_assoc, List.append_assoc, read_value_append_iff separates, ih, and_assoc]

theorem read_intercalate_iff {between : String} (separates : Resets between.toList)
    (resets : Resets text) (values : List String) :
    read .plain ((between.intercalate values).toList ++ text) = some .plain ↔
      ∀ value ∈ values, IsQuiet value := by
  have behind : read .plain ((between.intercalate values).toList ++ (text ++ [])) = some .plain ↔
      (∀ value ∈ values, IsQuiet value) ∧ read .plain [] = some .plain :=
    read_intercalate_append_iff separates resets values
  rw [List.append_nil] at behind
  exact behind.trans (and_iff_left rfl)

/-- A text that is given as a literal is read by its characters. -/
theorem read_literal {characters : List Char} (reads : read .plain characters = some .plain) :
    read .plain (String.ofList characters).toList = some .plain := by
  rw [String.toList_ofList, reads]

theorem resets_literal {characters : List Char} (resets : Resets characters) :
    Resets (String.ofList characters).toList := by
  rw [String.toList_ofList]
  exact resets

/-- The quotes right before the place of the reader. -/
def State.pending : State → List Char
  | .oneQuote => ['"']
  | .twoQuotes => ['"', '"']
  | _ => []

theorem next_eq_none_iff {c : Char} : next state c = none ↔ state = .twoQuotes ∧ c = '"' := by
  unfold next
  split_ifs with isQuote escapes
  · rw [and_iff_left isQuote]
    cases state with
    | twoQuotes => exact iff_of_true rfl rfl
    | _ => exact iff_of_false nofun nofun
  · exact iff_of_false nofun (fun parts => isQuote parts.2)
  · exact iff_of_false nofun (fun parts => isQuote parts.2)

theorem pending_isSuffix {c : Char} (isNext : next state c = some after) :
    after.pending <:+ state.pending ++ [c] := by
  unfold next at isNext
  split_ifs at isNext with isQuote escapes
  · rw [isQuote]
    cases state with
    | twoQuotes => cases isNext
    | escape =>
        cases isNext
        exact List.nil_suffix
    | _ =>
        cases isNext
        exact List.suffix_refl _
  · cases isNext
    exact List.nil_suffix
  · cases isNext
    exact List.nil_suffix

/-- A docstring ends nowhere but at three quotes in a row. -/
theorem quotes_isInfix_of_read (ends : read state text = none) :
    quotes <:+: state.pending ++ text := by
  induction text generalizing state with
  | nil => cases ends
  | cons c rest ih =>
      rw [List.append_cons]
      cases isNext : next state c with
      | none =>
          rcases next_eq_none_iff.mp isNext with ⟨isState, isQuote⟩
          rw [isState, isQuote]
          exact (List.prefix_append quotes rest).isInfix
      | some between =>
          rw [read, isNext] at ends
          rcases pending_isSuffix isNext with ⟨before, same⟩
          rw [← same, List.append_assoc]
          exact (ih ends).trans (List.suffix_append _ _).isInfix

theorem isQuiet_of_not_isInfix {value : String} (unquoted : ¬quotes <:+: value.toList) :
    IsQuiet value :=
  fun ends => unquoted (quotes_isInfix_of_read ends)

end Docstring
end Text
end ApiAccessors
