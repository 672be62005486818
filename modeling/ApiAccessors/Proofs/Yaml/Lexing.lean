import ApiAccessors.Proofs.Yaml.PlainText
import ApiAccessors.Yaml.Token

namespace ApiAccessors
namespace Yaml

/-!
# Steps of the lexer

What the lexer does with marks and scalars.  Between brackets it knows of no indentation, and all
that is open there are keys that may still turn out to be such.  So a state is told by the number of
open brackets, the tokens so far and the text to come; a step goes from one such state to the next,
and a walk over a part of the text is a chain of steps.
-/

open Json (IsGap)

namespace Lexer

/-! ## States -/

/-- No block is open, and nothing that is open must be a key. -/
structure IsCalm (lexer : Lexer) : Prop where
  indents : lexer.indents = []
  idle : ∀ key, some key ∈ lexer.pending → key.required = false

/-- A state with so many open brackets, these tokens, and this text behind a gap.  Where keys are
allowed it is said. -/
structure At (width : Nat) (allowed : Bool) (emitted : List Token) (text : List Char)
    (lexer : Lexer) : Prop where
  calm : lexer.IsCalm
  width : lexer.pending.length = width + 1
  allowed : allowed = true → lexer.keyAllowed = true
  emitted : lexer.emitted = emitted
  spaced : IsSpaced lexer.cursor text

section

variable {width : Nat} {allowed : Bool} {emitted : List Token} {text gap : List Char}
  {lexer : Lexer}

theorem At.exists_pending (isAt : At width allowed emitted text lexer) :
    ∃ entry outer, lexer.pending = entry :: outer ∧ outer.length = width := by
  cases isPending : lexer.pending with
  | nil =>
      have impossible := isAt.width
      rw [isPending] at impossible
      cases impossible
  | cons entry outer =>
      have isWidth := isAt.width
      rw [isPending] at isWidth
      exact ⟨entry, outer, rfl, Nat.succ.inj isWidth⟩

theorem At.inFlow (isAt : At (width + 1) allowed emitted text lexer) : lexer.inFlow = true := by
  unfold Lexer.inFlow
  rw [isAt.width]
  exact decide_eq_true (by omega)

/-- What is in front of a gap goes on to be so when part of the gap counts as read. -/
theorem At.behind_gap (isGap : IsGap gap) (isAt : At width allowed emitted (gap ++ text) lexer) :
    At width allowed emitted text lexer := by
  rcases isAt.spaced with ⟨front, isFront, isRest⟩
  refine ⟨isAt.calm, isAt.width, isAt.allowed, isAt.emitted, front ++ gap,
    List.forall_mem_append.mpr ⟨isFront, isGap⟩, ?_⟩
  rw [isRest, List.append_assoc]

theorem At.forget (isAt : At width true emitted text lexer) :
    At width allowed emitted text lexer :=
  ⟨isAt.calm, isAt.width, fun _ => isAt.allowed rfl, isAt.emitted, isAt.spaced⟩

/-! ## Keys that may still turn out to be such -/

/-- What becomes of an open key at a place further on. -/
def keep (cursor : Cursor) : Option PendingKey → Option PendingKey
  | some key =>
      if key.place.line != cursor.line || decide (keyLimit < cursor.offset - key.place.offset) then
        none
      else some key
  | none => none

theorem dropStale_of_idle (cursor : Cursor) {pending : List (Option PendingKey)}
    (idle : ∀ key, some key ∈ pending → key.required = false) :
    dropStale cursor pending = .ok (pending.map (keep cursor)) := by
  induction pending with
  | nil => rfl
  | cons entry outer ih =>
      have later := ih (fun key member => idle key (List.mem_cons_of_mem _ member))
      unfold dropStale
      cases entry with
      | none =>
          simp only [later]
          rfl
      | some key =>
          have notRequired := idle key List.mem_cons_self
          simp only [later, List.map_cons, keep, giveUp, notRequired]
          split
          · rfl
          · rfl

theorem keep_idle {cursor : Cursor} {pending : List (Option PendingKey)}
    (idle : ∀ key, some key ∈ pending → key.required = false) :
    ∀ key, some key ∈ pending.map (keep cursor) → key.required = false := by
  intro key member
  rcases List.mem_map.mp member with ⟨entry, isEntry, isKept⟩
  cases entry with
  | none => cases isKept
  | some old =>
      rw [keep, Option.ite_none_left_eq_some] at isKept
      exact idle key (isKept.2 ▸ isEntry)

theorem removeKey_of_calm (calm : lexer.IsCalm) {entry : Option PendingKey}
    {outer : List (Option PendingKey)} (isPending : lexer.pending = entry :: outer) :
    lexer.removeKey = .ok { lexer with pending := none :: outer } := by
  have givenUp : giveUp entry = .ok none := by
    cases entry with
    | none => rfl
    | some key =>
        have notRequired := calm.idle key (by rw [isPending]; exact List.mem_cons_self)
        unfold giveUp
        simp only [notRequired]
        rfl
  unfold removeKey
  simp only [isPending, givenUp]
  rfl

/-- The entry for what comes next, which may be a key where keys are allowed. -/
def savedKey (lexer : Lexer) (entry : Option PendingKey) : Option PendingKey :=
  if lexer.keyAllowed then some ⟨lexer.count, false, lexer.cursor⟩ else entry

theorem saveKey_of_calm (calm : lexer.IsCalm) {entry : Option PendingKey}
    {outer : List (Option PendingKey)} (isPending : lexer.pending = entry :: outer) :
    lexer.saveKey = .ok { lexer with pending := lexer.savedKey entry :: outer } := by
  unfold saveKey savedKey
  split
  · simp only [removeKey_of_calm calm isPending, calm.indents]
    simp [bind, Except.bind, pure, Except.pure]
  · rw [← isPending]

theorem savedKey_idle (calm : lexer.IsCalm) {entry : Option PendingKey}
    {outer : List (Option PendingKey)} (isPending : lexer.pending = entry :: outer) :
    ∀ key, some key ∈ lexer.savedKey entry :: outer → key.required = false := by
  intro key member
  rcases List.mem_cons.mp member with isFirst | isOuter
  · unfold savedKey at isFirst
    split at isFirst
    · cases isFirst
      rfl
    · exact calm.idle key (by rw [isPending, isFirst]; exact List.mem_cons_self)
  · exact calm.idle key (by rw [isPending]; exact List.mem_cons_of_mem _ isOuter)

theorem removed_idle (calm : lexer.IsCalm) {entry : Option PendingKey}
    {outer : List (Option PendingKey)} (isPending : lexer.pending = entry :: outer) :
    ∀ key, some key ∈ none :: outer → key.required = false := by
  intro key member
  rcases List.mem_cons.mp member with isFirst | isOuter
  · cases isFirst
  · exact calm.idle key (by rw [isPending]; exact List.mem_cons_of_mem _ isOuter)

/-! ## Gaps in front of a token -/

/-- A state behind a gap. -/
def behind (gap : List Char) (lexer : Lexer) : Lexer :=
  { lexer with
    cursor := lexer.cursor.advanceBy gap.length
    pending := lexer.pending.map (keep (lexer.cursor.advanceBy gap.length))
    keyAllowed := lexer.keyAllowed || (!lexer.inFlow && gap.any (· == '\n')) }

theorem skipSpace_gap (isGap : IsGap gap) (ends : EndsGap text) {fuel : Nat}
    (isRest : lexer.cursor.rest = gap ++ text) (enough : gap.length < fuel) :
    skipSpace fuel lexer = { lexer.behind gap with pending := lexer.pending } := by
  induction gap generalizing lexer fuel with
  | nil =>
      rcases fuel with - | fuel
      · cases enough
      have noSpace : lexer.cursor.skipSpaces = lexer.cursor := by
        apply Cursor.skipSpaces_eq_self
        rw [isRest]
        exact fun c isFirst => (ends c isFirst).2.1
      have noComment : (lexer.cursor.rest.head? == some '#') = false := by
        apply beq_eq_false_iff_ne.mpr
        rw [isRest]
        exact fun isComment => (ends '#' isComment).2.2 rfl
      have noBreak : lexer.cursor.takeBreak = ([], lexer.cursor) := by
        apply Cursor.takeBreak_eq_nil
        rw [isRest]
        exact fun c isFirst => (ends c isFirst).1
      rw [skipSpace]
      simp only [noSpace, noComment, Bool.false_eq_true, if_false, noBreak]
      simp [Lexer.moveTo, behind, Cursor.advanceBy]
  | cons c gap ih =>
      rcases fuel with - | fuel
      · cases enough
      rcases List.forall_mem_cons.mp isGap with ⟨here, later⟩
      have inner := Cursor.rest_advance isRest
      rcases here with rfl | rfl
      · have moved : skipSpace (fuel + 1) lexer =
            skipSpace (fuel + 1) (lexer.moveTo lexer.cursor.advance) := by
          rw [skipSpace, skipSpace]
          simp only [Cursor.skipSpaces_of_space isRest, Lexer.moveTo]
          rfl
        rw [moved, ih later inner (Nat.lt_of_succ_lt enough)]
        rfl
      · have noSpace : lexer.cursor.skipSpaces = lexer.cursor := by
          apply Cursor.skipSpaces_eq_self
          rw [isRest]
          intro c isFirst
          cases isFirst
          decide
        have noComment : (lexer.cursor.rest.head? == some '#') = false := by
          rw [isRest]
          rfl
        rw [skipSpace]
        simp only [noSpace, noComment, Bool.false_eq_true, if_false,
          Cursor.takeBreak_newline isRest]
        rw [ih later inner (Nat.lt_of_succ_lt_succ enough)]
        have isAllowed : ((lexer.keyAllowed || !lexer.inFlow) ||
            (!lexer.inFlow && gap.any (· == '\n'))) =
              (lexer.keyAllowed || (!lexer.inFlow && ('\n' :: gap).any (· == '\n'))) := by
          cases lexer.inFlow <;> simp
        exact congrArg (fun keyAllowed =>
          { lexer.behind ('\n' :: gap) with pending := lexer.pending, keyAllowed }) isAllowed

theorem behind_calm (calm : lexer.IsCalm) : (lexer.behind gap).IsCalm :=
  ⟨calm.indents, keep_idle calm.idle⟩

theorem unwind_of_calm (calm : lexer.IsCalm) (column : Nat) : lexer.unwind column = lexer := by
  rcases lexer with ⟨cursor, indents, pending, keyAllowed, emitted, count⟩
  obtain rfl : indents = [] := calm.indents
  exact ite_self _

theorem unwindAll_of_calm (calm : lexer.IsCalm) : lexer.unwindAll = lexer := by
  rcases lexer with ⟨cursor, indents, pending, keyAllowed, emitted, count⟩
  obtain rfl : indents = [] := calm.indents
  exact ite_self _

/-- Where a token begins, the tokens are those from behind it on. -/
theorem tokens_of_takeToken (calm : lexer.IsCalm) (isGap : IsGap gap) {c : Char}
    {rest : List Char} (ends : EndsGap (c :: rest)) (isRest : lexer.cursor.rest = gap ++ c :: rest)
    {fuel : Nat} (enough : gap.length < fuel) {next : Lexer}
    (isTaken : (lexer.behind gap).takeToken fuel c rest = .ok next) :
    tokens (fuel + 1) lexer = tokens fuel next := by
  have dropped : dropStale (lexer.behind gap).cursor lexer.pending =
      .ok (lexer.behind gap).pending :=
    dropStale_of_idle _ calm.idle
  have inner : (lexer.behind gap).cursor.rest = c :: rest := Cursor.rest_advanceBy isRest
  rw [tokens]
  simp only [skipSpace_gap isGap ends isRest enough, dropped, unwind_of_calm (behind_calm calm),
    inner, isTaken]

/-- Behind everything there is one token more. -/
theorem tokens_of_end (calm : lexer.IsCalm) (outermost : lexer.pending.length = 1)
    (isGap : IsGap gap) (isRest : lexer.cursor.rest = gap) {fuel : Nat}
    (enough : gap.length < fuel) :
    tokens (fuel + 1) lexer = (.finish :: lexer.emitted).reverse := by
  have isEnd : lexer.cursor.rest = gap ++ [] := isRest.trans (List.append_nil gap).symm
  have dropped : dropStale (lexer.behind gap).cursor lexer.pending =
      .ok (lexer.behind gap).pending :=
    dropStale_of_idle _ calm.idle
  have inner : (lexer.behind gap).cursor.rest = [] := Cursor.rest_advanceBy isEnd
  have isOutermost : (lexer.behind gap).pending.length = 1 :=
    (List.length_map _).trans outermost
  rcases List.length_eq_one_iff.mp isOutermost with ⟨entry, isPending⟩
  rw [tokens]
  simp only [skipSpace_gap isGap endsGap_nil isEnd enough, dropped,
    unwind_of_calm (behind_calm calm), inner, takeFinish,
    unwindAll_of_calm (behind_calm calm), removeKey_of_calm (behind_calm calm) isPending]
  rfl

/-! ## Walks -/

/-- Whatever the fuel, as long as it is enough, the tokens of a state are those of one that is
reached from it. -/
def Reaches (lexer : Lexer) (goal : Lexer → Prop) : Prop :=
  ∀ fuel, lexer.cursor.rest.length + 2 ≤ fuel → ∃ next left, goal next ∧
    next.cursor.rest.length + 2 ≤ left ∧ tokens fuel lexer = tokens left next

/-- From each state of the one sort one of the other sort is reached. -/
def Walks (start goal : Lexer → Prop) : Prop := ∀ lexer, start lexer → lexer.Reaches goal

variable {start middle goal : Lexer → Prop}

theorem Walks.of_imp (imp : ∀ lexer, start lexer → goal lexer) : Walks start goal :=
  fun lexer isStart fuel enough => ⟨lexer, fuel, imp lexer isStart, enough, rfl⟩

theorem Walks.trans (first : Walks start middle) (second : Walks middle goal) :
    Walks start goal := by
  intro lexer isStart fuel enough
  rcases first lexer isStart fuel enough with ⟨between, left, isBetween, enoughLeft, same⟩
  rcases second between isBetween left enoughLeft with ⟨next, last, isNext, enoughLast, alike⟩
  exact ⟨next, last, isNext, enoughLast, same.trans alike⟩

theorem reaches_of_takeToken (calm : lexer.IsCalm) (isGap : IsGap gap) {c : Char}
    {rest : List Char} (ends : EndsGap (c :: rest)) (isRest : lexer.cursor.rest = gap ++ c :: rest)
    (taken : ∀ fuel, rest.length < fuel → ∃ next,
      (lexer.behind gap).takeToken fuel c rest = .ok next ∧ goal next ∧
        next.cursor.rest.length ≤ rest.length) :
    lexer.Reaches goal := by
  intro fuel enough
  rw [isRest, List.length_append, List.length_cons] at enough
  rcases fuel with - | fuel
  · omega
  rcases taken fuel (by omega) with ⟨next, isTaken, isGoal, shorter⟩
  exact ⟨next, fuel, isGoal, by omega,
    tokens_of_takeToken calm isGap ends isRest (by omega) isTaken⟩

/-- A step over one token. -/
theorem walks_of_takeToken {c : Char} {rest : List Char} (ends : EndsGap (c :: rest))
    (taken : ∀ ready, At width allowed emitted (c :: rest) ready → ready.cursor.rest = c :: rest →
      ∀ fuel, rest.length < fuel → ∃ next, ready.takeToken fuel c rest = .ok next ∧ goal next ∧
        next.cursor.rest.length ≤ rest.length) :
    Walks (At width allowed emitted (c :: rest)) goal := by
  intro lexer isAt
  rcases isAt.spaced with ⟨gap, isGap, isRest⟩
  have inner : (lexer.behind gap).cursor.rest = c :: rest := Cursor.rest_advanceBy isRest
  refine reaches_of_takeToken isAt.calm isGap ends isRest (taken (lexer.behind gap) ?_ inner)
  exact ⟨behind_calm isAt.calm, (List.length_map _).trans isAt.width,
    fun isAllowed => Bool.or_eq_true_iff.mpr (Or.inl (isAt.allowed isAllowed)), isAt.emitted,
    IsSpaced.of_rest inner⟩

/-! ## Marks -/

variable {c : Char} {rest : List Char} {token : Token}

theorem atMark_of_begins (begins : lexer.cursor.rest = c :: rest) (mark : Char)
    (differ : c ≠ mark) : lexer.cursor.atMark mark = false := by
  apply Cursor.atMark_of_head
  rw [begins]
  exact fun same => differ (Option.some.inj same)

theorem walks_opening (isOpening : c = '[' ∧ token = .listOpen ∨ c = '\x7b' ∧ token = .mapOpen) :
    Walks (At width allowed emitted (c :: rest)) (At (width + 1) true (token :: emitted) rest) := by
  have ends : EndsGap (c :: rest) := by
    rcases isOpening with ⟨rfl, -⟩ | ⟨rfl, -⟩
    all_goals exact endsGap_cons (by decide) (by decide) (by decide) rest
  refine walks_of_takeToken ends (fun ready isAt begins fuel _ => ?_)
  have isOpened : ready.takeToken fuel c rest = ready.takeOpening token := by
    have noMark := atMark_of_begins begins
    rcases isOpening with ⟨rfl, rfl⟩ | ⟨rfl, rfl⟩
    all_goals
      unfold takeToken
      rw [noMark '-' (by decide), noMark '.' (by decide)]
      rfl
  rcases isAt.exists_pending with ⟨entry, outer, isPending, isWidth⟩
  have inner := Cursor.rest_advance begins
  rw [isOpened]
  unfold takeOpening
  simp only [saveKey_of_calm isAt.calm isPending]
  refine ⟨_, rfl, ⟨⟨isAt.calm.indents, ?_⟩, ?_, fun _ => rfl, ?_, IsSpaced.of_rest inner⟩,
    Nat.le_of_eq (congrArg List.length inner)⟩
  · intro key member
    rcases List.mem_cons.mp member with isNone | isSaved
    · cases isNone
    · exact savedKey_idle isAt.calm isPending key isSaved
  · exact congrArg (· + 2) isWidth
  · exact congrArg (token :: ·) isAt.emitted

theorem walks_closing
    (isClosing : c = ']' ∧ token = .listClose ∨ c = '\x7d' ∧ token = .mapClose) :
    Walks (At (width + 1) allowed emitted (c :: rest))
      (At width false (token :: emitted) rest) := by
  have ends : EndsGap (c :: rest) := by
    rcases isClosing with ⟨rfl, -⟩ | ⟨rfl, -⟩
    all_goals exact endsGap_cons (by decide) (by decide) (by decide) rest
  refine walks_of_takeToken ends (fun ready isAt begins fuel _ => ?_)
  have isClosed : ready.takeToken fuel c rest = ready.takeClosing token := by
    have noMark := atMark_of_begins begins
    rcases isClosing with ⟨rfl, rfl⟩ | ⟨rfl, rfl⟩
    all_goals
      unfold takeToken
      rw [noMark '-' (by decide), noMark '.' (by decide)]
      rfl
  rcases isAt.exists_pending with ⟨entry, outer, isPending, isWidth⟩
  have inner := Cursor.rest_advance begins
  have inFlow : Lexer.inFlow { ready with pending := none :: outer } = true :=
    decide_eq_true (by rw [List.length_cons, isWidth]; omega)
  rw [isClosed]
  unfold takeClosing
  simp only [removeKey_of_calm isAt.calm isPending]
  refine ⟨_, if_pos inFlow, ⟨⟨isAt.calm.indents, ?_⟩, isWidth, (absurd · Bool.false_ne_true),
    ?_, IsSpaced.of_rest inner⟩, Nat.le_of_eq (congrArg List.length inner)⟩
  · exact fun key member =>
      isAt.calm.idle key (by rw [isPending]; exact List.mem_cons_of_mem _ member)
  · exact congrArg (token :: ·) isAt.emitted

theorem walks_comma :
    Walks (At width allowed emitted (',' :: rest)) (At width true (.comma :: emitted) rest) := by
  have ends : EndsGap (',' :: rest) := endsGap_cons (by decide) (by decide) (by decide) rest
  refine walks_of_takeToken ends (fun ready isAt begins fuel _ => ?_)
  have isComma : ready.takeToken fuel ',' rest = ready.takeComma := by
    unfold takeToken
    rw [atMark_of_begins begins '-' (by decide), atMark_of_begins begins '.' (by decide)]
    rfl
  rcases isAt.exists_pending with ⟨entry, outer, isPending, isWidth⟩
  have inner := Cursor.rest_advance begins
  rw [isComma]
  unfold takeComma
  simp only [removeKey_of_calm isAt.calm isPending]
  exact ⟨_, rfl, ⟨⟨isAt.calm.indents, removed_idle isAt.calm isPending⟩,
    congrArg (· + 1) isWidth, fun _ => rfl, congrArg (Token.comma :: ·) isAt.emitted,
    IsSpaced.of_rest inner⟩, Nat.le_of_eq (congrArg List.length inner)⟩

/-! ## Scalars -/

theorem takeToken_of_beginsWord (starts : beginsWord c = true)
    (begins : lexer.cursor.rest = c :: rest) (fuel : Nat) :
    lexer.takeToken fuel c rest = lexer.takePlain fuel := by
  have noMark := atMark_of_begins begins
  have noBlank := noBlank_of_beginsWord starts
  have differ := ne_of_beginsWord starts
  simp only [String.reduceToList, List.forall_mem_cons] at differ
  have isPlain : beginsPlain lexer.inFlow (c :: rest) = true := by
    simp [beginsPlain, noBlank, differ]
  unfold takeToken
  simp [noMark, differ, isPlain]

theorem takeToken_of_dash {digit : Char} (starts : beginsWord digit = true)
    (begins : lexer.cursor.rest = '-' :: digit :: rest) (fuel : Nat) :
    lexer.takeToken fuel '-' (digit :: rest) = lexer.takePlain fuel := by
  have notDash := ne_of_beginsWord starts '-' (by decide)
  have noDocument : lexer.cursor.atMark '-' = false := by
    simp [Cursor.atMark, begins, notDash]
  have noItem : atBlank (digit :: rest) = false :=
    Bool.or_eq_false_iff.mpr (noBlank_of_beginsWord starts)
  have isPlain : beginsPlain lexer.inFlow ('-' :: digit :: rest) = true := by
    simp [beginsPlain, noItem]
  unfold takeToken
  rw [noDocument, atMark_of_begins begins '.' (by decide)]
  simp [noItem, isPlain]

/-- A word between brackets. -/
theorem walks_plain (isPlain : IsPlainText text) {last : List Char} (isGap : IsGap gap)
    (closes : Closes last) :
    Walks (At (width + 1) allowed emitted (text ++ (gap ++ last)))
      (At (width + 1) false (.scalar (String.ofList text) true :: emitted) last) := by
  have taken : ∀ {c : Char} {rest : List Char}, text ++ (gap ++ last) = c :: rest →
      (∀ ready : Lexer, ready.cursor.rest = c :: rest →
        ∀ fuel, ready.takeToken fuel c rest = ready.takePlain fuel) →
      Walks (At (width + 1) allowed emitted (c :: rest))
        (At (width + 1) false (.scalar (String.ofList text) true :: emitted) last) := by
    intro c rest isText isTaken
    have ends := isPlain.endsGap (gap ++ last)
    rw [isText] at ends
    refine walks_of_takeToken ends (fun ready isAt begins fuel enough => ?_)
    rcases isAt.exists_pending with ⟨entry, outer, isPending, isWidth⟩
    rcases fuel with - | fuel
    · cases enough
    rcases plainScalar_of_isPlainText isPlain isGap closes (begins.trans isText.symm)
      ready.leastIndent fuel with ⟨brokeLine, behind, isRead, isSpaced, shorter⟩
    have notEmpty := isPlain.length_pos
    rw [begins, List.length_cons] at shorter
    rw [isTaken ready begins]
    unfold takePlain
    simp only [saveKey_of_calm isAt.calm isPending, isAt.inFlow, isRead]
    exact ⟨_, rfl, ⟨⟨isAt.calm.indents, savedKey_idle isAt.calm isPending⟩,
      congrArg (· + 1) isWidth, (absurd · Bool.false_ne_true),
      congrArg (Token.scalar (String.ofList text) true :: ·) isAt.emitted, isSpaced⟩,
      show behind.rest.length ≤ _ by omega⟩
  rcases isPlain.begins with ⟨first, others, rfl, starts⟩ | ⟨digit, others, rfl, starts⟩
  · exact taken rfl (fun ready begins => takeToken_of_beginsWord starts begins)
  · exact taken rfl (fun ready begins => takeToken_of_dash starts begins)

section

variable {raw content : List Char}

/-- A state behind a quoted scalar, which may be a key where keys were allowed. -/
def behindQuoted (raw content : List Char) (entry : Option PendingKey)
    (outer : List (Option PendingKey)) (lexer : Lexer) : Lexer :=
  { lexer with
    cursor := lexer.cursor.advanceBy (Json.quoted raw).length
    pending := lexer.savedKey entry :: outer
    keyAllowed := false
    emitted := .scalar (String.ofList content) false :: lexer.emitted
    count := lexer.count + 1 }

theorem takeToken_of_quoted (calm : lexer.IsCalm) {entry : Option PendingKey}
    {outer : List (Option PendingKey)} (isPending : lexer.pending = entry :: outer)
    (isQuoted : IsQuotedText raw content) (begins : lexer.cursor.rest = Json.quoted raw ++ rest)
    {fuel : Nat} (enough : (raw ++ ['"'] ++ rest).length < fuel) :
    lexer.takeToken fuel '"' (raw ++ ['"'] ++ rest) =
      .ok (lexer.behindQuoted raw content entry outer) := by
  rw [List.length_append, List.length_append] at enough
  have isRead := quotedScalar_of_isQuotedText isQuoted fuel (by omega) begins
  have isTaken : lexer.takeToken fuel '"' (raw ++ ['"'] ++ rest) =
      lexer.takeProperty (quotedScalar '"' fuel) (fun text => .scalar text false) := by
    unfold takeToken
    rw [atMark_of_begins begins '-' (by decide), atMark_of_begins begins '.' (by decide)]
    rfl
  rw [isTaken]
  unfold takeProperty
  simp only [saveKey_of_calm calm isPending, isRead]
  rfl

/-- A step over a quoted scalar. -/
theorem walks_of_behindQuoted (isQuoted : IsQuotedText raw content)
    (reached : ∀ ready entry outer, At width allowed emitted (Json.quoted raw ++ rest) ready →
      ready.cursor.rest = Json.quoted raw ++ rest → ready.pending = entry :: outer →
      outer.length = width → goal (ready.behindQuoted raw content entry outer)) :
    Walks (At width allowed emitted (Json.quoted raw ++ rest)) goal := by
  refine walks_of_takeToken (endsGap_cons (by decide) (by decide) (by decide) _)
    (fun ready isAt begins fuel enough => ?_)
  rcases isAt.exists_pending with ⟨entry, outer, isPending, isWidth⟩
  have inner : (ready.cursor.advanceBy (Json.quoted raw).length).rest = rest :=
    Cursor.rest_advanceBy begins
  refine ⟨_, takeToken_of_quoted isAt.calm isPending isQuoted begins enough,
    reached ready entry outer isAt begins isPending isWidth, ?_⟩
  change (ready.cursor.advanceBy (Json.quoted raw).length).rest.length ≤
    (raw ++ ['"'] ++ rest).length
  rw [inner, List.length_append]
  exact Nat.le_add_left _ _

theorem walks_quoted (isQuoted : IsQuotedText raw content) :
    Walks (At width allowed emitted (Json.quoted raw ++ rest))
      (At width false (.scalar (String.ofList content) false :: emitted) rest) :=
  walks_of_behindQuoted isQuoted
    (fun _ _ _ isAt begins isPending isWidth =>
      ⟨⟨isAt.calm.indents, savedKey_idle isAt.calm isPending⟩, congrArg (· + 1) isWidth,
        (absurd · Bool.false_ne_true), congrArg (_ :: ·) isAt.emitted,
        IsSpaced.of_rest (Cursor.rest_advanceBy begins)⟩)

/-- Right behind a scalar that may still turn out to be a key. -/
structure AtColon (width : Nat) (emitted : List Token) (name : String) (length : Nat)
    (text : List Char) (lexer : Lexer) : Prop where
  calm : lexer.IsCalm
  pending : ∃ key outer, lexer.pending = some key :: outer ∧ outer.length = width ∧
    lexer.count = key.number + 1 ∧ lexer.cursor.line = key.place.line ∧
    lexer.cursor.offset = key.place.offset + length
  emitted : lexer.emitted = .scalar name false :: emitted
  rest : lexer.cursor.rest = text

theorem walks_beforeColon (isQuoted : IsQuotedText raw content) :
    Walks (At width true emitted (Json.quoted raw ++ rest))
      (AtColon width emitted (String.ofList content) (Json.quoted raw).length rest) := by
  have quotedNoBreak : ∀ c ∈ Json.quoted raw, isBreak c = false :=
    List.forall_mem_cons.mpr ⟨rfl, List.forall_mem_append.mpr
      ⟨isQuoted.noBreak, List.forall_mem_singleton.mpr rfl⟩⟩
  refine walks_of_behindQuoted isQuoted
    (fun ready entry outer isAt begins isPending isWidth => ?_)
  have isSaved : ready.savedKey entry = some ⟨ready.count, false, ready.cursor⟩ :=
    if_pos (isAt.allowed rfl)
  exact ⟨⟨isAt.calm.indents, savedKey_idle isAt.calm isPending⟩,
    ⟨_, outer, congrArg (· :: outer) isSaved, isWidth, rfl,
      Cursor.line_advanceBy begins quotedNoBreak, Cursor.offset_advanceBy begins⟩,
    congrArg (_ :: ·) isAt.emitted, Cursor.rest_advanceBy begins⟩

/-- Between brackets a colon on the same line, and not too far away, makes a key of a scalar. -/
theorem walks_colon {name : String} {length : Nat} (onlySpaces : ∀ c ∈ gap, c = ' ')
    (near : length + gap.length ≤ keyLimit) :
    Walks (AtColon (width + 1) emitted name length (gap ++ ':' :: rest))
      (At (width + 1) false (.value :: .scalar name false :: .key :: emitted) rest) := by
  intro lexer isAt
  rcases isAt.pending with ⟨key, outer, isPending, isWidth, isNumber, isLine, isOffset⟩
  have isGap : IsGap gap := fun c member => Or.inl (onlySpaces c member)
  have gapNoBreak : ∀ c ∈ gap, isBreak c = false := by
    intro c member
    rw [onlySpaces c member]
    rfl
  have ends : EndsGap (':' :: rest) := endsGap_cons (by decide) (by decide) (by decide) rest
  refine reaches_of_takeToken isAt.calm isGap ends isAt.rest (fun fuel _ => ?_)
  have begins : (lexer.behind gap).cursor.rest = ':' :: rest := Cursor.rest_advanceBy isAt.rest
  have inner := Cursor.rest_advance begins
  have isKept : keep (lexer.behind gap).cursor (some key) = some key := by
    have sameLine : (lexer.behind gap).cursor.line = key.place.line :=
      (Cursor.line_advanceBy isAt.rest gapNoBreak).trans isLine
    have isDistance : (lexer.behind gap).cursor.offset = key.place.offset + length + gap.length :=
      (Cursor.offset_advanceBy isAt.rest).trans (congrArg (· + gap.length) isOffset)
    have notFar : ¬keyLimit < (lexer.behind gap).cursor.offset - key.place.offset := by omega
    simp [keep, sameLine, notFar]
  have isOpen : (lexer.behind gap).pending =
      some key :: outer.map (keep (lexer.behind gap).cursor) := by
    change lexer.pending.map (keep (lexer.behind gap).cursor) = _
    rw [isPending, List.map_cons, isKept]
  have inFlow : (lexer.behind gap).inFlow = true := by
    unfold Lexer.inFlow
    rw [isOpen, List.length_cons, List.length_map, isWidth]
    exact decide_eq_true (by omega)
  have isValue : (lexer.behind gap).takeToken fuel ':' rest = (lexer.behind gap).takeValue := by
    unfold takeToken
    rw [atMark_of_begins begins '-' (by decide), atMark_of_begins begins '.' (by decide)]
    simp [standsAlone, inFlow]
  have isEmitted : (lexer.behind gap).emitAt key.number .key =
      { lexer.behind gap with
        emitted := .scalar name false :: .key :: emitted
        count := lexer.count + 1 } := by
    have isBehind : lexer.count - key.number = 1 := by omega
    unfold emitAt
    rw [show (lexer.behind gap).count = lexer.count from rfl,
      show (lexer.behind gap).emitted = _ from isAt.emitted, isBehind]
    rfl
  rw [isValue]
  unfold takeValue
  simp only [isOpen, inFlow, if_true, isEmitted]
  refine ⟨_, rfl, ⟨⟨isAt.calm.indents, ?_⟩, ?_, (absurd · Bool.false_ne_true), rfl,
    IsSpaced.of_rest inner⟩, Nat.le_of_eq (congrArg List.length inner)⟩
  · exact removed_idle (behind_calm isAt.calm) isOpen
  · exact congrArg (· + 1) ((List.length_map _).trans isWidth)

/-- A key with its colon. -/
theorem walks_key (isQuoted : IsQuotedText raw content) (onlySpaces : ∀ c ∈ gap, c = ' ')
    (near : (Json.quoted raw).length + gap.length ≤ keyLimit) :
    Walks (At (width + 1) true emitted (Json.quoted raw ++ (gap ++ ':' :: rest)))
      (At (width + 1) false
        (.value :: .scalar (String.ofList content) false :: .key :: emitted) rest) :=
  (walks_beforeColon isQuoted).trans (walks_colon onlySpaces near)

end

end

end Lexer

end Yaml
end ApiAccessors
