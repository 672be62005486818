import ApiAccessors.Text.Utf8

namespace ApiAccessors
namespace Text
namespace Utf8

/-!
# Bytes of a text

Strict reading takes back what writing made, and reads nothing that was not written that way: the
bytes that stand for a text are those of the text.  Both directions are shown for the first
character and carried along the sequence.
-/

variable {low high count code : Nat} {byte : UInt8} {bytes rest others : List UInt8} {c : Char}

theorem more_succ : more (count + 1) code bytes = lead 0x80 0xBF count code bytes := by
  cases bytes with
  | nil => rfl
  | cons byte rest => rfl

theorem lead_eq_char_iff :
    lead low high count code bytes = .char c others ↔
      ∃ byte rest, bytes = byte :: rest ∧ (low ≤ byte.toNat ∧ byte.toNat ≤ high) ∧
        more count (code * 64 + (byte.toNat - 0x80)) rest = .char c others := by
  cases bytes with
  | nil =>
      constructor
      · intro isChar
        cases isChar
      · rintro ⟨_, _, impossible, -⟩
        cases impossible
  | cons byte rest =>
      rw [lead, continuation?]
      by_cases inside : low ≤ byte.toNat ∧ byte.toNat ≤ high
      · rw [if_pos inside]
        constructor
        · intro isChar
          exact ⟨byte, rest, rfl, inside, isChar⟩
        · rintro ⟨_, _, same, -, isChar⟩
          cases same
          exact isChar
      · rw [if_neg inside]
        constructor
        · intro isChar
          cases isChar
        · rintro ⟨_, _, same, others, -⟩
          cases same
          exact absurd others inside

theorem eq_toUInt8 (byte : UInt8) {number : Nat} (same : byte.toNat = number) :
    byte = number.toUInt8 := by
  rw [← same, Nat.toUInt8_eq, UInt8.ofNat_toNat]

theorem toNat_toUInt8 (number : Nat) (small : number < 0x100) :
    number.toUInt8.toNat = number := by
  rw [Nat.toUInt8_eq, UInt8.toNat_ofNat']
  exact Nat.mod_eq_of_lt small

theorem toNat_ofNat (code : Nat) (valid : code.isValidChar) : (Char.ofNat code).toNat = code := by
  rw [Char.ofNat, dif_pos valid]
  rfl

theorem encodeChar_one (small : code < 0x80) : encodeChar (Char.ofNat code) = [code.toUInt8] := by
  have isCode := toNat_ofNat code (Or.inl (by omega))
  rw [encodeChar]
  simp only [isCode, if_pos small]

theorem encodeChar_two (great : 0x80 ≤ code) (small : code < 0x800) :
    encodeChar (Char.ofNat code) = [(0xC0 + code / 64).toUInt8, (0x80 + code % 64).toUInt8] := by
  have isCode := toNat_ofNat code (Or.inl (by omega))
  rw [encodeChar]
  simp only [isCode, if_neg (Nat.not_lt.mpr great), if_pos small]

theorem encodeChar_three (great : 0x800 ≤ code) (small : code < 0x10000)
    (valid : code.isValidChar) :
    encodeChar (Char.ofNat code) =
      [(0xE0 + code / 4096).toUInt8, (0x80 + code / 64 % 64).toUInt8,
        (0x80 + code % 64).toUInt8] := by
  have isCode := toNat_ofNat code valid
  rw [encodeChar]
  simp only [isCode, if_neg (show ¬code < 0x80 by omega), if_neg (show ¬code < 0x800 by omega),
    if_pos small]

theorem encodeChar_four (great : 0x10000 ≤ code) (small : code < 0x110000) :
    encodeChar (Char.ofNat code) =
      [(0xF0 + code / 262144).toUInt8, (0x80 + code / 4096 % 64).toUInt8,
        (0x80 + code / 64 % 64).toUInt8, (0x80 + code % 64).toUInt8] := by
  have isCode := toNat_ofNat code (Or.inr (by omega))
  rw [encodeChar]
  simp only [isCode, if_neg (show ¬code < 0x80 by omega), if_neg (show ¬code < 0x800 by omega),
    if_neg (show ¬code < 0x10000 by omega)]

theorem step_one (small : byte.toNat < 0x80) :
    step byte rest = .char (Char.ofNat byte.toNat) rest := by
  unfold step
  rw [if_pos small]

theorem step_two (great : 0xC2 ≤ byte.toNat) (small : byte.toNat < 0xE0) :
    step byte rest = lead 0x80 0xBF 0 (byte.toNat - 0xC0) rest := by
  unfold step
  simp only
  rw [if_neg (by omega), if_neg (by omega), if_pos small]

/-- The bytes that may stand second in a character that needs three or four. -/
def MayFollow (first second : UInt8) : Prop :=
  (0x80 ≤ second.toNat ∧ second.toNat ≤ 0xBF) ∧
    (first.toNat = 0xE0 → 0xA0 ≤ second.toNat) ∧ (first.toNat = 0xED → second.toNat ≤ 0x9F) ∧
    (first.toNat = 0xF0 → 0x90 ≤ second.toNat) ∧ (first.toNat = 0xF4 → second.toNat ≤ 0x8F)

theorem lead_eq_char_iff_mayFollow (byte : UInt8)
    (same : ∀ second : UInt8,
      low ≤ second.toNat ∧ second.toNat ≤ high ↔ MayFollow byte second) :
    lead low high count code bytes = .char c others ↔
      ∃ second rest, bytes = second :: rest ∧ MayFollow byte second ∧
        more count (code * 64 + (second.toNat - 0x80)) rest = .char c others := by
  simp only [lead_eq_char_iff, same]

theorem step_three_iff (great : 0xE0 ≤ byte.toNat) (small : byte.toNat < 0xF0) :
    step byte bytes = .char c others ↔
      ∃ second rest, bytes = second :: rest ∧ MayFollow byte second ∧
        more 1 ((byte.toNat - 0xE0) * 64 + (second.toNat - 0x80)) rest = .char c others := by
  unfold step
  simp only
  rw [if_neg (by omega), if_neg (by omega), if_neg (by omega)]
  by_cases isLeast : byte.toNat = 0xE0
  · rw [if_pos isLeast, lead_eq_char_iff_mayFollow byte (by unfold MayFollow; omega),
      isLeast]
  rw [if_neg isLeast]
  by_cases surrogate : byte.toNat = 0xED
  · rw [if_pos surrogate, lead_eq_char_iff_mayFollow byte (by unfold MayFollow; omega),
      surrogate]
  · rw [if_neg surrogate, if_pos small,
      lead_eq_char_iff_mayFollow byte (by unfold MayFollow; omega)]

theorem step_four_iff (great : 0xF0 ≤ byte.toNat) (small : byte.toNat ≤ 0xF4) :
    step byte bytes = .char c others ↔
      ∃ second rest, bytes = second :: rest ∧ MayFollow byte second ∧
        more 2 ((byte.toNat - 0xF0) * 64 + (second.toNat - 0x80)) rest = .char c others := by
  unfold step
  simp only
  rw [if_neg (by omega), if_neg (by omega), if_neg (by omega), if_neg (by omega),
    if_neg (by omega), if_neg (by omega)]
  by_cases isLeast : byte.toNat = 0xF0
  · rw [if_pos isLeast, lead_eq_char_iff_mayFollow byte (by unfold MayFollow; omega),
      isLeast]
  rw [if_neg isLeast]
  by_cases isGreatest : byte.toNat = 0xF4
  · rw [if_neg (by omega), if_pos isGreatest,
      lead_eq_char_iff_mayFollow byte (by unfold MayFollow; omega), isGreatest]
  · rw [if_pos (by omega), lead_eq_char_iff_mayFollow byte (by unfold MayFollow; omega)]

theorem step_broken (stray : 0x80 ≤ byte.toNat ∧ byte.toNat < 0xC2 ∨ 0xF4 < byte.toNat) :
    step byte rest = .broken rest := by
  unfold step
  simp only
  rw [if_neg (by omega)]
  by_cases low : byte.toNat < 0xC2
  · rw [if_pos low]
  · rw [if_neg low, if_neg (by omega), if_neg (by omega), if_neg (by omega), if_neg (by omega),
      if_neg (by omega), if_neg (by omega), if_neg (by omega)]

/-- A sequence that begins with a character is the bytes of that character and what follows. -/
theorem encodeChar_of_step (isChar : step byte rest = .char c others) :
    byte :: rest = encodeChar c ++ others := by
  by_cases one : byte.toNat < 0x80
  · rw [step_one one] at isChar
    rcases Step.char.inj isChar with ⟨rfl, rfl⟩
    rw [encodeChar_one one, ← eq_toUInt8 byte rfl]
    rfl
  by_cases stray : byte.toNat < 0xC2 ∨ 0xF4 < byte.toNat
  · rw [step_broken (by omega)] at isChar
    cases isChar
  by_cases two : byte.toNat < 0xE0
  · rw [step_two (by omega) two] at isChar
    rcases lead_eq_char_iff.mp isChar with ⟨second, rest, rfl, range, isLast⟩
    rcases Step.char.inj isLast with ⟨rfl, rfl⟩
    rw [encodeChar_two (by omega) (by omega)]
    rw [← eq_toUInt8 byte (by omega), ← eq_toUInt8 second (by omega)]
    rfl
  by_cases three : byte.toNat < 0xF0
  · rcases (step_three_iff (by omega) three).mp isChar with ⟨second, rest, rfl, follows, later⟩
    unfold MayFollow at follows
    rw [more_succ] at later
    rcases lead_eq_char_iff.mp later with ⟨third, rest, rfl, range, isLast⟩
    rcases Step.char.inj isLast with ⟨rfl, rfl⟩
    rw [encodeChar_three (by omega) (by omega) (by unfold Nat.isValidChar; omega)]
    rw [← eq_toUInt8 byte (by omega), ← eq_toUInt8 second (by omega),
      ← eq_toUInt8 third (by omega)]
    rfl
  · rcases (step_four_iff (by omega) (by omega)).mp isChar with ⟨second, rest, rfl, follows, later⟩
    unfold MayFollow at follows
    rw [more_succ] at later
    rcases lead_eq_char_iff.mp later with ⟨third, rest, rfl, thirdRange, later⟩
    rw [more_succ] at later
    rcases lead_eq_char_iff.mp later with ⟨fourth, rest, rfl, range, isLast⟩
    rcases Step.char.inj isLast with ⟨rfl, rfl⟩
    rw [encodeChar_four (by omega) (by omega)]
    rw [← eq_toUInt8 byte (by omega), ← eq_toUInt8 second (by omega),
      ← eq_toUInt8 third (by omega), ← eq_toUInt8 fourth (by omega)]
    rfl

/-- The bytes of a character are read as that character. -/
theorem step_of_encodeChar (isFront : encodeChar c ++ others = byte :: rest) :
    step byte rest = .char c others := by
  have valid : c.toNat.isValidChar := c.valid
  have same : Char.ofNat c.toNat = c := c.ofNat_toNat
  generalize isCode : c.toNat = code at valid same
  unfold Nat.isValidChar at valid
  unfold encodeChar at isFront
  simp only [isCode] at isFront
  split at isFront
  · rename_i small
    rcases List.cons.inj isFront with ⟨rfl, rfl⟩
    have first := toNat_toUInt8 code (by omega)
    rw [step_one (by omega), first, same]
    rfl
  split at isFront
  · rename_i great small
    rcases List.cons.inj isFront with ⟨rfl, rfl⟩
    have first := toNat_toUInt8 (0xC0 + code / 64) (by omega)
    have second := toNat_toUInt8 (0x80 + code % 64) (by omega)
    rw [step_two (by omega) (by omega)]
    refine lead_eq_char_iff.mpr ⟨_, _, rfl, by omega, ?_⟩
    rw [first, second, more,
      show (0xC0 + code / 64 - 0xC0) * 64 + (0x80 + code % 64 - 0x80) = code by omega, same]
    rfl
  split at isFront
  · rename_i great small
    rcases List.cons.inj isFront with ⟨rfl, rfl⟩
    have first := toNat_toUInt8 (0xE0 + code / 4096) (by omega)
    have second := toNat_toUInt8 (0x80 + code / 64 % 64) (by omega)
    have third := toNat_toUInt8 (0x80 + code % 64) (by omega)
    refine (step_three_iff (by omega) (by omega)).mpr
      ⟨_, _, rfl, by unfold MayFollow; omega, ?_⟩
    rw [more_succ]
    refine lead_eq_char_iff.mpr ⟨_, _, rfl, by omega, ?_⟩
    rw [first, second, third, more,
      show ((0xE0 + code / 4096 - 0xE0) * 64 + (0x80 + code / 64 % 64 - 0x80)) * 64 +
        (0x80 + code % 64 - 0x80) = code by omega, same]
    rfl
  · rcases List.cons.inj isFront with ⟨rfl, rfl⟩
    have first := toNat_toUInt8 (0xF0 + code / 262144) (by omega)
    have second := toNat_toUInt8 (0x80 + code / 4096 % 64) (by omega)
    have third := toNat_toUInt8 (0x80 + code / 64 % 64) (by omega)
    have fourth := toNat_toUInt8 (0x80 + code % 64) (by omega)
    refine (step_four_iff (by omega) (by omega)).mpr
      ⟨_, _, rfl, by unfold MayFollow; omega, ?_⟩
    rw [more_succ]
    refine lead_eq_char_iff.mpr ⟨_, _, rfl, by omega, ?_⟩
    rw [more_succ]
    refine lead_eq_char_iff.mpr ⟨_, _, rfl, by omega, ?_⟩
    rw [first, second, third, fourth, more,
      show (((0xF0 + code / 262144 - 0xF0) * 64 + (0x80 + code / 4096 % 64 - 0x80)) * 64 +
        (0x80 + code / 64 % 64 - 0x80)) * 64 + (0x80 + code % 64 - 0x80) = code by omega, same]
    rfl

theorem exists_encodeChar_cons (c : Char) : ∃ byte rest, encodeChar c = byte :: rest := by
  unfold encodeChar
  simp only
  split
  · exact ⟨_, _, rfl⟩
  split
  · exact ⟨_, _, rfl⟩
  split
  · exact ⟨_, _, rfl⟩
  · exact ⟨_, _, rfl⟩

theorem decode?_encode (text : List Char) : decode? (encode text) = some text := by
  induction text with
  | nil => rw [encode, List.flatMap_nil, decode?]
  | cons c rest ih =>
      rcases exists_encodeChar_cons c with ⟨byte, bytes, isFront⟩
      have isStep : step byte (bytes ++ encode rest) = .char c (encode rest) := by
        apply step_of_encodeChar
        rw [isFront]
        rfl
      have isEncoded : encode (c :: rest) = byte :: (bytes ++ encode rest) := by
        rw [encode, List.flatMap_cons, isFront]
        rfl
      rw [isEncoded, decode?]
      split
      · rename_i value others isValue
        rw [isStep] at isValue
        rcases Step.char.inj isValue with ⟨rfl, rfl⟩
        rw [ih]
        rfl
      · rename_i isBroken
        rw [isStep] at isBroken
        cases isBroken

theorem encode_of_decode? {text : List Char} (decoded : decode? bytes = some text) :
    bytes = encode text := by
  fun_induction decode? bytes generalizing text with
  | case1 =>
      cases decoded
      rfl
  | case2 byte rest value others isStep shorter ih =>
      rcases Option.map_eq_some_iff.mp decoded with ⟨later, isLater, rfl⟩
      rw [encodeChar_of_step isStep, ih isLater]
      rfl
  | case3 => cases decoded

/-- Bytes are a text exactly if they are the bytes of that text. -/
theorem decode?_eq_some_iff {text : List Char} :
    decode? bytes = some text ↔ bytes = encode text := by
  constructor
  · exact encode_of_decode?
  · intro same
    rw [same, decode?_encode]

theorem decode?_eq_none_iff : decode? bytes = none ↔ ∀ text, bytes ≠ encode text := by
  rw [Option.eq_none_iff_forall_ne_some]
  exact forall_congr' (fun text => not_congr decode?_eq_some_iff)

end Utf8
end Text
end ApiAccessors
