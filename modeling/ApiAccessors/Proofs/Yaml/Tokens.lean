import ApiAccessors.Proofs.Yaml.Lexing
import ApiAccessors.Proofs.Yaml.PlainText

namespace ApiAccessors
namespace Yaml

/-!
# Tokens of documents between brackets

The tokens of a document, told by the value of the document: from a text that stands for a value the
lexer makes the tokens of exactly this value.
-/

open Json (IsGap Item row rowTail)

structure TokenItem where
  tokens : List Token
  value : Value

/-- A key, and the value behind it with its tokens. -/
structure TokenMember where
  name : String
  item : TokenItem

namespace TokenMember

def tokens (member : TokenMember) : List Token :=
  .key :: .scalar member.name false :: .value :: member.item.tokens

def entry (member : TokenMember) : Value × Value := (.text member.name, member.item.value)

end TokenMember

/-- Tokens describe a value, with at most so many collections inside each other.  All keys of a
mapping differ. -/
inductive Describes : Nat → List Token → Value → Prop
  | plain (room : Nat) {text : List Char} {value : Value} (isValue : IsPlainValue text value) :
      Describes room [.scalar (String.ofList text) true] value
  | quoted (room : Nat) (text : String) : Describes room [.scalar text false] (.text text)
  | list {room : Nat} {items : List TokenItem}
      (describe : ∀ item ∈ items, Describes room item.tokens item.value) :
      Describes (room + 1) (.listOpen :: (row .comma (items.map TokenItem.tokens) ++ [.listClose]))
        (.list (items.map TokenItem.value))
  | map {room : Nat} {members : List TokenMember} (differ : (members.map TokenMember.name).Nodup)
      (describe : ∀ member ∈ members, Describes room member.item.tokens member.item.value) :
      Describes (room + 1)
        (.mapOpen :: (row .comma (members.map TokenMember.tokens) ++ [.mapClose]))
        (.map (members.map TokenMember.entry))

namespace Lexer

/-- Between brackets these are the tokens of the text, if more of the row stands behind it. -/
def IsLexed (allowed : Bool) (text : List Char) (made : List Token) : Prop :=
  ∀ width emitted last, Closes last →
    Walks (At (width + 1) allowed emitted (text ++ last))
      (At (width + 1) false (made.reverse ++ emitted) last)

section

variable {α : Type} {spaced : α → List Char} {made : α → List Token} {parts : List α}

/-- More of a row stands behind an item, or what is behind the row. -/
theorem closes_rowTail (parts : List (List Char)) {last : List Char} (closes : Closes last) :
    Closes (rowTail ',' parts ++ last) := by
  cases parts with
  | nil => exact closes
  | cons next parts => exact ⟨',', _, rfl, Or.inl rfl⟩

theorem isLexed_rowTail (lexed : ∀ part ∈ parts, IsLexed true (spaced part) (made part)) :
    IsLexed false (rowTail ',' (parts.map spaced)) (rowTail .comma (parts.map made)) := by
  induction parts with
  | nil => exact fun _ _ _ _ => Walks.of_imp (fun _ isAt => isAt)
  | cons part parts ih =>
      rcases List.forall_mem_cons.mp lexed with ⟨here, later⟩
      intro width emitted last closes
      have goesOn := closes_rowTail (parts.map spaced) closes
      have isText : rowTail ',' ((part :: parts).map spaced) ++ last =
          ',' :: (spaced part ++ (rowTail ',' (parts.map spaced) ++ last)) := by
        simp [Json.rowTail_cons]
      have isMade : (rowTail Token.comma ((part :: parts).map made)).reverse ++ emitted =
          (rowTail .comma (parts.map made)).reverse ++
            ((made part).reverse ++ .comma :: emitted) := by
        simp [Json.rowTail_cons]
      rw [isText, isMade]
      exact walks_comma.trans ((here width _ _ goesOn).trans (ih later width _ last closes))

theorem isLexed_row (lexed : ∀ part ∈ parts, IsLexed true (spaced part) (made part)) :
    IsLexed true (row ',' (parts.map spaced)) (row .comma (parts.map made)) := by
  cases parts with
  | nil => exact fun _ _ _ _ => Walks.of_imp (fun _ isAt => isAt.forget)
  | cons part parts =>
      rcases List.forall_mem_cons.mp lexed with ⟨here, later⟩
      intro width emitted last closes
      have goesOn := closes_rowTail (parts.map spaced) closes
      have whole := (here width emitted _ goesOn).trans (isLexed_rowTail later width _ last closes)
      simpa [row] using whole

end

/-- The marks around a collection, and their tokens. -/
inductive Brackets : Char → Char → Token → Token → Prop
  | list : Brackets '[' ']' .listOpen .listClose
  | map : Brackets '\x7b' '\x7d' .mapOpen .mapClose

variable {text gap : List Char} {made : List Token} {value : Value}

/-- Brackets stand for themselves wherever they are. -/
theorem walks_brackets {opening closing : Char} {first last : Token}
    (brackets : Brackets opening closing first last) (isGap : IsGap gap)
    (lexed : IsLexed true text made) (width : Nat) (allowed : Bool) (emitted : List Token)
    (rest : List Char) :
    Walks (At width allowed emitted (opening :: (gap ++ (text ++ [closing])) ++ rest))
      (At width false ((first :: (made ++ [last])).reverse ++ emitted) rest) := by
  have isOpening : opening = '[' ∧ first = .listOpen ∨ opening = '\x7b' ∧ first = .mapOpen := by
    cases brackets
    · exact Or.inl ⟨rfl, rfl⟩
    · exact Or.inr ⟨rfl, rfl⟩
  have isClosing : closing = ']' ∧ last = .listClose ∨ closing = '\x7d' ∧ last = .mapClose := by
    cases brackets
    · exact Or.inl ⟨rfl, rfl⟩
    · exact Or.inr ⟨rfl, rfl⟩
  have closes : Closes (closing :: rest) :=
    ⟨closing, rest, rfl, Or.inr (isClosing.imp And.left And.left)⟩
  have isText : opening :: (gap ++ (text ++ [closing])) ++ rest =
      opening :: (gap ++ (text ++ closing :: rest)) := by
    simp
  have isMade : (first :: (made ++ [last])).reverse ++ emitted =
      last :: (made.reverse ++ first :: emitted) := by
    simp
  rw [isText, isMade]
  exact (walks_opening isOpening).trans ((Walks.of_imp (fun _ isAt => isAt.behind_gap isGap)).trans
    ((lexed width _ _ closes).trans (walks_closing isClosing)))

/-- The tokens of the text of a value: between brackets with a gap behind it, and for a mapping
also outside of all brackets. -/
structure IsMade (text : List Char) (made : List Token) : Prop where
  inside : ∀ allowed gap, IsGap gap → IsLexed allowed (text ++ gap) made
  outside : ∀ inner, text = '\x7b' :: inner → ∀ emitted rest,
    Walks (At 0 true emitted (text ++ rest)) (At 0 false (made.reverse ++ emitted) rest)

theorem isMade_brackets {opening closing : Char} {first last : Token}
    (brackets : Brackets opening closing first last) (isGap : IsGap gap)
    (lexed : IsLexed true text made) :
    IsMade (opening :: (gap ++ (text ++ [closing]))) (first :: (made ++ [last])) where
  inside := by
    intro allowed behind isBehind width emitted last closes
    rw [List.append_assoc]
    exact (walks_brackets brackets isGap lexed _ _ _ _).trans
      (Walks.of_imp (fun _ isAt => isAt.behind_gap isBehind))
  outside := fun _ _ => walks_brackets brackets isGap lexed 0 true

theorem isMade_plain (isPlain : IsPlainText text) :
    IsMade text [.scalar (String.ofList text) true] where
  inside := by
    intro allowed gap isGap width emitted last closes
    rw [List.append_assoc]
    exact walks_plain isPlain isGap closes
  outside := by
    rintro inner rfl
    rcases isPlain.begins with ⟨first, rest, begins, starts⟩ | ⟨second, rest, begins, -⟩
    · rw [← (List.cons.inj begins).1] at starts
      exact absurd starts (by decide)
    · exact absurd (List.cons.inj begins).1 (by decide)

theorem isMade_quoted {raw content : List Char} (isQuoted : IsQuotedText raw content) :
    IsMade (Json.quoted raw) [.scalar (String.ofList content) false] where
  inside := by
    intro allowed gap isGap width emitted last closes
    rw [List.append_assoc]
    exact (walks_quoted isQuoted).trans
      (Walks.of_imp (fun _ isAt => isAt.behind_gap isGap))
  outside := fun _ begins => absurd (List.cons.inj begins).1 (by decide)

theorem isLexed_item {item : Item} (spaced : IsSpacedItem item)
    (isMade : IsMade item.text made) : IsLexed true item.spaced made := by
  intro width emitted last closes
  unfold Item.spaced
  rw [List.append_assoc]
  exact (Walks.of_imp (fun _ isAt => isAt.behind_gap spaced.before)).trans
    (isMade.inside true _ spaced.behind width emitted last closes)

theorem isLexed_member {member : FlowMember} (spaced : IsSpacedMember member)
    (isMade : IsMade member.item.text made) :
    IsLexed true member.spaced
      (.key :: .scalar member.name false :: .value :: made) := by
  intro width emitted last closes
  have isText : member.spaced ++ last = member.before ++ (Json.quoted member.raw ++
      (member.behind ++
        ':' :: (member.item.before ++ (member.item.text ++ member.item.behind ++ last)))) := by
    unfold FlowMember.spaced Item.spaced
    simp
  have isTokens : (Token.key :: .scalar member.name false :: .value :: made).reverse ++ emitted =
      made.reverse ++ .value :: .scalar member.name false :: .key :: emitted := by
    simp
  rw [isText, isTokens]
  exact (Walks.of_imp (fun _ isAt => isAt.behind_gap spaced.before)).trans
    ((walks_key spaced.isQuoted spaced.onlySpaces spaced.near).trans
      ((Walks.of_imp (fun _ isAt => isAt.behind_gap spaced.item.before)).trans
        (isMade.inside false _ spaced.item.behind width _ last closes)))

/-- Every text of a value has tokens that describe the value. -/
theorem exists_isMade {room : Nat} (flow : Flow room text value) :
    ∃ made, Describes room made value ∧ IsMade text made := by
  induction flow with
  | plain room isText isValue =>
      exact ⟨_, .plain room isValue, isMade_plain isText⟩
  | quoted room isQuoted =>
      exact ⟨_, .quoted room _, isMade_quoted isQuoted⟩
  | @list room gap items isGap spaced flow ih =>
      choose! made describes isMade using ih
      have lexed := isLexed_row (fun item member =>
        isLexed_item (spaced item member) (isMade item member))
      have described := @Describes.list room
        (items.map (fun item => ⟨made item, item.value⟩)) (List.forall_mem_map.mpr describes)
      rw [List.map_map, List.map_map] at described
      exact ⟨_, described, isMade_brackets .list isGap lexed⟩
  | @map room gap members isGap spaced differ flow ih =>
      choose! made describes isMade using ih
      have lexed := isLexed_row (fun member isMember =>
        isLexed_member (spaced member isMember) (isMade member isMember))
      have described := @Describes.map room
        (members.map (fun member => ⟨member.name, made member, member.item.value⟩))
        (by rwa [List.map_map])
        (List.forall_mem_map.mpr describes)
      rw [List.map_map, List.map_map] at described
      exact ⟨_, described, isMade_brackets .map isGap lexed⟩

end Lexer

theorem Lexer.start_cursor {text : List Char} (noMark : text.head? ≠ some '\uFEFF') :
    (Lexer.start text).cursor = Cursor.start text := by
  unfold Lexer.start
  split
  · exact absurd rfl noMark
  · rfl

/-- The tokens of a document describe the mapping that the document stands for. -/
theorem exists_tokens {room : Nat} {text : List Char} {entries : Entries}
    (document : IsFlowDocument room text entries) :
    ∃ made, Describes room made (.map entries) ∧ tokens text = made ++ [.finish] := by
  cases document with
  | @intro before inner behind entries isBefore flow isBehind chars =>
      rcases Lexer.exists_isMade flow with ⟨made, describes, isMade⟩
      have noMark : (before ++ ('\x7b' :: inner ++ behind)).head? ≠ some '\uFEFF' := by
        have spaced : IsSpaced (Cursor.start (before ++ ('\x7b' :: inner ++ behind)))
            ('\x7b' :: inner ++ behind) := ⟨before, isBefore, rfl⟩
        exact spaced.head?_ne (by decide) (by decide) (by simp)
      have isStart := Lexer.start_cursor noMark
      have isAt : Lexer.At 0 true [] ('\x7b' :: inner ++ behind)
          (Lexer.start (before ++ ('\x7b' :: inner ++ behind))) :=
        ⟨⟨rfl, fun key member => by cases List.mem_singleton.mp member⟩, rfl, fun _ => rfl, rfl,
          before, isBefore, congrArg Cursor.rest isStart⟩
      rcases isMade.outside inner rfl [] behind _ isAt
        ((before ++ ('\x7b' :: inner ++ behind)).length + 2) (by rw [isStart]; exact Nat.le_refl _)
        with ⟨next, left, isNext, enough, same⟩
      rcases isNext.spaced with ⟨gap, isGap, isRest⟩
      rcases left with - | left
      · omega
      have isShort : (gap ++ behind).length < left := by
        rw [isRest] at enough
        omega
      have isEnd := Lexer.tokens_of_end isNext.calm isNext.width
        (List.forall_mem_append.mpr ⟨isGap, isBehind⟩) isRest isShort
      refine ⟨made, describes, ?_⟩
      unfold tokens
      rw [if_pos (List.all_eq_true.mpr chars), same, isEnd, isNext.emitted]
      simp

end Yaml
end ApiAccessors
