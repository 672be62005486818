import ApiAccessors.Proofs.Generator.Loading
import ApiAccessors.Proofs.Yaml.Reading
import ApiAccessors.Proofs.Yaml.SharedDocument

namespace ApiAccessors

/-!
# Documents of both notations

The ending of a file name decides which reader a document is given to.  A document in the
interchange notation has the same value for both readers, if it keeps to the rules that both
notations share and the library reads documents between brackets as they stand.
-/

namespace SpecFile

open Run (Ends)

variable {path other : FilePath} {machine : Machine} {text : List Char} {entries : Entries}

theorem ends_load_of_readText (found : contentAt machine path = some (Text.Utf8.encode text))
    (isRead : readText machine.platform path (Text.unifyLines text) = .ok (.map entries)) :
    Ends (load path) machine (.map entries) (announced machine path) :=
  ends_load_iff.mpr ⟨_, found, decode_encode_of_ok isRead, rfl⟩

theorem readText_eq_ok_of_yaml {platform : Platform} (isOther : ¬IsInterchange path) {value : Value}
    (isRead : platform.yaml text = .ok value) : readText platform path text = .ok value := by
  have noEnding : Text.lower path.suffix.toList ≠ ".json".toList := isOther
  unfold readText
  rw [if_neg noEnding, isRead]

/-- A document in the interchange notation is loaded as the mapping it stands for from a file with
the ending of that notation, and from one with any other ending if it keeps to the rules of both. -/
theorem load_document_agrees {room : Nat} (reads : Yaml.ReadsFlow room machine.platform.yaml)
    (document : Json.IsDocument Json.readable machine.platform.readingRoom (Text.unifyLines text)
      entries)
    (isInterchange : IsInterchange path) (isOther : ¬IsInterchange other)
    (found : contentAt machine path = some (Text.Utf8.encode text))
    (foundOther : contentAt machine other = some (Text.Utf8.encode text)) :
    Ends (load path) machine (.map entries) (announced machine path) ∧
      (Yaml.IsShared room (Text.unifyLines text) entries →
        Ends (load other) machine (.map entries) (announced machine other)) := by
  constructor
  · exact ends_load_of_readText found
      ((readText_eq_ok_iff isInterchange).mpr document.read_eq)
  · intro shared
    exact ends_load_of_readText foundOther
      (readText_eq_ok_of_yaml isOther (reads _ _ shared.isFlowDocument))

def bothFiles (text : List Char) : Machine :=
  .start .usual ⟨[(["api.json"], .file (Text.Utf8.encode text)),
    (["api.yaml"], .file (Text.Utf8.encode text))], fun _ _ => none⟩ [] ⟨none, 0, none⟩

def jsonPath : FilePath := ⟨0, ["api.json"]⟩

def yamlPath : FilePath := ⟨0, ["api.yaml"]⟩

theorem isInterchange_jsonPath : IsInterchange jsonPath := by
  unfold IsInterchange
  decide

theorem not_isInterchange_yamlPath : ¬IsInterchange yamlPath := by
  unfold IsInterchange
  decide

/-- Whether a word is made of small letters only. -/
def isWord (word : List Char) : Bool := word.all (fun c => 0x61 ≤ c.toNat && c.toNat ≤ 0x7A)

/-- A string of small letters is spelled the same way in both notations. -/
theorem isString_of_isWord {word : List Char} (letters : isWord word = true) :
    Json.IsString word (word.map Char.toNat) ∧
      Yaml.sharedRules.string word (word.map Char.toNat) := by
  have bounds : ∀ c ∈ word, 0x61 ≤ c.toNat ∧ c.toNat ≤ 0x7A := by
    intro c member
    have isLetter := List.all_eq_true.mp letters c member
    simpa using isLetter
  refine ⟨?_, fun c member => ?_, List.forall_mem_map.mpr (fun c _ => c.valid)⟩
  · clear letters
    induction word with
    | nil => exact .nil
    | cons c word ih =>
        rcases List.forall_mem_cons.mp bounds with ⟨here, later⟩
        have notQuote : c ≠ '"' := by
          rintro rfl
          exact absurd here.1 (by decide)
        have notBackslash : c ≠ '\\' := by
          rintro rfl
          exact absurd here.1 (by decide)
        exact .cons (.plain notQuote notBackslash (by omega)) (ih later)
  · have isLetter := bounds c member
    unfold Yaml.isBreak
    simp only [Bool.or_eq_false_iff, beq_eq_false_iff_ne]
    refine ⟨⟨⟨⟨?_, ?_⟩, ?_⟩, ?_⟩, ?_⟩
    all_goals
      rintro rfl
      revert isLetter
      decide

def oneDigit (c : Char) (isDigit : Text.isAsciiDigit c = true) : Json.Digits :=
  ⟨[c], List.cons_ne_nil c [], List.forall_mem_singleton.mpr isDigit⟩

/-- A number with a digit in front of the point and one behind it. -/
def threePointOne : Json.Numeral where
  negative := false
  whole := oneDigit '3' rfl
  noLeadingZero := fun impossible => absurd impossible (by decide)
  places := some (oneDigit '1' rfl)
  exponent := none

/-- A small document, over two lines. -/
def sample : List Char := "\x7b\"openapi\": 3.1,\n \"paths\": \x7b\x7d\x7d\n".toList

def sampleMembers : List Json.Member := [
  ⟨[], "openapi".toList, "openapi".toList.map Char.toNat, [],
    ⟨[' '], threePointOne.text, [], threePointOne.value⟩⟩,
  ⟨['\n', ' '], "paths".toList, "paths".toList.map Char.toNat, [],
    ⟨[' '], ['\x7b', '\x7d'], [], .map []⟩⟩]

def sampleEntries : Entries :=
  [(.text "openapi", .float (Binary64.ofDecimal false 31 (-1))), (.text "paths", .map [])]

theorem follow_sampleMembers :
    ∀ member ∈ sampleMembers, member.Follows Yaml.sharedRules := by
  have space : Json.IsGap [' '] := List.forall_mem_singleton.mpr (Or.inl rfl)
  have newLine : Json.IsGap ['\n', ' '] := List.forall_mem_cons.mpr ⟨Or.inr rfl, space⟩
  have first := isString_of_isWord (show isWord "openapi".toList = true by decide)
  have second := isString_of_isWord (show isWord "paths".toList = true by decide)
  exact List.forall_mem_cons.mpr
    ⟨⟨List.forall_mem_nil _, first.1, first.2, ⟨List.forall_mem_nil _, by decide⟩, space,
        List.forall_mem_nil _⟩,
      List.forall_mem_singleton.mpr
        ⟨newLine, second.1, second.2, ⟨List.forall_mem_nil _, by decide⟩, space,
          List.forall_mem_nil _⟩⟩

theorem denote_sampleMembers : ∀ member ∈ sampleMembers,
    Json.Denotes Yaml.sharedRules 484 member.item.text member.item.value := by
  have isFull : Yaml.IsFullNumeral threePointOne :=
    ⟨fun _ => rfl, fun _ impossible => by cases impossible⟩
  have number : Json.Denotes Yaml.sharedRules 484 threePointOne.text threePointOne.value :=
    .number 484 ⟨isFull, fun _ => by decide⟩
  exact List.forall_mem_cons.mpr ⟨number,
    List.forall_mem_singleton.mpr (@Json.Denotes.map _ 483 [] [] (List.forall_mem_nil _)
      (List.forall_mem_nil _) List.nodup_nil (List.forall_mem_nil _))⟩

theorem isShared_sample : Yaml.IsShared 485 sample sampleEntries := by
  have isText : sample = [] ++ (('\x7b' :: ([] ++
      (Json.row ',' (sampleMembers.map Json.Member.spaced) ++ ['\x7d']))) ++ ['\n']) := by
    decide
  have differ : (sampleMembers.map Json.Member.name).Nodup := by
    decide
  constructor
  · rw [isText]
    exact .intro (List.forall_mem_nil _)
      (@Json.Denotes.map _ 484 [] sampleMembers (List.forall_mem_nil _) follow_sampleMembers differ
        denote_sampleMembers)
      (List.forall_mem_singleton.mpr (Or.inr rfl))
  · exact List.all_eq_true.mp (by decide)

/-- The small document is loaded from both files. -/
theorem load_document_agrees_sample :
    Yaml.ReadsFlow 485 (bothFiles sample).platform.yaml ∧
      Json.IsDocument Json.readable (bothFiles sample).platform.readingRoom
        (Text.unifyLines sample) sampleEntries ∧
      IsInterchange jsonPath ∧ ¬IsInterchange yamlPath ∧
      contentAt (bothFiles sample) jsonPath = some (Text.Utf8.encode sample) ∧
      contentAt (bothFiles sample) yamlPath = some (Text.Utf8.encode sample) ∧
      Yaml.IsShared 485 (Text.unifyLines sample) sampleEntries ∧
      Ends (load jsonPath) (bothFiles sample) (.map sampleEntries)
        (announced (bothFiles sample) jsonPath) ∧
      Ends (load yamlPath) (bothFiles sample) (.map sampleEntries)
        (announced (bothFiles sample) yamlPath) := by
  have isUnified : Text.unifyLines sample = sample := by decide
  have shared : Yaml.IsShared 485 (Text.unifyLines sample) sampleEntries :=
    isUnified ▸ isShared_sample
  have document := shared.document.widen Yaml.sharedRules_within (show 485 ≤ 985 by decide)
  have reads : Yaml.ReadsFlow 485 (bothFiles sample).platform.yaml := Yaml.readsFlow_read 485
  have agrees := @load_document_agrees jsonPath yamlPath (bothFiles sample) sample sampleEntries
    485 reads document isInterchange_jsonPath not_isInterchange_yamlPath rfl rfl
  exact ⟨reads, document, isInterchange_jsonPath, not_isInterchange_yamlPath, rfl, rfl, shared,
    agrees.1, agrees.2 shared⟩

/-- A number with an exponent, but without a fraction. -/
def oneHundredThousand : Json.Numeral where
  negative := false
  whole := oneDigit '1' rfl
  noLeadingZero := fun impossible => absurd impossible (by decide)
  places := none
  exponent := some ⟨'e', Yaml.isMark_small, [], Or.inl rfl, oneDigit '5' rfl⟩

def bareExponent : List Char := "\x7b\"a\": 1e5\x7d".toList

def bareExponentEntries : Entries := [(.text "a", .float (Binary64.ofDecimal false 1 5))]

theorem isDocument_bareExponent :
    Json.IsDocument Json.readable 985 bareExponent bareExponentEntries := by
  let members : List Json.Member := [⟨[], ['a'], ['a'.toNat], [],
    ⟨[' '], oneHundredThousand.text, [], oneHundredThousand.value⟩⟩]
  have isText : bareExponent = [] ++ (('\x7b' :: ([] ++
      (Json.row ',' (members.map Json.Member.spaced) ++ ['\x7d']))) ++ []) := by
    decide
  have isString := isString_of_isWord (show isWord ['a'] = true by decide)
  have number : Json.Denotes Json.readable 984 oneHundredThousand.text oneHundredThousand.value :=
    .number 984 (fun impossible => by cases impossible)
  rw [isText]
  exact .intro (List.forall_mem_nil _)
    (@Json.Denotes.map _ 984 [] members (List.forall_mem_nil _)
      (List.forall_mem_singleton.mpr ⟨List.forall_mem_nil _, isString.1,
        Yaml.sharedRules_within.string _ _ isString.2, List.forall_mem_nil _,
        List.forall_mem_singleton.mpr (by decide), List.forall_mem_nil _⟩)
      (List.nodup_singleton _) (List.forall_mem_singleton.mpr number))
    (List.forall_mem_nil _)

/-- In the other notation the whole word is a text. -/
theorem isFlowDocument_bareExponent :
    Yaml.IsFlowDocument 485 bareExponent [(.text "a", .text "1e5")] := by
  let members : List Yaml.FlowMember := [⟨[], ['a'], ['a'], [],
    ⟨[' '], "1e5".toList, [], .text "1e5"⟩⟩]
  have isText : bareExponent = [] ++ ('\x7b' :: ([] ++
      (Json.row ',' (members.map Yaml.FlowMember.spaced) ++ ['\x7d'])) ++ []) := by
    decide
  have isQuoted : Yaml.IsQuotedText ['a'] ['a'] := .plain (by decide) (by decide) rfl .nil
  have isWord : Yaml.IsPlainText "1e5".toList :=
    ⟨List.all_eq_true.mp (by decide), Or.inl ⟨_, _, rfl, by decide⟩⟩
  have isKind : Yaml.Kind.ofText "1e5".toList = .text := by decide
  have isValue : Yaml.IsPlainValue "1e5".toList (.text "1e5") := by
    constructor
    · rw [isKind]
      rfl
    · rw [isKind]
      rfl
  rw [isText]
  exact .intro (List.forall_mem_nil _)
    (@Yaml.Flow.map 484 [] members (List.forall_mem_nil _)
      (List.forall_mem_singleton.mpr ⟨List.forall_mem_nil _, isQuoted, List.forall_mem_nil _,
        by decide, List.forall_mem_singleton.mpr (Or.inl rfl), List.forall_mem_nil _⟩)
      (List.nodup_singleton _) (List.forall_mem_singleton.mpr (.plain 484 isWord isValue)))
    (List.forall_mem_nil _) (List.all_eq_true.mp (by decide))

/-- An exponent behind a fraction is part of a number for both readers, but one behind an integer
only for that of the interchange notation. -/
theorem load_bareExponent_differs :
    Json.IsDocument Json.readable 985 (Text.unifyLines bareExponent) bareExponentEntries ∧
      Ends (load jsonPath) (bothFiles bareExponent) (.map bareExponentEntries)
        (announced (bothFiles bareExponent) jsonPath) ∧
      Ends (load yamlPath) (bothFiles bareExponent) (.map [(.text "a", .text "1e5")])
        (announced (bothFiles bareExponent) yamlPath) ∧
      bareExponentEntries ≠ [(.text "a", .text "1e5")] := by
  have isUnified : Text.unifyLines bareExponent = bareExponent := by decide
  have isRead := Yaml.readsFlow_read 485 _ _ isFlowDocument_bareExponent
  rw [isUnified]
  refine ⟨isDocument_bareExponent, ends_load_of_readText rfl ?_, ends_load_of_readText rfl ?_, ?_⟩
  · rw [isUnified]
    exact (readText_eq_ok_iff isInterchange_jsonPath).mpr isDocument_bareExponent.read_eq
  · rw [isUnified]
    exact readText_eq_ok_of_yaml not_isInterchange_yamlPath isRead
  · intro same
    have isValue := (Prod.mk.inj (List.cons.inj same).1).2
    cases isValue

end SpecFile
end ApiAccessors
