import ApiAccessors.Client
import ApiAccessors.Proofs.Outcome
import Mathlib.Data.List.Nodup
import Mathlib.Data.List.Pairwise

namespace ApiAccessors

/-!
# Which headers a call is made with

Up to three headers are set for every call, and the caller can give more.  A header of the caller is
written over one that is set if their names are spelled alike.  Names of headers are the same
whatever their case, though: a header of the caller that is spelled in another way leaves the one
that is set where it is, and both are sent.

So the caller's headers count alone exactly if none of them is another spelling of a name that is
set.
-/

namespace Headers

/-- Headers whose values have not been checked. -/
abbrev Fields := List (String × Value)

def Fields.entries (fields : Fields) : Entries :=
  fields.map (fun field => (.text field.1, field.2))

/-- Write a field over the one of the same spelling, or add it at the end. -/
def Fields.put (fields : Fields) (field : String × Value) : Fields :=
  Table.put field.1 field.2 fields

/-- No two fields have the same name, whatever the case. -/
def Fields.NamesDiffer (fields : Fields) : Prop :=
  fields.Pairwise (fun first second => sameName first.1 second.1 = false)

/-- No field is another spelling of the name of a header. -/
def IsSpelledLike (name : String) (fields : Fields) : Prop :=
  ∀ field ∈ fields, sameName field.1 name = true → field.1 = name

section

variable {fields given : Fields} {new field : String × Value} {first second : String}

theorem sameName_refl (name : String) : sameName name name = true := beq_self_eq_true _

theorem sameName_symm (same : sameName first second = true) : sameName second first = true := by
  unfold sameName at same ⊢
  exact beq_iff_eq.mpr (beq_iff_eq.mp same).symm

theorem insert_entries (fields : Fields) (name : String) (value : Value) :
    Entries.insert fields.entries (.text name) value =
      Fields.entries (fields.put (name, value)) := by
  induction fields with
  | nil => rfl
  | cons field rest ih =>
      change Entries.insert ((.text field.1, field.2) :: Fields.entries rest) (.text name) value = _
      rw [Entries.insert, Fields.put, Table.put_cons]
      by_cases same : field.1 = name
      · rw [if_pos (Entries.sameKey_text_iff.mpr (congrArg Value.text same)), if_pos same, same]
        rfl
      · rw [if_neg (fun found => same (Value.text.inj (Entries.sameKey_text_iff.mp found))),
          if_neg same, ih]
        rfl

theorem addPairs_entries (fields given : Fields) :
    addPairs fields.entries given.entries = .ok (given.foldl Fields.put fields).entries := by
  induction given generalizing fields with
  | nil => rfl
  | cons field rest ih =>
      change (if (Value.text field.1).isScalar then
        addPairs (Entries.insert fields.entries (.text field.1) field.2) (Fields.entries rest)
        else _) = _
      rw [if_pos (show (Value.text field.1).isScalar = true from rfl), insert_entries, ih]
      rfl

theorem nodup_put (distinct : (fields.map (·.1)).Nodup) : ((fields.put new).map (·.1)).Nodup :=
  Table.nodup_keys_put distinct

theorem mem_put (distinct : (fields.map (·.1)).Nodup) :
    field ∈ fields.put new ↔ field = new ∨ field ∈ fields ∧ field.1 ≠ new.1 :=
  Table.mem_put distinct

/-- What is there in the end is what was given and what was not written over. -/
theorem mem_foldl_put (distinct : (fields.map (·.1)).Nodup) (apart : (given.map (·.1)).Nodup) :
    ((given.foldl Fields.put fields).map (·.1)).Nodup ∧
      ∀ field, field ∈ given.foldl Fields.put fields ↔
        field ∈ given ∨ field ∈ fields ∧ field.1 ∉ given.map (·.1) := by
  induction given generalizing fields with
  | nil => exact ⟨distinct, fun field => by simp⟩
  | cons new rest ih =>
      rcases List.nodup_cons.mp apart with ⟨elsewhere, others⟩
      rcases ih (nodup_put distinct) others with ⟨distinctAfter, after⟩
      refine ⟨distinctAfter, fun field => ?_⟩
      rw [List.foldl_cons, after, mem_put distinct, List.mem_cons, List.map_cons, List.mem_cons]
      constructor
      · rintro (member | ⟨rfl | ⟨member, different⟩, notGiven⟩)
        · exact Or.inl (Or.inr member)
        · exact Or.inl (Or.inl rfl)
        · exact Or.inr ⟨member, fun isName => isName.elim different notGiven⟩
      · rintro ((rfl | member) | ⟨member, notGiven⟩)
        · exact Or.inr ⟨Or.inl rfl, elsewhere⟩
        · exact Or.inl member
        · exact Or.inr ⟨Or.inr ⟨member, fun isNew => notGiven (Or.inl isNew)⟩,
            fun later => notGiven (Or.inr later)⟩

/-- Whether two fields have different names does not depend on their order. -/
instance : Std.Symm (fun first second : String × Value => sameName first.1 second.1 = false) where
  symm := by
    intro first second different
    apply Bool.eq_false_iff.mpr
    intro same
    rw [sameName_symm same] at different
    cases different

theorem Fields.NamesDiffer.eq_of_sameName (differ : fields.NamesDiffer) {other : String × Value}
    (isField : field ∈ fields) (isOther : other ∈ fields)
    (same : sameName field.1 other.1 = true) : field = other := by
  by_contra different
  rw [differ.forall isField isOther different] at same
  cases same

theorem Fields.NamesDiffer.nodup (differ : fields.NamesDiffer) : (fields.map (·.1)).Nodup := by
  refine List.pairwise_map.mpr (differ.imp ?_)
  intro first second different same
  rw [same, sameName_refl] at different
  cases different

/-- Fields of one name each have different names if no two of them are the same up to case. -/
theorem namesDiffer_of (distinct : (fields.map (·.1)).Nodup)
    (unique : ∀ field ∈ fields, ∀ other ∈ fields, sameName field.1 other.1 = true →
      field = other) : fields.NamesDiffer := by
  refine (List.Nodup.of_map _ distinct).pairwise_of_forall_ne ?_
  intro field isField other isOther different
  exact Bool.eq_false_iff.mpr (fun same => different (unique field isField other isOther same))

end

section

variable {usual given sent : Fields}

/-- Fields of which some were given and the others are usual ones that were not written over. -/
structure Merges (usual given sent : Fields) : Prop where
  distinct : (sent.map (·.1)).Nodup
  mem_iff : ∀ field, field ∈ sent ↔
    field ∈ given ∨ field ∈ usual ∧ field.1 ∉ given.map (·.1)

/-- A usual field that is spelled in another way than the given one stays where it is. -/
theorem Merges.mem_of_otherSpelling (merges : Merges usual given sent) (differ : given.NamesDiffer)
    {header field : String × Value} (isGiven : header ∈ given) (isUsual : field ∈ usual)
    (same : sameName field.1 header.1 = true) (different : field.1 ≠ header.1) :
    field ∈ sent := by
  refine (merges.mem_iff field).mpr (Or.inr ⟨isUsual, fun isName => ?_⟩)
  rcases List.mem_map.mp isName with ⟨other, isOther, sameSpelling⟩
  rw [← sameSpelling] at same different
  exact different (congrArg Prod.fst (differ.eq_of_sameName isOther isGiven same))

/-- A given header is the only one of its name just if it is spelled as usual. -/
theorem Merges.isOnly_iff (merges : Merges usual given sent) (differ : given.NamesDiffer)
    {header : String × Value} (isGiven : header ∈ given) :
    (∀ other ∈ sent, sameName other.1 header.1 = true → other = header) ↔
      IsSpelledLike header.1 usual := by
  constructor
  · intro isOnly field isUsual same
    by_contra different
    have isSent := merges.mem_of_otherSpelling differ isGiven isUsual same different
    exact different (congrArg Prod.fst (isOnly field isSent same))
  · intro spelled other isSent same
    rcases (merges.mem_iff other).mp isSent with isOther | ⟨isUsual, notGiven⟩
    · exact differ.eq_of_sameName isOther isGiven same
    · exact absurd (spelled other isUsual same ▸ List.mem_map_of_mem isGiven) notGiven

/-- No name is sent twice just if all given headers are spelled as usual. -/
theorem Merges.namesDiffer_iff (merges : Merges usual given sent) (usualDiffer : usual.NamesDiffer)
    (differ : given.NamesDiffer) :
    sent.NamesDiffer ↔ ∀ header ∈ given, IsSpelledLike header.1 usual := by
  constructor
  · intro sentDiffer header isGiven
    refine (merges.isOnly_iff differ isGiven).mp (fun other isSent same => ?_)
    exact sentDiffer.eq_of_sameName isSent ((merges.mem_iff header).mpr (Or.inl isGiven)) same
  · intro spelled
    have isOnly := fun header isGiven =>
      (merges.isOnly_iff differ isGiven).mpr (spelled header isGiven)
    refine namesDiffer_of merges.distinct (fun field isSent other isOtherSent same => ?_)
    rcases (merges.mem_iff field).mp isSent with isGiven | ⟨isUsual, -⟩
    · exact (isOnly field isGiven other isOtherSent (sameName_symm same)).symm
    · rcases (merges.mem_iff other).mp isOtherSent with isGiven | ⟨isOtherUsual, -⟩
      · exact isOnly other isGiven field isSent same
      · exact usualDiffer.eq_of_sameName isUsual isOtherUsual same

theorem merges_foldl_put (usualDiffer : usual.NamesDiffer) (differ : given.NamesDiffer) :
    Merges usual given (given.foldl Fields.put usual) :=
  have ⟨distinct, mem_iff⟩ := mem_foldl_put usualDiffer.nodup differ.nodup
  ⟨distinct, mem_iff⟩

end

end Headers

namespace Client

open Headers (Fields IsSpelledLike sameName)

/-- The headers of a call in which the caller gives none. -/
def usualFields (client : Client) (contentType : Value) : Fields :=
  [("Content-Type", contentType), ("Accept", acceptedType contentType)] ++
    if client.token.truthy then
      [("Authorization", .text (client.authScheme.display ++ " " ++ client.token.display))]
    else []

theorem usualFields_namesDiffer (client : Client) (contentType : Value) :
    (client.usualFields contentType).NamesDiffer := by
  have names : ((client.usualFields contentType).map (·.1)).Sublist
      ["Content-Type", "Accept", "Authorization"] := by
    unfold usualFields
    cases client.token.truthy with
    | true => exact List.Sublist.refl _
    | false => exact List.sublist_append_left ["Content-Type", "Accept"] ["Authorization"]
  have differ : ["Content-Type", "Accept", "Authorization"].Pairwise
      (fun first second => sameName first second = false) := by
    decide
  exact List.pairwise_map.mp (differ.sublist names)

theorem callHeaders_eq (client : Client) (contentType : Value) (given : Fields) :
    client.callHeaders contentType (.record given) =
      .ok (given.foldl Fields.put (client.usualFields contentType)).entries := by
  have isUsual : client.callHeaders contentType (.record given) =
      Headers.extend (client.usualFields contentType).entries (.record given) := by
    unfold callHeaders usualFields
    cases client.token.truthy with
    | true => rfl
    | false => rfl
  rw [isUsual, ← Headers.addPairs_entries]
  cases given with
  | nil => rfl
  | cons first rest => rfl

/-- What the caller of a client gives is in the headers of the call, and so are the usual headers
that the caller does not write over.  A header of the caller is the only one of its name just if no
usual header has another spelling of this name; and all names are different just if this holds of
every header of the caller. -/
theorem callHeaders_spelling (client : Client) (contentType : Value) {given : Fields}
    (differ : given.NamesDiffer) :
    ∃ sent : Fields, client.callHeaders contentType (.record given) = .ok sent.entries ∧
      (∀ field, field ∈ sent ↔ field ∈ given ∨
        field ∈ client.usualFields contentType ∧ field.1 ∉ given.map (·.1)) ∧
      (∀ header ∈ given,
        (∀ other ∈ sent, sameName other.1 header.1 = true → other = header) ↔
          IsSpelledLike header.1 (client.usualFields contentType)) ∧
      (sent.NamesDiffer ↔
        ∀ header ∈ given, IsSpelledLike header.1 (client.usualFields contentType)) := by
  have usualDiffer := client.usualFields_namesDiffer contentType
  have merges := Headers.merges_foldl_put usualDiffer differ
  exact ⟨_, client.callHeaders_eq contentType given, merges.mem_iff,
    fun header isGiven => merges.isOnly_iff differ isGiven,
    merges.namesDiffer_iff usualDiffer differ⟩

/-- A header that the caller spells in another way than the client. -/
def plainAccept : Fields := [("accept", .text "text/csv"), ("X-Trace", .text "1")]

private theorem namesDiffer_plainAccept : plainAccept.NamesDiffer := by
  unfold Fields.NamesDiffer plainAccept
  decide

private theorem exists_make_withoutToken :
    ∃ client, make [] = .ok client ∧
      client.token.truthy = false := by
  have ran : (make []).toOption.map (·.token.truthy) =
      some false := by
    decide
  rcases Option.map_eq_some_iff.mp ran with ⟨client, isClient, noToken⟩
  exact ⟨client, Outcome.toOption_eq_some_iff.mp isClient, noToken⟩

theorem callHeaders_spelling_plainAccept :
    plainAccept.NamesDiffer ∧
      ∃ client, make [] = .ok client ∧
        ∃ sent : Fields,
          client.callHeaders (.text "text/plain") (.record plainAccept) = .ok sent.entries ∧
          ("X-Trace", .text "1") ∈ sent ∧ ¬ sent.NamesDiffer := by
  rcases exists_make_withoutToken with ⟨client, made, -⟩
  rcases callHeaders_spelling client (.text "text/plain") namesDiffer_plainAccept with
    ⟨sent, isSent, mem_iff, -, differ_iff⟩
  refine ⟨namesDiffer_plainAccept, client, made, sent, isSent, ?_, fun differ => ?_⟩
  · exact (mem_iff _).mpr (Or.inl (List.mem_cons_of_mem _ List.mem_cons_self))
  · have spelled := differ_iff.mp differ _ List.mem_cons_self _
      (List.mem_cons_of_mem _ List.mem_cons_self) (by decide)
    exact absurd spelled (by decide)

/-- A header of the caller does not take the place of the usual one whose name differs in case. -/
theorem other_spelling_sent_twice :
    ∃ client, make [] = .ok client ∧
      client.callHeaders (.text ContentType.json) (.record [("accept", .text "text/csv")]) =
        .ok [(.text "Content-Type", .text ContentType.json),
          (.text "Accept", .text ContentType.json), (.text "accept", .text "text/csv")] ∧
      sameName "Accept" "accept" = true := by
  rcases exists_make_withoutToken with ⟨client, made, noToken⟩
  refine ⟨client, made, ?_, by decide⟩
  unfold callHeaders
  rw [noToken]
  rfl

end Client
end ApiAccessors
