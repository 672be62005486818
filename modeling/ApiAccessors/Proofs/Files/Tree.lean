import ApiAccessors.Proofs.Files.Ways

namespace ApiAccessors
namespace FileTree

/-!
# Files of one directory

Several files are written into one directory, one after the other.  Writing a file makes no
directory or link and removes none, so every path leads to the same place before and after.  A tree
in which the files have been written can then be described without paths: it is the tree before with
a list of contents put at known locations.  From this follow what stands in each place afterwards
and that writing the same files again leaves the tree as it is, if the places differ.  They do where
no link stands in them.
-/

variable {tree after other : FileTree} {home location target base place : Location}
  {directory path : FilePath} {name : String} {content : List UInt8}

/-! ## Single files -/

/-- Two trees in which every path leads to the same place, if it leads anywhere, and in which the
same is refused. -/
structure SameWays (tree other : FileTree) : Prop where
  forth : Keeps tree other
  back : Keeps other tree
  refusal : tree.refusal = other.refusal

theorem SameWays.refl (tree : FileTree) : SameWays tree tree :=
  ⟨⟨fun _ => id, fun _ _ => Iff.rfl⟩, ⟨fun _ => id, fun _ _ => Iff.rfl⟩, rfl⟩

theorem SameWays.trans {between : FileTree} (first : SameWays tree between)
    (second : SameWays between other) : SameWays tree other where
  forth := ⟨fun _ is => second.forth.directory _ (first.forth.directory _ is),
    fun _ _ => (first.forth.link _ _).trans (second.forth.link _ _)⟩
  back := ⟨fun _ is => first.back.directory _ (second.back.directory _ is),
    fun _ _ => (second.back.link _ _).trans (first.back.link _ _)⟩
  refusal := first.refusal.trans second.refusal

/-- A path leads to a place where a file can be written. -/
structure IsPlace (tree : FileTree) (home : Location) (path : FilePath) (place : Location) :
    Prop where
  allowed : tree.refusal .write path = none
  located : tree.locate home path = .ok place
  free : tree.get? place ≠ some .directory

theorem SameWays.isPlace (same : SameWays tree other) (isPlace : tree.IsPlace home path place) :
    other.IsPlace home path place where
  allowed := same.refusal ▸ isPlace.allowed
  located := same.forth.locate isPlace.located
  free := fun isDirectory => isPlace.free (same.back.directory _ isDirectory)

theorem IsPlace.inside (isPlace : tree.IsPlace home path place) : place ≠ [] := by
  rintro rfl
  exact isPlace.free rfl

theorem IsPlace.sameWays_put (isPlace : tree.IsPlace home path place) (content : List UInt8) :
    SameWays tree (tree.put place (.file content)) := by
  have noLink := (locate_eq_ok_iff.mp isPlace.located).not_hasLink
  have found (location : Location) := get?_put tree place location (.file content) isPlace.inside
  have directories (location : Location) : tree.get? location = some .directory ↔
      (tree.put place (.file content)).get? location = some .directory := by
    rw [found]
    by_cases here : location = place
    · rw [if_pos here, here]
      exact iff_of_false isPlace.free (by simp)
    · rw [if_neg here]
  have links (location : Location) (path : FilePath) : tree.get? location = some (.link path) ↔
      (tree.put place (.file content)).get? location = some (.link path) := by
    rw [found]
    by_cases here : location = place
    · rw [if_pos here, here]
      exact iff_of_false (fun isLink => noLink ⟨path, isLink⟩) (by simp)
    · rw [if_neg here]
  exact ⟨⟨fun _ => (directories _).mp, links⟩,
    ⟨fun _ => (directories _).mpr, fun _ _ => (links _ _).symm⟩, rfl⟩

theorem put_eq_self {entry : Entry} (inside : location ≠ [])
    (held : tree.get? location = some entry) : tree.put location entry = tree := by
  rw [get?, if_neg (by simpa using inside)] at held
  rw [put, Table.put_eq_self held]

theorem writeFile_eq_ok_iff :
    tree.writeFile home path content = .ok after ↔
      ∃ place, tree.IsPlace home path place ∧ after = tree.put place (.file content) := by
  unfold writeFile allow
  cases refused : tree.refusal .write path with
  | some fault =>
      refine iff_of_false (fun wrote => by cases wrote) ?_
      rintro ⟨place, isPlace, -⟩
      rw [isPlace.allowed] at refused
      cases refused
  | none =>
      simp only [Outcome.ok_bind, Outcome.bind_eq_ok_iff]
      refine exists_congr (fun place => ?_)
      constructor
      · rintro ⟨located, wrote⟩
        split at wrote
        · cases wrote
        · rename_i free
          cases wrote
          exact ⟨⟨refused, located, free⟩, rfl⟩
      · rintro ⟨isPlace, rfl⟩
        refine ⟨isPlace.located, ?_⟩
        split
        · rename_i isDirectory
          exact absurd isDirectory isPlace.free
        · rfl

/-- A file that has been written is found where its path leads, which is where it led before. -/
theorem at?_of_writeFile (wrote : tree.writeFile home path content = .ok after) :
    after.at? home path = some (.file content) := by
  rcases writeFile_eq_ok_iff.mp wrote with ⟨place, isPlace, rfl⟩
  unfold at?
  rw [((isPlace.sameWays_put content).isPlace isPlace).located]
  exact (get?_put _ _ _ _ isPlace.inside).trans (if_pos rfl)

/-! ## Several files -/

/-- Write files into a directory, one after the other. -/
def writeFiles (home : Location) (directory : FilePath) :
    List (String × List UInt8) → FileTree → Except FileFault FileTree
  | [], tree => .ok tree
  | (name, content) :: rest, tree => do
      let written ← tree.writeFile home (directory.join (FilePath.ofText name)) content
      writeFiles home directory rest written

/-- Where the path of a file in a directory leads. -/
def placeOf (tree : FileTree) (home : Location) (directory : FilePath) (name : String) : Location :=
  match tree.locate home (directory.join (FilePath.ofText name)) with
  | .ok place => place
  | .error _ => []

def putFiles (place : String → Location) : List (String × List UInt8) → FileTree → FileTree
  | [], tree => tree
  | (name, content) :: rest, tree =>
      putFiles place rest (tree.put (place name) (.file content))

/-- All files have places where they can be written. -/
def HavePlaces (tree : FileTree) (home : Location) (directory : FilePath)
    (files : List (String × List UInt8)) (place : String → Location) : Prop :=
  ∀ file ∈ files, tree.IsPlace home (directory.join (FilePath.ofText file.1)) (place file.1)

section

variable {files : List (String × List UInt8)} {place : String → Location}

theorem IsPlace.placeOf_eq {place : Location}
    (isPlace : tree.IsPlace home (directory.join (FilePath.ofText name)) place) :
    tree.placeOf home directory name = place := by
  unfold placeOf
  rw [isPlace.located]

theorem HavePlaces.of_sameWays (places : tree.HavePlaces home directory files place)
    (same : SameWays tree other) : other.HavePlaces home directory files place :=
  fun file member => same.isPlace (places file member)

theorem HavePlaces.sameWays_putFiles (places : tree.HavePlaces home directory files place) :
    SameWays tree (putFiles place files tree) := by
  induction files generalizing tree with
  | nil => exact SameWays.refl tree
  | cons file rest ih =>
      rcases List.forall_mem_cons.mp places with ⟨here, later⟩
      have same := here.sameWays_put file.2
      exact same.trans (ih (HavePlaces.of_sameWays later same))

/-- Files can be written if all of them have places, which do not change meanwhile. -/
theorem writeFiles_eq_ok_iff :
    writeFiles home directory files tree = .ok after ↔
      ∃ place, tree.HavePlaces home directory files place ∧ after = putFiles place files tree := by
  constructor
  · intro wrote
    refine ⟨tree.placeOf home directory, ?_⟩
    induction files generalizing tree with
    | nil =>
        cases wrote
        exact ⟨List.forall_mem_nil _, rfl⟩
    | cons file rest ih =>
        rcases Outcome.bind_eq_ok_iff.mp wrote with ⟨written, wroteFirst, later⟩
        rcases writeFile_eq_ok_iff.mp wroteFirst with ⟨here, isPlace, rfl⟩
        have same := isPlace.sameWays_put file.2
        have samePlaces : (tree.put here (.file file.2)).placeOf home directory =
            tree.placeOf home directory := by
          funext name
          unfold placeOf
          cases found : tree.locate home (directory.join (FilePath.ofText name)) with
          | ok place => rw [same.forth.locate found]
          | error fault =>
              cases after : (tree.put here (.file file.2)).locate home
                  (directory.join (FilePath.ofText name)) with
              | error fault => rfl
              | ok place => simp [same.back.locate after] at found
        rcases ih later with ⟨places, isAfter⟩
        rw [samePlaces] at places isAfter
        have placed := isPlace.placeOf_eq
        refine ⟨List.forall_mem_cons.mpr ⟨placed.symm ▸ isPlace, ?_⟩, ?_⟩
        · exact fun other member =>
            SameWays.isPlace ⟨same.back, same.forth, same.refusal.symm⟩ (places other member)
        · rw [isAfter, putFiles, placed]
  · rintro ⟨place, places, rfl⟩
    induction files generalizing tree with
    | nil => rfl
    | cons file rest ih =>
        rcases List.forall_mem_cons.mp places with ⟨here, later⟩
        refine Outcome.bind_eq_ok_iff.mpr ⟨_, writeFile_eq_ok_iff.mpr ⟨_, here, rfl⟩, ?_⟩
        exact ih (HavePlaces.of_sameWays later (here.sameWays_put file.2))

theorem writeFiles_append {others : List (String × List UInt8)} :
    writeFiles home directory (files ++ others) tree = .ok after ↔
      ∃ between, writeFiles home directory files tree = .ok between ∧
        writeFiles home directory others between = .ok after := by
  induction files generalizing tree with
  | nil => simp only [List.nil_append, writeFiles, Except.ok.injEq, exists_eq_left']
  | cons file rest ih =>
      rcases file with ⟨name, content⟩
      rw [List.cons_append, writeFiles, writeFiles, Outcome.bind_eq_ok_iff]
      simp only [ih, Outcome.bind_eq_ok_iff]
      constructor
      · rintro ⟨written, wrote, between, first, second⟩
        exact ⟨between, ⟨written, wrote, first⟩, second⟩
      · rintro ⟨between, ⟨written, wrote, first⟩, second⟩
        exact ⟨written, wrote, between, first, second⟩

/-- What does not stand in the place of a file is unchanged. -/
theorem get?_putFiles_of_ne (inside : ∀ file ∈ files, place file.1 ≠ [])
    (apart : ∀ file ∈ files, location ≠ place file.1) :
    (putFiles place files tree).get? location = tree.get? location := by
  induction files generalizing tree with
  | nil => rfl
  | cons file rest ih =>
      rcases List.forall_mem_cons.mp inside with ⟨inside, others⟩
      rcases List.forall_mem_cons.mp apart with ⟨apart, later⟩
      rw [putFiles, ih others later, get?_put _ _ _ _ inside, if_neg apart]

/-- Each of several files with different places has its content in the end. -/
theorem get?_putFiles_of_mem (inside : ∀ file ∈ files, place file.1 ≠ [])
    (distinct : (files.map (fun file => place file.1)).Nodup) {file : String × List UInt8}
    (member : file ∈ files) :
    (putFiles place files tree).get? (place file.1) = some (.file file.2) := by
  induction files generalizing tree with
  | nil => cases member
  | cons first rest ih =>
      rcases List.nodup_cons.mp distinct with ⟨new, others⟩
      rcases List.forall_mem_cons.mp inside with ⟨here, later⟩
      rcases List.mem_cons.mp member with rfl | later'
      · rw [putFiles, get?_putFiles_of_ne later, get?_put _ _ _ _ here, if_pos rfl]
        intro other otherMember samePlace
        exact new (List.mem_map.mpr ⟨other, otherMember, samePlace.symm⟩)
      · exact ih later others later'

theorem refusal_putFiles (place : String → Location) (files : List (String × List UInt8))
    (tree : FileTree) : (putFiles place files tree).refusal = tree.refusal := by
  induction files generalizing tree with
  | nil => rfl
  | cons file rest ih => exact ih _

theorem putFiles_eq_self (inside : ∀ file ∈ files, place file.1 ≠ [])
    (held : ∀ file ∈ files, tree.get? (place file.1) = some (.file file.2)) :
    putFiles place files tree = tree := by
  induction files with
  | nil => rfl
  | cons file rest ih =>
      rcases List.forall_mem_cons.mp inside with ⟨inside, others⟩
      rcases List.forall_mem_cons.mp held with ⟨here, later⟩
      rw [putFiles, put_eq_self inside here, ih others later]

/-- Files that have been written stand in their places, if these differ, and nothing else has
changed.  To write the files again changes nothing then. -/
theorem HavePlaces.holds (places : tree.HavePlaces home directory files place)
    (distinct : (files.map (fun file => place file.1)).Nodup) :
    (∀ file ∈ files,
        (putFiles place files tree).get? (place file.1) = some (.file file.2)) ∧
      writeFiles home directory files (putFiles place files tree) =
        .ok (putFiles place files tree) := by
  have inside : ∀ file ∈ files, place file.1 ≠ [] := fun file member => (places file member).inside
  have held : ∀ file ∈ files,
      (putFiles place files tree).get? (place file.1) = some (.file file.2) :=
    fun file member => get?_putFiles_of_mem inside distinct member
  refine ⟨held, writeFiles_eq_ok_iff.mpr ⟨place, ?_, (putFiles_eq_self inside held).symm⟩⟩
  exact places.of_sameWays places.sameWays_putFiles

end

/-! ## New directories -/

/-- One tree has what the other one has, and where it has more there are directories. -/
def Grows (tree after : FileTree) : Prop :=
  ∀ location, after.get? location = tree.get? location ∨
    tree.get? location = none ∧ after.get? location = some .directory

theorem Grows.refl (tree : FileTree) : Grows tree tree := fun _ => Or.inl rfl

/-- Where a path leads, it still leads when directories have been added. -/
theorem Grows.keeps (grows : Grows tree after) : Keeps tree after where
  directory location isDirectory := by
    rcases grows location with same | ⟨-, made⟩
    · exact same.trans isDirectory
    · exact made
  link location path := by
    rcases grows location with same | ⟨missing, made⟩
    · rw [same]
    · simp [missing, made]

/-- One tree has what the other one has, and what it has more are directories to which beginnings of
a path lead. -/
def GrowsAlong (home : Location) (path : FilePath) (tree after : FileTree) : Prop :=
  ∀ location, after.get? location = tree.get? location ∨
    tree.get? location = none ∧ after.get? location = some .directory ∧
      ∃ above, above <+: path.parts ∧ after.locate home ⟨path.slashes, above⟩ = .ok location

namespace GrowsAlong

variable {path : FilePath}

theorem grows (along : GrowsAlong home path tree after) : Grows tree after := by
  intro location
  rcases along location with same | ⟨missing, made, -⟩
  · exact Or.inl same
  · exact Or.inr ⟨missing, made⟩

theorem refl (home : Location) (path : FilePath) (tree : FileTree) :
    GrowsAlong home path tree tree :=
  fun _ => Or.inl rfl

theorem trans {between : FileTree} (first : GrowsAlong home path tree between)
    (second : GrowsAlong home path between after) : GrowsAlong home path tree after := by
  intro location
  rcases second location with same | ⟨missing, made, leads⟩
  · rcases first location with sameBefore | ⟨missing, made, above, begins, located⟩
    · exact Or.inl (same.trans sameBefore)
    · exact Or.inr ⟨missing, same.trans made, above, begins, second.grows.keeps.locate located⟩
  · rcases first location with same | ⟨-, madeBefore, -⟩
    · exact Or.inr ⟨same.symm.trans missing, made, leads⟩
    · rw [madeBefore] at missing
      cases missing

theorem of_above {slashes : Nat} {above parts : List String} (begins : above <+: parts)
    (along : GrowsAlong home ⟨slashes, above⟩ tree after) :
    GrowsAlong home ⟨slashes, parts⟩ tree after := by
  intro location
  rcases along location with same | ⟨missing, made, first, isFirst, located⟩
  · exact Or.inl same
  · exact Or.inr ⟨missing, made, first, isFirst.trans begins, located⟩

theorem of_makeDirectory (made : tree.makeDirectory home path = .ok after) :
    GrowsAlong home path tree after := by
  unfold makeDirectory at made
  rcases Outcome.bind_eq_ok_iff.mp made with ⟨_, -, made⟩
  rcases Outcome.bind_eq_ok_iff.mp made with ⟨location, located, later⟩
  split at later
  · cases later
  · rename_i missing
    cases later
    have inside : location ≠ [] := by
      intro isRoot
      rw [isRoot] at missing
      cases missing
    have grows : Grows tree (tree.put location .directory) := by
      intro other
      rw [get?_put _ _ _ _ inside]
      by_cases same : other = location
      · rw [if_pos same, same]
        exact Or.inr ⟨missing, rfl⟩
      · rw [if_neg same]
        exact Or.inl rfl
    intro other
    by_cases same : other = location
    · rw [same, get?_put _ _ _ _ inside, if_pos rfl]
      have noLink : ¬ tree.HasLink location := fun ⟨_, isLink⟩ => by simp [missing] at isLink
      have leads := (locateName_eq_ok_iff.mp located).to_end noLink
      exact Or.inr ⟨missing, rfl, path.parts, List.prefix_rfl,
        locate_eq_ok_iff.mpr (grows.keeps.leads leads)⟩
    · rw [get?_put _ _ _ _ inside, if_neg same]
      exact Or.inl rfl

theorem attempt (home : Location) (path : FilePath) (mayExist : Bool) (tree : FileTree) :
    GrowsAlong home path tree (attempt home path mayExist tree).2 := by
  unfold FileTree.attempt
  split
  · rename_i made isMade
    exact of_makeDirectory isMade
  · split
    · exact refl home path tree
    · split
      all_goals exact refl home path tree

/-- To make a directory with those above it changes nothing that is there, also if it fails. -/
theorem makeAllReversed (home : Location) (slashes : Nat) (mayExist : Bool)
    (parts : List String) (tree : FileTree) :
    GrowsAlong home ⟨slashes, parts.reverse⟩ tree
      (makeAllReversed home slashes mayExist parts tree).2 := by
  induction parts generalizing mayExist tree with
  | nil =>
      rw [FileTree.makeAllReversed]
      split
      · exact refl _ _ tree
      · exact refl _ _ tree
  | cons part above ih =>
      rw [FileTree.makeAllReversed]
      split
      · have begins : above.reverse <+: (part :: above).reverse := by
          rw [List.reverse_cons]
          exact List.prefix_append _ _
        have rises := (ih true tree).of_above begins
        split
        · rename_i made isMade
          rw [isMade] at rises
          exact rises.trans (attempt home _ mayExist made)
        · exact rises
      · exact attempt home _ mayExist tree

theorem makeAll (home : Location) (path : FilePath) (mayExist : Bool) (tree : FileTree) :
    GrowsAlong home path tree (makeAll home path mayExist tree).2 := by
  have along := makeAllReversed home path.slashes mayExist path.parts.reverse tree
  rwa [List.reverse_reverse] at along

end GrowsAlong

/-! ## Refusals -/

theorem refusal_attempt (home : Location) (path : FilePath) (mayExist : Bool) (tree : FileTree) :
    (attempt home path mayExist tree).2.refusal = tree.refusal := by
  unfold attempt
  split
  · rename_i made isMade
    rcases Outcome.bind_eq_ok_iff.mp isMade with ⟨_, -, isMade⟩
    rcases Outcome.bind_eq_ok_iff.mp isMade with ⟨location, -, isMade⟩
    split at isMade
    · cases isMade
    · cases isMade
      rfl
  · split
    · rfl
    · split
      all_goals rfl

theorem refusal_makeAllReversed (home : Location) (slashes : Nat) (mayExist : Bool)
    (parts : List String) (tree : FileTree) :
    (makeAllReversed home slashes mayExist parts tree).2.refusal = tree.refusal := by
  induction parts generalizing mayExist tree with
  | nil =>
      rw [makeAllReversed]
      split
      all_goals rfl
  | cons part above ih =>
      rw [makeAllReversed]
      split
      · have rises := ih true tree
        split
        · rename_i made isMade
          rw [isMade] at rises
          exact (refusal_attempt home _ mayExist made).trans rises
        · exact rises
      · exact refusal_attempt home _ mayExist tree

/-- To make directories does not change what is refused. -/
theorem refusal_makeAll (home : Location) (path : FilePath) (mayExist : Bool) (tree : FileTree) :
    (makeAll home path mayExist tree).2.refusal = tree.refusal :=
  refusal_makeAllReversed home path.slashes mayExist path.parts.reverse tree

end FileTree
end ApiAccessors
