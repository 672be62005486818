import ApiAccessors.Files.Tree
import ApiAccessors.Proofs.Outcome

namespace ApiAccessors

/-!
# Where paths lead

A path leads from directory to directory, and over links.  So where it leads depends on these alone,
and it still leads there when others are added.  The last name of a path stands in the directory
that the path before it leads to; but a link in this place leads on.
-/

namespace FileTree

variable {tree other : FileTree} {home location target base : Location} {directory : FilePath}

/-- A link stands at a location. -/
def HasLink (tree : FileTree) (location : Location) : Prop :=
  ∃ target, tree.get? location = some (.link target)

/-- Where a link begins that stands in a directory. -/
def start (directory : Location) (target : FilePath) : Location :=
  if target.isAbsolute then [] else directory

/-- The parts of a path lead from one location to another, over at most so many links.  A link at
the very end is followed only with `atEnd`. -/
inductive Leads (tree : FileTree) (atEnd : Bool) : Nat → Location → List String → Location → Prop
  | here {links : Nat} {location : Location} (stays : atEnd = true → ¬ tree.HasLink location) :
      Leads tree atEnd links location [] location
  | part {links : Nat} {location target : Location} {part : String} {rest : List String}
      (isDirectory : tree.get? location = some .directory)
      (later : Leads tree atEnd links
        (if part = ".." then location.dropLast else location ++ [part]) rest target) :
      Leads tree atEnd links location (part :: rest) target
  | link {links : Nat} {location target : Location} {path : FilePath} {parts : List String}
      (isLink : tree.get? location = some (.link path)) (onward : parts = [] → atEnd = true)
      (later : Leads tree atEnd links (start location.dropLast path) (path.parts ++ parts) target) :
      Leads tree atEnd (links + 1) location parts target

/-- To walk is to be led, if the jumps are. -/
theorem walk_eq_ok_iff {atEnd : Bool} {links : Nat}
    {jump : Location → FilePath → List String → Except FileFault Location}
    (jumps : ∀ {location path parts target}, tree.get? location = some (.link path) →
      (parts = [] → atEnd = true) →
      (jump location.dropLast path parts = .ok target ↔
        Leads tree atEnd links location parts target))
    {parts : List String} :
    tree.walk jump atEnd location parts = .ok target ↔
      Leads tree atEnd links location parts target := by
  induction parts generalizing location with
  | nil =>
      unfold walk
      split
      · rename_i path isLink
        cases atEnd with
        | true => exact jumps isLink (fun _ => rfl)
        | false =>
            constructor
            · intro same
              cases same
              exact .here (fun ends => by cases ends)
            · rintro (_ | _ | ⟨-, onward, -⟩)
              · rfl
              · cases onward rfl
      · rename_i noLink
        constructor
        · intro same
          cases same
          exact .here (fun _ ⟨path, isLink⟩ => noLink path isLink)
        · rintro (_ | _ | ⟨isLink, -, -⟩)
          · rfl
          · exact absurd isLink (noLink _)
  | cons part rest ih =>
      unfold walk
      split
      · rename_i nothing
        refine iff_of_false (by simp) ?_
        rintro (_ | ⟨isDirectory, -⟩ | ⟨isLink, -, -⟩)
        · simp [nothing] at isDirectory
        · simp [nothing] at isLink
      · rename_i isFile
        refine iff_of_false (by simp) ?_
        rintro (_ | ⟨isDirectory, -⟩ | ⟨isLink, -, -⟩)
        · simp [isFile] at isDirectory
        · simp [isFile] at isLink
      · rename_i path isLink
        exact jumps isLink (fun isEmpty => by cases isEmpty)
      · rename_i isDirectory
        rw [ih]
        constructor
        · exact .part isDirectory
        · rintro (_ | ⟨-, later⟩ | ⟨isLink, -, -⟩)
          · exact later
          · simp [isDirectory] at isLink

/-- At a link there is no other way than to follow it. -/
theorem leads_iff_of_link {atEnd : Bool} {links : Nat} {path : FilePath} {parts : List String}
    (isLink : tree.get? location = some (.link path)) (onward : parts = [] → atEnd = true) :
    Leads tree atEnd links location parts target ↔ ∃ fewer, links = fewer + 1 ∧
      Leads tree atEnd fewer (start location.dropLast path) (path.parts ++ parts) target := by
  constructor
  · rintro (stays | ⟨isDirectory, -⟩ | ⟨isOther, -, later⟩)
    · exact absurd ⟨path, isLink⟩ (stays (onward rfl))
    · simp [isLink] at isDirectory
    · rw [isLink] at isOther
      cases isOther
      exact ⟨_, rfl, later⟩
  · rintro ⟨fewer, rfl, later⟩
    exact .link isLink onward later

theorem follow_eq_ok_iff {atEnd : Bool} {links : Nat} {parts : List String} :
    tree.follow atEnd links location parts = .ok target ↔
      Leads tree atEnd links location parts target := by
  induction links generalizing location parts target with
  | zero =>
      refine walk_eq_ok_iff (fun isLink onward => ?_)
      rw [leads_iff_of_link isLink onward]
      simp
  | succ links ih =>
      refine walk_eq_ok_iff (fun isLink onward => ?_)
      rw [leads_iff_of_link isLink onward, ih]
      simp [start]

theorem locate_eq_ok_iff {path : FilePath} :
    tree.locate home path = .ok target ↔
      Leads tree true linkLimit (start home path) path.parts target := follow_eq_ok_iff

theorem locateName_eq_ok_iff {path : FilePath} :
    tree.locateName home path = .ok target ↔
      Leads tree false linkLimit (start home path) path.parts target := follow_eq_ok_iff

section

variable {atEnd : Bool} {links : Nat} {parts : List String} {name : String}

/-- The last name of a path stands in the directory that the path before it leads to. -/
theorem leads_append_iff (notUp : name ≠ "..") :
    Leads tree false links location (parts ++ [name]) target ↔
      ∃ base, Leads tree true links location parts base ∧ tree.get? base = some .directory ∧
        target = base ++ [name] := by
  constructor
  · generalize isPath : parts ++ [name] = path
    intro leads
    induction leads generalizing parts with
    | here _ => simp at isPath
    | @part links location target first rest isDirectory later ih =>
        cases parts with
        | nil =>
            cases isPath
            rw [if_neg notUp] at later
            refine ⟨location, .here (fun _ ⟨_, isLink⟩ => ?_), isDirectory, ?_⟩
            · simp [isDirectory] at isLink
            · cases later with
              | here _ => rfl
              | link _ onward _ => cases onward rfl
        | cons other others =>
            cases isPath
            rcases ih rfl with ⟨base, leads, isBase, same⟩
            exact ⟨base, .part isDirectory leads, isBase, same⟩
    | link isLink _ _ ih =>
        rcases ih (by rw [← isPath, List.append_assoc]) with ⟨base, leads, isBase, same⟩
        exact ⟨base, .link isLink (fun _ => rfl) leads, isBase, same⟩
  · rintro ⟨base, leads, isDirectory, rfl⟩
    induction leads with
    | here _ =>
        refine .part isDirectory ?_
        rw [if_neg notUp]
        exact .here (fun ends => by cases ends)
    | part isPart _ ih => exact .part isPart (ih isDirectory)
    | link isLink _ _ ih =>
        refine .link isLink (by simp) ?_
        rw [← List.append_assoc]
        exact ih isDirectory

/-- A path that is followed to its end does not end at a link. -/
theorem Leads.not_hasLink (leads : Leads tree true links location parts target) :
    ¬ tree.HasLink target := by
  induction leads with
  | here stays => exact stays rfl
  | part _ _ ih => exact ih
  | link _ _ _ ih => exact ih

theorem Leads.to_end (leads : Leads tree false links location parts target)
    (noLink : ¬ tree.HasLink target) : Leads tree true links location parts target := by
  induction leads with
  | here _ => exact .here (fun _ => noLink)
  | part isDirectory _ ih => exact .part isDirectory (ih noLink)
  | link isLink _ _ ih => exact .link isLink (fun _ => rfl) (ih noLink)

/-- A path whose end is followed leads to its last name, or a link stands there. -/
theorem Leads.to_name (leads : Leads tree true links location parts target) :
    Leads tree false links location parts target ∨
      ∃ between, Leads tree false links location parts between ∧ tree.HasLink between := by
  induction leads with
  | here _ => exact Or.inl (.here (fun ends => by cases ends))
  | part isDirectory _ ih =>
      rcases ih with same | ⟨between, leads, hasLink⟩
      · exact Or.inl (.part isDirectory same)
      · exact Or.inr ⟨between, .part isDirectory leads, hasLink⟩
  | @link links location target path parts isLink _ _ ih =>
      by_cases isEmpty : parts = []
      · rw [isEmpty]
        exact Or.inr ⟨location, .here (fun ends => by cases ends), path, isLink⟩
      · have onward : parts = [] → false = true := fun same => absurd same isEmpty
        rcases ih with same | ⟨between, leads, hasLink⟩
        · exact Or.inl (.link isLink onward same)
        · exact Or.inr ⟨between, .link isLink onward leads, hasLink⟩

end

/-- One tree has the directories and the links of another one, and no other links. -/
structure Keeps (tree other : FileTree) : Prop where
  directory : ∀ location, tree.get? location = some .directory →
    other.get? location = some .directory
  link : ∀ location path, tree.get? location = some (.link path) ↔
    other.get? location = some (.link path)

theorem Keeps.leads {atEnd : Bool} {links : Nat} {parts : List String} (keeps : Keeps tree other)
    (leads : Leads tree atEnd links location parts target) :
    Leads other atEnd links location parts target := by
  induction leads with
  | here stays =>
      exact .here (fun ends ⟨path, isLink⟩ => stays ends ⟨path, (keeps.link _ _).mpr isLink⟩)
  | part isDirectory _ ih => exact .part (keeps.directory _ isDirectory) ih
  | link isLink onward _ ih => exact .link ((keeps.link _ _).mp isLink) onward ih

theorem Keeps.locate {path : FilePath} (keeps : Keeps tree other)
    (located : tree.locate home path = .ok target) : other.locate home path = .ok target :=
  locate_eq_ok_iff.mpr (keeps.leads (locate_eq_ok_iff.mp located))

/-- A path leads to a location, and a directory is there. -/
structure LeadsTo (tree : FileTree) (home : Location) (directory : FilePath)
    (base : Location) : Prop where
  located : tree.locate home directory = .ok base
  is_directory : tree.get? base = some .directory

theorem LeadsTo.at?_eq (leads : LeadsTo tree home directory base) :
    tree.at? home directory = some .directory := by
  unfold at?
  rw [leads.located]
  exact leads.is_directory

end FileTree

/-- A name that is one part of a path and leads below. -/
structure IsPlainName (name : String) : Prop where
  no_slash : '/' ∉ name.toList
  not_empty : name ≠ ""
  not_here : name ≠ "."
  not_up : name ≠ ".."

theorem FilePath.ofText_of_isPlainName {name : String} (plain : IsPlainName name) :
    FilePath.ofText name = ⟨0, [name]⟩ := by
  have noMark : ∀ c ∈ name.toList, (c == '/') = false := by
    intro c member
    apply beq_eq_false_iff_ne.mpr
    intro same
    exact plain.no_slash (same ▸ member)
  have isPart : FilePath.isPart name.toList = true := by
    have notEmpty : name.toList ≠ [] :=
      fun empty => plain.not_empty (String.toList_eq_nil_iff.mp empty)
    have notPoint : name.toList ≠ ['.'] := fun point => plain.not_here (String.toList_inj.mp point)
    simp only [FilePath.isPart, List.isEmpty_eq_false_iff.mpr notEmpty, bne_iff_ne.mpr notPoint,
      Bool.not_false, Bool.and_self]
  have noSlashes : name.toList.takeWhile (· == '/') = [] := by
    cases isText : name.toList with
    | nil => rfl
    | cons c rest =>
        rw [isText] at noMark
        rw [List.takeWhile_cons, noMark c List.mem_cons_self]
        rfl
  simp only [FilePath.ofText, FilePath.partsOf, noSlashes, Text.splitWhere_eq_singleton noMark,
    List.filter_cons, isPart, if_true, List.filter_nil, List.map_cons, List.map_nil,
    String.ofList_toList, List.length_nil, Nat.zero_le]

theorem FilePath.join_ofText_of_isPlainName {name : String} (plain : IsPlainName name)
    (directory : FilePath) :
    directory.join (FilePath.ofText name) = ⟨directory.slashes, directory.parts ++ [name]⟩ := by
  rw [FilePath.ofText_of_isPlainName plain]
  rfl

namespace FileTree

variable {tree : FileTree} {home target base : Location} {directory : FilePath} {name : String}

/-- A path into a directory leads to the name there, unless a link stands in its place. -/
theorem exists_leadsTo_of_locate (plain : IsPlainName name)
    (located : tree.locate home (directory.join (FilePath.ofText name)) = .ok target) :
    ∃ base, LeadsTo tree home directory base ∧
      (tree.HasLink (base ++ [name]) ∨ target = base ++ [name]) := by
  rw [FilePath.join_ofText_of_isPlainName plain, locate_eq_ok_iff] at located
  rcases located.to_name with leads | ⟨between, leads, hasLink⟩
  · rcases (leads_append_iff plain.not_up).mp leads with ⟨base, above, isDirectory, same⟩
    exact ⟨base, ⟨locate_eq_ok_iff.mpr above, isDirectory⟩, Or.inr same⟩
  · rcases (leads_append_iff plain.not_up).mp leads with ⟨base, above, isDirectory, rfl⟩
    exact ⟨base, ⟨locate_eq_ok_iff.mpr above, isDirectory⟩, Or.inl hasLink⟩

theorem LeadsTo.locate_join (leads : LeadsTo tree home directory base) (plain : IsPlainName name)
    (noLink : ¬ tree.HasLink (base ++ [name])) :
    tree.locate home (directory.join (FilePath.ofText name)) = .ok (base ++ [name]) := by
  rw [FilePath.join_ofText_of_isPlainName plain, locate_eq_ok_iff]
  have named := (leads_append_iff plain.not_up).mpr
    ⟨base, locate_eq_ok_iff.mp leads.located, leads.is_directory, rfl⟩
  exact named.to_end noLink

end FileTree
end ApiAccessors
