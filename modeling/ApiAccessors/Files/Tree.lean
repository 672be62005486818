import ApiAccessors.Fault
import ApiAccessors.Files.Path
import ApiAccessors.Table
import ApiAccessors.Text.Utf8

namespace ApiAccessors

/-!
# File trees

The files, directories and links that a computation sees, as a value.  An entry is found by its
location, the names from the root on; the root itself is always a directory.  A path is followed
part by part, so that whatever comes before a part must be a directory that exists, or a link that
leads to one.  Besides, the system may refuse to do something for reasons of its own.
-/

/-- The names from the root on. -/
abbrev Location := List String

/-- What stands at a location. -/
inductive Entry where
  | directory
  | file (content : List UInt8)
  /-- Another name for the end of a path, which begins where the link stands. -/
  | link (target : FilePath)
deriving DecidableEq, Repr

/-- What is done with the end of a path. -/
inductive Access where
  | look
  | read
  | write
  | make
deriving DecidableEq, Repr

/-- All entries below the root, by location. -/
structure FileTree where
  entries : List (Location × Entry)
  /-- What is refused whatever stands at the path: for want of rights, for the length of a name, or
  because a device fails. -/
  refusal : Access → FilePath → Option Refusal := fun _ _ => none

namespace FileTree

/-- What stands at a location, if anything does. -/
def get? (tree : FileTree) (location : Location) : Option Entry :=
  if location.isEmpty then some .directory else tree.entries.lookup location

/-- Put an entry at a location, in the place of what stood there. -/
def put (tree : FileTree) (location : Location) (entry : Entry) : FileTree :=
  { tree with entries := Table.put location entry tree.entries }

/-- An entry is found where it was put, and all others stand where they stood. -/
theorem get?_put (tree : FileTree) (location other : Location) (entry : Entry)
    (inside : location ≠ []) :
    (tree.put location entry).get? other =
      if other = location then some entry else tree.get? other := by
  cases other with
  | nil => simp [get?, Ne.symm inside]
  | cons part rest => simpa [get?, put] using Table.lookup_put location (part :: rest) entry _

/-- Follow the parts of a path from a location.  A link leads on from the directory that it stands
in; one at the very end is followed only with `atEnd`. -/
def walk (tree : FileTree) (jump : Location → FilePath → List String → Except FileFault Location)
    (atEnd : Bool) (location : Location) : List String → Except FileFault Location
  | [] =>
      match tree.get? location with
      | some (.link target) => if atEnd then jump location.dropLast target [] else .ok location
      | _ => .ok location
  | part :: rest =>
      match tree.get? location with
      | none => .error .notFound
      | some (.file _) => .error .notADirectory
      | some (.link target) => jump location.dropLast target (part :: rest)
      | some .directory =>
          walk tree jump atEnd (if part = ".." then location.dropLast else location ++ [part]) rest

/-- Follow the parts of a path, and at most so many links on the way. -/
def follow (tree : FileTree) (atEnd : Bool) :
    Nat → Location → List String → Except FileFault Location
  | 0 => tree.walk (fun _ _ _ => .error .tooManyLinks) atEnd
  | links + 1 =>
      tree.walk (fun location target rest =>
        tree.follow atEnd links (if target.isAbsolute then [] else location) (target.parts ++ rest))
        atEnd

/-- So many links are followed on the way to the end of a path. -/
def linkLimit : Nat := 40

/-- The location that a path leads to for somebody who works in a directory. -/
def locate (tree : FileTree) (home : Location) (path : FilePath) : Except FileFault Location :=
  tree.follow true linkLimit (if path.isAbsolute then [] else home) path.parts

/-- The location of the last name of a path, whether or not a link stands there. -/
def locateName (tree : FileTree) (home : Location) (path : FilePath) : Except FileFault Location :=
  tree.follow false linkLimit (if path.isAbsolute then [] else home) path.parts

/-- What stands at the end of a path, if anything does. -/
def at? (tree : FileTree) (home : Location) (path : FilePath) : Option Entry :=
  match tree.locate home path with
  | .ok location => tree.get? location
  | .error _ => none

/-- Stop where the system refuses something. -/
def allow (tree : FileTree) (access : Access) (path : FilePath) : Except FileFault Unit :=
  match tree.refusal access path with
  | some cause => .error (.refused cause)
  | none => .ok ()

/-- Look at the end of a path. -/
def look (tree : FileTree) (home : Location) (path : FilePath) : Except FileFault (Option Entry) :=
  (tree.allow .look path).map (fun _ => tree.at? home path)

/-- Write a file; its directory must be there, and no directory may stand in its place. -/
def writeFile (tree : FileTree) (home : Location) (path : FilePath) (content : List UInt8) :
    Except FileFault FileTree := do
  tree.allow .write path
  let location ← tree.locate home path
  match tree.get? location with
  | some .directory => throw .isADirectory
  | _ => pure (tree.put location (.file content))

/-- Make a directory where nothing stands yet. -/
def makeDirectory (tree : FileTree) (home : Location) (path : FilePath) :
    Except FileFault FileTree := do
  tree.allow .make path
  let location ← tree.locateName home path
  match tree.get? location with
  | some _ => throw .occupied
  | none => pure (tree.put location .directory)

/-- Make one directory.  With `mayExist`, a directory that is there is enough. -/
def attempt (home : Location) (path : FilePath) (mayExist : Bool) (tree : FileTree) :
    Option FileFault × FileTree :=
  match tree.makeDirectory home path with
  | .ok made => (none, made)
  | .error fault =>
      if fault = .notFound || !mayExist then (some fault, tree)
      else
        match tree.look home path with
        | .ok (some .directory) => (none, tree)
        | .ok _ => (some fault, tree)
        | .error refused => (some refused, tree)

/--
Make a directory once those above it have been made, given its parts in reverse.  What was made
stays, also if something further on fails.  With `mayExist`, a directory that is there is enough.
-/
def makeAllReversed (home : Location) (slashes : Nat) (mayExist : Bool) :
    List String → FileTree → Option FileFault × FileTree
  | [], tree =>
      if mayExist then (none, tree) else (some .occupied, tree)
  | part :: above, tree =>
      let path : FilePath := ⟨slashes, (part :: above).reverse⟩
      match attempt home path mayExist tree with
      | (some .notFound, _) =>
          match makeAllReversed home slashes true above tree with
          | (none, made) => attempt home path mayExist made
          | stopped => stopped
      | other => other

/-- Make a directory and all those above it that are missing. -/
def makeAll (home : Location) (path : FilePath) (mayExist : Bool) (tree : FileTree) :
    Option FileFault × FileTree :=
  makeAllReversed home path.slashes mayExist path.parts.reverse tree

end FileTree
end ApiAccessors
