import ApiAccessors.Text.Split

namespace ApiAccessors

/-!
# File paths

A file path is relative, or it begins at a root.  Its parts are never empty and never a single
point; two points, which lead to the directory above, stay until the path is looked up.
-/

/-- A file path; it begins with so many slashes, of which two are a root of their own. -/
structure FilePath where
  slashes : Nat
  parts : List String
deriving DecidableEq, Repr

namespace FilePath

/-- Whether a part of a written path says something. -/
def isPart (part : List Char) : Bool := !part.isEmpty && part != ['.']

def partsOf (text : List Char) : List String :=
  ((Text.splitWhere (· == '/') text).filter isPart).map String.ofList

def ofText (text : String) : FilePath :=
  let count := (text.toList.takeWhile (· == '/')).length
  ⟨if count ≤ 2 then count else 1, partsOf text.toList⟩

def isAbsolute (path : FilePath) : Bool := path.slashes != 0

/-- The written form; the path without parts is a single point. -/
def text (path : FilePath) : String :=
  let written :=
    String.ofList (List.replicate path.slashes '/') ++ "/".intercalate path.parts
  if written.isEmpty then "." else written

/-- A path below another one; an absolute path is below none. -/
def join (path below : FilePath) : FilePath :=
  if below.isAbsolute then below else ⟨path.slashes, path.parts ++ below.parts⟩

/-- The last part. -/
def name (path : FilePath) : String := path.parts.getLast?.getD ""

/-- The path without its last part. -/
def parent (path : FilePath) : FilePath := ⟨path.slashes, path.parts.dropLast⟩

/-- The end of the name from its last point on, if there is something on both sides of it. -/
def suffix (path : FilePath) : String :=
  let name := path.name.toList
  let ending := Text.afterLast '.' name
  if ending.isEmpty || name.length ≤ ending.length + 1 then ""
  else String.ofList ('.' :: ending)

/-- Take one part of a path, given the parts before it in reverse. -/
def climb (above : List String) (part : String) : List String :=
  if part = ".." then above.drop 1 else part :: above

/-- An absolute path without two points, for a path below a directory. -/
def resolve (home path : FilePath) : FilePath :=
  ⟨1, ((home.join path).parts.foldl climb []).reverse⟩

end FilePath
end ApiAccessors
