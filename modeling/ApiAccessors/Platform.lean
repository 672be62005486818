import ApiAccessors.Yaml.Reader

namespace ApiAccessors

/-!
# The platform

What a run is given by the interpreter that it happens on and by the libraries around it.  How deep
documents can be depends on the call stack that is left, and one of the two notations of documents
is read by a library.
-/

structure Platform where
  /-- How many collections inside each other can be read in the interchange notation. -/
  readingRoom : Nat
  /-- How many collections inside each other can be written in the interchange notation. -/
  writingRoom : Nat
  /-- The reader of the other notation. -/
  yaml : List Char → Except Yaml.Failure Value

/-- A platform with a reader of its own for the other notation.  The rooms are those of a run that
is called from the outermost level. -/
def Platform.usual : Platform := ⟨985, 985, Yaml.read 485⟩

end ApiAccessors
