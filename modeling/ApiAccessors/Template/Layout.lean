namespace ApiAccessors
namespace Template

/-!
# Layouts

Every generated text is laid out as code with docstrings in it.
-/

/-- Lines of text. -/
def unlines (lines : List String) : String := String.join (lines.map (· ++ "\n"))

/-- A part of a generated text. -/
inductive Part where
  | code (text : String)
  | docstring (inside : String)

def Part.text : Part → String
  | .code text => text
  | .docstring inside => "\"\"\"" ++ inside ++ "\"\"\""

/-- The parts of a generated text in their order. -/
abbrev Layout := List Part

def Layout.text (layout : Layout) : String := String.join (layout.map Part.text)

end Template
end ApiAccessors
