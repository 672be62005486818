namespace ApiAccessors
namespace Text

/-!
# Line ends

Texts come with line ends of three kinds, which reading makes one.
-/

/-- Make every line end a newline. -/
def unifyLines : List Char → List Char
  | [] => []
  | '\r' :: '\n' :: rest => '\n' :: unifyLines rest
  | '\r' :: rest => '\n' :: unifyLines rest
  | c :: rest => c :: unifyLines rest

end Text
end ApiAccessors
