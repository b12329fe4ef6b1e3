/-
This file fixes what a reader of text is: it takes a value off the front of a text and
leaves the rest, or finds that no such value stands there.
-/

namespace Trickle

/-- Takes a value off the front of a text, if one stands there. -/
abbrev Reader (Value : Type) := List Char → Option (Value × List Char)

/-- The text behind a character that has to stand at its front. -/
def expect? (char : Char) : List Char → Option (List Char)
  | first :: rest => if first = char then some rest else none
  | [] => none

end Trickle
