/-
This file splits texts at a separator. There is always one part more than there are
separators, and parts may be empty.
-/

namespace Trickle

/-- The parts of a text between separators. -/
def partsAt (separator : Char) : List Char → List (List Char)
  | [] => [[]]
  | char :: rest =>
    if char = separator then [] :: partsAt separator rest
    else
      match partsAt separator rest with
      | first :: others => (char :: first) :: others
      | [] => [[char]]

end Trickle
