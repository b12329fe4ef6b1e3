/-
This file passes over what separates the parts of a settings document: gaps within a
line, line ends and comments. A line ends with a line feed, alone or behind a carriage
return; a carriage return alone ends nothing and stands nowhere.
-/

namespace Trickle.Toml

/-- Whether a character is a gap within a line. -/
def isGap (char : Char) : Bool :=
  char = ' ' || char = '\t'

/-- Whether a character may stand in a comment or between quotes: any but the control characters,
of which only the tab may. -/
def isPlain (char : Char) : Bool :=
  char = '\t' || (0x20 ≤ char.toNat && char.toNat ≠ 0x7F)

/-- The text behind a gap. -/
def skipGap (text : List Char) : List Char :=
  text.dropWhile isGap

/-- The text behind a line end. -/
def lineEnd? : List Char → Option (List Char)
  | '\n' :: rest => some rest
  | '\r' :: '\n' :: rest => some rest
  | _ => none

/-- The text behind a comment, if there is one. -/
def skipComment : List Char → List Char
  | '#' :: rest => rest.dropWhile isPlain
  | text => text

/-- The text behind what may follow a statement on its line. The last line needs no end. -/
def restOfLine? (text : List Char) : Option (List Char) :=
  match skipComment (skipGap text) with
  | [] => some []
  | rest => lineEnd? rest

/-- The text behind gaps, line ends and comments. -/
def skipLines (inComment : Bool) : List Char → List Char
  | [] => []
  | '\n' :: rest => skipLines false rest
  | '\r' :: '\n' :: rest => skipLines false rest
  | char :: rest =>
    if inComment then if isPlain char then skipLines true rest else char :: rest
    else if isGap char then skipLines false rest
    else if char = '#' then skipLines true rest
    else char :: rest

end Trickle.Toml
