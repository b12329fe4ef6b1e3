/-
This file shows text between quotes, the way a message points at it: what has no shape
of its own is written as an escape, and so are backslashes and the quote in use.
-/

import Trickle.Text.Hex
import Trickle.Text.Hidden

namespace Trickle

/-- A character as it is shown between two quotes. -/
def shown (quote char : Char) : String :=
  if char = '\x00' then "\\0"
  else if char = '\t' then "\\t"
  else if char = '\n' then "\\n"
  else if char = '\r' then "\\r"
  else if char = quote ∨ char = '\\' then String.ofList ['\\', char]
  else if isHidden char then
    let digits := String.ofList (Hex.write (char.toNat.log2 / 4 + 1) char.toNat)
    "\\u\x7b" ++ digits ++ "\x7d"
  else char.toString

/-- A byte, shown as the character of the same number between single quotes. -/
def quotedByte (byte : UInt8) : String :=
  "'" ++ shown '\'' (Char.ofNat byte.toNat) ++ "'"

/-- A text between double quotes. -/
def quotedText (text : String) : String :=
  "\"" ++ String.join (text.toList.map (shown '"')) ++ "\""

/-- The wording of what is wrong with hexadecimal text. -/
def HexError.message : HexError → String
  | .oddLength => "odd number of digits"
  | .wrongLength => "invalid string length"
  | .invalidDigit byte position => s!"invalid character {quotedByte byte} at position {position}"

end Trickle
