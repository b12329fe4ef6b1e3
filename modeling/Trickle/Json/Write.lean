/-
This file writes JSON without blanks: texts between quotes, lists and objects of parts
that are written already.
-/

import Trickle.Text.Hex

namespace Trickle.Json

/-- A character as it is written between quotes. -/
def escaped (char : Char) : String :=
  if char = '"' then "\\\""
  else if char = '\\' then "\\\\"
  else if char = '\x08' then "\\b"
  else if char = '\x0C' then "\\f"
  else if char = '\n' then "\\n"
  else if char = '\r' then "\\r"
  else if char = '\t' then "\\t"
  else if char.toNat < 0x20 then "\\u" ++ String.ofList (Hex.write 4 char.toNat)
  else char.toString

/-- A text between quotes. -/
def quoted (text : String) : String :=
  "\"" ++ String.join (text.toList.map escaped) ++ "\""

/-- A list of written items. -/
def listOf (items : List String) : String :=
  "[" ++ ",".intercalate items ++ "]"

/-- An object of names with written values. -/
def objectOf (members : List (String × String)) : String :=
  "\x7b" ++ ",".intercalate (members.map fun (name, value) => quoted name ++ ":" ++ value) ++ "\x7d"

end Trickle.Json
