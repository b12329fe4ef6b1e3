/-
This file reads texts between quotes. Double quotes allow escapes, single quotes take
everything as it stands; three quotes in a row open a text of many lines, whose first
line end is dropped when it comes at once. A line end inside such a text is a line
feed, a backslash at the end of a line joins it to the next word, and up to two quotes
may stand right in front of the closing three.
-/

import Trickle.Text.Hex
import Trickle.Text.Reader
import Trickle.Toml.Layout

namespace Trickle.Toml

/-- Puts a character in front of what a reader read. -/
def prepend (char : Char) (result : Option (List Char × List Char)) :
    Option (List Char × List Char) :=
  result.map fun (text, rest) => (char :: text, rest)

/-- The character that a letter stands for behind a backslash. -/
def escape? : Char → Option Char
  | 'b' => some '\x08'
  | 'f' => some '\x0C'
  | 'n' => some '\n'
  | 'r' => some '\r'
  | 't' => some '\t'
  | '"' => some '"'
  | '\\' => some '\\'
  | _ => none

/-- The character whose code point some hexadecimal digits write. -/
def ofDigits? (digits : List Char) : Option Char :=
  match Hex.accumulate 0 0 (Utf8.encode digits) with
  | .ok code => if code.isValidChar then some (Char.ofNat code) else none
  | .error _ => none

/-- Reads on from the opening quote of a text in double quotes. -/
def doubleQuoted? : Reader (List Char)
  | [] => none
  | '"' :: rest => some ([], rest)
  | '\\' :: 'u' :: a :: b :: c :: d :: rest => do
    prepend (← ofDigits? [a, b, c, d]) (doubleQuoted? rest)
  | '\\' :: 'U' :: a :: b :: c :: d :: e :: f :: g :: h :: rest => do
    prepend (← ofDigits? [a, b, c, d, e, f, g, h]) (doubleQuoted? rest)
  | '\\' :: mark :: rest => do prepend (← escape? mark) (doubleQuoted? rest)
  | ['\\'] => none
  | char :: rest => if isPlain char then prepend char (doubleQuoted? rest) else none

/-- Reads on from the opening quote of a text in single quotes. -/
def singleQuoted? : Reader (List Char)
  | [] => none
  | '\'' :: rest => some ([], rest)
  | char :: rest => if isPlain char then prepend char (singleQuoted? rest) else none

/-- Reads on inside a text of many lines in double quotes; `joining` is true behind a backslash at
the end of a line. -/
def doubleBlock? (joining : Bool) : Reader (List Char)
  | [] => none
  | '"' :: '"' :: '"' :: '"' :: '"' :: rest => some (['"', '"'], rest)
  | '"' :: '"' :: '"' :: '"' :: rest => some (['"'], rest)
  | '"' :: '"' :: '"' :: rest => some ([], rest)
  | '\\' :: 'u' :: a :: b :: c :: d :: rest => do
    prepend (← ofDigits? [a, b, c, d]) (doubleBlock? false rest)
  | '\\' :: 'U' :: a :: b :: c :: d :: e :: f :: g :: h :: rest => do
    prepend (← ofDigits? [a, b, c, d, e, f, g, h]) (doubleBlock? false rest)
  | '\\' :: mark :: rest =>
    if (lineEnd? (skipGap (mark :: rest))).isSome then doubleBlock? true rest
    else do prepend (← escape? mark) (doubleBlock? false rest)
  | ['\\'] => none
  | '\n' :: rest =>
    if joining then doubleBlock? true rest else prepend '\n' (doubleBlock? false rest)
  | '\r' :: '\n' :: rest =>
    if joining then doubleBlock? true rest else prepend '\n' (doubleBlock? false rest)
  | char :: rest =>
    if joining && isGap char then doubleBlock? true rest
    else if isPlain char then prepend char (doubleBlock? false rest)
    else none

/-- Reads on inside a text of many lines in single quotes. -/
def singleBlock? : Reader (List Char)
  | [] => none
  | '\'' :: '\'' :: '\'' :: '\'' :: '\'' :: rest => some (['\'', '\''], rest)
  | '\'' :: '\'' :: '\'' :: '\'' :: rest => some (['\''], rest)
  | '\'' :: '\'' :: '\'' :: rest => some ([], rest)
  | '\n' :: rest => prepend '\n' (singleBlock? rest)
  | '\r' :: '\n' :: rest => prepend '\n' (singleBlock? rest)
  | char :: rest => if isPlain char then prepend char (singleBlock? rest) else none

/-- A text of many lines without a line end at its very start. -/
def openBlock (text : List Char) : List Char :=
  (lineEnd? text).getD text

/-- Reads a text in quotes of any kind. -/
def text? : Reader (List Char)
  | '"' :: '"' :: '"' :: rest => doubleBlock? false (openBlock rest)
  | '\'' :: '\'' :: '\'' :: rest => singleBlock? (openBlock rest)
  | '"' :: rest => doubleQuoted? rest
  | '\'' :: rest => singleQuoted? rest
  | _ => none

end Trickle.Toml
