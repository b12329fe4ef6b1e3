/-
This file reads JSON. What is read is exactly the grammar: no comments, no trailing
commas, no leading zeros, no control characters inside quotes. Escapes that name the
two halves of a character are joined; a half without its other half makes the text one
without content, which only matters to whoever wants to know the content.
-/

import Trickle.Json.Value
import Trickle.Text.Hex
import Trickle.Text.Reader

namespace Trickle.Json

/-! ### Blanks and numbers -/

/-- Whether a character may stand between the parts of a value. -/
def isBlank (char : Char) : Bool :=
  char = ' ' || char = '\t' || char = '\n' || char = '\r'

/-- The text behind blanks. -/
def skipBlanks (text : List Char) : List Char :=
  text.dropWhile isBlank

/-- Reads at least one digit. -/
def digits? (text : List Char) : Option (List Char × List Char) :=
  match Digits.split text with
  | ([], _) => none
  | split => some split

/-- Reads digits that start with a zero only if there is no other. -/
def whole? : Reader (List Char)
  | '0' :: rest => some (['0'], rest)
  | text => digits? text

/-- Reads a point with digits behind it; without a point there is nothing to read. -/
def fraction? : Reader (List Char)
  | '.' :: rest => do
    let (digits, rest) ← digits? rest
    some ('.' :: digits, rest)
  | text => some ([], text)

/-- Reads an optional sign. -/
def sign : List Char → List Char × List Char
  | '+' :: rest => (['+'], rest)
  | '-' :: rest => (['-'], rest)
  | text => ([], text)

/-- Reads an exponent; without its mark there is nothing to read. -/
def exponent? : Reader (List Char)
  | [] => some ([], [])
  | mark :: rest =>
    if mark = 'e' ∨ mark = 'E' then do
      let (sign, unsigned) := sign rest
      let (digits, rest) ← digits? unsigned
      some (mark :: sign ++ digits, rest)
    else some ([], mark :: rest)

/-- Reads a number, all of it digits, signs, marks and points. -/
def number? (text : List Char) : Option (List Char × List Char) := do
  let (minus, unsigned) := match text with
    | '-' :: rest => (['-'], rest)
    | text => ([], text)
  let (whole, rest) ← whole? unsigned
  let (fraction, rest) ← fraction? rest
  let (exponent, rest) ← exponent? rest
  some (minus ++ whole ++ fraction ++ exponent, rest)

/-! ### Texts -/

/-- The code that a letter stands for behind a backslash. -/
def escape? : Char → Option Nat
  | '"' => some 0x22
  | '\\' => some 0x5C
  | '/' => some 0x2F
  | 'b' => some 0x08
  | 'f' => some 0x0C
  | 'n' => some 0x0A
  | 'r' => some 0x0D
  | 't' => some 0x09
  | _ => none

/-- The number that four hexadecimal digits denote. -/
def unit? (digits : List Char) : Option Nat :=
  (Hex.accumulate 0 0 (Utf8.encode digits)).toOption

/-- Reads on from the opening quote of a text. The codes may be halves of characters. -/
def codes? : Reader (List Nat)
  | [] => none
  | '"' :: rest => some ([], rest)
  | '\\' :: 'u' :: a :: b :: c :: d :: rest => do
    let code ← unit? [a, b, c, d]
    let (codes, rest) ← codes? rest
    some (code :: codes, rest)
  | '\\' :: letter :: rest => do
    let code ← escape? letter
    let (codes, rest) ← codes? rest
    some (code :: codes, rest)
  | char :: rest =>
    if char.toNat < 0x20 ∨ char = '\\' then none
    else do
      let (codes, rest) ← codes? rest
      some (char.toNat :: codes, rest)

/-- Whether a code is the first half of a character. -/
def isHigh (code : Nat) : Bool :=
  0xD800 ≤ code && code < 0xDC00

/-- Whether a code is the second half of a character. -/
def isLow (code : Nat) : Bool :=
  0xDC00 ≤ code && code < 0xE000

/-- The characters of codes; there are none if a half stands without its other half. -/
def joinHalves? : List Nat → Option (List Char)
  | [] => some []
  | high :: low :: rest =>
    if isHigh high ∧ isLow low then
      (joinHalves? rest).map
        (Char.ofNat (0x10000 + (high - 0xD800) * 0x400 + (low - 0xDC00)) :: ·)
    else if isHigh high ∨ isLow high then none
    else (joinHalves? (low :: rest)).map (Char.ofNat high :: ·)
  | [code] => if isHigh code ∨ isLow code then none else some [Char.ofNat code]

/-- Reads on from the opening quote of a text. -/
def content? (text : List Char) : Option (Option String × List Char) :=
  (codes? text).map fun (codes, rest) => ((joinHalves? codes).map String.ofList, rest)

/-! ### Values -/

mutual

/-- Reads a value behind blanks. Every round takes at least one character. -/
def value? : (rounds : Nat) → Reader Value
  | 0, _ => none
  | rounds + 1, text =>
    match skipBlanks text with
    | 'n' :: 'u' :: 'l' :: 'l' :: rest => some (.null, rest)
    | 't' :: 'r' :: 'u' :: 'e' :: rest => some (.boolean true, rest)
    | 'f' :: 'a' :: 'l' :: 's' :: 'e' :: rest => some (.boolean false, rest)
    | '"' :: rest => (content? rest).map fun (content, rest) => (.text content, rest)
    | '[' :: rest =>
      match skipBlanks rest with
      | ']' :: rest => some (.list [], rest)
      | rest => (items? rounds rest).map fun (items, rest) => (.list items, rest)
    | '\x7b' :: rest =>
      match skipBlanks rest with
      | '\x7d' :: rest => some (.object [], rest)
      | rest => (members? rounds rest).map fun (members, rest) => (.object members, rest)
    | rest => (number? rest).map fun (digits, rest) => (.number digits, rest)

/-- Reads items up to the end of their list. -/
def items? : (rounds : Nat) → Reader (List Value)
  | 0, _ => none
  | rounds + 1, text => do
    let (item, rest) ← value? rounds text
    match skipBlanks rest with
    | ',' :: rest => do
      let (items, rest) ← items? rounds rest
      some (item :: items, rest)
    | ']' :: rest => some ([item], rest)
    | _ => none

/-- Reads members up to the end of their object. -/
def members? : (rounds : Nat) → Reader (List (Member Value))
  | 0, _ => none
  | rounds + 1, text => do
    let (name, rest) ← content? (← expect? '"' (skipBlanks text))
    let written := skipBlanks (← expect? ':' (skipBlanks rest))
    let (value, rest) ← value? rounds written
    let member : Member Value := ⟨name, value, written, rest⟩
    match skipBlanks rest with
    | ',' :: rest => do
      let (members, rest) ← members? rounds rest
      some (member :: members, rest)
    | '\x7d' :: rest => some ([member], rest)
    | _ => none

end

/-- The value that a whole text writes. -/
def read? (text : String) : Option Value :=
  let chars := text.toList
  match value? (chars.length + 1) chars with
  | some (value, rest) => if (skipBlanks rest).isEmpty then some value else none
  | none => none

end Trickle.Json
