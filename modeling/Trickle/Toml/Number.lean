/-
This file reads numbers. Single underscores may stand between digits. An integer has
no leading zeros and fits a signed word of sixty-four bits; with one of the marks `0x`,
`0o` and `0b` its digits are of another base and there is no sign. A decimal number has
a fraction or an exponent, or is one of the words `inf` and `nan`; one too large to be
held is refused.
-/

import Trickle.Number.Based
import Trickle.Toml.Quoted
import Trickle.Toml.Node

namespace Trickle.Toml

/-- Further digits, of which underscores are left out. -/
def moreDigits (isDigit : Char → Bool) : List Char → List Char × List Char
  | '_' :: char :: rest =>
    if isDigit char then
      let (digits, rest) := moreDigits isDigit rest
      (char :: digits, rest)
    else ([], '_' :: char :: rest)
  | char :: rest =>
    if isDigit char then
      let (digits, rest) := moreDigits isDigit rest
      (char :: digits, rest)
    else ([], char :: rest)
  | [] => ([], [])

/-- At least one digit. -/
def digits? (isDigit : Char → Bool) : Reader (List Char)
  | char :: rest =>
    if isDigit char then
      let (digits, rest) := moreDigits isDigit rest
      some (char :: digits, rest)
    else none
  | [] => none

/-- The digits of a whole number, which start with a zero only if there is no other. -/
def whole? : Reader (List Char)
  | '0' :: rest => some (['0'], rest)
  | text => digits? Char.isDigit text

/-- The digits behind a point. -/
def decimals? : Reader (List Char)
  | '.' :: rest => digits? Char.isDigit rest
  | _ => none

/-- An exponent with its mark and sign. -/
def power? : Reader Int
  | mark :: rest =>
    if mark = 'e' ∨ mark = 'E' then do
      let (negative, unsigned) := Literal.unsigned rest
      let (digits, rest) ← digits? Char.isDigit unsigned
      let size : Int := Digits.power digits
      some (if negative then -size else size, rest)
    else none
  | [] => none

/-- A decimal number, as a literal. -/
def literal? (text : List Char) : Option (Literal × List Char) := do
  let (negative, unsigned) := Literal.unsigned text
  let (whole, rest) ← whole? unsigned
  match power? rest with
  | some (power, rest) => some (.finite negative whole power, rest)
  | none =>
    let (decimals, rest) ← decimals? rest
    let (power, rest) := (power? rest).getD (0, rest)
    some (.finite negative (whole ++ decimals) (power - decimals.length), rest)

/-- A decimal number that the format can hold, or a word for one that is not finite. -/
def decimal? (text : List Char) : Option (Binary64 × List Char) :=
  match literal? text with
  | some (literal, rest) =>
    let value := Binary64.ofLiteral literal
    if value.bits.toNat = Binary64.infinityWord then none else some (value, rest)
  | none =>
    match Literal.unsigned text with
    | (negative, 'i' :: 'n' :: 'f' :: rest) => some (Binary64.ofLiteral (.infinite negative), rest)
    | (_, 'n' :: 'a' :: 'n' :: rest) => some (Binary64.ofLiteral .notANumber, rest)
    | _ => none

/-- An integer in the bounds of a signed word. -/
def bounded? (value : Int) : Option Int :=
  if -9223372036854775808 ≤ value ∧ value < 9223372036854775808 then some value else none

/-- An integer behind a mark for its base. -/
def marked? (base : Nat) (text : List Char) : Option (Int × List Char) := do
  let (digits, rest) ← digits? (Based.isDigit base) text
  some (← bounded? (Based.value base UInt64.size digits), rest)

/-- An integer. -/
def integer? : Reader Int
  | '0' :: 'x' :: rest => marked? 16 rest
  | '0' :: 'o' :: rest => marked? 8 rest
  | '0' :: 'b' :: rest => marked? 2 rest
  | text => do
    let (negative, unsigned) := Literal.unsigned text
    let (digits, rest) ← whole? unsigned
    let size : Int := Digits.value digits
    some (← bounded? (if negative then -size else size), rest)

/-- A number of either kind. -/
def number? (text : List Char) : Option (Node × List Char) :=
  match decimal? text with
  | some (value, rest) => some (.decimal value, rest)
  | none => (integer? text).map fun (value, rest) => (.integer value, rest)

end Trickle.Toml
