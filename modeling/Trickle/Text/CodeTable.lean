/-
This file fixes how tables of code points are written and searched. A table is a text of
rows in ascending order, with blanks or line ends between them. A row begins with a code
point, or with the first and the last one of a range and a hyphen between them. A colon may follow,
and behind it numbers with commas between them. All numbers are hexadecimal.
-/

import Trickle.Text.Hex
import Trickle.Text.Parts

namespace Trickle

/-- A row of a table: a range of code points, and the numbers the table has for them. -/
structure CodeRow where
  first : Nat
  last : Nat
  numbers : List Nat
  deriving DecidableEq, Repr

/-- A table of code points. -/
structure CodeTable where
  rows : Array CodeRow

namespace CodeTable

/-- The number that hexadecimal digits denote. -/
def number (digits : List Char) : Nat :=
  digits.foldl (fun total char => 16 * total + (Hex.digit? (UInt8.ofNat char.toNat)).getD 0) 0

/-- The numbers that a text writes with separators between them. -/
def numbers (separator : Char) (text : List Char) : List Nat :=
  (partsAt separator text).map number

/-- The row that a text writes. -/
def row (text : List Char) : CodeRow :=
  let range := numbers '-' (text.takeWhile (· ≠ ':'))
  let behind := (text.dropWhile (· ≠ ':')).drop 1
  { first := range.head?.getD 0
    last := range.getLast?.getD 0
    numbers := if behind.isEmpty then [] else numbers ',' behind }

/-- The table that a text writes. -/
def ofText (text : String) : CodeTable :=
  let words := partsAt ' ' (text.toList.map fun char => if char = '\n' then ' ' else char)
  ⟨((words.filter (!·.isEmpty)).map row).toArray⟩

/-- Looks for the row of a code point between two places of a table. Each round halves the way. -/
def search? (table : CodeTable) (code : Nat) : (rounds low high : Nat) → Option CodeRow
  | 0, _, _ => none
  | rounds + 1, low, high =>
    if high ≤ low then none
    else
      match table.rows[(low + high) / 2]? with
      | none => none
      | some row =>
        if code < row.first then search? table code rounds low ((low + high) / 2)
        else if row.last < code then search? table code rounds ((low + high) / 2 + 1) high
        else some row

/-- The row of a code point. -/
def find? (table : CodeTable) (code : Nat) : Option CodeRow :=
  table.search? code (table.rows.size.log2 + 1) 0 table.rows.size

/-- Whether a table has a row for a code point. -/
def contains (table : CodeTable) (code : Nat) : Bool :=
  (table.find? code).isSome

/-- The first number a table has for a code point; zero if it has none. -/
def value (table : CodeTable) (code : Nat) : Nat :=
  ((table.find? code).bind fun row => row.numbers.head?).getD 0

end CodeTable

end Trickle
