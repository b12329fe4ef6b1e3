/-
This file reads the numbers and byte strings in a node's replies. A number is a whole
number or a text of digits, whose base the mark in front of them tells; underscores are
passed over and no digits at all are zero. A number that does not fit is refused, never
cut. A byte string of fixed length is hexadecimal text or a list of bytes, in which one
last item that is no byte is passed over. Where a list is read in its place, that item
has to be one that reading a byte gets to the end of; a list that was put aside first
may end with any item.
-/

import Trickle.Json.Value
import Trickle.Text.Hex

namespace Trickle.Rpc

open Trickle.Json (Value)

/-- The value of a digit or letter as a digit. -/
def digit? (char : Char) : Option Nat :=
  if '0' ≤ char ∧ char ≤ '9' then some (char.toNat - '0'.toNat)
  else if 'a' ≤ char ∧ char ≤ 'z' then some (char.toNat - 'a'.toNat + 10)
  else if 'A' ≤ char ∧ char ≤ 'Z' then some (char.toNat - 'A'.toNat + 10)
  else none

/-- Adds digits of a base to a total that has to stay below a bound. -/
def accumulate? (base bound : Nat) : (total : Nat) → List Char → Option Nat
  | total, [] => some total
  | total, char :: rest =>
    if char = '_' then accumulate? base bound total rest
    else
      match digit? char with
      | none => none
      | some value =>
        if value < base ∧ base * total + value < bound then
          accumulate? base bound (base * total + value) rest
        else none

/-- The base that the front of a text asks for, and the digits behind it. -/
def basedDigits : List Char → Nat × List Char
  | '0' :: mark :: digits =>
    if mark = 'x' ∨ mark = 'X' then (16, digits)
    else if mark = 'o' ∨ mark = 'O' then (8, digits)
    else if mark = 'b' ∨ mark = 'B' then (2, digits)
    else (10, '0' :: mark :: digits)
  | digits => (10, digits)

/-- The number below a bound that a text denotes. -/
def numberOf? (bound : Nat) (text : String) : Option Nat :=
  let (base, digits) := basedDigits text.toList
  accumulate? base bound 0 digits

/-- The number below a bound that a value denotes. -/
def quantity? (bound : Nat) : Value → Option Nat
  | .text (some text) => numberOf? bound text
  | value => value.natural? (min bound UInt64.size)

/-- Whether trying to read a byte reads a value to its end. -/
def isReadThrough : Value → Bool
  | .null | .boolean _ => true
  | .number digits => Json.holding digits ≠ .brokenOff
  | .text content => content.isSome
  | .list _ | .object _ => false

/-- Adds bytes to a total. One more item that is no byte may follow if it is `passable`. -/
def bytesOf? (passable : Value → Bool) : (count total : Nat) → List Value → Option Nat
  | 0, total, [] => some total
  | 0, total, [extra] =>
    if (extra.natural? 256).isSome ∨ ¬ passable extra then none else some total
  | 0, _, _ => none
  | _ + 1, _, [] => none
  | count + 1, total, item :: rest =>
    match item.natural? 256 with
    | some byte => bytesOf? passable count (256 * total + byte) rest
    | none => none

/-- The number that exactly `count` bytes denote. -/
def bytesWith? (passable : Value → Bool) (count : Nat) : Value → Option Nat
  | .text (some text) => (Hex.read (2 * count) (Utf8.ofString text)).toOption
  | .list items => bytesOf? passable count 0 items
  | _ => none

/-- The number that exactly `count` bytes denote, read in their place. -/
def fixedBytes? (count : Nat) : Value → Option Nat :=
  bytesWith? isReadThrough count

/-- The number that exactly `count` bytes denote, read after they were put aside. -/
def storedBytes? (count : Nat) : Value → Option Nat :=
  bytesWith? (fun _ => true) count

/-- Whether a value is a byte string of any length. -/
def isByteString : Value → Bool
  | .text (some text) =>
    let digits := Hex.unmarked (Utf8.ofString text)
    digits.length % 2 == 0 && digits.all fun digit => (Hex.digit? digit).isSome
  | .list items => items.all fun item => (item.natural? 256).isSome
  | _ => false

end Trickle.Rpc
