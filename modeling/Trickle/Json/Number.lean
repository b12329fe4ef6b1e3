/-
This file fixes which numbers in JSON can be held. A number is held as a significand of
sixty-four bits and a power of ten: digits that do not fit any more only count as places.
What such a pair stands for is the product of the two, each rounded to the fifty-three
bits of a binary64 value first, and the product must not reach past the largest one.
-/

import Trickle.Number.Binary64

namespace Trickle.Json

/-- A number as it is held: a significand, scaled by a power of ten. -/
structure Scaled where
  significand : Nat
  exponent : Int
  deriving DecidableEq, Repr

/-- What comes of reading a number. -/
inductive Holding where
  | held
  | tooLarge
  /-- The exponent alone is too large. The rest of its digits are not looked at any more. -/
  | brokenOff
  deriving DecidableEq, Repr

namespace Scaled

/-- The bound of significands. -/
def bound : Nat := UInt64.size

/-- The bound of exponents as they are written. -/
def exponentBound : Nat := 0x80000000

/-- Takes digits into a significand for as long as it fits, and gives back those that are left. -/
def take : (significand : Nat) → (digits : List Char) → Nat × List Char
  | significand, [] => (significand, [])
  | significand, char :: rest =>
    if 10 * significand + Digits.digit char < bound then
      take (10 * significand + Digits.digit char) rest
    else (significand, char :: rest)

/-- The number that digits on both sides of a point denote. -/
def ofDigits (whole decimals : List Char) : Scaled :=
  let (front, dropped) := take 0 whole
  let (significand, left) := take front decimals
  ⟨significand, (dropped.length : Int) - (decimals.length - left.length : Nat)⟩

/-- A whole number rounded to fifty-three bits. -/
def rounded (number : Nat) : Nat :=
  let unit := Nat.pow 2 (number.log2 - 52)
  Binary64.roundEven number unit * unit

/-- The first whole number that rounds to infinity. -/
def limit : Nat := (Nat.pow 2 54 - 1) * Nat.pow 2 970

/-- What comes of holding a number. -/
def holding (number : Scaled) : Holding :=
  if number.significand = 0 ∨ number.exponent < 0 then .held
  else if number.exponent ≤ 308 ∧
      rounded number.significand * rounded (Nat.pow 10 number.exponent.toNat) < limit then .held
  else .tooLarge

/-- Reads on the exponent that digits denote: if it does not fit, whether digits are left then. -/
def readExponent : (total : Nat) → (digits : List Char) → Except Bool Nat
  | total, [] => .ok total
  | total, char :: rest =>
    if 10 * total + Digits.digit char < exponentBound then
      readExponent (10 * total + Digits.digit char) rest
    else .error (!rest.isEmpty)

/-- What comes of holding a number that an exponent scales once more. -/
def holdingScaled (number : Scaled) (negative : Bool) (digits : List Char) : Holding :=
  match readExponent 0 digits with
  | .ok size =>
    let power : Int := if negative then -(size : Int) else size
    holding { number with exponent := number.exponent + power }
  | .error digitsLeft =>
    if negative ∨ number.significand = 0 then .held
    else if digitsLeft then .brokenOff
    else .tooLarge

end Scaled

/-- What comes of reading the number that some characters write. -/
def holding (text : List Char) : Holding :=
  let (_, unsigned) := Literal.unsigned text
  let (whole, rest) := Digits.split unsigned
  let (decimals, rest) := Literal.fraction rest
  let number := Scaled.ofDigits whole decimals
  match rest with
  | [] => number.holding
  | _ :: rest =>
    let (negative, digits) := Literal.unsigned rest
    number.holdingScaled negative digits

end Trickle.Json
