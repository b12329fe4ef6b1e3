/-
This file rounds exact literals to binary64, the sixty-four-bit floating-point
format, to the nearest value and to the even one of two. All arithmetic is on whole
numbers: a literal is a ratio, the ratio is scaled by a power of two until its whole
part fills the significand, and the rounded whole part with the scale is the word.
Rounding up at the end of a binade carries into the exponent field by itself.
-/

import Trickle.Number.Literal

namespace Trickle

/-- A binary64 word. -/
structure Binary64 where
  bits : BitVec 64
  deriving DecidableEq, Repr

namespace Binary64

/-- The word of positive infinity. -/
def infinityWord : Nat := 0x7FF0000000000000

/-- Puts the sign in front of the lower sixty-three bits. -/
def ofMagnitude (negative : Bool) (magnitude : Nat) : Binary64 :=
  ⟨BitVec.ofNat 64 (if negative then Nat.pow 2 63 + magnitude else magnitude)⟩

/-- Whether the value is above zero; a NaN is not. -/
def isPositive (value : Binary64) : Bool :=
  0 < value.bits.toNat && value.bits.toNat ≤ infinityWord

/-! ### Rounding -/

/-- A quotient rounded to the nearest whole number, and to the even one of two. -/
def roundEven (numerator denominator : Nat) : Nat :=
  let quotient := numerator / denominator
  let remainder := numerator % denominator
  if 2 * remainder < denominator ∨ (2 * remainder = denominator ∧ quotient % 2 = 0) then quotient
  else quotient + 1

/-- The whole part of the binary logarithm of a positive ratio. -/
def log2Ratio (numerator denominator : Nat) : Int :=
  let guess : Int := (numerator.log2 : Int) - denominator.log2
  let reached :=
    if 0 ≤ guess then denominator * Nat.pow 2 guess.toNat ≤ numerator
    else denominator ≤ numerator * Nat.pow 2 (-guess).toNat
  if reached then guess else guess - 1

/-- The word of a positive ratio, or of infinity when the ratio is too large. -/
def magnitudeOfRatio (numerator denominator : Nat) : Nat :=
  let scale : Int := min 1074 (52 - log2Ratio numerator denominator)
  let significand :=
    if 0 ≤ scale then roundEven (numerator * Nat.pow 2 scale.toNat) denominator
    else roundEven numerator (denominator * Nat.pow 2 (-scale).toNat)
  min infinityWord ((1074 - scale).toNat * Nat.pow 2 52 + significand)

/-- The word of a whole number of `count` digits scaled by a power of ten. Exponents far outside
the format's range are settled without computing the power. -/
def magnitudeOfDecimal (coefficient count : Nat) (exponent : Int) : Nat :=
  if coefficient = 0 then 0
  else if 400 < exponent then infinityWord
  else if exponent + count < -400 then 0
  else if 0 ≤ exponent then magnitudeOfRatio (coefficient * Nat.pow 10 exponent.toNat) 1
  else magnitudeOfRatio coefficient (Nat.pow 10 (-exponent).toNat)

/-- The word nearest to a literal. -/
def ofLiteral : Literal → Binary64
  | .finite negative digits exponent =>
    ofMagnitude negative (magnitudeOfDecimal (Digits.value digits) digits.length exponent)
  | .infinite negative => ofMagnitude negative infinityWord
  | .notANumber => ofMagnitude false 0x7FF8000000000000

end Binary64

end Trickle
