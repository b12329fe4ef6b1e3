/-
This file writes binary64 values as decimal text: the fewest digits that read back as
the same value, and of those the nearest to it. A value is a whole number times a power
of two, and the numbers that round to it are those between the midpoints to its two
neighbours, the midpoints included when the whole number is even. On the grid of `n`
digits only the two points next to the value have to be tried.
-/

import Trickle.Number.Binary64

namespace Trickle

/-- A decimal number: a coefficient scaled by a power of ten. -/
structure Decimal where
  coefficient : Nat
  exponent : Int
  deriving DecidableEq, Repr

namespace Shortest

/-- A positive binary64 value as `4 * significand * 2 ^ scale`, with the distances to the midpoints
below and above it in units of `2 ^ scale`. -/
structure Spread where
  value : Nat
  below : Nat
  above : Nat
  scale : Int
  closed : Bool
  deriving Repr

/-- The spread of a positive finite word. -/
def spread (magnitude : Nat) : Spread :=
  let fraction := magnitude % Nat.pow 2 52
  let exponent := magnitude / Nat.pow 2 52
  let significand := if exponent = 0 then fraction else Nat.pow 2 52 + fraction
  let scale : Int := (if exponent = 0 then 1 else exponent : Nat) - 1077
  { value := 4 * significand
    below := if fraction = 0 ∧ 1 < exponent then 1 else 2
    above := 2
    scale := scale
    closed := significand % 2 = 0 }

/-- Both sides of a comparison of `a * 2 ^ scale` with `b * 10 ^ exponent`, as whole numbers. -/
def aligned (a : Nat) (scale : Int) (b : Nat) (exponent : Int) : Nat × Nat :=
  let left := a * Nat.pow 2 scale.toNat * Nat.pow 10 (-exponent).toNat
  let right := b * Nat.pow 10 exponent.toNat * Nat.pow 2 (-scale).toNat
  (left, right)

/-- Whether a decimal number rounds to the value. -/
def readsBack (spread : Spread) (decimal : Decimal) : Bool :=
  let (low, fromLow) :=
    aligned (spread.value - spread.below) spread.scale decimal.coefficient decimal.exponent
  let (high, fromHigh) :=
    aligned (spread.value + spread.above) spread.scale decimal.coefficient decimal.exponent
  if spread.closed then low ≤ fromLow && fromHigh ≤ high else low < fromLow && fromHigh < high

/-- The distance of a decimal number from the value, on the scale of `aligned`. -/
def distance (spread : Spread) (decimal : Decimal) : Nat :=
  let (value, number) := aligned spread.value spread.scale decimal.coefficient decimal.exponent
  (value - number) + (number - value)

/-- The nearest decimal number with an exponent that reads back, if one does; of two that are
equally near the upper one. -/
def onGrid? (spread : Spread) (exponent : Int) : Option Decimal :=
  let (value, unit) := aligned spread.value spread.scale 1 exponent
  let lower : Decimal := ⟨value / unit, exponent⟩
  let upper : Decimal := ⟨value / unit + 1, exponent⟩
  match readsBack spread lower, readsBack spread upper with
  | true, true => some (if distance spread lower < distance spread upper then lower else upper)
  | true, false => some lower
  | false, true => some upper
  | false, false => none

/-- The first exponent below `exponent` with a decimal number that reads back. -/
def search (spread : Spread) : (count : Nat) → (exponent : Int) → Decimal
  | 0, exponent => ⟨0, exponent⟩
  | count + 1, exponent =>
    (onGrid? spread exponent).getD (search spread count (exponent - 1))

/-- The shortest decimal number of a positive finite word. No such value needs a digit above
`10 ^ 308` or below `10 ^ -324`. -/
def decimal (magnitude : Nat) : Decimal :=
  search (spread magnitude) 640 309

/-- The digits of a decimal number with a point among them, and at least one digit on each side. -/
def positional (decimal : Decimal) : String :=
  let digits := toString decimal.coefficient
  if 0 ≤ decimal.exponent then
    digits ++ String.ofList (List.replicate decimal.exponent.toNat '0') ++ ".0"
  else
    let places := (-decimal.exponent).toNat
    let filled := List.replicate (places + 1 - digits.length) '0' ++ digits.toList
    String.ofList (filled.take (filled.length - places)) ++ "." ++
      String.ofList (filled.drop (filled.length - places))

end Shortest

namespace Binary64

/-- The text of a value: all its digits, never an exponent. -/
def text (value : Binary64) : String :=
  let bits := value.bits.toNat
  let magnitude := bits % Nat.pow 2 63
  let sign := if bits < Nat.pow 2 63 then "" else "-"
  if infinityWord < magnitude then "NaN"
  else if magnitude = infinityWord then sign ++ "inf"
  else if magnitude = 0 then sign ++ "0.0"
  else sign ++ Shortest.positional (Shortest.decimal magnitude)

end Binary64

end Trickle
