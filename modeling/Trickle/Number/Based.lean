/-
This file reads whole numbers in bases up to sixteen. A number from a bound on is not
told from the bound itself, so that texts of any length are read at the same pace.
-/

import Trickle.Text.Hex

namespace Trickle.Based

/-- The value of a digit of either case. -/
def digit? (char : Char) : Option Nat :=
  if char.toNat < 0x80 then Hex.digit? (UInt8.ofNat char.toNat) else none

/-- Whether a character is a digit of a base. -/
def isDigit (base : Nat) (char : Char) : Bool :=
  (digit? char).any (· < base)

/-- The number that digits denote in a base, or a bound if the number reaches it. -/
def value (base bound : Nat) (digits : List Char) : Nat :=
  digits.foldl (fun total char => min bound (base * total + (digit? char).getD 0)) 0

end Trickle.Based
