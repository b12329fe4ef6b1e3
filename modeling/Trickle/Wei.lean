/-
This file fixes amounts of the currency and what a transfer costs. Amounts are
256-bit words of the smallest unit and wrap around; gas figures are 128-bit words,
so that the product of two of them still fits an amount.
-/

namespace Trickle

/-- An amount in the smallest unit. -/
abbrev Wei := BitVec 256

/-- An amount of gas, or a price per unit of gas. -/
abbrev Gas := BitVec 128

/-- How many of the smallest unit make one ether. -/
def weiPerEther : Nat := Nat.pow 10 18

/-- What one transfer cost. -/
structure Fees where
  gasFee : Wei
  /-- The amount sent plus the gas fee. -/
  transferFee : Wei
  /-- Always zero, kept for display. -/
  baseFee : Wei
  deriving DecidableEq, Repr

/-- The fees of a transfer that used some gas at a price. -/
def Fees.of (gasUsed gasPrice : Gas) (amount : Wei) : Fees :=
  let gasFee : Wei := gasUsed.setWidth 256 * gasPrice.setWidth 256
  { gasFee := gasFee, transferFee := amount + gasFee, baseFee := 0 }

end Trickle
