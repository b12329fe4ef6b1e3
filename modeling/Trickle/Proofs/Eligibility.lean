/-
This file proves from which recorded balance on an account is paid. The balance of an entry
is a decimal number, rounded to a binary64 word, and the entry is worth a payment if the
word is above zero. So the account is paid if and only if the number is above half of the
smallest word's: anything up to there is rounded to zero, whatever the digits and the
exponent that write it.

The law holds of every number that is read as the nearest word. Those are all whose
exponent is read for what it says, and of the others all that are not written with tens of
thousands of digits: for them the exponent decides, though it is not read to its end.
-/

import Trickle.Proofs.EntryGrammar
import Trickle.Proofs.Passes
import Trickle.Proofs.Rounding

namespace Trickle

namespace DecimalNumber

/-! ### Numbers read as the nearest word -/

/-- Whether the word that a number is read as is nearest to it. -/
def IsReadToNearest (number : DecimalNumber) : Prop :=
  ∀ word, Entry.balance? number.chars = some word → Binary64.IsNearest number.value word

theorem balance?_chars (number : DecimalNumber) :
    Entry.balance? number.chars = some (Binary64.ofLiteral number.literal) := by
  rw [Entry.balance?, Literal.read?_chars]
  rfl

/-- An exponent is read for what it says, or what it says and what it is read for are both far
beyond what few digits can make up for. -/
theorem power_read_or_beyond (number : DecimalNumber) :
    number.powerRead = number.power ∨
      (∃ exponent ∈ number.exponent, 10 * 0x10000 ≤ exponent.size) ∧
        (0x10000 ≤ number.powerRead ∧ 0x10000 ≤ number.power ∨
          number.powerRead ≤ -0x10000 ∧ number.power ≤ -0x10000) := by
  unfold powerRead power
  cases number.exponent with
  | none => exact .inl rfl
  | some exponent =>
    rw [Option.elim_some, Option.elim_some, Exponent.powerRead, Exponent.power, Exponent.size]
    rcases Digits.power_eq_or_large exponent.digits with same | ⟨large, large'⟩
    · exact .inl (congrArg exponent.sign.apply same)
    · refine .inr ⟨⟨exponent, rfl, large'⟩, ?_⟩
      rw [Sign.apply, Sign.apply]
      split <;> omega

/-- Whether a number has an exponent whose size is below ten times `0x10000`, or none, or else has
not so many digits that they could make up for such an exponent. -/
def IsOrdinary (number : DecimalNumber) : Prop :=
  (∀ exponent ∈ number.exponent, exponent.size < 10 * 0x10000) ∨
    number.digits.length + 400 < 0x10000

theorem IsOrdinary.magnitude_read {number : DecimalNumber} (ordinary : number.IsOrdinary) :
    Binary64.magnitudeOfDecimal (Decimal.numeral number.digits) number.digits.length
        (number.powerRead - number.places) =
      Binary64.magnitudeOfDecimal (Decimal.numeral number.digits) number.digits.length
        (number.power - number.places) := by
  have places : number.digits.length = number.whole.length + number.places := List.length_append
  rcases number.power_read_or_beyond with same | ⟨⟨exponent, present, large⟩, beyond⟩
  · rw [same]
  · have few : number.digits.length + 400 < 0x10000 :=
      ordinary.resolve_left fun small => Nat.not_lt.mpr large (small exponent present)
    refine Binary64.magnitudeOfDecimal_congr _ ?_
    omega

/-- Ordinary numbers are read as the nearest word. -/
theorem IsOrdinary.isReadToNearest {number : DecimalNumber} (ordinary : number.IsOrdinary) :
    number.IsReadToNearest := by
  intro word read
  rw [balance?_chars] at read
  obtain rfl := Option.some.inj read
  rw [literal, Binary64.ofLiteral, Digits.value_eq, ordinary.magnitude_read]
  exact Binary64.isNearest_ofMagnitude number.sign.isNegative number.magnitude_nonneg
    (Binary64.isNearest_magnitudeOfDecimal (Decimal.numeral_lt number.isDigits) _)

end DecimalNumber

namespace Run

/-! ### Rows worth a payment -/

/-- Whether a row records a number as the balance of an account. -/
def Records (row : String) (address : Address) (number : DecimalNumber) : Prop :=
  ∃ first second, Entry.HasFields row first second ∧
    address.SpelledBy (trim first) ∧ number.chars = trim second

variable {State : Type} (executor : Peer Payouts State)

/-- The account of a row is paid if the number that the row records is above half of the smallest
word's, and the row is skipped otherwise. -/
theorem play_processRow_of_records {row : String} {address : Address} {number : DecimalNumber}
    (records : Records row address number) (exact : number.IsReadToNearest) (state : State) :
    let played := (processRow row).play executor state
    (2 ^ (-1075 : ℤ) < number.value → played.questions = [address]) ∧
      (number.value ≤ 2 ^ (-1075 : ℤ) → played.questions = [] ∧ played.result = .skipped) := by
  intro played
  obtain ⟨first, second, fields, spelled, written⟩ := records
  have isBalance := number.balance?_chars
  have funded := (exact _ isBalance).isPositive_iff
  rw [written] at isBalance
  have read : Entry.read row = .ok ⟨address, Binary64.ofLiteral number.literal⟩ :=
    Entry.Writes.read_eq ⟨first, second, fields, spelled, isBalance⟩
  have handled : Handled row played := handled_processRow row state
  have asked := handled.questions
  unfold Handled at handled
  rw [payee?, read] at asked
  rw [read] at handled
  refine ⟨fun above => ?_, fun notAbove => ?_⟩
  · have paid : Entry.isFunded ⟨address, Binary64.ofLiteral number.literal⟩ = true :=
      funded.mpr above
    simp only [paid, if_true] at asked
    exact asked
  · have unpaid : Entry.isFunded ⟨address, Binary64.ofLiteral number.literal⟩ = false :=
      Bool.eq_false_iff.mpr fun paid => absurd (funded.mp paid) (not_lt.mpr notAbove)
    simp only [unpaid, Bool.false_eq_true, if_false] at asked handled
    exact ⟨asked, handled.1⟩

/-- An account is paid if and only if the number recorded for it is above half of the smallest
word's: never for zero or less, always for what a wallet with eighteen decimals can hold, and also
for every number that is above one that it is paid for. This holds of numbers that are read as the
nearest word, which all ordinary numbers are. -/
theorem paid_above_half_of_smallest (number : DecimalNumber) :
    (number.IsOrdinary → number.IsReadToNearest) ∧
    ∀ row address, Records row address number → number.IsReadToNearest → ∀ state,
      let played := (processRow row).play executor state
      (played.questions = [address] ↔ 2 ^ (-1075 : ℤ) < number.value) ∧
      (¬ 2 ^ (-1075 : ℤ) < number.value → played.questions = [] ∧ played.result = .skipped) ∧
      (number.value ≤ 0 → played.questions = []) ∧
      (10 ^ (-18 : ℤ) ≤ number.value → played.questions = [address]) ∧
      ∀ other account more, Records other account more → more.IsReadToNearest →
        number.value ≤ more.value → played.questions ≠ [] → ∀ later,
          ((processRow other).play executor later).questions = [account] := by
  refine ⟨DecimalNumber.IsOrdinary.isReadToNearest, fun row address records exact state => ?_⟩
  intro played
  obtain ⟨whenAbove, whenNot⟩ := play_processRow_of_records executor records exact state
  have half : (0 : ℚ) < 2 ^ (-1075 : ℤ) := by positivity
  have smallest : (2 : ℚ) ^ (-1075 : ℤ) < 10 ^ (-18 : ℤ) := by
    calc (2 : ℚ) ^ (-1075 : ℤ) < 2 ^ (-60 : ℤ) := zpow_lt_zpow_right₀ one_lt_two (by decide)
      _ ≤ 10 ^ (-18 : ℤ) := by norm_num
  have above_of_asked (asked : played.questions ≠ []) : 2 ^ (-1075 : ℤ) < number.value := by
    by_contra notAbove
    exact asked (whenNot (not_lt.mp notAbove)).1
  refine ⟨⟨fun asked => above_of_asked fun none => ?_, whenAbove⟩,
    fun notAbove => whenNot (not_lt.mp notAbove),
    fun nothing => (whenNot (nothing.trans half.le)).1,
    fun enough => whenAbove (smallest.trans_le enough),
    fun other account more records' exact' order asked later => ?_⟩
  · exact nomatch asked.symm.trans none
  · exact (play_processRow_of_records executor records' exact' later).1
      ((above_of_asked asked).trans_le order)

theorem half_lt_iff (coefficient places : Nat) :
    (2 : ℚ) ^ (-1075 : ℤ) < coefficient * 10 ^ (-places : ℤ) ↔
      10 ^ places < coefficient * 2 ^ 1075 := by
  have shown : (2 : ℚ) ^ (-1075 : ℤ) = (2 ^ 1075)⁻¹ := zpow_neg 2 1075
  rw [shown, zpow_neg, zpow_natCast, ← div_eq_mul_inv, inv_eq_one_div,
    div_lt_div_iff₀ (by positivity) (by positivity), one_mul]
  exact_mod_cast Iff.rfl

/-- A number with a last digit of its own, close to half of the smallest word's. -/
def closeToHalf (last : Char) (isDigit : last.isDigit = true) : DecimalNumber where
  sign := .none
  whole := ['2']
  decimals := some ("470328229206232".toList ++ [last])
  exponent := some ⟨false, .minus, ['3', '2', '4'], List.all_eq_true.mp rfl, by decide⟩
  isDigits := by
    refine List.forall_mem_append.mpr ⟨List.all_eq_true.mp rfl, ?_⟩
    exact List.forall_mem_append.mpr
      ⟨List.all_eq_true.mp rfl, List.forall_mem_singleton.mpr isDigit⟩
  filled := List.cons_ne_nil _ _

/-- The two numbers of seventeen digits next to half of the smallest word's: the upper one is paid
for, the lower one is not. -/
theorem two_balances_around_half :
    let above := "0xbbbbbbbbbbbbbbbbbbbbbbbbbbbbbbbbbbbbbbbb;2.4703282292062328e-324"
    let below := "0xbbbbbbbbbbbbbbbbbbbbbbbbbbbbbbbbbbbbbbbb;2.4703282292062327e-324"
    ((processRow above).play refusing 0).questions =
        [⟨0xbbbbbbbbbbbbbbbbbbbbbbbbbbbbbbbbbbbbbbbb⟩] ∧
      ((processRow below).play refusing 0).result = .skipped := by
  intro above below
  let upper := closeToHalf '8' (by decide)
  let lower := closeToHalf '7' (by decide)
  let numeral : Hex.Numeral 40 := ⟨.lower, List.replicate 40 ⟨11, false⟩, rfl⟩
  have spelled : Address.SpelledBy ⟨0xbbbbbbbbbbbbbbbbbbbbbbbbbbbbbbbbbbbbbbbb⟩
      (trim numeral.chars) := ⟨numeral, by decide, by decide⟩
  have upperRow : Records above ⟨0xbbbbbbbbbbbbbbbbbbbbbbbbbbbbbbbbbbbbbbbb⟩ upper :=
    ⟨numeral.chars, upper.chars, ⟨[], by decide +kernel⟩, spelled, by decide⟩
  have lowerRow : Records below ⟨0xbbbbbbbbbbbbbbbbbbbbbbbbbbbbbbbbbbbbbbbb⟩ lower :=
    ⟨numeral.chars, lower.chars, ⟨[], by decide +kernel⟩, spelled, by decide⟩
  have upperValue : upper.value = (24703282292062328 : ℕ) * 10 ^ (-(340 : ℕ) : ℤ) := rfl
  have lowerValue : lower.value = (24703282292062327 : ℕ) * 10 ^ (-(340 : ℕ) : ℤ) := rfl
  obtain ⟨upperNearest, upperLaw⟩ := paid_above_half_of_smallest refusing upper
  obtain ⟨lowerNearest, lowerLaw⟩ := paid_above_half_of_smallest refusing lower
  obtain ⟨paid, _⟩ := upperLaw _ _ upperRow (upperNearest (.inr (by decide))) 0
  obtain ⟨_, skipped, _⟩ := lowerLaw _ _ lowerRow (lowerNearest (.inr (by decide))) 0
  rw [upperValue, half_lt_iff] at paid
  rw [lowerValue, half_lt_iff] at skipped
  exact ⟨paid.mpr (by decide +kernel), (skipped (by decide +kernel)).2⟩

end Run

end Trickle
