/-
This file proves that numbers are rounded as binary64 asks for: to the nearest word, and to
the even one of two. The lower sixty-three bits of a word count its magnitude, so that the
next word is the next larger number; infinity stands where the next number after the
largest would be, and everything from there on is rounded to it.

A ratio lies between two neighbouring words. Rounding its scaled whole part up or down
chooses one of the two, and since the magnitudes of words increase, no other word is
nearer. Only the number zero and numbers up to half of the smallest word's are rounded to
zero: exactly half is a tie, and zero is even.
-/

import Mathlib.Algebra.Order.Field.Power
import Mathlib.Algebra.Order.Ring.Rat
import Mathlib.Tactic.FieldSimp
import Mathlib.Tactic.Linarith
import Mathlib.Tactic.NormNum
import Mathlib.Tactic.Positivity
import Mathlib.Tactic.Ring
import Trickle.Number.Binary64

namespace Trickle.Binary64

/-! ### Magnitudes -/

/-- The number that the lower sixty-three bits of a word stand for. -/
def magnitude (word : Nat) : ℚ :=
  if word < 2 ^ 52 then word * 2 ^ (-1074 : ℤ)
  else (2 ^ 52 + word % 2 ^ 52 : ℕ) * 2 ^ ((word / 2 ^ 52 : ℕ) - 1075 : ℤ)

/-- Whether a magnitude is nearest to a number, and is even where another one is as near. -/
structure IsNearestMagnitude (number : ℚ) (word : Nat) : Prop where
  bounded : word ≤ infinityWord
  nearest : ∀ other ≤ infinityWord, |number - magnitude word| ≤ |number - magnitude other|
  even : ∀ other ≤ infinityWord, other ≠ word →
    |number - magnitude other| = |number - magnitude word| → word % 2 = 0

/-- Whether a word is what a number is rounded to. Zero may have either sign. -/
def IsNearest (number : ℚ) (word : Binary64) : Prop :=
  ∃ negative size, word = ofMagnitude negative size ∧ IsNearestMagnitude |number| size ∧
    (number < 0 → negative = true) ∧ (0 < number → negative = false)

/-- A significand that fills its place, or any in the lowest place, stands for what it counts. -/
theorem magnitude_place {place significand : Nat}
    (fills : 2 ^ 52 ≤ significand ∨ place = 0) (fits : significand ≤ 2 ^ 53) :
    magnitude (place * 2 ^ 52 + significand) = significand * 2 ^ ((place : ℤ) - 1074) := by
  rcases Nat.lt_or_ge (place * 2 ^ 52 + significand) (2 ^ 52) with low | high
  · obtain rfl : place = 0 := by omega
    rw [magnitude, if_pos low, Nat.zero_mul, Nat.zero_add]
    norm_num
  · rw [magnitude, if_neg (Nat.not_lt.mpr high)]
    rcases Nat.lt_or_ge significand (2 ^ 53) with below | top
    · have digits : 2 ^ 52 + (place * 2 ^ 52 + significand) % 2 ^ 52 = significand := by omega
      have exponent : (place * 2 ^ 52 + significand) / 2 ^ 52 = place + 1 := by omega
      rw [digits, exponent]
      congr 2
      push_cast
      ring
    · obtain rfl : significand = 2 ^ 53 := Nat.le_antisymm fits top
      have digits : 2 ^ 52 + (place * 2 ^ 52 + 2 ^ 53) % 2 ^ 52 = 2 ^ 52 := by omega
      have exponent : (place * 2 ^ 52 + 2 ^ 53) / 2 ^ 52 = place + 2 := by omega
      rw [digits, exponent, show ((place + 2 : ℕ) : ℤ) - 1075 = ((place : ℤ) - 1074) + 1 by
        push_cast
        ring, zpow_add₀ two_ne_zero]
      push_cast
      ring

theorem exists_place (word : Nat) :
    ∃ place significand, word = place * 2 ^ 52 + significand ∧
      (2 ^ 52 ≤ significand ∨ place = 0) ∧ significand < 2 ^ 53 := by
  rcases Nat.lt_or_ge word (2 ^ 52) with low | high
  · exact ⟨0, word, by omega, .inr rfl, by omega⟩
  · exact ⟨word / 2 ^ 52 - 1, 2 ^ 52 + word % 2 ^ 52, by omega, .inl (by omega), by omega⟩

theorem magnitude_strictMono : StrictMono magnitude := by
  refine strictMono_nat_of_lt_succ fun word => ?_
  obtain ⟨place, significand, rfl, fills, fits⟩ := exists_place word
  rw [Nat.add_assoc, magnitude_place fills (Nat.le_of_lt fits),
    magnitude_place (fills.imp_left Nat.le_succ_of_le) fits]
  have positive : (0 : ℚ) < 2 ^ ((place : ℤ) - 1074) := by positivity
  push_cast
  linarith

theorem magnitude_zero : magnitude 0 = 0 := by
  rw [magnitude, if_pos (by decide), Nat.cast_zero, zero_mul]

theorem magnitude_one : magnitude 1 = 2 ^ (-1074 : ℤ) := by
  rw [magnitude, if_pos (by decide), Nat.cast_one, one_mul]

theorem magnitude_infinityWord : magnitude infinityWord = 2 ^ (1024 : ℤ) := by
  have place : infinityWord = 2046 * 2 ^ 52 + 2 ^ 52 := by decide
  rw [place, magnitude_place (.inl (Nat.le_refl _)) (by decide), Nat.cast_pow, Nat.cast_two,
    ← zpow_natCast, ← zpow_add₀ two_ne_zero]
  rfl

/-! ### The nearest word -/

/-- Of two points the upper one is nearer to a number above their middle. That the number is above
some other point that is not below the middle is enough; at the middle they are equally near. -/
theorem nearer_or_tie {number near far middle : ℚ} {even : Prop} (order : far < near)
    (outer : near + far ≤ middle) (beyond : middle < 2 * number ∨ middle = 2 * number ∧ even) :
    |number - near| < |number - far| ∨ |number - near| = |number - far| ∧ even := by
  have reached : near + far ≤ 2 * number :=
    outer.trans (beyond.elim le_of_lt (le_of_eq ∘ And.left))
  rw [abs_of_pos (show 0 < number - far by linarith)]
  rcases reached.lt_or_eq with strict | same
  · exact .inl (abs_lt.mpr ⟨by linarith, by linarith⟩)
  · refine .inr ⟨?_, (beyond.resolve_left (by linarith)).2⟩
    rw [abs_of_neg (by linarith)]
    linarith

/-- A word is nearest to a number that is not beyond the middles between the word and its two
neighbours; for a word from infinity's on, infinity's is. -/
theorem isNearest_of_middles {number : ℚ} {word : Nat}
    (lower : ∀ below, below + 1 = word → magnitude below + magnitude word < 2 * number ∨
      magnitude below + magnitude word = 2 * number ∧ word % 2 = 0)
    (upper : 2 * number < magnitude word + magnitude (word + 1) ∨
      2 * number = magnitude word + magnitude (word + 1) ∧ word % 2 = 0) :
    IsNearestMagnitude number (min infinityWord word) := by
  have even : word % 2 = 0 → min infinityWord word % 2 = 0 := by
    have evenInfinity : infinityWord % 2 = 0 := by decide
    omega
  -- Words farther out are still farther away, so that only the two neighbours count.
  have side : ∀ other ≤ infinityWord, other ≠ min infinityWord word →
      |number - magnitude (min infinityWord word)| < |number - magnitude other| ∨
        |number - magnitude (min infinityWord word)| = |number - magnitude other| ∧
          min infinityWord word % 2 = 0 := by
    intro other bounded different
    rcases Nat.lt_or_gt_of_ne different with less | more
    · obtain ⟨below, rfl⟩ := Nat.exists_eq_succ_of_ne_zero (n := word) (by omega)
      refine nearer_or_tie (magnitude_strictMono less) ?_
        ((lower below rfl).imp_right (And.imp_right even))
      rw [add_comm (magnitude below)]
      exact add_le_add (magnitude_strictMono.monotone (Nat.min_le_right _ _))
        (magnitude_strictMono.monotone (by omega))
    · obtain free : min infinityWord word = word := by omega
      rw [free] at more ⊢
      have order := magnitude_strictMono more
      have outer := magnitude_strictMono.monotone (Nat.succ_le_of_lt more)
      -- Mirrored at zero, the words above the number are below it.
      have mirrored := @nearer_or_tie (-number) (-magnitude word) (-magnitude other)
        (-(magnitude word + magnitude (word + 1))) (word % 2 = 0) (neg_lt_neg order)
        (by linarith) (upper.imp (by intro; linarith) (And.imp_left (by intro; linarith)))
      rwa [neg_sub_neg, neg_sub_neg, abs_sub_comm, abs_sub_comm (magnitude other)] at mirrored
  refine ⟨Nat.min_le_left _ _, fun other bounded => ?_, fun other bounded different same => ?_⟩
  · by_cases different : other = min infinityWord word
    · rw [different]
    · exact (side other bounded different).elim le_of_lt (le_of_eq ∘ And.left)
  · exact ((side other bounded different).resolve_left same.symm.not_lt).2

/-- Numbers from infinity's place on are rounded to infinity. -/
theorem isNearest_infinityWord {number : ℚ} (large : 2 ^ (1024 : ℤ) ≤ number) :
    IsNearestMagnitude number infinityWord where
  bounded := Nat.le_refl _
  nearest := by
    intro other bounded
    have order := magnitude_strictMono.monotone bounded
    rw [magnitude_infinityWord] at order ⊢
    rw [abs_of_nonneg (by linarith), abs_of_nonneg (by linarith)]
    linarith
  even := fun _ _ _ _ => by decide

/-- Numbers below half of the smallest word's are rounded to zero. -/
theorem isNearest_zero {number : ℚ} (small : number < 2 ^ (-1075 : ℤ)) :
    IsNearestMagnitude number 0 := by
  have half : (2 : ℚ) * 2 ^ (-1075 : ℤ) = 2 ^ (-1074 : ℤ) := (zpow_one_add₀ two_ne_zero _).symm
  refine @isNearest_of_middles number 0 (fun _ impossible => ?_) (.inl ?_)
  · exact absurd impossible (Nat.succ_ne_zero _)
  · rw [magnitude_zero, magnitude_one, zero_add, ← half]
    linarith

/-! ### Whole parts -/

/-- A ratio is rounded to a whole number at most half away, and to an even one at exactly half. -/
theorem abs_sub_roundEven_le (numerator : Nat) {denominator : Nat} (positive : 0 < denominator) :
    |(numerator / denominator : ℚ) - roundEven numerator denominator| ≤ 1 / 2 ∧
      (|(numerator / denominator : ℚ) - roundEven numerator denominator| = 1 / 2 →
        roundEven numerator denominator % 2 = 0) := by
  have divided := Nat.div_add_mod numerator denominator
  have remainder := Nat.mod_lt numerator positive
  rw [roundEven]
  generalize numerator / denominator = quotient at *
  generalize numerator % denominator = rest at *
  have positive' : (0 : ℚ) < denominator := Nat.cast_pos.mpr positive
  have ratio : (numerator / denominator : ℚ) = quotient + rest / denominator := by
    rw [← divided]
    push_cast
    field_simp
  have below_half : 2 * rest < denominator ↔ (rest / denominator : ℚ) < 1 / 2 := by
    rw [div_lt_iff₀ positive', ← @Nat.cast_lt ℚ]
    push_cast
    constructor <;> intro order <;> linarith
  have at_half : 2 * rest = denominator ↔ (rest / denominator : ℚ) = 1 / 2 := by
    rw [div_eq_iff positive'.ne', ← @Nat.cast_inj ℚ]
    push_cast
    constructor <;> intro order <;> linarith
  have nonnegative : 0 ≤ (rest / denominator : ℚ) := by positivity
  have within : (rest / denominator : ℚ) < 1 :=
    (div_lt_one positive').mpr (Nat.cast_lt.mpr remainder)
  rw [ratio]
  split
  · next down =>
    rw [below_half, at_half] at down
    rw [add_sub_cancel_left, abs_of_nonneg nonnegative]
    refine ⟨down.elim le_of_lt (le_of_eq ∘ And.left), fun tie => ?_⟩
    exact down.elim (fun strict => absurd tie strict.ne) And.right
  · next up =>
    rw [below_half, at_half] at up
    obtain ⟨reached, odd⟩ := not_or.mp up
    rw [Nat.cast_succ, add_sub_add_left_eq_sub, abs_sub_comm, abs_of_pos (sub_pos.mpr within)]
    refine ⟨by linarith, fun tie => ?_⟩
    have notEven : quotient % 2 ≠ 0 := fun even => odd ⟨by linarith, even⟩
    omega

/-- A ratio is compared with a power of two on whole numbers. -/
theorem zpow_le_ratio_iff (numerator : Nat) {denominator : Nat} (positive : 0 < denominator)
    (exponent : Int) :
    (if 0 ≤ exponent then denominator * Nat.pow 2 exponent.toNat ≤ numerator
      else denominator ≤ numerator * Nat.pow 2 (-exponent).toNat) ↔
      (2 : ℚ) ^ exponent ≤ numerator / denominator := by
  have positive' : (0 : ℚ) < denominator := Nat.cast_pos.mpr positive
  rw [le_div_iff₀ positive']
  split
  · next up =>
    obtain ⟨size, rfl⟩ := Int.eq_ofNat_of_zero_le up
    rw [Int.toNat_natCast, zpow_natCast, mul_comm denominator]
    exact_mod_cast Iff.rfl
  · next down =>
    obtain ⟨size, negated⟩ := Int.eq_ofNat_of_zero_le (show 0 ≤ -exponent by omega)
    obtain rfl : exponent = -size := by omega
    rw [neg_neg, Int.toNat_natCast, zpow_neg, zpow_natCast, inv_mul_le_iff₀ (by positivity),
      mul_comm numerator]
    exact_mod_cast Iff.rfl

/-- The whole part of the binary logarithm tells between which two powers a ratio lies. -/
theorem log2Ratio_spec {numerator denominator : Nat} (positive : 0 < numerator)
    (positive' : 0 < denominator) :
    (2 : ℚ) ^ log2Ratio numerator denominator ≤ numerator / denominator ∧
      (numerator / denominator : ℚ) < 2 ^ (log2Ratio numerator denominator + 1) := by
  have bounds {number : Nat} (positive : 0 < number) :
      (2 : ℚ) ^ (number.log2 : ℤ) ≤ number ∧ (number : ℚ) < 2 ^ (number.log2 + 1 : ℤ) := by
    constructor
    · exact_mod_cast Nat.log2_self_le positive.ne'
    · exact_mod_cast Nat.lt_log2_self
  obtain ⟨reached, within⟩ := bounds positive
  obtain ⟨reached', within'⟩ := bounds positive'
  have ratioPositive : (0 : ℚ) < denominator := Nat.cast_pos.mpr positive'
  have above : (2 : ℚ) ^ ((numerator.log2 : ℤ) - denominator.log2 - 1) ≤
      numerator / denominator := by
    rw [le_div_iff₀ ratioPositive]
    calc (2 : ℚ) ^ ((numerator.log2 : ℤ) - denominator.log2 - 1) * denominator
        ≤ 2 ^ ((numerator.log2 : ℤ) - denominator.log2 - 1) * 2 ^ (denominator.log2 + 1 : ℤ) :=
          mul_le_mul_of_nonneg_left within'.le (by positivity)
      _ = 2 ^ (numerator.log2 : ℤ) := by
          rw [← zpow_add₀ two_ne_zero]
          congr 1
          ring
      _ ≤ numerator := reached
  have below : (numerator / denominator : ℚ) <
      2 ^ ((numerator.log2 : ℤ) - denominator.log2 + 1) := by
    rw [div_lt_iff₀ ratioPositive]
    calc (numerator : ℚ) < 2 ^ (numerator.log2 + 1 : ℤ) := within
      _ = 2 ^ ((numerator.log2 : ℤ) - denominator.log2 + 1) * 2 ^ (denominator.log2 : ℤ) := by
          rw [← zpow_add₀ two_ne_zero]
          congr 1
          ring
      _ ≤ 2 ^ ((numerator.log2 : ℤ) - denominator.log2 + 1) * denominator :=
          mul_le_mul_of_nonneg_left reached' (by positivity)
  have decided := zpow_le_ratio_iff numerator positive' (numerator.log2 - denominator.log2)
  by_cases reaches : (2 : ℚ) ^ ((numerator.log2 : ℤ) - denominator.log2) ≤ numerator / denominator
  · rw [log2Ratio, if_pos (decided.mpr reaches)]
    exact ⟨reaches, below⟩
  · rw [log2Ratio, if_neg (reaches ∘ decided.mp), sub_add_cancel]
    exact ⟨above, not_le.mp reaches⟩

/-! ### Ratios -/

/-- A significand rounded in its place makes the nearest word. -/
theorem isNearest_place {scaled : ℚ} {place significand : Nat}
    (near : |scaled - significand| ≤ 1 / 2)
    (even : |scaled - significand| = 1 / 2 → significand % 2 = 0)
    (fills : 2 ^ 52 ≤ scaled ∨ place = 0) (fits : scaled < 2 ^ 53) :
    IsNearestMagnitude (scaled * 2 ^ ((place : ℤ) - 1074))
      (min infinityWord (place * 2 ^ 52 + significand)) := by
  obtain ⟨low, high⟩ := abs_le.mp near
  have fills' : 2 ^ 52 ≤ significand ∨ place = 0 := by
    refine fills.imp_left fun full => Nat.lt_succ_iff.mp ?_
    rw [← @Nat.cast_lt ℚ]
    push_cast
    linarith
  have fits' : significand ≤ 2 ^ 53 := by
    refine Nat.lt_succ_iff.mp ?_
    rw [← @Nat.cast_lt ℚ]
    push_cast
    linarith
  have evenWord (tie : |scaled - significand| = 1 / 2) :
      (place * 2 ^ 52 + significand) % 2 = 0 := by
    have := even tie
    omega
  have here := magnitude_place fills' fits'
  have positive : (0 : ℚ) < 2 ^ ((place : ℤ) - 1074) := by positivity
  refine isNearest_of_middles (fun below next => ?_) ?_
  · by_cases fillsBelow : 2 ^ 52 + 1 ≤ significand ∨ place = 0
    · obtain ⟨lesser, rfl⟩ := Nat.exists_eq_succ_of_ne_zero (n := significand) (by omega)
      obtain rfl : below = place * 2 ^ 52 + lesser := by omega
      rw [here, magnitude_place (fillsBelow.imp_left Nat.le_of_succ_le_succ) (by omega),
        ← add_mul, ← mul_assoc, mul_lt_mul_iff_left₀ positive, mul_left_inj' positive.ne']
      rw [Nat.cast_succ] at low ⊢
      rcases low.lt_or_eq with strict | tie
      · exact .inl (by linarith)
      · exact .inr ⟨by linarith, evenWord (by rw [Nat.cast_succ, ← tie]; norm_num)⟩
    · -- The word below a full binade is nearer to it than half of the binade's own step.
      obtain rfl : significand = 2 ^ 52 := by omega
      have order := magnitude_strictMono (Nat.lt_of_succ_le next.le)
      rw [here] at order ⊢
      refine .inl ?_
      have full := fills.resolve_right fun zero => fillsBelow (.inr zero)
      have reached := mul_le_mul_of_nonneg_right full positive.le
      push_cast at order reached ⊢
      linarith
  · rcases fits'.lt_or_eq with strict | rfl
    · rw [here, Nat.add_assoc, magnitude_place (fills'.imp_left Nat.le_succ_of_le) strict,
        ← add_mul, ← mul_assoc, mul_lt_mul_iff_left₀ positive, mul_left_inj' positive.ne',
        Nat.cast_succ]
      rcases high.lt_or_eq with strict | tie
      · exact .inl (by linarith)
      · exact .inr ⟨by linarith, evenWord (by rw [tie]; norm_num)⟩
    · have order := magnitude_strictMono (Nat.lt_succ_self (place * 2 ^ 52 + 2 ^ 53))
      have missed := mul_lt_mul_of_pos_right fits positive
      rw [here] at order ⊢
      refine .inl ?_
      push_cast at order missed ⊢
      linarith

/-- Scaling moves a power of two into the numerator or into the denominator. -/
theorem abs_sub_roundEven_scaled_le (numerator : Nat) {denominator : Nat}
    (positive : 0 < denominator) (scale : Int) :
    let significand := if 0 ≤ scale then roundEven (numerator * Nat.pow 2 scale.toNat) denominator
      else roundEven numerator (denominator * Nat.pow 2 (-scale).toNat)
    |(numerator / denominator : ℚ) * 2 ^ scale - significand| ≤ 1 / 2 ∧
      (|(numerator / denominator : ℚ) * 2 ^ scale - significand| = 1 / 2 →
        significand % 2 = 0) := by
  dsimp only
  split
  · next up =>
    obtain ⟨size, rfl⟩ := Int.eq_ofNat_of_zero_le up
    rw [Int.toNat_natCast, zpow_natCast, div_mul_eq_mul_div]
    exact_mod_cast abs_sub_roundEven_le (numerator * 2 ^ size) positive
  · next down =>
    obtain ⟨size, negated⟩ := Int.eq_ofNat_of_zero_le (show 0 ≤ -scale by omega)
    obtain rfl : scale = -size := by omega
    rw [neg_neg, Int.toNat_natCast, zpow_neg, zpow_natCast, ← div_eq_mul_inv, div_div]
    exact_mod_cast abs_sub_roundEven_le numerator (Nat.mul_pos positive (Nat.two_pow_pos size))

/-- A positive ratio is rounded to the nearest word. -/
theorem isNearest_magnitudeOfRatio {numerator denominator : Nat} (positive : 0 < numerator)
    (positive' : 0 < denominator) :
    IsNearestMagnitude (numerator / denominator) (magnitudeOfRatio numerator denominator) := by
  obtain ⟨reached, within⟩ := log2Ratio_spec positive positive'
  rw [magnitudeOfRatio]
  generalize log2Ratio numerator denominator = exponent at *
  obtain ⟨scale, isScale⟩ : ∃ scale, min (1074 : ℤ) (52 - exponent) = scale := ⟨_, rfl⟩
  rw [isScale]
  obtain ⟨near, even⟩ := abs_sub_roundEven_scaled_le numerator positive' scale
  have place : ((1074 - scale).toNat : ℤ) - 1074 = -scale := by omega
  have positiveScale : (0 : ℚ) < 2 ^ scale := by positivity
  have fills : 2 ^ 52 ≤ (numerator / denominator : ℚ) * 2 ^ scale ∨ (1074 - scale).toNat = 0 := by
    rcases Int.le_total 1074 (52 - exponent) with lowest | free
    · exact .inr (by omega)
    · obtain rfl : scale = 52 - exponent := by omega
      have full := mul_le_mul_of_nonneg_right reached positiveScale.le
      rw [← zpow_add₀ two_ne_zero, add_sub_cancel] at full
      exact .inl full
  have fits : (numerator / denominator : ℚ) * 2 ^ scale < 2 ^ 53 := by
    calc (numerator / denominator : ℚ) * 2 ^ scale
        < 2 ^ (exponent + 1) * 2 ^ scale := mul_lt_mul_of_pos_right within positiveScale
      _ = 2 ^ (exponent + 1 + scale) := (zpow_add₀ two_ne_zero _ _).symm
      _ ≤ 2 ^ (53 : ℤ) := zpow_le_zpow_right₀ one_le_two (by omega)
  have nearest := isNearest_place near even fills fits
  rwa [place, zpow_neg, mul_inv_cancel_right₀ positiveScale.ne'] at nearest

/-! ### Decimal numbers -/

/-- A power of ten is at least the same power of eight. -/
theorem eight_pow_le (power : Nat) : (2 : ℚ) ^ (3 * power : ℤ) ≤ 10 ^ (power : ℤ) := by
  rw [zpow_mul, zpow_natCast, zpow_natCast]
  exact pow_le_pow_left₀ (by norm_num) (by norm_num) power

/-- A whole number scaled by a power of ten is rounded to the nearest word. The numbers that are
settled without computing the power are beyond all words, or too small for the first. -/
theorem isNearest_magnitudeOfDecimal {coefficient count : Nat} (fits : coefficient < 10 ^ count)
    (exponent : Int) :
    IsNearestMagnitude (coefficient * 10 ^ exponent)
      (magnitudeOfDecimal coefficient count exponent) := by
  rw [magnitudeOfDecimal]
  split
  · next zero =>
    rw [zero, Nat.cast_zero, zero_mul]
    exact isNearest_zero (by positivity)
  next nonzero =>
  have positive : 0 < coefficient := Nat.pos_of_ne_zero nonzero
  have atLeast : (1 : ℚ) ≤ coefficient := Nat.one_le_cast.mpr positive
  have positivePower : (0 : ℚ) < 10 ^ exponent := by positivity
  split
  · next large =>
    refine isNearest_infinityWord ?_
    calc (2 : ℚ) ^ (1024 : ℤ) ≤ 2 ^ (3 * (401 : ℕ) : ℤ) :=
          zpow_le_zpow_right₀ one_le_two (by decide)
      _ ≤ 10 ^ ((401 : ℕ) : ℤ) := eight_pow_le 401
      _ ≤ 10 ^ exponent := zpow_le_zpow_right₀ (by norm_num) (by omega)
      _ ≤ coefficient * 10 ^ exponent := le_mul_of_one_le_left positivePower.le atLeast
  split
  · next small =>
    refine isNearest_zero ?_
    calc (coefficient * 10 ^ exponent : ℚ)
        < 10 ^ (count : ℤ) * 10 ^ exponent :=
          mul_lt_mul_of_pos_right (by exact_mod_cast fits) positivePower
      _ = 10 ^ (count + exponent) := (zpow_add₀ (by norm_num) _ _).symm
      _ ≤ 10 ^ (-((401 : ℕ) : ℤ)) := zpow_le_zpow_right₀ (by norm_num) (by omega)
      _ ≤ 2 ^ (-(3 * (401 : ℕ)) : ℤ) := by
          rw [zpow_neg, zpow_neg]
          exact inv_anti₀ (by positivity) (eight_pow_le 401)
      _ ≤ 2 ^ (-1075 : ℤ) := zpow_le_zpow_right₀ one_le_two (by decide)
  split
  · next whole =>
    obtain ⟨size, rfl⟩ := Int.eq_ofNat_of_zero_le whole
    rw [Int.toNat_natCast, zpow_natCast]
    have positivePower : 0 < 10 ^ size := Nat.pow_pos (by decide)
    have nearest := isNearest_magnitudeOfRatio (Nat.mul_pos positive positivePower) Nat.one_pos
    rw [Nat.cast_one, div_one] at nearest
    exact_mod_cast nearest
  · next fraction =>
    obtain ⟨size, negated⟩ := Int.eq_ofNat_of_zero_le (show 0 ≤ -exponent by omega)
    obtain rfl : exponent = -size := by omega
    rw [neg_neg, Int.toNat_natCast, zpow_neg, zpow_natCast, ← div_eq_mul_inv]
    have positivePower : 0 < 10 ^ size := Nat.pow_pos (by decide)
    exact_mod_cast isNearest_magnitudeOfRatio positive positivePower

/-- Of exponents that are beyond all words, or so low that no digits make up for it, none decides
more than another. -/
theorem magnitudeOfDecimal_congr (coefficient : Nat) {count : Nat} {exponent other : Int}
    (beyond : 400 < exponent ∧ 400 < other ∨
      exponent + count < -400 ∧ other + count < -400) :
    magnitudeOfDecimal coefficient count exponent =
      magnitudeOfDecimal coefficient count other := by
  rw [magnitudeOfDecimal, magnitudeOfDecimal]
  rcases beyond with ⟨high, high'⟩ | ⟨low, low'⟩
  · rw [if_pos high, if_pos high']
  · rw [if_neg (show ¬ 400 < exponent by omega), if_neg (show ¬ 400 < other by omega),
      if_pos low, if_pos low']

/-- A size rounded to the nearest word is so with a sign. -/
theorem isNearest_ofMagnitude (negative : Bool) {size : ℚ} (nonnegative : 0 ≤ size) {word : Nat}
    (nearest : IsNearestMagnitude size word) :
    IsNearest (if negative then -size else size) (ofMagnitude negative word) := by
  refine ⟨negative, word, rfl, ?_⟩
  cases negative
  · rw [if_neg Bool.false_ne_true, abs_of_nonneg nonnegative]
    exact ⟨nearest, fun below => absurd below (not_lt.mpr nonnegative), fun _ => rfl⟩
  · rw [if_pos rfl, abs_neg, abs_of_nonneg nonnegative]
    exact ⟨nearest, fun _ => rfl, fun above => absurd above (by linarith)⟩

/-! ### Positive words -/

/-- A number is rounded to zero if and only if it is at most half of the smallest word's: at exactly
half zero is as near, and is even. -/
theorem IsNearestMagnitude.pos_iff {number : ℚ} {word : Nat}
    (nearest : IsNearestMagnitude number word) (nonnegative : 0 ≤ number) :
    0 < word ↔ 2 ^ (-1075 : ℤ) < number := by
  have half : (2 : ℚ) * 2 ^ (-1075 : ℤ) = 2 ^ (-1074 : ℤ) := (zpow_one_add₀ two_ne_zero _).symm
  have positive : (0 : ℚ) < 2 ^ (-1075 : ℤ) := by positivity
  have atOne : magnitude 1 = 2 * 2 ^ (-1075 : ℤ) := magnitude_one.trans half.symm
  constructor
  · intro isPositive
    by_contra small
    have least := magnitude_strictMono.monotone (Nat.succ_le_of_lt isPositive)
    have toZero := nearest.nearest 0 (Nat.zero_le _)
    rw [magnitude_zero, sub_zero, abs_of_nonneg nonnegative] at toZero
    have farthest := (neg_le_abs _).trans toZero
    obtain rfl : word = 1 :=
      magnitude_strictMono.injective (le_antisymm (by linarith) least)
    have tie : number = 2 ^ (-1075 : ℤ) := by linarith
    refine absurd (nearest.even 0 (Nat.zero_le _) (by decide) ?_) (by decide)
    rw [magnitude_zero, atOne, tie, abs_sub_comm (2 ^ (-1075 : ℤ) : ℚ) (2 * _), sub_zero]
    ring_nf
  · intro large
    rw [Nat.pos_iff_ne_zero]
    rintro rfl
    have toOne := nearest.nearest 1 (by decide)
    rw [magnitude_zero, atOne, sub_zero, abs_of_nonneg nonnegative] at toOne
    rcases le_abs.mp toOne <;> linarith

theorem isPositive_ofMagnitude (negative : Bool) {size : Nat} (bounded : size ≤ infinityWord) :
    (ofMagnitude negative size).isPositive = true ↔ negative = false ∧ 0 < size := by
  have limit : infinityWord < 2 ^ 63 := by decide
  rw [isPositive, ofMagnitude, BitVec.toNat_ofNat, Bool.and_eq_true, decide_eq_true_eq,
    decide_eq_true_eq]
  cases negative
  · rw [if_neg Bool.false_ne_true, Nat.mod_eq_of_lt (by omega)]
    exact ⟨fun kept => ⟨rfl, kept.1⟩, fun kept => ⟨kept.2, bounded⟩⟩
  · rw [if_pos rfl, Nat.mod_eq_of_lt (by rw [Nat.pow_eq]; omega)]
    refine ⟨fun kept => absurd kept.2 ?_, fun kept => nomatch kept.1⟩
    rw [Nat.pow_eq]
    omega

/-- What a number is rounded to is positive if and only if the number is above half of the smallest
word's. -/
theorem IsNearest.isPositive_iff {number : ℚ} {word : Binary64} (nearest : IsNearest number word) :
    word.isPositive = true ↔ 2 ^ (-1075 : ℤ) < number := by
  obtain ⟨negative, size, rfl, nearest, whenNegative, whenPositive⟩ := nearest
  have half : (0 : ℚ) < 2 ^ (-1075 : ℤ) := by positivity
  rw [isPositive_ofMagnitude negative nearest.bounded, nearest.pos_iff (abs_nonneg number)]
  rcases lt_trichotomy number 0 with below | rfl | above
  · rw [whenNegative below]
    exact ⟨fun kept => (nomatch kept.1), fun large => absurd large (by linarith)⟩
  · rw [abs_zero]
    exact ⟨fun kept => kept.2, fun large => absurd large (by linarith)⟩
  · rw [whenPositive above, abs_of_pos above, eq_self, true_and]

end Trickle.Binary64
