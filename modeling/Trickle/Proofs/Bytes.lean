/-
This file proves that numbers and byte strings determine each other. A byte string of a
given length and a number below the power of 256 to that length are the same thing, and
every number has exactly one byte string that does not start with a zero byte: its
shortest one.
-/

import Mathlib.Algebra.Group.Nat.Defs
import Mathlib.Data.List.Induction
import Trickle.Bytes

namespace Trickle.Bytes

/-! ### Fixed lengths -/

theorem toNat_concat (bytes : Bytes) (byte : UInt8) :
    toNat (bytes ++ [byte]) = 256 * toNat bytes + byte.toNat := by
  rw [toNat, List.foldl_append]
  rfl

theorem toNat_cons (byte : UInt8) (bytes : Bytes) :
    toNat (byte :: bytes) = byte.toNat * 256 ^ bytes.length + toNat bytes := by
  induction bytes using List.reverseRecOn with
  | nil => simp [toNat]
  | append_singleton bytes last inductionHypothesis =>
    rw [← List.cons_append, toNat_concat, toNat_concat, inductionHypothesis, List.length_append,
      List.length_singleton, Nat.pow_succ, Nat.mul_add, ← Nat.mul_assoc (byte.toNat),
      Nat.mul_comm 256 (_ * _), Nat.add_assoc]

theorem toNat_lt (bytes : Bytes) : toNat bytes < 256 ^ bytes.length := by
  induction bytes using List.reverseRecOn with
  | nil => exact Nat.zero_lt_one
  | append_singleton bytes last inductionHypothesis =>
    have small := last.toNat_lt
    rw [toNat_concat, List.length_append, List.length_singleton, Nat.pow_succ]
    omega

theorem toNat_ofNat (count value : Nat) : toNat (ofNat count value) = value % 256 ^ count := by
  induction count generalizing value with
  | zero => exact (Nat.mod_one value).symm
  | succ count inductionHypothesis =>
    have low : (UInt8.ofNat value).toNat = value % 256 := UInt8.toNat_ofNat'
    rw [ofNat, toNat_concat, inductionHypothesis, low, Nat.pow_succ, Nat.mul_comm (256 ^ count),
      Nat.mod_mul, Nat.add_comm]

theorem ofNat_toNat (bytes : Bytes) : ofNat bytes.length (toNat bytes) = bytes := by
  induction bytes using List.reverseRecOn with
  | nil => rfl
  | append_singleton bytes last inductionHypothesis =>
    have small := last.toNat_lt
    have high : (256 * toNat bytes + last.toNat) / 256 = toNat bytes := by omega
    have low : UInt8.ofNat (256 * toNat bytes + last.toNat) = last := by
      refine UInt8.toNat_inj.mp ?_
      rw [UInt8.toNat_ofNat']
      omega
    rw [List.length_append, List.length_singleton, ofNat, toNat_concat, high, low,
      inductionHypothesis]

/-! ### Shortest byte strings -/

theorem width_zero : width 0 = 0 := rfl

/-- The width of a number is given by the powers of 256 that it lies between. -/
theorem width_eq_succ {count value : Nat} (low : 256 ^ count ≤ value)
    (high : value < 256 ^ (count + 1)) : width value = count + 1 := by
  have positive : 0 < 256 ^ count := Nat.pow_pos (by decide)
  have nonzero : value ≠ 0 := by omega
  have least : 8 * count ≤ value.log2 := by
    rw [Nat.le_log2 nonzero, Nat.pow_mul]
    exact low
  have most : value.log2 < 8 * (count + 1) := by
    rw [Nat.log2_lt nonzero, Nat.pow_mul]
    exact high
  rw [width, if_neg nonzero]
  omega

theorem lt_pow_width (value : Nat) : value < 256 ^ width value := by
  by_cases zero : value = 0
  · subst zero
    exact Nat.zero_lt_one
  · rw [width, if_neg zero, show 256 = 2 ^ 8 from rfl, ← Nat.pow_mul, ← Nat.log2_lt zero]
    omega

theorem pow_width_le {value : Nat} (nonzero : value ≠ 0) : 256 ^ (width value - 1) ≤ value := by
  rw [width, if_neg nonzero, Nat.add_sub_cancel, show 256 = 2 ^ 8 from rfl, ← Nat.pow_mul,
    ← Nat.le_log2 nonzero]
  exact Nat.mul_div_le _ _

theorem width_le {count value : Nat} (small : value < 256 ^ count) : width value ≤ count := by
  by_cases zero : value = 0
  · subst zero
    exact Nat.zero_le _
  · have between := Nat.lt_of_le_of_lt (pow_width_le zero) small
    have less := (Nat.pow_lt_pow_iff_right (by decide : 1 < 256)).mp between
    omega

@[simp] theorem length_minimal (value : Nat) : (minimal value).length = width value :=
  length_ofNat _ _

/-- The shortest byte string of a number denotes it. -/
theorem toNat_minimal (value : Nat) : toNat (minimal value) = value := by
  rw [minimal, toNat_ofNat, Nat.mod_eq_of_lt (lt_pow_width value)]

/-- It does not start with a zero byte: the rest would be too short for the number. -/
theorem head?_minimal (value : Nat) : (minimal value).head? ≠ some 0 := by
  intro leading
  obtain ⟨rest, split⟩ := List.head?_eq_some_iff.mp leading
  have length := length_minimal value
  have same := toNat_minimal value
  rw [split, List.length_cons] at length
  rw [split, toNat_cons, UInt8.toNat_zero, Nat.zero_mul, Nat.zero_add] at same
  have nonzero : value ≠ 0 := by
    rintro rfl
    exact absurd length (by simp [width_zero])
  have low := pow_width_le nonzero
  have high := toNat_lt rest
  rw [← length, Nat.add_sub_cancel] at low
  omega

/-- It is the only one that does not. -/
theorem minimal_toNat {bytes : Bytes} (shortest : bytes.head? ≠ some 0) :
    minimal (toNat bytes) = bytes := by
  cases bytes with
  | nil => rfl
  | cons first rest =>
    have positive : 0 < first.toNat := by
      refine Nat.pos_of_ne_zero fun zero => shortest (congrArg some ?_)
      exact UInt8.toNat_inj.mp zero
    have low : 256 ^ rest.length ≤ toNat (first :: rest) := by
      rw [toNat_cons]
      exact Nat.le_trans (Nat.le_mul_of_pos_left _ positive) (Nat.le_add_right _ _)
    have width : width (toNat (first :: rest)) = (first :: rest).length :=
      width_eq_succ low (toNat_lt (first :: rest))
    rw [minimal, width, ofNat_toNat]

end Trickle.Bytes
