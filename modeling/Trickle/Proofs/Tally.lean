/-
This file proves what a tally shows. Adding outcomes to a tally raises every counter by
the number of outcomes of its kind, and the total by the sum of the fees of all payments
that are in the chain, modulo the width of an amount. Whatever is added, the rows stay
the sum of the counters and the rows that ran out of time stay among those that failed.
-/

import Mathlib.Data.BitVec
import Trickle.Report

namespace Trickle

namespace Outcome

/-- Whether a payment is in the chain. -/
def isTransferred : Outcome → Bool
  | .transferred _ => true
  | _ => false

/-- Whether an attempt failed. -/
def isFailed : Outcome → Bool
  | .failed _ => true
  | _ => false

/-- Whether an attempt failed because its receipt did not come in time. -/
def isTimedOut : Outcome → Bool
  | .failed failure => failure.isTimeout
  | _ => false

/-- Whether a row was skipped. -/
def isSkipped : Outcome → Bool
  | .skipped => true
  | _ => false

/-- Whether a row was no entry. -/
def isMalformed : Outcome → Bool
  | .malformed => true
  | _ => false

/-- What an outcome adds to the total. -/
def fee : Outcome → Wei
  | .transferred report => report.fees.transferFee
  | _ => 0

/-- The report of a payment that is in the chain. -/
def report? : Outcome → Option Report
  | .transferred report => some report
  | _ => none

theorem isSome_report? (outcome : Outcome) : outcome.report?.isSome = outcome.isTransferred := by
  cases outcome <;> rfl

theorem report?_eq_some_iff {outcome : Outcome} {report : Report} :
    outcome.report? = some report ↔ outcome = .transferred report := by
  cases outcome <;> simp [report?]

/-- There is one report for every payment that is in the chain, whether it was taken back or not. -/
theorem length_reports (outcomes : List Outcome) :
    (outcomes.filterMap report?).length = outcomes.countP isTransferred := by
  rw [List.length_filterMap_eq_countP]
  exact List.countP_congr fun outcome _ => by rw [isSome_report?]

/-- The fees add up as numbers do, modulo the width of an amount, and only reports have any. -/
theorem toNat_sum_fee (outcomes : List Outcome) :
    (outcomes.map fee).sum.toNat =
      ((outcomes.filterMap report?).map fun report => report.fees.transferFee.toNat).sum %
        2 ^ 256 := by
  induction outcomes with
  | nil => rfl
  | cons outcome rest inductionHypothesis =>
    rw [List.map_cons, List.sum_cons, BitVec.toNat_add, inductionHypothesis, Nat.add_mod_mod]
    cases outcome with
    | transferred report => rfl
    | failed failure => exact congrArg (· % 2 ^ 256) (Nat.zero_add _)
    | skipped => exact congrArg (· % 2 ^ 256) (Nat.zero_add _)
    | malformed => exact congrArg (· % 2 ^ 256) (Nat.zero_add _)

end Outcome

namespace Summary

/-- The tally of some outcomes. -/
def tally (outcomes : List Outcome) : Summary :=
  outcomes.foldl record empty

/-- One more outcome raises each counter it counts for by one. -/
theorem record_eq (summary : Summary) (outcome : Outcome) :
    summary.record outcome = {
      rows := summary.rows + 1
      transferred := summary.transferred + outcome.isTransferred.toNat
      failed := summary.failed + outcome.isFailed.toNat
      timedOut := summary.timedOut + outcome.isTimedOut.toNat
      skipped := summary.skipped + outcome.isSkipped.toNat
      malformed := summary.malformed + outcome.isMalformed.toNat
      totalFee := summary.totalFee + outcome.fee } := by
  have unpaid : summary.totalFee + 0 = summary.totalFee := BitVec.add_zero _
  cases outcome with
  | transferred report => rfl
  | failed failure => cases failure <;> simp only [record, Outcome.fee, unpaid] <;> rfl
  | skipped => simp only [record, Outcome.fee, unpaid]; rfl
  | malformed => simp only [record, Outcome.fee, unpaid]; rfl

theorem countP_cons_eq {Element : Type} (holds : Element → Bool) (head : Element)
    (rest : List Element) :
    (head :: rest).countP holds = (holds head).toNat + rest.countP holds := by
  rw [List.countP_cons, Nat.add_comm]
  cases holds head <;> rfl

/-- Adding outcomes raises each counter by how many of them count for it. -/
theorem foldl_record (summary : Summary) (outcomes : List Outcome) :
    outcomes.foldl record summary = {
      rows := summary.rows + outcomes.length
      transferred := summary.transferred + outcomes.countP Outcome.isTransferred
      failed := summary.failed + outcomes.countP Outcome.isFailed
      timedOut := summary.timedOut + outcomes.countP Outcome.isTimedOut
      skipped := summary.skipped + outcomes.countP Outcome.isSkipped
      malformed := summary.malformed + outcomes.countP Outcome.isMalformed
      totalFee := summary.totalFee + (outcomes.map Outcome.fee).sum } := by
  induction outcomes generalizing summary with
  | nil =>
    have unpaid : summary.totalFee + 0 = summary.totalFee := BitVec.add_zero _
    simp only [List.foldl_nil, List.length_nil, List.countP_nil, List.map_nil, List.sum_nil,
      Nat.add_zero, unpaid]
  | cons outcome rest inductionHypothesis =>
    rw [List.foldl_cons, inductionHypothesis, record_eq]
    simp only [countP_cons_eq, List.length_cons, List.map_cons, List.sum_cons, Nat.add_assoc,
      Nat.add_comm 1, BitVec.add_assoc]

theorem tally_eq (outcomes : List Outcome) :
    tally outcomes = {
      rows := outcomes.length
      transferred := outcomes.countP Outcome.isTransferred
      failed := outcomes.countP Outcome.isFailed
      timedOut := outcomes.countP Outcome.isTimedOut
      skipped := outcomes.countP Outcome.isSkipped
      malformed := outcomes.countP Outcome.isMalformed
      totalFee := (outcomes.map Outcome.fee).sum } := by
  have unpaid (total : Wei) : 0 + total = total := BitVec.zero_add _
  rw [tally, foldl_record]
  simp only [empty, Nat.zero_add, unpaid]

/-! ### What holds after every row -/

/-- Every row is counted by one of the four counters, and rows that ran out of time are among those
that failed. -/
structure Consistent (summary : Summary) : Prop where
  rows_eq : summary.rows =
    summary.transferred + summary.failed + summary.skipped + summary.malformed
  timedOut_le : summary.timedOut ≤ summary.failed

theorem consistent_empty : empty.Consistent :=
  ⟨rfl, Nat.le_refl 0⟩

theorem Consistent.record {summary : Summary} (consistent : summary.Consistent)
    (outcome : Outcome) : (summary.record outcome).Consistent := by
  obtain ⟨rows_eq, timedOut_le⟩ := consistent
  cases outcome with
  | transferred report => exact ⟨by simp only [Summary.record]; omega, timedOut_le⟩
  | failed failure =>
    refine ⟨by simp only [Summary.record]; omega, ?_⟩
    simp only [Summary.record]
    split <;> omega
  | skipped => exact ⟨by simp only [Summary.record]; omega, timedOut_le⟩
  | malformed => exact ⟨by simp only [Summary.record]; omega, timedOut_le⟩

theorem Consistent.foldl {summary : Summary} (consistent : summary.Consistent)
    (outcomes : List Outcome) : (outcomes.foldl Summary.record summary).Consistent := by
  induction outcomes generalizing summary with
  | nil => exact consistent
  | cons outcome rest inductionHypothesis =>
    exact inductionHypothesis (consistent.record outcome)

theorem consistent_tally (outcomes : List Outcome) : (tally outcomes).Consistent :=
  consistent_empty.foldl outcomes

end Summary

end Trickle
