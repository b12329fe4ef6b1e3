/-
This file proves when the fees of payments are what they should be. The gas fee is exact,
as it is the product of two words of half the width. What is added to it need not be: the
amount plus the gas fee, and the total of a run, are taken modulo the width of an amount,
and no check keeps them below it. They are the sums they should be exactly if these fit,
and a payment whose sum does not fit is reported as cheaper than either of its parts.

A run is looked at after any number of turns, with or without a limit. The rows it has
worked on by then decide its total, which is carried from row to row and wraps as often as
the sum of all fees does.
-/

import Mathlib.Algebra.Order.BigOperators.Group.List
import Trickle.Proofs.Amount
import Trickle.Proofs.AttemptedRows

namespace Trickle

/-! ### Sums of words -/

namespace Wei

theorem toNat_add_eq_iff (first second : Wei) :
    (first + second).toNat = first.toNat + second.toNat ↔
      first.toNat + second.toNat < 2 ^ 256 := by
  rw [BitVec.toNat_add]
  exact Nat.mod_eq_iff_lt (by decide)

/-- A sum that does not fit comes out below either of its parts. -/
theorem le_add_iff (first second : Wei) :
    first ≤ first + second ↔ first.toNat + second.toNat < 2 ^ 256 := by
  have firstSmall := first.isLt
  have secondSmall := second.isLt
  rw [BitVec.le_def, BitVec.toNat_add]
  constructor
  · intro notBelow
    -- Otherwise the sum loses `2 ^ 256`, which is more than the second part adds to the first.
    by_contra large
    rw [Nat.mod_eq_sub_mod (Nat.le_of_not_lt large), Nat.mod_eq_of_lt (by omega)] at notBelow
    omega
  · intro fits
    rw [Nat.mod_eq_of_lt fits]
    exact Nat.le_add_right _ _

end Wei

/-! ### The fees of one payment -/

namespace Fees

/-- The product of two words of half the width fits. -/
theorem toNat_gasFee (gasUsed gasPrice : Gas) (amount : Wei) :
    (Fees.of gasUsed gasPrice amount).gasFee.toNat = gasUsed.toNat * gasPrice.toNat := by
  have bound : gasUsed.toNat * gasPrice.toNat < 2 ^ 128 * 2 ^ 128 :=
    Nat.mul_lt_mul'' gasUsed.isLt gasPrice.isLt
  show (gasUsed.setWidth 256 * gasPrice.setWidth 256).toNat = _
  rw [BitVec.toNat_mul, BitVec.toNat_setWidth_of_le (by decide),
    BitVec.toNat_setWidth_of_le (by decide)]
  exact Nat.mod_eq_of_lt bound

theorem transferFee_eq (gasUsed gasPrice : Gas) (amount : Wei) :
    (Fees.of gasUsed gasPrice amount).transferFee =
      amount + (Fees.of gasUsed gasPrice amount).gasFee := rfl

theorem toNat_transferFee (gasUsed gasPrice : Gas) (amount : Wei) :
    (Fees.of gasUsed gasPrice amount).transferFee.toNat =
      (amount.toNat + gasUsed.toNat * gasPrice.toNat) % 2 ^ 256 := by
  rw [transferFee_eq, BitVec.toNat_add, toNat_gasFee]

end Fees

/-! ### The fees of many payments -/

/-- What payments cost together, as their reports say. -/
def Report.spent (reports : List Report) : Nat :=
  (reports.map fun report => report.fees.transferFee.toNat).sum

/-- What payments of an amount really cost together: each of them the amount and its gas fee. -/
def Report.due (amount : Wei) (reports : List Report) : Nat :=
  (reports.map fun report => amount.toNat + report.fees.gasFee.toNat).sum

namespace Report

/-- Whether a report shows what some calls charged for a payment of an amount: the gas that the
receipt says was used, at the price that the node gave. -/
def ChargedIn (calls : List (Call Chain)) (amount : Wei) (report : Report) : Prop :=
  ∃ gasPrice, ⟨.gasPrice, .ok gasPrice⟩ ∈ calls ∧
    ⟨.receipt report.hash, .ok ⟨report.gasUsed, report.succeeded⟩⟩ ∈ calls ∧
    report.fees = Fees.of report.gasUsed gasPrice amount

variable {amount : Wei} {report : Report} {reports : List Report}

theorem ChargedIn.transferFee_eq {calls : List (Call Chain)}
    (charged : report.ChargedIn calls amount) :
    report.fees.transferFee = amount + report.fees.gasFee := by
  obtain ⟨gasPrice, _, _, fees⟩ := charged
  rw [fees, Fees.transferFee_eq]

/-- What was spent is what was due, as far as it fits. -/
theorem spent_mod
    (added : ∀ report ∈ reports, report.fees.transferFee = amount + report.fees.gasFee) :
    spent reports % 2 ^ 256 = due amount reports % 2 ^ 256 := by
  induction reports with
  | nil => rfl
  | cons report rest inductionHypothesis =>
    obtain ⟨head, others⟩ := List.forall_mem_cons.mp added
    have tail : spent rest % 2 ^ 256 = due amount rest % 2 ^ 256 := inductionHypothesis others
    show (report.fees.transferFee.toNat + spent rest) % 2 ^ 256 =
      (amount.toNat + report.fees.gasFee.toNat + due amount rest) % 2 ^ 256
    rw [head, BitVec.toNat_add, Nat.mod_add_mod, Nat.add_mod, tail, ← Nat.add_mod]

/-- If all that was due fits, so does what was due for each payment, and its fee is exact. -/
theorem toNat_transferFee_of_fits
    (added : report.fees.transferFee = amount + report.fees.gasFee)
    (fits : due amount reports < 2 ^ 256) (member : report ∈ reports) :
    report.fees.transferFee.toNat = amount.toNat + report.fees.gasFee.toNat := by
  have part : amount.toNat + report.fees.gasFee.toNat ≤ due amount reports :=
    List.le_sum_of_mem (List.mem_map_of_mem member)
  rw [added]
  exact (Wei.toNat_add_eq_iff _ _).mpr (Nat.lt_of_le_of_lt part fits)

end Report

/-! ### The total of a run -/

namespace Run

open Dialogue (finished)
open Transfer (attempt)

/-- A payment in the chain is charged for the gas that its receipt says was used, at the price that
the node gave before it was sent. -/
theorem Treated.chargedIn {plan : Plan} {row : String} {calls : List (Call Chain)}
    {events : List Event} {result : Except Breakdown Outcome}
    (treated : Treated plan row calls events result) {report : Report}
    (paid : result = .ok (.transferred report)) : report.ChargedIn calls plan.amount := by
  cases treated with
  | malformed error unread => exact nomatch paid
  | skipped entry read unfunded => exact nomatch paid
  | coursed entry read funded course =>
    obtain ⟨answers, _, _, _, _, completed⟩ := course.conduct.starts_script
    have reports := outcome_eq_transferred_iff.mp (Except.ok.inj paid)
    obtain ⟨calls, rfl⟩ := completed report reports
    rw [calls]
    exact ⟨answers.gasPrice, List.mem_of_getElem? (i := 0) rfl, List.mem_of_getElem? (i := 5) rfl,
      rfl⟩
  | stopped entry read funded answers => exact nomatch paid

/-- The gas fee of a payment is the exact product of the gas used and its price, and there is no
base fee. The transfer fee is the amount plus this product modulo the width of an amount; it is the
exact sum if and only if the sum fits, and only then is it not below the amount, and not below the
gas fee. After any number of turns of a run, with or without a limit, the tally is that of the rows
worked on, unless the run broke down over one whose payment cannot be signed, and then it would be
that of the rows before; every payment in the chain was charged for the gas of its receipt at the
price the node gave before it was sent. The total of the tally is the sum of the transfer fees of
its reports modulo the width of an amount, exact if and only if that sum fits; it is also what was
due for the payments, modulo the same, and if all that was due fits then the total is this number
and every transfer fee is exact. -/
theorem fees_exact_iff_fit {State : Type} (node : Peer Chain State) (plan : Plan) (state : State)
    (cursor : Cursor) :
    (∀ (gasUsed gasPrice : Gas) (amount : Wei),
      let fees := Fees.of gasUsed gasPrice amount
      let due := amount.toNat + gasUsed.toNat * gasPrice.toNat
      fees.gasFee.toNat = gasUsed.toNat * gasPrice.toNat ∧
      fees.baseFee = 0 ∧
      fees.transferFee.toNat = due % 2 ^ 256 ∧
      (fees.transferFee.toNat = due ↔ due < 2 ^ 256) ∧
      (amount ≤ fees.transferFee ↔ due < 2 ^ 256) ∧
      (fees.gasFee ≤ fees.transferFee ↔ due < 2 ^ 256)) ∧
    ∀ (limit : Option Nat) (turned : Nat),
      let loop := turns limit turned (.going .empty cursor)
      let played := (loop.throughOrStop (attempt plan)).play node state
      let rows := cursor.ahead (worked limit turned)
      let visited := visits node (attempt plan) rows state
      let outcomes := finished visited
      let reports := outcomes.filterMap Outcome.report?
      let total := (Summary.tally outcomes).totalFee.toNat
      let spent := Report.spent reports
      let due := Report.due plan.amount reports
      Ending plan rows outcomes (played.result.map Stand.summary) ∧
      (∀ visit ∈ visited, ∀ report, visit.result = .ok (.transferred report) →
        report.ChargedIn visit.calls plan.amount) ∧
      total = spent % 2 ^ 256 ∧
      (total = spent ↔ spent < 2 ^ 256) ∧
      total = due % 2 ^ 256 ∧
      (due < 2 ^ 256 → total = due ∧ ∀ report ∈ reports,
        report.fees.transferFee.toNat = plan.amount.toNat + report.fees.gasFee.toNat) := by
  constructor
  · intro gasUsed gasPrice amount fees due
    have gasFee : fees.gasFee.toNat = gasUsed.toNat * gasPrice.toNat :=
      Fees.toNat_gasFee gasUsed gasPrice amount
    have transferFee : fees.transferFee = amount + fees.gasFee := rfl
    have sum : amount.toNat + fees.gasFee.toNat = due := congrArg (amount.toNat + ·) gasFee
    refine ⟨gasFee, rfl, Fees.toNat_transferFee gasUsed gasPrice amount, ?_, ?_, ?_⟩
    · rw [transferFee, ← sum]
      exact Wei.toNat_add_eq_iff _ _
    · rw [transferFee, ← sum]
      exact Wei.le_add_iff _ _
    · rw [transferFee, ← sum, BitVec.add_comm, Nat.add_comm]
      exact Wei.le_add_iff _ _
  · intro limit turned loop played rows visited outcomes reports total spent due
    have tallied : total = spent % 2 ^ 256 := by
      show (Summary.tally outcomes).totalFee.toNat = _
      rw [Summary.tally_eq]
      exact Outcome.toNat_sum_fee _
    have charged (visit : Playback Chain State (Except Breakdown Outcome))
        (member : visit ∈ visited) (report : Report)
        (paid : visit.result = .ok (.transferred report)) :
        report.ChargedIn visit.calls plan.amount := by
      obtain ⟨row, _, treated⟩ := (treated_visits node plan rows state).exists_of_mem member
      exact treated.chargedIn paid
    have added (report : Report) (member : report ∈ reports) :
        report.fees.transferFee = plan.amount + report.fees.gasFee := by
      obtain ⟨outcome, isOutcome, isReport⟩ := List.mem_filterMap.mp member
      obtain rfl := Outcome.report?_eq_some_iff.mp isReport
      obtain ⟨visit, isVisit, paid⟩ := Dialogue.mem_finished_iff.mp isOutcome
      exact (charged visit isVisit report paid).transferFee_eq
    have wrapped : total = due % 2 ^ 256 := tallied.trans (Report.spent_mod added)
    refine ⟨ending_turns node plan limit turned cursor state, charged, tallied, ?_, wrapped,
      fun fits => ⟨?_, fun report member => ?_⟩⟩
    · rw [tallied]
      exact Nat.mod_eq_iff_lt (by decide)
    · rw [wrapped, Nat.mod_eq_of_lt fits]
    · exact Report.toNat_transferFee_of_fits (added report member) fits member

/-- The checks accept the largest amount there is, written as a plain decimal, and any gas fee at
all makes its transfer fee wrap: here it is zero. -/
theorem accepted_amount_wraps :
    ¬ ∀ settings : Settings, settings.validate = .ok () →
      ∀ amount, settings.amount = .ok amount → ∀ gasUsed gasPrice : Gas,
        (Fees.of gasUsed gasPrice amount).transferFee.toNat =
          amount.toNat + gasUsed.toNat * gasPrice.toNat := by
  intro always
  let settings := Settings.ofAmount
    "115792089237316195423570985008687907853269984665640564039457.584007913129639935"
  have largest : settings.amount = .ok (BitVec.allOnes 256) := by decide +kernel
  have exact_sum := always settings (by decide +kernel) _ largest 1 1
  exact absurd exact_sum (by decide)

end Run

end Trickle
