/-
This file proves that the totals of whole passes depend on neither the order of the rows nor
the place where the passes start. If an executor answers every payout by its account alone,
the work on a row comes to the same however often and in whatever place the row comes up. A
tally forgets the order of the outcomes it was made of, and the rows of whole passes are
those of the file, each as often as there are passes; so the totals are those of one pass
over the file, times the number of passes.
-/

import Mathlib.Algebra.BigOperators.Group.List.Basic
import Trickle.Proofs.Orders

namespace Trickle

/-! ### Whole passes -/

namespace Cursor

theorem eq_of_position {first second : Cursor} (sameRows : first.rows = second.rows)
    (samePlace : first.position = second.position) : first = second := by
  obtain ⟨rows, position, inRange⟩ := first
  obtain ⟨rows', position', inRange'⟩ := second
  obtain rfl : rows = rows' := sameRows
  obtain rfl : position = position' := samePlace
  rfl

/-- Whole passes lead a cursor back to where it was. -/
theorem advance_passes {cursor : Cursor} (filled : 0 < cursor.size) (passes : Nat) :
    cursor.advance (passes * cursor.size) = cursor := by
  refine eq_of_position (rows_advance cursor _) ?_
  rw [position_advance filled, Nat.add_mul_mod_self_right]
  exact Nat.mod_eq_of_lt (position_lt filled)

/-- The rows of whole passes are those of one pass, over and over. -/
theorem ahead_passes {cursor : Cursor} (filled : 0 < cursor.size) (passes : Nat) :
    cursor.ahead (passes * cursor.size) =
      (List.replicate passes (cursor.ahead cursor.size)).flatten := by
  induction passes with
  | zero =>
    rw [Nat.zero_mul]
    rfl
  | succ passes inductionHypothesis =>
    have once := advance_passes filled 1
    rw [Nat.one_mul] at once
    rw [Nat.succ_mul, Nat.add_comm, ahead_add filled, once, inductionHypothesis,
      List.replicate_succ, List.flatten_cons]

/-- One pass takes every row of the file, wherever it starts. -/
theorem ahead_size_perm {cursor : Cursor} (filled : 0 < cursor.size) :
    (cursor.ahead cursor.size).Perm cursor.rows.toList := by
  have turned : ((cursor.ahead cursor.size).drop 0).take cursor.size =
      cursor.rows.toList.rotate (cursor.position + 0) :=
    pass_eq_rotate filled (Nat.le_of_eq (Nat.zero_add _))
  rw [List.drop_zero, List.take_of_length_le (Nat.le_of_eq (length_ahead filled _))] at turned
  rw [turned]
  exact List.rotate_perm _ _

end Cursor

/-! ### Tallies without order -/

namespace Summary

/-- The tally of some outcomes that came up a number of times. -/
def times (count : Nat) (summary : Summary) : Summary where
  rows := count * summary.rows
  transferred := count * summary.transferred
  failed := count * summary.failed
  timedOut := count * summary.timedOut
  skipped := count * summary.skipped
  malformed := count * summary.malformed
  totalFee := BitVec.ofNat 256 (count * summary.totalFee.toNat)

theorem times_zero (summary : Summary) : summary.times 0 = empty := by
  simp only [times, Nat.zero_mul]
  rfl

theorem times_succ (summary : Summary) (count : Nat) :
    summary.times (count + 1) = summary.add (summary.times count) := by
  have total : BitVec.ofNat 256 (summary.totalFee.toNat + count * summary.totalFee.toNat) =
      summary.totalFee + BitVec.ofNat 256 (count * summary.totalFee.toNat) := by
    rw [BitVec.ofNat_add, BitVec.ofNat_toNat, BitVec.setWidth_eq]
  simp only [times, add, Nat.succ_mul, Nat.add_comm _ summary.rows,
    Nat.add_comm _ summary.transferred, Nat.add_comm _ summary.failed,
    Nat.add_comm _ summary.timedOut, Nat.add_comm _ summary.skipped,
    Nat.add_comm _ summary.malformed, Nat.add_comm _ summary.totalFee.toNat, total]

/-- A tally forgets the order of its outcomes. -/
theorem tally_perm {outcomes others : List Outcome} (permuted : outcomes.Perm others) :
    tally outcomes = tally others := by
  rw [tally_eq, tally_eq]
  simp only [permuted.length_eq, permuted.countP_eq, (permuted.map Outcome.fee).sum_eq]

theorem tally_replicate (count : Nat) (outcomes : List Outcome) :
    tally (List.replicate count outcomes).flatten = (tally outcomes).times count := by
  induction count with
  | zero =>
    rw [times_zero]
    rfl
  | succ count inductionHypothesis =>
    rw [List.replicate_succ, List.flatten_cons, tally_append, inductionHypothesis, times_succ]

end Summary

/-! ### Executors that answer by the account -/

namespace Run

open Dialogue (playEach)

/-- What the work on a row comes to when payouts are answered by their accounts. -/
def outcomeOf (answers : Address → Except TransferFailure Report) (row : String) : Outcome :=
  match Entry.read row with
  | .error _ => .malformed
  | .ok entry => if entry.isFunded then outcome (answers entry.address) else .skipped

variable {State : Type}

/-- Whether an executor answers payouts by their accounts, whatever it was asked before. -/
def AnswersByAccount (executor : Peer Payouts State)
    (answers : Address → Except TransferFailure Report) : Prop :=
  ∀ recipient state, (executor.answer recipient state).1 = answers recipient

section Steady

variable {executor : Peer Payouts State} {answers : Address → Except TransferFailure Report}

theorem AnswersByAccount.result_processRow (steady : AnswersByAccount executor answers)
    (row : String) (state : State) :
    ((processRow row).play executor state).result = outcomeOf answers row := by
  unfold processRow outcomeOf
  cases Entry.read row with
  | error error => rfl
  | ok entry =>
    cases funded : entry.isFunded with
    | false =>
      simp only [funded, Bool.false_eq_true, if_false]
      rfl
    | true =>
      simp only [funded, if_true]
      exact congrArg outcome (steady entry.address state)

theorem AnswersByAccount.results_playEach (steady : AnswersByAccount executor answers)
    (rows : List String) (state : State) :
    (playEach executor processRow rows state).map Playback.result =
      rows.map (outcomeOf answers) := by
  induction rows generalizing state with
  | nil => rfl
  | cons row rest inductionHypothesis =>
    rw [playEach, List.map_cons, List.map_cons, inductionHypothesis, steady.result_processRow]

theorem AnswersByAccount.result_rows (steady : AnswersByAccount executor answers)
    (cursor : Cursor) (count : Nat) (state : State) :
    ((rows count cursor).play executor state).result =
      (Summary.tally ((cursor.ahead count).map (outcomeOf answers)), cursor.advance count) := by
  rw [play_rows_ask]
  simp only [steady.results_playEach]

/-- The summary of whole passes is that of the file's rows, times the number of passes. -/
theorem AnswersByAccount.result_passes (steady : AnswersByAccount executor answers)
    {cursor : Cursor} (filled : 0 < cursor.size) (passes : Nat) (state : State) :
    ((rows (passes * cursor.size) cursor).play executor state).result =
      ((Summary.tally (cursor.rows.toList.map (outcomeOf answers))).times passes, cursor) := by
  rw [steady.result_rows, Cursor.ahead_passes filled, List.map_flatten, List.map_replicate,
    Summary.tally_replicate, Cursor.advance_passes filled,
    Summary.tally_perm ((Cursor.ahead_size_perm filled).map (outcomeOf answers))]

end Steady

/-- Of an executor that answers every payout by its account alone, whole passes over a file with
rows ask the same totals from wherever they start. The cursor is back where it was, and each number
of the summary is that of one pass from the first row, times the number of passes, the total modulo
the width of an amount. If the rows of the file are put in any other order the summary of as many
passes stays the same, again from wherever they start. -/
theorem passes_scale_and_forget_order {executor : Peer Payouts State}
    (steady : ∀ recipient first second,
      (executor.answer recipient first).1 = (executor.answer recipient second).1)
    {cursor : Cursor} (filled : 0 < cursor.size) (passes : Nat) (state again : State) :
    let once := ((rows cursor.size (Cursor.ofRows cursor.rows)).play executor state).result.1
    let played := (rows (passes * cursor.size) cursor).play executor again
    let summary := played.result.1
    played.result.2 = cursor ∧
    summary.rows = passes * once.rows ∧
    summary.transferred = passes * once.transferred ∧
    summary.failed = passes * once.failed ∧
    summary.timedOut = passes * once.timedOut ∧
    summary.skipped = passes * once.skipped ∧
    summary.malformed = passes * once.malformed ∧
    summary.totalFee.toNat = passes * once.totalFee.toNat % 2 ^ 256 ∧
    ∀ (other : Cursor) (anew : State), other.rows.toList.Perm cursor.rows.toList →
      ((rows (passes * cursor.size) other).play executor anew).result.1 = summary := by
  intro once played summary
  let answers (recipient : Address) := (executor.answer recipient state).1
  have byAccount : AnswersByAccount executor answers := fun recipient start =>
    steady recipient start state
  have onceIs : once = Summary.tally (cursor.rows.toList.map (outcomeOf answers)) := by
    have single := byAccount.result_rows (Cursor.ofRows cursor.rows) cursor.size state
    have allRows : ((Cursor.ofRows cursor.rows).ahead cursor.size).Perm cursor.rows.toList :=
      Cursor.ahead_size_perm filled
    exact (congrArg Prod.fst single).trans (Summary.tally_perm (allRows.map _))
  have result : played.result = (once.times passes, cursor) := by
    rw [onceIs]
    exact byAccount.result_passes filled passes again
  have scaled : summary = once.times passes := congrArg Prod.fst result
  refine ⟨congrArg Prod.snd result, congrArg Summary.rows scaled,
    congrArg Summary.transferred scaled, congrArg Summary.failed scaled,
    congrArg Summary.timedOut scaled, congrArg Summary.skipped scaled,
    congrArg Summary.malformed scaled, ?_, fun other anew permuted => ?_⟩
  · rw [scaled]
    exact BitVec.toNat_ofNat _ _
  · have sameSize : other.size = cursor.size := permuted.length_eq
    have otherFilled : 0 < other.size := sameSize ▸ filled
    have reordered := byAccount.result_passes otherFilled passes anew
    rw [sameSize] at reordered
    rw [reordered, scaled, onceIs, Summary.tally_perm (permuted.map (outcomeOf answers))]

/-- An executor that pays what it is asked for, each time at half of the largest amount and a bit
more, and counts. -/
def paying : Peer Payouts Nat where
  answer recipient count := (.ok {
    recipient := recipient
    hash := ⟨0⟩
    gasUsed := 1
    fees := Fees.of 1 1 (BitVec.twoPow 256 255)
    succeeded := true }, count + 1)

/-- Three passes over two rows, of which one is paid, from the second row on: the total wraps, and
with the rows the other way around it is the same. -/
theorem three_passes_of_two :
    let swapped := Cursor.ofRows twoRows.rows.reverse
    let played := (rows (3 * twoRows.size) twoRows).play paying 0
    let other := (rows (3 * twoRows.size) swapped).play paying 7
    (∀ recipient first second,
      (paying.answer recipient first).1 = (paying.answer recipient second).1) ∧
      0 < twoRows.size ∧ swapped.rows.toList.Perm twoRows.rows.toList ∧
      played.result.2 = twoRows ∧ other.result.1 = played.result.1 ∧
      played.result.1.transferred = 3 ∧
      played.result.1.totalFee.toNat = 3 * (2 ^ 255 + 1) % 2 ^ 256 := by
  intro swapped played other
  have steady : ∀ recipient first second,
      (paying.answer recipient first).1 = (paying.answer recipient second).1 :=
    fun _ _ _ => rfl
  have filled : 0 < twoRows.size := by decide
  have permuted : swapped.rows.toList.Perm twoRows.rows.toList := by decide +kernel
  have one : ((rows twoRows.size (Cursor.ofRows twoRows.rows)).play paying 0).result.1.transferred =
      1 := by decide +kernel
  have fee : ((rows twoRows.size (Cursor.ofRows twoRows.rows)).play paying 0).result.1.totalFee =
      BitVec.ofNat 256 (2 ^ 255 + 1) := by decide +kernel
  obtain ⟨back, _, transferred, _, _, _, _, total, order⟩ :=
    passes_scale_and_forget_order steady filled 3 0 0
  rw [one] at transferred
  rw [fee] at total
  exact ⟨steady, filled, permuted, back, order swapped 7 permuted, transferred, total⟩

end Run

end Trickle
