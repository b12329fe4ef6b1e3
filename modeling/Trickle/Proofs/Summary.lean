/-
This file proves that the summary of a run is the tally of what became of its rows. Each
counter is the number of outcomes of its kind, and the total is the sum of the fees of
all payments that are in the chain, those taken back included, modulo the width of an
amount. This is so after every single row: as long as a run goes on, it carries the
tally of the rows so far.
-/

import Trickle.Proofs.Passes

namespace Trickle.Run

open Dialogue (playEach)

variable {State : Type} (executor : Peer Payouts State)

/-- After each turn a run that has room for it carries the tally of the rows so far. -/
theorem result_turns {limit : Option Nat} {cursor : Cursor} {turned count : Nat} (state : State)
    (filled : 0 < cursor.size) (inside : turned ≤ count) (room : ∀ bound ∈ limit, turned ≤ bound) :
    ((turns limit turned (.going .empty cursor)).play executor state).result =
      .going (Summary.tally (((playEach executor processRow (cursor.ahead count) state).map
        Playback.result).take turned)) (cursor.advance turned) := by
  have fits : ∀ bound ∈ limit, Summary.empty.rows + turned ≤ bound := fun bound isLimit => by
    rw [show Summary.empty.rows = 0 from rfl, Nat.zero_add]
    exact room bound isLimit
  rw [turns_eq_walk filled fits, Dialogue.play_andThen, play_walk_ask, ← List.map_take,
    Dialogue.take_playEach, Cursor.take_ahead filled inside]
  rfl

/-- The transcript of a run is that of the work on its rows and a line with its summary, and this
summary is the tally of their outcomes: all rows of the run, each counted by its kind, with one
transferred for every report, whether its payment was taken back or not. The total is the sum of the
fees of these reports, modulo the width of an amount. After every single row, in a run with or
without a limit, the summary is the tally of the rows so far; its rows are the sum of its counters,
and those that timed out are among those that failed. -/
theorem run_tallies_outcomes (state : State) (cursor : Cursor) (count : Nat) :
    let played := (rows count cursor).play executor state
    let visited := playEach executor processRow (cursor.ahead count) state
    let outcomes := visited.map Playback.result
    let reports := outcomes.filterMap Outcome.report?
    let summary := played.result.1
    played.transcript = visited.flatMap Playback.transcript ++ shortage cursor count ++
      [.noted (.finished summary)] ∧
    summary.rows = summary.transferred + summary.failed + summary.skipped + summary.malformed ∧
    summary.rows = outcomes.length ∧
    summary.rows = (if cursor.size = 0 then 0 else count) ∧
    summary.transferred =
      reports.countP (fun report => report.succeeded) +
        reports.countP (fun report => ¬ report.succeeded) ∧
    summary.failed = outcomes.countP Outcome.isFailed ∧
    summary.timedOut = outcomes.countP Outcome.isTimedOut ∧
    summary.timedOut ≤ summary.failed ∧
    summary.skipped = outcomes.countP Outcome.isSkipped ∧
    summary.malformed = outcomes.countP Outcome.isMalformed ∧
    summary.totalFee.toNat =
      (reports.map fun report => report.fees.transferFee.toNat).sum % 2 ^ 256 ∧
    ∀ turned ≤ outcomes.length, ∀ limit, limit = some count ∨ limit = none →
      let soFar := Summary.tally (outcomes.take turned)
      ((turns limit turned (.going .empty cursor)).play executor state).result =
        .going soFar (cursor.advance turned) ∧
      soFar.rows = turned ∧ soFar.Consistent := by
  intro played visited outcomes reports summary
  have result : played.result = (Summary.tally outcomes, cursor.advance count) :=
    congrArg Playback.result (play_rows_ask executor count cursor state)
  have tallied : summary = Summary.tally outcomes := congrArg Prod.fst result
  have transcript : played.transcript = visited.flatMap Playback.transcript ++
      shortage cursor count ++ [.noted (.finished summary)] := by
    rw [tallied]
    exact congrArg Playback.transcript (play_rows_ask executor count cursor state)
  have length : outcomes.length = if cursor.size = 0 then 0 else count := by
    rw [List.length_map, Dialogue.length_playEach]
    split
    next empty => rw [Cursor.ahead_of_empty empty, List.length_nil]
    next filled => exact Cursor.length_ahead (Nat.pos_of_ne_zero filled) count
  have consistent : summary.Consistent := tallied ▸ Summary.consistent_tally outcomes
  have fields := tallied.trans (Summary.tally_eq outcomes)
  refine ⟨transcript, consistent.rows_eq, congrArg Summary.rows fields,
    (congrArg Summary.rows fields).trans length, ?_, congrArg Summary.failed fields,
    congrArg Summary.timedOut fields, consistent.timedOut_le, congrArg Summary.skipped fields,
    congrArg Summary.malformed fields, ?_,
    fun turned inside limit isLimit => ⟨?_, ?_, Summary.consistent_tally _⟩⟩
  · rw [congrArg Summary.transferred fields, ← Outcome.length_reports]
    exact List.length_eq_countP_add_countP _
  · rw [congrArg Summary.totalFee fields]
    exact Outcome.toNat_sum_fee outcomes
  · rw [length] at inside
    split at inside
    next empty =>
      obtain rfl := Nat.le_zero.mp inside
      rfl
    next filled =>
      refine result_turns executor state (Nat.pos_of_ne_zero filled) inside ?_
      rintro bound isBound
      rcases isLimit with rfl | rfl
      · cases isBound
        exact inside
      · exact nomatch isBound
  · rw [Summary.tally_eq, List.length_take]
    exact Nat.min_eq_left inside

end Trickle.Run
