/-
This file proves how a run goes whose payouts are attempts. The work on a row that asks to
pay an account is one attempt; it is finished, however it came out, or it breaks down since
its payment cannot be signed. Then the run has come to its end without its last line: the
row is the one behind those that are finished, and it has sent nothing.
-/

import Trickle.Proofs.Attempt
import Trickle.Proofs.Run

namespace Trickle.Run

open Dialogue (results finished Until)
open Transfer (Answers Attempted CanSign Course attempt closing script)

/-- How the work on a row can be played whose payout is an attempt. -/
inductive Treated (plan : Plan) (row : String) :
    List (Call Chain) → List Event → Except Breakdown Outcome → Prop where
  | malformed (error : EntryError) (unread : Entry.read row = .error error) :
    Treated plan row [] [.malformedRow error] (.ok .malformed)
  | skipped (entry : Entry) (read : Entry.read row = .ok entry)
      (unfunded : entry.isFunded = false) :
    Treated plan row [] [.unfunded entry.address] (.ok .skipped)
  | coursed (entry : Entry) (read : Entry.read row = .ok entry) (funded : entry.isFunded = true)
      {moments : List (Moment Chain)} {result : Except TransferFailure Report}
      (course : Course plan entry.address moments result) :
    Treated plan row (moments.filterMap Moment.call?)
      (moments.filterMap Moment.event? ++ closing plan entry.address result) (.ok (outcome result))
  | stopped (entry : Entry) (read : Entry.read row = .ok entry) (funded : entry.isFunded = true)
      (answers : Answers) (cannotSign : ¬ CanSign plan entry.address answers) :
    Treated plan row ((script plan entry.address answers).take 4)
      [.accountState plan.payer.sender answers.balance answers.nonce] (.error .wideRecovery)

/-- How the work on a row was played. -/
abbrev TreatedAs {State : Type} (plan : Plan) (row : String)
    (visit : Playback Chain State (Except Breakdown Outcome)) : Prop :=
  Treated plan row visit.calls visit.events visit.result

section Rows

variable {State : Type} (node : Peer Chain State) (plan : Plan)

theorem Visit.treated {node : Peer Chain State} {plan : Plan} {row : String} {start : State}
    {visit : Playback Chain State (Except Breakdown Outcome)}
    (played : Visit node (attempt plan) row start visit) : TreatedAs plan row visit := by
  cases played with
  | malformed error unread => exact .malformed error unread
  | skipped entry read unfunded => exact .skipped entry read unfunded
  | attempted entry read funded =>
    let played := (attempt plan entry.address).play node start
    have attempted : Attempted plan entry.address played.calls played.events played.result :=
      Transfer.attempted_attempt node plan entry.address start
    show Treated plan row played.calls played.events (played.result.map outcome)
    generalize played.calls = calls, played.events = events, played.result = result
      at attempted ⊢
    cases attempted with
    | coursed course => exact .coursed entry read funded course
    | stopped answers cannotSign => exact .stopped entry read funded answers cannotSign

theorem treated_visits (rows : List String) (state : State) :
    Until (TreatedAs plan) rows (visits node (attempt plan) rows state) :=
  (until_visits node (attempt plan) rows state).imp fun _ _ ⟨_, played⟩ => played.treated

end Rows

/-! ### The end of a run -/

/-- How a run of attempts over some rows ends, given the outcomes it comes to: with their tally if
there is one for every row, or broken down over the row behind them, since the payment to its
account cannot be signed. -/
inductive Ending (plan : Plan) (rows : List String) (outcomes : List Outcome) :
    Except Breakdown Summary → Prop where
  | ended (all : outcomes.length = rows.length) :
    Ending plan rows outcomes (.ok (Summary.tally outcomes))
  | stopped (row : String) (payment : Payment) (isNext : rows[outcomes.length]? = some row)
      (pays : payee? row = some payment.recipient) (amount : payment.amount = plan.amount)
      (chainId : payment.chainId = plan.chainId)
      (unsigned : payment.sign plan.payer.key = .error .wideRecovery) :
    Ending plan rows outcomes (.error .wideRecovery)

section Ending

variable {State : Type} {plan : Plan} {rows : List String}
  {visited : List (Playback Chain State (Except Breakdown Outcome))}

theorem Ending.eq_tally {outcomes : List Outcome} {summary : Summary}
    (ending : Ending plan rows outcomes (.ok summary)) : summary = Summary.tally outcomes := by
  cases ending with
  | ended all => rfl

theorem ending_of_treated (treated : Until (TreatedAs plan) rows visited) :
    Ending plan rows (finished visited) ((results visited).map Summary.tally) := by
  cases ended : results visited with
  | ok outcomes =>
    obtain ⟨rfl, all⟩ := treated.of_results_eq_ok ended
    exact .ended all
  | error breakdown =>
    obtain ⟨row, visit, isNext, _, _, played, stops⟩ := treated.of_results_eq_error ended
    unfold TreatedAs at played
    rw [stops] at played
    generalize visit.calls = calls, visit.events = events at played
    cases played with
    | stopped entry read funded answers cannotSign =>
      refine .stopped row (Transfer.payment plan entry.address answers) isNext ?_ rfl rfl
        (Payment.sign_of_not_signable cannotSign)
      rw [payee?, read]
      exact if_pos funded

end Ending

section Runs

variable {State : Type} (node : Peer Chain State) (plan : Plan)

theorem ending_rows (count : Nat) (cursor : Cursor) (state : State) :
    Ending plan (cursor.ahead count)
      (finished (visits node (attempt plan) (cursor.ahead count) state))
      ((((rows count cursor).throughOrStop (attempt plan)).play node state).result.map
        Prod.fst) := by
  rw [result_rows]
  have ending := ending_of_treated (treated_visits node plan (cursor.ahead count) state)
  cases ended : results (visits node (attempt plan) (cursor.ahead count) state) <;>
    rw [ended] at ending <;> exact ending

theorem ending_turns (limit : Option Nat) (turned : Nat) (cursor : Cursor) (state : State) :
    let loop := turns limit turned (.going .empty cursor)
    let rows := cursor.ahead (worked limit turned)
    Ending plan rows (finished (visits node (attempt plan) rows state))
      (((loop.throughOrStop (attempt plan)).play node state).result.map Stand.summary) := by
  intro loop rows
  rw [(covers_turns node (attempt plan) limit turned cursor state).summary]
  exact ending_of_treated (treated_visits node plan rows state)

end Runs

end Trickle.Run
