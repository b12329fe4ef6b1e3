/-
This file proves that the payments a run sends are accounted for. In the list of all
questions a run asks the chain, every payment the node takes is followed at once by the
wait for its receipt, so that no payment is sent while another one is on its way. The
tally tells how many payments were sent: one for each row that was paid or failed when
its payment was sent or waited for, and none for any other row. A row over which the run
breaks down sends nothing, so the books of the rows before it are those of the run.
-/

import Trickle.Proofs.AttemptedRows

namespace Trickle

namespace Call

/-- Whether a payment is sent, with or without success. -/
def isSend (call : Call Chain) : Bool :=
  call.question.isSend

/-- Whether a payment is sent and the node takes it. -/
def isSent (call : Call Chain) : Bool :=
  call.question.isSend && !call.failed

/-- Whether a receipt is waited for. -/
def isWait (call : Call Chain) : Bool :=
  call.question.isWait

end Call

/-- Whether an attempt failed when its payment was sent or waited for. -/
def Outcome.isSendFailure : Outcome → Bool
  | .failed (.submission _) | .failed (.timeout _) => true
  | _ => false

theorem Outcome.isFailed_of_isSendFailure {outcome : Outcome}
    (sendFailure : outcome.isSendFailure = true) : outcome.isFailed = true := by
  cases outcome with
  | failed failure => rfl
  | transferred report => exact nomatch sendFailure
  | skipped => exact nomatch sendFailure
  | malformed => exact nomatch sendFailure

namespace Accounting

/-! ### Payments and waits -/

/-- A payment that the node takes is followed by the wait for the hash it gave. -/
def AwaitedIn (call : Call Chain) (rest : List (Call Chain)) : Prop :=
  match call with
  | ⟨.send _, .ok hash⟩ => ∃ answer later, rest = ⟨.receipt hash, answer⟩ :: later
  | _ => True

/-- Every payment that the node takes is followed at once by the wait for it. -/
def Paired : List (Call Chain) → Prop
  | [] => True
  | call :: rest => AwaitedIn call rest ∧ Paired rest

theorem AwaitedIn.append {call : Call Chain} {rest : List (Call Chain)}
    (awaited : AwaitedIn call rest) (more : List (Call Chain)) :
    AwaitedIn call (rest ++ more) := by
  unfold AwaitedIn at awaited ⊢
  split at awaited
  · obtain ⟨answer, later, rfl⟩ := awaited
    exact ⟨answer, later ++ more, rfl⟩
  · trivial

theorem Paired.append {first second : List (Call Chain)} (left : Paired first)
    (right : Paired second) : Paired (first ++ second) := by
  induction first with
  | nil => exact right
  | cons call rest inductionHypothesis =>
    exact ⟨left.1.append second, inductionHypothesis left.2⟩

theorem Paired.right {before rest : List (Call Chain)} (paired : Paired (before ++ rest)) :
    Paired rest := by
  induction before with
  | nil => exact paired
  | cons call before inductionHypothesis => exact inductionHypothesis paired.2

theorem AwaitedIn.next_isWait {call : Call Chain} {rest : List (Call Chain)}
    (awaited : AwaitedIn call rest) (sent : call.isSent = true) :
    ∃ wait later, rest = wait :: later ∧ wait.isWait = true ∧ wait.isSend = false := by
  obtain ⟨question, answer⟩ := call
  cases question with
  | send transaction =>
    cases answer with
    | ok hash =>
      obtain ⟨answer, later, rfl⟩ := awaited
      exact ⟨_, later, rfl, rfl, rfl⟩
    | error fault => exact nomatch sent
  | _ => exact nomatch sent

/-- Calls are paired when the node takes no payment among them. -/
theorem Paired.of_unsent {calls : List (Call Chain)} (unsent : calls.countP Call.isSent = 0) :
    Paired calls := by
  induction calls with
  | nil => trivial
  | cons call rest inductionHypothesis =>
    have notSent : ¬ call.isSent = true := List.countP_eq_zero.mp unsent call List.mem_cons_self
    rw [List.countP_cons_of_neg notSent] at unsent
    refine ⟨?_, inductionHypothesis unsent⟩
    unfold AwaitedIn
    split
    · exact absurd rfl notSent
    · trivial

/-- The wait for every payment taken stands behind the first call. -/
theorem Paired.sent_le_waits_tail {calls : List (Call Chain)} (paired : Paired calls) :
    calls.countP Call.isSent ≤ calls.tail.countP Call.isWait := by
  induction calls with
  | nil => exact Nat.le_refl 0
  | cons call rest inductionHypothesis =>
    have behind := inductionHypothesis paired.2
    cases sent : call.isSent with
    | false =>
      rw [List.countP_cons_of_neg (Bool.eq_false_iff.mp sent)]
      exact behind.trans (List.countP_tail_le _)
    | true =>
      obtain ⟨wait, later, rfl, isWait, _⟩ := paired.1.next_isWait sent
      rw [List.countP_cons_of_pos sent, List.tail_cons, List.countP_cons_of_pos isWait]
      exact Nat.succ_le_succ behind

theorem Paired.sent_le_waits {calls : List (Call Chain)} (paired : Paired calls) :
    calls.countP Call.isSent ≤ calls.countP Call.isWait :=
  paired.sent_le_waits_tail.trans (List.countP_tail_le _)

/-- What comes before a payment is sent is paired by itself: its last call took no payment, as the
wait for that one would have to follow. -/
theorem Paired.before_send {before rest : List (Call Chain)} {call : Call Chain}
    (paired : Paired (before ++ call :: rest)) (sends : call.isSend = true) : Paired before := by
  induction before with
  | nil => trivial
  | cons first before inductionHypothesis =>
    refine ⟨?_, inductionHypothesis paired.2⟩
    have awaited := paired.1
    unfold AwaitedIn at awaited ⊢
    split at awaited
    · obtain ⟨answer, later, next⟩ := awaited
      cases before with
      | nil =>
        obtain rfl := (List.cons.inj next).1
        exact nomatch sends
      | cons second before =>
        obtain rfl := (List.cons.inj next).1
        exact ⟨answer, before, rfl⟩
    · trivial

/-! ### The books of an attempt -/

/-- What the calls of some rows and the outcomes of these rows have to do with each other. -/
structure Balanced (calls : List (Call Chain)) (outcomes : List Outcome) : Prop where
  paired : Paired calls
  sends : calls.countP Call.isSend =
    outcomes.countP Outcome.isTransferred + outcomes.countP Outcome.isSendFailure
  waits : calls.countP Call.isWait = calls.countP Call.isSent
  settled : outcomes.countP Outcome.isTransferred + outcomes.countP Outcome.isTimedOut ≤
    calls.countP Call.isWait

theorem Balanced.append {calls more : List (Call Chain)} {outcomes others : List Outcome}
    (left : Balanced calls outcomes) (right : Balanced more others) :
    Balanced (calls ++ more) (outcomes ++ others) where
  paired := left.paired.append right.paired
  sends := by
    simp only [List.countP_append, left.sends, right.sends]
    omega
  waits := by
    simp only [List.countP_append, left.waits, right.waits]
  settled := by
    have settledLeft := left.settled
    have settledRight := right.settled
    simp only [List.countP_append]
    omega

/-- When a payment is sent, those taken before are those waited for before. -/
theorem Balanced.sent_eq_waits {calls before after : List (Call Chain)} {call : Call Chain}
    {outcomes : List Outcome} (balanced : Balanced calls outcomes)
    (split : calls = before ++ call :: after) (sends : call.isSend = true) :
    before.countP Call.isSent = before.countP Call.isWait := by
  subst split
  have first := (balanced.paired.before_send sends).sent_le_waits
  have second := balanced.paired.right.sent_le_waits
  have whole := balanced.waits
  rw [List.countP_append, List.countP_append] at whole
  omega

theorem balanced_skipped : Balanced [] [.skipped] :=
  ⟨trivial, rfl, rfl, Nat.le_refl 0⟩

theorem balanced_malformed : Balanced [] [.malformed] :=
  ⟨trivial, rfl, rfl, Nat.le_refl 0⟩

/-- The books of every attempt are balanced: its script sends one payment and waits for it, and an
attempt that ends before is said to have failed elsewhere. -/
theorem balanced_of_conduct {plan : Plan} {recipient : Address} {calls : List (Call Chain)}
    {result : Except TransferFailure Report}
    (conduct : Transfer.Conduct plan recipient calls result) :
    Balanced calls [Run.outcome result] := by
  cases conduct with
  | completed answers =>
    exact ⟨⟨trivial, trivial, trivial, trivial, ⟨_, _, rfl⟩, trivial, trivial⟩, rfl, rfl,
      Nat.le_refl 1⟩
  | failed answers before call after fault split =>
    obtain ⟨index, bound, rfl, found⟩ := Transfer.exists_index_of_split split
    match index, bound with
    | 0, _ | 1, _ | 2, _ | 3, _ | 4, _ =>
      obtain rfl := Option.some.inj found
      exact ⟨.of_unsent rfl, rfl, rfl, Nat.le_refl 0⟩
    | 5, _ =>
      obtain rfl := Option.some.inj found
      obtain ⟨cause, context⟩ := fault
      refine ⟨⟨trivial, trivial, trivial, trivial, ⟨_, _, rfl⟩, trivial, trivial⟩, ?_, rfl, ?_⟩
      · cases cause <;> rfl
      · cases cause <;> exact Nat.le_of_ble_eq_true rfl

/-! ### The books of a run -/

open Dialogue (finished Until)
open Run (Treated TreatedAs)

theorem balanced_of_treated {plan : Plan} {row : String} {calls : List (Call Chain)}
    {events : List Event} {result : Except Breakdown Outcome}
    (treated : Treated plan row calls events result) :
    Balanced calls result.toOption.toList := by
  cases treated with
  | malformed error unread => exact balanced_malformed
  | skipped entry read unfunded => exact balanced_skipped
  | coursed entry read funded course => exact balanced_of_conduct course.conduct
  | stopped entry read funded answers => exact ⟨.of_unsent rfl, rfl, rfl, Nat.le_refl 0⟩

/-- Whether a row asks to pay an account. -/
def isFunded (row : String) : Bool :=
  (Run.payee? row).isSome

/-- An outcome is that of an attempt exactly if its row has a balance above zero. -/
theorem isFunded_of_treated {plan : Plan} {row : String} {calls : List (Call Chain)}
    {events : List Event} {outcome : Outcome}
    (treated : Treated plan row calls events (.ok outcome)) :
    (isFunded row).toNat = outcome.isTransferred.toNat + outcome.isFailed.toNat := by
  unfold isFunded Run.payee?
  cases treated with
  | malformed error unread =>
    rw [unread]
    rfl
  | skipped entry read unfunded =>
    rw [read]
    simp only [unfunded, Bool.false_eq_true, if_false]
    rfl
  | @coursed entry read funded moments result course =>
    rw [read]
    simp only [funded, if_true]
    cases result <;> rfl

section Rows

variable {State : Type} {plan : Plan}

/-- The rows with a balance above zero are those whose outcome is that of an attempt. -/
theorem countP_isFunded {rows : List String}
    {visited : List (Playback Chain State (Except Breakdown Outcome))}
    (played : Until (TreatedAs plan) rows visited) :
    (rows.take (finished visited).length).countP isFunded =
      (finished visited).countP Outcome.isTransferred +
        (finished visited).countP Outcome.isFailed := by
  have each := played.forall₂_finished fun row visit outcome treated ended =>
    isFunded_of_treated (ended ▸ treated : Treated plan row visit.calls visit.events (.ok outcome))
  generalize rows.take (finished visited).length = done at each ⊢
  generalize finished visited = outcomes at each ⊢
  induction each with
  | nil => rfl
  | cons attempted _ inductionHypothesis =>
    rw [Summary.countP_cons_eq, Summary.countP_cons_eq, Summary.countP_cons_eq,
      inductionHypothesis, attempted]
    omega

/-- A payment that the node takes is followed at once by the wait for its receipt, and when a
payment is sent as many have been waited for as were taken before, so that none is on its way. The
payments sent are those of the rows that were transferred or that failed when a payment was sent or
waited for; they are at most as many as the rows with a balance above zero, all of which were
transferred or failed. Each payment taken is waited for once, and so is every one that was
transferred or timed out. The summary is the tally of all rows, unless the run breaks down over one
whose payment cannot be signed; then all of this holds of the rows before it. -/
theorem run_sends_and_waits (node : Peer Chain State) (plan : Plan) (state : State)
    (cursor : Cursor) (count : Nat) :
    let played := ((Run.rows count cursor).throughOrStop (Transfer.attempt plan)).play node state
    let rows := cursor.ahead count
    let outcomes := finished (Run.visits node (Transfer.attempt plan) rows state)
    let summary := Summary.tally outcomes
    let worked := rows.take outcomes.length
    Run.Ending plan rows outcomes (played.result.map Prod.fst) ∧
    (∀ before after transaction hash,
      played.calls = before ++ ⟨.send transaction, .ok hash⟩ :: after →
        ∃ answer rest, after = ⟨.receipt hash, answer⟩ :: rest) ∧
    (∀ before after transaction answer,
      played.calls = before ++ ⟨.send transaction, answer⟩ :: after →
        before.countP Call.isSent = before.countP Call.isWait) ∧
    played.calls.countP Call.isSend =
      summary.transferred + outcomes.countP Outcome.isSendFailure ∧
    played.calls.countP Call.isSend ≤ worked.countP isFunded ∧
    worked.countP isFunded = summary.transferred + summary.failed ∧
    played.calls.countP Call.isWait = played.calls.countP Call.isSent ∧
    summary.transferred + summary.timedOut ≤ played.calls.countP Call.isWait := by
  intro played rows outcomes summary worked
  have treated := Run.treated_visits node plan rows state
  have fields : summary = _ := Summary.tally_eq outcomes
  have balanced : Balanced played.calls outcomes := by
    rw [show played.calls = _ from
      Run.calls_rows node (Transfer.attempt plan) count cursor state]
    exact Run.gather_visits (fun calls _ => Balanced calls) treated
      ⟨trivial, rfl, rfl, Nat.le_refl 0⟩ (fun _ _ done => balanced_of_treated done)
      Balanced.append
  have funded : worked.countP isFunded = summary.transferred + summary.failed := by
    rw [fields]
    exact countP_isFunded treated
  have sends : played.calls.countP Call.isSend =
      summary.transferred + outcomes.countP Outcome.isSendFailure := by
    rw [fields]
    exact balanced.sends
  have failures : outcomes.countP Outcome.isSendFailure ≤ summary.failed := by
    rw [fields]
    exact List.countP_mono_left fun outcome _ => Outcome.isFailed_of_isSendFailure
  refine ⟨Run.ending_rows node plan count cursor state,
    fun before after transaction hash split => ?_,
    fun before after transaction answer split => ?_, sends, ?_, funded, balanced.waits, ?_⟩
  · exact (split ▸ balanced.paired).right.1
  · exact balanced.sent_eq_waits split rfl
  · rw [sends, funded]
    exact Nat.add_le_add_left failures _
  · rw [fields]
    exact balanced.settled

end Rows

end Accounting

end Trickle
