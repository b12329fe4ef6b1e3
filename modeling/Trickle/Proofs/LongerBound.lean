/-
This file proves that a wait for a receipt loses nothing by a longer bound. Two waits that
differ in nothing but their bounds have one schedule: when a request is sent and when its
reply comes depends on the start, the interval and the deliveries alone, and the bound only
cuts the schedule off. A wait that a reply has ended therefore ends in the same way, at the
same moment and after the same requests, however much longer it would have gone on. A wait
that was overdue has sent what the longer one sends by the shorter bound.
-/

import Trickle.Proofs.ReceiptWait

namespace Trickle.Rpc

namespace Wait

/-! ### One schedule for all bounds -/

section Schedule

variable (wait : Wait) (deliveries : Nat → TimedDelivery) (bound : Nat)

/-- The same wait with another bound. -/
def withBound : Wait :=
  { wait with patience := { wait.patience with bound := bound } }

theorem due_withBound (index : Nat) : (wait.withBound bound).due index = wait.due index := rfl

theorem sentAt_withBound (index : Nat) :
    (wait.withBound bound).sentAt deliveries index = wait.sentAt deliveries index := by
  induction index with
  | zero => rfl
  | succ index inductionHypothesis =>
    rw [sentAt, sentAt, inductionHypothesis, due_withBound]

theorem comesAt_withBound (index : Nat) :
    (wait.withBound bound).comesAt deliveries index = wait.comesAt deliveries index := by
  rw [comesAt, comesAt, sentAt_withBound]

theorem requests_withBound (count : Nat) :
    (wait.withBound bound).requests deliveries count = wait.requests deliveries count := by
  refine List.map_congr_left fun index _ => ?_
  rw [sentAt_withBound]
  rfl

/-- More requests of the schedule are the first ones and those behind them. -/
theorem requests_add (count more : Nat) :
    wait.requests deliveries (count + more) = wait.requests deliveries count ++
      (List.range more).map fun index =>
        (wait.sentAt deliveries (count + index), .ofQuestion (.receipt wait.hash)) := by
  rw [requests, List.range_add, List.map_append, List.map_map]
  rfl

variable {bound}

theorem deadline_le_withBound (within : wait.patience.bound ≤ bound) :
    wait.deadline ≤ (wait.withBound bound).deadline :=
  Nat.add_le_add_left within _

end Schedule

/-! ### Two waits side by side -/

section Endings

variable {wait : Wait} {deliveries : Nat → TimedDelivery} {bound count now count' now' : Nat}
  {result result' : Except Breakdown (Except Fault Receipt)}

/-- The reply that ends a wait ends it with a longer bound too. -/
theorem Ending.eq_of_not_overdue (ending : wait.Ending deliveries count now result)
    (extended : (wait.withBound bound).Ending deliveries count' now' result')
    (within : wait.patience.bound ≤ bound) (decided : result ≠ wait.overdue) :
    result' = result ∧ now' = now ∧ count' = count := by
  obtain ⟨index, pending, said, inTime, rfl, rfl⟩ | ⟨_, _, overdue⟩ := ending.decided_or_silent
  · have stillInTime : (wait.withBound bound).comesAt deliveries index ≤
        (wait.withBound bound).deadline := by
      rw [comesAt_withBound]
      exact inTime.trans (wait.deadline_le_withBound within)
    obtain ⟨sameResult, sameTime, sameCount⟩ := extended.eq_of_said pending said stillInTime
    exact ⟨sameResult, sameTime.trans (wait.comesAt_withBound deliveries bound index), sameCount⟩
  · exact absurd overdue decided

/-- A request that was sent is sent with a longer bound too. -/
theorem Ending.count_le_of_longer (ending : wait.Ending deliveries count now result)
    (extended : (wait.withBound bound).Ending deliveries count' now' result')
    (within : wait.patience.bound ≤ bound) : count ≤ count' := by
  refine Nat.le_of_not_lt fun fewer => ?_
  obtain ⟨sent, pending⟩ := (ending.lt_count_iff count').mp fewer
  refine Nat.lt_irrefl count' ((extended.lt_count_iff count').mpr ⟨?_, pending⟩)
  rw [sentAt_withBound]
  exact sent.trans (wait.deadline_le_withBound within)

/-- A request that only the longer bound leaves time for is sent behind the shorter one: nothing
but the bound has kept it back. -/
theorem Ending.deadline_lt_sentAt (ending : wait.Ending deliveries count now result)
    (extended : (wait.withBound bound).Ending deliveries count' now' result') {index : Nat}
    (unsent : count ≤ index) (sent : index < count') :
    wait.deadline < wait.sentAt deliveries index := by
  obtain ⟨_, pending⟩ := (extended.lt_count_iff index).mp sent
  refine Nat.lt_of_not_le fun early => ?_
  exact Nat.not_lt_of_le unsent ((ending.lt_count_iff index).mpr ⟨early, pending⟩)

theorem Ending.sent_by_deadline (ending : wait.Ending deliveries count now result)
    {request : Nat × Request} (sent : request ∈ wait.requests deliveries count) :
    request.1 ≤ wait.deadline := by
  obtain ⟨index, isIndex, rfl⟩ := List.mem_map.mp sent
  exact ((ending.lt_count_iff index).mp (List.mem_range.mp isIndex)).1

/-- The requests of the longer wait are those of the shorter one, and requests sent behind the
shorter bound. -/
theorem Ending.exists_later (ending : wait.Ending deliveries count now result)
    (extended : (wait.withBound bound).Ending deliveries count' now' result')
    (within : wait.patience.bound ≤ bound) :
    ∃ later, wait.requests deliveries count' = wait.requests deliveries count ++ later ∧
      ∀ request ∈ later, wait.deadline < request.1 := by
  obtain ⟨more, rfl⟩ := Nat.exists_eq_add_of_le (ending.count_le_of_longer extended within)
  refine ⟨_, wait.requests_add deliveries count more, fun request isLater => ?_⟩
  obtain ⟨index, isIndex, rfl⟩ := List.mem_map.mp isLater
  exact ending.deadline_lt_sentAt extended (Nat.le_add_right _ _)
    (Nat.add_lt_add_left (List.mem_range.mp isIndex) _)

end Endings

end Wait

/-- On a line whose deliveries take any time, a wait that ends by a reply, be it a receipt or not,
ends with a longer bound in the same way, at the same time and after the same requests, each sent
when it was. However a wait ends, and so also if it is overdue, its requests are those that the
longer wait sends by the shorter bound; all others the longer one sends are sent later. -/
theorem longer_bound_keeps_what_was_awaited (patience : Patience)
    (positive : 0 < patience.interval) (hash : TransactionHash) (start : Nat)
    (deliveries : Nat → TimedDelivery) (longer : Nat) (within : patience.bound ≤ longer) :
    let waited := (awaitReceipt patience hash).play (timedLine deliveries) ⟨start, []⟩
    let extended := (awaitReceipt { patience with bound := longer } hash).play
      (timedLine deliveries) ⟨start, []⟩
    let deadline := start + patience.bound
    (waited.result ≠ .ok (.error (.ofCause (.receiptTimeout hash patience.bound))) →
      extended.result = waited.result ∧ extended.state.now = waited.state.now ∧
        extended.state.sent = waited.state.sent) ∧
    ∃ later, extended.state.sent = waited.state.sent ++ later ∧
      (∀ request ∈ waited.state.sent, request.1 ≤ deadline) ∧
      ∀ request ∈ later, deadline < request.1 := by
  intro waited extended deadline
  let wait : Wait := ⟨hash, patience, start, positive⟩
  obtain ⟨count, sent, ending⟩ : wait.Ended deliveries waited := ended_awaitReceipt wait deliveries
  obtain ⟨count', sent', ending'⟩ : (wait.withBound longer).Ended deliveries extended :=
    ended_awaitReceipt (wait.withBound longer) deliveries
  rw [Wait.requests_withBound] at sent'
  refine ⟨fun decided => ?_, ?_⟩
  · obtain ⟨result, now, rfl⟩ := ending.eq_of_not_overdue ending' within decided
    exact ⟨result, now, sent'.trans sent.symm⟩
  · obtain ⟨later, split, behind⟩ := ending.exists_later ending' within
    rw [sent, sent']
    exact ⟨later, split, fun request isSent => ending.sent_by_deadline isSent, behind⟩

/-- A reply that comes exactly at the bound is what a wait with more than twice the bound ends
with too. -/
theorem closed_at_bound_and_before :
    let patience : Patience := ⟨200, 100⟩
    let waited := (awaitReceipt patience ⟨7⟩).play (timedLine nullThenClosed) ⟨1000, []⟩
    let extended := (awaitReceipt { patience with bound := 500 } ⟨7⟩).play
      (timedLine nullThenClosed) ⟨1000, []⟩
    0 < patience.interval ∧ patience.bound ≤ 500 ∧
      waited.result ≠ .ok (.error (.ofCause (.receiptTimeout ⟨7⟩ patience.bound))) ∧
      extended.result = .ok (.error (.ofCause (.transport "connection closed"))) ∧
      extended.state.now = 1200 ∧ extended.state.sent = waited.state.sent := by
  intro patience waited extended
  have positive : 0 < patience.interval := by decide
  have within : patience.bound ≤ 500 := by decide
  let wait : Wait := ⟨⟨7⟩, patience, 1000, positive⟩
  obtain ⟨_, _, ending⟩ : wait.Ended nullThenClosed waited :=
    ended_awaitReceipt wait nullThenClosed
  have null : (verdict? (nullThenClosed 0).delivery).isNone = true := by decide +kernel
  have pending : Wait.PendingBefore nullThenClosed 1 := fun earlier before => by
    obtain rfl := Nat.lt_one_iff.mp before
    exact Option.isNone_iff_eq_none.mp null
  obtain ⟨result, now, _⟩ := ending.eq_of_said pending rfl (Nat.le_refl 1200)
  have decided : waited.result ≠ .ok (.error (.ofCause (.receiptTimeout ⟨7⟩ patience.bound))) := by
    rw [result]
    exact nofun
  obtain ⟨sameResult, sameTime, sameRequests⟩ :=
    (longer_bound_keeps_what_was_awaited patience positive ⟨7⟩ 1000 nullThenClosed 500 within).1
      decided
  exact ⟨positive, within, decided, sameResult.trans result, sameTime.trans now, sameRequests⟩

end Trickle.Rpc
