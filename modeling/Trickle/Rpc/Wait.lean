/-
This file waits for a receipt. The node is asked at fixed times, counted from the start
of the wait; a reply that took longer than an interval makes the next questions follow
at once until the schedule is caught up with. The first reply other than null ends the
wait, and so does the bound. A question due, or a reply arriving, exactly at the bound
still counts.
-/

import Trickle.Breakdown
import Trickle.Rpc.Receipt
import Trickle.Rpc.Wire

namespace Trickle.Rpc

/-- How receipts are waited for, in milliseconds. -/
structure Patience where
  bound : Nat
  interval : Nat
  deriving DecidableEq, Repr

/-- A dialogue that may break down, and otherwise ends with a value or a fault. -/
abbrev Exchange (Value : Type) := Dialogue Wire (Except Breakdown (Except Fault Value))

/-- What a reply says about a receipt; none means that the payment is pending. -/
def receiptOf : Reply → Except Breakdown (Except Fault (Option Receipt))
  | .result _ .null => .ok (.ok none)
  | .result source value =>
    match receipt? value with
    | some receipt => .ok (.ok (some receipt))
    | none => .ok (.error (faultOf source (some value)))
  | .fault fault => .ok (.error fault)
  | .batch _ => .error .batchReply

/-- A wait that has begun. -/
structure Wait where
  hash : TransactionHash
  patience : Patience
  start : Nat
  positive : 0 < patience.interval

namespace Wait

/-- When the wait ends without a receipt. -/
def deadline (wait : Wait) : Nat :=
  wait.start + wait.patience.bound

/-- When a question is due. -/
def due (wait : Wait) (index : Nat) : Nat :=
  wait.start + index * wait.patience.interval

theorem due_lt_due_succ (wait : Wait) (index : Nat) : wait.due index < wait.due (index + 1) := by
  have step : (index + 1) * wait.patience.interval =
      index * wait.patience.interval + wait.patience.interval := Nat.succ_mul _ _
  have positive := wait.positive
  unfold due
  omega

/-- How a wait ends that ran out of time. -/
def overdue (wait : Wait) : Except Breakdown (Except Fault Receipt) :=
  .ok (.error (.ofCause (.receiptTimeout wait.hash wait.patience.bound)))

/-- Asks from the question with an index on. Every question is due later than the one before, so
that at last one is not due by the deadline any more. -/
def poll (wait : Wait) (index : Nat) : Exchange Receipt :=
  if wait.due index ≤ wait.deadline then
    (Wire.sleepUntil (wait.due index)).andThen fun _ =>
      (Wire.exchangeBy wait.deadline (.ofQuestion (.receipt wait.hash))).andThen fun
        | none => .done wait.overdue
        | some delivery =>
          match receiptOf (.ofDelivery delivery) with
          | .error breakdown => .done (.error breakdown)
          | .ok (.error fault) => .done (.ok (.error fault))
          | .ok (.ok (some receipt)) => .done (.ok (.ok receipt))
          | .ok (.ok none) => .note (.pending wait.hash) (poll wait (index + 1))
  else (Wire.sleepUntil wait.deadline).andThen fun _ => .done wait.overdue
termination_by wait.deadline + 1 - wait.due index
decreasing_by
  have later := wait.due_lt_due_succ index
  omega

end Wait

/-- Waits for a receipt. -/
def awaitReceipt (patience : Patience) (hash : TransactionHash) : Exchange Receipt :=
  if positive : 0 < patience.interval then
    Wire.clock.andThen fun start => Wait.poll ⟨hash, patience, start, positive⟩ 0
  else .done (.error .zeroPollInterval)

end Trickle.Rpc
