/-
This file fixes what comes out of an attempt to pay one account, out of one row of the
address file, and out of a whole run.
-/

import Trickle.Fault
import Trickle.Wei

namespace Trickle

/-- A payment that is in the chain. -/
structure Report where
  recipient : Address
  hash : TransactionHash
  gasUsed : Gas
  fees : Fees
  /-- False when the payment was taken back; its fee was paid all the same. -/
  succeeded : Bool
  deriving DecidableEq, Repr

/-- Why an attempt failed, by the step that did. -/
inductive TransferFailure where
  | timeout (fault : Fault)
  | estimation (fault : Fault)
  | submission (fault : Fault)
  | other (fault : Fault)
  deriving DecidableEq, Repr

namespace TransferFailure

/-- The fault that a failure carries. -/
def fault : TransferFailure → Fault
  | .timeout fault | .estimation fault | .submission fault | .other fault => fault

/-- Whether the payment was sent but its receipt did not come in time. -/
def isTimeout : TransferFailure → Bool
  | .timeout _ => true
  | _ => false

/-- The wording of a failure. -/
def text : TransferFailure → String
  | .timeout fault => fault.text
  | .estimation fault => s!"Gas estimation failed: {fault.text}"
  | .submission fault => s!"Transaction submission failed: {fault.text}"
  | .other fault => fault.text

end TransferFailure

/-- What became of one row. -/
inductive Outcome where
  | transferred (report : Report)
  | failed (failure : TransferFailure)
  /-- The balance in the file is not above zero. -/
  | skipped
  | malformed
  deriving DecidableEq, Repr

/-- The tally of a run. -/
structure Summary where
  rows : Nat
  transferred : Nat
  failed : Nat
  /-- Failures whose receipt did not come in time; they count as failed too. -/
  timedOut : Nat
  skipped : Nat
  malformed : Nat
  totalFee : Wei
  deriving DecidableEq, Repr

namespace Summary

/-- The tally of no rows. -/
def empty : Summary :=
  { rows := 0, transferred := 0, failed := 0, timedOut := 0, skipped := 0, malformed := 0,
    totalFee := 0 }

/-- Counts one more row. -/
def record (summary : Summary) (outcome : Outcome) : Summary :=
  let counted := { summary with rows := summary.rows + 1 }
  match outcome with
  | .transferred report =>
    { counted with
      transferred := summary.transferred + 1
      totalFee := summary.totalFee + report.fees.transferFee }
  | .failed failure =>
    { counted with
      failed := summary.failed + 1
      timedOut := if failure.isTimeout then summary.timedOut + 1 else summary.timedOut }
  | .skipped => { counted with skipped := summary.skipped + 1 }
  | .malformed => { counted with malformed := summary.malformed + 1 }

end Summary

end Trickle
