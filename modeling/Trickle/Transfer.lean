/-
This file attempts one payment. The six questions of an attempt are asked in a fixed
order and each at most once; the first fault ends the attempt, and which step it came
from decides how the attempt is said to have failed. Only a wait that ran out of time
counts as timed out. The account's balance is asked for and written to the log, and
decides nothing. A payment that cannot be signed is no fault: the program breaks down
over it, with four questions asked and nothing sent.
-/

import Trickle.Chain

namespace Trickle

/-- Who pays, with which key. -/
structure Payer where
  key : PrivateKey
  sender : Address
  deriving DecidableEq

/-- What every attempt of a run has in common. -/
structure Plan where
  payer : Payer
  amount : Wei
  chainId : BitVec 64
  deriving DecidableEq

namespace Transfer

/-- A dialogue with the chain that may fail or break down. -/
abbrev Step := ExceptT TransferFailure (ExceptT Breakdown (Dialogue Chain))

/-- Asks a question; a fault ends the attempt as `failure` says. -/
def require (failure : Fault → TransferFailure) (question : ChainQuestion) : Step question.Value :=
  ExceptT.mk <| ExceptT.mk <| (@Dialogue.query Chain question).andThen fun
    | .ok value => .done (.ok (.ok value))
    | .error fault => .done (.ok (.error (failure fault)))

/-- Writes an event. -/
def write (event : Event) : Step Unit :=
  ExceptT.lift (ExceptT.lift (Dialogue.write event))

/-- Signs a payment. -/
def sign (payment : Payment) (key : PrivateKey) : Step SignedTransaction :=
  ExceptT.lift (ExceptT.mk (.done (payment.sign key)))

/-- How a fault in the wait for the receipt is to be called. -/
def receiptFailure (fault : Fault) : TransferFailure :=
  if fault.isReceiptTimeout then .timeout fault else .submission fault

/-- Pays one account, and waits until the payment is in the chain. -/
def pay (plan : Plan) (recipient : Address) : Step Report := do
  let sender := plan.payer.sender
  let gasPrice ← require .estimation .gasPrice
  let gasLimit ← require .estimation (.transferGas sender recipient plan.amount)
  let nonce ← require .other (.transactionCount sender)
  let balance ← require .other (.balance sender)
  write (.accountState sender balance nonce)
  let payment : Payment :=
    { recipient := recipient, amount := plan.amount, gasLimit := gasLimit, gasPrice := gasPrice,
      nonce := nonce, chainId := plan.chainId }
  let transaction ← sign payment plan.payer.key
  let hash ← require .submission (.send transaction)
  let receipt ← require receiptFailure (.receipt hash)
  return {
    recipient := recipient
    hash := hash
    gasUsed := receipt.gasUsed
    fees := Fees.of receipt.gasUsed gasPrice plan.amount
    succeeded := receipt.succeeded }

/-- The events that tell how an attempt ended. -/
def closing (plan : Plan) (recipient : Address) : Except TransferFailure Report → List Event
  | .ok report =>
    if report.succeeded then [.transferred plan.amount report, .gasSpent report]
    else [.reverted report]
  | .error (.timeout fault) => [.receiptOverdue recipient fault]
  | .error failure => [.attemptFailed recipient failure]

/-- Writes events in order. -/
def writeAll {protocol : Protocol} {Result : Type} (result : Result) :
    List Event → Dialogue protocol Result
  | [] => .done result
  | event :: rest => .note event (writeAll result rest)

/-- Attempts to pay one account, and writes to the log how it ended. -/
def attempt (plan : Plan) (recipient : Address) :
    Dialogue Chain (Except Breakdown (Except TransferFailure Report)) :=
  (pay plan recipient).run.run.andThen fun
    | .ok result => writeAll (.ok result) (closing plan recipient result)
    | .error breakdown => .done (.error breakdown)

end Transfer

end Trickle
