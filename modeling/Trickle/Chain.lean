/-
This file fixes what the program asks of the chain, and what comes back: a value of the
kind the question asks for, or a fault.
-/

import Trickle.Dialogue
import Trickle.Transaction.Legacy

namespace Trickle

/-- What a receipt says about a payment. -/
structure Receipt where
  gasUsed : Gas
  succeeded : Bool
  deriving DecidableEq, Repr

/-- A question about the chain. -/
inductive ChainQuestion where
  | chainId
  | gasPrice
  | transferGas (sender recipient : Address) (amount : Wei)
  | transactionCount (account : Address)
  | balance (account : Address)
  | send (transaction : SignedTransaction)
  /-- Waits until the payment is in the chain. -/
  | receipt (hash : TransactionHash)
  deriving DecidableEq, Repr

/-- What a question asks for. -/
abbrev ChainQuestion.Value : ChainQuestion → Type
  | .chainId => BitVec 64
  | .gasPrice => Gas
  | .transferGas .. => BitVec 64
  | .transactionCount _ => BitVec 64
  | .balance _ => Wei
  | .send _ => TransactionHash
  | .receipt _ => Receipt

/-- Questions about the chain, each answered by a value or a fault. -/
abbrev Chain : Protocol where
  Question := ChainQuestion
  Answer question := Except Fault question.Value

end Trickle
