/-
This file says why a node did not give what it was asked for. A fault keeps its cause
even when a context is put in front of it; then only the context is shown, but what
kind of fault it is stays known.
-/

import Trickle.Address

namespace Trickle

/-- An error that a node answers with. -/
structure NodeError where
  code : Int
  message : String
  /-- What the node adds, as it wrote it. -/
  data : Option String
  deriving DecidableEq, Repr

/-- The kinds of fault. -/
inductive Cause where
  /-- The receipt did not come within the bound, which is given in milliseconds. -/
  | receiptTimeout (hash : TransactionHash) (waited : Nat)
  | nodeError (error : NodeError)
  | transport (text : String)
  | nullReply
  /-- A reply that is not what the question asks for. -/
  | unreadable (reply : String)
  | other (text : String)
  deriving DecidableEq, Repr

/-- A fault. -/
structure Fault where
  cause : Cause
  context : Option String
  deriving DecidableEq, Repr

namespace NodeError

/-- The wording of a node's error. -/
def text (error : NodeError) : String :=
  let start := s!"server returned an error response: error code {error.code}: {error.message}"
  match error.data with
  | none => start
  | some data => s!"{start}, data: {data}"

end NodeError

namespace Cause

/-- The wording of a cause. -/
def text : Cause → String
  | .receiptTimeout hash waited =>
    s!"Transaction {hash.text} is not in the chain after {waited / 1000} seconds"
  | .nodeError error => error.text
  | .transport text => text
  | .nullReply => "server returned a null response when a non-null response was expected"
  | .unreadable reply => s!"deserialization error: not the expected reply\n{reply}"
  | .other text => text

end Cause

namespace Fault

/-- A fault without a context. -/
def ofCause (cause : Cause) : Fault :=
  ⟨cause, none⟩

/-- The wording of a fault. -/
def text (fault : Fault) : String :=
  fault.context.getD fault.cause.text

/-- Whether the fault is that the receipt did not come in time. -/
def isReceiptTimeout (fault : Fault) : Bool :=
  match fault.cause with
  | .receiptTimeout _ _ => true
  | _ => false

end Fault

end Trickle
