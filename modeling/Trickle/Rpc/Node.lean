/-
This file puts questions about the chain to a node. Each is one request, whose result
is read as what the question asks for; only the wait for a receipt takes more.
-/

import Trickle.Rpc.Wait

namespace Trickle.Rpc

open Trickle.Json (Value)

/-- What a reply says, read as a value. -/
def readAs {Result : Type} (read? : Value → Option Result) :
    Reply → Except Breakdown (Except Fault Result)
  | .result source value =>
    match read? value with
    | some result => .ok (.ok result)
    | none => .ok (.error (faultOf source (some value)))
  | .fault fault => .ok (.error fault)
  | .batch _ => .error .batchReply

/-- Asks a question whose answer is one value. -/
def ask {Result : Type} (read? : Value → Option Result) (question : ChainQuestion) :
    Exchange Result :=
  (Wire.exchange (.ofQuestion question)).andThen fun delivery =>
    .done (readAs read? (.ofDelivery delivery))

/-- Reads a quantity as a word that holds it. -/
def word? (width : Nat) (value : Value) : Option (BitVec width) :=
  (quantity? (Nat.pow 2 width) value).map (BitVec.ofNat width)

/-- Reads a hash. -/
def hash? (value : Value) : Option TransactionHash :=
  (fixedBytes? 32 value).map fun number => ⟨BitVec.ofNat 256 number⟩

/-- Puts a question to a node. -/
def carryOut (patience : Patience) :
    (question : ChainQuestion) → Exchange question.Value
  | .chainId => ask (word? 64) .chainId
  | .gasPrice => ask (word? 128) .gasPrice
  | .transferGas sender recipient amount => ask (word? 64) (.transferGas sender recipient amount)
  | .transactionCount account => ask (word? 64) (.transactionCount account)
  | .balance account => ask (word? 256) (.balance account)
  | .send transaction => ask hash? (.send transaction)
  | .receipt hash => awaitReceipt patience hash

/-- Puts all questions of a dialogue to a node. -/
def through {Result : Type} (patience : Patience) (dialogue : Dialogue Chain Result) :
    Dialogue Wire (Except Breakdown Result) :=
  dialogue.throughOrStop (carryOut patience)

end Trickle.Rpc
