/-
This file writes requests to a node. Every question about the chain has one request: a
method and its parameters, which carry addresses in lower case and amounts as
quantities. Questions about an account ask for its latest state.
-/

import Trickle.Chain
import Trickle.Json.Write

namespace Trickle

/-- A parameter of a request. -/
inductive Parameter where
  | text (content : String)
  | record (fields : List (String × String))
  deriving DecidableEq, Repr

/-- A request. -/
structure Request where
  method : String
  parameters : List Parameter
  deriving DecidableEq, Repr

/-- The JSON of a parameter. -/
def Parameter.json : Parameter → String
  | .text content => Json.quoted content
  | .record fields => Json.objectOf (fields.map fun (name, content) => (name, Json.quoted content))

namespace Request

/-- The word for the latest state of an account. -/
def latest : String := "latest"

/-- The request that asks a question. -/
def ofQuestion : ChainQuestion → Request
  | .chainId => ⟨"eth_chainId", []⟩
  | .gasPrice => ⟨"eth_gasPrice", []⟩
  | .transferGas sender recipient amount =>
    ⟨"eth_estimateGas", [.record [("from", sender.lowerCase), ("to", recipient.lowerCase),
      ("value", Hex.quantity amount.toNat)]]⟩
  | .transactionCount account =>
    ⟨"eth_getTransactionCount", [.text account.lowerCase, .text latest]⟩
  | .balance account => ⟨"eth_getBalance", [.text account.lowerCase, .text latest]⟩
  | .send transaction =>
    ⟨"eth_sendRawTransaction", [.text ("0x" ++ String.ofList (Hex.writeBytes transaction.raw))]⟩
  | .receipt hash => ⟨"eth_getTransactionReceipt", [.text hash.text]⟩

/-- The JSON of the parameters, if there are any. -/
def parametersJson? (request : Request) : Option String :=
  if request.parameters.isEmpty then none
  else some (Json.listOf (request.parameters.map Parameter.json))

/-- The body of a request that is sent under a number. -/
def body (request : Request) (number : Nat) : String :=
  let parameters := request.parametersJson?.toList.map fun json => ("params", json)
  Json.objectOf ([("method", Json.quoted request.method)] ++ parameters ++
    [("id", toString number), ("jsonrpc", Json.quoted "2.0")])

end Request

end Trickle
