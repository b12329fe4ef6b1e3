/-
This file reads receipts. Only the gas used and the outcome are kept, but all members a
receipt has to have are checked, and so are those it may have. Some members are read in
their place; all others, known or not, are put aside first, for which they have to be
sound. The outcome is a truth value, its word or its quantity; the hash that very old
receipts carry in its place counts as success.
-/

import Trickle.Chain
import Trickle.Rpc.Quantity
import Trickle.Rpc.Record

namespace Trickle.Rpc

open Trickle.Json (Value Member)

/-- Bounds of the quantities. -/
def word64 : Nat := Nat.pow 2 64
def word128 : Nat := Nat.pow 2 128
def word256 : Nat := Nat.pow 2 256

/-- Whether a value names one of the known kinds of transaction. -/
def isKind : Value → Bool
  | .text (some name) =>
    ["0x0", "0x1", "0x2", "0x3", "0x4", "0x00", "0x01", "0x02", "0x03", "0x04"].contains name
  | value => (value.natural? 5).isSome

/-- The outcome that a value tells. -/
def outcome? : Value → Option Bool
  | .boolean succeeded => some succeeded
  | .text (some "true") | .text (some "0x1") => some true
  | .text (some "false") | .text (some "0x0") | .text (some "0x") => some false
  | value => (storedBytes? 32 value).map fun _ => true

/-- A value of which only a property matters. -/
def checked? (holds : Value → Bool) (value : Value) : Option Unit :=
  if holds value then some () else none

/-- Reads a list of values. -/
def listOf? {Result : Type} (read? : Value → Option Result) (value : Value) :
    Option (List Result) := do
  (← value.list?).mapM read?

/-- Checks the topics of a log entry, of which there are at most four. -/
def topics? (value : Value) : Option Unit := do
  let topics ← listOf? (storedBytes? 32) value
  if topics.length ≤ 4 then some () else none

/-- Checks a log entry. -/
def logEntry? (value : Value) : Option Unit := do
  let members ← members? value
  let _ ← required? (storedBytes? 20) "address" members
  let _ ← required? topics? "topics" members
  let _ ← required? (checked? isByteString) "data" members
  let _ ← optional? (storedBytes? 32) "blockHash" members
  let _ ← nullable? (quantity? word64) "blockNumber" members
  let _ ← optional? (quantity? word64) "blockTimestamp" members
  let _ ← optional? (storedBytes? 32) "transactionHash" members
  let _ ← nullable? (quantity? word64) "transactionIndex" members
  let _ ← nullable? (quantity? word64) "logIndex" members
  match ← lookup? "removed" members with
  | none => some ()
  | some member => (member.value.boolean?).map fun _ => ()

/-- Whether a number tells which of two keys signed, in any of the ways in use: by itself, moved by
twenty-seven, or together with a chain id. -/
def isRecovery (number : Nat) : Bool :=
  number = 0 || number = 1 || number = 27 || number = 28 || 35 ≤ number

/-- Checks all members of a name, and says whether there are any. -/
def each? (holds : Value → Bool) (name : String) (members : List (Member Value)) : Option Bool :=
  let named := members.filter (·.name = some name)
  if named.all fun member => holds member.value then some !named.isEmpty else none

/-- Checks a signature. Its members may be repeated. -/
def signature? (members : List (Member Value)) : Option Unit := do
  let hasV ← each? (fun value => (quantity? word64 value).any isRecovery) "v" members
  let hasParity ← each? (fun value => (quantity? 2 value).isSome) "yParity" members
  let hasR ← each? (fun value => (quantity? word256 value).isSome) "r" members
  let hasS ← each? (fun value => (quantity? word256 value).isSome) "s" members
  if (hasV ∨ hasParity) ∧ hasR ∧ hasS then some () else none

/-- Checks an authorization that a transaction carries. -/
def authorization? (value : Value) : Option Unit := do
  let members ← members? value
  let _ ← required? (quantity? word64) "chainId" members
  let _ ← required? (storedBytes? 20) "address" members
  let _ ← required? (quantity? word64) "nonce" members
  signature? members

/-- How deep what a receipt holds may be nested. -/
def deepestMember : Nat := 126

/-- The members of a receipt that are read in their place. -/
def inPlace : List String := [
  "transactionHash", "transactionIndex", "blockHash", "blockNumber", "gasUsed",
  "effectiveGasPrice", "blobGasUsed", "blobGasPrice", "from", "to", "contractAddress", "root"]

/-- The members of a receipt. Those that are put aside have to be sound. -/
def receiptMembers? (value : Value) : Option (List (Member Value)) := do
  let members ← members? value
  let stored := members.filter fun member => !member.name.any inPlace.contains
  if Value.membersAreSound deepestMember stored then some members else none

/-- The receipt that a value is. -/
def receipt? (value : Value) : Option Receipt := do
  let members ← receiptMembers? value
  let _ ← required? (checked? isKind) "type" members
  let succeeded ← required? outcome? "status" members
  let _ ← required? (quantity? word128) "cumulativeGasUsed" members
  let _ ← required? (listOf? logEntry?) "logs" members
  let _ ← required? (storedBytes? 256) "logsBloom" members
  let _ ← required? (fixedBytes? 32) "transactionHash" members
  let gasUsed ← required? (quantity? word128) "gasUsed" members
  let _ ← required? (quantity? word128) "effectiveGasPrice" members
  let _ ← required? (fixedBytes? 20) "from" members
  let _ ← optional? (quantity? word64) "transactionIndex" members
  let _ ← optional? (fixedBytes? 32) "blockHash" members
  let _ ← optional? (quantity? word64) "blockNumber" members
  let _ ← optional? (fixedBytes? 20) "to" members
  let _ ← optional? (fixedBytes? 20) "contractAddress" members
  let _ ← optional? (quantity? word128) "blobGasUsed" members
  let _ ← optional? (quantity? word128) "blobGasPrice" members
  let _ ← optional? (fixedBytes? 32) "root" members
  let _ ← optional? (listOf? authorization?) "authorizationList" members
  some ⟨BitVec.ofNat 128 gasUsed, succeeded⟩

end Trickle.Rpc
