/-
This file fixes what the program writes to its log: every kind of event with the facts
it shows, its level and its wording.
-/

import Trickle.AddressFile.Entry
import Trickle.Ether
import Trickle.Report

namespace Trickle

/-- How much an event matters. -/
inductive Level where
  | error
  | warning
  | info
  | debug
  deriving DecidableEq, Repr

/-- Whether events of a level are shown. -/
def Level.isShown : Level → Bool
  | .debug => false
  | _ => true

/-- The name of a level. -/
def Level.name : Level → String
  | .error => "ERROR"
  | .warning => "WARN"
  | .info => "INFO"
  | .debug => "DEBUG"

/-- Something the program writes to its log. -/
inductive Event where
  | connected (url : String) (chainId : BitVec 64)
  | loaded (rows : Nat) (path : String)
  | noRows
  | malformedRow (error : EntryError)
  | unfunded (address : Address)
  | accountState (sender : Address) (balance : Wei) (nonce : BitVec 64)
  | pending (hash : TransactionHash)
  | transferred (amount : Wei) (report : Report)
  | gasSpent (report : Report)
  | reverted (report : Report)
  | receiptOverdue (recipient : Address) (fault : Fault)
  | attemptFailed (recipient : Address) (failure : TransferFailure)
  | finished (summary : Summary)
  deriving DecidableEq, Repr

namespace Event

/-- The level of an event. -/
def level : Event → Level
  | .connected .. | .loaded .. | .unfunded _ | .accountState .. | .transferred .. | .finished _ =>
    .info
  | .noRows | .malformedRow _ => .warning
  | .pending _ | .gasSpent _ => .debug
  | .reverted _ | .receiptOverdue .. | .attemptFailed .. => .error

/-- The wording of an event. -/
def text : Event → String
  | .connected url chainId => s!"Connected to {url} (chain id {chainId.toNat})"
  | .loaded rows path => s!"Loaded {rows} rows from {path}"
  | .noRows => "Address file has no data rows, nothing to do"
  | .malformedRow error => s!"Skipping malformed row: {error.message}"
  | .unfunded address => s!"Balance for address {address.checksum} is 0, skipping transfer."
  | .accountState sender balance nonce =>
    s!"Current balance of {sender.checksum}: {Ether.text balance} ETH, nonce: {nonce.toNat}"
  | .pending hash => s!"Transaction {hash.text} pending"
  | .transferred amount report =>
    s!"Transferred {Ether.text amount} ETH to {report.recipient.checksum}. " ++
      s!"Txn Hash: {report.hash.text}, Transfer fee: {Ether.text report.fees.transferFee} ETH"
  | .gasSpent report =>
    s!"Gas used: {report.gasUsed.toNat}, gas fee: {report.fees.gasFee.toNat} wei, " ++
      s!"base fee: {report.fees.baseFee.toNat} wei"
  | .reverted report =>
    s!"Transfer to {report.recipient.checksum} reverted. " ++
      s!"Txn Hash: {report.hash.text}, Transfer fee: {Ether.text report.fees.transferFee} ETH"
  | .receiptOverdue recipient fault =>
    s!"RPC call timed out for address {recipient.checksum}: {fault.text}"
  | .attemptFailed recipient failure =>
    s!"Error transferring ETH to {recipient.checksum}: {failure.text}"
  | .finished summary =>
    s!"Processed {summary.rows} rows: {summary.transferred} transferred, " ++
      s!"{summary.failed} failed ({summary.timedOut} timed out), {summary.skipped} skipped, " ++
      s!"{summary.malformed} malformed. Spent {Ether.text summary.totalFee} ETH"

end Event

end Trickle
