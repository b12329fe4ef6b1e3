/-
This file takes the settings from a document. Known keys are looked at in the order of
the document, and the first whose value is of the wrong type is reported; only when
there is none does it matter which of the required keys are missing. Unknown keys are
passed over.
-/

import Trickle.Settings
import Trickle.Toml.Document
import Trickle.Toml.Shape

namespace Trickle

/-- What a setting holds. -/
inductive SettingKind where
  | text
  | count
  deriving DecidableEq, Repr

/-- The wording of a kind. -/
def SettingKind.wording : SettingKind → String
  | .text => "a string"
  | .count => "u64"

/-- Why a text does not hold settings. -/
inductive DocumentError where
  | notADocument
  | wrongType (found : Toml.Shape) (expected : SettingKind)
  /-- A number below zero where a count is expected. -/
  | negative (value : Int)
  | missing (name : String)
  deriving DecidableEq, Repr

/-- The wording of an error. -/
def DocumentError.message : DocumentError → String
  | .notADocument => "not a settings document"
  | .wrongType found expected => s!"invalid type: {found.wording}, expected {expected.wording}"
  | .negative value =>
    s!"invalid value: {(Toml.Shape.integer value).wording}, expected {SettingKind.count.wording}"
  | .missing name => s!"missing field `{name}`"

namespace Settings

/-- The settings that a document has given so far. -/
structure Given where
  rpcUrl : Option String
  addressesPath : Option String
  transferAmount : Option String
  chainId : Option Nat
  receiptTimeoutSeconds : Option Nat
  pollIntervalMilliseconds : Option Nat
  deriving DecidableEq, Repr

/-- Nothing given. -/
def Given.empty : Given :=
  { rpcUrl := none, addressesPath := none, transferAmount := none, chainId := none,
    receiptTimeoutSeconds := none, pollIntervalMilliseconds := none }

/-- The text that a node holds. -/
def textOf (node : Toml.Node) : Except DocumentError String :=
  match node.shape with
  | .text value => .ok value
  | shape => .error (.wrongType shape .text)

/-- The count that a node holds. -/
def countOf (node : Toml.Node) : Except DocumentError Nat :=
  match node.shape with
  | .integer value => if value < 0 then .error (.negative value) else .ok value.toNat
  | shape => .error (.wrongType shape .count)

/-- Takes note of one entry. -/
def Given.add (given : Given) (entry : String × Toml.Node) : Except DocumentError Given :=
  let (key, node) := entry
  if key = "RPC_URL" then
    (textOf node).map fun value => { given with rpcUrl := some value }
  else if key = "ADDRESSES_FILE_PATH" then
    (textOf node).map fun value => { given with addressesPath := some value }
  else if key = "TRANSFER_AMOUNT" then
    (textOf node).map fun value => { given with transferAmount := some value }
  else if key = "CHAIN_ID" then
    (countOf node).map fun value => { given with chainId := some value }
  else if key = "RECEIPT_TIMEOUT_SECS" then
    (countOf node).map fun value => { given with receiptTimeoutSeconds := some value }
  else if key = "RECEIPT_POLL_INTERVAL_MS" then
    (countOf node).map fun value => { given with pollIntervalMilliseconds := some value }
  else .ok given

/-- The settings, with defaults for what was not given and may be left out. -/
def Given.complete (given : Given) : Except DocumentError Settings :=
  match given.rpcUrl, given.addressesPath with
  | none, _ => .error (.missing "RPC_URL")
  | some _, none => .error (.missing "ADDRESSES_FILE_PATH")
  | some rpcUrl, some addressesPath =>
    .ok {
      rpcUrl := rpcUrl
      addressesPath := addressesPath
      transferAmount := given.transferAmount.getD defaultTransferAmount
      chainId := given.chainId.map (BitVec.ofNat 64)
      receiptTimeoutSeconds := given.receiptTimeoutSeconds.getD defaultReceiptTimeoutSeconds
      pollIntervalMilliseconds :=
        given.pollIntervalMilliseconds.getD defaultPollIntervalMilliseconds }

/-- The settings that the entries of a document give. -/
def ofEntries (entries : Toml.Entries) : Except DocumentError Settings := do
  (← entries.foldlM Given.add Given.empty).complete

/-- The settings that a text holds. -/
def read (text : String) : Except DocumentError Settings :=
  match Toml.read? text.toList with
  | none => .error .notADocument
  | some entries => ofEntries entries

end Settings

end Trickle
