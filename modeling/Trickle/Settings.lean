/-
This file fixes the settings of the program and when they are usable: the receipt must
be asked for at intervals above zero, and the amount to send has to be readable. The
amount is kept as it was written.
-/

import Trickle.Ether

namespace Trickle

/-- The settings. -/
structure Settings where
  rpcUrl : String
  addressesPath : String
  /-- The amount sent to every funded account, in ether. -/
  transferAmount : String
  /-- The chain the node has to be on, if that matters. -/
  chainId : Option (BitVec 64)
  receiptTimeoutSeconds : Nat
  pollIntervalMilliseconds : Nat
  deriving DecidableEq, Repr

/-- Why settings are not usable. -/
inductive SettingsProblem where
  | zeroPollInterval
  | badAmount (text : String) (error : Ether.AmountError)
  deriving DecidableEq, Repr

/-- The wording of a problem. -/
def SettingsProblem.message : SettingsProblem → String
  | .zeroPollInterval => "RECEIPT_POLL_INTERVAL_MS must be greater than zero"
  | .badAmount text error => s!"Invalid TRANSFER_AMOUNT '{text}': {error.message}"

/-- Whether a problem is none that can be reported: the program breaks down over it. -/
def SettingsProblem.isBreakdown : SettingsProblem → Bool
  | .zeroPollInterval => false
  | .badAmount _ error => error.isBreakdown

namespace Settings

/-- What is sent when the settings name no amount: ten of the smallest unit. -/
def defaultTransferAmount : String := "0.00000000000000001"

/-- How long a receipt is waited for when the settings do not say. -/
def defaultReceiptTimeoutSeconds : Nat := 120

/-- How often a receipt is asked for when the settings do not say. -/
def defaultPollIntervalMilliseconds : Nat := 100

/-- The amount to send. -/
def amount (settings : Settings) : Except SettingsProblem Wei :=
  match Ether.read settings.transferAmount with
  | .ok amount => .ok amount
  | .error error => .error (.badAmount settings.transferAmount error)

/-- Says whether the settings are usable. -/
def validate (settings : Settings) : Except SettingsProblem Unit :=
  if settings.pollIntervalMilliseconds = 0 then .error .zeroPollInterval
  else settings.amount.map fun _ => ()

end Settings

end Trickle
