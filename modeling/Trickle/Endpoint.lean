/-
This file takes from the settings where the node is and how receipts are waited for.
The settings have to be usable, and the address of the node has to be readable; nothing
is sent yet.
-/

import Trickle.Rpc.Wait
import Trickle.Settings
import Trickle.Url

namespace Trickle

/-- A node, and how receipts are waited for there. -/
structure Endpoint where
  url : Url
  patience : Rpc.Patience
  deriving DecidableEq, Repr

/-- Why settings name no node. -/
inductive EndpointError where
  | unusable (problem : SettingsProblem)
  | badUrl (text : String) (error : UrlError)
  deriving DecidableEq, Repr

/-- The wording of an error. -/
def EndpointError.message : EndpointError → String
  | .unusable problem => problem.message
  | .badUrl text error => s!"Invalid RPC_URL '{text}': {error.message}"

/-- Whether an error is none that can be reported. -/
def EndpointError.isBreakdown : EndpointError → Bool
  | .unusable problem => problem.isBreakdown
  | .badUrl _ _ => false

namespace Endpoint

/-- The node that settings name. -/
def ofSettings (settings : Settings) : Except EndpointError Endpoint :=
  match settings.validate with
  | .error problem => .error (.unusable problem)
  | .ok () =>
    match Url.read settings.rpcUrl with
    | .error error => .error (.badUrl settings.rpcUrl error)
    | .ok url =>
      .ok ⟨url, 1000 * settings.receiptTimeoutSeconds, settings.pollIntervalMilliseconds⟩

/-- How long an address is at most that a request can carry. -/
def longestAddress : Nat := 65534

/-- Characters of hosts that a request cannot carry. -/
def unsendable : List Char := ['"', '\x60', '\x7b', '\x7d']

/-- Whether requests can be sent to an address at all. -/
def canSendTo (url : Url) : Bool :=
  (url.scheme = "http" || url.scheme = "https") && url.host?.isSome &&
    url.text.length ≤ longestAddress &&
    url.authority.all fun authority => !authority.text.toList.any unsendable.contains

/-- The wording of a request that did not get through. The user is not told. -/
def failure (endpoint : Endpoint) : String :=
  let url := endpoint.url.withoutUser
  if canSendTo url then s!"error sending request for url ({url.text})"
  else s!"builder error for url ({url.text})"

end Endpoint

end Trickle
