/-
This file starts the program. What it needs is checked in a fixed order, and the first
check that fails ends it: the settings, who pays, where the node is, which chain the
node is on, and the address file. Of the node only its chain id is asked before all
checks are passed.
-/

import Trickle.Credentials
import Trickle.Endpoint
import Trickle.AddressFile.Rows
import Trickle.Run
import Trickle.Settings.File

namespace Trickle

/-- What the program asks of its surroundings. -/
inductive WorldQuestion where
  | file (path : String)
  | variable (name : String)
  | chain (endpoint : Endpoint) (question : ChainQuestion)
  deriving DecidableEq, Repr

/-- The surroundings of the program. -/
abbrev World : Protocol where
  Question := WorldQuestion
  Answer
    | .file _ => Except FileFault Bytes
    | .variable _ => Option Bytes
    | .chain _ question => Except Fault question.Value

/-- Why the program does not start. -/
inductive StartupError where
  | settings (fault : SettingsFault)
  | credentials (error : CredentialsError)
  | endpoint (error : EndpointError)
  | node (fault : Fault)
  | otherChain (reported expected : BitVec 64)
  | addressFile (path : String) (fault : FileFault)
  | addressRows (bad : AddressFile.BadField)
  deriving DecidableEq, Repr

namespace StartupError

/-- The wording of an error. -/
def message : StartupError → String
  | .settings fault => fault.message
  | .credentials error => error.message
  | .endpoint error => error.message
  | .node fault => fault.text
  | .otherChain reported expected =>
    s!"Node reports chain id {reported.toNat}, expected {expected.toNat}"
  | .addressFile path fault => s!"Error reading address file {path}: {fault.message}"
  | .addressRows bad => bad.message

/-- Whether an error is none that can be reported. -/
def isBreakdown : StartupError → Bool
  | .settings fault => fault.isBreakdown
  | .endpoint error => error.isBreakdown
  | _ => false

end StartupError

/-- Everything a run needs. -/
structure Session where
  endpoint : Endpoint
  plan : Plan
  cursor : Cursor

namespace AddressFile

/-- A cursor at the first row of a file that was read from a path. -/
def ofFile (path : String) (contents : Except FileFault Bytes) : Except StartupError Cursor :=
  match contents with
  | .error fault => .error (.addressFile path fault)
  | .ok bytes =>
    match cursor bytes with
    | .error bad => .error (.addressRows bad)
    | .ok cursor => .ok cursor

end AddressFile

namespace Startup

/-- A dialogue with the surroundings that may fail. -/
abbrev Step := ExceptT StartupError (Dialogue World)

/-- Asks a question. -/
def ask (question : WorldQuestion) : Step (World.Answer question) :=
  ExceptT.lift (@Dialogue.query World question)

/-- Writes an event. -/
def write (event : Event) : Step Unit :=
  ExceptT.lift (Dialogue.write event)

/-- Goes on with a value, or ends with an error. -/
def require {Error Value : Type} (wrap : Error → StartupError) (result : Except Error Value) :
    Step Value :=
  match result with
  | .ok value => pure value
  | .error error => throw (wrap error)

/-- Checks that the node is on the expected chain. -/
def checkChain (expected : Option (BitVec 64)) (reported : BitVec 64) :
    Except StartupError Unit :=
  match expected with
  | none => .ok ()
  | some chainId => if chainId = reported then .ok () else .error (.otherChain reported chainId)

/-- Makes everything ready for a run. -/
def prepare : Step Session := do
  let settings ← require .settings (Settings.ofFile (← ask (.file Settings.path)))
  let key ← ask (.variable Credentials.keyName)
  let sender ← ask (.variable Credentials.senderName)
  let payer ← require .credentials (Credentials.ofEnvironment key sender)
  let amount ← require (fun problem => .settings (.unusable problem)) settings.amount
  let endpoint ← require .endpoint (Endpoint.ofSettings settings)
  let chainId ← require .node (← ask (.chain endpoint .chainId))
  write (.connected settings.rpcUrl chainId)
  require id (checkChain settings.chainId chainId)
  let contents ← ask (.file settings.addressesPath)
  let cursor ← require id (AddressFile.ofFile settings.addressesPath contents)
  write (.loaded cursor.size settings.addressesPath)
  return ⟨endpoint, ⟨payer, amount, chainId⟩, cursor⟩

/-- Makes everything ready for a run, or says why that is not possible. -/
def session : Dialogue World (Except StartupError Session) :=
  prepare.run

end Startup

namespace Session

/-- Carries out payouts with the chain of a session. -/
def payout (session : Session) (recipient : Address) :
    Dialogue World (Except Breakdown (Except TransferFailure Report)) :=
  (Transfer.attempt session.plan recipient).through fun question =>
    @Dialogue.query World (.chain session.endpoint question)

/-- One turn of a run without a limit. -/
def turn (session : Session) (summary : Summary) : Dialogue World (Except Breakdown Run.Stand) :=
  (Run.turn none summary session.cursor).throughOrStop session.payout

end Session

end Trickle
