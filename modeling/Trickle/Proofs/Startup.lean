/-
This file proves how the program starts. Seven checks stand in a fixed order, each with
the number of questions that have been asked by then; the start is judged by the first
check that fails, and has asked exactly these questions. Only when none fails is there a
session, made of what the checks looked at.

The proof follows the start from one question to the next and keeps what has been asked
and how many checks have passed. A check of something that is not there yet passes: the
check that should have provided it comes earlier, and has failed.
-/

import Trickle.Proofs.Dialogue
import Trickle.Startup

namespace Trickle

theorem Ether.AmountError.isBreakdown_iff (error : AmountError) :
    error.isBreakdown = true ↔ error = .splitCharacter ∨ error = .signedOverflow := by
  cases error <;> simp [isBreakdown]

namespace Settings

/-! ### Settings that are held and settings that are usable -/

/-- The settings that the contents of the file hold, usable or not. -/
def held (contents : Except FileFault Bytes) : Except SettingsFault Settings :=
  match contents with
  | .error fault => .error (.unreadable fault)
  | .ok bytes =>
    match Utf8.decode? bytes with
    | none => .error (.unreadable .notText)
    | some text =>
      match read text with
      | .error error => .error (.unfit error)
      | .ok settings => .ok settings

/-- The file gives the settings it holds, if they are usable. -/
theorem ofFile_eq (contents : Except FileFault Bytes) :
    ofFile contents = match held contents with
      | .error fault => .error fault
      | .ok settings =>
        match settings.validate with
        | .error problem => .error (.unusable problem)
        | .ok () => .ok settings := by
  cases contents with
  | error fault => rfl
  | ok bytes =>
    dsimp only [ofFile, held]
    cases Utf8.decode? bytes with
    | none => rfl
    | some text =>
      dsimp only
      cases read text <;> rfl

theorem held_of_ofFile {contents : Except FileFault Bytes} {settings : Settings}
    (given : ofFile contents = .ok settings) :
    held contents = .ok settings ∧ settings.validate = .ok () := by
  rw [ofFile_eq] at given
  cases isHeld : held contents with
  | error fault =>
    rw [isHeld] at given
    exact nomatch given
  | ok other =>
    simp only [isHeld] at given
    cases usable : other.validate with
    | error problem =>
      rw [usable] at given
      exact nomatch given
    | ok _ =>
      rw [usable] at given
      obtain rfl := Except.ok.inj given
      exact ⟨rfl, usable⟩

/-- If the file gives no settings, it holds none or holds some that are not usable. -/
theorem held_of_ofFile_eq_error {contents : Except FileFault Bytes} {fault : SettingsFault}
    (refused : ofFile contents = .error fault) :
    held contents = .error fault ∨
      ∃ settings problem, held contents = .ok settings ∧ settings.validate = .error problem ∧
        fault = .unusable problem := by
  rw [ofFile_eq] at refused
  cases isHeld : held contents with
  | error other =>
    rw [isHeld] at refused
    exact .inl (congrArg _ (Except.error.inj refused))
  | ok settings =>
    simp only [isHeld] at refused
    cases usable : settings.validate with
    | ok _ =>
      rw [usable] at refused
      exact nomatch refused
    | error problem =>
      rw [usable] at refused
      exact .inr ⟨settings, problem, rfl, usable, (Except.error.inj refused).symm⟩

/-- Whether reading the amount of settings that have an interval breaks down: it is cut inside a
character, or it is negative and leaves the signed range when it is scaled. -/
def BreaksAmount (settings : Settings) : Prop :=
  settings.pollIntervalMilliseconds ≠ 0 ∧
    (Ether.read settings.transferAmount = .error .splitCharacter ∨
      Ether.read settings.transferAmount = .error .signedOverflow)

/-- Usable settings have an amount, so that it can be taken from them again. -/
theorem exists_amount_of_validate {settings : Settings} (usable : settings.validate = .ok ()) :
    ∃ amount, settings.amount = .ok amount := by
  unfold validate at usable
  split at usable
  · exact nomatch usable
  · cases read : settings.amount with
    | ok amount => exact ⟨amount, rfl⟩
    | error problem =>
      rw [read] at usable
      exact nomatch usable

end Settings

/-- Usable settings name no node only if its address cannot be read. -/
theorem Endpoint.read_of_ofSettings_eq_error {settings : Settings} {error : EndpointError}
    (usable : settings.validate = .ok ()) (refused : ofSettings settings = .error error) :
    ∃ urlError, Url.read settings.rpcUrl = .error urlError ∧
      error = .badUrl settings.rpcUrl urlError := by
  simp only [ofSettings, usable] at refused
  cases read : Url.read settings.rpcUrl with
  | error urlError =>
    rw [read] at refused
    exact ⟨urlError, rfl, (Except.error.inj refused).symm⟩
  | ok url =>
    rw [read] at refused
    exact nomatch refused

theorem Endpoint.exists_read_of_ofSettings {settings : Settings} {endpoint : Endpoint}
    (usable : settings.validate = .ok ()) (named : ofSettings settings = .ok endpoint) :
    ∃ url, Url.read settings.rpcUrl = .ok url := by
  simp only [ofSettings, usable] at named
  cases read : Url.read settings.rpcUrl with
  | error urlError =>
    rw [read] at named
    exact nomatch named
  | ok url => exact ⟨url, rfl⟩

theorem AddressFile.exists_cursor_of_ofFile {path : String} {contents : Except FileFault Bytes}
    {cursor : Cursor} (opened : ofFile path contents = .ok cursor) :
    ∃ bytes, contents = .ok bytes ∧ AddressFile.cursor bytes = .ok cursor := by
  cases contents with
  | error fault => exact nomatch opened
  | ok bytes =>
    simp only [ofFile] at opened
    cases read : AddressFile.cursor bytes with
    | error bad =>
      rw [read] at opened
      exact nomatch opened
    | ok other =>
      rw [read] at opened
      obtain rfl := Except.ok.inj opened
      exact ⟨bytes, rfl, read⟩

namespace Startup

theorem chainId_of_checkChain {expected : Option (BitVec 64)} {reported : BitVec 64}
    {checked : Unit} (passes : checkChain expected reported = .ok checked) :
    ∀ chainId ∈ expected, chainId = reported := by
  rintro chainId rfl
  by_contra other
  simp only [checkChain, if_neg other] at passes
  exact nomatch passes

/-! ### The checks -/

/-- What the surroundings answer to a start. Two of its questions are made of answers before. -/
structure Surroundings where
  settingsFile : Except FileFault Bytes
  key : Option Bytes
  sender : Option Bytes
  chainId : Endpoint → Except Fault (BitVec 64)
  addressFile : Endpoint → String → Except FileFault Bytes

/-- What a peer answers to a start, each time from the state it is left in. -/
def Surroundings.of {State : Type} (peer : Peer World State) (start : State) : Surroundings :=
  let settingsFile := peer.answer (.file Settings.path) start
  let key := peer.answer (.variable Credentials.keyName) settingsFile.2
  let sender := peer.answer (.variable Credentials.senderName) key.2
  let chainId (endpoint : Endpoint) := peer.answer (.chain endpoint .chainId) sender.2
  { settingsFile := settingsFile.1
    key := key.1
    sender := sender.1
    chainId := fun endpoint => (chainId endpoint).1
    addressFile := fun endpoint path => (peer.answer (.file path) (chainId endpoint).2).1 }

namespace Surroundings

variable (surroundings : Surroundings)

/-- The settings, if the file holds some. -/
def settings? : Option Settings :=
  (Settings.held surroundings.settingsFile).toOption

/-- The node that the settings name, if they are usable and name one. -/
def endpoint? : Option Endpoint :=
  surroundings.settings?.bind fun settings => (Endpoint.ofSettings settings).toOption

/-- The chain that the node reports, if there is a node and it does. -/
def reported? : Option (BitVec 64) :=
  surroundings.endpoint?.bind fun endpoint => (surroundings.chainId endpoint).toOption

/-- The questions of a start with their answers, as far as there is something to ask. -/
def script : List (Call World) :=
  ⟨.file Settings.path, surroundings.settingsFile⟩ ::
  ⟨.variable Credentials.keyName, surroundings.key⟩ ::
  ⟨.variable Credentials.senderName, surroundings.sender⟩ ::
  match surroundings.settings?, surroundings.endpoint? with
  | some settings, some endpoint => [
    ⟨.chain endpoint .chainId, surroundings.chainId endpoint⟩,
    ⟨.file settings.addressesPath, surroundings.addressFile endpoint settings.addressesPath⟩]
  | _, _ => []

end Surroundings

/-- The checks of a start, in order. -/
inductive Check where
  | settingsHeld
  | settingsUsable
  | payerKnown
  | nodeNamed
  | chainReported
  | chainExpected
  | addressesRead
  deriving DecidableEq, Repr

/-- The error of a result, if it is one. -/
def error? {Error Value : Type} (wrap : Error → StartupError) :
    Except Error Value → Option StartupError
  | .ok _ => none
  | .error error => some (wrap error)

namespace Check

/-- How many checks stand before. -/
def position : Check → Nat
  | .settingsHeld => 0
  | .settingsUsable => 1
  | .payerKnown => 2
  | .nodeNamed => 3
  | .chainReported => 4
  | .chainExpected => 5
  | .addressesRead => 6

/-- How many questions have been asked by then. -/
def asked : Check → Nat
  | .settingsHeld | .settingsUsable => 1
  | .payerKnown | .nodeNamed => 3
  | .chainReported | .chainExpected => 4
  | .addressesRead => 5

/-- The error that a check ends with, if what it is about is there and is not as it should be. -/
def fault? (surroundings : Surroundings) : Check → Option StartupError
  | .settingsHeld => error? .settings (Settings.held surroundings.settingsFile)
  | .settingsUsable => surroundings.settings?.bind fun settings =>
    error? (fun problem => .settings (.unusable problem)) settings.validate
  | .payerKnown =>
    error? .credentials (Credentials.ofEnvironment surroundings.key surroundings.sender)
  | .nodeNamed => surroundings.settings?.bind fun settings =>
    error? (fun error => .endpoint (.badUrl settings.rpcUrl error)) (Url.read settings.rpcUrl)
  | .chainReported => surroundings.endpoint?.bind fun endpoint =>
    error? .node (surroundings.chainId endpoint)
  | .chainExpected => do
    let settings ← surroundings.settings?
    let reported ← surroundings.reported?
    let expected ← settings.chainId
    if expected = reported then none else some (.otherChain reported expected)
  | .addressesRead => do
    let settings ← surroundings.settings?
    let endpoint ← surroundings.endpoint?
    match surroundings.addressFile endpoint settings.addressesPath with
    | .error fault => some (.addressFile settings.addressesPath fault)
    | .ok bytes => error? .addressRows (AddressFile.cursor bytes)

end Check

namespace Surroundings

variable {surroundings : Surroundings} {settings : Settings} {endpoint : Endpoint}

theorem settingsUsable_fault? (isHeld : surroundings.settings? = some settings) :
    Check.settingsUsable.fault? surroundings =
      error? (fun problem => .settings (.unusable problem)) settings.validate := by
  rw [Check.fault?, isHeld, Option.bind_some]

theorem nodeNamed_fault? (isHeld : surroundings.settings? = some settings) :
    Check.nodeNamed.fault? surroundings =
      error? (fun error => .endpoint (.badUrl settings.rpcUrl error))
        (Url.read settings.rpcUrl) := by
  rw [Check.fault?, isHeld, Option.bind_some]

theorem endpoint?_eq (isHeld : surroundings.settings? = some settings)
    (named : Endpoint.ofSettings settings = .ok endpoint) :
    surroundings.endpoint? = some endpoint := by
  rw [endpoint?, isHeld, Option.bind_some, named]
  rfl

theorem chainReported_fault? (isNamed : surroundings.endpoint? = some endpoint) :
    Check.chainReported.fault? surroundings =
      error? .node (surroundings.chainId endpoint) := by
  rw [Check.fault?, isNamed, Option.bind_some]

theorem reported?_eq (isNamed : surroundings.endpoint? = some endpoint) {reported : BitVec 64}
    (chainId : surroundings.chainId endpoint = .ok reported) :
    surroundings.reported? = some reported := by
  rw [reported?, isNamed, Option.bind_some, chainId]
  rfl

/-- The chain is as expected exactly if the program finds it so. -/
theorem chainExpected_fault? (isHeld : surroundings.settings? = some settings)
    {reported : BitVec 64} (isReported : surroundings.reported? = some reported) :
    Check.chainExpected.fault? surroundings =
      error? id (checkChain settings.chainId reported) := by
  simp only [Check.fault?, isHeld, isReported, Option.bind_eq_bind, Option.bind_some, checkChain]
  cases settings.chainId with
  | none => rfl
  | some expected =>
    simp only [Option.bind_some]
    split <;> rfl

theorem addressesRead_fault? (isHeld : surroundings.settings? = some settings)
    (isNamed : surroundings.endpoint? = some endpoint) :
    Check.addressesRead.fault? surroundings =
      error? id (AddressFile.ofFile settings.addressesPath
        (surroundings.addressFile endpoint settings.addressesPath)) := by
  simp only [Check.fault?, isHeld, isNamed, Option.bind_eq_bind, Option.bind_some,
    AddressFile.ofFile]
  cases surroundings.addressFile endpoint settings.addressesPath with
  | error fault => rfl
  | ok bytes =>
    dsimp only
    cases AddressFile.cursor bytes <;> rfl

theorem script_eq (isHeld : surroundings.settings? = some settings)
    (isNamed : surroundings.endpoint? = some endpoint) :
    surroundings.script = [
      ⟨.file Settings.path, surroundings.settingsFile⟩,
      ⟨.variable Credentials.keyName, surroundings.key⟩,
      ⟨.variable Credentials.senderName, surroundings.sender⟩,
      ⟨.chain endpoint .chainId, surroundings.chainId endpoint⟩,
      ⟨.file settings.addressesPath,
        surroundings.addressFile endpoint settings.addressesPath⟩] := by
  rw [script, isHeld, isNamed]

end Surroundings

/-! ### The verdict -/

/-- Whether the first checks pass. -/
def Passed (surroundings : Surroundings) (count : Nat) : Prop :=
  ∀ check : Check, check.position < count → check.fault? surroundings = none

theorem Passed.next {surroundings : Surroundings} (check : Check)
    (passed : Passed surroundings check.position) (sound : check.fault? surroundings = none) :
    Passed surroundings (check.position + 1) := by
  intro other below
  rcases Nat.lt_succ_iff_lt_or_eq.mp below with before | same
  · exact passed other before
  · have equal : other = check := by
      revert same
      cases other <;> cases check <;> decide
    exact equal ▸ sound

/-- Whether a session is made of what the checks looked at. -/
structure Ready (surroundings : Surroundings) (settings : Settings) (session : Session) : Prop where
  settings_eq : surroundings.settings? = some settings
  usable : settings.validate = .ok ()
  payer : Credentials.ofEnvironment surroundings.key surroundings.sender =
    .ok session.plan.payer
  amount : settings.amount = .ok session.plan.amount
  endpoint : Endpoint.ofSettings settings = .ok session.endpoint
  chainId : surroundings.chainId session.endpoint = .ok session.plan.chainId
  expected : ∀ chainId ∈ settings.chainId, chainId = session.plan.chainId
  rows : ∃ bytes,
    surroundings.addressFile session.endpoint settings.addressesPath = .ok bytes ∧
      AddressFile.cursor bytes = .ok session.cursor

/-- What comes of a start: the error of the first check that fails, or a session if all pass. -/
inductive Verdict (surroundings : Surroundings) :
    List (Call World) → Except StartupError Session → Prop where
  | refused (check : Check) (error : StartupError) (fails : check.fault? surroundings = some error)
    (passed : Passed surroundings check.position) :
    Verdict surroundings (surroundings.script.take check.asked) (.error error)
  | accepted (settings : Settings) (session : Session) (passed : Passed surroundings 7)
    (ready : Ready surroundings settings session) :
    Verdict surroundings surroundings.script (.ok session)

/-! ### Every start is judged -/

section Playing

variable {State : Type} (peer : Peer World State) (surroundings : Surroundings)

/-- What is left of a start leads to a verdict, given what has been asked so far. -/
def Continues (before : List (Call World)) (state : State) (rest : Step Session) : Prop :=
  Verdict surroundings (before ++ (rest.run.play peer state).calls)
    (rest.run.play peer state).result

variable {peer surroundings} {before : List (Call World)} {state : State}

theorem Continues.ask {question : WorldQuestion} {next : World.Answer question → Step Session}
    (continues : Continues peer surroundings
      (before ++ [⟨question, (peer.answer question state).1⟩]) (peer.answer question state).2
      (next (peer.answer question state).1)) :
    Continues peer surroundings before state (Startup.ask question >>= next) := by
  unfold Continues at continues ⊢
  rw [List.append_assoc] at continues
  exact continues

theorem Continues.require {Error Value : Type} {wrap : Error → StartupError}
    {result : Except Error Value} {next : Value → Step Session}
    (refused : ∀ error, result = .error error →
      Verdict surroundings before (.error (wrap error)))
    (continues : ∀ value, result = .ok value →
      Continues peer surroundings before state (next value)) :
    Continues peer surroundings before state (Startup.require wrap result >>= next) := by
  cases result with
  | ok value => exact continues value rfl
  | error error =>
    have verdict := refused error rfl
    rw [← List.append_nil before] at verdict
    exact verdict

theorem Continues.write {event : Event} {next : Unit → Step Session}
    (continues : Continues peer surroundings before state (next ())) :
    Continues peer surroundings before state (Startup.write event >>= next) :=
  continues

variable (peer) in
/-- The start is followed to its end, whatever is answered. -/
theorem continues_prepare (start : State) :
    Continues peer (.of peer start) [] start prepare := by
  have passed : Passed (.of peer start) 0 := fun check below => absurd below (Nat.not_lt_zero _)
  refine .ask (.require (fun fault bad => ?_) fun settings good => ?_)
  · rcases Settings.held_of_ofFile_eq_error bad with
      unheld | ⟨settings, problem, held, unusable, rfl⟩
    · exact .refused .settingsHeld _ (congrArg (error? _) unheld) passed
    · have passed := passed.next .settingsHeld (congrArg (error? _) held)
      have isHeld : (Surroundings.of peer start).settings? = some settings :=
        congrArg Except.toOption held
      have fails := (Surroundings.settingsUsable_fault? isHeld).trans
        (congrArg (error? _) unusable)
      exact .refused .settingsUsable _ fails passed
  obtain ⟨held, usable⟩ := Settings.held_of_ofFile good
  have isHeld : (Surroundings.of peer start).settings? = some settings :=
    congrArg Except.toOption held
  have passed := passed.next .settingsHeld (congrArg (error? _) held)
  have passed := passed.next .settingsUsable
    ((Surroundings.settingsUsable_fault? isHeld).trans (congrArg (error? _) usable))
  refine .ask (.ask (.require (fun error bad => ?_) fun payer payerKnown => ?_))
  · exact .refused .payerKnown _ (congrArg (error? _) bad) passed
  have passed := passed.next .payerKnown (congrArg (error? _) payerKnown)
  refine .require (fun problem bad => ?_) fun amount amountRead => ?_
  · obtain ⟨amount, read⟩ := Settings.exists_amount_of_validate usable
    rw [read] at bad
    exact nomatch bad
  refine .require (fun error bad => ?_) fun endpoint named => ?_
  · obtain ⟨urlError, unread, rfl⟩ := Endpoint.read_of_ofSettings_eq_error usable bad
    have fails := (Surroundings.nodeNamed_fault? isHeld).trans (congrArg (error? _) unread)
    exact .refused .nodeNamed _ fails passed
  obtain ⟨url, read⟩ := Endpoint.exists_read_of_ofSettings usable named
  have passed := passed.next .nodeNamed
    ((Surroundings.nodeNamed_fault? isHeld).trans (congrArg (error? _) read))
  have isNamed := Surroundings.endpoint?_eq isHeld named
  have script := Surroundings.script_eq isHeld isNamed
  refine .ask (.require (fun fault bad => ?_) fun chainId reported => .write ?_)
  · have fails := (Surroundings.chainReported_fault? isNamed).trans (congrArg (error? _) bad)
    have verdict := Verdict.refused .chainReported _ fails passed
    rw [script] at verdict
    exact verdict
  have passed := passed.next .chainReported
    ((Surroundings.chainReported_fault? isNamed).trans (congrArg (error? _) reported))
  have isReported := Surroundings.reported?_eq isNamed reported
  refine .require (fun error bad => ?_) fun _ expected => ?_
  · have fails := (Surroundings.chainExpected_fault? isHeld isReported).trans
      (congrArg (error? _) bad)
    have verdict := Verdict.refused .chainExpected _ fails passed
    rw [script] at verdict
    exact verdict
  have passed := passed.next .chainExpected
    ((Surroundings.chainExpected_fault? isHeld isReported).trans (congrArg (error? _) expected))
  refine .ask (.require (fun error bad => ?_) fun cursor rows => .write ?_)
  · have fails := (Surroundings.addressesRead_fault? isHeld isNamed).trans
      (congrArg (error? _) bad)
    have verdict := Verdict.refused .addressesRead _ fails passed
    rw [script] at verdict
    exact verdict
  have passed := passed.next .addressesRead
    ((Surroundings.addressesRead_fault? isHeld isNamed).trans (congrArg (error? _) rows))
  have verdict := Verdict.accepted settings ⟨endpoint, ⟨payer, amount, chainId⟩, cursor⟩ passed
    ⟨isHeld, usable, payerKnown, amountRead, named, reported, chainId_of_checkChain expected,
      AddressFile.exists_cursor_of_ofFile rows⟩
  rw [script] at verdict
  exact verdict

end Playing

theorem verdict_session {State : Type} (peer : Peer World State) (start : State) :
    Verdict (.of peer start) (session.play peer start).calls (session.play peer start).result :=
  continues_prepare peer start

/-- A session that is started is made of what the checks looked at. -/
theorem exists_ready {State : Type} {peer : Peer World State} {start : State} {started : Session}
    (ended : (session.play peer start).result = .ok started) :
    ∃ settings, Ready (.of peer start) settings started := by
  have verdict := verdict_session peer start
  generalize (session.play peer start).calls = calls at verdict
  rw [ended] at verdict
  cases verdict with
  | accepted settings _ _ ready => exact ⟨settings, ready⟩

/-! ### Errors that cannot be reported -/

theorem eq_of_error?_eq_some {Error Value : Type} {wrap : Error → StartupError}
    {result : Except Error Value} {error : StartupError} (found : error? wrap result = some error) :
    ∃ cause, result = .error cause ∧ error = wrap cause := by
  cases result with
  | ok value => exact nomatch found
  | error cause => exact ⟨cause, rfl, (Option.some.inj found).symm⟩

theorem isBreakdown_of_held {contents : Except FileFault Bytes} {fault : SettingsFault}
    (unheld : Settings.held contents = .error fault) : fault.isBreakdown = false := by
  unfold Settings.held at unheld
  split at unheld
  · obtain rfl := Except.error.inj unheld
    rfl
  · split at unheld
    · obtain rfl := Except.error.inj unheld
      rfl
    · split at unheld
      · obtain rfl := Except.error.inj unheld
        rfl
      · exact nomatch unheld

/-- Settings are not usable in a way that cannot be reported exactly if reading their amount breaks
down. -/
theorem isBreakdown_of_validate {settings : Settings} {problem : SettingsProblem}
    (unusable : settings.validate = .error problem) :
    problem.isBreakdown = true ↔ settings.BreaksAmount := by
  unfold Settings.validate at unusable
  split at unusable
  · rename_i zero
    obtain rfl := Except.error.inj unusable
    exact iff_of_false (by decide) fun both => both.1 zero
  · rename_i positive
    unfold Settings.amount at unusable
    cases read : Ether.read settings.transferAmount with
    | ok amount =>
      rw [read] at unusable
      exact nomatch unusable
    | error error =>
      rw [read] at unusable
      obtain rfl := Except.error.inj unusable
      unfold Settings.BreaksAmount
      rw [read, and_iff_right positive, Except.error.injEq, Except.error.injEq]
      exact error.isBreakdown_iff

/-- Whether the settings are there and reading their amount breaks down. -/
def BreaksAmount (surroundings : Surroundings) : Prop :=
  ∃ settings, surroundings.settings? = some settings ∧ settings.BreaksAmount

/-- The error of every other check can be reported. -/
theorem Check.isBreakdown_eq_false {surroundings : Surroundings} {check : Check}
    {error : StartupError} (fails : check.fault? surroundings = some error)
    (other : check ≠ .settingsUsable) : error.isBreakdown = false := by
  cases check with
  | settingsUsable => exact absurd rfl other
  | settingsHeld =>
    obtain ⟨fault, unheld, rfl⟩ := eq_of_error?_eq_some fails
    exact isBreakdown_of_held unheld
  | payerKnown =>
    obtain ⟨_, _, rfl⟩ := eq_of_error?_eq_some fails
    rfl
  | nodeNamed =>
    obtain ⟨settings, _, unread⟩ := Option.bind_eq_some_iff.mp fails
    obtain ⟨_, _, rfl⟩ := eq_of_error?_eq_some unread
    rfl
  | chainReported =>
    obtain ⟨endpoint, _, unanswered⟩ := Option.bind_eq_some_iff.mp fails
    obtain ⟨_, _, rfl⟩ := eq_of_error?_eq_some unanswered
    rfl
  | chainExpected =>
    simp only [Check.fault?, Option.bind_eq_bind, Option.bind_eq_some_iff] at fails
    obtain ⟨settings, _, reported, _, expected, _, unexpected⟩ := fails
    split at unexpected
    · exact nomatch unexpected
    · obtain rfl := Option.some.inj unexpected
      rfl
  | addressesRead =>
    simp only [Check.fault?, Option.bind_eq_bind, Option.bind_eq_some_iff] at fails
    obtain ⟨settings, _, endpoint, _, unread⟩ := fails
    split at unread
    · obtain rfl := Option.some.inj unread
      rfl
    · obtain ⟨_, _, rfl⟩ := eq_of_error?_eq_some unread
      rfl

/-- A start breaks down exactly if reading the amount of the settings does. -/
theorem Check.isBreakdown_iff {surroundings : Surroundings} {check : Check} {error : StartupError}
    (fails : check.fault? surroundings = some error) :
    error.isBreakdown = true ↔ check = .settingsUsable ∧ BreaksAmount surroundings := by
  by_cases usable : check = .settingsUsable
  · subst usable
    obtain ⟨settings, isHeld, fails⟩ := Option.bind_eq_some_iff.mp fails
    obtain ⟨problem, unusable, rfl⟩ := eq_of_error?_eq_some fails
    refine (isBreakdown_of_validate unusable).trans ⟨fun both => ⟨rfl, settings, isHeld, both⟩, ?_⟩
    rintro ⟨-, other, sameHeld, both⟩
    obtain rfl := Option.some.inj (isHeld.symm.trans sameHeld)
    exact both
  · rw [Check.isBreakdown_eq_false fails usable]
    exact iff_of_false Bool.false_ne_true fun both => usable both.1

end Startup

end Trickle
