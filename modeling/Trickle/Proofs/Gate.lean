/-
This file proves that nothing is paid before every check of the start has passed, and
that whatever is paid then is signed for the chain that was checked. Until then the node
has been asked for its chain id at most; if a check fails, the program ends with its
error and has asked nothing else. What it cannot report is an amount that cannot be read to
its end, and that the reported chain id is too large for a payment to be signed.

What a run asks is bounded for all answers at once: an attempt asks nothing but questions
that are no payment, or a payment signed for the chain of its plan, and so do a turn of a
run and any number of turns. What they can break down over is bounded the same way.
-/

import Trickle.Proofs.Payment
import Trickle.Proofs.Startup
import Trickle.Proofs.Stopping
import Trickle.Rpc.Node
import Trickle.Rpc.Retry

namespace Trickle

open Dialogue (StopsFor stopsFor_ok stopsFor_error orStop)

/-! ### What a run may ask, and over what it may break down -/

namespace Plan

/-- Whether a question is no payment, or a payment signed for the chain of a plan with its key. -/
def Permits (plan : Plan) (question : ChainQuestion) : Prop :=
  ∀ transaction, question = .send transaction →
    ∃ payment : Payment, payment.chainId = plan.chainId ∧
      payment.sign plan.payer.key = .ok transaction

/-- Whether a breakdown is that a payment cannot be signed for the chain of a plan, whose id is too
large for one parity at least. -/
def Overruns (plan : Plan) (breakdown : Breakdown) : Prop :=
  breakdown = .wideRecovery ∧ 2 ^ 64 ≤ 36 + 2 * plan.chainId.toNat

theorem overruns_of_sign {plan : Plan} {payment : Payment} {breakdown : Breakdown}
    (chainId : payment.chainId = plan.chainId)
    (unsigned : payment.sign plan.payer.key = .error breakdown) : plan.Overruns breakdown := by
  obtain ⟨unsignable, rfl⟩ := Payment.sign_eq_error_iff.mp unsigned
  refine ⟨rfl, Nat.not_lt.mp fun narrow => unsignable (Payment.signable_of_narrow ?_ _)⟩
  rwa [chainId]

end Plan

namespace Transfer

section Steps

variable {Result : Type} {allowed : ChainQuestion → Prop} {failure : Fault → TransferFailure}

theorem onlyAsks_require_bind {question : ChainQuestion} {next : question.Value → Step Result}
    (permitted : allowed question)
    (onward : ∀ value, (next value).run.run.OnlyAsks allowed) :
    (require failure question >>= next).run.run.OnlyAsks allowed := by
  rw [run_require_bind]
  refine ⟨permitted, fun answer => ?_⟩
  cases answer with
  | ok value => exact onward value
  | error fault => trivial

theorem onlyAsks_sign_bind {payment : Payment} {key : PrivateKey}
    {next : SignedTransaction → Step Result}
    (onward : ∀ transaction, payment.sign key = .ok transaction →
      (next transaction).run.run.OnlyAsks allowed) :
    (sign payment key >>= next).run.run.OnlyAsks allowed := by
  cases signed : payment.sign key with
  | ok transaction =>
    rw [run_sign_bind_of_ok signed]
    exact onward transaction signed
  | error breakdown =>
    rw [run_sign_bind_of_error signed]
    trivial

theorem onlyEnds_require_bind {overruns : Breakdown → Prop} {question : ChainQuestion}
    {next : question.Value → Step Result}
    (onward : ∀ value, (next value).run.run.OnlyEnds (StopsFor overruns)) :
    (require failure question >>= next).run.run.OnlyEnds (StopsFor overruns) := by
  rw [run_require_bind]
  intro answer
  cases answer with
  | ok value => exact onward value
  | error fault => exact stopsFor_ok _

theorem onlyEnds_sign_bind {overruns : Breakdown → Prop} {payment : Payment} {key : PrivateKey}
    {next : SignedTransaction → Step Result}
    (stops : ∀ breakdown, payment.sign key = .error breakdown → overruns breakdown)
    (onward : ∀ transaction, (next transaction).run.run.OnlyEnds (StopsFor overruns)) :
    (sign payment key >>= next).run.run.OnlyEnds (StopsFor overruns) := by
  cases signed : payment.sign key with
  | ok transaction =>
    rw [run_sign_bind_of_ok signed]
    exact onward transaction
  | error breakdown =>
    rw [run_sign_bind_of_error signed]
    exact stopsFor_error (stops breakdown signed)

theorem onlyAsks_writeAll {protocol : Protocol} (allowed : protocol.Question → Prop)
    (result : Result) (events : List Event) :
    (writeAll result events : Dialogue protocol Result).OnlyAsks allowed := by
  induction events with
  | nil => trivial
  | cons event rest inductionHypothesis => exact inductionHypothesis

theorem onlyEnds_writeAll {protocol : Protocol} {ending : Result → Prop} {result : Result}
    (ends : ending result) (events : List Event) :
    (writeAll result events : Dialogue protocol Result).OnlyEnds ending := by
  induction events with
  | nil => exact ends
  | cons event rest inductionHypothesis => exact inductionHypothesis

end Steps

section Attempts

variable (plan : Plan) (recipient : Address)

theorem onlyAsks_pay : (pay plan recipient).run.run.OnlyAsks plan.Permits := by
  refine onlyAsks_require_bind nofun fun gasPrice => ?_
  refine onlyAsks_require_bind nofun fun gasLimit => ?_
  refine onlyAsks_require_bind nofun fun nonce => ?_
  refine onlyAsks_require_bind nofun fun balance => ?_
  refine onlyAsks_sign_bind fun transaction signed => ?_
  refine onlyAsks_require_bind (fun other sent => ?_) fun hash => ?_
  · obtain rfl := ChainQuestion.send.inj sent
    exact ⟨_, rfl, signed⟩
  · exact onlyAsks_require_bind nofun fun receipt => trivial

theorem onlyEnds_pay : (pay plan recipient).run.run.OnlyEnds (StopsFor plan.Overruns) := by
  refine onlyEnds_require_bind fun gasPrice => onlyEnds_require_bind fun gasLimit => ?_
  refine onlyEnds_require_bind fun nonce => onlyEnds_require_bind fun balance => ?_
  refine onlyEnds_sign_bind (fun breakdown => Plan.overruns_of_sign rfl) fun transaction => ?_
  exact onlyEnds_require_bind fun hash => onlyEnds_require_bind fun receipt => stopsFor_ok _

/-- An attempt sends nothing but a payment signed for the chain of its plan. -/
theorem onlyAsks_attempt : (attempt plan recipient).OnlyAsks plan.Permits := by
  refine (onlyAsks_pay plan recipient).andThen fun result => ?_
  cases result with
  | ok result => exact onlyAsks_writeAll _ _ _
  | error breakdown => trivial

/-- An attempt breaks down over nothing but the chain id of its plan. -/
theorem onlyEnds_attempt : (attempt plan recipient).OnlyEnds (StopsFor plan.Overruns) := by
  refine (onlyEnds_pay plan recipient).andThen fun result ends => ?_
  cases result with
  | ok result => exact onlyEnds_writeAll (stopsFor_ok _) _
  | error breakdown => exact stopsFor_error (ends breakdown rfl)

end Attempts

end Transfer

namespace Session

/-- The first turns of a run, one after the other, until it ends or breaks down. -/
def turns : (count : Nat) → Session → Summary → Dialogue World (Except Breakdown Run.Stand)
  | 0, session, summary => .done (.ok (.going summary session.cursor))
  | count + 1, session, summary => (session.turn summary).andThen (orStop fun
    | .ended summary cursor => .done (.ok (.ended summary cursor))
    | .going summary cursor => turns count { session with cursor := cursor } summary)

/-- Whether a question is one about the chain to the node of a session that its plan permits. -/
def Permits (session : Session) (question : WorldQuestion) : Prop :=
  ∃ asked, question = .chain session.endpoint asked ∧ session.plan.Permits asked

theorem onlyAsks_payout (session : Session) (recipient : Address) :
    (session.payout recipient).OnlyAsks session.Permits :=
  (Transfer.onlyAsks_attempt session.plan recipient).through fun asked permitted =>
    ⟨⟨asked, rfl, permitted⟩, fun _ => trivial⟩

theorem onlyAsks_turn (session : Session) (summary : Summary) :
    (session.turn summary).OnlyAsks session.Permits :=
  (Dialogue.onlyAsks_true _).throughOrStop fun recipient _ => session.onlyAsks_payout recipient

theorem onlyEnds_turn (session : Session) (summary : Summary) :
    (session.turn summary).OnlyEnds (StopsFor session.plan.Overruns) :=
  .throughOrStop (fun recipient => (Transfer.onlyEnds_attempt session.plan recipient).through _) _

/-- However many turns a run takes, its session stays the same but for the cursor. -/
theorem onlyAsks_turns (count : Nat) (session : Session) (summary : Summary) :
    (session.turns count summary).OnlyAsks session.Permits := by
  induction count generalizing session summary with
  | zero => trivial
  | succ count inductionHypothesis =>
    refine (session.onlyAsks_turn summary).andThen fun result => ?_
    rcases result with breakdown | ⟨summary, cursor⟩ | ⟨summary, cursor⟩
    · trivial
    · trivial
    · exact inductionHypothesis { session with cursor := cursor } summary

theorem onlyEnds_turns (count : Nat) (session : Session) (summary : Summary) :
    (session.turns count summary).OnlyEnds (StopsFor session.plan.Overruns) := by
  induction count generalizing session summary with
  | zero => exact stopsFor_ok _
  | succ count inductionHypothesis =>
    refine (session.onlyEnds_turn summary).andThen fun result ends => ?_
    rcases result with breakdown | ⟨summary, cursor⟩ | ⟨summary, cursor⟩
    · exact stopsFor_error (ends breakdown rfl)
    · exact stopsFor_ok _
    · exact inductionHypothesis { session with cursor := cursor } summary

end Session

/-- The program, up to some number of turns of its run: it starts, and runs if it could. -/
def program (count : Nat) : Dialogue World (Except Breakdown (Except StartupError Run.Stand)) :=
  Startup.session.andThen fun
    | .error error => .done (.ok (.error error))
    | .ok session => (session.turns count Summary.empty).andThen fun result =>
      .done (result.map .ok)

/-! ### Requests for the chain id -/

/-- The request that is sent, if one is. -/
def WireQuestion.request? : WireQuestion → Option Request
  | .clock | .sleepUntil _ => none
  | .exchange request | .exchangeBy _ request => some request

/-- Whether a question to the line sends one request or none. -/
def WireQuestion.SendsOnly (request : Request) (question : WireQuestion) : Prop :=
  ∀ sent ∈ question.request?, sent = request

namespace Rpc

/-- Sending a request, however often, sends no other. -/
theorem Retry.onlyAsks_exchange (request : Request) (left : Nat) :
    (Retry.exchange request left).OnlyAsks (WireQuestion.SendsOnly request) := by
  have first : (WireQuestion.exchange request).SendsOnly request :=
    fun sent isSent => (Option.some.inj isSent).symm
  induction left with
  | zero => exact ⟨first, fun delivery => trivial⟩
  | succ left inductionHypothesis =>
    refine ⟨first, fun delivery => ?_⟩
    dsimp only [Dialogue.andThen]
    split
    · trivial
    · exact ⟨nofun, fun now => ⟨nofun, fun _ => inductionHypothesis⟩⟩

/-- The chain id is asked for by requests for the chain id alone. -/
theorem onlyAsks_chainId (patience : Patience) :
    ((carryOut patience .chainId).through Retry.carryOut).OnlyAsks
      (WireQuestion.SendsOnly (.ofQuestion .chainId)) :=
  (Retry.onlyAsks_exchange _ _).andThen fun _ => trivial

end Rpc

/-! ### The gate -/

namespace Startup

variable {State : Type} {surroundings : Surroundings}

theorem length_script {settings : Settings} {session : Session}
    (ready : Ready surroundings settings session) : surroundings.script.length = 5 := by
  rw [Surroundings.script_eq ready.settings_eq
    (Surroundings.endpoint?_eq ready.settings_eq ready.endpoint)]
  rfl

/-- Of the node only the chain id is asked, and only if the checks before have passed. -/
theorem chainId_of_mem_script {check : Check} {endpoint : Endpoint} {question : ChainQuestion}
    (asked : .chain endpoint question ∈
      (surroundings.script.take check.asked).map Call.question) :
    question = .chainId ∧ Check.chainReported.position ≤ check.position := by
  constructor
  · have inScript : .chain endpoint question ∈ surroundings.script.map Call.question := by
      rw [List.map_take] at asked
      exact List.mem_of_mem_take asked
    unfold Surroundings.script at inScript
    split at inScript
    · simp only [List.map_cons, List.map_nil, List.mem_cons, List.not_mem_nil, or_false,
        reduceCtorEq, false_or, WorldQuestion.chain.injEq] at inScript
      exact inScript.2
    · simp at inScript
  · cases check with
    | settingsHeld => simp [Surroundings.script, Check.asked] at asked
    | settingsUsable => simp [Surroundings.script, Check.asked] at asked
    | payerKnown => simp [Surroundings.script, Check.asked] at asked
    | nodeNamed => simp [Surroundings.script, Check.asked] at asked
    | _ => decide

/-- How a program is played whose start is refused: it ends with the error of the first check that
fails, and has asked what had to be asked by then. -/
structure Refusal (surroundings : Surroundings) (check : Check) (error : StartupError)
    (played : Playback World State (Except Breakdown (Except StartupError Run.Stand))) :
    Prop where
  fails : check.fault? surroundings = some error
  first : ∀ earlier : Check, earlier.position < check.position →
    earlier.fault? surroundings = none
  result : played.result = .ok (.error error)
  calls : played.calls = surroundings.script.take check.asked
  unpaid : ∀ endpoint question, .chain endpoint question ∈ played.questions →
    question = .chainId ∧ Check.chainReported.position ≤ check.position
  breakdown : error.isBreakdown = true ↔
    check = .settingsUsable ∧ BreaksAmount surroundings

/-- How a program is played whose start is accepted: it runs, and every payment it sends is signed
for the chain that the node has reported. Only if the id of this chain is too large for payments to
be signed does the run break down. -/
structure Acceptance (surroundings : Surroundings) (settings : Settings) (session : Session)
    (played : Playback World State (Except Breakdown (Except StartupError Run.Stand))) :
    Prop where
  passes : ∀ check : Check, check.fault? surroundings = none
  ready : Ready surroundings settings session
  result : (∃ stand, played.result = .ok (.ok stand)) ∨
    played.result = .error .wideRecovery ∧ 2 ^ 64 ≤ 36 + 2 * session.plan.chainId.toNat
  calls : played.calls.take 5 = surroundings.script
  signed : ∀ question ∈ played.questions.drop 5, ∃ asked,
    question = .chain session.endpoint asked ∧
    ∀ transaction, asked = .send transaction → ∃ payment : Payment,
      payment.chainId = session.plan.chainId ∧
      payment.sign session.plan.payer.key = .ok transaction ∧
      ∃ (parity : Bool) (r s : Nat),
        let number := 35 + 2 * session.plan.chainId.toNat + parity.toNat
        number < 2 ^ 64 ∧ payment.CarriedBy transaction.raw [number, r, s]

end Startup

/-- What a session may ask after its start is signed for its chain. -/
theorem Session.Permits.signed {session : Session} {question : WorldQuestion}
    (permitted : session.Permits question) :
    ∃ asked, question = .chain session.endpoint asked ∧
      ∀ transaction, asked = .send transaction → ∃ payment : Payment,
        payment.chainId = session.plan.chainId ∧
        payment.sign session.plan.payer.key = .ok transaction ∧
        ∃ (parity : Bool) (r s : Nat),
          let number := 35 + 2 * session.plan.chainId.toNat + parity.toNat
          number < 2 ^ 64 ∧ payment.CarriedBy transaction.raw [number, r, s] := by
  obtain ⟨asked, isAsked, signed⟩ := permitted
  refine ⟨asked, isAsked, fun transaction sent => ?_⟩
  obtain ⟨payment, chainId, made⟩ := signed transaction sent
  have carried := Payment.carriedBy_of_sign made
  rw [chainId] at carried
  exact ⟨payment, chainId, made, _, _, _, carried⟩

theorem play_program_of_error {State : Type} {peer : Peer World State} {start : State}
    {error : StartupError}
    (refused : (Startup.session.play peer start).result = .error error) (count : Nat) :
    (program count).play peer start =
      ⟨.ok (.error error), (Startup.session.play peer start).transcript,
        (Startup.session.play peer start).state⟩ := by
  rw [program, Dialogue.play_andThen, refused, Playback.followedBy]
  simp only [Dialogue.play, List.append_nil]

theorem play_program_of_ok {State : Type} {peer : Peer World State} {start : State}
    {session : Session}
    (accepted : (Startup.session.play peer start).result = .ok session) (count : Nat) :
    (program count).play peer start =
      (Startup.session.play peer start).followedBy
        (((session.turns count Summary.empty).andThen fun result =>
          .done (result.map .ok)).play peer (Startup.session.play peer start).state) := by
  rw [program, Dialogue.play_andThen, accepted]

theorem refusal_or_acceptance {State : Type} (peer : Peer World State) (start : State)
    (count : Nat) :
    let surroundings := Startup.Surroundings.of peer start
    let played := (program count).play peer start
    (∃ check error, Startup.Refusal surroundings check error played) ∨
      ∃ settings session, Startup.Acceptance surroundings settings session played := by
  intro surroundings played
  have verdict := Startup.verdict_session peer start
  generalize result : (Startup.session.play peer start).result = verdictResult at verdict
  generalize calls : (Startup.session.play peer start).calls = verdictCalls at verdict
  cases verdict with
  | refused check error fails passed =>
    have played_eq := play_program_of_error result count
    have calls_eq : played.calls = surroundings.script.take check.asked := by
      rw [← calls]
      exact congrArg Playback.calls played_eq
    refine .inl ⟨check, error, fails, passed, congrArg Playback.result played_eq, calls_eq, ?_,
      Startup.Check.isBreakdown_iff fails⟩
    intro endpoint question asked
    rw [Playback.questions_eq_map_calls, calls_eq] at asked
    exact Startup.chainId_of_mem_script asked
  | accepted settings session passed ready =>
    have played_eq := play_program_of_ok result count
    have length := Startup.length_script ready
    refine .inr ⟨settings, session, fun check => passed check (by cases check <;> decide), ready,
      ?_, ?_, ?_⟩
    · have ends := (session.onlyEnds_turns count Summary.empty).result peer
        (Startup.session.play peer start).state
      have result_eq := congrArg Playback.result played_eq
      rw [Dialogue.play_andThen] at result_eq
      rw [show played.result = _ from result_eq]
      generalize ((session.turns count Summary.empty).play peer
        (Startup.session.play peer start).state) = ran at ends
      show (∃ stand, ran.result.map Except.ok = .ok (.ok stand)) ∨
        ran.result.map Except.ok = .error .wideRecovery ∧ _
      generalize ran.result = result at ends
      cases result with
      | ok stand => exact .inl ⟨stand, rfl⟩
      | error breakdown =>
        obtain ⟨rfl, large⟩ := ends breakdown rfl
        exact .inr ⟨rfl, large⟩
    · show ((program count).play peer start).calls.take 5 = surroundings.script
      rw [played_eq, Playback.calls_followedBy, calls, List.take_left' length]
    · intro question asked
      have asked : question ∈ ((program count).play peer start).questions.drop 5 := asked
      rw [played_eq, Playback.questions_followedBy, Playback.questions_eq_map_calls, calls,
        List.drop_left' (by rw [List.length_map]; exact length)] at asked
      refine Session.Permits.signed (Dialogue.OnlyAsks.of_mem_questions ?_ peer _ asked)
      exact (session.onlyAsks_turns count Summary.empty).andThen fun _ => trivial

/-- The checks of a start stand in front of everything else the program does. They are made in a
fixed order, and the first that fails ends the program with its error: of the node only the chain id
has been asked then, and not even that before the node is known. If none fails, and only then, the
program runs, and every payment it sends, in any number of turns, is signed for the chain that the
node has reported, which is the expected one if one is. The error is reported unless it is that the
amount cannot be read to its end, and the run does not break down unless the id of the chain is too
large for a payment to be signed. On the line to the node, asking for the chain id sends requests
for the chain id alone. -/
theorem checks_gate_the_run {State : Type} (peer : Peer World State) (start : State)
    (count : Nat) :
    let surroundings := Startup.Surroundings.of peer start
    let played := (program count).play peer start
    ((∃ check error, Startup.Refusal surroundings check error played) ∨
      ∃ settings session, Startup.Acceptance surroundings settings session played) ∧
    ((∀ error, played.result ≠ .ok (.error error)) ↔
      ∀ check : Startup.Check, check.fault? surroundings = none) ∧
    ∀ {Line : Type} (line : Peer Wire Line) (state : Line) (patience : Rpc.Patience),
      let asked := (Rpc.carryOut patience .chainId).through Rpc.Retry.carryOut
      ∀ question ∈ (asked.play line state).questions,
        question.SendsOnly (.ofQuestion .chainId) := by
  intro surroundings played
  have judged := refusal_or_acceptance peer start count
  refine ⟨judged, ?_, fun line state patience question member =>
    (Rpc.onlyAsks_chainId patience).of_mem_questions line state member⟩
  rcases judged with ⟨check, error, refusal⟩ | ⟨settings, session, acceptance⟩
  · refine iff_of_false (fun running => running error refusal.result) fun passes => ?_
    exact nomatch refusal.fails.symm.trans (passes check)
  · refine iff_of_true (fun error failed => ?_) acceptance.passes
    rcases acceptance.result with ⟨stand, ended⟩ | ⟨stopped, _⟩
    · exact nomatch ended.symm.trans failed
    · exact nomatch stopped.symm.trans failed

/-- Surroundings in which there is nothing but a settings file. -/
def onlySettings (text : String) : Peer World Unit where
  answer
    | .file path => fun state =>
      (if path = Settings.path then .ok (Utf8.ofString text) else .error .notFound, state)
    | .variable _ => fun state => (none, state)
    | .chain _ _ => fun state => (.error (.ofCause .nullReply), state)

theorem result_onlySettings {text : String} {fault : SettingsFault}
    (refused : Settings.ofFile (.ok (Utf8.ofString text)) = .error fault) :
    (Startup.session.play (onlySettings text) ()).result = .error (.settings fault) := by
  have answered : ((onlySettings text).answer (.file Settings.path) ()).1 =
      .ok (Utf8.ofString text) := by
    simp only [onlySettings, if_true]
  show ((Startup.require .settings
    (Settings.ofFile ((onlySettings text).answer (.file Settings.path) ()).1) >>= _).run.play
      (onlySettings text) _).result = _
  rw [answered, refused]
  rfl

/-- A start does not always end with an error that can be reported: this amount has seventeen
decimals and a character of two bytes behind them. -/
theorem split_amount_is_not_reported :
    ¬ ∀ (peer : Peer World Unit) (error : StartupError),
      (Startup.session.play peer ()).result = .error error → error.isBreakdown = false := by
  have refused : Settings.ofFile (.ok (Utf8.ofString
      ("RPC_URL = 'http://127.0.0.1:1'\nADDRESSES_FILE_PATH = 'data/a.csv'\n" ++
        "TRANSFER_AMOUNT = '0.00000000000000000é'\n"))) =
      .error (.unusable (.badAmount "0.00000000000000000é" .splitCharacter)) := by decide +kernel
  intro reported
  exact absurd (reported _ _ (result_onlySettings refused)) (by decide)

end Trickle
