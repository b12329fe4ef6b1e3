/-
This file proves that the key shows through its address alone. A text that is no key is
refused with one error, whatever it is. Two keys with the same address are accepted or
refused alike; and with anybody who answers alike whatever payments were signed with,
everything the program writes, asks and ends with is the same for both, apart from the
payments themselves.

Nothing is known of how a payment is signed, and nothing needs to be: the key is used for
that and nothing else, so that two plays go on in lockstep up to the payment, and after
it as long as it is answered the same. Whether a payment can be signed at all could show
one bit of a signature, its parity, but for one chain id only, which is left out. What is
asked on the line to the node, requests that are sent again included, and what the program
asks of its surroundings, are compared in the same way.
-/

import Mathlib.Data.Fintype.Pigeonhole
import Trickle.Proofs.Environment
import Trickle.Proofs.HexText
import Trickle.Proofs.LiveBalance
import Trickle.Rpc.Node

namespace Trickle

open Dialogue (Lockstep)

/-! ### Alike but for the key -/

/-- Whether two payers pay from the same account. -/
def Payer.SameAccount (payer payer' : Payer) : Prop :=
  payer.sender = payer'.sender

/-- Transactions that are the same payment, signed with one key or another. -/
inductive SignedTransaction.SamePayment : SignedTransaction → SignedTransaction → Prop where
  | sign (payment : Payment) (key key' : PrivateKey) :
    SamePayment (payment.signed key) (payment.signed key')

namespace Payment

/-- The one chain for which payments can be signed with one parity and not with the other: the first
makes the largest number of 64 bits, the second the next. -/
def edgeChainId : BitVec 64 :=
  BitVec.ofNat 64 (2 ^ 63 - 18)

/-- For all other chains, whether a payment can be signed does not depend on the key. -/
theorem signable_iff {payment : Payment} (clear : payment.chainId ≠ edgeChainId)
    (key key' : PrivateKey) : payment.Signable key ↔ payment.Signable key' := by
  have other : payment.chainId.toNat ≠ 2 ^ 63 - 18 :=
    fun same => clear (BitVec.eq_of_toNat_eq same)
  have parity : (payment.signature key).oddY.toNat ≤ 1 := Bool.toNat_le _
  have parity' : (payment.signature key').oddY.toNat ≤ 1 := Bool.toNat_le _
  rw [signable_iff_lt, signable_iff_lt]
  omega

end Payment

/-- Questions about the chain that are the same, or send the same payment. -/
inductive ChainQuestion.SameButKey : ChainQuestion → ChainQuestion → Prop where
  | same (question : ChainQuestion) : SameButKey question question
  | signed {transaction transaction' : SignedTransaction}
    (alike : transaction.SamePayment transaction') :
    SameButKey (.send transaction) (.send transaction')

/-- Entries of a transcript that are the same, or in which the same payment is answered the same. -/
inductive Moment.SameButKey : Moment Chain → Moment Chain → Prop where
  | noted (event : Event) : SameButKey (.noted event) (.noted event)
  | same (question : ChainQuestion) (answer : Except Fault question.Value) :
    SameButKey (.asked question answer) (.asked question answer)
  | signed {transaction transaction' : SignedTransaction}
    (alike : transaction.SamePayment transaction') (answer : Except Fault TransactionHash) :
    SameButKey (.asked (.send transaction) answer) (.asked (.send transaction') answer)

/-- The same questions with the same answers, but for the keys that payments are signed with. -/
def butKey : Likeness Chain :=
  ⟨ChainQuestion.SameButKey, Moment.SameButKey⟩

theorem exact_butKey : butKey.Exact where
  question := .same
  noted := .noted
  answer alike := by
    cases alike with
    | same => rfl
    | signed => rfl

theorem Moment.SameButKey.event?_eq {moment moment' : Moment Chain}
    (alike : moment.SameButKey moment') : moment.event? = moment'.event? := by
  cases alike <;> rfl

/-- Whether a node answers every payment as any other, and remembers nothing of it. -/
def Peer.IgnoresPayments {State : Type} (node : Peer Chain State) : Prop :=
  ∀ transaction transaction' state,
    node.answer (.send transaction) state = node.answer (.send transaction') state

theorem Peer.IgnoresPayments.alike {State : Type} {node : Peer Chain State}
    (ignores : node.IgnoresPayments) : Peer.Alike butKey Eq node node where
  answers {question other state state'} asked start := by
    cases start
    cases asked with
    | same => exact .same _ _
    | @signed transaction transaction' alike =>
      rw [ignores transaction transaction' state]
      exact .signed alike _
  states {question other state state'} asked start := by
    cases start
    cases asked with
    | same => rfl
    | @signed transaction transaction' alike => rw [ignores transaction transaction' state]

/-! ### Attempts -/

namespace Transfer

/-- The same question goes on in the same way. -/
theorem lockstep_require_same {Result : Type} {failure : Fault → TransferFailure}
    {question : ChainQuestion} {next next' : question.Value → Step Result}
    (later : ∀ value, Lockstep butKey Eq (next value).run.run (next' value).run.run) :
    Lockstep butKey Eq (require failure question >>= next).run.run
      (require failure question >>= next').run.run := by
  refine lockstep_require_of (.same question) fun answer answer' alike => ?_
  obtain rfl := exact_butKey.answer alike
  exact .refl later answer

/-- So does the same payment, whatever key it was signed with. -/
theorem lockstep_require_send {Result : Type} {failure : Fault → TransferFailure}
    {transaction transaction' : SignedTransaction} (alike : transaction.SamePayment transaction')
    {next next' : TransactionHash → Step Result}
    (later : ∀ hash, Lockstep butKey Eq (next hash).run.run (next' hash).run.run) :
    Lockstep butKey Eq (require failure (.send transaction) >>= next).run.run
      (require failure (.send transaction') >>= next').run.run := by
  refine lockstep_require_of (.signed alike) fun answer answer' answered => ?_
  cases answered with
  | same => exact .refl later answer
  | signed => exact .refl later answer

/-- The same payment is signed with either key, or can be with neither. -/
theorem lockstep_sign_butKey {Result : Type} {payment : Payment}
    (clear : payment.chainId ≠ Payment.edgeChainId) {key key' : PrivateKey}
    {next next' : SignedTransaction → Step Result}
    (later : ∀ transaction transaction', transaction.SamePayment transaction' →
      Lockstep butKey Eq (next transaction).run.run (next' transaction').run.run) :
    Lockstep butKey Eq (sign payment key >>= next).run.run
      (sign payment key' >>= next').run.run := by
  have both := Payment.signable_iff clear key key'
  by_cases signable : payment.Signable key
  · rw [run_sign_bind_of_ok (Payment.sign_of_signable signable),
      run_sign_bind_of_ok (Payment.sign_of_signable (both.mp signable))]
    exact later _ _ (.sign payment key key')
  · rw [run_sign_bind_of_error (Payment.sign_of_not_signable signable),
      run_sign_bind_of_error (Payment.sign_of_not_signable fun other => signable (both.mpr other))]
    exact .done rfl

variable {payer payer' : Payer} (own : payer.SameAccount payer') (amount : Wei)
  {chainId : BitVec 64} (clear : chainId ≠ Payment.edgeChainId) (recipient : Address)

include own clear

theorem lockstep_pay_butKey :
    Lockstep butKey Eq (pay ⟨payer, amount, chainId⟩ recipient).run.run
      (pay ⟨payer', amount, chainId⟩ recipient).run.run := by
  obtain ⟨key, sender⟩ := payer
  obtain ⟨key', _⟩ := payer'
  obtain rfl : sender = _ := own
  refine lockstep_require_same fun gasPrice => ?_
  refine lockstep_require_same fun gasLimit => ?_
  refine lockstep_require_same fun nonce => ?_
  refine lockstep_require_same fun balance => .note (.noted _) ?_
  refine lockstep_sign_butKey clear fun transaction transaction' alike => ?_
  refine lockstep_require_send alike fun hash => ?_
  exact lockstep_require_same fun receipt => .done rfl

theorem lockstep_attempt_butKey :
    Lockstep butKey Eq (attempt ⟨payer, amount, chainId⟩ recipient)
      (attempt ⟨payer', amount, chainId⟩ recipient) := by
  refine (lockstep_pay_butKey own amount clear recipient).andThen fun result other same => ?_
  subst same
  cases result with
  | ok result =>
    exact .of_exact exact_butKey
      (writeAll (Except.ok result) (closing ⟨payer, amount, chainId⟩ recipient result))
  | error breakdown => exact .done rfl

end Transfer

/-! ### On the line -/

/-- Questions to the line that are the same, or send the same payment. -/
inductive WireQuestion.SameButKey : WireQuestion → WireQuestion → Prop where
  | same (question : WireQuestion) : SameButKey question question
  | signed {transaction transaction' : SignedTransaction}
    (alike : transaction.SamePayment transaction') :
    SameButKey (.exchange (.ofQuestion (.send transaction)))
      (.exchange (.ofQuestion (.send transaction')))

/-- Entries that are the same, or in which the same payment brings the same. -/
inductive Moment.SameOnLine : Moment Wire → Moment Wire → Prop where
  | noted (event : Event) : SameOnLine (.noted event) (.noted event)
  | same (question : WireQuestion) (answer : Wire.Answer question) :
    SameOnLine (.asked question answer) (.asked question answer)
  | signed {transaction transaction' : SignedTransaction}
    (alike : transaction.SamePayment transaction') (delivery : Delivery) :
    SameOnLine (.asked (.exchange (.ofQuestion (.send transaction))) delivery)
      (.asked (.exchange (.ofQuestion (.send transaction'))) delivery)

/-- The same requests, which bring the same, but for the keys that payments are signed with. -/
def butKeyOnLine : Likeness Wire :=
  ⟨WireQuestion.SameButKey, Moment.SameOnLine⟩

/-- Whatever is sent, the same is delivered. -/
theorem Moment.SameOnLine.delivery_eq {request request' : Request} {delivery delivery' : Delivery}
    (alike : SameOnLine (.asked (.exchange request) delivery)
      (.asked (.exchange request') delivery')) : delivery = delivery' := by
  cases alike with
  | same => rfl
  | signed => rfl

theorem Moment.SameOnLine.event?_eq {moment moment' : Moment Wire}
    (alike : moment.SameOnLine moment') : moment.event? = moment'.event? := by
  cases alike <;> rfl

theorem exact_butKeyOnLine : butKeyOnLine.Exact where
  question := .same
  noted := .noted
  answer {question _ _} alike := by
    cases question with
    | exchange request => exact alike.delivery_eq
    | _ =>
      cases alike
      rfl

namespace Rpc

/-- What is made of a delivery does not depend on the payment that brought it. -/
theorem lockstep_carryOut (patience : Patience) {question question' : ChainQuestion}
    (asked : question.SameButKey question') :
    Lockstep butKeyOnLine (EndsAlike fun answer answer' =>
      Moment.SameButKey (.asked question answer) (.asked question' answer'))
      (carryOut patience question) (carryOut patience question') := by
  cases asked with
  | same =>
    refine (Lockstep.of_exact exact_butKeyOnLine _).mono fun result other same => ?_
    subst same
    exact .refl (.same question) result
  | signed alike =>
    refine .ask (.signed alike) fun delivery delivery' delivered => .done ?_
    obtain rfl := delivered.delivery_eq
    exact .refl (.signed alike) (readAs hash? (.ofDelivery delivery))

/-- Whether a payment is sent again is up to what was delivered. -/
theorem Retry.lockstep_exchange {transaction transaction' : SignedTransaction}
    (alike : transaction.SamePayment transaction') (left : Nat) :
    Lockstep butKeyOnLine Eq (exchange (.ofQuestion (.send transaction)) left)
      (exchange (.ofQuestion (.send transaction')) left) := by
  induction left with
  | zero =>
    refine .ask (.signed alike) fun delivery delivery' delivered => .done ?_
    rw [delivered.delivery_eq]
  | succ left inductionHypothesis =>
    refine .ask (.signed alike) fun delivery delivery' delivered => ?_
    obtain rfl := delivered.delivery_eq
    dsimp only [Dialogue.andThen]
    split
    · exact .done rfl
    · refine .ask (.same _) fun now now' same => ?_
      obtain rfl := exact_butKeyOnLine.answer same
      exact .ask (.same _) fun _ _ _ => inductionHypothesis

theorem Retry.lockstep_carryOut {question question' : WireQuestion}
    (asked : question.SameButKey question') :
    Lockstep butKeyOnLine
      (fun answer answer' => Moment.SameOnLine (.asked question answer) (.asked question' answer'))
      (carryOut question) (carryOut question') := by
  cases asked with
  | same =>
    refine (Lockstep.of_exact exact_butKeyOnLine _).mono fun answer other same => ?_
    subst same
    exact .same question answer
  | signed alike =>
    refine (lockstep_exchange alike limit).mono fun delivery other same => ?_
    subst same
    exact .signed alike delivery

/-- Dialogues with the chain in lockstep stay so when they are carried out on the line, where
requests are sent again. -/
theorem lockstep_through (patience : Patience) {Result : Type}
    {dialogue dialogue' : Dialogue Chain Result}
    (lockstep : Lockstep butKey Eq dialogue dialogue') :
    Lockstep butKeyOnLine (EndsAlike Eq) ((through patience dialogue).through Retry.carryOut)
      ((through patience dialogue').through Retry.carryOut) := by
  refine (lockstep.throughOrStop (fun alike => ?_) (lockstep_carryOut patience)).through id
    Retry.lockstep_carryOut
  cases alike
  exact .noted _

end Rpc

/-! ### Settings that hold keys -/

namespace Credentials

/-- Settings that hold two keys with the same address, or do not hold any for the same reason. -/
inductive KeysAlike : Option Bytes → Option Bytes → Prop where
  | missing {key key' : Option Bytes} (noText : key.bind Utf8.decode? = none)
    (noText' : key'.bind Utf8.decode? = none) : KeysAlike key key'
  | unspelled {text text' : String}
    (unspelled : ∀ signer : PrivateKey, ¬ signer.SpelledBy (trim text.toList))
    (unspelled' : ∀ signer : PrivateKey, ¬ signer.SpelledBy (trim text'.toList)) :
    KeysAlike (some (Utf8.ofString text)) (some (Utf8.ofString text'))
  | held {key key' : Option Bytes} {signer signer' : PrivateKey} (holds : Holds key signer)
    (holds' : Holds key' signer') (same : signer.address = signer'.address) : KeysAlike key key'

/-- Two payers of the same account, or the same error, come of texts that spell keys with the same
address. -/
theorem endsAlike_ofParts {key key' : String} {signer signer' : PrivateKey}
    (spelled : signer.SpelledBy (trim key.toList)) (spelled' : signer'.SpelledBy (trim key'.toList))
    (same : signer.address = signer'.address) (expected : Option String) :
    EndsAlike Payer.SameAccount (ofParts key expected) (ofParts key' expected) := by
  rw [ofParts_of_spelled spelled, ofParts_of_spelled spelled', ← same]
  cases expected with
  | none => exact .ok rfl
  | some text =>
    dsimp only
    cases Address.read (trimmed text) with
    | error error => exact .error _
    | ok address =>
      dsimp only
      split
      · exact .ok rfl
      · exact .error _

theorem endsAlike_ofEnvironment {key key' : Option Bytes} (alike : KeysAlike key key')
    (expected : Option Bytes) :
    EndsAlike Payer.SameAccount (ofEnvironment key expected) (ofEnvironment key' expected) := by
  cases alike with
  | missing noText noText' =>
    rw [ofEnvironment, ofEnvironment, noText, noText']
    exact .error _
  | unspelled unspelled unspelled' =>
    simp only [ofEnvironment, Option.bind_some, Utf8.decode?_ofString]
    rw [ofParts_of_unspelled unspelled, ofParts_of_unspelled unspelled']
    exact .error _
  | held holds holds' same =>
    obtain ⟨text, rfl, spelled⟩ := holds
    obtain ⟨text', rfl, spelled'⟩ := holds'
    simp only [ofEnvironment, Option.bind_some, Utf8.decode?_ofString]
    exact endsAlike_ofParts spelled spelled' same _

end Credentials

/-! ### Starts and runs -/

/-- Questions to the surroundings that are the same, or send the same payment to the same node. -/
inductive WorldQuestion.SameButKey : WorldQuestion → WorldQuestion → Prop where
  | same (question : WorldQuestion) : SameButKey question question
  | chain (endpoint : Endpoint) {question question' : ChainQuestion}
    (asked : question.SameButKey question') :
    SameButKey (.chain endpoint question) (.chain endpoint question')

/-- Entries that are the same, but for the key that the environment sets and for what payments are
signed with. -/
inductive Moment.SameButSecret : Moment World → Moment World → Prop where
  | noted (event : Event) : SameButSecret (.noted event) (.noted event)
  | file (path : String) (contents : Except FileFault Bytes) :
    SameButSecret (.asked (.file path) contents) (.asked (.file path) contents)
  | setting (name : String) (setting : Option Bytes) :
    SameButSecret (.asked (.variable name) setting) (.asked (.variable name) setting)
  | key {setting setting' : Option Bytes} (alike : Credentials.KeysAlike setting setting') :
    SameButSecret (.asked (.variable Credentials.keyName) setting)
      (.asked (.variable Credentials.keyName) setting')
  | chain (endpoint : Endpoint) {question question' : ChainQuestion}
    {answer : Except Fault question.Value} {answer' : Except Fault question'.Value}
    (alike : Moment.SameButKey (.asked question answer) (.asked question' answer')) :
    SameButSecret (.asked (.chain endpoint question) answer)
      (.asked (.chain endpoint question') answer')

/-- The same surroundings but for the key. -/
def butSecret : Likeness World :=
  ⟨WorldQuestion.SameButKey, Moment.SameButSecret⟩

theorem Moment.SameButSecret.event?_eq {moment moment' : Moment World}
    (alike : moment.SameButSecret moment') : moment.event? = moment'.event? := by
  cases alike <;> rfl

/-- Only the key may be answered differently. -/
theorem Moment.SameButSecret.answer_eq {question : WorldQuestion}
    {answer answer' : World.Answer question}
    (alike : SameButSecret (.asked question answer) (.asked question answer'))
    (other : question ≠ .variable Credentials.keyName) : answer = answer' := by
  cases alike with
  | file => rfl
  | setting => rfl
  | key => exact absurd rfl other
  | chain endpoint alike => exact exact_butKey.answer alike

theorem Moment.SameButSecret.endsAlike {setting setting' : Option Bytes}
    (alike : SameButSecret (.asked (.variable Credentials.keyName) setting)
      (.asked (.variable Credentials.keyName) setting')) (expected : Option Bytes) :
    EndsAlike Payer.SameAccount (Credentials.ofEnvironment setting expected)
      (Credentials.ofEnvironment setting' expected) := by
  cases alike with
  | key alike => exact Credentials.endsAlike_ofEnvironment alike expected
  | setting => exact .refl (fun payer => Eq.refl payer.sender) _

/-- Sessions that are the same but for the key. -/
inductive Session.SameButKey : Session → Session → Prop where
  | intro (endpoint : Endpoint) {payer payer' : Payer} (own : payer.SameAccount payer')
    (amount : Wei) (chainId : BitVec 64) (cursor : Cursor) :
    SameButKey ⟨endpoint, ⟨payer, amount, chainId⟩, cursor⟩
      ⟨endpoint, ⟨payer', amount, chainId⟩, cursor⟩

namespace Startup

variable {Result Other : Type}

theorem lockstep_ask {same : Except StartupError Result → Except StartupError Other → Prop}
    {question : WorldQuestion} (other : question ≠ .variable Credentials.keyName)
    {next : World.Answer question → Step Result} {next' : World.Answer question → Step Other}
    (later : ∀ answer, Lockstep butSecret same (next answer).run (next' answer).run) :
    Lockstep butSecret same (ask question >>= next).run (ask question >>= next').run := by
  refine .ask (.same question) fun answer answer' alike => ?_
  obtain rfl := alike.answer_eq other
  exact later answer

theorem lockstep_write {same : Except StartupError Result → Except StartupError Other → Prop}
    {event : Event} {next : Unit → Step Result} {next' : Unit → Step Other}
    (later : Lockstep butSecret same (next ()).run (next' ()).run) :
    Lockstep butSecret same (write event >>= next).run (write event >>= next').run :=
  .note (.noted event) later

section Require

variable {Error Value Value' : Type} {wrap : Error → StartupError} {same : Result → Other → Prop}

theorem lockstep_require_alike {alike : Value → Value' → Prop} {outcome : Except Error Value}
    {outcome' : Except Error Value'} (outcomes : EndsAlike alike outcome outcome')
    {next : Value → Step Result} {next' : Value' → Step Other}
    (later : ∀ value value', alike value value' →
      Lockstep butSecret (EndsAlike same) (next value).run (next' value').run) :
    Lockstep butSecret (EndsAlike same) (require wrap outcome >>= next).run
      (require wrap outcome' >>= next').run := by
  cases outcomes with
  | ok values => exact later _ _ values
  | error error => exact .done (.error (wrap error))

theorem lockstep_require {outcome : Except Error Value} {next : Value → Step Result}
    {next' : Value → Step Other}
    (later : ∀ value, Lockstep butSecret (EndsAlike same) (next value).run (next' value).run) :
    Lockstep butSecret (EndsAlike same) (require wrap outcome >>= next).run
      (require wrap outcome >>= next').run := by
  refine lockstep_require_alike (.refl (fun _ => rfl) outcome) fun value value' equal => ?_
  subst equal
  exact later value

end Require

/-- Two starts with keys that are alike end with the same error or with sessions that are the same
but for the key. -/
theorem lockstep_session : Lockstep butSecret (EndsAlike Session.SameButKey) session session := by
  show Lockstep butSecret (EndsAlike Session.SameButKey) prepare.run prepare.run
  refine lockstep_ask (by nofun) fun contents => lockstep_require fun settings => ?_
  refine .ask (.same _) fun key key' keysAlike => ?_
  refine lockstep_ask (by decide) fun sender => ?_
  refine lockstep_require_alike (keysAlike.endsAlike sender) fun payer payer' own => ?_
  refine lockstep_require fun amount => lockstep_require fun endpoint => ?_
  refine lockstep_ask (by nofun) fun reported => lockstep_require fun chainId => ?_
  refine lockstep_write (lockstep_require fun _ => ?_)
  refine lockstep_ask (by nofun) fun rows => lockstep_require fun cursor => ?_
  exact lockstep_write (.done (.ok (.intro endpoint own amount chainId cursor)))

end Startup

namespace Session

theorem lockstep_payout {session session' : Session} (alike : session.SameButKey session')
    (clear : session.plan.chainId ≠ Payment.edgeChainId) (recipient : Address) :
    Lockstep butSecret Eq (session.payout recipient) (session'.payout recipient) := by
  cases alike with
  | intro endpoint own amount chainId =>
    refine (Transfer.lockstep_attempt_butKey own amount clear recipient).through
      (fun alike => ?_) fun asked => ?_
    · cases alike
      exact .noted _
    · refine .ask (.chain endpoint asked) fun answer answer' alike => .done ?_
      cases alike with
      | chain _ alike => exact alike

theorem lockstep_turn {session session' : Session} (alike : session.SameButKey session')
    (clear : session.plan.chainId ≠ Payment.edgeChainId) (summary : Summary) :
    Lockstep butSecret (EndsAlike Eq) (session.turn summary) (session'.turn summary) := by
  have same : session.cursor = session'.cursor := by
    cases alike
    rfl
  rw [turn, turn, same]
  refine (Lockstep.refl _).throughOrStop (fun same => ?_) fun same => ?_
  · cases same
    exact .noted _
  · cases same
    refine (lockstep_payout alike clear _).mono fun result other same => ?_
    subst same
    cases result with
    | ok result => exact .ok rfl
    | error breakdown => exact .error breakdown

theorem lockstep_turns (count : Nat) {session session' : Session}
    (alike : session.SameButKey session') (clear : session.plan.chainId ≠ Payment.edgeChainId)
    (summary : Summary) :
    Lockstep butSecret Eq (session.turns count summary) (session'.turns count summary) := by
  induction count generalizing session session' summary with
  | zero =>
    cases alike
    exact .done rfl
  | succ count inductionHypothesis =>
    refine (lockstep_turn alike clear summary).andThen fun result other same => ?_
    obtain rfl := same.eq
    rcases result with breakdown | ⟨summary, cursor⟩ | ⟨summary, cursor⟩
    · exact .done rfl
    · exact .done rfl
    · have onward : SameButKey { session with cursor := cursor }
          { session' with cursor := cursor } := by
        cases alike with
        | intro endpoint own amount chainId => exact .intro endpoint own amount chainId cursor
      exact inductionHypothesis onward clear summary

end Session

/-- Two programs in surroundings that differ in nothing but keys with one address are played alike,
unless the node reports the one chain for which the parity of signatures shows. -/
theorem program_alike {First Second : Type} {related : First → Second → Prop}
    {world : Peer World First} {world' : Peer World Second}
    (worlds : Peer.Alike butSecret related world world') {start : First} {start' : Second}
    (starts : related start start')
    (clear : ∀ endpoint,
      (Startup.Surroundings.of world start).chainId endpoint ≠ .ok Payment.edgeChainId)
    (count : Nat) :
    Playback.Alike butSecret related Eq ((program count).play world start)
      ((program count).play world' start') := by
  have started := Startup.lockstep_session.play worlds starts
  have isReady (session : Session)
      (ended : (Startup.session.play world start).result = .ok session) :
      session.plan.chainId ≠ Payment.edgeChainId := by
    obtain ⟨settings, ready⟩ := Startup.exists_ready ended
    intro isEdge
    exact clear session.endpoint (isEdge ▸ ready.chainId)
  rw [program, Dialogue.play_andThen, Dialogue.play_andThen]
  refine started.followedBy ?_
  have ended := started.result
  generalize (Startup.session.play world start).result = result at isReady ended ⊢
  generalize (Startup.session.play world' start').result = result' at ended ⊢
  cases ended with
  | error error => exact ⟨rfl, .nil, started.state⟩
  | @ok session session' sessions =>
    refine Lockstep.play ?_ worlds started.state
    refine (Session.lockstep_turns count sessions (isReady session rfl) Summary.empty).andThen
      fun result other same => ?_
    subst same
    exact .done rfl

/-! ### Keys with one address -/

/-- Every key is held by some setting. -/
theorem Credentials.exists_holds (signer : PrivateKey) :
    ∃ setting, Holds (some setting) signer := by
  have small : signer.scalar < 16 ^ 64 := signer.inRange.trans (by decide)
  obtain ⟨numeral, -, number⟩ := (Hex.casedAs_write 64 signer.scalar).exists_numeral small .none
  refine ⟨Utf8.ofString (String.ofList numeral.chars), _, rfl, numeral, ?_, number⟩
  rw [String.toList_ofList, trim_of_not_blank fun char member => (numeral.ordinary char member).1]

/-- One key more than there are addresses. -/
def manyKeys (index : Fin (2 ^ 160 + 1)) : PrivateKey where
  scalar := index + 1
  positive := Nat.succ_pos index
  inRange := Nat.lt_of_le_of_lt index.isLt (by decide)

/-- There are two keys with one address, as there are more keys than addresses. -/
theorem exists_keys_of_one_address :
    ∃ key key' : PrivateKey, key ≠ key' ∧ key.address = key'.address := by
  have more : Fintype.card (Fin (2 ^ 160)) < Fintype.card (Fin (2 ^ 160 + 1)) := by
    rw [Fintype.card_fin, Fintype.card_fin]
    exact Nat.lt_succ_self _
  obtain ⟨index, index', other, same⟩ := Fintype.exists_ne_map_eq_of_card_lt
    (fun index => (manyKeys index).address.number.toFin) more
  refine ⟨manyKeys index, manyKeys index', fun equal => other (Fin.ext ?_), ?_⟩
  · exact Nat.succ.inj (congrArg PrivateKey.scalar equal)
  · exact congrArg Address.mk (BitVec.eq_of_toFin_eq same)

/-- Surroundings with some files, a key, no expected address, and one node at every place. -/
def Peer.world {State : Type} (files : String → Except FileFault Bytes) (key : Bytes)
    (node : Peer Chain State) : Peer World State where
  answer
    | .file path, state => (files path, state)
    | .variable name, state => (if name = Credentials.keyName then some key else none, state)
    | .chain _ question, state => node.answer question state

theorem Peer.world_alike {State : Type} (files : String → Except FileFault Bytes) {key key' : Bytes}
    (keys : Credentials.KeysAlike (some key) (some key')) {node : Peer Chain State}
    (ignores : node.IgnoresPayments) :
    Peer.Alike butSecret Eq (world files key node) (world files key' node) where
  answers {question other state state'} asked start := by
    cases start
    cases asked with
    | same =>
      rcases question with path | name | ⟨endpoint, question⟩
      · exact .file path _
      · by_cases isKey : name = Credentials.keyName
        · subst isKey
          simp only [world, if_true]
          exact .key keys
        · simp only [world, if_neg isKey]
          exact .setting name none
      · exact .chain endpoint (.same question _)
    | chain endpoint asked => exact .chain endpoint (ignores.alike.answers asked rfl)
  states {question other state state'} asked start := by
    cases start
    cases asked with
    | same => cases question <;> rfl
    | chain endpoint asked => exact ignores.alike.states asked rfl

/-! ### What is shown -/

/-- Two plays that end with the same and write the same, and whose entries are alike. -/
structure Playback.ShownAlike {protocol : Protocol} {First Second Result : Type}
    (alike : Moment protocol → Moment protocol → Prop) (one : Playback protocol First Result)
    (other : Playback protocol Second Result) : Prop where
  result : one.result = other.result
  events : one.events = other.events
  transcript : List.Forall₂ alike one.transcript other.transcript

theorem Playback.Alike.shownAlike {protocol : Protocol} {First Second Result : Type}
    {likeness : Likeness protocol} {related : First → Second → Prop}
    {same : Result → Result → Prop} {one : Playback protocol First Result}
    {other : Playback protocol Second Result}
    (alike : Playback.Alike likeness related same one other)
    (results : same one.result other.result → one.result = other.result)
    (events : ∀ {moment moment'}, likeness.moment moment moment' →
      moment.event? = moment'.event?) :
    Playback.ShownAlike likeness.moment one other :=
  ⟨results alike.result, Moment.events_eq alike.transcript events, alike.transcript⟩

/-- Nothing but its address shows of a key. Every text that is no key is refused with one error that
holds nothing of it, whatever address is expected. Settings that hold keys with one address, or none
for the same reason, bring the same error or payers of the same account. Attempts of payers of the
same account, to pay anybody any amount on any chain but the one for which payments can be signed
with one parity only, have the same result and write the same events against nodes that answer alike
whatever a payment is signed with, and they ask the same questions, but that the payment is signed
with another key; so they do on the line to the node, where requests may be sent again and waits are
written to the log as well. The whole program, in any surroundings that differ in nothing but such
settings and in what payments are signed with, and in which no node reports that one chain, ends
with the same error or at the same place with the same summary, and writes the same events. -/
theorem key_shows_through_its_address_alone :
    (∀ key : String, (∀ signer : PrivateKey, ¬ signer.SpelledBy (trim key.toList)) →
      ∀ expected, Credentials.ofParts key expected = .error .invalidKey) ∧
    (∀ key key' expected, Credentials.KeysAlike key key' →
      EndsAlike Payer.SameAccount (Credentials.ofEnvironment key expected)
        (Credentials.ofEnvironment key' expected)) ∧
    (∀ payer payer' : Payer, payer.SameAccount payer' → ∀ amount recipient,
      ∀ chainId ≠ Payment.edgeChainId,
      let attempt := Transfer.attempt ⟨payer, amount, chainId⟩ recipient
      let attempt' := Transfer.attempt ⟨payer', amount, chainId⟩ recipient
      (∀ {First Second : Type} {related : First → Second → Prop} {node : Peer Chain First}
        {node' : Peer Chain Second}, Peer.Alike butKey related node node' →
          ∀ start start', related start start' →
            Playback.ShownAlike Moment.SameButKey (attempt.play node start)
              (attempt'.play node' start')) ∧
      ∀ {First Second : Type} {related : First → Second → Prop} {line : Peer Wire First}
        {line' : Peer Wire Second}, Peer.Alike butKeyOnLine related line line' →
          ∀ start start', related start start' → ∀ patience,
            Playback.ShownAlike Moment.SameOnLine
              (((Rpc.through patience attempt).through Rpc.Retry.carryOut).play line start)
              (((Rpc.through patience attempt').through Rpc.Retry.carryOut).play line' start')) ∧
    ∀ {First Second : Type} {related : First → Second → Prop} {world : Peer World First}
      {world' : Peer World Second}, Peer.Alike butSecret related world world' →
        ∀ start start', related start start' →
          (∀ endpoint,
            (Startup.Surroundings.of world start).chainId endpoint ≠ .ok Payment.edgeChainId) →
          ∀ count, Playback.ShownAlike Moment.SameButSecret ((program count).play world start)
            ((program count).play world' start') := by
  refine ⟨fun key unspelled => Credentials.ofParts_of_unspelled unspelled,
    fun key key' expected alike => Credentials.endsAlike_ofEnvironment alike expected,
    fun payer payer' own amount recipient chainId clear => ?_,
    fun worlds start start' starts clear count => ?_⟩
  · have lockstep := Transfer.lockstep_attempt_butKey own amount clear recipient
    refine ⟨fun nodes start start' starts => ?_, fun lines start start' starts patience => ?_⟩
    · exact (lockstep.play nodes starts).shownAlike id Moment.SameButKey.event?_eq
    · exact ((Rpc.lockstep_through patience lockstep).play lines starts).shownAlike EndsAlike.eq
        Moment.SameOnLine.event?_eq
  · exact (program_alike worlds starts clear count).shownAlike id
      Moment.SameButSecret.event?_eq

/-- Two keys with one address, each in a setting of its own, look the same to a node that takes
every payment, and in surroundings in which one row is to be paid. -/
theorem two_keys_of_one_address :
    ∃ (key key' : PrivateKey) (setting setting' : Bytes), key ≠ key' ∧
      Credentials.Holds (some setting) key ∧ Credentials.Holds (some setting') key' ∧
      let node := Transfer.holding fun _ => 0
      let attempt (key : PrivateKey) := Transfer.attempt ⟨⟨key, key.address⟩, 10, 1⟩ ⟨1⟩
      let files (path : String) : Except FileFault Bytes := .ok <| Utf8.ofString <|
        if path = Settings.path then "RPC_URL = 'http://127.0.0.1:1'\nADDRESSES_FILE_PATH = 'a'\n"
        else "address;balance\n0x0000000000000000000000000000000000000001;2\n"
      Playback.ShownAlike Moment.SameButKey ((attempt key).play node 0)
          ((attempt key').play node 0) ∧
        Playback.ShownAlike Moment.SameButSecret
          ((program 3).play (Peer.world files setting node) 0)
          ((program 3).play (Peer.world files setting' node) 0) := by
  obtain ⟨key, key', other, same⟩ := exists_keys_of_one_address
  obtain ⟨setting, holds⟩ := Credentials.exists_holds key
  obtain ⟨setting', holds'⟩ := Credentials.exists_holds key'
  have ignores : (Transfer.holding fun _ => 0).IgnoresPayments := fun _ _ _ => rfl
  obtain ⟨-, -, attempts, programs⟩ := key_shows_through_its_address_alone
  refine ⟨key, key', setting, setting', other, holds, holds', ?_, ?_⟩
  · exact (attempts ⟨key, key.address⟩ ⟨key', key'.address⟩ same 10 ⟨1⟩ 1 (by decide)).1
      ignores.alike 0 0 rfl
  · exact programs (Peer.world_alike _ (.held holds holds' same) ignores) 0 0 rfl
      (fun _ edge => absurd (Except.ok.inj edge)
        (by decide : (1 : BitVec 64) ≠ Payment.edgeChainId)) 3

end Trickle
