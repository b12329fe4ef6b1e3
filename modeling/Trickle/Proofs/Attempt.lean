/-
This file proves how an attempt to pay one account talks to the chain. Its six questions
follow a script: each is asked once at most, in a fixed order, and the payment that is
sent and the hash whose receipt is waited for are made of what was answered before. The
first question that comes back with a fault is the last, and which question it was
decides how the attempt is said to have failed. An attempt whose payment cannot be signed
breaks down when all questions before are answered.
-/

import Trickle.Proofs.Dialogue
import Trickle.Transfer

namespace Trickle

/-- Whether a question about the chain came back with a fault. -/
def Call.failed (call : Call Chain) : Bool :=
  match (call.answer : Except Fault call.question.Value) with
  | .ok _ => false
  | .error _ => true

namespace ChainQuestion

/-- Whether a payment is sent. -/
def isSend : ChainQuestion → Bool
  | .send _ => true
  | _ => false

/-- Whether a receipt is waited for. -/
def isWait : ChainQuestion → Bool
  | .receipt _ => true
  | _ => false

end ChainQuestion

namespace Payment

/-! ### Payments that can be signed -/

variable {payment : Payment} {key : PrivateKey}

theorem sign_of_signable (signable : payment.Signable key) :
    payment.sign key = .ok (payment.signed key) :=
  if_pos signable

theorem sign_of_not_signable (unsignable : ¬ payment.Signable key) :
    payment.sign key = .error .wideRecovery :=
  if_neg unsignable

theorem sign_eq_ok_iff {transaction : SignedTransaction} :
    payment.sign key = .ok transaction ↔
      payment.Signable key ∧ transaction = payment.signed key := by
  by_cases signable : payment.Signable key
  · rw [sign_of_signable signable, Except.ok.injEq, and_iff_right signable, eq_comm]
  · rw [sign_of_not_signable signable]
    exact ⟨nofun, fun both => absurd both.1 signable⟩

theorem sign_eq_error_iff {breakdown : Breakdown} :
    payment.sign key = .error breakdown ↔
      ¬ payment.Signable key ∧ breakdown = .wideRecovery := by
  by_cases signable : payment.Signable key
  · rw [sign_of_signable signable]
    exact ⟨nofun, fun both => absurd signable both.1⟩
  · rw [sign_of_not_signable signable, Except.error.injEq, and_iff_right signable, eq_comm]

end Payment

namespace Transfer

/-! ### The script of an attempt -/

/-- What an attempt is answered when nothing fails. -/
structure Answers where
  gasPrice : Gas
  gasLimit : BitVec 64
  nonce : BitVec 64
  balance : Wei
  hash : TransactionHash
  receipt : Receipt

/-- Answers of which nothing is known yet. -/
def Answers.unknown : Answers :=
  { gasPrice := 0, gasLimit := 0, nonce := 0, balance := 0, hash := ⟨0⟩, receipt := ⟨0, false⟩ }

/-- The payment that is made of the answers. -/
def payment (plan : Plan) (recipient : Address) (answers : Answers) : Payment :=
  { recipient := recipient, amount := plan.amount, gasLimit := answers.gasLimit,
    gasPrice := answers.gasPrice, nonce := answers.nonce, chainId := plan.chainId }

/-- The report that is made of the answers. -/
def report (plan : Plan) (recipient : Address) (answers : Answers) : Report :=
  { recipient := recipient, hash := answers.hash, gasUsed := answers.receipt.gasUsed,
    fees := Fees.of answers.receipt.gasUsed answers.gasPrice plan.amount,
    succeeded := answers.receipt.succeeded }

/-- The calls of an attempt in which nothing fails. -/
def script (plan : Plan) (recipient : Address) (answers : Answers) : List (Call Chain) := [
  ⟨.gasPrice, .ok answers.gasPrice⟩,
  ⟨.transferGas plan.payer.sender recipient plan.amount, .ok answers.gasLimit⟩,
  ⟨.transactionCount plan.payer.sender, .ok answers.nonce⟩,
  ⟨.balance plan.payer.sender, .ok answers.balance⟩,
  ⟨.send ((payment plan recipient answers).signed plan.payer.key), .ok answers.hash⟩,
  ⟨.receipt answers.hash, .ok answers.receipt⟩]

/-- How an attempt is said to have failed when a question came back with a fault. Only a wait for
the receipt can be overdue, and it is so whatever context its fault was given. -/
def failureOf : ChainQuestion → Fault → TransferFailure
  | .gasPrice, fault | .transferGas .., fault => .estimation fault
  | .send _, fault => .submission fault
  | .receipt _, ⟨.receiptTimeout hash waited, context⟩ =>
    .timeout ⟨.receiptTimeout hash waited, context⟩
  | .receipt _, fault => .submission fault
  | .transactionCount _, fault | .balance _, fault | .chainId, fault => .other fault

/-- The calls of the script, with what is written between them. -/
def scene (plan : Plan) (recipient : Address) (answers : Answers) : List (Moment Chain) := [
  .asked .gasPrice (.ok answers.gasPrice),
  .asked (.transferGas plan.payer.sender recipient plan.amount) (.ok answers.gasLimit),
  .asked (.transactionCount plan.payer.sender) (.ok answers.nonce),
  .asked (.balance plan.payer.sender) (.ok answers.balance),
  .noted (.accountState plan.payer.sender answers.balance answers.nonce),
  .asked (.send ((payment plan recipient answers).signed plan.payer.key)) (.ok answers.hash),
  .asked (.receipt answers.hash) (.ok answers.receipt)]

/-- Whether the payment that is made of the answers can be signed. -/
def CanSign (plan : Plan) (recipient : Address) (answers : Answers) : Prop :=
  (payment plan recipient answers).Signable plan.payer.key

/-- The courses a payment can take: all of its scene, or the scene up to a question that comes back
with a fault. What comes to be sent can be signed. -/
inductive Course (plan : Plan) (recipient : Address) :
    List (Moment Chain) → Except TransferFailure Report → Prop where
  | completed (answers : Answers) (canSign : CanSign plan recipient answers) :
    Course plan recipient (scene plan recipient answers) (.ok (report plan recipient answers))
  | failed (answers : Answers) (before : List (Moment Chain)) (question : ChainQuestion)
      (answer : Except Fault question.Value) (after : List (Moment Chain)) (fault : Fault)
      (split : scene plan recipient answers = before ++ .asked question answer :: after)
      (canSign : 4 ≤ before.length → CanSign plan recipient answers) :
    Course plan recipient (before ++ [.asked question (.error fault)])
      (.error (failureOf question fault))

/-- The ways a payment can end: it takes one of its courses, or it cannot be signed when all of its
scene before that was played. -/
inductive Ends (plan : Plan) (recipient : Address) :
    List (Moment Chain) → Except Breakdown (Except TransferFailure Report) → Prop where
  | coursed {moments : List (Moment Chain)} {result : Except TransferFailure Report}
      (course : Course plan recipient moments result) : Ends plan recipient moments (.ok result)
  | stopped (answers : Answers) (cannotSign : ¬ CanSign plan recipient answers) :
    Ends plan recipient ((scene plan recipient answers).take 5) (.error .wideRecovery)

/-! ### Every attempt takes one of its courses -/

theorem run_require_bind {Result : Type} (failure : Fault → TransferFailure)
    (question : ChainQuestion) (next : question.Value → Step Result) :
    (require failure question >>= next).run.run =
      .ask question fun
        | .ok value => (next value).run.run
        | .error fault => .done (.ok (.error (failure fault))) := by
  refine congrArg (@Dialogue.ask Chain _ question) (funext fun answer => ?_)
  cases answer <;> rfl

theorem run_sign_bind_of_ok {Result : Type} {payment : Payment} {key : PrivateKey}
    {transaction : SignedTransaction} (signed : payment.sign key = .ok transaction)
    (next : SignedTransaction → Step Result) :
    (sign payment key >>= next).run.run = (next transaction).run.run := by
  rw [sign, signed]
  rfl

theorem run_sign_bind_of_error {Result : Type} {payment : Payment} {key : PrivateKey}
    {breakdown : Breakdown} (unsigned : payment.sign key = .error breakdown)
    (next : SignedTransaction → Step Result) :
    (sign payment key >>= next).run.run = .done (.error breakdown) := by
  rw [sign, unsigned]
  rfl

section Playing

variable {State : Type} (node : Peer Chain State) (plan : Plan) (recipient : Address)

theorem play_require_bind {Result : Type} (failure : Fault → TransferFailure)
    (question : ChainQuestion) (next : question.Value → Step Result) (state : State) :
    (require failure question >>= next).run.run.play node state =
      match node.answer question state with
      | (.ok value, after) =>
        (⟨(), [.asked question (.ok value)], after⟩ : Playback Chain State Unit).followedBy
          ((next value).run.run.play node after)
      | (.error fault, after) =>
        ⟨.ok (.error (failure fault)), [.asked question (.error fault)], after⟩ := by
  rw [run_require_bind, Dialogue.play_ask]
  rcases node.answer question state with ⟨fault | value, after⟩ <;> rfl

theorem play_write_bind {Result : Type} (event : Event) (next : Unit → Step Result)
    (state : State) :
    (write event >>= next).run.run.play node state =
      (⟨(), [.noted event], state⟩ : Playback Chain State Unit).followedBy
        ((next ()).run.run.play node state) := rfl

/-- What is left of a payment ends in one of the ways it can, given what has been asked and written
so far. -/
def Continues (before : List (Moment Chain)) (rest : Step Report) : Prop :=
  ∀ state, Ends plan recipient (before ++ (rest.run.run.play node state).transcript)
    (rest.run.run.play node state).result

variable {node plan recipient}

theorem Continues.require {before : List (Moment Chain)} {failure : Fault → TransferFailure}
    {question : ChainQuestion} {next : question.Value → Step Report}
    (fails : ∀ fault, Course plan recipient (before ++ [.asked question (.error fault)])
      (.error (failure fault)))
    (continues : ∀ value,
      Continues node plan recipient (before ++ [.asked question (.ok value)]) (next value)) :
    Continues node plan recipient before (require failure question >>= next) := by
  intro state
  rw [play_require_bind]
  rcases node.answer question state with ⟨fault | value, after⟩
  · exact .coursed (fails fault)
  · have ends := continues value after
    rwa [List.append_assoc] at ends

theorem Continues.write {before : List (Moment Chain)} {event : Event}
    {next : Unit → Step Report}
    (continues : Continues node plan recipient (before ++ [.noted event]) (next ())) :
    Continues node plan recipient before (write event >>= next) := by
  intro state
  rw [play_write_bind]
  have ends := continues state
  rwa [List.append_assoc] at ends

theorem Continues.sign {before : List (Moment Chain)} {payment : Payment} {key : PrivateKey}
    {next : SignedTransaction → Step Report}
    (stops : ¬ payment.Signable key → Ends plan recipient before (.error .wideRecovery))
    (continues : payment.Signable key →
      Continues node plan recipient before (next (payment.signed key))) :
    Continues node plan recipient before (sign payment key >>= next) := by
  intro state
  by_cases signable : payment.Signable key
  · rw [run_sign_bind_of_ok (Payment.sign_of_signable signable)]
    exact continues signable state
  · rw [run_sign_bind_of_error (Payment.sign_of_not_signable signable)]
    have ends := stops signable
    rwa [← List.append_nil before] at ends

theorem receiptFailure_eq (hash : TransactionHash) (fault : Fault) :
    receiptFailure fault = failureOf (.receipt hash) fault := by
  obtain ⟨cause, context⟩ := fault
  cases cause <;> rfl

variable (node plan recipient)

theorem continues_pay : Continues node plan recipient [] (pay plan recipient) := by
  have early {before : List (Moment Chain)} {signable : Prop} (short : before.length < 4)
      (long : 4 ≤ before.length) : signable := absurd long (Nat.not_le_of_lt short)
  refine .require
    (fun fault => .failed .unknown [] .gasPrice (.ok _) _ fault rfl (early (by simp)))
    fun gasPrice => ?_
  let answers : Answers := { Answers.unknown with gasPrice := gasPrice }
  refine .require
    (fun fault => .failed answers [_] (.transferGas ..) (.ok _) _ fault rfl (early (by simp)))
    fun gasLimit => ?_
  let answers : Answers := { answers with gasLimit := gasLimit }
  refine .require
    (fun fault =>
      .failed answers [_, _] (.transactionCount _) (.ok _) _ fault rfl (early (by simp)))
    fun nonce => ?_
  let answers : Answers := { answers with nonce := nonce }
  refine .require
    (fun fault => .failed answers [_, _, _] (.balance _) (.ok _) _ fault rfl (early (by simp)))
    fun balance => .write ?_
  let answers : Answers := { answers with balance := balance }
  refine .sign (fun unsignable => .stopped answers unsignable) fun signable => ?_
  refine .require
    (fun fault => .failed answers [_, _, _, _, _] (.send _) (.ok _) _ fault rfl
      fun _ => signable) fun hash => ?_
  let answers : Answers := { answers with hash := hash }
  refine .require (fun fault => ?_) fun receipt state => ?_
  · rw [receiptFailure_eq hash]
    exact .failed answers [_, _, _, _, _, _] (.receipt hash) (.ok _) _ fault rfl fun _ => signable
  · exact .coursed (.completed { answers with receipt := receipt } signable)

theorem play_writeAll {Result : Type} (result : Result) (events : List Event) (state : State) :
    (writeAll result events : Dialogue Chain Result).play node state =
      ⟨result, events.map Moment.noted, state⟩ := by
  induction events with
  | nil => rfl
  | cons event rest inductionHypothesis =>
    rw [writeAll, Dialogue.play_note, inductionHypothesis]
    rfl

end Playing

/-- How an attempt can be played: a course of its payment and the events that tell how it ended, or
a payment that cannot be signed when all questions before were answered. -/
inductive Attempted (plan : Plan) (recipient : Address) : List (Call Chain) → List Event →
    Except Breakdown (Except TransferFailure Report) → Prop where
  | coursed {moments : List (Moment Chain)} {result : Except TransferFailure Report}
      (course : Course plan recipient moments result) :
    Attempted plan recipient (moments.filterMap Moment.call?)
      (moments.filterMap Moment.event? ++ closing plan recipient result) (.ok result)
  | stopped (answers : Answers) (cannotSign : ¬ CanSign plan recipient answers) :
    Attempted plan recipient ((script plan recipient answers).take 4)
      [.accountState plan.payer.sender answers.balance answers.nonce] (.error .wideRecovery)

theorem attempted_attempt {State : Type} (node : Peer Chain State) (plan : Plan)
    (recipient : Address) (state : State) :
    let played := (attempt plan recipient).play node state
    Attempted plan recipient played.calls played.events played.result := by
  have ends := continues_pay node plan recipient state
  rw [List.nil_append] at ends
  simp only [attempt, Dialogue.play_andThen, Playback.calls, Playback.events, Playback.followedBy]
  generalize transcript : ((pay plan recipient).run.run.play node state).transcript = moments
    at ends ⊢
  generalize ((pay plan recipient).run.run.play node state).result = result at ends ⊢
  cases ends with
  | coursed course =>
    simp only [play_writeAll, List.filterMap_append, Moment.calls_noted, Moment.events_noted,
      List.append_nil]
    exact .coursed course
  | stopped answers cannotSign => exact .stopped answers cannotSign

/-! ### The calls of an attempt -/

/-- The calls of the courses an attempt can take: the script, or its start up to a question that
comes back with a fault. What comes to be sent can be signed. -/
inductive Conduct (plan : Plan) (recipient : Address) :
    List (Call Chain) → Except TransferFailure Report → Prop where
  | completed (answers : Answers) (canSign : CanSign plan recipient answers) :
    Conduct plan recipient (script plan recipient answers) (.ok (report plan recipient answers))
  | failed (answers : Answers) (before : List (Call Chain)) (call : Call Chain)
      (after : List (Call Chain)) (fault : Fault)
      (split : script plan recipient answers = before ++ call :: after)
      (canSign : 4 ≤ before.length → CanSign plan recipient answers) :
    Conduct plan recipient (before ++ [⟨call.question, .error fault⟩])
      (.error (failureOf call.question fault))

variable {plan : Plan} {recipient : Address}

theorem calls_scene (answers : Answers) :
    (scene plan recipient answers).filterMap Moment.call? = script plan recipient answers := rfl

theorem Course.conduct {moments : List (Moment Chain)} {result : Except TransferFailure Report}
    (course : Course plan recipient moments result) :
    Conduct plan recipient (moments.filterMap Moment.call?) result := by
  cases course with
  | completed answers canSign => exact .completed answers canSign
  | failed answers before question answer after fault split canSign =>
    rw [List.filterMap_append]
    refine .failed answers (before.filterMap Moment.call?) ⟨question, answer⟩
      (after.filterMap Moment.call?) fault ?_
      fun long => canSign (Nat.le_trans long (List.length_filterMap_le _ _))
    rw [← calls_scene, split, List.filterMap_append]
    rfl

theorem failed_of_mem_script {answers : Answers} {call : Call Chain}
    (member : call ∈ script plan recipient answers) : call.failed = false := by
  simp only [script, List.mem_cons, List.not_mem_nil, or_false] at member
  rcases member with rfl | rfl | rfl | rfl | rfl | rfl <;> rfl

theorem nodup_questions_script (plan : Plan) (recipient : Address) (answers : Answers) :
    ((script plan recipient answers).map Call.question).Nodup := by
  simp [script]

theorem countP_isSend_script (plan : Plan) (recipient : Address) (answers : Answers) :
    ((script plan recipient answers).map Call.question).countP ChainQuestion.isSend = 1 := rfl

/-- A list is cut at an element by an index. -/
theorem exists_index_of_cut {Element : Type} {whole before after : List Element}
    {element : Element} (split : whole = before ++ element :: after) :
    ∃ index < whole.length, before = whole.take index ∧ whole[index]? = some element := by
  subst split
  refine ⟨before.length, ?_, List.take_left.symm, ?_⟩
  · rw [List.length_append, List.length_cons]
    omega
  · rw [List.getElem?_append_right (Nat.le_refl _), Nat.sub_self]
    rfl

/-- The call at which the script is cut is one of its six, and all calls before it are kept. -/
theorem exists_index_of_split {answers : Answers} {before after : List (Call Chain)}
    {call : Call Chain} (split : script plan recipient answers = before ++ call :: after) :
    ∃ index < 6, before = (script plan recipient answers).take index ∧
      (script plan recipient answers)[index]? = some call :=
  exists_index_of_cut split

variable {calls : List (Call Chain)} {result : Except TransferFailure Report}

theorem sign_eq_of_mem_script {answers : Answers} (canSign : CanSign plan recipient answers)
    {transaction : SignedTransaction}
    (sent : .send transaction ∈ (script plan recipient answers).map Call.question) :
    (payment plan recipient answers).sign plan.payer.key = .ok transaction := by
  have made : transaction = (payment plan recipient answers).signed plan.payer.key := by
    simpa [script] using sent
  exact Payment.sign_eq_ok_iff.mpr ⟨canSign, made⟩

/-- None of the first four questions sends a payment. -/
theorem not_mem_take_questions {answers : Answers} {transaction : SignedTransaction} {count : Nat}
    (few : count < 4) :
    .send transaction ∉ ((script plan recipient answers).map Call.question).take (count + 1) := by
  intro sent
  have early := List.take_subset_take_left _ few sent
  simp [script] at early

/-- The questions of calls that are cut off at a fault are those of the script up to there. -/
theorem questions_of_split {answers : Answers} {before after : List (Call Chain)}
    {call : Call Chain} (split : script plan recipient answers = before ++ call :: after)
    (fault : Fault) :
    (before ++ [(⟨call.question, .error fault⟩ : Call Chain)]).map Call.question =
      ((script plan recipient answers).map Call.question).take (before.length + 1) := by
  have sameLength : (before.map Call.question).length = before.length := List.length_map _
  rw [split, List.map_append, List.map_append, ← sameLength, List.take_length_add_append]
  rfl

/-- The calls of an attempt are a start of the script, with all but the last answered as there. A
payment is sent only when four questions are answered, and then it is the one made of the answers,
signed. -/
theorem Conduct.starts_script (conduct : Conduct plan recipient calls result) :
    ∃ answers : Answers,
      calls ≠ [] ∧
      calls.map Call.question <+: (script plan recipient answers).map Call.question ∧
      calls.dropLast <+: script plan recipient answers ∧
      (∀ transaction, .send transaction ∈ calls.map Call.question →
        calls.take 4 = (script plan recipient answers).take 4 ∧
          (payment plan recipient answers).sign plan.payer.key = .ok transaction) ∧
      ∀ given, result = .ok given →
        calls = script plan recipient answers ∧ given = report plan recipient answers := by
  cases conduct with
  | completed answers canSign =>
    refine ⟨answers, List.cons_ne_nil _ _, List.prefix_refl _, List.dropLast_prefix _,
      fun transaction sent => ⟨rfl, sign_eq_of_mem_script canSign sent⟩,
      fun given done => ⟨rfl, ?_⟩⟩
    exact (Except.ok.inj done).symm
  | failed answers before call after fault split canSign =>
    have asked := questions_of_split split fault
    refine ⟨answers, List.append_ne_nil_of_right_ne_nil _ (List.cons_ne_nil _ _), ?_, ?_,
      fun transaction sent => ?_, fun given done => nomatch done⟩
    · rw [asked]
      exact List.take_prefix _ _
    · rw [split, List.dropLast_concat]
      exact List.prefix_append _ _
    · rw [asked] at sent
      rcases Nat.lt_or_ge before.length 4 with early | late
      · exact (not_mem_take_questions early sent).elim
      · refine ⟨?_, sign_eq_of_mem_script (canSign late) (List.mem_of_mem_take sent)⟩
        rw [split, List.take_append_of_le_length late, List.take_append_of_le_length late]

/-- An attempt fails exactly if its last call does. -/
theorem Conduct.error_iff (conduct : Conduct plan recipient calls result) :
    (∃ failure, result = .error failure) ↔
      ∃ last, calls.getLast? = some last ∧ last.failed = true := by
  cases conduct with
  | completed answers =>
    constructor
    · rintro ⟨failure, failed⟩
      exact nomatch failed
    · rintro ⟨last, isLast, failed⟩
      rw [failed_of_mem_script (List.mem_of_getLast? isLast)] at failed
      exact nomatch failed
  | failed answers before call after fault split =>
    exact ⟨fun _ => ⟨_, List.getLast?_concat, rfl⟩, fun _ => ⟨_, rfl⟩⟩

/-- How an attempt failed is decided by its last question and what came back. -/
theorem Conduct.failure_eq {failure : TransferFailure}
    (conduct : Conduct plan recipient calls (.error failure)) :
    ∃ question fault, calls.getLast? = some ⟨question, .error fault⟩ ∧
      failure = failureOf question fault := by
  cases conduct with
  | failed answers before call after fault split =>
    exact ⟨call.question, fault, List.getLast?_concat, rfl⟩

/-- A receipt is waited for only when a payment was sent before, and the hash it is waited for by is
the one that came back. -/
theorem Conduct.sent_of_awaited (conduct : Conduct plan recipient calls result)
    {hash : TransactionHash} (awaited : .receipt hash ∈ calls.map Call.question) :
    ∃ transaction, ⟨.send transaction, .ok hash⟩ ∈ calls := by
  cases conduct with
  | completed answers =>
    have same : hash = answers.hash := by simpa [script] using awaited
    subst same
    exact ⟨_, List.mem_of_getElem? (i := 4) rfl⟩
  | failed answers before call after fault split =>
    obtain ⟨index, bound, rfl, found⟩ := exists_index_of_split split
    match index, bound with
    | 0, _ | 1, _ | 2, _ | 3, _ | 4, _ =>
      obtain rfl := Option.some.inj found
      simp [script] at awaited
    | 5, _ =>
      obtain rfl := Option.some.inj found
      have same : hash = answers.hash := by simpa [script] using awaited
      subst same
      exact ⟨_, List.mem_of_getElem? (i := 4) rfl⟩

/-- An attempt asks a start of its script, which is not empty. All calls but the last are answered
as in the script, and the payment sent is the one made of these answers, signed; the last one fails
exactly if the attempt does. An attempt that succeeds has gone through all of the script and reports
its answers; one that fails is said to have failed as the last question and its fault decide. One
that breaks down has had its first four questions answered, and the payment made of the answers
cannot be signed. A receipt is waited for by the hash that the node gave for the payment; no
question is asked twice, and a payment is sent once at most. -/
theorem attempt_follows_script {State : Type} (node : Peer Chain State) (plan : Plan)
    (recipient : Address) (state : State) :
    let played := (attempt plan recipient).play node state
    ∃ answers : Answers,
      played.calls ≠ [] ∧
      played.questions <+: (script plan recipient answers).map Call.question ∧
      played.calls.dropLast <+: script plan recipient answers ∧
      (∀ call ∈ played.calls.dropLast, call.failed = false) ∧
      ((∃ failure, played.result = .ok (.error failure)) ↔
        ∃ last, played.calls.getLast? = some last ∧ last.failed = true) ∧
      (∀ given, played.result = .ok (.ok given) →
        played.calls = script plan recipient answers ∧ given = report plan recipient answers) ∧
      (∀ failure, played.result = .ok (.error failure) →
        ∃ question fault, played.calls.getLast? = some ⟨question, .error fault⟩ ∧
          failure = failureOf question fault) ∧
      (∀ breakdown, played.result = .error breakdown →
        breakdown = .wideRecovery ∧ played.calls = (script plan recipient answers).take 4 ∧
          (payment plan recipient answers).sign plan.payer.key = .error breakdown) ∧
      (∀ transaction, .send transaction ∈ played.questions →
        (payment plan recipient answers).sign plan.payer.key = .ok transaction) ∧
      (∀ hash, .receipt hash ∈ played.questions →
        ∃ transaction, ⟨.send transaction, .ok hash⟩ ∈ played.calls) ∧
      played.questions.Nodup ∧
      played.questions.countP ChainQuestion.isSend ≤ 1 := by
  intro played
  have attempted : Attempted plan recipient played.calls played.events played.result :=
    attempted_attempt node plan recipient state
  rw [played.questions_eq_map_calls]
  generalize played.calls = calls, played.events = events, played.result = result at attempted ⊢
  cases attempted with
  | coursed course =>
    have conduct := course.conduct
    obtain ⟨answers, some_call, ahead, answered, sent, completed⟩ := conduct.starts_script
    refine ⟨answers, some_call, ahead, answered, fun call member => ?_, ?_,
      fun given done => completed given (Except.ok.inj done), fun failure failed => ?_, nofun,
      fun transaction asked => (sent transaction asked).2,
      fun hash awaited => conduct.sent_of_awaited awaited, ?_, ?_⟩
    · exact failed_of_mem_script (answered.subset member)
    · simp only [Except.ok.injEq]
      exact conduct.error_iff
    · obtain rfl := Except.ok.inj failed
      exact conduct.failure_eq
    · exact (nodup_questions_script plan recipient answers).sublist ahead.sublist
    · rw [← countP_isSend_script plan recipient answers]
      exact ahead.sublist.countP_le
  | stopped answers cannotSign =>
    have ahead := List.take_prefix 4 (script plan recipient answers)
    have asked := ahead.map Call.question
    refine ⟨answers, List.cons_ne_nil _ _, asked, (List.dropLast_prefix _).trans ahead,
      fun call member => failed_of_mem_script
        (ahead.subset ((List.dropLast_prefix _).subset member)), ?_, nofun, nofun,
      fun breakdown stopped => ?_, fun transaction sent => ?_, fun hash awaited => ?_, ?_, ?_⟩
    · refine ⟨fun ⟨_, failed⟩ => (nomatch failed), fun ⟨last, isLast, failed⟩ => ?_⟩
      rw [failed_of_mem_script (ahead.subset (List.mem_of_getLast? isLast))] at failed
      exact nomatch failed
    · obtain rfl := Except.error.inj stopped
      exact ⟨rfl, rfl, Payment.sign_of_not_signable cannotSign⟩
    · simp [script] at sent
    · simp [script] at awaited
    · exact (nodup_questions_script plan recipient answers).sublist asked.sublist
    · rw [← countP_isSend_script plan recipient answers]
      exact asked.sublist.countP_le

end Transfer

end Trickle
