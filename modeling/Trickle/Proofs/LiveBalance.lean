/-
This file proves that the balance a node gives for the paying account is written to the log
and decides nothing. Two nodes that differ in that figure alone are asked the same
questions, down to the bytes of every payment, and runs against them come to the same
outcomes and the same summary; what they write differs in the figure alone. Whether an
entry of the file is paid is up to the balance that its own row records.

An attempt goes on in lockstep with itself when the balances it hears differ, as it uses
them for one line of the log; so does a run, which is made of attempts.
-/

import Trickle.Proofs.AttemptedRows
import Trickle.Proofs.Lockstep
import Trickle.Proofs.Steering

namespace Trickle

open Dialogue (Lockstep)

/-! ### Alike but for the balance -/

/-- Events that are the same, or show two balances of the same account with the same nonce. -/
inductive Event.SameButBalance : Event → Event → Prop where
  | same (event : Event) : SameButBalance event event
  | figure (sender : Address) (balance balance' : Wei) (nonce : BitVec 64) :
    SameButBalance (.accountState sender balance nonce) (.accountState sender balance' nonce)

/-- Entries of a transcript that are the same, or differ in a balance that a node gave. -/
inductive Moment.SameButBalance : Moment Chain → Moment Chain → Prop where
  | noted {event event' : Event} (alike : event.SameButBalance event') :
    SameButBalance (.noted event) (.noted event')
  | same (question : ChainQuestion) (answer : Except Fault question.Value) :
    SameButBalance (.asked question answer) (.asked question answer)
  | figure (account : Address) (balance balance' : Wei) :
    SameButBalance (.asked (.balance account) (.ok balance))
      (.asked (.balance account) (.ok balance'))

/-- The same questions, with the same answers but for the balances that are given. -/
def butBalance : Likeness Chain :=
  ⟨Eq, Moment.SameButBalance⟩

namespace Moment

theorem questions_eq {transcript transcript' : List (Moment Chain)}
    (alike : List.Forall₂ SameButBalance transcript transcript') :
    transcript.filterMap question? = transcript'.filterMap question? := by
  induction alike with
  | nil => rfl
  | cons head _ inductionHypothesis =>
    rw [List.filterMap_cons, List.filterMap_cons, inductionHypothesis]
    cases head <;> rfl

theorem events_alike {transcript transcript' : List (Moment Chain)}
    (alike : List.Forall₂ SameButBalance transcript transcript') :
    List.Forall₂ Event.SameButBalance (transcript.filterMap event?)
      (transcript'.filterMap event?) := by
  induction alike with
  | nil => exact .nil
  | cons head _ inductionHypothesis =>
    cases head with
    | noted event => exact .cons event inductionHypothesis
    | same question answer => exact inductionHypothesis
    | figure account balance balance' => exact inductionHypothesis

end Moment

/-! ### Attempts and runs in lockstep -/

namespace Transfer

section Steps

variable {Result : Type} {failure : Fault → TransferFailure}

/-- What comes of a question goes on in lockstep if its answers lead to the same. -/
theorem lockstep_require_of {likeness : Likeness Chain} {question question' : ChainQuestion}
    {next : question.Value → Step Result} {next' : question'.Value → Step Result}
    (asked : likeness.question question question')
    (later : ∀ answer answer',
      likeness.moment (.asked question answer) (.asked question' answer') →
        EndsAlike
          (fun value value' => Lockstep likeness Eq (next value).run.run (next' value').run.run)
          answer answer') :
    Lockstep likeness Eq (require failure question >>= next).run.run
      (require failure question' >>= next').run.run := by
  rw [run_require_bind, run_require_bind]
  refine .ask asked fun answer answer' alike => ?_
  cases later answer answer' alike with
  | ok values => exact values
  | error fault => exact .done rfl

/-- A question for anything but a balance is answered the same. -/
theorem lockstep_require {question : ChainQuestion} {next : question.Value → Step Result}
    (noBalance : ∀ account, question ≠ .balance account)
    (later : ∀ value, Lockstep butBalance Eq (next value).run.run (next value).run.run) :
    Lockstep butBalance Eq (require failure question >>= next).run.run
      (require failure question >>= next).run.run := by
  refine lockstep_require_of rfl fun answer answer' alike => ?_
  cases alike with
  | same => exact .refl later answer
  | figure account => exact absurd rfl (noBalance account)

/-- What comes after a question for a balance must not depend on it. -/
theorem lockstep_require_balance {account : Address} {next : Wei → Step Result}
    (later : ∀ balance balance',
      Lockstep butBalance Eq (next balance).run.run (next balance').run.run) :
    Lockstep butBalance Eq (require failure (.balance account) >>= next).run.run
      (require failure (.balance account) >>= next).run.run := by
  refine lockstep_require_of rfl fun answer answer' alike => ?_
  cases alike with
  | same => exact .refl (fun balance => later balance balance) answer
  | figure _ balance balance' => exact .ok (later balance balance')

/-- A payment is signed in lockstep, or breaks down so. -/
theorem lockstep_sign {likeness : Likeness Chain} {payment : Payment} {key : PrivateKey}
    {next : SignedTransaction → Step Result}
    (later : ∀ transaction,
      Lockstep likeness Eq (next transaction).run.run (next transaction).run.run) :
    Lockstep likeness Eq (sign payment key >>= next).run.run
      (sign payment key >>= next).run.run := by
  cases signed : payment.sign key with
  | ok transaction =>
    rw [run_sign_bind_of_ok signed]
    exact later transaction
  | error breakdown =>
    rw [run_sign_bind_of_error signed]
    exact .done rfl

end Steps

variable (plan : Plan) (recipient : Address)

theorem lockstep_pay :
    Lockstep butBalance Eq (pay plan recipient).run.run (pay plan recipient).run.run := by
  refine lockstep_require (fun _ => nofun) fun gasPrice => ?_
  refine lockstep_require (fun _ => nofun) fun gasLimit => ?_
  refine lockstep_require (fun _ => nofun) fun nonce => ?_
  refine lockstep_require_balance fun balance balance' => ?_
  refine .note (.noted (.figure plan.payer.sender balance balance' nonce)) ?_
  refine lockstep_sign fun transaction => ?_
  refine lockstep_require (fun _ => nofun) fun hash => ?_
  exact lockstep_require (fun _ => nofun) fun receipt => .done rfl

theorem lockstep_writeAll {Answer : Type} (result : Answer) (events : List Event) :
    Lockstep butBalance Eq (writeAll result events) (writeAll result events) := by
  induction events with
  | nil => exact .done rfl
  | cons event rest inductionHypothesis => exact .note (.noted (.same event)) inductionHypothesis

theorem lockstep_attempt :
    Lockstep butBalance Eq (attempt plan recipient) (attempt plan recipient) := by
  refine (lockstep_pay plan recipient).andThen fun result other same => ?_
  subst same
  cases result with
  | ok result => exact lockstep_writeAll _ _
  | error breakdown => exact .done rfl

/-- Any work made of attempts is in lockstep with itself. -/
theorem lockstep_through_attempt {Answer : Type} (work : Dialogue Payouts Answer) :
    Lockstep butBalance (EndsAlike Eq) (work.throughOrStop (attempt plan))
      (work.throughOrStop (attempt plan)) := by
  refine (Lockstep.refl work).throughOrStop (fun same => ?_) fun {recipient recipient'} same => ?_
  · cases same
    exact .noted (.same _)
  · cases same
    refine (lockstep_attempt plan recipient).mono fun result other same => ?_
    subst same
    cases result with
    | ok result => exact .ok rfl
    | error breakdown => exact .error breakdown

end Transfer

/-! ### What decides about a row -/

namespace Entry

/-- The number that the balance text of a row writes, if it has such a text and this is a number. -/
def recorded? (row : String) : Option Binary64 :=
  (splitField row.toList).2.bind fun behind => balance? (trim (splitField behind).1)

theorem recorded?_of_read {row : String} {entry : Entry} (read : Entry.read row = .ok entry) :
    recorded? row = some entry.balance := by
  unfold Entry.read at read
  unfold recorded?
  split at read
  next => exact nomatch read
  next first behind split =>
    rw [split]
    dsimp only at read
    split at read
    next => exact nomatch read
    next address _ =>
      split at read
      next => exact nomatch read
      next balance isBalance =>
        cases read
        exact isBalance

end Entry

/-- An entry is attempted exactly if its balance text writes a number above zero. -/
theorem Run.kind_eq_attempted_iff (row : String) :
    kind row = .attempted ↔
      (∃ entry, Entry.read row = .ok entry) ∧
        ∃ balance, Entry.recorded? row = some balance ∧ balance.isPositive = true := by
  unfold kind
  cases read : Entry.read row with
  | error error => simp
  | ok entry =>
    rw [Entry.recorded?_of_read read]
    cases funded : entry.balance.isPositive <;> simp [Entry.isFunded, funded]

namespace Transfer

/-- Two nodes that differ in nothing but the balances they give are asked the same questions in a
run, so that the payments sent to them are the same to the byte. The runs end alike: with the same
summary and at the same place of the file, or broken down over the same row, and the rows before
have the same outcomes, reports included. The transcripts, and so the events, are the same but for
the balances given and shown. An entry is attempted exactly if the balance text of its row writes a
number above zero. -/
theorem balance_is_only_logged {First Second : Type} {related : First → Second → Prop}
    {first : Peer Chain First} {second : Peer Chain Second}
    (alike : Peer.Alike butBalance related first second) (plan : Plan) {firstStart : First}
    {secondStart : Second} (start : related firstStart secondStart) (cursor : Cursor)
    (count : Nat) :
    let rows := cursor.ahead count
    let one := ((Run.rows count cursor).throughOrStop (attempt plan)).play first firstStart
    let other := ((Run.rows count cursor).throughOrStop (attempt plan)).play second secondStart
    let outcomes := Dialogue.finished (Run.visits first (attempt plan) rows firstStart)
    let others := Dialogue.finished (Run.visits second (attempt plan) rows secondStart)
    one.questions = other.questions ∧
    one.result = other.result ∧
    Run.Ending plan rows outcomes (one.result.map Prod.fst) ∧
    outcomes = others ∧
    List.Forall₂ Moment.SameButBalance one.transcript other.transcript ∧
    List.Forall₂ Event.SameButBalance one.events other.events ∧
    List.Forall₂ (fun row outcome => outcome.kind = .attempted ↔
      (∃ entry, Entry.read row = .ok entry) ∧
        ∃ balance, Entry.recorded? row = some balance ∧ balance.isPositive = true)
      (rows.take outcomes.length) outcomes := by
  intro rows one other outcomes others
  have lockstep := (lockstep_through_attempt plan (Run.rows count cursor)).play alike start
  have visited := Lockstep.playUntil
    (fun row => lockstep_through_attempt plan (Run.processRow row)) alike rows start
  refine ⟨Moment.questions_eq lockstep.transcript, lockstep.result.eq,
    Run.ending_rows first plan count cursor firstStart, Dialogue.finished_eq visited,
    lockstep.transcript, Moment.events_alike lockstep.transcript, ?_⟩
  refine (Run.until_visits first (attempt plan) rows firstStart).forall₂_finished
    fun row visit outcome ⟨_, played⟩ ended => ?_
  rw [played.kind_eq ended]
  exact Run.kind_eq_attempted_iff row

/-- A node that counts what it is asked, takes every payment, and says that an account holds as
much as its count asks for. -/
def holding (balance : Nat → Wei) : Peer Chain Nat where
  answer
    | .chainId, asked => (.ok 1, asked + 1)
    | .gasPrice, asked => (.ok 1, asked + 1)
    | .transferGas .., asked => (.ok 21000, asked + 1)
    | .transactionCount _, asked => (.ok 0, asked + 1)
    | .balance _, asked => (.ok (balance asked), asked + 1)
    | .send _, asked => (.ok ⟨0⟩, asked + 1)
    | .receipt _, asked => (.ok ⟨21000, true⟩, asked + 1)

theorem holding_alike (balance balance' : Nat → Wei) :
    Peer.Alike butBalance Eq (holding balance) (holding balance') where
  answers {question other asked asked'} same start := by
    cases same
    cases start
    cases question with
    | balance account => exact .figure account _ _
    | _ => exact .same _ _
  states {question other asked asked'} same start := by
    cases same
    cases start
    cases question <;> rfl

/-- A node with empty accounts and one whose accounts fill up are asked the same, though the events
show that they differ. -/
theorem empty_and_filling_accounts :
    let plan : Plan :=
      { payer := { key := ⟨1, by decide, by decide⟩, sender := ⟨1⟩ }, amount := 10, chainId := 1 }
    let work := (Run.rows 4 Run.twoRows).throughOrStop (attempt plan)
    let empty := work.play (holding fun _ => 0) 0
    let filling := work.play (holding fun asked => BitVec.ofNat 256 asked) 0
    Peer.Alike butBalance Eq (holding fun _ => 0) (holding fun asked => BitVec.ofNat 256 asked) ∧
      empty.questions = filling.questions ∧ empty.result = filling.result ∧
      empty.questions.length = 12 ∧ empty.events ≠ filling.events := by
  intro plan work empty filling
  have alike := holding_alike (fun _ => 0) (fun asked => BitVec.ofNat 256 asked)
  obtain ⟨questions, result, _⟩ := balance_is_only_logged alike plan rfl Run.twoRows 4
  exact ⟨alike, questions, result, by decide +kernel, by decide +kernel⟩

end Transfer

end Trickle
