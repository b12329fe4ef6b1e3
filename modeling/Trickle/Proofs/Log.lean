/-
This file proves that the log of a run agrees with its summary. Each row leaves lines by
which its outcome is counted: one at the level of errors if its attempt failed or its
payment was taken back, one at the level of warnings if it is no entry, one that begins
with fixed words if it was paid, skipped or ran out of time. An attempt writes how much
the paying account holds if the node says so, and then one line that tells how it came
out and names the account to be paid.

The counts of lines and of outcomes are sums over the rows, so they agree for a run once
they do for the work on one row. A row over which the run breaks down is not counted: its
attempt has written how much the paying account holds, and nothing else.
-/

import Trickle.Proofs.AttemptedRows
import Trickle.Proofs.Wording

namespace Trickle

open Event (begins shows isUnder begins_heading countP_begins countP_shows)

/-- Whether a node gives a balance. -/
def Call.givesBalance (call : Call Chain) : Bool :=
  match call.question with
  | .balance _ => !call.failed
  | _ => false

namespace Outcome

/-- Whether a payment is in the chain and was not taken back. -/
def isPaid : Outcome → Bool
  | .transferred report => report.succeeded
  | _ => false

/-- Whether a payment is in the chain but was taken back. -/
def isTakenBack : Outcome → Bool
  | .transferred report => !report.succeeded
  | _ => false

theorem countP_isPaid (outcomes : List Outcome) :
    (outcomes.filterMap report?).countP (fun report => report.succeeded) =
      outcomes.countP isPaid := by
  rw [List.countP_filterMap]
  exact List.countP_congr fun outcome _ => by cases outcome <;> rfl

theorem countP_isTakenBack (outcomes : List Outcome) :
    (outcomes.filterMap report?).countP (fun report => !report.succeeded) =
      outcomes.countP isTakenBack := by
  rw [List.countP_filterMap]
  exact List.countP_congr fun outcome _ => by cases outcome <;> rfl

end Outcome

namespace Log

/-! ### Lines and outcomes -/

/-- What the calls and the lines of some rows and the outcomes of these rows have to do with each
other. The line that ends a run is none of them. -/
structure Agrees (calls : List (Call Chain)) (events : List Event) (outcomes : List Outcome) :
    Prop where
  errors : events.countP (fun event => event.level = .error) =
    outcomes.countP Outcome.isFailed + outcomes.countP Outcome.isTakenBack
  overdue : events.countP (isUnder .receiptOverdue) = outcomes.countP Outcome.isTimedOut
  transferred : events.countP (isUnder .transferred) = outcomes.countP Outcome.isPaid
  unfunded : events.countP (isUnder .unfunded) = outcomes.countP Outcome.isSkipped
  warnings : events.countP (fun event => event.level = .warning) =
    outcomes.countP Outcome.isMalformed
  balances : events.countP (isUnder .accountState) = calls.countP Call.givesBalance
  unfinished : events.countP (isUnder .finished) = 0

theorem Agrees.append {calls moreCalls : List (Call Chain)} {events moreEvents : List Event}
    {outcomes others : List Outcome} (left : Agrees calls events outcomes)
    (right : Agrees moreCalls moreEvents others) :
    Agrees (calls ++ moreCalls) (events ++ moreEvents) (outcomes ++ others) where
  errors := by
    simp only [List.countP_append, left.errors, right.errors]
    omega
  overdue := by simp only [List.countP_append, left.overdue, right.overdue]
  transferred := by simp only [List.countP_append, left.transferred, right.transferred]
  unfunded := by simp only [List.countP_append, left.unfunded, right.unfunded]
  warnings := by simp only [List.countP_append, left.warnings, right.warnings]
  balances := by simp only [List.countP_append, left.balances, right.balances]
  unfinished := by simp only [List.countP_append, left.unfinished, right.unfinished]

theorem agrees_malformed (error : EntryError) : Agrees [] [.malformedRow error] [.malformed] :=
  ⟨rfl, rfl, rfl, rfl, rfl, rfl, rfl⟩

theorem agrees_skipped (address : Address) : Agrees [] [.unfunded address] [.skipped] :=
  ⟨rfl, rfl, rfl, rfl, rfl, rfl, rfl⟩

/-! ### The lines of an attempt -/

/-- A line that tells how the attempt to pay an account came out. -/
structure Tells (line : Event) (recipient : Address) (outcome : Outcome) : Prop where
  level_eq : line.level = if outcome.isFailed || outcome.isTakenBack then .error else .info
  names : line.Names recipient
  other : line.begins "Current balance of" = false

/-- What an attempt to pay an account writes: how much the paying account holds, exactly if the node
was asked for it and said so, and then, unless it breaks down, one line that tells how the attempt
came out. Lines behind it are of the lowest level. -/
structure Told (recipient : Address) (calls : List (Call Chain)) (events : List Event)
    (result : Except Breakdown Outcome) : Prop where
  once : calls.countP Call.givesBalance ≤ 1
  balance : events.countP (begins · "Current balance of") = calls.countP Call.givesBalance
  line : ∀ outcome, result = .ok outcome →
    ∃ before line after, events = before ++ line :: after ∧
      (∀ event ∈ before, event.begins "Current balance of") ∧
      Tells line recipient outcome ∧
      ∀ event ∈ after, event.level = .debug
  silent : ∀ breakdown, result = .error breakdown →
    ∀ event ∈ events, event.begins "Current balance of"

section Courses

open Transfer (Course closing)

variable {plan : Plan} {recipient : Address} {moments : List (Moment Chain)}
  {result : Except TransferFailure Report}

/-- How much the account holds is written once if the node said so, and not at all if it did not or
was not asked. -/
theorem statement_of_course (course : Course plan recipient moments result) :
    (moments.filterMap Moment.event? = [] ∧
      (moments.filterMap Moment.call?).countP Call.givesBalance = 0) ∨
    ∃ balance nonce,
      moments.filterMap Moment.event? = [.accountState plan.payer.sender balance nonce] ∧
      (moments.filterMap Moment.call?).countP Call.givesBalance = 1 := by
  cases course with
  | completed answers => exact .inr ⟨_, _, rfl, rfl⟩
  | failed answers before question answer after fault split =>
    obtain ⟨index, bound, rfl, found⟩ := Transfer.exists_index_of_cut split
    have bound : index < 7 := bound
    match index, bound with
    | 0, _ | 1, _ | 2, _ | 3, _ =>
      obtain ⟨rfl, _⟩ := Moment.asked.inj (Option.some.inj found)
      exact .inl ⟨rfl, rfl⟩
    | 4, _ => exact nomatch Option.some.inj found
    | 5, _ | 6, _ =>
      obtain ⟨rfl, _⟩ := Moment.asked.inj (Option.some.inj found)
      exact .inr ⟨_, _, rfl, rfl⟩

theorem agrees_closing (plan : Plan) (recipient : Address)
    (result : Except TransferFailure Report) :
    Agrees [] (closing plan recipient result) [Run.outcome result] := by
  cases result with
  | ok report =>
    obtain ⟨payee, hash, gasUsed, fees, succeeded⟩ := report
    cases succeeded <;> exact ⟨rfl, rfl, rfl, rfl, rfl, rfl, rfl⟩
  | error failure => cases failure <;> exact ⟨rfl, rfl, rfl, rfl, rfl, rfl, rfl⟩

theorem agrees_of_course (course : Course plan recipient moments result) :
    Agrees (moments.filterMap Moment.call?)
      (moments.filterMap Moment.event? ++ closing plan recipient result)
      [Run.outcome result] := by
  have stated : Agrees (moments.filterMap Moment.call?) (moments.filterMap Moment.event?) [] := by
    obtain ⟨events, calls⟩ | ⟨balance, nonce, events, calls⟩ := statement_of_course course
    · rw [events]
      exact ⟨rfl, rfl, rfl, rfl, rfl, calls.symm, rfl⟩
    · rw [events]
      exact ⟨rfl, rfl, rfl, rfl, rfl, calls.symm, rfl⟩
  have whole := stated.append (agrees_closing plan recipient result)
  rwa [List.append_nil] at whole

theorem recipient_of_course {report : Report}
    (course : Course plan recipient moments (.ok report)) :
    report.recipient = recipient := by
  cases course with
  | completed answers => rfl

theorem tells_of_not_isUnder {line : Event} {outcome : Outcome}
    (level_eq : line.level = if outcome.isFailed || outcome.isTakenBack then .error else .info)
    (names : line.Names recipient) (other : isUnder .accountState line = false) :
    Tells line recipient outcome :=
  ⟨level_eq, names, (begins_heading .accountState line).trans other⟩

/-- An attempt closes with a line that tells how it came out. -/
theorem exists_line_closing (course : Course plan recipient moments result) :
    ∃ line after, closing plan recipient result = line :: after ∧
      Tells line recipient (Run.outcome result) ∧ ∀ event ∈ after, event.level = .debug := by
  have silent : ∀ event ∈ ([] : List Event), event.level = .debug := fun _ => nofun
  cases result with
  | ok report =>
    have isRecipient := recipient_of_course course
    obtain ⟨payee, hash, gasUsed, fees, succeeded⟩ := report
    obtain rfl : payee = recipient := isRecipient
    cases succeeded with
    | true =>
      refine ⟨.transferred plan.amount _, [.gasSpent _], rfl,
        tells_of_not_isUnder rfl (Event.names_transferred _ _) rfl, fun event isSpent => ?_⟩
      obtain rfl := List.mem_singleton.mp isSpent
      rfl
    | false =>
      exact ⟨.reverted _, [], rfl, tells_of_not_isUnder rfl (Event.names_reverted _) rfl, silent⟩
  | error failure =>
    cases failure with
    | timeout fault =>
      exact ⟨.receiptOverdue recipient fault, [], rfl,
        tells_of_not_isUnder rfl (Event.names_receiptOverdue _ _) rfl, silent⟩
    | estimation fault | submission fault | other fault =>
      exact ⟨.attemptFailed recipient _, [], rfl,
        tells_of_not_isUnder rfl (Event.names_attemptFailed _ _) rfl, silent⟩

theorem told_of_course (course : Course plan recipient moments result) :
    Told recipient (moments.filterMap Moment.call?)
      (moments.filterMap Moment.event? ++ closing plan recipient result)
      (.ok (Run.outcome result)) where
  once := by
    obtain ⟨_, calls⟩ | ⟨_, _, _, calls⟩ := statement_of_course course <;> omega
  balance := by
    rw [← (agrees_of_course course).balances]
    exact countP_begins .accountState _
  silent := nofun
  line outcome ended := by
    obtain rfl := Except.ok.inj ended
    obtain ⟨line, after, closes, tells, silent⟩ := exists_line_closing course
    refine ⟨moments.filterMap Moment.event?, line, after, congrArg _ closes, ?_, tells, silent⟩
    intro event isBefore
    obtain ⟨events, _⟩ | ⟨balance, nonce, events, _⟩ := statement_of_course course
    · rw [events] at isBefore
      exact nomatch isBefore
    · rw [events] at isBefore
      obtain rfl := List.mem_singleton.mp isBefore
      exact begins_heading .accountState _

end Courses

/-! ### The log of a run -/

open Dialogue (finished)
open Run (Treated TreatedAs)
open Transfer (attempt)

section Rows

variable {State : Type} {plan : Plan} {row : String} {calls : List (Call Chain)}
  {events : List Event} {result : Except Breakdown Outcome}

theorem agrees_of_treated (treated : Treated plan row calls events result) :
    Agrees calls events result.toOption.toList := by
  cases treated with
  | malformed error unread => exact agrees_malformed error
  | skipped entry read unfunded => exact agrees_skipped entry.address
  | coursed entry read funded course => exact agrees_of_course course
  | stopped entry read funded answers => exact ⟨rfl, rfl, rfl, rfl, rfl, rfl, rfl⟩

theorem told_of_treated (treated : Treated plan row calls events result) {recipient : Address}
    (pays : Run.payee? row = some recipient) : Told recipient calls events result := by
  unfold Run.payee? at pays
  cases treated with
  | malformed error unread =>
    rw [unread] at pays
    exact nomatch pays
  | skipped entry read unfunded =>
    rw [read] at pays
    simp only [unfunded, Bool.false_eq_true, if_false] at pays
    exact nomatch pays
  | coursed entry read funded course =>
    rw [read] at pays
    simp only [funded, if_true] at pays
    obtain rfl := Option.some.inj pays
    exact told_of_course course
  | stopped entry read funded answers =>
    have states := begins_heading .accountState
      (.accountState plan.payer.sender answers.balance answers.nonce)
    refine ⟨Nat.le_refl 1, List.countP_singleton.trans (if_pos states), nofun,
      fun _ _ event isEvent => ?_⟩
    obtain rfl := List.mem_singleton.mp isEvent
    exact states

/-- The lines of a run that count for something: those of its rows, perhaps the one that there are
no rows, and what comes last. -/
theorem countP_run (holds : Event → Bool) (events last : List Event) (empty : Prop)
    [Decidable empty] :
    (events ++ (if empty then [Event.noRows] else []) ++ last).countP holds =
      events.countP holds + (if empty then (holds .noRows).toNat else 0) + last.countP holds := by
  rw [List.countP_append, List.countP_append]
  split
  · rw [Summary.countP_cons_eq]
    rfl
  · rfl

/-- Nothing counts last that the last line is none of. -/
theorem countP_finished_eq_zero {holds : Event → Bool} {End : Type} (given : List (Summary × End))
    (unfinished : ∀ summary, holds (.finished summary) = false) :
    (given.map fun last => Event.finished last.1).countP holds = 0 := by
  refine List.countP_eq_zero.mpr fun event isLast => ?_
  obtain ⟨last, _, rfl⟩ := List.mem_map.mp isLast
  rw [unfinished]
  exact Bool.false_ne_true

theorem countP_finished {End : Type} (given : List (Summary × End)) :
    (given.map fun last => Event.finished last.1).countP (isUnder .finished) = given.length := by
  refine (List.countP_eq_length.mpr fun event isLast => ?_).trans (List.length_map _)
  obtain ⟨last, _, rfl⟩ := List.mem_map.mp isLast
  rfl

theorem events_attempts (node : Peer Chain State) (plan : Plan) (state : State) (cursor : Cursor)
    (count : Nat) :
    let played := ((Run.rows count cursor).throughOrStop (attempt plan)).play node state
    played.events =
      (Run.visits node (attempt plan) (cursor.ahead count) state).flatMap Playback.events ++
      (if cursor.size = 0 ∧ 0 < count then [.noRows] else []) ++
      played.result.toOption.toList.map fun given => .finished given.1 := by
  intro played
  refine (Run.events_rows node (attempt plan) count cursor state).trans (congrArg _ ?_)
  show _ = List.map _ (((Run.rows count cursor).throughOrStop (attempt plan)).play node
    state).result.toOption.toList
  rw [Run.result_rows]
  cases Dialogue.results (Run.visits node (attempt plan) (cursor.ahead count) state) <;> rfl

/-- The lines of a run are those of the work on its rows, a warning if there are no rows though some
were to be worked on, and a last one unless the run breaks down. The lines at the level of errors
are as many as the attempts that failed and the payments taken back; lines with certain first words
are as many as the rows that ran out of time, were paid and were skipped; warnings are as many as
the rows that are no entries, and the one that there are no rows. The state of the paying account is
shown once for each time that the node gives its balance. For every row with an account to pay, its
attempt shows that state exactly if the node gave the balance, and after it one line that tells how
the attempt came out and names the account, unless it breaks down. The last line of a run that
returns a summary is the only one of its kind and shows the numbers of the summary, which is the
tally of all its rows; a run that breaks down does so over the row behind those tallied, since the
payment to its account cannot be signed, and has no such line. -/
theorem log_agrees_with_summary (node : Peer Chain State) (plan : Plan) (state : State)
    (cursor : Cursor) (count : Nat) :
    let played := ((Run.rows count cursor).throughOrStop (attempt plan)).play node state
    let rows := cursor.ahead count
    let visited := Run.visits node (attempt plan) rows state
    let outcomes := finished visited
    let reports := outcomes.filterMap Outcome.report?
    let summary := Summary.tally outcomes
    Run.Ending plan rows outcomes (played.result.map Prod.fst) ∧
    played.events = visited.flatMap Playback.events ++
      (if cursor.size = 0 ∧ 0 < count then [.noRows] else []) ++
      played.result.toOption.toList.map (fun given => .finished given.1) ∧
    played.events.countP (fun event => event.level = .error) =
      summary.failed + reports.countP (fun report => !report.succeeded) ∧
    played.events.countP (shows .error "RPC call timed out for address") = summary.timedOut ∧
    played.events.countP (shows .info "Transferred ") =
      reports.countP (fun report => report.succeeded) ∧
    played.events.countP (shows .info "Balance for address") = summary.skipped ∧
    played.events.countP (fun event => event.level = .warning) =
      summary.malformed + (if cursor.size = 0 ∧ 0 < count then 1 else 0) ∧
    played.events.countP (begins · "Current balance of") =
      played.calls.countP Call.givesBalance ∧
    List.Forall₂ (fun row visit => ∀ recipient, Run.payee? row = some recipient →
      Told recipient visit.calls visit.events visit.result) (rows.take visited.length) visited ∧
    (∀ given, played.result = .ok given → given.1 = summary ∧
      played.events.getLast? = some (.finished given.1) ∧
      played.events.countP (begins · "Processed") = 1) ∧
    (∀ breakdown, played.result = .error breakdown →
      played.events.countP (begins · "Processed") = 0) ∧
    (Event.finished summary).text =
      s!"Processed {summary.rows} rows: {summary.transferred} transferred, " ++
        s!"{summary.failed} failed ({summary.timedOut} timed out), {summary.skipped} skipped, " ++
        s!"{summary.malformed} malformed. Spent {Ether.text summary.totalFee} ETH" := by
  intro played rows visited outcomes reports summary
  have treated := Run.treated_visits node plan rows state
  have ending : Run.Ending plan rows outcomes (played.result.map Prod.fst) :=
    Run.ending_rows node plan count cursor state
  have fields : summary = _ := Summary.tally_eq outcomes
  have events : played.events = _ := events_attempts node plan state cursor count
  have calls : played.calls = visited.flatMap Playback.calls :=
    Run.calls_rows node (attempt plan) count cursor state
  have agrees : Agrees played.calls (visited.flatMap Playback.events) outcomes := by
    rw [calls]
    exact Run.gather_visits Agrees treated ⟨rfl, rfl, rfl, rfl, rfl, rfl, rfl⟩
      (fun _ _ done => agrees_of_treated done) Agrees.append
  have counted (holds : Event → Bool) (silent : holds .noRows = false)
      (unfinished : ∀ summary, holds (.finished summary) = false) :
      played.events.countP holds = (visited.flatMap Playback.events).countP holds := by
    rw [events, countP_run, silent, countP_finished_eq_zero _ unfinished, Bool.toNat_false,
      ite_self]
    rfl
  have processed : played.events.countP (begins · "Processed") =
      played.result.toOption.toList.length := by
    refine (countP_begins .finished _).trans ?_
    rw [events, countP_run, agrees.unfinished, countP_finished]
    show 0 + (if _ then 0 else 0) + _ = _
    rw [ite_self, Nat.zero_add]
  refine ⟨ending, events, ?_, ?_, ?_, ?_, ?_, ?_, ?_, fun given ended => ?_,
    fun breakdown stopped => ?_, rfl⟩
  · rw [counted _ rfl fun _ => rfl, agrees.errors, Outcome.countP_isTakenBack,
      congrArg Summary.failed fields]
  · rw [congrArg Summary.timedOut fields, ← agrees.overdue, ← counted _ rfl fun _ => rfl]
    exact countP_shows .receiptOverdue _
  · rw [Outcome.countP_isPaid, ← agrees.transferred, ← counted _ rfl fun _ => rfl]
    exact countP_shows .transferred _
  · rw [congrArg Summary.skipped fields, ← agrees.unfunded, ← counted _ rfl fun _ => rfl]
    exact countP_shows .unfunded _
  · rw [events, countP_run, agrees.warnings, congrArg Summary.malformed fields,
      countP_finished_eq_zero _ fun _ => rfl]
    rfl
  · rw [← agrees.balances, ← counted _ rfl fun _ => rfl]
    exact countP_begins .accountState _
  · exact (treated.imp fun _ _ done _ pays => told_of_treated done pays).forall₂
  · rw [ended] at ending processed events
    refine ⟨ending.eq_tally, ?_, processed⟩
    rw [events]
    exact List.getLast?_concat
  · rw [stopped] at processed
    exact processed

end Rows

end Log

end Trickle
