/-
This file proves what a run over the rows of the address file does. However its payouts
are carried out, a run is the work on the rows ahead of the cursor, one after the other,
each from the state the one before leaves; its tally is the tally of their outcomes and
its transcript theirs, put together. What becomes of a payout goes into its outcome and
nowhere else, but that a payout may break down: then the run has come to its last row.

A run is described twice: turn by turn, as a loop that looks at its tally to see whether
the limit is reached, and as a walk over a given number of rows. The two are equal.
-/

import Trickle.Proofs.Cursor
import Trickle.Proofs.Stopping
import Trickle.Proofs.Tally
import Trickle.Run

namespace Trickle.Run

open Dialogue (playUntil lastState results finished Until orStop)

/-! ### Turns and walks -/

theorem goesOn_none (summary : Summary) : goesOn none summary = true := rfl

theorem goesOn_some_iff (limit : Nat) (summary : Summary) :
    goesOn (some limit) summary = true ↔ summary.rows < limit := by
  rw [goesOn, Option.all_some, decide_eq_true_iff]

theorem goesOn_of_room {limit : Option Nat} {summary : Summary}
    (room : ∀ bound ∈ limit, summary.rows < bound) : goesOn limit summary = true := by
  cases limit with
  | none => exact goesOn_none summary
  | some bound => exact (goesOn_some_iff bound summary).mpr (room bound rfl)

theorem turns_ended (limit : Option Nat) (count : Nat) (summary : Summary) (cursor : Cursor) :
    turns limit count (.ended summary cursor) = .done (.ended summary cursor) := by
  cases count <;> rfl

theorem rows_record (summary : Summary) (outcome : Outcome) :
    (summary.record outcome).rows = summary.rows + 1 :=
  congrArg Summary.rows (summary.record_eq outcome)

/-- Once the tally has as many rows as the limit, or there are no rows at all, the loop has ended,
and it has walked over the rows in between. -/
theorem turns_some_eq_walk (count more : Nat) (summary : Summary) (cursor : Cursor) :
    turns (some (summary.rows + count)) (count + 1 + more) (.going summary cursor) =
      (walk count cursor summary).andThen fun result => finish result.1 result.2 := by
  induction count generalizing summary cursor with
  | zero =>
    have stops : ¬ goesOn (some (summary.rows + 0)) summary = true := by
      rw [goesOn_some_iff]
      omega
    rw [Nat.zero_add, Nat.add_comm 1 more, turns, turn, if_neg stops]
    exact congrArg (Dialogue.note (.finished summary)) (turns_ended _ _ _ _)
  | succ count inductionHypothesis =>
    have goes : goesOn (some (summary.rows + (count + 1))) summary = true := by
      rw [goesOn_some_iff]
      omega
    rw [show count + 1 + 1 + more = (count + 1 + more) + 1 by omega, turns, turn, if_pos goes, walk]
    cases cursor.next? with
    | none =>
      exact congrArg (Dialogue.note .noRows)
        (congrArg (Dialogue.note (.finished summary)) (turns_ended _ _ _ _))
    | some step =>
      obtain ⟨row, next⟩ := step
      show ((processRow row).andThen _).andThen _ = ((processRow row).andThen _).andThen _
      rw [Dialogue.andThen_assoc, Dialogue.andThen_assoc]
      refine congrArg _ (funext fun outcome => ?_)
      have counted := rows_record summary outcome
      rw [← inductionHypothesis, counted, show summary.rows + 1 + count =
        summary.rows + (count + 1) by omega]
      rfl

/-- A run with a limit ends by itself, whatever it meets: after as many turns as it has rows to
work on, and one more. -/
theorem turns_some_eq_rows (count more : Nat) (cursor : Cursor) :
    turns (some count) (count + 1 + more) (.going .empty cursor) =
      (rows count cursor).andThen fun result => .done (.ended result.1 result.2) := by
  have walked := turns_some_eq_walk count more .empty cursor
  rw [show Summary.empty.rows = 0 from rfl, Nat.zero_add] at walked
  rw [walked, rows, Dialogue.andThen_assoc]
  rfl

/-- As long as there are rows and the limit, if there is one, leaves room for them, the loop goes on
and does what a walk over as many rows does. -/
theorem turns_eq_walk {limit : Option Nat} {count : Nat} {summary : Summary} {cursor : Cursor}
    (filled : 0 < cursor.size) (room : ∀ bound ∈ limit, summary.rows + count ≤ bound) :
    turns limit count (.going summary cursor) =
      (walk count cursor summary).andThen fun result => .done (.going result.1 result.2) := by
  induction count generalizing summary cursor with
  | zero => rfl
  | succ count inductionHypothesis =>
    obtain ⟨row, next, step, _, _, sameSize, _⟩ := Cursor.exists_next?_eq_some filled
    have goes : goesOn limit summary = true := goesOn_of_room fun bound isLimit => by
      have := room bound isLimit
      omega
    rw [turns, turn, if_pos goes, walk, step]
    show ((processRow row).andThen _).andThen _ = ((processRow row).andThen _).andThen _
    rw [Dialogue.andThen_assoc, Dialogue.andThen_assoc]
    refine congrArg _ (funext fun outcome =>
      inductionHypothesis (sameSize ▸ filled) fun bound isLimit => ?_)
    have := room bound isLimit
    rw [rows_record]
    omega

/-- Without rows, a run without a limit ends in its first turn. -/
theorem turns_none_of_empty (more : Nat) (summary : Summary) (cursor : Cursor)
    (empty : cursor.size = 0) :
    turns none (more + 1) (.going summary cursor) =
      .note .noRows (.note (.finished summary) (.done (.ended summary cursor))) := by
  rw [turns, turn, if_pos (goesOn_none summary), Cursor.next?_eq_none empty]
  exact congrArg (Dialogue.note .noRows)
    (congrArg (Dialogue.note (.finished summary)) (turns_ended _ _ _ _))

/-- The tally that a run carries, or has ended with. -/
def Stand.summary : Stand → Summary
  | .ended summary _ | .going summary _ => summary

/-- How many rows a run has worked on after some turns, if there are any. -/
def worked (limit : Option Nat) (turned : Nat) : Nat :=
  limit.elim turned (min turned)

/-! ### The work on one row -/

theorem outcome_eq_transferred_iff {result : Except TransferFailure Report} {report : Report} :
    outcome result = .transferred report ↔ result = .ok report := by
  cases result <;> simp [outcome]

/-- The account that a row asks to pay: that of an entry whose balance is above zero. -/
def payee? (row : String) : Option Address :=
  match Entry.read row with
  | .error _ => none
  | .ok entry => if entry.isFunded then some entry.address else none

section Visits

variable {lower : Protocol} {State Reason : Type} (peer : Peer lower State)
  (payout : Address → Dialogue lower (Except Reason (Except TransferFailure Report)))

/-- The ways in which the work on a row can be played from a state. -/
inductive Visit (row : String) (start : State) :
    Playback lower State (Except Reason Outcome) → Prop where
  | malformed (error : EntryError) (unread : Entry.read row = .error error) :
    Visit row start ⟨.ok .malformed, [.noted (.malformedRow error)], start⟩
  | skipped (entry : Entry) (read : Entry.read row = .ok entry)
      (unfunded : entry.isFunded = false) :
    Visit row start ⟨.ok .skipped, [.noted (.unfunded entry.address)], start⟩
  | attempted (entry : Entry) (read : Entry.read row = .ok entry)
      (funded : entry.isFunded = true) :
    Visit row start
      ⟨((payout entry.address).play peer start).result.map outcome,
        ((payout entry.address).play peer start).transcript,
        ((payout entry.address).play peer start).state⟩

theorem visit_processRow (row : String) (start : State) :
    Visit peer payout row start (((processRow row).throughOrStop payout).play peer start) := by
  cases read : Entry.read row with
  | error error =>
    rw [processRow, read]
    exact .malformed error read
  | ok entry =>
    rw [processRow, read]
    cases funded : entry.isFunded with
    | false =>
      simp only [funded, Bool.false_eq_true, if_false]
      exact .skipped entry read funded
    | true =>
      simp only [funded, if_true]
      have attempted : Visit peer payout row start _ := .attempted entry read funded
      rw [Dialogue.throughOrStop, Dialogue.play_andThen]
      cases result : ((payout entry.address).play peer start).result <;>
        rw [result, ← List.append_nil ((payout entry.address).play peer start).transcript]
          at attempted <;>
        exact attempted

/-- The work on some rows, one after the other, up to the first that breaks down. -/
def visits (rows : List String) (state : State) :
    List (Playback lower State (Except Reason Outcome)) :=
  playUntil peer (fun row => (processRow row).throughOrStop payout) rows state

theorem visits_cons_of_ok {row : String} {state : State} {outcome : Outcome}
    (ended : (((processRow row).throughOrStop payout).play peer state).result = .ok outcome)
    (rows : List String) :
    visits peer payout (row :: rows) state =
      ((processRow row).throughOrStop payout).play peer state ::
        visits peer payout rows
          (((processRow row).throughOrStop payout).play peer state).state := by
  simp only [visits, playUntil, ended]

theorem visits_cons_of_error {row : String} {state : State} {reason : Reason}
    (stops : (((processRow row).throughOrStop payout).play peer state).result = .error reason)
    (rows : List String) :
    visits peer payout (row :: rows) state =
      [((processRow row).throughOrStop payout).play peer state] := by
  simp only [visits, playUntil, stops]

/-- What is written when there are no rows to work on. -/
def shortage (cursor : Cursor) (count : Nat) : List (Moment lower) :=
  if cursor.size = 0 ∧ 0 < count then [.noted .noRows] else []

theorem shortage_of_filled {cursor : Cursor} (filled : 0 < cursor.size) (count : Nat) :
    (shortage cursor count : List (Moment lower)) = [] :=
  if_neg fun both => Nat.ne_of_gt filled both.1

/-- A walk is the work on the rows ahead of its cursor, one after the other. -/
theorem play_walk (count : Nat) (cursor : Cursor) (summary : Summary) (state : State) :
    ((walk count cursor summary).throughOrStop payout).play peer state =
      let visited := visits peer payout (cursor.ahead count) state
      ⟨(results visited).map fun outcomes =>
          (outcomes.foldl Summary.record summary, cursor.advance count),
        visited.flatMap Playback.transcript ++ shortage cursor count,
        lastState state visited⟩ := by
  induction count generalizing cursor summary state with
  | zero =>
    have none_due : (shortage cursor 0 : List (Moment lower)) = [] :=
      if_neg fun both => Nat.lt_irrefl 0 both.2
    rw [none_due]
    rfl
  | succ count inductionHypothesis =>
    rcases Nat.eq_zero_or_pos cursor.size with empty | filled
    · rw [walk, Cursor.next?_eq_none empty, Cursor.ahead_of_empty empty,
        Cursor.advance_of_empty empty, shortage, if_pos ⟨empty, Nat.succ_pos count⟩]
      rfl
    · obtain ⟨row, next, step, _, _, sameSize, _⟩ := Cursor.exists_next?_eq_some filled
      rw [walk, step, Cursor.ahead_succ_of_next? filled step, Cursor.advance, step,
        shortage_of_filled filled]
      show (((processRow row).andThen _).throughOrStop payout).play peer state = _
      rw [Dialogue.throughOrStop_andThen]
      cases ended : (((processRow row).throughOrStop payout).play peer state).result with
      | ok outcome =>
        rw [Dialogue.play_orStop_of_ok ended, inductionHypothesis,
          shortage_of_filled (sameSize ▸ filled), visits_cons_of_ok peer payout ended]
        simp only [Playback.followedBy, List.append_nil, Dialogue.results_cons_of_ok ended]
        refine congrArg (Playback.mk · _ _) ?_
        cases results (visits peer payout (next.ahead count) _) <;> rfl
      | error reason =>
        rw [Dialogue.play_orStop_of_error ended, visits_cons_of_error peer payout ended]
        simp only [List.append_nil, Dialogue.results_cons_of_error ended]
        simp only [List.flatMap_cons, List.flatMap_nil, List.append_nil]
        rfl

theorem play_walk_of_ok {count : Nat} {cursor : Cursor} {state : State} {outcomes : List Outcome}
    (ended : results (visits peer payout (cursor.ahead count) state) = .ok outcomes)
    (summary : Summary) :
    ((walk count cursor summary).throughOrStop payout).play peer state =
      ⟨.ok (outcomes.foldl Summary.record summary, cursor.advance count),
        (visits peer payout (cursor.ahead count) state).flatMap Playback.transcript ++
          shortage cursor count,
        lastState state (visits peer payout (cursor.ahead count) state)⟩ := by
  simp only [play_walk, ended]
  rfl

theorem play_walk_of_error {count : Nat} {cursor : Cursor} {state : State} {reason : Reason}
    (stops : results (visits peer payout (cursor.ahead count) state) = .error reason)
    (summary : Summary) :
    ((walk count cursor summary).throughOrStop payout).play peer state =
      ⟨.error reason,
        (visits peer payout (cursor.ahead count) state).flatMap Playback.transcript ++
          shortage cursor count,
        lastState state (visits peer payout (cursor.ahead count) state)⟩ := by
  simp only [play_walk, stops]
  rfl

/-- A run is the work on the rows ahead of its cursor, one after the other, and a last line that
shows the tally of their outcomes if none of them breaks down. -/
theorem play_rows (count : Nat) (cursor : Cursor) (state : State) :
    ((rows count cursor).throughOrStop payout).play peer state =
      let visited := visits peer payout (cursor.ahead count) state
      let summary := (results visited).map Summary.tally
      ⟨summary.map fun summary => (summary, cursor.advance count),
        visited.flatMap Playback.transcript ++ shortage cursor count ++
          summary.toOption.toList.map fun summary => .noted (.finished summary),
        lastState state visited⟩ := by
  rw [rows, Dialogue.throughOrStop_andThen]
  cases ended : results (visits peer payout (cursor.ahead count) state) with
  | ok outcomes =>
    have walked := play_walk_of_ok peer payout ended .empty
    rw [Dialogue.play_orStop_of_ok (congrArg Playback.result walked), walked]
    simp only [ended]
    rfl
  | error reason =>
    have walked := play_walk_of_error peer payout ended .empty
    rw [Dialogue.play_orStop_of_error (congrArg Playback.result walked), walked]
    simp only [ended]
    exact congrArg (Playback.mk _ · _) (List.append_nil _).symm

theorem result_rows (count : Nat) (cursor : Cursor) (state : State) :
    (((rows count cursor).throughOrStop payout).play peer state).result =
      (results (visits peer payout (cursor.ahead count) state)).map fun outcomes =>
        (Summary.tally outcomes, cursor.advance count) := by
  simp only [play_rows]
  cases results (visits peer payout (cursor.ahead count) state) <;> rfl

theorem calls_shortage (cursor : Cursor) (count : Nat) :
    (shortage cursor count : List (Moment lower)).filterMap Moment.call? = [] := by
  unfold shortage
  split <;> rfl

/-- All calls of a run are made in the work on its rows. -/
theorem calls_rows (count : Nat) (cursor : Cursor) (state : State) :
    (((rows count cursor).throughOrStop payout).play peer state).calls =
      (visits peer payout (cursor.ahead count) state).flatMap Playback.calls := by
  rw [play_rows, Playback.calls]
  simp only [List.filterMap_append, calls_shortage, List.append_nil, List.filterMap_flatMap]
  cases results (visits peer payout (cursor.ahead count) state) <;> exact List.append_nil _

/-- The events of a run are those of the work on its rows, and the last line if it comes to it. -/
theorem events_rows (count : Nat) (cursor : Cursor) (state : State) :
    (((rows count cursor).throughOrStop payout).play peer state).events =
      let visited := visits peer payout (cursor.ahead count) state
      visited.flatMap Playback.events ++
        (if cursor.size = 0 ∧ 0 < count then [.noRows] else []) ++
        (results visited).toOption.toList.map fun outcomes =>
          .finished (Summary.tally outcomes) := by
  have due : (shortage cursor count : List (Moment lower)).filterMap Moment.event? =
      if cursor.size = 0 ∧ 0 < count then [.noRows] else [] := by
    unfold shortage
    split <;> rfl
  rw [play_rows, Playback.events]
  simp only [List.filterMap_append, due, List.filterMap_flatMap]
  cases results (visits peer payout (cursor.ahead count) state) <;> rfl

/-! ### Any number of turns -/

/-- What a run that has worked on some rows carries, and what it has asked and written: all of the
work on them, and behind it perhaps that there are no rows and how the run ended. -/
structure Covers (visited : List (Playback lower State (Except Reason Outcome)))
    (played : Playback lower State (Except Reason Stand)) : Prop where
  summary : played.result.map Stand.summary = (results visited).map Summary.tally
  transcript : ∃ ending : List Event,
    (∀ event ∈ ending, event = .noRows ∨ ∃ summary, event = .finished summary) ∧
    played.transcript = visited.flatMap Playback.transcript ++ ending.map Moment.noted

theorem Covers.calls {visited : List (Playback lower State (Except Reason Outcome))}
    {played : Playback lower State (Except Reason Stand)} (covers : Covers visited played) :
    played.calls = visited.flatMap Playback.calls := by
  obtain ⟨ending, _, transcript⟩ := covers.transcript
  rw [Playback.calls, transcript, List.filterMap_append, Moment.calls_noted, List.append_nil,
    List.filterMap_flatMap]
  rfl

/-- Without rows, a run never has anything to tally or to call. -/
theorem covers_turns_of_empty (limit : Option Nat) (turned : Nat) {cursor : Cursor}
    (empty : cursor.size = 0) (state : State) :
    Covers [] (((turns limit turned (.going .empty cursor)).throughOrStop payout).play peer
      state) := by
  cases turned with
  | zero => exact ⟨rfl, [], by simp, rfl⟩
  | succ turned =>
    rw [turns, turn, Cursor.next?_eq_none empty, finish]
    split
    · simp only [Dialogue.andThen, turns_ended]
      exact ⟨rfl, [.noRows, .finished .empty], by simp, rfl⟩
    · simp only [Dialogue.andThen, turns_ended]
      exact ⟨rfl, [.finished .empty], by simp, rfl⟩

/-- A walk that goes on or finishes after its last row has worked on the rows ahead. -/
theorem covers_walk (count : Nat) {cursor : Cursor} (filled : 0 < cursor.size) (state : State)
    {next : Summary × Cursor → Dialogue Payouts Stand}
    (closes : (∀ result, next result = .done (.going result.1 result.2)) ∨
      ∀ result, next result = finish result.1 result.2) :
    Covers (visits peer payout (cursor.ahead count) state)
      ((((walk count cursor .empty).andThen next).throughOrStop payout).play peer state) := by
  rw [Dialogue.throughOrStop_andThen]
  cases ended : results (visits peer payout (cursor.ahead count) state) with
  | ok outcomes =>
    have walked := play_walk_of_ok peer payout ended .empty
    rw [shortage_of_filled filled, List.append_nil] at walked
    rw [Dialogue.play_orStop_of_ok (congrArg Playback.result walked), walked]
    rcases closes with goes | finishes
    · rw [goes]
      exact ⟨by rw [ended]; rfl, [], by simp, rfl⟩
    · rw [finishes]
      exact ⟨by rw [ended]; rfl, [.finished (Summary.tally outcomes)], by simp, rfl⟩
  | error reason =>
    have walked := play_walk_of_error peer payout ended .empty
    rw [shortage_of_filled filled, List.append_nil] at walked
    rw [Dialogue.play_orStop_of_error (congrArg Playback.result walked), walked]
    exact ⟨by rw [ended]; rfl, [], by simp, (List.append_nil _).symm⟩

/-- After any number of turns a run carries the tally of the rows it has worked on, and has asked
and written what the work on them asks and writes. -/
theorem covers_turns (limit : Option Nat) (turned : Nat) (cursor : Cursor) (state : State) :
    Covers (visits peer payout (cursor.ahead (worked limit turned)) state)
      (((turns limit turned (.going .empty cursor)).throughOrStop payout).play peer state) := by
  rcases Nat.eq_zero_or_pos cursor.size with empty | filled
  · rw [Cursor.ahead_of_empty empty]
    exact covers_turns_of_empty peer payout limit turned empty state
  -- As long as the limit leaves room a turn is a row; past it the run has ended by itself.
  · have goes (room : ∀ bound ∈ limit, Summary.empty.rows + turned ≤ bound) :
        Covers (visits peer payout (cursor.ahead turned) state)
          (((turns limit turned (.going .empty cursor)).throughOrStop payout).play peer state) := by
      rw [turns_eq_walk filled room]
      exact covers_walk peer payout turned filled state (.inl fun _ => rfl)
    cases limit with
    | none => exact goes nofun
    | some bound =>
      rcases Nat.lt_or_ge bound turned with past | within
      · obtain ⟨more, rfl⟩ := Nat.exists_eq_add_of_lt past
        have walked := turns_some_eq_walk bound more .empty cursor
        rw [show Summary.empty.rows = 0 from rfl, Nat.zero_add] at walked
        rw [Nat.add_right_comm, walked, worked, Option.elim_some, Nat.min_eq_right (by omega)]
        exact covers_walk peer payout bound filled state (.inr fun _ => rfl)
      · rw [worked, Option.elim_some, Nat.min_eq_left within]
        refine goes fun other isBound => ?_
        obtain rfl := Option.some.inj isBound
        rwa [show Summary.empty.rows = 0 from rfl, Nat.zero_add]

/-! ### Row by row -/

theorem until_visits (rows : List String) (state : State) :
    Until (fun row visit => ∃ start, Visit peer payout row start visit) rows
      (visits peer payout rows state) :=
  Dialogue.until_playUntil peer _ rows state fun row start =>
    ⟨start, visit_processRow peer payout row start⟩

variable {peer payout}

/-- What holds of the work on each row, and of calls, events and outcomes put together if it holds
of both, holds of the work on all rows. -/
theorem gather_visits {relates : String → Playback lower State (Except Reason Outcome) → Prop}
    (holds : List (Call lower) → List Event → List Outcome → Prop) {rows : List String}
    {visited : List (Playback lower State (Except Reason Outcome))}
    (played : Until relates rows visited) (nothing : holds [] [] [])
    (each : ∀ row visit, relates row visit →
      holds visit.calls visit.events visit.result.toOption.toList)
    (together : ∀ {calls more events further outcomes others}, holds calls events outcomes →
      holds more further others → holds (calls ++ more) (events ++ further) (outcomes ++ others)) :
    holds (visited.flatMap Playback.calls) (visited.flatMap Playback.events)
      (finished visited) := by
  induction played with
  | none => exact nothing
  | next head ended _ inductionHypothesis =>
    have alone := each _ _ head
    rw [ended] at alone
    rw [Dialogue.finished_cons_of_ok ended]
    exact together alone inductionHypothesis
  | stopped head stops =>
    have alone := each _ _ head
    rw [stops] at alone
    rw [Dialogue.finished_cons_of_error stops]
    exact together alone nothing

end Visits

end Trickle.Run
