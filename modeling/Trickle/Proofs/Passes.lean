/-
This file proves what a run asks to be paid. The rows ahead of the cursor are worked on
in turn, the list of rows read around and around; a payout is asked for exactly the rows
whose entry has a balance above zero, once for each time such a row comes up. A pass, as
many rows in a row as the file has, asks for every such row of the file once, wherever it
starts. Nothing of this depends on what the payouts come to.
-/

import Trickle.Proofs.Run

namespace Trickle.Run

open Dialogue (playEach)

/-! ### What the work on a row asks -/

/-- What the work on a row comes to: a row that is no entry is malformed, an entry whose balance is
not above zero is skipped, and for every other entry one payout is asked. -/
def Handled {State : Type} (row : String) (visit : Playback Payouts State Outcome) : Prop :=
  match Entry.read row with
  | .error error => visit.result = .malformed ∧ visit.transcript = [.noted (.malformedRow error)]
  | .ok entry =>
    if entry.isFunded then
      ∃ result, visit.result = outcome result ∧ visit.transcript = [.asked entry.address result]
    else visit.result = .skipped ∧ visit.transcript = [.noted (.unfunded entry.address)]

variable {State : Type} {executor : Peer Payouts State}

theorem handled_processRow (row : String) (start : State) :
    Handled row ((processRow row).play executor start) := by
  unfold Handled processRow
  cases Entry.read row with
  | error error => exact ⟨rfl, rfl⟩
  | ok entry =>
    cases funded : entry.isFunded with
    | false =>
      simp only [funded, Bool.false_eq_true, if_false]
      exact ⟨rfl, rfl⟩
    | true =>
      simp only [funded, if_true]
      exact ⟨_, rfl, rfl⟩

theorem Handled.questions {row : String} {visit : Playback Payouts State Outcome}
    (handled : Handled row visit) : visit.questions = (payee? row).toList := by
  unfold Handled at handled
  unfold payee? Playback.questions
  cases read : Entry.read row with
  | error error =>
    rw [read] at handled
    rw [handled.2]
    rfl
  | ok entry =>
    rw [read] at handled
    cases funded : entry.isFunded with
    | false =>
      simp only [funded, Bool.false_eq_true, if_false] at handled ⊢
      rw [handled.2]
      rfl
    | true =>
      simp only [funded, if_true] at handled ⊢
      obtain ⟨result, _, transcript⟩ := handled
      rw [transcript]
      rfl

/-- Rows that are handled are asked for if and only if they have a balance above zero, in turn. -/
theorem questions_of_handled {rows : List String}
    {visited : List (Playback Payouts State Outcome)}
    (handled : List.Forall₂ Handled rows visited) :
    visited.flatMap Playback.questions = rows.filterMap payee? := by
  induction handled with
  | nil => rfl
  | @cons row visit rows visited head _ inductionHypothesis =>
    rw [List.flatMap_cons, head.questions, inductionHypothesis, List.filterMap_cons]
    cases payee? row <;> rfl

/-! ### Runs and passes -/

variable (executor)

/-- Payouts that are asked for never break down, so every row is worked on. -/
theorem visits_ask (rows : List String) (state : State) :
    visits executor (fun recipient => .ask recipient fun result => .done (.ok result)) rows state =
      (playEach executor processRow rows state).map fun visit =>
        (⟨.ok visit.result, visit.transcript, visit.state⟩ :
          Playback Payouts State (Except Empty Outcome)) := by
  rw [← Dialogue.playUntil_ok, visits]
  exact congrArg (Dialogue.playUntil executor · rows state)
    (funext fun row => Dialogue.throughOrStop_ask (processRow row))

theorem handled_visits (rows : List String) (state : State) :
    List.Forall₂ Handled rows (playEach executor processRow rows state) :=
  Dialogue.forall₂_playEach executor processRow rows state Handled handled_processRow

/-- A walk, played against an executor of payouts. -/
theorem play_walk_ask (count : Nat) (cursor : Cursor) (summary : Summary) (state : State) :
    (walk count cursor summary).play executor state =
      let visited := playEach executor processRow (cursor.ahead count) state
      ⟨((visited.map Playback.result).foldl Summary.record summary, cursor.advance count),
        visited.flatMap Playback.transcript ++ shortage cursor count,
        Dialogue.lastState state visited⟩ := by
  have played := play_walk executor
    (fun recipient => .ask recipient fun result => .done (.ok result : Except Empty _))
    count cursor summary state
  rw [Dialogue.throughOrStop_ask, Dialogue.play_ok, visits_ask] at played
  simp only [Dialogue.results_map_ok, List.flatMap_map, Dialogue.lastState, List.foldl_map,
    Playback.mk.injEq] at played
  obtain ⟨result, transcript, state_eq⟩ := played
  exact (Playback.mk.injEq ..).mpr ⟨Except.ok.inj result, transcript, state_eq⟩

/-- A run of a number of rows, played against an executor of payouts. -/
theorem play_rows_ask (count : Nat) (cursor : Cursor) (state : State) :
    (rows count cursor).play executor state =
      let visited := playEach executor processRow (cursor.ahead count) state
      let summary := Summary.tally (visited.map Playback.result)
      ⟨(summary, cursor.advance count),
        visited.flatMap Playback.transcript ++ shortage cursor count ++
          [.noted (.finished summary)],
        Dialogue.lastState state visited⟩ := by
  rw [rows, Dialogue.play_andThen, play_walk_ask]
  rfl

/-- What a run asks are the payees of the rows ahead, in turn. -/
theorem questions_rows (count : Nat) (cursor : Cursor) (state : State) :
    ((rows count cursor).play executor state).questions =
      (cursor.ahead count).filterMap payee? := by
  have due : (shortage cursor count : List (Moment Payouts)).filterMap Moment.question? = [] := by
    unfold shortage
    split <;> rfl
  rw [play_rows_ask, Playback.questions, ←
    questions_of_handled (handled_visits executor (cursor.ahead count) state)]
  simp only [List.filterMap_append, due, List.append_nil, List.filterMap_flatMap]
  exact List.append_nil _

/-- Work on the rows of a pass asks for every row of the file that has a balance above zero. -/
theorem pass_perm (state : State) {cursor : Cursor} {count start : Nat} (filled : 0 < cursor.size)
    (inside : start + cursor.size ≤ count) :
    ((((playEach executor processRow (cursor.ahead count) state).drop start).take
        cursor.size).flatMap Playback.questions).Perm (cursor.rows.toList.filterMap payee?) := by
  have handled := List.forall₂_take cursor.size
    (List.forall₂_drop start (handled_visits executor (cursor.ahead count) state))
  rw [questions_of_handled handled, Cursor.pass_eq_rotate filled inside]
  exact (List.rotate_perm _ _).filterMap _

/-- The work on a row ahead, by its index. -/
theorem handled_at (state : State) {cursor : Cursor} {count index : Nat} (filled : 0 < cursor.size)
    (inside : index < count) :
    ∃ row visit, cursor.rows[(cursor.position + index) % cursor.size]? = some row ∧
      (playEach executor processRow (cursor.ahead count) state)[index]? = some visit ∧
      Handled row visit := by
  obtain ⟨sameLength, related⟩ :=
    List.forall₂_iff_get.mp (handled_visits executor (cursor.ahead count) state)
  have insideRows : index < (cursor.ahead count).length := by
    rw [Cursor.length_ahead filled]
    exact inside
  refine ⟨_, _, ?_, List.getElem?_eq_getElem (sameLength ▸ insideRows),
    related index insideRows (sameLength ▸ insideRows)⟩
  rw [← Cursor.getElem?_ahead filled inside]
  exact List.getElem?_eq_getElem insideRows

/-- A run with a limit ends by itself. On a file with rows it works on as many rows as its limit
says, the one at each index standing that many places behind the cursor, around the end of the
file; its tally and its transcript are those of the work on these rows. It asks for the payees of
exactly these rows, in turn, and leaves the cursor behind them; every pass within it asks for each
row of the file that has a balance above zero once. On a file without rows a run asks nothing,
whether it has a limit or not, and ends. -/
theorem run_takes_rows_in_turn (state : State) (cursor : Cursor) (count : Nat) :
    let played := (rows count cursor).play executor state
    let visited := playEach executor processRow (cursor.ahead count) state
    (∀ more, turns (some count) (count + 1 + more) (.going .empty cursor) =
      (rows count cursor).andThen fun result => .done (.ended result.1 result.2)) ∧
    (0 < cursor.size →
      visited.length = count ∧
      (∀ index < count, ∃ row visit,
        cursor.rows[(cursor.position + index) % cursor.size]? = some row ∧
        visited[index]? = some visit ∧ Handled row visit) ∧
      played.result.1 = Summary.tally (visited.map Playback.result) ∧
      played.result.1.rows = count ∧
      played.transcript =
        visited.flatMap Playback.transcript ++ [.noted (.finished played.result.1)] ∧
      played.questions = (cursor.ahead count).filterMap payee? ∧
      played.result.2.rows = cursor.rows ∧
      played.result.2.position = (cursor.position + count) % cursor.size ∧
      ∀ start, start + cursor.size ≤ count →
        (((visited.drop start).take cursor.size).flatMap Playback.questions).Perm
          (cursor.rows.toList.filterMap payee?)) ∧
    (cursor.size = 0 →
      played.result = (.empty, cursor) ∧ played.questions = [] ∧
      ∀ more,
        let unlimited := (turns none (more + 1) (.going .empty cursor)).play executor state
        unlimited.result = .ended .empty cursor ∧ unlimited.questions = []) := by
  intro played visited
  have result : played.result =
      (Summary.tally (visited.map Playback.result), cursor.advance count) :=
    congrArg Playback.result (play_rows_ask executor count cursor state)
  have transcript : played.transcript = visited.flatMap Playback.transcript ++
      shortage cursor count ++ [.noted (.finished played.result.1)] := by
    rw [result]
    exact congrArg Playback.transcript (play_rows_ask executor count cursor state)
  have questions : played.questions = (cursor.ahead count).filterMap payee? :=
    questions_rows executor count cursor state
  refine ⟨fun more => turns_some_eq_rows count more cursor, fun filled => ?_, fun empty => ?_⟩
  · have length : visited.length = count :=
      (Dialogue.length_playEach _ _ _ _).trans (Cursor.length_ahead filled count)
    refine ⟨length, fun index inside => handled_at executor state filled inside,
      congrArg Prod.fst result, ?_, ?_, questions, ?_, ?_,
      fun start inside => pass_perm executor state filled inside⟩
    · rw [result, Summary.tally_eq, List.length_map, length]
    · rw [transcript, shortage_of_filled filled, List.append_nil]
    · rw [result, Cursor.rows_advance]
    · rw [result, Cursor.position_advance filled]
  · have nothing := Cursor.ahead_of_empty empty count
    refine ⟨?_, ?_, fun more => ?_⟩
    · rw [result, Cursor.advance_of_empty empty]
      simp only [visited, nothing]
      rfl
    · rw [questions, nothing]
      rfl
    · rw [turns_none_of_empty more _ cursor empty]
      exact ⟨rfl, rfl⟩

/-- Two rows, of which the second has a balance above zero, and a cursor at that one. -/
def twoRows : Cursor where
  rows := #["0xaaaaaaaaaaaaaaaaaaaaaaaaaaaaaaaaaaaaaaaa;0",
    "0xbbbbbbbbbbbbbbbbbbbbbbbbbbbbbbbbbbbbbbbb;1.5"]
  position := 1
  inRange := by decide

/-- An executor that counts the payouts it is asked for, and makes none. -/
def refusing : Peer Payouts Nat where
  answer _ count := (.error (.other (.ofCause (.other "insufficient funds"))), count + 1)

/-- Five rows from the second one on ask for it three times; no rows ask for nothing. -/
theorem five_rows_of_two :
    0 < twoRows.size ∧
      ((rows 5 twoRows).play refusing 0).questions =
        List.replicate 3 ⟨0xbbbbbbbbbbbbbbbbbbbbbbbbbbbbbbbbbbbbbbbb⟩ ∧
      (Cursor.ofRows #[]).size = 0 ∧
      ((rows 5 (Cursor.ofRows #[])).play refusing 0).questions = [] := by
  have filled : 0 < twoRows.size := by decide
  have funded : (twoRows.ahead 5).filterMap payee? =
      List.replicate 3 ⟨0xbbbbbbbbbbbbbbbbbbbbbbbbbbbbbbbbbbbbbbbb⟩ := by decide +kernel
  obtain ⟨_, _, _, _, _, questions, _⟩ := (run_takes_rows_in_turn refusing 0 twoRows 5).2.1 filled
  obtain ⟨_, silent, _⟩ := (run_takes_rows_in_turn refusing 0 (Cursor.ofRows #[]) 5).2.2 rfl
  exact ⟨filled, questions.trans funded, rfl, silent⟩

end Trickle.Run
