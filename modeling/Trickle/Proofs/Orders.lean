/-
This file proves how the orders given to a driver share the rows of the address file. An
order is to run over the next rows, or to work on a row that is handed in. Each run takes
up where the one before stopped, and a row that is handed in leaves the cursor where it
is; so the rows of all runs, put together, are the list of rows read on from the cursor's
place, around and around, with none left out and none taken twice. Two runs with nothing
between them are one long run but for the line that closes the first, and their tallies
add up to its tally.
-/

import Trickle.Proofs.Summary

namespace Trickle

namespace Dialogue

variable {protocol : Protocol} {State Input Result : Type} (peer : Peer protocol State)
  (work : Input → Dialogue protocol Result)

/-- The work on more inputs is played from the state that the work on the first ones leaves. -/
theorem playEach_append (inputs more : List Input) (state : State) :
    playEach peer work (inputs ++ more) state =
      playEach peer work inputs state ++
        playEach peer work more (lastState state (playEach peer work inputs state)) := by
  induction inputs generalizing state with
  | nil => rfl
  | cons input rest inductionHypothesis =>
    exact congrArg (List.cons _) (inductionHypothesis _)

end Dialogue

namespace Summary

/-- Two tallies put together. -/
def add (first second : Summary) : Summary where
  rows := first.rows + second.rows
  transferred := first.transferred + second.transferred
  failed := first.failed + second.failed
  timedOut := first.timedOut + second.timedOut
  skipped := first.skipped + second.skipped
  malformed := first.malformed + second.malformed
  totalFee := first.totalFee + second.totalFee

/-- The tally of outcomes in two parts is that of the parts, put together. -/
theorem tally_append (first second : List Outcome) :
    tally (first ++ second) = (tally first).add (tally second) := by
  rw [tally_eq, tally_eq, tally_eq, add]
  simp only [List.length_append, List.countP_append, List.map_append, List.sum_append]

end Summary

namespace Run

open Dialogue (playEach lastState)

/-! ### Work on a list of rows -/

/-- Works on the rows of a list, and adds them to a tally. -/
def workAll : List String → Summary → Dialogue Payouts Summary
  | [], summary => .done summary
  | row :: rest, summary =>
    (processRow row).andThen fun outcome => workAll rest (summary.record outcome)

/-- A walk works on the rows ahead of its cursor. -/
theorem walk_eq_workAll {cursor : Cursor} (filled : 0 < cursor.size) (count : Nat)
    (summary : Summary) :
    walk count cursor summary =
      (workAll (cursor.ahead count) summary).andThen fun total =>
        .done (total, cursor.advance count) := by
  induction count generalizing cursor summary with
  | zero => rfl
  | succ count inductionHypothesis =>
    obtain ⟨row, next, step, _, _, sameSize, _⟩ := Cursor.exists_next?_eq_some filled
    rw [walk, step, Cursor.ahead_succ_of_next? filled step, workAll, Dialogue.andThen_assoc,
      Cursor.advance, step]
    show (processRow row).andThen _ = (processRow row).andThen _
    refine congrArg _ (funext fun outcome => ?_)
    exact inductionHypothesis (sameSize ▸ filled) (summary.record outcome)

/-! ### Orders and their rows -/

/-- What a driver can be told: to run over the next rows, or to work on a row that is handed in. -/
inductive Order where
  | run (count : Nat)
  | row (text : String)

/-- What an order comes to. -/
inductive Response where
  | ran (summary : Summary)
  | worked (outcome : Outcome)

/-- How many rows an order takes from the file. -/
def Order.count : Order → Nat
  | .run count => count
  | .row _ => 0

/-- Carries out an order, and says where the cursor is behind it. -/
def Order.carryOut (cursor : Cursor) : Order → Dialogue Payouts (Response × Cursor)
  | .run count => (rows count cursor).andThen fun result => .done (.ran result.1, result.2)
  | .row text => (processRow text).andThen fun outcome => .done (.worked outcome, cursor)

/-- Carries out orders, one after the other. -/
def carryOutAll : List Order → Cursor → Dialogue Payouts (List Response × Cursor)
  | [], cursor => .done ([], cursor)
  | order :: rest, cursor =>
    (order.carryOut cursor).andThen fun result =>
      (carryOutAll rest result.2).andThen fun others =>
        .done (result.1 :: others.1, others.2)

/-- An order with the rows it is about. -/
inductive Task where
  | run (rows : List String)
  | row (text : String)

namespace Task

/-- The order that a task fulfils. -/
def order : Task → Order
  | .run rows => .run rows.length
  | .row text => .row text

/-- The rows that a task has from the file. -/
def taken : Task → List String
  | .run rows => rows
  | .row _ => []

/-- Works on the rows of a task, and closes a run with a line that shows its tally. -/
def work : Task → Dialogue Payouts Response
  | .run rows =>
    (workAll rows .empty).andThen fun summary => .note (.finished summary) (.done (.ran summary))
  | .row text => (processRow text).andThen fun outcome => .done (.worked outcome)

end Task

/-- Does the work of tasks, one after the other. -/
def workThrough : List Task → Dialogue Payouts (List Response)
  | [] => .done []
  | task :: rest =>
    task.work.andThen fun response =>
      (workThrough rest).andThen fun others => .done (response :: others)

/-- The tasks that orders make of a list of rows: each run takes its rows from the front of what is
left, and no other order takes any. -/
def dealt : List Order → List String → List Task
  | [], _ => []
  | .run count :: rest, supply => .run (supply.take count) :: dealt rest (supply.drop count)
  | .row text :: rest, supply => .row text :: dealt rest supply

/-- How many rows orders take from the file together. -/
def totalCount (orders : List Order) : Nat :=
  (orders.map Order.count).sum

theorem totalCount_cons (order : Order) (rest : List Order) :
    totalCount (order :: rest) = order.count + totalCount rest := by
  simp [totalCount]

/-- Where there are enough rows, each run is dealt as many as it asks for. -/
theorem map_order_dealt (orders : List Order) (supply : List String)
    (enough : totalCount orders ≤ supply.length) :
    (dealt orders supply).map Task.order = orders := by
  induction orders generalizing supply with
  | nil => rfl
  | cons order rest inductionHypothesis =>
    rw [totalCount_cons] at enough
    cases order with
    | run count =>
      have fits : count ≤ supply.length := Nat.le_trans (Nat.le_add_right _ _) enough
      have behind : totalCount rest ≤ (supply.drop count).length := by
        rw [List.length_drop]
        exact Nat.le_sub_of_add_le' enough
      rw [dealt, List.map_cons, inductionHypothesis _ behind, Task.order,
        List.length_take_of_le fits]
    | row text =>
      rw [Order.count, Nat.zero_add] at enough
      rw [dealt, List.map_cons, inductionHypothesis _ enough, Task.order]

/-- The rows dealt to the runs are the front of the list, none left out and none dealt twice. -/
theorem flatMap_taken_dealt (orders : List Order) (supply : List String) :
    (dealt orders supply).flatMap Task.taken = supply.take (totalCount orders) := by
  induction orders generalizing supply with
  | nil => rfl
  | cons order rest inductionHypothesis =>
    rw [totalCount_cons]
    cases order with
    | run count =>
      rw [dealt, List.flatMap_cons, inductionHypothesis, Task.taken, Order.count, List.take_add]
    | row text =>
      rw [dealt, List.flatMap_cons, inductionHypothesis, Task.taken, List.nil_append, Order.count,
        Nat.zero_add]

/-! ### Orders are carried out on the rows ahead -/

/-- Carrying out an order is the work on its task, and moves the cursor behind the rows it took. -/
theorem carryOut_run {cursor : Cursor} (filled : 0 < cursor.size) (count : Nat) :
    (Order.run count).carryOut cursor =
      (Task.run (cursor.ahead count)).work.andThen fun response =>
        .done (response, cursor.advance count) := by
  rw [Order.carryOut, rows, walk_eq_workAll filled, Task.work]
  simp only [Dialogue.andThen_assoc]
  rfl

theorem carryOut_row (cursor : Cursor) (text : String) :
    (Order.row text).carryOut cursor =
      (Task.row text).work.andThen fun response => .done (response, cursor) := by
  rw [Order.carryOut, Task.work, Dialogue.andThen_assoc]
  rfl

/-- Carrying out orders is the work on the tasks that they make of the rows ahead. -/
theorem carryOutAll_eq_workThrough {cursor : Cursor} (filled : 0 < cursor.size)
    (orders : List Order) :
    carryOutAll orders cursor =
      (workThrough (dealt orders (cursor.ahead (totalCount orders)))).andThen fun responses =>
        .done (responses, cursor.advance (totalCount orders)) := by
  induction orders generalizing cursor with
  | nil => rfl
  | cons order rest inductionHypothesis =>
    cases order with
    | run count =>
      have still : 0 < (cursor.advance count).size := by rwa [Cursor.size_advance]
      have length : (cursor.ahead count).length = count := Cursor.length_ahead filled count
      rw [totalCount_cons, Order.count, Cursor.ahead_add filled, Cursor.advance_add, dealt,
        List.take_left' length, List.drop_left' length, carryOutAll, carryOut_run filled,
        workThrough]
      simp only [Dialogue.andThen_assoc]
      refine congrArg _ (funext fun response => ?_)
      show (carryOutAll rest (cursor.advance count)).andThen _ = _
      rw [inductionHypothesis still, Dialogue.andThen_assoc]
      rfl
    | row text =>
      rw [totalCount_cons, Order.count, Nat.zero_add, dealt, carryOutAll, carryOut_row,
        workThrough]
      simp only [Dialogue.andThen_assoc]
      refine congrArg _ (funext fun response => ?_)
      show (carryOutAll rest cursor).andThen _ = _
      rw [inductionHypothesis filled, Dialogue.andThen_assoc]
      rfl

/-! ### Two runs and one -/

section Executed

variable {State : Type} (executor : Peer Payouts State)

/-- Where there are rows, a run is the work on those ahead and a line that shows its tally. -/
theorem play_rows_of_filled {cursor : Cursor} (filled : 0 < cursor.size) (count : Nat)
    (state : State) :
    (rows count cursor).play executor state =
      let visited := playEach executor processRow (cursor.ahead count) state
      let summary := Summary.tally (visited.map Playback.result)
      ⟨(summary, cursor.advance count),
        visited.flatMap Playback.transcript ++ [.noted (.finished summary)],
        lastState state visited⟩ := by
  rw [play_rows_ask, shortage_of_filled filled]
  simp only [List.append_nil]

/-- A run over the rows of two others, of which the second takes up where the first stopped, has
their moments but for the line that closes the first, and leaves what the second leaves. Its tally
is theirs, put together. -/
theorem play_rows_add {cursor : Cursor} (filled : 0 < cursor.size) (first second : Nat)
    (state : State) :
    let started := (rows first cursor).play executor state
    let resumed := (rows second started.result.2).play executor started.state
    ∃ ahead behind : List (Moment Payouts),
      started.transcript = ahead ++ [.noted (.finished started.result.1)] ∧
      resumed.transcript = behind ++ [.noted (.finished resumed.result.1)] ∧
      (rows (first + second) cursor).play executor state =
        let summary := started.result.1.add resumed.result.1
        ⟨(summary, resumed.result.2), ahead ++ behind ++ [.noted (.finished summary)],
          resumed.state⟩ := by
  have still : 0 < (cursor.advance first).size := by rwa [Cursor.size_advance]
  intro started resumed
  let visited := playEach executor processRow (cursor.ahead first) state
  let revisited := playEach executor processRow ((cursor.advance first).ahead second)
    (lastState state visited)
  have playedFirst : started = _ := play_rows_of_filled executor filled first state
  have playedSecond : resumed =
      (rows second (cursor.advance first)).play executor (lastState state visited) := by
    show (rows second started.result.2).play executor started.state = _
    rw [playedFirst]
  rw [play_rows_of_filled executor still] at playedSecond
  refine ⟨visited.flatMap Playback.transcript, revisited.flatMap Playback.transcript, ?_, ?_, ?_⟩
  · rw [playedFirst]
  · rw [playedSecond]
  · have split : playEach executor processRow (cursor.ahead (first + second)) state =
        visited ++ revisited := by
      rw [Cursor.ahead_add filled, Dialogue.playEach_append]
    rw [play_rows_of_filled executor filled, split, playedFirst, playedSecond]
    simp only [List.map_append, Summary.tally_append, List.flatMap_append, Cursor.advance_add,
      lastState, List.foldl_append]
    rfl

/-- On a file with rows, carrying out orders is the work on tasks, one for each order. The tasks of
the runs have as many rows as was asked for, and these rows, put together, are those ahead of the
cursor: the row at each index stands that many places behind it, around the end of the file. Rows
that are handed in take none of them, and behind all orders the cursor has its rows as before and
stands as many places further on as there were rows to run over.

Two runs, the second from where the first stopped, make the calls of one run over as many rows, and
write what it writes but for the line that closes the first. They leave the cursor and the executor
as it does, and each number of its summary is the sum of theirs, the total modulo the width of an
amount. -/
theorem orders_share_the_rows {cursor : Cursor} (filled : 0 < cursor.size) (orders : List Order)
    (state : State) (first second : Nat) :
    let total := totalCount orders
    let tasks := dealt orders (cursor.ahead total)
    let behind := cursor.advance total
    let started := (rows first cursor).play executor state
    let resumed := (rows second started.result.2).play executor started.state
    let whole := (rows (first + second) cursor).play executor state
    (carryOutAll orders cursor =
      (workThrough tasks).andThen fun responses => .done (responses, behind)) ∧
    tasks.map Task.order = orders ∧
    tasks.flatMap Task.taken = cursor.ahead total ∧
    (cursor.ahead total).length = total ∧
    (∀ index < total, (cursor.ahead total)[index]? =
      cursor.rows[(cursor.position + index) % cursor.size]?) ∧
    behind.rows = cursor.rows ∧
    behind.position = (cursor.position + total) % cursor.size ∧
    whole.calls = started.calls ++ resumed.calls ∧
    (∃ moments more : List (Moment Payouts),
      started.transcript = moments ++ [.noted (.finished started.result.1)] ∧
      resumed.transcript = more ++ [.noted (.finished resumed.result.1)] ∧
      whole.transcript = moments ++ more ++ [.noted (.finished whole.result.1)]) ∧
    whole.result.2 = resumed.result.2 ∧
    whole.state = resumed.state ∧
    whole.result.1.rows = started.result.1.rows + resumed.result.1.rows ∧
    whole.result.1.transferred = started.result.1.transferred + resumed.result.1.transferred ∧
    whole.result.1.failed = started.result.1.failed + resumed.result.1.failed ∧
    whole.result.1.timedOut = started.result.1.timedOut + resumed.result.1.timedOut ∧
    whole.result.1.skipped = started.result.1.skipped + resumed.result.1.skipped ∧
    whole.result.1.malformed = started.result.1.malformed + resumed.result.1.malformed ∧
    whole.result.1.totalFee.toNat =
      (started.result.1.totalFee.toNat + resumed.result.1.totalFee.toNat) % 2 ^ 256 := by
  intro total tasks behind started resumed whole
  have length : (cursor.ahead total).length = total := Cursor.length_ahead filled total
  have taken : tasks.flatMap Task.taken = cursor.ahead total := by
    rw [flatMap_taken_dealt, List.take_of_length_le (Nat.le_of_eq length)]
  obtain ⟨moments, more, startedWrites, resumedWrites, one⟩ :=
    play_rows_add executor filled first second state
  have wholeIs : whole = _ := one
  have calls : whole.calls = started.calls ++ resumed.calls := by
    rw [wholeIs]
    unfold Playback.calls
    rw [startedWrites, resumedWrites]
    simp only [List.filterMap_append]
    show _ ++ [] = (_ ++ []) ++ (_ ++ [])
    simp only [List.append_nil]
  refine ⟨carryOutAll_eq_workThrough filled orders,
    map_order_dealt orders _ (Nat.le_of_eq length.symm), taken, length,
    fun index inside => Cursor.getElem?_ahead filled inside, Cursor.rows_advance cursor total,
    Cursor.position_advance filled total, calls, ?_⟩
  rw [wholeIs]
  exact ⟨⟨moments, more, startedWrites, resumedWrites, rfl⟩, rfl, rfl, rfl, rfl, rfl, rfl, rfl, rfl,
    BitVec.toNat_add _ _⟩

end Executed

/-- Two runs with a row between them share the rows of a file of two, around its end; without it
they are one run. -/
theorem runs_share_two_rows :
    0 < twoRows.size ∧
      (dealt [.run 1, .row "handed in", .run 2] (twoRows.ahead 3)).flatMap Task.taken =
        twoRows.ahead 3 ∧
      (let started := (rows 1 twoRows).play refusing 0
      let resumed := (rows 2 started.result.2).play refusing started.state
      ((rows 3 twoRows).play refusing 0).result.1.failed =
          started.result.1.failed + resumed.result.1.failed ∧
        started.result.1.failed = 1 ∧ resumed.result.1.failed = 1) := by
  have filled : 0 < twoRows.size := by decide
  obtain ⟨_, _, taken, _, _, _, _, _, _, _, _, _, _, failed, _⟩ :=
    orders_share_the_rows refusing filled [.run 1, .row "handed in", .run 2] 0 1 2
  exact ⟨filled, taken, failed, by decide +kernel, by decide +kernel⟩

end Run

end Trickle
