/-
This file proves that the answers of an executor never steer a run. Whether a row is
attempted, skipped or malformed is decided by its text before anybody is asked, and the
walk takes the next row whatever the attempt came to. Two runs over the same rows, each
against an executor of its own, therefore ask for the same payouts in the same order and
end at the same place, however much their answers differ.
-/

import Trickle.Proofs.Passes

namespace Trickle

namespace Outcome

/-- What is done with a row, leaving aside how an attempt ends. -/
inductive Kind where
  | attempted
  | skipped
  | malformed
  deriving DecidableEq, Repr

/-- The kind of an outcome. -/
def kind : Outcome → Kind
  | .transferred _ | .failed _ => .attempted
  | .skipped => .skipped
  | .malformed => .malformed

theorem map_kind_eq_skipped_iff {outcome : Option Outcome} :
    outcome.map kind = some .skipped ↔ outcome = some .skipped := by
  rcases outcome with _ | ⟨_ | _ | _ | _⟩ <;> simp [kind]

theorem map_kind_eq_malformed_iff {outcome : Option Outcome} :
    outcome.map kind = some .malformed ↔ outcome = some .malformed := by
  rcases outcome with _ | ⟨_ | _ | _ | _⟩ <;> simp [kind]

end Outcome

namespace Summary

theorem count_attempted (outcomes : List Outcome) :
    (outcomes.map Outcome.kind).count .attempted =
      outcomes.countP Outcome.isTransferred + outcomes.countP Outcome.isFailed := by
  induction outcomes with
  | nil => rfl
  | cons outcome rest inductionHypothesis =>
    rw [List.map_cons, List.count_cons, countP_cons_eq, countP_cons_eq, inductionHypothesis]
    cases outcome with
    | transferred report | failed failure =>
      simp only [Outcome.kind, Outcome.isTransferred, Outcome.isFailed, BEq.rfl, if_true,
        Bool.toNat_true, Bool.toNat_false]
      omega
    | skipped | malformed => simp [Outcome.kind, Outcome.isTransferred, Outcome.isFailed]

theorem count_skipped (outcomes : List Outcome) :
    (outcomes.map Outcome.kind).count .skipped = outcomes.countP Outcome.isSkipped := by
  rw [List.count_eq_countP, List.countP_map]
  exact congrArg (List.countP · outcomes) (funext fun outcome => by cases outcome <;> rfl)

theorem count_malformed (outcomes : List Outcome) :
    (outcomes.map Outcome.kind).count .malformed = outcomes.countP Outcome.isMalformed := by
  rw [List.count_eq_countP, List.countP_map]
  exact congrArg (List.countP · outcomes) (funext fun outcome => by cases outcome <;> rfl)

/-- The counters of a tally, with those of attempts put together, count the kinds of outcomes. -/
theorem tally_counts_kinds (outcomes : List Outcome) :
    let kinds := outcomes.map Outcome.kind
    (tally outcomes).rows = kinds.length ∧
    (tally outcomes).transferred + (tally outcomes).failed = kinds.count .attempted ∧
    (tally outcomes).skipped = kinds.count .skipped ∧
    (tally outcomes).malformed = kinds.count .malformed := by
  intro kinds
  rw [tally_eq]
  exact ⟨(List.length_map _).symm, (count_attempted outcomes).symm, (count_skipped outcomes).symm,
    (count_malformed outcomes).symm⟩

end Summary

namespace Run

open Dialogue (playEach)

/-- What is done with a row: its text alone decides. -/
def kind (row : String) : Outcome.Kind :=
  match Entry.read row with
  | .error _ => .malformed
  | .ok entry => if entry.isFunded then .attempted else .skipped

theorem kind_outcome (result : Except TransferFailure Report) :
    (outcome result).kind = .attempted := by
  cases result <;> rfl

/-- The kind of an outcome is that of its row, whoever carries out the payouts and however. -/
theorem Visit.kind_eq {lower : Protocol} {State Reason : Type} {peer : Peer lower State}
    {payout : Address → Dialogue lower (Except Reason (Except TransferFailure Report))}
    {row : String} {start : State} {visit : Playback lower State (Except Reason Outcome)}
    (played : Visit peer payout row start visit) {made : Outcome}
    (ended : visit.result = .ok made) :
    made.kind = kind row := by
  unfold kind
  cases played with
  | malformed error unread =>
    obtain rfl := Except.ok.inj ended
    rw [unread]
    rfl
  | skipped entry read unfunded =>
    obtain rfl := Except.ok.inj ended
    rw [read]
    simp only [unfunded, Bool.false_eq_true, if_false]
    rfl
  | attempted entry read funded =>
    rw [read]
    simp only [funded, if_true]
    cases result : ((payout entry.address).play peer start).result with
    | error reason =>
      simp only [result] at ended
      exact nomatch ended
    | ok result' =>
      simp only [result] at ended
      obtain rfl := Except.ok.inj ended
      exact kind_outcome _

theorem kinds_playEach {State : Type} (executor : Peer Payouts State) (rows : List String)
    (state : State) :
    ((playEach executor processRow rows state).map Playback.result).map Outcome.kind =
      rows.map kind := by
  have each (row : String) (start : State) :
      kind row = ((processRow row).play executor start).result.kind := by
    have played := visit_processRow executor
      (fun recipient => .ask recipient fun result => .done (.ok result : Except Empty _)) row start
    rw [Dialogue.throughOrStop_ask, Dialogue.play_ok] at played
    exact (played.kind_eq rfl).symm
  rw [List.map_map, eq_comm, ← List.forall₂_eq_eq_eq, List.forall₂_map_left_iff,
    List.forall₂_map_right_iff]
  exact Dialogue.forall₂_playEach executor processRow rows state _ each

/-- Two runs of as many rows from the same place, each against an executor of its own, ask for the
same payouts in the same order and end at the same place of the same rows. Their summaries are
tallies of outcomes of which each is skipped in one run exactly if it is in the other, and malformed
exactly if it is in the other; they show the same number of rows, of rows skipped, of rows malformed
and of attempts, transferred or failed. -/
theorem answers_never_steer {First Second : Type} (first : Peer Payouts First)
    (second : Peer Payouts Second) (firstStart : First) (secondStart : Second) (cursor : Cursor)
    (count : Nat) :
    let one := (rows count cursor).play first firstStart
    let other := (rows count cursor).play second secondStart
    let outcomes :=
      (playEach first processRow (cursor.ahead count) firstStart).map Playback.result
    let others :=
      (playEach second processRow (cursor.ahead count) secondStart).map Playback.result
    one.questions = other.questions ∧
    one.result.2 = other.result.2 ∧
    one.result.1 = Summary.tally outcomes ∧
    other.result.1 = Summary.tally others ∧
    one.result.1.rows = other.result.1.rows ∧
    one.result.1.transferred + one.result.1.failed =
      other.result.1.transferred + other.result.1.failed ∧
    one.result.1.skipped = other.result.1.skipped ∧
    one.result.1.malformed = other.result.1.malformed ∧
    ∀ index : Nat,
      (outcomes[index]? = some .skipped ↔ others[index]? = some .skipped) ∧
      (outcomes[index]? = some .malformed ↔ others[index]? = some .malformed) := by
  intro one other outcomes others
  have result : one.result = (Summary.tally outcomes, cursor.advance count) :=
    congrArg Playback.result (play_rows_ask first count cursor firstStart)
  have otherResult : other.result = (Summary.tally others, cursor.advance count) :=
    congrArg Playback.result (play_rows_ask second count cursor secondStart)
  have sameKinds : outcomes.map Outcome.kind = others.map Outcome.kind :=
    (kinds_playEach first _ firstStart).trans (kinds_playEach second _ secondStart).symm
  have counted := Summary.tally_counts_kinds outcomes
  rw [sameKinds] at counted
  obtain ⟨sameRows, attempted, skipped, malformed⟩ := counted
  obtain ⟨sameRows', attempted', skipped', malformed'⟩ := Summary.tally_counts_kinds others
  have kindAt (index : Nat) :
      outcomes[index]?.map Outcome.kind = others[index]?.map Outcome.kind := by
    rw [← List.getElem?_map, ← List.getElem?_map, sameKinds]
  rw [result, otherResult]
  refine ⟨?_, rfl, rfl, rfl, sameRows.trans sameRows'.symm, attempted.trans attempted'.symm,
    skipped.trans skipped'.symm, malformed.trans malformed'.symm, fun index => ⟨?_, ?_⟩⟩
  · exact (questions_rows first count cursor firstStart).trans
      (questions_rows second count cursor secondStart).symm
  · rw [← Outcome.map_kind_eq_skipped_iff, kindAt, Outcome.map_kind_eq_skipped_iff]
  · rw [← Outcome.map_kind_eq_malformed_iff, kindAt, Outcome.map_kind_eq_malformed_iff]

end Run

end Trickle
