/-
This file proves where a cursor leads. What a cursor gives is the list of its rows read
from its place on, around and around: the row of a later step stands as many places
further on, counted modulo the number of rows. Moving a cursor keeps its rows, and as
many steps in a row as there are rows give all of them, each as often as it stands there.
-/

import Mathlib.Data.List.Rotate
import Trickle.AddressFile.Cursor

namespace Trickle.Cursor

/-! ### One step -/

theorem position_lt {cursor : Cursor} (filled : 0 < cursor.size) :
    cursor.position < cursor.size :=
  cursor.inRange.resolve_right fun empty => Nat.ne_of_gt filled empty.2

theorem next?_eq_none {cursor : Cursor} (empty : cursor.size = 0) : cursor.next? = none :=
  dif_neg fun inside => by
    have bound : cursor.rows.size = 0 := empty
    omega

/-- A step gives the row at the cursor's place and moves the place on by one, around the end. -/
theorem exists_next?_eq_some {cursor : Cursor} (filled : 0 < cursor.size) :
    ∃ row next, cursor.next? = some (row, next) ∧ cursor.rows[cursor.position]? = some row ∧
      next.rows = cursor.rows ∧ next.size = cursor.size ∧
      next.position = (cursor.position + 1) % cursor.size :=
  ⟨_, _, dif_pos (position_lt filled), Array.getElem?_eq_getElem (position_lt filled), rfl, rfl,
    rfl⟩

/-! ### Many steps -/

/-- The rows that the next `count` steps give. -/
def ahead (cursor : Cursor) (count : Nat) : List String :=
  (List.range count).filterMap fun index => cursor.rows[(cursor.position + index) % cursor.size]?

/-- The cursor behind the next `count` steps. -/
def advance : (count : Nat) → Cursor → Cursor
  | 0, cursor => cursor
  | count + 1, cursor =>
    match cursor.next? with
    | none => cursor
    | some (_, next) => advance count next

theorem advance_of_empty {cursor : Cursor} (empty : cursor.size = 0) (count : Nat) :
    cursor.advance count = cursor := by
  cases count with
  | zero => rfl
  | succ count => rw [advance, next?_eq_none empty]

theorem ahead_of_empty {cursor : Cursor} (empty : cursor.size = 0) (count : Nat) :
    cursor.ahead count = [] := by
  refine List.filterMap_eq_nil_iff.mpr fun index _ => Array.getElem?_eq_none ?_
  have bound : cursor.rows.size = 0 := empty
  omega

theorem ahead_succ_of_next? {cursor next : Cursor} {row : String} (filled : 0 < cursor.size)
    (step : cursor.next? = some (row, next)) (count : Nat) :
    cursor.ahead (count + 1) = row :: next.ahead count := by
  obtain ⟨first, behind, step', found, sameRows, sameSize, place⟩ := exists_next?_eq_some filled
  obtain ⟨rfl, rfl⟩ := Prod.mk.inj (Option.some.inj (step.symm.trans step'))
  have later (index : Nat) : (next.position + index) % next.size =
      (cursor.position + (index + 1)) % cursor.size := by
    rw [place, sameSize, Nat.mod_add_mod]
    congr 1
    omega
  unfold ahead
  rw [List.range_succ_eq_map, List.filterMap_cons, Nat.add_zero,
    Nat.mod_eq_of_lt (position_lt filled), found, List.filterMap_map]
  simp only [later, sameRows]
  rfl

theorem rows_advance (cursor : Cursor) (count : Nat) :
    (cursor.advance count).rows = cursor.rows := by
  induction count generalizing cursor with
  | zero => rfl
  | succ count inductionHypothesis =>
    rcases Nat.eq_zero_or_pos cursor.size with empty | filled
    · rw [advance_of_empty empty]
    · obtain ⟨row, next, step, _, sameRows, _, _⟩ := exists_next?_eq_some filled
      rw [advance, step]
      exact (inductionHypothesis next).trans sameRows

theorem advance_add (cursor : Cursor) (first second : Nat) :
    cursor.advance (first + second) = (cursor.advance first).advance second := by
  induction first generalizing cursor with
  | zero => rw [Nat.zero_add, advance]
  | succ first inductionHypothesis =>
    rcases Nat.eq_zero_or_pos cursor.size with empty | filled
    · simp only [advance_of_empty empty]
    · obtain ⟨row, next, step, _⟩ := exists_next?_eq_some filled
      rw [Nat.succ_add, advance, advance, step]
      exact inductionHypothesis next

theorem size_advance (cursor : Cursor) (count : Nat) :
    (cursor.advance count).size = cursor.size :=
  congrArg Array.size (rows_advance cursor count)

/-- The rows of some steps and of more steps after them are the rows of all these steps. -/
theorem ahead_add {cursor : Cursor} (filled : 0 < cursor.size) (first second : Nat) :
    cursor.ahead (first + second) =
      cursor.ahead first ++ (cursor.advance first).ahead second := by
  induction first generalizing cursor with
  | zero => rw [Nat.zero_add, advance, show cursor.ahead 0 = [] from rfl, List.nil_append]
  | succ first inductionHypothesis =>
    obtain ⟨row, next, step, _, _, sameSize, _⟩ := exists_next?_eq_some filled
    rw [Nat.succ_add, ahead_succ_of_next? filled step, ahead_succ_of_next? filled step, advance,
      step, inductionHypothesis (sameSize ▸ filled), List.cons_append]

theorem position_advance {cursor : Cursor} (filled : 0 < cursor.size) (count : Nat) :
    (cursor.advance count).position = (cursor.position + count) % cursor.size := by
  induction count generalizing cursor with
  | zero => exact (Nat.mod_eq_of_lt (position_lt filled)).symm
  | succ count inductionHypothesis =>
    obtain ⟨row, next, step, _, sameRows, sameSize, place⟩ := exists_next?_eq_some filled
    rw [advance, step]
    rw [inductionHypothesis (sameSize ▸ filled), place, sameSize, Nat.mod_add_mod]
    congr 1
    omega

/-! ### The rows ahead, by their index -/

theorem length_ahead {cursor : Cursor} (filled : 0 < cursor.size) (count : Nat) :
    (cursor.ahead count).length = count := by
  induction count generalizing cursor with
  | zero => rfl
  | succ count inductionHypothesis =>
    obtain ⟨row, next, step, _, _, sameSize, _⟩ := exists_next?_eq_some filled
    rw [ahead_succ_of_next? filled step, List.length_cons, inductionHypothesis (sameSize ▸ filled)]

theorem getElem?_ahead {cursor : Cursor} (filled : 0 < cursor.size) {count index : Nat}
    (inside : index < count) :
    (cursor.ahead count)[index]? =
      cursor.rows[(cursor.position + index) % cursor.size]? := by
  induction count generalizing cursor index with
  | zero => omega
  | succ count inductionHypothesis =>
    obtain ⟨row, next, step, found, sameRows, sameSize, place⟩ := exists_next?_eq_some filled
    rw [ahead_succ_of_next? filled step]
    cases index with
    | zero =>
      rw [List.getElem?_cons_zero, Nat.add_zero, Nat.mod_eq_of_lt (position_lt filled)]
      exact found.symm
    | succ index =>
      rw [List.getElem?_cons_succ, inductionHypothesis (sameSize ▸ filled) (by omega), sameRows,
        place, sameSize, Nat.mod_add_mod]
      congr 2
      omega

/-- The rows of fewer steps are the first ones of more. -/
theorem take_ahead {cursor : Cursor} (filled : 0 < cursor.size) {fewer count : Nat}
    (inside : fewer ≤ count) : (cursor.ahead count).take fewer = cursor.ahead fewer := by
  refine List.ext_getElem? fun index => ?_
  by_cases within : index < fewer
  · rw [List.getElem?_take_of_lt within, getElem?_ahead filled (by omega),
      getElem?_ahead filled within]
  · rw [List.getElem?_eq_none (by rw [List.length_take]; omega),
      List.getElem?_eq_none (by rw [length_ahead filled]; omega)]

/-- As many steps in a row as there are rows give the whole list, turned to where they start. -/
theorem pass_eq_rotate {cursor : Cursor} {count start : Nat} (filled : 0 < cursor.size)
    (inside : start + cursor.size ≤ count) :
    ((cursor.ahead count).drop start).take cursor.size =
      cursor.rows.toList.rotate (cursor.position + start) := by
  refine List.ext_getElem? fun index => ?_
  by_cases within : index < cursor.size
  · rw [List.getElem?_take_of_lt within, List.getElem?_drop,
      getElem?_ahead filled (by omega), List.getElem?_rotate within, Array.getElem?_toList,
      Array.length_toList]
    congr 2
    omega
  · rw [List.getElem?_eq_none (by rw [List.length_take]; omega),
      List.getElem?_eq_none (by
        rw [List.length_rotate, Array.length_toList]
        exact Nat.le_of_not_lt within)]

end Trickle.Cursor
