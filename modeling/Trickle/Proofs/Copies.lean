/-
This file proves that cursors go around their rows each on its own, however they are copied
and exchanged in between. A cursor is followed from place to place until a copy of another
one is put in its stead. What it gives on the way are the rows from where it stood on,
around and around, counted by its own steps alone; whatever is done with other cursors, and
with the one it is a copy of, makes no difference.

A single step either takes a row from the cursor that is followed and moves it on by one,
or leaves it as it is, perhaps at another place. Everything else is an induction on the
steps.
-/

import Mathlib.Logic.Equiv.Basic
import Trickle.Proofs.Cursor

namespace Trickle

namespace Cursor

/-! ### The row of a later step -/

/-- The row that a cursor gives after some more steps, if it has rows. -/
def rowAhead (cursor : Cursor) (index : Nat) : Option String :=
  cursor.rows[(cursor.position + index) % cursor.size]?

theorem rowAhead_of_empty {cursor : Cursor} (empty : cursor.size = 0) (index : Nat) :
    cursor.rowAhead index = none :=
  Array.getElem?_eq_none (Nat.le_trans (Nat.le_of_eq empty) (Nat.zero_le _))

theorem rowAhead_eq_none_iff (cursor : Cursor) (index : Nat) :
    cursor.rowAhead index = none ↔ cursor.size = 0 := by
  refine ⟨fun missing => ?_, fun empty => rowAhead_of_empty empty index⟩
  by_contra filled
  have inside : (cursor.position + index) % cursor.size < cursor.rows.size :=
    Nat.mod_lt _ (Nat.pos_of_ne_zero filled)
  exact absurd (Array.getElem?_eq_none_iff.mp missing) (Nat.not_le_of_lt inside)

/-- After as many steps as there are rows a cursor gives the same row again. -/
theorem rowAhead_add_size (cursor : Cursor) (index : Nat) :
    cursor.rowAhead (index + cursor.size) = cursor.rowAhead index := by
  rw [rowAhead, ← Nat.add_assoc, Nat.add_mod_right]
  rfl

theorem rowAhead_advance (cursor : Cursor) (count index : Nat) :
    (cursor.advance count).rowAhead index = cursor.rowAhead (count + index) := by
  rcases Nat.eq_zero_or_pos cursor.size with empty | filled
  · rw [advance_of_empty empty, rowAhead_of_empty empty, rowAhead_of_empty empty]
  · rw [rowAhead, rowAhead, rows_advance, size_advance, position_advance filled, Nat.mod_add_mod,
      Nat.add_assoc]

/-- Taking a row gives the one at the cursor's place; if there is none the cursor stays. -/
theorem next?_eq (cursor : Cursor) :
    cursor.next? = (cursor.rowAhead 0).map fun row => (row, cursor.advance 1) := by
  rcases Nat.eq_zero_or_pos cursor.size with empty | filled
  · rw [next?_eq_none empty, rowAhead_of_empty empty]
    rfl
  · obtain ⟨row, next, step, found, _⟩ := exists_next?_eq_some filled
    rw [rowAhead, Nat.add_zero, Nat.mod_eq_of_lt (position_lt filled), found, advance, step]
    rfl

end Cursor

/-- Cursors, one at each place. -/
abbrev Cursors := Nat → Cursor

namespace Cursors

/-! ### Steps -/

/-- What can be done with cursors. -/
inductive Step where
  /-- Takes a row from a cursor. -/
  | next (place : Nat)
  /-- Asks a cursor for the number of its rows. -/
  | size (place : Nat)
  /-- Puts a copy of a cursor at a place, in the stead of the one that is there. -/
  | copy (source target : Nat)
  /-- Exchanges two cursors. -/
  | exchange (place other : Nat)
  deriving DecidableEq, Repr

/-- What a step says. -/
inductive Answer where
  | row (row : Option String)
  | size (count : Nat)
  | nothing
  deriving DecidableEq, Repr

/-- Does a step: what it says, and the cursors behind it. -/
def perform (cursors : Cursors) : Step → Answer × Cursors
  | .next place =>
    match (cursors place).next? with
    | none => (.row none, cursors)
    | some (row, next) => (.row (some row), Function.update cursors place next)
  | .size place => (.size (cursors place).size, cursors)
  | .copy source target => (.nothing, Function.update cursors target (cursors source))
  | .exchange place other => (.nothing, cursors ∘ Equiv.swap place other)

/-- The cursors behind some steps. -/
def after : List Step → Cursors → Cursors
  | [], cursors => cursors
  | step :: rest, cursors => after rest (perform cursors step).2

/-- Some steps, each with what it says. -/
def record : List Step → Cursors → List (Step × Answer)
  | [], _ => []
  | step :: rest, cursors =>
    (step, (perform cursors step).1) :: record rest (perform cursors step).2

/-! ### A cursor on its way -/

namespace Step

/-- Where the cursor at a place is found behind a step, unless a copy was put in its stead. -/
def follow? (place : Nat) : Step → Option Nat
  | .copy _ target => if target = place then none else some place
  | .exchange one other => some (Equiv.swap one other place)
  | .next _ | .size _ => some place

/-- How many rows a step takes from the cursor at a place. -/
def taken (place : Nat) (step : Step) : Nat :=
  if step = .next place then 1 else 0

/-- Whether a step changes which cursor is at a place, or how it stands. -/
def Touches (place : Nat) : Step → Prop
  | .next taken => taken = place
  | .size _ => False
  | .copy _ target => target = place
  | .exchange one other => one = place ∨ other = place

end Step

/-- Where the cursor at a place is found behind some steps. -/
def whereabouts? : (place : Nat) → List Step → Option Nat
  | place, [] => some place
  | place, step :: rest => (step.follow? place).bind fun place => whereabouts? place rest

/-- How many rows some steps take from the cursor at a place, as far as it can be followed. -/
def takings : (place : Nat) → List Step → Nat
  | _, [] => 0
  | place, step :: rest =>
    step.taken place + (step.follow? place).elim 0 fun place => takings place rest

/-- What a record says that the cursor at a place gave, as far as it can be followed. -/
def given : (place : Nat) → List (Step × Answer) → List (Option String)
  | _, [] => []
  | place, (step, answer) :: rest =>
    let later := (step.follow? place).elim [] fun place => given place rest
    match answer with
    | .row row => if step = .next place then row :: later else later
    | _ => later

/-! ### One step -/

theorem answer_next (cursors : Cursors) (place : Nat) :
    (perform cursors (.next place)).1 = .row ((cursors place).rowAhead 0) := by
  rw [perform, Cursor.next?_eq]
  cases (cursors place).rowAhead 0 <;> rfl

theorem cursors_next (cursors : Cursors) (place : Nat) :
    (perform cursors (.next place)).2 =
      Function.update cursors place ((cursors place).advance 1) := by
  rw [perform, Cursor.next?_eq]
  cases missing : (cursors place).rowAhead 0 with
  | none =>
    have empty := (Cursor.rowAhead_eq_none_iff _ _).mp missing
    rw [Cursor.advance_of_empty empty, Function.update_eq_self]
    rfl
  | some row => rfl

/-- A step leaves the cursor that is followed as it is, or takes a row from it. -/
theorem perform_followed (cursors : Cursors) {step : Step} {place behind : Nat}
    (followed : step.follow? place = some behind) :
    (perform cursors step).2 behind = (cursors place).advance (step.taken place) := by
  cases step with
  | next taken =>
    obtain rfl := Option.some.inj followed
    rw [cursors_next, Step.taken]
    by_cases same : taken = place
    · rw [same, if_pos rfl, Function.update_self]
    · rw [if_neg fun equal => same (Step.next.inj equal), Function.update_of_ne (Ne.symm same)]
      rfl
  | size asked =>
    obtain rfl := Option.some.inj followed
    rfl
  | copy source target =>
    rw [Step.follow?] at followed
    by_cases replaced : target = place
    · rw [if_pos replaced] at followed
      exact nomatch followed
    · rw [if_neg replaced] at followed
      obtain rfl := Option.some.inj followed
      exact Function.update_of_ne (Ne.symm replaced) _ _
  | exchange one other =>
    obtain rfl := Option.some.inj followed
    exact congrArg cursors (Equiv.swap_apply_self one other place)

theorem perform_of_untouched (cursors : Cursors) {step : Step} {place : Nat}
    (untouched : ¬ step.Touches place) : (perform cursors step).2 place = cursors place := by
  cases step with
  | next taken =>
    rw [cursors_next]
    exact Function.update_of_ne (Ne.symm untouched) _ _
  | size asked => rfl
  | copy source target => exact Function.update_of_ne (Ne.symm untouched) _ _
  | exchange one other =>
    obtain ⟨notOne, notOther⟩ := not_or.mp untouched
    exact congrArg cursors (Equiv.swap_apply_of_ne_of_ne (Ne.symm notOne) (Ne.symm notOther))

/-- What holds of all cursors holds behind a step if it holds behind one that moves on. -/
theorem perform_forall {holds : Cursor → Prop} {cursors : Cursors}
    (kept : ∀ cursor, holds cursor → holds (cursor.advance 1))
    (all : ∀ place, holds (cursors place)) (step : Step) (place : Nat) :
    holds ((perform cursors step).2 place) := by
  cases step with
  | next taken =>
    rw [cursors_next, Function.update_apply]
    split
    · exact kept _ (all taken)
    · exact all place
  | size asked => exact all place
  | copy source target =>
    show holds (Function.update cursors target (cursors source) place)
    rw [Function.update_apply]
    split
    · exact all source
    · exact all place
  | exchange one other => exact all _

/-! ### Many steps -/

theorem after_forall {holds : Cursor → Prop}
    (kept : ∀ cursor, holds cursor → holds (cursor.advance 1)) (steps : List Step)
    {cursors : Cursors} (all : ∀ place, holds (cursors place)) (place : Nat) :
    holds (after steps cursors place) := by
  induction steps generalizing cursors with
  | nil => exact all place
  | cons step rest inductionHypothesis =>
    exact inductionHypothesis (perform_forall kept all step)

theorem after_of_untouched {steps : List Step} {place : Nat}
    (untouched : ∀ step ∈ steps, ¬ step.Touches place) (cursors : Cursors) :
    after steps cursors place = cursors place := by
  induction steps generalizing cursors with
  | nil => rfl
  | cons step rest inductionHypothesis =>
    obtain ⟨first, others⟩ := List.forall_mem_cons.mp untouched
    rw [after, inductionHypothesis others, perform_of_untouched cursors first]

/-- Behind some steps a cursor has moved on by the rows that were taken from it. -/
theorem after_whereabouts {steps : List Step} {place behind : Nat}
    (found : whereabouts? place steps = some behind) (cursors : Cursors) :
    after steps cursors behind = (cursors place).advance (takings place steps) := by
  induction steps generalizing cursors place with
  | nil =>
    obtain rfl := Option.some.inj found
    rfl
  | cons step rest inductionHypothesis =>
    obtain ⟨next, followed, found⟩ := Option.bind_eq_some_iff.mp found
    rw [after, inductionHypothesis found, perform_followed cursors followed, takings, followed,
      Option.elim_some, Cursor.advance_add]

theorem given_cons (cursors : Cursors) (step : Step) (rest : List (Step × Answer)) (place : Nat) :
    given place ((step, (perform cursors step).1) :: rest) =
      (List.range (step.taken place)).map (cursors place).rowAhead ++
        (step.follow? place).elim [] fun place => given place rest := by
  cases step with
  | next taken =>
    rw [answer_next, given, Step.taken]
    by_cases same : taken = place
    · rw [same, if_pos rfl, if_pos rfl]
      rfl
    · have other : ¬ Step.next taken = .next place := fun equal => same (Step.next.inj equal)
      rw [if_neg other, if_neg other]
      rfl
  | size asked => rfl
  | copy source target => rfl
  | exchange one other => rfl

/-- What a cursor gives are the rows ahead of it, one for each row that is taken. -/
theorem given_record (steps : List Step) (cursors : Cursors) (place : Nat) :
    given place (record steps cursors) =
      (List.range (takings place steps)).map (cursors place).rowAhead := by
  induction steps generalizing cursors place with
  | nil => rfl
  | cons step rest inductionHypothesis =>
    rw [record, given_cons, takings, List.range_add, List.map_append, List.map_map]
    refine congrArg _ ?_
    cases followed : step.follow? place with
    | none => rfl
    | some behind =>
      rw [Option.elim_some, Option.elim_some, inductionHypothesis,
        perform_followed cursors followed]
      exact List.map_congr_left fun index _ => Cursor.rowAhead_advance _ _ _

/-- Fresh cursors over some rows, whatever has been done with them, keep these rows, and the place
of each is one of them, or the first if there are none. Asking for the number of rows and taking
one when there are none changes nothing; a row is missing only then. What a cursor gives from some
moment on, wherever it is moved to, are the rows from its place at that moment on, around and
around, one for each step that takes a row from it; so what it gives comes again after as many steps
as there are rows, and where the cursor is found at last it stands as many places further on.
Whatever is done with other cursors leaves a cursor as it was, and a copy as the cursor it was made
of. -/
theorem cursors_go_around_apart (rows : Array String) (before later : List Step) (place : Nat) :
    let cursors := after before fun _ => Cursor.ofRows rows
    let position := (cursors place).position
    let gives := given place (record later cursors)
    let count := takings place later
    (cursors place).rows = rows ∧
    (0 < rows.size → position < rows.size) ∧ (rows.size = 0 → position = 0) ∧
    perform cursors (.size place) = (.size rows.size, cursors) ∧
    ((perform cursors (.next place)).1 = .row none ↔ rows.size = 0) ∧
    (rows.size = 0 → (perform cursors (.next place)).2 = cursors) ∧
    gives = (List.range count).map (fun index => rows[(position + index) % rows.size]?) ∧
    (∀ index, index + rows.size < count → gives[index + rows.size]? = gives[index]?) ∧
    (∀ behind, whereabouts? place later = some behind → 0 < rows.size →
      (after later cursors behind).position = (position + count) % rows.size) ∧
    ((∀ step ∈ later, ¬ step.Touches place) → after later cursors place = cursors place ∧
      ∀ source, after (.copy source place :: later) cursors place = cursors source) := by
  intro cursors position gives count
  have sameRows : (cursors place).rows = rows :=
    after_forall (fun cursor same => (Cursor.rows_advance cursor 1).trans same) before
      (fun _ => rfl) place
  have sameSize : (cursors place).size = rows.size := congrArg Array.size sameRows
  have givesAhead : gives = (List.range count).map (cursors place).rowAhead :=
    given_record later cursors place
  have givesRows : gives =
      (List.range count).map fun index => rows[(position + index) % rows.size]? := by
    rw [givesAhead]
    refine List.map_congr_left fun index _ => ?_
    rw [Cursor.rowAhead, sameSize]
    exact congrArg (fun all : Array String => all[(position + index) % rows.size]?) sameRows
  refine ⟨sameRows, fun filled => ?_, fun empty => ?_, ?_, ?_, fun empty => ?_, givesRows,
    fun index inside => ?_, fun behind found filled => ?_,
    fun untouched => ⟨after_of_untouched untouched cursors, fun source => ?_⟩⟩
  · exact sameSize ▸ Cursor.position_lt (sameSize ▸ filled)
  · exact ((cursors place).inRange.resolve_left fun inside => by
      have none : (cursors place).rows.size = 0 := sameSize.trans empty
      omega).1
  · exact congrArg (fun size => (Answer.size size, cursors)) sameSize
  · rw [answer_next, ← sameSize, ← Cursor.rowAhead_eq_none_iff _ 0]
    exact ⟨Answer.row.inj, congrArg Answer.row⟩
  · rw [cursors_next, Cursor.advance_of_empty (sameSize.trans empty), Function.update_eq_self]
  · have early : index < count := by omega
    rw [givesAhead, List.getElem?_map, List.getElem?_map, List.getElem?_range inside,
      List.getElem?_range early, Option.map_some, Option.map_some, ← sameSize,
      Cursor.rowAhead_add_size]
  · rw [after_whereabouts found, Cursor.position_advance (sameSize ▸ filled), sameSize]
  · rw [after, after_of_untouched untouched]
    exact Function.update_self _ _ _

end Cursors

end Trickle
