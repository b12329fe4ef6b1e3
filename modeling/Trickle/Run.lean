/-
This file walks the rows of the address file. A row that is no entry is malformed, an
entry whose recorded balance is not above zero is skipped, and for every other entry
one payment is attempted; whatever comes of it, the walk goes on. A run may be limited
to a number of rows, and ends with a line that shows its tally; a run without a limit
ends only if there are no rows at all.
-/

import Trickle.AddressFile.Cursor
import Trickle.Dialogue

namespace Trickle

/-- Payments, each attempted for one account. -/
abbrev Payouts : Protocol where
  Question := Address
  Answer _ := Except TransferFailure Report

namespace Run

/-- What a finished attempt makes of its row. -/
def outcome : Except TransferFailure Report → Outcome
  | .ok report => .transferred report
  | .error failure => .failed failure

/-- Works on one row. -/
def processRow (row : String) : Dialogue Payouts Outcome :=
  match Entry.read row with
  | .error error => .note (.malformedRow error) (.done .malformed)
  | .ok entry =>
    if entry.isFunded then .ask entry.address fun result => .done (outcome result)
    else .note (.unfunded entry.address) (.done .skipped)

/-- Works on the next `count` rows, and adds them to a tally. Without any rows the walk ends at
once. -/
def walk : (count : Nat) → Cursor → Summary → Dialogue Payouts (Summary × Cursor)
  | 0, cursor, summary => .done (summary, cursor)
  | count + 1, cursor, summary =>
    match cursor.next? with
    | none => .note .noRows (.done (summary, cursor))
    | some (row, next) =>
      (processRow row).andThen fun outcome => walk count next (summary.record outcome)

/-- Works on the next `count` rows, and writes the tally to the log. -/
def rows (count : Nat) (cursor : Cursor) : Dialogue Payouts (Summary × Cursor) :=
  (walk count cursor Summary.empty).andThen fun result =>
    .note (.finished result.1) (.done result)

/-- Where a run stands: it has come to its end, or is to go on. -/
inductive Stand where
  | ended (summary : Summary) (cursor : Cursor)
  | going (summary : Summary) (cursor : Cursor)

/-- Ends a run. -/
def finish (summary : Summary) (cursor : Cursor) : Dialogue Payouts Stand :=
  .note (.finished summary) (.done (.ended summary cursor))

/-- Whether a run with or without a limit works on one more row. -/
def goesOn (limit : Option Nat) (summary : Summary) : Bool :=
  limit.all fun limit => summary.rows < limit

/-- One turn of a run: one more row is worked on, or the run ends. -/
def turn (limit : Option Nat) (summary : Summary) (cursor : Cursor) : Dialogue Payouts Stand :=
  if goesOn limit summary then
    match cursor.next? with
    | none => .note .noRows (finish summary cursor)
    | some (row, next) =>
      (processRow row).andThen fun outcome => .done (.going (summary.record outcome) next)
  else finish summary cursor

/-- The next `count` turns of a run. -/
def turns (limit : Option Nat) : (count : Nat) → Stand → Dialogue Payouts Stand
  | _, .ended summary cursor => .done (.ended summary cursor)
  | 0, .going summary cursor => .done (.going summary cursor)
  | count + 1, .going summary cursor => (turn limit summary cursor).andThen (turns limit count)

end Run

end Trickle
