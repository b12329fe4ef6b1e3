/-
This file splits comma-separated bytes into records. A machine reads one byte at a
time and is in one of five phases; quotes have a meaning only at the start of a
field, a doubled quote inside a quoted field stands for one, and text behind a
closing quote belongs to the field. Carriage return and line feed both end a record,
and what ends no record is skipped, so blank lines and the second half of a line end
disappear. Every byte string has records: nothing is refused here.
-/

import Trickle.Bytes

namespace Trickle.Csv

/-- Where the reader stood when it began a record. -/
structure Position where
  /-- One more than the line feeds read so far. -/
  line : Nat
  byte : Nat
  deriving DecidableEq, Repr

/-- A record: its fields without their quotes, and where it began. -/
structure Record where
  fields : List Bytes
  start : Position
  deriving DecidableEq, Repr

/-- What the machine is in the middle of. -/
inductive Phase where
  | betweenRecords
  | fieldStart
  | bare
  | quoted
  /-- Behind a quote inside a quoted field: it closes the field or is half of a doubled quote. -/
  | quoteSeen
  deriving DecidableEq, Repr

/-- The machine. Everything it has collected is kept last first. -/
structure State where
  phase : Phase
  field : Bytes
  fields : List Bytes
  records : List Record
  /-- Where the record in progress began. -/
  start : Position
  here : Position
  deriving DecidableEq, Repr

def quote : UInt8 := 0x22
def comma : UInt8 := 0x2C
def lineFeed : UInt8 := 0x0A
def carriageReturn : UInt8 := 0x0D

/-- Whether a byte ends a bare record. -/
def isTerminator (byte : UInt8) : Bool :=
  byte == lineFeed || byte == carriageReturn

namespace State

/-- The machine in front of the first byte. -/
def initial (byte : Nat) : State :=
  { phase := .betweenRecords, field := [], fields := [], records := [],
    start := ⟨1, 0⟩, here := ⟨1, byte⟩ }

/-- Moves past a byte. -/
def advance (state : State) (byte : UInt8) : State :=
  let line := if byte = lineFeed then state.here.line + 1 else state.here.line
  { state with here := ⟨line, state.here.byte + 1⟩ }

/-- Adds a byte to the field in progress. -/
def push (state : State) (phase : Phase) (byte : UInt8) : State :=
  { state with phase := phase, field := byte :: state.field }

/-- Ends the field in progress. -/
def endField (state : State) : State :=
  { state with phase := .fieldStart, field := [], fields := state.field.reverse :: state.fields }

/-- Ends the field and the record in progress; the next record begins here. -/
def endRecord (state : State) : State :=
  let fields := (state.field.reverse :: state.fields).reverse
  { state with
    phase := .betweenRecords, field := [], fields := [],
    records := ⟨fields, state.start⟩ :: state.records, start := state.here }

/-- What a byte does inside or right behind a field that is not open in quotes. -/
def closeOrPush (state : State) (byte : UInt8) : State :=
  if byte = comma then state.endField
  else if isTerminator byte then state.endRecord
  else state.push .bare byte

/-- What a byte does at the start of a field. -/
def openField (state : State) (byte : UInt8) : State :=
  if byte = quote then { state with phase := .quoted } else state.closeOrPush byte

/-- Reads one byte. -/
def step (state : State) (byte : UInt8) : State :=
  let moved := state.advance byte
  match state.phase with
  | .betweenRecords => if isTerminator byte then moved else moved.openField byte
  | .fieldStart => moved.openField byte
  | .bare => moved.closeOrPush byte
  | .quoted =>
    if byte = quote then { moved with phase := .quoteSeen } else moved.push .quoted byte
  | .quoteSeen => if byte = quote then moved.push .quoted byte else moved.closeOrPush byte

/-- Ends a record that the last byte left open. -/
def finish (state : State) : State :=
  if state.phase = .betweenRecords then state else state.endRecord

end State

/-- The mark that may stand in front of the first record. -/
def byteOrderMark : Bytes := [0xEF, 0xBB, 0xBF]

/-- The records of a byte string, in order. -/
def records (bytes : Bytes) : List Record :=
  let marked := byteOrderMark.isPrefixOf bytes
  let start := State.initial (if marked then 3 else 0)
  let body := if marked then bytes.drop 3 else bytes
  ((body.foldl State.step start).finish).records.reverse

end Trickle.Csv
