/-
This file turns the bytes of an address file into its rows. The first record is a
header and is dropped unread; of every later record the first field is the row, but
all its fields have to be text. Reading is all or nothing: the first record with a
field that is not text is reported, and then there are no rows.
-/

import Trickle.AddressFile.Csv
import Trickle.AddressFile.Cursor
import Trickle.Text.Utf8

namespace Trickle.AddressFile

/-- A field that is not text: which one, and how much of it still is. -/
structure BadField where
  record : Nat
  start : Csv.Position
  field : Nat
  validLength : Nat
  deriving DecidableEq, Repr

/-- The wording of a field that is not text. -/
def BadField.message (bad : BadField) : String :=
  s!"CSV parse error: record {bad.record} (line {bad.start.line}, field: {bad.field}, " ++
    s!"byte: {bad.start.byte}): invalid utf-8: invalid UTF-8 in field {bad.field} " ++
    s!"near byte index {bad.validLength}"

/-- The first field that is not text, with the number of fields in front of it. -/
def badField? : (index : Nat) → List Bytes → Option (Nat × Bytes)
  | _, [] => none
  | index, field :: rest =>
    if Utf8.isValid field then badField? (index + 1) rest else some (index, field)

/-- The row that a record holds. The first record behind the header is reported as standing
where the header stands. -/
def row (number : Nat) (header record : Csv.Record) : Except BadField String :=
  match badField? 0 record.fields with
  | some (index, field) =>
    .error {
      record := if number = 1 then 0 else number
      start := if number = 1 then header.start else record.start
      field := index
      validLength := Utf8.validLength field }
  | none => .ok (String.ofList (Utf8.scan (record.fields.headD [])).1)

/-- The rows of the records behind the header. -/
def rowsFrom (header : Csv.Record) :
    (number : Nat) → List Csv.Record → Except BadField (List String)
  | _, [] => .ok []
  | number, record :: rest => do
    let first ← row number header record
    let others ← rowsFrom header (number + 1) rest
    return first :: others

/-- The rows of a file. -/
def rows (bytes : Bytes) : Except BadField (List String) :=
  match Csv.records bytes with
  | [] => .ok []
  | header :: records => rowsFrom header 1 records

/-- A cursor at the first row of a file. -/
def cursor (bytes : Bytes) : Except BadField Cursor :=
  (rows bytes).map fun rows => Cursor.ofRows rows.toArray

end Trickle.AddressFile
