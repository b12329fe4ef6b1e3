/-
This file keeps a place in a cyclic list of rows. Taking a row moves the place on by
one and from the last row back to the first; an empty list has no row to give. A
cursor is a value, so moving it leaves every copy of it where it was.
-/

namespace Trickle

/-- Rows and the place of the next one. -/
structure Cursor where
  rows : Array String
  position : Nat
  inRange : position < rows.size ∨ (position = 0 ∧ rows.size = 0)

namespace Cursor

/-- A cursor at the first row. -/
def ofRows (rows : Array String) : Cursor :=
  ⟨rows, 0, by omega⟩

/-- How many rows there are. -/
def size (cursor : Cursor) : Nat :=
  cursor.rows.size

/-- The next row, and the cursor behind it. -/
def next? (cursor : Cursor) : Option (String × Cursor) :=
  if inside : cursor.position < cursor.rows.size then
    some (cursor.rows[cursor.position],
      ⟨cursor.rows, (cursor.position + 1) % cursor.rows.size,
        Or.inl (Nat.mod_lt _ (by omega))⟩)
  else none

end Cursor

end Trickle
