/-
This file fixes byte strings and the big-endian numbers they denote. A number has
one shortest byte string, which is empty for zero; hashes, signatures and the
transaction encoding all read and write numbers through the functions here.
-/

namespace Trickle

/-- A byte string, first byte first. -/
abbrev Bytes := List UInt8

namespace Bytes

/-- The number a byte string denotes, most significant byte first. -/
def toNat (bytes : Bytes) : Nat :=
  bytes.foldl (fun total byte => 256 * total + byte.toNat) 0

/-- The lowest `count` base-256 digits of a number, most significant first. -/
def ofNat : (count value : Nat) → Bytes
  | 0, _ => []
  | count + 1, value => ofNat count (value / 256) ++ [UInt8.ofNat value]

/-- How many bytes a number needs; zero needs none. -/
def width (value : Nat) : Nat :=
  if value = 0 then 0 else value.log2 / 8 + 1

/-- The shortest byte string that denotes a number. -/
def minimal (value : Nat) : Bytes :=
  ofNat (width value) value

@[simp] theorem length_ofNat (count value : Nat) : (ofNat count value).length = count := by
  induction count generalizing value with
  | zero => rfl
  | succ count inductionHypothesis => simp [ofNat, inductionHypothesis]

end Bytes

end Trickle
