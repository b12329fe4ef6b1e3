/-
This file writes and reads the recursive length encoding of transactions. An item is
a byte string or a list of items. Short items carry their length in the first byte,
longer ones carry the length of their length, and a single small byte stands for
itself. Reading takes only what writing produces: shortest lengths, and no length for
a byte that can stand for itself.
-/

import Trickle.Bytes

namespace Trickle

/-- A byte string or a list of items. -/
inductive Rlp where
  | bytes (content : Bytes)
  | list (items : List Rlp)
  deriving Repr

namespace Rlp

/-! ### Writing -/

/-- The bytes in front of a payload: `short` starts the forms whose length fits the first byte. -/
def header (short length : Nat) : Bytes :=
  if length ≤ 55 then [UInt8.ofNat (short + length)]
  else
    let count := Bytes.minimal length
    UInt8.ofNat (short + 55 + count.length) :: count

/-- The encoding of a byte string. -/
def encodeBytes : Bytes → Bytes
  | [byte] => if byte < 0x80 then [byte] else [0x81, byte]
  | content => header 0x80 content.length ++ content

/-- A payload of encoded items, as a list. -/
def encodePayload (payload : Bytes) : Bytes :=
  header 0xC0 payload.length ++ payload

mutual

/-- The encoding of an item. -/
def encode : Rlp → Bytes
  | .bytes content => encodeBytes content
  | .list items => encodePayload (encodeAll items)

/-- The encodings of items, one behind the other. -/
def encodeAll : List Rlp → Bytes
  | [] => []
  | item :: rest => encode item ++ encodeAll rest

end

/-- The item of a number: its shortest byte string. -/
def ofNat (value : Nat) : Rlp :=
  .bytes (Bytes.minimal value)

/-! ### Reading -/

/-- Takes `count` bytes off the front. -/
def take? (count : Nat) (input : Bytes) : Option (Bytes × Bytes) :=
  if count ≤ input.length then some (input.take count, input.drop count) else none

/-- Reads a length that takes `count` bytes, which has to be a long one in its shortest form. -/
def longLength? (count : Nat) (input : Bytes) : Option (Nat × Bytes) := do
  let (digits, rest) ← take? count input
  let length := Bytes.toNat digits
  if 55 < length ∧ Bytes.minimal length = digits then some (length, rest) else none

/-- Splits off the payload of the first item: whether it is a list, the payload, and the rest. -/
def payload? : Bytes → Option (Bool × Bytes × Bytes)
  | [] => none
  | first :: rest =>
    let code := first.toNat
    if code < 0x80 then some (false, [first], rest)
    else if code ≤ 0xB7 then do
      let (content, behind) ← take? (code - 0x80) rest
      match content with
      | [byte] => if byte < 0x80 then none else some (false, content, behind)
      | _ => some (false, content, behind)
    else if code ≤ 0xBF then do
      let (length, afterLength) ← longLength? (code - 0xB7) rest
      let (content, behind) ← take? length afterLength
      return (false, content, behind)
    else if code ≤ 0xF7 then do
      let (content, behind) ← take? (code - 0xC0) rest
      return (true, content, behind)
    else do
      let (length, afterLength) ← longLength? (code - 0xF7) rest
      let (content, behind) ← take? length afterLength
      return (true, content, behind)

/-- Reads items until the input ends, going at most `depth` steps deep. -/
def decodeAll? : (depth : Nat) → Bytes → Option (List Rlp)
  | _, [] => some []
  | 0, _ :: _ => none
  | depth + 1, first :: rest => do
    let (isList, content, behind) ← payload? (first :: rest)
    let item ← if isList then (decodeAll? depth content).map Rlp.list else some (.bytes content)
    let others ← decodeAll? depth behind
    return item :: others

/-- The one item that a byte string encodes. -/
def decode? (input : Bytes) : Option Rlp :=
  match decodeAll? (input.length + 1) input with
  | some [item] => some item
  | _ => none

end Rlp

end Trickle
