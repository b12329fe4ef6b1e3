/-
This file computes Keccak-256, padded with a one at either end, the hash behind account
addresses, their checksums and transaction hashes. The state is five by five lanes
of sixty-four bits; the lane at column `x` and row `y` has index `x + 5 * y`.
-/

import Trickle.Bytes

namespace Trickle.Keccak

/-- The twenty-five lanes of the sponge. -/
abbrev State := Vector (BitVec 64) 25

/-- The lane at an index, taken modulo twenty-five. -/
def lane (state : State) (index : Nat) : BitVec 64 :=
  state.get (Fin.ofNat 25 index)

/-- How far each lane is rotated, by index. -/
def rotations : Vector Nat 25 :=
  #v[0, 1, 62, 28, 27,
     36, 44, 6, 55, 20,
     3, 10, 43, 25, 39,
     41, 45, 15, 21, 8,
     18, 2, 61, 56, 14]

/-- The constant added to the first lane in each round. -/
def roundConstants : List (BitVec 64) :=
  [0x0000000000000001, 0x0000000000008082, 0x800000000000808A, 0x8000000080008000,
   0x000000000000808B, 0x0000000080000001, 0x8000000080008081, 0x8000000000008009,
   0x000000000000008A, 0x0000000000000088, 0x0000000080008009, 0x000000008000000A,
   0x000000008000808B, 0x800000000000008B, 0x8000000000008089, 0x8000000000008003,
   0x8000000000008002, 0x8000000000000080, 0x000000000000800A, 0x800000008000000A,
   0x8000000080008081, 0x8000000000008080, 0x0000000080000001, 0x8000000080008008]

/-- Adds to each lane the parities of two neighbouring columns. -/
def mixColumns (state : State) : State :=
  let parity := fun column =>
    lane state column ^^^ lane state (column + 5) ^^^ lane state (column + 10) ^^^
      lane state (column + 15) ^^^ lane state (column + 20)
  let parities : Vector (BitVec 64) 5 := Vector.ofFn fun column => parity column.val
  Vector.ofFn fun index =>
    state.get index ^^^ parities.get (Fin.ofNat 5 (index.val + 4)) ^^^
      (parities.get (Fin.ofNat 5 (index.val + 1))).rotateLeft 1

/-- Rotates every lane and moves it to its new place. -/
def moveLanes (state : State) : State :=
  Vector.ofFn fun index =>
    let column := index.val % 5
    let row := index.val / 5
    let source := (column + 3 * row) % 5 + 5 * column
    (lane state source).rotateLeft (rotations.get (Fin.ofNat 25 source))

/-- Combines each lane with the next two of its row. -/
def mixRows (state : State) : State :=
  Vector.ofFn fun index =>
    let row := 5 * (index.val / 5)
    let column := index.val % 5
    state.get index ^^^
      (~~~ lane state (row + (column + 1) % 5) &&& lane state (row + (column + 2) % 5))

/-- One round. -/
def round (state : State) (constant : BitVec 64) : State :=
  let mixed := mixRows (moveLanes (mixColumns state))
  mixed.set 0 (mixed.get 0 ^^^ constant)

/-- The permutation of the sponge. -/
def permute (state : State) : State :=
  roundConstants.foldl round state

/-- How many bytes the sponge takes in at a time. -/
def rate : Nat := 136

/-- The number that a little-endian byte string denotes. -/
def littleEndian (bytes : Bytes) : Nat :=
  bytes.foldr (fun byte total => byte.toNat + 256 * total) 0

/-- Takes one block into the sponge. -/
def absorb (state : State) (block : Bytes) : State :=
  permute <| Vector.ofFn fun index =>
    state.get index ^^^ BitVec.ofNat 64 (littleEndian ((block.drop (8 * index.val)).take 8))

/-- A message filled up to whole blocks: a mark, zeros, and the top bit of the last byte. -/
def pad (message : Bytes) : Bytes :=
  let free := rate - message.length % rate
  if free = 1 then message ++ [0x81]
  else message ++ 0x01 :: (List.replicate (free - 2) 0 ++ [0x80])

/-- The first `count` blocks of a byte string. -/
def blocks : (count : Nat) → Bytes → List Bytes
  | 0, _ => []
  | count + 1, bytes => bytes.take rate :: blocks count (bytes.drop rate)

/-- The bytes of a lane, least significant first. -/
def laneBytes (value : BitVec 64) : Bytes :=
  (Bytes.ofNat 8 value.toNat).reverse

/-- The Keccak-256 hash of a message, thirty-two bytes long. -/
def hash (message : Bytes) : Bytes :=
  let padded := pad message
  let start : State := Vector.replicate 25 0
  let final := (blocks (padded.length / rate) padded).foldl absorb start
  (List.range 4).flatMap fun index => laneBytes (lane final index)

end Trickle.Keccak
