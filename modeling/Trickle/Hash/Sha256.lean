/-
This file computes SHA-256 and the keyed hash built from it, which together draw the
secret number of a signature from the key and the message.
-/

import Trickle.Bytes

namespace Trickle.Sha256

/-- The eight words of the chaining state. -/
abbrev State := Vector (BitVec 32) 8

/-- The state in front of the first block. -/
def initial : State :=
  #v[0x6a09e667, 0xbb67ae85, 0x3c6ef372, 0xa54ff53a, 0x510e527f, 0x9b05688c, 0x1f83d9ab, 0x5be0cd19]

/-- The constant of each round. -/
def roundConstants : List (BitVec 32) :=
  [0x428a2f98, 0x71374491, 0xb5c0fbcf, 0xe9b5dba5, 0x3956c25b, 0x59f111f1, 0x923f82a4, 0xab1c5ed5,
   0xd807aa98, 0x12835b01, 0x243185be, 0x550c7dc3, 0x72be5d74, 0x80deb1fe, 0x9bdc06a7, 0xc19bf174,
   0xe49b69c1, 0xefbe4786, 0x0fc19dc6, 0x240ca1cc, 0x2de92c6f, 0x4a7484aa, 0x5cb0a9dc, 0x76f988da,
   0x983e5152, 0xa831c66d, 0xb00327c8, 0xbf597fc7, 0xc6e00bf3, 0xd5a79147, 0x06ca6351, 0x14292967,
   0x27b70a85, 0x2e1b2138, 0x4d2c6dfc, 0x53380d13, 0x650a7354, 0x766a0abb, 0x81c2c92e, 0x92722c85,
   0xa2bfe8a1, 0xa81a664b, 0xc24b8b70, 0xc76c51a3, 0xd192e819, 0xd6990624, 0xf40e3585, 0x106aa070,
   0x19a4c116, 0x1e376c08, 0x2748774c, 0x34b0bcb5, 0x391c0cb3, 0x4ed8aa4a, 0x5b9cca4f, 0x682e6ff3,
   0x748f82ee, 0x78a5636f, 0x84c87814, 0x8cc70208, 0x90befffa, 0xa4506ceb, 0xbef9a3f7, 0xc67178f2]

/-- The next word of the schedule, from the sixteen before it, oldest first. -/
def nextWord (window : List (BitVec 32)) : BitVec 32 :=
  let older := window.getD 1 0
  let newer := window.getD 14 0
  window.getD 0 0 + (older.rotateRight 7 ^^^ older.rotateRight 18 ^^^ older >>> 3) +
    window.getD 9 0 + (newer.rotateRight 17 ^^^ newer.rotateRight 19 ^^^ newer >>> 10)

/-- `count` words of the schedule that goes on from a window of sixteen. -/
def schedule : (count : Nat) → List (BitVec 32) → List (BitVec 32)
  | 0, _ => []
  | count + 1, window =>
    window.headD 0 :: schedule count (window.drop 1 ++ [nextWord window])

/-- One round. -/
def round (state : State) (word : BitVec 32 × BitVec 32) : State :=
  let a := state[0]
  let b := state[1]
  let c := state[2]
  let e := state[4]
  let choice := (e &&& state[5]) ^^^ (~~~ e &&& state[6])
  let majority := (a &&& b) ^^^ (a &&& c) ^^^ (b &&& c)
  let first := state[7] + (e.rotateRight 6 ^^^ e.rotateRight 11 ^^^ e.rotateRight 25) + choice +
    word.1 + word.2
  let second := (a.rotateRight 2 ^^^ a.rotateRight 13 ^^^ a.rotateRight 22) + majority
  #v[first + second, a, b, c, state[3] + first, e, state[5], state[6]]

/-- The words of a block. -/
def wordsOf : (count : Nat) → Bytes → List (BitVec 32)
  | 0, _ => []
  | count + 1, bytes => BitVec.ofNat 32 (Bytes.toNat (bytes.take 4)) :: wordsOf count (bytes.drop 4)

/-- Takes one block into the state. -/
def absorb (state : State) (block : Bytes) : State :=
  let words := schedule 64 (wordsOf 16 block)
  let mixed := (roundConstants.zip words).foldl round state
  Vector.zipWith (· + ·) state mixed

/-- A message filled up to whole blocks: a mark, zeros, and the length in bits. -/
def pad (message : Bytes) : Bytes :=
  let zeros := (119 - message.length % 64) % 64
  message ++ 0x80 :: (List.replicate zeros 0 ++ Bytes.ofNat 8 (8 * message.length))

/-- The first `count` blocks of a byte string. -/
def blocks : (count : Nat) → Bytes → List Bytes
  | 0, _ => []
  | count + 1, bytes => bytes.take 64 :: blocks count (bytes.drop 64)

/-- The SHA-256 hash of a message, thirty-two bytes long. -/
def hash (message : Bytes) : Bytes :=
  let padded := pad message
  let final := (blocks (padded.length / 64) padded).foldl absorb initial
  final.toList.flatMap fun word => Bytes.ofNat 4 word.toNat

/-- The keyed hash of a message. Keys here never exceed one block. -/
def keyed (key message : Bytes) : Bytes :=
  let filled := key ++ List.replicate (64 - key.length) 0
  let inner := hash (filled.map (· ^^^ 0x36) ++ message)
  hash (filled.map (· ^^^ 0x5C) ++ inner)

end Trickle.Sha256
