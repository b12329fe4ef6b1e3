/-
This file signs hashes with a private key. The secret number of a signature is drawn
from the key and the hash by a chain of keyed hashes, so that the same hash is always
signed in the same way, and of the two forms a signature has the one with the smaller
second number is given.
-/

import Trickle.Curve.Secp256k1
import Trickle.Hash.Sha256

namespace Trickle

/-- A private key: a number between one and the number of points. -/
structure PrivateKey where
  scalar : Nat
  positive : 0 < scalar
  inRange : scalar < Secp256k1.order
  deriving DecidableEq

/-- A signature. `oddY` tells which of two public keys it belongs to. -/
structure Signature where
  r : Nat
  s : Nat
  oddY : Bool
  deriving DecidableEq, Repr

namespace Signature

open Secp256k1

/-- The key and the value of the generator of secret numbers. -/
structure Generator where
  key : Bytes
  value : Bytes

namespace Generator

/-- Mixes the generator with some data behind a separating byte. -/
def mix (generator : Generator) (separator : UInt8) (data : Bytes) : Generator :=
  let key := Sha256.keyed generator.key (generator.value ++ separator :: data)
  ⟨key, Sha256.keyed key generator.value⟩

/-- The generator for a key and a hash. -/
def start (scalar hash : Nat) : Generator :=
  let seed := Bytes.ofNat 32 scalar ++ Bytes.ofNat 32 (hash % order)
  let blank : Generator := ⟨List.replicate 32 0, List.replicate 32 1⟩
  (blank.mix 0 seed).mix 1 seed

/-- The next value. -/
def draw (generator : Generator) : Bytes :=
  Sha256.keyed generator.key generator.value

/-- The generator after a value that was not usable. -/
def skip (generator : Generator) (value : Bytes) : Generator :=
  (Generator.mk generator.key value).mix 0 []

end Generator

/-- The signature with a secret number, unless that number is not usable. -/
def withSecret? (scalar hash secret : Nat) : Option Signature :=
  if secret = 0 ∨ order ≤ secret then none
  else
    let (x, y) := multipleOfBase secret
    let r := x % order
    let s := mul order (inverse order secret) ((hash + r * scalar) % order)
    if r = 0 ∨ s = 0 then none
    else
      let odd := y % 2 == 1
      if order / 2 < s then some ⟨r, order - s, !odd⟩ else some ⟨r, s, odd⟩

/-- The first usable signature among `count` draws. A draw fails about once in 2¹²⁷, so the value
behind the last draw is never reached. -/
def search (scalar hash : Nat) : (count : Nat) → Generator → Signature
  | 0, _ => ⟨1, 1, false⟩
  | count + 1, generator =>
    let value := generator.draw
    match withSecret? scalar hash (Bytes.toNat value) with
    | some signature => signature
    | none => search scalar hash count (generator.skip value)

/-- The signature of a hash. -/
def ofHash (key : PrivateKey) (hash : Nat) : Signature :=
  search key.scalar hash 64 (Generator.start key.scalar hash)

end Signature

end Trickle
