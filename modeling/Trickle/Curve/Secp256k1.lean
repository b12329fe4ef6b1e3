/-
This file computes on the curve secp256k1, y² = x³ + 7 over a prime field. Points are
kept as triples that stand for (x / z², y / z³), so that adding needs no division;
a triple with z = 0 is the point at infinity.
-/

namespace Trickle.Secp256k1

/-- The prime of the field of coordinates. -/
def fieldPrime : Nat := 0xFFFFFFFFFFFFFFFFFFFFFFFFFFFFFFFFFFFFFFFFFFFFFFFFFFFFFFFEFFFFFC2F

/-- The number of points, a prime. -/
def order : Nat := 0xFFFFFFFFFFFFFFFFFFFFFFFFFFFFFFFEBAAEDCE6AF48A03BBFD25E8CD0364141

/-- The product of two residues. -/
def mul (modulus a b : Nat) : Nat := a * b % modulus

/-- The difference of two residues. -/
def sub (modulus a b : Nat) : Nat := (a + (modulus - b % modulus)) % modulus

/-- The power of a residue, reading `count` bits of the exponent. -/
def power (modulus : Nat) : (count base exponent : Nat) → Nat
  | 0, _, _ => 1 % modulus
  | count + 1, base, exponent =>
    let rest := power modulus count (mul modulus base base) (exponent / 2)
    if exponent % 2 = 1 then mul modulus base rest else rest

/-- The inverse of a residue that is not zero, for a prime modulus of 256 bits. -/
def inverse (modulus a : Nat) : Nat := power modulus 256 a (modulus - 2)

/-- A point as a triple of residues. -/
structure Point where
  x : Nat
  y : Nat
  z : Nat
  deriving DecidableEq, Repr

namespace Point

/-- The point at infinity. -/
def infinity : Point := ⟨1, 1, 0⟩

/-- The base point. -/
def base : Point :=
  ⟨0x79BE667EF9DCBBAC55A06295CE870B07029BFCDB2DCE28D959F2815B16F81798,
   0x483ADA7726A3C4655DA4FBFC0E1108A8FD17B448A68554199C47D08FFB10D4B8, 1⟩

/-- The sum of a point with itself. -/
def double (point : Point) : Point :=
  if point.z = 0 ∨ point.y = 0 then infinity
  else
    let times := mul fieldPrime
    let minus := sub fieldPrime
    let ySquared := times point.y point.y
    let slope := times 3 (times point.x point.x)
    let middle := times 4 (times point.x ySquared)
    let x := minus (times slope slope) (2 * middle)
    ⟨x, minus (times slope (minus middle x)) (times 8 (times ySquared ySquared)),
      times 2 (times point.y point.z)⟩

/-- The sum of two points. -/
def add (p q : Point) : Point :=
  if p.z = 0 then q
  else if q.z = 0 then p
  else
    let times := mul fieldPrime
    let minus := sub fieldPrime
    let pScale := times p.z p.z
    let qScale := times q.z q.z
    let px := times p.x qScale
    let qx := times q.x pScale
    let py := times p.y (times qScale q.z)
    let qy := times q.y (times pScale p.z)
    let run := minus qx px
    let rise := minus qy py
    if run = 0 then (if rise = 0 then double p else infinity)
    else
      let runSquared := times run run
      let runCubed := times run runSquared
      let anchor := times px runSquared
      let x := minus (minus (times rise rise) runCubed) (2 * anchor)
      ⟨x, minus (times rise (minus anchor x)) (times py runCubed), times run (times p.z q.z)⟩

/-- A multiple of a point, reading `count` bits of the factor. -/
def multiple : (count : Nat) → Point → (factor : Nat) → Point
  | 0, _, _ => infinity
  | count + 1, point, factor =>
    let rest := multiple count (double point) (factor / 2)
    if factor % 2 = 1 then add point rest else rest

/-- The coordinates of a point that is not at infinity. -/
def coordinates (point : Point) : Nat × Nat :=
  let shrink := inverse fieldPrime point.z
  let shrinkSquared := mul fieldPrime shrink shrink
  (mul fieldPrime point.x shrinkSquared,
    mul fieldPrime point.y (mul fieldPrime shrinkSquared shrink))

end Point

/-- The coordinates of a multiple of the base point. -/
def multipleOfBase (factor : Nat) : Nat × Nat :=
  (Point.multiple 256 Point.base factor).coordinates

end Trickle.Secp256k1
