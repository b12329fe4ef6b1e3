/-
This file reads and writes hexadecimal text of a fixed number of digits: addresses,
hashes and keys. Reading takes digits of either case behind an optional mark `0x`
or `0X`, and says what is wrong in a fixed order: an odd count first, then a wrong
count, then the first byte that is no digit. Positions count bytes after the mark.
-/

import Trickle.Text.Utf8

namespace Trickle

/-- Why a text is not the expected number of hexadecimal digits. -/
inductive HexError where
  | oddLength
  | wrongLength
  | invalidDigit (byte : UInt8) (position : Nat)
  deriving DecidableEq, Repr

namespace Hex

/-- The value of a hexadecimal digit of either case. -/
def digit? (byte : UInt8) : Option Nat :=
  let code := byte.toNat
  if 0x30 ≤ code ∧ code ≤ 0x39 then some (code - 0x30)
  else if 0x61 ≤ code ∧ code ≤ 0x66 then some (code - 0x61 + 10)
  else if 0x41 ≤ code ∧ code ≤ 0x46 then some (code - 0x41 + 10)
  else none

/-- The digits behind an optional mark. -/
def unmarked : Bytes → Bytes
  | zero :: mark :: rest =>
    if zero = 0x30 ∧ (mark = 0x78 ∨ mark = 0x58) then rest else zero :: mark :: rest
  | short => short

/-- Adds digits to a total, most significant first, naming the first byte that is none. -/
def accumulate : (total position : Nat) → Bytes → Except HexError Nat
  | total, _, [] => .ok total
  | total, position, byte :: rest =>
    match digit? byte with
    | some value => accumulate (16 * total + value) (position + 1) rest
    | none => .error (.invalidDigit byte position)

/-- The number that a text of exactly `count` digits denotes. -/
def read (count : Nat) (text : Bytes) : Except HexError Nat :=
  let digits := unmarked text
  if digits.length % 2 = 1 then .error .oddLength
  else if digits.length ≠ count then .error .wrongLength
  else accumulate 0 0 digits

/-- The lower-case digit of a value below sixteen. -/
def digitChar (value : Nat) : Char :=
  if value < 10 then Char.ofNat (0x30 + value) else Char.ofNat (0x61 + (value - 10))

/-- The lowest `count` digits of a number, most significant first. -/
def write : (count value : Nat) → List Char
  | 0, _ => []
  | count + 1, value => write count (value / 16) ++ [digitChar (value % 16)]

/-- The two digits of each byte. -/
def writeBytes (bytes : Bytes) : List Char :=
  bytes.flatMap fun byte => write 2 byte.toNat

/-- The shortest text of a number behind the mark, as quantities are written: zero is `0x0`. -/
def quantity (value : Nat) : String :=
  "0x" ++ String.ofList (write (value.log2 / 4 + 1) value)

end Hex

end Trickle
