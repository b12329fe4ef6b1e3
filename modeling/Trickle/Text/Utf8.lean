/-
This file reads and writes UTF-8. `scan` takes characters off the front of a byte
string for as long as they are well formed and gives back the bytes it could not
read, so one function answers three questions: what the text is, whether all the
bytes are text, and how long the longest well-formed beginning is.
-/

import Trickle.Bytes

namespace Trickle.Utf8

/-! ### Writing -/

/-- The bytes of a text. -/
def encode (text : List Char) : Bytes :=
  text.flatMap String.utf8EncodeChar

/-- The bytes of a string. -/
def ofString (text : String) : Bytes :=
  encode text.toList

/-! ### Reading one character -/

/-- The six payload bits of a continuation byte. -/
def continuation? (byte : UInt8) : Option Nat :=
  if 0x80 ≤ byte.toNat ∧ byte.toNat < 0xC0 then some (byte.toNat - 0x80) else none

/-- The character with a code point, if the code point is a scalar value of at least `least`. -/
def scalar? (least code : Nat) : Option Char :=
  if least ≤ code ∧ code.isValidChar then some (Char.ofNat code) else none

/-- The character of a one-byte form. -/
def one? (first : UInt8) : Option Char :=
  if first.toNat < 0x80 then some (Char.ofNat first.toNat) else none

/-- The character of a two-byte form. -/
def two? (first second : UInt8) : Option Char :=
  if 0xC0 ≤ first.toNat ∧ first.toNat < 0xE0 then do
    let low ← continuation? second
    scalar? 0x80 ((first.toNat - 0xC0) * 64 + low)
  else none

/-- The character of a three-byte form. -/
def three? (first second third : UInt8) : Option Char :=
  if 0xE0 ≤ first.toNat ∧ first.toNat < 0xF0 then do
    let middle ← continuation? second
    let low ← continuation? third
    scalar? 0x800 (((first.toNat - 0xE0) * 64 + middle) * 64 + low)
  else none

/-- The character of a four-byte form. -/
def four? (first second third fourth : UInt8) : Option Char :=
  if 0xF0 ≤ first.toNat ∧ first.toNat < 0xF8 then do
    let high ← continuation? second
    let middle ← continuation? third
    let low ← continuation? fourth
    scalar? 0x10000 ((((first.toNat - 0xF0) * 64 + high) * 64 + middle) * 64 + low)
  else none

/-! ### Reading a text -/

/-- The characters of the longest well-formed beginning, and the bytes after it. -/
def scan : Bytes → List Char × Bytes
  | [] => ([], [])
  | first :: afterFirst =>
    match one? first with
    | some char => (char :: (scan afterFirst).1, (scan afterFirst).2)
    | none =>
      match afterFirst with
      | [] => ([], [first])
      | second :: afterSecond =>
        match two? first second with
        | some char => (char :: (scan afterSecond).1, (scan afterSecond).2)
        | none =>
          match afterSecond with
          | [] => ([], [first, second])
          | third :: afterThird =>
            match three? first second third with
            | some char => (char :: (scan afterThird).1, (scan afterThird).2)
            | none =>
              match afterThird with
              | [] => ([], [first, second, third])
              | fourth :: afterFourth =>
                match four? first second third fourth with
                | some char => (char :: (scan afterFourth).1, (scan afterFourth).2)
                | none => ([], first :: second :: third :: fourth :: afterFourth)

/-- Whether all the bytes are text. -/
def isValid (bytes : Bytes) : Bool :=
  (scan bytes).2.isEmpty

/-- The length of the longest well-formed beginning. -/
def validLength (bytes : Bytes) : Nat :=
  bytes.length - (scan bytes).2.length

/-- The text that the bytes write, if they write one. -/
def decode? (bytes : Bytes) : Option String :=
  if isValid bytes then some (String.ofList (scan bytes).1) else none

/-! ### Reading what is no text -/

/-- Whether a byte may follow the first byte of a form of three or four bytes. -/
def follows (first second : UInt8) : Bool :=
  let low := if first = 0xE0 then 0xA0 else if first = 0xF0 then 0x90 else 0x80
  let high := if first = 0xED then 0x9F else if first = 0xF4 then 0x8F else 0xBF
  low ≤ second.toNat && second.toNat ≤ high

/-- How many bytes at the front, where no character stands, are the beginning of one. -/
def brokenLength : Bytes → Nat
  | first :: second :: rest =>
    if 0xE0 ≤ first.toNat ∧ first.toNat ≤ 0xF4 ∧ follows first second then
      match rest with
      | third :: _ => if 0xF0 ≤ first.toNat ∧ (continuation? third).isSome then 3 else 2
      | [] => 2
    else 1
  | _ => 1

/-- The characters of the bytes, with one mark in the place of each broken character. Every round
passes at least one byte. -/
def replaced : (rounds : Nat) → Bytes → List Char
  | 0, _ => []
  | rounds + 1, bytes =>
    match scan bytes with
    | (text, []) => text
    | (text, broken) => text ++ '\uFFFD' :: replaced rounds (broken.drop (brokenLength broken))

/-- The text that the bytes write, with a mark in the place of what is no text. -/
def lossy (bytes : Bytes) : String :=
  String.ofList (replaced (bytes.length + 1) bytes)

end Trickle.Utf8
