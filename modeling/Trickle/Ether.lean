/-
This file reads and writes amounts as decimal texts in ether, with eighteen decimals.

Reading works on bytes. It takes out the first point, and the number of bytes behind
it is the number of decimals; decimals beyond the eighteenth are cut off, unread. A
leading minus sign asks for the negative number, which the word shows as its
complement. Digits are read in base ten, in groups, and whether the number still fits is
only looked at behind each group; an underscore is no digit and is passed over; an empty
text is zero. The result is scaled to the smallest unit, modulo the word size if it is not
negative; a negative one must not leave the signed range.
-/

import Trickle.Wei
import Trickle.Text.Utf8

namespace Trickle.Ether

/-- Why a text is no amount. -/
inductive AmountError where
  | invalidDigit (byte : UInt8)
  | tooLarge
  /-- The cut to eighteen decimals falls inside a character. This is no error the program
  reports: it cannot go on. -/
  | splitCharacter
  /-- A negative number is in the signed range, and out of it in the smallest unit. The program
  cannot go on from this either. -/
  | signedOverflow
  deriving DecidableEq, Repr

/-- The wording of a fault. -/
def AmountError.message : AmountError → String
  | .invalidDigit byte => s!"invalid digit: {Char.ofNat byte.toNat}"
  | .tooLarge => "number does not fit in the integer size"
  | .splitCharacter => "the text is cut inside a character"
  | .signedOverflow => "the number leaves the signed range"

/-- Whether a fault is none that can be reported: the program breaks down over it. -/
def AmountError.isBreakdown : AmountError → Bool
  | .splitCharacter | .signedOverflow => true
  | .invalidDigit _ | .tooLarge => false

/-- How many decimals an amount in ether has. -/
def decimals : Nat := 18

def point : UInt8 := 0x2E
def minus : UInt8 := 0x2D
def underscore : UInt8 := 0x5F

/-- The value of a decimal digit. -/
def digit? (byte : UInt8) : Option Nat :=
  if 0x30 ≤ byte.toNat ∧ byte.toNat ≤ 0x39 then some (byte.toNat - 0x30) else none

/-- How many digits a group has. -/
def groupSize : Nat := 19

/-- A total, if it is below a bound. -/
def bounded (bound total : Nat) : Except AmountError Nat :=
  if total < bound then .ok total else .error .tooLarge

/-- Adds digits to a total, most significant first; `room` more of them belong to the group. The
total has to be below `bound` behind each group and at the end. -/
def accumulate (bound : Nat) : (room total : Nat) → Bytes → Except AmountError Nat
  | _, total, [] => bounded bound total
  | room, total, byte :: rest =>
    if byte = underscore then accumulate bound room total rest
    else
      match digit? byte with
      | none => .error (.invalidDigit byte)
      | some value =>
        if room ≤ 1 then do
          accumulate bound groupSize (← bounded bound (10 * total + value)) rest
        else accumulate bound (room - 1) (10 * total + value) rest

/-- The number below a bound that a text denotes. -/
def number (bound : Nat) (text : Bytes) : Except AmountError Nat :=
  accumulate bound groupSize 0 text

/-- The text without its first point, and how many bytes stood behind the point. -/
def withoutPoint (text : Bytes) : Bytes × Nat :=
  match text.dropWhile (· ≠ point) with
  | [] => (text, 0)
  | _ :: behind => (text.takeWhile (· ≠ point) ++ behind, behind.length)

/-- Whether a character starts at the front of the bytes, or nothing does. -/
def atBoundary : Bytes → Bool
  | [] => true
  | byte :: _ => (Utf8.continuation? byte).isNone

/-- The text cut down to `decimals` decimals, and how many decimals are left. -/
def cut (text : Bytes) (count : Nat) : Except AmountError (Bytes × Nat) :=
  if count ≤ decimals then .ok (text, count)
  else
    let kept := text.length - (count - decimals)
    if atBoundary (text.drop kept) then .ok (text.take kept, decimals)
    else .error .splitCharacter

/-- The negative number that the digits behind a minus sign denote, scaled, as a word. -/
def negativeWord (scale : Nat) (digits : Bytes) : Except AmountError Wei := do
  let size ← number (Nat.pow 2 256) digits
  if Nat.pow 2 255 < size then throw .tooLarge
  else if Nat.pow 2 255 < size * scale then throw .signedOverflow
  else return -(BitVec.ofNat 256 (size * scale))

/-- The number that digits without a sign denote, scaled modulo the word size. -/
def unsignedWord (scale : Nat) (digits : Bytes) : Except AmountError Wei := do
  let size ← number (Nat.pow 2 256) digits
  return BitVec.ofNat 256 size * BitVec.ofNat 256 scale

/-- The amount that a text writes. Only a minus sign at its very front is one: a sign that moves to
the front because the point before it is taken out is no digit. -/
def read (text : String) : Except AmountError Wei := do
  let bytes := Utf8.ofString text
  let (digits, count) := withoutPoint bytes
  let (kept, left) ← cut digits count
  let scale := Nat.pow 10 (decimals - left)
  if bytes.head? = some minus then negativeWord scale (kept.drop 1) else unsignedWord scale kept

/-- The digits of a number, at least `count` of them. -/
def padded (count value : Nat) : String :=
  let digits := toString value
  String.ofList (List.replicate (count - digits.length) '0') ++ digits

/-- The text of an amount, with all eighteen decimals. -/
def text (amount : Wei) : String :=
  s!"{amount.toNat / weiPerEther}.{padded decimals (amount.toNat % weiPerEther)}"

end Trickle.Ether
