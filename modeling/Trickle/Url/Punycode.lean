/-
This file writes the labels of a domain name with nothing but ASCII: first the ASCII
characters of the label, then its other characters in ascending order. Think of a
counter that runs over all places in the label for one character, and then over all
places for the next character. Each further character is written as the number of
steps the counter takes to reach it. Numbers are written lowest digit first, in a base
that differs from digit to digit: below a threshold a digit is the last one. The
thresholds follow the size of the numbers before.
-/

namespace Trickle.Punycode

/-! ### Numbers -/

/-- The thirty-six digits in order. -/
def alphabet : List Char :=
  "abcdefghijklmnopqrstuvwxyz0123456789".toList

/-- The digit of a value below thirty-six. -/
def digitChar (value : Nat) : Char :=
  alphabet.getD value '0'

/-- The value of a digit, which may be a capital letter. -/
def digit? (char : Char) : Option Nat :=
  alphabet.idxOf? char.toLower

/-- The threshold of the digit with an index. -/
def threshold (bias index : Nat) : Nat :=
  max 1 (min 26 (36 * (index + 1) - bias))

/-- The digits of a number from the one with an index on. -/
def digits (bias index number : Nat) : List Char :=
  let least := threshold bias index
  if number < least then [digitChar number]
  else
    let rest := number - least
    digitChar (least + rest % (36 - least)) :: digits bias (index + 1) (rest / (36 - least))
termination_by number
decreasing_by
  have positive : 1 ≤ threshold bias index := Nat.le_max_left 1 _
  have bounded := Nat.div_le_self (number - threshold bias index) (36 - threshold bias index)
  omega

/-- The bound of the numbers in a text and of the values of their places. -/
def bound : Nat := 0x100000000

/-- Reads the number whose digits from the one with an index on stand at the front, each worth
`weight` times its value. -/
def number? (bias : Nat) : (index weight : Nat) → List Char → Option (Nat × List Char)
  | _, _, [] => none
  | index, weight, char :: rest => do
    let value ← digit? char
    let least := threshold bias index
    if bound ≤ value * weight then none
    else if value < least then some (value * weight, rest)
    else if bound ≤ (36 - least) * weight then none
    else
      let (higher, rest) ← number? bias (index + 1) ((36 - least) * weight) rest
      some (value * weight + higher, rest)

/-- The bias that a damped number leads to. -/
def biasOf (number : Nat) : Nat :=
  if 455 < number then 36 + biasOf (number / 35) else 36 * number / (number + 38)
termination_by number
decreasing_by omega

/-- How much numbers are damped: the first one, and all others. -/
def firstDamping : Nat := 700
def laterDamping : Nat := 2

/-- The bias behind a number, in a label that has grown to `count` characters. -/
def adapted (damping number count : Nat) : Nat :=
  biasOf (number / damping + number / damping / count)

/-- The bias in front of the first number. -/
def firstBias : Nat := 72

/-! ### Places -/

/-- Where the counter stands: at a character, and at a place among the characters of the label. -/
structure Spot where
  code : Nat
  place : Nat
  deriving DecidableEq, Repr

namespace Spot

/-- Where the counter starts. -/
def start : Spot :=
  ⟨0x80, 0⟩

/-- How many steps lead from one spot to a later one, in a label of `count` characters. -/
def stepsTo (spot later : Spot) (count : Nat) : Nat :=
  (later.code - spot.code) * (count + 1) + later.place - spot.place

/-- The spot that a number of steps leads to. -/
def after (spot : Spot) (steps count : Nat) : Spot :=
  let place := spot.place + steps
  ⟨spot.code + place / (count + 1), place % (count + 1)⟩

/-- The spot behind a character that was put in at a spot. -/
def next (spot : Spot) : Spot :=
  { spot with place := spot.place + 1 }

end Spot

/-! ### Labels -/

/-- The spots of the characters of a label that are not ASCII. The place of a character counts
those in front of it that are in the label already when its turn comes. -/
def spots (before : List Nat) : List Nat → List Spot
  | [] => []
  | code :: rest =>
    let later := spots (before ++ [code]) rest
    if code < 0x80 then later else ⟨code, before.countP (· ≤ code)⟩ :: later

/-- Whether the counter comes to a spot not later than to another. -/
def comesFirst (first second : Spot) : Bool :=
  first.code < second.code || (first.code == second.code && first.place ≤ second.place)

/-- Writes the way of the counter through spots, in a label of `count` characters. -/
def way (damping bias count : Nat) (spot : Spot) : List Spot → List Char
  | [] => []
  | later :: rest =>
    let steps := spot.stepsTo later count
    digits bias 0 steps ++
      way laterDamping (adapted damping steps (count + 1)) (count + 1) later.next rest

/-- A label written in ASCII. -/
def encode (label : List Char) : List Char :=
  let plain := label.filter (·.toNat < 0x80)
  let ordered := (spots [] (label.map Char.toNat)).mergeSort comesFirst
  let separator := if plain.isEmpty then [] else ['-']
  plain ++ separator ++ way firstDamping firstBias plain.length .start ordered

/-- Puts the characters that a text tells into a label. Every round takes at least one digit. -/
def fill? : (rounds damping bias : Nat) → Spot → (label text : List Char) → Option (List Char)
  | _, _, _, _, label, [] => some label
  | 0, _, _, _, _, _ => none
  | rounds + 1, damping, bias, spot, label, text => do
    let (steps, rest) ← number? bias 0 1 text
    let reached := spot.after steps label.length
    if reached.code.isValidChar ∧ spot.place + steps < bound then
      let (front, back) := label.splitAt reached.place
      fill? rounds laterDamping (adapted damping steps (label.length + 1)) reached.next
        (front ++ Char.ofNat reached.code :: back) rest
    else none

/-- The label that a text in ASCII writes. A separator without anything in front is none. -/
def decode? (text : List Char) : Option (List Char) :=
  let behind := (text.reverse.takeWhile (· ≠ '-')).reverse
  let plain := text.take (text.length - behind.length - 1)
  if plain.isEmpty then fill? text.length firstDamping firstBias .start [] text
  else fill? behind.length firstDamping firstBias .start plain behind

end Trickle.Punycode
