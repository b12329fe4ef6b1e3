/-
This file reads numeric literals: an optional sign, then digits with an optional
point and an optional exponent, or one of the words `inf`, `infinity` and `nan` in
any case. A finite literal keeps all its digits and denotes an exact rational, so
that rounding is a separate step. Only its exponent is cut: digits that follow a size no
format can hold are passed over.
-/

namespace Trickle

/-- A numeric literal, read exactly. -/
inductive Literal where
  /-- The digits as a whole number, scaled by a power of ten. -/
  | finite (negative : Bool) (digits : List Char) (exponent : Int)
  | infinite (negative : Bool)
  | notANumber
  deriving DecidableEq, Repr

namespace Digits

/-- The value of a decimal digit. -/
def digit (char : Char) : Nat :=
  char.toNat - '0'.toNat

/-- The number that decimal digits denote, most significant first, read in one go. -/
def valueInOrder (digits : List Char) : Nat :=
  digits.foldl (fun total char => 10 * total + digit char) 0

/-- The number that decimal digits denote, put together from those of its two halves. -/
def valueByHalves : (halvings : Nat) → (digits : List Char) → Nat
  | 0, digits => valueInOrder digits
  | halvings + 1, digits =>
    let (front, back) := digits.splitAt (digits.length / 2)
    valueByHalves halvings front * Nat.pow 10 back.length + valueByHalves halvings back

/-- The number that decimal digits denote, most significant first. Only long texts are halved. -/
def value (digits : List Char) : Nat :=
  valueByHalves (digits.length.log2 - 5) digits

/-- Reading digits on adds their number to what was read before, moved up by as many places. -/
theorem foldl_digits (digits : List Char) (total : Nat) :
    digits.foldl (fun total char => 10 * total + digit char) total =
      total * Nat.pow 10 digits.length + valueInOrder digits := by
  induction digits generalizing total with
  | nil => simp [valueInOrder]
  | cons first rest inductionHypothesis =>
    have power : Nat.pow 10 (rest.length + 1) = Nat.pow 10 rest.length * 10 := rfl
    simp only [valueInOrder, List.foldl_cons, List.length_cons]
    rw [inductionHypothesis, inductionHypothesis (10 * 0 + digit first), power, Nat.add_mul,
      Nat.add_mul, Nat.mul_zero, Nat.zero_mul, Nat.zero_add, Nat.mul_comm 10 total,
      Nat.mul_assoc, Nat.mul_comm 10, Nat.add_assoc]

/-- The number of a text is that of its front, moved up, and that of its back. -/
theorem valueInOrder_append (front back : List Char) :
    valueInOrder (front ++ back) =
      valueInOrder front * Nat.pow 10 back.length + valueInOrder back := by
  simp only [valueInOrder, List.foldl_append]
  exact foldl_digits back _

/-- Halving does not change the number. -/
theorem valueByHalves_eq (halvings : Nat) (digits : List Char) :
    valueByHalves halvings digits = valueInOrder digits := by
  induction halvings generalizing digits with
  | zero => rfl
  | succ halvings inductionHypothesis =>
    simp only [valueByHalves, List.splitAt_eq, inductionHypothesis]
    rw [← valueInOrder_append, List.take_append_drop]

/-- The size of an exponent. Once it has reached `0x10000`, further digits are passed over. -/
def power (digits : List Char) : Nat :=
  digits.foldl (fun total char => if total < 0x10000 then 10 * total + digit char else total) 0

/-- The digits at the front of a text, and the rest. -/
def split (text : List Char) : List Char × List Char :=
  (text.takeWhile Char.isDigit, text.dropWhile Char.isDigit)

end Digits

namespace Literal

/-- Whether the text starts with a minus sign, and the text behind its sign. -/
def unsigned : List Char → Bool × List Char
  | '-' :: rest => (true, rest)
  | '+' :: rest => (false, rest)
  | text => (false, text)

/-- The digits behind a point, if there is one, and the rest. -/
def fraction : List Char → List Char × List Char
  | '.' :: rest => Digits.split rest
  | text => ([], text)

/-- The exponent that ends a literal; none at all counts as zero. -/
def exponent? : List Char → Option Int
  | [] => some 0
  | mark :: rest =>
    if mark = 'e' ∨ mark = 'E' then
      let (negative, digits) := unsigned rest
      if digits.isEmpty || !digits.all Char.isDigit then none
      else some (if negative then -(Digits.power digits : Int) else Digits.power digits)
    else none

/-- A literal made of digits. -/
def finite? (negative : Bool) (text : List Char) : Option Literal :=
  let (whole, afterWhole) := Digits.split text
  let (decimals, afterDecimals) := fraction afterWhole
  if whole.isEmpty && decimals.isEmpty then none
  else (exponent? afterDecimals).map fun exponent =>
    finite negative (whole ++ decimals) (exponent - decimals.length)

/-- A literal made of a word. -/
def word? (negative : Bool) (text : List Char) : Option Literal :=
  let lower := String.ofList (text.map Char.toLower)
  if lower = "inf" ∨ lower = "infinity" then some (infinite negative)
  else if lower = "nan" then some notANumber
  else none

/-- The literal that a whole text writes. -/
def read? (text : List Char) : Option Literal :=
  let (negative, body) := unsigned text
  (finite? negative body).orElse fun _ => word? negative body

end Literal

end Trickle
