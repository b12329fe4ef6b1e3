/-
This file proves which texts are read as numbers, and as which. A decimal number has a sign,
digits with a point in front of, among or behind them, and an exponent; sign, point and
exponent may be missing, but there is at least one digit. An endless one is one of two
words, in any case and with a sign.

Reading a decimal number keeps all its digits. Its exponent is read for what it says as
long as its size is below ten times `0x10000`; of a larger one the last digits are passed
over.
-/

import Mathlib.Algebra.Field.Rat
import Mathlib.Data.List.Forall2
import Mathlib.Data.List.Induction
import Mathlib.Data.List.TakeWhile
import Trickle.Number.Literal
import Trickle.Proofs.Amount

namespace Trickle

/-! ### How numbers are written -/

/-- A sign in front of a number, if there is one. -/
inductive Sign where
  | none
  | plus
  | minus
  deriving DecidableEq, Repr

namespace Sign

/-- The characters of a sign. -/
def chars : Sign → List Char
  | .none => []
  | .plus => ['+']
  | .minus => ['-']

/-- Whether a sign makes a number negative. -/
def isNegative : Sign → Bool
  | .minus => true
  | _ => false

/-- A size with a sign. -/
def apply (sign : Sign) (size : Nat) : Int :=
  if sign.isNegative then -(size : Int) else size

end Sign

/-- An exponent behind a mark of either case. -/
structure Exponent where
  capital : Bool
  sign : Sign
  digits : List Char
  isDigits : ∀ char ∈ digits, char.isDigit = true
  filled : digits ≠ []

namespace Exponent

/-- What is written. -/
def chars (exponent : Exponent) : List Char :=
  (if exponent.capital then 'E' else 'e') :: (exponent.sign.chars ++ exponent.digits)

/-- The size that the digits denote. -/
def size (exponent : Exponent) : Nat :=
  Decimal.numeral exponent.digits

/-- The power of ten that is meant. -/
def power (exponent : Exponent) : Int :=
  exponent.sign.apply exponent.size

/-- The power of ten that is read. -/
def powerRead (exponent : Exponent) : Int :=
  exponent.sign.apply (Digits.power exponent.digits)

end Exponent

/-- A decimal number. There may be a point without decimals, but not without any digits. -/
structure DecimalNumber where
  sign : Sign
  whole : List Char
  decimals : Option (List Char)
  exponent : Option Exponent
  isDigits : ∀ char ∈ whole ++ decimals.getD [], char.isDigit = true
  filled : whole ++ decimals.getD [] ≠ []

namespace DecimalNumber

/-- What is written. -/
def chars (number : DecimalNumber) : List Char :=
  number.sign.chars ++ (number.whole ++
    (number.decimals.elim [] (List.cons '.') ++ number.exponent.elim [] Exponent.chars))

/-- The digits in front of the point and behind it. -/
def digits (number : DecimalNumber) : List Char :=
  number.whole ++ number.decimals.getD []

/-- How many digits stand behind the point. -/
def places (number : DecimalNumber) : Nat :=
  (number.decimals.getD []).length

/-- What the exponent says. -/
def power (number : DecimalNumber) : Int :=
  number.exponent.elim 0 Exponent.power

/-- The number that is meant, without its sign. -/
def magnitude (number : DecimalNumber) : ℚ :=
  Decimal.numeral number.digits * 10 ^ (number.power - number.places)

theorem magnitude_nonneg (number : DecimalNumber) : 0 ≤ number.magnitude :=
  mul_nonneg (Nat.cast_nonneg _) (zpow_nonneg (by decide) _)

/-- The number that is meant. -/
def value (number : DecimalNumber) : ℚ :=
  if number.sign.isNegative then -number.magnitude else number.magnitude

/-- What the exponent is read for. -/
def powerRead (number : DecimalNumber) : Int :=
  number.exponent.elim 0 Exponent.powerRead

/-- The literal that a decimal number is read as. -/
def literal (number : DecimalNumber) : Literal :=
  .finite number.sign.isNegative number.digits (number.powerRead - number.places)

end DecimalNumber

/-- Whether a text is a word in lower case, with any of its letters in upper case instead. -/
def IsCased (text : List Char) (word : String) : Prop :=
  List.Forall₂ (fun char letter => char = letter ∨ char = letter.toUpper) text word.toList

/-- A word for what is larger than every number, or with a minus sign below every number. -/
structure EndlessNumber where
  sign : Sign
  word : List Char
  known : IsCased word "inf" ∨ IsCased word "infinity"

/-- What is written. -/
def EndlessNumber.chars (number : EndlessNumber) : List Char :=
  number.sign.chars ++ number.word

namespace Digits

/-! ### What digits denote -/

theorem value_eq (digits : List Char) : value digits = Decimal.numeral digits := by
  rw [value, valueByHalves_eq]
  rfl

/-- The size of an exponent is read for what it is, or the size is at least ten times the bound
behind which digits are passed over. -/
theorem power_eq_or_large (digits : List Char) :
    power digits = Decimal.numeral digits ∨
      0x10000 ≤ power digits ∧ 10 * 0x10000 ≤ Decimal.numeral digits := by
  induction digits using List.reverseRecOn with
  | nil => exact .inl rfl
  | append_singleton digits last inductionHypothesis =>
    have step : power (digits ++ [last]) =
        if power digits < 0x10000 then 10 * power digits + digit last else power digits := by
      rw [power, List.foldl_append]
      rfl
    have shifted : Decimal.numeral (digits ++ [last]) =
        10 * Decimal.numeral digits + digit last := by
      rw [Decimal.numeral, List.foldl_append]
      rfl
    rw [shifted, step]
    split <;> omega

end Digits

namespace Literal

/-! ### Signs and digits -/

theorem unsigned_chars (sign : Sign) {body : List Char}
    (unsigned : ∀ char ∈ body.head?, char ≠ '-' ∧ char ≠ '+') :
    Literal.unsigned (sign.chars ++ body) = (sign.isNegative, body) := by
  cases sign with
  | none =>
    show Literal.unsigned body = (false, body)
    unfold Literal.unsigned
    split
    · exact absurd rfl (unsigned '-' rfl).1
    · exact absurd rfl (unsigned '+' rfl).2
    · rfl
  | plus => rfl
  | minus => rfl

theorem exists_sign (text : List Char) :
    ∃ sign : Sign, sign.chars ++ (unsigned text).2 = text ∧
      sign.isNegative = (unsigned text).1 := by
  unfold unsigned
  split
  · exact ⟨.minus, rfl, rfl⟩
  · exact ⟨.plus, rfl, rfl⟩
  · exact ⟨.none, rfl, rfl⟩

theorem split_append {digits rest : List Char} (isDigits : ∀ char ∈ digits, char.isDigit = true)
    (stops : ∀ char ∈ rest.head?, char.isDigit = false) :
    Digits.split (digits ++ rest) = (digits, rest) := by
  rw [Digits.split, List.takeWhile_append_of_pos isDigits, List.dropWhile_append_of_pos isDigits]
  cases rest with
  | nil => rw [List.takeWhile_nil, List.dropWhile_nil, List.append_nil]
  | cons first rest =>
    have stop : ¬ first.isDigit = true := Bool.eq_false_iff.mp (stops first rfl)
    rw [List.takeWhile_cons_of_neg stop, List.dropWhile_cons_of_neg stop, List.append_nil]

/-! ### Exponents -/

theorem head_exponent (exponent : Option Exponent) :
    ∀ char ∈ (exponent.elim [] Exponent.chars).head?, char = 'e' ∨ char = 'E' := by
  intro char first
  cases exponent with
  | none => exact absurd first (by simp)
  | some exponent =>
    obtain rfl := Option.some.inj first
    cases exponent.capital
    · exact .inl rfl
    · exact .inr rfl

theorem exponent?_chars (exponent : Option Exponent) :
    exponent? (exponent.elim [] Exponent.chars) = some (exponent.elim 0 Exponent.powerRead) := by
  cases exponent with
  | none => rfl
  | some exponent =>
    obtain ⟨capital, sign, digits, isDigits, filled⟩ := exponent
    have isMark : (if capital then 'E' else 'e') = 'e' ∨ (if capital then 'E' else 'e') = 'E' := by
      cases capital
      · exact .inl rfl
      · exact .inr rfl
    have unsigned : ∀ char ∈ digits.head?, char ≠ '-' ∧ char ≠ '+' := by
      intro char first
      have isDigit := isDigits char (List.mem_of_head? first)
      constructor <;> rintro rfl <;> exact absurd isDigit (by decide)
    have refused : ¬ (digits.isEmpty || !digits.all Char.isDigit) = true := by
      simpa [filled] using isDigits
    simp only [Option.elim_some, Exponent.chars, exponent?, if_pos isMark,
      unsigned_chars sign unsigned, if_neg refused]
    rfl

theorem exists_exponent {text : List Char} {power : Int} (read : exponent? text = some power) :
    ∃ exponent : Option Exponent,
      exponent.elim [] Exponent.chars = text ∧ exponent.elim 0 Exponent.powerRead = power := by
  cases text with
  | nil => exact ⟨none, rfl, Option.some.inj read⟩
  | cons mark rest =>
    rw [exponent?] at read
    split at read
    · next isMark =>
      dsimp only at read
      split at read
      · exact nomatch read
      · next accepted =>
        obtain ⟨sign, signed, isNegative⟩ := exists_sign rest
        rw [Bool.or_eq_true, not_or, Bool.not_eq_true', Bool.not_eq_false] at accepted
        obtain ⟨filled, isDigits⟩ := accepted
        refine ⟨some ⟨decide (mark = 'E'), sign, (unsigned rest).2, List.all_eq_true.mp isDigits,
          fun empty => filled (List.isEmpty_iff.mpr empty)⟩, ?_, ?_⟩
        · show (if decide (mark = 'E') = true then 'E' else 'e') :: (sign.chars ++ _) = _
          rw [signed]
          rcases isMark with rfl | rfl <;> rfl
        · rw [← isNegative] at read
          exact Option.some.inj read
    · exact nomatch read

/-! ### Decimal numbers -/

theorem fraction_chars {decimals : Option (List Char)} {rest : List Char}
    (isDigits : ∀ char ∈ decimals.getD [], char.isDigit = true)
    (stops : ∀ char ∈ rest.head?, char.isDigit = false ∧ char ≠ '.') :
    fraction (decimals.elim [] (List.cons '.') ++ rest) = (decimals.getD [], rest) := by
  cases decimals with
  | none =>
    show fraction rest = ([], rest)
    unfold fraction
    split
    · exact absurd rfl (stops '.' rfl).2
    · rfl
  | some decimals => exact split_append isDigits fun char first => (stops char first).1

theorem exists_decimals (text : List Char) :
    ∃ decimals : Option (List Char),
      decimals.elim [] (List.cons '.') ++ (fraction text).2 = text ∧
        decimals.getD [] = (fraction text).1 ∧
        ∀ char ∈ decimals.getD [], char.isDigit = true := by
  unfold fraction
  split
  · next rest =>
    refine ⟨some (rest.takeWhile Char.isDigit), ?_, rfl, fun char => List.mem_takeWhile_imp⟩
    exact congrArg (List.cons '.') List.takeWhile_append_dropWhile
  · exact ⟨none, rfl, rfl, fun _ => False.elim ∘ List.not_mem_nil⟩

/-- A decimal number is read, with all its digits. -/
theorem read?_chars (number : DecimalNumber) : read? number.chars = some number.literal := by
  obtain ⟨sign, whole, decimals, exponent, isDigits, filled⟩ := number
  generalize written : exponent.elim [] Exponent.chars = tail
  have tailStops : ∀ char ∈ tail.head?, char.isDigit = false ∧ char ≠ '.' := by
    intro char first
    rcases head_exponent exponent char (written ▸ first) with rfl | rfl <;> decide
  have restStops : ∀ char ∈ (decimals.elim [] (List.cons '.') ++ tail).head?,
      char.isDigit = false := by
    intro char first
    cases decimals with
    | none => exact (tailStops char first).1
    | some => obtain rfl := Option.some.inj first; rfl
  have unsigned : ∀ char ∈ (whole ++ (decimals.elim [] (List.cons '.') ++ tail)).head?,
      char ≠ '-' ∧ char ≠ '+' := by
    intro char first
    have isDigitOrPoint : char.isDigit = true ∨ char = '.' := by
      cases whole with
      | cons digit whole =>
        obtain rfl := Option.some.inj first
        exact .inl (isDigits _ List.mem_cons_self)
      | nil =>
        cases decimals with
        | none => exact absurd rfl filled
        | some => exact .inr (Option.some.inj first).symm
    rcases isDigitOrPoint with isDigit | rfl
    · constructor <;> rintro rfl <;> exact absurd isDigit (by decide)
    · decide
  have digits : ¬ (whole.isEmpty && (decimals.getD []).isEmpty) = true := by
    simpa using filled
  have power := exponent?_chars exponent
  rw [written] at power
  simp only [read?, DecimalNumber.chars, written, unsigned_chars sign unsigned, finite?,
    split_append (fun char member => isDigits char (List.mem_append_left _ member)) restStops,
    fraction_chars (fun char member => isDigits char (List.mem_append_right _ member)) tailStops,
    if_neg digits, power]
  rfl

theorem exists_number_of_finite? {negative : Bool} {text : List Char} {literal : Literal}
    (read : finite? negative text = some literal) (sign : Sign)
    (signed : sign.isNegative = negative) :
    ∃ number : DecimalNumber, number.chars = sign.chars ++ text ∧ number.literal = literal := by
  obtain ⟨decimals, pointed, sameDecimals, isDecimals⟩ :=
    exists_decimals (Digits.split text).2
  simp only [finite?] at read
  split at read
  · exact nomatch read
  · next filled =>
    obtain ⟨power, readPower, rfl⟩ := Option.map_eq_some_iff.mp read
    obtain ⟨exponent, written, samePower⟩ := exists_exponent readPower
    rw [← sameDecimals] at filled ⊢
    refine ⟨⟨sign, (Digits.split text).1, decimals, exponent, fun char member => ?_, ?_⟩, ?_, ?_⟩
    · rcases List.mem_append.mp member with whole | decimal
      · exact List.mem_takeWhile_imp whole
      · exact isDecimals char decimal
    · simpa using filled
    · rw [DecimalNumber.chars, written, pointed]
      exact congrArg _ List.takeWhile_append_dropWhile
    · rw [DecimalNumber.literal, signed, DecimalNumber.powerRead, samePower]
      rfl

/-! ### Words -/

theorem toNat_toLower (char : Char) :
    char.toLower.toNat =
      if 0x41 ≤ char.toNat ∧ char.toNat ≤ 0x5A then char.toNat + 32 else char.toNat := by
  have range : char.val ≥ 'A'.val ∧ char.val ≤ 'Z'.val ↔
      0x41 ≤ char.toNat ∧ char.toNat ≤ 0x5A := by
    rw [ge_iff_le, UInt32.le_iff_toNat_le, UInt32.le_iff_toNat_le]
    rfl
  delta Char.toLower
  split
  · next upper =>
    have small := (range.mp upper).2
    rw [if_pos (range.mp upper)]
    show (char.val + 32).toNat = char.toNat + 32
    rw [UInt32.toNat_add]
    exact Nat.mod_eq_of_lt (Nat.lt_of_le_of_lt (Nat.add_le_add_right small 32) (by decide))
  · next other => rw [if_neg fun upper => other (range.mpr upper)]

/-- Whether a character is a small letter, with a capital. -/
def isSmall (letter : Char) : Bool :=
  0x61 ≤ letter.toNat && letter.toNat ≤ 0x7A && letter.toUpper.toNat + 32 == letter.toNat

/-- A character that becomes a letter in lower case is the letter in either case. -/
theorem toLower_eq_iff {char letter : Char} (small : isSmall letter = true) :
    char.toLower = letter ↔ char = letter ∨ char = letter.toUpper := by
  simp only [isSmall, Bool.and_eq_true, decide_eq_true_eq, beq_iff_eq] at small
  rw [← Char.toNat_inj, ← Char.toNat_inj, ← Char.toNat_inj, toNat_toLower]
  split <;> omega

theorem map_toLower_eq_iff (text : List Char) {word : List Char}
    (small : ∀ letter ∈ word, isSmall letter = true) :
    text.map Char.toLower = word ↔
      List.Forall₂ (fun char letter => char = letter ∨ char = letter.toUpper) text word := by
  induction text generalizing word with
  | nil => rw [List.map_nil, List.forall₂_nil_left_iff, eq_comm]
  | cons char text inductionHypothesis =>
    cases word with
    | nil => exact ⟨fun same => (nomatch same), fun cased => (nomatch cased)⟩
    | cons letter word =>
      obtain ⟨isSmall, others⟩ := List.forall_mem_cons.mp small
      rw [List.map_cons, List.cons.injEq, List.forall₂_cons, toLower_eq_iff isSmall,
        inductionHypothesis others]

theorem isCased_iff {text : List Char} {word : String}
    (known : word = "inf" ∨ word = "infinity") :
    String.ofList (text.map Char.toLower) = word ↔ IsCased text word := by
  have small : ∀ letter ∈ word.toList, isSmall letter = true :=
    List.all_eq_true.mp <| by rcases known with rfl | rfl <;> rfl
  rw [IsCased, ← map_toLower_eq_iff text small, ← String.toList_inj, String.toList_ofList]

theorem word?_eq_infinite_iff (negative sign : Bool) (text : List Char) :
    word? negative text = some (.infinite sign) ↔
      sign = negative ∧ (IsCased text "inf" ∨ IsCased text "infinity") := by
  rw [← isCased_iff (.inl rfl), ← isCased_iff (.inr rfl), word?]
  split
  · next known =>
    rw [and_iff_left known, Option.some.injEq, Literal.infinite.injEq, eq_comm]
  · next unknown =>
    refine ⟨fun read => ?_, fun known => absurd known.2 unknown⟩
    split at read <;> exact nomatch read

theorem word?_ne_finite (sign negative : Bool) (text digits : List Char) (exponent : Int) :
    word? sign text ≠ some (.finite negative digits exponent) := by
  intro read
  rw [word?] at read
  split at read
  · exact nomatch read
  · split at read <;> exact nomatch read

theorem head_of_isCased {text : List Char} {word : String}
    (known : word = "inf" ∨ word = "infinity") (cased : IsCased text word) :
    ∃ first rest, text = first :: rest ∧ (first = 'i' ∨ first = 'I') := by
  obtain ⟨others, begins⟩ : ∃ others, word.toList = 'i' :: others := by
    rcases known with rfl | rfl <;> exact ⟨_, rfl⟩
  rw [IsCased, begins] at cased
  cases cased with
  | cons head _ => exact ⟨_, _, rfl, head⟩

/-! ### Numbers -/

theorem read?_eq (text : List Char) :
    read? text = (finite? (unsigned text).1 (unsigned text).2).or
      (word? (unsigned text).1 (unsigned text).2) := by
  rw [Option.or_eq_orElse]
  rfl

/-- A text is read as a finite number if and only if it is a decimal number. -/
theorem read?_eq_finite_iff (text : List Char) (negative : Bool) (digits : List Char)
    (exponent : Int) :
    read? text = some (.finite negative digits exponent) ↔
      ∃ number : DecimalNumber, number.chars = text ∧
        number.literal = .finite negative digits exponent := by
  constructor
  · intro read
    obtain ⟨sign, signed, isNegative⟩ := exists_sign text
    rw [read?_eq] at read
    rcases Option.or_eq_some_iff.mp read with found | ⟨_, word⟩
    · rw [← signed]
      exact exists_number_of_finite? found sign isNegative
    · exact absurd word (word?_ne_finite _ _ _ _ _)
  · rintro ⟨number, rfl, same⟩
    rw [read?_chars, same]

/-- A text is read as an endless number if and only if it is one of the two words with a sign. -/
theorem read?_eq_infinite_iff (text : List Char) (negative : Bool) :
    read? text = some (.infinite negative) ↔
      ∃ number : EndlessNumber, number.chars = text ∧ number.sign.isNegative = negative := by
  constructor
  · intro read
    obtain ⟨sign, signed, isNegative⟩ := exists_sign text
    rw [read?_eq] at read
    rcases Option.or_eq_some_iff.mp read with found | ⟨_, word⟩
    · obtain ⟨number, _, same⟩ := exists_number_of_finite? found sign isNegative
      exact nomatch same
    · obtain ⟨rfl, known⟩ := (word?_eq_infinite_iff _ _ _).mp word
      exact ⟨⟨sign, (unsigned text).2, known⟩, signed, isNegative⟩
  · rintro ⟨number, rfl, rfl⟩
    obtain ⟨first, rest, word, head⟩ :=
      number.known.elim (head_of_isCased (.inl rfl)) (head_of_isCased (.inr rfl))
    have noSign : first ≠ '-' ∧ first ≠ '+' := by
      rcases head with rfl | rfl <;> decide
    have unsigned : ∀ char ∈ number.word.head?, char ≠ '-' ∧ char ≠ '+' := by
      intro char isFirst
      rw [word] at isFirst
      obtain rfl := Option.some.inj isFirst
      exact noSign
    have noDigits : finite? number.sign.isNegative number.word = none := by
      rw [word]
      rcases head with rfl | rfl <;> rfl
    rw [read?_eq, EndlessNumber.chars, unsigned_chars _ unsigned, noDigits, Option.none_or]
    exact (word?_eq_infinite_iff _ _ _).mpr ⟨rfl, number.known⟩

end Literal

end Trickle
