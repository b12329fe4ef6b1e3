/-
This file proves which texts are read as hexadecimal numbers of a fixed number of digits:
those that are so many digits of either case behind an optional mark, and no others. Two
texts that differ only in the mark and in the case of their digits are read alike, also
where both are refused: then for the same reason at the same place.

Fields are trimmed before they are read. Blanks at the two ends of a text make no
difference to what is left of it.
-/

import Mathlib.Data.List.Forall2
import Mathlib.Data.List.Induction
import Mathlib.Data.List.TakeWhile
import Trickle.Address
import Trickle.Proofs.WrittenValues
import Trickle.Text.Blank

namespace Trickle

/-! ### Blanks -/

/-- Blanks in any number, perhaps none. -/
structure Blanks where
  chars : List Char
  blank : ∀ char ∈ chars, isBlank char = true

/-- Blanks around a text are trimmed away, and nothing else of it because of them. -/
theorem trim_padded (front back : Blanks) (text : List Char) :
    trim (front.chars ++ text ++ back.chars) = trim text := by
  have behind : back.chars.dropWhile isBlank = [] := List.dropWhile_eq_nil_iff.mpr back.blank
  have reversed (char : Char) (member : char ∈ back.chars.reverse) : isBlank char = true :=
    back.blank char (List.mem_reverse.mp member)
  rw [trim, trim, List.append_assoc, List.dropWhile_append_of_pos front.blank,
    List.dropWhile_append]
  split
  · next allBlank => rw [List.isEmpty_iff.mp allBlank, behind]
  · rw [List.reverse_append, List.dropWhile_append_of_pos reversed]

/-- Whether a text is another one with blanks around it. -/
def Padded (text inner : List Char) : Prop :=
  ∃ front back : Blanks, front.chars ++ inner ++ back.chars = text

theorem Padded.trim_eq {text inner : List Char} (padded : Padded text inner) :
    trim text = trim inner := by
  obtain ⟨front, back, rfl⟩ := padded
  exact trim_padded front back inner

namespace Hex

open Toml (HexDigit)

/-! ### Marks and digits -/

/-- The marks that may stand in front of hexadecimal digits. -/
inductive Mark where
  | none
  | lower
  | upper
  deriving DecidableEq, Repr

/-- The characters of a mark. -/
def Mark.chars : Mark → List Char
  | .none => []
  | .lower => ['0', 'x']
  | .upper => ['0', 'X']

/-- So many hexadecimal digits, each in either case, behind an optional mark. -/
structure Numeral (count : Nat) where
  mark : Mark
  digits : List HexDigit
  length_digits : digits.length = count

namespace Numeral

variable {count : Nat}

/-- What is written. -/
def chars (numeral : Numeral count) : List Char :=
  numeral.mark.chars ++ numeral.digits.map HexDigit.char

/-- The number that the digits denote. -/
def number (numeral : Numeral count) : Nat :=
  HexDigit.number numeral.digits

end Numeral

/-- A text without its mark, if it has one. -/
def bare : List Char → List Char
  | '0' :: 'x' :: rest => rest
  | '0' :: 'X' :: rest => rest
  | text => text

/-- Whether two characters are the same, or the same hexadecimal digit in different case. -/
def SameDigit (char other : Char) : Prop :=
  char = other ∨
    ∃ digit otherDigit : HexDigit,
      digit.value = otherDigit.value ∧ digit.char = char ∧ otherDigit.char = other

/-- Whether two texts differ only in their marks and in the case of hexadecimal digits. -/
def Respelled (text other : List Char) : Prop :=
  List.Forall₂ SameDigit (bare text) (bare other)

theorem Respelled.refl (text : List Char) : Respelled text text :=
  List.forall₂_same.mpr fun _ _ => .inl rfl

/-! ### Digits -/

theorem number_append (digits : List HexDigit) (last : HexDigit) :
    HexDigit.number (digits ++ [last]) = 16 * HexDigit.number digits + last.value := by
  rw [HexDigit.number, List.foldl_append]
  rfl

theorem number_lt (digits : List HexDigit) : HexDigit.number digits < 16 ^ digits.length := by
  induction digits using List.reverseRecOn with
  | nil => exact Nat.one_pos
  | append_singleton digits last inductionHypothesis =>
    have small := last.value.isLt
    rw [number_append, List.length_append, List.length_singleton, Nat.pow_succ]
    omega

theorem Numeral.number_lt {count : Nat} (numeral : Numeral count) :
    numeral.number < 16 ^ count := by
  have small := Hex.number_lt numeral.digits
  rwa [numeral.length_digits] at small

theorem exists_digit_of_digit? {byte : UInt8} {value : Nat} (read : digit? byte = some value) :
    ∃ digit : HexDigit, digit.char.toNat = byte.toNat ∧ digit.value.val = value := by
  have all : ∀ code : Fin 256, ∀ value ∈ digit? (UInt8.ofNat code.val),
      ∃ number : Fin 16, number.val = value ∧
        ∃ upper : Bool, (HexDigit.mk number upper).char.toNat = code.val := by
    decide +kernel
  obtain ⟨number, isValue, upper, isCode⟩ :=
    all ⟨byte.toNat, byte.toNat_lt⟩ value (by simpa using read)
  exact ⟨⟨number, upper⟩, isCode, isValue⟩

theorem digit?_of_high {byte : UInt8} (high : 0x80 ≤ byte.toNat) : digit? byte = none := by
  rw [digit?, if_neg (by omega), if_neg (by omega), if_neg (by omega)]

theorem encode_cons (char : Char) (text : List Char) :
    Utf8.encode (char :: text) = String.utf8EncodeChar char ++ Utf8.encode text :=
  List.flatMap_cons

theorem encode_digit_cons (digit : HexDigit) (text : List Char) :
    Utf8.encode (digit.char :: text) = UInt8.ofNat digit.char.toNat :: Utf8.encode text := by
  rw [encode_cons, Utf8.utf8EncodeChar_of_low (Toml.digit?_char digit).1]
  rfl

/-- What is read as digits is digits, and is read for the number they denote. -/
theorem exists_digits_of_accumulate {total position number : Nat} {text : List Char}
    (read : accumulate total position (Utf8.encode text) = .ok number) :
    ∃ digits : List HexDigit, digits.map HexDigit.char = text ∧
      digits.foldl (fun total digit => 16 * total + digit.value.val) total = number := by
  induction text generalizing total position with
  | nil => exact ⟨[], rfl, Except.ok.inj read⟩
  | cons char text inductionHypothesis =>
    rw [encode_cons] at read
    rcases Nat.lt_or_ge char.toNat 0x80 with low | high
    · rw [Utf8.utf8EncodeChar_of_low low, List.singleton_append, accumulate] at read
      split at read
      · next value isDigit =>
        obtain ⟨digit, isCode, rfl⟩ := exists_digit_of_digit? isDigit
        obtain ⟨digits, rfl, isNumber⟩ := inductionHypothesis read
        have code : (UInt8.ofNat char.toNat).toNat = char.toNat := by
          rw [UInt8.toNat_ofNat']
          omega
        have isChar : digit.char = char := Char.toNat_inj.mp (isCode.trans code)
        exact ⟨digit :: digits, by rw [List.map_cons, isChar], isNumber⟩
      · cases read
    · obtain ⟨first, others, form⟩ := Utf8.exists_utf8EncodeChar_eq_cons char
      have highFirst := Utf8.high_of_mem_utf8EncodeChar high (form ▸ List.mem_cons_self)
      rw [form, List.cons_append, accumulate, digit?_of_high highFirst] at read
      cases read

/-! ### Reading numerals -/

theorem exists_mark (text : List Char) : ∃ mark : Mark, mark.chars ++ bare text = text := by
  unfold bare
  split
  · exact ⟨.lower, rfl⟩
  · exact ⟨.upper, rfl⟩
  · exact ⟨.none, rfl⟩

theorem bare_of_no_mark {text : List Char}
    (noMark : ∀ rest, text ≠ '0' :: 'x' :: rest ∧ text ≠ '0' :: 'X' :: rest) :
    bare text = text := by
  unfold bare
  split
  · exact absurd rfl (noMark _).1
  · exact absurd rfl (noMark _).2
  · rfl

/-- No digit passes for the letter of a mark. -/
theorem digits_ne_mark (digits : List HexDigit) {letter : Char} (isLetter : letter.toLower = 'x')
    (rest : List Char) : digits.map HexDigit.char ≠ '0' :: letter :: rest := by
  intro same
  have noLetter : ∀ (value : Fin 16) (upper : Bool),
      (HexDigit.mk value upper).char.toLower ≠ 'x' := by
    decide
  have member : letter ∈ digits.map HexDigit.char := by
    rw [same]
    exact List.mem_cons_of_mem _ List.mem_cons_self
  obtain ⟨digit, _, rfl⟩ := List.mem_map.mp member
  exact noLetter digit.value digit.upper isLetter

theorem Numeral.bare_chars {count : Nat} (numeral : Numeral count) :
    bare numeral.chars = numeral.digits.map HexDigit.char := by
  obtain ⟨mark, digits, _⟩ := numeral
  cases mark with
  | none =>
    exact bare_of_no_mark fun rest =>
      ⟨digits_ne_mark digits (by decide) rest, digits_ne_mark digits (by decide) rest⟩
  | lower => rfl
  | upper => rfl

/-- The mark is found in the bytes of a text where it stands in the text. -/
theorem unmarked_encode (text : List Char) :
    unmarked (Utf8.encode text) = Utf8.encode (bare text) := by
  unfold bare
  split
  · rfl
  · rfl
  · next noLower noUpper =>
    match written : Utf8.encode text with
    | [] => rfl
    | [_] => rfl
    | zero :: mark :: rest =>
      refine if_neg ?_
      rintro ⟨rfl, isMark⟩
      have low : ∀ byte ∈ [0x30, mark], byte.toNat < 0x80 :=
        List.forall_mem_cons.mpr ⟨by decide, List.forall_mem_singleton.mpr <| by
          rcases isMark with rfl | rfl <;> decide⟩
      have marked : Utf8.encode text = [0x30, mark] ++ rest := written
      obtain ⟨first, second, rfl, codes, _⟩ := Utf8.exists_split_of_low marked low
      obtain ⟨zero, others, rfl, isZero, codes⟩ := List.map_eq_cons_iff.mp codes
      obtain ⟨letter, _, rfl, isLetter, codes⟩ := List.map_eq_cons_iff.mp codes
      obtain rfl := List.map_eq_nil_iff.mp codes
      obtain rfl : zero = '0' := Char.toNat_inj.mp isZero
      rcases isMark with rfl | rfl
      · obtain rfl : letter = 'x' := Char.toNat_inj.mp isLetter
        exact noLower second rfl
      · obtain rfl : letter = 'X' := Char.toNat_inj.mp isLetter
        exact noUpper second rfl

theorem length_encode_digits (digits : List HexDigit) :
    (Utf8.encode (digits.map HexDigit.char)).length = digits.length := by
  induction digits with
  | nil => rfl
  | cons digit digits inductionHypothesis =>
    rw [List.map_cons, encode_digit_cons, List.length_cons, List.length_cons, inductionHypothesis]

/-- A text is read as a number of an even count of digits if and only if it is so many digits behind
an optional mark, and then for the number they denote. -/
theorem read_eq_ok_iff {count : Nat} (even : count % 2 = 0) (text : List Char) (number : Nat) :
    read count (Utf8.encode text) = .ok number ↔
      ∃ numeral : Numeral count, numeral.chars = text ∧ numeral.number = number := by
  constructor
  · intro accepted
    rw [read, unmarked_encode] at accepted
    split at accepted
    · exact nomatch accepted
    split at accepted
    · exact nomatch accepted
    · next length =>
      obtain ⟨digits, isBare, isNumber⟩ := exists_digits_of_accumulate accepted
      rw [Decidable.not_not, ← isBare, length_encode_digits] at length
      obtain ⟨mark, marked⟩ := exists_mark text
      exact ⟨⟨mark, digits, length⟩, by rw [Numeral.chars, isBare, marked], isNumber⟩
  · rintro ⟨numeral, rfl, rfl⟩
    have length : (Utf8.encode (numeral.digits.map HexDigit.char)).length = count := by
      rw [length_encode_digits, numeral.length_digits]
    rw [read, unmarked_encode, numeral.bare_chars, length, if_neg (by omega),
      if_neg (not_not_intro rfl), Toml.accumulate_chars]
    rfl

/-! ### Respelled texts -/

/-- Numerals of the same digits are spellings of each other. -/
theorem Numeral.respelled {count : Nat} {numeral other : Numeral count}
    (same : numeral.digits.map HexDigit.value = other.digits.map HexDigit.value) :
    Respelled numeral.chars other.chars := by
  have values : List.Forall₂ (· = ·) (numeral.digits.map HexDigit.value)
      (other.digits.map HexDigit.value) := by
    rw [List.forall₂_eq_eq_eq]
    exact same
  rw [List.forall₂_map_left_iff, List.forall₂_map_right_iff] at values
  rw [Respelled, bare_chars, bare_chars, List.forall₂_map_left_iff, List.forall₂_map_right_iff]
  exact values.imp fun digit otherDigit sameValue => .inr ⟨digit, otherDigit, sameValue, rfl, rfl⟩

theorem accumulate_append (front rest : Bytes) (total position : Nat) :
    accumulate total position (front ++ rest) =
      (accumulate total position front).bind fun total =>
        accumulate total (position + front.length) rest := by
  induction front generalizing total position with
  | nil => rfl
  | cons byte front inductionHypothesis =>
    rw [List.cons_append, accumulate, accumulate]
    cases digit? byte with
    | none => rfl
    | some value =>
      dsimp only
      rw [inductionHypothesis, List.length_cons, Nat.add_right_comm, Nat.add_assoc]

theorem accumulate_congr {text other : List Char} (same : List.Forall₂ SameDigit text other)
    (total position : Nat) :
    accumulate total position (Utf8.encode text) =
      accumulate total position (Utf8.encode other) := by
  induction same generalizing total position with
  | nil => rfl
  | @cons char otherChar text other sameDigit _ inductionHypothesis =>
    rcases sameDigit with rfl | ⟨digit, otherDigit, sameValue, rfl, rfl⟩
    · rw [encode_cons, encode_cons, accumulate_append, accumulate_append]
      exact congrArg _ (funext fun total => inductionHypothesis total _)
    · rw [encode_digit_cons, encode_digit_cons, accumulate, accumulate, (Toml.digit?_char digit).2,
        (Toml.digit?_char otherDigit).2, sameValue]
      exact inductionHypothesis _ _

theorem length_encode_congr {text other : List Char}
    (same : List.Forall₂ SameDigit text other) :
    (Utf8.encode text).length = (Utf8.encode other).length := by
  induction same with
  | nil => rfl
  | @cons char otherChar text other sameDigit _ inductionHypothesis =>
    rcases sameDigit with rfl | ⟨digit, otherDigit, _, rfl, rfl⟩
    · rw [encode_cons, encode_cons, List.length_append, List.length_append, inductionHypothesis]
    · rw [encode_digit_cons, encode_digit_cons, List.length_cons, List.length_cons,
        inductionHypothesis]

/-- Texts that differ only in their marks and in the case of their digits are read alike: for the
same number, or with the same error. -/
theorem Respelled.read_eq {text other : List Char} (respelled : Respelled text other)
    (count : Nat) : read count (Utf8.encode text) = read count (Utf8.encode other) := by
  rw [read, read, unmarked_encode, unmarked_encode, length_encode_congr respelled,
    accumulate_congr respelled]

end Hex

namespace Address

/-! ### Addresses -/

/-- Whether a text spells an address: with forty digits in either case behind an optional mark. -/
def SpelledBy (address : Address) (text : List Char) : Prop :=
  ∃ numeral : Hex.Numeral 40, numeral.chars = text ∧ numeral.number = address.number.toNat

theorem read_ofList (text : List Char) :
    read (String.ofList text) =
      (Hex.read 40 (Utf8.encode text)).map fun value => ⟨BitVec.ofNat 160 value⟩ := by
  rw [read, Utf8.ofString, String.toList_ofList]

/-- A text is read as an address if and only if it spells the address. -/
theorem read_eq_ok_iff (text : List Char) (address : Address) :
    read (String.ofList text) = .ok address ↔ address.SpelledBy text := by
  have spelled := Hex.read_eq_ok_iff (show 40 % 2 = 0 from rfl) text
  rw [read_ofList]
  constructor
  · intro accepted
    cases result : Hex.read 40 (Utf8.encode text) with
    | error => exact (nomatch result ▸ accepted)
    | ok value =>
      rw [result] at accepted
      obtain rfl := Except.ok.inj accepted
      obtain ⟨numeral, written, rfl⟩ := (spelled value).mp result
      exact ⟨numeral, written, (Nat.mod_eq_of_lt numeral.number_lt).symm⟩
  · intro named
    rw [(spelled address.number.toNat).mpr named]
    exact congrArg (Except.ok ∘ Address.mk) (BitVec.ofNat_toNat 160 address.number)

/-- No text spells two addresses. -/
theorem SpelledBy.unique {address other : Address} {text : List Char}
    (spelled : address.SpelledBy text) (otherSpelled : other.SpelledBy text) : address = other :=
  Except.ok.inj (((read_eq_ok_iff text address).mpr spelled).symm.trans
    ((read_eq_ok_iff text other).mpr otherSpelled))

theorem read_congr {text other : List Char} (respelled : Hex.Respelled text other) :
    read (String.ofList text) = read (String.ofList other) := by
  rw [read_ofList, read_ofList, respelled.read_eq]

end Address

end Trickle
