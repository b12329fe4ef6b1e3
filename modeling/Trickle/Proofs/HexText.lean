/-
This file proves that what is written in hexadecimal digits spells the number that was
written. Addresses are printed in lower case in requests and with their checksum for
people; whatever case the letters are given, the digits stay the same, and so does the
address they spell, with a mark or without.
-/

import Trickle.Proofs.Spelling
import Trickle.Proofs.WrittenNumbers

namespace Trickle

theorem trim_of_not_blank {text : List Char} (notBlank : ∀ char ∈ text, isBlank char = false) :
    trim text = text := by
  have keeps (part : List Char) (within : ∀ char ∈ part, char ∈ text) :
      part.dropWhile isBlank = part :=
    List.dropWhile_eq_self_iff.mpr fun filled blank =>
      Bool.false_ne_true ((notBlank _ (within _ (List.getElem_mem filled))).symm.trans blank)
  rw [trim, keeps text fun _ => id, keeps text.reverse fun _ => List.mem_reverse.mp,
    List.reverse_reverse]

namespace Hex

open Toml (HexDigit)

/-! ### Characters of a numeral -/

theorem Mark.ordinary (mark : Mark) :
    ∀ char ∈ mark.chars, isBlank char = false ∧ char ≠ ';' := by
  cases mark with
  | none => exact nofun
  | lower | upper =>
    simp only [chars, List.mem_cons, List.not_mem_nil, or_false, forall_eq_or_imp, forall_eq]
    decide

theorem ordinary_char (digit : HexDigit) : isBlank digit.char = false ∧ digit.char ≠ ';' := by
  obtain ⟨value, upper⟩ := digit
  revert value upper
  decide

/-- Neither blanks nor semicolons are in a numeral. -/
theorem Numeral.ordinary {count : Nat} (numeral : Numeral count) :
    ∀ char ∈ numeral.chars, isBlank char = false ∧ char ≠ ';' := by
  intro char member
  rcases List.mem_append.mp member with mark | digit
  · exact numeral.mark.ordinary char mark
  · obtain ⟨digit, _, rfl⟩ := List.mem_map.mp digit
    exact ordinary_char _

/-! ### Digits in either case -/

/-- The digits that are written are those of the number, in lower case. -/
theorem write_eq (count number : Nat) :
    write count number = (HexDigit.write count number).map HexDigit.char := by
  have lowerCase : ∀ value : Fin 16, digitChar value.val = HexDigit.char ⟨value, false⟩ := by decide
  induction count generalizing number with
  | zero => rfl
  | succ count inductionHypothesis =>
    rw [write, HexDigit.write, List.map_append, inductionHypothesis]
    exact congrArg (_ ++ [·]) (lowerCase (Fin.ofNat 16 number))

theorem length_write (count number : Nat) : (write count number).length = count := by
  rw [write_eq, List.length_map, HexDigit.length_write]

theorem toLower_char (digit : HexDigit) :
    digit.char.toLower = HexDigit.char ⟨digit.value, false⟩ := by
  obtain ⟨value, upper⟩ := digit
  revert value upper
  decide

/-- A character that becomes a digit in lower case is the digit in one of its cases. -/
theorem exists_digit_of_toLower {char : Char} {value : Fin 16}
    (same : char.toLower = HexDigit.char ⟨value, false⟩) :
    ∃ digit : HexDigit, digit.char = char ∧ digit.value = value := by
  have codes : ∀ value : Fin 16,
      let lower := (HexDigit.char ⟨value, false⟩).toNat
      lower < 0x3A ∧ 0x30 ≤ lower ∨
        0x61 ≤ lower ∧ (HexDigit.char ⟨value, true⟩).toNat + 32 = lower := by
    decide
  have code := congrArg Char.toNat same
  rw [Literal.toNat_toLower] at code
  split at code
  · next upper =>
    refine ⟨⟨value, true⟩, Char.toNat_inj.mp ?_, rfl⟩
    have known := codes value
    dsimp only at known
    omega
  · exact ⟨⟨value, false⟩, Char.toNat_inj.mp code.symm, rfl⟩

/-- A text that becomes digits in lower case consists of the same digits. -/
theorem exists_digits_of_map_toLower {text : List Char} {digits : List HexDigit}
    (same : text.map Char.toLower = digits.map fun digit => HexDigit.char ⟨digit.value, false⟩) :
    ∃ cased : List HexDigit, cased.map HexDigit.char = text ∧
      cased.map HexDigit.value = digits.map HexDigit.value := by
  induction digits generalizing text with
  | nil =>
    obtain rfl := List.map_eq_nil_iff.mp same
    exact ⟨[], rfl, rfl⟩
  | cons digit digits inductionHypothesis =>
    obtain ⟨char, rest, rfl, first, others⟩ := List.map_eq_cons_iff.mp same
    obtain ⟨cased, isChar, isValue⟩ := exists_digit_of_toLower first
    obtain ⟨casedRest, areChars, areValues⟩ := inductionHypothesis others
    exact ⟨cased :: casedRest, by rw [List.map_cons, isChar, areChars],
      by rw [List.map_cons, isValue, areValues, List.map_cons]⟩

theorem number_congr {digits others : List HexDigit}
    (same : digits.map HexDigit.value = others.map HexDigit.value) :
    HexDigit.number digits = HexDigit.number others := by
  have byValues (digits : List HexDigit) : HexDigit.number digits =
      (digits.map HexDigit.value).foldl (fun total value => 16 * total + value.val) 0 := by
    rw [List.foldl_map, HexDigit.number]
  rw [byValues, byValues, same]

theorem char_lowerCase_of_mem_write {count number : Nat} {digit : HexDigit}
    (member : digit ∈ HexDigit.write count number) : digit.upper = false := by
  induction count generalizing number with
  | zero => exact nomatch member
  | succ count inductionHypothesis =>
    rcases List.mem_append.mp member with front | last
    · exact inductionHypothesis front
    · rw [List.mem_singleton.mp last]

theorem map_char_write (count number : Nat) :
    (HexDigit.write count number).map HexDigit.char =
      (HexDigit.write count number).map fun digit => HexDigit.char ⟨digit.value, false⟩ :=
  List.map_congr_left fun digit member => by
    rw [← char_lowerCase_of_mem_write member]

theorem toList_mark : "0x".toList = Mark.lower.chars := rfl

/-- Whether a text is the digits that are written for a number, with letters in either case. -/
def CasedAs (text : List Char) (count number : Nat) : Prop :=
  text.map Char.toLower = write count number

/-- Digits in any case, behind a mark or not, spell the number they were written for. -/
theorem CasedAs.exists_numeral {text : List Char} {count number : Nat}
    (cased : CasedAs text count number) (small : number < 16 ^ count) (mark : Mark) :
    ∃ numeral : Numeral count, numeral.chars = mark.chars ++ text ∧ numeral.number = number := by
  rw [CasedAs, write_eq, map_char_write] at cased
  obtain ⟨digits, rfl, sameValues⟩ := exists_digits_of_map_toLower cased
  have length : digits.length = count := by
    rw [← List.length_map HexDigit.value, sameValues, List.length_map, HexDigit.length_write]
  exact ⟨⟨mark, digits, length⟩, rfl, (number_congr sameValues).trans (HexDigit.number_write small)⟩

theorem casedAs_write (count number : Nat) : CasedAs (write count number) count number := by
  rw [CasedAs, write_eq, List.map_map, map_char_write]
  exact List.map_congr_left fun digit _ => toLower_char digit

end Hex

namespace Keccak

/-! ### The length of a hash -/

theorem length_hash (message : Bytes) : (hash message).length = 32 := by
  have lane (index : Nat) (state : State) : (laneBytes (Keccak.lane state index)).length = 8 := by
    rw [laneBytes, List.length_reverse, Bytes.length_ofNat]
  simp only [hash, List.length_flatMap, lane]
  rfl

end Keccak

namespace Address

/-! ### Addresses in print -/

theorem number_lt (address : Address) : address.number.toNat < 16 ^ 40 :=
  Nat.lt_of_lt_of_eq address.number.isLt (by norm_num)

/-- Whether a text is the digits of an address, with letters in either case. -/
def CasedBy (address : Address) (text : List Char) : Prop :=
  Hex.CasedAs text 40 address.number.toNat

/-- The digits of an address in any case, behind a mark or not, spell it. -/
theorem CasedBy.spelledBy {address : Address} {text : List Char} (cased : address.CasedBy text)
    (mark : Hex.Mark) : address.SpelledBy (mark.chars ++ text) :=
  Hex.CasedAs.exists_numeral cased address.number_lt mark

theorem casedBy_digits (address : Address) : address.CasedBy address.digits :=
  Hex.casedAs_write 40 address.number.toNat

theorem spelledBy_lowerCase (address : Address) : address.SpelledBy address.lowerCase.toList := by
  rw [lowerCase, String.toList_append, Hex.toList_mark, String.toList_ofList]
  exact address.casedBy_digits.spelledBy .lower

theorem toLower_casedDigit {digit : Char} {value : Fin 16}
    (isDigit : digit = Toml.HexDigit.char ⟨value, false⟩) (hashDigit : Nat) :
    (casedDigit digit hashDigit).toLower = digit := by
  have cases : ∀ value : Fin 16, ∀ digit : Char, digit = Toml.HexDigit.char ⟨value, false⟩ →
      digit.toUpper.toLower = digit ∧ digit.toLower = digit := by
    rintro value digit rfl
    revert value
    decide
  unfold casedDigit
  split
  · exact (cases value digit isDigit).1
  · exact (cases value digit isDigit).2

/-- Whatever the hash asks for, only the case of digits is changed. -/
theorem map_toLower_zipWith {digits : List Toml.HexDigit} {hashDigits : List Nat}
    (enough : digits.length ≤ hashDigits.length) :
    let written := digits.map fun digit => Toml.HexDigit.char ⟨digit.value, false⟩
    (List.zipWith casedDigit written hashDigits).map Char.toLower = written := by
  intro written
  induction digits generalizing hashDigits with
  | nil => rfl
  | cons digit digits inductionHypothesis =>
    cases hashDigits with
    | nil => exact absurd enough (Nat.not_succ_le_zero _)
    | cons hashDigit hashDigits =>
      exact List.cons_eq_cons.mpr ⟨toLower_casedDigit rfl hashDigit,
        inductionHypothesis (Nat.le_of_succ_le_succ enough)⟩

/-- The digits of an address as they are printed with its checksum. -/
def checksumDigits (address : Address) : List Char :=
  List.zipWith casedDigit address.digits
    ((Keccak.hash (Utf8.encode address.digits)).flatMap fun byte =>
      [byte.toNat / 16, byte.toNat % 16])

/-- The text with the checksum is a mark and the digits of the address, in some case. -/
theorem toList_checksum (address : Address) :
    address.checksum.toList = Hex.Mark.lower.chars ++ address.checksumDigits := by
  rw [checksum, String.toList_append, Hex.toList_mark, String.toList_ofList]
  rfl

theorem casedBy_checksumDigits (address : Address) : address.CasedBy address.checksumDigits := by
  have written : address.digits = (Toml.HexDigit.write 40 address.number.toNat).map fun digit =>
      Toml.HexDigit.char ⟨digit.value, false⟩ :=
    (Hex.write_eq _ _).trans (Hex.map_char_write _ _)
  have enough : (Toml.HexDigit.write 40 address.number.toNat).length ≤
      ((Keccak.hash (Utf8.encode address.digits)).flatMap fun byte =>
        [byte.toNat / 16, byte.toNat % 16]).length := by
    simp only [Toml.HexDigit.length_write, List.length_flatMap, List.length_cons, List.length_nil,
      List.map_const', List.sum_replicate, Keccak.length_hash]
    decide
  have lower := map_toLower_zipWith enough
  rw [← written] at lower
  exact lower

theorem spelledBy_checksum (address : Address) : address.SpelledBy address.checksum.toList := by
  rw [toList_checksum]
  exact address.casedBy_checksumDigits.spelledBy .lower

theorem read_checksum (address : Address) : read address.checksum = .ok address := by
  have read := (read_eq_ok_iff _ address).mpr address.spelledBy_checksum
  rwa [String.ofList_toList] at read

theorem checksum_injective : Function.Injective checksum := by
  intro first second same
  have read := read_checksum first
  rw [same, read_checksum second] at read
  exact (Except.ok.inj read).symm

theorem length_checksum (address : Address) : address.checksum.toList.length = 42 := by
  have digits := congrArg List.length address.casedBy_checksumDigits
  rw [List.length_map, Hex.length_write] at digits
  rw [toList_checksum, List.length_append, digits]
  rfl

end Address

end Trickle
