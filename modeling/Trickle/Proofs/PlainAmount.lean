/-
This file proves that every plain decimal is read exactly, if an amount can hold what it
denotes. Reading takes the digits in groups and looks at the size behind each group; it
cuts what stands behind the eighteenth decimal; and it scales what is left. None of this
can fail or lose anything: the digits up to the eighteenth decimal never denote more than
the amount in the end, so no group is too large, and the scaling does not wrap. Zeros in
front of a decimal or behind its decimals, and whatever digits stand behind the
eighteenth, therefore make no difference.
-/

import Mathlib.Data.List.TakeWhile
import Trickle.Proofs.Amount

namespace Trickle

namespace Ether

open Decimal

/-! ### Digits are read -/

/-- A cut behind the eighteenth decimal does not fall inside a character where there are only
digits. -/
theorem cut_of_digits {ahead behind : Bytes} (digits : ∀ byte ∈ behind, byte.toNat ≤ 0x39) :
    cut (ahead ++ behind) behind.length =
      .ok (ahead ++ behind.take 18, (behind.take 18).length) := by
  rw [cut, show decimals = 18 from rfl]
  split
  · next few => rw [List.take_of_length_le few]
  · next many =>
    have kept : (ahead ++ behind).length - (behind.length - 18) = ahead.length + 18 := by
      rw [List.length_append]
      omega
    have boundary : atBoundary (behind.drop 18) = true := by
      cases rest : behind.drop 18 with
      | nil => rfl
      | cons byte others =>
        have member : byte ∈ behind := List.mem_of_mem_drop (rest ▸ List.mem_cons_self)
        have small := digits byte member
        rw [atBoundary, Utf8.continuation?, if_neg (by omega)]
        rfl
    dsimp only
    rw [kept, List.drop_length_add_append, if_pos boundary, List.take_length_add_append,
      List.length_take_of_le (by omega)]

/-! ### Plain decimals are read -/

theorem low_of_isDigit {char : Char} (isDigit : char.isDigit = true) : char.toNat < 0x80 :=
  Nat.lt_of_le_of_lt ((isDigit_iff char).mp isDigit).2 (by decide)

/-- Digits are written with one byte for each of them. -/
theorem encode_of_digits {text : List Char} (digits : ∀ char ∈ text, char.isDigit = true) :
    Utf8.encode text = text.map fun char => UInt8.ofNat char.toNat :=
  Utf8.encode_of_low fun char member => low_of_isDigit (digits char member)

theorem range_of_mem_encode {text : List Char} (digits : ∀ char ∈ text, char.isDigit = true)
    {byte : UInt8} (member : byte ∈ Utf8.encode text) : IsDigitByte byte := by
  rw [encode_of_digits digits] at member
  obtain ⟨char, isMember, rfl⟩ := List.mem_map.mp member
  have range := (isDigit_iff char).mp (digits char isMember)
  rw [IsDigitByte, UInt8.toNat_ofNat']
  omega

/-- The bytes of digits denote the number that the digits denote. -/
theorem number_encode {bound : Nat} {text : List Char}
    (digits : ∀ char ∈ text, char.isDigit = true) (small : numeral text < bound) :
    number bound (Utf8.encode text) = .ok (numeral text) := by
  have range (byte : UInt8) (member : byte ∈ Utf8.encode text) : IsDigitByte byte :=
    range_of_mem_encode digits member
  have low (byte : UInt8) (member : byte ∈ Utf8.encode text) : byte.toNat < 0x80 :=
    Nat.lt_of_le_of_lt (range byte member).2 (by decide)
  have plain : underscore ∉ Utf8.encode text := fun member =>
    absurd (range underscore member).2 (by decide)
  refine accumulate_eq_ok_iff.mpr ⟨fun byte member => .inl (range byte member), ?_, small⟩
  rw [withoutSeparators_eq_self plain, continued, numeral_eq_foldl, map_toNat_encode low,
    List.foldl_map]

/-- A plain decimal that denotes no more than an amount can hold is read for what it denotes. -/
theorem read_of_plain {text : String} (plain : IsPlain text.toList)
    (small : weiOf (value text.toList) < 2 ^ 256) :
    read text = .ok (BitVec.ofNat 256 (weiOf (value text.toList))) := by
  obtain ⟨digits, _⟩ := plain
  generalize aheadIs : whole text.toList = ahead at digits
  generalize behindIs : fraction text.toList = behind at digits
  have behindDigits (char : Char) (member : char ∈ behind) : char.isDigit = true :=
    digits char (List.mem_append_right _ member)
  have keptDigits (char : Char) (member : char ∈ ahead ++ behind.take 18) :
      char.isDigit = true := by
    rcases List.mem_append.mp member with front | back
    · exact digits char (List.mem_append_left _ front)
    · exact behindDigits char (List.mem_of_mem_take back)
  have scaled : weiOf (value text.toList) =
      numeral (ahead ++ behind.take 18) * 10 ^ (18 - (behind.take 18).length) := by
    rw [value, aheadIs, behindIs]
    exact weiOf_decimal ahead behindDigits
  have fits : numeral (ahead ++ behind.take 18) < 2 ^ 256 :=
    Nat.lt_of_le_of_lt (Nat.le_mul_of_pos_right _ (Nat.pow_pos (by decide))) (scaled ▸ small)
  have cutOff : cut (Utf8.encode ahead ++ Utf8.encode behind) (Utf8.encode behind).length =
      .ok (Utf8.encode (ahead ++ behind.take 18), (behind.take 18).length) := by
    rw [cut_of_digits fun byte member => (range_of_mem_encode behindDigits member).2,
      Utf8.take_encode_of_low fun char member =>
        low_of_isDigit (behindDigits char (List.mem_of_mem_take member)),
      Utf8.encode, Utf8.encode, Utf8.encode, List.flatMap_append,
      ← Utf8.encode, ← Utf8.encode,
      encode_of_digits fun char member => behindDigits char (List.mem_of_mem_take member),
      List.length_map]
  have unsigned : (Utf8.ofString text).head? ≠ some minus := by
    refine head?_encode_ne_minus fun sign => ?_
    have member : '-' ∈ ahead ++ behind := by
      rw [← aheadIs, ← behindIs]
      exact mem_of_ne_point (List.mem_of_head? sign) (by decide)
    exact absurd (digits '-' member) (by decide)
  have split : withoutPoint (Utf8.ofString text) = _ := withoutPoint_encode text.toList
  rw [aheadIs, behindIs] at split
  simp only [read, split, cutOff, if_neg unsigned]
  show (number (2 ^ 256) _ >>= _) = _
  rw [number_encode keptDigits fits, scaled]
  show Except.ok (_ * _) = _
  rw [← BitVec.ofNat_mul]
  rfl

end Ether

namespace Decimal

variable {text : List Char}

/-! ### Zeros and further decimals -/

theorem eq_append_of_point (point : '.' ∈ text) : text = whole text ++ '.' :: fraction text := by
  have split := List.takeWhile_append_dropWhile (p := (· ≠ '.')) (l := text)
  have stopped := List.head?_dropWhile_not (· ≠ '.') text
  unfold whole fraction
  cases onward : text.dropWhile (· ≠ '.') with
  | nil =>
    have passed := List.dropWhile_eq_nil_iff.mp onward '.' point
    exact absurd passed (by decide)
  | cons first rest =>
    rw [onward] at split stopped
    obtain rfl : first = '.' := by simpa using stopped
    exact split.symm

theorem append_eq_of_point (point : '.' ∈ text) (more : List Char) :
    text ++ more = whole text ++ '.' :: (fraction text ++ more) := by
  conv_lhs => rw [eq_append_of_point point]
  rw [List.append_assoc, List.cons_append]

theorem whole_append_cons {ahead : List Char} (noPoint : '.' ∉ ahead) (behind : List Char) :
    whole (ahead ++ '.' :: behind) = ahead := by
  have passed (char : Char) (member : char ∈ ahead) : decide (char ≠ '.') = true :=
    decide_eq_true fun same => noPoint (same ▸ member)
  rw [whole, List.takeWhile_append_of_pos passed, List.takeWhile_cons_of_neg (by decide),
    List.append_nil]

theorem fraction_append_cons {ahead : List Char} (noPoint : '.' ∉ ahead) (behind : List Char) :
    fraction (ahead ++ '.' :: behind) = behind := by
  have passed (char : Char) (member : char ∈ ahead) : decide (char ≠ '.') = true :=
    decide_eq_true fun same => noPoint (same ▸ member)
  rw [fraction, List.dropWhile_append_of_pos passed, List.dropWhile_cons_of_neg (by decide)]
  rfl

theorem point_not_mem_whole (text : List Char) : '.' ∉ whole text := by
  intro member
  exact absurd (List.mem_takeWhile_imp member) (by decide)

theorem whole_of_no_point (noPoint : '.' ∉ text) : whole text = text := by
  refine List.takeWhile_eq_self_iff.mpr fun char member => decide_eq_true ?_
  rintro rfl
  exact noPoint member

theorem fraction_of_no_point (noPoint : '.' ∉ text) : fraction text = [] := by
  have passed : text.dropWhile (· ≠ '.') = [] := by
    refine List.dropWhile_eq_nil_iff.mpr fun char member => decide_eq_true ?_
    rintro rfl
    exact noPoint member
  rw [fraction, passed, List.drop_nil]

theorem numeral_zeros (count : Nat) : numeral (List.replicate count '0') = 0 := by
  induction count with
  | zero => rfl
  | succ count inductionHypothesis => exact inductionHypothesis

theorem isDigit_of_mem_zeros {count : Nat} {char : Char}
    (member : char ∈ List.replicate count '0') : char.isDigit = true := by
  obtain rfl := List.eq_of_mem_replicate member
  rfl

/-- Zeros in front of a decimal change neither that it is one nor what it denotes. -/
theorem zeros_append (text : List Char) (count : Nat) :
    whole (List.replicate count '0' ++ text) = List.replicate count '0' ++ whole text ∧
      fraction (List.replicate count '0' ++ text) = fraction text := by
  have passed (char : Char) (member : char ∈ List.replicate count '0') :
      decide (char ≠ '.') = true := by
    obtain rfl := List.eq_of_mem_replicate member
    rfl
  constructor
  · rw [whole, List.takeWhile_append_of_pos passed, whole]
  · rw [fraction, List.dropWhile_append_of_pos passed, fraction]

theorem isPlain_zeros_append (plain : IsPlain text) (count : Nat) :
    IsPlain (List.replicate count '0' ++ text) := by
  obtain ⟨ahead, behind⟩ := zeros_append text count
  refine ⟨fun char member => ?_, ?_⟩
  · rw [ahead, behind, List.append_assoc] at member
    rcases List.mem_append.mp member with zero | inside
    · exact isDigit_of_mem_zeros zero
    · exact plain.1 char inside
  · rw [ahead, behind, List.append_assoc]
    exact List.append_ne_nil_of_right_ne_nil _ plain.2

theorem value_zeros_append (count : Nat) :
    value (List.replicate count '0' ++ text) = value text := by
  obtain ⟨ahead, behind⟩ := zeros_append text count
  rw [value, ahead, behind, List.append_assoc, numeral_append, numeral_zeros, Nat.zero_mul,
    Nat.zero_add, value]

/-- Zeros behind the decimals change neither that a text is a plain decimal nor what it denotes. -/
theorem value_append_zeros {ahead : List Char} (noPoint : '.' ∉ ahead) (behind : List Char)
    (count : Nat) :
    value (ahead ++ '.' :: (behind ++ List.replicate count '0')) =
      value (ahead ++ '.' :: behind) := by
  simp only [value, whole_append_cons noPoint, fraction_append_cons noPoint]
  rw [← List.append_assoc, numeral_append, numeral_zeros, Nat.add_zero, List.length_append,
    List.length_replicate, pow_add]
  push_cast
  rw [mul_div_mul_right _ _ (by positivity)]

theorem isPlain_append_cons_iff {ahead behind : List Char} (noPoint : '.' ∉ ahead) :
    IsPlain (ahead ++ '.' :: behind) ↔
      (∀ char ∈ ahead ++ behind, char.isDigit = true) ∧ ahead ++ behind ≠ [] := by
  rw [IsPlain, whole_append_cons noPoint, fraction_append_cons noPoint]

/-- A plain decimal with a point stays one when digits are written behind it. -/
theorem IsPlain.append_digits {ahead behind digits : List Char} (noPoint : '.' ∉ ahead)
    (plain : IsPlain (ahead ++ '.' :: behind)) (more : ∀ char ∈ digits, char.isDigit = true) :
    IsPlain (ahead ++ '.' :: (behind ++ digits)) := by
  obtain ⟨inside, filled⟩ := (isPlain_append_cons_iff noPoint).mp plain
  refine (isPlain_append_cons_iff noPoint).mpr ⟨fun char member => ?_, fun empty => ?_⟩
  · rw [← List.append_assoc] at member
    rcases List.mem_append.mp member with within | added
    · exact inside char within
    · exact more char added
  · rw [← List.append_assoc] at empty
    exact filled (List.append_eq_nil_iff.mp empty).1

/-- A plain decimal without a point stays one when a point is written behind it, and denotes the
same. -/
theorem IsPlain.append_point (plain : IsPlain text) (noPoint : '.' ∉ text) :
    IsPlain (text ++ ['.']) ∧ value (text ++ ['.']) = value text := by
  constructor
  · rw [IsPlain, whole_of_no_point noPoint, fraction_of_no_point noPoint] at plain
    exact (isPlain_append_cons_iff noPoint).mpr plain
  · simp only [value, whole_append_cons noPoint, fraction_append_cons noPoint,
      whole_of_no_point noPoint, fraction_of_no_point noPoint]

/-- Digits behind the eighteenth decimal are cut off. -/
theorem weiOf_value_append_digits {ahead behind digits : List Char} (noPoint : '.' ∉ ahead)
    (plain : IsPlain (ahead ++ '.' :: behind)) (more : ∀ char ∈ digits, char.isDigit = true)
    (many : 18 ≤ behind.length) :
    weiOf (value (ahead ++ '.' :: (behind ++ digits))) =
      weiOf (value (ahead ++ '.' :: behind)) := by
  have inside := ((isPlain_append_cons_iff noPoint).mp plain).1
  have longer := ((isPlain_append_cons_iff noPoint).mp (plain.append_digits noPoint more)).1
  simp only [value, whole_append_cons noPoint, fraction_append_cons noPoint]
  rw [weiOf_decimal ahead fun char member => longer char (List.mem_append_right _ member),
    weiOf_decimal ahead fun char member => inside char (List.mem_append_right _ member),
    List.take_append_of_le_length many]

theorem value_nonneg (text : List Char) : 0 ≤ value text := by
  unfold value
  positivity

end Decimal

namespace Settings

open Decimal

/-- Settings with another text for the amount. -/
def withAmount (settings : Settings) (text : List Char) : Settings :=
  { settings with transferAmount := String.ofList text }

theorem amount_of_plain {settings : Settings} (plain : IsPlain settings.transferAmount.toList)
    (small : weiOf (value settings.transferAmount.toList) < 2 ^ 256) :
    settings.amount =
      .ok (BitVec.ofNat 256 (weiOf (value settings.transferAmount.toList))) := by
  rw [amount, Ether.read_of_plain plain small]

/-- A plain decimal that comes to as much as another is read as the same amount. -/
theorem amount_withAmount {settings : Settings} {text : List Char}
    (plain : IsPlain settings.transferAmount.toList)
    (small : weiOf (value settings.transferAmount.toList) < 2 ^ 256) (other : IsPlain text)
    (same : weiOf (value text) = weiOf (value settings.transferAmount.toList)) :
    (settings.withAmount text).amount = settings.amount := by
  have written : (settings.withAmount text).transferAmount.toList = text := String.toList_ofList
  have otherPlain : IsPlain (settings.withAmount text).transferAmount.toList := by rwa [written]
  have otherSmall : weiOf (value (settings.withAmount text).transferAmount.toList) < 2 ^ 256 := by
    rwa [written, same]
  rw [amount_of_plain plain small, amount_of_plain otherPlain otherSmall, written, same]

/-- Every plain decimal whose number of ether an amount can hold is read, as the largest whole
number of the smallest unit that is not above what it denotes: decimals behind the eighteenth are
cut off and never rounded up. Zeros in front of it make no difference, and neither do zeros behind
its decimals, with a point where it has none, or any digits behind the eighteenth decimal. -/
theorem plain_amount_is_exact (settings : Settings)
    (plain : IsPlain settings.transferAmount.toList)
    (small : weiOf (value settings.transferAmount.toList) < 2 ^ 256) :
    let text := settings.transferAmount.toList
    let zeros (count : Nat) := List.replicate count '0'
    (∃ word, settings.amount = .ok word ∧ word.toNat = weiOf (value text) ∧
      (word.toNat : ℚ) ≤ value text * 10 ^ 18 ∧ value text * 10 ^ 18 < word.toNat + 1) ∧
    (∀ count, (settings.withAmount (zeros count ++ text)).amount = settings.amount) ∧
    ('.' ∈ text → ∀ count, (settings.withAmount (text ++ zeros count)).amount = settings.amount) ∧
    ('.' ∉ text → ∀ count,
      (settings.withAmount (text ++ '.' :: zeros count)).amount = settings.amount) ∧
    (18 ≤ (fraction text).length → ∀ digits : List Char,
      (∀ char ∈ digits, char.isDigit = true) →
        (settings.withAmount (text ++ digits)).amount = settings.amount) := by
  intro text zeros
  have zero (count : Nat) (char : Char) (member : char ∈ zeros count) : char.isDigit = true :=
    isDigit_of_mem_zeros member
  have same {other : List Char} (isPlain : IsPlain other)
      (equal : weiOf (value other) = weiOf (value text)) :
      (settings.withAmount other).amount = settings.amount :=
    amount_withAmount plain small isPlain equal
  have noPoint : '.' ∉ whole text := point_not_mem_whole text
  refine ⟨⟨_, amount_of_plain plain small, ?_, ?_, ?_⟩, fun count => ?_, fun point count => ?_,
    fun unpointed count => ?_, fun many digits more => ?_⟩
  · exact Nat.mod_eq_of_lt small
  · rw [BitVec.toNat_ofNat, Nat.mod_eq_of_lt small]
    exact Nat.floor_le (mul_nonneg (value_nonneg text) (by positivity))
  · rw [BitVec.toNat_ofNat, Nat.mod_eq_of_lt small]
    exact Nat.lt_floor_add_one _
  · exact same (isPlain_zeros_append plain count) (by rw [value_zeros_append])
  · have pointed : IsPlain (whole text ++ '.' :: fraction text) :=
      eq_append_of_point point ▸ plain
    rw [append_eq_of_point point]
    refine same (pointed.append_digits noPoint (zero count)) ?_
    rw [value_append_zeros noPoint _ _, ← eq_append_of_point point]
  · obtain ⟨pointed, denotes⟩ := IsPlain.append_point plain unpointed
    refine same (pointed.append_digits unpointed (zero count)) ?_
    have value_eq := value_append_zeros unpointed [] count
    rw [denotes] at value_eq
    exact congrArg weiOf value_eq
  · have point : '.' ∈ text := by
      by_contra unpointed
      rw [fraction_of_no_point unpointed] at many
      exact absurd many (by decide)
    have pointed : IsPlain (whole text ++ '.' :: fraction text) :=
      eq_append_of_point point ▸ plain
    rw [append_eq_of_point point]
    refine same (pointed.append_digits noPoint more) ?_
    rw [weiOf_value_append_digits noPoint pointed more many, ← eq_append_of_point point]

/-- An amount with zeros in front and twenty decimals is cut down to the smallest unit. -/
theorem long_amount_is_cut :
    let settings := ofAmount "00.12345678901234567899"
    IsPlain settings.transferAmount.toList ∧
      weiOf (value settings.transferAmount.toList) < 2 ^ 256 ∧
      ∃ word, settings.amount = .ok word ∧ word.toNat = 123456789012345678 := by
  intro settings
  have all_digits : (whole settings.transferAmount.toList ++
      fraction settings.transferAmount.toList).all Char.isDigit = true := by decide +kernel
  have digits := List.all_eq_true.mp all_digits
  have plain : IsPlain settings.transferAmount.toList := ⟨digits, by decide +kernel⟩
  have wei : weiOf (value settings.transferAmount.toList) = 123456789012345678 := by
    rw [value, weiOf_decimal _ fun char member => digits char (List.mem_append_right _ member)]
    decide +kernel
  have small : weiOf (value settings.transferAmount.toList) < 2 ^ 256 := by
    rw [wei]
    decide
  obtain ⟨⟨word, read, denotes, _⟩, _⟩ := plain_amount_is_exact settings plain small
  exact ⟨plain, small, word, read, denotes.trans wei⟩

end Settings

end Trickle
