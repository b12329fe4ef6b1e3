/-
This file proves which amounts mean what they say. A plain decimal is a row of digits
with a point among them at most; it denotes a number of ether, and the amount of a text
that is accepted should be that number in the smallest unit, cut down to a whole. This
holds of an accepted text unless it has one of five flaws: it starts with a minus sign,
has an underscore or no digit at all, goes on behind the eighteenth decimal with
something else than digits, or denotes more than an amount can hold. The settings are
checked for none of these: it is enough that the amount can be read.

Reading works on bytes and the meaning of a decimal on characters. The two meet where all
bytes are digits, each of which is a character by itself.
-/

import Mathlib.Algebra.Order.Floor.Semifield
import Mathlib.Data.List.Induction
import Mathlib.Data.Rat.Floor
import Trickle.Proofs.Utf8
import Trickle.Settings

namespace Trickle

/-! ### Plain decimals -/

namespace Decimal

/-- What stands in front of the first point. -/
def whole (text : List Char) : List Char :=
  text.takeWhile (· ≠ '.')

/-- What stands behind the first point. -/
def fraction (text : List Char) : List Char :=
  (text.dropWhile (· ≠ '.')).drop 1

/-- The number that digits denote. -/
def numeral (digits : List Char) : Nat :=
  digits.foldl (fun total digit => 10 * total + (digit.toNat - '0'.toNat)) 0

/-- Digits, at least one of them, with one point in front, among or behind them at most. -/
def IsPlain (text : List Char) : Prop :=
  (∀ char ∈ whole text ++ fraction text, char.isDigit = true) ∧ whole text ++ fraction text ≠ []

/-- The number that a plain decimal denotes. -/
def value (text : List Char) : ℚ :=
  numeral (whole text ++ fraction text) / 10 ^ (fraction text).length

/-- A number of ether in the smallest unit, cut down to a whole. -/
def weiOf (ether : ℚ) : Nat :=
  ⌊ether * 10 ^ 18⌋₊

/-- What keeps a text that is accepted from meaning what it says. -/
inductive Flawed (text : List Char) : Prop where
  | negative (sign : text.head? = some '-')
  | separated (separator : '_' ∈ text)
  | empty (noDigit : whole text ++ fraction text = [])
  | unread (char : Char) (behind : char ∈ (fraction text).drop 18) (noDigit : char.isDigit = false)
  | excessive (large : 2 ^ 256 ≤ weiOf (value text))

theorem numeral_append (first second : List Char) :
    numeral (first ++ second) = numeral first * 10 ^ second.length + numeral second := by
  induction second using List.reverseRecOn with
  | nil => simp [numeral]
  | append_singleton second last inductionHypothesis =>
    have step (digits : List Char) :
        numeral (digits ++ [last]) = 10 * numeral digits + (last.toNat - '0'.toNat) := by
      rw [numeral, List.foldl_append]
      rfl
    rw [← List.append_assoc, step, step, inductionHypothesis, List.length_append,
      List.length_singleton]
    ring

theorem isDigit_iff (char : Char) :
    char.isDigit = true ↔ 0x30 ≤ char.toNat ∧ char.toNat ≤ 0x39 := by
  simp [Char.isDigit, UInt32.le_iff_toNat_le]

theorem numeral_lt {digits : List Char} (plain : ∀ char ∈ digits, char.isDigit = true) :
    numeral digits < 10 ^ digits.length := by
  induction digits using List.reverseRecOn with
  | nil => exact Nat.one_pos
  | append_singleton digits last inductionHypothesis =>
    have before := inductionHypothesis fun char member => plain char (List.mem_append_left _ member)
    have small := ((isDigit_iff last).mp (plain last (by simp))).2
    have single : numeral [last] = last.toNat - 0x30 := Nat.zero_add _
    rw [numeral_append, single, List.length_append, List.length_singleton, pow_succ]
    omega

/-- Cutting a number of ether down to the smallest unit leaves the first eighteen decimals. -/
theorem weiOf_decimal (ahead : List Char) {behind : List Char}
    (plain : ∀ char ∈ behind, char.isDigit = true) :
    weiOf (numeral (ahead ++ behind) / 10 ^ behind.length) =
      numeral (ahead ++ behind.take 18) * 10 ^ (18 - (behind.take 18).length) := by
  rcases Nat.le_total behind.length 18 with few | many
  · have exact_value : (numeral (ahead ++ behind) / 10 ^ behind.length * 10 ^ 18 : ℚ) =
        (numeral (ahead ++ behind) * 10 ^ (18 - behind.length) : ℕ) := by
      rw [show (10 : ℚ) ^ 18 = 10 ^ behind.length * 10 ^ (18 - behind.length) by
        rw [← pow_add, Nat.add_sub_cancel' few]]
      push_cast
      field_simp
    rw [List.take_of_length_le few, weiOf, exact_value, Nat.floor_natCast]
  · have cut : numeral (ahead ++ behind) =
        numeral (ahead ++ behind.take 18) * 10 ^ (behind.length - 18) +
          numeral (behind.drop 18) := by
      rw [← List.length_drop, ← numeral_append, List.append_assoc, List.take_append_drop]
    have rest_lt : numeral (behind.drop 18) < 10 ^ (behind.length - 18) := by
      rw [← List.length_drop]
      exact numeral_lt fun char member => plain char (List.mem_of_mem_drop member)
    have scaled : (numeral (ahead ++ behind) / 10 ^ behind.length * 10 ^ 18 : ℚ) =
        (numeral (ahead ++ behind) : ℚ) / (10 ^ (behind.length - 18) : ℕ) := by
      rw [show (10 : ℚ) ^ behind.length = 10 ^ 18 * 10 ^ (behind.length - 18) by
        rw [← pow_add, Nat.add_sub_cancel' many]]
      push_cast
      field_simp
    rw [List.length_take_of_le many, weiOf, scaled, Nat.floor_div_eq_div, cut, Nat.mul_comm,
      Nat.mul_add_div (Nat.pow_pos (by decide)), Nat.div_eq_of_lt rest_lt]
    omega

end Decimal

namespace Ether

open Decimal

/-! ### What is read -/

/-- A step that is followed by others has to succeed for all of them to succeed. -/
theorem exists_of_bind_eq_ok {Error First Second : Type} {step : Except Error First}
    {next : First → Except Error Second} {result : Second}
    (succeeded : step.bind next = .ok result) :
    ∃ value, step = .ok value ∧ next value = .ok result := by
  cases step with
  | error fault => cases succeeded
  | ok value => exact ⟨value, rfl, succeeded⟩

/-- Whether a byte is that of a decimal digit. -/
def IsDigitByte (byte : UInt8) : Prop :=
  0x30 ≤ byte.toNat ∧ byte.toNat ≤ 0x39

/-- What digits behind a total make of it. -/
def continued (total : Nat) (digits : Bytes) : Nat :=
  digits.foldl (fun total byte => 10 * total + (byte.toNat - 0x30)) total

/-- Digits without the underscores between them. -/
def withoutSeparators (text : Bytes) : Bytes :=
  text.filter (· ≠ underscore)

theorem le_continued (total : Nat) (digits : Bytes) : total ≤ continued total digits := by
  induction digits generalizing total with
  | nil => exact Nat.le_refl total
  | cons byte rest inductionHypothesis =>
    have step : total ≤ 10 * total + (byte.toNat - 0x30) := by omega
    exact Nat.le_trans step (inductionHypothesis _)

/-- Digits and underscores are read, and nothing else is, and they are read for the number that the
digits make of the total, if it is below the bound. It is not below the number of any digits at
its front, so that no group of them is too large either. -/
theorem accumulate_eq_ok_iff {bound room total number : Nat} {text : Bytes} :
    accumulate bound room total text = .ok number ↔
      (∀ byte ∈ text, IsDigitByte byte ∨ byte = underscore) ∧
        number = continued total (withoutSeparators text) ∧ number < bound := by
  induction text generalizing room total with
  | nil =>
    rw [accumulate, bounded]
    split
    · next small =>
      refine ⟨fun read => ?_, fun both => congrArg _ both.2.1.symm⟩
      obtain rfl := Except.ok.inj read
      exact ⟨nofun, rfl, small⟩
    · next large =>
      refine iff_of_false nofun ?_
      rintro ⟨-, rfl, small⟩
      exact large small
  | cons byte rest inductionHypothesis =>
    rw [accumulate, List.forall_mem_cons]
    by_cases separator : byte = underscore
    · have passed : withoutSeparators (byte :: rest) = withoutSeparators rest :=
        List.filter_cons_of_neg (by simpa using separator)
      have allowed : IsDigitByte byte ∨ byte = underscore := .inr separator
      rw [if_pos separator, inductionHypothesis, passed, and_iff_right allowed]
    · have kept : withoutSeparators (byte :: rest) = byte :: withoutSeparators rest :=
        List.filter_cons_of_pos (by simpa using separator)
      rw [if_neg separator, or_iff_left separator, kept]
      by_cases range : IsDigitByte byte
      case neg =>
        rw [show digit? byte = none from if_neg range]
        exact iff_of_false nofun fun both => range both.1.1
      case pos =>
        -- What is behind the digit is read from the same total whether its group ends here or not.
        have later (room : Nat) := @inductionHypothesis room (10 * total + (byte.toNat - 0x30))
        rw [show digit? byte = some (byte.toNat - 0x30) from if_pos range, and_iff_right range]
        dsimp only
        split
        · rw [bounded]
          split
          · exact later _
          · next large =>
            refine iff_of_false nofun ?_
            rintro ⟨-, rfl, small⟩
            exact large (Nat.lt_of_le_of_lt (le_continued _ _) small)
        · exact later _

theorem withoutSeparators_eq_self {text : Bytes} (plain : underscore ∉ text) :
    withoutSeparators text = text :=
  List.filter_eq_self.mpr fun _ member => decide_eq_true fun same => plain (same ▸ member)

/-- The point is the only character whose bytes have a point among them. -/
theorem encode_span (text : List Char) :
    (Utf8.encode text).takeWhile (· ≠ point) = Utf8.encode (text.takeWhile (· ≠ '.')) ∧
      (Utf8.encode text).dropWhile (· ≠ point) = Utf8.encode (text.dropWhile (· ≠ '.')) := by
  induction text with
  | nil => exact ⟨rfl, rfl⟩
  | cons char text inductionHypothesis =>
    rw [Utf8.encode, List.flatMap_cons, ← Utf8.encode]
    by_cases isPoint : char = '.'
    · subst isPoint
      exact ⟨rfl, rfl⟩
    · have passed (byte : UInt8) (member : byte ∈ String.utf8EncodeChar char) :
          decide (byte ≠ point) = true := by
        refine decide_eq_true fun same => isPoint ?_
        subst same
        exact Utf8.eq_of_mem_utf8EncodeChar '.' (by decide) member
      rw [List.takeWhile_append_of_pos passed, List.dropWhile_append_of_pos passed,
        List.takeWhile_cons_of_pos (by simpa using isPoint),
        List.dropWhile_cons_of_pos (by simpa using isPoint), inductionHypothesis.1,
        inductionHypothesis.2]
      exact ⟨rfl, rfl⟩

/-- Taking out the first point leaves what stands in front of it and behind it. -/
theorem withoutPoint_encode (text : List Char) :
    withoutPoint (Utf8.encode text) =
      (Utf8.encode (whole text) ++ Utf8.encode (fraction text),
        (Utf8.encode (fraction text)).length) := by
  obtain ⟨ahead, behind⟩ := encode_span text
  rw [withoutPoint, behind, ahead, whole, fraction]
  cases onward : text.dropWhile (· ≠ '.') with
  | nil =>
    have all : text.takeWhile (· ≠ '.') = text := by
      conv_rhs => rw [← List.takeWhile_append_dropWhile (p := (· ≠ '.')) (l := text)]
      rw [onward, List.append_nil]
    rw [all]
    exact congrArg (·, 0) (List.append_nil _).symm
  | cons char rest =>
    have stopped := List.head?_dropWhile_not (· ≠ '.') text
    rw [onward] at stopped
    obtain rfl : char = '.' := by simpa using stopped
    rfl

/-- What is kept ends behind eighteen bytes at most of those behind the point. -/
theorem eq_of_cut {ahead behind kept : Bytes} {left : Nat}
    (cutOff : cut (ahead ++ behind) behind.length = .ok (kept, left)) :
    kept = ahead ++ behind.take 18 ∧ left = (behind.take 18).length := by
  rw [cut, show decimals = 18 from rfl] at cutOff
  split at cutOff
  · next few =>
    cases cutOff
    rw [List.take_of_length_le few]
    exact ⟨rfl, rfl⟩
  · next many =>
    dsimp only at cutOff
    split at cutOff
    · cases cutOff
      rw [List.length_append, show ahead.length + behind.length - (behind.length - 18) =
        ahead.length + 18 by omega, List.take_length_add_append, List.length_take_of_le (by omega)]
      exact ⟨rfl, rfl⟩
    · exact nomatch cutOff

theorem head?_encode_ne_minus {text : List Char} (unsigned : text.head? ≠ some '-') :
    (Utf8.encode text).head? ≠ some minus := by
  cases text with
  | nil =>
    intro sign
    cases sign
  | cons char rest =>
    intro sign
    obtain ⟨first, others, form⟩ := Utf8.exists_utf8EncodeChar_eq_cons char
    rw [Utf8.encode, List.flatMap_cons, form] at sign
    obtain rfl : first = minus := Option.some.inj sign
    have isMinus : char = '-' :=
      Utf8.eq_of_mem_utf8EncodeChar '-' (by decide) (form ▸ List.mem_cons_self)
    exact unsigned (congrArg some isMinus)

/-- A text without a sign that is read has a number in its first bytes, up to the eighteenth behind
the point, and this number is scaled by what is left to eighteen decimals. -/
theorem exists_number_of_read {text : String} {word : Wei} (accepted : read text = .ok word)
    (unsigned : text.toList.head? ≠ some '-') :
    let behind := (Utf8.encode (fraction text.toList)).take 18
    ∃ total, number (Nat.pow 2 256) (Utf8.encode (whole text.toList) ++ behind) = .ok total ∧
      word.toNat = total * 10 ^ (18 - behind.length) % 2 ^ 256 := by
  have noMinus : (Utf8.ofString text).head? ≠ some minus := head?_encode_ne_minus unsigned
  intro behind
  have split : withoutPoint (Utf8.ofString text) = _ := withoutPoint_encode text.toList
  simp only [read, split] at accepted
  obtain ⟨⟨kept, left⟩, cutOff, accepted⟩ := exists_of_bind_eq_ok accepted
  obtain ⟨rfl, rfl⟩ := eq_of_cut cutOff
  rw [if_neg noMinus] at accepted
  obtain ⟨total, counted, scaled⟩ := exists_of_bind_eq_ok accepted
  refine ⟨total, counted, ?_⟩
  rw [← Except.ok.inj scaled, BitVec.toNat_mul, BitVec.toNat_ofNat, BitVec.toNat_ofNat,
    ← Nat.mul_mod]
  rfl

/-- Low bytes at the front of a text are its characters, one by one. -/
theorem map_toNat_take {text : List Char} {count : Nat}
    (low : ∀ byte ∈ (Utf8.encode text).take count, byte.toNat < 0x80) :
    (text.take count).map Char.toNat = ((Utf8.encode text).take count).map UInt8.toNat := by
  obtain ⟨first, second, rfl, codes, written⟩ :=
    Utf8.exists_split_of_low (List.take_append_drop count (Utf8.encode text)).symm low
  have sameLength := congrArg List.length codes
  rw [List.length_map, List.length_map, List.length_take] at sameLength
  rcases Nat.le_total count (Utf8.encode (first ++ second)).length with enough | short
  · rw [List.take_left' (sameLength.trans (Nat.min_eq_left enough)), codes]
  · rw [List.drop_eq_nil_of_le short] at written
    obtain rfl : second = [] := Utf8.encode_injective written
    rw [List.append_nil] at codes sameLength short ⊢
    rw [List.take_of_length_le (by omega), codes]

/-- A text of low bytes has one character for each of them. -/
theorem map_toNat_encode {text : List Char}
    (low : ∀ byte ∈ Utf8.encode text, byte.toNat < 0x80) :
    text.map Char.toNat = (Utf8.encode text).map UInt8.toNat := by
  obtain ⟨first, second, rfl, codes, written⟩ :=
    Utf8.exists_split_of_low (List.append_nil (Utf8.encode text)).symm low
  obtain rfl : second = [] := Utf8.encode_injective written
  rwa [List.append_nil] at codes ⊢

theorem numeral_eq_foldl (digits : List Char) :
    numeral digits =
      (digits.map Char.toNat).foldl (fun total code => 10 * total + (code - 0x30)) 0 := by
  rw [numeral, List.foldl_map]
  rfl

/-- Where the bytes of a decimal that are kept are low, they are its characters that are kept, one
by one. -/
theorem codes_kept {ahead behind : List Char}
    (low : ∀ byte ∈ Utf8.encode ahead ++ (Utf8.encode behind).take 18, byte.toNat < 0x80) :
    (ahead ++ behind.take 18).map Char.toNat =
      (Utf8.encode ahead ++ (Utf8.encode behind).take 18).map UInt8.toNat := by
  rw [List.map_append, List.map_append,
    map_toNat_encode fun byte member => low byte (List.mem_append_left _ member),
    map_toNat_take fun byte member => low byte (List.mem_append_right _ member)]

/-- A text without a sign and without underscores that is read has digits up to the eighteenth
decimal, and these are read for what they denote, modulo the word size. -/
theorem digits_of_read {text : String} {word : Wei} (accepted : read text = .ok word)
    (unsigned : text.toList.head? ≠ some '-') (unseparated : '_' ∉ text.toList) :
    let behind := (fraction text.toList).take 18
    (∀ char ∈ whole text.toList ++ behind, char.isDigit = true) ∧
      word.toNat = numeral (whole text.toList ++ behind) * 10 ^ (18 - behind.length) % 2 ^ 256 := by
  obtain ⟨total, counted, scaled⟩ := exists_number_of_read accepted unsigned
  have plain : underscore ∉ Utf8.encode (whole text.toList) ++
      (Utf8.encode (fraction text.toList)).take 18 := by
    intro member
    rcases List.mem_append.mp member with within | within
    · have isMember := Utf8.mem_of_mem_encode '_' (by decide) within
      exact unseparated ((List.takeWhile_sublist _).mem isMember)
    · have isMember := Utf8.mem_of_mem_encode '_' (by decide) (List.mem_of_mem_take within)
      exact unseparated ((List.dropWhile_sublist _).mem (List.mem_of_mem_drop isMember))
  obtain ⟨shapes, value, _⟩ := accumulate_eq_ok_iff.mp counted
  rw [withoutSeparators_eq_self plain] at value
  have digits (byte : UInt8) (member : byte ∈ _) : IsDigitByte byte :=
    (shapes byte member).resolve_right fun same => plain (same ▸ member)
  -- All bytes that are kept are digits, so that bytes and characters correspond one to one.
  have low (byte : UInt8) (member : byte ∈ _) : byte.toNat < 0x80 :=
    Nat.lt_of_le_of_lt (digits byte member).2 (by decide)
  have codes := codes_kept low
  refine ⟨fun char member => ?_, ?_⟩
  · have isCode : char.toNat ∈ _ := codes ▸ List.mem_map_of_mem member
    obtain ⟨byte, isByte, same⟩ := List.mem_map.mp isCode
    exact (isDigit_iff char).mpr (same ▸ digits byte isByte)
  · have sameLength := congrArg List.length (map_toNat_take fun byte member =>
      low byte (List.mem_append_right _ member))
    rw [List.length_map, List.length_map] at sameLength
    rw [scaled, value, continued, numeral_eq_foldl, codes, List.foldl_map, sameLength]

end Ether

namespace Decimal

variable {text : List Char}

/-! ### Flaws -/

theorem mem_of_ne_point {char : Char} (member : char ∈ text) (noPoint : char ≠ '.') :
    char ∈ whole text ++ fraction text := by
  rw [← List.takeWhile_append_dropWhile (p := (· ≠ '.')) (l := text)] at member
  rcases List.mem_append.mp member with ahead | onward
  · exact List.mem_append_left _ ahead
  · refine List.mem_append_right _ ?_
    rw [fraction]
    have stopped := List.head?_dropWhile_not (· ≠ '.') text
    cases split : text.dropWhile (· ≠ '.') with
    | nil =>
      rw [split] at onward
      exact (List.not_mem_nil onward).elim
    | cons first rest =>
      rw [split] at onward stopped
      obtain rfl : first = '.' := by simpa using stopped
      exact (List.mem_cons.mp onward).resolve_left noPoint

/-- A plain decimal that an amount can hold has none of the flaws. -/
theorem IsPlain.not_flawed (plain : IsPlain text) (small : weiOf (value text) < 2 ^ 256) :
    ¬ Flawed text := by
  have digit (char : Char) (member : char ∈ text) (noPoint : char ≠ '.') : char.isDigit = true :=
    plain.1 char (mem_of_ne_point member noPoint)
  rintro (sign | separator | noDigit | ⟨char, behind, noDigit⟩ | large)
  · exact absurd (digit '-' (List.mem_of_head? sign) (by decide)) (by decide)
  · exact absurd (digit '_' separator (by decide)) (by decide)
  · exact plain.2 noDigit
  · have isDigit := plain.1 char (List.mem_append_right _ (List.mem_of_mem_drop behind))
    exact absurd (isDigit.symm.trans noDigit) (by decide)
  · omega

/-- A text with digits up to the eighteenth decimal and none of the flaws is a plain decimal. -/
theorem isPlain_of_not_flawed (sound : ¬ Flawed text)
    (digits : ∀ char ∈ whole text ++ (fraction text).take 18, char.isDigit = true) :
    IsPlain text := by
  refine ⟨fun char member => ?_, fun empty => sound (.empty empty)⟩
  rw [← List.take_append_drop 18 (fraction text), ← List.append_assoc] at member
  rcases List.mem_append.mp member with front | behind
  · exact digits char front
  · cases isDigit : char.isDigit with
    | true => rfl
    | false => exact absurd (.unread char behind isDigit) sound

end Decimal

namespace Settings

open Decimal

/-- The amount of settings that are accepted is read. The text of the amount is a plain decimal
that is read for the number of ether it denotes, cut down to the smallest unit, if and only if it
has none of the five flaws. -/
theorem amount_means_text_iff (settings : Settings) (accepted : settings.validate = .ok ()) :
    let text := settings.transferAmount.toList
    ∃ word, settings.amount = .ok word ∧
      (IsPlain text ∧ word.toNat = weiOf (value text) ↔ ¬ Flawed text) := by
  intro text
  rw [validate] at accepted
  split at accepted
  · exact nomatch accepted
  cases amount : settings.amount with
  | error problem =>
    rw [amount] at accepted
    exact nomatch accepted
  | ok word =>
    refine ⟨word, rfl, fun meant => ?_, fun sound => ?_⟩
    · exact meant.1.not_flawed (meant.2 ▸ word.isLt)
    · have read : Ether.read settings.transferAmount = .ok word := by
        rw [Settings.amount] at amount
        split at amount
        · cases amount
          assumption
        · exact nomatch amount
      obtain ⟨digits, scaled⟩ := Ether.digits_of_read read
        (fun sign => sound (.negative sign)) fun separator => sound (.separated separator)
      have plain := isPlain_of_not_flawed sound digits
      have small : weiOf (value text) < 2 ^ 256 := Nat.not_le.mp fun large =>
        sound (.excessive large)
      have whole_value : weiOf (value text) = _ :=
        weiOf_decimal (whole text) fun char member => plain.1 char (List.mem_append_right _ member)
      refine ⟨plain, ?_⟩
      rw [scaled, ← whole_value, Nat.mod_eq_of_lt small]

/-- Settings with some amount to send. -/
def ofAmount (amount : String) : Settings :=
  { rpcUrl := "http://localhost:8545", addressesPath := "data/addresses.csv",
    transferAmount := amount, chainId := none,
    receiptTimeoutSeconds := defaultReceiptTimeoutSeconds,
    pollIntervalMilliseconds := defaultPollIntervalMilliseconds }

/-- The amount that is sent when the settings name none means what it says: ten of the smallest
unit. -/
theorem default_amount_means_text :
    (ofAmount defaultTransferAmount).validate = .ok () ∧
    ∃ word, (ofAmount defaultTransferAmount).amount = .ok word ∧
      IsPlain defaultTransferAmount.toList ∧
      word.toNat = weiOf (value defaultTransferAmount.toList) ∧
      weiOf (value defaultTransferAmount.toList) = 10 := by
  have accepted : (ofAmount defaultTransferAmount).validate = .ok () := by decide +kernel
  have all_digits : (whole defaultTransferAmount.toList ++
      fraction defaultTransferAmount.toList).all Char.isDigit = true := by decide +kernel
  have digits := List.all_eq_true.mp all_digits
  have plain : IsPlain defaultTransferAmount.toList := ⟨digits, by decide +kernel⟩
  have ten : weiOf (value defaultTransferAmount.toList) = 10 := by
    rw [value, weiOf_decimal _ fun char member => digits char (List.mem_append_right _ member)]
    decide +kernel
  obtain ⟨word, read, means⟩ := amount_means_text_iff (ofAmount defaultTransferAmount) accepted
  have meant := means.mpr (plain.not_flawed (by rw [ten]; decide))
  exact ⟨accepted, word, read, meant.1, meant.2, ten⟩

/-- Not all settings that are accepted have a plain decimal for their amount: a minus sign is taken
for what it is, and the word that is sent is what is left of the negative number. -/
theorem negative_amount_accepted :
    ¬ ∀ settings : Settings, settings.validate = .ok () →
      ∃ word, settings.amount = .ok word ∧ IsPlain settings.transferAmount.toList ∧
        word.toNat = weiOf (value settings.transferAmount.toList) := by
  intro always
  obtain ⟨word, _, plain, _⟩ := always (ofAmount "-1") (by decide +kernel)
  exact absurd (plain.1 '-' (by decide)) (by decide)

end Settings

end Trickle
