/-
This file proves which settings the program breaks down over instead of refusing them, and
that it does not break down later over how receipts are waited for.

There are two kinds of such settings. Decimals behind the eighteenth are cut off by counting
bytes, and the cut must not fall inside a character: it does if a character behind the
point begins before the eighteenth byte and ends behind it. And a negative amount must not
leave the signed range when it is scaled to the smallest unit, unless its digits alone are
out of that range. Everything else that is wrong with settings is reported. Settings that
are accepted have an interval, so that no question to the node ends in a breakdown over it;
only a list of replies is left.
-/

import Trickle.Proofs.PlainAmount
import Trickle.Proofs.Startup
import Trickle.Rpc.Node
import Trickle.Rpc.Retry

namespace Trickle

namespace Utf8

/-! ### Cuts inside a character -/

/-- Whether a cut behind so many bytes of a text falls inside one of its characters. -/
def Splits (text : List Char) (count : Nat) : Prop :=
  ∃ before char after, text = before ++ char :: after ∧
    (encode before).length < count ∧ count < (encode (before ++ [char])).length

theorem length_encode_cons (char : Char) (text : List Char) :
    (encode (char :: text)).length =
      (String.utf8EncodeChar char).length + (encode text).length := by
  rw [encode, List.flatMap_cons, List.length_append, ← encode]

theorem not_splits_zero (text : List Char) : ¬ Splits text 0 := by
  rintro ⟨_, _, _, _, before, _⟩
  exact Nat.not_lt_zero _ before

/-- A cut falls inside the first character or inside one of those behind it. -/
theorem splits_cons_iff (char : Char) (text : List Char) (count : Nat) :
    Splits (char :: text) count ↔
      (0 < count ∧ count < (String.utf8EncodeChar char).length) ∨
        Splits text (count - (String.utf8EncodeChar char).length) := by
  constructor
  · rintro ⟨before, split, after, same, above, below⟩
    cases before with
    | nil =>
      obtain ⟨rfl, rfl⟩ := List.cons.inj same
      rw [List.nil_append, length_encode_cons] at below
      exact .inl ⟨above, below⟩
    | cons first before =>
      obtain ⟨rfl, rfl⟩ := List.cons.inj same
      rw [List.cons_append, length_encode_cons] at below
      rw [length_encode_cons] at above
      exact .inr ⟨before, split, after, rfl, by omega, by omega⟩
  · rintro (⟨above, below⟩ | ⟨before, split, after, rfl, above, below⟩)
    · exact ⟨[], char, text, rfl, above, by rwa [List.nil_append, length_encode_cons]⟩
    · refine ⟨char :: before, split, after, rfl, ?_, ?_⟩
      · rw [length_encode_cons]
        omega
      · rw [List.cons_append, length_encode_cons]
        omega

/-- No cut falls inside a character of one byte. -/
theorem not_splits_of_low {text : List Char} {count : Nat}
    (low : ∀ char ∈ text.take count, char.toNat < 0x80) : ¬ Splits text count := by
  induction text generalizing count with
  | nil =>
    rintro ⟨before, _, _, same, _⟩
    exact List.append_ne_nil_of_right_ne_nil before (List.cons_ne_nil _ _) same.symm
  | cons char text inductionHypothesis =>
    cases count with
    | zero => exact not_splits_zero _
    | succ count =>
      rw [List.take_succ_cons, List.forall_mem_cons] at low
      have single : (String.utf8EncodeChar char).length = 1 :=
        congrArg List.length (utf8EncodeChar_of_low low.1)
      rw [splits_cons_iff, single]
      rintro (inside | later)
      · omega
      · exact inductionHypothesis low.2 later

end Utf8

namespace Decimal

/-! ### Negative amounts -/

/-- Whether a text asks for a negative amount that is in the signed range only until it is scaled:
behind the minus sign there are digits and underscores up to the eighteenth decimal, and the number
of the digits is not above the range, but it is in the smallest unit. -/
def Oversteps (text : List Char) : Prop :=
  ∃ rest, text = '-' :: rest ∧
    let behind := (fraction rest).take 18
    let kept := whole rest ++ behind
    let size := numeral (kept.filter (· ≠ '_'))
    (∀ char ∈ kept, char.isDigit = true ∨ char = '_') ∧
      size ≤ 2 ^ 255 ∧ 2 ^ 255 < size * 10 ^ (18 - behind.length)

/-- Whether a code is that of a digit or of an underscore. -/
def IsNumeralCode (code : Nat) : Prop :=
  (0x30 ≤ code ∧ code ≤ 0x39) ∨ code = 0x5F

theorem isNumeralCode_toNat_iff (char : Char) :
    IsNumeralCode char.toNat ↔ char.isDigit = true ∨ char = '_' := by
  rw [IsNumeralCode, isDigit_iff]
  refine or_congr_right ⟨fun same => ?_, fun same => same ▸ rfl⟩
  rw [← Char.ofNat_toNat char, same]

theorem isNumeralCode_byte_iff (byte : UInt8) :
    IsNumeralCode byte.toNat ↔ Ether.IsDigitByte byte ∨ byte = Ether.underscore :=
  or_congr_right ⟨fun same => UInt8.toNat_inj.mp same, fun same => same ▸ rfl⟩

theorem low_of_isNumeralCode {code : Nat} (isCode : IsNumeralCode code) : code < 0x80 := by
  unfold IsNumeralCode at isCode
  omega

theorem low_of_shape {char : Char} (shape : char.isDigit = true ∨ char = '_') :
    char.toNat < 0x80 :=
  low_of_isNumeralCode ((isNumeralCode_toNat_iff char).mpr shape)

/-- What digits denote among underscores can be read off their codes. -/
theorem numeral_filter (text : List Char) :
    numeral (text.filter (· ≠ '_')) =
      ((text.map Char.toNat).filter (· ≠ 0x5F)).foldl
        (fun total code => 10 * total + (code - 0x30)) 0 := by
  rw [Ether.numeral_eq_foldl, List.filter_map]
  refine congrArg (fun kept => List.foldl _ 0 (List.map Char.toNat kept))
    (List.filter_congr fun char _ => decide_eq_decide.mpr (not_congr ⟨fun same => same ▸ rfl, ?_⟩))
  intro same
  rw [← Char.ofNat_toNat char, show char.toNat = 0x5F from same]

end Decimal

namespace Ether

open Decimal

/-- No character begins where a cut falls inside one, and only there. -/
theorem atBoundary_drop_encode (text : List Char) (count : Nat) :
    atBoundary ((Utf8.encode text).drop count) = false ↔ Utf8.Splits text count := by
  induction text generalizing count with
  | nil =>
    rw [Utf8.encode, List.flatMap_nil, List.drop_nil, atBoundary]
    refine iff_of_false (by decide) ?_
    rintro ⟨before, _, _, same, _⟩
    exact List.append_ne_nil_of_right_ne_nil before (List.cons_ne_nil _ _) same.symm
  | cons char text inductionHypothesis =>
    obtain ⟨first, rest, form, leads, continues⟩ := Utf8.exists_continuations char
    rw [Utf8.splits_cons_iff, form, ← inductionHypothesis, Utf8.encode, List.flatMap_cons,
      ← Utf8.encode, form, List.drop_append]
    rcases Nat.lt_or_ge count (first :: rest).length with inside | beyond
    · cases count with
      | zero =>
        refine iff_of_false (by rw [List.drop_zero, List.cons_append, atBoundary, leads]; decide) ?_
        rintro (⟨none, _⟩ | within)
        · exact Nat.lt_irrefl 0 none
        · rw [Nat.zero_sub, inductionHypothesis] at within
          exact Utf8.not_splits_zero text within
      | succ count =>
        refine iff_of_true ?_ (.inl ⟨Nat.succ_pos count, inside⟩)
        rw [List.drop_succ_cons, List.drop_eq_getElem_cons (Nat.lt_of_succ_lt_succ inside),
          List.cons_append, atBoundary]
        exact continues _ (List.getElem_mem _)
    · rw [List.drop_eq_nil_of_le beyond, List.nil_append]
      exact (or_iff_right fun inside => absurd inside.2 (Nat.not_lt.mpr beyond)).symm

/-! ### Amounts that cannot be read -/

/-- Steps that follow each other end with an error that one of them ends with. -/
theorem eq_error_or_of_bind_eq_error {Error First Second : Type} {step : Except Error First}
    {next : First → Except Error Second} {error : Error}
    (failed : step.bind next = .error error) :
    step = .error error ∨ ∃ value, step = .ok value ∧ next value = .error error := by
  cases step with
  | error fault => exact .inl (congrArg _ (Except.error.inj failed))
  | ok value => exact .inr ⟨value, rfl, failed⟩

theorem isBreakdown_of_bounded {bound total : Nat} {error : AmountError}
    (failed : bounded bound total = .error error) : error.isBreakdown = false := by
  rw [bounded] at failed
  split at failed
  · cases failed
  · obtain rfl := Except.error.inj failed
    rfl

/-- Whatever keeps digits from being read can be reported. -/
theorem isBreakdown_of_accumulate {bound room total : Nat} {text : Bytes} {error : AmountError}
    (failed : accumulate bound room total text = .error error) : error.isBreakdown = false := by
  induction text generalizing room total with
  | nil => exact isBreakdown_of_bounded failed
  | cons byte rest inductionHypothesis =>
    rw [accumulate] at failed
    split at failed
    · exact inductionHypothesis failed
    · split at failed
      · obtain rfl := Except.error.inj failed
        rfl
      · split at failed
        · rcases eq_error_or_of_bind_eq_error failed with first | ⟨_, _, later⟩
          · exact isBreakdown_of_bounded first
          · exact inductionHypothesis later
        · exact inductionHypothesis failed

theorem isBreakdown_of_unsignedWord {scale : Nat} {digits : Bytes} {error : AmountError}
    (failed : unsignedWord scale digits = .error error) : error.isBreakdown = false := by
  rcases eq_error_or_of_bind_eq_error failed with first | ⟨_, _, scaled⟩
  · exact isBreakdown_of_accumulate first
  · exact nomatch scaled

/-- A negative number breaks down exactly if it leaves the signed range by being scaled. -/
theorem negativeWord_eq_error_iff {scale : Nat} {digits : Bytes} {error : AmountError}
    (breaks : error.isBreakdown = true) :
    negativeWord scale digits = .error error ↔
      error = .signedOverflow ∧ ∃ size, number (Nat.pow 2 256) digits = .ok size ∧
        size ≤ 2 ^ 255 ∧ 2 ^ 255 < size * scale := by
  rw [negativeWord]
  cases counted : number (Nat.pow 2 256) digits with
  | error other =>
    refine iff_of_false (fun failed => ?_) fun ⟨_, _, same, _⟩ => nomatch same
    rw [← Except.error.inj failed, isBreakdown_of_accumulate counted] at breaks
    exact nomatch breaks
  | ok size =>
    show (if 2 ^ 255 < size then _ else if 2 ^ 255 < size * scale then _ else _) = _ ↔ _
    split
    · next large =>
      refine iff_of_false (fun failed => ?_) ?_
      · rw [← Except.error.inj failed] at breaks
        exact nomatch breaks
      · rintro ⟨_, _, same, small, _⟩
        obtain rfl := Except.ok.inj same
        exact Nat.not_lt.mpr small large
    · next small =>
      have small : size ≤ 2 ^ 255 := Nat.not_lt.mp small
      split
      · next above =>
        exact ⟨fun failed => ⟨(Except.error.inj failed).symm, size, rfl, small, above⟩,
          fun both => congrArg _ both.1.symm⟩
      · next within =>
        refine iff_of_false nofun ?_
        rintro ⟨_, _, same, _, above⟩
        obtain rfl := Except.ok.inj same
        exact within above

/-- The cut fails exactly if it falls inside a character behind the point. -/
theorem cut_eq_error_iff (ahead : Bytes) (behind : List Char) :
    cut (ahead ++ Utf8.encode behind) (Utf8.encode behind).length = .error .splitCharacter ↔
      Utf8.Splits behind decimals := by
  rw [← atBoundary_drop_encode, cut]
  split
  · next few =>
    rw [List.drop_eq_nil_of_le few, atBoundary]
    exact iff_of_false (by simp) (by decide)
  · next many =>
    have kept : (ahead ++ Utf8.encode behind).length - ((Utf8.encode behind).length - decimals) =
        ahead.length + decimals := by
      rw [List.length_append]
      omega
    dsimp only
    rw [kept, List.drop_length_add_append]
    cases atBoundary ((Utf8.encode behind).drop decimals) with
    | false => exact iff_of_true rfl rfl
    | true => exact iff_of_false (by simp) (by decide)

theorem eq_splitCharacter_of_cut {text : Bytes} {count : Nat} {error : AmountError}
    (failed : cut text count = .error error) : error = .splitCharacter := by
  rw [cut] at failed
  split at failed
  · cases failed
  · dsimp only at failed
    split at failed
    · cases failed
    · exact (Except.error.inj failed).symm

/-- Eighteen characters of one byte are cut off from what stands behind them. -/
theorem cut_of_low (ahead : Bytes) {behind : List Char}
    (low : ∀ char ∈ behind.take 18, char.toNat < 0x80) :
    cut (ahead ++ Utf8.encode behind) (Utf8.encode behind).length =
      .ok (ahead ++ (Utf8.encode behind).take 18, (behind.take 18).length) := by
  cases cutOff : cut (ahead ++ Utf8.encode behind) (Utf8.encode behind).length with
  | error error =>
    obtain rfl := eq_splitCharacter_of_cut cutOff
    exact absurd ((cut_eq_error_iff _ _).mp cutOff) (Utf8.not_splits_of_low low)
  | ok parts =>
    obtain ⟨kept, left⟩ := parts
    obtain ⟨rfl, rfl⟩ := eq_of_cut cutOff
    rw [Utf8.take_encode_of_low low, Utf8.encode_of_low low, List.length_map]

/-- Reading an amount comes to a cut inside a character exactly if one of those behind the point
begins before the eighteenth byte there and ends behind it. -/
theorem read_eq_splitCharacter_iff (text : String) :
    read text = .error .splitCharacter ↔ Utf8.Splits (fraction text.toList) decimals := by
  have split : withoutPoint (Utf8.ofString text) = _ := withoutPoint_encode text.toList
  rw [← cut_eq_error_iff (Utf8.encode (whole text.toList))]
  simp only [read, split]
  constructor
  · intro failed
    rcases eq_error_or_of_bind_eq_error failed with first | ⟨_, _, later⟩
    · exact first
    · exfalso
      split at later
      · cases ((negativeWord_eq_error_iff rfl).mp later).1
      · cases isBreakdown_of_unsignedWord later
  · intro failed
    rw [failed]
    rfl

/-- The digits of a negative amount are read for what they denote, underscores aside. -/
theorem number_kept_eq_ok_iff {ahead behind : List Char} {size : Nat} :
    number (Nat.pow 2 256) (Utf8.encode ahead ++ (Utf8.encode behind).take 18) = .ok size ↔
      (∀ char ∈ ahead ++ behind.take 18, char.isDigit = true ∨ char = '_') ∧
        size = numeral ((ahead ++ behind.take 18).filter (· ≠ '_')) ∧ size < 2 ^ 256 := by
  -- Either side makes all that is kept low, so that bytes and characters correspond one to one.
  have transfer (codes : (ahead ++ behind.take 18).map Char.toNat =
      (Utf8.encode ahead ++ (Utf8.encode behind).take 18).map UInt8.toNat) :
      ((∀ byte ∈ Utf8.encode ahead ++ (Utf8.encode behind).take 18,
          IsDigitByte byte ∨ byte = underscore) ↔
        ∀ char ∈ ahead ++ behind.take 18, char.isDigit = true ∨ char = '_') ∧
      continued 0 (withoutSeparators (Utf8.encode ahead ++ (Utf8.encode behind).take 18)) =
        numeral ((ahead ++ behind.take 18).filter (· ≠ '_')) := by
    generalize Utf8.encode ahead ++ (Utf8.encode behind).take 18 = bytes at codes ⊢
    generalize ahead ++ behind.take 18 = chars at codes ⊢
    constructor
    · simp only [← isNumeralCode_byte_iff, ← isNumeralCode_toNat_iff]
      have each : (∀ code ∈ bytes.map UInt8.toNat, IsNumeralCode code) ↔
          ∀ code ∈ chars.map Char.toNat, IsNumeralCode code := by rw [codes]
      rwa [List.forall_mem_map, List.forall_mem_map] at each
    · rw [numeral_filter, codes, List.filter_map, List.foldl_map, continued, withoutSeparators]
      refine congrArg (List.foldl _ 0) (List.filter_congr fun byte _ =>
        decide_eq_decide.mpr (not_congr ⟨fun same => same ▸ rfl, fun same => ?_⟩))
      exact UInt8.toNat_inj.mp same
  rw [number, accumulate_eq_ok_iff]
  constructor
  · rintro ⟨shapes, value, small⟩
    have low (byte : UInt8) (member : byte ∈ _) : byte.toNat < 0x80 :=
      low_of_isNumeralCode ((isNumeralCode_byte_iff byte).mpr (shapes byte member))
    obtain ⟨same, equal⟩ := transfer (codes_kept low)
    exact ⟨same.mp shapes, value.trans equal, small⟩
  · rintro ⟨shapes, value, small⟩
    have low (char : Char) (member : char ∈ ahead ++ behind.take 18) : char.toNat < 0x80 :=
      low_of_shape (shapes char member)
    have bytes : Utf8.encode ahead ++ (Utf8.encode behind).take 18 =
        (ahead ++ behind.take 18).map fun char => UInt8.ofNat char.toNat := by
      rw [Utf8.take_encode_of_low fun char member => low char (List.mem_append_right _ member),
        ← Utf8.encode_of_low low, Utf8.encode, Utf8.encode, Utf8.encode, List.flatMap_append]
    obtain ⟨same, equal⟩ := transfer (codes_kept fun byte member => by
      rw [bytes] at member
      obtain ⟨char, isMember, rfl⟩ := List.mem_map.mp member
      have small := low char isMember
      rw [UInt8.toNat_ofNat']
      omega)
    exact ⟨same.mpr shapes, value.trans equal.symm, small⟩

/-- Reading an amount comes to a number that leaves the signed range exactly if it is a negative one
that does so by being scaled. -/
theorem read_eq_signedOverflow_iff (text : String) :
    read text = .error .signedOverflow ↔ Oversteps text.toList := by
  have split : withoutPoint (Utf8.ofString text) = _ := withoutPoint_encode text.toList
  have opening (rest : List Char) : whole ('-' :: rest) = '-' :: whole rest ∧
      fraction ('-' :: rest) = fraction rest :=
    ⟨List.takeWhile_cons_of_pos (by decide),
      congrArg (List.drop 1) (List.dropWhile_cons_of_pos (by decide))⟩
  constructor
  · intro failed
    simp only [read, split] at failed
    rcases eq_error_or_of_bind_eq_error failed with first | ⟨⟨kept, left⟩, cutOff, later⟩
    · cases eq_splitCharacter_of_cut first
    obtain ⟨rfl, rfl⟩ := eq_of_cut cutOff
    split at later
    · next sign =>
      have isMinus : text.toList.head? = some '-' := by
        by_contra unsigned
        exact head?_encode_ne_minus unsigned sign
      obtain ⟨rest, isText⟩ := List.head?_eq_some_iff.mp isMinus
      obtain ⟨_, size, counted, small, above⟩ := (negativeWord_eq_error_iff rfl).mp later
      rw [isText, (opening rest).1, (opening rest).2] at counted
      rw [isText, (opening rest).2] at above
      obtain ⟨shapes, rfl, _⟩ := number_kept_eq_ok_iff.mp counted
      have low (char : Char) (member : char ∈ (fraction rest).take 18) : char.toNat < 0x80 :=
        low_of_shape (shapes char (List.mem_append_right _ member))
      rw [Utf8.take_encode_of_low low, Utf8.encode_of_low low, List.length_map] at above
      exact ⟨rest, isText, shapes, small, above⟩
    · cases isBreakdown_of_unsignedWord later
  · rintro ⟨rest, isText, shapes, small, above⟩
    have sign : (Utf8.ofString text).head? = some minus := by
      rw [Utf8.ofString, isText]
      rfl
    have cutOff := cut_of_low (Utf8.encode ('-' :: whole rest)) fun char member =>
      low_of_shape (shapes char (List.mem_append_right _ member))
    rw [isText, (opening rest).1, (opening rest).2] at split
    simp only [read, split, cutOff, if_pos sign]
    exact (negativeWord_eq_error_iff rfl).mpr ⟨rfl, _,
      number_kept_eq_ok_iff.mpr ⟨shapes, rfl, Nat.lt_of_le_of_lt small (by decide)⟩, small, above⟩

end Ether

/-! ### Settings that are not refused -/

/-- Whether a result is an error that cannot be reported. -/
def IsBreakdown {Error Value : Type} (isBreakdown : Error → Bool) (result : Except Error Value) :
    Prop :=
  ∃ error, result = .error error ∧ isBreakdown error = true

section

variable {Error Value : Type} {isBreakdown : Error → Bool}

theorem not_isBreakdown_ok (value : Value) :
    ¬ IsBreakdown isBreakdown (.ok value : Except Error Value) :=
  fun ⟨_, same, _⟩ => nomatch same

theorem isBreakdown_error_iff (error : Error) :
    IsBreakdown isBreakdown (.error error : Except Error Value) ↔ isBreakdown error = true := by
  refine ⟨fun ⟨other, same, breakdown⟩ => ?_, fun breakdown => ⟨error, rfl, breakdown⟩⟩
  rwa [Except.error.inj same]

end

namespace Settings

/-- Whether settings have an interval, and an amount that cannot be read to its end: it is cut
inside a character, where one behind the point begins before the eighteenth byte there and ends
behind it, or it is negative and leaves the signed range by being scaled. -/
def Unworkable (settings : Settings) : Prop :=
  settings.pollIntervalMilliseconds ≠ 0 ∧
    (Utf8.Splits (Decimal.fraction settings.transferAmount.toList) 18 ∨
      Decimal.Oversteps settings.transferAmount.toList)

theorem breaksAmount_iff (settings : Settings) : settings.BreaksAmount ↔ settings.Unworkable := by
  rw [BreaksAmount, Ether.read_eq_splitCharacter_iff, Ether.read_eq_signedOverflow_iff]
  rfl

theorem validate_ne_ok_of_unworkable {settings : Settings} (unworkable : settings.Unworkable)
    (checked : Unit) : settings.validate ≠ .ok checked := by
  intro usable
  obtain ⟨amount, read⟩ := exists_amount_of_validate usable
  rw [Settings.amount] at read
  rcases ((breaksAmount_iff settings).mpr unworkable).2 with split | overflow
  · rw [split] at read
    cases read
  · rw [overflow] at read
    cases read

/-- The check of settings breaks down exactly if they are unworkable. -/
theorem isBreakdown_validate_iff (settings : Settings) :
    IsBreakdown SettingsProblem.isBreakdown settings.validate ↔ settings.Unworkable := by
  cases checked : settings.validate with
  | ok value =>
    exact iff_of_false (not_isBreakdown_ok value)
      fun unworkable => validate_ne_ok_of_unworkable unworkable value checked
  | error problem =>
    rw [isBreakdown_error_iff, Startup.isBreakdown_of_validate checked, breaksAmount_iff]

/-- Taking the settings from their file breaks down exactly if it holds settings whose check
does. -/
theorem isBreakdown_ofFile_iff (contents : Except FileFault Bytes) :
    IsBreakdown SettingsFault.isBreakdown (ofFile contents) ↔
      ∃ settings, held contents = .ok settings ∧ settings.Unworkable := by
  rw [ofFile_eq]
  cases isHeld : held contents with
  | error fault =>
    rw [isBreakdown_error_iff, Startup.isBreakdown_of_held isHeld]
    exact iff_of_false (by decide) fun ⟨_, same, _⟩ => nomatch same
  | ok settings =>
    simp only [Except.ok.injEq, exists_eq_left', ← isBreakdown_validate_iff]
    cases settings.validate with
    | ok => exact iff_of_false (not_isBreakdown_ok _) (not_isBreakdown_ok _)
    | error problem =>
      rw [isBreakdown_error_iff, isBreakdown_error_iff]
      rfl

/-- Taking the node from settings breaks down exactly if their check does. -/
theorem isBreakdown_endpoint_iff (settings : Settings) :
    IsBreakdown EndpointError.isBreakdown (Endpoint.ofSettings settings) ↔
      settings.Unworkable := by
  rw [← isBreakdown_validate_iff, Endpoint.ofSettings]
  cases settings.validate with
  | error problem =>
    rw [isBreakdown_error_iff, isBreakdown_error_iff]
    rfl
  | ok =>
    refine iff_of_false ?_ (not_isBreakdown_ok _)
    dsimp only
    cases Url.read settings.rpcUrl with
    | ok => exact not_isBreakdown_ok _
    | error error => exact fun broken => Bool.false_ne_true ((isBreakdown_error_iff _).mp broken)

end Settings

/-! ### Waits that do not break down -/

/-- Settings that name a node have an interval, which is that between questions for a receipt. -/
theorem Endpoint.interval_eq {settings : Settings} {endpoint : Endpoint}
    (named : ofSettings settings = .ok endpoint) :
    endpoint.patience.interval = settings.pollIntervalMilliseconds ∧
      0 < endpoint.patience.interval := by
  rw [ofSettings, Settings.validate] at named
  split at named
  · cases named
  · rename_i usable
    split at usable
    · cases usable
    · rename_i nonzero
      split at named
      · cases named
      · obtain rfl := Except.ok.inj named
        exact ⟨rfl, Nat.pos_of_ne_zero nonzero⟩

namespace Rpc

/-- Whether a result is no breakdown, or one over a list of replies. -/
def Survives {Value : Type} (result : Except Breakdown Value) : Prop :=
  ∀ breakdown, result = .error breakdown → breakdown = .batchReply

theorem survives_ok {Value : Type} (value : Value) :
    Survives (.ok value : Except Breakdown Value) :=
  fun _ same => nomatch same

theorem survives_batchReply {Value : Type} :
    Survives (.error .batchReply : Except Breakdown Value) :=
  fun _ same => (Except.error.inj same).symm

theorem survives_readAs {Result : Type} (read? : Json.Value → Option Result) (reply : Reply) :
    Survives (readAs read? reply) := by
  cases reply with
  | result source value =>
    rw [readAs]
    split <;> exact survives_ok _
  | fault fault => exact survives_ok _
  | batch error => exact survives_batchReply

theorem survives_receiptOf (reply : Reply) : Survives (receiptOf reply) := by
  unfold receiptOf
  split
  · exact survives_ok _
  · split <;> exact survives_ok _
  · exact survives_ok _
  · exact survives_batchReply

/-- However the questions of a wait are answered, it does not end for want of an interval. -/
theorem Wait.onlyEnds_poll (wait : Wait) (index : Nat) :
    (wait.poll index).OnlyEnds Survives := by
  induction index using poll.induct wait with
  | case1 index due inductionHypothesis =>
    rw [poll, if_pos due]
    intro _ came
    cases came with
    | none => exact survives_ok _
    | some delivery =>
      dsimp only [Dialogue.andThen]
      split
      · rename_i breakdown broken
        obtain rfl := survives_receiptOf _ breakdown broken
        exact survives_batchReply
      · exact survives_ok _
      · exact survives_ok _
      · exact inductionHypothesis
  | case2 index notDue =>
    rw [poll, if_neg notDue]
    exact fun _ => survives_ok _

theorem onlyEnds_ask {Result : Type} (read? : Json.Value → Option Result)
    (question : ChainQuestion) : (ask read? question).OnlyEnds Survives :=
  fun delivery => survives_readAs read? (.ofDelivery delivery)

/-- With an interval, no question to a node ends in a breakdown over the want of one. -/
theorem onlyEnds_carryOut {patience : Patience} (positive : 0 < patience.interval)
    (question : ChainQuestion) : (carryOut patience question).OnlyEnds Survives := by
  cases question with
  | receipt hash =>
    rw [carryOut, awaitReceipt, dif_pos positive]
    exact fun start => Wait.onlyEnds_poll _ 0
  | _ => exact onlyEnds_ask _ _

end Rpc

namespace Settings

/-- The check of settings breaks down, instead of accepting or refusing them, if and only if they
have an interval and their amount is cut inside a character, or it is negative and leaves the signed
range by being scaled. So does taking them from their file, if it holds them, and taking the node
from them. A node that is taken from settings has an interval, that of the settings, and so has the
node of every session that is started; whatever is then asked of it and however it answers, the only
breakdown left is over a list of replies. -/
theorem breaks_down_iff_unworkable (settings : Settings) :
    (IsBreakdown SettingsProblem.isBreakdown settings.validate ↔ settings.Unworkable) ∧
    (∀ contents, IsBreakdown SettingsFault.isBreakdown (ofFile contents) ↔
      ∃ settings, held contents = .ok settings ∧ settings.Unworkable) ∧
    (IsBreakdown EndpointError.isBreakdown (Endpoint.ofSettings settings) ↔
      settings.Unworkable) ∧
    (∀ endpoint, Endpoint.ofSettings settings = .ok endpoint →
      endpoint.patience.interval = settings.pollIntervalMilliseconds ∧
      0 < endpoint.patience.interval ∧
      ∀ (question : ChainQuestion) {Line : Type} (line : Peer Wire Line) (state : Line) breakdown,
        (((Rpc.carryOut endpoint.patience question).through Rpc.Retry.carryOut).play line
          state).result = .error breakdown → breakdown = .batchReply) ∧
    ∀ {State : Type} (peer : Peer World State) (start : State) session,
      (Startup.session.play peer start).result = .ok session →
        ∃ settings, Endpoint.ofSettings settings = .ok session.endpoint := by
  refine ⟨isBreakdown_validate_iff settings, isBreakdown_ofFile_iff,
    isBreakdown_endpoint_iff settings, fun endpoint named => ?_,
    fun peer start session started => ?_⟩
  · obtain ⟨same, positive⟩ := Endpoint.interval_eq named
    exact ⟨same, positive, fun question _ line state =>
      ((Rpc.onlyEnds_carryOut positive question).through _).result line state⟩
  · obtain ⟨settings, ready⟩ := Startup.exists_ready started
    exact ⟨settings, ready.endpoint⟩

/-- An amount that is cut in front of a character of two bytes is accepted, and the node that these
settings name is asked for receipts ten times a second. -/
theorem whole_character_is_cut_off :
    let settings := { ofAmount "0.000000000000000001٣" with rpcUrl := "node:" }
    ¬ settings.Unworkable ∧
      ∃ endpoint, Endpoint.ofSettings settings = .ok endpoint ∧
        endpoint.patience.interval = 100 ∧ 0 < endpoint.patience.interval := by
  intro settings
  have usable : settings.validate = .ok () := by decide +kernel
  have named : (Endpoint.ofSettings settings).toBool = true := by decide +kernel
  obtain ⟨checked, _, _, waits, _⟩ := breaks_down_iff_unworkable settings
  refine ⟨fun unworkable => ?_, ?_⟩
  · have broken := checked.mpr unworkable
    rw [usable] at broken
    exact not_isBreakdown_ok () broken
  · cases isNamed : Endpoint.ofSettings settings with
    | ok endpoint =>
      obtain ⟨same, positive, _⟩ := waits endpoint isNamed
      exact ⟨endpoint, rfl, same, positive⟩
    | error error =>
      rw [isNamed] at named
      cases named

/-- The least amount of whole ether that leaves the signed range, and its neighbour within it. -/
example :
    (ofAmount "-57896044618658097711785492504343953926634992332820282019729").validate =
        .error (.badAmount "-57896044618658097711785492504343953926634992332820282019729"
          .signedOverflow) ∧
      (ofAmount "-57896044618658097711785492504343953926634992332820282019728").validate =
        .ok () := by
  decide +kernel

/-- Not all settings that are not accepted are refused: these have seventeen decimals and a
character of two bytes behind them. -/
theorem split_character_is_not_refused :
    ¬ ∀ (settings : Settings) (problem : SettingsProblem),
      settings.validate = .error problem → problem.isBreakdown = false := by
  have unusable : (ofAmount "0.00000000000000000é").validate =
      .error (.badAmount "0.00000000000000000é" .splitCharacter) := by decide +kernel
  intro refused
  exact absurd (refused _ _ unusable) (by decide)

end Settings

end Trickle
