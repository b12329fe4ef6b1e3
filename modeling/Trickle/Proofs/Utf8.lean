/-
This file proves that reading UTF-8 gives back the text that was written. Each character
takes one of four forms, and reading tries them in the order of their lengths: no form is
mistaken for a shorter one, because its first byte lies in a range of its own. A text is
therefore read off the front of whatever stands behind it, and no two texts have the
same bytes. The converse holds too: bytes in which a text is read are those that the text
is written with.
-/

import Mathlib.Logic.Function.Basic
import Mathlib.Tactic.SplitIfs
import Trickle.Text.Utf8

namespace Trickle.Utf8

/-! ### Reading a form -/

section Forms

variable {first second third fourth : UInt8} {char : Char} (rest : Bytes)

theorem one?_eq_none (high : 0x80 ≤ first.toNat) : one? first = none :=
  if_neg (Nat.not_lt.mpr high)

theorem two?_eq_none (high : 0xE0 ≤ first.toNat) : two? first second = none :=
  if_neg fun range => Nat.not_lt.mpr high range.2

theorem three?_eq_none (high : 0xF0 ≤ first.toNat) : three? first second third = none :=
  if_neg fun range => Nat.not_lt.mpr high range.2

theorem scan_of_one? (form : one? first = some char) :
    scan (first :: rest) = (char :: (scan rest).1, (scan rest).2) := by
  rw [scan.eq_def]
  simp only [form]

theorem scan_of_two? (high : 0x80 ≤ first.toNat) (form : two? first second = some char) :
    scan (first :: second :: rest) = (char :: (scan rest).1, (scan rest).2) := by
  rw [scan.eq_def]
  simp only [one?_eq_none high, form]

theorem scan_of_three? (high : 0xE0 ≤ first.toNat)
    (form : three? first second third = some char) :
    scan (first :: second :: third :: rest) = (char :: (scan rest).1, (scan rest).2) := by
  have high' : 0x80 ≤ first.toNat := by omega
  rw [scan.eq_def]
  simp only [one?_eq_none high', two?_eq_none high, form]

theorem scan_of_four? (high : 0xF0 ≤ first.toNat)
    (form : four? first second third fourth = some char) :
    scan (first :: second :: third :: fourth :: rest) =
      (char :: (scan rest).1, (scan rest).2) := by
  have high' : 0xE0 ≤ first.toNat := by omega
  have high'' : 0x80 ≤ first.toNat := by omega
  rw [scan.eq_def]
  simp only [one?_eq_none high'', two?_eq_none high', three?_eq_none high, form]

end Forms

/-! ### Writing a form -/

theorem toNat_lt (char : Char) : char.toNat < 0x110000 :=
  char.valid.elim (fun low => Nat.lt_trans low (by decide)) fun high => high.2

/-- The four forms of a character, by its number. -/
theorem utf8EncodeChar_eq (char : Char) :
    String.utf8EncodeChar char =
      if char.toNat ≤ 0x7F then [UInt8.ofNat char.toNat]
      else if char.toNat ≤ 0x7FF then
        [UInt8.ofNat (char.toNat / 64 % 32 + 192), UInt8.ofNat (char.toNat % 64 + 128)]
      else if char.toNat ≤ 0xFFFF then
        [UInt8.ofNat (char.toNat / 4096 % 16 + 224), UInt8.ofNat (char.toNat / 64 % 64 + 128),
          UInt8.ofNat (char.toNat % 64 + 128)]
      else
        [UInt8.ofNat (char.toNat / 262144 % 8 + 240),
          UInt8.ofNat (char.toNat / 4096 % 64 + 128), UInt8.ofNat (char.toNat / 64 % 64 + 128),
          UInt8.ofNat (char.toNat % 64 + 128)] :=
  String.utf8EncodeChar.eq_1 char

/-- A byte keeps the payload behind its mark. -/
theorem toNat_marked (payload mark : Nat) (fits : payload + mark < 256) :
    (UInt8.ofNat (payload + mark)).toNat = payload + mark := by
  rw [UInt8.toNat_ofNat']
  exact Nat.mod_eq_of_lt fits

theorem continuation?_marked {payload : Nat} (small : payload < 64) :
    continuation? (UInt8.ofNat (payload + 128)) = some payload := by
  rw [continuation?, toNat_marked _ _ (by omega), if_pos (by omega), Nat.add_sub_cancel]

theorem scalar?_toNat {least code : Nat} {char : Char} (same : code = char.toNat)
    (high : least ≤ code) : scalar? least code = some char := by
  subst same
  rw [scalar?, if_pos ⟨high, char.valid⟩, Char.ofNat_toNat]

/-- Of the bytes of a character all but the first continue it. -/
theorem exists_continuations (char : Char) :
    ∃ first rest, String.utf8EncodeChar char = first :: rest ∧
      (continuation? first).isNone = true ∧
      ∀ byte ∈ rest, (continuation? byte).isNone = false := by
  have continues {payload : Nat} (small : payload < 64) :
      (continuation? (UInt8.ofNat (payload + 128))).isNone = false := by
    rw [continuation?_marked small]
    rfl
  have leads {payload mark : Nat} (least : 192 ≤ mark) (fits : payload + mark < 256) :
      (continuation? (UInt8.ofNat (payload + mark))).isNone = true := by
    rw [continuation?, toNat_marked _ _ fits, if_neg (by omega)]
    rfl
  rw [utf8EncodeChar_eq]
  split_ifs with one
  · refine ⟨_, [], rfl, ?_, nofun⟩
    rw [continuation?, UInt8.toNat_ofNat', if_neg (by omega)]
    rfl
  all_goals
    refine ⟨_, _, rfl, leads (by omega) (by omega), fun byte member => ?_⟩
    simp only [List.mem_cons, List.not_mem_nil, or_false] at member
  · rw [member]
    exact continues (by omega)
  · rcases member with rfl | rfl <;> exact continues (by omega)
  · rcases member with rfl | rfl | rfl <;> exact continues (by omega)

/-- One character is read off the front of whatever stands behind it. -/
theorem scan_utf8EncodeChar (char : Char) (rest : Bytes) :
    scan (String.utf8EncodeChar char ++ rest) = (char :: (scan rest).1, (scan rest).2) := by
  have top := toNat_lt char
  rw [utf8EncodeChar_eq]
  split_ifs with one two three
  · have value : (UInt8.ofNat char.toNat).toNat = char.toNat := by
      rw [UInt8.toNat_ofNat']
      omega
    refine scan_of_one? rest ?_
    rw [one?, value, if_pos (by omega), Char.ofNat_toNat]
  · have value := toNat_marked (char.toNat / 64 % 32) 192 (by omega)
    refine scan_of_two? rest (by omega) ?_
    rw [two?, value, if_pos (by omega), continuation?_marked (by omega)]
    exact scalar?_toNat (by omega) (by omega)
  · have value := toNat_marked (char.toNat / 4096 % 16) 224 (by omega)
    refine scan_of_three? rest (by omega) ?_
    rw [three?, value, if_pos (by omega), continuation?_marked (by omega),
      continuation?_marked (by omega)]
    exact scalar?_toNat (by omega) (by omega)
  · have value := toNat_marked (char.toNat / 262144 % 8) 240 (by omega)
    refine scan_of_four? rest (by omega) ?_
    rw [four?, value, if_pos (by omega), continuation?_marked (by omega),
      continuation?_marked (by omega), continuation?_marked (by omega)]
    exact scalar?_toNat (by omega) (by omega)

/-! ### Texts -/

/-- A text is read off the front of whatever stands behind it. -/
theorem scan_encode_append (text : List Char) (rest : Bytes) :
    scan (encode text ++ rest) = (text ++ (scan rest).1, (scan rest).2) := by
  induction text with
  | nil => rfl
  | cons char text inductionHypothesis =>
    rw [encode, List.flatMap_cons, List.append_assoc, scan_utf8EncodeChar, ← encode,
      inductionHypothesis]
    rfl

/-- What is written is read back, and nothing is left over. -/
theorem scan_encode (text : List Char) : scan (encode text) = (text, []) := by
  have read := scan_encode_append text []
  rwa [List.append_nil, show scan [] = ([], []) from rfl, List.append_nil] at read

theorem scan_ofString (text : String) : scan (ofString text) = (text.toList, []) :=
  scan_encode text.toList

theorem isValid_ofString (text : String) : isValid (ofString text) = true := by
  rw [isValid, scan_ofString]
  rfl

theorem encode_injective : Function.Injective encode := fun first second same => by
  have read := congrArg (fun bytes => (scan bytes).1) same
  simpa only [scan_encode] using read

/-! ### Characters of one byte -/

theorem utf8EncodeChar_of_low {char : Char} (low : char.toNat < 0x80) :
    String.utf8EncodeChar char = [UInt8.ofNat char.toNat] := by
  rw [utf8EncodeChar_eq, if_pos (by omega)]

/-- A text of characters of one byte is written with one byte for each of them. -/
theorem encode_of_low {text : List Char} (low : ∀ char ∈ text, char.toNat < 0x80) :
    encode text = text.map fun char => UInt8.ofNat char.toNat := by
  induction text with
  | nil => rfl
  | cons char text inductionHypothesis =>
    rw [encode, List.flatMap_cons, utf8EncodeChar_of_low (low char List.mem_cons_self), ← encode,
      inductionHypothesis fun char member => low char (List.mem_cons_of_mem _ member)]
    rfl

/-- Characters of one byte at the front of a text are its first bytes. -/
theorem take_encode_of_low {text : List Char} {count : Nat}
    (low : ∀ char ∈ text.take count, char.toNat < 0x80) :
    (encode text).take count = encode (text.take count) := by
  induction text generalizing count with
  | nil => rw [List.take_nil, encode, List.flatMap_nil, List.take_nil]
  | cons char text inductionHypothesis =>
    cases count with
    | zero => rfl
    | succ count =>
      rw [List.take_succ_cons, List.forall_mem_cons] at low
      rw [List.take_succ_cons, encode, encode, List.flatMap_cons, List.flatMap_cons, ← encode,
        ← encode, utf8EncodeChar_of_low low.1, ← inductionHypothesis low.2]
      rfl

/-- All bytes of a longer form are high. -/
theorem high_of_mem_utf8EncodeChar {char : Char} (high : 0x80 ≤ char.toNat) {byte : UInt8}
    (member : byte ∈ String.utf8EncodeChar char) : 0x80 ≤ byte.toNat := by
  rw [utf8EncodeChar_eq, if_neg (by omega)] at member
  have marked (payload mark : Nat) (least : 128 ≤ mark) (fits : payload + mark < 256) :
      0x80 ≤ (UInt8.ofNat (payload + mark)).toNat := by
    rw [toNat_marked _ _ fits]
    omega
  split_ifs at member <;>
    simp only [List.mem_cons, List.not_mem_nil, or_false] at member <;>
    rcases member with rfl | rfl | rfl | rfl <;>
    exact marked _ _ (by omega) (by omega)

/-- A low byte among those of a character is all of it. -/
theorem eq_of_mem_utf8EncodeChar {char : Char} (low : Char) (isLow : low.toNat < 0x80)
    (member : UInt8.ofNat low.toNat ∈ String.utf8EncodeChar char) : char = low := by
  have code : (UInt8.ofNat low.toNat).toNat = low.toNat := by
    rw [UInt8.toNat_ofNat']
    omega
  rcases Nat.lt_or_ge char.toNat 0x80 with single | longer
  · rw [utf8EncodeChar_of_low single, List.mem_singleton] at member
    have same : low.toNat = char.toNat := by
      rw [← code, member, UInt8.toNat_ofNat']
      omega
    rw [← Char.ofNat_toNat char, ← same, Char.ofNat_toNat]
  · have high := high_of_mem_utf8EncodeChar longer member
    omega

theorem mem_of_mem_encode {text : List Char} (low : Char) (isLow : low.toNat < 0x80)
    (member : UInt8.ofNat low.toNat ∈ encode text) : low ∈ text := by
  obtain ⟨char, isMember, within⟩ := List.mem_flatMap.mp member
  exact eq_of_mem_utf8EncodeChar low isLow within ▸ isMember

theorem exists_utf8EncodeChar_eq_cons (char : Char) :
    ∃ first rest, String.utf8EncodeChar char = first :: rest := by
  obtain ⟨first, rest, form, _⟩ := exists_continuations char
  exact ⟨first, rest, form⟩

/-- Low bytes at the front of a text are its first characters, one by one. -/
theorem exists_split_of_low {text : List Char} {front rest : Bytes}
    (split : encode text = front ++ rest) (low : ∀ byte ∈ front, byte.toNat < 0x80) :
    ∃ first second, text = first ++ second ∧ first.map Char.toNat = front.map UInt8.toNat ∧
      encode second = rest := by
  induction front generalizing text with
  | nil => exact ⟨[], text, rfl, rfl, split⟩
  | cons byte front inductionHypothesis =>
    cases text with
    | nil => exact nomatch split
    | cons char text =>
      rw [encode, List.flatMap_cons, ← encode, List.cons_append] at split
      rcases Nat.lt_or_ge char.toNat 0x80 with single | longer
      · rw [utf8EncodeChar_of_low single, List.singleton_append] at split
        obtain ⟨isByte, behind⟩ := List.cons.inj split
        have code : char.toNat = byte.toNat := by
          rw [← isByte, UInt8.toNat_ofNat']
          omega
        obtain ⟨first, second, rfl, codes, written⟩ := inductionHypothesis behind
          fun later member => low later (List.mem_cons_of_mem _ member)
        refine ⟨char :: first, second, rfl, ?_, written⟩
        rw [List.map_cons, List.map_cons, code, codes]
      · obtain ⟨head, tail, form⟩ := exists_utf8EncodeChar_eq_cons char
        have high : 0x80 ≤ head.toNat :=
          high_of_mem_utf8EncodeChar longer (form ▸ List.mem_cons_self)
        rw [form, List.cons_append] at split
        have isByte : head = byte := (List.cons.inj split).1
        exact absurd (isByte ▸ low byte List.mem_cons_self) (Nat.not_lt.mpr high)

/-! ### Bytes that are text -/

theorem ofNat_eq_of_toNat_eq (byte : UInt8) {value : Nat} (same : byte.toNat = value) :
    UInt8.ofNat value = byte := by
  rw [← same, UInt8.ofNat_toNat]

theorem toNat_ofNat_of_isValidChar {code : Nat} (valid : code.isValidChar) :
    (Char.ofNat code).toNat = code := by
  rw [Char.ofNat, dif_pos valid]
  rfl

theorem eq_of_scalar? {least code : Nat} {char : Char} (found : scalar? least code = some char) :
    char.toNat = code ∧ least ≤ code := by
  rw [scalar?] at found
  split_ifs at found with range
  obtain rfl := Option.some.inj found
  exact ⟨toNat_ofNat_of_isValidChar range.2, range.1⟩

theorem eq_of_continuation? {byte : UInt8} {payload : Nat}
    (found : continuation? byte = some payload) :
    byte.toNat = payload + 128 ∧ payload < 64 := by
  rw [continuation?] at found
  split_ifs at found with range
  obtain rfl := Option.some.inj found
  omega

/-- A character that is read from some bytes is written with them. -/
theorem utf8EncodeChar_of_one? {first : UInt8} {char : Char} (form : one? first = some char) :
    String.utf8EncodeChar char = [first] := by
  rw [one?] at form
  split_ifs at form with range
  obtain rfl := Option.some.inj form
  have code : (Char.ofNat first.toNat).toNat = first.toNat :=
    toNat_ofNat_of_isValidChar (.inl (by omega))
  rw [utf8EncodeChar_of_low (by omega), code, UInt8.ofNat_toNat]

theorem utf8EncodeChar_of_two? {first second : UInt8} {char : Char}
    (form : two? first second = some char) : String.utf8EncodeChar char = [first, second] := by
  rw [two?] at form
  split_ifs at form with range
  obtain ⟨low, isLow, isChar⟩ := Option.bind_eq_some_iff.mp form
  obtain ⟨second_eq, low_lt⟩ := eq_of_continuation? isLow
  obtain ⟨code, least⟩ := eq_of_scalar? isChar
  rw [utf8EncodeChar_eq, code, if_neg (by omega), if_pos (by omega),
    ofNat_eq_of_toNat_eq first (by omega), ofNat_eq_of_toNat_eq second (by omega)]

theorem utf8EncodeChar_of_three? {first second third : UInt8} {char : Char}
    (form : three? first second third = some char) :
    String.utf8EncodeChar char = [first, second, third] := by
  rw [three?] at form
  split_ifs at form with range
  obtain ⟨middle, isMiddle, form⟩ := Option.bind_eq_some_iff.mp form
  obtain ⟨low, isLow, isChar⟩ := Option.bind_eq_some_iff.mp form
  obtain ⟨second_eq, middle_lt⟩ := eq_of_continuation? isMiddle
  obtain ⟨third_eq, low_lt⟩ := eq_of_continuation? isLow
  obtain ⟨code, least⟩ := eq_of_scalar? isChar
  rw [utf8EncodeChar_eq, code, if_neg (by omega), if_neg (by omega), if_pos (by omega),
    ofNat_eq_of_toNat_eq first (by omega), ofNat_eq_of_toNat_eq second (by omega),
    ofNat_eq_of_toNat_eq third (by omega)]

theorem utf8EncodeChar_of_four? {first second third fourth : UInt8} {char : Char}
    (form : four? first second third fourth = some char) :
    String.utf8EncodeChar char = [first, second, third, fourth] := by
  have top := toNat_lt char
  rw [four?] at form
  split_ifs at form with range
  obtain ⟨high, isHigh, form⟩ := Option.bind_eq_some_iff.mp form
  obtain ⟨middle, isMiddle, form⟩ := Option.bind_eq_some_iff.mp form
  obtain ⟨low, isLow, isChar⟩ := Option.bind_eq_some_iff.mp form
  obtain ⟨second_eq, high_lt⟩ := eq_of_continuation? isHigh
  obtain ⟨third_eq, middle_lt⟩ := eq_of_continuation? isMiddle
  obtain ⟨fourth_eq, low_lt⟩ := eq_of_continuation? isLow
  obtain ⟨code, least⟩ := eq_of_scalar? isChar
  rw [utf8EncodeChar_eq, if_neg (by omega), if_neg (by omega), if_neg (by omega), code,
    ofNat_eq_of_toNat_eq first (by omega), ofNat_eq_of_toNat_eq second (by omega),
    ofNat_eq_of_toNat_eq third (by omega), ofNat_eq_of_toNat_eq fourth (by omega)]

/-- What is read and what is left over are the bytes. -/
theorem encode_scan_append (bytes : Bytes) : encode (scan bytes).1 ++ (scan bytes).2 = bytes := by
  have read {char : Char} {front rest : Bytes} (form : String.utf8EncodeChar char = front)
      (inductionHypothesis : encode (scan rest).1 ++ (scan rest).2 = rest) :
      encode (char :: (scan rest).1) ++ (scan rest).2 = front ++ rest := by
    rw [encode, List.flatMap_cons, List.append_assoc, ← encode, inductionHypothesis, form]
  fun_induction scan bytes with
  | case1 => rfl
  | case2 first rest char form inductionHypothesis =>
    exact read (utf8EncodeChar_of_one? form) inductionHypothesis
  | case3 => rfl
  | case4 first _ second rest char form inductionHypothesis =>
    exact read (utf8EncodeChar_of_two? form) inductionHypothesis
  | case5 => rfl
  | case6 first _ second _ third rest char form inductionHypothesis =>
    exact read (utf8EncodeChar_of_three? form) inductionHypothesis
  | case7 => rfl
  | case8 first _ second _ third _ fourth rest char form inductionHypothesis =>
    exact read (utf8EncodeChar_of_four? form) inductionHypothesis
  | case9 => rfl

/-- Bytes are read as a text if and only if the text is written with them. -/
theorem decode?_eq_some_iff (bytes : Bytes) (text : String) :
    decode? bytes = some text ↔ ofString text = bytes := by
  constructor
  · intro read
    rw [decode?] at read
    split_ifs at read with valid
    obtain rfl := Option.some.inj read
    have whole := encode_scan_append bytes
    rw [List.isEmpty_iff.mp valid, List.append_nil] at whole
    rw [ofString, String.toList_ofList, whole]
  · rintro rfl
    rw [decode?, if_pos (isValid_ofString text), scan_ofString, String.ofList_toList]

/-- Whether bytes are those of a text. -/
def IsText (bytes : Bytes) : Prop :=
  ∃ text : String, ofString text = bytes

theorem decode?_ofString (text : String) : decode? (ofString text) = some text :=
  (decode?_eq_some_iff _ text).mpr rfl

theorem ofString_injective : Function.Injective ofString := fun first second same => by
  have read := congrArg decode? same
  rwa [decode?_ofString, decode?_ofString, Option.some_inj] at read

theorem decode?_eq_none_iff (bytes : Bytes) : decode? bytes = none ↔ ¬ IsText bytes := by
  simp only [Option.eq_none_iff_forall_ne_some, IsText, not_exists, ne_eq, decode?_eq_some_iff]

theorem isValid_iff (bytes : Bytes) : isValid bytes = true ↔ IsText bytes := by
  constructor
  · intro valid
    exact ⟨String.ofList (scan bytes).1, (decode?_eq_some_iff _ _).mp (if_pos valid)⟩
  · rintro ⟨text, rfl⟩
    exact isValid_ofString text

/-- The characters that are read from a text write it. -/
theorem IsText.ofString_scan {bytes : Bytes} (isText : IsText bytes) :
    ofString (String.ofList (scan bytes).1) = bytes := by
  obtain ⟨text, rfl⟩ := isText
  rw [scan_ofString, String.ofList_toList]

/-! ### The longest text at the front -/

/-- Whether the longest text at the front of some bytes has a length. -/
structure IsLongestText (bytes : Bytes) (length : Nat) : Prop where
  within : length ≤ bytes.length
  isText : IsText (bytes.take length)
  longest : ∀ other ≤ bytes.length, IsText (bytes.take other) → other ≤ length

theorem length_encode_scan (bytes : Bytes) :
    (encode (scan bytes).1).length = validLength bytes := by
  have whole := congrArg List.length (encode_scan_append bytes)
  rw [List.length_append] at whole
  exact Nat.eq_sub_of_add_eq whole

/-- A text at the front of some bytes is part of what is read. -/
theorem isLongestText_validLength (bytes : Bytes) : IsLongestText bytes (validLength bytes) where
  within := Nat.sub_le _ _
  isText := by
    refine ⟨String.ofList (scan bytes).1, ?_⟩
    rw [ofString, String.toList_ofList, ← length_encode_scan]
    exact List.prefix_iff_eq_take.mp ⟨_, encode_scan_append bytes⟩
  longest other within := by
    rintro ⟨text, written⟩
    have read := scan_encode_append text.toList (bytes.drop other)
    rw [← ofString, written, List.take_append_drop] at read
    calc other = (bytes.take other).length := (List.length_take_of_le within).symm
      _ = (encode text.toList).length := by rw [← written, ofString]
      _ ≤ (encode (scan bytes).1).length := by
        rw [read, encode, encode, List.flatMap_append, List.length_append]
        exact Nat.le_add_right _ _
      _ = validLength bytes := length_encode_scan bytes

end Trickle.Utf8
