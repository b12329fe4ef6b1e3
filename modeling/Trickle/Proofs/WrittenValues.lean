/-
This file proves that reading a value undoes writing it. A text stands in double quotes,
each of its characters as it is or escaped in one of two ways; an integer is a signed word
and written in decimal. Every character can be written in at least one way, and so every
text.

A value is read off the front of the text, so that what stands behind it matters only by
its first character: behind a value there is a gap, a comment or the end of the line, and
none of them goes on with a text, an integer, a date or a time.
-/

import Mathlib.Algebra.Group.Nat.Defs
import Trickle.Proofs.Utf8
import Trickle.Toml.Statement

namespace Trickle.Toml

/-! ### How values are written -/

/-- The escapes of a single letter. -/
inductive Escape where
  | backspace
  | tab
  | lineFeed
  | formFeed
  | carriageReturn
  | quote
  | backslash
  deriving DecidableEq, Repr

namespace Escape

/-- The letter behind the backslash. -/
def mark : Escape → Char
  | .backspace => 'b'
  | .tab => 't'
  | .lineFeed => 'n'
  | .formFeed => 'f'
  | .carriageReturn => 'r'
  | .quote => '"'
  | .backslash => '\\'

/-- The character that is meant. -/
def char : Escape → Char
  | .backspace => '\x08'
  | .tab => '\t'
  | .lineFeed => '\n'
  | .formFeed => '\x0C'
  | .carriageReturn => '\r'
  | .quote => '"'
  | .backslash => '\\'

end Escape

/-- A hexadecimal digit, in either case. -/
structure HexDigit where
  value : Fin 16
  upper : Bool
  deriving DecidableEq, Repr

namespace HexDigit

/-- The character of a digit. -/
def char (digit : HexDigit) : Char :=
  if digit.upper then (Nat.digitChar digit.value).toUpper else Nat.digitChar digit.value

/-- The number that digits denote. -/
def number (digits : List HexDigit) : Nat :=
  digits.foldl (fun total digit => 16 * total + digit.value) 0

/-- The lowest `count` digits of a number, in lower case. -/
def write : (count number : Nat) → List HexDigit
  | 0, _ => []
  | count + 1, number => write count (number / 16) ++ [⟨Fin.ofNat 16 number, false⟩]

theorem length_write (count number : Nat) : (write count number).length = count := by
  induction count generalizing number with
  | zero => rfl
  | succ count inductionHypothesis =>
    rw [write, List.length_append, inductionHypothesis, List.length_singleton]

theorem number_write {count value : Nat} (small : value < 16 ^ count) :
    number (write count value) = value := by
  induction count generalizing value with
  | zero => exact (Nat.lt_one_iff.mp small).symm
  | succ count inductionHypothesis =>
    have front := inductionHypothesis (Nat.div_lt_of_lt_mul (Nat.pow_succ' ▸ small))
    rw [number] at front
    rw [number, write, List.foldl_append, front]
    exact Nat.div_add_mod value 16

end HexDigit

/-- A character of a text, with the way it is written: as it is, with the escape it has, or with the
digits of its code point. -/
inductive Glyph where
  | bare (char : Char) (plain : isPlain char = true) (notQuote : char ≠ '"')
    (notBackslash : char ≠ '\\')
  | escaped (escape : Escape)
  | coded (char : Char) (digits : List HexDigit) (count : digits.length = 4 ∨ digits.length = 8)
    (denotes : HexDigit.number digits = char.toNat)

namespace Glyph

/-- The character that is meant. -/
def char : Glyph → Char
  | .bare char _ _ _ => char
  | .escaped escape => escape.char
  | .coded char _ _ _ => char

/-- What is written. -/
def chars : Glyph → List Char
  | .bare char _ _ _ => [char]
  | .escaped escape => ['\\', escape.mark]
  | .coded _ digits _ _ =>
    '\\' :: (if digits.length = 4 then 'u' else 'U') :: digits.map HexDigit.char

theorem number_write_toNat (char : Char) :
    HexDigit.number (HexDigit.write 8 char.toNat) = char.toNat := by
  have top := Utf8.toNat_lt char
  exact HexDigit.number_write (Nat.lt_trans top (by decide))

/-- A character as it is where it may stand so, and else with the digits of its code point. -/
def write (char : Char) : Glyph :=
  if bare : isPlain char = true ∧ char ≠ '"' ∧ char ≠ '\\' then
    .bare char bare.1 bare.2.1 bare.2.2
  else
    .coded char (HexDigit.write 8 char.toNat) (.inr (HexDigit.length_write 8 _))
      (number_write_toNat char)

theorem char_write (char : Char) : (write char).char = char := by
  unfold write
  split <;> rfl

end Glyph

/-- An integer in decimal. -/
def decimal : Int → List Char
  | .ofNat size => Nat.toDigits 10 size
  | .negSucc size => '-' :: Nat.toDigits 10 (size + 1)

/-- A value, with the way it is written. -/
inductive Value where
  | text (glyphs : List Glyph)
  | integer (word : BitVec 64)

namespace Value

/-- The value that is meant. -/
def node : Value → Node
  | .text glyphs => .text (String.ofList (glyphs.map Glyph.char))
  | .integer word => .integer word.toInt

/-- What is written. -/
def chars : Value → List Char
  | .text glyphs => '"' :: (glyphs.flatMap Glyph.chars ++ ['"'])
  | .integer word => decimal word.toInt

/-- A text, written with as few escapes as possible. -/
def ofText (text : String) : Value :=
  .text (text.toList.map Glyph.write)

theorem node_ofText (text : String) : (ofText text).node = .text text := by
  have same : (text.toList.map Glyph.write).map Glyph.char = text.toList := by
    rw [List.map_map]
    exact List.map_id'' Glyph.char_write _
  rw [ofText, node, same, String.ofList_toList]

end Value

/-! ### Texts -/

theorem digit?_char (digit : HexDigit) :
    digit.char.toNat < 0x80 ∧
      Hex.digit? (UInt8.ofNat digit.char.toNat) = some digit.value.val := by
  obtain ⟨value, upper⟩ := digit
  revert value upper
  decide

theorem accumulate_chars (digits : List HexDigit) (total position : Nat) :
    Hex.accumulate total position (Utf8.encode (digits.map HexDigit.char)) =
      .ok (digits.foldl (fun total digit => 16 * total + digit.value) total) := by
  have low : ∀ char ∈ digits.map HexDigit.char, char.toNat < 0x80 := by
    intro char member
    obtain ⟨digit, _, rfl⟩ := List.mem_map.mp member
    exact (digit?_char digit).1
  rw [Utf8.encode_of_low low]
  induction digits generalizing total position with
  | nil => rfl
  | cons digit digits inductionHypothesis =>
    simp only [List.map_cons, Hex.accumulate, (digit?_char digit).2, List.foldl_cons]
    exact inductionHypothesis _ _ fun char member => low char (List.mem_cons_of_mem _ member)

theorem ofDigits?_chars {digits : List HexDigit} {char : Char}
    (denotes : HexDigit.number digits = char.toNat) :
    ofDigits? (digits.map HexDigit.char) = some char := by
  have valid : char.toNat.isValidChar := char.valid
  rw [ofDigits?, accumulate_chars, ← HexDigit.number, denotes]
  simp only [valid, if_true, Char.ofNat_toNat]

/-- A written character is read off the front of a text in double quotes. -/
theorem doubleQuoted?_glyph (glyph : Glyph) (rest : List Char) :
    doubleQuoted? (glyph.chars ++ rest) = prepend glyph.char (doubleQuoted? rest) := by
  cases glyph with
  | bare char plain notQuote notBackslash =>
    show doubleQuoted? (char :: rest) = prepend char (doubleQuoted? rest)
    rw [doubleQuoted?, if_pos plain]
    · exact notQuote
    all_goals
      intros
      exact notBackslash ‹_›
  | escaped escape => cases escape <;> rfl
  | coded char digits count denotes =>
    rcases count with four | eight
    · match digits, four with
      | [a, b, c, d], _ =>
        have read : ofDigits? [a.char, b.char, c.char, d.char] = some char :=
          ofDigits?_chars denotes
        show doubleQuoted? ('\\' :: 'u' :: a.char :: b.char :: c.char :: d.char :: rest) = _
        rw [doubleQuoted?, read]
        rfl
    · match digits, eight with
      | [a, b, c, d, e, f, g, h], _ =>
        have read : ofDigits? [a.char, b.char, c.char, d.char, e.char, f.char, g.char, h.char] =
            some char := ofDigits?_chars denotes
        show doubleQuoted? ('\\' :: 'U' :: a.char :: b.char :: c.char :: d.char :: e.char ::
          f.char :: g.char :: h.char :: rest) = _
        rw [doubleQuoted?, read]
        rfl

theorem doubleQuoted?_glyphs (glyphs : List Glyph) (rest : List Char) :
    doubleQuoted? (glyphs.flatMap Glyph.chars ++ '"' :: rest) =
      some (glyphs.map Glyph.char, rest) := by
  induction glyphs with
  | nil => rfl
  | cons glyph glyphs inductionHypothesis =>
    rw [List.flatMap_cons, List.append_assoc, doubleQuoted?_glyph, inductionHypothesis]
    rfl

/-! ### Behind a value -/

theorem eq_of_isGap {char : Char} (gap : isGap char = true) : char = ' ' ∨ char = '\t' := by
  simpa only [isGap, Bool.or_eq_true, decide_eq_true_eq] using gap

/-- The first character of two texts is one of the first text, unless that is empty. -/
theorem mem_of_mem_head?_append {first rest : List Char} {char : Char}
    (head : char ∈ (first ++ rest).head?) : char ∈ first ∨ first = [] ∧ char ∈ rest.head? := by
  cases first with
  | nil => exact .inr ⟨rfl, head⟩
  | cons other first =>
    obtain rfl := Option.some.inj head
    exact .inl List.mem_cons_self

/-- Whether a value may end here: in front of a gap, a comment or a line end, or at the very end. -/
def Closed (text : List Char) : Prop :=
  ∀ char ∈ text.head?, isGap char = true ∨ char = '#' ∨ char = '\n' ∨ char = '\r'

theorem Closed.head_ne {text : List Char} (closed : Closed text) {char : Char}
    (other : isGap char = false ∧ char ≠ '#' ∧ char ≠ '\n' ∧ char ≠ '\r') :
    text.head? ≠ some char := by
  intro first
  rcases closed char first with gap | rfl | rfl | rfl
  · rw [other.1] at gap
    exact absurd gap (by decide)
  · exact other.2.1 rfl
  · exact other.2.2.1 rfl
  · exact other.2.2.2 rfl

theorem Glyph.chars_append_ne (glyph : Glyph) (more rest : List Char) :
    glyph.chars ++ more ≠ '"' :: rest := by
  intro same
  cases glyph with
  | bare _ _ notQuote _ => exact notQuote (List.head_eq_of_cons_eq same)
  | escaped => exact absurd (List.head_eq_of_cons_eq same) (by decide)
  | coded => exact absurd (List.head_eq_of_cons_eq same) (by decide)

/-- A text in double quotes does not pass for one of many lines: nothing that may stand behind it is
a quote. -/
theorem text?_glyphs (glyphs : List Glyph) {rest : List Char} (closed : Closed rest) :
    text? ('"' :: (glyphs.flatMap Glyph.chars ++ '"' :: rest)) =
      some (glyphs.map Glyph.char, rest) := by
  rw [text?, doubleQuoted?_glyphs]
  intro block same
  cases glyphs with
  | nil => exact closed.head_ne (by decide) (congrArg List.head? (List.tail_eq_of_cons_eq same))
  | cons glyph glyphs =>
    rw [List.flatMap_cons, List.append_assoc] at same
    exact glyph.chars_append_ne _ _ same

/-! ### Digits -/

theorem isDigit_of_mem_toDigits {size : Nat} {char : Char} (member : char ∈ Nat.toDigits 10 size) :
    char.isDigit = true :=
  Nat.isDigit_of_mem_toDigits (by decide) (by decide) member

theorem value_toDigits (size : Nat) : Digits.value (Nat.toDigits 10 size) = size := by
  rw [Digits.value, Digits.valueByHalves_eq]
  exact Nat.ofDigitChars_ten_toDigits

/-- No decimal starts with a zero, except for that of zero itself. -/
theorem head?_toDigits_ne_zero {size : Nat} (positive : 0 < size) :
    (Nat.toDigits 10 size).head? ≠ some '0' := by
  induction size using Nat.strongRecOn with
  | ind size inductionHypothesis =>
    by_cases small : size < 10
    · rw [Nat.toDigits_of_lt_base small, List.head?_cons]
      intro zero
      exact Nat.ne_of_gt positive (Nat.digitChar_eq_zero.mp (Option.some.inj zero))
    · have large : 10 ≤ size := Nat.le_of_not_lt small
      rw [Nat.toDigits_of_base_le (by decide) large, List.head?_append]
      have before := inductionHypothesis (size / 10) (Nat.div_lt_self positive (by decide))
        (Nat.div_pos large (by decide))
      cases front : Nat.toDigits 10 (size / 10) with
      | nil => exact absurd front Nat.toDigits_ne_nil
      | cons digit digits =>
        rw [front] at before
        exact before

theorem exists_toDigits_eq_cons (size : Nat) :
    ∃ digit digits, Nat.toDigits 10 size = digit :: digits ∧ digit.isDigit = true ∧
      (∀ char ∈ digits, char.isDigit = true) ∧ (digit = '0' → size = 0) := by
  cases written : Nat.toDigits 10 size with
  | nil => exact absurd written Nat.toDigits_ne_nil
  | cons digit digits =>
    have isDigits : ∀ char ∈ digit :: digits, char.isDigit = true := fun char member =>
      isDigit_of_mem_toDigits (written ▸ member)
    refine ⟨digit, digits, rfl, isDigits digit List.mem_cons_self,
      fun char member => isDigits char (List.mem_cons_of_mem _ member), ?_⟩
    rintro rfl
    by_contra positive
    exact head?_toDigits_ne_zero (Nat.pos_of_ne_zero positive) (congrArg List.head? written)

section Digits

variable {digits rest : List Char}

theorem Closed.head_not_digit (closed : Closed rest) :
    ∀ char ∈ rest.head?, char.isDigit = false := by
  intro char first
  cases isDigit : char.isDigit with
  | false => rfl
  | true =>
    rcases closed char first with gap | rfl | rfl | rfl
    · rcases eq_of_isGap gap with rfl | rfl <;> exact absurd isDigit (by decide)
    all_goals exact absurd isDigit (by decide)

theorem cons_ne_of_isDigit {digit other : Char} (isDigit : digit.isDigit = true)
    (noDigit : other.isDigit = false) {text more : List Char} : digit :: text ≠ other :: more := by
  intro same
  rw [List.head_eq_of_cons_eq same, noDigit] at isDigit
  exact absurd isDigit (by decide)

theorem moreDigits_cons {digit : Char} (isDigit : digit.isDigit = true) (text : List Char) :
    moreDigits Char.isDigit (digit :: text) =
      (digit :: (moreDigits Char.isDigit text).1, (moreDigits Char.isDigit text).2) := by
  rw [moreDigits, if_pos isDigit]
  rintro _ _ rfl _
  exact absurd isDigit (by decide)

theorem moreDigits_closed (closed : Closed rest) :
    moreDigits Char.isDigit rest = ([], rest) := by
  cases rest with
  | nil => rfl
  | cons first rest =>
    have noDigit : first.isDigit = false := closed.head_not_digit first rfl
    rw [moreDigits, if_neg (by rw [noDigit]; decide)]
    intro _ _ separator _
    exact closed.head_ne (by decide) (congrArg some separator)

theorem moreDigits_append (isDigits : ∀ char ∈ digits, char.isDigit = true) (closed : Closed rest) :
    moreDigits Char.isDigit (digits ++ rest) = (digits, rest) := by
  induction digits with
  | nil => exact moreDigits_closed closed
  | cons digit digits inductionHypothesis =>
    rw [List.cons_append, moreDigits_cons (isDigits digit List.mem_cons_self),
      inductionHypothesis fun char member => isDigits char (List.mem_cons_of_mem _ member)]

theorem whole?_toDigits (size : Nat) (closed : Closed rest) :
    whole? (Nat.toDigits 10 size ++ rest) = some (Nat.toDigits 10 size, rest) := by
  obtain ⟨digit, digits, written, isDigit, isDigits, zero⟩ := exists_toDigits_eq_cons size
  by_cases isZero : digit = '0'
  · rw [zero isZero]
    rfl
  · rw [written, List.cons_append, whole?, digits?, if_pos isDigit,
      moreDigits_append isDigits closed]
    intro more same
    exact isZero (List.head_eq_of_cons_eq same)

/-! ### No dates and no times -/

theorem fixed?_minus (count least most : Nat) (text : List Char) :
    fixed? (count + 1) least most ('-' :: text) = none := by
  refine if_neg fun good => ?_
  have isDigit := List.all_eq_true.mp good.2.1 '-' List.mem_cons_self
  exact absurd isDigit (by decide)

/-- A number of a fixed length at the front of a row of digits is not followed by a separator,
wherever in the row it ends. -/
theorem expect?_of_fixed? (isDigits : ∀ char ∈ digits, char.isDigit = true) (closed : Closed rest)
    {count least most value : Nat} {after : List Char}
    (read : fixed? count least most (digits ++ rest) = some (value, after)) (separator : Char)
    (noDigit : separator.isDigit = false) (other : rest.head? ≠ some separator) :
    expect? separator after = none := by
  simp only [fixed?] at read
  split at read
  · rename_i good
    obtain ⟨_, rfl⟩ := Prod.mk.inj (Option.some.inj read)
    have stopped : rest.dropWhile Char.isDigit = rest := by
      cases rest with
      | nil => rfl
      | cons first rest =>
        exact List.dropWhile_cons_of_neg (by rw [closed.head_not_digit first rfl]; decide)
    have passed : (digits ++ rest).dropWhile Char.isDigit = rest.dropWhile Char.isDigit :=
      List.dropWhile_append_of_pos isDigits
    rw [← List.take_append_drop count (digits ++ rest),
      List.dropWhile_append_of_pos (List.all_eq_true.mp good.2.1), stopped] at passed
    cases onward : (digits ++ rest).drop count with
    | nil => rfl
    | cons first more =>
      refine if_neg ?_
      rintro rfl
      rw [onward, List.dropWhile_cons_of_neg (by rw [noDigit]; decide)] at passed
      exact other (congrArg List.head? passed.symm)
  · exact absurd read (by simp)

theorem afterMoment?_digits (isDigits : ∀ char ∈ digits, char.isDigit = true)
    (closed : Closed rest) : afterMoment? (digits ++ rest) = none := by
  have noDate : afterDate? (digits ++ rest) = none := by
    unfold afterDate?
    cases read : fixed? 4 0 9999 (digits ++ rest) with
    | none => rfl
    | some found =>
      have stops := expect?_of_fixed? isDigits closed read '-' (by decide)
        (closed.head_ne (by decide))
      simp only [Option.bind_eq_bind, Option.bind_some, stops, Option.bind_none]
  have noTime : afterTime? (digits ++ rest) = none := by
    unfold afterTime?
    cases read : fixed? 2 0 23 (digits ++ rest) with
    | none => rfl
    | some found =>
      have stops := expect?_of_fixed? isDigits closed read ':' (by decide)
        (closed.head_ne (by decide))
      simp only [Option.bind_eq_bind, Option.bind_some, stops, Option.bind_none]
  rw [afterMoment?, noDate]
  exact noTime

theorem afterMoment?_minus (text : List Char) : afterMoment? ('-' :: text) = none := by
  rw [afterMoment?, afterDate?, afterTime?, fixed?_minus, fixed?_minus]
  rfl

end Digits

/-! ### Integers -/

section Integers

variable {rest : List Char}

theorem afterMoment?_decimal (value : Int) (closed : Closed rest) :
    afterMoment? (decimal value ++ rest) = none := by
  cases value with
  | ofNat size => exact afterMoment?_digits (fun _ => isDigit_of_mem_toDigits) closed
  | negSucc size => exact afterMoment?_minus _

theorem unsigned_decimal (value : Int) (rest : List Char) :
    Literal.unsigned (decimal value ++ rest) =
      (decide (value < 0), Nat.toDigits 10 value.natAbs ++ rest) := by
  cases value with
  | ofNat size =>
    obtain ⟨digit, digits, written, isDigit, _, _⟩ := exists_toDigits_eq_cons size
    have nonnegative : decide ((Int.ofNat size) < 0) = false :=
      decide_eq_false (Int.not_lt.mpr (Int.natCast_nonneg size))
    rw [nonnegative, decimal, Int.natAbs_ofNat', written, List.cons_append, Literal.unsigned]
    · exact fun _ => cons_ne_of_isDigit isDigit (by decide)
    · exact fun _ => cons_ne_of_isDigit isDigit (by decide)
  | negSucc size =>
    have negative : decide (Int.negSucc size < 0) = true :=
      decide_eq_true (Int.negSucc_lt_zero size)
    rw [negative]
    rfl

theorem literal?_decimal (value : Int) (closed : Closed rest) :
    literal? (decimal value ++ rest) = none := by
  have noPower : power? rest = none := by
    cases rest with
    | nil => rfl
    | cons first rest =>
      refine if_neg ?_
      rintro (rfl | rfl) <;> exact closed.head_ne (by decide) rfl
  have noDecimals : decimals? rest = none := by
    cases rest with
    | nil => rfl
    | cons first rest =>
      unfold decimals?
      split
      · rename_i same
        rw [same] at closed
        exact absurd rfl (closed.head_ne (by decide))
      · rfl
  rw [literal?, unsigned_decimal]
  simp only [whole?_toDigits _ closed, Option.bind_eq_bind, Option.bind_some, noPower, noDecimals,
    Option.bind_none]

theorem decimal?_decimal (value : Int) (closed : Closed rest) :
    decimal? (decimal value ++ rest) = none := by
  obtain ⟨digit, digits, written, isDigit, _, _⟩ := exists_toDigits_eq_cons value.natAbs
  rw [decimal?, literal?_decimal value closed, unsigned_decimal, written]
  simp only [List.cons_append]
  split
  · rename_i same
    exact absurd (Prod.mk.inj same).2 (cons_ne_of_isDigit isDigit (by decide))
  · rename_i same
    exact absurd (Prod.mk.inj same).2 (cons_ne_of_isDigit isDigit (by decide))
  · rfl

/-- No integer in decimal passes for one with a mark for another base. -/
theorem decimal_append_ne (value : Int) (closed : Closed rest) {mark : Char}
    (other : isGap mark = false ∧ mark ≠ '#' ∧ mark ≠ '\n' ∧ mark ≠ '\r') (more : List Char) :
    decimal value ++ rest ≠ '0' :: mark :: more := by
  intro same
  cases value with
  | ofNat size =>
    obtain ⟨digit, digits, written, _, _, zero⟩ := exists_toDigits_eq_cons size
    rw [decimal, written, List.cons_append] at same
    obtain rfl : size = 0 := zero (List.head_eq_of_cons_eq same)
    obtain ⟨rfl, rfl⟩ := List.cons.inj written
    exact closed.head_ne other (congrArg List.head? (List.tail_eq_of_cons_eq same))
  | negSucc size => exact absurd (List.head_eq_of_cons_eq same) (by decide)

theorem integer?_decimal {value : Int} (bounded : bounded? value = some value)
    (closed : Closed rest) : integer? (decimal value ++ rest) = some (value, rest) := by
  have size :
      (if decide (value < 0) = true then -(value.natAbs : Int) else value.natAbs) = value := by
    by_cases negative : value < 0
    · rw [if_pos (decide_eq_true negative), Int.ofNat_natAbs_of_nonpos (Int.le_of_lt negative),
        Int.neg_neg]
    · rw [if_neg (by simpa using negative), Int.natAbs_of_nonneg (Int.not_lt.mp negative)]
  rw [integer?]
  · simp only [unsigned_decimal, whole?_toDigits _ closed, value_toDigits, size, bounded,
      Option.bind_eq_bind, Option.bind_some]
  · exact decimal_append_ne value closed (by decide)
  · exact decimal_append_ne value closed (by decide)
  · exact decimal_append_ne value closed (by decide)

theorem bounded?_toInt (word : BitVec 64) : bounded? word.toInt = some word.toInt :=
  if_pos ⟨BitVec.le_toInt word, BitVec.toInt_lt⟩

theorem number?_decimal (word : BitVec 64) (closed : Closed rest) :
    number? (decimal word.toInt ++ rest) = some (.integer word.toInt, rest) := by
  rw [number?, decimal?_decimal _ closed, integer?_decimal (bounded?_toInt word) closed]
  rfl

end Integers

/-! ### Values -/

/-- An integer starts with a minus sign or a digit. -/
theorem decimal_append_ne_cons (value : Int) {other : Char}
    (noStart : other ≠ '-' ∧ other.isDigit = false) (rest more : List Char) :
    decimal value ++ rest ≠ other :: more := by
  cases value with
  | ofNat size =>
    obtain ⟨digit, digits, written, isDigit, _, _⟩ := exists_toDigits_eq_cons size
    rw [decimal, written]
    exact cons_ne_of_isDigit isDigit noStart.2
  | negSucc size => exact fun same => noStart.1 (List.head_eq_of_cons_eq same).symm

theorem scalar?_chars (value : Value) {rest : List Char} (closed : Closed rest) :
    scalar? (value.chars ++ rest) = some (value.node, rest) := by
  cases value with
  | text glyphs =>
    show scalar? ('"' :: (glyphs.flatMap Glyph.chars ++ ['"'] ++ rest)) = _
    rw [List.append_assoc, List.singleton_append, scalar?, text?_glyphs glyphs closed]
    rfl
  | integer word =>
    rw [Value.chars, scalar?]
    · rw [afterMoment?_decimal _ closed]
      exact number?_decimal word closed
    all_goals exact fun _ => decimal_append_ne_cons _ (by decide) rest _

/-- A value starts with a quote, or else as an integer does. -/
theorem Value.append_ne (value : Value) {other : Char}
    (noStart : other ≠ '"' ∧ other ≠ '-' ∧ other.isDigit = false) (rest more : List Char) :
    value.chars ++ rest ≠ other :: more := by
  cases value with
  | text glyphs => exact fun same => noStart.1 (List.head_eq_of_cons_eq same).symm
  | integer word => exact decimal_append_ne_cons _ noStart.2 rest more

/-- A value that is no list and no table is read the same at every depth. -/
theorem value?_chars (value : Value) {rest : List Char} (closed : Closed rest) (depth : Nat) :
    value? depth (value.chars ++ rest) = some (value.node, rest) := by
  cases depth with
  | zero => exact scalar?_chars value closed
  | succ depth =>
    rw [value?, scalar?_chars value closed]
    · exact value.append_ne (by decide) rest
    · exact value.append_ne (by decide) rest

end Trickle.Toml
