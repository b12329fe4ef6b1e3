/-
This file proves that JSON is read as it was written. A text between quotes is read as the
text, whatever characters it has; digits as the number they were written for; a list as
its item; an object as its members in their order, each with the text it was written as.

A value remembers what is behind it, since members keep where they stand. What is written
is therefore described together with the value it is read as, for any text behind it.
Reading takes a round for each value at most, and no value is written with fewer
characters than it takes rounds.
-/

import Trickle.Json.Read
import Trickle.Json.Write
import Trickle.Proofs.HexText
import Trickle.Proofs.WrittenNumbers
import Trickle.Proofs.WrittenValues

namespace Trickle.Json

/-! ### Texts between quotes -/

theorem unit?_write {code : Nat} (small : code < 16 ^ 4) :
    unit? (Hex.write 4 code) = some code := by
  rw [unit?, Hex.write_eq, Toml.accumulate_chars, ← Toml.HexDigit.number,
    Toml.HexDigit.number_write small]
  rfl

/-- How a character can be written: behind a backslash, with the digits of its code, or as it
is. -/
theorem escaped_cases (char : Char) :
    (∃ letter, (escaped char).toList = ['\\', letter] ∧ escape? letter = some char.toNat) ∨
    ((escaped char).toList = '\\' :: 'u' :: Hex.write 4 char.toNat ∧ char.toNat < 0x20) ∨
    ((escaped char).toList = [char] ∧ char ≠ '"' ∧ char ≠ '\\' ∧ 0x20 ≤ char.toNat) := by
  unfold escaped
  split
  · next same => subst same; exact .inl ⟨'"', rfl, rfl⟩
  split
  · next same => subst same; exact .inl ⟨'\\', rfl, rfl⟩
  split
  · next same => subst same; exact .inl ⟨'b', rfl, rfl⟩
  split
  · next same => subst same; exact .inl ⟨'f', rfl, rfl⟩
  split
  · next same => subst same; exact .inl ⟨'n', rfl, rfl⟩
  split
  · next same => subst same; exact .inl ⟨'r', rfl, rfl⟩
  split
  · next same => subst same; exact .inl ⟨'t', rfl, rfl⟩
  split
  · next low =>
    refine .inr (.inl ⟨?_, low⟩)
    rw [String.toList_append]
    exact congrArg (['\\', 'u'] ++ ·) String.toList_ofList
  · next notQuote notBackslash _ _ _ _ _ high =>
    exact .inr (.inr ⟨String.toList_singleton char, notQuote, notBackslash, Nat.not_lt.mp high⟩)

theorem codes?_escaped (char : Char) (rest : List Char) :
    codes? ((escaped char).toList ++ rest) =
      (codes? rest).map fun read => (char.toNat :: read.1, read.2) := by
  rcases escaped_cases char with ⟨letter, written, isCode⟩ | ⟨written, low⟩ |
    ⟨written, notQuote, notBackslash, high⟩
  · rw [written]
    have notCoded : letter ≠ 'u' := by
      rintro rfl
      exact nomatch isCode
    show codes? ('\\' :: letter :: rest) = _
    rw [codes?, isCode]
    · cases codes? rest <;> rfl
    · exact fun _ _ _ _ _ coded => absurd coded notCoded
  · have small : char.toNat < 16 ^ 4 := Nat.lt_trans low (by decide)
    have code := unit?_write small
    rw [written]
    match digits : Hex.write 4 char.toNat, Hex.length_write 4 char.toNat with
    | [a, b, c, d], _ =>
      rw [digits] at code
      show codes? ('\\' :: 'u' :: a :: b :: c :: d :: rest) = _
      rw [codes?, code]
      cases codes? rest <;> rfl
  · rw [written]
    show codes? (char :: rest) = _
    rw [codes?, if_neg (not_or.mpr ⟨Nat.not_lt.mpr high, notBackslash⟩)]
    · cases codes? rest <;> rfl
    all_goals grind

theorem codes?_text (text rest : List Char) :
    codes? (text.flatMap (fun char => (escaped char).toList) ++ '"' :: rest) =
      some (text.map Char.toNat, rest) := by
  induction text with
  | nil => rw [List.flatMap_nil, List.nil_append, codes?]; rfl
  | cons char text inductionHypothesis =>
    rw [List.flatMap_cons, List.append_assoc, codes?_escaped, inductionHypothesis]
    rfl

/-- No character is half of one. -/
theorem not_half (char : Char) : isHigh char.toNat = false ∧ isLow char.toNat = false := by
  have valid : char.toNat < 0xD800 ∨ 0xDFFF < char.toNat ∧ char.toNat < 0x110000 := char.valid
  simp only [isHigh, isLow, Bool.and_eq_false_iff, decide_eq_false_iff_not]
  omega

theorem joinHalves?_text (text : List Char) : joinHalves? (text.map Char.toNat) = some text := by
  induction text with
  | nil => rfl
  | cons char text inductionHypothesis =>
    obtain ⟨notHigh, notLow⟩ := not_half char
    cases text with
    | nil => simp [joinHalves?, notHigh, notLow]
    | cons next text =>
      rw [List.map_cons, List.map_cons, joinHalves?, if_neg (by simp [notHigh]),
        if_neg (by simp [notHigh, notLow]), ← List.map_cons, inductionHypothesis,
        Char.ofNat_toNat]
      rfl

theorem toList_quoted (text : String) :
    (quoted text).toList =
      '"' :: (text.toList.flatMap (fun char => (escaped char).toList) ++ ['"']) := by
  rw [quoted, String.toList_append, String.toList_append, String.toList_join, List.flatMap_map]
  rfl

theorem content?_text (text : String) (rest : List Char) :
    content? (text.toList.flatMap (fun char => (escaped char).toList) ++ '"' :: rest) =
      some (some text, rest) := by
  rw [content?, codes?_text, Option.map_some]
  dsimp only
  rw [joinHalves?_text, Option.map_some, String.ofList_toList]

/-! ### Numbers -/

/-- Whether a text may stand behind a value: nothing, or what ends or separates values. -/
def Follows (behind : List Char) : Prop :=
  ∀ char ∈ behind.head?, char = ',' ∨ char = ']' ∨ char = '\x7d'

theorem Follows.head_ne {behind : List Char} (follows : Follows behind) {char : Char}
    (other : char ≠ ',' ∧ char ≠ ']' ∧ char ≠ '\x7d') (rest : List Char) :
    behind ≠ char :: rest := by
  rintro rfl
  rcases follows char rfl with same | same | same
  · exact other.1 same
  · exact other.2.1 same
  · exact other.2.2 same

theorem Follows.head_not_digit {behind : List Char} (follows : Follows behind) :
    ∀ char ∈ behind.head?, char.isDigit = false := by
  intro char first
  rcases follows char first with rfl | rfl | rfl <;> rfl

theorem exponent?_of_follows {behind : List Char} (follows : Follows behind) :
    exponent? behind = some ([], behind) := by
  cases behind with
  | nil => rfl
  | cons char rest =>
    refine if_neg ?_
    rintro (rfl | rfl)
    · exact follows.head_ne (by decide) rest rfl
    · exact follows.head_ne (by decide) rest rfl

theorem fraction?_of_follows {behind : List Char} (follows : Follows behind) :
    fraction? behind = some ([], behind) := by
  rw [fraction?]
  exact fun rest => follows.head_ne (by decide) rest

theorem whole?_toDigits (number : Nat) {behind : List Char} (follows : Follows behind) :
    whole? (Nat.toDigits 10 number ++ behind) = some (Nat.toDigits 10 number, behind) := by
  obtain ⟨digit, digits, written, isDigit, areDigits, zero⟩ := Toml.exists_toDigits_eq_cons number
  by_cases isZero : digit = '0'
  · rw [zero isZero]
    rfl
  · have split : Digits.split (digit :: digits ++ behind) = (digit :: digits, behind) :=
      Literal.split_append (List.forall_mem_cons.mpr ⟨isDigit, areDigits⟩) follows.head_not_digit
    rw [written, List.cons_append, whole?, ← List.cons_append, digits?, split]
    exact fun _ same => absurd (List.head_eq_of_cons_eq same) isZero

theorem number?_toDigits (number : Nat) {behind : List Char} (follows : Follows behind) :
    number? (Nat.toDigits 10 number ++ behind) = some (Nat.toDigits 10 number, behind) := by
  obtain ⟨digit, digits, written, isDigit, _⟩ := Toml.exists_toDigits_eq_cons number
  have unsigned : ∀ rest, Nat.toDigits 10 number ++ behind ≠ '-' :: rest := by
    rw [written]
    exact fun rest => Toml.cons_ne_of_isDigit isDigit rfl
  have whole := whole?_toDigits number follows
  have fraction := fraction?_of_follows follows
  have exponent := exponent?_of_follows follows
  rw [number?, whole]
  · simp only [Option.bind_eq_bind, Option.bind_some, fraction, exponent, List.append_nil,
      List.nil_append]
  · exact unsigned

/-! ### Values -/

theorem skipBlanks_cons {char : Char} (filled : isBlank char = false) (rest : List Char) :
    skipBlanks (char :: rest) = char :: rest :=
  List.dropWhile_cons_of_neg (Bool.eq_false_iff.mp filled)

theorem value?_quote (rounds : Nat) (rest : List Char) :
    value? (rounds + 1) ('"' :: rest) =
      (content? rest).map fun read => (.text read.1, read.2) := by
  rw [value?, skipBlanks_cons rfl]
  rfl

theorem value?_bracket (rounds : Nat) {rest : List Char}
    (filled : ∀ behind, skipBlanks rest ≠ ']' :: behind) :
    value? (rounds + 1) ('[' :: rest) =
      (items? rounds (skipBlanks rest)).map fun read => (.list read.1, read.2) := by
  rw [value?, skipBlanks_cons rfl]
  conv_lhs => whnf
  split
  · next behind same => exact absurd same (filled behind)
  · rfl

theorem value?_brace (rounds : Nat) {rest : List Char}
    (filled : ∀ behind, skipBlanks rest ≠ '\x7d' :: behind) :
    value? (rounds + 1) ('\x7b' :: rest) =
      (members? rounds (skipBlanks rest)).map fun read => (.object read.1, read.2) := by
  rw [value?, skipBlanks_cons rfl]
  conv_lhs => whnf
  split
  · next behind same => exact absurd same (filled behind)
  · rfl

theorem isBlank_of_isDigit {digit : Char} (isDigit : digit.isDigit = true) :
    isBlank digit = false := by
  simp only [isBlank, Bool.or_eq_false_iff, decide_eq_false_iff_not]
  refine ⟨⟨⟨?_, ?_⟩, ?_⟩, ?_⟩ <;> rintro rfl <;> exact absurd isDigit (by decide)

theorem value?_digit (rounds : Nat) {digit : Char} (isDigit : digit.isDigit = true)
    (rest : List Char) :
    value? (rounds + 1) (digit :: rest) =
      (number? (digit :: rest)).map fun read => (.number read.1, read.2) := by
  rw [value?, skipBlanks_cons (isBlank_of_isDigit isDigit)]
  split <;> first | rfl | skip
  all_goals
    next same =>
      exact absurd same (Toml.cons_ne_of_isDigit isDigit rfl)

/-- A value as it is written, with what it is read as in front of any text that may follow it. -/
structure Written where
  text : String
  value : (behind : List Char) → Value
  first : Char
  rest : List Char
  toList_text : text.toList = first :: rest
  filled : isBlank first = false
  opens : first ≠ ']'
  reads : ∀ rounds behind, text.toList.length ≤ rounds → Follows behind →
    value? rounds (text.toList ++ behind) = some (value behind, behind)

namespace Written

theorem skipBlanks_append (written : Written) (behind : List Char) :
    skipBlanks (written.text.toList ++ behind) = written.text.toList ++ behind := by
  rw [written.toList_text]
  exact skipBlanks_cons written.filled _

/-- What is written is read as its value. -/
theorem read?_text (written : Written) : read? written.text = some (written.value []) := by
  have reads := written.reads (written.text.toList.length + 1) [] (Nat.le_succ _) nofun
  rw [List.append_nil] at reads
  rw [read?, reads]
  rfl

/-- A text between quotes. -/
def quoted (content : String) : Written where
  text := Json.quoted content
  value _ := .text (some content)
  first := '"'
  rest := content.toList.flatMap (fun char => (escaped char).toList) ++ ['"']
  toList_text := toList_quoted content
  filled := rfl
  opens := by decide
  reads rounds behind enough _ := by
    rw [toList_quoted] at enough ⊢
    obtain ⟨rounds, rfl⟩ := Nat.exists_eq_add_one.mpr (Nat.lt_of_lt_of_le (Nat.succ_pos _) enough)
    rw [List.cons_append, value?_quote, List.append_assoc, List.singleton_append, content?_text]
    rfl

theorem toList_toString (number : Nat) : (toString number).toList = Nat.toDigits 10 number := by
  rw [Nat.toString_eq_repr, Nat.toList_repr]

theorem isDigit_head (number : Nat) :
    ((Nat.toDigits 10 number).head Nat.toDigits_ne_nil).isDigit = true :=
  Toml.isDigit_of_mem_toDigits (List.head_mem _)

/-- A whole number. -/
def natural (number : Nat) : Written where
  text := toString number
  value _ := .number (Nat.toDigits 10 number)
  first := (Nat.toDigits 10 number).head Nat.toDigits_ne_nil
  rest := (Nat.toDigits 10 number).tail
  toList_text := by rw [toList_toString, List.cons_head_tail]
  filled := isBlank_of_isDigit (isDigit_head number)
  opens closes := absurd (isDigit_head number) (by rw [closes]; decide)
  reads rounds behind enough follows := by
    have read := number?_toDigits number follows
    obtain ⟨digit, digits, written, isDigit, _⟩ := Toml.exists_toDigits_eq_cons number
    rw [toList_toString, written] at enough ⊢
    obtain ⟨rounds, rfl⟩ := Nat.exists_eq_add_one.mpr (Nat.lt_of_lt_of_le (Nat.succ_pos _) enough)
    rw [written, List.cons_append] at read
    rw [List.cons_append, value?_digit rounds isDigit, read]
    rfl

theorem toList_listOf (item : Written) (behind : List Char) :
    (Json.listOf [item.text]).toList ++ behind =
      '[' :: (item.text.toList ++ ']' :: behind) := by
  have text : Json.listOf [item.text] = "[" ++ item.text ++ "]" := rfl
  rw [text, String.toList_append, String.toList_append, List.append_assoc, List.append_assoc]
  rfl

theorem items?_single (item : Written) {rounds : Nat} (enough : item.text.toList.length < rounds)
    (behind : List Char) :
    items? rounds (item.text.toList ++ ']' :: behind) =
      some ([item.value (']' :: behind)], behind) := by
  obtain ⟨rounds, rfl⟩ := Nat.exists_eq_add_one.mpr (Nat.zero_lt_of_lt enough)
  have follows : Follows (']' :: behind) := fun char first =>
    .inr (.inl (Option.some.inj first).symm)
  rw [items?, item.reads rounds _ (Nat.le_of_lt_succ enough) follows]
  rfl

/-- A list of one item. -/
def listOf (item : Written) : Written where
  text := Json.listOf [item.text]
  value behind := .list [item.value (']' :: behind)]
  first := '['
  rest := item.text.toList ++ [']']
  toList_text := by
    have written := toList_listOf item []
    rwa [List.append_nil] at written
  filled := rfl
  opens := by decide
  reads rounds behind enough _ := by
    have written := toList_listOf item []
    rw [List.append_nil] at written
    rw [written, List.length_cons, List.length_append, List.length_singleton] at enough
    obtain ⟨rounds, rfl⟩ := Nat.exists_eq_add_one.mpr (Nat.lt_of_lt_of_le (Nat.succ_pos _) enough)
    have filled : ∀ after, skipBlanks (item.text.toList ++ ']' :: behind) ≠ ']' :: after := by
      intro after same
      rw [item.skipBlanks_append, item.toList_text] at same
      exact item.opens (List.head_eq_of_cons_eq same)
    rw [toList_listOf, value?_bracket rounds filled, item.skipBlanks_append,
      items?_single item (by omega)]
    rfl

/-! ### Objects -/

/-- What is written behind the value of a member: the other members, and the end of the object. -/
def others : List (String × Written) → (behind : List Char) → List Char
  | [], behind => '\x7d' :: behind
  | (name, part) :: rest, behind =>
    ',' :: ((Json.quoted name).toList ++ ':' :: (part.text.toList ++ others rest behind))

/-- What members are read as. -/
def members : List (String × Written) → (behind : List Char) → List (Member Value)
  | [], _ => []
  | (name, part) :: rest, behind =>
    let after := others rest behind
    ⟨some name, part.value after, part.text.toList ++ after, after⟩ :: members rest behind

theorem others_follows (rest : List (String × Written)) (behind : List Char) :
    Follows (others rest behind) := by
  intro char first
  cases rest with
  | nil => exact .inr (.inr (Option.some.inj first).symm)
  | cons => exact .inl (Option.some.inj first).symm

/-- A member as it is written. -/
def memberText (member : String × Written) : String :=
  Json.quoted member.1 ++ ":" ++ member.2.text

theorem toList_memberText (name : String) (part : Written) (behind : List Char) :
    (memberText (name, part)).toList ++ behind =
      (Json.quoted name).toList ++ ':' :: (part.text.toList ++ behind) := by
  rw [memberText, String.toList_append, String.toList_append, List.append_assoc,
    List.append_assoc]
  rfl

theorem toList_members (name : String) (part : Written) (rest : List (String × Written))
    (behind : List Char) :
    (",".intercalate (((name, part) :: rest).map memberText)).toList ++ '\x7d' :: behind =
      (Json.quoted name).toList ++ ':' :: (part.text.toList ++ others rest behind) := by
  induction rest generalizing name part with
  | nil => exact toList_memberText name part _
  | cons next rest inductionHypothesis =>
    have written := inductionHypothesis next.1 next.2
    rw [List.map_cons] at written
    rw [List.map_cons, List.map_cons, String.intercalate_cons_cons, String.toList_append,
      List.append_assoc, written, String.toList_append, List.append_assoc, toList_memberText]
    rfl

/-- A member is read off the front of those that are written. -/
theorem members?_cons (name : String) (part : Written) (rest : List (String × Written))
    {rounds : Nat} (enough : part.text.toList.length ≤ rounds) (behind : List Char) :
    members? (rounds + 1)
        ((Json.quoted name).toList ++ ':' :: (part.text.toList ++ others rest behind)) =
      let after := others rest behind
      let member : Member Value :=
        ⟨some name, part.value after, part.text.toList ++ after, after⟩
      match after with
      | ',' :: more => (members? rounds more).map fun read => (member :: read.1, read.2)
      | '\x7d' :: more => some ([member], more)
      | _ => none := by
  have reads := part.reads rounds (others rest behind) enough (others_follows rest behind)
  rw [members?, toList_quoted, List.cons_append, skipBlanks_cons rfl, List.append_assoc,
    List.singleton_append]
  simp only [expect?, if_pos, Option.bind_eq_bind, Option.bind_some, content?_text,
    skipBlanks_cons (show isBlank ':' = false from rfl), part.skipBlanks_append, reads]
  cases rest with
  | nil =>
    rw [others, skipBlanks_cons rfl]
    rfl
  | cons next rest =>
    rw [others, skipBlanks_cons rfl]
    show (members? rounds _).bind _ = (members? rounds _).map _
    cases members? rounds _ <;> rfl

theorem length_others (rest : List (String × Written)) (behind : List Char) :
    behind.length < (others rest behind).length := by
  induction rest with
  | nil => exact Nat.lt_succ_self _
  | cons next rest inductionHypothesis =>
    simp only [others, List.length_cons, List.length_append]
    omega

/-- Each member takes a round, and is longer than that. -/
theorem members?_written (name : String) (part : Written) (rest : List (String × Written))
    {rounds : Nat} (behind : List Char)
    (enough : ((Json.quoted name).toList ++
      ':' :: (part.text.toList ++ others rest behind)).length ≤ rounds + behind.length) :
    members? rounds ((Json.quoted name).toList ++ ':' :: (part.text.toList ++ others rest behind)) =
      some (members ((name, part) :: rest) behind, behind) := by
  induction rest generalizing name part rounds with
  | nil =>
    rw [List.length_append, List.length_cons, List.length_append, others, List.length_cons]
      at enough
    obtain ⟨rounds, rfl⟩ : ∃ fewer, rounds = fewer + 1 := Nat.exists_eq_add_one.mpr (by omega)
    rw [members?_cons name part [] (by omega)]
    rfl
  | cons next rest inductionHypothesis =>
    have longer := length_others (next :: rest) behind
    rw [others, List.length_cons] at longer
    rw [List.length_append, List.length_cons, List.length_append, others, List.length_cons]
      at enough
    obtain ⟨rounds, rfl⟩ : ∃ fewer, rounds = fewer + 1 := Nat.exists_eq_add_one.mpr (by omega)
    have later : members? rounds _ = _ := inductionHypothesis next.1 next.2 (by omega)
    rw [members?_cons name part _ (by omega)]
    show (members? rounds _).map _ = _
    rw [later]
    rfl

theorem toList_objectOf (member : String × Written) (rest : List (String × Written))
    (behind : List Char) :
    (Json.objectOf ((member :: rest).map fun (name, part) => (name, part.text))).toList ++ behind =
      '\x7b' :: ((Json.quoted member.1).toList ++
        ':' :: (member.2.text.toList ++ others rest behind)) := by
  have text : Json.objectOf ((member :: rest).map fun (name, part) => (name, part.text)) =
      "\x7b" ++ ",".intercalate ((member :: rest).map memberText) ++ "\x7d" := by
    rw [Json.objectOf, List.map_map]
    rfl
  rw [text, String.toList_append, String.toList_append, List.append_assoc, List.append_assoc]
  exact congrArg ('\x7b' :: ·) (toList_members member.1 member.2 rest behind)

/-- An object of at least one member. -/
def objectOf (member : String × Written) (rest : List (String × Written)) : Written where
  text := Json.objectOf ((member :: rest).map fun (name, part) => (name, part.text))
  value behind := .object (members (member :: rest) behind)
  first := '\x7b'
  rest := (Json.quoted member.1).toList ++ ':' :: (member.2.text.toList ++ others rest [])
  toList_text := by
    have written := toList_objectOf member rest []
    rwa [List.append_nil] at written
  filled := rfl
  opens := by decide
  reads rounds behind enough _ := by
    have long := Nat.add_le_add_right enough behind.length
    rw [← List.length_append, toList_objectOf, List.length_cons] at long
    obtain ⟨rounds, rfl⟩ : ∃ fewer, rounds = fewer + 1 := by
      have written := toList_objectOf member rest []
      rw [List.append_nil] at written
      rw [written] at enough
      exact Nat.exists_eq_add_one.mpr (Nat.lt_of_lt_of_le (Nat.succ_pos _) enough)
    have opens : (Json.quoted member.1).toList ++
        ':' :: (member.2.text.toList ++ others rest behind) =
        skipBlanks ((Json.quoted member.1).toList ++
          ':' :: (member.2.text.toList ++ others rest behind)) := by
      rw [toList_quoted, List.cons_append, skipBlanks_cons rfl]
    have filled : ∀ after, skipBlanks ((Json.quoted member.1).toList ++
        ':' :: (member.2.text.toList ++ others rest behind)) ≠ '\x7d' :: after := by
      intro after same
      rw [← opens, toList_quoted] at same
      exact absurd (List.head_eq_of_cons_eq same) (by decide)
    rw [toList_objectOf, value?_brace rounds filled, ← opens,
      members?_written member.1 member.2 rest behind (by omega)]
    rfl

/-- A member remembers the text that its value was written as. -/
theorem source_of_written (name : Option String) (part : Written) (value : Value)
    (behind : List Char) :
    Member.source ⟨name, value, part.text.toList ++ behind, behind⟩ = part.text := by
  rw [Member.source, List.length_append, Nat.add_sub_cancel, List.take_left, String.ofList_toList]

end Written

end Trickle.Json
