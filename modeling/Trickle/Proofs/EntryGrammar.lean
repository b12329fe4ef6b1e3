/-
This file proves which rows of the address file are entries. A row is split at its
semicolons: its first field, without the blanks around it, spells an address, its second
writes a balance, and it does not matter whether there are more. Every other row is
refused for one reason, and the first that applies: no second field, then an address that
is not spelled, then a balance that is not written.

What is read stays the same under blanks around the two fields, under anything behind the
second semicolon, and under another spelling of the address: a mark or none, digits in
either case.
-/

import Trickle.AddressFile.Entry
import Trickle.Proofs.Spelling
import Trickle.Proofs.Verdict
import Trickle.Proofs.WrittenNumbers

namespace Trickle.Entry

/-! ### Fields -/

/-- Whether a row starts with two fields, perhaps with more behind a second semicolon. -/
def HasFields (row : String) (first second : List Char) : Prop :=
  ∃ others, row.toList.splitOn ';' = first :: second :: others

theorem splitField_append {front : List Char} (without : ';' ∉ front) (rest : List Char) :
    splitField (front ++ ';' :: rest) = (front, some rest) := by
  have goesOn : ∀ char ∈ front, decide (char ≠ ';') = true := fun char member =>
    decide_eq_true fun same => without (same ▸ member)
  rw [splitField, List.dropWhile_append_of_pos goesOn, List.takeWhile_append_of_pos goesOn]
  exact congrArg (·, some rest) (List.append_nil front)

theorem splitField_of_not_mem {text : List Char} (without : ';' ∉ text) :
    splitField text = (text, none) := by
  have goesOn : ∀ char ∈ text, decide (char ≠ ';') = true := fun char member =>
    decide_eq_true fun same => without (same ▸ member)
  rw [splitField, List.dropWhile_eq_nil_iff.mpr goesOn]

theorem splitOn_eq (text : List Char) :
    text.splitOn ';' = (splitField text).1 :: (splitField text).2.elim [] (List.splitOn ';') := by
  by_cases present : ';' ∈ text
  · obtain ⟨front, rest, rfl, without⟩ := List.eq_append_cons_of_mem present
    rw [List.splitOn_append_cons_self_of_not_mem without, splitField_append without]
    rfl
  · rw [List.splitOn_eq_singleton present, splitField_of_not_mem present]
    rfl

/-- What two fields stand for, with the blanks around them. -/
def ofFields (first second : List Char) : Except EntryError Entry :=
  match Address.read (String.ofList (trim first)) with
  | .error _ => .error (.invalidAddress (String.ofList (trim first)))
  | .ok address =>
    match balance? (trim second) with
    | none => .error (.invalidBalance address (String.ofList (trim second)))
    | some balance => .ok ⟨address, balance⟩

theorem read_of_fields {row : String} {first second : List Char}
    (fields : HasFields row first second) : read row = ofFields first second := by
  obtain ⟨others, fields⟩ := fields
  rw [splitOn_eq] at fields
  obtain ⟨isFirst, behind⟩ := List.cons.inj fields
  rw [read]
  match split : splitField row.toList with
  | (_, none) => exact nomatch split ▸ behind
  | (front, some rest) =>
    rw [split] at isFirst behind
    obtain rfl : front = first := isFirst
    obtain ⟨rfl, _⟩ := List.cons.inj ((splitOn_eq rest).symm.trans behind)
    rfl

theorem exists_fields {row : String} (present : ';' ∈ row.toList) :
    ∃ first second, HasFields row first second := by
  obtain ⟨front, rest, form, without⟩ := List.eq_append_cons_of_mem present
  refine ⟨front, (splitField rest).1, (splitField rest).2.elim [] (List.splitOn ';'), ?_⟩
  rw [form, List.splitOn_append_cons_self_of_not_mem without, splitOn_eq rest]

theorem read_of_no_semicolon {row : String} (without : ';' ∉ row.toList) :
    read row = .error (.missingBalance row) := by
  rw [read, splitField_of_not_mem without]

/-! ### Balances -/

/-- Whether a text writes a balance: a decimal number, or one of the words for no end. -/
def IsBalance (text : List Char) : Prop :=
  (∃ number : DecimalNumber, number.chars = text) ∨
    ∃ number : EndlessNumber, number.chars = text

theorem exists_balance_iff (text : List Char) :
    (∃ balance, balance? text = some balance) ↔ IsBalance text := by
  have finite := Literal.read?_eq_finite_iff text
  have infinite := Literal.read?_eq_infinite_iff text
  rw [balance?]
  constructor
  · rintro ⟨balance, read⟩
    match literal : Literal.read? text with
    | none => exact nomatch literal ▸ read
    | some .notANumber => exact nomatch literal ▸ read
    | some (.finite _ _ _) =>
      obtain ⟨number, written, _⟩ := (finite _ _ _).mp literal
      exact .inl ⟨number, written⟩
    | some (.infinite _) =>
      obtain ⟨number, written, _⟩ := (infinite _).mp literal
      exact .inr ⟨number, written⟩
  · rintro (⟨number, rfl⟩ | ⟨number, rfl⟩)
    · rw [(finite _ _ _).mpr ⟨number, rfl, rfl⟩]
      exact ⟨_, rfl⟩
    · rw [(infinite _).mpr ⟨number, rfl, rfl⟩]
      exact ⟨_, rfl⟩

/-! ### Entries and refusals -/

/-- Whether a row writes an entry. -/
def Writes (row : String) (entry : Entry) : Prop :=
  ∃ first second, HasFields row first second ∧
    entry.address.SpelledBy (trim first) ∧ balance? (trim second) = some entry.balance

/-- Why a row is no entry, if it is none: the first reason that applies. -/
inductive Refused (row : String) : EntryError → Prop where
  | missingBalance (noField : ';' ∉ row.toList) : Refused row (.missingBalance row)
  | invalidAddress (first second : List Char) (fields : HasFields row first second)
      (unspelled : ∀ address : Address, ¬ address.SpelledBy (trim first)) :
      Refused row (.invalidAddress (String.ofList (trim first)))
  | invalidBalance (first second : List Char) (fields : HasFields row first second)
      (address : Address) (spelled : address.SpelledBy (trim first))
      (unwritten : ¬ IsBalance (trim second)) :
      Refused row (.invalidBalance address (String.ofList (trim second)))

theorem ofFields_of_unspelled {first : List Char}
    (unspelled : ∀ address : Address, ¬ address.SpelledBy (trim first)) (second : List Char) :
    ofFields first second = .error (.invalidAddress (String.ofList (trim first))) := by
  rw [ofFields]
  cases result : Address.read (String.ofList (trim first)) with
  | error => rfl
  | ok address => exact absurd ((Address.read_eq_ok_iff _ address).mp result) (unspelled address)

theorem ofFields_of_spelled {first : List Char} {address : Address}
    (spelled : address.SpelledBy (trim first)) (second : List Char) :
    ofFields first second =
      match balance? (trim second) with
      | none => .error (.invalidBalance address (String.ofList (trim second)))
      | some balance => .ok ⟨address, balance⟩ := by
  rw [ofFields, (Address.read_eq_ok_iff _ address).mpr spelled]

theorem Writes.read_eq {row : String} {entry : Entry} (writes : Writes row entry) :
    read row = .ok entry := by
  obtain ⟨first, second, fields, spelled, isBalance⟩ := writes
  rw [read_of_fields fields, ofFields_of_spelled spelled, isBalance]

theorem Refused.read_eq {row : String} {error : EntryError} (refused : Refused row error) :
    read row = .error error := by
  cases refused with
  | missingBalance noField => exact read_of_no_semicolon noField
  | invalidAddress first second fields unspelled =>
    rw [read_of_fields fields, ofFields_of_unspelled unspelled]
  | invalidBalance first second fields address spelled unwritten =>
    have unread : balance? (trim second) = none := by
      rw [Option.eq_none_iff_forall_ne_some]
      exact fun balance read => unwritten ((exists_balance_iff _).mp ⟨balance, read⟩)
    rw [read_of_fields fields, ofFields_of_spelled spelled, unread]

theorem writes_or_refused (row : String) :
    (∃ entry, Writes row entry) ∨ ∃ error, Refused row error := by
  by_cases present : ';' ∈ row.toList
  · obtain ⟨first, second, fields⟩ := exists_fields present
    by_cases named : ∃ address : Address, address.SpelledBy (trim first)
    · obtain ⟨address, spelled⟩ := named
      by_cases written : IsBalance (trim second)
      · obtain ⟨balance, isBalance⟩ := (exists_balance_iff _).mpr written
        exact .inl ⟨⟨address, balance⟩, first, second, fields, spelled, isBalance⟩
      · exact .inr ⟨_, .invalidBalance first second fields address spelled written⟩
    · exact .inr ⟨_, .invalidAddress first second fields (not_exists.mp named)⟩
  · exact .inr ⟨_, .missingBalance present⟩

theorem verdict_read (row : String) : Verdict (read row) (Writes row) (Refused row) where
  ok _ := Writes.read_eq
  error _ := Refused.read_eq
  decided := writes_or_refused row

/-! ### What makes no difference -/

theorem ofFields_respelled {first first' : List Char}
    (respelled : Hex.Respelled (trim first) (trim first')) {second second' : List Char}
    (same : trim second = trim second') :
    ofFields first' second' = ofFields first second ∨
      ofFields first second = .error (.invalidAddress (String.ofList (trim first))) ∧
        ofFields first' second' = .error (.invalidAddress (String.ofList (trim first'))) := by
  rw [ofFields, ofFields, ← Address.read_congr respelled, same]
  cases Address.read (String.ofList (trim first)) with
  | error => exact .inr ⟨rfl, rfl⟩
  | ok address => exact .inl rfl

/-- A row is an entry if and only if its first field spells an address and its second writes a
balance, and then for that address; otherwise it is refused for the first reason that applies.
Blanks around the two fields and all that is behind a second semicolon make no difference, nor do
the mark and the case of the digits, except to the text that a refusal of the address shows. -/
theorem entries_follow_the_grammar (row : String) :
    (∀ address, (∃ balance, read row = .ok ⟨address, balance⟩) ↔
      ∃ first second, HasFields row first second ∧
        address.SpelledBy (trim first) ∧ IsBalance (trim second)) ∧
    (∀ error, read row = .error error ↔ Refused row error) ∧
    ∀ first second, HasFields row first second →
      ∀ other first' second', HasFields other first' second' →
        (Padded first' first → Padded second' second → read other = read row) ∧
        (Hex.Respelled (trim first) (trim first') → trim second = trim second' →
          read other = read row ∨
            read row = .error (.invalidAddress (String.ofList (trim first))) ∧
              read other = .error (.invalidAddress (String.ofList (trim first')))) := by
  have verdict := verdict_read row
  refine ⟨fun address => ?_, verdict.eq_error_iff,
    fun first second fields other first' second' otherFields => ⟨fun padded padded' => ?_,
      fun respelled same => ?_⟩⟩
  · constructor
    · rintro ⟨balance, accepted⟩
      obtain ⟨first, second, fields, spelled, isBalance⟩ := (verdict.eq_ok_iff _).mp accepted
      exact ⟨first, second, fields, spelled, (exists_balance_iff _).mp ⟨balance, isBalance⟩⟩
    · rintro ⟨first, second, fields, spelled, written⟩
      obtain ⟨balance, isBalance⟩ := (exists_balance_iff _).mpr written
      exact ⟨balance, verdict.ok ⟨address, balance⟩ ⟨first, second, fields, spelled, isBalance⟩⟩
  · rw [read_of_fields fields, read_of_fields otherFields, ofFields, ofFields, padded.trim_eq,
      padded'.trim_eq]
  · rw [read_of_fields fields, read_of_fields otherFields]
    exact ofFields_respelled respelled same

/-- A row for an account; with blanks and a remark, or in another spelling, it is one for the same
account. -/
theorem three_rows_for_an_account :
    let row := "0x00000000000000000000000000000000000000ab;1.5"
    let remarked := " 0x00000000000000000000000000000000000000ab ; 1.5;paid;twice"
    let respelled := "00000000000000000000000000000000000000aB;1.5"
    (∃ balance, read row = .ok ⟨⟨0xAB⟩, balance⟩) ∧
      read remarked = read row ∧ read respelled = read row := by
  intro row remarked respelled
  let zeros : List Toml.HexDigit := List.replicate 38 ⟨0, false⟩
  let lower : Hex.Numeral 40 := ⟨.lower, zeros ++ [⟨10, false⟩, ⟨11, false⟩], rfl⟩
  let mixed : Hex.Numeral 40 := ⟨.none, zeros ++ [⟨10, false⟩, ⟨11, true⟩], rfl⟩
  have fields : HasFields row lower.chars ['1', '.', '5'] := ⟨[], by decide⟩
  have spelled : Address.SpelledBy ⟨0xAB⟩ (trim lower.chars) := ⟨lower, by decide, by decide⟩
  have written : IsBalance (trim ['1', '.', '5']) :=
    .inl ⟨⟨.none, ['1'], some ['5'], none, List.all_eq_true.mp rfl, by decide⟩, by decide⟩
  obtain ⟨grammar, _, alike⟩ := entries_follow_the_grammar row
  obtain ⟨balance, accepted⟩ := (grammar ⟨0xAB⟩).mpr ⟨_, _, fields, spelled, written⟩
  have blank : ∀ char ∈ [' '], isBlank char = true := List.all_eq_true.mp rfl
  have padded : Padded (' ' :: lower.chars ++ [' ']) lower.chars :=
    ⟨⟨[' '], blank⟩, ⟨[' '], blank⟩, rfl⟩
  have padded' : Padded [' ', '1', '.', '5'] ['1', '.', '5'] := ⟨⟨[' '], blank⟩, ⟨[], nofun⟩, rfl⟩
  have remarkedFields :
      HasFields remarked (' ' :: lower.chars ++ [' ']) [' ', '1', '.', '5'] :=
    ⟨["paid".toList, "twice".toList], by decide⟩
  have respelledFields : HasFields respelled mixed.chars ['1', '.', '5'] := ⟨[], by decide⟩
  have remarks := alike _ _ fields _ _ _ remarkedFields
  have spellings := alike _ _ fields _ _ _ respelledFields
  have trimmed : trim lower.chars = lower.chars ∧ trim mixed.chars = mixed.chars := by decide
  rw [trimmed.1, trimmed.2] at spellings
  refine ⟨⟨balance, accepted⟩, remarks.1 padded padded', ?_⟩
  rcases spellings.2 (Hex.Numeral.respelled (by decide)) rfl with same | ⟨refused, _⟩
  · exact same
  · exact nomatch accepted.symm.trans refused

end Trickle.Entry
