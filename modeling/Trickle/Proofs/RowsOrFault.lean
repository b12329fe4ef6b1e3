/-
This file proves that an address file is read in whole or not at all, whatever its bytes
are. Behind the header every field of every record has to be text, not only the first
one, and the first field that is not is named, with the length of the longest text at its
front. If there is no such field there is one row for each record, its first field. What
the records are is left to the rules for splitting bytes into them, and what a text is to
its encoding.
-/

import Mathlib.Data.List.Forall2
import Trickle.Proofs.Splitting

namespace Trickle.AddressFile

open Csv

/-! ### Records of texts -/

/-- Whether all fields of a record are text. -/
def AllText (fields : List Bytes) : Prop :=
  ∀ field ∈ fields, Utf8.IsText field

/-- Whether a field, with its index in its record, is the first of all that is not text. -/
def FirstFault (data : List (List Bytes)) (index : Nat) (field : Bytes) : Prop :=
  ∃ before texts others after, data = before ++ (texts ++ field :: others) :: after ∧
    (∀ fields ∈ before, AllText fields) ∧ AllText texts ∧ texts.length = index ∧
    ¬ Utf8.IsText field

/-- What reading makes of records: rows, each the first field of one of them, if all fields are
text, and the first field that is not otherwise. -/
inductive Judged (data : List (List Bytes)) : Except BadField (List String) → Prop where
  | read (rows : List String) (texts : ∀ fields ∈ data, AllText fields)
    (firsts : List.Forall₂ (fun fields row => fields.headD [] = Utf8.ofString row) data rows) :
    Judged data (.ok rows)
  | refused (bad : BadField) (field : Bytes) (first : FirstFault data bad.field field)
    (longest : Utf8.IsLongestText field bad.validLength) : Judged data (.error bad)

section Faults

variable {data : List (List Bytes)} {fields : List Bytes} {index : Nat} {field : Bytes}

theorem FirstFault.cons (first : FirstFault data index field) (texts : AllText fields) :
    FirstFault (fields :: data) index field := by
  obtain ⟨before, front, others, after, rfl, texts', rest⟩ := first
  exact ⟨fields :: before, front, others, after, rfl, List.forall_mem_cons.mpr ⟨texts, texts'⟩,
    rest⟩

theorem FirstFault.exists_mem (first : FirstFault data index field) :
    ∃ fields ∈ data, ∃ field ∈ fields, ¬ Utf8.IsText field := by
  obtain ⟨before, texts, others, after, rfl, _, _, _, noText⟩ := first
  exact ⟨texts ++ field :: others, List.mem_append_right _ List.mem_cons_self, field,
    List.mem_append_right _ List.mem_cons_self, noText⟩

theorem Judged.error_iff {result : Except BadField (List String)} (judged : Judged data result) :
    (∃ bad, result = .error bad) ↔ ∃ fields ∈ data, ∃ field ∈ fields, ¬ Utf8.IsText field := by
  cases judged with
  | read rows texts _ =>
    constructor
    · rintro ⟨bad, refused⟩
      exact nomatch refused
    · rintro ⟨fields, isRecord, field, isField, noText⟩
      exact absurd (texts fields isRecord field isField) noText
  | refused bad field first _ => exact ⟨fun _ => first.exists_mem, fun _ => ⟨bad, rfl⟩⟩

/-! ### One record -/

theorem badField?_eq_none_iff : badField? index fields = none ↔ AllText fields := by
  induction fields generalizing index with
  | nil => exact ⟨fun _ => nofun, fun _ => rfl⟩
  | cons field rest inductionHypothesis =>
    rw [badField?, AllText, List.forall_mem_cons, ← Utf8.isValid_iff]
    split
    next valid => exact inductionHypothesis.trans (and_iff_right valid).symm
    next broken =>
      refine ⟨fun found => ?_, fun both => absurd both.1 broken⟩
      cases found

theorem exists_split_of_badField? {found : Nat}
    (isFound : badField? index fields = some (found, field)) :
    ∃ texts others, fields = texts ++ field :: others ∧ AllText texts ∧
      index + texts.length = found ∧ ¬ Utf8.IsText field := by
  induction fields generalizing index with
  | nil => exact nomatch isFound
  | cons first rest inductionHypothesis =>
    rw [badField?] at isFound
    split at isFound
    next valid =>
      obtain ⟨texts, others, rfl, areTexts, place, noText⟩ := inductionHypothesis isFound
      refine ⟨first :: texts, others, rfl, ?_, ?_, noText⟩
      · exact List.forall_mem_cons.mpr ⟨(Utf8.isValid_iff first).mp valid, areTexts⟩
      · rw [← place, List.length_cons, Nat.add_comm texts.length, Nat.add_assoc]
    next broken =>
      obtain ⟨rfl, rfl⟩ := Prod.mk.inj (Option.some.inj isFound)
      exact ⟨[], rest, rfl, List.forall_mem_nil _, rfl,
        fun isText => broken ((Utf8.isValid_iff _).mpr isText)⟩

variable {number : Nat} {header record : Record}

theorem texts_of_row {text : String} (read : row number header record = .ok text) :
    AllText record.fields ∧ record.fields.headD [] = Utf8.ofString text := by
  rw [row] at read
  split at read
  next => cases read
  next unbroken =>
    have texts : AllText record.fields := badField?_eq_none_iff.mp unbroken
    have first : Utf8.IsText (record.fields.headD []) := by
      cases fields : record.fields with
      | nil => exact ⟨"", rfl⟩
      | cons field rest => exact texts field (fields ▸ List.mem_cons_self)
    obtain rfl := Except.ok.inj read
    exact ⟨texts, first.ofString_scan.symm⟩

theorem fault_of_row {bad : BadField} (refused : row number header record = .error bad)
    (data : List (List Bytes)) :
    ∃ field, FirstFault (record.fields :: data) bad.field field ∧
      Utf8.IsLongestText field bad.validLength := by
  rw [row] at refused
  split at refused
  next index field found =>
    obtain rfl := Except.error.inj refused
    obtain ⟨texts, others, split, areTexts, place, noText⟩ := exists_split_of_badField? found
    refine ⟨field, ⟨[], texts, others, data, ?_, List.forall_mem_nil _, areTexts, ?_, noText⟩,
      Utf8.isLongestText_validLength field⟩
    · rw [split, List.nil_append]
    · rw [← place, Nat.zero_add]
  next => cases refused

end Faults

/-! ### All records behind the header -/

theorem judged_rowsFrom (header : Record) (number : Nat) (records : List Record) :
    Judged (records.map Record.fields) (rowsFrom header number records) := by
  induction records generalizing number with
  | nil => exact .read [] (List.forall_mem_nil _) .nil
  | cons record rest inductionHypothesis =>
    rw [rowsFrom, List.map_cons]
    cases first : row number header record with
    | error bad =>
      obtain ⟨field, fault, longest⟩ := fault_of_row first (rest.map Record.fields)
      exact .refused bad field fault longest
    | ok text =>
      obtain ⟨texts, isFirst⟩ := texts_of_row first
      have behind := inductionHypothesis (number + 1)
      generalize rowsFrom header (number + 1) rest = others at behind
      cases behind with
      | read rows allTexts firsts =>
        exact .read (text :: rows) (List.forall_mem_cons.mpr ⟨texts, allTexts⟩)
          (.cons isFirst firsts)
      | refused bad field fault longest => exact .refused bad field (fault.cons texts) longest

theorem judged_rows (bytes : Bytes) :
    Judged ((Csv.records bytes).map Record.fields).tail (rows bytes) := by
  rw [rows]
  cases Csv.records bytes with
  | nil => exact .read [] (List.forall_mem_nil _) .nil
  | cons header records => exact judged_rowsFrom header 1 records

theorem cursor_eq_error_iff {bytes : Bytes} {bad : BadField} :
    cursor bytes = .error bad ↔ rows bytes = .error bad := by
  rw [cursor]
  cases rows bytes with
  | error other =>
    exact ⟨fun same => congrArg _ (Except.error.inj same),
      fun same => congrArg _ (Except.error.inj same)⟩
  | ok rows => constructor <;> intro same <;> cases same

theorem exists_rows_of_cursor {bytes : Bytes} {start : Cursor}
    (read : cursor bytes = .ok start) :
    ∃ texts, rows bytes = .ok texts ∧ Cursor.ofRows texts.toArray = start := by
  rw [cursor] at read
  cases areRows : rows bytes with
  | error bad =>
    rw [areRows] at read
    cases read
  | ok texts =>
    rw [areRows] at read
    exact ⟨texts, rfl, Except.ok.inj read⟩

/-- The message names the field and how much of it is text. -/
theorem BadField.exists_message_eq (bad : BadField) :
    ∃ front, bad.message =
      front ++ s!"invalid UTF-8 in field {bad.field} near byte index {bad.validLength}" := by
  have parts (front byte field length : String) :
      front ++ ("byte: " ++ byte ++ "): invalid utf-8: invalid UTF-8 in field " ++ field ++ " ") ++
          ("near byte index " ++ length) =
        front ++ ("byte: " ++ byte ++ "): invalid utf-8: ") ++
          ("invalid UTF-8 in field " ++ field ++ " near byte index " ++ length) := by
    have beforeField : "): invalid utf-8: invalid UTF-8 in field " =
        "): invalid utf-8: " ++ "invalid UTF-8 in field " := by decide +kernel
    have behindField : " near byte index " = " " ++ "near byte index " := by decide +kernel
    rw [beforeField, behindField]
    simp only [String.append_assoc]
  exact ⟨_, parts _ _ _ _⟩

/-- Any bytes are split by the rules into records in one way. Reading fails if and only if some
field of some record behind the header is not text; what the header holds decides nothing. It then
names the index of the first such field of the first such record and the length of the longest text
at the front of what this field holds. If it does not fail, there is a cursor at the first of as
many rows as there are records behind the header, and each row is the first field of its record. -/
theorem reads_all_rows_or_names_first_fault (bytes : Bytes) :
    let contents := (Csv.records bytes).map Record.fields
    let data := contents.tail
    (∀ others, SplitsInto (unmarked bytes) others ↔ others = contents) ∧
    ((∃ bad, cursor bytes = .error bad) ↔
      ∃ fields ∈ data, ∃ field ∈ fields, ¬ Utf8.IsText field) ∧
    (∀ bad, cursor bytes = .error bad →
      ∃ field, FirstFault data bad.field field ∧ Utf8.IsLongestText field bad.validLength ∧
        ∃ front, bad.message =
          front ++ s!"invalid UTF-8 in field {bad.field} near byte index {bad.validLength}") ∧
    ∀ start, cursor bytes = .ok start →
      start.position = 0 ∧
      List.Forall₂ (fun fields row => fields.head? = some (Utf8.ofString row)) data
        start.rows.toList := by
  intro contents data
  have split (others : List (List Bytes)) :
      SplitsInto (unmarked bytes) others ↔ others = contents :=
    (splitsInto_iff bytes others).trans eq_comm
  have judged : Judged data (rows bytes) := judged_rows bytes
  refine ⟨split, ?_, fun bad refused => ?_, fun start read => ?_⟩
  · simp only [cursor_eq_error_iff]
    exact judged.error_iff
  · rw [cursor_eq_error_iff] at refused
    rw [refused] at judged
    cases judged with
    | refused bad field first longest => exact ⟨field, first, longest, bad.exists_message_eq⟩
  · obtain ⟨rows, areRows, rfl⟩ := exists_rows_of_cursor read
    rw [areRows] at judged
    cases judged with
    | read rows _ firsts =>
      have visible : ∀ fields ∈ data, fields ≠ [] := fun fields member =>
        ((split contents).mpr rfl).ne_nil_of_mem (List.mem_of_mem_tail member)
      refine ⟨rfl, ((List.forall₂_and_left _ _).mpr ⟨visible, firsts⟩).imp ?_⟩
      rintro (_ | ⟨field, rest⟩) row ⟨nonempty, first⟩
      · exact absurd rfl nonempty
      · exact congrArg some first

end Trickle.AddressFile
