/-
This file proves how bytes are split into records, whatever the bytes are. The rules are
stated as a grammar that leaves nothing out: a quote has a meaning only at the start of a
field, text behind a closing quote belongs to the field, and a quote that is never closed
takes in all that is left. Every byte string is split by these rules, and in one way only,
as what the rules give is what the machine reads.

The machine is followed over the parts of the grammar by what it holds. That some parts
can always be found is shown without it, from the left to the right of the bytes.
-/

import Trickle.Proofs.Table

namespace Trickle.Csv

/-! ### The rules -/

/-- Bytes that no field without quotes ends at. -/
def Unbroken (bytes : Bytes) : Prop :=
  ∀ byte ∈ bytes, byte ≠ comma ∧ isTerminator byte = false

/-- The bytes of a field, and what it holds. The text behind a closing quote may have more quotes in
it, but does not start with one. -/
inductive IsField : Bytes → Bytes → Prop where
  | bare (content : Bytes) (plain : Plain content) : IsField content content
  | quoted (inner text : Bytes) (plain : Plain text) :
    IsField (quote :: (inner.flatMap Cell.doubled ++ quote :: text)) (inner ++ text)

/-- The bytes of a record without its end, whether its last field is closed, and what its fields
hold. -/
inductive IsRecord : Bytes → Bool → List Bytes → Prop where
  | last {bytes content : Bytes} (field : IsField bytes content) : IsRecord bytes true [content]
  | unclosed (inner : Bytes) : IsRecord (quote :: inner.flatMap Cell.doubled) false [inner]
  | more {bytes content rest : Bytes} {closed : Bool} {contents : List Bytes}
    (field : IsField bytes content) (others : IsRecord rest closed contents) :
    IsRecord (bytes ++ comma :: rest) closed (content :: contents)

/-- Bytes, and what the fields of their records hold. What ends no record is passed over. -/
inductive SplitsInto : Bytes → List (List Bytes) → Prop where
  | none : SplitsInto [] []
  | blank {byte : UInt8} {rest : Bytes} {records : List (List Bytes)}
    (terminator : isTerminator byte = true) (behind : SplitsInto rest records) :
    SplitsInto (byte :: rest) records
  | final {bytes : Bytes} {closed : Bool} {contents : List Bytes}
    (record : IsRecord bytes closed contents) (visible : bytes ≠ []) : SplitsInto bytes [contents]
  | ended {bytes rest : Bytes} {contents : List Bytes} {byte : UInt8}
    {records : List (List Bytes)} (record : IsRecord bytes true contents) (visible : bytes ≠ [])
    (terminator : isTerminator byte = true) (behind : SplitsInto rest records) :
    SplitsInto (bytes ++ byte :: rest) (contents :: records)

/-- Bytes without the byte order mark in front of them, if there is one. -/
def unmarked (bytes : Bytes) : Bytes :=
  if byteOrderMark.isPrefixOf bytes then bytes.drop 3 else bytes

theorem IsRecord.contents_ne_nil {bytes : Bytes} {closed : Bool} {contents : List Bytes}
    (record : IsRecord bytes closed contents) : contents ≠ [] := by
  cases record <;> exact List.cons_ne_nil _ _

/-- Every record has a field. -/
theorem SplitsInto.ne_nil_of_mem {bytes : Bytes} {records : List (List Bytes)}
    (splits : SplitsInto bytes records) {contents : List Bytes} (member : contents ∈ records) :
    contents ≠ [] := by
  induction splits with
  | none => exact nomatch member
  | blank _ _ inductionHypothesis => exact inductionHypothesis member
  | final record _ =>
    obtain rfl := List.mem_singleton.mp member
    exact record.contents_ne_nil
  | ended record _ _ _ inductionHypothesis =>
    rcases List.mem_cons.mp member with rfl | later
    · exact record.contents_ne_nil
    · exact inductionHypothesis later

/-! ### The machine follows the rules -/

namespace State

variable {state : State} {phase : Phase} {field : Bytes} {fields : List Bytes}
  {records : List (List Bytes)} {bytes content : Bytes}

/-- Text behind a closing quote belongs to the field. -/
theorem Holds.step_behindQuote (holds : state.Holds .quoteSeen field fields records) {byte : UInt8}
    (noQuote : byte ≠ quote) (plain : byte ≠ comma ∧ isTerminator byte = false) :
    (state.step byte).Holds .bare (field ++ [byte]) fields records := by
  rw [step, holds.samePhase]
  simp only [if_neg noQuote, closeOrPush, if_neg plain.1, plain.2, Bool.false_eq_true, if_false]
  exact (holds.advance byte).push .bare byte

/-- A field is read whole. Behind it the machine can take a comma, and a line end too unless it has
read nothing since the last one. -/
theorem Holds.read_field (holds : state.Holds phase [] fields records) (opens : phase.opens = true)
    (isField : IsField bytes content) :
    ∃ next, (bytes.foldl step state).Holds next content fields records ∧
      next ≠ .quoted ∧ (next = .betweenRecords → phase = .betweenRecords ∧ bytes = []) := by
  cases isField with
  | bare _ plain => exact holds.read_cell opens (.bare _ plain)
  | quoted inner text plain =>
    have closed := ((holds.step_openQuote opens).read_doubled inner).step_closeQuote
    rw [List.foldl_cons, List.foldl_append, List.foldl_cons]
    cases text with
    | nil =>
      rw [List.append_nil]
      exact ⟨.quoteSeen, closed, nofun, nofun⟩
    | cons byte text =>
      have noQuote : byte ≠ quote := fun isQuote => plain.unquoted (congrArg some isQuote)
      have begun := closed.step_behindQuote noQuote (plain.unbroken byte List.mem_cons_self)
      rw [List.append_cons]
      exact ⟨.bare, begun.read_bare fun later member =>
        plain.unbroken later (List.mem_cons_of_mem _ member), nofun, nofun⟩

/-- A record is read whole. Behind it the machine is inside a quoted field only if the last one is
not closed. -/
theorem Holds.read_record (holds : state.Holds phase [] fields records)
    (opens : phase.opens = true) {closed : Bool} {contents : List Bytes}
    (record : IsRecord bytes closed contents) :
    ∃ next last before, (bytes.foldl step state).Holds next last before records ∧
      (closed = true → next ≠ .quoted) ∧
      (next = .betweenRecords → phase = .betweenRecords ∧ bytes = []) ∧
      before ++ [last] = fields ++ contents := by
  induction record generalizing state phase fields with
  | last isField =>
    obtain ⟨next, read, notQuoted, within⟩ := holds.read_field opens isField
    exact ⟨next, _, fields, read, fun _ => notQuoted, within, rfl⟩
  | unclosed inner =>
    exact ⟨.quoted, inner, fields, (holds.step_openQuote opens).read_doubled inner, nofun, nofun,
      rfl⟩
  | @more bytes content rest closed contents isField others inductionHypothesis =>
    obtain ⟨middle, read, notQuoted, _⟩ := holds.read_field opens isField
    obtain ⟨next, last, before, read, notQuoted, within, same⟩ :=
      inductionHypothesis (read.step_comma notQuoted) rfl
    rw [List.foldl_append, List.foldl_cons]
    refine ⟨next, last, before, read, notQuoted, fun between => ?_, ?_⟩
    · exact nomatch (within between).1
    · rw [same, List.append_assoc]
      rfl

/-- The machine reads the records that the rules give. -/
theorem Between.read_all (between : state.Between records) {contents : List (List Bytes)}
    (splits : SplitsInto bytes contents) :
    (bytes.foldl step state).finish.Between (records ++ contents) := by
  induction splits generalizing state records with
  | none =>
    rw [List.append_nil]
    exact between.finish
  | blank terminator _ inductionHypothesis =>
    exact inductionHypothesis (between.step_blank terminator)
  | final record visible =>
    obtain ⟨next, last, before, read, _, within, same⟩ := between.read_record rfl record
    have whole := read.finish fun blank => visible (within blank).2
    rwa [same] at whole
  | @ended bytes rest contents byte others record visible terminator _ inductionHypothesis =>
    obtain ⟨next, last, before, read, notQuoted, within, same⟩ := between.read_record rfl record
    have whole := read.step_terminator (notQuoted rfl) (fun blank => visible (within blank).2)
      terminator
    rw [same] at whole
    rw [List.foldl_append, List.foldl_cons, List.append_cons]
    exact inductionHypothesis whole

end State

/-! ### Every byte string is split -/

/-- Bytes that may stand behind a field: none, or some that start with a comma or a line end. -/
def EndsField (rest : Bytes) : Prop :=
  ∀ byte, rest.head? = some byte → byte = comma ∨ isTerminator byte = true

/-- Bytes that may stand behind a record: none, or, if it is closed, some that start with a line
end. -/
def EndsRecord (closed : Bool) (rest : Bytes) : Prop :=
  ∀ byte, rest.head? = some byte → closed = true ∧ isTerminator byte = true

theorem exists_unbroken (bytes : Bytes) :
    ∃ text rest, bytes = text ++ rest ∧ Unbroken text ∧ EndsField rest := by
  induction bytes with
  | nil => exact ⟨[], [], rfl, nofun, nofun⟩
  | cons byte bytes inductionHypothesis =>
    by_cases ends : byte = comma ∨ isTerminator byte = true
    · refine ⟨[], byte :: bytes, rfl, nofun, fun other isHead => ?_⟩
      obtain rfl := Option.some.inj isHead
      exact ends
    · obtain ⟨noComma, noTerminator⟩ := not_or.mp ends
      obtain ⟨text, rest, rfl, unbroken, behind⟩ := inductionHypothesis
      refine ⟨byte :: text, rest, rfl, ?_, behind⟩
      exact List.forall_mem_cons.mpr ⟨⟨noComma, Bool.eq_false_iff.mpr noTerminator⟩, unbroken⟩

/-- Bytes that do not start with a quote start with text that can stand without quotes. -/
theorem exists_plain {bytes : Bytes} (unquoted : bytes.head? ≠ some quote) :
    ∃ text rest, bytes = text ++ rest ∧ Plain text ∧ EndsField rest := by
  obtain ⟨text, rest, rfl, unbroken, ends⟩ := exists_unbroken bytes
  refine ⟨text, rest, rfl, ⟨?_, unbroken⟩, ends⟩
  cases text with
  | nil => exact nofun
  | cons byte text => exact unquoted

/-- What stands behind the quote that opens a field: the field is never closed, or some quote that
is not doubled closes it. -/
def Opened (bytes : Bytes) : Prop :=
  (∃ inner : Bytes, bytes = inner.flatMap Cell.doubled) ∨
    ∃ inner behind : Bytes, bytes = inner.flatMap Cell.doubled ++ quote :: behind ∧
      behind.head? ≠ some quote

theorem Opened.cons {rest : Bytes} (opened : Opened rest) (byte : UInt8) :
    Opened (Cell.doubled byte ++ rest) := by
  rcases opened with ⟨inner, rfl⟩ | ⟨inner, behind, rfl, unquoted⟩
  · exact .inl ⟨byte :: inner, List.flatMap_cons.symm⟩
  · refine .inr ⟨byte :: inner, behind, ?_, unquoted⟩
    rw [List.flatMap_cons, List.append_assoc]

theorem opened : (bytes : Bytes) → Opened bytes
  | [] => .inl ⟨[], rfl⟩
  | byte :: rest => by
    by_cases isQuote : byte = quote
    · subst isQuote
      cases rest with
      | nil => exact .inr ⟨[], [], rfl, nofun⟩
      | cons next rest =>
        by_cases isDoubled : next = quote
        · subst isDoubled
          exact (opened rest).cons quote
        · exact .inr ⟨[], next :: rest, rfl, fun same => isDoubled (Option.some.inj same)⟩
    · have alone := (opened rest).cons byte
      rwa [Cell.doubled, if_neg isQuote] at alone

/-- Bytes start with a field, unless they are all taken in by a quote that is never closed. -/
theorem exists_field (bytes : Bytes) :
    (∃ inner : Bytes, bytes = quote :: inner.flatMap Cell.doubled) ∨
      ∃ front content rest, bytes = front ++ rest ∧ IsField front content ∧ EndsField rest := by
  by_cases starts : bytes.head? = some quote
  · obtain ⟨rest, rfl⟩ := List.head?_eq_some_iff.mp starts
    rcases opened rest with ⟨inner, rfl⟩ | ⟨inner, behind, rfl, unquoted⟩
    · exact .inl ⟨inner, rfl⟩
    · obtain ⟨text, rest, rfl, plain, ends⟩ := exists_plain unquoted
      refine .inr ⟨_, _, rest, ?_, .quoted inner text plain, ends⟩
      rw [List.cons_append, List.append_assoc, List.cons_append]
  · obtain ⟨text, rest, split, plain, ends⟩ := exists_plain starts
    exact .inr ⟨text, text, rest, split, .bare text plain, ends⟩

theorem exists_record (bytes : Bytes) :
    ∃ front closed contents rest, bytes = front ++ rest ∧ IsRecord front closed contents ∧
      EndsRecord closed rest := by
  induction size : bytes.length using Nat.strong_induction_on generalizing bytes with
  | _ length inductionHypothesis =>
    rcases exists_field bytes with ⟨inner, rfl⟩ | ⟨front, content, rest, rfl, isField, ends⟩
    · exact ⟨_, false, [inner], [], (List.append_nil _).symm, .unclosed inner, nofun⟩
    cases rest with
    | nil => exact ⟨front, true, [content], [], rfl, .last isField, nofun⟩
    | cons byte rest =>
      by_cases isComma : byte = comma
      · subst isComma
        have shorter : rest.length < length := by
          rw [← size, List.length_append, List.length_cons]
          exact Nat.lt_add_left _ (Nat.lt_succ_self _)
        obtain ⟨others, closed, contents, behind, rfl, record, ends⟩ :=
          inductionHypothesis rest.length shorter rest rfl
        refine ⟨_, closed, content :: contents, behind, ?_, .more isField record, ends⟩
        rw [List.append_assoc, List.cons_append]
      · refine ⟨front, true, [content], byte :: rest, rfl, .last isField, fun other isHead => ?_⟩
        obtain rfl := Option.some.inj isHead
        exact ⟨rfl, (ends byte rfl).resolve_left isComma⟩

theorem exists_splits (bytes : Bytes) : ∃ records, SplitsInto bytes records := by
  induction size : bytes.length using Nat.strong_induction_on generalizing bytes with
  | _ length inductionHypothesis =>
    cases bytes with
    | nil => exact ⟨[], .none⟩
    | cons byte more =>
      by_cases terminator : isTerminator byte = true
      · have shorter : more.length < length := size ▸ Nat.lt_succ_self _
        obtain ⟨records, behind⟩ := inductionHypothesis more.length shorter more rfl
        exact ⟨records, .blank terminator behind⟩
      obtain ⟨front, closed, contents, rest, split, record, ends⟩ := exists_record (byte :: more)
      have visible : front ≠ [] := by
        rintro rfl
        have isHead : rest.head? = some byte := congrArg List.head? split.symm
        exact terminator (ends byte isHead).2
      cases rest with
      | nil =>
        rw [split, List.append_nil]
        exact ⟨[contents], .final record visible⟩
      | cons other rest =>
        obtain ⟨rfl, ended⟩ := ends other rfl
        have shorter : rest.length < length := by
          rw [← size, split, List.length_append, List.length_cons]
          exact Nat.lt_add_left _ (Nat.lt_succ_self _)
        obtain ⟨records, behind⟩ := inductionHypothesis rest.length shorter rest rfl
        rw [split]
        exact ⟨contents :: records, .ended record visible ended behind⟩

/-- All bytes are split by the rules in one way, and the records are what they are split into. -/
theorem splitsInto_iff (bytes : Bytes) (contents : List (List Bytes)) :
    SplitsInto (unmarked bytes) contents ↔ (records bytes).map Record.fields = contents := by
  have read (contents : List (List Bytes)) (splits : SplitsInto (unmarked bytes) contents) :
      (records bytes).map Record.fields = contents := by
    have initial (start : Nat) : (State.initial start).Between [] := ⟨rfl, rfl, rfl, rfl⟩
    rw [records, List.map_reverse]
    exact ((initial _).read_all splits).sameRecords
  refine ⟨read contents, fun same => ?_⟩
  obtain ⟨other, splits⟩ := exists_splits (unmarked bytes)
  rw [← same, read other splits]
  exact splits

/-- Text behind a closing quote, with a quote in it, and a quote that is never closed. -/
example : (records (Utf8.ofString "address\n\"a\"\"b\"c\"d,\"e\nf")).map Record.fields =
    [["address"], ["a\"bc\"d", "e\nf"]].map (List.map Utf8.ofString) := by
  decide +kernel

end Trickle.Csv
