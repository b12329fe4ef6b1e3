/-
This file proves that reading an address file undoes writing it. A table is written line
by line: each cell in quotes or, where nothing in it would be taken for something else,
as it is; each line behind the end of the line before, in any of the three forms a line
end has; blank lines wherever they may stand, and perhaps a byte order mark in front.
Whatever was chosen, the records read are those of the lines, cell by cell, and the rows
of the file are the first cells of all lines but the first.

The machine is followed from one byte to the next by what it holds: the cells of the
record in progress and the records before it. Where it stands in the file it knows too,
but nothing it holds depends on that.
-/

import Mathlib.Data.List.Infix
import Trickle.AddressFile.Rows
import Trickle.Proofs.Utf8

namespace Trickle.Csv

/-! ### How tables are written -/

/-- The forms that the end of a line can have. -/
inductive LineEnd where
  | feed
  | carriage
  | carriageFeed
  deriving DecidableEq, Repr

/-- The bytes of a line end. -/
def LineEnd.bytes : LineEnd → Bytes
  | .feed => [lineFeed]
  | .carriage => [carriageReturn]
  | .carriageFeed => [carriageReturn, lineFeed]

/-- Whether a cell can stand without quotes: it does not start with one, and no byte of it ends a
cell. -/
structure Plain (content : Bytes) : Prop where
  unquoted : content.head? ≠ some quote
  unbroken : ∀ byte ∈ content, byte ≠ comma ∧ isTerminator byte = false

/-- A cell, with the way it is written. -/
inductive Cell where
  | bare (content : Bytes) (plain : Plain content)
  | quoted (content : Bytes)

namespace Cell

/-- What a cell holds. -/
def content : Cell → Bytes
  | .bare content _ => content
  | .quoted content => content

/-- A byte inside quotes: a quote is written twice. -/
def doubled (byte : UInt8) : Bytes :=
  if byte = quote then [quote, quote] else [byte]

/-- The bytes of a cell. -/
def bytes : Cell → Bytes
  | .bare content _ => content
  | .quoted content => quote :: (content.flatMap doubled ++ [quote])

end Cell

/-- A line of cells. A single cell that holds nothing has to be quoted, as the line would be blank
without. -/
structure Line where
  first : Cell
  others : List Cell
  visible : others = [] → first.bytes ≠ []

namespace Line

/-- What the cells of a line hold. -/
def contents (line : Line) : List Bytes :=
  line.first.content :: line.others.map Cell.content

/-- The bytes of a line, without its end. -/
def bytes (line : Line) : Bytes :=
  line.first.bytes ++ line.others.flatMap fun cell => comma :: cell.bytes

end Line

/-- The bytes of some line ends. -/
def ends (lineEnds : List LineEnd) : Bytes :=
  lineEnds.flatMap LineEnd.bytes

/-- A line of texts behind another line: how that one ends, the blank lines between, and what the
cells say. -/
structure Row where
  lineEnd : LineEnd
  blanks : List LineEnd
  line : Line
  text : String
  others : List String
  written : line.contents = (text :: others).map Utf8.ofString

/-- The bytes of a row, from the end of the line before. -/
def Row.bytes (row : Row) : Bytes :=
  ends (row.lineEnd :: row.blanks) ++ row.line.bytes

/-- A table: perhaps a byte order mark, blank lines, a header of any bytes, rows of texts, and the
end of the last line with the blank lines behind it, if it has an end. Without a byte order mark, no
cell at the very start may look like one. -/
structure Table where
  marked : Bool
  blanks : List LineEnd
  header : Line
  rows : List Row
  closing : List LineEnd
  unmistakable : marked = false → blanks = [] → ¬ byteOrderMark <+: header.first.bytes

namespace Table

/-- The bytes of a table behind its byte order mark. -/
def body (table : Table) : Bytes :=
  ends table.blanks ++ (table.header.bytes ++ (table.rows.flatMap Row.bytes ++ ends table.closing))

/-- The bytes of a table. -/
def bytes (table : Table) : Bytes :=
  (if table.marked then byteOrderMark else []) ++ table.body

end Table

/-! ### Line ends -/

theorem isTerminator_of_mem_bytes {lineEnd : LineEnd} {byte : UInt8}
    (member : byte ∈ lineEnd.bytes) : isTerminator byte = true := by
  cases lineEnd with
  | feed | carriage =>
    obtain rfl := List.mem_singleton.mp member
    rfl
  | carriageFeed =>
    rcases List.mem_cons.mp member with rfl | member
    · rfl
    · obtain rfl := List.mem_singleton.mp member
      rfl

theorem isTerminator_of_mem_ends {lineEnds : List LineEnd} {byte : UInt8}
    (member : byte ∈ ends lineEnds) : isTerminator byte = true := by
  obtain ⟨lineEnd, _, member⟩ := List.mem_flatMap.mp member
  exact isTerminator_of_mem_bytes member

theorem exists_ends_eq_cons (lineEnd : LineEnd) (blanks : List LineEnd) :
    ∃ first rest, ends (lineEnd :: blanks) = first :: rest := by
  cases lineEnd <;> exact ⟨_, _, rfl⟩

/-! ### What the machine holds -/

/-- Whether the machine stands in front of a cell. -/
def Phase.opens : Phase → Bool
  | .betweenRecords | .fieldStart => true
  | _ => false

/-- What the machine holds: the part of a cell and the cells of the record in progress, and the
cells of the records before. -/
structure State.Holds (state : State) (phase : Phase) (field : Bytes) (fields : List Bytes)
    (records : List (List Bytes)) : Prop where
  samePhase : state.phase = phase
  sameField : state.field.reverse = field
  sameFields : state.fields.reverse = fields
  sameRecords : (state.records.map Record.fields).reverse = records

namespace State.Holds

variable {state : State} {phase : Phase} {field : Bytes} {fields : List Bytes}
  {records : List (List Bytes)} {byte : UInt8}

/-- Moving on changes nothing that is held. -/
theorem advance (holds : state.Holds phase field fields records) (byte : UInt8) :
    (state.advance byte).Holds phase field fields records :=
  ⟨holds.samePhase, holds.sameField, holds.sameFields, holds.sameRecords⟩

theorem enter (holds : state.Holds phase field fields records) (next : Phase) :
    State.Holds { state with phase := next } next field fields records :=
  ⟨rfl, holds.sameField, holds.sameFields, holds.sameRecords⟩

theorem push (holds : state.Holds phase field fields records) (next : Phase) (byte : UInt8) :
    (state.push next byte).Holds next (field ++ [byte]) fields records := by
  refine ⟨rfl, ?_, holds.sameFields, holds.sameRecords⟩
  rw [← holds.sameField]
  exact List.reverse_cons

theorem endField (holds : state.Holds phase field fields records) :
    state.endField.Holds .fieldStart [] (fields ++ [field]) records := by
  refine ⟨rfl, rfl, ?_, holds.sameRecords⟩
  rw [← holds.sameField, ← holds.sameFields]
  exact List.reverse_cons

theorem endRecord (holds : state.Holds phase field fields records) :
    state.endRecord.Holds .betweenRecords [] [] (records ++ [fields ++ [field]]) := by
  refine ⟨rfl, rfl, rfl, ?_⟩
  rw [← holds.sameRecords, ← holds.sameField, ← holds.sameFields, ← List.reverse_cons,
    ← List.reverse_cons]
  rfl

/-! ### One byte -/

theorem step_blank (holds : state.Holds .betweenRecords field fields records)
    (terminator : isTerminator byte = true) :
    (state.step byte).Holds .betweenRecords field fields records := by
  rw [step, holds.samePhase]
  simp only [terminator, if_true]
  exact holds.advance byte

theorem step_comma (holds : state.Holds phase field fields records) (closed : phase ≠ .quoted) :
    (state.step comma).Holds .fieldStart [] (fields ++ [field]) records := by
  have ended := (holds.advance comma).endField
  rw [step, holds.samePhase]
  cases phase with
  | quoted => exact absurd rfl closed
  | _ => exact ended

theorem step_terminator (holds : state.Holds phase field fields records)
    (closed : phase ≠ .quoted) (begun : phase ≠ .betweenRecords)
    (terminator : isTerminator byte = true) :
    (state.step byte).Holds .betweenRecords [] [] (records ++ [fields ++ [field]]) := by
  have ended := (holds.advance byte).endRecord
  have noComma : byte ≠ comma := by
    rintro rfl
    exact absurd terminator (by decide)
  have noQuote : byte ≠ quote := by
    rintro rfl
    exact absurd terminator (by decide)
  rw [step, holds.samePhase]
  cases phase with
  | quoted => exact absurd rfl closed
  | betweenRecords => exact absurd rfl begun
  | _ =>
    simpa only [openField, closeOrPush, if_neg noQuote, if_neg noComma, terminator, if_true]
      using ended

theorem step_openQuote (holds : state.Holds phase field fields records)
    (opens : phase.opens = true) : (state.step quote).Holds .quoted field fields records := by
  have opened := (holds.advance quote).enter .quoted
  rw [step, holds.samePhase]
  cases phase with
  | betweenRecords => exact opened
  | fieldStart => exact opened
  | _ => exact absurd opens (by decide)

/-- A byte that has no meaning of its own is added to a cell without quotes. -/
theorem step_bare (holds : state.Holds phase field fields records)
    (accepts : phase = .bare ∨ phase.opens = true ∧ byte ≠ quote)
    (plain : byte ≠ comma ∧ isTerminator byte = false) :
    (state.step byte).Holds .bare (field ++ [byte]) fields records := by
  have pushed := (holds.advance byte).push .bare byte
  have added : (state.advance byte).closeOrPush byte = (state.advance byte).push .bare byte := by
    rw [closeOrPush, if_neg plain.1, plain.2]
    rfl
  rw [step, holds.samePhase]
  rcases accepts with rfl | ⟨opens, noQuote⟩
  · exact added ▸ pushed
  · have opened : (state.advance byte).openField byte = (state.advance byte).push .bare byte := by
      rw [openField, if_neg noQuote, added]
    cases phase with
    | betweenRecords =>
      simp only [plain.2, Bool.false_eq_true, if_false]
      exact opened ▸ pushed
    | fieldStart => exact opened ▸ pushed
    | _ => exact absurd opens (by decide)

theorem step_quoted (holds : state.Holds .quoted field fields records) (noQuote : byte ≠ quote) :
    (state.step byte).Holds .quoted (field ++ [byte]) fields records := by
  rw [step, holds.samePhase]
  simp only [if_neg noQuote]
  exact (holds.advance byte).push .quoted byte

theorem step_closeQuote (holds : state.Holds .quoted field fields records) :
    (state.step quote).Holds .quoteSeen field fields records := by
  rw [step, holds.samePhase]
  exact (holds.advance quote).enter .quoteSeen

/-- The second quote of a doubled one belongs to the cell, which is still open. -/
theorem step_secondQuote (holds : state.Holds .quoteSeen field fields records) :
    (state.step quote).Holds .quoted (field ++ [quote]) fields records := by
  rw [step, holds.samePhase]
  exact (holds.advance quote).push .quoted quote

/-! ### One cell -/

theorem read_bare (holds : state.Holds .bare field fields records) {content : Bytes}
    (plain : ∀ byte ∈ content, byte ≠ comma ∧ isTerminator byte = false) :
    (content.foldl step state).Holds .bare (field ++ content) fields records := by
  induction content generalizing state field with
  | nil => rwa [List.append_nil]
  | cons byte rest inductionHypothesis =>
    have next := holds.step_bare (.inl rfl) (plain byte List.mem_cons_self)
    rw [List.foldl_cons, List.append_cons]
    exact inductionHypothesis next fun later member => plain later (List.mem_cons_of_mem _ member)

theorem read_doubled (holds : state.Holds .quoted field fields records) (content : Bytes) :
    ((content.flatMap Cell.doubled).foldl step state).Holds .quoted (field ++ content) fields
      records := by
  induction content generalizing state field with
  | nil => rwa [List.append_nil]
  | cons byte rest inductionHypothesis =>
    rw [List.flatMap_cons, List.foldl_append, List.append_cons]
    refine inductionHypothesis ?_
    by_cases isQuote : byte = quote
    · rw [Cell.doubled, if_pos isQuote, isQuote]
      exact holds.step_closeQuote.step_secondQuote
    · rw [Cell.doubled, if_neg isQuote]
      exact holds.step_quoted isQuote

/-- A cell is read whole. Behind it the machine can take a comma, and a line end too unless it has
read nothing since the last one. -/
theorem read_cell (holds : state.Holds phase [] fields records) (opens : phase.opens = true)
    (cell : Cell) :
    ∃ next, (cell.bytes.foldl step state).Holds next cell.content fields records ∧
      next ≠ .quoted ∧ (next = .betweenRecords → phase = .betweenRecords ∧ cell.bytes = []) := by
  cases cell with
  | bare content plain =>
    cases content with
    | nil =>
      refine ⟨phase, holds, ?_, fun between => ⟨between, rfl⟩⟩
      rintro rfl
      exact absurd opens (by decide)
    | cons byte rest =>
      have noQuote : byte ≠ quote := fun isQuote => plain.unquoted (congrArg some isQuote)
      have begun := holds.step_bare (.inr ⟨opens, noQuote⟩) (plain.unbroken byte List.mem_cons_self)
      exact ⟨.bare, begun.read_bare fun later member =>
        plain.unbroken later (List.mem_cons_of_mem _ member), nofun, nofun⟩
  | quoted content =>
    have closed := ((holds.step_openQuote opens).read_doubled content).step_closeQuote
    refine ⟨.quoteSeen, ?_, nofun, nofun⟩
    show ((quote :: (content.flatMap Cell.doubled ++ [quote])).foldl step state).Holds _ _ _ _
    rw [List.foldl_cons, List.foldl_append]
    exact closed

end State.Holds

/-! ### One line -/

/-- The machine has read whole records, and nothing of the next one. -/
def State.Between (state : State) (records : List (List Bytes)) : Prop :=
  state.Holds .betweenRecords [] [] records

/-- The machine has read whole records and all cells of one more, but not its end. -/
def State.Behind (state : State) (contents : List Bytes) (records : List (List Bytes)) : Prop :=
  ∃ phase field fields, state.Holds phase field fields records ∧ phase ≠ .quoted ∧
    phase ≠ .betweenRecords ∧ fields ++ [field] = contents

namespace State

variable {state : State} {contents : List Bytes} {records : List (List Bytes)}

theorem Holds.read_others {phase : Phase} {field : Bytes} {fields : List Bytes}
    (holds : state.Holds phase field fields records) (closed : phase ≠ .quoted)
    (cells : List Cell) :
    ∃ next last before,
      ((cells.flatMap fun cell => comma :: cell.bytes).foldl step state).Holds next last before
        records ∧
      next ≠ .quoted ∧ (next = .betweenRecords → phase = .betweenRecords ∧ cells = []) ∧
      before ++ [last] = fields ++ [field] ++ cells.map Cell.content := by
  induction cells generalizing state phase field fields with
  | nil => exact ⟨phase, field, fields, holds, closed, fun between => ⟨between, rfl⟩, by simp⟩
  | cons cell rest inductionHypothesis =>
    obtain ⟨middle, read, closed, within⟩ := (holds.step_comma closed).read_cell rfl cell
    obtain ⟨next, last, before, holds, closed, unread, same⟩ := inductionHypothesis read closed
    rw [List.flatMap_cons, List.foldl_append, List.foldl_cons]
    refine ⟨next, last, before, holds, closed, fun between => ?_, ?_⟩
    · exact nomatch (within (unread between).1).1
    · rw [same, List.map_cons, List.append_assoc, List.append_assoc, List.append_assoc]
      rfl

theorem Between.read_line (between : state.Between records) (line : Line) :
    (line.bytes.foldl step state).Behind line.contents records := by
  obtain ⟨middle, read, closed, within⟩ := between.read_cell rfl line.first
  obtain ⟨next, last, before, holds, closed, unread, same⟩ := read.read_others closed line.others
  rw [Line.bytes, List.foldl_append]
  refine ⟨next, last, before, holds, closed, fun blank => ?_, same⟩
  exact line.visible (unread blank).2 (within (unread blank).1).2

/-! ### Ends of lines and of tables -/

/-- Between records line ends are passed over. -/
theorem Between.read_terminators (between : state.Between records) {bytes : Bytes}
    (terminators : ∀ byte ∈ bytes, isTerminator byte = true) :
    (bytes.foldl step state).Between records := by
  induction bytes generalizing state with
  | nil => exact between
  | cons byte rest inductionHypothesis =>
    exact inductionHypothesis (between.step_blank (terminators byte List.mem_cons_self))
      fun later member => terminators later (List.mem_cons_of_mem _ member)

/-- The first byte of a line end ends the record, and the second byte and blank lines end nothing
more. -/
theorem Behind.read_ends (behind : state.Behind contents records) (lineEnd : LineEnd)
    (blanks : List LineEnd) :
    ((ends (lineEnd :: blanks)).foldl step state).Between (records ++ [contents]) := by
  obtain ⟨phase, field, fields, holds, closed, begun, rfl⟩ := behind
  obtain ⟨first, rest, split⟩ := exists_ends_eq_cons lineEnd blanks
  have terminators (byte : UInt8) (member : byte ∈ first :: rest) : isTerminator byte = true :=
    isTerminator_of_mem_ends (split ▸ member)
  rw [split]
  exact Between.read_terminators
    (holds.step_terminator closed begun (terminators first List.mem_cons_self))
    fun byte member => terminators byte (List.mem_cons_of_mem _ member)

/-! ### A whole table -/

theorem Behind.read_rows (behind : state.Behind contents records) (rows : List Row) :
    ∃ last before, ((rows.flatMap Row.bytes).foldl step state).Behind last before ∧
      before ++ [last] = records ++ contents :: rows.map fun row => row.line.contents := by
  induction rows generalizing state contents records with
  | nil => exact ⟨contents, records, behind, rfl⟩
  | cons row rest inductionHypothesis =>
    have next := (behind.read_ends row.lineEnd row.blanks).read_line row.line
    obtain ⟨last, before, behind, same⟩ := inductionHypothesis next
    rw [List.flatMap_cons, List.foldl_append, Row.bytes, List.foldl_append]
    refine ⟨last, before, behind, ?_⟩
    rw [same, List.append_assoc]
    rfl

/-- The end of the bytes ends a record. -/
theorem Holds.finish {phase : Phase} {field : Bytes} {fields : List Bytes}
    (holds : state.Holds phase field fields records) (begun : phase ≠ .betweenRecords) :
    state.finish.Between (records ++ [fields ++ [field]]) := by
  have inside : state.phase ≠ .betweenRecords := holds.samePhase ▸ begun
  rw [State.finish, if_neg inside]
  exact holds.endRecord

theorem Behind.finish (behind : state.Behind contents records) :
    state.finish.Between (records ++ [contents]) := by
  obtain ⟨phase, field, fields, holds, _, begun, rfl⟩ := behind
  exact holds.finish begun

theorem Between.finish (between : state.Between records) : state.finish.Between records := by
  rw [State.finish, if_pos between.samePhase]
  exact between

/-- The end of the last line may be missing. -/
theorem Behind.read_closing (behind : state.Behind contents records) (closing : List LineEnd) :
    (((ends closing).foldl step state).finish).Between (records ++ [contents]) := by
  cases closing with
  | nil => exact behind.finish
  | cons lineEnd blanks => exact (behind.read_ends lineEnd blanks).finish

end State

/-! ### The byte order mark -/

/-- What stands in front of a byte that the mark does not have is not completed to a mark by it. -/
theorem isPrefix_of_isPrefix_append {mark first second : Bytes}
    (isPrefix : mark <+: first ++ second)
    (apart : ∀ byte, second.head? = some byte → byte ∉ mark) : mark <+: first := by
  rcases List.prefix_or_prefix_of_prefix isPrefix (List.prefix_append first second) with
    shorter | ⟨rest, rfl⟩
  · exact shorter
  · obtain ⟨behind, rfl⟩ := (List.prefix_append_right_inj first).mp isPrefix
    cases rest with
    | nil => exact ⟨[], by simp⟩
    | cons byte rest =>
      exact absurd (List.mem_append_right first List.mem_cons_self) (apart byte rfl)

/-- Neither what separates cells nor what ends lines occurs in the mark. -/
theorem not_mem_byteOrderMark {byte : UInt8} (separates : byte = comma ∨ isTerminator byte = true) :
    byte ∉ byteOrderMark := by
  intro member
  simp only [byteOrderMark, List.mem_cons, List.not_mem_nil, or_false] at member
  rcases member with rfl | rfl | rfl <;> exact absurd separates (by decide)

theorem isTerminator_of_head?_ends_append {lineEnd : LineEnd} {blanks : List LineEnd}
    {rest : Bytes} {byte : UInt8}
    (isHead : (ends (lineEnd :: blanks) ++ rest).head? = some byte) : isTerminator byte = true := by
  obtain ⟨first, more, split⟩ := exists_ends_eq_cons lineEnd blanks
  rw [split] at isHead
  obtain rfl := Option.some.inj isHead
  exact isTerminator_of_mem_ends (split ▸ List.mem_cons_self)

namespace Table

variable (table : Table)

/-- Behind its first cell a table goes on with a comma or with a line end, if it goes on. -/
theorem separates_of_behind_first {byte : UInt8}
    (isHead : ((table.header.others.flatMap fun cell => comma :: cell.bytes) ++
      (table.rows.flatMap Row.bytes ++ ends table.closing)).head? = some byte) :
    byte = comma ∨ isTerminator byte = true := by
  cases others : table.header.others with
  | cons cell cells =>
    rw [others] at isHead
    exact .inl (Option.some.inj isHead).symm
  | nil =>
    rw [others] at isHead
    cases rows : table.rows with
    | cons row rows' =>
      rw [rows, List.flatMap_cons, Row.bytes, List.append_assoc, List.append_assoc] at isHead
      exact .inr (isTerminator_of_head?_ends_append isHead)
    | nil =>
      rw [rows] at isHead
      cases closing : table.closing with
      | nil =>
        rw [closing] at isHead
        exact nomatch isHead
      | cons lineEnd blanks =>
        rw [closing, List.flatMap_nil, List.nil_append,
          ← List.append_nil (ends (lineEnd :: blanks))] at isHead
        exact .inr (isTerminator_of_head?_ends_append isHead)

/-- A table without a byte order mark does not look as if it had one. -/
theorem not_isPrefix_body (unmarked : table.marked = false) : ¬ byteOrderMark <+: table.body := by
  intro isPrefix
  rw [body] at isPrefix
  cases blanks : table.blanks with
  | nil =>
    rw [blanks, Line.bytes, List.append_assoc] at isPrefix
    exact table.unmistakable unmarked blanks (isPrefix_of_isPrefix_append isPrefix
      fun byte isHead => not_mem_byteOrderMark (table.separates_of_behind_first isHead))
  | cons lineEnd more =>
    rw [blanks] at isPrefix
    have empty : byteOrderMark <+: [] := isPrefix_of_isPrefix_append
      (show byteOrderMark <+: [] ++ _ from isPrefix)
      fun byte isHead => not_mem_byteOrderMark (.inr (isTerminator_of_head?_ends_append isHead))
    exact absurd (List.prefix_nil.mp empty) (by decide)

/-! ### A whole table -/

theorem fields_body (start : Nat) :
    (((table.body.foldl State.step (.initial start)).finish).records.reverse).map Record.fields =
      table.header.contents :: table.rows.map fun row => row.line.contents := by
  have initial : (State.initial start).Between [] := ⟨rfl, rfl, rfl, rfl⟩
  have terminators (byte : UInt8) (member : byte ∈ ends table.blanks) : isTerminator byte = true :=
    isTerminator_of_mem_ends member
  have behind := (initial.read_terminators terminators).read_line table.header
  obtain ⟨last, before, behind, same⟩ := behind.read_rows table.rows
  have read := (behind.read_closing table.closing).sameRecords
  rw [body, List.foldl_append, List.foldl_append, List.foldl_append, List.map_reverse, read, same]
  rfl

/-- The records of a table are its lines, cell by cell. -/
theorem fields_records_bytes :
    (records table.bytes).map Record.fields =
      table.header.contents :: table.rows.map fun row => row.line.contents := by
  cases marked : table.marked with
  | true =>
    have isPrefix : byteOrderMark.isPrefixOf (byteOrderMark ++ table.body) = true :=
      List.isPrefixOf_iff_prefix.mpr (List.prefix_append _ _)
    rw [bytes, marked, if_pos rfl, records, if_pos isPrefix, if_pos isPrefix]
    exact table.fields_body 3
  | false =>
    have noPrefix : ¬ byteOrderMark.isPrefixOf table.body = true := fun isPrefix =>
      table.not_isPrefix_body marked (List.isPrefixOf_iff_prefix.mp isPrefix)
    rw [bytes, marked, if_neg Bool.false_ne_true, List.nil_append, records, if_neg noPrefix,
      if_neg noPrefix]
    exact table.fields_body 0

end Table

end Trickle.Csv

namespace Trickle.AddressFile

open Csv

/-! ### The rows of the file -/

theorem badField?_eq_none (texts : List String) (index : Nat) :
    badField? index (texts.map Utf8.ofString) = none := by
  induction texts generalizing index with
  | nil => rfl
  | cons text rest inductionHypothesis =>
    rw [List.map_cons, badField?, if_pos (Utf8.isValid_ofString text)]
    exact inductionHypothesis (index + 1)

theorem row_of_texts (number : Nat) (header record : Record) {text : String} {others : List String}
    (fields : record.fields = (text :: others).map Utf8.ofString) :
    row number header record = .ok text := by
  rw [row, fields, badField?_eq_none]
  simp only [List.map_cons, List.headD_cons, Utf8.scan_ofString, String.ofList_toList]

theorem rowsFrom_of_written (header : Record) (number : Nat) (records : List Record)
    (rows : List Row)
    (fields : records.map Record.fields = rows.map fun row => row.line.contents) :
    rowsFrom header number records = .ok (rows.map Row.text) := by
  induction records generalizing number rows with
  | nil =>
    obtain rfl := List.map_eq_nil_iff.mp fields.symm
    rfl
  | cons record records inductionHypothesis =>
    cases rows with
    | nil => exact nomatch fields
    | cons row rows =>
      obtain ⟨first, rest⟩ := List.cons.inj fields
      rw [rowsFrom, row_of_texts number header record (first.trans row.written),
        inductionHypothesis (number + 1) rows rest]
      rfl

/-- Reading undoes writing: however a table is written, the file has a cursor at the first of its
rows, and these are the texts of the first cells of all lines behind the header, in order. -/
theorem cursor_bytes (table : Table) :
    cursor table.bytes = .ok (Cursor.ofRows (table.rows.map Row.text).toArray) := by
  have fields := table.fields_records_bytes
  rw [cursor, rows]
  cases records : Csv.records table.bytes with
  | nil =>
    rw [records] at fields
    exact nomatch fields
  | cons header rest =>
    rw [records] at fields
    simp only [rowsFrom_of_written header 1 rest table.rows (List.cons.inj fields).2]
    rfl

/-- Behind a byte order mark and a blank line, a file with line ends of every form: its first row
holds a comma, quotes and a line feed and has a second cell, and blank lines stand before its second
row, which needs no quotes. -/
theorem cursor_of_quoted_row :
    ∃ table : Table,
      table.bytes = byteOrderMark ++ Utf8.ofString
        "\naddress;balance\r\n\"0xaa,\"\"cold\"\"\n;2\",memo\r\r\n\n0xbb;1.5\r\n" ∧
      cursor table.bytes = .ok (Cursor.ofRows #["0xaa,\"cold\"\n;2", "0xbb;1.5"]) := by
  have header : Plain (Utf8.ofString "address;balance") := ⟨by decide +kernel, by decide +kernel⟩
  have memo : Plain (Utf8.ofString "memo") := ⟨by decide +kernel, by decide +kernel⟩
  have second : Plain (Utf8.ofString "0xbb;1.5") := ⟨by decide +kernel, by decide +kernel⟩
  have visible : Utf8.ofString "address;balance" ≠ [] ∧ Utf8.ofString "0xbb;1.5" ≠ [] := by
    decide +kernel
  let table : Table := {
    marked := true
    blanks := [.feed]
    header := ⟨.bare _ header, [], fun _ => visible.1⟩
    rows := [
      { lineEnd := .carriageFeed
        blanks := []
        line := ⟨.quoted (Utf8.ofString "0xaa,\"cold\"\n;2"), [.bare _ memo], nofun⟩
        text := "0xaa,\"cold\"\n;2"
        others := ["memo"]
        written := rfl },
      { lineEnd := .carriage
        blanks := [.carriageFeed, .feed]
        line := ⟨.bare _ second, [], fun _ => visible.2⟩
        text := "0xbb;1.5"
        others := []
        written := rfl }]
    closing := [.carriageFeed]
    unmistakable := nofun }
  exact ⟨table, rfl, cursor_bytes table⟩

end Trickle.AddressFile
