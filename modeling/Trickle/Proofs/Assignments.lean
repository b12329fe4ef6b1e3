/-
This file proves that reading a document of assignments undoes writing it. Each line
gives a key a text or an integer, or gives nothing; gaps stand anywhere between the parts
of a line, a comment may end it, and a line ends in either of the two forms a line end
has. Whatever was chosen, the statements read are the assignments of the lines, in order,
and if no key is assigned twice they make a document of these entries.
-/

import Trickle.Proofs.WrittenValues
import Trickle.Toml.Document

namespace Trickle.Toml

/-! ### How assignments are written -/

/-- A key without quotes. -/
structure Key where
  chars : List Char
  filled : chars ≠ []
  bare : chars.all isKeyChar = true

/-- The key that is meant. -/
def Key.name (key : Key) : String :=
  String.ofList key.chars

/-- A gap of any length, perhaps of none. -/
structure Gap where
  chars : List Char
  gaps : chars.all isGap = true

/-- A comment, without its mark. -/
structure Comment where
  text : List Char
  plain : text.all isPlain = true

/-- What is written for a comment. -/
def Comment.chars (comment : Comment) : List Char :=
  '#' :: comment.text

/-- A key with its value, and the gaps around the equals sign and behind the value. -/
structure Assignment where
  key : Key
  beforeEquals : Gap
  afterEquals : Gap
  value : Value
  afterValue : Gap

namespace Assignment

/-- The entry that is meant. -/
def entry (assignment : Assignment) : String × Node :=
  (assignment.key.name, assignment.value.node)

/-- What is written. -/
def chars (assignment : Assignment) : List Char :=
  assignment.key.chars ++ (assignment.beforeEquals.chars ++ '=' ::
    (assignment.afterEquals.chars ++ (assignment.value.chars ++ assignment.afterValue.chars)))

end Assignment

/-- A line: a gap, perhaps an assignment, and perhaps a comment. -/
structure Line where
  indent : Gap
  assignment : Option Assignment
  comment : Option Comment

namespace Line

/-- What is written. -/
def chars (line : Line) : List Char :=
  line.indent.chars ++
    (line.assignment.elim [] Assignment.chars ++ line.comment.elim [] Comment.chars)

/-- What the assignment means, if there is one. -/
def entries (line : Line) : Entries :=
  (line.assignment.map Assignment.entry).toList

end Line

/-- The forms that the end of a line can have. -/
inductive Ending where
  | feed
  | carriageFeed
  deriving DecidableEq, Repr

/-- The characters of a line end. -/
def Ending.chars : Ending → List Char
  | .feed => ['\n']
  | .carriageFeed => ['\r', '\n']

/-- Lines with their ends, and one more line, which has none. -/
structure Document where
  lines : List (Line × Ending)
  last : Line

namespace Document

/-- What is written. -/
def chars (document : Document) : List Char :=
  document.lines.flatMap (fun line => line.1.chars ++ line.2.chars) ++ document.last.chars

/-- The text of a document. -/
def text (document : Document) : String :=
  String.ofList document.chars

/-- What the assignments mean, in order. -/
def entries (document : Document) : Entries :=
  document.lines.flatMap (fun line => line.1.entries) ++ document.last.entries

end Document

/-! ### Gaps, comments and line ends -/

/-- Where the text goes on behind a line that is over: behind the line end, if there is one. -/
inductive Ends : (text rest : List Char) → Prop where
  | atEnd : Ends [] []
  | behind (ending : Ending) (rest : List Char) : Ends (ending.chars ++ rest) rest

theorem skipGap_of_stops {text : List Char} (stops : ∀ char ∈ text.head?, isGap char = false) :
    skipGap text = text := by
  cases text with
  | nil => rfl
  | cons first rest => exact List.dropWhile_cons_of_neg (by rw [stops first rfl]; decide)

theorem skipGap_append (gap : Gap) {rest : List Char}
    (stops : ∀ char ∈ rest.head?, isGap char = false) : skipGap (gap.chars ++ rest) = rest := by
  rw [skipGap, List.dropWhile_append_of_pos (List.all_eq_true.mp gap.gaps)]
  exact skipGap_of_stops stops

/-- What a comment, if there is one, puts in front of the end of its line. -/
def remark (comment : Option Comment) (text : List Char) : List Char :=
  comment.elim [] Comment.chars ++ text

section Lines

variable {text rest : List Char}

theorem Ends.head (ends : Ends text rest) : ∀ char ∈ text.head?, char = '\n' ∨ char = '\r' := by
  intro char first
  cases ends with
  | atEnd => exact absurd first (by simp)
  | behind ending =>
    cases ending with
    | feed => exact .inl (Option.some.inj first).symm
    | carriageFeed => exact .inr (Option.some.inj first).symm

theorem Ends.head_remark (ends : Ends text rest) (comment : Option Comment) :
    ∀ char ∈ (remark comment text).head?, char = '#' ∨ char = '\n' ∨ char = '\r' := by
  intro char first
  cases comment with
  | none => exact .inr (ends.head char first)
  | some => exact .inl (Option.some.inj first).symm

theorem Ends.stops_remark (ends : Ends text rest) (comment : Option Comment) :
    ∀ char ∈ (remark comment text).head?, isGap char = false := by
  intro char first
  rcases ends.head_remark comment char first with rfl | rfl | rfl <;> rfl

theorem Ends.closed (ends : Ends text rest) (comment : Option Comment) (gap : Gap) :
    Closed (gap.chars ++ remark comment text) := by
  intro char first
  rcases mem_of_mem_head?_append first with inGap | ⟨_, behind⟩
  · exact .inl (List.all_eq_true.mp gap.gaps char inGap)
  · exact .inr (ends.head_remark comment char behind)

theorem Ends.skipComment_remark (ends : Ends text rest) (comment : Option Comment) :
    skipComment (remark comment text) = text := by
  cases comment with
  | none =>
    show skipComment text = text
    unfold skipComment
    split
    · rcases ends.head _ rfl with same | same <;> exact absurd same (by decide)
    · rfl
  | some comment =>
    show (comment.text ++ text).dropWhile isPlain = text
    rw [List.dropWhile_append_of_pos (List.all_eq_true.mp comment.plain)]
    cases text with
    | nil => rfl
    | cons first rest =>
      refine List.dropWhile_cons_of_neg ?_
      rcases ends.head first rfl with rfl | rfl <;> decide

theorem Ends.restOfLine?_remark (ends : Ends text rest) (comment : Option Comment) (gap : Gap) :
    restOfLine? (gap.chars ++ remark comment text) = some rest := by
  rw [restOfLine?, skipGap_append gap (ends.stops_remark comment), ends.skipComment_remark]
  cases ends with
  | atEnd => rfl
  | behind ending => cases ending <;> rfl

/-! ### Assignments -/

theorem isKeyChar_not_gap {char : Char} (isKey : isKeyChar char = true) : isGap char = false := by
  refine Bool.eq_false_iff.mpr fun gap => ?_
  rcases eq_of_isGap gap with rfl | rfl <;> exact absurd isKey (by decide)

theorem Key.head (key : Key) (rest : List Char) :
    ∀ char ∈ (key.chars ++ rest).head?, isKeyChar char = true := by
  intro char first
  rcases mem_of_mem_head?_append first with inKey | ⟨empty, _⟩
  · exact List.all_eq_true.mp key.bare char inKey
  · exact absurd empty key.filled

theorem Key.append_ne (key : Key) {other : Char} (noKey : isKeyChar other = false)
    (rest more : List Char) : key.chars ++ rest ≠ other :: more := by
  intro same
  have isKey := key.head rest other (congrArg List.head? same)
  rw [noKey] at isKey
  exact absurd isKey (by decide)

theorem key?_chars (key : Key) {rest : List Char}
    (stops : ∀ char ∈ rest.head?, isKeyChar char = false) :
    key? (key.chars ++ rest) = some (key.name, rest) := by
  have stopped : rest.takeWhile isKeyChar = [] ∧ rest.dropWhile isKeyChar = rest := by
    cases rest with
    | nil => exact ⟨rfl, rfl⟩
    | cons first rest =>
      have stop : ¬ isKeyChar first = true := by
        rw [stops first rfl]
        decide
      exact ⟨List.takeWhile_cons_of_neg stop, List.dropWhile_cons_of_neg stop⟩
  have bare := List.all_eq_true.mp key.bare
  rw [key?, List.takeWhile_append_of_pos bare, List.dropWhile_append_of_pos bare, stopped.1,
    stopped.2, List.append_nil]
  · obtain ⟨chars, filled, bare⟩ := key
    cases chars with
    | nil => exact absurd rfl filled
    | cons => rfl
  · exact key.append_ne (by decide) rest
  · exact key.append_ne (by decide) rest

theorem head_equals (gap : Gap) (more : List Char) :
    ∀ char ∈ (gap.chars ++ '=' :: more).head?, isGap char = true ∨ char = '=' := by
  intro char first
  rcases mem_of_mem_head?_append first with inGap | ⟨_, behind⟩
  · exact .inl (List.all_eq_true.mp gap.gaps char inGap)
  · exact .inr (Option.some.inj behind).symm

theorem path?_chars (key : Key) (gap : Gap) (more : List Char) :
    path? (key.chars ++ (gap.chars ++ '=' :: more)) = some ([key.name], '=' :: more) := by
  have stops : ∀ char ∈ (gap.chars ++ '=' :: more).head?, isKeyChar char = false := by
    intro char first
    rcases head_equals gap more char first with isGap | rfl
    · refine Bool.eq_false_iff.mpr fun isKey => ?_
      rw [isKeyChar_not_gap isKey] at isGap
      exact absurd isGap (by decide)
    · rfl
  have begins : skipGap (key.chars ++ (gap.chars ++ '=' :: more)) =
      key.chars ++ (gap.chars ++ '=' :: more) :=
    skipGap_of_stops fun char first => isKeyChar_not_gap (key.head _ char first)
  have equals : ∀ char ∈ ('=' :: more).head?, isGap char = false := by
    rintro char ⟨⟩
    rfl
  show keys? (78 + 1) _ = _
  rw [keys?, begins, key?_chars key stops]
  simp only [Option.bind_eq_bind, Option.bind_some]
  rw [skipGap_append gap equals]
  rfl

theorem Value.stops (value : Value) (rest : List Char) :
    ∀ char ∈ (value.chars ++ rest).head?, isGap char = false := by
  intro char first
  obtain ⟨more, same⟩ := List.head?_eq_some_iff.mp first
  refine Bool.eq_false_iff.mpr fun gap => ?_
  rcases eq_of_isGap gap with rfl | rfl <;>
    exact absurd same (value.append_ne (by decide) rest more)

/-- An assignment is read to the end of its line. -/
theorem Ends.statement?_chars (ends : Ends text rest) (assignment : Assignment)
    (comment : Option Comment) :
    statement? (assignment.chars ++ remark comment text) =
      some (.assign [assignment.entry.1] assignment.entry.2, rest) := by
  obtain ⟨key, beforeEquals, afterEquals, value, afterValue⟩ := assignment
  have closed := ends.closed comment afterValue
  have ended := ends.restOfLine?_remark comment afterValue
  simp only [Assignment.chars, List.append_assoc, List.cons_append]
  rw [statement?]
  · simp only [pair?, path?_chars, Option.bind_eq_bind, Option.bind_some, expect?, if_true,
      skipGap_append afterEquals (value.stops _), value?_chars value closed, ended]
    rfl
  · exact fun _ => key.append_ne (by decide) _ _
  · exact fun _ => key.append_ne (by decide) _ _

end Lines

/-! ### Documents -/

/-- The statement that an entry comes from. -/
def assign (entry : String × Node) : Statement :=
  .assign [entry.1] entry.2

theorem Line.chars_append (line : Line) (text : List Char) :
    line.chars ++ text = line.indent.chars ++
      (line.assignment.elim [] Assignment.chars ++ remark line.comment text) := by
  simp only [Line.chars, remark, List.append_assoc]

/-- A line end never starts with a character of a key. -/
theorem lineEnd?_of_isKeyChar {first : Char} (isKey : isKeyChar first = true) (more : List Char) :
    lineEnd? (first :: more) = none := by
  have notEnd {other : Char} (noKey : isKeyChar other = false) (rest : List Char) :
      first :: more ≠ other :: rest := by
    intro same
    rw [List.head_eq_of_cons_eq same, noKey] at isKey
    exact absurd isKey (by decide)
  rw [lineEnd?]
  · exact notEnd (by decide)
  · exact fun _ => notEnd (by decide) _

theorem statements?_of_statement {text body rest : List Char} {statement : Statement}
    (behindGap : skipGap text = body) (begins : ∀ char ∈ body.head?, isKeyChar char = true)
    (filled : body ≠ []) (read : statement? body = some (statement, rest)) (rounds : Nat) :
    statements? (rounds + 1) text = (statements? rounds rest).map (statement :: ·) := by
  cases body with
  | nil => exact absurd rfl filled
  | cons first more =>
    have isKey := begins first rfl
    rw [statements?, behindGap]
    split
    · rename_i same
      exact absurd same (List.cons_ne_nil first more)
    · rename_i same
      rw [List.head_eq_of_cons_eq same] at isKey
      exact absurd isKey (by decide)
    · rw [lineEnd?_of_isKeyChar isKey, read]
      simp only [Option.bind_eq_bind, Option.bind_some]
      cases statements? rounds rest <;> rfl

/-- One more round reads one more line. -/
theorem statements?_line (line : Line) {text rest : List Char} (ends : Ends text rest)
    {rounds : Nat} {statements : List Statement}
    (read : statements? rounds rest = some statements) :
    statements? (rounds + 1) (line.chars ++ text) =
      some (line.entries.map assign ++ statements) := by
  rw [line.chars_append]
  obtain ⟨indent, assignment, comment⟩ := line
  cases assignment with
  | some assignment =>
    have begins : ∀ char ∈ (assignment.chars ++ remark comment text).head?,
        isKeyChar char = true := by
      rw [Assignment.chars, List.append_assoc]
      exact assignment.key.head _
    have behindGap := skipGap_append indent fun char first => isKeyChar_not_gap (begins char first)
    have filled : assignment.chars ++ remark comment text ≠ [] := by
      rw [Assignment.chars, List.append_assoc]
      exact List.append_ne_nil_of_left_ne_nil assignment.key.filled _
    show statements? (rounds + 1) (indent.chars ++ (assignment.chars ++ remark comment text)) = _
    rw [statements?_of_statement behindGap begins filled (ends.statement?_chars assignment comment),
      read]
    rfl
  | none =>
    have behindGap := skipGap_append indent (ends.stops_remark comment)
    show statements? (rounds + 1) (indent.chars ++ remark comment text) = some statements
    rw [statements?, behindGap]
    cases comment with
    | some comment =>
      have ended := ends.restOfLine?_remark (some comment) ⟨[], by simp⟩
      show (restOfLine? ('#' :: (comment.text ++ text)) >>= statements? rounds) = _
      exact (congrArg (· >>= statements? rounds) ended).trans read
    | none =>
      cases ends with
      | behind ending => cases ending <;> exact read
      | atEnd =>
        cases rounds with
        | zero => exact absurd read (by simp [statements?])
        | succ rounds => exact read

theorem Line.entries_of_empty (line : Line) (empty : line.chars = []) : line.entries = [] := by
  obtain ⟨indent, assignment, comment⟩ := line
  cases assignment with
  | none => rfl
  | some assignment =>
    have noKey := (List.append_eq_nil_iff.mp (List.append_eq_nil_iff.mp empty).2).1
    exact absurd (List.append_eq_nil_iff.mp noKey).1 assignment.key.filled

/-- Every line but the last takes at least one character, so that there are rounds enough. -/
theorem statements?_chars (document : Document) (rounds : Nat)
    (enough : document.chars.length < rounds) :
    statements? rounds document.chars = some (document.entries.map assign) := by
  obtain ⟨lines, last⟩ := document
  induction lines generalizing rounds with
  | nil =>
    have lastLine (rounds : Nat) (read : statements? rounds [] = some []) :
        statements? (rounds + 1) last.chars = some (last.entries.map assign) := by
      have line := statements?_line last .atEnd read
      rwa [List.append_nil, List.append_nil] at line
    match rounds, enough with
    | 1, enough =>
      have empty : last.chars = [] := List.eq_nil_of_length_eq_zero (Nat.lt_one_iff.mp enough)
      show statements? 1 last.chars = some (last.entries.map assign)
      rw [empty, last.entries_of_empty empty]
      rfl
    | rounds + 2, _ => exact lastLine (rounds + 1) rfl
  | cons line lines inductionHypothesis =>
    have split : Document.chars ⟨line :: lines, last⟩ =
        line.1.chars ++ (line.2.chars ++ Document.chars ⟨lines, last⟩) := by
      simp only [Document.chars, List.flatMap_cons, List.append_assoc]
    have filled : 0 < line.2.chars.length := by cases line.2 <;> decide
    rw [split] at enough ⊢
    simp only [List.length_append] at enough
    cases rounds with
    | zero => exact absurd enough (Nat.not_lt_zero _)
    | succ rounds =>
      have read := inductionHypothesis rounds (by omega)
      rw [statements?_line line.1 (.behind line.2 _) read, ← List.map_append]
      simp only [Document.entries, List.flatMap_cons, List.append_assoc]

/-- Whether an entry can be assigned on a line: its key needs no quotes, and its value is a text or
a signed word. -/
def Assignable (entry : String × Node) : Prop :=
  ∃ (key : Key) (value : Value), (key.name, value.node) = entry

/-- Entries that can be assigned are those of a document, in any order. -/
theorem exists_document (entries : Entries) (assignable : ∀ entry ∈ entries, Assignable entry) :
    ∃ document : Document, document.entries = entries := by
  induction entries with
  | nil => exact ⟨⟨[], ⟨⟨[], rfl⟩, none, none⟩⟩, rfl⟩
  | cons entry entries inductionHypothesis =>
    obtain ⟨key, value, rfl⟩ := assignable entry List.mem_cons_self
    obtain ⟨⟨lines, last⟩, rfl⟩ := inductionHypothesis fun other member =>
      assignable other (List.mem_cons_of_mem _ member)
    let space : Gap := ⟨[' '], by decide⟩
    let nothing : Gap := ⟨[], by decide⟩
    let line : Line := ⟨nothing, some ⟨key, space, space, value, nothing⟩, none⟩
    exact ⟨⟨(line, .feed) :: lines, last⟩, rfl⟩

/-- No statement starts with a byte order mark. -/
theorem statements?_byteOrderMark (rounds : Nat) (rest : List Char) :
    statements? (rounds + 1) ('\uFEFF' :: rest) = none :=
  rfl

theorem unmarked_chars (document : Document) : unmarked document.chars = document.chars := by
  unfold unmarked
  split
  · rename_i rest marked
    have read := statements?_chars document (document.chars.length + 1) (Nat.lt_succ_self _)
    rw [marked, statements?_byteOrderMark] at read
    exact absurd read (by simp)
  · rfl

/-- An assignment of a key that is not there yet puts its entry behind the others. -/
theorem add?_assign (entries : Entries) (entry : String × Node)
    (unknown : entries.lookup entry.1 = none) :
    Draft.add? ⟨entries, []⟩ (assign entry) = some ⟨entries ++ [entry], []⟩ := by
  have added : Entries.assign? [entry.1] entry.2 .declared entries = some (entries ++ [entry]) := by
    show entries.add? entry.1 entry.2 = _
    rw [Entries.add?, unknown]
  show (Entries.assign? [entry.1] entry.2 .declared entries >>= fun entries => some _) = _
  rw [added]
  rfl

theorem foldlM_assign (before entries : Entries)
    (distinct : ((before ++ entries).map Prod.fst).Nodup) :
    (entries.map assign).foldlM Draft.add? ⟨before, []⟩ = some ⟨before ++ entries, []⟩ := by
  induction entries generalizing before with
  | nil => rw [List.append_nil]; rfl
  | cons entry entries inductionHypothesis =>
    have unknown : before.lookup entry.1 = none := by
      rw [List.map_append, List.map_cons, List.nodup_append] at distinct
      refine List.lookup_eq_none_iff.mpr fun known member => bne_iff_ne.mpr fun same => ?_
      exact distinct.2.2 known.1 (List.mem_map_of_mem member) entry.1 List.mem_cons_self same.symm
    rw [List.map_cons, List.foldlM_cons, add?_assign before entry unknown, Option.bind_eq_bind,
      Option.bind_some, List.append_cons before entry entries]
    rw [List.append_cons] at distinct
    exact inductionHypothesis _ distinct

/-- Assignments of different keys make a document of their entries. -/
theorem entriesOf?_assign (entries : Entries) (distinct : (entries.map Prod.fst).Nodup) :
    entriesOf? (entries.map assign) = some entries := by
  rw [entriesOf?, Draft.empty, foldlM_assign [] entries distinct]
  rfl

/-- Reading a document of assignments to different keys gives back its entries. -/
theorem read?_chars (document : Document) (distinct : (document.entries.map Prod.fst).Nodup) :
    read? document.chars = some document.entries := by
  have read := statements?_chars document (document.chars.length + 1) (Nat.lt_succ_self _)
  rw [read?, unmarked_chars, read]
  exact entriesOf?_assign document.entries distinct

end Trickle.Toml
