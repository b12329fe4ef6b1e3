/-
This file reads a whole settings document: statements, blank lines and comments, line
by line, behind an optional byte order mark.
-/

import Trickle.Toml.Statement

namespace Trickle.Toml

/-- Reads statements to the end of the text. Every round takes at least one character. -/
def statements? : (rounds : Nat) → List Char → Option (List Statement)
  | 0, _ => none
  | rounds + 1, text =>
    match skipGap text with
    | [] => some []
    | '#' :: rest => do statements? rounds (← restOfLine? ('#' :: rest))
    | text =>
      match lineEnd? text with
      | some rest => statements? rounds rest
      | none => do
        let (statement, rest) ← statement? text
        let statements ← statements? rounds rest
        some (statement :: statements)

/-- A text without a byte order mark at its start. -/
def unmarked : List Char → List Char
  | '\uFEFF' :: rest => rest
  | text => text

/-- The entries of a document, if the text is one. -/
def read? (text : List Char) : Option Entries := do
  let text := unmarked text
  entriesOf? (← statements? (text.length + 1) text)

end Trickle.Toml
