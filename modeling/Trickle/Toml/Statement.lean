/-
This file reads keys, values and statements. A statement takes the rest of its line;
lists may go on over many lines, tables written as values may not. Lists and such
tables can stand inside each other, but not without bound.
-/

import Trickle.Toml.Moment
import Trickle.Toml.Number

namespace Trickle.Toml

/-! ### Keys -/

/-- Whether a character may stand in a key without quotes. -/
def isKeyChar (char : Char) : Bool :=
  char.isAlphanum || char = '_' || char = '-'

/-- Reads one key. -/
def key? : Reader String
  | '"' :: rest => (doubleQuoted? rest).map fun (key, rest) => (String.ofList key, rest)
  | '\'' :: rest => (singleQuoted? rest).map fun (key, rest) => (String.ofList key, rest)
  | text =>
    match text.takeWhile isKeyChar with
    | [] => none
    | key => some (String.ofList key, text.dropWhile isKeyChar)

/-- Reads at most `count` keys with points between them, and the gaps around each. -/
def keys? : (count : Nat) → Reader (List String)
  | 0, _ => none
  | count + 1, text => do
    let (key, rest) ← key? (skipGap text)
    match skipGap rest with
    | '.' :: rest => do
      let (path, rest) ← keys? count rest
      some (key :: path, rest)
    | rest => some ([key], rest)

/-- How many keys a path may have, and how deep lists and tables may be nested. -/
def longestPath : Nat := 79

/-- Reads a path of keys. -/
def path? : Reader (List String) :=
  keys? longestPath

/-! ### Values -/

/-- Reads a value that holds no others. -/
def scalar? (text : List Char) : Option (Node × List Char) :=
  match text with
  | '"' :: _ | '\'' :: _ =>
    (text? text).map fun (value, rest) => (.text (String.ofList value), rest)
  | 't' :: 'r' :: 'u' :: 'e' :: rest => some (.boolean true, rest)
  | 'f' :: 'a' :: 'l' :: 's' :: 'e' :: rest => some (.boolean false, rest)
  | _ =>
    match afterMoment? text with
    | some rest => some (.moment, rest)
    | none => number? text

/-- Reads on from the opening bracket of a list. Every round takes a value. -/
def items? (value? : Reader Node) : (rounds : Nat) → Reader (List Node)
  | 0, _ => none
  | rounds + 1, text =>
    match skipLines false text with
    | ']' :: rest => some ([], rest)
    | text => do
      let (item, rest) ← value? text
      match skipLines false rest with
      | ',' :: rest => do
        let (items, rest) ← items? value? rounds rest
        some (item :: items, rest)
      | ']' :: rest => some ([item], rest)
      | _ => none

/-- Reads a path, an equals sign and a value. -/
def pair? (value? : Reader Node) : Reader (List String × Node) := fun text => do
  let (path, rest) ← path? text
  let (value, rest) ← value? (skipGap (← expect? '=' rest))
  some ((path, value), rest)

/-- Reads on inside a table written as a value, from where a pair has to stand. -/
def pairs? (value? : Reader Node) : (rounds : Nat) → Reader (List (List String × Node))
  | 0, _ => none
  | rounds + 1, text => do
    let (pair, rest) ← pair? value? text
    match skipGap rest with
    | ',' :: rest => do
      let (pairs, rest) ← pairs? value? rounds rest
      some (pair :: pairs, rest)
    | '\x7d' :: rest => some ([pair], rest)
    | _ => none

/-- The table that pairs make. -/
def closedTable? (pairs : List (List String × Node)) : Option Node := do
  let entries ← pairs.foldlM
    (fun entries (path, value) => Entries.assign? path value .declared entries) []
  some (.closedTable entries)

/-- Reads a value with at most `depth` lists and tables around a value inside it. -/
def value? : (depth : Nat) → Reader Node
  | 0, text => scalar? text
  | depth + 1, text =>
    match text with
    | '[' :: rest =>
      (items? (value? depth) rest.length rest).map fun (items, rest) => (.list items, rest)
    | '\x7b' :: rest =>
      match skipGap rest with
      | '\x7d' :: rest => some (.closedTable [], rest)
      | rest => do
        let (pairs, rest) ← pairs? (value? depth) rest.length rest
        some (← closedTable? pairs, rest)
    | text => scalar? text

/-! ### Statements -/

/-- Reads a statement up to the end of its line. -/
def statement? (text : List Char) : Option (Statement × List Char) :=
  match text with
  | '[' :: '[' :: rest => do
    let (path, rest) ← path? rest
    let rest ← expect? ']' (← expect? ']' rest)
    some (.element path, ← restOfLine? rest)
  | '[' :: rest => do
    let (path, rest) ← path? rest
    let rest ← expect? ']' rest
    some (.declare path, ← restOfLine? rest)
  | text => do
    let ((path, value), rest) ← pair? (value? longestPath) text
    some (.assign path value, ← restOfLine? rest)

end Trickle.Toml
