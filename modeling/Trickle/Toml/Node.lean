/-
This file fixes the tree that a settings document describes, and how its statements
grow the tree. A table remembers how it came to be: a header declared it, a longer
header implied it, or a dotted key did. That decides who may add to it later. A header
may take over an implied table, once; dotted keys may add to tables that no header
declared; nothing adds to a table written as a value. Entries keep the order of the
document, and a table taken over moves to the end.
-/

import Trickle.Number.Binary64

namespace Trickle.Toml

/-- How a table came to be. -/
inductive Origin where
  | declared
  | implied
  | dotted
  deriving DecidableEq, Repr

/-- A value or a table. -/
inductive Node where
  | text (value : String)
  | integer (value : Int)
  | decimal (value : Binary64)
  | boolean (value : Bool)
  /-- A date or a time; which one makes no difference here. -/
  | moment
  | list (items : List Node)
  | closedTable (entries : List (String × Node))
  | table (origin : Origin) (entries : List (String × Node))
  /-- Tables that share a header, last first. -/
  | tables (elements : List (List (String × Node)))
  deriving Repr

/-- The entries of a table, in order. -/
abbrev Entries := List (String × Node)

/-- A statement of a document. -/
inductive Statement where
  | assign (path : List String) (value : Node)
  | declare (path : List String)
  | element (path : List String)
  deriving Repr

namespace Entries

/-- Puts a node in the place of an entry. -/
def replace (key : String) (node : Node) : Entries → Entries
  | [] => []
  | entry :: rest =>
    if entry.1 = key then (key, node) :: rest else entry :: replace key node rest

/-- The entries without a key. -/
def erase (key : String) (entries : Entries) : Entries :=
  entries.filter (·.1 ≠ key)

/-- A key that is not there yet, with its node. -/
def add? (key : String) (node : Node) (entries : Entries) : Option Entries :=
  match entries.lookup key with
  | some _ => none
  | none => some (entries ++ [(key, node)])

/-- Changes the table at the end of a path. Tables on the way come to be with `origin`, which is
`implied` on the way of a header and `dotted` on the way of a dotted key. -/
def changeAt? (origin : Origin) (change : Origin → Entries → Option Entries) :
    List String → Origin → Entries → Option Entries
  | [], here, entries => change here entries
  | key :: path, _, entries =>
    match entries.lookup key with
    | none => do
      let inner ← changeAt? origin change path origin []
      some (entries ++ [(key, .table origin inner)])
    | some (.table here inner) =>
      if origin = .dotted ∧ here = .declared then none
      else do
        let inner ← changeAt? origin change path here inner
        some (entries.replace key (.table here inner))
    | some (.tables (last :: earlier)) => do
      let last ← changeAt? origin change path .declared last
      some (entries.replace key (.tables (last :: earlier)))
    | some _ => none

/-- The last key of a path, with the keys in front of it. -/
def splitLast? : List String → Option (List String × String)
  | [] => none
  | [key] => some ([], key)
  | key :: rest => (splitLast? rest).map fun (path, last) => (key :: path, last)

/-- Gives a path of keys a value. A dotted path has to end in a table that dotted keys made, and a
single key in one that they did not make. -/
def assign? (path : List String) (value : Node) (here : Origin) (entries : Entries) :
    Option Entries := do
  let (path, key) ← splitLast? path
  let add (origin : Origin) (inner : Entries) : Option Entries :=
    if decide (origin = .dotted) = path.isEmpty then none else inner.add? key value
  changeAt? .dotted add path here entries

/-- Declares a table: a new one, or an implied one that no header has taken over yet. -/
def declare? (path : List String) (entries : Entries) : Option Entries := do
  let (path, key) ← splitLast? path
  let take (_ : Origin) (inner : Entries) : Option Entries :=
    match inner.lookup key with
    | none => some (inner ++ [(key, .table .declared [])])
    | some (.table .implied taken) =>
      some (inner.erase key ++ [(key, .table .declared taken)])
    | some _ => none
  changeAt? .implied take path .declared entries

/-- Begins one more of the tables that share a header. -/
def element? (path : List String) (entries : Entries) : Option Entries := do
  let (path, key) ← splitLast? path
  let begin (_ : Origin) (inner : Entries) : Option Entries :=
    match inner.lookup key with
    | none => some (inner ++ [(key, .tables [[]])])
    | some (.tables elements) => some (inner.replace key (.tables ([] :: elements)))
    | some _ => none
  changeAt? .implied begin path .declared entries

end Entries

/-- A document that is being built: its entries, and the path of the last header. -/
structure Draft where
  entries : Entries
  header : List String
  deriving Repr

namespace Draft

/-- The draft in front of the first statement. -/
def empty : Draft :=
  ⟨[], []⟩

/-- Adds a statement. -/
def add? (draft : Draft) : Statement → Option Draft
  | .assign path value => do
    let entries ← Entries.changeAt? .implied (Entries.assign? path value) draft.header .declared
      draft.entries
    some { draft with entries := entries }
  | .declare path => do
    let entries ← Entries.declare? path draft.entries
    some ⟨entries, path⟩
  | .element path => do
    let entries ← Entries.element? path draft.entries
    some ⟨entries, path⟩

end Draft

/-- The entries of a document made of statements. -/
def entriesOf? (statements : List Statement) : Option Entries :=
  (statements.foldlM Draft.add? Draft.empty).map Draft.entries

end Trickle.Toml
