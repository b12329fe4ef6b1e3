/-
This file answers what reading a path gives in a tree of files. Directories are entered
one component at a time, so the first component that is missing, too long or no
directory decides the fault; only a path that leads to a file gives its bytes.
-/

import Trickle.Text.Utf8

namespace Trickle

/-- Why a path gives no bytes. -/
inductive FileFault where
  | notFound
  | isDirectory
  | notDirectory
  | nameTooLong
  | holdsNul
  | notText
  | other (text : String)
  deriving DecidableEq, Repr

/-- The wording of a fault. -/
def FileFault.message : FileFault → String
  | .notFound => "No such file or directory (os error 2)"
  | .isDirectory => "Is a directory (os error 21)"
  | .notDirectory => "Not a directory (os error 20)"
  | .nameTooLong => "File name too long (os error 36)"
  | .holdsNul => "file name contained an unexpected NUL byte"
  | .notText => "stream did not contain valid UTF-8"
  | .other text => text

/-- A file, or a directory of named trees. -/
inductive FileTree where
  | file (contents : Bytes)
  | directory (entries : List (String × FileTree))

namespace FileTree

/-- The entries of a directory, last added first. -/
abbrev Entries := List (String × FileTree)

/-- The longest name of an entry, in bytes. -/
def longestName : Nat := 255

/-- The longest path, in bytes. -/
def longestPath : Nat := 4095

/-- Follows components from the innermost of the open directories. The outermost is its own
parent. -/
def follow : (here : Entries) → (above : List Entries) → List String → Except FileFault Bytes
  | _, _, [] => .error .isDirectory
  | here, above, name :: rest =>
    if name = "" ∨ name = "." then follow here above rest
    else if name = ".." then
      match above with
      | [] => follow here [] rest
      | parent :: further => follow parent further rest
    else if longestName < (Utf8.ofString name).length then .error .nameTooLong
    else
      match here.lookup name with
      | none => .error .notFound
      | some (.directory entries) => follow entries (here :: above) rest
      | some (.file contents) => if rest = [] then .ok contents else .error .notDirectory

/-- The bytes that a path leads to, from a working directory that is entered from the root. -/
def read (root working : Entries) (path : String) : Except FileFault Bytes :=
  if path.contains '\x00' then .error .holdsNul
  else if path = "" then .error .notFound
  else if longestPath < (Utf8.ofString path).length then .error .nameTooLong
  else
    let components := path.splitOn "/"
    if path.startsWith "/" then follow root [] components
    else follow working [root] components

/-- Puts a file at the end of a path of names, with the directories on the way. -/
def insert (contents : Bytes) : List String → Entries → Entries
  | [], entries => entries
  | [name], entries => (name, .file contents) :: entries
  | name :: rest, entries =>
    let inner := match entries.lookup name with
      | some (.directory entries) => entries
      | _ => []
    (name, .directory (insert contents rest inner)) :: entries

end FileTree

end Trickle
