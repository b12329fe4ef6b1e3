/-
This file brings domain names into the form in which they are looked up: nothing but
ASCII, no capital letter, no character that has a meaning elsewhere in an address. Each
character is replaced by what it stands for, and the text is composed. A label that has
other characters then is written in ASCII with a mark in front; a label that has the mark
already must be one that such writing produces. No label begins with a mark on a letter,
joiners are in their places, and labels that run in different directions are clear.
-/

import Trickle.Text.Direction
import Trickle.Text.Joining
import Trickle.Text.Mark
import Trickle.Url.Mapping
import Trickle.Url.Percent
import Trickle.Url.Punycode

namespace Trickle.Domain

/-- Characters that no domain name has. -/
def isForbidden (char : Char) : Bool :=
  char.toNat ≤ 0x20 || char.toNat = 0x7F || "%#/:<>?@[\\]^|".contains char

/-- Whether all characters are ASCII. -/
def isAscii (label : List Char) : Bool :=
  label.all (·.toNat < 0x80)

/-- What stands in front of a label that is written in ASCII. -/
def mark : List Char := ['x', 'n', '-', '-']

/-- How many characters a label beyond ASCII has at most, and how many its text in ASCII. -/
def longestLabel : Nat := 1000
def longestText : Nat := 2000

/-- A name in which every character is replaced by what it stands for. -/
def mapped? (name : List Char) : Option (List Char) :=
  (name.mapM Mapping.target?).map fun targets => composed targets.flatten

/-- Whether a label is well formed as far as its characters beyond ASCII matter. -/
def isWellFormed (label : List Char) : Bool :=
  isAscii label ||
    (label.length ≤ longestLabel && !label.head?.any isMark && joinersFit [] label)

/-- The label that a text behind the mark writes. It is beyond ASCII, and replacing its characters
changes nothing. -/
def written? (text : List Char) : Option (List Char) := do
  let label ← if text.length ≤ longestText then Punycode.decode? text else none
  if isAscii label ∨ label.mapM Mapping.target? ≠ some (label.map fun char => [char]) ∨
      composed label ≠ label then none
  else some label

/-- The label that a text between two points stands for. -/
def label? (text : List Char) : Option (List Char) := do
  let label ← if mark.isPrefixOf text then written? (text.drop mark.length) else some text
  if isWellFormed label ∧ ¬ label.any isForbidden then some label else none

/-- A label in ASCII. -/
def asciiLabel (label : List Char) : List Char :=
  if isAscii label then label else mark ++ Punycode.encode label

/-- Labels with points between them. -/
def join (labels : List (List Char)) : List Char :=
  ['.'].intercalate labels

/-- The form in which a domain name is looked up. -/
def ascii? (bytes : Bytes) : Option (List Char) := do
  let text ← Utf8.decode? bytes
  let labels ← (partsAt '.' (← mapped? text.toList)).mapM label?
  if Direction.areClear labels then some (join (labels.map asciiLabel)) else none

end Trickle.Domain
