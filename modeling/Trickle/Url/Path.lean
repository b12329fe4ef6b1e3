/-
This file reads and writes the paths of addresses. A path is walked step by step: some
steps stay where they are, some go back. Nothing goes back over a step that could be a
drive, a letter with a colon or a bar. At the front of a file's path a drive is written
with a colon, and steps without a name are left out there.
-/

import Trickle.Text.Parts
import Trickle.Url.Percent
import Trickle.Url.Scheme

namespace Trickle

/-- A path. -/
inductive UrlPath where
  | whole (text : List Char)
  | steps (names : List (List Char))
  deriving DecidableEq, Repr

namespace UrlPath

/-! ### Steps -/

/-- Whether a step of a path stays where it is. -/
def isHere (name : List Char) : Bool :=
  [".", "%2e"].contains (String.ofList (name.map Char.toLower))

/-- Whether a step of a path goes back. -/
def isBack (name : List Char) : Bool :=
  ["..", ".%2e", "%2e.", "%2e%2e"].contains (String.ofList (name.map Char.toLower))

/-- Whether two characters name a drive. -/
def areDrive (letter mark : Char) : Bool :=
  letter.isAlpha && (mark = ':' || mark = '|')

/-- Whether a name is that of a drive. -/
def isDrive : List Char → Bool
  | [letter, mark] => areDrive letter mark
  | _ => false

/-- Whether a name begins like a drive, with nothing or a backslash behind it. -/
def holdsDrive : List Char → Bool
  | letter :: mark :: rest => areDrive letter mark && (rest.isEmpty || rest.head? = some '\\')
  | _ => false

/-! ### Walking -/

/-- The steps that are left after going back. What was walked is given last first. -/
def back : (walked : List (List Char)) → List (List Char)
  | [] => []
  | last :: before => if holdsDrive last then last :: before else before

/-- The name under which a step is taken: a drive in front of a file's path has a colon. -/
def taken (kind : SchemeKind) (walked : List (List Char)) (name : List Char) : List Char :=
  if kind = .file ∧ walked.isEmpty ∧ isDrive name then name.take 1 ++ [':'] else name

/-- The steps of a path, with those taken back left out. What was walked so far is given last
first. -/
def walk (kind : SchemeKind) : (walked names : List (List Char)) → List (List Char)
  | walked, [] => walked.reverse
  | walked, [last] =>
    if isBack last then ([] :: back walked).reverse
    else if isHere last then ([] :: walked).reverse
    else (taken kind walked last :: walked).reverse
  | walked, name :: rest =>
    if isBack name then walk kind (back walked) rest
    else if isHere name then walk kind walked rest
    else walk kind (taken kind walked name :: walked) rest

/-! ### Reading and writing -/

/-- Characters that are encoded in a path. -/
def special : List Char := [' ', '"', '<', '>', '\x60', '#', '?', '\x7b', '\x7d']

/-- The names of the steps behind the slash that a path begins with. -/
def names (kind : SchemeKind) (text : List Char) : List (List Char) :=
  partsAt '/' (text.map fun char => if kind.isSlash char then '/' else char)

/-- The text behind the slash that a path begins with, if it does. -/
def behindSlash (kind : SchemeKind) : List Char → List Char
  | [] => []
  | first :: rest => if kind.isSlash first then rest else first :: rest

/-- A path of steps that were walked. Files and services have at least one. -/
def ofWalked (kind : SchemeKind) (walked : List (List Char)) : UrlPath :=
  let named := if kind = .file then walked.dropWhile List.isEmpty else walked
  .steps ((if named.isEmpty then [[]] else named).map (Percent.encode special))

/-- Reads a path that is made of steps. -/
def ofSteps (kind : SchemeKind) (text : List Char) : UrlPath :=
  if kind = .other ∧ text.isEmpty then .steps []
  else ofWalked kind (walk kind [] (names kind (behindSlash kind text)))

/-- Reads a path that is no more than a text. -/
def ofText (text : List Char) : UrlPath :=
  .whole (Percent.encode [] text)

/-- The text of a path. -/
def text : UrlPath → String
  | .whole text => String.ofList text
  | .steps names => String.join (names.map fun name => "/" ++ String.ofList name)

end UrlPath

end Trickle
