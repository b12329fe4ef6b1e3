/-
This file reads the scheme at the front of an address. Reading forgives a lot: blanks and
control characters around the text, tabs and line ends inside it. The scheme decides how
the rest is read: the hosts of some schemes are looked up, and files are named like
nothing else.
-/

namespace Trickle

/-- How the hosts of a scheme are treated. -/
inductive SchemeKind where
  /-- There has to be a host, and it is looked up. -/
  | service
  | file
  | other
  deriving DecidableEq, Repr

namespace Scheme

/-- The kind of a scheme. -/
def kindOf (scheme : String) : SchemeKind :=
  if ["http", "https", "ws", "wss", "ftp"].contains scheme then .service
  else if scheme = "file" then .file
  else .other

/-- The port that a scheme needs not name. -/
def defaultPort? (scheme : String) : Option Nat :=
  if scheme = "http" ∨ scheme = "ws" then some 80
  else if scheme = "https" ∨ scheme = "wss" then some 443
  else if scheme = "ftp" then some 21
  else none

/-- The text that counts: no blanks at the ends, no tabs and line ends anywhere. -/
def cleaned (text : List Char) : List Char :=
  let isEdge (char : Char) : Bool := char.toNat ≤ 0x20
  (((text.dropWhile isEdge).reverse.dropWhile isEdge).reverse).filter fun char =>
    char ≠ '\t' && char ≠ '\n' && char ≠ '\r'

/-- Whether a character may stand in a scheme behind its first one. -/
def isSchemeChar (char : Char) : Bool :=
  char.isAlphanum || char = '+' || char = '-' || char = '.'

/-- The scheme in front of the first colon, and the rest. -/
def read? (text : List Char) : Option (String × List Char) :=
  let front := text.takeWhile isSchemeChar
  match front, text.dropWhile isSchemeChar with
  | first :: _, ':' :: rest =>
    if first.isAlpha then some (String.ofList (front.map Char.toLower), rest) else none
  | _, _ => none

end Scheme

/-- Whether a character is a slash: backslashes count as slashes, except in schemes of no known
kind. -/
def SchemeKind.isSlash (kind : SchemeKind) (char : Char) : Bool :=
  char = '/' || (char = '\\' && kind ≠ .other)

end Trickle
