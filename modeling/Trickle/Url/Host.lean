/-
This file reads hosts: addresses of the fourth version, whose parts may be decimal,
octal or hexadecimal and may be fewer than four, addresses of the sixth version between
brackets, and names. What ends in a number has to be an address.
-/

import Trickle.Number.Based
import Trickle.Url.Domain

namespace Trickle

/-- Why a text is no address of a service. -/
inductive UrlError where
  | noScheme
  | emptyHost
  | badPort
  | badFourth
  | badSixth
  | badName
  | badCharacter
  deriving DecidableEq, Repr

/-- The wording of an error. -/
def UrlError.message : UrlError → String
  | .noScheme => "relative URL without a base"
  | .emptyHost => "empty host"
  | .badPort => "invalid port number"
  | .badFourth => "invalid IPv4 address"
  | .badSixth => "invalid IPv6 address"
  | .badName => "invalid international domain name"
  | .badCharacter => "invalid domain character"

/-- A host. -/
inductive Host where
  | name (text : List Char)
  | fourth (number : Nat)
  | sixth (pieces : List Nat)
  deriving DecidableEq, Repr

namespace Host

/-! ### Addresses of the fourth version -/

/-- The first number that is no address. -/
def fourthBound : Nat := Nat.pow 256 4

/-- The number that a part denotes, in the base that its beginning asks for. Numbers that are too
large are not told apart. -/
def part? : List Char → Option Nat
  | [] => none
  | '0' :: 'x' :: digits | '0' :: 'X' :: digits => marked 16 digits
  | '0' :: digit :: digits => marked 8 (digit :: digits)
  | digits => marked 10 digits
where
  /-- The number that digits behind a mark denote. -/
  marked (base : Nat) (digits : List Char) : Option Nat :=
    if digits.all (Based.isDigit base) then some (Based.value base fourthBound digits) else none

/-- The parts of a name; one point at the end adds none. -/
def parts (ascii : List Char) : List (List Char) :=
  let parts := partsAt '.' ascii
  if parts.getLast? = some [] then parts.dropLast else parts

/-- Whether the last part of a name is a number. -/
def endsInNumber (ascii : List Char) : Bool :=
  match (parts ascii).getLast? with
  | none | some [] => false
  | some last => last.all Char.isDigit || (part? last).isSome

/-- The address that parts make: the last one fills the bytes that the others leave. -/
def combine? : (bytes : Nat) → List Nat → Option Nat
  | _, [] => none
  | bytes, [last] => if last < Nat.pow 256 bytes then some last else none
  | 0, _ => none
  | bytes + 1, first :: rest =>
    if first < 256 then (combine? bytes rest).map (Nat.pow 256 bytes * first + ·) else none

/-- The address of the fourth version that a name is. -/
def fourth? (ascii : List Char) : Option Nat := do
  let parts := parts ascii
  if 4 < parts.length then none else combine? 4 (← parts.mapM part?)

/-! ### Addresses of the sixth version -/

/-- The text on the two sides of the first two colons in a row, if there are any. -/
def splitGap? : List Char → Option (List Char × List Char)
  | [] => none
  | ':' :: ':' :: rest => some ([], rest)
  | char :: rest => (splitGap? rest).map fun (before, after) => (char :: before, after)

/-- The parts of a text between colons; an empty text has none. -/
def groups (text : List Char) : List (List Char) :=
  if text.isEmpty then [] else partsAt ':' text

/-- A decimal byte without leading zeros. -/
def decimalByte? (part : List Char) : Option Nat :=
  if part.isEmpty ∨ ¬ part.all Char.isDigit ∨ (1 < part.length ∧ part.head? = some '0') then none
  else if Based.value 10 256 part < 256 then some (Based.value 10 256 part)
  else none

/-- The pieces of a group of at most four digits. -/
def group? (text : List Char) : Option (List Nat) :=
  if text.isEmpty ∨ 4 < text.length ∨ ¬ text.all (Based.isDigit 16) then none
  else some [Based.value 16 0x10000 text]

/-- The pieces of groups; the last one may be four decimal bytes. -/
def pieces? : List (List Char) → Option (List Nat)
  | [] => some []
  | [last] =>
    if last.contains '.' then do
      match ← (partsAt '.' last).mapM decimalByte? with
      | [a, b, c, d] => some [256 * a + b, 256 * c + d]
      | _ => none
    else group? last
  | first :: rest => do some ((← group? first) ++ (← pieces? rest))

/-- The pieces of an address of the sixth version. -/
def sixth? (text : List Char) : Option (List Nat) :=
  match splitGap? text with
  | none => do
    let pieces ← pieces? (groups text)
    if pieces.length = 8 then some pieces else none
  | some (before, after) => do
    if before.contains '.' then none
    else
      let front ← pieces? (groups before)
      let back ← pieces? (groups after)
      if front.length + back.length < 8 then
        some (front ++ List.replicate (8 - front.length - back.length) 0 ++ back)
      else none

/-! ### Hosts -/

/-- The text between brackets that makes up a whole host. -/
def bracketed? (text : List Char) : Option (List Char) :=
  if text.getLast? = some ']' then some (text.drop 1).dropLast else none

/-- The host that a text between brackets names. -/
def ofBrackets (text : List Char) : Except UrlError Host :=
  match (bracketed? text).bind sixth? with
  | some pieces => .ok (.sixth pieces)
  | none => .error .badSixth

/-- Reads the host of an address whose hosts are looked up. -/
def read (text : List Char) : Except UrlError Host :=
  if text.head? = some '[' then ofBrackets text
  else
    match Domain.ascii? (Percent.decode (Utf8.encode text)) with
    | none => .error .badName
    | some [] => .error .emptyHost
    | some ascii =>
      if endsInNumber ascii then
        match fourth? ascii with
        | some number => .ok (.fourth number)
        | none => .error .badFourth
      else .ok (.name ascii)

/-- Characters that no host has that is not looked up. -/
def isForbidden (char : Char) : Bool :=
  char = '\x00' || "\t\n\r #/:<>?@[\\]^|".contains char

/-- Reads the host of an address whose hosts are not looked up. -/
def readOpaque (text : List Char) : Except UrlError Host :=
  if text.head? = some '[' then ofBrackets text
  else if text.any isForbidden then .error .badCharacter
  else .ok (.name (Percent.encode [] text))

/-! ### Writing -/

/-- How many zeros stand at the front. -/
def zeros (pieces : List Nat) : Nat :=
  (pieces.takeWhile (· = 0)).length

/-- Where the longest run of zeros begins, and how long it is; the first of two counts. -/
def longestRun : (index : Nat) → List Nat → Nat × Nat
  | _, [] => (0, 0)
  | index, piece :: rest =>
    let later := longestRun (index + 1) rest
    let here := zeros (piece :: rest)
    if later.2 ≤ here then (index, here) else later

/-- Pieces in hexadecimal with colons between them. -/
def writePieces (pieces : List Nat) : String :=
  ":".intercalate (pieces.map fun piece =>
    String.ofList (Hex.write (piece.log2 / 4 + 1) piece))

/-- The text of a host. -/
def text : Host → String
  | .name text => String.ofList text
  | .fourth number =>
    ".".intercalate ((Bytes.ofNat 4 number).map fun byte => toString byte.toNat)
  | .sixth pieces =>
    let (start, length) := longestRun 0 pieces
    if length < 2 then "[" ++ writePieces pieces ++ "]"
    else "[" ++ writePieces (pieces.take start) ++ "::" ++
      writePieces (pieces.drop (start + length)) ++ "]"

end Host

end Trickle
