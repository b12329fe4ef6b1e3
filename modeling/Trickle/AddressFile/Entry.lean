/-
This file reads one row of the address file: an address and a balance with a
semicolon between them. Blanks around both are dropped, and everything behind a
second semicolon is ignored. Faults are named in a fixed order: no balance column,
then a bad address, then a bad balance.
-/

import Trickle.Address
import Trickle.Text.Blank
import Trickle.Number.Binary64

namespace Trickle

/-- An account and the balance the file records for it, which only decides eligibility. -/
structure Entry where
  address : Address
  balance : Binary64
  deriving DecidableEq, Repr

/-- Why a row is no entry. -/
inductive EntryError where
  | missingBalance (row : String)
  | invalidAddress (text : String)
  | invalidBalance (address : Address) (text : String)
  deriving DecidableEq, Repr

/-- The wording of a fault. -/
def EntryError.message : EntryError → String
  | .missingBalance row => s!"Row '{row}' has no balance column"
  | .invalidAddress text => s!"Invalid address '{text}'"
  | .invalidBalance address text => s!"Invalid balance '{text}' for address {address.checksum}"

namespace Entry

/-- Whether the recorded balance is above zero. -/
def isFunded (entry : Entry) : Bool :=
  entry.balance.isPositive

/-- The balance a text writes; a word for no number is none. -/
def balance? (text : List Char) : Option Binary64 :=
  match Literal.read? text with
  | none | some .notANumber => none
  | some literal => some (Binary64.ofLiteral literal)

/-- The text before the first semicolon, and the text behind it if there is one. -/
def splitField (text : List Char) : List Char × Option (List Char) :=
  match text.dropWhile (· ≠ ';') with
  | [] => (text, none)
  | _ :: rest => (text.takeWhile (· ≠ ';'), some rest)

/-- Reads a row. -/
def read (row : String) : Except EntryError Entry :=
  match splitField row.toList with
  | (_, none) => .error (.missingBalance row)
  | (first, some rest) =>
    let addressText := String.ofList (trim first)
    let balanceText := trim (splitField rest).1
    match Address.read addressText with
    | .error _ => .error (.invalidAddress addressText)
    | .ok address =>
      match balance? balanceText with
      | none => .error (.invalidBalance address (String.ofList balanceText))
      | some balance => .ok ⟨address, balance⟩

end Entry

end Trickle
