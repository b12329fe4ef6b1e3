/-
This file fixes what a reply of a node is made of: JSON values, read without deciding
yet what they stand for. Numbers keep their digits, members of an object keep their
order, their repetitions and where they are written, and a text whose escapes name half
a character is a text without content.
-/

import Trickle.Json.Number

namespace Trickle.Json

/-- A member of an object: its name and its value, and the text from the value on with the text
behind it. -/
structure Member (Value : Type) where
  name : Option String
  value : Value
  written : List Char
  behind : List Char

/-- The value of a member as it was written. -/
def Member.source {Value : Type} (member : Member Value) : String :=
  String.ofList (member.written.take (member.written.length - member.behind.length))

/-- A value. -/
inductive Value where
  | null
  | boolean (value : Bool)
  | number (digits : List Char)
  | text (content : Option String)
  | list (items : List Value)
  | object (members : List (Member Value))

namespace Value

/-- The whole number that digits with an optional minus sign denote. Zero with a sign is none. -/
def integer? : Value → Option Int
  | .number ('-' :: digits) =>
    let size := Digits.value digits
    if digits.all Char.isDigit ∧ size ≠ 0 then some (-size) else none
  | .number digits => if digits.all Char.isDigit then some (Digits.value digits) else none
  | _ => none

/-- The whole number below a bound that a value denotes. -/
def natural? (bound : Nat) (value : Value) : Option Nat :=
  match value.integer? with
  | some (.ofNat size) => if size < bound then some size else none
  | _ => none

/-- The content of a text. -/
def text? : Value → Option String
  | .text content => content
  | _ => none

/-- The truth value that a value is. -/
def boolean? : Value → Option Bool
  | .boolean value => some value
  | _ => none

/-- The items of a list. -/
def list? : Value → Option (List Value)
  | .list items => some items
  | _ => none

mutual

/-- Whether all texts have content, all numbers can be held, and at most `depth` lists and objects
stand inside each other. -/
def isSound : (depth : Nat) → Value → Bool
  | _, .text content => content.isSome
  | _, .number digits => holding digits = .held
  | depth, .list items => 0 < depth && areSound (depth - 1) items
  | depth, .object members => 0 < depth && membersAreSound (depth - 1) members
  | _, .null | _, .boolean _ => true

/-- Whether all items are sound. -/
def areSound : (depth : Nat) → List Value → Bool
  | _, [] => true
  | depth, item :: rest => isSound depth item && areSound depth rest

/-- Whether all names and values of members are sound. -/
def membersAreSound : (depth : Nat) → List (Member Value) → Bool
  | _, [] => true
  | depth, ⟨name, value, _, _⟩ :: rest =>
    name.isSome && isSound depth value && membersAreSound depth rest

end

end Value

end Trickle.Json
