/-
This file reads dates and times: a day of the calendar, a time of day, or both, the
latter with an optional distance from universal time. All parts are checked; what they
say is not kept.
-/

import Trickle.Number.Literal
import Trickle.Text.Reader

namespace Trickle.Toml

/-- A number of exactly `count` digits, at least `least` and at most `most`. -/
def fixed? (count least most : Nat) (text : List Char) : Option (Nat × List Char) :=
  let digits := text.take count
  let value := Digits.value digits
  if digits.length = count ∧ digits.all Char.isDigit ∧ least ≤ value ∧ value ≤ most then
    some (value, text.drop count)
  else none

/-- How many days a month has. -/
def daysIn (year month : Nat) : Nat :=
  if month = 2 then
    if year % 4 = 0 ∧ (year % 100 ≠ 0 ∨ year % 400 = 0) then 29 else 28
  else if month = 4 ∨ month = 6 ∨ month = 9 ∨ month = 11 then 30
  else 31

/-- The text behind a day of the calendar. -/
def afterDate? (text : List Char) : Option (List Char) := do
  let (year, rest) ← fixed? 4 0 9999 text
  let (month, rest) ← fixed? 2 1 12 (← expect? '-' rest)
  let (_, rest) ← fixed? 2 1 (daysIn year month) (← expect? '-' rest)
  some rest

/-- The text behind decimals of a second, if there are any. -/
def skipFraction : List Char → List Char
  | '.' :: digit :: rest =>
    if digit.isDigit then rest.dropWhile Char.isDigit else '.' :: digit :: rest
  | text => text

/-- The text behind a time of day. -/
def afterTime? (text : List Char) : Option (List Char) := do
  let (_, rest) ← fixed? 2 0 23 text
  let (_, rest) ← fixed? 2 0 59 (← expect? ':' rest)
  let (_, rest) ← fixed? 2 0 60 (← expect? ':' rest)
  some (skipFraction rest)

/-- The text behind a distance from universal time, if there is one. -/
def afterOffset? : List Char → Option (List Char)
  | [] => some []
  | char :: rest =>
    if char = 'Z' ∨ char = 'z' then some rest
    else if char = '+' ∨ char = '-' then do
      let (_, rest) ← fixed? 2 0 23 rest
      let (_, rest) ← fixed? 2 0 59 (← expect? ':' rest)
      some rest
    else some (char :: rest)

/-- The text behind a time that follows a date, if one does. -/
def afterDateTime? : List Char → Option (List Char)
  | [] => some []
  | mark :: rest =>
    if mark = ' ' ∨ mark = 'T' ∨ mark = 't' then
      match afterTime? rest with
      | some rest => afterOffset? rest
      | none => some (mark :: rest)
    else some (mark :: rest)

/-- The text behind a date, a time or both. -/
def afterMoment? (text : List Char) : Option (List Char) :=
  match afterDate? text with
  | some rest => afterDateTime? rest
  | none => afterTime? text

end Trickle.Toml
