/-
This file reads the reply to a request. The body is an object that holds either a
result or an error; its number may be left out and is not compared. A body that cannot
be read so, but is an error object itself, counts as that error; anything else is
unreadable. A list of replies answers no single request, and nothing can be done with
it.
-/

import Trickle.Fault
import Trickle.Json.Read
import Trickle.Rpc.Record

namespace Trickle

/-- What a request brought. -/
inductive Delivery where
  | received (body : Bytes)
  /-- A reply whose status says that it is no answer. -/
  | refused (status : Nat) (body : Bytes)
  | failed (text : String)
  deriving DecidableEq, Repr

namespace Rpc

open Trickle.Json (Value Member)

/-- The error that an error object tells. -/
def nodeError? (value : Value) : Option NodeError := do
  let members ← members? value
  let code ← required? Value.integer? "code" members
  let message ← match ← lookup? "message" members with
    | none => some ""
    | some member => member.value.text?
  let data ← lookup? "data" members
  if -9223372036854775808 ≤ code ∧ code < 9223372036854775808 then
    some ⟨code, message, data.map (·.source)⟩
  else none

/-- What a readable reply holds. -/
inductive Content where
  | result (source : String) (value : Value)
  | error (error : NodeError)

/-- Whether a value can be the number of a reply. -/
def isNumber : Value → Bool
  | .null => true
  | .text content => content.isSome
  | value => (value.natural? UInt64.size).isSome

/-- Reads one reply. -/
def content? (value : Value) : Option Content := do
  let members ← members? value
  let result ← lookup? "result" members
  let error ← lookup? "error" members
  let number ← lookup? "id" members
  if number.all fun member => isNumber member.value then
    match result, error with
    | some member, none => some (.result member.source member.value)
    | none, some member => (nodeError? member.value).map .error
    | _, _ => none
  else none

/-- What came of a request. -/
inductive Reply where
  | result (source : String) (value : Value)
  | fault (fault : Fault)
  /-- A list of replies, with the first error among them. -/
  | batch (error : Option NodeError)

/-- What is wrong with a text that is not what was asked for. -/
def faultOf (source : String) (value : Option Value) : Fault :=
  match value.bind nodeError? with
  | some error => .ofCause (.nodeError error)
  | none => .ofCause (.unreadable source)

/-- The first error of some replies. -/
def firstError? (contents : List Content) : Option NodeError :=
  contents.findSome? fun
    | .error error => some error
    | .result _ _ => none

namespace Reply

/-- What a body says. -/
def ofBody (body : Bytes) : Reply :=
  let text := Utf8.lossy body
  match (Utf8.decode? body).bind Json.read? with
  | none => .fault (faultOf text (Json.read? text))
  | some (.list items) =>
    match items.mapM content? with
    | some contents => .batch (firstError? contents)
    | none => .fault (faultOf text none)
  | some value =>
    match content? value with
    | some (.result source value) => .result source value
    | some (.error error) => .fault (.ofCause (.nodeError error))
    | none => .fault (faultOf text (some value))

/-- What a delivery says. -/
def ofDelivery : Delivery → Reply
  | .received body => ofBody body
  | .refused status body =>
    .fault (.ofCause (.transport s!"HTTP error {status} with body: {Utf8.lossy body}"))
  | .failed text => .fault (.ofCause (.transport text))

end Reply

end Rpc

end Trickle
