/-
This file sends requests again that a node refused because there were too many. A node
says so in many ways: by status, by error code, or by words in the message. After a
short pause the request is sent again, ten times at most; then the refusal itself is the
fault. A deadline covers all of this together.
-/

import Trickle.Rpc.Wire

namespace Trickle.Rpc

/-- Whether a text is part of another. -/
def occursIn (part text : List Char) : Bool :=
  match text with
  | [] => part.isEmpty
  | _ :: rest => part.isPrefixOf text || occursIn part rest

/-- Whether a message contains some words. -/
def mentions (message words : String) : Bool :=
  occursIn words.toList message.toList

/-- Whether an error says that there were too many requests. -/
def isLimit (error : NodeError) : Bool :=
  let speaks := mentions error.message
  error.code = 429 || error.code = -32005 ||
    (error.code = -32016 && speaks "rate limit") || (error.code = -32012 && speaks "credits") ||
    (error.code = -32007 && speaks "request limit reached") ||
    error.message = "header not found" ||
    error.message = "daily request count exceeded, request rate limited" ||
    speaks "rate limit" || speaks "rate exceeded" || speaks "too many requests" ||
    speaks "credits limited" || speaks "request limit"

/-- The error inside a reply that is not readable as a whole. -/
def innerError? (text : String) : Option NodeError := do
  let members ← members? (← Json.read? text)
  let member ← (← lookup? "error" members)
  nodeError? member.value

/-- Whether a fault says that there were too many requests. -/
def isLimitFault (fault : Fault) : Bool :=
  match fault.cause with
  | .nodeError error => isLimit error
  | .unreadable text => ((innerError? text).map isLimit).getD false
  | _ => false

/-- The wording of a refusal to serve more requests, if a delivery is one. -/
def refusal? (delivery : Delivery) : Option String :=
  match Reply.ofDelivery delivery with
  | .result _ _ => none
  | .batch error => error.bind fun error => if isLimit error then some error.text else none
  | .fault fault =>
    let refused := match delivery with
      | .received _ => isLimitFault fault
      | .refused status _ => status = 429 || status = 503
      | .failed text => mentions text "429 Too Many Requests"
    if refused then some fault.text else none

namespace Retry

/-- How often a request is sent again. -/
def limit : Nat := 10

/-- How many milliseconds pass before a request is sent again. -/
def pause : Nat := 2

/-- What comes of a request that is not sent again, whatever was delivered. -/
def final (delivery : Delivery) : Delivery :=
  match refusal? delivery with
  | some refusal => .failed s!"Max retries exceeded {refusal}"
  | none => delivery

/-- Sends a request, and sends it again at most `left` times. -/
def exchange (request : Request) : (left : Nat) → Dialogue Wire Delivery
  | 0 => (Wire.exchange request).andThen fun delivery => .done (final delivery)
  | left + 1 =>
    (Wire.exchange request).andThen fun delivery =>
      if (refusal? delivery).isNone then .done delivery
      else
        Wire.clock.andThen fun now =>
          (Wire.sleepUntil (now + pause)).andThen fun _ => exchange request left

/-- Sends a request by a deadline, and sends it again at most `left` times. -/
def exchangeBy (deadline : Nat) (request : Request) :
    (left : Nat) → Dialogue Wire (Option Delivery)
  | 0 => (Wire.exchangeBy deadline request).andThen fun delivery => .done (delivery.map final)
  | left + 1 =>
    (Wire.exchangeBy deadline request).andThen fun
      | none => .done none
      | some delivery =>
        if (refusal? delivery).isNone then .done (some delivery)
        else
          Wire.clock.andThen fun now =>
            if deadline < now + pause then
              (Wire.sleepUntil deadline).andThen fun _ => .done none
            else
              (Wire.sleepUntil (now + pause)).andThen fun _ => exchangeBy deadline request left

/-- Carries out a question to the line, patiently. -/
def carryOut : (question : WireQuestion) → Dialogue Wire (Wire.Answer question)
  | .clock => Wire.clock
  | .sleepUntil time => Wire.sleepUntil time
  | .exchange request => exchange request limit
  | .exchangeBy deadline request => exchangeBy deadline request limit

end Retry

end Trickle.Rpc
