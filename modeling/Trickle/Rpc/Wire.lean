/-
This file fixes how the program reaches a node: it sends requests, looks at a clock
that counts milliseconds, and waits. A request may be sent with a deadline; what has
not come by then does not come at all.
-/

import Trickle.Rpc.Reply
import Trickle.Rpc.Request

namespace Trickle

/-- What is asked of the line to a node. -/
inductive WireQuestion where
  | clock
  /-- Waits until a time; a time that is past is no wait. -/
  | sleepUntil (time : Nat)
  | exchange (request : Request)
  | exchangeBy (deadline : Nat) (request : Request)
  deriving DecidableEq, Repr

/-- The line to a node. -/
abbrev Wire : Protocol where
  Question := WireQuestion
  Answer
    | .clock => Nat
    | .sleepUntil _ => Unit
    | .exchange _ => Delivery
    | .exchangeBy _ _ => Option Delivery

namespace Wire

/-- Looks at the clock. -/
def clock : Dialogue Wire Nat :=
  .ask .clock .done

/-- Waits until a time. -/
def sleepUntil (time : Nat) : Dialogue Wire Unit :=
  .ask (.sleepUntil time) .done

/-- Sends a request and waits for what comes. -/
def exchange (request : Request) : Dialogue Wire Delivery :=
  .ask (.exchange request) .done

/-- Sends a request and waits for what comes by a deadline. -/
def exchangeBy (deadline : Nat) (request : Request) : Dialogue Wire (Option Delivery) :=
  .ask (.exchangeBy deadline request) .done

end Wire

end Trickle
