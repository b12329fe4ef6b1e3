/-
This file describes work that talks to somebody: it asks questions, goes on with the
answers, and writes to the log on the way. Such a dialogue is plain data, so the same
one can be played against a peer that is a function, performed with real effects, or
carried out in terms of the questions of another protocol. Playing it keeps a
transcript of all that was asked, answered and written, in order.
-/

import Trickle.Event

namespace Trickle

/-- The questions of a protocol, and what answers each of them. -/
structure Protocol where
  Question : Type
  Answer : Question → Type

/-- Work that asks the questions of a protocol and ends with a value. -/
inductive Dialogue (protocol : Protocol) (Result : Type) : Type where
  | done (result : Result)
  | note (event : Event) (rest : Dialogue protocol Result)
  | ask (question : protocol.Question) (rest : protocol.Answer question → Dialogue protocol Result)

/-- A question, with what was answered to it. -/
structure Call (protocol : Protocol) where
  question : protocol.Question
  answer : protocol.Answer question

/-- One entry of a transcript. -/
inductive Moment (protocol : Protocol) : Type where
  | noted (event : Event)
  | asked (question : protocol.Question) (answer : protocol.Answer question)

/-- A peer that answers from a state of its own, so that an answer may depend on all before it. -/
structure Peer (protocol : Protocol) (State : Type) where
  answer : (question : protocol.Question) → State → protocol.Answer question × State

/-- A dialogue that was played: its result, its transcript, and the state the peer is left in. -/
structure Playback (protocol : Protocol) (State Result : Type) where
  result : Result
  transcript : List (Moment protocol)
  state : State

namespace Moment

variable {protocol : Protocol}

/-- The event that was written, if one was. -/
def event? : Moment protocol → Option Event
  | .noted event => some event
  | .asked _ _ => none

/-- The question that was asked, if one was. -/
def question? : Moment protocol → Option protocol.Question
  | .noted _ => none
  | .asked question _ => some question

/-- The question that was asked, with its answer. -/
def call? : Moment protocol → Option (Call protocol)
  | .noted _ => none
  | .asked question answer => some ⟨question, answer⟩

end Moment

namespace Playback

variable {protocol : Protocol} {State Result : Type}

/-- The events of the transcript. -/
def events (playback : Playback protocol State Result) : List Event :=
  playback.transcript.filterMap Moment.event?

/-- The questions of the transcript. -/
def questions (playback : Playback protocol State Result) : List protocol.Question :=
  playback.transcript.filterMap Moment.question?

/-- The questions of the transcript, with their answers. -/
def calls (playback : Playback protocol State Result) : List (Call protocol) :=
  playback.transcript.filterMap Moment.call?

end Playback

namespace Dialogue

variable {protocol : Protocol}

/-- Goes on with another dialogue when the first has ended. -/
def andThen {First Second : Type} :
    Dialogue protocol First → (First → Dialogue protocol Second) → Dialogue protocol Second
  | .done result, next => next result
  | .note event rest, next => .note event (rest.andThen next)
  | .ask question rest, next => .ask question fun answer => (rest answer).andThen next

instance : Monad (Dialogue protocol) where
  pure := .done
  bind := andThen

/-- Asks one question. -/
def query (question : protocol.Question) : Dialogue protocol (protocol.Answer question) :=
  .ask question .done

/-- Writes one event. -/
def write (event : Event) : Dialogue protocol Unit :=
  .note event (.done ())

/-- Plays a dialogue against a peer. -/
def play {State Result : Type} (peer : Peer protocol State) :
    Dialogue protocol Result → State → Playback protocol State Result
  | .done result, state => ⟨result, [], state⟩
  | .note event rest, state =>
    let played := play peer rest state
    { played with transcript := .noted event :: played.transcript }
  | .ask question rest, state =>
    let (answer, next) := peer.answer question state
    let played := play peer (rest answer) next
    { played with transcript := .asked question answer :: played.transcript }

/-- Performs a dialogue with effects. -/
def perform {Effect : Type → Type} [Monad Effect] {Result : Type}
    (answer : (question : protocol.Question) → Effect (protocol.Answer question))
    (log : Event → Effect Unit) : Dialogue protocol Result → Effect Result
  | .done result => pure result
  | .note event rest => do
    log event
    perform answer log rest
  | .ask question rest => do
    let given ← answer question
    perform answer log (rest given)

/-- Carries out each question of a dialogue by a dialogue of another protocol. -/
def through {lower : Protocol} {Result : Type}
    (carryOut : (question : protocol.Question) → Dialogue lower (protocol.Answer question)) :
    Dialogue protocol Result → Dialogue lower Result
  | .done result => .done result
  | .note event rest => .note event (through carryOut rest)
  | .ask question rest =>
    (carryOut question).andThen fun answer => through carryOut (rest answer)

/-- Carries out each question by a dialogue of another protocol that may break down; the first
breakdown ends everything. -/
def throughOrStop {lower : Protocol} {Reason Result : Type}
    (carryOut : (question : protocol.Question) →
      Dialogue lower (Except Reason (protocol.Answer question))) :
    Dialogue protocol Result → Dialogue lower (Except Reason Result)
  | .done result => .done (.ok result)
  | .note event rest => .note event (throughOrStop carryOut rest)
  | .ask question rest =>
    (carryOut question).andThen fun
      | .ok answer => throughOrStop carryOut (rest answer)
      | .error reason => .done (.error reason)

end Dialogue

end Trickle
