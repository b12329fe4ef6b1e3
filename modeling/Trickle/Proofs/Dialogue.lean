/-
This file proves how dialogues are played. Playing one dialogue after another plays the
second from the state the first leaves, and puts its transcript behind the first one's.
What a dialogue may ask and end with, however it is answered, is bounded by going through
it, and still bounds it where its questions are carried out by another protocol. Work on
several inputs, one after the other, is described by one playback for each input.
-/

import Mathlib.Data.List.Basic
import Trickle.Dialogue

namespace Trickle

namespace Playback

variable {protocol : Protocol} {State First Second : Type}

/-- A playback with another one behind it, whose result counts. -/
def followedBy (first : Playback protocol State First) (second : Playback protocol State Second) :
    Playback protocol State Second :=
  { second with transcript := first.transcript ++ second.transcript }

theorem calls_followedBy (first : Playback protocol State First)
    (second : Playback protocol State Second) :
    (first.followedBy second).calls = first.calls ++ second.calls :=
  List.filterMap_append

theorem questions_followedBy (first : Playback protocol State First)
    (second : Playback protocol State Second) :
    (first.followedBy second).questions = first.questions ++ second.questions :=
  List.filterMap_append

/-- The questions are those of the calls. -/
theorem questions_eq_map_calls (playback : Playback protocol State First) :
    playback.questions = playback.calls.map Call.question := by
  unfold questions calls
  rw [List.map_filterMap]
  refine congrArg (List.filterMap · playback.transcript) (funext fun moment => ?_)
  cases moment <;> rfl

end Playback

namespace Moment

variable {protocol : Protocol}

theorem events_noted (events : List Event) :
    (events.map (@noted protocol)).filterMap event? = events := by
  rw [List.filterMap_map]
  exact List.filterMap_some

theorem calls_noted (events : List Event) :
    (events.map (@noted protocol)).filterMap call? = [] := by
  rw [List.filterMap_map]
  exact List.filterMap_eq_nil_iff.mpr fun _ _ => rfl

end Moment

namespace Dialogue

variable {protocol lower : Protocol} {State First Second Third : Type}

/-! ### One dialogue after another -/

theorem play_note (peer : Peer protocol State) (event : Event) (rest : Dialogue protocol First)
    (state : State) :
    (note event rest).play peer state =
      (⟨(), [.noted event], state⟩ : Playback protocol State Unit).followedBy
        (rest.play peer state) := rfl

theorem play_ask (peer : Peer protocol State) (question : protocol.Question)
    (rest : protocol.Answer question → Dialogue protocol First) (state : State) :
    (ask question rest).play peer state =
      (⟨(), [.asked question (peer.answer question state).1], (peer.answer question state).2⟩ :
        Playback protocol State Unit).followedBy
        ((rest (peer.answer question state).1).play peer (peer.answer question state).2) := rfl

/-- The second dialogue is played from where the first one ends. -/
theorem play_andThen (peer : Peer protocol State) (dialogue : Dialogue protocol First)
    (next : First → Dialogue protocol Second) (state : State) :
    (dialogue.andThen next).play peer state =
      (dialogue.play peer state).followedBy
        ((next (dialogue.play peer state).result).play peer (dialogue.play peer state).state) := by
  induction dialogue generalizing state with
  | done result => rfl
  | note event rest inductionHypothesis =>
    rw [andThen, play_note, inductionHypothesis]
    rfl
  | ask question rest inductionHypothesis =>
    rw [andThen, play_ask, inductionHypothesis]
    rfl

theorem andThen_assoc (dialogue : Dialogue protocol First)
    (next : First → Dialogue protocol Second) (last : Second → Dialogue protocol Third) :
    (dialogue.andThen next).andThen last =
      dialogue.andThen fun result => (next result).andThen last := by
  induction dialogue with
  | done result => rfl
  | note event rest inductionHypothesis =>
    exact congrArg (Dialogue.note event) inductionHypothesis
  | ask question rest inductionHypothesis =>
    exact congrArg (Dialogue.ask question) (funext inductionHypothesis)

/-! ### All that may be asked -/

/-- Whether a dialogue asks nothing but some questions, however it is answered. -/
def OnlyAsks (allowed : protocol.Question → Prop) : Dialogue protocol First → Prop
  | .done _ => True
  | .note _ rest => rest.OnlyAsks allowed
  | .ask question rest => allowed question ∧ ∀ answer, (rest answer).OnlyAsks allowed

section OnlyAsks

variable {allowed : protocol.Question → Prop}

/-- Whoever answers, only such questions are asked. -/
theorem OnlyAsks.of_mem_questions {dialogue : Dialogue protocol First}
    (only : dialogue.OnlyAsks allowed) (peer : Peer protocol State) (state : State)
    {question : protocol.Question} (asked : question ∈ (dialogue.play peer state).questions) :
    allowed question := by
  induction dialogue generalizing state with
  | done result => exact absurd asked List.not_mem_nil
  | note event rest inductionHypothesis => exact inductionHypothesis only state asked
  | ask first rest inductionHypothesis =>
    rcases List.mem_cons.mp asked with rfl | later
    · exact only.1
    · exact inductionHypothesis _ (only.2 _) _ later

theorem OnlyAsks.andThen {dialogue : Dialogue protocol First}
    {next : First → Dialogue protocol Second} (only : dialogue.OnlyAsks allowed)
    (onward : ∀ result, (next result).OnlyAsks allowed) :
    (dialogue.andThen next).OnlyAsks allowed := by
  induction dialogue with
  | done result => exact onward result
  | note event rest inductionHypothesis => exact inductionHypothesis only
  | ask question rest inductionHypothesis =>
    exact ⟨only.1, fun answer => inductionHypothesis answer (only.2 answer)⟩

theorem onlyAsks_true (dialogue : Dialogue protocol First) :
    dialogue.OnlyAsks fun _ => True := by
  induction dialogue with
  | done result => trivial
  | note event rest inductionHypothesis => exact inductionHypothesis
  | ask question rest inductionHypothesis => exact ⟨trivial, inductionHypothesis⟩

/-- A dialogue is carried out with the questions that its own are carried out with. -/
theorem OnlyAsks.through {lowerAllowed : lower.Question → Prop}
    {carryOut : (question : protocol.Question) → Dialogue lower (protocol.Answer question)}
    {dialogue : Dialogue protocol First} (only : dialogue.OnlyAsks allowed)
    (carried : ∀ question, allowed question → (carryOut question).OnlyAsks lowerAllowed) :
    (dialogue.through carryOut).OnlyAsks lowerAllowed := by
  induction dialogue with
  | done result => trivial
  | note event rest inductionHypothesis => exact inductionHypothesis only
  | ask question rest inductionHypothesis =>
    exact (carried question only.1).andThen fun answer =>
      inductionHypothesis answer (only.2 answer)

end OnlyAsks

/-! ### All it may end with -/

/-- Whether a dialogue ends with nothing but some results, however it is answered. -/
def OnlyEnds (allowed : First → Prop) : Dialogue protocol First → Prop
  | .done result => allowed result
  | .note _ rest => rest.OnlyEnds allowed
  | .ask _ rest => ∀ answer, (rest answer).OnlyEnds allowed

section OnlyEnds

variable {allowed : First → Prop}

/-- Whoever answers, it ends with such a result. -/
theorem OnlyEnds.result {dialogue : Dialogue protocol First} (only : dialogue.OnlyEnds allowed)
    (peer : Peer protocol State) (state : State) : allowed (dialogue.play peer state).result := by
  induction dialogue generalizing state with
  | done result => exact only
  | note event rest inductionHypothesis => exact inductionHypothesis only state
  | ask question rest inductionHypothesis => exact inductionHypothesis _ (only _) _

theorem onlyEnds_true (dialogue : Dialogue protocol First) :
    dialogue.OnlyEnds fun _ => True := by
  induction dialogue with
  | done result => trivial
  | note event rest inductionHypothesis => exact inductionHypothesis
  | ask question rest inductionHypothesis => exact inductionHypothesis

theorem OnlyEnds.andThen {ending : Second → Prop} {dialogue : Dialogue protocol First}
    {next : First → Dialogue protocol Second} (only : dialogue.OnlyEnds allowed)
    (onward : ∀ result, allowed result → (next result).OnlyEnds ending) :
    (dialogue.andThen next).OnlyEnds ending := by
  induction dialogue with
  | done result => exact onward result only
  | note event rest inductionHypothesis => exact inductionHypothesis only
  | ask question rest inductionHypothesis =>
    exact fun answer => inductionHypothesis answer (only answer)

/-- A dialogue ends as its own questions let it, however they are carried out. -/
theorem OnlyEnds.through {dialogue : Dialogue protocol First} (only : dialogue.OnlyEnds allowed)
    (carryOut : (question : protocol.Question) → Dialogue lower (protocol.Answer question)) :
    (dialogue.through carryOut).OnlyEnds allowed := by
  induction dialogue with
  | done result => exact only
  | note event rest inductionHypothesis => exact inductionHypothesis only
  | ask question rest inductionHypothesis =>
    exact (onlyEnds_true _).andThen fun answer _ => inductionHypothesis answer (only answer)

end OnlyEnds

/-! ### The same work on several inputs -/

section Each

variable {Input Result : Type} (peer : Peer protocol State)
  (work : Input → Dialogue protocol Result)

/-- Plays the same work on one input after the other, each from the state the one before leaves. -/
def playEach : List Input → State → List (Playback protocol State Result)
  | [], _ => []
  | input :: rest, state =>
    (work input).play peer state :: playEach rest ((work input).play peer state).state

/-- The state in which a row of playbacks leaves the peer. -/
def lastState (state : State) (playbacks : List (Playback protocol State Result)) : State :=
  playbacks.foldl (fun _ playback => playback.state) state

@[simp] theorem length_playEach (inputs : List Input) (state : State) :
    (playEach peer work inputs state).length = inputs.length := by
  induction inputs generalizing state with
  | nil => rfl
  | cons input rest inductionHypothesis =>
    exact congrArg (· + 1) (inductionHypothesis _)

/-- The work on the first inputs does not depend on the inputs after them. -/
theorem take_playEach (count : Nat) (inputs : List Input) (state : State) :
    (playEach peer work inputs state).take count =
      playEach peer work (inputs.take count) state := by
  induction count generalizing inputs state with
  | zero => rfl
  | succ count inductionHypothesis =>
    cases inputs with
    | nil => rfl
    | cons input rest => exact congrArg (List.cons _) (inductionHypothesis rest _)

/-- Every playback is one of the work on its input, from some state. -/
theorem forall₂_playEach (inputs : List Input) (state : State)
    (holds : Input → Playback protocol State Result → Prop)
    (each : ∀ input start, holds input ((work input).play peer start)) :
    List.Forall₂ holds inputs (playEach peer work inputs state) := by
  induction inputs generalizing state with
  | nil => exact .nil
  | cons input rest inductionHypothesis => exact .cons (each input state) (inductionHypothesis _)

end Each

end Dialogue

end Trickle
