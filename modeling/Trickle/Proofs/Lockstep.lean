/-
This file compares two plays of dialogues that go on in lockstep. They ask alike questions
at the same places, and alike answers lead on to dialogues in lockstep again. Played
against two peers that answer alike questions alike, such dialogues leave transcripts that
are alike from the first entry to the last. What counts as alike is open: whatever the
answers may differ in without being alike any less cannot be seen from outside.
-/

import Mathlib.Data.List.Forall2
import Trickle.Proofs.Stopping

namespace Trickle

/-- What counts as alike in two plays: questions, and entries of transcripts. -/
structure Likeness (protocol : Protocol) where
  question : protocol.Question → protocol.Question → Prop
  moment : Moment protocol → Moment protocol → Prop

/-- Only what is equal is alike. -/
def Likeness.equal (protocol : Protocol) : Likeness protocol :=
  ⟨Eq, Eq⟩

/-- A likeness that tells apart what is answered to one question: whatever is the same is alike, and
alike answers to the same question are the same. -/
structure Likeness.Exact {protocol : Protocol} (likeness : Likeness protocol) : Prop where
  question : ∀ question, likeness.question question question
  noted : ∀ event, likeness.moment (.noted event) (.noted event)
  answer : ∀ {question answer answer'},
    likeness.moment (.asked question answer) (.asked question answer') → answer = answer'

theorem Likeness.exact_equal (protocol : Protocol) : (Likeness.equal protocol).Exact where
  question _ := rfl
  noted _ := rfl
  answer equal := eq_of_heq (Moment.asked.inj equal).2

/-- Two results of work that may fail, which have the same error or alike values. -/
inductive EndsAlike {Error Value Other : Type} (same : Value → Other → Prop) :
    Except Error Value → Except Error Other → Prop where
  | ok {value : Value} {other : Other} (alike : same value other) :
    EndsAlike same (.ok value) (.ok other)
  | error (error : Error) : EndsAlike same (.error error) (.error error)

theorem EndsAlike.refl {Error Value : Type} {same : Value → Value → Prop}
    (each : ∀ value, same value value) (result : Except Error Value) :
    EndsAlike same result result := by
  cases result with
  | ok value => exact .ok (each value)
  | error error => exact .error error

theorem EndsAlike.eq {Error Value : Type} {result other : Except Error Value}
    (alike : EndsAlike Eq result other) : result = other := by
  cases alike with
  | ok same => exact congrArg _ same
  | error error => rfl

/-- Where alike entries write the same event or none, the events are the same. -/
theorem Moment.events_eq {protocol : Protocol} {alike : Moment protocol → Moment protocol → Prop}
    {transcript transcript' : List (Moment protocol)}
    (entries : List.Forall₂ alike transcript transcript')
    (events : ∀ {moment moment'}, alike moment moment' → moment.event? = moment'.event?) :
    transcript.filterMap event? = transcript'.filterMap event? := by
  induction entries with
  | nil => rfl
  | cons head _ inductionHypothesis =>
    rw [List.filterMap_cons, List.filterMap_cons, inductionHypothesis, events head]

section Peers

variable {protocol : Protocol} {First Second Result Other : Type}

/-- Two peers that answer alike questions alike from related states, and are left in related
states. -/
structure Peer.Alike (likeness : Likeness protocol) (related : First → Second → Prop)
    (first : Peer protocol First) (second : Peer protocol Second) : Prop where
  answers : ∀ {question other state state'}, likeness.question question other →
    related state state' →
      likeness.moment (.asked question (first.answer question state).1)
        (.asked other (second.answer other state').1)
  states : ∀ {question other state state'}, likeness.question question other →
    related state state' →
      related (first.answer question state).2 (second.answer other state').2

/-- Two playbacks with alike entries all along, and results and states that are related. -/
structure Playback.Alike (likeness : Likeness protocol) (related : First → Second → Prop)
    (same : Result → Other → Prop) (one : Playback protocol First Result)
    (other : Playback protocol Second Other) : Prop where
  result : same one.result other.result
  transcript : List.Forall₂ likeness.moment one.transcript other.transcript
  state : related one.state other.state

theorem Playback.Alike.followedBy {Next Next' : Type} {likeness : Likeness protocol}
    {related : First → Second → Prop} {same : Result → Other → Prop}
    {same' : Next → Next' → Prop} {one : Playback protocol First Result}
    {other : Playback protocol Second Other} {next : Playback protocol First Next}
    {next' : Playback protocol Second Next'}
    (first : Playback.Alike likeness related same one other)
    (second : Playback.Alike likeness related same' next next') :
    Playback.Alike likeness related same' (one.followedBy next) (other.followedBy next') :=
  ⟨second.result, List.rel_append first.transcript second.transcript, second.state⟩

end Peers

namespace Dialogue

section Lockstep

variable {protocol : Protocol} {First Second Result Other : Type}

/-- Two dialogues in lockstep, which end with related results. -/
inductive Lockstep (likeness : Likeness protocol) (same : Result → Other → Prop) :
    Dialogue protocol Result → Dialogue protocol Other → Prop where
  | done {result : Result} {other : Other} (alike : same result other) :
    Lockstep likeness same (.done result) (.done other)
  | note {event event' : Event} {rest : Dialogue protocol Result} {rest' : Dialogue protocol Other}
      (alike : likeness.moment (.noted event) (.noted event'))
      (later : Lockstep likeness same rest rest') :
    Lockstep likeness same (.note event rest) (.note event' rest')
  | ask {question question' : protocol.Question}
      {rest : protocol.Answer question → Dialogue protocol Result}
      {rest' : protocol.Answer question' → Dialogue protocol Other}
      (alike : likeness.question question question')
      (later : ∀ answer answer',
        likeness.moment (.asked question answer) (.asked question' answer') →
          Lockstep likeness same (rest answer) (rest' answer')) :
    Lockstep likeness same (.ask question rest) (.ask question' rest')

variable {likeness : Likeness protocol} {same : Result → Other → Prop}
  {dialogue : Dialogue protocol Result} {dialogue' : Dialogue protocol Other}

/-- Alike peers are asked alike questions and leave alike transcripts. -/
theorem Lockstep.play {related : First → Second → Prop} {first : Peer protocol First}
    {second : Peer protocol Second} (lockstep : Lockstep likeness same dialogue dialogue')
    (peers : Peer.Alike likeness related first second) {state : First} {state' : Second}
    (start : related state state') :
    Playback.Alike likeness related same (dialogue.play first state)
      (dialogue'.play second state') := by
  induction lockstep generalizing state state' with
  | done alike => exact ⟨alike, .nil, start⟩
  | note alike _ inductionHypothesis =>
    have later := inductionHypothesis start
    exact ⟨later.result, .cons alike later.transcript, later.state⟩
  | ask alike _ inductionHypothesis =>
    have answered := peers.answers alike start
    have later := inductionHypothesis _ _ answered (peers.states alike start)
    exact ⟨later.result, .cons answered later.transcript, later.state⟩

theorem Lockstep.mono {same' : Result → Other → Prop}
    (lockstep : Lockstep likeness same dialogue dialogue')
    (weaker : ∀ result other, same result other → same' result other) :
    Lockstep likeness same' dialogue dialogue' := by
  induction lockstep with
  | done alike => exact .done (weaker _ _ alike)
  | note alike _ inductionHypothesis => exact .note alike inductionHypothesis
  | ask alike _ inductionHypothesis => exact .ask alike inductionHypothesis

/-- Every dialogue is in lockstep with itself, as long as its answers are the same. -/
theorem Lockstep.of_exact (exact : likeness.Exact) (dialogue : Dialogue protocol Result) :
    Lockstep likeness Eq dialogue dialogue := by
  induction dialogue with
  | done result => exact .done rfl
  | note event rest inductionHypothesis => exact .note (exact.noted event) inductionHypothesis
  | ask question rest inductionHypothesis =>
    refine .ask (exact.question question) fun answer answer' alike => ?_
    obtain rfl := exact.answer alike
    exact inductionHypothesis answer

theorem Lockstep.refl (dialogue : Dialogue protocol Result) :
    Lockstep (.equal protocol) Eq dialogue dialogue :=
  .of_exact (Likeness.exact_equal protocol) dialogue

theorem Lockstep.andThen {Next Next' : Type} {same' : Next → Next' → Prop}
    {next : Result → Dialogue protocol Next} {next' : Other → Dialogue protocol Next'}
    (lockstep : Lockstep likeness same dialogue dialogue')
    (later : ∀ result other, same result other →
      Lockstep likeness same' (next result) (next' other)) :
    Lockstep likeness same' (dialogue.andThen next) (dialogue'.andThen next') := by
  induction lockstep with
  | done alike => exact later _ _ alike
  | note alike _ inductionHypothesis => exact .note alike inductionHypothesis
  | ask alike _ inductionHypothesis => exact .ask alike inductionHypothesis

/-- Dialogues in lockstep stay so when their questions are carried out in lockstep. -/
theorem Lockstep.through {lower : Protocol} {lowerLikeness : Likeness lower}
    {carryOut carryOut' : (question : protocol.Question) →
      Dialogue lower (protocol.Answer question)}
    (lockstep : Lockstep likeness same dialogue dialogue')
    (events : ∀ {event event'}, likeness.moment (.noted event) (.noted event') →
      lowerLikeness.moment (.noted event) (.noted event'))
    (carries : ∀ {question question'}, likeness.question question question' →
      Lockstep lowerLikeness
        (fun answer answer' => likeness.moment (.asked question answer) (.asked question' answer'))
        (carryOut question) (carryOut' question')) :
    Lockstep lowerLikeness same (dialogue.through carryOut) (dialogue'.through carryOut') := by
  induction lockstep with
  | done alike => exact .done alike
  | note alike _ inductionHypothesis => exact .note (events alike) inductionHypothesis
  | ask alike _ inductionHypothesis => exact (carries alike).andThen inductionHypothesis

/-- Nor do they leave it when what carries out their questions may stop them. -/
theorem Lockstep.throughOrStop {lower : Protocol} {lowerLikeness : Likeness lower} {Reason : Type}
    {carryOut carryOut' : (question : protocol.Question) →
      Dialogue lower (Except Reason (protocol.Answer question))}
    (lockstep : Lockstep likeness same dialogue dialogue')
    (events : ∀ {event event'}, likeness.moment (.noted event) (.noted event') →
      lowerLikeness.moment (.noted event) (.noted event'))
    (carries : ∀ {question question'}, likeness.question question question' →
      Lockstep lowerLikeness (EndsAlike fun answer answer' =>
        likeness.moment (.asked question answer) (.asked question' answer'))
        (carryOut question) (carryOut' question')) :
    Lockstep lowerLikeness (EndsAlike same) (dialogue.throughOrStop carryOut)
      (dialogue'.throughOrStop carryOut') := by
  induction lockstep with
  | done alike => exact .done (.ok alike)
  | note alike _ inductionHypothesis => exact .note (events alike) inductionHypothesis
  | ask alike _ inductionHypothesis =>
    rw [Dialogue.throughOrStop, Dialogue.throughOrStop]
    refine (carries alike).andThen fun given given' answered => ?_
    cases answered with
    | ok alike => exact inductionHypothesis _ _ alike
    | error reason => exact .done (.error reason)

/-- Work in lockstep on several inputs, one after the other, breaks down over the same one. -/
theorem Lockstep.playUntil {Input Reason : Type} {related : First → Second → Prop}
    {first : Peer protocol First} {second : Peer protocol Second}
    {work : Input → Dialogue protocol (Except Reason Result)}
    {work' : Input → Dialogue protocol (Except Reason Other)}
    (lockstep : ∀ input, Lockstep likeness (EndsAlike same) (work input) (work' input))
    (peers : Peer.Alike likeness related first second) (inputs : List Input) {state : First}
    {state' : Second} (start : related state state') :
    List.Forall₂ (Playback.Alike likeness related (EndsAlike same))
      (playUntil first work inputs state) (playUntil second work' inputs state') := by
  induction inputs generalizing state state' with
  | nil => exact .nil
  | cons input rest inductionHypothesis =>
    have head := (lockstep input).play peers start
    have ended := head.result
    rw [Dialogue.playUntil, Dialogue.playUntil]
    generalize ((work input).play first state).result = result,
      ((work' input).play second state').result = result' at ended ⊢
    cases ended with
    | ok alike => exact .cons head (inductionHypothesis head.state)
    | error reason => exact .cons head .nil

/-- What was finished in lockstep came to the same. -/
theorem finished_eq {Reason : Type} {related : First → Second → Prop}
    {playbacks : List (Playback protocol First (Except Reason Result))}
    {others : List (Playback protocol Second (Except Reason Result))}
    (alike : List.Forall₂ (Playback.Alike likeness related (EndsAlike Eq)) playbacks others) :
    finished playbacks = finished others := by
  induction alike with
  | nil => rfl
  | cons head _ inductionHypothesis =>
    rw [finished, finished] at inductionHypothesis ⊢
    rw [List.filterMap_cons, List.filterMap_cons, head.result.eq, inductionHypothesis]

end Lockstep

end Dialogue

end Trickle
