/-
This file proves how dialogues are played that may break down. Whatever is carried out by
questions that may break down stops with the first of them that does; what was asked and
written until then stays. Work on several inputs, one after the other, is described by one
playback for each input, up to the first input over which the work breaks down.
-/

import Trickle.Proofs.Dialogue

namespace Trickle.Dialogue

variable {protocol lower : Protocol} {State First Second : Type}

/-! ### Going on or stopping -/

/-- Goes on with a value, or stops for the reason there is none. -/
def orStop {Reason : Type} (next : First → Dialogue protocol (Except Reason Second)) :
    Except Reason First → Dialogue protocol (Except Reason Second)
  | .ok result => next result
  | .error reason => .done (.error reason)

section Stopping

variable {Reason : Type}

/-- What comes after is carried out after what comes before, unless that breaks down. -/
theorem throughOrStop_andThen
    (carryOut : (question : protocol.Question) →
      Dialogue lower (Except Reason (protocol.Answer question)))
    (dialogue : Dialogue protocol First) (next : First → Dialogue protocol Second) :
    (dialogue.andThen next).throughOrStop carryOut =
      (dialogue.throughOrStop carryOut).andThen
        (orStop fun result => (next result).throughOrStop carryOut) := by
  induction dialogue with
  | done result => rfl
  | note event rest inductionHypothesis =>
    exact congrArg (Dialogue.note event) inductionHypothesis
  | ask question rest inductionHypothesis =>
    rw [andThen, throughOrStop, throughOrStop, andThen_assoc]
    refine congrArg _ (funext fun answer => ?_)
    cases answer with
    | ok answer => exact inductionHypothesis answer
    | error reason => rfl

/-- Carrying out every question by asking it never breaks down. -/
theorem throughOrStop_ask (dialogue : Dialogue protocol First) :
    (dialogue.throughOrStop fun question => .ask question fun answer => .done (.ok answer)) =
      dialogue.andThen fun result => .done (.ok result : Except Reason First) := by
  induction dialogue with
  | done result => rfl
  | note event rest inductionHypothesis =>
    exact congrArg (Dialogue.note event) inductionHypothesis
  | ask question rest inductionHypothesis =>
    rw [throughOrStop]
    exact congrArg (Dialogue.ask question) (funext inductionHypothesis)

variable {peer : Peer protocol State} {dialogue : Dialogue protocol (Except Reason First)}
  {state : State}

theorem play_orStop_of_ok {result : First}
    (ended : (dialogue.play peer state).result = .ok result)
    (next : First → Dialogue protocol (Except Reason Second)) :
    (dialogue.andThen (orStop next)).play peer state =
      (dialogue.play peer state).followedBy
        ((next result).play peer (dialogue.play peer state).state) := by
  rw [play_andThen, ended, orStop]

theorem play_orStop_of_error {reason : Reason}
    (stopped : (dialogue.play peer state).result = .error reason)
    (next : First → Dialogue protocol (Except Reason Second)) :
    (dialogue.andThen (orStop next)).play peer state =
      ⟨.error reason, (dialogue.play peer state).transcript, (dialogue.play peer state).state⟩ := by
  rw [play_andThen, stopped, orStop, play, Playback.followedBy, List.append_nil]

/-- A dialogue that may break down on the way asks nothing else for that. -/
theorem OnlyAsks.throughOrStop {allowed : protocol.Question → Prop}
    {lowerAllowed : lower.Question → Prop}
    {carryOut : (question : protocol.Question) →
      Dialogue lower (Except Reason (protocol.Answer question))}
    {dialogue : Dialogue protocol First} (only : dialogue.OnlyAsks allowed)
    (carried : ∀ question, allowed question → (carryOut question).OnlyAsks lowerAllowed) :
    (dialogue.throughOrStop carryOut).OnlyAsks lowerAllowed := by
  induction dialogue with
  | done result => trivial
  | note event rest inductionHypothesis => exact inductionHypothesis only
  | ask question rest inductionHypothesis =>
    rw [Dialogue.throughOrStop]
    refine (carried question only.1).andThen fun answer => ?_
    cases answer with
    | ok answer => exact inductionHypothesis answer (only.2 answer)
    | error reason => trivial

/-- Whether a result is none of a dialogue that broke down, but for reasons that are allowed. -/
def StopsFor (allowed : Reason → Prop) (result : Except Reason First) : Prop :=
  ∀ reason, result = .error reason → allowed reason

theorem stopsFor_ok {allowed : Reason → Prop} (result : First) :
    StopsFor allowed (.ok result : Except Reason First) :=
  fun _ same => nomatch same

theorem stopsFor_error {allowed : Reason → Prop} {reason : Reason} (isAllowed : allowed reason) :
    StopsFor allowed (.error reason : Except Reason First) :=
  fun _ same => Except.error.inj same ▸ isAllowed

/-- A dialogue breaks down for no other reasons than what carries out its questions. -/
theorem OnlyEnds.throughOrStop {allowed : Reason → Prop}
    {carryOut : (question : protocol.Question) →
      Dialogue lower (Except Reason (protocol.Answer question))}
    (carried : ∀ question, (carryOut question).OnlyEnds (StopsFor allowed))
    (dialogue : Dialogue protocol First) :
    (dialogue.throughOrStop carryOut).OnlyEnds (StopsFor allowed) := by
  induction dialogue with
  | done result => exact stopsFor_ok result
  | note event rest inductionHypothesis => exact inductionHypothesis
  | ask question rest inductionHypothesis =>
    rw [Dialogue.throughOrStop]
    refine (carried question).andThen fun answer ends => ?_
    cases answer with
    | ok answer => exact inductionHypothesis answer
    | error reason => exact stopsFor_error (ends reason rfl)

end Stopping

/-! ### The same work until it breaks down -/

section Until

variable {Input Reason Result : Type}

/-- Plays the same work on one input after the other, each from the state the one before leaves,
until it breaks down over one. -/
def playUntil (peer : Peer protocol State)
    (work : Input → Dialogue protocol (Except Reason Result)) :
    List Input → State → List (Playback protocol State (Except Reason Result))
  | [], _ => []
  | input :: rest, state =>
    let played := (work input).play peer state
    played :: match played.result with
      | .ok _ => playUntil peer work rest played.state
      | .error _ => []

/-- The results of some playbacks, or the reason for which one of them broke down. -/
def results : List (Playback protocol State (Except Reason Result)) → Except Reason (List Result)
  | [] => .ok []
  | playback :: rest =>
    match playback.result with
    | .ok result => (results rest).map (result :: ·)
    | .error reason => .error reason

/-- The results of those playbacks that did not break down. -/
def finished (playbacks : List (Playback protocol State (Except Reason Result))) : List Result :=
  playbacks.filterMap fun playback => playback.result.toOption

/-- Inputs and the playbacks of the work on them: one for each input, or one for each up to the
first over which the work breaks down. -/
inductive Until (holds : Input → Playback protocol State (Except Reason Result) → Prop) :
    List Input → List (Playback protocol State (Except Reason Result)) → Prop
  | none : Until holds [] []
  | next {input : Input} {playback : Playback protocol State (Except Reason Result)}
      {result : Result} {inputs : List Input}
      {playbacks : List (Playback protocol State (Except Reason Result))}
      (head : holds input playback) (ended : playback.result = .ok result)
      (rest : Until holds inputs playbacks) : Until holds (input :: inputs) (playback :: playbacks)
  | stopped {input : Input} {playback : Playback protocol State (Except Reason Result)}
      {reason : Reason} {inputs : List Input} (head : holds input playback)
      (stops : playback.result = .error reason) : Until holds (input :: inputs) [playback]

variable {playback : Playback protocol State (Except Reason Result)}
  {playbacks : List (Playback protocol State (Except Reason Result))}

theorem playUntil_cons_of_ok (peer : Peer protocol State)
    (work : Input → Dialogue protocol (Except Reason Result)) {input : Input} {state : State}
    {result : Result} (ended : ((work input).play peer state).result = .ok result)
    (rest : List Input) :
    playUntil peer work (input :: rest) state =
      (work input).play peer state ::
        playUntil peer work rest ((work input).play peer state).state := by
  rw [playUntil, ended]

theorem playUntil_cons_of_error (peer : Peer protocol State)
    (work : Input → Dialogue protocol (Except Reason Result)) {input : Input} {state : State}
    {reason : Reason} (stops : ((work input).play peer state).result = .error reason)
    (rest : List Input) :
    playUntil peer work (input :: rest) state = [(work input).play peer state] := by
  rw [playUntil, stops]

theorem results_cons_of_ok {result : Result} (ended : playback.result = .ok result)
    (rest : List (Playback protocol State (Except Reason Result))) :
    results (playback :: rest) = (results rest).map (result :: ·) := by
  rw [results, ended]

theorem results_cons_of_error {reason : Reason} (stops : playback.result = .error reason)
    (rest : List (Playback protocol State (Except Reason Result))) :
    results (playback :: rest) = .error reason := by
  rw [results, stops]

theorem finished_cons_of_ok {result : Result} (ended : playback.result = .ok result)
    (rest : List (Playback protocol State (Except Reason Result))) :
    finished (playback :: rest) = result :: finished rest :=
  List.filterMap_cons_some (by rw [ended]; rfl)

theorem finished_cons_of_error {reason : Reason} (stops : playback.result = .error reason)
    (rest : List (Playback protocol State (Except Reason Result))) :
    finished (playback :: rest) = finished rest :=
  List.filterMap_cons_none (by rw [stops]; rfl)

theorem mem_finished_iff {result : Result} :
    result ∈ finished playbacks ↔ ∃ playback ∈ playbacks, playback.result = .ok result := by
  rw [finished, List.mem_filterMap]
  refine exists_congr fun playback => and_congr_right fun _ => ?_
  cases playback.result <;> simp [Except.toOption]

theorem until_playUntil (peer : Peer protocol State)
    (work : Input → Dialogue protocol (Except Reason Result)) (inputs : List Input)
    (state : State) {holds : Input → Playback protocol State (Except Reason Result) → Prop}
    (each : ∀ input start, holds input ((work input).play peer start)) :
    Until holds inputs (playUntil peer work inputs state) := by
  induction inputs generalizing state with
  | nil => exact .none
  | cons input rest inductionHypothesis =>
    cases ended : ((work input).play peer state).result with
    | ok result =>
      rw [playUntil_cons_of_ok peer work ended]
      exact .next (each input state) ended (inductionHypothesis _)
    | error reason =>
      rw [playUntil_cons_of_error peer work ended]
      exact .stopped (each input state) ended

section Properties

variable {holds : Input → Playback protocol State (Except Reason Result) → Prop}
  {inputs : List Input}

theorem Until.imp {weaker : Input → Playback protocol State (Except Reason Result) → Prop}
    (played : Until holds inputs playbacks)
    (each : ∀ input playback, holds input playback → weaker input playback) :
    Until weaker inputs playbacks := by
  induction played with
  | none => exact .none
  | next head ended _ inductionHypothesis => exact .next (each _ _ head) ended inductionHypothesis
  | stopped head stops => exact .stopped (each _ _ head) stops

/-- Every playback is one of the work on its input, and the inputs left over come last. -/
theorem Until.forall₂ (played : Until holds inputs playbacks) :
    List.Forall₂ holds (inputs.take playbacks.length) playbacks := by
  induction played with
  | none => exact .nil
  | next head _ _ inductionHypothesis => exact .cons head inductionHypothesis
  | stopped head _ => exact .cons head .nil

theorem Until.exists_of_mem (played : Until holds inputs playbacks)
    (member : playback ∈ playbacks) : ∃ input ∈ inputs, holds input playback := by
  induction played with
  | none => exact nomatch member
  | next head _ _ inductionHypothesis =>
    rcases List.mem_cons.mp member with rfl | later
    · exact ⟨_, List.mem_cons_self, head⟩
    · obtain ⟨input, isInput, found⟩ := inductionHypothesis later
      exact ⟨input, List.mem_cons_of_mem _ isInput, found⟩
  | stopped head _ =>
    obtain rfl := List.mem_singleton.mp member
    exact ⟨_, List.mem_cons_self, head⟩

/-- If nothing breaks down there is a result for every input. -/
theorem Until.of_results_eq_ok (played : Until holds inputs playbacks) {found : List Result}
    (ended : results playbacks = .ok found) :
    finished playbacks = found ∧ found.length = inputs.length := by
  induction played generalizing found with
  | none =>
    obtain rfl := Except.ok.inj ended
    exact ⟨rfl, rfl⟩
  | next head headEnded rest inductionHypothesis =>
    rw [results_cons_of_ok headEnded] at ended
    rw [finished_cons_of_ok headEnded]
    cases behind : results _ with
    | error reason =>
      rw [behind] at ended
      exact nomatch ended
    | ok others =>
      rw [behind] at ended
      obtain rfl := Except.ok.inj ended
      obtain ⟨rfl, length⟩ := inductionHypothesis behind
      exact ⟨rfl, congrArg (· + 1) length⟩
  | stopped head stops =>
    rw [results_cons_of_error stops] at ended
    exact nomatch ended

/-- If the work breaks down, it does over the input behind those that have a result. -/
theorem Until.of_results_eq_error (played : Until holds inputs playbacks) {reason : Reason}
    (stopped : results playbacks = .error reason) :
    ∃ input playback, inputs[(finished playbacks).length]? = some input ∧
      playbacks[(finished playbacks).length]? = some playback ∧
      playbacks.length = (finished playbacks).length + 1 ∧
      holds input playback ∧ playback.result = .error reason := by
  induction played with
  | none => exact nomatch stopped
  | next head headEnded rest inductionHypothesis =>
    rw [results_cons_of_ok headEnded] at stopped
    rw [finished_cons_of_ok headEnded]
    cases behind : results _ with
    | ok others =>
      rw [behind] at stopped
      exact nomatch stopped
    | error other =>
      rw [behind] at stopped
      obtain rfl := Except.error.inj stopped
      obtain ⟨input, playback, isInput, isPlayback, length, found, stops⟩ :=
        inductionHypothesis behind
      exact ⟨input, playback, isInput, isPlayback, congrArg (· + 1) length, found, stops⟩
  | @stopped input playback reason inputs head stops =>
    rw [results_cons_of_error stops] at stopped
    obtain rfl := Except.error.inj stopped
    rw [finished_cons_of_error stops]
    exact ⟨input, playback, rfl, rfl, rfl, head, stops⟩

/-- What is said of inputs and results one by one holds of those inputs that have a result. -/
theorem Until.forall₂_finished {relates : Input → Result → Prop}
    (played : Until holds inputs playbacks)
    (each : ∀ input playback result, holds input playback → playback.result = .ok result →
      relates input result) :
    List.Forall₂ relates (inputs.take (finished playbacks).length) (finished playbacks) := by
  induction played with
  | none => exact .nil
  | next head ended _ inductionHypothesis =>
    rw [finished_cons_of_ok ended]
    exact .cons (each _ _ _ head ended) inductionHypothesis
  | stopped head stops =>
    rw [finished_cons_of_error stops]
    exact .nil

end Properties

theorem play_ok (peer : Peer protocol State) (dialogue : Dialogue protocol Result)
    (state : State) :
    (dialogue.andThen fun result => .done (.ok result : Except Reason Result)).play peer state =
      ⟨.ok (dialogue.play peer state).result, (dialogue.play peer state).transcript,
        (dialogue.play peer state).state⟩ := by
  rw [play_andThen, play, Playback.followedBy, List.append_nil]

/-- Work that does not break down is played on all inputs. -/
theorem playUntil_ok (peer : Peer protocol State) (work : Input → Dialogue protocol Result)
    (inputs : List Input) (state : State) :
    playUntil peer (fun input => (work input).andThen fun result =>
        .done (.ok result : Except Reason Result)) inputs state =
      (playEach peer work inputs state).map fun playback =>
        ⟨.ok playback.result, playback.transcript, playback.state⟩ := by
  induction inputs generalizing state with
  | nil => rfl
  | cons input rest inductionHypothesis =>
    simp only [playUntil, play_ok, inductionHypothesis]
    rfl

theorem results_map_ok (playbacks : List (Playback protocol State Result)) :
    results (playbacks.map fun playback =>
        (⟨.ok playback.result, playback.transcript, playback.state⟩ :
          Playback protocol State (Except Reason Result))) =
      .ok (playbacks.map Playback.result) := by
  induction playbacks with
  | nil => rfl
  | cons playback rest inductionHypothesis =>
    rw [List.map_cons, results_cons_of_ok rfl, inductionHypothesis]
    rfl

end Until

end Trickle.Dialogue
