/-
This file proves how a receipt is waited for. The line to the node is one on which every
delivery takes a time of its own, and on which time passes in nothing but waiting. The
requests then follow a schedule: each is sent when it is due, or when the delivery before
it has come, whichever is later, and none is sent behind the bound. Any number of requests
may be sent at one moment. The first reply other than null that comes by the bound ends
the wait the moment it comes; if there is none, the wait ends at the bound, and only then
is it overdue.

A wait has no counter. What carries the proof is where it stands before each request: all
replies so far came by the bound and were null, and the time is such that the request, if
it is due by the bound, is sent when the schedule says.
-/

import Mathlib.Order.Monotone.Basic
import Trickle.Proofs.Dialogue
import Trickle.Rpc.Wait

namespace Trickle.Rpc

/-! ### A line on which deliveries take time -/

/-- What a request brings, and how many milliseconds that takes. What never comes is what takes
longer than anybody waits. -/
structure TimedDelivery where
  delay : Nat
  delivery : Delivery

/-- Where a line stands: the time, and the requests sent so far, each with the time it was sent. -/
structure Line where
  now : Nat
  sent : List (Nat × Request)

/-- A line on which the deliveries come one for each request, in turn. -/
def timedLine (deliveries : Nat → TimedDelivery) : Peer Wire Line where
  answer
    | .clock, line => (line.now, line)
    | .sleepUntil time, line => ((), { line with now := max line.now time })
    | .exchange request, line =>
      let timed := deliveries line.sent.length
      (timed.delivery, ⟨line.now + timed.delay, line.sent ++ [(line.now, request)]⟩)
    | .exchangeBy deadline request, line =>
      let timed := deliveries line.sent.length
      let sent := line.sent ++ [(line.now, request)]
      if line.now + timed.delay ≤ deadline then
        (some timed.delivery, ⟨line.now + timed.delay, sent⟩)
      else (none, ⟨max line.now deadline, sent⟩)

/-! ### What a reply does to a wait -/

/-- How a delivery ends a wait, if it does. -/
def verdict? (delivery : Delivery) : Option (Except Breakdown (Except Fault Receipt)) :=
  match receiptOf (.ofDelivery delivery) with
  | .ok (.ok none) => none
  | .ok (.ok (some receipt)) => some (.ok (.ok receipt))
  | .ok (.error fault) => some (.ok (.error fault))
  | .error breakdown => some (.error breakdown)

/-- What a result says that is not null: a receipt, or that it cannot be read. -/
theorem receiptOf_of_ne_null {source : String} {value : Json.Value} (notNull : value ≠ .null) :
    receiptOf (.result source value) =
      match receipt? value with
      | some receipt => .ok (.ok (some receipt))
      | none => .ok (.error (faultOf source (some value))) := by
  cases value <;> first | exact absurd rfl notNull | rfl

/-- A wait goes on exactly if the reply is null. -/
theorem verdict?_eq_none_iff (delivery : Delivery) :
    verdict? delivery = none ↔ ∃ source, Reply.ofDelivery delivery = .result source .null := by
  unfold verdict?
  constructor
  · intro silent
    cases reply : Reply.ofDelivery delivery with
    | result source value =>
      by_cases null : value = .null
      · exact ⟨source, by rw [null]⟩
      · rw [reply, receiptOf_of_ne_null null] at silent
        cases read : receipt? value <;> rw [read] at silent <;> exact nomatch silent
    | fault fault =>
      rw [reply] at silent
      exact nomatch silent
    | batch error =>
      rw [reply] at silent
      exact nomatch silent
  · rintro ⟨source, null⟩
    rw [null]
    rfl

theorem isReceiptTimeout_faultOf (source : String) (value : Option Json.Value) :
    (faultOf source value).isReceiptTimeout = false := by
  unfold faultOf
  split <;> rfl

theorem isReceiptTimeout_ofBody {body : Bytes} {fault : Fault}
    (said : Reply.ofBody body = .fault fault) : fault.isReceiptTimeout = false := by
  unfold Reply.ofBody at said
  split at said
  · rw [← Reply.fault.inj said]
    exact isReceiptTimeout_faultOf _ _
  · split at said
    · exact nomatch said
    · rw [← Reply.fault.inj said]
      exact isReceiptTimeout_faultOf _ _
  · split at said
    · exact nomatch said
    · rw [← Reply.fault.inj said]
      rfl
    · rw [← Reply.fault.inj said]
      exact isReceiptTimeout_faultOf _ _

theorem isReceiptTimeout_ofDelivery {delivery : Delivery} {fault : Fault}
    (said : Reply.ofDelivery delivery = .fault fault) : fault.isReceiptTimeout = false := by
  cases delivery with
  | received body => exact isReceiptTimeout_ofBody said
  | refused status body =>
    rw [← Reply.fault.inj said]
    rfl
  | failed text =>
    rw [← Reply.fault.inj said]
    rfl

/-- No reply says by itself that the receipt did not come in time. -/
theorem isReceiptTimeout_of_verdict? {delivery : Delivery} {fault : Fault}
    (said : verdict? delivery = some (.ok (.error fault))) : fault.isReceiptTimeout = false := by
  unfold verdict? at said
  cases reply : Reply.ofDelivery delivery with
  | result source value =>
    by_cases null : value = .null
    · rw [reply, null] at said
      exact nomatch said
    · rw [reply, receiptOf_of_ne_null null] at said
      cases read : receipt? value with
      | some receipt =>
        rw [read] at said
        exact nomatch said
      | none =>
        rw [read] at said
        rw [← Except.error.inj (Except.ok.inj (Option.some.inj said))]
        exact isReceiptTimeout_faultOf _ _
  | fault other =>
    rw [reply] at said
    rw [← Except.error.inj (Except.ok.inj (Option.some.inj said))]
    exact isReceiptTimeout_ofDelivery reply
  | batch error =>
    rw [reply] at said
    exact nomatch said

namespace Wait

variable (wait : Wait) (deliveries : Nat → TimedDelivery)

/-! ### The schedule -/

/-- When the request with an index is sent, if it is: when it is due and the delivery before it has
come. -/
def sentAt : (index : Nat) → Nat
  | 0 => wait.due 0
  | index + 1 => max (wait.due (index + 1)) (sentAt index + (deliveries index).delay)

/-- When the delivery with an index comes. -/
def comesAt (index : Nat) : Nat :=
  wait.sentAt deliveries index + (deliveries index).delay

/-- The first requests of the schedule. -/
def requests (count : Nat) : List (Nat × Request) :=
  (List.range count).map fun index =>
    (wait.sentAt deliveries index, .ofQuestion (.receipt wait.hash))

theorem due_monotone : Monotone wait.due :=
  monotone_nat_of_le_succ fun index => Nat.le_of_lt (wait.due_lt_due_succ index)

theorem due_le_sentAt (index : Nat) : wait.due index ≤ wait.sentAt deliveries index := by
  cases index with
  | zero => exact Nat.le_refl _
  | succ index => exact Nat.le_max_left _ _

theorem sentAt_le_comesAt (index : Nat) :
    wait.sentAt deliveries index ≤ wait.comesAt deliveries index :=
  Nat.le_add_right _ _

/-- A request is sent only when the delivery before it has come. -/
theorem comesAt_le_sentAt_succ (index : Nat) :
    wait.comesAt deliveries index ≤ wait.sentAt deliveries (index + 1) :=
  Nat.le_max_right _ _

theorem comesAt_monotone : Monotone (wait.comesAt deliveries) :=
  monotone_nat_of_le_succ fun index =>
    (wait.comesAt_le_sentAt_succ deliveries index).trans
      (wait.sentAt_le_comesAt deliveries (index + 1))

/-- No two requests are under way together. -/
theorem comesAt_le_sentAt {earlier later : Nat} (before : earlier < later) :
    wait.comesAt deliveries earlier ≤ wait.sentAt deliveries later := by
  obtain ⟨last, rfl⟩ := Nat.exists_eq_succ_of_ne_zero (Nat.ne_zero_of_lt before)
  exact (wait.comesAt_monotone deliveries (Nat.le_of_lt_succ before)).trans
    (wait.comesAt_le_sentAt_succ deliveries last)

theorem sentAt_monotone : Monotone (wait.sentAt deliveries) :=
  monotone_nat_of_le_succ fun index =>
    (wait.sentAt_le_comesAt deliveries index).trans (wait.comesAt_le_sentAt_succ deliveries index)

/-! ### Where a wait stands -/

/-- All deliveries before an index say that the payment is pending. -/
def PendingBefore (index : Nat) : Prop :=
  ∀ earlier < index, verdict? (deliveries earlier).delivery = none

/-- Where a wait stands before the request with an index. -/
structure Reached (index : Nat) (line : Line) : Prop where
  pending : PendingBefore deliveries index
  inTime : ∀ earlier < index, wait.comesAt deliveries earlier ≤ wait.deadline
  early : line.now ≤ wait.deadline
  next : max line.now (wait.due index) = wait.sentAt deliveries index
  sent : line.sent = wait.requests deliveries index

/-- The ways in which a wait can end, with how many requests were sent, and when. -/
inductive Ending : (count now : Nat) → Except Breakdown (Except Fault Receipt) → Prop where
  | decided (index : Nat) (verdict : Except Breakdown (Except Fault Receipt))
      (pending : PendingBefore deliveries index)
      (said : verdict? (deliveries index).delivery = some verdict)
      (inTime : wait.comesAt deliveries index ≤ wait.deadline) :
    Ending (index + 1) (wait.comesAt deliveries index) verdict
  | unanswered (index : Nat) (pending : PendingBefore deliveries index)
      (sent : wait.sentAt deliveries index ≤ wait.deadline)
      (late : wait.deadline < wait.comesAt deliveries index) :
    Ending (index + 1) wait.deadline wait.overdue
  | exhausted (count : Nat) (pending : PendingBefore deliveries count)
      (inTime : ∀ earlier < count, wait.comesAt deliveries earlier ≤ wait.deadline)
      (late : wait.deadline < wait.due count) :
    Ending count wait.deadline wait.overdue

variable {wait deliveries}

theorem length_requests (count : Nat) : (wait.requests deliveries count).length = count := by
  rw [requests, List.length_map, List.length_range]

theorem requests_succ (index : Nat) :
    wait.requests deliveries (index + 1) = wait.requests deliveries index ++
      [(wait.sentAt deliveries index, .ofQuestion (.receipt wait.hash))] := by
  rw [requests, List.range_succ, List.map_append]
  rfl

theorem PendingBefore.succ {index : Nat} (pending : PendingBefore deliveries index)
    (null : verdict? (deliveries index).delivery = none) :
    PendingBefore deliveries (index + 1) := by
  intro earlier before
  rcases Nat.lt_succ_iff_lt_or_eq.mp before with before | rfl
  · exact pending earlier before
  · exact null

/-- A null reply that comes by the bound takes a wait to the next request. -/
theorem Reached.succ {index : Nat} {line : Line} (reached : wait.Reached deliveries index line)
    (inTime : wait.comesAt deliveries index ≤ wait.deadline)
    (null : verdict? (deliveries index).delivery = none) :
    wait.Reached deliveries (index + 1)
      ⟨wait.comesAt deliveries index, wait.requests deliveries (index + 1)⟩ where
  pending := reached.pending.succ null
  inTime := by
    intro earlier before
    exact (wait.comesAt_monotone deliveries (Nat.le_of_lt_succ before)).trans inTime
  early := inTime
  next := Nat.max_comm _ _
  sent := rfl

/-- What the line does with a request, sent where a wait stands. -/
theorem Reached.exchange {index : Nat} {line : Line}
    (reached : wait.Reached deliveries index line) :
    (timedLine deliveries).answer (.exchangeBy wait.deadline (.ofQuestion (.receipt wait.hash)))
        { line with now := max line.now (wait.due index) } =
      if wait.comesAt deliveries index ≤ wait.deadline then
        (some (deliveries index).delivery,
          ⟨wait.comesAt deliveries index, wait.requests deliveries (index + 1)⟩)
      else
        (none, ⟨max (wait.sentAt deliveries index) wait.deadline,
          wait.requests deliveries (index + 1)⟩) := by
  rw [requests_succ, reached.next, ← reached.sent]
  have index_eq : line.sent.length = index := by rw [reached.sent, length_requests]
  simp only [timedLine, index_eq]
  rfl

variable (wait) in
/-- What a wait does with what came of a request. -/
def react (index : Nat) : Option Delivery → Exchange Receipt
  | none => .done wait.overdue
  | some delivery =>
    match verdict? delivery with
    | some verdict => .done verdict
    | none => .note (.pending wait.hash) (wait.poll (index + 1))

theorem poll_of_due {index : Nat} (due : wait.due index ≤ wait.deadline) :
    wait.poll index = (Wire.sleepUntil (wait.due index)).andThen fun _ =>
      (Wire.exchangeBy wait.deadline (.ofQuestion (.receipt wait.hash))).andThen
        (wait.react index) := by
  rw [poll, if_pos due]
  refine congrArg _ (funext fun _ => congrArg _ (funext fun came => ?_))
  cases came with
  | none => rfl
  | some delivery =>
    simp only [react, verdict?]
    rcases receiptOf (.ofDelivery delivery) with breakdown | fault | _ | receipt <;> rfl

/-- A request that is due is sent, and what comes of it is reacted to. -/
theorem play_poll_of_due {index : Nat} (due : wait.due index ≤ wait.deadline) (line : Line) :
    let question : WireQuestion := .exchangeBy wait.deadline (.ofQuestion (.receipt wait.hash))
    let came := (timedLine deliveries).answer question
      { line with now := max line.now (wait.due index) }
    (wait.poll index).play (timedLine deliveries) line =
      (⟨(), [.asked (.sleepUntil (wait.due index)) (), .asked question came.1], came.2⟩ :
        Playback Wire Line Unit).followedBy
        ((wait.react index came.1).play (timedLine deliveries) came.2) := by
  rw [poll_of_due due]
  rfl

variable (wait deliveries) in
/-- A wait that was played is at one of its ends, and its requests are the first of the schedule. -/
def Ended (played : Playback Wire Line (Except Breakdown (Except Fault Receipt))) : Prop :=
  ∃ count, played.state.sent = wait.requests deliveries count ∧
    wait.Ending deliveries count played.state.now played.result

/-- From where it stands, a wait comes to one of its ends. -/
theorem ended_poll (index : Nat) (line : Line) (reached : wait.Reached deliveries index line) :
    wait.Ended deliveries ((wait.poll index).play (timedLine deliveries) line) := by
  induction index using poll.induct wait generalizing line with
  | case1 index due inductionHypothesis =>
    rw [play_poll_of_due due, reached.exchange]
    by_cases inTime : wait.comesAt deliveries index ≤ wait.deadline
    · rw [if_pos inTime]
      cases said : verdict? (deliveries index).delivery with
      | none =>
        simp only [react, said]
        exact inductionHypothesis _ (reached.succ inTime said)
      | some verdict =>
        simp only [react, said]
        exact ⟨index + 1, rfl, .decided index verdict reached.pending said inTime⟩
    · rw [if_neg inTime]
      have sent : wait.sentAt deliveries index ≤ wait.deadline := by
        rw [← reached.next]
        exact Nat.max_le.mpr ⟨reached.early, due⟩
      refine ⟨index + 1, rfl, ?_⟩
      show wait.Ending deliveries (index + 1)
        (max (wait.sentAt deliveries index) wait.deadline) wait.overdue
      rw [Nat.max_eq_right sent]
      exact .unanswered index reached.pending sent (Nat.lt_of_not_le inTime)
  | case2 index notDue =>
    rw [poll, if_neg notDue]
    refine ⟨index, reached.sent, ?_⟩
    show wait.Ending deliveries index (max line.now wait.deadline) wait.overdue
    rw [Nat.max_eq_right reached.early]
    exact .exhausted index reached.pending reached.inTime (Nat.lt_of_not_le notDue)

/-! ### What the end of a wait tells -/

variable {count now : Nat} {result : Except Breakdown (Except Fault Receipt)}

/-- The requests sent are those that the schedule has by the bound, up to the first reply other than
null. -/
theorem Ending.lt_count_iff (ending : wait.Ending deliveries count now result) (index : Nat) :
    index < count ↔
      wait.sentAt deliveries index ≤ wait.deadline ∧ PendingBefore deliveries index := by
  cases ending with
  | decided last verdict pending said inTime =>
    constructor
    · intro before
      have sooner := wait.comesAt_monotone deliveries (Nat.le_of_lt_succ before)
      exact ⟨(wait.sentAt_le_comesAt deliveries index).trans (sooner.trans inTime),
        fun earlier inside => pending earlier (by omega)⟩
    · rintro ⟨-, silent⟩
      refine Nat.lt_succ_of_le (Nat.le_of_not_lt fun after => ?_)
      rw [silent last after] at said
      exact nomatch said
  | unanswered last pending sent late =>
    constructor
    · intro before
      exact ⟨(wait.sentAt_monotone deliveries (Nat.le_of_lt_succ before)).trans sent,
        fun earlier inside => pending earlier (by omega)⟩
    · rintro ⟨inTime, -⟩
      refine Nat.lt_succ_of_le (Nat.le_of_not_lt fun after => ?_)
      exact Nat.lt_irrefl _ (late.trans_le
        ((wait.comesAt_le_sentAt deliveries after).trans inTime))
  | exhausted _ pending inTime late =>
    constructor
    · intro before
      exact ⟨(wait.sentAt_le_comesAt deliveries index).trans (inTime index before),
        fun earlier inside => pending earlier (inside.trans before)⟩
    · rintro ⟨sent, -⟩
      refine Nat.lt_of_not_le fun after => ?_
      exact Nat.lt_irrefl _ (late.trans_le <| (wait.due_monotone after).trans
        ((wait.due_le_sentAt deliveries index).trans sent))

/-- No more requests are sent than are due by the bound. -/
theorem Ending.count_le (ending : wait.Ending deliveries count now result) :
    count ≤ wait.patience.bound / wait.patience.interval + 1 := by
  cases count with
  | zero => exact Nat.zero_le _
  | succ last =>
    have sent := ((ending.lt_count_iff last).mp (Nat.lt_succ_self last)).1
    have due : wait.start + last * wait.patience.interval ≤ wait.start + wait.patience.bound :=
      (wait.due_le_sentAt deliveries last).trans sent
    exact Nat.succ_le_succ
      ((Nat.le_div_iff_mul_le wait.positive).mpr (Nat.le_of_add_le_add_left due))

variable (wait deliveries) in
/-- Every reply that comes by the bound is null. -/
def Silent : Prop :=
  ∀ index, wait.comesAt deliveries index ≤ wait.deadline →
    verdict? (deliveries index).delivery = none

theorem silent_of_late {last : Nat} (pending : PendingBefore deliveries last)
    (late : wait.deadline < wait.comesAt deliveries last) : wait.Silent deliveries := by
  intro index inTime
  refine pending index (Nat.lt_of_not_le fun after => ?_)
  exact Nat.lt_irrefl _ (late.trans_le ((wait.comesAt_monotone deliveries after).trans inTime))

/-- A wait ends with the first reply other than null if that comes by the bound, and otherwise at
the bound. -/
theorem Ending.decided_or_silent (ending : wait.Ending deliveries count now result) :
    (∃ index, PendingBefore deliveries index ∧
      verdict? (deliveries index).delivery = some result ∧
      wait.comesAt deliveries index ≤ wait.deadline ∧
      now = wait.comesAt deliveries index ∧ count = index + 1) ∨
    (wait.Silent deliveries ∧ now = wait.deadline ∧ result = wait.overdue) := by
  cases ending with
  | decided index verdict pending said inTime =>
    exact .inl ⟨index, pending, said, inTime, rfl, rfl⟩
  | unanswered index pending sent late => exact .inr ⟨silent_of_late pending late, rfl, rfl⟩
  | exhausted _ pending inTime late =>
    have later := late.trans_le <|
      (wait.due_le_sentAt deliveries count).trans (wait.sentAt_le_comesAt deliveries count)
    exact .inr ⟨silent_of_late pending later, rfl, rfl⟩

/-- The first reply other than null decides if it comes by the bound. -/
theorem Ending.eq_of_said (ending : wait.Ending deliveries count now result) {index : Nat}
    {verdict : Except Breakdown (Except Fault Receipt)} (pending : PendingBefore deliveries index)
    (said : verdict? (deliveries index).delivery = some verdict)
    (inTime : wait.comesAt deliveries index ≤ wait.deadline) :
    result = verdict ∧ now = wait.comesAt deliveries index ∧ count = index + 1 := by
  rcases ending.decided_or_silent with ⟨first, pending', said', _, rfl, rfl⟩ | ⟨silent, _⟩
  · rcases Nat.lt_trichotomy index first with before | rfl | after
    · rw [pending' index before] at said
      exact nomatch said
    · rw [said] at said'
      exact ⟨(Option.some.inj said').symm, rfl, rfl⟩
    · rw [pending first after] at said'
      exact nomatch said'
  · rw [silent index inTime] at said
    exact nomatch said

/-- A wait is overdue exactly if every reply that comes by the bound is null. -/
theorem Ending.overdue_iff (ending : wait.Ending deliveries count now result) :
    result = wait.overdue ↔ wait.Silent deliveries := by
  rcases ending.decided_or_silent with ⟨first, _, said, inTime, _⟩ | ⟨silent, _, overdue⟩
  · constructor
    · intro overdue
      rw [overdue] at said
      exact nomatch isReceiptTimeout_of_verdict? said
    · intro silent
      rw [silent first inTime] at said
      exact nomatch said
  · exact ⟨fun _ => silent, fun _ => overdue⟩

theorem Ending.start_le (ending : wait.Ending deliveries count now result) : wait.start ≤ now := by
  rcases ending.decided_or_silent with ⟨index, _, _, _, rfl, _⟩ | ⟨_, rfl, _⟩
  · have due : wait.start ≤ wait.due index := Nat.le_add_right _ _
    exact due.trans <|
      (wait.due_le_sentAt deliveries index).trans (wait.sentAt_le_comesAt deliveries index)
  · exact Nat.le_add_right _ _

theorem Ending.le_deadline (ending : wait.Ending deliveries count now result) :
    now ≤ wait.deadline := by
  rcases ending.decided_or_silent with ⟨index, _, _, inTime, rfl, _⟩ | ⟨_, rfl, _⟩
  · exact inTime
  · exact Nat.le_refl _

theorem Ending.eq_deadline (ending : wait.Ending deliveries count now result)
    (overdue : result = wait.overdue) : now = wait.deadline := by
  have silent := ending.overdue_iff.mp overdue
  rcases ending.decided_or_silent with ⟨index, _, said, inTime, _⟩ | ⟨_, atBound, _⟩
  · rw [silent index inTime] at said
    exact nomatch said
  · exact atBound

end Wait

/-! ### Waits from their start -/

theorem ended_awaitReceipt (wait : Wait) (deliveries : Nat → TimedDelivery) :
    wait.Ended deliveries
      ((awaitReceipt wait.patience wait.hash).play (timedLine deliveries) ⟨wait.start, []⟩) := by
  rw [awaitReceipt, dif_pos wait.positive]
  refine wait.ended_poll 0 ⟨wait.start, []⟩ ?_
  exact {
    pending := fun earlier before => absurd before (Nat.not_lt_zero earlier)
    inTime := fun earlier before => absurd before (Nat.not_lt_zero earlier)
    early := Nat.le_add_right _ _
    next := Nat.max_eq_right (Nat.le_add_right _ _)
    sent := rfl }

/-- On a line whose deliveries take any time, a wait sends no more requests than are due by its
bound, all for its hash: the one with an index when it is due and the delivery before it has come,
so that no two are under way together; it is sent exactly if that time is not behind the bound and
all replies before it were null. The wait ends between its start and its bound. The first reply
other than null that comes by the bound is what it ends with, when that reply comes. It is overdue
exactly if no reply other than null comes by the bound, and then it ends at the bound. -/
theorem awaitReceipt_follows_schedule (patience : Patience) (positive : 0 < patience.interval)
    (hash : TransactionHash) (start : Nat) (deliveries : Nat → TimedDelivery) :
    let wait : Wait := ⟨hash, patience, start, positive⟩
    let played := (awaitReceipt patience hash).play (timedLine deliveries) ⟨start, []⟩
    let deadline := start + patience.bound
    ∃ count ≤ patience.bound / patience.interval + 1,
      played.state.sent = (List.range count).map (fun index =>
        (wait.sentAt deliveries index, Request.ofQuestion (.receipt hash))) ∧
      (∀ index, index < count ↔ wait.sentAt deliveries index ≤ deadline ∧
        ∀ earlier < index, verdict? (deliveries earlier).delivery = none) ∧
      (∀ index, wait.comesAt deliveries index ≤ wait.sentAt deliveries (index + 1)) ∧
      start ≤ played.state.now ∧ played.state.now ≤ deadline ∧
      (∀ index verdict, (∀ earlier < index, verdict? (deliveries earlier).delivery = none) →
        verdict? (deliveries index).delivery = some verdict →
        wait.comesAt deliveries index ≤ deadline →
        played.result = verdict ∧ played.state.now = wait.comesAt deliveries index ∧
          count = index + 1) ∧
      (played.result = .ok (.error (.ofCause (.receiptTimeout hash patience.bound))) ↔
        ∀ index, wait.comesAt deliveries index ≤ deadline →
          verdict? (deliveries index).delivery = none) ∧
      (played.result = .ok (.error (.ofCause (.receiptTimeout hash patience.bound))) →
        played.state.now = deadline) := by
  intro wait played deadline
  obtain ⟨count, sent, ending⟩ : wait.Ended deliveries played := ended_awaitReceipt wait deliveries
  exact ⟨count, ending.count_le, sent, ending.lt_count_iff,
    wait.comesAt_le_sentAt_succ deliveries, ending.start_le, ending.le_deadline,
    fun index verdict pending said inTime => ending.eq_of_said pending said inTime,
    ending.overdue_iff, ending.eq_deadline⟩

/-- A null reply that comes after 50 milliseconds, and failures that come after 100. -/
def nullThenClosed : Nat → TimedDelivery
  | 0 => ⟨50, .received (Utf8.ofString "\x7b\"result\":null\x7d")⟩
  | _ => ⟨100, .failed "connection closed"⟩

/-- A reply that comes exactly at the bound ends the wait. -/
theorem closed_at_bound :
    let patience : Patience := ⟨200, 100⟩
    let played := (awaitReceipt patience ⟨7⟩).play (timedLine nullThenClosed) ⟨1000, []⟩
    0 < patience.interval ∧
      played.result = .ok (.error (.ofCause (.transport "connection closed"))) ∧
      played.state.now = 1200 ∧ played.state.sent.map Prod.fst = [1000, 1100] := by
  intro patience played
  have positive : 0 < patience.interval := by decide
  obtain ⟨count, _, sent, _, _, _, _, decided, _⟩ :=
    awaitReceipt_follows_schedule patience positive ⟨7⟩ 1000 nullThenClosed
  have null : (verdict? (nullThenClosed 0).delivery).isNone = true := by decide +kernel
  have pending (earlier : Nat) (before : earlier < 1) :
      verdict? (nullThenClosed earlier).delivery = none := by
    obtain rfl := Nat.lt_one_iff.mp before
    exact Option.isNone_iff_eq_none.mp null
  obtain ⟨result, now, rfl⟩ := decided 1 _ pending rfl (Nat.le_refl 1200)
  refine ⟨positive, result, now, ?_⟩
  rw [sent]
  rfl

end Trickle.Rpc
