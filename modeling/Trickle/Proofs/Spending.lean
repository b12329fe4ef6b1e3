/-
This file proves what the total of a run says about the money that was spent. A payment that
is taken back moves no amount; what it costs is the gas that its receipt says was used, at
the price that its own bytes offer. The total of a run counts the amount of every payment
that is in the chain all the same, so that it is too high by one amount for each payment
taken back, and right only if there is none or nothing was to be sent.

What was spent is read off the calls of a run alone, and the total off its reports. The two
are compared payment by payment: each payment in the chain has one report.
-/

import Trickle.Proofs.Fees
import Trickle.Proofs.Nonces

namespace Trickle

/-- What a payment offers: an amount, and a price for the gas. -/
structure Terms where
  amount : Nat
  gasPrice : Nat

/-- The terms that the bytes of a payment carry: the fifth and the second item of their list. -/
def SignedTransaction.terms? (transaction : SignedTransaction) : Option Terms :=
  match Rlp.decode? transaction.raw with
  | some (.list (_ :: .bytes gasPrice :: _ :: _ :: .bytes amount :: _)) =>
    some ⟨Bytes.toNat amount, Bytes.toNat gasPrice⟩
  | _ => none

theorem Payment.terms?_signed (payment : Payment) (key : PrivateKey) :
    (payment.signed key).terms? = some ⟨payment.amount.toNat, payment.gasPrice.toNat⟩ := by
  obtain ⟨_, _, _, _, _, _, spelled, _, ⟨gasPrice, rfl, price, _⟩, _, _,
    ⟨amount, rfl, value, _⟩, _⟩ := payment.carriedBy_signed key
  rw [SignedTransaction.terms?, spelled.1, ← value, ← price]
  rfl

namespace Spending

open Nonces (fundedRows somePlan)
open Dialogue (finished)
open Transfer (attempt)

/-! ### Payments in the chain -/

/-- A payment that is in the chain, and its receipt. -/
structure Mined where
  transaction : SignedTransaction
  receipt : Receipt

/-- The payments that the node takes and whose receipt comes. The receipt of each is waited for in
the next call. -/
def mined : List (Call Chain) → List Mined
  | ⟨.send transaction, .ok _⟩ :: ⟨.receipt _, .ok receipt⟩ :: rest =>
    ⟨transaction, receipt⟩ :: mined rest
  | _ :: rest => mined rest
  | [] => []

/-- What a payment in the chain cost: the gas used at the price it offers, and the amount it offers
unless it was taken back. -/
def Mined.cost (payment : Mined) : Nat :=
  payment.transaction.terms?.elim 0 fun terms =>
    (if payment.receipt.succeeded then terms.amount else 0) +
      payment.receipt.gasUsed.toNat * terms.gasPrice

/-- Whether a payment in the chain was taken back. -/
def Mined.isTakenBack (payment : Mined) : Bool :=
  !payment.receipt.succeeded

/-- What payments cost together. -/
def spent (payments : List Mined) : Nat :=
  (payments.map Mined.cost).sum

/-- How many payments were taken back. -/
def takenBack (payments : List Mined) : Nat :=
  payments.countP Mined.isTakenBack

theorem takenBack_eq_zero_iff {payments : List Mined} :
    takenBack payments = 0 ↔ ∀ payment ∈ payments, payment.receipt.succeeded = true := by
  rw [takenBack, List.countP_eq_zero]
  refine forall₂_congr fun payment _ => ?_
  rw [Mined.isTakenBack, Bool.not_eq_true', Bool.not_eq_false]

/-- Whether a report tells of a payment in the chain, one that offers an amount. -/
def ReportedBy (amount : Wei) (payment : Mined) (report : Report) : Prop :=
  ∃ gasPrice : Gas,
    payment.transaction.terms? = some ⟨amount.toNat, gasPrice.toNat⟩ ∧
    report.fees = Fees.of payment.receipt.gasUsed gasPrice amount

section Reports

variable {amount : Wei} {payment : Mined} {report : Report} {payments : List Mined}
  {reports : List Report}

theorem ReportedBy.transferFee_eq (reported : ReportedBy amount payment report) :
    report.fees.transferFee = amount + report.fees.gasFee := by
  obtain ⟨gasPrice, _, fees⟩ := reported
  rw [fees, Fees.transferFee_eq]

theorem ReportedBy.exists_terms (reported : ReportedBy amount payment report) :
    ∃ gasPrice, payment.transaction.terms? = some ⟨amount.toNat, gasPrice⟩ := by
  obtain ⟨gasPrice, terms, _⟩ := reported
  exact ⟨gasPrice.toNat, terms⟩

/-- What is reported of a payment is its cost, and the amount too if it was taken back. -/
theorem ReportedBy.due_eq (reported : ReportedBy amount payment report) :
    amount.toNat + report.fees.gasFee.toNat =
      payment.cost + amount.toNat * payment.isTakenBack.toNat := by
  obtain ⟨gasPrice, terms, fees⟩ := reported
  rw [Mined.cost, Mined.isTakenBack, terms, fees, Fees.toNat_gasFee]
  cases payment.receipt.succeeded <;> simp [Nat.add_comm]

/-- What is due for the reports of some payments is what these cost, and one amount more for each of
them that was taken back. -/
theorem due_eq (reported : List.Forall₂ (ReportedBy amount) payments reports) :
    Report.due amount reports = spent payments + amount.toNat * takenBack payments := by
  induction reported with
  | nil => rfl
  | @cons payment report payments reports head _ inductionHypothesis =>
    have behind : (reports.map fun report => amount.toNat + report.fees.gasFee.toNat).sum =
        (payments.map Mined.cost).sum + amount.toNat * payments.countP Mined.isTakenBack :=
      inductionHypothesis
    simp only [Report.due, spent, takenBack, List.map_cons, List.sum_cons, behind, head.due_eq,
      Summary.countP_cons_eq, Nat.mul_add]
    ac_rfl

theorem transferFee_eq_of_mem (reported : List.Forall₂ (ReportedBy amount) payments reports) :
    ∀ report ∈ reports, report.fees.transferFee = amount + report.fees.gasFee :=
  ((List.forall₂_and_left _ _).mp (reported.flip.imp fun _ _ given =>
    ⟨ReportedBy.transferFee_eq given, given⟩)).1

theorem terms?_of_mem (reported : List.Forall₂ (ReportedBy amount) payments reports) :
    ∀ payment ∈ payments, ∃ gasPrice,
      payment.transaction.terms? = some ⟨amount.toNat, gasPrice⟩ :=
  ((List.forall₂_and_left _ _).mp (reported.imp fun _ _ given =>
    ⟨given.exists_terms, given⟩)).1

end Reports

/-! ### The books of an attempt -/

/-- What some calls and the outcomes of the work that makes them have to do with each other: there
is one report for each payment in the chain, in order, and later calls add no receipt. -/
structure Booked (amount : Wei) (calls : List (Call Chain)) (outcomes : List Outcome) : Prop where
  apart : ∀ more, mined (calls ++ more) = mined calls ++ mined more
  reported :
    List.Forall₂ (ReportedBy amount) (mined calls) (outcomes.filterMap Outcome.report?)

variable {amount : Wei} {calls more : List (Call Chain)} {outcomes others : List Outcome}

theorem Booked.append (first : Booked amount calls outcomes)
    (second : Booked amount more others) : Booked amount (calls ++ more) (outcomes ++ others) where
  apart later := by
    rw [List.append_assoc, first.apart, second.apart, first.apart, List.append_assoc]
  reported := by
    rw [first.apart, List.filterMap_append]
    exact List.rel_append first.reported second.reported

/-- The books of work that ends before any payment is in the chain. -/
theorem booked_of_none (none_mined : ∀ more, mined (calls ++ more) = mined more)
    (none_reported : outcomes.filterMap Outcome.report? = []) : Booked amount calls outcomes := by
  have nothing : mined calls = [] := by
    have alone := none_mined []
    rwa [List.append_nil] at alone
  refine ⟨fun more => ?_, ?_⟩
  · rw [nothing, none_mined]
    rfl
  · rw [nothing, none_reported]
    exact .nil

/-- The books of every attempt are in order: its report is made with the price and the amount that
the payment it sends offers. -/
theorem booked_of_conduct {plan : Plan} {recipient : Address}
    {result : Except TransferFailure Report}
    (conduct : Transfer.Conduct plan recipient calls result) :
    Booked plan.amount calls [Run.outcome result] := by
  cases conduct with
  | completed answers =>
    exact ⟨fun _ => rfl, .cons ⟨answers.gasPrice, Payment.terms?_signed _ _, rfl⟩ .nil⟩
  | failed answers before call after fault split =>
    obtain ⟨index, bound, rfl, found⟩ := Transfer.exists_index_of_split split
    match index, bound with
    | 0, _ | 1, _ | 2, _ | 3, _ | 4, _ | 5, _ =>
      obtain rfl := Option.some.inj found
      exact booked_of_none (fun _ => rfl) rfl

/-! ### The books of a run -/

theorem booked_of_treated {plan : Plan} {row : String} {events : List Event}
    {result : Except Breakdown Outcome} (treated : Run.Treated plan row calls events result) :
    Booked plan.amount calls result.toOption.toList := by
  cases treated with
  | malformed error unread => exact booked_of_none (fun _ => rfl) rfl
  | skipped entry read unfunded => exact booked_of_none (fun _ => rfl) rfl
  | coursed entry read funded course => exact booked_of_conduct course.conduct
  | stopped entry read funded answers => exact booked_of_none (fun _ => rfl) rfl

section Rows

variable {State : Type} (node : Peer Chain State) (plan : Plan)

theorem booked_turns (limit : Option Nat) (turned : Nat) (cursor : Cursor) (state : State) :
    let loop := Run.turns limit turned (.going .empty cursor)
    let visited := Run.visits node (attempt plan) (cursor.ahead (Run.worked limit turned)) state
    Booked plan.amount ((loop.throughOrStop (attempt plan)).play node state).calls
      (finished visited) := by
  intro loop visited
  rw [(Run.covers_turns node (attempt plan) limit turned cursor state).calls]
  exact Run.gather_visits (fun calls _ => Booked plan.amount calls)
    (Run.treated_visits node plan _ state) (booked_of_none (fun _ => rfl) rfl)
    (fun _ _ treated => booked_of_treated treated) Booked.append

/-- After any number of turns of a run, with or without a limit, the tally is that of the rows
worked on, unless the run broke down over one whose payment cannot be signed, and then it would be
that of the rows before. There is one row transferred for each payment in the chain, and all of
these offer the amount of the plan. The total is what they cost and one amount more for each payment
that was taken back, modulo the width of an amount. If this number fits, the total is what was spent
if and only if no payment was taken back or the amount is zero. -/
theorem total_counts_amounts_taken_back (limit : Option Nat) (turned : Nat) (cursor : Cursor)
    (state : State) :
    let loop := Run.turns limit turned (.going .empty cursor)
    let played := (loop.throughOrStop (attempt plan)).play node state
    let rows := cursor.ahead (Run.worked limit turned)
    let outcomes := finished (Run.visits node (attempt plan) rows state)
    let summary := Summary.tally outcomes
    let total := summary.totalFee.toNat
    let payments := mined played.calls
    let counted := spent payments + plan.amount.toNat * takenBack payments
    Run.Ending plan rows outcomes (played.result.map Run.Stand.summary) ∧
    (∀ payment ∈ payments, ∃ gasPrice,
      payment.transaction.terms? = some ⟨plan.amount.toNat, gasPrice⟩) ∧
    payments.length = summary.transferred ∧
    total = counted % 2 ^ 256 ∧
    (counted < 2 ^ 256 →
      total = counted ∧
      (total = spent payments ↔
        plan.amount = 0 ∨ ∀ payment ∈ payments, payment.receipt.succeeded = true)) := by
  intro loop played rows outcomes summary total payments counted
  have reported := (booked_turns node plan limit turned cursor state).reported
  have fields : summary = _ := Summary.tally_eq outcomes
  have length : payments.length = summary.transferred := by
    rw [fields]
    exact reported.length_eq.trans (Outcome.length_reports _)
  have due : Report.due plan.amount _ = counted := due_eq reported
  have wrapped : total = counted % 2 ^ 256 := by
    show summary.totalFee.toNat = counted % 2 ^ 256
    rw [fields, Outcome.toNat_sum_fee, ← due]
    exact Report.spent_mod (transferFee_eq_of_mem reported)
  refine ⟨Run.ending_turns node plan limit turned cursor state, terms?_of_mem reported, length,
    wrapped, fun fits => ?_⟩
  have total_eq : total = counted := wrapped.trans (Nat.mod_eq_of_lt fits)
  refine ⟨total_eq, ?_⟩
  rw [total_eq, Nat.add_eq_left, Nat.mul_eq_zero, takenBack_eq_zero_iff]
  refine or_congr_left ⟨fun zero => BitVec.eq_of_toNat_eq zero, fun zero => ?_⟩
  rw [zero]
  rfl

end Rows

/-! ### A payment taken back -/

/-- A node that takes every payment, and takes back all but the first. -/
def takingBack : Peer Chain Nat where
  answer
    | .chainId, receipts => (.ok 1, receipts)
    | .gasPrice, receipts => (.ok 1, receipts)
    | .transferGas .., receipts => (.ok 21000, receipts)
    | .transactionCount _, receipts => (.ok 0, receipts)
    | .balance _, receipts => (.ok 0, receipts)
    | .send transaction, receipts => (.ok transaction.hash, receipts)
    | .receipt _, receipts => (.ok ⟨21000, receipts == 0⟩, receipts + 1)

/-- A total is not always what was spent, however small the numbers are: when the second of two
payments of ten is taken back, 42020 are shown and 42010 were spent. -/
theorem total_above_spending :
    ¬ ∀ (node : Peer Chain Nat) (plan : Plan) (limit : Option Nat) (turned : Nat)
        (cursor : Cursor) (state : Nat),
      let loop := Run.turns limit turned (.going .empty cursor)
      let played := (loop.throughOrStop (attempt plan)).play node state
      let payments := mined played.calls
      spent payments + plan.amount.toNat * takenBack payments < 2 ^ 256 →
        ∀ stand, played.result = .ok stand →
          stand.summary.totalFee.toNat = spent payments := by
  intro always
  let cursor := fundedRows
  let loop := Run.turns (some 2) 3 (.going .empty cursor)
  let played := (loop.throughOrStop (attempt somePlan)).play takingBack 0
  let visited := Run.visits takingBack (attempt somePlan) (cursor.ahead 2) 0
  let reports := (finished visited).filterMap Outcome.report?
  have shown : played.result.map (fun stand => stand.summary.totalFee.toNat) = .ok 42020 := by
    decide +kernel
  obtain ⟨stand, ended, total⟩ :
      ∃ stand, played.result = .ok stand ∧ stand.summary.totalFee.toNat = 42020 := by
    generalize played.result = result at shown
    cases result with
    | error breakdown => exact nomatch shown
    | ok stand => exact ⟨stand, rfl, Except.ok.inj shown⟩
  have onceBack : takenBack (mined played.calls) = 1 := by decide +kernel
  have due : Report.due somePlan.amount reports = 42020 := by decide +kernel
  have counted : spent (mined played.calls) + somePlan.amount.toNat * 1 = 42020 := by
    rw [← due, ← onceBack]
    exact (due_eq (booked_turns takingBack somePlan (some 2) 3 cursor 0).reported).symm
  have equal := always takingBack somePlan (some 2) 3 cursor 0
    (by rw [onceBack, counted]; decide) stand ended
  rw [← equal, total] at counted
  exact absurd counted (by decide)

end Spending

end Trickle
