/-
This file proves which nonces the payments of a run carry. A payment is given the nonce
that the node counted when it was asked in the same attempt, and a node that counts the
payments whose receipts it has given counts one more after each of them. The payments
that the node takes therefore carry different nonces if the receipt of every one but the
last came, and only then: while a payment whose receipt was overdue is still on its way,
the next one is given the same nonce. A run that breaks down over a payment it cannot sign
has taken no more.

The nonces of some calls in a row depend on the calls before only by how many receipts
came among these, so that the books of the attempts of a run can be put together.
-/

import Trickle.Proofs.Accounting
import Trickle.Proofs.Payment

namespace Trickle

/-- The nonce that the bytes of a payment carry: the first item of their list. -/
def SignedTransaction.nonce? (transaction : SignedTransaction) : Option Nat :=
  match Rlp.decode? transaction.raw with
  | some (.list (.bytes nonce :: _)) => some (Bytes.toNat nonce)
  | _ => none

theorem Payment.nonce?_signed (payment : Payment) (key : PrivateKey) :
    (payment.signed key).nonce? = some payment.nonce.toNat := by
  obtain ⟨_, _, _, _, _, _, spelled, ⟨content, rfl, value, _⟩, _⟩ := payment.carriedBy_signed key
  rw [SignedTransaction.nonce?, spelled.1, ← value]
  rfl

/-- Whether a receipt is waited for and comes. -/
def Call.isReceived (call : Call Chain) : Bool :=
  call.question.isWait && !call.failed

namespace Nonces

/-! ### Payments taken and receipts counted -/

/-- A payment that the node took, and whether its receipt came. -/
structure Taken where
  transaction : SignedTransaction
  received : Bool

/-- The payments that the node takes. The receipt of each is waited for in the next call. -/
def taken : List (Call Chain) → List Taken
  | [] => []
  | ⟨.send transaction, .ok _⟩ :: rest =>
    ⟨transaction, rest.head?.any Call.isReceived⟩ :: taken rest
  | _ :: rest => taken rest

/-- Whenever the node says how many payments an account has made, it says how many receipts have
come so far, above a base. -/
def CountsReceipts (base : Nat) (calls : List (Call Chain)) : Prop :=
  ∀ before account nonce after,
    calls = before ++ ⟨.transactionCount account, .ok nonce⟩ :: after →
      nonce.toNat = base + before.countP Call.isReceived

variable {base : Nat} {calls more : List (Call Chain)}

theorem CountsReceipts.left (counts : CountsReceipts base (calls ++ more)) :
    CountsReceipts base calls := by
  intro before account nonce after split
  exact counts before account nonce (after ++ more) (by rw [split, List.append_assoc]; rfl)

theorem CountsReceipts.right (counts : CountsReceipts base (calls ++ more)) :
    CountsReceipts (base + calls.countP Call.isReceived) more := by
  intro before account nonce after split
  have counted := counts (calls ++ before) account nonce after
    (by rw [split, List.append_assoc])
  rw [counted, List.countP_append, Nat.add_assoc]

/-- The first payment has a nonce, and each one after has the nonce of the one before, or the next
one if the receipt of that one came. -/
inductive Counted : (base : Nat) → List Taken → Prop
  | nil {base : Nat} : Counted base []
  | cons {base : Nat} {payment : Taken} {rest : List Taken}
      (carried : payment.transaction.nonce? = some base)
      (behind : Counted (base + payment.received.toNat) rest) : Counted base (payment :: rest)

variable {payments others : List Taken}

theorem Counted.append (first : Counted base payments)
    (second : Counted (base + payments.countP Taken.received) others) :
    Counted base (payments ++ others) := by
  induction first with
  | nil => exact second
  | cons carried _ inductionHypothesis =>
    rw [Summary.countP_cons_eq, ← Nat.add_assoc] at second
    exact .cons carried (inductionHypothesis second)

/-- A payment has the nonce that the receipts before it make. -/
theorem Counted.nonce?_eq (counted : Counted base payments) {before after : List Taken}
    {payment : Taken} (split : payments = before ++ payment :: after) :
    payment.transaction.nonce? = some (base + before.countP Taken.received) := by
  subst split
  induction before generalizing base with
  | nil =>
    cases counted with
    | cons carried _ => exact carried
  | cons first before inductionHypothesis =>
    cases counted with
    | cons _ behind => rw [inductionHypothesis behind, Summary.countP_cons_eq, Nat.add_assoc]

/-- No payment has a nonce below that of the first one. -/
theorem Counted.exists_nonce (counted : Counted base payments) {payment : Taken}
    (member : payment ∈ payments) :
    ∃ nonce, payment.transaction.nonce? = some nonce ∧ base ≤ nonce := by
  obtain ⟨before, after, split⟩ := List.append_of_mem member
  exact ⟨_, counted.nonce?_eq split, Nat.le_add_right _ _⟩

/-- The nonces differ exactly if all receipts but the last came: a payment whose receipt did not
come shares its nonce with the next one. -/
theorem Counted.nodup_iff (counted : Counted base payments) :
    (payments.map fun payment => payment.transaction.nonce?).Nodup ↔
      ∀ payment ∈ payments.dropLast, payment.received = true := by
  induction counted with
  | nil => exact ⟨fun _ _ member => (nomatch member), fun _ => List.nodup_nil⟩
  | @cons base payment rest carried counted inductionHypothesis =>
    cases rest with
    | nil => exact ⟨fun _ _ member => (nomatch member), fun _ => List.nodup_singleton _⟩
    | cons next rest =>
      rw [List.map_cons, List.nodup_cons, inductionHypothesis, List.dropLast_cons_cons,
        List.forall_mem_cons]
      refine and_congr_left fun _ => ⟨fun fresh => ?_, fun received again => ?_⟩
      · cases received : payment.received with
        | true => rfl
        | false =>
          -- No receipt came between the two, so the node counted the same for both.
          have same : next.transaction.nonce? = payment.transaction.nonce? := by
            rw [carried, counted.nonce?_eq (List.nil_append (next :: rest)).symm, received]
            rfl
          exact absurd (same ▸ List.mem_cons_self) fresh
      · obtain ⟨later, isMember, same⟩ := List.mem_map.mp again
        obtain ⟨nonce, isNonce, above⟩ := counted.exists_nonce isMember
        rw [carried, isNonce] at same
        obtain rfl := Option.some.inj same
        rw [received] at above
        exact absurd above (Nat.not_succ_le_self _)

/-! ### The books of an attempt -/

/-- What the payments taken in some calls have to do with these calls: their nonces follow the
node's count, their receipts are all that came, and later calls do not change what is known of
them. -/
structure Booked (calls : List (Call Chain)) : Prop where
  counted : ∀ base, CountsReceipts base calls → Counted base (taken calls)
  received : (taken calls).countP Taken.received = calls.countP Call.isReceived
  apart : ∀ more, taken (calls ++ more) = taken calls ++ taken more

theorem booked_nil : Booked [] :=
  ⟨fun _ _ => .nil, rfl, fun _ => rfl⟩

theorem Booked.append (first : Booked calls) (second : Booked more) : Booked (calls ++ more) where
  counted base counts := by
    rw [first.apart]
    refine (first.counted base counts.left).append ?_
    rw [first.received]
    exact second.counted _ counts.right
  received := by
    rw [first.apart, List.countP_append, List.countP_append, first.received, second.received]
  apart later := by
    rw [List.append_assoc, first.apart, second.apart, first.apart, List.append_assoc]

/-- The calls of an attempt that ends before its payment is taken. -/
theorem booked_of_none (none_taken : ∀ more, taken (calls ++ more) = taken more)
    (none_received : calls.countP Call.isReceived = 0) : Booked calls := by
  have nothing : taken calls = [] := by
    have alone := none_taken []
    rwa [List.append_nil] at alone
  refine ⟨fun base _ => ?_, ?_, fun more => ?_⟩
  · rw [nothing]
    exact .nil
  · rw [nothing, none_received]
    rfl
  · rw [nothing, none_taken]
    rfl

/-- The books of every attempt are in order: the payment it sends has the nonce that the node
counted two questions before. -/
theorem booked_of_conduct {plan : Plan} {recipient : Address}
    {result : Except TransferFailure Report}
    (conduct : Transfer.Conduct plan recipient calls result) : Booked calls := by
  have nonce (answers : Transfer.Answers) (wait : Call Chain) (base : Nat)
      (counts : CountsReceipts base
        ((Transfer.script plan recipient answers).take 5 ++ [wait])) :
      ((Transfer.payment plan recipient answers).signed plan.payer.key).nonce? = some base := by
    rw [Payment.nonce?_signed]
    exact congrArg some (counts ((Transfer.script plan recipient answers).take 2) _ _ _ rfl)
  cases conduct with
  | completed answers =>
    exact ⟨fun base counts => Counted.cons (nonce answers _ base counts) .nil, rfl, fun _ => rfl⟩
  | failed answers before call after fault split =>
    obtain ⟨index, bound, rfl, found⟩ := Transfer.exists_index_of_split split
    match index, bound with
    | 0, _ | 1, _ | 2, _ | 3, _ | 4, _ =>
      obtain rfl := Option.some.inj found
      exact booked_of_none (fun _ => rfl) rfl
    | 5, _ =>
      obtain rfl := Option.some.inj found
      exact ⟨fun base counts => Counted.cons (nonce answers _ base counts) .nil, rfl, fun _ => rfl⟩

/-! ### The books of a run -/

theorem booked_of_treated {plan : Plan} {row : String} {events : List Event}
    {result : Except Breakdown Outcome} (treated : Run.Treated plan row calls events result) :
    Booked calls := by
  cases treated with
  | malformed error unread => exact booked_nil
  | skipped entry read unfunded => exact booked_nil
  | coursed entry read funded course => exact booked_of_conduct course.conduct
  | stopped entry read funded answers => exact booked_of_none (fun _ => rfl) rfl

section Rows

variable {State : Type} (node : Peer Chain State) (plan : Plan)

theorem booked_rows (state : State) (cursor : Cursor) (count : Nat) :
    Booked (((Run.rows count cursor).throughOrStop (Transfer.attempt plan)).play node
      state).calls := by
  rw [Run.calls_rows]
  exact Run.gather_visits (fun calls _ _ => Booked calls)
    (Run.treated_visits node plan (cursor.ahead count) state) booked_nil
    (fun _ _ treated => booked_of_treated treated) Booked.append

/-- When the node counts the payments whose receipts came, the nonces of the payments it takes in a
run follow its count. -/
theorem counted_rows (state : State) (cursor : Cursor) (count base : Nat)
    (counts : CountsReceipts base
      (((Run.rows count cursor).throughOrStop (Transfer.attempt plan)).play node state).calls) :
    Counted base
      (taken
        (((Run.rows count cursor).throughOrStop (Transfer.attempt plan)).play node state).calls) :=
  (booked_rows node plan state cursor count).counted base counts

/-- When the node counts the payments whose receipts came, each payment it takes has the nonce that
the receipts before it make. The nonces of all payments taken in a run are different if and only if
the receipt of every payment but the last came. -/
theorem nonces_differ_iff_received (state : State) (cursor : Cursor) (count base : Nat)
    (counts : CountsReceipts base
      (((Run.rows count cursor).throughOrStop (Transfer.attempt plan)).play node state).calls) :
    let payments :=
      taken (((Run.rows count cursor).throughOrStop (Transfer.attempt plan)).play node state).calls
    (∀ before payment after, payments = before ++ payment :: after →
      payment.transaction.nonce? = some (base + before.countP Taken.received)) ∧
    ((payments.map fun payment => payment.transaction.nonce?).Nodup ↔
      ∀ payment ∈ payments.dropLast, payment.received = true) := by
  intro payments
  have counted : Counted base payments := counted_rows node plan state cursor count base counts
  exact ⟨fun before payment after split => counted.nonce?_eq split, counted.nodup_iff⟩

end Rows

/-! ### A node that counts -/

/-- A node that takes every payment, counts those whose receipts it has given, and either gives the
receipts or lets the wait for them run out of time. -/
def counting (gives : Bool) : Peer Chain Nat where
  answer
    | .chainId, receipts => (.ok 1, receipts)
    | .gasPrice, receipts => (.ok 1, receipts)
    | .transferGas .., receipts => (.ok 21000, receipts)
    | .transactionCount _, receipts =>
      if receipts < 2 ^ 64 then (.ok (BitVec.ofNat 64 receipts), receipts)
      else (.error (.ofCause (.other "no more payments")), receipts)
    | .balance _, receipts => (.ok 0, receipts)
    | .send transaction, receipts => (.ok transaction.hash, receipts)
    | .receipt hash, receipts =>
      if gives then (.ok ⟨21000, true⟩, receipts + 1)
      else (.error (.ofCause (.receiptTimeout hash 120000)), receipts)

theorem countsReceipts_cons {call : Call Chain}
    (first : ∀ account nonce, call = ⟨.transactionCount account, .ok nonce⟩ → nonce.toNat = base)
    (rest : CountsReceipts (base + call.isReceived.toNat) calls) :
    CountsReceipts base (call :: calls) := by
  intro before account nonce after split
  cases before with
  | nil => exact first account nonce (List.cons.inj split).1
  | cons head before =>
    obtain ⟨rfl, behind⟩ := List.cons.inj split
    rw [rest before account nonce after behind, Summary.countP_cons_eq, Nat.add_assoc]

/-- Whatever it is asked, it counts the receipts it has given. -/
theorem countsReceipts_counting (gives : Bool) {Result : Type} (dialogue : Dialogue Chain Result)
    (receipts : Nat) :
    CountsReceipts receipts (dialogue.play (counting gives) receipts).calls := by
  induction dialogue generalizing receipts with
  | done result =>
    intro before account nonce after split
    cases before <;> exact nomatch split
  | note event rest inductionHypothesis => exact inductionHypothesis receipts
  | ask question rest inductionHypothesis =>
    rw [Dialogue.play_ask]
    cases question with
    | transactionCount account =>
      by_cases room : receipts < 2 ^ 64
      · have answered : (counting gives).answer (.transactionCount account) receipts =
            (.ok (BitVec.ofNat 64 receipts), receipts) := if_pos room
        rw [answered]
        refine countsReceipts_cons (fun _ nonce same => ?_) (inductionHypothesis _ _)
        cases same
        rw [BitVec.toNat_ofNat, Nat.mod_eq_of_lt room]
      · have answered : (counting gives).answer (.transactionCount account) receipts =
            (.error (.ofCause (.other "no more payments")), receipts) := if_neg room
        rw [answered]
        exact countsReceipts_cons (fun _ _ same => nomatch same) (inductionHypothesis _ _)
    | receipt hash =>
      cases gives with
      | true => exact countsReceipts_cons (fun _ _ same => nomatch same) (inductionHypothesis _ _)
      | false => exact countsReceipts_cons (fun _ _ same => nomatch same) (inductionHypothesis _ _)
    | chainId | gasPrice | transferGas | balance | send =>
      exact countsReceipts_cons (fun _ _ same => nomatch same) (inductionHypothesis _ _)

/-- Two rows with a balance above zero. -/
def fundedRows : Cursor :=
  Cursor.ofRows #["0xaaaaaaaaaaaaaaaaaaaaaaaaaaaaaaaaaaaaaaaa;2",
    "0xbbbbbbbbbbbbbbbbbbbbbbbbbbbbbbbbbbbbbbbb;1.5"]

/-- A plan of somebody who pays. -/
def somePlan : Plan where
  payer := { key := ⟨1, by decide, by decide⟩, sender := ⟨1⟩ }
  amount := 10
  chainId := 1

/-- A node that gives all receipts is paid with two different nonces. -/
theorem received_payments_differ :
    let played :=
      ((Run.rows 2 fundedRows).throughOrStop (Transfer.attempt somePlan)).play (counting true) 0
    CountsReceipts 0 played.calls ∧
      (taken played.calls).length = 2 ∧
      ((taken played.calls).map fun payment => payment.transaction.nonce?).Nodup := by
  intro played
  have counts : CountsReceipts 0 played.calls := countsReceipts_counting true _ 0
  have received : (taken played.calls).all Taken.received = true := by decide +kernel
  have differ := (nonces_differ_iff_received (counting true) somePlan 0 fundedRows 2 0 counts).2
  exact ⟨counts, by decide +kernel, differ.mpr fun payment member =>
    List.all_eq_true.mp received payment (List.mem_of_mem_dropLast member)⟩

/-- When the wait for the first receipt runs out of time, both payments have the same nonce. -/
theorem overdue_payment_shares_nonce :
    let played :=
      ((Run.rows 2 fundedRows).throughOrStop (Transfer.attempt somePlan)).play (counting false) 0
    CountsReceipts 0 played.calls ∧
      (taken played.calls).length = 2 ∧
      ¬ ((taken played.calls).map fun payment => payment.transaction.nonce?).Nodup := by
  intro played
  have counts : CountsReceipts 0 played.calls := countsReceipts_counting false _ 0
  have counted : Counted 0 (taken played.calls) :=
    counted_rows (counting false) somePlan 0 fundedRows 2 0 counts
  have overdue : ¬ (taken played.calls).dropLast.all Taken.received = true := by decide +kernel
  exact ⟨counts, by decide +kernel, fun differ =>
    overdue (List.all_eq_true.mpr (counted.nodup_iff.mp differ))⟩

end Nonces

end Trickle
