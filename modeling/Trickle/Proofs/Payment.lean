/-
This file proves that the bytes an attempt sends say what it decided to pay. They are the
one encoding of a list of nine items, the six fields of the payment and the three numbers
of its signature, and so are the bytes that are hashed for signing, with the chain id and
two zeros in place of the signature. Two payments that differ in any field, the chain id
among them, are therefore never signed by the same bytes.

An encoding is read back only if its length can be written, so the items have to be short.
All are numbers of 256 bits at most; for the numbers of the signature this holds because
they are residues modulo the order of the curve.
-/

import Mathlib.Data.List.Forall2
import Mathlib.Order.Basic
import Trickle.Proofs.Attempt
import Trickle.Proofs.Rlp

namespace Trickle

/-! ### Numbers of a signature -/

namespace Signature

open Secp256k1

theorem order_pos : 0 < order := by decide

/-- The order is odd, so that of a residue and its opposite one is not above the half. -/
theorem order_eq : order = 2 * (order / 2) + 1 := by decide

theorem order_lt : order < 2 ^ 256 := by decide

/-- A signature in the one form that is given: both numbers are residues, neither of them zero, and
the second one is not above the half. -/
structure IsLow (signature : Signature) : Prop where
  r_pos : 0 < signature.r
  r_lt : signature.r < order
  s_pos : 0 < signature.s
  s_le : signature.s ≤ order / 2

theorem isLow_of_withSecret? {scalar hash secret : Nat} {signature : Signature}
    (found : withSecret? scalar hash secret = some signature) : signature.IsLow := by
  have odd := order_eq
  unfold withSecret? at found
  split at found
  case isTrue => exact nomatch found
  case isFalse =>
    dsimp only at found
    generalize residue : (multipleOfBase secret).1 % order = r at found
    generalize product : mul order (inverse order secret) ((hash + r * scalar) % order) = s at found
    have r_lt : r < order := by
      rw [← residue]
      exact Nat.mod_lt _ order_pos
    have s_lt : s < order := by
      rw [← product]
      exact Nat.mod_lt _ order_pos
    split at found
    case isTrue => exact nomatch found
    case isFalse nonzero =>
      have r_pos : 0 < r := Nat.pos_of_ne_zero fun zero => nonzero (.inl zero)
      have s_pos : 0 < s := Nat.pos_of_ne_zero fun zero => nonzero (.inr zero)
      split at found
      case isTrue high =>
        obtain rfl := Option.some.inj found
        -- The order is odd: the opposite of a number above its half is not above the half.
        have opposite_le : order - s ≤ order / 2 := by
          generalize order / 2 = half at odd high ⊢
          omega
        exact ⟨r_pos, r_lt, Nat.sub_pos_of_lt s_lt, opposite_le⟩
      case isFalse low =>
        obtain rfl := Option.some.inj found
        exact ⟨r_pos, r_lt, s_pos, Nat.not_lt.mp low⟩

theorem isLow_search (scalar hash count : Nat) (generator : Generator) :
    (search scalar hash count generator).IsLow := by
  induction count generalizing generator with
  | zero =>
    have large : 1 < order ∧ 1 ≤ order / 2 := by decide
    exact ⟨Nat.one_pos, large.1, Nat.one_pos, large.2⟩
  | succ count inductionHypothesis =>
    rw [search]
    cases found : withSecret? scalar hash (Bytes.toNat generator.draw) with
    | some signature => exact isLow_of_withSecret? found
    | none => exact inductionHypothesis _

theorem IsLow.s_lt {signature : Signature} (low : signature.IsLow) : signature.s < order :=
  Nat.lt_of_le_of_lt low.s_le (by decide)

/-- Every hash is signed in the form with the smaller second number. -/
theorem isLow_ofHash (key : PrivateKey) (hash : Nat) : (ofHash key hash).IsLow :=
  isLow_search _ _ _ _

end Signature

/-! ### Items of a payment -/

namespace Rlp

/-- An item that is a number, written without zero bytes in front. -/
def IsNumber (item : Rlp) (value : Nat) : Prop :=
  ∃ content, item = bytes content ∧ Bytes.toNat content = value ∧ content.head? ≠ some 0

/-- An item that is an address, written with all of its twenty bytes. -/
def IsAddress (item : Rlp) (address : Address) : Prop :=
  ∃ content, item = bytes content ∧ content.length = 20 ∧
    Bytes.toNat content = address.number.toNat

/-- The item that is written for a number is the only one that stands for it. -/
theorem isNumber_iff {item : Rlp} {value : Nat} : item.IsNumber value ↔ item = ofNat value := by
  constructor
  · rintro ⟨content, rfl, rfl, shortest⟩
    rw [ofNat, Bytes.minimal_toNat shortest]
  · rintro rfl
    exact ⟨Bytes.minimal value, rfl, Bytes.toNat_minimal value, Bytes.head?_minimal value⟩

theorem isNumber_ofNat (value : Nat) : (ofNat value).IsNumber value :=
  isNumber_iff.mpr rfl

theorem toNat_bytes (address : Address) : Bytes.toNat address.bytes = address.number.toNat := by
  rw [Address.bytes, Bytes.toNat_ofNat, show 256 ^ 20 = 2 ^ 160 from rfl]
  exact Nat.mod_eq_of_lt address.number.isLt

theorem isAddress_bytes (address : Address) : (bytes address.bytes).IsAddress address :=
  ⟨address.bytes, rfl, Bytes.length_ofNat _ _, toNat_bytes address⟩

/-- An item stands for one number at most. -/
theorem isNumber_rightUnique : Relator.RightUnique IsNumber := by
  intro item first second isFirst isSecond
  obtain ⟨content, rfl, value, _⟩ := isFirst
  obtain ⟨content', same, value', _⟩ := isSecond
  cases same
  exact value.symm.trans value'

theorem IsAddress.unique {item : Rlp} {first second : Address} (isFirst : item.IsAddress first)
    (isSecond : item.IsAddress second) : first = second := by
  obtain ⟨content, rfl, _, number⟩ := isFirst
  obtain ⟨content', same, _, number'⟩ := isSecond
  cases same
  exact congrArg Address.mk (BitVec.eq_of_toNat_eq (number.symm.trans number'))

theorem short_ofNat {value : Nat} (small : value < 2 ^ 256) : (ofNat value).Short := by
  have narrow : Bytes.width value ≤ 32 :=
    Bytes.width_le (by rwa [show 256 ^ 32 = 2 ^ 256 from rfl])
  refine ⟨Bytes.minimal value, rfl, ?_⟩
  rw [Bytes.length_minimal]
  omega

end Rlp

/-! ### What the bytes of a payment say -/

namespace Payment

/-- Bytes that are the one spelling of a list that holds the six fields of a payment and, behind
them, some numbers. -/
def CarriedBy (payment : Payment) (input : Bytes) (numbers : List Nat) : Prop :=
  ∃ nonce gasPrice gasLimit recipient amount others,
    Rlp.Spells input
      (.list ([nonce, gasPrice, gasLimit, recipient, amount, .bytes []] ++ others)) ∧
    nonce.IsNumber payment.nonce.toNat ∧
    gasPrice.IsNumber payment.gasPrice.toNat ∧
    gasLimit.IsNumber payment.gasLimit.toNat ∧
    recipient.IsAddress payment.recipient ∧
    amount.IsNumber payment.amount.toNat ∧
    List.Forall₂ Rlp.IsNumber others numbers

theorem short_of_mem_fields {payment : Payment} {item : Rlp} (member : item ∈ payment.fields) :
    item.Short := by
  simp only [fields, List.mem_cons, List.not_mem_nil, or_false] at member
  rcases member with rfl | rfl | rfl | rfl | rfl | rfl
  · exact Rlp.short_ofNat (Nat.lt_trans payment.nonce.isLt (by decide))
  · exact Rlp.short_ofNat (Nat.lt_trans payment.gasPrice.isLt (by decide))
  · exact Rlp.short_ofNat (Nat.lt_trans payment.gasLimit.isLt (by decide))
  · have twenty : payment.recipient.bytes.length = 20 := Bytes.length_ofNat _ _
    exact ⟨_, rfl, by omega⟩
  · exact Rlp.short_ofNat payment.amount.isLt
  · exact ⟨[], rfl, Nat.zero_le _⟩

/-- The fields of a payment are carried by the encoding of their list with three numbers. -/
theorem carriedBy_encode (payment : Payment) (numbers : List Nat) (three : numbers.length = 3)
    (small : ∀ number ∈ numbers, number < 2 ^ 256) :
    payment.CarriedBy (Rlp.encode (.list (payment.fields ++ numbers.map Rlp.ofNat))) numbers := by
  have few : (payment.fields ++ numbers.map Rlp.ofNat).length ≤ 9 := by
    rw [List.length_append, List.length_map, three]
    exact Nat.le_refl 9
  have short (item : Rlp) (member : item ∈ payment.fields ++ numbers.map Rlp.ofNat) :
      item.Short := by
    rcases List.mem_append.mp member with field | behind
    · exact short_of_mem_fields field
    · obtain ⟨number, isMember, rfl⟩ := List.mem_map.mp behind
      exact Rlp.short_ofNat (small number isMember)
  have written : List.Forall₂ Rlp.IsNumber (numbers.map Rlp.ofNat) numbers :=
    List.forall₂_map_left_iff.mpr (List.forall₂_same.mpr fun number _ => Rlp.isNumber_ofNat number)
  exact ⟨_, _, _, _, _, _, Rlp.spells_list_of_short few short, Rlp.isNumber_ofNat _,
    Rlp.isNumber_ofNat _, Rlp.isNumber_ofNat _, Rlp.isAddress_bytes _, Rlp.isNumber_ofNat _,
    written⟩

/-- The bytes that carry fields and numbers determine them. -/
theorem CarriedBy.unique {first second : Payment} {input : Bytes} {numbers numbers' : List Nat}
    (isFirst : first.CarriedBy input numbers) (isSecond : second.CarriedBy input numbers') :
    (first.recipient = second.recipient ∧ first.amount = second.amount ∧
      first.gasLimit = second.gasLimit ∧ first.gasPrice = second.gasPrice ∧
      first.nonce = second.nonce) ∧ numbers = numbers' := by
  obtain ⟨_, _, _, _, _, _, spelled, nonce, gasPrice, gasLimit, recipient, amount, others⟩ :=
    isFirst
  obtain ⟨_, _, _, _, _, _, spelled', nonce', gasPrice', gasLimit', recipient', amount', others'⟩ :=
    isSecond
  have same := spelled.1.symm.trans spelled'.1
  cases same
  refine ⟨⟨recipient.unique recipient', ?_, ?_, ?_, ?_⟩, ?_⟩
  · exact BitVec.eq_of_toNat_eq (Rlp.isNumber_rightUnique amount amount')
  · exact BitVec.eq_of_toNat_eq (Rlp.isNumber_rightUnique gasLimit gasLimit')
  · exact BitVec.eq_of_toNat_eq (Rlp.isNumber_rightUnique gasPrice gasPrice')
  · exact BitVec.eq_of_toNat_eq (Rlp.isNumber_rightUnique nonce nonce')
  · exact List.right_unique_forall₂' Rlp.isNumber_rightUnique others others'

theorem recovery_lt (payment : Payment) (signature : Signature) :
    payment.recovery signature < 2 ^ 256 := by
  have chainId := payment.chainId.isLt
  have parity : signature.oddY.toNat ≤ 1 := signature.oddY.toNat_le
  rw [recovery]
  omega

theorem carriedBy_signingPayload (payment : Payment) :
    payment.CarriedBy payment.signingPayload [payment.chainId.toNat, 0, 0] := by
  have small (number : Nat) (member : number ∈ [payment.chainId.toNat, 0, 0]) :
      number < 2 ^ 256 := by
    have chainId := payment.chainId.isLt
    simp only [List.mem_cons, List.not_mem_nil, or_false] at member
    omega
  exact payment.carriedBy_encode [_, 0, 0] rfl small

theorem carriedBy_encoded (payment : Payment) {signature : Signature} (low : signature.IsLow) :
    payment.CarriedBy (payment.encoded signature)
      [payment.recovery signature, signature.r, signature.s] := by
  have small (number : Nat)
      (member : number ∈ [payment.recovery signature, signature.r, signature.s]) :
      number < 2 ^ 256 := by
    have recovery := payment.recovery_lt signature
    have r_lt := Nat.lt_trans low.r_lt Signature.order_lt
    have s_lt := Nat.lt_trans low.s_lt Signature.order_lt
    simp only [List.mem_cons, List.not_mem_nil, or_false] at member
    omega
  exact payment.carriedBy_encode [_, _, _] rfl small

/-- What is sent carries the payment, the chain id and the parity in one number, and the signature
of the signing payload. -/
theorem carriedBy_signed (payment : Payment) (key : PrivateKey) :
    payment.CarriedBy (payment.signed key).raw
      [payment.recovery (payment.signature key), (payment.signature key).r,
        (payment.signature key).s] :=
  payment.carriedBy_encoded (Signature.isLow_ofHash _ _)

/-- A signed payment carries its numbers, of which the first has 64 bits. -/
theorem carriedBy_of_sign {payment : Payment} {key : PrivateKey} {transaction : SignedTransaction}
    (signed : payment.sign key = .ok transaction) :
    let signature := payment.signature key
    let number := 35 + 2 * payment.chainId.toNat + signature.oddY.toNat
    number < 2 ^ 64 ∧ payment.CarriedBy transaction.raw [number, signature.r, signature.s] := by
  obtain ⟨signable, rfl⟩ := sign_eq_ok_iff.mp signed
  exact ⟨signable, payment.carriedBy_signed key⟩

theorem signable_iff_lt {payment : Payment} {key : PrivateKey} :
    payment.Signable key ↔
      35 + 2 * payment.chainId.toNat + (payment.signature key).oddY.toNat < 2 ^ 64 :=
  Iff.rfl

theorem sign_eq_error_iff_wide {payment : Payment} {key : PrivateKey} :
    payment.sign key = .error .wideRecovery ↔
      2 ^ 64 ≤ 35 + 2 * payment.chainId.toNat + (payment.signature key).oddY.toNat := by
  rw [sign_eq_error_iff, and_iff_left rfl, signable_iff_lt, Nat.not_lt]

/-- Payments that differ in any field are not signed by the same bytes. -/
theorem signingPayload_injective : Function.Injective signingPayload := by
  intro first second same
  have carried := first.carriedBy_signingPayload
  rw [same] at carried
  obtain ⟨⟨recipient, amount, gasLimit, gasPrice, nonce⟩, numbers⟩ :=
    carried.unique second.carriedBy_signingPayload
  have chainId : first.chainId = second.chainId :=
    BitVec.eq_of_toNat_eq (List.cons.inj numbers).1
  obtain ⟨_, _, _, _, _, _⟩ := first
  obtain ⟨_, _, _, _, _, _⟩ := second
  dsimp only at recipient amount gasLimit gasPrice nonce chainId
  rw [recipient, amount, gasLimit, gasPrice, nonce, chainId]

end Payment

/-! ### What an attempt sends -/

namespace Transfer

/-- Whether the first four calls of an attempt have been answered with what a payment is made of. -/
structure Prepared (plan : Plan) (recipient : Address) (payment : Payment)
    (calls : List (Call Chain)) : Prop where
  recipient_eq : payment.recipient = recipient
  amount_eq : payment.amount = plan.amount
  chainId_eq : payment.chainId = plan.chainId
  answered : ∃ balance : Wei, calls.take 4 = [
    ⟨.gasPrice, .ok payment.gasPrice⟩,
    ⟨.transferGas plan.payer.sender payment.recipient payment.amount, .ok payment.gasLimit⟩,
    ⟨.transactionCount plan.payer.sender, .ok payment.nonce⟩,
    ⟨.balance plan.payer.sender, .ok balance⟩]

variable {plan : Plan} {recipient : Address} {calls : List (Call Chain)} {events : List Event}
  {result : Except Breakdown (Except TransferFailure Report)}

theorem prepared_payment {answers : Answers}
    (asked : calls.take 4 = (script plan recipient answers).take 4) :
    Prepared plan recipient (payment plan recipient answers) calls :=
  ⟨rfl, rfl, rfl, answers.balance, asked⟩

/-- The first four calls determine the payment. -/
theorem Prepared.eq_payment {payment : Payment} (prepared : Prepared plan recipient payment calls)
    {answers : Answers} (asked : calls.take 4 = (script plan recipient answers).take 4) :
    payment = Transfer.payment plan recipient answers := by
  obtain ⟨rfl, amount, chainId, balance, answered⟩ := prepared
  rw [asked] at answered
  obtain ⟨recipient, amount', gasLimit, gasPrice, nonce, chainId'⟩ := payment
  simp only [script, List.take, List.cons.injEq, Call.mk.injEq, heq_eq_eq, Except.ok.injEq,
    true_and, and_true] at answered
  obtain ⟨rfl, ⟨_, rfl⟩, rfl, _⟩ := answered
  simp only at amount chainId
  rw [amount, chainId]
  rfl

theorem Prepared.failed_of_mem {payment : Payment} {call : Call Chain}
    (prepared : Prepared plan recipient payment calls) (member : call ∈ calls.take 4) :
    call.failed = false := by
  obtain ⟨_, _, _, balance, answered⟩ := prepared
  rw [answered] at member
  simp only [List.mem_cons, List.not_mem_nil, or_false] at member
  rcases member with rfl | rfl | rfl | rfl <;> rfl

/-- The ways an attempt comes to the payment it is to send: it does not, since a question before
comes back with a fault; it sends the payment; or it breaks down over it. -/
theorem Attempted.sends (attempted : Attempted plan recipient calls events result) :
    ((∀ payment, ¬ Prepared plan recipient payment calls) ∧
        (∀ transaction, .send transaction ∉ calls.map Call.question) ∧
        ∃ ending, result = .ok ending) ∨
      ∃ answers : Answers, calls.take 4 = (script plan recipient answers).take 4 ∧
        ((∃ transaction, (payment plan recipient answers).sign plan.payer.key = .ok transaction ∧
            (∀ other, .send other ∈ calls.map Call.question ↔ other = transaction) ∧
            ∃ ending, result = .ok ending) ∨
          (payment plan recipient answers).sign plan.payer.key = .error .wideRecovery ∧
            (∀ transaction, .send transaction ∉ calls.map Call.question) ∧
            result = .error .wideRecovery) := by
  cases attempted with
  | stopped answers cannotSign =>
    refine .inr ⟨answers, List.take_take .., .inr ⟨Payment.sign_of_not_signable cannotSign,
      fun transaction sent => ?_, rfl⟩⟩
    rw [List.map_take] at sent
    exact not_mem_take_questions (by decide) sent
  | coursed course =>
    have made {answers : Answers} {transaction : SignedTransaction}
        (sent : .send transaction ∈ (script plan recipient answers).map Call.question) :
        transaction = (payment plan recipient answers).signed plan.payer.key := by
      simpa [script] using sent
    have conduct := course.conduct
    generalize List.filterMap Moment.call? _ = calls at conduct ⊢
    cases conduct with
    | completed answers canSign =>
      refine .inr ⟨answers, rfl, .inl ⟨_, Payment.sign_of_signable canSign,
        fun other => ⟨made, ?_⟩, _, rfl⟩⟩
      rintro rfl
      exact List.mem_of_getElem? (i := 4) rfl
    | failed answers before call after fault split canSign =>
      rw [questions_of_split split]
      rcases Nat.lt_or_ge before.length 4 with early | late
      · refine .inl ⟨fun other prepared => ?_, fun transaction => not_mem_take_questions early,
          _, rfl⟩
        have whole : (before ++ [(⟨call.question, .error fault⟩ : Call Chain)]).take 4 =
            before ++ [⟨call.question, .error fault⟩] :=
          List.take_of_length_le (by rw [List.length_append]; exact early)
        have last : ⟨call.question, .error fault⟩ ∈
            (before ++ [(⟨call.question, .error fault⟩ : Call Chain)]).take 4 := by
          rw [whole]
          exact List.mem_append_right _ (List.mem_singleton.mpr rfl)
        cases prepared.failed_of_mem last
      · refine .inr ⟨answers, ?_, .inl ⟨_, Payment.sign_of_signable (canSign late),
          fun other => ⟨fun sent => made (List.mem_of_mem_take sent), ?_⟩, _, rfl⟩⟩
        · rw [split, List.take_append_of_le_length late, List.take_append_of_le_length late]
        · rintro rfl
          exact List.take_subset_take_left _ (Nat.succ_le_succ late)
            (List.mem_of_getElem? (i := 4) rfl)

/-- An attempt sends a transaction exactly if this is the payment of the amount and to the account
that it asked the gas for, with the gas price, the gas limit and the nonce it was answered, signed
with the key of the plan; it breaks down exactly if that payment cannot be signed, which is so if
and only if the number made of the chain id and a parity has more than 64 bits. The bytes of every
signed payment are the one spelling of a list of its six fields and three numbers, the first of
which is that number; the bytes hashed for signing are the one spelling of the list with the chain
id and two zeros instead, so that payments which differ in any field are not signed by the same
bytes. -/
theorem attempt_sends_its_payment {State : Type} (node : Peer Chain State) (plan : Plan)
    (recipient : Address) (state : State) :
    let played := (attempt plan recipient).play node state
    (∀ transaction, .send transaction ∈ played.questions ↔
      ∃ payment, Prepared plan recipient payment played.calls ∧
        payment.sign plan.payer.key = .ok transaction) ∧
    (∀ breakdown, played.result = .error breakdown ↔
      ∃ payment, Prepared plan recipient payment played.calls ∧
        payment.sign plan.payer.key = .error breakdown) ∧
    (∀ (payment : Payment) (key : PrivateKey),
      let signature := payment.signature key
      let number := 35 + 2 * payment.chainId.toNat + signature.oddY.toNat
      (payment.sign key = .error .wideRecovery ↔ 2 ^ 64 ≤ number) ∧
      ∀ transaction, payment.sign key = .ok transaction →
        number < 2 ^ 64 ∧ payment.CarriedBy transaction.raw [number, signature.r, signature.s]) ∧
    (∀ payment : Payment,
      payment.CarriedBy payment.signingPayload [payment.chainId.toNat, 0, 0]) ∧
    Function.Injective Payment.signingPayload := by
  intro played
  have attempted : Attempted plan recipient played.calls played.events played.result :=
    attempted_attempt node plan recipient state
  rw [played.questions_eq_map_calls]
  refine ⟨fun transaction => ?_, fun breakdown => ?_,
    fun payment key => ⟨Payment.sign_eq_error_iff_wide, fun transaction =>
      Payment.carriedBy_of_sign⟩, Payment.carriedBy_signingPayload,
    Payment.signingPayload_injective⟩
  · obtain ⟨unprepared, unsent, _⟩ | ⟨answers, asked, ⟨made, signed, sends, _⟩ |
      ⟨unsigned, unsent, _⟩⟩ := attempted.sends
    · exact ⟨fun sent => absurd sent (unsent transaction),
        fun ⟨payment, prepared, _⟩ => absurd prepared (unprepared payment)⟩
    · rw [sends]
      constructor
      · rintro rfl
        exact ⟨_, prepared_payment asked, signed⟩
      · rintro ⟨payment, prepared, isMade⟩
        rw [prepared.eq_payment asked, signed] at isMade
        exact (Except.ok.inj isMade).symm
    · refine ⟨fun sent => absurd sent (unsent transaction), ?_⟩
      rintro ⟨payment, prepared, isMade⟩
      rw [prepared.eq_payment asked, unsigned] at isMade
      exact nomatch isMade
  · obtain ⟨unprepared, _, ending, ended⟩ | ⟨answers, asked, ⟨made, signed, _, ending, ended⟩ |
      ⟨unsigned, _, stopped⟩⟩ := attempted.sends
    · rw [ended]
      exact ⟨nofun, fun ⟨payment, prepared, _⟩ => absurd prepared (unprepared payment)⟩
    · rw [ended]
      refine ⟨nofun, ?_⟩
      rintro ⟨payment, prepared, isUnsigned⟩
      rw [prepared.eq_payment asked, signed] at isUnsigned
      exact nomatch isUnsigned
    · rw [stopped]
      constructor
      · intro same
        obtain rfl := Except.error.inj same
        exact ⟨_, prepared_payment asked, unsigned⟩
      · rintro ⟨payment, prepared, isUnsigned⟩
        rw [prepared.eq_payment asked, unsigned] at isUnsigned
        exact congrArg _ (Except.error.inj isUnsigned)

/-- A node that takes every payment, on the chain with the largest id there is. -/
def onLargestChain : Peer Chain Unit where
  answer
    | .chainId, _ => (.ok (BitVec.allOnes 64), ())
    | .gasPrice, _ => (.ok 1, ())
    | .transferGas .., _ => (.ok 21000, ())
    | .transactionCount _, _ => (.ok 7, ())
    | .balance _, _ => (.ok 0, ())
    | .send transaction, _ => (.ok transaction.hash, ())
    | .receipt _, _ => (.ok ⟨21000, true⟩, ())

/-- Not everything that is made ready is sent: on the chain with the largest id an attempt is
answered all it asks, and breaks down. -/
theorem largest_chain_is_not_paid_on :
    ¬ ∀ (node : Peer Chain Unit) (plan : Plan) (recipient : Address) (payment : Payment),
      let played := (attempt plan recipient).play node ()
      Prepared plan recipient payment played.calls →
        ∃ transaction, .send transaction ∈ played.questions := by
  intro always
  let plan : Plan :=
    { payer := { key := ⟨1, by decide, by decide⟩, sender := ⟨1⟩ }, amount := 10
      chainId := BitVec.allOnes 64 }
  let payment : Payment :=
    { recipient := ⟨2⟩, amount := 10, gasLimit := 21000, gasPrice := 1, nonce := 7
      chainId := BitVec.allOnes 64 }
  let played := (attempt plan ⟨2⟩).play onLargestChain ()
  have prepared : Prepared plan ⟨2⟩ payment played.calls := ⟨rfl, rfl, rfl, 0, rfl⟩
  obtain ⟨transaction, sent⟩ := always onLargestChain plan ⟨2⟩ payment prepared
  have attempted : Attempted plan ⟨2⟩ played.calls played.events played.result :=
    attempted_attempt onLargestChain plan ⟨2⟩ ()
  rw [played.questions_eq_map_calls] at sent
  obtain ⟨unprepared, _⟩ | ⟨answers, asked, ⟨made, signed, _⟩ | ⟨_, unsent, _⟩⟩ := attempted.sends
  · exact unprepared payment prepared
  · obtain ⟨narrow, _⟩ := Payment.carriedBy_of_sign signed
    have wide : 2 ^ 64 ≤ 35 + 2 * (BitVec.allOnes 64).toNat := by decide
    exact absurd narrow (Nat.not_lt_of_le (Nat.le_trans wide (Nat.le_add_right _ _)))
  · exact unsent transaction sent

end Transfer

end Trickle
