/-
This file proves that amounts are printed exactly. The text of an amount is a plain decimal
with all eighteen decimals: the zeros in front of the remainder make up for the digits it
lacks, so that whole ether and remainder together are the digits of the amount. Such a text
denotes the amount and is read as it, whatever the size of the amount, and therefore no two
amounts have the same text.

What a successful attempt writes about its amount can be taken from the line again, and is
the amount in the bytes that were sent.
-/

import Trickle.Proofs.Nonces
import Trickle.Proofs.Payment
import Trickle.Proofs.PlainAmount
import Trickle.Proofs.Wording

namespace Trickle

namespace Decimal

theorem numeral_toDigits (size : Nat) : numeral (Nat.toDigits 10 size) = size :=
  Nat.ofDigitChars_ten_toDigits

end Decimal

namespace Ether

open Decimal

/-! ### Padded digits -/

theorem toList_padded (count size : Nat) :
    (padded count size).toList =
      List.replicate (count - (Nat.toDigits 10 size).length) '0' ++ Nat.toDigits 10 size := by
  rw [padded, Nat.toString_eq_repr, String.toList_append, String.toList_ofList, Nat.toList_repr,
    ← String.length_toList, Nat.toList_repr]

theorem length_padded {count size : Nat} (positive : 0 < count) (small : size < 10 ^ count) :
    (padded count size).toList.length = count := by
  have short := (Nat.length_toDigits_le_iff (by decide) positive).mpr small
  rw [toList_padded, List.length_append, List.length_replicate]
  exact Nat.sub_add_cancel short

theorem numeral_padded (count size : Nat) : numeral (padded count size).toList = size := by
  rw [toList_padded, numeral_append, numeral_zeros, Nat.zero_mul, Nat.zero_add, numeral_toDigits]

theorem isDigit_of_mem_padded {count size : Nat} {char : Char}
    (member : char ∈ (padded count size).toList) : char.isDigit = true := by
  rw [toList_padded] at member
  rcases List.mem_append.mp member with zero | digit
  · exact isDigit_of_mem_zeros zero
  · exact Nat.isDigit_of_mem_toDigits (by decide) (by decide) digit

/-! ### The text of an amount -/

section Text

variable (amount : Wei)

/-- The digits in front of the point of an amount. -/
def wholeDigits : List Char :=
  Nat.toDigits 10 (amount.toNat / weiPerEther)

/-- The digits behind the point of an amount. -/
def decimalDigits : List Char :=
  (padded decimals (amount.toNat % weiPerEther)).toList

theorem toList_text : (text amount).toList = wholeDigits amount ++ '.' :: decimalDigits amount := by
  have parts : text amount = (amount.toNat / weiPerEther).repr ++ "." ++
      padded decimals (amount.toNat % weiPerEther) := rfl
  rw [parts, String.toList_append, String.toList_append, Nat.toList_repr, List.append_assoc]
  rfl

theorem length_decimalDigits : (decimalDigits amount).length = 18 :=
  length_padded (by decide) (Nat.mod_lt _ (by decide))

theorem isDigit_of_mem_text {char : Char}
    (member : char ∈ wholeDigits amount ++ decimalDigits amount) : char.isDigit = true := by
  rcases List.mem_append.mp member with front | back
  · exact Nat.isDigit_of_mem_toDigits (by decide) (by decide) front
  · exact isDigit_of_mem_padded back

theorem point_not_mem_wholeDigits : '.' ∉ wholeDigits amount := fun member =>
  absurd (isDigit_of_mem_text amount (List.mem_append_left _ member)) (by decide)

/-- With all their decimals, the digits of an amount denote it in the smallest unit. -/
theorem numeral_text : numeral (wholeDigits amount ++ decimalDigits amount) = amount.toNat := by
  rw [numeral_append, length_decimalDigits, wholeDigits, numeral_toDigits, decimalDigits,
    numeral_padded]
  exact Nat.div_add_mod' amount.toNat weiPerEther

theorem isPlain_text : IsPlain (text amount).toList := by
  rw [toList_text, isPlain_append_cons_iff (point_not_mem_wholeDigits amount)]
  exact ⟨fun char member => isDigit_of_mem_text amount member,
    List.append_ne_nil_of_left_ne_nil Nat.toDigits_ne_nil _⟩

theorem value_text : value (text amount).toList = amount.toNat / 10 ^ 18 := by
  rw [toList_text, value, whole_append_cons (point_not_mem_wholeDigits amount),
    fraction_append_cons (point_not_mem_wholeDigits amount), numeral_text, length_decimalDigits]

theorem weiOf_value_text : weiOf (value (text amount).toList) = amount.toNat := by
  rw [value_text, weiOf, div_mul_cancel₀ _ (by positivity), Nat.floor_natCast]

/-- The text of an amount is read as the amount. -/
theorem read_text : read (text amount) = .ok amount := by
  have small : weiOf (value (text amount).toList) < 2 ^ 256 :=
    (weiOf_value_text amount).symm ▸ amount.isLt
  rw [read_of_plain (isPlain_text amount) small, weiOf_value_text, BitVec.ofNat_toNat,
    BitVec.setWidth_eq]

theorem text_injective : Function.Injective text := by
  intro first second same
  have read := read_text first
  rw [same, read_text second] at read
  exact (Except.ok.inj read).symm

theorem not_mem_text {char : Char} (noDigit : char.isDigit = false) (noPoint : char ≠ '.') :
    char ∉ (text amount).toList := by
  have missing : char ∉ wholeDigits amount ++ decimalDigits amount := fun member =>
    Bool.false_ne_true (noDigit.symm.trans (isDigit_of_mem_text amount member))
  rw [List.mem_append, not_or] at missing
  rw [toList_text, List.mem_append, List.mem_cons, not_or, not_or]
  exact ⟨missing.1, noPoint, missing.2⟩

theorem blank_not_mem_text : ' ' ∉ (text amount).toList :=
  not_mem_text amount rfl (by decide)

end Text

end Ether

/-! ### Amounts in the log -/

namespace Event

/-- The amounts that the line of an event shows. -/
def amounts : Event → List Wei
  | .accountState _ balance _ => [balance]
  | .transferred amount report => [amount, report.fees.transferFee]
  | .reverted report => [report.fees.transferFee]
  | .finished summary => [summary.totalFee]
  | _ => []

/-- The word of a line that stands behind its first words, up to the next blank. -/
def wordBehind (words line : String) : String :=
  String.ofList ((line.toList.drop words.toList.length).takeWhile (· ≠ ' '))

theorem wordBehind_eq {words word line : String}
    (begins : (words ++ word ++ " ").toList <+: line.toList) (noBlank : ' ' ∉ word.toList) :
    wordBehind words line = word := by
  obtain ⟨rest, split⟩ := begins
  have passed (char : Char) (member : char ∈ word.toList) : decide (char ≠ ' ') = true :=
    decide_eq_true fun same => noBlank (same ▸ member)
  rw [wordBehind, ← split, String.toList_append, String.toList_append, List.append_assoc,
    List.append_assoc, List.drop_left, List.takeWhile_append_of_pos passed]
  show String.ofList (word.toList ++ []) = word
  rw [List.append_nil, String.ofList_toList]

/-- The amount of a payment can be taken from its line. -/
theorem wordBehind_transferred (amount : Wei) (report : Report) :
    wordBehind "Transferred " (transferred amount report).text = Ether.text amount := by
  refine wordBehind_eq ?_ (Ether.blank_not_mem_text amount)
  have opens : ("Transferred " ++ Ether.text amount ++ " ").toList <+:
      ("Transferred " ++ Ether.text amount ++ " ETH to ").toList := by
    simp only [String.toList_append, List.prefix_append_right_inj]
    decide
  exact prefix_append (prefix_append (prefix_append opens _) _) _

theorem infix_append_left {words : List Char} {text : String} (front : String)
    (within : words <:+: text.toList) : words <:+: (front ++ text).toList := by
  rw [String.toList_append]
  exact within.trans (List.suffix_append _ _).isInfix

theorem infix_amount (front : String) (amount : Wei) {unit : String}
    (begins : " ETH".toList <+: unit.toList) :
    (Ether.text amount ++ " ETH").toList <:+: (front ++ Ether.text amount ++ unit).toList := by
  obtain ⟨more, split⟩ := begins
  refine ⟨front.toList, more, ?_⟩
  simp only [String.toList_append, ← split, List.append_assoc]

/-- Every amount that a line shows stands there as its text. -/
theorem amounts_shown (event : Event) {amount : Wei} (member : amount ∈ event.amounts) :
    (Ether.text amount ++ " ETH").toList <:+: event.text.toList := by
  cases event with
  | accountState sender balance nonce =>
    obtain rfl := List.mem_singleton.mp member
    exact infix_append_right _ (infix_amount _ _ (by decide))
  | transferred sent report =>
    rcases List.mem_cons.mp member with rfl | fee
    · exact infix_append_right _ (infix_append_right _ (infix_append_right _
        (infix_amount _ _ (by decide))))
    · obtain rfl := List.mem_singleton.mp fee
      exact infix_append_left _ (infix_amount _ _ (by decide))
  | reverted report =>
    obtain rfl := List.mem_singleton.mp member
    exact infix_append_left _ (infix_amount _ _ (by decide))
  | finished summary =>
    obtain rfl := List.mem_singleton.mp member
    exact infix_append_left _ (infix_amount _ _ (by decide))
  | _ => exact nomatch member

end Event

namespace Transfer

open Decimal Event

/-- A payment that is not taken back is written to the log once, with the amount that was sent. -/
theorem Course.filter_begins {plan : Plan} {recipient : Address} {moments : List (Moment Chain)}
    {report : Report} (course : Course plan recipient moments (.ok report))
    (succeeded : report.succeeded = true) :
    (moments.filterMap Moment.event? ++ closing plan recipient (.ok report)).filter
      (begins · "Transferred ") = [.transferred plan.amount report] := by
  have under : (begins · "Transferred ") = isUnder .transferred :=
    funext (begins_heading .transferred)
  rw [under, closing, if_pos succeeded]
  cases course with
  | completed answers => rfl

/-- The text of an amount has digits in front of its point and eighteen digits behind it, denotes
the amount exactly, and given as the amount to send it makes the settings say this amount. Different
amounts have different texts, and every amount that a line of the log shows stands there as its
text. An attempt that succeeds has sent one transaction, whose bytes carry a payment of the planned
amount; the only line it writes that begins as the lines of payments do shows the amount of this
payment, and the word behind its beginning is read as this amount. -/
theorem printed_amount_reads_back {State : Type} (node : Peer Chain State) (plan : Plan)
    (recipient : Address) (state : State) (settings : Settings) :
    let played := (attempt plan recipient).play node state
    (∀ amount : Wei,
      let text := (Ether.text amount).toList
      (∃ ahead behind, text = ahead ++ '.' :: behind ∧ ahead ≠ [] ∧ behind.length = 18 ∧
        ∀ char ∈ ahead ++ behind, char.isDigit = true) ∧
      value text = amount.toNat / 10 ^ 18 ∧
      (settings.withAmount text).amount = .ok amount) ∧
    Function.Injective Ether.text ∧
    (∀ (event : Event), ∀ amount ∈ event.amounts,
      (Ether.text amount ++ " ETH").toList <:+: event.text.toList) ∧
    ∀ report, played.result = .ok (.ok report) → report.succeeded = true →
      ∃ (payment : Payment) (transaction : SignedTransaction) (numbers : List Nat),
        let line := Event.transferred payment.amount report
        payment.recipient = recipient ∧ payment.amount = plan.amount ∧
        payment.sign plan.payer.key = .ok transaction ∧
        ⟨.send transaction, .ok report.hash⟩ ∈ played.calls ∧
        (∀ other, .send other ∈ played.questions → other = transaction) ∧
        payment.CarriedBy transaction.raw numbers ∧
        played.events.filter (begins · "Transferred ") = [line] ∧
        wordBehind "Transferred " line.text = Ether.text payment.amount ∧
        Ether.read (wordBehind "Transferred " line.text) = .ok payment.amount := by
  intro played
  refine ⟨fun amount => ⟨⟨_, _, Ether.toList_text amount, Nat.toDigits_ne_nil,
    Ether.length_decimalDigits amount, fun char => Ether.isDigit_of_mem_text amount⟩,
    Ether.value_text amount, ?_⟩, Ether.text_injective,
    fun event amount => amounts_shown event, fun report done succeeded => ?_⟩
  · rw [Settings.amount, Settings.withAmount, String.ofList_toList, Ether.read_text]
  · have attempted : Attempted plan recipient played.calls played.events played.result :=
      attempted_attempt node plan recipient state
    rw [done] at attempted
    rw [played.questions_eq_map_calls]
    generalize played.calls = calls, played.events = events at attempted ⊢
    cases attempted with
    | coursed course =>
      obtain ⟨answers, _, _, _, sends, completed⟩ := course.conduct.starts_script
      obtain ⟨script, rfl⟩ := completed report rfl
      have shown := wordBehind_transferred plan.amount (Transfer.report plan recipient answers)
      have sent : .send ((payment plan recipient answers).signed plan.payer.key) ∈
          (Transfer.script plan recipient answers).map Call.question :=
        List.mem_of_getElem? (i := 4) rfl
      rw [script] at sends ⊢
      refine ⟨payment plan recipient answers, _, _, rfl, rfl, (sends _ sent).2, ?_,
        fun other otherSent => ?_, Payment.carriedBy_signed _ _, course.filter_begins succeeded,
        shown, (congrArg Ether.read shown).trans (Ether.read_text plan.amount)⟩
      · exact List.mem_of_getElem? (i := 4) rfl
      · simpa [Transfer.script] using otherSent

/-- An attempt to pay ten of the smallest unit, with a node that takes the payment and gives its
receipt, writes them with all their decimals. -/
theorem ten_are_read_back :
    let played := (attempt Nonces.somePlan ⟨2⟩).play (Nonces.counting true) 0
    ∃ report, played.result = .ok (.ok report) ∧ report.succeeded = true ∧
      ∃ line, played.events.filter (begins · "Transferred ") = [line] ∧
        wordBehind "Transferred " line.text = "0.000000000000000010" ∧
        Ether.read (wordBehind "Transferred " line.text) = .ok 10 := by
  intro played
  have done : ∃ report, played.result = .ok (.ok report) ∧ report.succeeded = true := ⟨_, rfl, rfl⟩
  obtain ⟨report, result, succeeded⟩ := done
  obtain ⟨payment, _, _, _, amount, _, _, _, _, shown, word, read⟩ :=
    (printed_amount_reads_back (Nonces.counting true) Nonces.somePlan ⟨2⟩ 0
      (Settings.ofAmount "0")).2.2.2 report result succeeded
  rw [amount] at shown word read
  exact ⟨report, result, succeeded, _, shown, word.trans (by decide +kernel), read⟩

end Transfer

end Trickle
