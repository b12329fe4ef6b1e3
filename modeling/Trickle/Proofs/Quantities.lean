/-
This file proves that numbers go to a node and come from it whole. A number in hexadecimal
digits is read digit by digit into a total that only grows, so that the first digit to
reach the bound settles that the number does not fit; it is then refused and never cut.
Each question for a number has a width, and its answer is the number that the node wrote
if it fits the width, and a fault for every other one.

What is asked about a payment is written in the parameters of its request, from which the
two accounts and the amount can be read again.
-/

import Trickle.Proofs.Dialogue
import Trickle.Proofs.HexText
import Trickle.Proofs.Utf8
import Trickle.Proofs.WrittenJson
import Trickle.Rpc.Node

namespace Trickle

namespace Hex

open Toml (HexDigit)

/-! ### Quantities -/

/-- Whether a text is a number in hexadecimal digits of either case behind a mark. There may be
zeros in front of the others. -/
def IsQuantity (text : String) (number : Nat) : Prop :=
  ∃ (mark : Mark) (digits : List HexDigit), mark ≠ .none ∧
    text.toList = mark.chars ++ digits.map HexDigit.char ∧ HexDigit.number digits = number

theorem lt_pow_length (number : Nat) : number < 16 ^ (number.log2 / 4 + 1) := by
  have inside : number < 2 ^ (number.log2 + 1) := Nat.lt_log2_self
  refine Nat.lt_of_lt_of_le inside ?_
  rw [show 16 = 2 ^ 4 from rfl, ← Nat.pow_mul]
  exact Nat.pow_le_pow_right (by decide) (by omega)

theorem isQuantity_quantity (number : Nat) : IsQuantity (quantity number) number := by
  refine ⟨.lower, HexDigit.write (number.log2 / 4 + 1) number, nofun, ?_,
    HexDigit.number_write (lt_pow_length number)⟩
  rw [quantity, String.toList_append, toList_mark, String.toList_ofList, write_eq]

end Hex

namespace Rpc

open Toml (HexDigit)
open Trickle.Json (Value Member Written)

theorem digit?_char (digit : HexDigit) :
    digit.char ≠ '_' ∧ digit? digit.char = some digit.value.val := by
  obtain ⟨value, upper⟩ := digit
  revert value upper
  decide

theorem le_foldl (digits : List HexDigit) (total : Nat) :
    total ≤ digits.foldl (fun total digit => 16 * total + digit.value.val) total := by
  induction digits generalizing total with
  | nil => exact Nat.le_refl total
  | cons digit digits inductionHypothesis =>
    exact Nat.le_trans (by omega) (inductionHypothesis (16 * total + digit.value))

/-- A total never comes back below a bound, so it can be refused where it first reaches it. -/
theorem accumulate?_digits (digits : List HexDigit) {bound total : Nat} (small : total < bound) :
    accumulate? 16 bound total (digits.map HexDigit.char) =
      let number := digits.foldl (fun total digit => 16 * total + digit.value.val) total
      if number < bound then some number else none := by
  induction digits generalizing total with
  | nil => exact (if_pos small).symm
  | cons digit digits inductionHypothesis =>
    obtain ⟨notGap, isDigit⟩ := digit?_char digit
    rw [List.map_cons, accumulate?, if_neg notGap, isDigit]
    by_cases fits : 16 * total + digit.value < bound
    · dsimp only
      rw [if_pos ⟨digit.value.isLt, fits⟩, inductionHypothesis fits]
      rfl
    · have large := le_foldl digits (16 * total + digit.value)
      dsimp only
      rw [if_neg fun both => fits both.2, List.foldl_cons, if_neg (by omega)]

theorem numberOf?_quantity {text : String} {number bound : Nat}
    (isQuantity : Hex.IsQuantity text number) (positive : 0 < bound) :
    numberOf? bound text = if number < bound then some number else none := by
  obtain ⟨mark, digits, marked, written, rfl⟩ := isQuantity
  have based : basedDigits text.toList = (16, digits.map HexDigit.char) := by
    rw [written]
    cases mark with
    | none => exact absurd rfl marked
    | lower | upper => rfl
  rw [numberOf?, based]
  exact accumulate?_digits digits positive

theorem word?_quantity (width : Nat) {text : String} {number : Nat}
    (isQuantity : Hex.IsQuantity text number) :
    word? width (.text (some text)) =
      if number < 2 ^ width then some (BitVec.ofNat width number) else none := by
  have read : numberOf? (Nat.pow 2 width) text = if number < 2 ^ width then some number else none :=
    numberOf?_quantity isQuantity (Nat.two_pow_pos width)
  rw [word?, quantity?, read]
  split <;> rfl

/-! ### Questions for numbers -/

/-- The questions for a number, with how many bits it may have. -/
inductive Figure : (width : Nat) → Type where
  | chainId : Figure 64
  | gasPrice : Figure 128
  | transferGas (sender recipient : Address) (amount : Wei) : Figure 64
  | transactionCount (account : Address) : Figure 64
  | balance (account : Address) : Figure 256

namespace Figure

variable {width : Nat}

/-- The question. -/
def question : Figure width → ChainQuestion
  | .chainId => .chainId
  | .gasPrice => .gasPrice
  | .transferGas sender recipient amount => .transferGas sender recipient amount
  | .transactionCount account => .transactionCount account
  | .balance account => .balance account

/-- How the question is put to a node. -/
def exchange (patience : Patience) : Figure width → Exchange (BitVec width)
  | .chainId => carryOut patience .chainId
  | .gasPrice => carryOut patience .gasPrice
  | .transferGas sender recipient amount =>
    carryOut patience (.transferGas sender recipient amount)
  | .transactionCount account => carryOut patience (.transactionCount account)
  | .balance account => carryOut patience (.balance account)

theorem exchange_eq (patience : Patience) (figure : Figure width) :
    figure.exchange patience = ask (word? width) figure.question := by
  cases figure <;> rfl

end Figure

/-- Whether a delivery brings a text as its result, with what was written for it. -/
def Brings (delivery : Delivery) (source text : String) : Prop :=
  Reply.ofDelivery delivery = .result source (.text (some text))

/-- A number is read if it fits, and otherwise the text that was written for it is what cannot be
read. -/
theorem readAs_quantity (width : Nat) {delivery : Delivery} {source text : String} {number : Nat}
    (brings : Brings delivery source text) (isQuantity : Hex.IsQuantity text number) :
    readAs (word? width) (.ofDelivery delivery) =
      .ok (if number < 2 ^ width then .ok (BitVec.ofNat width number)
        else .error (.ofCause (.unreadable source))) := by
  rw [brings, readAs, word?_quantity width isQuantity]
  by_cases fits : number < 2 ^ width
  · rw [if_pos fits, if_pos fits]
  · rw [if_neg fits, if_neg fits]
    rfl

theorem play_ask {Result State : Type} (read? : Value → Option Result) (question : ChainQuestion)
    (line : Peer Wire State) (state : State) :
    let request := WireQuestion.exchange (.ofQuestion question)
    let played := (ask read? question).play line state
    played.questions = [request] ∧
      played.result = readAs read? (.ofDelivery (line.answer request state).1) :=
  ⟨rfl, rfl⟩

/-! ### Replies -/

theorem integer?_toDigits (number : Nat) :
    (Value.number (Nat.toDigits 10 number)).integer? = some (number : Int) := by
  have isDigits : (Nat.toDigits 10 number).all Char.isDigit = true :=
    List.all_eq_true.mpr fun char => Toml.isDigit_of_mem_toDigits
  obtain ⟨digit, digits, written, isDigit, _⟩ := Toml.exists_toDigits_eq_cons number
  have unsigned : ∀ rest, Nat.toDigits 10 number ≠ '-' :: rest := by
    rw [written]
    exact fun rest => Toml.cons_ne_of_isDigit isDigit rfl
  rw [Value.integer?, if_pos isDigits, Toml.value_toDigits]
  exact unsigned

theorem natural?_toDigits {number bound : Nat} (small : number < bound) :
    (Value.number (Nat.toDigits 10 number)).natural? bound = some number := by
  rw [Value.natural?, integer?_toDigits]
  exact if_pos small

/-- A reply under a number that brings a text as its result. -/
def reply (id : BitVec 64) (text : String) : Written :=
  .objectOf ("jsonrpc", .quoted "2.0") [("id", .natural id.toNat), ("result", .quoted text)]

theorem content?_reply (id : BitVec 64) (text : String) :
    content? ((reply id text).value []) =
      some (.result (Json.quoted text) (.text (some text))) := by
  have isId : isNumber (.number (Nat.toDigits 10 id.toNat)) = true := by
    have small : id.toNat < UInt64.size := id.isLt
    exact congrArg Option.isSome (natural?_toDigits small)
  have source (behind : List Char) : Member.source
      ⟨some "result", Value.text (some text), (Json.quoted text).toList ++ behind, behind⟩ =
        Json.quoted text :=
    Written.source_of_written _ (.quoted text) _ behind
  simp [reply, Written.objectOf, Written.members, Written.quoted, Written.natural, content?,
    members?, lookup?, isId, source]

theorem brings_reply (id : BitVec 64) (text : String) :
    Brings (.received (Utf8.ofString (reply id text).text)) (Json.quoted text) text := by
  have read := (reply id text).read?_text
  rw [Brings, Reply.ofDelivery, Reply.ofBody, Utf8.decode?_ofString, Option.bind_some, read]
  have content := content?_reply id text
  obtain ⟨members, object⟩ : ∃ members, (reply id text).value [] = .object members := ⟨_, rfl⟩
  rw [object] at content ⊢
  simp only [content]

/-! ### The parameters of an estimate -/

/-- The address that a value spells. -/
def address? (value : Value) : Option Address :=
  value.text?.bind fun text => (Address.read text).toOption

/-- The two accounts and the amount that a request asks the gas of a payment for. -/
def gasTerms? (body : String) : Option (Address × Address × Wei) := do
  let members ← members? (← Json.read? body)
  let method ← required? Value.text? "method" members
  match ← required? Value.list? "params" members with
  | [record] => do
    let fields ← members? record
    let sender ← required? address? "from" fields
    let recipient ← required? address? "to" fields
    let amount ← required? (word? 256) "value" fields
    if method = "eth_estimateGas" then some (sender, recipient, amount) else none
  | _ => none

/-- The request for the gas of a payment. -/
def gasRequest (sender recipient : Address) (amount : Wei) (number : Nat) : Written :=
  .objectOf ("method", .quoted "eth_estimateGas")
    [("params", .listOf (.objectOf ("from", .quoted sender.lowerCase)
        [("to", .quoted recipient.lowerCase), ("value", .quoted (Hex.quantity amount.toNat))])),
      ("id", .natural number), ("jsonrpc", .quoted "2.0")]

theorem body_transferGas (sender recipient : Address) (amount : Wei) (number : Nat) :
    (Request.ofQuestion (.transferGas sender recipient amount)).body number =
      (gasRequest sender recipient amount number).text := rfl

theorem address?_lowerCase (address : Address) :
    address? (.text (some address.lowerCase)) = some address := by
  have read := (Address.read_eq_ok_iff _ address).mpr address.spelledBy_lowerCase
  rw [String.ofList_toList] at read
  rw [address?, Value.text?, Option.bind_some, read]
  rfl

theorem word?_quantity_toNat (amount : Wei) :
    word? 256 (.text (some (Hex.quantity amount.toNat))) = some amount := by
  rw [word?_quantity 256 (Hex.isQuantity_quantity amount.toNat), if_pos amount.isLt,
    BitVec.ofNat_toNat, BitVec.setWidth_eq]

theorem gasTerms?_body (sender recipient : Address) (amount : Wei) (number : Nat) :
    gasTerms? ((Request.ofQuestion (.transferGas sender recipient amount)).body number) =
      some (sender, recipient, amount) := by
  rw [body_transferGas, gasTerms?, (gasRequest sender recipient amount number).read?_text]
  simp [gasRequest, Written.objectOf, Written.members, Written.listOf, Written.quoted, members?,
    required?, lookup?, Value.text?, Value.list?, address?_lowerCase, word?_quantity_toNat]

/-! ### Exact or refused -/

/-- A question for a number is put to the node as one request. If a text comes back that is a
number in hexadecimal digits, the answer is exactly this number if it fits the width of the
question, and otherwise a fault that shows what was written; a reply with the shortest text of a
number, under any id, brings it. The two accounts and the amount of a payment can be read from the
parameters of the request for its gas. -/
theorem numbers_are_exact_or_refused {State : Type} {width : Nat} (figure : Figure width)
    (patience : Patience) (line : Peer Wire State) (state : State) :
    let request := WireQuestion.exchange (.ofQuestion figure.question)
    let delivery : Delivery := (line.answer request state).1
    let played := (figure.exchange patience).play line state
    played.questions = [request] ∧
    (∀ source text number, Brings delivery source text → Hex.IsQuantity text number →
      (number < 2 ^ width →
        ∃ value : BitVec width, played.result = .ok (.ok value) ∧ value.toNat = number) ∧
      (2 ^ width ≤ number → played.result = .ok (.error (.ofCause (.unreadable source))))) ∧
    (∀ (number : Nat) (id : BitVec 64),
      let text := Hex.quantity number
      let body := Json.objectOf [("jsonrpc", Json.quoted "2.0"), ("id", toString id.toNat),
        ("result", Json.quoted text)]
      Hex.IsQuantity text number ∧
        Brings (.received (Utf8.ofString body)) (Json.quoted text) text) ∧
    ∀ sender recipient amount number,
      gasTerms? ((Request.ofQuestion (.transferGas sender recipient amount)).body number) =
        some (sender, recipient, amount) := by
  intro request delivery played
  have asked := play_ask (word? width) figure.question line state
  rw [← figure.exchange_eq patience] at asked
  obtain ⟨questions, result⟩ := asked
  refine ⟨questions, fun source text number brings isQuantity => ?_,
    fun number id => ⟨Hex.isQuantity_quantity number, brings_reply id _⟩, gasTerms?_body⟩
  have read : played.result = _ := result.trans (readAs_quantity width brings isQuantity)
  refine ⟨fun fits => ⟨BitVec.ofNat width number, ?_, ?_⟩, fun large => ?_⟩
  · rw [read, if_pos fits]
  · exact Nat.mod_eq_of_lt fits
  · rw [read, if_neg (Nat.not_lt.mpr large)]

end Rpc

end Trickle
