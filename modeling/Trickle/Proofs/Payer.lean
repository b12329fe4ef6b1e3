/-
This file proves which texts name a payer. The key has to be sixty-four digits of a number
above zero and below the order of the curve; an expected address that is given has to be
forty digits, of the address that belongs to the key. Both may have a mark and blanks
around them, and digits in either case, and none of this makes a difference to what they
are taken for or to why they are refused. A key that is not good is reported whatever was
expected of it.

So the account that a payer names is always the one that its key signs for.
-/

import Trickle.Credentials
import Trickle.Proofs.Spelling
import Trickle.Proofs.Verdict

namespace Trickle

namespace PrivateKey

/-! ### Keys -/

/-- Whether a text spells a key: with sixty-four digits in either case behind an optional mark. -/
def SpelledBy (key : PrivateKey) (text : List Char) : Prop :=
  ∃ numeral : Hex.Numeral 64, numeral.chars = text ∧ numeral.number = key.scalar

/-- A text is read as a key if and only if it spells the key. -/
theorem read?_eq_some_iff (text : List Char) (key : PrivateKey) :
    read? (String.ofList text) = some key ↔ key.SpelledBy text := by
  have spelled := Hex.read_eq_ok_iff (show 64 % 2 = 0 from rfl) text key.scalar
  rw [SpelledBy, ← spelled, read?, Utf8.ofString, String.toList_ofList]
  cases Hex.read 64 (Utf8.encode text) with
  | error => exact iff_of_false (by simp) (by simp)
  | ok number =>
    dsimp only
    rw [Except.ok.injEq]
    constructor
    · intro accepted
      split at accepted
      · split at accepted
        · exact congrArg PrivateKey.scalar (Option.some.inj accepted)
        · cases accepted
      · cases accepted
    · rintro rfl
      rw [dif_pos key.positive, dif_pos key.inRange]

theorem read?_congr {text other : List Char} (respelled : Hex.Respelled text other) :
    read? (String.ofList text) = read? (String.ofList other) := by
  rw [read?, read?, Utf8.ofString, Utf8.ofString, String.toList_ofList, String.toList_ofList,
    respelled.read_eq]

end PrivateKey

namespace Credentials

/-! ### Payers -/

/-- Why a key and an expected address name no payer, if they name none: the key first, then an
address that is none, then one that is not the key's own. -/
inductive Refused (key : String) (expected : Option String) : CredentialsError → Prop where
  | invalidKey (unspelled : ∀ signer : PrivateKey, ¬ signer.SpelledBy (trim key.toList)) :
      Refused key expected .invalidKey
  | unreadableSender (signer : PrivateKey) (spelled : signer.SpelledBy (trim key.toList))
      (text : String) (given : expected = some text) (error : HexError)
      (unspelled : ∀ address : Address, ¬ address.SpelledBy (trim text.toList))
      (unread : Address.read (trimmed text) = .error error) :
      Refused key expected (.unreadableSender error)
  | otherSender (signer : PrivateKey) (spelled : signer.SpelledBy (trim key.toList))
      (text : String) (given : expected = some text) (address : Address)
      (named : address.SpelledBy (trim text.toList)) (other : address ≠ signer.address) :
      Refused key expected (.otherSender address signer.address)

/-- Whether a key and an expected address name a payer: the key is good, and the address, if there
is one, is its own. -/
structure Names (key : String) (expected : Option String) (payer : Payer) : Prop where
  spelled : payer.key.SpelledBy (trim key.toList)
  own : payer.sender = payer.key.address
  named : ∀ text ∈ expected, payer.sender.SpelledBy (trim text.toList)

theorem ofParts_of_unspelled {key : String}
    (unspelled : ∀ signer : PrivateKey, ¬ signer.SpelledBy (trim key.toList))
    (expected : Option String) : ofParts key expected = .error .invalidKey := by
  have unread : PrivateKey.read? (trimmed key) = none := by
    rw [Option.eq_none_iff_forall_ne_some]
    exact fun signer read => unspelled signer ((PrivateKey.read?_eq_some_iff _ signer).mp read)
  rw [ofParts, unread]
  rfl

theorem ofParts_of_spelled {key : String} {signer : PrivateKey}
    (spelled : signer.SpelledBy (trim key.toList)) (expected : Option String) :
    ofParts key expected =
      match expected with
      | none => .ok ⟨signer, signer.address⟩
      | some text =>
        match Address.read (trimmed text) with
        | .error error => .error (.unreadableSender error)
        | .ok address =>
          if address = signer.address then .ok ⟨signer, signer.address⟩
          else .error (.otherSender address signer.address) := by
  have read : PrivateKey.read? (trimmed key) = some signer :=
    (PrivateKey.read?_eq_some_iff _ signer).mpr spelled
  rw [ofParts, read]
  dsimp only
  -- Nothing is computed of the address, so it is only given a name.
  generalize signer.address = own
  cases expected with
  | none => rfl
  | some text =>
    dsimp only
    cases Address.read (trimmed text) with
    | error => rfl
    | ok address =>
      dsimp only
      split <;> rfl

theorem Names.ofParts_eq {key : String} {expected : Option String} {payer : Payer}
    (names : Names key expected payer) : ofParts key expected = .ok payer := by
  obtain ⟨signer, sender⟩ := payer
  obtain ⟨spelled, own, named⟩ := names
  obtain rfl : sender = signer.address := own
  rw [ofParts_of_spelled spelled]
  cases expected with
  | none => rfl
  | some text =>
    have read : Address.read (trimmed text) = .ok signer.address :=
      (Address.read_eq_ok_iff _ _).mpr (named text rfl)
    dsimp only
    rw [read]
    exact if_pos rfl

theorem Refused.ofParts_eq {key : String} {expected : Option String} {error : CredentialsError}
    (refused : Refused key expected error) : ofParts key expected = .error error := by
  cases refused with
  | invalidKey unspelled => exact ofParts_of_unspelled unspelled expected
  | unreadableSender signer spelled text given error unspelled unread =>
    rw [ofParts_of_spelled spelled, given]
    dsimp only
    rw [unread]
  | otherSender signer spelled text given address named other =>
    have read : Address.read (trimmed text) = .ok address := (Address.read_eq_ok_iff _ _).mpr named
    rw [ofParts_of_spelled spelled, given]
    dsimp only
    rw [read]
    exact if_neg other

theorem names_or_refused (key : String) (expected : Option String) :
    (∃ payer, Names key expected payer) ∨ ∃ error, Refused key expected error := by
  by_cases good : ∃ signer : PrivateKey, signer.SpelledBy (trim key.toList)
  · obtain ⟨signer, spelled⟩ := good
    cases expected with
    | none => exact .inl ⟨⟨signer, signer.address⟩, spelled, rfl, fun text given => (nomatch given)⟩
    | some text =>
      cases read : Address.read (trimmed text) with
      | error error =>
        have unspelled (address : Address) : ¬ address.SpelledBy (trim text.toList) := by
          rw [← Address.read_eq_ok_iff]
          exact fun named => nomatch read.symm.trans named
        exact .inr ⟨_, .unreadableSender signer spelled text rfl error unspelled read⟩
      | ok address =>
        have named := (Address.read_eq_ok_iff _ address).mp read
        by_cases own : address = signer.address
        · refine .inl ⟨⟨signer, address⟩, spelled, own, fun other given => ?_⟩
          obtain rfl := Option.some.inj given
          exact named
        · exact .inr ⟨_, .otherSender signer spelled text rfl address named own⟩
  · exact .inr ⟨_, .invalidKey (not_exists.mp good)⟩

theorem verdict_ofParts (key : String) (expected : Option String) :
    Verdict (ofParts key expected) (Names key expected) (Refused key expected) where
  ok _ := Names.ofParts_eq
  error _ := Refused.ofParts_eq
  decided := names_or_refused key expected

/-! ### What makes no difference -/

/-- Whether two texts differ only in the blanks around them, in a mark and in the case of digits. -/
def Alike (text other : String) : Prop :=
  Hex.Respelled (trim text.toList) (trim other.toList)

theorem ofParts_congr {key key' : String} (alike : Alike key key')
    {expected expected' : Option String} (alike' : Option.Rel Alike expected expected') :
    ofParts key expected = ofParts key' expected' := by
  have sameKey : PrivateKey.read? (trimmed key) = PrivateKey.read? (trimmed key') :=
    PrivateKey.read?_congr alike
  rw [ofParts, ofParts, sameKey]
  cases alike' with
  | none => rfl
  | @some text other alike =>
    have sameSender : Address.read (trimmed text) = Address.read (trimmed other) :=
      Address.read_congr alike
    simp only [sameSender]

/-- A key and an expected address are accepted if and only if the key is good and the address, if
there is one, is its own; the payer then is the key with its address. Otherwise they are refused for
the first reason that applies, a bad key before anything else. Blanks around the two texts, their
marks and the case of their digits make no difference to the outcome, and no address that is
accepted is that of another key. -/
theorem payer_is_the_signer (key : String) (expected : Option String) :
    (∀ payer, ofParts key expected = .ok payer ↔ Names key expected payer) ∧
    (∀ error, ofParts key expected = .error error ↔ Refused key expected error) ∧
    (∀ key' expected', Alike key key' → Option.Rel Alike expected expected' →
      ofParts key' expected' = ofParts key expected) ∧
    (∀ text padded : String, Padded padded.toList text.toList → Alike text padded) ∧
    ∀ payer address, ofParts key expected = .ok payer →
      (∃ text ∈ expected, address.SpelledBy (trim text.toList)) →
        address = payer.key.address := by
  have verdict := verdict_ofParts key expected
  refine ⟨verdict.eq_ok_iff, verdict.eq_error_iff,
    fun key' expected' alike alike' => (ofParts_congr alike alike').symm,
    fun text padded pads => ?_, fun payer address accepted ⟨text, given, spelled⟩ => ?_⟩
  · rw [Alike, pads.trim_eq]
    exact .refl _
  · have names := (verdict.eq_ok_iff payer).mp accepted
    rw [← names.own]
    exact spelled.unique (names.named text given)

theorem one_lt_order : 1 < Secp256k1.order := by
  decide

/-- The smallest key. -/
def keyOne : PrivateKey where
  scalar := 1
  positive := Nat.one_pos
  inRange := one_lt_order

theorem address_keyOne : keyOne.address = ⟨0x7e5f4552091a69125d5dfcb7b8c2659029395bdf⟩ := by
  decide +kernel

/-- The smallest key is accepted with its own address and no other; the order of the curve is no
key, and is refused for this whatever address comes with it. -/
theorem keys_and_addresses :
    let one := "0000000000000000000000000000000000000000000000000000000000000001"
    let order := "0xfffffffffffffffffffffffffffffffebaaedce6af48a03bbfd25e8cd0364141"
    ofParts one (some " 0X7E5F4552091A69125d5DfCb7b8C2659029395Bdf") =
        .ok ⟨keyOne, ⟨0x7e5f4552091a69125d5dfcb7b8c2659029395bdf⟩⟩ ∧
      ofParts one (some "0x0000000000000000000000000000000000000000") =
        .error (.otherSender ⟨0⟩ ⟨0x7e5f4552091a69125d5dfcb7b8c2659029395bdf⟩) ∧
      ofParts order (some "nobody") = .error .invalidKey := by
  intro one order
  have isOne : keyOne.SpelledBy (trim one.toList) :=
    (PrivateKey.read?_eq_some_iff _ _).mp (by decide +kernel)
  have own : Address.SpelledBy ⟨0x7e5f4552091a69125d5dfcb7b8c2659029395bdf⟩
      (trim " 0X7E5F4552091A69125d5DfCb7b8C2659029395Bdf".toList) :=
    (Address.read_eq_ok_iff _ _).mp rfl
  have nobody : Address.SpelledBy ⟨0⟩ (trim "0x0000000000000000000000000000000000000000".toList) :=
    (Address.read_eq_ok_iff _ _).mp rfl
  have noKey : PrivateKey.read? (trimmed order) = none := by decide +kernel
  refine ⟨((payer_is_the_signer one _).1 _).mpr ⟨isOne, address_keyOne.symm, ?_⟩,
    ((payer_is_the_signer one _).2.1 _).mpr ?_,
    ((payer_is_the_signer order _).2.1 _).mpr (.invalidKey fun signer spelled => ?_)⟩
  · rintro text ⟨⟩
    exact own
  · rw [← address_keyOne]
    refine .otherSender keyOne isOne _ rfl ⟨0⟩ nobody fun same => ?_
    exact absurd (same.trans address_keyOne) (by decide)
  · exact nomatch noKey.symm.trans ((PrivateKey.read?_eq_some_iff _ signer).mpr spelled)

end Credentials

end Trickle
