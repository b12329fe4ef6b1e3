/-
This file proves what the settings of the environment decide about who pays. The key has
to be text that spells one. The expected address is looked at only if its setting is
text: then it has to be the key's own, or the program ends before the node is asked for
anything. A setting that is no text counts as not set, so that whoever is accepted with it
has not been compared with it.
-/

import Trickle.Proofs.Gate
import Trickle.Proofs.Payer

namespace Trickle

namespace Credentials

open Utf8 (IsText)

/-! ### What the settings say -/

/-- Whether a setting holds a key: it is text that spells the key, with blanks around it at most. -/
def Holds (setting : Option Bytes) (signer : PrivateKey) : Prop :=
  ∃ text, setting = some (Utf8.ofString text) ∧ signer.SpelledBy (trim text.toList)

/-- Whether a setting endorses a key: it is text that spells the address of the key, with blanks
around it at most. -/
def Endorses (setting : Bytes) (signer : PrivateKey) : Prop :=
  ∃ text, Utf8.ofString text = setting ∧ signer.address.SpelledBy (trim text.toList)

/-- Whether no payer is accepted with a setting that does not endorse it. -/
def Checked (key : Option Bytes) (setting : Bytes) : Prop :=
  ∀ payer, ofEnvironment key (some setting) = .ok payer → Endorses setting payer.key

theorem Endorses.isText {setting : Bytes} {signer : PrivateKey}
    (endorses : Endorses setting signer) : IsText setting := by
  obtain ⟨text, written, _⟩ := endorses
  exact ⟨text, written⟩

/-! ### Who is accepted -/

/-- A setting that is no text counts as not set. -/
theorem ofEnvironment_of_not_isText {setting : Bytes} (noText : ¬ IsText setting)
    (key : Option Bytes) : ofEnvironment key (some setting) = ofEnvironment key none := by
  rw [ofEnvironment, ofEnvironment, Option.bind_some, (Utf8.decode?_eq_none_iff setting).mpr noText,
    Option.bind_none]

theorem bind_decode?_eq_some_iff (setting : Option Bytes) (text : String) :
    setting.bind Utf8.decode? = some text ↔ setting = some (Utf8.ofString text) := by
  simp only [Option.bind_eq_some_iff, Utf8.decode?_eq_some_iff]
  constructor
  · rintro ⟨bytes, rfl, rfl⟩
    rfl
  · rintro rfl
    exact ⟨_, rfl, rfl⟩

/-- A payer is accepted if and only if it is a key that the one setting holds, with its address, and
the other setting endorses it if it is text. -/
theorem ofEnvironment_eq_ok_iff (key sender : Option Bytes) (payer : Payer) :
    ofEnvironment key sender = .ok payer ↔
      Holds key payer.key ∧ payer.sender = payer.key.address ∧
        ∀ setting ∈ sender, IsText setting → Endorses setting payer.key := by
  constructor
  · intro accepted
    unfold ofEnvironment at accepted
    split at accepted
    · exact nomatch accepted
    · rename_i text isKey
      have names := ((verdict_ofParts text _).eq_ok_iff payer).mp accepted
      refine ⟨⟨text, (bind_decode?_eq_some_iff key text).mp isKey, names.spelled⟩, names.own, ?_⟩
      rintro setting rfl ⟨expected, rfl⟩
      have named := names.named expected (Utf8.decode?_ofString expected)
      exact ⟨expected, rfl, names.own ▸ named⟩
  · rintro ⟨⟨text, rfl, spelled⟩, own, endorsed⟩
    rw [ofEnvironment, Option.bind_some, Utf8.decode?_ofString]
    refine ((verdict_ofParts text _).eq_ok_iff payer).mpr ⟨spelled, own, fun expected given => ?_⟩
    obtain ⟨expected', written, named⟩ :=
      endorsed _ ((bind_decode?_eq_some_iff sender expected).mp given) ⟨expected, rfl⟩
    obtain rfl := Utf8.ofString_injective written
    rw [own]
    exact named

/-- Every key that a setting holds is accepted if there is nothing to compare it with. -/
theorem exists_ok_none_iff (key : Option Bytes) :
    (∃ payer, ofEnvironment key none = .ok payer) ↔ ∃ signer, Holds key signer := by
  constructor
  · rintro ⟨payer, accepted⟩
    exact ⟨payer.key, ((ofEnvironment_eq_ok_iff key none payer).mp accepted).1⟩
  · rintro ⟨signer, holds⟩
    exact ⟨⟨signer, signer.address⟩,
      (ofEnvironment_eq_ok_iff key none _).mpr ⟨holds, rfl, fun _ given => nomatch given⟩⟩

theorem checked_iff (key : Option Bytes) (setting : Bytes) :
    Checked key setting ↔ IsText setting ∨ ∀ signer, ¬ Holds key signer := by
  constructor
  · intro checked
    by_contra neither
    obtain ⟨noText, held⟩ := not_or.mp neither
    obtain ⟨signer, holds⟩ := not_forall_not.mp held
    obtain ⟨payer, accepted⟩ := (exists_ok_none_iff key).mpr ⟨signer, holds⟩
    rw [← ofEnvironment_of_not_isText noText] at accepted
    exact noText (checked payer accepted).isText
  · intro either payer accepted
    obtain ⟨holds, _, endorsed⟩ := (ofEnvironment_eq_ok_iff key _ payer).mp accepted
    rcases either with text | unheld
    · exact endorsed setting rfl text
    · exact absurd holds (unheld payer.key)

end Credentials

namespace Startup

open Credentials (Holds Endorses)
open Utf8 (IsText)

/-! ### What becomes of the program -/

variable {State : Type} {surroundings : Surroundings}
  {played : Playback World State (Except Breakdown (Except StartupError Run.Stand))}

/-- The key of a program that runs is held by its setting, and endorsed by the other one if that is
text. -/
theorem Acceptance.payer {settings : Settings} {session : Session}
    (acceptance : Acceptance surroundings settings session played) {setting : Bytes}
    (isSet : surroundings.sender = some setting) :
    Holds surroundings.key session.plan.payer.key ∧
      session.plan.payer.sender = session.plan.payer.key.address ∧
      (IsText setting → Endorses setting session.plan.payer.key) := by
  obtain ⟨holds, own, endorsed⟩ :=
    (Credentials.ofEnvironment_eq_ok_iff _ _ _).mp acceptance.ready.payer
  exact ⟨holds, own, endorsed setting isSet⟩

/-- A program whose payer is not accepted ends before the node is asked for anything. -/
theorem Refusal.before_node {check : Check} {error : StartupError}
    (refusal : Refusal surroundings check error played)
    (unknown : Check.payerKnown.fault? surroundings ≠ none) :
    ∀ endpoint question, .chain endpoint question ∉ played.questions := by
  intro endpoint question asked
  have late := (refusal.unpaid endpoint question asked).2
  exact unknown (refusal.first .payerKnown (Nat.lt_of_lt_of_le (by decide) late))

/-- Whoever is accepted is endorsed by the setting of the expected address if and only if that
setting is text, or the other one holds no key anyway: accepted is every key that is held, with its
address, unless the setting is text that does not endorse it, and a setting that is no text makes no
difference. So a program that runs has a key that is endorsed if the setting is text; and if the
setting is text that endorses no key that is held, the program ends with an error before the node is
asked for anything. -/
theorem sender_is_checked_iff_text (key : Option Bytes) (setting : Bytes) :
    (Credentials.Checked key setting ↔ IsText setting ∨ ∀ signer, ¬ Holds key signer) ∧
    (∀ payer, Credentials.ofEnvironment key (some setting) = .ok payer ↔
      Holds key payer.key ∧ payer.sender = payer.key.address ∧
        (IsText setting → Endorses setting payer.key)) ∧
    (¬ IsText setting →
      Credentials.ofEnvironment key (some setting) = Credentials.ofEnvironment key none) ∧
    ∀ {State : Type} (peer : Peer World State) (start : State) (count : Nat),
      let surroundings := Surroundings.of peer start
      let played := (program count).play peer start
      surroundings.key = key → surroundings.sender = some setting →
      ((∀ error, played.result ≠ .ok (.error error)) →
        ∃ settings session, Acceptance surroundings settings session played ∧
          Holds key session.plan.payer.key ∧
          session.plan.payer.sender = session.plan.payer.key.address ∧
          (IsText setting → Endorses setting session.plan.payer.key)) ∧
      (IsText setting → (∀ signer, Holds key signer → ¬ Endorses setting signer) →
        ∃ check error, Refusal surroundings check error played ∧
          ∀ endpoint question, .chain endpoint question ∉ played.questions) := by
  refine ⟨Credentials.checked_iff key setting, fun payer => ?_,
    fun noText => Credentials.ofEnvironment_of_not_isText noText key,
    fun {State} peer start count => ?_⟩
  · rw [Credentials.ofEnvironment_eq_ok_iff]
    simp only [Option.mem_some_iff, forall_eq']
  intro surroundings played isKey isSet
  subst isKey
  rcases refusal_or_acceptance peer start count with
    ⟨check, error, refusal⟩ | ⟨settings, session, acceptance⟩
  · refine ⟨fun running => absurd refusal.result (running error),
      fun text unendorsed => ⟨check, error, refusal, refusal.before_node fun known => ?_⟩⟩
    cases accepted : Credentials.ofEnvironment surroundings.key surroundings.sender with
    | error error =>
      rw [Check.fault?, accepted] at known
      cases known
    | ok payer =>
      obtain ⟨holds, _, endorsed⟩ := (Credentials.ofEnvironment_eq_ok_iff _ _ _).mp accepted
      exact unendorsed payer.key holds (endorsed setting isSet text)
  · have payer := acceptance.payer isSet
    exact ⟨fun _ => ⟨settings, session, acceptance, payer⟩,
      fun text unendorsed => absurd (payer.2.2 text) (unendorsed _ payer.1)⟩

end Startup

namespace Credentials

/-- The smallest key, as a setting. -/
def keyOneSetting : Bytes :=
  Utf8.ofString "0000000000000000000000000000000000000000000000000000000000000001"

theorem holds_keyOneSetting : Holds (some keyOneSetting) keyOne :=
  ⟨_, rfl, (PrivateKey.read?_eq_some_iff _ _).mp (by decide +kernel)⟩

theorem not_isText_highByte : ¬ Utf8.IsText [0xFF] :=
  (Utf8.decode?_eq_none_iff _).mp (by decide)

/-- The smallest key is accepted with its own address, is not with another one, and is with bytes
that are no text. -/
theorem settings_of_smallest_key :
    let accepts (setting : Bytes) :=
      ofEnvironment (some keyOneSetting) (some setting) = .ok ⟨keyOne, keyOne.address⟩
    accepts (Utf8.ofString " 0X7E5F4552091A69125d5DfCb7b8C2659029395Bdf") ∧
      ¬ accepts (Utf8.ofString "0x0000000000000000000000000000000000000000") ∧
      accepts [0xFF] := by
  intro accepts
  have accepts_iff (setting : Bytes) :=
    (Startup.sender_is_checked_iff_text (some keyOneSetting) setting).2.1
      ⟨keyOne, keyOne.address⟩
  refine ⟨(accepts_iff _).mpr ⟨holds_keyOneSetting, rfl, fun _ => ⟨_, rfl, ?_⟩⟩, fun accepted => ?_,
    (accepts_iff _).mpr ⟨holds_keyOneSetting, rfl, fun text => absurd text not_isText_highByte⟩⟩
  · rw [address_keyOne]
    exact (Address.read_eq_ok_iff _ _).mp rfl
  · obtain ⟨text, written, named⟩ := ((accepts_iff _).mp accepted).2.2 ⟨_, rfl⟩
    obtain rfl := Utf8.ofString_injective written
    have zero : Address.SpelledBy ⟨0⟩
        (trim "0x0000000000000000000000000000000000000000".toList) :=
      (Address.read_eq_ok_iff _ _).mp rfl
    have address := named.unique zero
    rw [address_keyOne] at address
    exact absurd address (by decide)

/-- A setting of the expected address is not always compared with the key: bytes that are no text
are taken for no setting at all. -/
theorem unreadable_sender_is_ignored :
    ¬ ∀ (key : Option Bytes) (setting : Bytes) (payer : Payer),
      ofEnvironment key (some setting) = .ok payer →
        ∃ text, Utf8.ofString text = setting ∧ payer.key.address.SpelledBy (trim text.toList) := by
  intro always
  have accepted : ofEnvironment (some keyOneSetting) (some [0xFF]) = .ok ⟨keyOne, keyOne.address⟩ :=
    (ofEnvironment_eq_ok_iff _ _ _).mpr ⟨holds_keyOneSetting, rfl, fun setting given text => by
      obtain rfl := Option.some.inj given
      exact absurd text not_isText_highByte⟩
  obtain ⟨text, written, _⟩ := always _ _ _ accepted
  exact not_isText_highByte ⟨text, written⟩

end Credentials

end Trickle
