/-
This file proves which documents hold settings, and what is reported of one that does not.
A document of assignments to different keys holds settings if and only if the two required
settings are there and every setting that is there has a value of its kind. Otherwise the
first known key, in the order of the document, whose value is of another kind is reported
with that value; and only if there is none, a required key that is missing, the node's
address before the path of the file. Keys that are no settings make no difference, whatever
they are assigned.

As long as the values fit, what a document has given so far holds exactly those required
settings whose keys have been seen. This is what carries the proof over the entries.
-/

import Mathlib.Data.List.Nodup
import Trickle.Proofs.SettingsDocument
import Trickle.Proofs.Verdict

namespace Trickle

namespace Toml

/-- Whether a text is a document that assigns values to different keys, and these are its entries,
in order. -/
structure IsFlat (text : List Char) (entries : Entries) : Prop where
  written : statements? ((unmarked text).length + 1) (unmarked text) = some (entries.map assign)
  distinct : (entries.map Prod.fst).Nodup

theorem IsFlat.read? {text : List Char} {entries : Entries} (flat : IsFlat text entries) :
    Toml.read? text = some entries := by
  rw [Toml.read?, flat.written]
  exact entriesOf?_assign entries flat.distinct

end Toml

open Toml (Entries Node)

namespace SettingKind

/-! ### Kinds of values -/

/-- Whether a node holds a value of a kind. -/
def fits : SettingKind → Node → Bool
  | .text, .text _ => true
  | .count, .integer value => 0 ≤ value
  | _, _ => false

/-- What is reported of a node that holds no value of a kind. -/
def fault : SettingKind → Node → DocumentError
  | .count, .integer value => .negative value
  | kind, node => .wrongType node.shape kind

theorem fits_text_iff (node : Node) :
    text.fits node = true ↔ ∃ value, node = .text value := by
  cases node <;> simp [fits]

theorem fits_count_iff (node : Node) :
    count.fits node = true ↔ ∃ value : Nat, node = .integer value := by
  cases node with
  | integer value =>
    rw [fits, decide_eq_true_iff]
    constructor
    · intro nonnegative
      obtain ⟨size, rfl⟩ := Int.eq_ofNat_of_zero_le nonnegative
      exact ⟨size, rfl⟩
    · rintro ⟨size, same⟩
      rw [Node.integer.inj same]
      exact Int.natCast_nonneg size
  | _ => simp [fits]

end SettingKind

namespace Settings

open SettingKind (fits_text_iff fits_count_iff)

theorem textOf_of_unfit {node : Node} (unfit : SettingKind.text.fits node = false) :
    textOf node = .error (SettingKind.text.fault node) := by
  cases node <;> first | rfl | exact absurd unfit (by simp [SettingKind.fits])

theorem countOf_of_unfit {node : Node} (unfit : SettingKind.count.fits node = false) :
    countOf node = .error (SettingKind.count.fault node) := by
  cases node with
  | integer value =>
    have negative : value < 0 := Int.not_le.mp (of_decide_eq_false unfit)
    simp only [countOf, Node.shape, if_pos negative]
    rfl
  | _ => rfl

/-- The keys of settings that are texts. -/
def textNames : List String :=
  ["RPC_URL", "ADDRESSES_FILE_PATH", "TRANSFER_AMOUNT"]

/-- The keys of settings that are counts. -/
def countNames : List String :=
  ["CHAIN_ID", "RECEIPT_TIMEOUT_SECS", "RECEIPT_POLL_INTERVAL_MS"]

/-- The kind of value that a key asks for, if it is the key of a setting. -/
def kindOf? (key : String) : Option SettingKind :=
  if key ∈ textNames then some .text else if key ∈ countNames then some .count else none

theorem kindOf?_eq_text_iff (key : String) : kindOf? key = some .text ↔ key ∈ textNames := by
  unfold kindOf?
  split
  · next isText => simp [isText]
  · next noText => split <;> simp [noText]

theorem kindOf?_eq_count_iff (key : String) : kindOf? key = some .count ↔ key ∈ countNames := by
  have disjoint : ∀ key ∈ textNames, key ∉ countNames := by decide
  unfold kindOf?
  split
  · next isText => simp [disjoint key isText]
  · split
    · next isCount => simp [isCount]
    · next noCount => simp [noCount]

theorem kindOf?_eq_none_iff (key : String) :
    kindOf? key = none ↔ key ∉ textNames ∧ key ∉ countNames := by
  unfold kindOf?
  split
  · next isText => simp [isText]
  · next noText => split <;> simp [*]

/-- Whether an entry is no setting, or one with a value of its kind. -/
def isWellTyped (entry : String × Node) : Bool :=
  (kindOf? entry.1).all fun kind => kind.fits entry.2

/-! ### One entry -/

theorem add_of_unknown (given : Given) {entry : String × Node} (unknown : kindOf? entry.1 = none) :
    given.add entry = .ok given := by
  obtain ⟨noText, noCount⟩ := (kindOf?_eq_none_iff entry.1).mp unknown
  simp only [textNames, countNames, List.mem_cons, List.not_mem_nil, or_false, not_or]
    at noText noCount
  obtain ⟨rpcUrl, addressesPath, transferAmount⟩ := noText
  obtain ⟨chainId, timeout, interval⟩ := noCount
  simp only [Given.add, if_neg rpcUrl, if_neg addressesPath, if_neg transferAmount,
    if_neg chainId, if_neg timeout, if_neg interval]

theorem add_of_unfit (given : Given) {key : String} {node : Node} {kind : SettingKind}
    (known : kindOf? key = some kind) (unfit : kind.fits node = false) :
    given.add (key, node) = .error (kind.fault node) := by
  cases kind with
  | text =>
    have unread := textOf_of_unfit unfit
    have isText := (kindOf?_eq_text_iff key).mp known
    simp only [textNames, List.mem_cons, List.not_mem_nil, or_false] at isText
    rcases isText with rfl | rfl | rfl <;> simp [Given.add, unread, Except.map]
  | count =>
    have unread := countOf_of_unfit unfit
    have isCount := (kindOf?_eq_count_iff key).mp known
    simp only [countNames, List.mem_cons, List.not_mem_nil, or_false] at isCount
    rcases isCount with rfl | rfl | rfl <;> simp [Given.add, unread, Except.map]

/-- Whether what is given holds the required settings among some keys, and no others. -/
structure Holds (given : Given) (keys : List String) : Prop where
  rpcUrl : given.rpcUrl.isSome = true ↔ "RPC_URL" ∈ keys
  addressesPath : given.addressesPath.isSome = true ↔ "ADDRESSES_FILE_PATH" ∈ keys

/-- An entry that fits is taken, and adds its key. -/
theorem Holds.add {given : Given} {keys : List String} (holds : Holds given keys)
    {entry : String × Node} (wellTyped : isWellTyped entry = true) :
    ∃ next, given.add entry = .ok next ∧ Holds next (keys ++ [entry.1]) := by
  obtain ⟨rpcUrl, addressesPath⟩ := holds
  obtain ⟨key, node⟩ := entry
  cases known : kindOf? key with
  | none =>
    have noText := ((kindOf?_eq_none_iff key).mp known).1
    have unchanged {name : String} (isText : name ∈ textNames) :
        name ∈ keys ++ [key] ↔ name ∈ keys := by
      rw [List.mem_append, List.mem_singleton]
      exact or_iff_left fun same => noText (same ▸ isText)
    refine ⟨given, add_of_unknown given known, ?_, ?_⟩
    · rw [rpcUrl, unchanged (by decide)]
    · rw [addressesPath, unchanged (by decide)]
  | some kind =>
    rw [isWellTyped, known, Option.all_some] at wellTyped
    cases kind with
    | text =>
      obtain ⟨value, rfl⟩ := (fits_text_iff node).mp wellTyped
      have isText := (kindOf?_eq_text_iff key).mp known
      simp only [textNames, List.mem_cons, List.not_mem_nil, or_false] at isText
      rcases isText with rfl | rfl | rfl <;>
        exact ⟨_, rfl, by simp [rpcUrl], by simp [addressesPath]⟩
    | count =>
      obtain ⟨value, rfl⟩ := (fits_count_iff node).mp wellTyped
      have isCount := (kindOf?_eq_count_iff key).mp known
      simp only [countNames, List.mem_cons, List.not_mem_nil, or_false] at isCount
      rcases isCount with rfl | rfl | rfl <;>
        exact ⟨_, rfl, by simp [rpcUrl], by simp [addressesPath]⟩

/-! ### Documents -/

/-- Entries that all fit are taken. -/
theorem Holds.foldlM {given : Given} {keys : List String} (holds : Holds given keys)
    {entries : Entries} (wellTyped : ∀ entry ∈ entries, isWellTyped entry = true) :
    ∃ last, entries.foldlM Given.add given = .ok last ∧
      Holds last (keys ++ entries.map Prod.fst) := by
  induction entries generalizing given keys with
  | nil => exact ⟨given, rfl, by rwa [List.map_nil, List.append_nil]⟩
  | cons entry entries inductionHypothesis =>
    obtain ⟨next, added, holds⟩ := holds.add (wellTyped entry List.mem_cons_self)
    obtain ⟨last, taken, holds⟩ := inductionHypothesis holds fun other member =>
      wellTyped other (List.mem_cons_of_mem _ member)
    refine ⟨last, ?_, ?_⟩
    · rw [List.foldlM_cons, added]
      exact taken
    · rwa [List.map_cons, List.append_cons]

theorem holds_empty : Holds Given.empty [] where
  rpcUrl := by simp [Given.empty]
  addressesPath := by simp [Given.empty]

/-- Whether all entries fit and none of the required settings is missing. -/
structure Complete (entries : Entries) : Prop where
  wellTyped : ∀ entry ∈ entries, isWellTyped entry = true
  rpcUrl : "RPC_URL" ∈ entries.map Prod.fst
  addressesPath : "ADDRESSES_FILE_PATH" ∈ entries.map Prod.fst

/-- Why entries are no settings, if they are none: the first known key whose value is of another
kind, and only if there is none a missing key. -/
inductive Rejected (entries : Entries) : DocumentError → Prop where
  | illTyped (before behind : Entries) (key : String) (node : Node) (kind : SettingKind)
      (place : entries = before ++ (key, node) :: behind)
      (wellTyped : ∀ entry ∈ before, isWellTyped entry = true)
      (known : kindOf? key = some kind) (unfit : kind.fits node = false) :
      Rejected entries (kind.fault node)
  | noRpcUrl (wellTyped : ∀ entry ∈ entries, isWellTyped entry = true)
      (missing : "RPC_URL" ∉ entries.map Prod.fst) : Rejected entries (.missing "RPC_URL")
  | noAddressesPath (wellTyped : ∀ entry ∈ entries, isWellTyped entry = true)
      (present : "RPC_URL" ∈ entries.map Prod.fst)
      (missing : "ADDRESSES_FILE_PATH" ∉ entries.map Prod.fst) :
      Rejected entries (.missing "ADDRESSES_FILE_PATH")

/-- Whether entries are settings: the required ones are there, and all that are there have values of
their kinds. -/
structure Acceptable (entries : Entries) : Prop where
  rpcUrl : ∃ value, ("RPC_URL", .text value) ∈ entries
  addressesPath : ∃ value, ("ADDRESSES_FILE_PATH", .text value) ∈ entries
  transferAmount : ∀ node, ("TRANSFER_AMOUNT", node) ∈ entries → ∃ value, node = .text value
  counts : ∀ name ∈ countNames, ∀ node, (name, node) ∈ entries →
    ∃ value : Nat, node = .integer value

/-- Entries that all fit are settings as far as the required ones among them go. -/
theorem exists_given_of_wellTyped {entries : Entries}
    (wellTyped : ∀ entry ∈ entries, isWellTyped entry = true) :
    ∃ given : Given, ofEntries entries = given.complete ∧
      Holds given (entries.map Prod.fst) := by
  obtain ⟨given, taken, holds⟩ := holds_empty.foldlM wellTyped
  refine ⟨given, ?_, holds⟩
  rw [ofEntries, taken]
  rfl

theorem Rejected.ofEntries_eq {entries : Entries} {error : DocumentError}
    (rejected : Rejected entries error) : ofEntries entries = .error error := by
  cases rejected with
  | illTyped before behind key node kind place wellTyped known unfit =>
    obtain ⟨given, taken, _⟩ := holds_empty.foldlM wellTyped
    rw [ofEntries, place, List.foldlM_append, taken]
    show (((given.add (key, node)) >>= _) >>= _) = _
    rw [add_of_unfit given known unfit]
    rfl
  | noRpcUrl wellTyped missing =>
    obtain ⟨given, same, holds⟩ := exists_given_of_wellTyped wellTyped
    have absent : given.rpcUrl = none :=
      Option.not_isSome_iff_eq_none.mp (mt holds.rpcUrl.mp missing)
    rw [same, Given.complete, absent]
  | noAddressesPath wellTyped present missing =>
    obtain ⟨given, same, holds⟩ := exists_given_of_wellTyped wellTyped
    obtain ⟨url, isUrl⟩ := Option.isSome_iff_exists.mp (holds.rpcUrl.mpr present)
    have absent : given.addressesPath = none :=
      Option.not_isSome_iff_eq_none.mp (mt holds.addressesPath.mp missing)
    rw [same, Given.complete, isUrl, absent]

theorem Complete.exists_settings {entries : Entries} (complete : Complete entries) :
    ∃ settings, ofEntries entries = .ok settings := by
  obtain ⟨given, same, holds⟩ := exists_given_of_wellTyped complete.wellTyped
  obtain ⟨url, isUrl⟩ := Option.isSome_iff_exists.mp (holds.rpcUrl.mpr complete.rpcUrl)
  obtain ⟨path, isPath⟩ :=
    Option.isSome_iff_exists.mp (holds.addressesPath.mpr complete.addressesPath)
  rw [same, Given.complete, isUrl, isPath]
  exact ⟨_, rfl⟩

theorem complete_or_rejected (entries : Entries) :
    Complete entries ∨ ∃ error, Rejected entries error := by
  cases found : entries.find? fun entry => !isWellTyped entry with
  | some entry =>
    obtain ⟨unfit, before, behind, place, wellTyped⟩ := List.find?_eq_some_iff_append.mp found
    obtain ⟨key, node⟩ := entry
    cases known : kindOf? key with
    | none => simp [isWellTyped, known] at unfit
    | some kind =>
      refine .inr ⟨_, .illTyped before behind key node kind place (fun entry member => ?_) known ?_⟩
      · simpa using wellTyped entry member
      · simpa [isWellTyped, known] using unfit
  | none =>
    have wellTyped : ∀ entry ∈ entries, isWellTyped entry = true := by
      simpa using List.find?_eq_none.mp found
    by_cases rpcUrl : "RPC_URL" ∈ entries.map Prod.fst
    · by_cases addressesPath : "ADDRESSES_FILE_PATH" ∈ entries.map Prod.fst
      · exact .inl ⟨wellTyped, rpcUrl, addressesPath⟩
      · exact .inr ⟨_, .noAddressesPath wellTyped rpcUrl addressesPath⟩
    · exact .inr ⟨_, .noRpcUrl wellTyped rpcUrl⟩

theorem verdict_ofEntries (entries : Entries) :
    Verdict (ofEntries entries)
      (fun settings => Complete entries ∧ ofEntries entries = .ok settings) (Rejected entries) where
  ok _ := And.right
  error _ := Rejected.ofEntries_eq
  decided := (complete_or_rejected entries).imp_left fun complete =>
    complete.exists_settings.imp fun _ accepted => ⟨complete, accepted⟩

theorem isWellTyped_of_known {key : String} {kind : SettingKind} (known : kindOf? key = some kind)
    (node : Node) : isWellTyped (key, node) = kind.fits node := by
  rw [isWellTyped, known, Option.all_some]

theorem acceptable_iff {entries : Entries} (distinct : (entries.map Prod.fst).Nodup) :
    Acceptable entries ↔ Complete entries := by
  constructor
  · rintro ⟨⟨url, isUrl⟩, ⟨path, isPath⟩, transferAmount, counts⟩
    refine ⟨fun (key, node) member => ?_, List.mem_map_of_mem isUrl, List.mem_map_of_mem isPath⟩
    cases known : kindOf? key with
    | none => rw [isWellTyped, known, Option.all_none]
    | some kind =>
      rw [isWellTyped_of_known known]
      cases kind with
      | text =>
        have unique {value : String} (assigned : (key, .text value) ∈ entries) :
            ∃ value, node = .text value := by
          have same := List.inj_on_of_nodup_map distinct member assigned rfl
          exact ⟨value, congrArg Prod.snd same⟩
        have isText := (kindOf?_eq_text_iff key).mp known
        simp only [textNames, List.mem_cons, List.not_mem_nil, or_false] at isText
        refine (fits_text_iff node).mpr ?_
        rcases isText with rfl | rfl | rfl
        · exact unique isUrl
        · exact unique isPath
        · exact transferAmount node member
      | count =>
        exact (fits_count_iff node).mpr
          (counts key ((kindOf?_eq_count_iff key).mp known) node member)
  · rintro ⟨wellTyped, rpcUrl, addressesPath⟩
    have text {name : String} (isText : name ∈ textNames) {node : Node}
        (member : (name, node) ∈ entries) : ∃ value, node = .text value := by
      have fits := wellTyped _ member
      rw [isWellTyped_of_known ((kindOf?_eq_text_iff name).mpr isText)] at fits
      exact (fits_text_iff node).mp fits
    have present {name : String} (isText : name ∈ textNames) (seen : name ∈ entries.map Prod.fst) :
        ∃ value, (name, .text value) ∈ entries := by
      obtain ⟨⟨_, node⟩, member, rfl⟩ := List.mem_map.mp seen
      obtain ⟨value, rfl⟩ := text isText member
      exact ⟨value, member⟩
    refine ⟨present (by decide) rpcUrl, present (by decide) addressesPath,
      fun node member => text (by decide) member, fun name isCount node member => ?_⟩
    have fits := wellTyped _ member
    rw [isWellTyped_of_known ((kindOf?_eq_count_iff name).mpr isCount)] at fits
    exact (fits_count_iff node).mp fits

/-! ### Keys that are no settings -/

/-- Whether an entry has the key of a setting. -/
def isKnown (entry : String × Node) : Bool :=
  (kindOf? entry.1).isSome

theorem ofEntries_filter (entries : Entries) :
    ofEntries (entries.filter isKnown) = ofEntries entries := by
  have passedOver : (fun given entry => if isKnown entry = true then Given.add given entry
      else pure given) = Given.add := by
    funext given entry
    split
    · rfl
    · next unknown =>
      exact (add_of_unknown given (Option.not_isSome_iff_eq_none.mp unknown)).symm
  rw [ofEntries, ofEntries, List.foldlM_filter, passedOver]

/-- A document of assignments holds settings if and only if those that are required are there and
all that are there have values of their kinds. Otherwise the first setting in the document whose
value is of another kind is reported, and only if there is none a missing one. Assignments to other
keys make no difference. -/
theorem first_fault_is_reported {text : String} {entries : Entries}
    (flat : Toml.IsFlat text.toList entries) :
    ((∃ settings, read text = .ok settings) ↔ Acceptable entries) ∧
    (∀ error, read text = .error error ↔ Rejected entries error) ∧
    ∀ other others, Toml.IsFlat (String.toList other) others →
      others.filter isKnown = entries.filter isKnown → read other = read text := by
  have same {text : String} {entries : Entries} (flat : Toml.IsFlat text.toList entries) :
      read text = ofEntries entries := by
    rw [read, flat.read?]
  rw [same flat]
  have verdict := verdict_ofEntries entries
  refine ⟨?_, verdict.eq_error_iff, fun other others flat' known => ?_⟩
  · rw [acceptable_iff flat.distinct]
    refine ⟨?_, Complete.exists_settings⟩
    rintro ⟨settings, accepted⟩
    exact ((verdict.eq_ok_iff settings).mp accepted).1
  · rw [same flat', ← ofEntries_filter, known, ofEntries_filter]

/-- A number with decimals under a key that is no setting. -/
def note : String × Node :=
  ("note", .decimal (Binary64.ofLiteral (.finite false ['1', '5'] (-1))))

/-- A document of settings and a note. -/
def notedText : String :=
  "CHAIN_ID = 5\nnote = 1.5\nADDRESSES_FILE_PATH = \"a.csv\"\nRPC_URL = \"u\""

/-- A document of a note and two settings with values of other kinds. -/
def faultyText : String :=
  "note = 1.5\nRPC_URL = true\nCHAIN_ID = -5"

/-- A document that holds settings, and one in which two of them are at fault, of which the first is
reported. -/
theorem first_fault_of_two :
    (∃ settings, read notedText = .ok settings) ∧
      read faultyText = .error (.wrongType (.boolean true) .text) := by
  have noted : Toml.IsFlat notedText.toList [("CHAIN_ID", .integer 5), note,
      ("ADDRESSES_FILE_PATH", .text "a.csv"), ("RPC_URL", .text "u")] :=
    ⟨by with_unfolding_all rfl, by decide⟩
  have faulty : Toml.IsFlat faultyText.toList [note, ("RPC_URL", .boolean true),
      ("CHAIN_ID", .integer (-5))] := ⟨by with_unfolding_all rfl, by decide⟩
  have accepted := (first_fault_is_reported noted).1
  have rejected := (first_fault_is_reported faulty).2.1
  refine ⟨accepted.mpr ((acceptable_iff noted.distinct).mpr ?_), (rejected _).mpr ?_⟩
  · exact ⟨by decide, by decide, by decide⟩
  · exact .illTyped [note] [("CHAIN_ID", .integer (-5))] "RPC_URL" (.boolean true) .text rfl
      (by decide) rfl rfl

end Settings

end Trickle
