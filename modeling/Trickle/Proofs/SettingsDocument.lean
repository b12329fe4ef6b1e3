/-
This file proves that settings survive being written as a document. Each of them is
assigned on a line of its own, in any order; a setting that has its default may be left
out, as is the chain if none is set; other keys, comments and blank lines may stand
anywhere. Whatever the document looks like, reading it gives back the settings.

What a document has given so far depends only on which of the known keys have been seen,
since each of them is assigned what the settings say. This is what carries the proof over
the entries, in whatever order they stand.
-/

import Trickle.Proofs.Assignments
import Trickle.Settings.Document

namespace Trickle.Settings

open Toml (Document Entries Node)

/-! ### Documents of settings -/

/-- What the settings assign. -/
def entries (settings : Settings) : Entries :=
  [("RPC_URL", .text settings.rpcUrl), ("ADDRESSES_FILE_PATH", .text settings.addressesPath),
    ("TRANSFER_AMOUNT", .text settings.transferAmount),
    ("RECEIPT_TIMEOUT_SECS", .integer settings.receiptTimeoutSeconds),
    ("RECEIPT_POLL_INTERVAL_MS", .integer settings.pollIntervalMilliseconds)] ++
  (settings.chainId.map fun chain => ("CHAIN_ID", Node.integer chain.toNat)).toList

/-- What need not be assigned. -/
def defaults : Entries :=
  [("TRANSFER_AMOUNT", .text defaultTransferAmount),
    ("RECEIPT_TIMEOUT_SECS", .integer defaultReceiptTimeoutSeconds),
    ("RECEIPT_POLL_INTERVAL_MS", .integer defaultPollIntervalMilliseconds)]

/-- The keys of settings. -/
def names : List String :=
  ["RPC_URL", "ADDRESSES_FILE_PATH", "TRANSFER_AMOUNT", "CHAIN_ID", "RECEIPT_TIMEOUT_SECS",
    "RECEIPT_POLL_INTERVAL_MS"]

/-- Whether the entries of a document, in whatever order, are what the settings assign, with any
defaults left out and anything assigned to other keys. -/
structure DescribedBy (settings : Settings) (entries : Entries) : Prop where
  distinct : (entries.map Prod.fst).Nodup
  own : ∀ entry ∈ entries, entry.1 ∈ names → entry ∈ settings.entries
  complete : ∀ entry ∈ settings.entries, entry ∈ entries ∨ entry ∈ defaults

/-- Whether all numbers of the settings can be written in a document. -/
structure Writable (settings : Settings) : Prop where
  timeout : settings.receiptTimeoutSeconds < 2 ^ 63
  interval : settings.pollIntervalMilliseconds < 2 ^ 63
  chain : ∀ chain ∈ settings.chainId, chain.toNat < 2 ^ 63

/-! ### What has been given -/

/-- A value whose key is among some keys. -/
def under {Value : Type} (keys : List String) (name : String) (value : Value) : Option Value :=
  if name ∈ keys then some value else none

/-- What is given by the assignments of the settings to some keys. -/
def given (settings : Settings) (keys : List String) : Given where
  rpcUrl := under keys "RPC_URL" settings.rpcUrl
  addressesPath := under keys "ADDRESSES_FILE_PATH" settings.addressesPath
  transferAmount := under keys "TRANSFER_AMOUNT" settings.transferAmount
  chainId := (under keys "CHAIN_ID" (settings.chainId.map BitVec.toNat)).join
  receiptTimeoutSeconds := under keys "RECEIPT_TIMEOUT_SECS" settings.receiptTimeoutSeconds
  pollIntervalMilliseconds :=
    under keys "RECEIPT_POLL_INTERVAL_MS" settings.pollIntervalMilliseconds

theorem under_append {Value : Type} (keys : List String) (name key : String) (value : Value) :
    under (keys ++ [key]) name value =
      if key = name then some value else under keys name value := by
  by_cases same : key = name
  · simp [under, same]
  · simp [under, same, Ne.symm same]

theorem getD_under {Value : Type} {keys : List String} {name : String} {value default : Value}
    (present : name ∈ keys ∨ value = default) : (under keys name value).getD default = value := by
  by_cases member : name ∈ keys
  · rw [under, if_pos member, Option.getD_some]
  · rw [under, if_neg member, Option.getD_none, present.resolve_left member]

theorem textOf_text (value : String) : textOf (.text value) = .ok value := rfl

theorem countOf_natCast (value : Nat) : countOf (.integer value) = .ok value := by
  have nonnegative : ¬ (value : Int) < 0 := Int.not_lt.mpr (Int.natCast_nonneg value)
  simp only [countOf, Node.shape, if_neg nonnegative, Int.toNat_natCast]

/-- Taking note of an entry that is an assignment of the settings, or assigns to an unknown key. -/
theorem add_given (settings : Settings) (keys : List String) (entry : String × Node)
    (own : entry.1 ∈ names → entry ∈ settings.entries) :
    Given.add (settings.given keys) entry = .ok (settings.given (keys ++ [entry.1])) := by
  by_cases known : entry.1 ∈ names
  · have member := own known
    clear own known
    simp only [entries, List.mem_append, List.mem_cons, List.not_mem_nil, or_false,
      Option.mem_toList, Option.map_eq_some_iff] at member
    rcases member with (rfl | rfl | rfl | rfl | rfl) | ⟨chain, isSet, rfl⟩
    · simp [Given.add, textOf_text, given, under_append, Except.map]
    · simp [Given.add, textOf_text, given, under_append, Except.map]
    · simp [Given.add, textOf_text, given, under_append, Except.map]
    · simp [Given.add, countOf_natCast, given, under_append, Except.map]
    · simp [Given.add, countOf_natCast, given, under_append, Except.map]
    · simp [Given.add, countOf_natCast, given, under_append, Except.map, isSet]
  · clear own
    obtain ⟨key, node⟩ := entry
    simp only [names, List.mem_cons, List.not_mem_nil, or_false, not_or] at known
    obtain ⟨rpcUrl, addressesPath, transferAmount, chainId, timeout, interval⟩ := known
    simp only [Given.add, given, if_neg rpcUrl, if_neg addressesPath, if_neg transferAmount,
      if_neg chainId, if_neg timeout, if_neg interval, under_append]

/-- Entries that describe the settings give what the settings say about their keys. -/
theorem foldlM_given (settings : Settings) (entries : Entries) (keys : List String)
    (own : ∀ entry ∈ entries, entry.1 ∈ names → entry ∈ settings.entries) :
    entries.foldlM Given.add (settings.given keys) =
      .ok (settings.given (keys ++ entries.map Prod.fst)) := by
  induction entries generalizing keys with
  | nil => rw [List.map_nil, List.append_nil]; rfl
  | cons entry entries inductionHypothesis =>
    rw [List.foldlM_cons, settings.add_given keys entry (own entry List.mem_cons_self),
      List.map_cons, List.append_cons keys entry.1 (entries.map Prod.fst)]
    exact inductionHypothesis _ fun other member => own other (List.mem_cons_of_mem _ member)

namespace DescribedBy

variable {settings : Settings} {entries : Entries}

/-- What the settings assign to a key is missing only if it is a default. -/
theorem present (described : settings.DescribedBy entries) (name : String) (node : Node)
    (member : (name, node) ∈ settings.entries) :
    name ∈ entries.map Prod.fst ∨ (name, node) ∈ defaults := by
  rcases described.complete _ member with assigned | default
  · exact .inl (List.mem_map_of_mem assigned)
  · exact .inr default

theorem chainId_given (described : settings.DescribedBy entries) :
    (settings.given (entries.map Prod.fst)).chainId.map (BitVec.ofNat 64) = settings.chainId := by
  cases isSet : settings.chainId with
  | none =>
    by_cases assigned : "CHAIN_ID" ∈ entries.map Prod.fst
    · simp only [given, isSet, under, if_pos assigned, Option.map_none, Option.join_some]
    · simp only [given, under, if_neg assigned, Option.join_none, Option.map_none]
  | some chain =>
    have assigned : "CHAIN_ID" ∈ entries.map Prod.fst := by
      refine (described.present _ (.integer chain.toNat) ?_).resolve_right ?_
      · simp [Settings.entries, isSet]
      · simp [defaults]
    simp only [given, isSet, under, if_pos assigned, Option.map_some, Option.join_some,
      BitVec.ofNat_toNat, BitVec.setWidth_eq]

/-- What is left out is completed by the defaults. -/
theorem complete_given (described : settings.DescribedBy entries) :
    (settings.given (entries.map Prod.fst)).complete = .ok settings := by
  have rpcUrl : "RPC_URL" ∈ entries.map Prod.fst := by
    refine (described.present _ (.text settings.rpcUrl) ?_).resolve_right ?_
    · simp [Settings.entries]
    · simp [defaults]
  have addressesPath : "ADDRESSES_FILE_PATH" ∈ entries.map Prod.fst := by
    refine (described.present _ (.text settings.addressesPath) ?_).resolve_right ?_
    · simp [Settings.entries]
    · simp [defaults]
  have transferAmount : "TRANSFER_AMOUNT" ∈ entries.map Prod.fst ∨
      settings.transferAmount = defaultTransferAmount := by
    refine (described.present _ (.text settings.transferAmount) ?_).imp_right fun default => ?_
    · simp [Settings.entries]
    · simpa [defaults] using default
  have timeout : "RECEIPT_TIMEOUT_SECS" ∈ entries.map Prod.fst ∨
      settings.receiptTimeoutSeconds = defaultReceiptTimeoutSeconds := by
    refine (described.present _ (.integer settings.receiptTimeoutSeconds) ?_).imp_right
      fun default => Int.ofNat_inj.mp ?_
    · simp [Settings.entries]
    · simpa [defaults] using default
  have interval : "RECEIPT_POLL_INTERVAL_MS" ∈ entries.map Prod.fst ∨
      settings.pollIntervalMilliseconds = defaultPollIntervalMilliseconds := by
    refine (described.present _ (.integer settings.pollIntervalMilliseconds) ?_).imp_right
      fun default => Int.ofNat_inj.mp ?_
    · simp [Settings.entries]
    · simpa [defaults] using default
  have given_rpcUrl : (settings.given (entries.map Prod.fst)).rpcUrl = some settings.rpcUrl :=
    if_pos rpcUrl
  have given_addressesPath :
      (settings.given (entries.map Prod.fst)).addressesPath = some settings.addressesPath :=
    if_pos addressesPath
  simp only [Given.complete, given_rpcUrl, given_addressesPath, described.chainId_given]
  simp only [given, getD_under transferAmount, getD_under timeout, getD_under interval]

end DescribedBy

/-- Entries that describe settings give these settings. -/
theorem ofEntries_of_describedBy {settings : Settings} {entries : Entries}
    (described : settings.DescribedBy entries) : ofEntries entries = .ok settings := by
  have collected := settings.foldlM_given entries [] described.own
  rw [ofEntries]
  show (entries.foldlM Given.add (settings.given []) >>= Given.complete) = _
  rw [collected]
  exact described.complete_given

/-! ### Writing settings -/

/-- The keys of settings need no quotes. -/
theorem exists_key_of_mem_names {name : String} (known : name ∈ names) :
    ∃ key : Toml.Key, key.name = name := by
  have bare : ∀ name ∈ names,
      name.toList ≠ [] ∧ name.toList.all Toml.isKeyChar = true := by decide
  exact ⟨⟨name.toList, (bare name known).1, (bare name known).2⟩, String.ofList_toList⟩

theorem toInt_ofNat_of_small {number : Nat} (small : number < 2 ^ 63) :
    (BitVec.ofNat 64 number).toInt = number := by
  have same : (BitVec.ofNat 64 number).toNat = number :=
    Nat.mod_eq_of_lt (Nat.lt_trans small (by decide))
  rw [BitVec.toInt_eq_toNat_of_lt (by omega), same]

theorem mem_names_of_mem_entries {settings : Settings} {entry : String × Node}
    (member : entry ∈ settings.entries) : entry.1 ∈ names := by
  simp only [entries, List.mem_append, List.mem_cons, List.not_mem_nil, or_false,
    Option.mem_toList, Option.map_eq_some_iff] at member
  rcases member with (rfl | rfl | rfl | rfl | rfl) | ⟨chain, isSet, rfl⟩ <;> simp [names]

/-- Whatever the settings assign can be written on a line. -/
theorem Writable.assignable {settings : Settings} (writable : settings.Writable)
    {entry : String × Node} (member : entry ∈ settings.entries) : Toml.Assignable entry := by
  obtain ⟨key, sameKey⟩ := exists_key_of_mem_names (mem_names_of_mem_entries member)
  suffices written : ∃ value : Toml.Value, value.node = entry.2 by
    obtain ⟨value, sameValue⟩ := written
    exact ⟨key, value, by rw [sameKey, sameValue]⟩
  have text (text : String) : ∃ value : Toml.Value, value.node = .text text :=
    ⟨.ofText text, Toml.Value.node_ofText text⟩
  have count {number : Nat} (small : number < 2 ^ 63) :
      ∃ value : Toml.Value, value.node = .integer number :=
    ⟨.integer (BitVec.ofNat 64 number), congrArg Node.integer (toInt_ofNat_of_small small)⟩
  simp only [entries, List.mem_append, List.mem_cons, List.not_mem_nil, or_false,
    Option.mem_toList, Option.map_eq_some_iff] at member
  rcases member with (rfl | rfl | rfl | rfl | rfl) | ⟨chain, isSet, rfl⟩
  · exact text _
  · exact text _
  · exact text _
  · exact count writable.timeout
  · exact count writable.interval
  · exact count (writable.chain chain isSet)

/-- All that the settings assign, in one order, describes them. -/
theorem describedBy_entries (settings : Settings) : settings.DescribedBy settings.entries where
  distinct := by
    cases isSet : settings.chainId <;> simp [entries, isSet]
  own := fun _ member _ => member
  complete := fun _ member => .inl member

/-- Reading undoes writing. Whatever document describes the settings, with its assignments in any
order, defaults left out, keys that are no settings, comments and blank lines, it is read as just
these settings; and settings whose numbers fit a signed word have such a document for every choice
and order of the assignments. -/
theorem document_gives_back_settings (settings : Settings) (writable : settings.Writable) :
    (∀ document : Document, settings.DescribedBy document.entries →
      read document.text = .ok settings) ∧
    (∀ chosen : Entries, settings.DescribedBy chosen →
      (∀ entry ∈ chosen, entry.1 ∉ names → Toml.Assignable entry) →
        ∃ document : Document, document.entries = chosen) ∧
    settings.DescribedBy settings.entries := by
  refine ⟨fun document described => ?_, fun chosen described unknown => ?_,
    settings.describedBy_entries⟩
  · rw [read, Document.text, String.toList_ofList, Toml.read?_chars document described.distinct]
    exact ofEntries_of_describedBy described
  · refine Toml.exists_document chosen fun entry member => ?_
    by_cases known : entry.1 ∈ names
    · exact writable.assignable (described.own entry member known)
    · exact unknown entry member known

/-- A document with a comment that looks like a setting, a key that is none, and texts that hold
quotes, a backslash, an escaped letter and what would start a comment. -/
theorem commented_document_gives_settings :
    let text := "# RPC_URL = \"none\"\r\nRPC_URL = \"http://x/#\\\"a=b\\\"\"\n\n" ++
      "\tCHAIN_ID=31337 # local\r\nnote = -5\nADDRESSES_FILE_PATH = \"\\u00E9\\\\é.csv\""
    let settings : Settings := {
      rpcUrl := "http://x/#\"a=b\"", addressesPath := "é\\é.csv",
      transferAmount := defaultTransferAmount, chainId := some 31337#64,
      receiptTimeoutSeconds := defaultReceiptTimeoutSeconds,
      pollIntervalMilliseconds := defaultPollIntervalMilliseconds }
    settings.Writable ∧ read text = .ok settings := by
  intro text settings
  let nothing : Toml.Gap := ⟨[], by decide⟩
  let space : Toml.Gap := ⟨[' '], by decide⟩
  let plain (text : String) : List Toml.Glyph := text.toList.map Toml.Glyph.write
  let quote : Toml.Glyph := .escaped .quote
  let assigned (name : String) (filled : name.toList ≠ [])
      (bare : name.toList.all Toml.isKeyChar = true) (value : Toml.Value) : Toml.Line :=
    ⟨nothing, some ⟨⟨name.toList, filled, bare⟩, space, space, value, nothing⟩, none⟩
  let url : Toml.Value := .text (plain "http://x/#" ++ quote :: plain "a=b" ++ [quote])
  let accent : Toml.Glyph :=
    .coded 'é' [⟨0, false⟩, ⟨0, false⟩, ⟨14, true⟩, ⟨9, true⟩] (.inl rfl) (by decide)
  let path : Toml.Value := .text (accent :: .escaped .backslash :: plain "é.csv")
  let document : Document := {
    lines := [
      (⟨nothing, none, some ⟨" RPC_URL = \"none\"".toList, by decide⟩⟩, .carriageFeed),
      (assigned "RPC_URL" (by decide) (by decide) url, .feed),
      (⟨nothing, none, none⟩, .feed),
      (⟨⟨['\t'], by decide⟩, some ⟨⟨"CHAIN_ID".toList, by decide, by decide⟩, nothing, nothing,
        .integer 31337#64, space⟩, some ⟨" local".toList, by decide⟩⟩, .carriageFeed),
      (assigned "note" (by decide) (by decide) (.integer (-5)), .feed)],
    last := assigned "ADDRESSES_FILE_PATH" (by decide) (by decide) path }
  have sameText : document.text = text := by decide +kernel
  have writable : settings.Writable := ⟨by decide, by decide, by simp [settings]⟩
  have written : document.entries = [("RPC_URL", .text "http://x/#\"a=b\""),
      ("CHAIN_ID", .integer 31337), ("note", .integer (-5)),
      ("ADDRESSES_FILE_PATH", .text "é\\é.csv")] := rfl
  have described : settings.DescribedBy document.entries := by
    rw [written]
    refine ⟨by decide, ?_, ?_⟩
    · simp [names, entries, settings]
    · simp [entries, settings, defaults]
  refine ⟨writable, ?_⟩
  rw [← sameText]
  exact (document_gives_back_settings settings writable).1 document described

end Trickle.Settings
