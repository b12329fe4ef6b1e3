/-
This file proves that the encoding of transactions is canonical. Reading what was written
gives the items back, and nothing else is read at all: whatever can be read is, byte for
byte, what would be written for the items that come out. Items therefore have one
encoding, and a byte string encodes one item at most.

Everything rests on one step. The bytes of an item start with a header that tells whether
they are a list and how long they are; reading a header takes off exactly the bytes of
one item, whatever stands behind them, and it takes none but the shortest header.
-/

import Trickle.Proofs.Bytes
import Trickle.Transaction.Rlp

namespace Trickle.Rlp

/-! ### Lengths -/

theorem take?_append {count : Nat} {content : Bytes} (length : content.length = count)
    (rest : Bytes) : take? count (content ++ rest) = some (content, rest) := by
  subst length
  rw [take?, if_pos (by rw [List.length_append]; omega), List.take_left, List.drop_left]

theorem eq_append_of_take? {count : Nat} {input content rest : Bytes}
    (taken : take? count input = some (content, rest)) :
    input = content ++ rest ∧ content.length = count := by
  unfold take? at taken
  split at taken
  case isFalse => exact nomatch taken
  case isTrue enough =>
    obtain ⟨rfl, rfl⟩ := Prod.mk.inj (Option.some.inj taken)
    exact ⟨(List.take_append_drop count input).symm, List.length_take_of_le enough⟩

theorem longLength?_append {length : Nat} (long : 55 < length) (rest : Bytes) :
    longLength? (Bytes.width length) (Bytes.minimal length ++ rest) = some (length, rest) := by
  rw [longLength?, take?_append (Bytes.length_minimal length)]
  show (if 55 < Bytes.toNat (Bytes.minimal length) ∧ _ then _ else _) = _
  rw [Bytes.toNat_minimal, if_pos ⟨long, rfl⟩]

theorem eq_append_of_longLength? {count length : Nat} {input rest : Bytes}
    (read : longLength? count input = some (length, rest)) :
    input = Bytes.minimal length ++ rest ∧ Bytes.width length = count ∧ 55 < length := by
  rw [longLength?] at read
  obtain ⟨⟨digits, behind⟩, taken, checked⟩ := Option.bind_eq_some_iff.mp read
  obtain ⟨rfl, sameCount⟩ := eq_append_of_take? taken
  dsimp only at checked
  split at checked
  case isFalse => exact nomatch checked
  case isTrue shortest =>
    obtain ⟨rfl, rfl⟩ := Prod.mk.inj (Option.some.inj checked)
    refine ⟨by rw [shortest.2], ?_, shortest.1⟩
    rw [← sameCount, ← Bytes.length_minimal, shortest.2]

/-- A length that fits a machine word needs eight bytes at most. -/
theorem width_le_eight {length : Nat} (fits : length < 2 ^ 64) : Bytes.width length ≤ 8 :=
  Bytes.width_le (by rwa [show 256 ^ 8 = 2 ^ 64 from rfl])

theorem width_pos {length : Nat} (long : 55 < length) : 0 < Bytes.width length := by
  rw [Bytes.width, if_neg (by omega)]
  exact Nat.succ_pos _

/-! ### Contents and their headers -/

/-- The bytes of an item, given whether it is a list. -/
def encodeContent : (isList : Bool) → Bytes → Bytes
  | true, payload => encodePayload payload
  | false, content => encodeBytes content

theorem header_short (code : Nat) {length : Nat} (short : length ≤ 55) :
    header code length = [UInt8.ofNat (code + length)] :=
  if_pos short

theorem header_long (code : Nat) {length : Nat} (long : 55 < length) :
    header code length =
      UInt8.ofNat (code + 55 + Bytes.width length) :: Bytes.minimal length := by
  rw [header, if_neg (Nat.not_le.mpr long)]
  simp only [Bytes.length_minimal]

theorem encodeBytes_of_not_small {content : Bytes}
    (notSmall : ∀ byte, content = [byte] → ¬ byte < 0x80) :
    encodeBytes content = header 0x80 content.length ++ content := by
  match content, notSmall with
  | [], _ => rfl
  | [byte], notSmall => exact if_neg (notSmall byte rfl)
  | _ :: _ :: _, _ => rfl

/-- The code that the forms of byte strings or of lists are counted from. -/
def formCode : (isList : Bool) → Nat
  | true => 0xC0
  | false => 0x80

theorem encodeContent_short (isList : Bool) {content : Bytes} (short : content.length ≤ 55)
    (notSmall : isList = false → ∀ byte, content = [byte] → ¬ byte < 0x80) :
    encodeContent isList content =
      UInt8.ofNat (formCode isList + content.length) :: content := by
  cases isList with
  | true =>
    rw [encodeContent, encodePayload, header_short _ short]
    rfl
  | false =>
    rw [encodeContent, encodeBytes_of_not_small (notSmall rfl), header_short _ short]
    rfl

theorem encodeContent_long (isList : Bool) {content : Bytes} (long : 55 < content.length) :
    encodeContent isList content =
      UInt8.ofNat (formCode isList + 55 + Bytes.width content.length) ::
        (Bytes.minimal content.length ++ content) := by
  cases isList with
  | true =>
    rw [encodeContent, encodePayload, header_long _ long]
    rfl
  | false =>
    have notSmall (byte : UInt8) (alone : content = [byte]) : ¬ byte < 0x80 := by
      rw [alone, List.length_singleton] at long
      omega
    rw [encodeContent, encodeBytes_of_not_small notSmall, header_long _ long]
    rfl

/-- A code in a first byte. -/
theorem toNat_code {code : Nat} (fits : code < 256) : (UInt8.ofNat code).toNat = code := by
  rw [UInt8.toNat_ofNat']
  exact Nat.mod_eq_of_lt fits

/-- Takes off a content behind a length of `count` bytes. -/
def longContent? (isList : Bool) (count : Nat) (input : Bytes) : Option (Bool × Bytes × Bytes) :=
  (longLength? count input).bind fun read =>
    (take? read.1 read.2).bind fun taken => some (isList, taken.1, taken.2)

theorem longContent?_append (isList : Bool) {content : Bytes} (long : 55 < content.length)
    (rest : Bytes) :
    longContent? isList (Bytes.width content.length)
        (Bytes.minimal content.length ++ (content ++ rest)) = some (isList, content, rest) := by
  rw [longContent?, longLength?_append long, Option.bind_some]
  dsimp only
  rw [take?_append rfl, Option.bind_some]

theorem eq_append_of_longContent? {isList isList' : Bool} {count : Nat}
    {input content rest : Bytes}
    (read : longContent? isList count input = some (isList', content, rest)) :
    isList' = isList ∧ 55 < content.length ∧ Bytes.width content.length = count ∧
      input = Bytes.minimal content.length ++ (content ++ rest) := by
  rw [longContent?] at read
  obtain ⟨⟨length, behind⟩, counted, taken⟩ := Option.bind_eq_some_iff.mp read
  obtain ⟨⟨content', rest'⟩, took, same⟩ := Option.bind_eq_some_iff.mp taken
  obtain ⟨rfl, width, long⟩ := eq_append_of_longLength? counted
  obtain ⟨rfl, rfl⟩ := eq_append_of_take? took
  cases same
  exact ⟨rfl, long, width, rfl⟩

/-! ### One item -/

theorem payload?_single {first : UInt8} (low : first.toNat < 0x80) (rest : Bytes) :
    payload? (first :: rest) = some (false, [first], rest) := by
  rw [payload?]
  simp only [if_pos low]

/-- Taking off a short byte string checks that it is no small byte, which needs no header. -/
theorem payload?_short {first : UInt8} (rest : Bytes) (low : 0x80 ≤ first.toNat)
    (high : first.toNat ≤ 0xB7) :
    payload? (first :: rest) =
      (take? (first.toNat - 0x80) rest).bind fun taken =>
        match taken.1 with
        | [byte] => if byte < 0x80 then none else some (false, taken.1, taken.2)
        | _ => some (false, taken.1, taken.2) := by
  rw [payload?]
  simp only [if_neg (Nat.not_lt.mpr low), if_pos high]
  rfl

theorem payload?_long {first : UInt8} (rest : Bytes) (low : 0xB7 < first.toNat)
    (high : first.toNat ≤ 0xBF) :
    payload? (first :: rest) = longContent? false (first.toNat - 0xB7) rest := by
  rw [payload?]
  simp only [if_neg (by omega : ¬ first.toNat < 0x80), if_neg (Nat.not_le.mpr low), if_pos high]
  rfl

theorem payload?_shortList {first : UInt8} (rest : Bytes) (low : 0xBF < first.toNat)
    (high : first.toNat ≤ 0xF7) :
    payload? (first :: rest) =
      (take? (first.toNat - 0xC0) rest).bind fun taken => some (true, taken.1, taken.2) := by
  rw [payload?]
  simp only [if_neg (by omega : ¬ first.toNat < 0x80), if_neg (by omega : ¬ first.toNat ≤ 0xB7),
    if_neg (Nat.not_le.mpr low), if_pos high]
  rfl

theorem payload?_longList {first : UInt8} (rest : Bytes) (low : 0xF7 < first.toNat) :
    payload? (first :: rest) = longContent? true (first.toNat - 0xF7) rest := by
  rw [payload?]
  simp only [if_neg (by omega : ¬ first.toNat < 0x80), if_neg (by omega : ¬ first.toNat ≤ 0xB7),
    if_neg (by omega : ¬ first.toNat ≤ 0xBF), if_neg (Nat.not_le.mpr low)]
  rfl

/-- Behind the header the content is taken off, whatever follows it. -/
theorem payload?_encodeContent (isList : Bool) {content : Bytes} (fits : content.length < 2 ^ 64)
    (rest : Bytes) :
    payload? (encodeContent isList content ++ rest) = some (isList, content, rest) := by
  rcases Nat.lt_or_ge 55 content.length with long | short
  · have eight := width_le_eight fits
    have positive := width_pos long
    rw [encodeContent_long isList long, List.cons_append, List.append_assoc]
    cases isList with
    | true =>
      have code := toNat_code (by omega : 0xC0 + 55 + Bytes.width content.length < 256)
      rw [formCode, payload?_longList _ (by omega), code, Nat.add_sub_cancel_left,
        longContent?_append true long]
    | false =>
      have code := toNat_code (by omega : 0x80 + 55 + Bytes.width content.length < 256)
      rw [formCode, payload?_long _ (by omega) (by omega), code, Nat.add_sub_cancel_left,
        longContent?_append false long]
  cases isList with
  | true =>
    have code := toNat_code (by omega : 0xC0 + content.length < 256)
    rw [encodeContent_short true short nofun, formCode, List.cons_append,
      payload?_shortList _ (by omega) (by omega), code, Nat.add_sub_cancel_left,
      take?_append rfl, Option.bind_some]
  | false =>
    by_cases small : ∃ byte, content = [byte] ∧ byte < 0x80
    · obtain ⟨byte, rfl, low⟩ := small
      rw [encodeContent, encodeBytes, if_pos low, List.singleton_append, payload?_single low]
    · have notSmall (byte : UInt8) (single : content = [byte]) : ¬ byte < 0x80 := fun low =>
        small ⟨byte, single, low⟩
      have code := toNat_code (by omega : 0x80 + content.length < 256)
      rw [encodeContent_short false short fun _ => notSmall, formCode, List.cons_append,
        payload?_short _ (by omega) (by omega), code, Nat.add_sub_cancel_left,
        take?_append rfl, Option.bind_some]
      dsimp only
      split
      · next byte => exact if_neg (notSmall byte rfl)
      · rfl

/-- A first byte is the code that its number is. -/
theorem eq_ofNat_of_toNat {first : UInt8} {code : Nat} (same : first.toNat = code) :
    first = UInt8.ofNat code := by
  rw [← same, UInt8.ofNat_toNat]

/-- A short byte string that is taken off is no small byte. -/
theorem eq_append_of_short {first : UInt8} {behind content rest : Bytes} {isList : Bool}
    (low : 0x80 ≤ first.toNat) (high : first.toNat ≤ 0xB7)
    (read : payload? (first :: behind) = some (isList, content, rest)) :
    first :: behind = encodeContent isList content ++ rest := by
  rw [payload?_short _ low high] at read
  obtain ⟨⟨taken, later⟩, took, checked⟩ := Option.bind_eq_some_iff.mp read
  obtain ⟨rfl, length⟩ := eq_append_of_take? took
  dsimp only at checked
  have notSmall (byte : UInt8) (alone : taken = [byte]) : ¬ byte < 0x80 := by
    intro small
    subst alone
    dsimp only at checked
    rw [if_pos small] at checked
    exact nomatch checked
  have same : some (false, taken, later) = some (isList, content, rest) := by
    split at checked
    · next byte => rwa [if_neg (notSmall byte rfl)] at checked
    · exact checked
  cases same
  rw [encodeContent_short false (by omega) fun _ => notSmall, formCode,
    eq_ofNat_of_toNat (by omega : first.toNat = 0x80 + content.length)]
  rfl

/-- What is taken off as one item is the encoding of its content: each range of first bytes belongs
to one form of the header. -/
theorem eq_append_of_payload? {input content rest : Bytes} {isList : Bool}
    (read : payload? input = some (isList, content, rest)) :
    input = encodeContent isList content ++ rest := by
  cases input with
  | nil => exact nomatch read
  | cons first behind =>
    have byte := first.toNat_lt
    rcases Nat.lt_or_ge first.toNat 0x80 with single | notSingle
    · rw [payload?_single single] at read
      cases read
      have same : encodeBytes [first] = [first] := if_pos single
      exact congrArg (· ++ rest) same.symm
    rcases Nat.lt_or_ge 0xB7 first.toNat with notShort | short
    case inr => exact eq_append_of_short notSingle short read
    rcases Nat.lt_or_ge 0xBF first.toNat with notLong | long
    case inr =>
      rw [payload?_long _ notShort long] at read
      obtain ⟨rfl, long, width, rfl⟩ := eq_append_of_longContent? read
      rw [encodeContent_long false long, formCode, List.cons_append, List.append_assoc,
        eq_ofNat_of_toNat (by omega : first.toNat = 0x80 + 55 + Bytes.width content.length)]
    rcases Nat.lt_or_ge 0xF7 first.toNat with notShortList | shortList
    case inr =>
      rw [payload?_shortList _ notLong shortList] at read
      obtain ⟨⟨taken, later⟩, took, same⟩ := Option.bind_eq_some_iff.mp read
      obtain ⟨rfl, length⟩ := eq_append_of_take? took
      cases same
      have few : taken.length ≤ 55 := by omega
      rw [encodeContent_short true few nofun, formCode,
        eq_ofNat_of_toNat (by omega : first.toNat = 0xC0 + taken.length)]
      rfl
    · rw [payload?_longList _ notShortList] at read
      obtain ⟨rfl, long, width, rfl⟩ := eq_append_of_longContent? read
      rw [encodeContent_long true long, formCode, List.cons_append, List.append_assoc,
        eq_ofNat_of_toNat (by omega : first.toNat = 0xC0 + 55 + Bytes.width content.length)]

/-! ### Trees of items -/

theorem length_header_pos (code length : Nat) : 0 < (header code length).length := by
  unfold header
  split <;> exact Nat.succ_pos _

/-- An encoding is not shorter than its content, and longer if it is that of a list. -/
theorem length_encodePayload (payload : Bytes) :
    payload.length < (encodePayload payload).length := by
  have positive := length_header_pos 0xC0 payload.length
  rw [encodePayload, List.length_append]
  omega

theorem length_encodeBytes (content : Bytes) :
    content.length ≤ (encodeBytes content).length ∧ 0 < (encodeBytes content).length := by
  by_cases small : ∃ byte, content = [byte] ∧ byte < 0x80
  · obtain ⟨byte, rfl, low⟩ := small
    rw [encodeBytes, if_pos low]
    exact ⟨Nat.le_refl 1, Nat.one_pos⟩
  · have positive := length_header_pos 0x80 content.length
    rw [encodeBytes_of_not_small fun byte single low => small ⟨byte, single, low⟩,
      List.length_append]
    omega

theorem length_encode_pos (item : Rlp) : 0 < (encode item).length := by
  cases item with
  | bytes content => exact (length_encodeBytes content).2
  | list items => exact Nat.lt_of_le_of_lt (Nat.zero_le _) (length_encodePayload _)

/-- Reading takes off one item, reads what is in it if it is a list, and goes on behind it. -/
theorem decodeAll?_of_payload? {depth : Nat} {input content behind : Bytes} {isList : Bool}
    (taken : payload? input = some (isList, content, behind)) :
    decodeAll? (depth + 1) input =
      (if isList then (decodeAll? depth content).map list else some (bytes content)).bind
        fun item => (decodeAll? depth behind).map (item :: ·) := by
  cases input with
  | nil => exact nomatch taken
  | cons first rest =>
    rw [decodeAll?, taken]
    simp only [Option.bind_eq_bind, Option.bind_some, Option.pure_def, Option.map_eq_bind]
    cases isList <;> rfl

/-- Items are read back from their encodings, unless these are too long for their lengths to be
written. Each step into a list and each step behind an item leaves fewer bytes to read, so that the
depth suffices. -/
theorem decodeAll?_encodeAll (depth : Nat) (items : List Rlp)
    (fits : (encodeAll items).length < 2 ^ 64) (enough : (encodeAll items).length ≤ depth) :
    decodeAll? depth (encodeAll items) = some items := by
  induction depth generalizing items with
  | zero =>
    cases items with
    | nil => rfl
    | cons item rest =>
      have positive := length_encode_pos item
      rw [encodeAll, List.length_append] at enough
      omega
  | succ depth inductionHypothesis =>
    cases items with
    | nil => rfl
    | cons item rest =>
      have positive := length_encode_pos item
      rw [encodeAll, List.length_append] at fits enough
      have behind := inductionHypothesis rest (by omega) (by omega)
      cases item with
      | bytes content =>
        have content_le := (length_encodeBytes content).1
        rw [encode] at fits
        have taken : payload? (encodeBytes content ++ encodeAll rest) =
            some (false, content, encodeAll rest) := payload?_encodeContent false (by omega) _
        rw [encodeAll, encode, decodeAll?_of_payload? taken, behind]
        rfl
      | list inner =>
        -- The header is left out on the way in, which is what the smaller depth pays for.
        have payload_lt := length_encodePayload (encodeAll inner)
        rw [encode] at fits enough
        have within := inductionHypothesis inner (by omega) (by omega)
        have taken : payload? (encodePayload (encodeAll inner) ++ encodeAll rest) =
            some (true, encodeAll inner, encodeAll rest) := payload?_encodeContent true (by omega) _
        rw [encodeAll, encode, decodeAll?_of_payload? taken, behind, if_pos rfl, within]
        rfl

/-- Whatever is read as some items is their encodings. -/
theorem eq_encodeAll_of_decodeAll? {depth : Nat} {input : Bytes} {items : List Rlp}
    (read : decodeAll? depth input = some items) : input = encodeAll items := by
  induction depth generalizing input items with
  | zero =>
    cases input with
    | nil =>
      cases read
      rfl
    | cons first rest => exact nomatch read
  | succ depth inductionHypothesis =>
    cases taken : payload? input with
    | none =>
      cases input with
      | nil =>
        cases read
        rfl
      | cons first rest =>
        rw [decodeAll?, taken] at read
        exact nomatch read
    | some parts =>
      obtain ⟨isList, content, behind⟩ := parts
      rw [decodeAll?_of_payload? taken] at read
      obtain ⟨item, isItem, read⟩ := Option.bind_eq_some_iff.mp read
      obtain ⟨others, later, rfl⟩ := Option.map_eq_some_iff.mp read
      rw [eq_append_of_payload? taken, encodeAll, ← inductionHypothesis later]
      refine congrArg (· ++ behind) ?_
      cases isList with
      | false =>
        cases isItem
        rw [encode]
        rfl
      | true =>
        obtain ⟨inner, within, rfl⟩ := Option.map_eq_some_iff.mp isItem
        rw [encode, ← inductionHypothesis within]
        rfl

/-! ### The one encoding of an item -/

theorem encodeAll_singleton (item : Rlp) : encodeAll [item] = encode item := by
  rw [encodeAll, encodeAll, List.append_nil]

/-- An item is read back from its encoding. -/
theorem decode?_encode {item : Rlp} (fits : (encode item).length < 2 ^ 64) :
    decode? (encode item) = some item := by
  have read := decodeAll?_encodeAll ((encode item).length + 1) [item]
  rw [encodeAll_singleton] at read
  rw [decode?, read fits (Nat.le_succ _)]

/-- A byte string is read as an item only if it is the encoding of that item. -/
theorem eq_encode_of_decode? {input : Bytes} {item : Rlp} (read : decode? input = some item) :
    input = encode item := by
  unfold decode? at read
  split at read
  case h_2 => exact nomatch read
  case h_1 single all =>
    cases read
    rw [eq_encodeAll_of_decodeAll? all, encodeAll_singleton]

/-- A byte string is read as an item, with nothing left over, and no other byte string is. -/
def Spells (input : Bytes) (item : Rlp) : Prop :=
  decode? input = some item ∧ ∀ other, decode? other = some item → other = input

theorem spells_encode {item : Rlp} (fits : (encode item).length < 2 ^ 64) :
    Spells (encode item) item :=
  ⟨decode?_encode fits, fun _ read => eq_encode_of_decode? read⟩

/-! ### Lists of a few short items -/

/-- A byte string whose length fits the first byte of its encoding. -/
def Short (item : Rlp) : Prop :=
  ∃ content, item = bytes content ∧ content.length ≤ 55

theorem Short.length_encode_le {item : Rlp} (short : item.Short) : (encode item).length ≤ 56 := by
  obtain ⟨content, rfl, few⟩ := short
  rw [encode]
  by_cases small : ∃ byte, content = [byte] ∧ byte < 0x80
  · obtain ⟨byte, rfl, low⟩ := small
    rw [encodeBytes, if_pos low]
    exact Nat.le_add_left 1 55
  · rw [encodeBytes_of_not_small fun byte single low => small ⟨byte, single, low⟩,
      header_short _ few, List.length_append, List.length_singleton]
    omega

theorem length_encodeAll_le {items : List Rlp} (short : ∀ item ∈ items, item.Short) :
    (encodeAll items).length ≤ 56 * items.length := by
  induction items with
  | nil => exact Nat.le_refl 0
  | cons item rest inductionHypothesis =>
    have first := (short item List.mem_cons_self).length_encode_le
    have others := inductionHypothesis fun later member =>
      short later (List.mem_cons_of_mem _ member)
    rw [encodeAll, List.length_append, List.length_cons]
    omega

theorem length_header_le (code : Nat) {length : Nat} (fits : length < 2 ^ 64) :
    (header code length).length ≤ 9 := by
  have eight := width_le_eight fits
  rcases Nat.lt_or_ge 55 length with long | short
  · rw [header_long _ long, List.length_cons, Bytes.length_minimal]
    omega
  · rw [header_short _ short]
    exact Nat.le_add_left 1 8

/-- Lists of a few short items always have their one encoding. -/
theorem spells_list_of_short {items : List Rlp} (few : items.length ≤ 9)
    (short : ∀ item ∈ items, item.Short) : Spells (encode (list items)) (list items) := by
  have payload := length_encodeAll_le short
  have ahead := length_header_le 0xC0 (by omega : (encodeAll items).length < 2 ^ 64)
  refine spells_encode ?_
  rw [encode, encodePayload, List.length_append]
  omega

end Trickle.Rlp
