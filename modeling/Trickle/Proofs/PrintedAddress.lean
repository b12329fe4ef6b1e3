/-
This file proves that an account can be taken from where it is printed. Its address in
print is a mark and its forty digits; which of them are capitals is decided by a hash of
all, but no reader looks at the case. With any case, any mark, blanks around it and a
balance behind it, such a text is a row of the address file for the account.

The lines that tell how a row came out have no `x` in front of the account they name, so
the first mark of such a line is that of its account, and the forty digits behind it can
be read again. A run writes one such line for each row that is an entry.
-/

import Trickle.Proofs.AttemptedRows
import Trickle.Proofs.EntryGrammar
import Trickle.Proofs.HexText
import Trickle.Proofs.Log
import Trickle.Proofs.PrintedAmount
import Trickle.Proofs.Wording

namespace Trickle

/-! ### Characters of a field -/

/-- Only blanks are trimmed away. -/
theorem mem_trim {text : List Char} {char : Char} (member : char ∈ text)
    (notBlank : isBlank char = false) : char ∈ trim text := by
  have kept (part : List Char) (within : char ∈ part) : char ∈ part.dropWhile isBlank := by
    rw [← part.takeWhile_append_dropWhile (p := isBlank)] at within
    refine (List.mem_append.mp within).resolve_left fun dropped => ?_
    exact Bool.false_ne_true (notBlank.symm.trans (List.mem_takeWhile_imp dropped))
  rw [trim, List.mem_reverse]
  exact kept _ (List.mem_reverse.mpr (kept text member))

namespace Entry

theorem ne_semicolon_of_isDigit {char : Char} (isDigit : char.isDigit = true) : char ≠ ';' := by
  rintro rfl
  exact absurd isDigit (by decide)

theorem semicolon_not_mem_sign (sign : Sign) : ';' ∉ sign.chars := by
  cases sign <;> decide

theorem semicolon_not_mem_exponent (exponent : Exponent) : ';' ∉ exponent.chars := by
  intro member
  rcases List.mem_cons.mp member with mark | behind
  · cases capital : exponent.capital <;> simp [capital] at mark
  · rcases List.mem_append.mp behind with sign | digit
    · exact semicolon_not_mem_sign _ sign
    · exact ne_semicolon_of_isDigit (exponent.isDigits _ digit) rfl

theorem semicolon_not_mem_decimal (number : DecimalNumber) : ';' ∉ number.chars := by
  intro member
  rcases List.mem_append.mp member with sign | member
  · exact semicolon_not_mem_sign _ sign
  have noDigit (digit : ';' ∈ number.whole ++ number.decimals.getD []) : False :=
    ne_semicolon_of_isDigit (number.isDigits _ digit) rfl
  rcases List.mem_append.mp member with whole | member
  · exact noDigit (List.mem_append_left _ whole)
  rcases List.mem_append.mp member with decimals | exponent
  · cases given : number.decimals with
    | none => simp [given] at decimals
    | some digits =>
      rw [given] at decimals
      rcases List.mem_cons.mp decimals with point | digit
      · exact absurd point (by decide)
      · refine noDigit (List.mem_append_right _ ?_)
        rwa [given]
  · cases given : number.exponent with
    | none => simp [given] at exponent
    | some power =>
      rw [given] at exponent
      exact semicolon_not_mem_exponent power exponent

theorem semicolon_not_mem_endless (number : EndlessNumber) : ';' ∉ number.chars := by
  intro member
  have noLetter (word : String) (known : word = "inf" ∨ word = "infinity")
      (cased : IsCased number.word word) (within : ';' ∈ number.word) : False := by
    have lower := List.mem_map_of_mem (f := Char.toLower) within
    rw [← String.toList_ofList (l := number.word.map Char.toLower),
      (Literal.isCased_iff known).mpr cased] at lower
    rcases known with rfl | rfl <;> exact absurd lower (by decide)
  rcases List.mem_append.mp member with sign | word
  · exact semicolon_not_mem_sign _ sign
  · rcases number.known with cased | cased
    · exact noLetter _ (.inl rfl) cased word
    · exact noLetter _ (.inr rfl) cased word

/-- No field that writes a balance has a semicolon in it. -/
theorem IsBalance.semicolon_not_mem {text : List Char} (written : IsBalance (trim text)) :
    ';' ∉ text := by
  intro member
  have kept := mem_trim member (by decide)
  rcases written with ⟨number, isNumber⟩ | ⟨number, isNumber⟩
  · exact semicolon_not_mem_decimal number (isNumber ▸ kept)
  · exact semicolon_not_mem_endless number (isNumber ▸ kept)

/-! ### Texts that identify an account -/

/-- Whether a text, with blanks around it and any balance behind it, is read as an account. -/
def Identifies (text : List Char) (account : Address) : Prop :=
  ∀ front back : Blanks, ∀ second, IsBalance (trim second) →
    ∃ balance, balance? (trim second) = some balance ∧
      read (String.ofList (front.chars ++ text ++ back.chars ++ ';' :: second)) =
        .ok ⟨account, balance⟩

theorem identifies_of_spelledBy {text : List Char} {account : Address}
    (spelled : account.SpelledBy text) : Identifies text account := by
  intro front back second written
  obtain ⟨numeral, rfl, isNumber⟩ := spelled
  obtain ⟨balance, isBalance⟩ := (exists_balance_iff _).mpr written
  have notBlank (blanks : Blanks) : ';' ∉ blanks.chars := fun member =>
    absurd (blanks.blank _ member) (by decide)
  have without : ';' ∉ front.chars ++ numeral.chars ++ back.chars := by
    rw [List.mem_append, List.mem_append, not_or, not_or]
    exact ⟨⟨notBlank front, fun member => (numeral.ordinary _ member).2 rfl⟩, notBlank back⟩
  have fields : HasFields
      (String.ofList (front.chars ++ numeral.chars ++ back.chars ++ ';' :: second))
      (front.chars ++ numeral.chars ++ back.chars) second := by
    refine ⟨[], ?_⟩
    rw [String.toList_ofList, List.splitOn_append_cons_self_of_not_mem without,
      List.splitOn_eq_singleton written.semicolon_not_mem]
  have trimmed : trim (front.chars ++ numeral.chars ++ back.chars) = numeral.chars := by
    rw [trim_padded, trim_of_not_blank fun char member => (numeral.ordinary char member).1]
  refine ⟨balance, isBalance, Writes.read_eq ⟨_, second, fields, ?_, isBalance⟩⟩
  rw [trimmed]
  exact ⟨numeral, rfl, isNumber⟩

theorem identifies_checksum (account : Address) :
    Identifies account.checksum.toList account :=
  identifies_of_spelledBy account.spelledBy_checksum

end Entry

/-! ### Lines that tell how a row came out -/

namespace Event

/-- The first words of the lines that tell how a row came out. -/
def outcomeWords : List String :=
  ["Balance for address ", "Transferred ", "Transfer to ", "RPC call timed out for address ",
    "Error transferring ETH to "]

/-- Whether the line of an event tells how a row came out. -/
def tellsOutcome (event : Event) : Bool :=
  outcomeWords.any event.begins

/-- The account that is paid or not, if an event tells how a row came out. -/
def account? : Event → Option Address
  | .unfunded address => some address
  | .transferred _ report | .reverted report => some report.recipient
  | .receiptOverdue recipient _ | .attemptFailed recipient _ => some recipient
  | _ => none

/-- The first words recognise the lines that tell how a row came out. -/
theorem tellsOutcome_eq (event : Event) : event.tellsOutcome = event.account?.isSome := by
  have byOpening (words : String) (known : words ∈ outcomeWords) :
      event.begins words = words.toList.isPrefixOf event.opening.toList := by
    refine begins_eq ?_
    simp only [outcomeWords, List.mem_cons, List.not_mem_nil, or_false] at known
    rcases known with rfl | rfl | rfl | rfl | rfl <;> cases event <;>
      dsimp only [opening] <;> decide
  have recognised : event.tellsOutcome =
      outcomeWords.any fun words => words.toList.isPrefixOf event.opening.toList := by
    rw [tellsOutcome, Bool.eq_iff_iff, List.any_eq_true, List.any_eq_true]
    exact exists_congr fun words => and_congr_right fun known => by rw [byOpening words known]
  rw [recognised]
  cases event <;> dsimp only [opening, account?, Option.isSome] <;> decide

/-- What is left of a text from its first mark on. -/
def fromMark : List Char → List Char
  | [] => []
  | '0' :: 'x' :: rest => '0' :: 'x' :: rest
  | _ :: rest => fromMark rest

/-- The first mark of a line, with the forty characters behind it. -/
def addressIn (line : String) : List Char :=
  (fromMark line.toList).take 42

theorem fromMark_append {front : List Char} (without : 'x' ∉ front) (rest : List Char) :
    fromMark (front ++ (Hex.Mark.lower.chars ++ rest)) = Hex.Mark.lower.chars ++ rest := by
  induction front with
  | nil => rfl
  | cons first front inductionHypothesis =>
    rw [List.mem_cons, not_or] at without
    rw [List.cons_append, fromMark, inductionHypothesis without.2]
    intro other _ same
    cases front with
    | nil => exact absurd (List.cons.inj same).1 (by decide)
    | cons second front => exact without.2 ((List.cons.inj same).1 ▸ List.mem_cons_self)

theorem addressIn_eq {front line : String} {address : Address} (without : 'x' ∉ front.toList)
    (begins : (front ++ address.checksum).toList <+: line.toList) :
    addressIn line = address.checksum.toList := by
  obtain ⟨rest, split⟩ := begins
  have length := address.length_checksum
  rw [String.toList_append, List.append_assoc] at split
  rw [Address.toList_checksum] at split length ⊢
  rw [addressIn, ← split, List.append_assoc, fromMark_append without, ← List.append_assoc,
    List.take_left' length]

/-- No line that tells how a row came out has an `x` in front of the account it names. -/
theorem exists_front_of_account? {event : Event} {address : Address}
    (tells : event.account? = some address) :
    ∃ front : String, 'x' ∉ front.toList ∧
      (front ++ address.checksum).toList <+: event.text.toList := by
  cases event with
  | unfunded account =>
    obtain rfl := Option.some.inj tells
    exact ⟨"Balance for address ", by decide, prefix_append (List.prefix_refl _) _⟩
  | transferred amount report =>
    obtain rfl := Option.some.inj tells
    refine ⟨"Transferred " ++ Ether.text amount ++ " ETH to ", ?_,
      prefix_append (prefix_append (List.prefix_refl _) _) _⟩
    rw [String.toList_append, String.toList_append, List.mem_append, List.mem_append, not_or,
      not_or]
    exact ⟨⟨by decide, Ether.not_mem_text amount rfl (by decide)⟩, by decide⟩
  | reverted report =>
    obtain rfl := Option.some.inj tells
    exact ⟨"Transfer to ", by decide, prefix_append (prefix_append (List.prefix_refl _) _) _⟩
  | receiptOverdue recipient fault =>
    obtain rfl := Option.some.inj tells
    exact ⟨"RPC call timed out for address ", by decide,
      prefix_append (prefix_append (List.prefix_refl _) _) _⟩
  | attemptFailed recipient failure =>
    obtain rfl := Option.some.inj tells
    exact ⟨"Error transferring ETH to ", by decide,
      prefix_append (prefix_append (List.prefix_refl _) _) _⟩
  | _ => exact nomatch tells

/-- The account can be taken from a line that tells how its row came out. -/
theorem addressIn_text {event : Event} {address : Address}
    (tells : event.account? = some address) : addressIn event.text = address.checksum.toList := by
  obtain ⟨front, without, begins⟩ := exists_front_of_account? tells
  exact addressIn_eq without begins

theorem map_addressIn (events : List Event) :
    (events.filter tellsOutcome).map (fun line => addressIn line.text) =
      (events.filterMap account?).map (fun account => account.checksum.toList) := by
  induction events with
  | nil => rfl
  | cons event events inductionHypothesis =>
    rw [List.filter_cons, tellsOutcome_eq]
    cases tells : event.account? with
    | none =>
      rw [List.filterMap_cons_none tells, ← inductionHypothesis]
      rfl
    | some account =>
      rw [List.filterMap_cons_some tells, List.map_cons, ← inductionHypothesis,
        ← addressIn_text tells]
      rfl

end Event

/-! ### One line for each entry -/

namespace Run

open Dialogue (finished Until)
open Transfer (Course attempt closing)

/-- The account that a row is for, if it is an entry. -/
def account? (row : String) : Option Address :=
  (Entry.read row).toOption.map Entry.address

theorem accounts_of_course {plan : Plan} {recipient : Address} {moments : List (Moment Chain)}
    {result : Except TransferFailure Report} (course : Course plan recipient moments result) :
    (moments.filterMap Moment.event? ++ closing plan recipient result).filterMap Event.account? =
      [recipient] := by
  have closes : (closing plan recipient result).filterMap Event.account? = [recipient] := by
    cases result with
    | ok report =>
      obtain rfl := Log.recipient_of_course course
      rw [closing]
      split <;> rfl
    | error failure => cases failure <;> rfl
  rw [List.filterMap_append, closes]
  obtain ⟨events, _⟩ | ⟨balance, nonce, events, _⟩ := Log.statement_of_course course <;>
    rw [events] <;> rfl

/-- The work on a row tells once how it came out if the row is an entry, and not at all if it is
none. -/
theorem accounts_of_treated {plan : Plan} {row : String} {calls : List (Call Chain)}
    {events : List Event} {result : Except Breakdown Outcome}
    (treated : Treated plan row calls events result) {outcome : Outcome}
    (ended : result = .ok outcome) : events.filterMap Event.account? = (account? row).toList := by
  unfold account?
  cases treated with
  | malformed error unread =>
    rw [unread]
    rfl
  | skipped entry read unfunded =>
    rw [read]
    rfl
  | coursed entry read funded course =>
    rw [accounts_of_course course, read]
    rfl
  | stopped entry read funded answers => exact nomatch ended

/-- Work that breaks down does not tell how its row came out. -/
theorem accounts_of_stopped {plan : Plan} {row : String} {calls : List (Call Chain)}
    {events : List Event} {result : Except Breakdown Outcome}
    (treated : Treated plan row calls events result) {breakdown : Breakdown}
    (stops : result = .error breakdown) : events.filterMap Event.account? = [] := by
  cases treated with
  | stopped entry read funded answers => rfl
  | malformed | skipped | coursed => exact nomatch stops

section Rows

variable {State : Type} {plan : Plan}

theorem accounts_of_visits {rows : List String}
    {visited : List (Playback Chain State (Except Breakdown Outcome))}
    (played : Until (TreatedAs plan) rows visited) :
    (visited.flatMap Playback.events).filterMap Event.account? =
      (rows.take (finished visited).length).filterMap account? := by
  induction played with
  | none => rfl
  | @next row visit outcome rows visited head ended _ inductionHypothesis =>
    rw [List.flatMap_cons, List.filterMap_append, accounts_of_treated head ended,
      inductionHypothesis,
      Dialogue.finished_cons_of_ok ended, List.length_cons, List.take_succ_cons]
    cases isFor : account? row with
    | none => rw [List.filterMap_cons_none isFor]; rfl
    | some account => rw [List.filterMap_cons_some isFor]; rfl
  | @stopped row visit breakdown rows head stops =>
    rw [List.flatMap_singleton, accounts_of_stopped head stops,
      Dialogue.finished_cons_of_error stops]
    rfl

theorem accounts_turns (node : Peer Chain State) (plan : Plan) (state : State) (cursor : Cursor)
    (limit : Option Nat) (turned : Nat) :
    let rows := cursor.ahead (worked limit turned)
    (((turns limit turned (.going .empty cursor)).throughOrStop (attempt plan)).play node
      state).events.filterMap Event.account? =
        (rows.take (finished (visits node (attempt plan) rows state)).length).filterMap
          account? := by
  intro rows
  obtain ⟨ending, silent, transcript⟩ :=
    (covers_turns node (attempt plan) limit turned cursor state).transcript
  have nobody : ending.filterMap Event.account? = [] :=
    List.filterMap_eq_nil_iff.mpr fun event isEnding => by
      rcases silent event isEnding with rfl | ⟨summary, rfl⟩ <;> rfl
  rw [Playback.events, transcript, List.filterMap_append, Moment.events_noted,
    List.filterMap_append, nobody, List.append_nil, List.filterMap_flatMap,
    ← accounts_of_visits (treated_visits node plan rows state)]
  rfl

/-- The printed address of an account is a mark and its digits; like its digits in any other case,
behind any mark or none, with blanks around them and any balance behind them, it is read as the
account and no other. Whatever the node answers, at any turn of a run with or without a limit, the
lines that tell how a row came out are one for each row worked on that is an entry, in their order;
each shows the printed address of the account that its row is for, which identifies it. These are
all rows of the turns, unless the run breaks down over one whose payment cannot be signed, and then
the rows before it. No two accounts are printed alike. -/
theorem printed_addresses_identify_accounts (node : Peer Chain State) (plan : Plan) (state : State)
    (cursor : Cursor) (limit : Option Nat) (turned : Nat) :
    let played := ((turns limit turned (.going .empty cursor)).throughOrStop (attempt plan)).play
      node state
    let rows := cursor.ahead (worked limit turned)
    let outcomes := finished (visits node (attempt plan) rows state)
    let lines := played.events.filter Event.tellsOutcome
    let accounts := (rows.take outcomes.length).filterMap account?
    (∀ account : Address, ∃ digits, account.CasedBy digits ∧
      account.checksum.toList = Hex.Mark.lower.chars ++ digits ∧
      ∀ text, account.CasedBy text →
        ∀ mark : Hex.Mark, Entry.Identifies (mark.chars ++ text) account) ∧
    Ending plan rows outcomes (played.result.map Stand.summary) ∧
    lines.map (fun line => Event.addressIn line.text) =
      accounts.map (fun account => account.checksum.toList) ∧
    List.Forall₂ (fun line account => Entry.Identifies (Event.addressIn line.text) account) lines
      accounts ∧
    Function.Injective Address.checksum := by
  intro played rows outcomes lines accounts
  have shown : lines.map (fun line => Event.addressIn line.text) =
      accounts.map (fun account => account.checksum.toList) := by
    rw [Event.map_addressIn]
    exact congrArg _ (accounts_turns node plan state cursor limit turned)
  refine ⟨fun account => ⟨account.checksumDigits, account.casedBy_checksumDigits,
    account.toList_checksum, fun text cased mark =>
      Entry.identifies_of_spelledBy (cased.spelledBy mark)⟩,
    ending_turns node plan limit turned cursor state, shown, ?_, Address.checksum_injective⟩
  rw [← List.forall₂_eq_eq_eq, List.forall₂_map_left_iff, List.forall₂_map_right_iff] at shown
  exact shown.imp fun line account isShown =>
    isShown.symm ▸ Entry.identifies_checksum account

end Rows

end Run

end Trickle
