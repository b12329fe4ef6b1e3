/-
This file proves how lines of the log can be told apart. The line of an event begins with
fixed words, its opening, whatever facts it shows. Some kinds of events are therefore
recognised by their level and the first words of their lines, and no event of another kind
is taken for one of them.
-/

import Mathlib.Data.List.Infix
import Trickle.Event

namespace Trickle.Event

/-! ### Openings -/

/-- Whether the line of an event begins with some words. -/
def begins (event : Event) (words : String) : Bool :=
  words.toList.isPrefixOf event.text.toList

/-- The fixed words that the line of an event begins with. -/
def opening : Event → String
  | .connected .. => "Connected to "
  | .loaded .. => "Loaded "
  | .noRows => "Address file has no data rows, nothing to do"
  | .malformedRow _ => "Skipping malformed row: "
  | .unfunded _ => "Balance for address "
  | .accountState .. => "Current balance of "
  | .pending _ => "Transaction "
  | .transferred .. => "Transferred "
  | .gasSpent _ => "Gas used: "
  | .reverted _ => "Transfer to "
  | .receiptOverdue .. => "RPC call timed out for address "
  | .attemptFailed .. => "Error transferring ETH to "
  | .finished _ => "Processed "

theorem prefix_append {words : List Char} {text : String} (begins : words <+: text.toList)
    (rest : String) : words <+: (text ++ rest).toList := by
  rw [String.toList_append]
  exact begins.trans (List.prefix_append _ _)

theorem opening_prefix (event : Event) : event.opening.toList <+: event.text.toList := by
  cases event with
  | noRows => exact List.prefix_refl _
  | malformedRow error => exact prefix_append (List.prefix_refl _) _
  | unfunded address | pending hash =>
    exact prefix_append (prefix_append (List.prefix_refl _) _) _
  | loaded rows path | receiptOverdue recipient fault | attemptFailed recipient failure =>
    exact prefix_append (prefix_append (prefix_append (List.prefix_refl _) _) _) _
  | connected url chainId | reverted report =>
    exact prefix_append (prefix_append (prefix_append (prefix_append (List.prefix_refl _) _) _) _) _
  | accountState sender balance nonce | transferred amount report | gasSpent report =>
    exact prefix_append (prefix_append (prefix_append (prefix_append
      (prefix_append (List.prefix_refl _) _) _) _) _) _
  | finished summary =>
    exact prefix_append (prefix_append (prefix_append (prefix_append (prefix_append
      (prefix_append (List.prefix_refl _) _) _) _) _) _) _

/-- Words that do not go on behind an opening are told by the opening alone. -/
theorem begins_eq {event : Event} {words : String}
    (short : event.opening.toList <+: words.toList → words.toList <+: event.opening.toList) :
    event.begins words = words.toList.isPrefixOf event.opening.toList := by
  rw [begins, Bool.eq_iff_iff, List.isPrefixOf_iff_prefix, List.isPrefixOf_iff_prefix]
  refine ⟨fun begins => ?_, fun begins => begins.trans event.opening_prefix⟩
  exact (List.prefix_or_prefix_of_prefix begins event.opening_prefix).elim id short

/-! ### Headings -/

/-- Whether an event is of a level and its line begins with some words. -/
def shows (level : Level) (words : String) (event : Event) : Bool :=
  event.level == level && event.begins words

/-- The kinds of events that are recognised by their first words. -/
inductive Heading where
  | accountState
  | unfunded
  | transferred
  | receiptOverdue
  | finished
  deriving DecidableEq, Repr

namespace Heading

/-- The level that events under a heading have. -/
def level : Heading → Level
  | .receiptOverdue => .error
  | _ => .info

/-- The words that a heading is recognised by. -/
def words : Heading → String
  | .accountState => "Current balance of"
  | .unfunded => "Balance for address"
  | .transferred => "Transferred "
  | .receiptOverdue => "RPC call timed out for address"
  | .finished => "Processed"

end Heading

/-- Whether an event is under a heading. -/
def isUnder : Heading → Event → Bool
  | .accountState, .accountState .. => true
  | .unfunded, .unfunded _ => true
  | .transferred, .transferred .. => true
  | .receiptOverdue, .receiptOverdue .. => true
  | .finished, .finished _ => true
  | _, _ => false

/-- The first words recognise the events under a heading, and no others. -/
theorem begins_heading (heading : Heading) (event : Event) :
    event.begins heading.words = isUnder heading event := by
  rw [begins_eq]
  · cases event <;> cases heading <;> dsimp only [opening, isUnder, Heading.words] <;> decide
  · cases event <;> cases heading <;> dsimp only [opening, Heading.words] <;> decide

theorem level_of_isUnder {heading : Heading} {event : Event}
    (under : isUnder heading event = true) :
    event.level = heading.level := by
  unfold isUnder at under
  split at under <;> first | rfl | exact nomatch under

/-- The level says no more than the first words. -/
theorem shows_heading (heading : Heading) (event : Event) :
    shows heading.level heading.words event = isUnder heading event := by
  rw [shows, begins_heading]
  cases under : isUnder heading event with
  | false => rw [Bool.and_false]
  | true => rw [level_of_isUnder under, BEq.rfl, Bool.and_true]

theorem countP_begins (heading : Heading) (events : List Event) :
    events.countP (begins · heading.words) = events.countP (isUnder heading) :=
  List.countP_congr fun event _ => by rw [begins_heading]

theorem countP_shows (heading : Heading) (events : List Event) :
    events.countP (shows heading.level heading.words) = events.countP (isUnder heading) :=
  List.countP_congr fun event _ => by rw [shows_heading]

/-! ### Accounts named by a line -/

/-- Whether the line of an event names an account. -/
def Names (event : Event) (address : Address) : Prop :=
  address.checksum.toList <:+: event.text.toList

theorem infix_append_right {words : List Char} {text : String} (rest : String)
    (within : words <:+: text.toList) : words <:+: (text ++ rest).toList := by
  rw [String.toList_append]
  exact within.trans (List.prefix_append _ _).isInfix

theorem infix_append_self (text word : String) : word.toList <:+: (text ++ word).toList := by
  rw [String.toList_append]
  exact (List.suffix_append _ _).isInfix

theorem names_transferred (amount : Wei) (report : Report) :
    (transferred amount report).Names report.recipient :=
  infix_append_right _ (infix_append_right _ (infix_append_self _ _))

theorem names_reverted (report : Report) : (reverted report).Names report.recipient :=
  infix_append_right _ (infix_append_right _ (infix_append_self _ _))

theorem names_receiptOverdue (recipient : Address) (fault : Fault) :
    (receiptOverdue recipient fault).Names recipient :=
  infix_append_right _ (infix_append_right _ (infix_append_self _ _))

theorem names_attemptFailed (recipient : Address) (failure : TransferFailure) :
    (attemptFailed recipient failure).Names recipient :=
  infix_append_right _ (infix_append_right _ (infix_append_self _ _))

end Trickle.Event
