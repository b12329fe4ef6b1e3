/-
This file names what the program breaks down over. Such a condition is no fault: it is not
reported, and whatever the program was doing ends at once.
-/

namespace Trickle

/-- Conditions the program does not go on from. -/
inductive Breakdown where
  /-- A chain id is too large for the number of 64 bits that carries it in a signed payment. -/
  | wideRecovery
  /-- A request was answered with a list of replies. -/
  | batchReply
  /-- A receipt is to be asked for at intervals of no length. -/
  | zeroPollInterval
  deriving DecidableEq, Repr

end Trickle
