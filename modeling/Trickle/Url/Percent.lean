/-
This file writes bytes that may not stand in a part of an address as a percent sign and
two digits, and reads them back.
-/

import Trickle.Text.Hex

namespace Trickle.Percent

/-- A capital digit. -/
def digitChar (value : Nat) : Char :=
  (Hex.digitChar value).toUpper

/-- A byte as a percent sign and two digits. -/
def encodeByte (byte : UInt8) : List Char :=
  ['%', digitChar (byte.toNat / 16), digitChar (byte.toNat % 16)]

/-- A text in which everything is encoded that is no visible ASCII character or blank, or is one
of the given characters. -/
def encode (special : List Char) (text : List Char) : List Char :=
  text.flatMap fun char =>
    if char.toNat < 0x20 ∨ 0x7F ≤ char.toNat ∨ special.contains char then
      (String.utf8EncodeChar char).flatMap encodeByte
    else [char]

/-- The bytes of a text; a percent sign without two digits stands for itself. -/
def decode : Bytes → Bytes
  | [] => []
  | sign :: high :: low :: rest =>
    if sign = 0x25 then
      match Hex.digit? high, Hex.digit? low with
      | some first, some second => UInt8.ofNat (16 * first + second) :: decode rest
      | _, _ => sign :: decode (high :: low :: rest)
    else sign :: decode (high :: low :: rest)
  | byte :: rest => byte :: decode rest

end Trickle.Percent
