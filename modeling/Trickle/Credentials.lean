/-
This file reads who pays from two texts: a private key, and optionally the address the
key is expected to control. Blanks around both are dropped. A bad key is reported
first, and never with any part of the key; an expected address that is given has to be
readable and has to be the key's own.
-/

import Trickle.Text.Blank
import Trickle.Text.Quoted
import Trickle.Transfer

namespace Trickle

/-- Why the payer cannot be told. -/
inductive CredentialsError where
  | missingKey
  | invalidKey
  | unreadableSender (error : HexError)
  | otherSender (expected actual : Address)
  deriving DecidableEq, Repr

namespace Credentials

/-- The name of the setting that holds the key. -/
def keyName : String := "SENDER_PRIVATE_KEY"

/-- The name of the setting that holds the expected address. -/
def senderName : String := "SENDER_ADDRESS"

end Credentials

/-- The wording of a fault. -/
def CredentialsError.message : CredentialsError → String
  | .missingKey => s!"{Credentials.keyName} must be set"
  | .invalidKey => s!"{Credentials.keyName} is not a valid private key"
  | .unreadableSender error => error.message
  | .otherSender expected actual =>
    s!"{Credentials.senderName} {expected.checksum} does not match the address " ++
      s!"of the private key {actual.checksum}"

namespace PrivateKey

/-- The key that sixty-four hexadecimal digits denote, if it is in range. -/
def read? (text : String) : Option PrivateKey :=
  match Hex.read 64 (Utf8.ofString text) with
  | .error _ => none
  | .ok scalar =>
    if positive : 0 < scalar then
      if inRange : scalar < Secp256k1.order then some ⟨scalar, positive, inRange⟩ else none
    else none

end PrivateKey

namespace Credentials

/-- A text without blanks at its ends. -/
def trimmed (text : String) : String :=
  String.ofList (trim text.toList)

/-- The payer that a key and an optional expected address stand for. -/
def ofParts (key : String) (expected : Option String) : Except CredentialsError Payer := do
  let some key := PrivateKey.read? (trimmed key) | throw .invalidKey
  let sender := key.address
  match expected with
  | none => return ⟨key, sender⟩
  | some text =>
    match Address.read (trimmed text) with
    | .error error => throw (.unreadableSender error)
    | .ok address =>
      if address = sender then return ⟨key, sender⟩ else throw (.otherSender address sender)

/-- The payer that the two settings of the environment stand for. A setting that is not text
counts as not set. -/
def ofEnvironment (key expected : Option Bytes) : Except CredentialsError Payer :=
  match key.bind Utf8.decode? with
  | none => .error .missingKey
  | some key => ofParts key (expected.bind Utf8.decode?)

end Credentials

end Trickle
