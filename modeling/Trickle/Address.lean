/-
This file fixes account addresses and transaction hashes and their texts. An
address is written in two ways: in lower case, as requests to a node carry it, and
with its checksum, as people read it, where the case of each letter follows the hash
of the lower-case text. Reading takes any case and never looks at the checksum.
-/

import Trickle.Text.Hex
import Trickle.Hash.Keccak

namespace Trickle

/-- A 160-bit account address. -/
structure Address where
  number : BitVec 160
  deriving DecidableEq, Repr

namespace Address

/-- The address that forty hexadecimal digits name. -/
def read (text : String) : Except HexError Address :=
  (Hex.read 40 (Utf8.ofString text)).map fun value => ⟨BitVec.ofNat 160 value⟩

/-- The forty lower-case digits, without a mark. -/
def digits (address : Address) : List Char :=
  Hex.write 40 address.number.toNat

/-- The lower-case text. -/
def lowerCase (address : Address) : String :=
  "0x" ++ String.ofList address.digits

/-- A digit in the case that the matching digit of the hash asks for. -/
def casedDigit (digit : Char) (hashDigit : Nat) : Char :=
  if 8 ≤ hashDigit then digit.toUpper else digit

/-- The text with its checksum: a letter is a capital where the hash digit is at least eight. -/
def checksum (address : Address) : String :=
  let hashed := Keccak.hash (Utf8.encode address.digits)
  let hashDigits := hashed.flatMap fun byte => [byte.toNat / 16, byte.toNat % 16]
  "0x" ++ String.ofList (List.zipWith casedDigit address.digits hashDigits)

end Address

/-- A 256-bit transaction hash. -/
structure TransactionHash where
  number : BitVec 256
  deriving DecidableEq, Repr

namespace TransactionHash

/-- The hash that sixty-four hexadecimal digits name. -/
def read (text : String) : Except HexError TransactionHash :=
  (Hex.read 64 (Utf8.ofString text)).map fun value => ⟨BitVec.ofNat 256 value⟩

/-- The lower-case text. -/
def text (hash : TransactionHash) : String :=
  "0x" ++ String.ofList (Hex.write 64 hash.number.toNat)

end TransactionHash

end Trickle
