/-
This file builds and signs the transactions the program sends: a plain payment with a
gas price, bound to one chain. What is signed and what is sent are both lists of the
same six fields; the first goes on with the chain id and two zeros, the second with
the signature, whose first number carries the chain id and the parity of the key. That number
has 64 bits, so a payment for a chain with a very large id cannot be signed at all.
-/

import Trickle.Address
import Trickle.Breakdown
import Trickle.Wei
import Trickle.Curve.Signature
import Trickle.Transaction.Rlp

namespace Trickle

/-- A payment, with everything a node has to know about it but the signature. -/
structure Payment where
  recipient : Address
  amount : Wei
  gasLimit : BitVec 64
  gasPrice : Gas
  nonce : BitVec 64
  chainId : BitVec 64
  deriving DecidableEq, Repr

/-- A payment ready to send: its bytes and their hash. -/
structure SignedTransaction where
  raw : Bytes
  hash : TransactionHash
  deriving DecidableEq, Repr

namespace Address

/-- The twenty bytes of an address. -/
def bytes (address : Address) : Bytes :=
  Bytes.ofNat 20 address.number.toNat

end Address

namespace PrivateKey

/-- The address of the account that a key controls: the end of the hash of its public key. -/
def address (key : PrivateKey) : Address :=
  let (x, y) := Secp256k1.multipleOfBase key.scalar
  ⟨BitVec.ofNat 160 (Bytes.toNat (Keccak.hash (Bytes.ofNat 32 x ++ Bytes.ofNat 32 y)))⟩

end PrivateKey

namespace Payment

/-- The six fields that both forms start with. -/
def fields (payment : Payment) : List Rlp :=
  [.ofNat payment.nonce.toNat, .ofNat payment.gasPrice.toNat, .ofNat payment.gasLimit.toNat,
   .bytes payment.recipient.bytes, .ofNat payment.amount.toNat, .bytes []]

/-- What is hashed for signing. -/
def signingPayload (payment : Payment) : Bytes :=
  Rlp.encode (.list (payment.fields ++ [.ofNat payment.chainId.toNat, .ofNat 0, .ofNat 0]))

/-- The signature of a payment with a key. -/
def signature (payment : Payment) (key : PrivateKey) : Signature :=
  Signature.ofHash key (Bytes.toNat (Keccak.hash payment.signingPayload))

/-- The number that carries the chain id and the parity, whether it has 64 bits or more. -/
def recovery (payment : Payment) (signature : Signature) : Nat :=
  35 + 2 * payment.chainId.toNat + signature.oddY.toNat

/-- What is sent. -/
def encoded (payment : Payment) (signature : Signature) : Bytes :=
  Rlp.encode (.list (payment.fields ++
    [.ofNat (payment.recovery signature), .ofNat signature.r, .ofNat signature.s]))

/-- The payment with the signature of a key. -/
def signed (payment : Payment) (key : PrivateKey) : SignedTransaction :=
  let raw := payment.encoded (payment.signature key)
  ⟨raw, ⟨BitVec.ofNat 256 (Bytes.toNat (Keccak.hash raw))⟩⟩

/-- Whether the number that carries the chain id and the parity has 64 bits. -/
def Signable (payment : Payment) (key : PrivateKey) : Prop :=
  payment.recovery (payment.signature key) < Nat.pow 2 64

theorem signable_of_narrow {payment : Payment}
    (narrow : 36 + 2 * payment.chainId.toNat < Nat.pow 2 64) (key : PrivateKey) :
    payment.Signable key := by
  have parity : (payment.signature key).oddY.toNat ≤ 1 := Bool.toNat_le _
  unfold Signable recovery
  omega

/-- With all but the largest chain ids there is no need to know the parity. -/
instance (payment : Payment) (key : PrivateKey) : Decidable (payment.Signable key) :=
  if narrow : 36 + 2 * payment.chainId.toNat < Nat.pow 2 64 then
    isTrue (signable_of_narrow narrow key)
  else inferInstanceAs (Decidable (_ < _))

/-- Signs a payment with a key, or breaks down. -/
def sign (payment : Payment) (key : PrivateKey) : Except Breakdown SignedTransaction :=
  if payment.Signable key then .ok (payment.signed key) else .error .wideRecovery

end Payment

end Trickle
