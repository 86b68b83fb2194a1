import Remit.Crypto.Blake3
import Remit.Crypto.Ed25519

/-!
# Hash function and signatures

Everything about keys and transactions is written over a `Scheme`, which gives a hash function and
a way to sign, so that what holds does not hang on how these two work inside. All that is ever
asked of them is `Scheme.Sound`: what a secret key signs is accepted under its public key.

`Scheme.standard` is the one that nodes use.
-/

namespace Remit

/-- A hash function and a signature scheme. -/
structure Scheme where
  /-- The digest of a message. -/
  hash : Bytes → FixedBytes 32
  /-- The public key of a secret key. -/
  publicKey : FixedBytes 32 → FixedBytes 32
  /-- The signature of a message under a secret key. -/
  sign : FixedBytes 32 → Bytes → FixedBytes 64
  /-- Whether a signature belongs to a message under a public key. -/
  verify : FixedBytes 32 → Bytes → FixedBytes 64 → Bool

namespace Scheme

/-- What a secret key signs is accepted under its public key. -/
def Sound (S : Scheme) : Prop :=
  ∀ secret message, S.verify (S.publicKey secret) message (S.sign secret message) = true

/-- BLAKE3 and Ed25519. -/
def standard : Scheme where
  hash := Blake3.hash
  publicKey := Ed25519.publicKey
  sign := Ed25519.sign
  verify := Ed25519.verify

end Scheme

end Remit
