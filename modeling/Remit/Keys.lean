import Remit.Crypto.Scheme
import Remit.Identifier

/-!
# Keys

A secret key of 32 bytes determines a public key, and the digest of the public key is the address
of an account. Every 32 bytes are a secret key. Public keys and signatures are plain bytes: that
some of them verify nothing is for verification to find out.

An error about a secret key says what is wrong with its form and shows nothing of its content.

## Main statements

* `KeyPair.ofHex_encode`: a secret key is read back from its digits.
* `verifyText_eq_true_iff`: texts verify if and only if the bytes they spell do.
-/

namespace Remit

/-! ### Public keys and signatures -/

/-- The key that everyone may see. -/
structure PublicKey where
  bytes : FixedBytes 32
  deriving DecidableEq

/-- A signature. -/
structure Signature where
  bytes : FixedBytes 64
  deriving DecidableEq

/-- A text is not hexadecimal, or not of the length that is asked for. -/
def Error.ofHex (cause : Hex.Error) : Error := .format cause.message

namespace PublicKey

/-- The key as lowercase digits. -/
def text (key : PublicKey) : String := Hex.encode key.bytes.toList

/-- The key with its type, for a log. -/
def description (key : PublicKey) : String := s!"PublicKey({key.text})"

/-- Reads any hexadecimal spelling of a key. -/
def parse (text : String) : Except Error PublicKey :=
  match Hex.decodeExactly 32 text with
  | .ok bytes => .ok ⟨bytes⟩
  | .error cause => .error (.ofHex cause)

/-- The account that belongs to the key. -/
def address (S : Scheme) (key : PublicKey) : Address := ⟨S.hash key.bytes.toList⟩

end PublicKey

namespace Signature

/-- The signature as lowercase digits. -/
def text (signature : Signature) : String := Hex.encode signature.bytes.toList

/-- The signature with its type, for a log. -/
def description (signature : Signature) : String := s!"Signature({signature.text})"

/-- Takes bytes as a signature if there are 64 of them. -/
def ofBytes (bytes : Bytes) : Except Error Signature :=
  match Bytes.ofLength? 64 bytes with
  | some bytes => .ok ⟨bytes⟩
  | none => .error (.format s!"signature must be 64 bytes, got {bytes.length}")

/-- Reads any hexadecimal spelling of a signature. -/
def parse (text : String) : Except Error Signature :=
  match Hex.decode text with
  | .ok bytes => ofBytes bytes
  | .error cause => .error (.ofHex cause)

end Signature

/-! ### Key pairs -/

/-- A secret key with its public key. -/
structure KeyPair (S : Scheme) where
  secret : FixedBytes 32
  publicKey : PublicKey
  publicKey_eq : publicKey.bytes = S.publicKey secret

namespace KeyPair

variable {S : Scheme}

/-- The pair of a secret key. -/
def ofSecret (S : Scheme) (secret : FixedBytes 32) : KeyPair S :=
  ⟨secret, ⟨S.publicKey secret⟩, rfl⟩

/-- A secret key is not hexadecimal. -/
def notHex : Error := .invalidKey "secret key is not valid hex"

/-- A secret key does not have 32 bytes. -/
def wrongLength (length : Nat) : Error :=
  .invalidKey s!"secret key must be 32 bytes, got {length}"

/-- Takes bytes as a secret key if there are 32 of them. -/
def ofBytes (S : Scheme) (secret : Bytes) : Except Error (KeyPair S) :=
  match Bytes.ofLength? 32 secret with
  | some bytes => .ok (ofSecret S bytes)
  | none => .error (wrongLength secret.length)

/-- Reads any hexadecimal spelling of a secret key. -/
def ofHex (S : Scheme) (text : String) : Except Error (KeyPair S) :=
  match Hex.decode text with
  | .ok bytes => ofBytes S bytes
  | .error _ => .error notHex

/-- The secret key as lowercase digits. -/
def secretText (keys : KeyPair S) : String := Hex.encode keys.secret.toList

/-- The account that belongs to the keys. -/
def address (keys : KeyPair S) : Address := keys.publicKey.address S

/-- Signs a message. -/
def sign (keys : KeyPair S) (message : Bytes) : Signature := ⟨S.sign keys.secret message⟩

/-- The public key with its type, for a log; the secret key is never shown. -/
def description (keys : KeyPair S) : String := s!"KeyPair(pub={keys.publicKey.text})"

/-- Pairs with one public key are the same; secret keys are not compared. -/
def same (a b : KeyPair S) : Bool := a.publicKey == b.publicKey

theorem ext_secret {a b : KeyPair S} (h : a.secret = b.secret) : a = b := by
  obtain ⟨sa, ⟨pa⟩, ha⟩ := a
  obtain ⟨sb, ⟨pb⟩, hb⟩ := b
  obtain rfl : sa = sb := h
  obtain rfl : pa = pb := ha.trans hb.symm
  rfl

@[simp] theorem ofSecret_secret (keys : KeyPair S) : ofSecret S keys.secret = keys :=
  ext_secret rfl

theorem ofHex_encode (secret : FixedBytes 32) :
    ofHex S (Hex.encode secret.toList) = .ok (ofSecret S secret) := by
  simp [ofHex, Hex.decode_encode, ofBytes]

end KeyPair

/-! ### Verification -/

/-- Whether a signature belongs to a message under a public key. -/
def PublicKey.verify (S : Scheme) (key : PublicKey) (message : Bytes) (signature : Signature) :
    Bool :=
  S.verify key.bytes message signature.bytes

/-- The same for plain bytes: those of a wrong length do not verify. -/
def verifyBytes (S : Scheme) (signature message publicKey : Bytes) : Bool :=
  match Bytes.ofLength? 64 signature, Bytes.ofLength? 32 publicKey with
  | some signature, some key => PublicKey.verify S ⟨key⟩ message ⟨signature⟩
  | _, _ => false

/-- The same for hexadecimal texts: those that cannot be read do not verify. -/
def verifyText (S : Scheme) (signature : String) (message : Bytes) (publicKey : String) : Bool :=
  match Hex.decode signature, Hex.decode publicKey with
  | .ok signature, .ok key => verifyBytes S signature message key
  | _, _ => false

theorem verifyBytes_eq_true_iff {S : Scheme} {signature message publicKey : Bytes} :
    verifyBytes S signature message publicKey = true ↔
      ∃ (s : FixedBytes 64) (k : FixedBytes 32), signature = s.toList ∧ publicKey = k.toList ∧
        S.verify k message s = true := by
  unfold verifyBytes
  split
  · rename_i s k hs hk
    rw [Bytes.ofLength?_eq_some_iff] at hs hk
    constructor
    · intro h
      exact ⟨s, k, hs, hk, h⟩
    · rintro ⟨s', k', hs', hk', h⟩
      obtain rfl : s = s' := Vector.toList_inj.1 (hs.symm.trans hs')
      obtain rfl : k = k' := Vector.toList_inj.1 (hk.symm.trans hk')
      exact h
  · rename_i h
    simp only [Bool.false_eq_true, false_iff, not_exists, not_and]
    rintro s k rfl rfl _
    exact h s k (by simp) (by simp)

theorem verifyText_eq_true_iff {S : Scheme} {signature : String} {message : Bytes}
    {publicKey : String} :
    verifyText S signature message publicKey = true ↔
      ∃ (s : FixedBytes 64) (k : FixedBytes 32), Hex.decode signature = .ok s.toList ∧
        Hex.decode publicKey = .ok k.toList ∧ S.verify k message s = true := by
  unfold verifyText
  split
  · rename_i s k hs hk
    rw [verifyBytes_eq_true_iff, hs, hk]
    simp
  · rename_i h
    simp only [Bool.false_eq_true, false_iff, not_exists, not_and]
    intro s k hs hk _
    exact h _ _ hs hk

end Remit
