import Remit.Crypto.Sha512

/-!
# Ed25519

Signatures over the twisted Edwards curve `-x² + y² = 1 + d x² y²` modulo the prime `2²⁵⁵ - 19`,
with a base point of prime order. A secret key of 32 bytes is spread by SHA-512 to a scalar and a
seed for nonces, and a signature is an encoded point followed by a scalar.

Verification recomputes the point of the signature from the scalar, the public key and the message
and compares encodings, so no cofactor is cleared. A scalar has to be below the group order. A
public key may be any encoding of any point of the curve, of small order or with a coordinate that
is not reduced, and the bytes that are hashed are always the ones that were given.
-/

namespace Remit.Ed25519

/-! ### The field -/

/-- The prime of the field. -/
def prime : Nat := Nat.pow 2 255 - 19

theorem prime_pos : 0 < prime := by decide

/-- Numbers modulo the prime. -/
abbrev Field := Fin prime

/-- A number modulo the prime. -/
def Field.ofNat (n : Nat) : Field := ⟨n % prime, Nat.mod_lt n prime_pos⟩

/-- The power of an element, by squaring. -/
def power (x : Field) (exponent : Nat) : Field :=
  if _h : exponent = 0 then Field.ofNat 1
  else
    let rest := power (x * x) (exponent / 2)
    if exponent % 2 = 0 then rest else x * rest
termination_by exponent

/-- The inverse of an element, and zero for zero. -/
def inverse (x : Field) : Field := power x (prime - 2)

/-- The number that multiplies `x² y²` in the equation of the curve. -/
def d : Field := -(Field.ofNat 121665 * inverse (Field.ofNat 121666))

/-- A square root of minus one. -/
def rootOfMinusOne : Field := power (Field.ofNat 2) ((prime - 1) / 4)

/-- The even square root of a quotient, if it has one. -/
def rootOfQuotient? (u v : Field) : Option Field :=
  let cube := v * v * v
  let candidate := u * cube * power (u * cube * cube * v) ((prime - 5) / 8)
  let check := v * candidate * candidate
  let even (x : Field) : Field := if x.val % 2 = 0 then x else -x
  if check = u then some (even candidate)
  else if check = -u then some (even (candidate * rootOfMinusOne))
  else none

/-! ### The curve -/

/-- A point in extended coordinates: `x = X / Z`, `y = Y / Z` and `T = X * Y / Z`. -/
structure Point where
  X : Field
  Y : Field
  Z : Field
  T : Field

namespace Point

/-- The neutral point. -/
def zero : Point := ⟨Field.ofNat 0, Field.ofNat 1, Field.ofNat 1, Field.ofNat 0⟩

/-- The point with the given coordinates. -/
def ofCoordinates (x y : Field) : Point := ⟨x, y, Field.ofNat 1, x * y⟩

/-- The sum of two points. The formula holds for equal and for neutral points too. -/
def add (P Q : Point) : Point :=
  let A := (P.Y - P.X) * (Q.Y - Q.X)
  let B := (P.Y + P.X) * (Q.Y + Q.X)
  let C := (P.T + P.T) * d * Q.T
  let D := (P.Z + P.Z) * Q.Z
  let E := B - A
  let F := D - C
  let G := D + C
  let H := B + A
  ⟨E * F, G * H, F * G, E * H⟩

/-- The point on the other side. -/
def neg (P : Point) : Point := ⟨-P.X, P.Y, P.Z, -P.T⟩

/-- A multiple of a point, by doubling. -/
def times (n : Nat) (P : Point) : Point :=
  if _h : n = 0 then zero
  else
    let rest := times (n / 2) (P.add P)
    if n % 2 = 0 then rest else P.add rest
termination_by n

/-- The bytes of a point: its `y`, with the lowest bit of its `x` on top. -/
def encode (P : Point) : Bytes :=
  let z := inverse P.Z
  let x := P.X * z
  let y := P.Y * z
  Bytes.ofNatLE 32 (y.val + Nat.pow 2 255 * (x.val % 2))

/-- The point with the given bytes. -/
def decode? (bytes : Bytes) : Option Point :=
  let n := bytes.toNatLE
  let y := Field.ofNat (n % Nat.pow 2 255)
  let square := y * y
  match rootOfQuotient? (square - Field.ofNat 1) (d * square + Field.ofNat 1) with
  | none => none
  | some x => some (ofCoordinates (if n / Nat.pow 2 255 % 2 = 0 then x else -x) y)

/-- The base point, the one with `y = 4 / 5` and an even `x`. -/
def base : Point :=
  let y := Field.ofNat 4 * inverse (Field.ofNat 5)
  let square := y * y
  match rootOfQuotient? (square - Field.ofNat 1) (d * square + Field.ofNat 1) with
  | none => zero
  | some x => ofCoordinates x y

end Point

/-- The order of the base point. -/
def order : Nat := Nat.pow 2 252 + 27742317777372353535851937790883648493

/-! ### Signatures -/

/-- The hash of a message as a number below the order. -/
def scalarOfHash (message : Bytes) : Nat := Bytes.toNatLE (Sha512.hash message).toList % order

/-- The scalar of a secret key: a multiple of eight with its top bit at place 254. -/
def secretScalar (secret : FixedBytes 32) : Nat :=
  let n := Bytes.toNatLE ((Sha512.hash secret.toList).toList.take 32)
  Nat.pow 2 254 + n % Nat.pow 2 254 / 8 * 8

/-- The bytes from which a secret key draws its nonces. -/
def nonceSeed (secret : FixedBytes 32) : Bytes := (Sha512.hash secret.toList).toList.drop 32

/-- The bytes, filled up or cut to the given number. -/
def fixed (n : Nat) (bytes : Bytes) : FixedBytes n := Vector.ofFn fun i => bytes.getD i 0

/-- The public key of a secret key. -/
def publicKey (secret : FixedBytes 32) : FixedBytes 32 :=
  fixed 32 (Point.times (secretScalar secret) Point.base).encode

/-- The signature of a message under a secret key. -/
def sign (secret : FixedBytes 32) (message : Bytes) : FixedBytes 64 :=
  let nonce := scalarOfHash (nonceSeed secret ++ message)
  let point := (Point.times nonce Point.base).encode
  let challenge := scalarOfHash (point ++ (publicKey secret).toList ++ message)
  fixed 64 (point ++ Bytes.ofNatLE 32 ((nonce + challenge * secretScalar secret) % order))

/-- The signature belongs to the message under the public key. -/
def verify (publicKey : FixedBytes 32) (message : Bytes) (signature : FixedBytes 64) : Bool :=
  let point := signature.toList.take 32
  let scalar := Bytes.toNatLE (signature.toList.drop 32)
  if order ≤ scalar then false
  else
    match Point.decode? publicKey.toList with
    | none => false
    | some key =>
      let challenge := scalarOfHash (point ++ publicKey.toList ++ message)
      (((Point.times challenge key.neg).add (Point.times scalar Point.base)).encode == point)

end Remit.Ed25519
