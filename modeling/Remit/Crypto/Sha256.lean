import Remit.Bytes

/-!
# SHA-256

The hash function of FIPS 180-4 on words of 32 bits. The message is padded to whole blocks of
64 bytes, every block is spread to 64 words, and each word takes part in one round that mixes
the eight words of the state.
-/

namespace Remit.Sha256

/-- The first 32 bits behind the point of the cube roots of the first 64 primes. -/
def roundConstants : List UInt32 :=
  [0x428a2f98, 0x71374491, 0xb5c0fbcf, 0xe9b5dba5, 0x3956c25b, 0x59f111f1, 0x923f82a4,
   0xab1c5ed5, 0xd807aa98, 0x12835b01, 0x243185be, 0x550c7dc3, 0x72be5d74, 0x80deb1fe,
   0x9bdc06a7, 0xc19bf174, 0xe49b69c1, 0xefbe4786, 0x0fc19dc6, 0x240ca1cc, 0x2de92c6f,
   0x4a7484aa, 0x5cb0a9dc, 0x76f988da, 0x983e5152, 0xa831c66d, 0xb00327c8, 0xbf597fc7,
   0xc6e00bf3, 0xd5a79147, 0x06ca6351, 0x14292967, 0x27b70a85, 0x2e1b2138, 0x4d2c6dfc,
   0x53380d13, 0x650a7354, 0x766a0abb, 0x81c2c92e, 0x92722c85, 0xa2bfe8a1, 0xa81a664b,
   0xc24b8b70, 0xc76c51a3, 0xd192e819, 0xd6990624, 0xf40e3585, 0x106aa070, 0x19a4c116,
   0x1e376c08, 0x2748774c, 0x34b0bcb5, 0x391c0cb3, 0x4ed8aa4a, 0x5b9cca4f, 0x682e6ff3,
   0x748f82ee, 0x78a5636f, 0x84c87814, 0x8cc70208, 0x90befffa, 0xa4506ceb, 0xbef9a3f7,
   0xc67178f2]

/-- The eight words of the state. -/
structure State where
  a : UInt32
  b : UInt32
  c : UInt32
  d : UInt32
  e : UInt32
  f : UInt32
  g : UInt32
  h : UInt32

/-- The first 32 bits behind the point of the square roots of the first eight primes. -/
def initial : State where
  a := 0x6a09e667
  b := 0xbb67ae85
  c := 0x3c6ef372
  d := 0xa54ff53a
  e := 0x510e527f
  f := 0x9b05688c
  g := 0x1f83d9ab
  h := 0x5be0cd19

/-- Rotates a word to the right. -/
def rotateRight (word count : UInt32) : UInt32 := word >>> count ||| word <<< (32 - count)

/-- The word with the given bytes, most significant first, followed by the words of the rest. -/
def words (bytes : Bytes) : List UInt32 :=
  (Bytes.blocks 4 bytes).map fun word => word.foldl (fun w byte => w <<< 8 ||| byte.toUInt32) 0

/-- The bytes of a word, most significant first. -/
def wordBytes (word : UInt32) : Bytes :=
  [(word >>> 24).toUInt8, (word >>> 16).toUInt8, (word >>> 8).toUInt8, word.toUInt8]

/-! ### Padding -/

/-- The message, a one bit, zeros up to a whole number of blocks, and the length in bits. -/
def pad (message : Bytes) : Bytes :=
  let zeros := (64 - (message.length + 1 + 8) % 64) % 64
  message ++ 0x80 :: List.replicate zeros 0 ++
    (Bytes.ofNatLE 8 (8 * message.length)).reverse

/-! ### One block -/

/-- Adds the next word to a schedule that is held last word first. -/
def extendSchedule (schedule : List UInt32) : List UInt32 :=
  let near := schedule.getD 1 0
  let far := schedule.getD 14 0
  let mixedNear := rotateRight near 17 ^^^ rotateRight near 19 ^^^ near >>> 10
  let mixedFar := rotateRight far 7 ^^^ rotateRight far 18 ^^^ far >>> 3
  (mixedNear + schedule.getD 6 0 + mixedFar + schedule.getD 15 0) :: schedule

/-- The 64 words of a block. -/
def schedule (block : Bytes) : List UInt32 :=
  (Nat.repeat extendSchedule 48 (words block).reverse).reverse

/-- One round with its constant and its word. -/
def round (s : State) (constant word : UInt32) : State :=
  let sumE := rotateRight s.e 6 ^^^ rotateRight s.e 11 ^^^ rotateRight s.e 25
  let choice := s.e &&& s.f ^^^ ~~~s.e &&& s.g
  let t₁ := s.h + sumE + choice + constant + word
  let sumA := rotateRight s.a 2 ^^^ rotateRight s.a 13 ^^^ rotateRight s.a 22
  let majority := s.a &&& s.b ^^^ s.a &&& s.c ^^^ s.b &&& s.c
  ⟨t₁ + (sumA + majority), s.a, s.b, s.c, s.d + t₁, s.e, s.f, s.g⟩

/-- The state after one more block. -/
def compress (s : State) (block : Bytes) : State :=
  let t := (roundConstants.zip (schedule block)).foldl (fun s (k, w) => round s k w) s
  ⟨s.a + t.a, s.b + t.b, s.c + t.c, s.d + t.d, s.e + t.e, s.f + t.f, s.g + t.g, s.h + t.h⟩

/-! ### The hash -/

/-- The bytes of a state. -/
def State.bytes (s : State) : FixedBytes 32 :=
  ⟨(wordBytes s.a ++ wordBytes s.b ++ wordBytes s.c ++ wordBytes s.d ++ wordBytes s.e ++
    wordBytes s.f ++ wordBytes s.g ++ wordBytes s.h).toArray, rfl⟩

/-- The SHA-256 digest of a message. -/
def hash (message : Bytes) : FixedBytes 32 :=
  ((Bytes.blocks 64 (pad message)).foldl compress initial).bytes

end Remit.Sha256
