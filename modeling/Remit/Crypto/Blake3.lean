import Remit.Bytes

/-!
# BLAKE3

The hash function BLAKE3 without key and with a digest of 32 bytes. The message is cut into chunks
of 1024 bytes, which are the leaves of a binary tree: the left part of a node holds the largest
power of two of whole chunks that still leaves something for the right part. A chunk is chained
through its blocks of 64 bytes, a parent is one block that holds the chaining values of its two
parts, and the digest is the last compression of the whole tree, marked as the root.

## Main statements

* `Blake3.leftLength_lt`, `Blake3.leftLength_pos`: both parts of a node are shorter than the node,
  so the tree is finite.
-/

namespace Remit.Blake3

/-! ### Compression -/

/-- Eight words that are handed from one compression to the next. -/
abbrev Chain := Vector UInt32 8

/-- The words of a block, or of the state of a compression. -/
abbrev Block := Vector UInt32 16

/-- The first 32 bits behind the point of the square roots of the first eight primes. -/
def initial : Chain :=
  #v[0x6a09e667, 0xbb67ae85, 0x3c6ef372, 0xa54ff53a, 0x510e527f, 0x9b05688c, 0x1f83d9ab, 0x5be0cd19]

/-- What is special about a block. -/
structure Flags where
  chunkStart : Bool := false
  chunkEnd : Bool := false
  parent : Bool := false
  root : Bool := false

/-- The flags as bits of a word. -/
def Flags.word (flags : Flags) : UInt32 :=
  (if flags.chunkStart then 1 else 0) ||| (if flags.chunkEnd then 2 else 0) |||
    (if flags.parent then 4 else 0) ||| (if flags.root then 8 else 0)

/-- Rotates a word to the right. -/
def rotateRight (word count : UInt32) : UInt32 := word >>> count ||| word <<< (32 - count)

/-- Mixes two words of the message into four words of the state. -/
def mix (state : Block) (a b c d : Fin 16) (x y : UInt32) : Block :=
  let a₁ := state[a] + state[b] + x
  let d₁ := rotateRight (state[d] ^^^ a₁) 16
  let c₁ := state[c] + d₁
  let b₁ := rotateRight (state[b] ^^^ c₁) 12
  let a₂ := a₁ + b₁ + y
  let d₂ := rotateRight (d₁ ^^^ a₂) 8
  let c₂ := c₁ + d₂
  let b₂ := rotateRight (b₁ ^^^ c₂) 7
  (((state.set a a₂).set b b₂).set c c₂).set d d₂

/-- Mixes the message into the columns of the state and then into its diagonals. -/
def round (state message : Block) : Block :=
  let state := mix state 0 4 8 12 message[0] message[1]
  let state := mix state 1 5 9 13 message[2] message[3]
  let state := mix state 2 6 10 14 message[4] message[5]
  let state := mix state 3 7 11 15 message[6] message[7]
  let state := mix state 0 5 10 15 message[8] message[9]
  let state := mix state 1 6 11 12 message[10] message[11]
  let state := mix state 2 7 8 13 message[12] message[13]
  mix state 3 4 9 14 message[14] message[15]

/-- Where each word of the message comes from in the next round. -/
def permutation : Vector (Fin 16) 16 := #v[2, 6, 3, 10, 7, 0, 4, 13, 1, 11, 12, 5, 9, 14, 15, 8]

/-- One round on the state, and the message as it enters the next one. -/
def step (s : Block × Block) : Block × Block :=
  (round s.1 s.2, permutation.map fun i => s.2[i])

/-- The input of one compression. -/
structure Node where
  chain : Chain
  block : Block
  counter : UInt64
  length : UInt32
  flags : Flags

/-- The chaining value of a node: seven rounds on a state made of all its parts. -/
def Node.compress (node : Node) : Chain :=
  let chain := node.chain
  let state : Block :=
    #v[chain[0], chain[1], chain[2], chain[3], chain[4], chain[5], chain[6], chain[7],
       initial[0], initial[1], initial[2], initial[3],
       node.counter.toUInt32, (node.counter >>> 32).toUInt32, node.length, node.flags.word]
  let s := (Nat.repeat step 7 (state, node.block)).1
  #v[s[0] ^^^ s[8], s[1] ^^^ s[9], s[2] ^^^ s[10], s[3] ^^^ s[11],
     s[4] ^^^ s[12], s[5] ^^^ s[13], s[6] ^^^ s[14], s[7] ^^^ s[15]]

/-! ### Chunks -/

/-- The words of at most 64 bytes, least significant byte first, filled up with zeros. -/
def blockWords (bytes : Bytes) : Block :=
  let words := (Bytes.blocks 4 bytes).map fun word => UInt32.ofNat (Bytes.toNatLE word)
  Vector.ofFn fun i => words.getD i 0

/-- The last node of a chunk whose blocks are given; `chain` is what was chained before them. -/
def chunkNode (counter : UInt64) (chain : Chain) (isFirst : Bool) : List Bytes → Node
  | [] => ⟨chain, blockWords [], counter, 0, ⟨isFirst, true, false, false⟩⟩
  | [block] =>
    ⟨chain, blockWords block, counter, UInt32.ofNat block.length, ⟨isFirst, true, false, false⟩⟩
  | block :: next :: rest =>
    let node : Node :=
      ⟨chain, blockWords block, counter, UInt32.ofNat block.length, ⟨isFirst, false, false, false⟩⟩
    chunkNode counter node.compress false (next :: rest)

/-! ### The tree -/

/-- The node above two parts. -/
def parentNode (left right : Chain) : Node :=
  ⟨initial, (left ++ right).cast (by decide), 0, 64, ⟨false, false, true, false⟩⟩

/-- The length of the left part of a message that has more than one chunk. -/
def leftLength (length : Nat) : Nat := 1024 * Nat.pow 2 ((length - 1) / 1024).log2

theorem leftLength_pos (length : Nat) : 0 < leftLength length :=
  Nat.mul_pos (by decide) (Nat.two_pow_pos _)

theorem leftLength_lt {length : Nat} (h : 1024 < length) : leftLength length < length := by
  have hpow : Nat.pow 2 ((length - 1) / 1024).log2 ≤ (length - 1) / 1024 :=
    Nat.log2_self_le (by omega)
  unfold leftLength
  omega

/-- The node of a message part whose first chunk has the given number. -/
def tree (counter : Nat) (message : Bytes) : Node :=
  if _h : message.length ≤ 1024 then
    chunkNode (UInt64.ofNat counter) initial true (Bytes.blocks 64 message)
  else
    let cut := leftLength message.length
    parentNode (tree counter (message.take cut)).compress
      (tree (counter + cut / 1024) (message.drop cut)).compress
termination_by message.length
decreasing_by
  · have : leftLength message.length < message.length := leftLength_lt (by omega)
    simp only [List.length_take]; omega
  · have := leftLength_pos message.length
    simp only [List.length_drop]; omega

/-! ### The hash -/

/-- The four bytes of a word, least significant first. -/
def wordBytes (word : UInt32) : Bytes := (Bytes.bigEndian32 word).reverse

/-- The bytes of a chaining value. -/
def chainBytes (chain : Chain) : FixedBytes 32 :=
  ⟨(wordBytes chain[0] ++ wordBytes chain[1] ++ wordBytes chain[2] ++ wordBytes chain[3] ++
    wordBytes chain[4] ++ wordBytes chain[5] ++ wordBytes chain[6] ++
    wordBytes chain[7]).toArray, rfl⟩

/-- The BLAKE3 digest of a message. -/
def hash (message : Bytes) : FixedBytes 32 :=
  let node := tree 0 message
  chainBytes (Node.compress { node with flags.root := true })

end Remit.Blake3
