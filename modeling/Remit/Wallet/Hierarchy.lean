import Remit.Wallet.Basic

/-!
# Many wallets from one seed

A seed of at least 32 bytes stands for as many wallets as there are words of 32 bits. The secret
key of each is the digest of the seed followed by its index, most significant byte first, so every
wallet can be made again from the seed and none has to be stored.

## Main statements

* `Hierarchy.deriveMany_eq_ok_iff`: a range of indices is refused only if it runs past the last.
* `Hierarchy.deriveMany_eq`: the wallets of a range, without words that could wrap around.
-/

namespace Remit

/-- A seed that is long enough. -/
structure Hierarchy where
  seed : Bytes
  minimum_le : 32 ≤ seed.length

namespace Hierarchy

/-- The length of the shortest seed. -/
def minimum : Nat := 32

/-- Takes bytes as a seed if they are enough. -/
def ofSeed (seed : Bytes) : Except Error Hierarchy :=
  if h : 32 ≤ seed.length then .ok ⟨seed, h⟩ else .error (.seedTooShort minimum seed.length)

/-- Reads any hexadecimal spelling of a seed. -/
def ofHex (text : String) : Except Error Hierarchy :=
  match Hex.decode text with
  | .ok seed => ofSeed seed
  | .error cause => .error (.ofHex cause)

/-- The seed as lowercase digits. -/
def seedText (h : Hierarchy) : String := Hex.encode h.seed

/-- The length of the seed, for a log; the seed itself is never shown. -/
def description (h : Hierarchy) : String := s!"HdWallet(seed=<{h.seed.length} bytes>)"

/-- What is hashed for the wallet with the given index. -/
def childInput (h : Hierarchy) (index : UInt32) : Bytes := h.seed ++ Bytes.bigEndian32 index

/-- The wallet with the given index. -/
def derive (S : Scheme) (h : Hierarchy) (index : UInt32) : Wallet S :=
  Wallet.ofSecret S (S.hash (h.childInput index))

/-- A range of indices runs past the last word. -/
def pastLastIndex (count start : UInt32) : Error :=
  .validation s!"derivation range {start}+{count} exceeds the u32 index space"

/-- The last of so many indices from the first one on, if there is such a word; there has to be at
least one of them. The sum has wrapped around if it is less than where it started. -/
def lastIndex? (count start : UInt32) : Option UInt32 :=
  let last := start + (count - 1)
  if last < start then none else some last

/-- The indices from the first to the last, both included. The last one is met before the next is
made, so nothing is added to the last of all words. -/
def indices (first last : UInt32) : List UInt32 :=
  if first < last then first :: indices (first + 1) last
  else if first = last then [first]
  else []
termination_by last.toNat - first.toNat
decreasing_by
  have hlt := UInt32.lt_iff_toNat_lt.1 ‹first < last›
  have hlast := last.toNat_lt
  rw [UInt32.toNat_add, UInt32.toNat_one]
  omega

/-- The wallets with the given number of indices from the first one on. -/
def deriveMany (S : Scheme) (h : Hierarchy) (count start : UInt32) :
    Except Error (List (Wallet S)) :=
  if count = 0 then .ok []
  else
    match lastIndex? count start with
    | some last => .ok ((indices start last).map (h.derive S))
    | none => .error (pastLastIndex count start)

/-! ### The same without words -/

theorem lastIndex?_eq_some_iff {count start last : UInt32} (hcount : count ≠ 0) :
    lastIndex? count start = some last ↔ last.toNat + 1 = start.toNat + count.toNat := by
  have hpos : 1 ≤ count.toNat :=
    Nat.one_le_iff_ne_zero.2 fun hzero => hcount (UInt32.toNat_inj.1 hzero)
  have hmore : (count - 1).toNat = count.toNat - 1 :=
    UInt32.toNat_sub_of_le _ _ (UInt32.le_iff_toNat_le.2 hpos)
  have hsum : (start + (count - 1)).toNat = (start.toNat + (count.toNat - 1)) % 2 ^ 32 := by
    rw [UInt32.toNat_add, hmore]
  have hstart := start.toNat_lt
  have hsize := count.toNat_lt
  have hlast := last.toNat_lt
  unfold lastIndex?
  dsimp only
  by_cases hwrap : start + (count - 1) < start
  · -- The sum has wrapped around, so the true one is no word.
    have hless := UInt32.lt_iff_toNat_lt.1 hwrap
    rw [if_pos hwrap]
    simp only [reduceCtorEq, false_iff]
    omega
  · have hless : ¬ (start + (count - 1)).toNat < start.toNat :=
      fun h => hwrap (UInt32.lt_iff_toNat_lt.2 h)
    rw [if_neg hwrap, Option.some.injEq, ← UInt32.toNat_inj]
    omega

theorem lastIndex?_eq_none_iff {count start : UInt32} (hcount : count ≠ 0) :
    lastIndex? count start = none ↔ UInt32.size < start.toNat + count.toNat := by
  have hpos : count.toNat ≠ 0 := fun hzero => hcount (UInt32.toNat_inj.1 hzero)
  rw [Option.eq_none_iff_forall_ne_some]
  simp only [ne_eq, lastIndex?_eq_some_iff hcount]
  constructor
  · intro h
    by_cases hsize : start.toNat + count.toNat ≤ UInt32.size
    · have hword : (UInt32.ofNat (start.toNat + count.toNat - 1)).toNat =
          start.toNat + count.toNat - 1 := UInt32.toNat_ofNat_of_lt' (by omega)
      exact absurd (by omega) (h (UInt32.ofNat (start.toNat + count.toNat - 1)))
    · omega
  · intro h last hlast
    have hlt : last.toNat < UInt32.size := last.toNat_lt
    omega

/-- The indices are numbers in a row. -/
theorem indices_eq_map_range' (first last : UInt32) :
    indices first last =
      (List.range' first.toNat (last.toNat + 1 - first.toNat)).map UInt32.ofNat := by
  fun_induction indices first last with
  | case1 first hlt ih =>
    have hless := UInt32.lt_iff_toNat_lt.1 hlt
    have hlast := last.toNat_lt
    have hnext : (first + 1).toNat = first.toNat + 1 := by
      rw [UInt32.toNat_add, UInt32.toNat_one]
      omega
    have hcount : last.toNat + 1 - first.toNat = last.toNat + 1 - (first.toNat + 1) + 1 := by
      omega
    rw [ih, hnext, hcount, List.range'_succ, List.map_cons, UInt32.ofNat_toNat]
  | case2 =>
    rw [Nat.add_sub_cancel_left, List.range'_one, List.map_singleton, UInt32.ofNat_toNat]
  | case3 first hlt hne =>
    have hless : ¬ first.toNat < last.toNat := fun h => hlt (UInt32.lt_iff_toNat_lt.2 h)
    have hother : first.toNat ≠ last.toNat := fun h => hne (UInt32.toNat_inj.1 h)
    have hcount : last.toNat + 1 - first.toNat = 0 := by omega
    rw [hcount, List.range'_zero, List.map_nil]

/-- The wallets of a range, told with numbers that have no bound. -/
theorem deriveMany_eq (S : Scheme) (h : Hierarchy) (count start : UInt32) :
    h.deriveMany S count start =
      if count = 0 ∨ start.toNat + count.toNat ≤ UInt32.size then
        .ok ((List.range' start.toNat count.toNat).map fun i => h.derive S (UInt32.ofNat i))
      else .error (pastLastIndex count start) := by
  unfold deriveMany
  by_cases hcount : count = 0
  · rw [if_pos hcount, if_pos (.inl hcount), hcount, UInt32.toNat_zero, List.range'_zero,
      List.map_nil]
  · rw [if_neg hcount]
    cases hlast : lastIndex? count start with
    | some last =>
      rw [lastIndex?_eq_some_iff hcount] at hlast
      have hlt : last.toNat < UInt32.size := last.toNat_lt
      have hlength : last.toNat + 1 - start.toNat = count.toNat := by omega
      rw [if_pos (.inr (by omega))]
      dsimp only
      rw [indices_eq_map_range', hlength, List.map_map]
      rfl
    | none =>
      rw [lastIndex?_eq_none_iff hcount] at hlast
      rw [if_neg (not_or.2 ⟨hcount, by omega⟩)]

theorem deriveMany_eq_ok_iff {S : Scheme} {h : Hierarchy} {count start : UInt32} :
    (∃ wallets, h.deriveMany S count start = .ok wallets) ↔
      count = 0 ∨ start.toNat + count.toNat ≤ UInt32.size := by
  rw [deriveMany_eq]
  by_cases hfits : count = 0 ∨ start.toNat + count.toNat ≤ UInt32.size
  · rw [if_pos hfits]
    exact ⟨fun _ => hfits, fun _ => ⟨_, rfl⟩⟩
  · rw [if_neg hfits]
    simp only [reduceCtorEq, exists_false, hfits]

end Hierarchy

end Remit
