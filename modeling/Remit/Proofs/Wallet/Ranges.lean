import Remit.Wallet.Hierarchy

/-!
# The wallets of a range of indices

A range is asked for by a count and a first index, both of them words, while the end of the range
need not be one: the range that ends with the last of all words has an end that is none. So ranges
are told here with numbers, and each wallet comes with the word that its index is (`AreChildren`).

* `deriveMany_eq_ok_iff_areChildren`: a range is derived if and only if it is one of words, as the
  wallets of these words in their order;
* `areChildren_append_iff`: where a range may be cut;
* `deriveMany_eq_ok_iff_cut`: what this means for what is asked for.
-/

namespace Remit.Hierarchy

/-- The wallets have so many indices in a row, from the given number on, all of which are words. -/
structure AreChildren (S : Scheme) (h : Hierarchy) (count start : Nat)
    (wallets : List (Wallet S)) : Prop where
  length_eq : wallets.length = count
  exists_index : ∀ k < count, ∃ index : UInt32, index.toNat = start + k ∧
    wallets[k]? = some (h.derive S index)

variable {S : Scheme} {h : Hierarchy}

namespace AreChildren

variable {count start : Nat} {wallets others : List (Wallet S)}

theorem fits (hchildren : AreChildren S h count start wallets) :
    count = 0 ∨ start + count ≤ UInt32.size := by
  by_cases hcount : count = 0
  · exact .inl hcount
  · -- The last index is a word.
    obtain ⟨index, hindex, -⟩ := hchildren.exists_index (count - 1) (by omega)
    have hlt : index.toNat < UInt32.size := index.toNat_lt
    right
    omega

theorem unique (hchildren : AreChildren S h count start wallets)
    (hothers : AreChildren S h count start others) : wallets = others := by
  apply List.ext_getElem?
  intro k
  by_cases hk : k < count
  · obtain ⟨index, hindex, hwallet⟩ := hchildren.exists_index k hk
    obtain ⟨index', hindex', hother⟩ := hothers.exists_index k hk
    have hsame : index = index' := UInt32.toNat_inj.1 (hindex.trans hindex'.symm)
    rw [hwallet, hother, hsame]
  · rw [List.getElem?_eq_none (by rw [hchildren.length_eq]; omega),
      List.getElem?_eq_none (by rw [hothers.length_eq]; omega)]

theorem map_range' (hfits : count = 0 ∨ start + count ≤ UInt32.size) :
    AreChildren S h count start
      ((List.range' start count).map fun i => h.derive S (UInt32.ofNat i)) where
  length_eq := by rw [List.length_map, List.length_range']
  exists_index k hk := by
    have hword : start + k < UInt32.size := by omega
    refine ⟨UInt32.ofNat (start + k), UInt32.toNat_ofNat_of_lt' hword, ?_⟩
    rw [List.getElem?_map, List.getElem?_range' hk, Nat.one_mul, Option.map_some]

end AreChildren

/-- **Two ranges, of which the second begins where the first ends, are one range.** -/
theorem areChildren_append_iff {front back : List (Wallet S)} {count more start : Nat}
    (hfront : front.length = count) :
    AreChildren S h (count + more) start (front ++ back) ↔
      AreChildren S h count start front ∧ AreChildren S h more (start + count) back := by
  constructor
  · intro hwhole
    refine ⟨⟨hfront, fun k hk => ?_⟩, ⟨?_, fun k hk => ?_⟩⟩
    · obtain ⟨index, hindex, hwallet⟩ := hwhole.exists_index k (by omega)
      rw [List.getElem?_append_left (by omega)] at hwallet
      exact ⟨index, hindex, hwallet⟩
    · have hlength := hwhole.length_eq
      rw [List.length_append] at hlength
      omega
    · obtain ⟨index, hindex, hwallet⟩ := hwhole.exists_index (count + k) (by omega)
      rw [List.getElem?_append_right (by omega), hfront, Nat.add_sub_cancel_left] at hwallet
      exact ⟨index, by omega, hwallet⟩
  · rintro ⟨hfirst, hsecond⟩
    refine ⟨by rw [List.length_append, hfirst.length_eq, hsecond.length_eq], fun k hk => ?_⟩
    by_cases hcut : k < count
    · obtain ⟨index, hindex, hwallet⟩ := hfirst.exists_index k hcut
      exact ⟨index, hindex, by rw [List.getElem?_append_left (by omega), hwallet]⟩
    · obtain ⟨index, hindex, hwallet⟩ := hsecond.exists_index (k - count) (by omega)
      refine ⟨index, by omega, ?_⟩
      rw [List.getElem?_append_right (by omega), hfront, hwallet]

/-! ### What is asked for -/

variable {count start cut : UInt32} {wallets : List (Wallet S)}

/-- **A range is derived exactly if all its indices are words**, as the wallets with these
indices. -/
theorem deriveMany_eq_ok_iff_areChildren :
    h.deriveMany S count start = .ok wallets ↔
      AreChildren S h count.toNat start.toNat wallets := by
  have hzero : count = 0 ↔ count.toNat = 0 := UInt32.toNat_inj.symm
  rw [deriveMany_eq]
  by_cases hfits : count = 0 ∨ start.toNat + count.toNat ≤ UInt32.size
  · have hrange := AreChildren.map_range' (S := S) (h := h) (hfits.imp_left hzero.1)
    rw [if_pos hfits, Except.ok.injEq]
    constructor
    · rintro rfl
      exact hrange
    · exact hrange.unique
  · rw [if_neg hfits]
    refine iff_of_false (by simp) fun hchildren => hfits ?_
    exact hchildren.fits.imp_left hzero.2

theorem deriveMany_eq_error {e : Error} (herror : h.deriveMany S count start = .error e) :
    e = pastLastIndex count start := by
  rw [deriveMany_eq] at herror
  split at herror
  · cases herror
  · exact (Except.error.inj herror).symm

/-- **A range may be cut anywhere** as long as the second part is not empty, and so begins with a
word. If it does, the two parts are derived exactly if the whole is. -/
theorem deriveMany_eq_ok_iff_cut (hcut : cut < count) :
    h.deriveMany S count start = .ok wallets ↔
      start.toNat + cut.toNat < UInt32.size ∧
      ∃ front back, h.deriveMany S cut start = .ok front ∧
        h.deriveMany S (count - cut) (start + cut) = .ok back ∧ front ++ back = wallets := by
  have hless := UInt32.lt_iff_toNat_lt.1 hcut
  have hrest : (count - cut).toNat = count.toNat - cut.toNat :=
    UInt32.toNat_sub_of_le _ _ (UInt32.le_iff_toNat_le.2 (Nat.le_of_lt hless))
  have hcount : count.toNat = cut.toNat + (count - cut).toNat := by omega
  simp only [deriveMany_eq_ok_iff_areChildren]
  constructor
  · intro hwhole
    have hword : start.toNat + cut.toNat < UInt32.size := by
      obtain ⟨index, hindex, -⟩ := hwhole.exists_index cut.toNat hless
      rw [← hindex]
      exact index.toNat_lt
    have hnext : (start + cut).toNat = start.toNat + cut.toNat := by
      rw [UInt32.toNat_add, Nat.mod_eq_of_lt hword]
    have hlength : (wallets.take cut.toNat).length = cut.toNat := by
      rw [List.length_take, hwhole.length_eq]
      omega
    rw [hcount, ← List.take_append_drop cut.toNat wallets,
      areChildren_append_iff hlength, ← hnext] at hwhole
    exact ⟨hword, _, _, hwhole.1, hwhole.2, List.take_append_drop _ _⟩
  · rintro ⟨hword, front, back, hfront, hback, rfl⟩
    have hnext : (start + cut).toNat = start.toNat + cut.toNat := by
      rw [UInt32.toNat_add, Nat.mod_eq_of_lt hword]
    rw [hnext] at hback
    rw [hcount, areChildren_append_iff hfront.length_eq]
    exact ⟨hfront, hback⟩

/-- The last two of all indices are those of a range, and there is none after them. -/
example : indices 4294967294 4294967295 = [4294967294, 4294967295] ∧
    lastIndex? 3 4294967294 = none := by
  rw [indices_eq_map_range']
  decide

end Remit.Hierarchy
