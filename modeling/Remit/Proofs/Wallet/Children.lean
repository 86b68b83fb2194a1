import Remit.Proofs.Wallet.Signing
import Remit.Wallet.Hierarchy

/-!
# The wallets of a seed are kept apart

The secret key of a child is the digest of the seed with the index behind it, and nothing marks
where the one ends and the other begins. What is hashed is still different for every seed and every
index, since the index always takes the last four bytes, whatever the length of the seed. So two
children have the same key only if two different messages have the same digest.

* `childInput_inj`: seed and index can be told from what is hashed;
* `ofHex_of_map_toLower`: a seed that was written down is read back, in capitals too and behind a
  mark;
* `children_apart`: what this means for the wallets.
-/

namespace Remit

/-- Two different messages have the same digest. -/
def Scheme.Collides (S : Scheme) (a b : Bytes) : Prop := a ≠ b ∧ S.hash a = S.hash b

namespace Hierarchy

theorem ext_seed {a b : Hierarchy} (h : a.seed = b.seed) : a = b := by
  cases a
  cases b
  obtain rfl := h
  rfl

theorem ofSeed_eq_ok_iff {seed : Bytes} {h : Hierarchy} : ofSeed seed = .ok h ↔ h.seed = seed := by
  unfold ofSeed
  constructor
  · intro hseed
    split at hseed
    · rw [← Except.ok.inj hseed]
    · cases hseed
  · rintro rfl
    exact dif_pos h.minimum_le

/-- **Seed and index can be told from what is hashed.** Neither marks its end, but the index has
four bytes whatever the seed is. -/
theorem childInput_inj {h h' : Hierarchy} {index index' : UInt32} :
    h.childInput index = h'.childInput index' ↔ h = h' ∧ index = index' := by
  constructor
  · intro hinput
    have hlength : (Bytes.bigEndian32 index).length = (Bytes.bigEndian32 index').length := by
      rw [Bytes.length_bigEndian32, Bytes.length_bigEndian32]
    obtain ⟨hseed, hindex⟩ := List.append_inj' hinput hlength
    exact ⟨ext_seed hseed, Bytes.bigEndian32_injective hindex⟩
  · rintro ⟨rfl, rfl⟩
    rfl

theorem ofHex_of_denotes {h : Hierarchy} {text : String} (htext : Hex.Denotes text h.seed) :
    ofHex text = .ok h := by
  have hdecode : Hex.decode text = .ok h.seed := Hex.decode_eq_ok_iff.2 htext
  unfold ofHex
  rw [hdecode]
  exact ofSeed_eq_ok_iff.2 rfl

theorem ofHex_of_map_toLower {h : Hierarchy} {text : String} {digits : List Char}
    (htext : Hex.HasDigits text digits) (hdigits : digits.map Char.toLower = h.seedText.toList) :
    ofHex text = .ok h := by
  rw [seedText, Hex.toList_encode] at hdigits
  exact ofHex_of_denotes ⟨digits, htext, Hex.spells_iff_map_toLower.2 hdigits⟩

/-- **Children are kept apart.** Of any two seeds that are accepted, of whatever lengths, and any
two indices, the same bytes are hashed only if both agree. If they do not, and the secret keys are
the same nevertheless, then the digest has a collision. And a seed that is written as hexadecimal
text gives the same children again, whether or not the text has a mark and in whatever case its
digits are. -/
theorem children_apart (S : Scheme) :
    (∀ (seed seed' : Bytes) (h h' : Hierarchy), ofSeed seed = .ok h → ofSeed seed' = .ok h' →
      ∀ index index' : UInt32,
        (h.childInput index = h'.childInput index' ↔ seed = seed' ∧ index = index') ∧
        ((h.derive S index).keys.secret = (h'.derive S index').keys.secret →
          (seed = seed' ∧ index = index') ∨
            S.Collides (h.childInput index) (h'.childInput index'))) ∧
    ∀ (h : Hierarchy) (text : String) (digits : List Char), Hex.HasDigits text digits →
      digits.map Char.toLower = h.seedText.toList →
      ∃ h', ofHex text = .ok h' ∧ ∀ index, h'.derive S index = h.derive S index := by
  constructor
  · intro seed seed' h h' hseed hseed' index index'
    obtain rfl := ofSeed_eq_ok_iff.1 hseed
    obtain rfl := ofSeed_eq_ok_iff.1 hseed'
    have hinput : h.childInput index = h'.childInput index' ↔
        h.seed = h'.seed ∧ index = index' := by
      rw [childInput_inj]
      constructor
      · rintro ⟨rfl, hindex⟩
        exact ⟨rfl, hindex⟩
      · rintro ⟨hsame, hindex⟩
        exact ⟨ext_seed hsame, hindex⟩
    refine ⟨hinput, fun hsecret => ?_⟩
    by_cases hsame : h.childInput index = h'.childInput index'
    · exact .inl (hinput.1 hsame)
    · exact .inr ⟨hsame, hsecret⟩
  · intro h text digits htext hdigits
    exact ⟨h, ofHex_of_map_toLower htext hdigits, fun index => rfl⟩

/-- A seed of 32 bytes. -/
def shortSeed : Hierarchy := ⟨List.replicate 32 0xab, by decide⟩

/-- A seed that is the shorter one with the bytes of an index behind it. -/
def longSeed : Hierarchy := ⟨List.replicate 36 0xab, by decide⟩

/-- What is hashed for one seed can be the other seed itself, but never what is hashed for that one.
The digest of this scheme is always the same, so the keys are too. -/
theorem children_apart_nested :
    let S := Wallet.sampleScheme
    shortSeed.childInput 0xabababab = longSeed.seed ∧
    (shortSeed.derive S 0xabababab).keys.secret = (longSeed.derive S 0).keys.secret ∧
    S.Collides (shortSeed.childInput 0xabababab) (longSeed.childInput 0) ∧
    ∃ h, ofHex "0XababababababababababababababababABABABABABABABABABABABABABABABAB" = .ok h ∧
      ∀ index, h.derive S index = shortSeed.derive S index := by
  intro S
  have hapart := children_apart S
  have hsecret : (shortSeed.derive S 0xabababab).keys.secret = (longSeed.derive S 0).keys.secret :=
    rfl
  have hcollides := (hapart.1 _ _ shortSeed longSeed (ofSeed_eq_ok_iff.2 rfl)
    (ofSeed_eq_ok_iff.2 rfl) 0xabababab 0).2 hsecret
  refine ⟨by decide, hsecret, hcollides.resolve_left (by decide), ?_⟩
  have hdigits : Hex.HasDigits "0XababababababababababababababababABABABABABABABABABABABABABABABAB"
      "ababababababababababababababababABABABABABABABABABABABABABABABAB".toList :=
    .inr (.inr (by decide))
  exact hapart.2 shortSeed _ _ hdigits (by decide)

end Hierarchy

end Remit
