import Remit.Proofs.Cli.Transfers
import Remit.Proofs.Wallet.Children
import Remit.Proofs.Wallet.Ranges

/-!
# Wallets of a seed on the command line

The command that lists the wallets of a seed prints one line for each, with its index. The index is
a word of 32 bits, but what is printed is counted on from the first one in words of 64. That the two
never disagree is what the lines of a range are about (`AreLines`).

* `run_seedOrFresh`: the seed of the command, given or fresh;
* `areLines_derived`: the lines of a range of wallets;
* `batches_exact`: what is derived and what is printed, for every count and every first index.
-/

namespace Remit.Cli

open Node

variable {S : Scheme} {φ κ : Type}

/-! ### The console -/

section Console

variable (disk : Handler FileSystem.files φ) (node : Node) (terminal : Handler console κ)
  (stored : φ) (session : Session) (shown : κ)

/-- **The seed of the command**, and what the console has shown by then: the seed that was given in
any spelling, or else a fresh one, which is shown. -/
inductive Seeded : Option String → Hierarchy → κ → Prop where
  | given {text : String} {h : Hierarchy} (htext : Hex.Denotes text h.seed) :
    Seeded (some text) h shown
  | fresh {h : Hierarchy} (hseed : h.seed = (terminal .freshSecret shown).1.toList) :
    Seeded none h
      (printed terminal
        (terminal
          (.remark "Generated a new seed. Back it up; it recreates every wallet below.")
          (terminal .freshSecret shown).2).2
        [s!"Seed: {h.seedText}"])

variable {terminal shown}

theorem run_seedOrFresh {seed : Option String} {h : Hierarchy} {told : κ}
    (hseed : Seeded terminal shown seed h told) :
    (seedOrFresh seed).run.run (surroundings disk node terminal) (stored, session, shown) =
      (.ok h, stored, session, told) := by
  cases hseed with
  | @given text h htext =>
    show ((Hierarchy.ofHex text).mapError _, _) = _
    rw [Hierarchy.ofHex_of_denotes htext]
    rfl
  | fresh hseed =>
    -- A hierarchy is its seed, so the fresh one is the one that is spoken of.
    obtain rfl := Hierarchy.ext_seed (b := ⟨_, by simp⟩) hseed
    rfl

end Console

/-! ### Lines -/

/-- The lines show so many indices in a row, from the given number on, each as this number and
beside the address of the wallet with the index, which is a word. -/
structure AreLines (S : Scheme) (h : Hierarchy) (count start : Nat) (lines : List String) :
    Prop where
  length_eq : lines.length = count
  exists_index : ∀ k < count, ∃ index : UInt32, index.toNat = start + k ∧
    lines[k]? = some (padLeft 6 (toString (start + k)) ++ "  " ++ (h.derive S index).address.text)

/-- The number of a line does not wrap around, even where the indices end. -/
theorem toNat_number {start : UInt32} {k : Nat} (hk : k < UInt32.size) :
    (start.toUInt64 + UInt64.ofNat k).toNat = start.toNat + k := by
  have hstart : start.toNat < UInt32.size := start.toNat_lt
  have hword : (UInt64.ofNat k).toNat = k :=
    UInt64.toNat_ofNat_of_lt' (Nat.lt_trans hk (by decide))
  have hsum : start.toNat + k < 2 ^ 64 := by
    have : UInt32.size + UInt32.size ≤ 2 ^ 64 := by decide
    omega
  rw [UInt64.toNat_add, UInt32.toNat_toUInt64, hword, Nat.mod_eq_of_lt hsum]

theorem areLines_derived {h : Hierarchy} {count start : UInt32} {wallets : List (Wallet S)}
    (hchildren : Hierarchy.AreChildren S h count.toNat start.toNat wallets) :
    AreLines S h count.toNat start.toNat (wallets.zipIdx.map fun (wallet, k) =>
      derivedLine S (start.toUInt64 + UInt64.ofNat k) wallet) where
  length_eq := by rw [List.length_map, List.length_zipIdx, hchildren.length_eq]
  exists_index k hk := by
    obtain ⟨index, hindex, hwallet⟩ := hchildren.exists_index k hk
    have hnumber : toString (start.toUInt64 + UInt64.ofNat k) = toString (start.toNat + k) :=
      congrArg toString (toNat_number (Nat.lt_trans hk count.toNat_lt))
    refine ⟨index, hindex, ?_⟩
    rw [List.getElem?_map, List.getElem?_zipIdx, hwallet, Nat.zero_add]
    show some (padLeft 6 (toString (start.toUInt64 + UInt64.ofNat k)) ++ _ ++ _) = _
    rw [hnumber]

section Command

variable {disk : Handler FileSystem.files φ} {node : Node} {terminal : Handler console κ}
  {stored : φ} {session : Session} {shown told : κ} {seed : Option String} {h : Hierarchy}
  {count start : UInt32}

theorem run_printDerived_of_ok {wallets : List (Wallet S)}
    (hseed : Seeded terminal shown seed h told)
    (hwallets : h.deriveMany S count start = .ok wallets) :
    (printDerived S seed count start).run.run (surroundings disk node terminal)
        (stored, session, shown) =
      (.ok (), stored, session, printed terminal told (wallets.zipIdx.map fun (wallet, k) =>
        derivedLine S (start.toUInt64 + UInt64.ofNat k) wallet)) := by
  unfold printDerived
  rw [Task.run_run_bind_of_ok (run_seedOrFresh disk node stored session hseed), hwallets]
  exact run_printAll disk node terminal stored session told _

theorem run_printDerived_of_error {e : Error} (hseed : Seeded terminal shown seed h told)
    (he : h.deriveMany S count start = .error e) :
    (printDerived S seed count start).run.run (surroundings disk node terminal)
        (stored, session, shown) =
      (.error (.ofError e), stored, session, told) := by
  unfold printDerived
  rw [Task.run_run_bind_of_ok (run_seedOrFresh disk node stored session hseed), he]
  rfl

end Command

/-- **Batches are exactly the range that is asked for**, up to the last of all indices. So many
wallets from an index on are derived if and only if none of them lies beyond the last index, and
otherwise nothing is; they are the wallets with these indices, in order. A range may be cut anywhere
into two that are not empty, and the two batches one behind the other are the batch of the whole.
On the command line, each wallet is printed beside its index, as a number that does not wrap around;
a range that ends beyond the last index prints no wallet at all. -/
theorem batches_exact (S : Scheme) :
    (∀ (h : Hierarchy) (count start : UInt32),
      ((∃ wallets, h.deriveMany S count start = .ok wallets) ↔
        count = 0 ∨ start.toNat + count.toNat ≤ 2 ^ 32) ∧
      (∀ e, h.deriveMany S count start = .error e → ∃ reason, e = .validation reason) ∧
      (∀ wallets, h.deriveMany S count start = .ok wallets ↔
        Hierarchy.AreChildren S h count.toNat start.toNat wallets) ∧
      ∀ cut wallets, 0 < cut → cut < count →
        (h.deriveMany S count start = .ok wallets ↔
          start.toNat + cut.toNat < 2 ^ 32 ∧
          ∃ front back, h.deriveMany S cut start = .ok front ∧
            h.deriveMany S (count - cut) (start + cut) = .ok back ∧ front ++ back = wallets)) ∧
    ∀ {φ κ : Type} (disk : Handler FileSystem.files φ) (node : Node) (terminal : Handler console κ)
      (stored : φ) (session : Session) (shown told : κ) (seed : Option String) (h : Hierarchy),
      Seeded terminal shown seed h told → ∀ config keystore (count start : UInt32),
        let run := (runCommand S config keystore (.hdDerive seed count start)).run.run
          (surroundings disk node terminal) (stored, session, shown)
        (count = 0 ∨ start.toNat + count.toNat ≤ 2 ^ 32 →
          ∃ lines, AreLines S h count.toNat start.toNat lines ∧
            run = (.ok (), stored, session, printed terminal told lines)) ∧
        (¬ (count = 0 ∨ start.toNat + count.toNat ≤ 2 ^ 32) →
          ∃ reason, run = (.error (.ofError (.validation reason)), stored, session, told)) := by
  constructor
  · intro h count start
    refine ⟨Hierarchy.deriveMany_eq_ok_iff, fun e he => ?_,
      fun wallets => Hierarchy.deriveMany_eq_ok_iff_areChildren,
      fun cut wallets _ hcut => Hierarchy.deriveMany_eq_ok_iff_cut hcut⟩
    exact ⟨_, Hierarchy.deriveMany_eq_error he⟩
  · intro φ κ disk node terminal stored session shown told seed h hseed config keystore count start
      run
    constructor
    · intro hfits
      obtain ⟨wallets, hwallets⟩ := Hierarchy.deriveMany_eq_ok_iff.2 hfits
      have hchildren := Hierarchy.deriveMany_eq_ok_iff_areChildren.1 hwallets
      have hrun : run = _ := run_printDerived_of_ok hseed hwallets
      exact ⟨_, areLines_derived hchildren, hrun⟩
    · intro hpast
      cases he : h.deriveMany S count start with
      | ok wallets => exact absurd (Hierarchy.deriveMany_eq_ok_iff.1 ⟨wallets, he⟩) hpast
      | error e =>
        have hrun : run = _ := run_printDerived_of_error hseed he
        obtain rfl := Hierarchy.deriveMany_eq_error he
        exact ⟨_, hrun⟩

/-- A console that keeps what is printed, and always has the same fresh secret. -/
def keptLines : Handler console (List String)
  | .print line, lines => ((), lines ++ [line])
  | .remark _, lines => ((), lines)
  | .freshSecret, lines => (Vector.replicate 32 0xab, lines)

theorem printed_keptLines (shown lines : List String) :
    printed keptLines shown lines = shown ++ lines := by
  induction lines generalizing shown with
  | nil => exact (List.append_nil shown).symm
  | cons line rest ih =>
    show printed keptLines (shown ++ [line]) rest = _
    rw [ih, List.append_assoc, List.singleton_append]

/-- The last two wallets of a seed are a batch of their own and the end of the batch of the last
three; the line of the very last one shows the last index. With one index more, a fresh seed is
shown, but no wallet. -/
theorem batches_exact_last :
    let S := Wallet.sampleScheme
    let derive (seed count start) :=
      (runCommand S hastyConfig ⟨⟨[]⟩⟩ (.hdDerive seed count start)).run.run
        (surroundings (copiesOf "") silentNode keptLines) ((), {}, [])
    (∃ front back, Hierarchy.shortSeed.deriveMany S 1 4294967293 = .ok front ∧
      Hierarchy.shortSeed.deriveMany S 2 4294967294 = .ok back ∧
      Hierarchy.shortSeed.deriveMany S 3 4294967293 = .ok (front ++ back)) ∧
    (∃ lines : List String, lines[2]? =
        some ("4294967295  " ++ (Hierarchy.shortSeed.derive S 4294967295).address.text) ∧
      derive (some Hierarchy.shortSeed.seedText) 3 4294967293 = (.ok (), (), {}, lines)) ∧
    ∃ reason, derive none 4 4294967293 = (.error (.ofError (.validation reason)), (), {},
      [s!"Seed: {Hierarchy.shortSeed.seedText}"]) := by
  intro S derive
  obtain ⟨hbatches, hlines⟩ := batches_exact S
  refine ⟨?_, ?_, ?_⟩
  · obtain ⟨hfits, -, -, hcut⟩ := hbatches Hierarchy.shortSeed 3 4294967293
    obtain ⟨wallets, hwallets⟩ := hfits.2 (.inr (by decide))
    obtain ⟨-, front, back, hfront, hback, rfl⟩ :=
      (hcut 1 wallets (by decide) (by decide)).1 hwallets
    exact ⟨front, back, hfront, hback, hwallets⟩
  · have hseed : Seeded keptLines [] (some Hierarchy.shortSeed.seedText) Hierarchy.shortSeed [] :=
      .given (Hex.decode_eq_ok_iff.1 (Hex.decode_encode _))
    obtain ⟨lines, hall, hrun⟩ := (hlines (copiesOf "") silentNode keptLines () {} [] [] _ _ hseed
      hastyConfig ⟨⟨[]⟩⟩ 3 4294967293).1 (.inr (by decide))
    obtain ⟨index, hindex, hline⟩ := hall.exists_index 2 (by decide)
    obtain rfl : index = 4294967295 := UInt32.toNat_inj.1 hindex
    have hnumber : padLeft 6 (toString (UInt32.toNat 4294967293 + 2)) = "4294967295" := by
      decide +kernel
    rw [hnumber] at hline
    rw [printed_keptLines, List.nil_append] at hrun
    exact ⟨lines, hline, hrun⟩
  · have hseed : Seeded keptLines [] none Hierarchy.shortSeed _ := .fresh rfl
    exact (hlines (copiesOf "") silentNode keptLines () {} [] _ _ _ hseed hastyConfig ⟨⟨[]⟩⟩ 4
      4294967293).2 (by decide)

end Remit.Cli
