import Remit.Proofs.Wallet.Messages

/-!
# Policies only restrict

A policy is asked last, so what it says is heard only of a transfer that would be accepted without
it (`check_some_of_ok`, `check_some_of_error`). What it asks is a bound for each of fee, amount and
age (`Policy.check_eq_ok_iff`), and a policy with narrower bounds asks more (`Policy.Tightens`).

The clock is read for the age alone. A transfer gets older and never younger, so acceptance may turn
into rejection as time passes, and a transfer that has expired stays expired, with its age going on
(`Policy.check_eq_expired_iff`).

* `SignedTransfer.policies_only_restrict`: what this means for the check of a transfer.
-/

namespace Remit

/-! ### The bounds of a policy -/

/-- The policy `q` is at least as strict as `p`: each of its bounds is the same or narrower, and
where `p` bounds the age, `q` does too. -/
structure Policy.Tightens (q p : Policy) : Prop where
  minFee : p.minFee.wei ≤ q.minFee.wei
  maxAmount : q.maxAmount.wei ≤ p.maxAmount.wei
  maxAgeMs : ∀ limit ∈ p.maxAgeMs, ∃ narrower ∈ q.maxAgeMs, narrower ≤ limit

namespace Policy

variable {policy : Policy} {amount fee : Amount} {timestamp now : UInt64}

theorem check_eq_ok_iff :
    policy.check amount fee timestamp now = .ok () ↔
      policy.minFee.wei ≤ fee.wei ∧ amount.wei ≤ policy.maxAmount.wei ∧
        ∀ limit ∈ policy.maxAgeMs, now.toNat ≤ timestamp.toNat + limit.toNat := by
  rw [(policy.judges_check amount fee timestamp now).eq_ok_iff]
  cases h : policy.maxAgeMs with
  | none => simp [rules, h]
  | some limit => simp [rules, h]

/-- A policy that is less strict accepts what is accepted, and accepts it earlier too. -/
theorem Tightens.check_eq_ok {q p : Policy} (h : q.Tightens p) {earlier : UInt64}
    (hnow : earlier ≤ now) (hq : q.check amount fee timestamp now = .ok ()) :
    p.check amount fee timestamp earlier = .ok () := by
  rw [check_eq_ok_iff] at hq ⊢
  obtain ⟨hfee, hamount, hage⟩ := hq
  refine ⟨Nat.le_trans h.minFee hfee, Nat.le_trans hamount h.maxAmount, ?_⟩
  intro limit hlimit
  obtain ⟨narrower, hnarrower, hle⟩ := h.maxAgeMs limit hlimit
  have hyoung := hage narrower hnarrower
  have hbefore : earlier.toNat ≤ now.toNat := UInt64.le_iff_toNat_le.1 hnow
  have hwider : narrower.toNat ≤ limit.toNat := UInt64.le_iff_toNat_le.1 hle
  omega

/-- A policy says that a transfer has expired if its fee and its amount are right, and it is older
than it may be. -/
theorem check_eq_expired_iff {ageMs limit : UInt64} :
    policy.check amount fee timestamp now = .error (.expired ageMs limit) ↔
      policy.minFee.wei ≤ fee.wei ∧ amount.wei ≤ policy.maxAmount.wei ∧
        policy.maxAgeMs = some limit ∧ ageMs.toNat = now.toNat - timestamp.toNat ∧
        limit.toNat < ageMs.toNat := by
  unfold check
  by_cases hfee : fee.wei < policy.minFee.wei
  · simp [hfee]
  by_cases hamount : amount.wei > policy.maxAmount.wei
  · simp [hfee, hamount]
  rw [if_neg hfee, if_neg hamount, ← toNat_age, UInt64.toNat_inj, ← UInt64.lt_iff_toNat_lt]
  have hfee' : policy.minFee.wei ≤ fee.wei := Nat.le_of_not_lt hfee
  have hamount' : amount.wei ≤ policy.maxAmount.wei := Nat.le_of_not_lt hamount
  cases policy.maxAgeMs with
  | none => simp
  | some bound =>
    by_cases hold : bound < age now timestamp
    · simp only [if_pos hold, Except.error.injEq, Rejection.expired.injEq, Option.some.injEq]
      constructor
      · rintro ⟨rfl, rfl⟩
        exact ⟨hfee', hamount', rfl, rfl, hold⟩
      · rintro ⟨-, -, rfl, rfl, -⟩
        exact ⟨rfl, rfl⟩
    · simp only [if_neg hold, reduceCtorEq, Option.some.injEq, false_iff]
      rintro ⟨-, -, rfl, rfl, hlt⟩
      exact hold hlt

/-- What has expired stays expired, and gets older with the clock. -/
theorem exists_check_eq_expired {ageMs limit later : UInt64} (hnow : now ≤ later)
    (h : policy.check amount fee timestamp now = .error (.expired ageMs limit)) :
    ∃ older : UInt64, older.toNat = ageMs.toNat + (later.toNat - now.toNat) ∧
      policy.check amount fee timestamp later = .error (.expired older limit) := by
  obtain ⟨hfee, hamount, hlimit, hage, hold⟩ := check_eq_expired_iff.1 h
  have hlater : now.toNat ≤ later.toNat := UInt64.le_iff_toNat_le.1 hnow
  have holder := toNat_age later timestamp
  refine ⟨age later timestamp, by omega, ?_⟩
  exact check_eq_expired_iff.2 ⟨hfee, hamount, hlimit, holder, by omega⟩

/-- Where the age is not bounded, the clock is not looked at. -/
theorem check_eq_of_maxAgeMs_eq_none (h : policy.maxAgeMs = none) (other : UInt64) :
    policy.check amount fee timestamp now = policy.check amount fee timestamp other := by
  unfold check
  rw [h]

end Policy

/-! ### The check of a transfer -/

theorem Judges.exists_rejection {rules : List Rule} {rejection : Rejection}
    (h : Judges rules (.error rejection)) : ∃ rule ∈ rules, rule.rejection = rejection := by
  obtain ⟨before, rule, after, rfl, -, -, hrejection⟩ := (h.eq_error_iff rejection).1 rfl
  exact ⟨rule, by simp, hrejection⟩

namespace SignedTransfer

variable {S : Scheme} {t : SignedTransfer} {policy : Policy} {now : UInt64}

/-- What a policy says of the amounts and the time in a transfer. -/
def judge (t : SignedTransfer) (policy : Policy) (now : UInt64) : Except Rejection Unit :=
  policy.check ⟨Decimal.value t.data.amount.toList⟩ ⟨Decimal.value t.data.fee.toList⟩
    t.data.timestamp now

/-- **A policy is asked last.** -/
theorem check_some (S : Scheme) (t : SignedTransfer) (policy : Policy) (now other : UInt64) :
    t.check S (some policy) now = t.check S none other >>= fun _ => t.judge policy now := by
  unfold check
  cases Identifier.parse .account t.data.sender with
  | error e => rfl
  | ok sender =>
    cases Identifier.parse .account t.data.recipient with
    | error e => rfl
    | ok recipient =>
      cases hamount : Amount.parseWei t.data.amount with
      | error e => rfl
      | ok amount =>
        cases hfee : Amount.parseWei t.data.fee with
        | error e => rfl
        | ok fee =>
          -- All that is left are the guards, which do not know of the policy.
          obtain ⟨-, rfl⟩ := Amount.parseWei_eq_ok_iff_isNumeral.1 hamount
          obtain ⟨-, rfl⟩ := Amount.parseWei_eq_ok_iff_isNumeral.1 hfee
          show (if sender = recipient then _ else if _ then _ else if _ then _ else _) =
            (if sender = recipient then _ else if _ then _ else if _ then _ else _) >>= _
          split_ifs
          · rfl
          · rfl
          · rfl
          · rfl

theorem check_some_of_ok {other : UInt64} (h : t.check S none other = .ok ()) :
    t.check S (some policy) now = t.judge policy now := by
  rw [check_some S t policy now other, h]
  rfl

theorem check_some_of_error {other : UInt64} {rejection : Rejection}
    (h : t.check S none other = .error rejection) :
    t.check S (some policy) now = .error rejection := by
  rw [check_some S t policy now other, h]
  rfl

/-- Without a policy nothing is said of the age. -/
theorem check_none_ne_expired (ageMs limit : UInt64) :
    t.check S none now ≠ .error (.expired ageMs limit) := by
  intro h
  have hjudges := judges_check S none now t
  rw [h] at hjudges
  obtain ⟨rule, hrule, hrejection⟩ := hjudges.exists_rejection
  simp only [rules, List.append_nil, List.mem_cons, List.not_mem_nil, or_false] at hrule
  rcases hrule with rfl | rfl | rfl | rfl | rfl | rfl | rfl <;> cases hrejection

theorem check_none_eq (now other : UInt64) : t.check S none now = t.check S none other := rfl

/-- **Policies only restrict.** A transfer that is rejected without a policy is rejected for the
same reason under every policy, at any time. One that is accepted under a policy is accepted under
every policy that is less strict, then and before. One that has expired stays expired, and its age
goes on with the clock. Where there is no bound for the age, the clock does not matter. -/
theorem policies_only_restrict (S : Scheme) (t : SignedTransfer) :
    (∀ rejection now, t.check S none now = .error rejection →
      ∀ policy time, t.check S (some policy) time = .error rejection) ∧
    (∀ (p q : Policy) (now earlier : UInt64), q.Tightens p → earlier ≤ now →
      t.check S (some q) now = .ok () → t.check S (some p) earlier = .ok ()) ∧
    (∀ (p : Policy) (now later ageMs limit : UInt64), now ≤ later →
      t.check S (some p) now = .error (.expired ageMs limit) →
      ∃ older : UInt64, older.toNat = ageMs.toNat + (later.toNat - now.toNat) ∧
        t.check S (some p) later = .error (.expired older limit)) ∧
    (∀ now other, t.check S none now = t.check S none other) ∧
    ∀ (p : Policy) (now other : UInt64), p.maxAgeMs = none →
      t.check S (some p) now = t.check S (some p) other := by
  refine ⟨fun _ _ h _ _ => check_some_of_error h, ?_, ?_, check_none_eq, ?_⟩
  · intro p q now earlier htightens hnow hq
    cases hnone : t.check S none now with
    | error rejection =>
      rw [check_some_of_error hnone] at hq
      cases hq
    | ok =>
      rw [check_some_of_ok hnone] at hq ⊢
      exact htightens.check_eq_ok hnow hq
  · intro p now later ageMs limit hnow h
    cases hnone : t.check S none now with
    | error rejection =>
      rw [check_some_of_error hnone] at h
      exact absurd (hnone.trans h) (check_none_ne_expired ageMs limit)
    | ok =>
      rw [check_some_of_ok hnone] at h ⊢
      exact Policy.exists_check_eq_expired hnow h
  · intro p now other hnever
    rw [check_some S t p now 0, check_some S t p other 0]
    unfold judge
    rw [Policy.check_eq_of_maxAgeMs_eq_none hnever other]

/-- A transfer of the sample wallet. -/
def sample : SignedTransfer :=
  Wallet.sampleWallet.attach Wallet.sampleTransfer Wallet.sampleTransfer.signingText

theorem check_none_sample (now : UInt64) : sample.check Wallet.sampleScheme none now = .ok () :=
  Wallet.check_attach_signingText Wallet.sound_sampleScheme Wallet.canMake_sampleTransfer now

/-- The transfer with a signature that cannot be read. -/
def unsigned : SignedTransfer := { sample with signature := "" }

/-- Bounds that the sample meets with nothing to spare, if it is a second old. -/
def strictPolicy : Policy := ⟨⟨7⟩, ⟨10 ^ 30⟩, some 1000⟩

/-- Wider bounds. -/
def laxPolicy : Policy := ⟨⟨1⟩, ⟨10 ^ 31⟩, some 2000⟩

/-- A transfer that is accepted a second after it was signed, and before that; that has expired a
moment later, and for good; and that is rejected without its signature. -/
theorem policies_only_restrict_sample :
    strictPolicy.Tightens laxPolicy ∧
    sample.check Wallet.sampleScheme (some strictPolicy) 1700000001000 = .ok () ∧
    sample.check Wallet.sampleScheme (some laxPolicy) 0 = .ok () ∧
    sample.check Wallet.sampleScheme (some strictPolicy) 1700000001001 =
      .error (.expired 1001 1000) ∧
    (∃ older : UInt64, older.toNat = 1001 + (18446744073709551615 - 1700000001001) ∧
      sample.check Wallet.sampleScheme (some strictPolicy) 18446744073709551615 =
        .error (.expired older 1000)) ∧
    unsigned.check Wallet.sampleScheme none 5 = .error .invalidSignature ∧
    unsigned.check Wallet.sampleScheme (some laxPolicy) 7 = .error .invalidSignature := by
  have htightens : strictPolicy.Tightens laxPolicy :=
    ⟨by decide, by decide, fun limit hlimit => ⟨1000, rfl, by cases hlimit; decide⟩⟩
  have haccepted : sample.check Wallet.sampleScheme (some strictPolicy) 1700000001000 = .ok () := by
    rw [check_some_of_ok (check_none_sample 0)]
    decide +kernel
  have hexpired : sample.check Wallet.sampleScheme (some strictPolicy) 1700000001001 =
      .error (.expired 1001 1000) := by
    rw [check_some_of_ok (check_none_sample 0)]
    decide +kernel
  have hunsigned : unsigned.check Wallet.sampleScheme none 5 = .error .invalidSignature := by
    decide +kernel
  obtain ⟨-, haccepts, hexpires, -, -⟩ := policies_only_restrict Wallet.sampleScheme sample
  obtain ⟨hrejects, -, -, -, -⟩ := policies_only_restrict Wallet.sampleScheme unsigned
  exact ⟨htightens, haccepted, haccepts _ _ _ 0 htightens (by decide) haccepted, hexpired,
    hexpires _ _ 18446744073709551615 _ _ (by decide) hexpired, hunsigned,
    hrejects _ _ hunsigned laxPolicy 7⟩

end SignedTransfer

end Remit
