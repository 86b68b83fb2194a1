import Remit.Proofs.Text.Grammar
import Remit.Transaction.Validation

/-!
# The rules of validation

What a validator asks of a signed transfer, as a row of rules: propositions about the texts of the
transfer, each with the rejection for a transfer that breaks it. The rules use the grammars of the
texts and arithmetic without bounds, and none of the functions that read or check.

`check_eq_iff_rules` says that `SignedTransfer.check` accepts exactly the transfers that keep all
rules and rejects any other for the first rule that it breaks. The relation `Judges` carries the
proof: each step of the check is one lemma that puts its rule in front of those of the rest.
-/

namespace Remit

/-- What has to hold, and what is said if it does not. -/
structure Rule where
  holds : Prop
  rejection : Rejection

/-! ### The rules -/

/-- The fee, then the amount, then the age if there is a limit to it. -/
def Policy.rules (policy : Policy) (amount fee : Amount) (timestamp now : UInt64) : List Rule :=
  [⟨policy.minFee.wei ≤ fee.wei, .feeTooLow fee policy.minFee⟩,
   ⟨amount.wei ≤ policy.maxAmount.wei, .amountTooHigh amount policy.maxAmount⟩] ++
    match policy.maxAgeMs with
    | none => []
    | some limit =>
      [⟨now.toNat ≤ timestamp.toNat + limit.toNat,
        .expired (UInt64.ofNat (now.toNat - timestamp.toNat)) limit⟩]

namespace SignedTransfer

variable (S : Scheme) (t : SignedTransfer)

/-- The texts of sender and recipient stand for different bytes. -/
def MovesMoney : Prop :=
  ∀ sender recipient, Hex.Denotes t.data.sender sender → Hex.Denotes t.data.recipient recipient →
    sender ≠ recipient

/-- The public key is some 32 bytes, and the sender is their digest. -/
def IsBound : Prop :=
  ∃ key : FixedBytes 32, Hex.Denotes t.publicKey key.toList ∧
    Hex.Denotes t.data.sender (S.hash key.toList).toList

/-- The signature is some 64 bytes which belong to the signing text under the public key. -/
def IsAuthentic : Prop :=
  ∃ (key : FixedBytes 32) (signature : FixedBytes 64), Hex.Denotes t.publicKey key.toList ∧
    Hex.Denotes t.signature signature.toList ∧
    S.verify key (Bytes.ofText t.data.signingText) signature = true

/-- All rules in their order. -/
def rules (policy : Option Policy) (now : UInt64) : List Rule :=
  [⟨Hex.IsHexText 64 t.data.sender, .invalidSender⟩,
   ⟨Hex.IsHexText 64 t.data.recipient, .invalidRecipient⟩,
   ⟨Decimal.IsNumeral t.data.amount.toList, .invalidAmount⟩,
   ⟨Decimal.IsNumeral t.data.fee.toList, .invalidFee⟩,
   ⟨t.MovesMoney, .selfTransfer⟩,
   ⟨t.IsBound S, .senderKeyMismatch⟩,
   ⟨t.IsAuthentic S, .invalidSignature⟩] ++
    match policy with
    | none => []
    | some policy =>
      policy.rules ⟨Decimal.value t.data.amount.toList⟩ ⟨Decimal.value t.data.fee.toList⟩
        t.data.timestamp now

end SignedTransfer

/-! ### Judging by rules -/

/-- The outcome of keeping to the rules one after the other, up to the first that is broken. -/
inductive Judges : List Rule → Except Rejection Unit → Prop
  | accepted : Judges [] (.ok ())
  | broken {rule : Rule} {rules : List Rule} (h : ¬ rule.holds) :
      Judges (rule :: rules) (.error rule.rejection)
  | kept {rule : Rule} {rules : List Rule} {outcome : Except Rejection Unit} (h : rule.holds)
      (rest : Judges rules outcome) : Judges (rule :: rules) outcome

namespace Judges

variable {rules : List Rule} {outcome : Except Rejection Unit}

/-- Acceptance means that all rules hold. -/
theorem eq_ok_iff (h : Judges rules outcome) :
    outcome = .ok () ↔ ∀ rule ∈ rules, rule.holds := by
  induction h with
  | accepted => simp
  | broken h => simp [h]
  | kept h _ ih => simp [ih, h]

/-- Rejection means that some rule is broken and all before it hold. -/
theorem eq_error_iff (h : Judges rules outcome) (rejection : Rejection) :
    outcome = .error rejection ↔
      ∃ before rule after, rules = before ++ rule :: after ∧ (∀ r ∈ before, r.holds) ∧
        ¬ rule.holds ∧ rule.rejection = rejection := by
  induction h with
  | accepted => simp
  | @broken rule rules h =>
    constructor
    · intro heq
      exact ⟨[], rule, rules, rfl, by simp, h, Except.error.inj heq⟩
    · rintro ⟨before, rule', after, heq, hbefore, hbroken, rfl⟩
      cases before with
      | nil => obtain ⟨rfl, -⟩ := List.cons.inj heq; rfl
      | cons first before =>
        -- The broken rule is the first of the row, so it cannot be among those that hold.
        obtain ⟨rfl, -⟩ := List.cons.inj heq
        exact absurd (hbefore rule (by simp)) h
  | @kept rule rules outcome h _ ih =>
    rw [ih]
    constructor
    · rintro ⟨before, rule', after, rfl, hbefore, hbroken⟩
      refine ⟨rule :: before, rule', after, rfl, ?_, hbroken⟩
      intro r hr
      rcases List.mem_cons.1 hr with rfl | hr
      · exact h
      · exact hbefore r hr
    · rintro ⟨before, rule', after, heq, hbefore, hbroken, hrejection⟩
      cases before with
      | nil =>
        -- The first of the row is kept, so it is not the broken one.
        obtain ⟨rfl, -⟩ := List.cons.inj heq
        exact absurd h hbroken
      | cons first before =>
        obtain ⟨-, rfl⟩ := List.cons.inj heq
        exact ⟨before, rule', after, rfl, fun r hr => hbefore r (by simp [hr]), hbroken,
          hrejection⟩

/-- A step that fails for one reason only, put before the rest of a check. -/
theorem orReject {ε α : Type} {rule : Rule} {step : Except ε α} {rest : α → Except Rejection Unit}
    (h : (∃ value, step = .ok value) ↔ rule.holds)
    (hrest : ∀ value, step = .ok value → Judges rules (rest value)) :
    Judges (rule :: rules) (orReject rule.rejection step >>= rest) := by
  cases hstep : step with
  | ok value => exact .kept (h.1 ⟨value, hstep⟩) (hrest value hstep)
  | error e =>
    refine .broken ?_
    rw [← h, hstep]
    rintro ⟨value, heq⟩
    cases heq

/-- A guard put before the rest of a check. -/
theorem guard {rule : Rule} {broken : Prop} [Decidable broken] (h : broken ↔ ¬ rule.holds)
    (hrest : ¬ broken → Judges rules outcome) :
    Judges (rule :: rules) (if broken then .error rule.rejection else outcome) := by
  by_cases hb : broken
  · rw [if_pos hb]
    exact .broken (h.1 hb)
  · rw [if_neg hb]
    exact .kept (not_not.1 fun hn => hb (h.2 hn)) (hrest hb)

end Judges

/-! ### The check keeps to the rules -/

theorem age_eq (now timestamp : UInt64) :
    age now timestamp = UInt64.ofNat (now.toNat - timestamp.toNat) := by
  rw [← toNat_age, UInt64.ofNat_toNat]

theorem Policy.judges_check (policy : Policy) (amount fee : Amount) (timestamp now : UInt64) :
    Judges (policy.rules amount fee timestamp now) (policy.check amount fee timestamp now) := by
  unfold Policy.rules Policy.check
  refine .guard Nat.not_le.symm fun _ => ?_
  refine .guard Nat.not_le.symm fun _ => ?_
  cases policy.maxAgeMs with
  | none => exact .accepted
  | some limit =>
    dsimp only
    rw [← age_eq]
    refine .guard ?_ fun _ => .accepted
    rw [UInt64.lt_iff_toNat_lt, toNat_age, Nat.not_le]
    omega

namespace SignedTransfer

variable {S : Scheme} {t : SignedTransfer}

theorem bindsSender_eq_true_iff : t.bindsSender S = true ↔ t.IsBound S := by
  unfold bindsSender IsBound
  constructor
  · intro h
    split at h
    · rename_i key sender hkey hsender
      rw [PublicKey.parse_eq_ok_iff_denotes] at hkey
      rw [Identifier.parse_eq_ok_iff_denotes, ← eq_of_beq h] at hsender
      exact ⟨key.bytes, hkey, hsender⟩
    · cases h
  · rintro ⟨key, hkey, hsender⟩
    have hk : PublicKey.parse t.publicKey = .ok ⟨key⟩ := PublicKey.parse_eq_ok_iff_denotes.2 hkey
    have hs : Identifier.parse .account t.data.sender = .ok ⟨S.hash key.toList⟩ :=
      Identifier.parse_eq_ok_iff_denotes.2 hsender
    rw [hk, hs]
    exact beq_self_eq_true _

theorem hasValidSignature_eq_true_iff : t.hasValidSignature S = true ↔ t.IsAuthentic S := by
  unfold hasValidSignature IsAuthentic
  rw [verifyText_eq_true_iff]
  simp only [Hex.decode_eq_ok_iff]
  constructor
  · rintro ⟨signature, key, hs, hk, h⟩
    exact ⟨key, signature, hk, hs, h⟩
  · rintro ⟨key, signature, hk, hs, h⟩
    exact ⟨signature, key, hs, hk, h⟩

theorem movesMoney_iff {sender recipient : Address}
    (hs : Identifier.parse .account t.data.sender = .ok sender)
    (hr : Identifier.parse .account t.data.recipient = .ok recipient) :
    t.MovesMoney ↔ sender ≠ recipient := by
  rw [Identifier.parse_eq_ok_iff_denotes] at hs hr
  constructor
  · rintro h rfl
    exact h _ _ hs hr rfl
  · rintro hne a b ha hb rfl
    apply hne
    obtain ⟨s⟩ := sender
    obtain ⟨r⟩ := recipient
    congr 1
    exact Vector.toList_inj.1 ((hs.unique ha).trans (hb.unique hr))

/-- **Every step of the check is a rule.** -/
theorem judges_check (S : Scheme) (policy : Option Policy) (now : UInt64) (t : SignedTransfer) :
    Judges (t.rules S policy now) (t.check S policy now) := by
  unfold rules check
  -- Row and check are gone through side by side: four texts that are read, then three guards.
  refine .orReject Identifier.exists_parse_eq_ok_iff fun sender hs => ?_
  refine .orReject Identifier.exists_parse_eq_ok_iff fun recipient hr => ?_
  refine .orReject Amount.exists_parseWei_eq_ok_iff fun amount ha => ?_
  refine .orReject Amount.exists_parseWei_eq_ok_iff fun fee hf => ?_
  refine .guard ?_ fun _ => ?_
  · rw [movesMoney_iff hs hr, not_not]
  refine .guard ?_ fun _ => ?_
  · rw [← bindsSender_eq_true_iff]; simp
  refine .guard ?_ fun _ => ?_
  · rw [← hasValidSignature_eq_true_iff]; simp
  cases policy with
  | none => exact .accepted
  | some policy =>
    -- The amounts that the policy sees are those that the rules speak of.
    obtain ⟨-, rfl⟩ := Amount.parseWei_eq_ok_iff_isNumeral.1 ha
    obtain ⟨-, rfl⟩ := Amount.parseWei_eq_ok_iff_isNumeral.1 hf
    exact policy.judges_check _ _ _ _

/-- The check of a transfer that can be read, and that is bound and authentic. -/
theorem check_eq_of_parse {sender recipient : Address} {amount fee : Amount}
    (hs : Identifier.parse .account t.data.sender = .ok sender)
    (hr : Identifier.parse .account t.data.recipient = .ok recipient)
    (ha : Amount.parseWei t.data.amount = .ok amount) (hf : Amount.parseWei t.data.fee = .ok fee)
    (hbound : t.bindsSender S = true) (hauthentic : t.hasValidSignature S = true)
    (policy : Option Policy) (now : UInt64) :
    t.check S policy now =
      if sender = recipient then .error .selfTransfer
      else
        match policy with
        | none => .ok ()
        | some policy => policy.check amount fee t.data.timestamp now := by
  unfold check
  rw [hs, hr, ha, hf, hbound, hauthentic]
  rfl

/-- What is known of an accepted transfer, whatever the policy. -/
theorem keeps_of_check_eq_ok {policy : Option Policy} {now : UInt64}
    (h : t.check S policy now = .ok ()) :
    Hex.IsHexText 64 t.data.sender ∧ Hex.IsHexText 64 t.data.recipient ∧
      Decimal.IsNumeral t.data.amount.toList ∧ Decimal.IsNumeral t.data.fee.toList ∧
      t.MovesMoney ∧ t.IsBound S ∧ t.IsAuthentic S := by
  rw [(judges_check S policy now t).eq_ok_iff] at h
  simp only [rules, List.forall_mem_append, List.forall_mem_cons] at h
  obtain ⟨⟨hsender, hrecipient, hamount, hfee, hmoves, hbound, hauthentic, -⟩, -⟩ := h
  exact ⟨hsender, hrecipient, hamount, hfee, hmoves, hbound, hauthentic⟩

/-- **The check decides the rules**: it accepts a transfer if and only if all of them hold, and
otherwise gives the rejection of the first that does not. -/
theorem check_eq_iff_rules (S : Scheme) (policy : Option Policy) (now : UInt64)
    (t : SignedTransfer) :
    (t.check S policy now = .ok () ↔ ∀ rule ∈ t.rules S policy now, rule.holds) ∧
    ∀ rejection, t.check S policy now = .error rejection ↔
      ∃ before rule after, t.rules S policy now = before ++ rule :: after ∧
        (∀ r ∈ before, r.holds) ∧ ¬ rule.holds ∧ rule.rejection = rejection :=
  ⟨(judges_check S policy now t).eq_ok_iff, (judges_check S policy now t).eq_error_iff⟩

end SignedTransfer

end Remit
