import Remit.Proofs.Transaction.Policies

/-!
# Spellings that matter

Texts that stand for the same bytes or the same number are spellings of one another. A validator
takes the public key and the signature for the bytes that they stand for, so their spelling is of no
account. The fields that are signed are taken in two ways: the rules look at what they stand for,
and the signature at how they are written. Another spelling of one of them leaves the rules as they
are, and it is another message and another id.

* `SignedTransfer.check_congr`: of the public key and the signature, only two facts are looked at;
* `SignedTransfer.check_eq_of_not_isProper`: not even these, if a rule before them is broken;
* `Transfer.WellFormed.signs_ne`: another spelling of a field is another message;
* `SignedTransfer.spelling_matters`: what this means for each field.
-/

namespace Remit

/-! ### Spellings of bytes and of numbers -/

/-- The texts are spellings of the same bytes. -/
def Hex.Respells (a b : String) : Prop := ∃ bytes, Denotes a bytes ∧ Denotes b bytes

/-- The texts are numerals of the same number. -/
def Decimal.Respells (a b : String) : Prop :=
  IsNumeral a.toList ∧ IsNumeral b.toList ∧ value a.toList = value b.toList

theorem Hex.respells_of_decode {a b : String} {bytes : Bytes} (ha : decode a = .ok bytes)
    (hb : decode b = .ok bytes) : Respells a b :=
  ⟨bytes, decode_eq_ok_iff.1 ha, decode_eq_ok_iff.1 hb⟩

theorem Decimal.respells_of_parseWei {a b : String} {amount : Amount}
    (ha : Amount.parseWei a = .ok amount) (hb : Amount.parseWei b = .ok amount) : Respells a b := by
  obtain ⟨hreadA, rfl⟩ := Amount.parseWei_eq_ok_iff_isNumeral.1 ha
  obtain ⟨hreadB, hvalue⟩ := Amount.parseWei_eq_ok_iff_isNumeral.1 hb
  exact ⟨hreadA, hreadB, congrArg Amount.wei hvalue⟩

/-- What one of the texts stands for, the other stands for. -/
theorem Hex.Respells.denotes_iff {a b : String} (h : Respells a b) (bytes : Bytes) :
    Denotes b bytes ↔ Denotes a bytes := by
  obtain ⟨both, ha, hb⟩ := h
  constructor
  · intro hbytes
    rw [hbytes.unique hb]
    exact ha
  · intro hbytes
    rw [hbytes.unique ha]
    exact hb

theorem Hex.denotes_iff_of_eq_or_respells {a b : String} (h : b = a ∨ Respells a b)
    (bytes : Bytes) : Denotes b bytes ↔ Denotes a bytes := by
  rcases h with rfl | h
  · rfl
  · exact h.denotes_iff bytes

theorem Decimal.Respells.parseWei_eq {a b : String} (h : Respells a b) :
    Amount.parseWei b = Amount.parseWei a := by
  obtain ⟨ha, hb, hvalue⟩ := h
  have hreadA := Amount.parseWei_eq_ok_iff_isNumeral.2 ⟨ha, rfl⟩
  have hreadB := Amount.parseWei_eq_ok_iff_isNumeral.2 ⟨hb, rfl⟩
  rw [hreadA, hreadB, hvalue]

namespace Transfer

variable {a b : Transfer}

/-- The transfers say the same, each field in any spelling. -/
structure Respells (a b : Transfer) : Prop where
  sender : Hex.Respells a.sender b.sender
  recipient : Hex.Respells a.recipient b.recipient
  amount : Decimal.Respells a.amount b.amount
  fee : Decimal.Respells a.fee b.fee
  nonce : a.nonce = b.nonce
  timestamp : a.timestamp = b.timestamp

theorem Respells.wellFormed (h : a.Respells b) (ha : a.WellFormed) : b.WellFormed := by
  obtain ⟨sender, hsender⟩ := ha.sender
  obtain ⟨recipient, hrecipient⟩ := ha.recipient
  rw [Identifier.parse_eq_ok_iff_denotes] at hsender hrecipient
  refine ⟨⟨sender, ?_⟩, ⟨recipient, ?_⟩, ?_, ?_⟩
  · exact Identifier.parse_eq_ok_iff_denotes.2 ((h.sender.denotes_iff _).2 hsender)
  · exact Identifier.parse_eq_ok_iff_denotes.2 ((h.recipient.denotes_iff _).2 hrecipient)
  · rw [h.amount.parseWei_eq]
    exact ha.amount
  · rw [h.fee.parseWei_eq]
    exact ha.fee

/-- **What is signed and what is digested** for the id are different for different transfers, even
if they say the same. -/
theorem WellFormed.signs_ne (ha : a.WellFormed) (hb : b.WellFormed) (h : b ≠ a) :
    b.signingText ≠ a.signingText ∧ b.signingBytes ≠ a.signingBytes ∧
      Bytes.ofText b.fieldText ≠ Bytes.ofText a.fieldText := by
  have hfields : b.fieldText ≠ a.fieldText := fun heq => h (fieldText_injOn hb ha heq)
  have htext : b.signingText ≠ a.signingText := fun heq => hfields (signingText_eq_iff.1 heq)
  refine ⟨htext, ?_, ?_⟩
  · exact fun heq => htext (Bytes.ofText_injective heq)
  · exact fun heq => hfields (Bytes.ofText_injective heq)

end Transfer

namespace SignedTransfer

variable {S : Scheme} {t u : SignedTransfer}

/-! ### Rules and spellings -/

/-- Whether money moves depends on what sender and recipient stand for. -/
theorem movesMoney_congr
    (hsender : ∀ bytes, Hex.Denotes u.data.sender bytes ↔ Hex.Denotes t.data.sender bytes)
    (hrecipient : ∀ bytes,
      Hex.Denotes u.data.recipient bytes ↔ Hex.Denotes t.data.recipient bytes) :
    u.MovesMoney ↔ t.MovesMoney := by
  unfold MovesMoney
  simp only [hsender, hrecipient]

/-- Whether the sender is bound depends on what the public key and the sender stand for. -/
theorem bindsSender_congr
    (hkey : ∀ bytes, Hex.Denotes u.publicKey bytes ↔ Hex.Denotes t.publicKey bytes)
    (hsender : ∀ bytes, Hex.Denotes u.data.sender bytes ↔ Hex.Denotes t.data.sender bytes) :
    u.bindsSender S = t.bindsSender S := by
  rw [Bool.eq_iff_iff, bindsSender_eq_true_iff, bindsSender_eq_true_iff]
  unfold IsBound
  simp only [hkey, hsender]

/-- Whether the signature is right depends on what it and the public key stand for, and on how the
fields are written. -/
theorem hasValidSignature_congr (hdata : u.data = t.data)
    (hkey : ∀ bytes, Hex.Denotes u.publicKey bytes ↔ Hex.Denotes t.publicKey bytes)
    (hsignature : ∀ bytes, Hex.Denotes u.signature bytes ↔ Hex.Denotes t.signature bytes) :
    u.hasValidSignature S = t.hasValidSignature S := by
  rw [Bool.eq_iff_iff, hasValidSignature_eq_true_iff, hasValidSignature_eq_true_iff]
  unfold IsAuthentic
  simp only [hdata, hkey, hsignature]

/-- The check looks at the public key and the signature for two answers only. -/
theorem check_congr (hdata : u.data = t.data) (hbinds : u.bindsSender S = t.bindsSender S)
    (hvalid : u.hasValidSignature S = t.hasValidSignature S) (policy : Option Policy)
    (now : UInt64) : u.check S policy now = t.check S policy now := by
  unfold check
  rw [hdata, hbinds, hvalid]

/-- The fields can be read, and the money goes to somebody else. That is asked first, whoever
signed the transfer. -/
structure IsProper (t : SignedTransfer) : Prop where
  wellFormed : t.data.WellFormed
  movesMoney : t.MovesMoney

/-- **The first rules come first.** A transfer that cannot be read, or that moves no money, is
rejected for that, whatever its public key and signature are, and whoever checks it. -/
theorem check_eq_of_not_isProper (h : ¬ t.IsProper) (hdata : u.data = t.data) (S' : Scheme)
    (policy policy' : Option Policy) (now now' : UInt64) :
    u.check S' policy' now' = t.check S policy now := by
  unfold check
  rw [hdata]
  cases hsender : Identifier.parse .account t.data.sender with
  | error e => rfl
  | ok sender =>
    cases hrecipient : Identifier.parse .account t.data.recipient with
    | error e => rfl
    | ok recipient =>
      cases hamount : Amount.parseWei t.data.amount with
      | error e => rfl
      | ok amount =>
        cases hfee : Amount.parseWei t.data.fee with
        | error e => rfl
        | ok fee =>
          -- All four can be read, so it is the money that does not move.
          have hself : sender = recipient := by
            by_contra hne
            have hmoves : t.MovesMoney := (movesMoney_iff hsender hrecipient).2 hne
            exact h ⟨⟨⟨_, hsender⟩, ⟨_, hrecipient⟩, ⟨_, hamount⟩, ⟨_, hfee⟩⟩, hmoves⟩
          exact (if_pos hself).trans (if_pos hself).symm

/-! ### Fields that are not signed -/

/-- **The transfers are treated alike**: every validator gives both the same answer at any time, and
they have the same id and the same cost. -/
structure TreatedAlike (S : Scheme) (t u : SignedTransfer) : Prop where
  check (policy : Option Policy) (now : UInt64) : u.check S policy now = t.check S policy now
  bindsSender : u.bindsSender S = t.bindsSender S
  hasValidSignature : u.hasValidSignature S = t.hasValidSignature S
  id : u.data.id S = t.data.id S
  totalCost : u.totalCost = t.totalCost

theorem treatedAlike_of_respells (hdata : u.data = t.data)
    (hkey : ∀ bytes, Hex.Denotes u.publicKey bytes ↔ Hex.Denotes t.publicKey bytes)
    (hsignature : ∀ bytes, Hex.Denotes u.signature bytes ↔ Hex.Denotes t.signature bytes) :
    TreatedAlike S t u := by
  have hsender : ∀ bytes, Hex.Denotes u.data.sender bytes ↔ Hex.Denotes t.data.sender bytes := by
    intro bytes
    rw [hdata]
  have hbinds := bindsSender_congr (S := S) hkey hsender
  have hvalid := hasValidSignature_congr (S := S) hdata hkey hsignature
  exact {
    check := check_congr hdata hbinds hvalid
    bindsSender := hbinds
    hasValidSignature := hvalid
    id := by rw [hdata]
    totalCost := by unfold totalCost; rw [hdata] }

/-! ### Fields that are signed -/

/-- **The rules are the same** for both transfers, up to that for the signature, and so is the
cost. -/
structure SameRules (S : Scheme) (t u : SignedTransfer) : Prop where
  wellFormed : u.data.WellFormed
  movesMoney : u.MovesMoney ↔ t.MovesMoney
  bindsSender : u.bindsSender S = t.bindsSender S
  totalCost : u.totalCost = t.totalCost

theorem sameRules_of_respells (hwell : t.data.WellFormed) (hdata : t.data.Respells u.data)
    (hkey : u.publicKey = t.publicKey) : SameRules S t u where
  wellFormed := hdata.wellFormed hwell
  movesMoney := movesMoney_congr hdata.sender.denotes_iff hdata.recipient.denotes_iff
  bindsSender := bindsSender_congr (fun _ => by rw [hkey]) hdata.sender.denotes_iff
  totalCost := by
    unfold totalCost
    rw [hdata.amount.parseWei_eq, hdata.fee.parseWei_eq]

/-- **How the public key and the signature are spelled does not matter**: the transfer is treated
alike, and if it breaks one of the first rules they may even be any texts. **How the fields are
spelled matters**: the rules see no difference, but what is signed and what is digested for the id
are not the same. -/
theorem spelling_matters (S : Scheme) (t : SignedTransfer) :
    (∀ key signature, (key = t.publicKey ∨ Hex.Respells t.publicKey key) →
      (signature = t.signature ∨ Hex.Respells t.signature signature) →
        t.TreatedAlike S ⟨t.data, key, signature⟩) ∧
    (¬ t.IsProper → ∀ key signature policy now,
      (⟨t.data, key, signature⟩ : SignedTransfer).check S policy now = t.check S policy now) ∧
    (t.data.WellFormed → ∀ data, t.data.Respells data →
      t.SameRules S { t with data := data } ∧
        (data ≠ t.data → data.signingText ≠ t.data.signingText ∧
          data.signingBytes ≠ t.data.signingBytes ∧
          Bytes.ofText data.fieldText ≠ Bytes.ofText t.data.fieldText)) := by
  refine ⟨?_, ?_, ?_⟩
  · intro key signature hkey hsignature
    exact treatedAlike_of_respells rfl (Hex.denotes_iff_of_eq_or_respells hkey)
      (Hex.denotes_iff_of_eq_or_respells hsignature)
  · intro himproper key signature policy now
    exact check_eq_of_not_isProper (u := ⟨t.data, key, signature⟩) himproper rfl S policy policy
      now now
  · intro hwell data hdata
    refine ⟨sameRules_of_respells hwell hdata rfl, ?_⟩
    intro hne
    exact hwell.signs_ne (hdata.wellFormed hwell) hne

/-- The public key of the sample in capitals behind a mark. -/
def capitalKey : String := "0XD75A980182B10AB7D54BFED3C964073A0EE172F3DAA62325AF021A68F707511A"

/-- The sample with its sender in capitals and zeros in front of its amount. -/
def respelled : Transfer :=
  { sample.data with
    sender := "0x6C31041268F471609C79F5F2DBCC38E4A4AB2F4D416109A4E09FCF50FD0F0062"
    amount := "0001000000000000000000000000000000" }

/-- The sample with its sender for a recipient, in another spelling. -/
def selfish : SignedTransfer :=
  { sample with data := { sample.data with recipient := respelled.sender } }

theorem respells_capitalKey : Hex.Respells sample.publicKey capitalKey := by
  have hkey : Hex.decode sample.publicKey = .ok Wallet.sampleWallet.publicKey.bytes.toList := by
    decide +kernel
  exact Hex.respells_of_decode hkey (by decide +kernel)

theorem decode_sender_sample :
    Hex.decode sample.data.sender = .ok Wallet.sampleWallet.address.bytes.toList := by
  decide +kernel

theorem decode_sender_respelled :
    Hex.decode respelled.sender = .ok Wallet.sampleWallet.address.bytes.toList := by
  decide +kernel

theorem respells_respelled : sample.data.Respells respelled := by
  have hrecipient : Hex.decode sample.data.recipient = .ok (List.replicate 32 0xab) := by
    decide +kernel
  have hamount : Amount.parseWei sample.data.amount = .ok ⟨10 ^ 30⟩ := by rfl
  have hzeros : Amount.parseWei respelled.amount = .ok ⟨10 ^ 30⟩ := by rfl
  have hfee : Amount.parseWei sample.data.fee = .ok ⟨7⟩ := by rfl
  exact {
    sender := Hex.respells_of_decode decode_sender_sample decode_sender_respelled
    recipient := Hex.respells_of_decode hrecipient hrecipient
    amount := Decimal.respells_of_parseWei hamount hzeros
    fee := Decimal.respells_of_parseWei hfee hfee
    nonce := rfl
    timestamp := rfl }

theorem not_isProper_selfish : ¬ selfish.IsProper := by
  intro h
  have hsender := Hex.decode_eq_ok_iff.1 decode_sender_sample
  have hrecipient := Hex.decode_eq_ok_iff.1 decode_sender_respelled
  exact h.movesMoney _ _ hsender hrecipient rfl

/-- Another spelling of the public key is accepted, a transfer to oneself is rejected with nothing
that is a key or a signature, and another spelling of the fields keeps the rules and is another
message. -/
theorem spelling_matters_sample :
    Hex.Respells sample.publicKey capitalKey ∧
    (SignedTransfer.mk sample.data capitalKey sample.signature).check Wallet.sampleScheme none 0 =
      .ok () ∧
    ¬ selfish.IsProper ∧
    (SignedTransfer.mk selfish.data "" "zz").check Wallet.sampleScheme none 0 =
      .error .selfTransfer ∧
    sample.data.WellFormed ∧ sample.data.Respells respelled ∧ respelled ≠ sample.data ∧
    (SignedTransfer.mk respelled sample.publicKey sample.signature).bindsSender
      Wallet.sampleScheme = true ∧
    respelled.signingBytes ≠ sample.data.signingBytes := by
  have hwell : sample.data.WellFormed := Wallet.canMake_sampleTransfer.wellFormed
  have hne : respelled ≠ sample.data := by decide
  have hbinds : sample.bindsSender Wallet.sampleScheme = true := by decide +kernel
  have hself : selfish.check Wallet.sampleScheme none 0 = .error .selfTransfer := by
    decide +kernel
  obtain ⟨halike, -, hrespelled⟩ := spelling_matters Wallet.sampleScheme sample
  obtain ⟨-, hfirst, -⟩ := spelling_matters Wallet.sampleScheme selfish
  obtain ⟨hsame, hdifferent⟩ := hrespelled hwell respelled respells_respelled
  have hkey := halike capitalKey sample.signature (.inr respells_capitalKey) (.inl rfl)
  exact ⟨respells_capitalKey, (hkey.check none 0).trans (check_none_sample 0),
    not_isProper_selfish, (hfirst not_isProper_selfish "" "zz" none 0).trans hself, hwell,
    respells_respelled, hne, hsame.bindsSender.trans hbinds, (hdifferent hne).2.1⟩

end SignedTransfer

end Remit
