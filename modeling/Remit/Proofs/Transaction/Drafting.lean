import Remit.Proofs.Wallet.Signing
import Remit.Transaction.Draft

/-!
# A draft is what was last accepted

Whether an entry is accepted depends on the entry alone, and so does the part that it stands for
(`Entry.read`). The two forms in which an amount may be given stand for the same part, and so do
those of a fee. What is left of a history is therefore the parts that were accepted in it, and the
draft after it holds the last one of each kind: this is an induction over the history, the same for
each kind, which only asks what one part does to one field.

* `Entry.run_change`: what an entry does to a draft;
* `run_empty`: the draft after a history;
* `build_last_accepted`: the payment after a history, and what a wallet signs for it.
-/

namespace Remit.Draft

/-! ### Parts -/

/-- A part of a payment. -/
inductive Part where
  | recipient (value : Address)
  | amount (value : Amount)
  | fee (value : Amount)
  | nonce (value : UInt64)
  | timestamp (value : UInt64)

namespace Part

/-- The recipient, if the part is one. -/
def recipient? : Part → Option Address
  | .recipient value => some value
  | _ => none

/-- The amount, if the part is one. -/
def amount? : Part → Option Amount
  | .amount value => some value
  | _ => none

/-- The fee, if the part is one. -/
def fee? : Part → Option Amount
  | .fee value => some value
  | _ => none

/-- The nonce, if the part is one. -/
def nonce? : Part → Option UInt64
  | .nonce value => some value
  | _ => none

/-- The time of signing, if the part is one. -/
def timestamp? : Part → Option UInt64
  | .timestamp value => some value
  | _ => none

variable {part : Part}

theorem recipient?_eq_some_iff {value : Address} :
    part.recipient? = some value ↔ part = .recipient value := by
  cases part <;> simp [recipient?]

theorem amount?_eq_some_iff {value : Amount} :
    part.amount? = some value ↔ part = .amount value := by
  cases part <;> simp [amount?]

theorem fee?_eq_some_iff {value : Amount} : part.fee? = some value ↔ part = .fee value := by
  cases part <;> simp [fee?]

theorem nonce?_eq_some_iff {value : UInt64} :
    part.nonce? = some value ↔ part = .nonce value := by
  cases part <;> simp [nonce?]

end Part

/-- The draft with a part in its place. -/
def put (draft : Draft) : Part → Draft
  | .recipient value => { draft with recipient := some value }
  | .amount value => { draft with amount := some value }
  | .fee value => { draft with fee := some value }
  | .nonce value => { draft with nonce := some value }
  | .timestamp value => { draft with timestamp := some value }

/-- The part that an entry stands for, or why it stands for none. -/
def Entry.read : Entry → Except Error Part
  | .recipient text =>
    ((Identifier.parse .account text).map .recipient).mapError fun _ =>
      .validation s!"invalid recipient: {text}"
  | .amount coins => (Amount.ofCoins coins).map .amount
  | .amountWei text => (Amount.parseWei text).map .amount
  | .fee coins => (Amount.ofCoins coins).map .fee
  | .feeWei text => (Amount.parseWei text).map .fee
  | .nonce value => .ok (.nonce value)
  | .timestamp value => .ok (.timestamp value)

/-! ### One step -/

/-- **An entry puts its part into the draft**, or is refused and leaves the draft alone. -/
theorem Entry.run_change (entry : Entry) (draft : Draft) :
    entry.change.run draft =
      match entry.read with
      | .ok part => (.ok (), draft.put part)
      | .error e => (.error e, draft) := by
  -- Every change reads all it needs before it touches the draft, so nothing is half done.
  cases entry with
  | recipient text =>
    rw [change, read, setRecipient]
    cases Identifier.parse .account text <;> rfl
  | amount coins =>
    rw [change, read, setAmount]
    cases Amount.ofCoins coins <;> rfl
  | amountWei text =>
    rw [change, read, setAmountWei]
    cases Amount.parseWei text <;> rfl
  | fee coins =>
    rw [change, read, setFee]
    cases Amount.ofCoins coins <;> rfl
  | feeWei text =>
    rw [change, read, setFeeWei]
    cases Amount.parseWei text <;> rfl
  | nonce value => rfl
  | timestamp value => rfl

/-- The part that a step leaves behind. -/
def Step.part? : Step → Option Part
  | .enter entry => entry.read.toOption
  | .build => none

theorem step_enter (draft : Draft) (entry : Entry) :
    draft.step (.enter entry) =
      (.entered (entry.read.map fun _ => ()), entry.read.toOption.elim draft draft.put) := by
  have hrun : draft.step (.enter entry) =
      (.entered (entry.change.run draft).1, (entry.change.run draft).2) := rfl
  rw [hrun, Entry.run_change]
  cases entry.read <;> rfl

theorem step_snd (draft : Draft) (next : Step) :
    (draft.step next).2 = next.part?.elim draft draft.put := by
  cases next with
  | enter entry =>
    rw [step_enter]
    rfl
  | build => rfl

/-! ### Histories -/

/-- The parts that are accepted in a history, in their order. -/
def accepted (history : List Step) : List Part := history.filterMap Step.part?

theorem run_snd (draft : Draft) (history : List Step) :
    (draft.run history).2 = (accepted history).foldl put draft := by
  induction history generalizing draft with
  | nil => rfl
  | cons next rest ih =>
    have hrun : (draft.run (next :: rest)).2 = ((draft.step next).2.run rest).2 := rfl
    rw [hrun, ih, step_snd]
    unfold accepted
    rw [List.filterMap_cons]
    cases next.part? with
    | none => rfl
    | some part => rfl

variable {α : Type}

/-- The last one of the parts that are of one kind. -/
def lastOf (kind? : Part → Option α) (parts : List Part) : Option α :=
  (parts.filterMap kind?).getLast?

/-- **The last part of a kind decides about its field**, if each part of this kind is put there and
no other part is. The induction lets the draft vary: what it held at first only counts as long as
nothing was put in its place. -/
theorem foldl_put {field : Draft → Option α} {kind? : Part → Option α}
    (hput : ∀ draft part, field (draft.put part) = (kind? part).or (field draft))
    (parts : List Part) (draft : Draft) :
    field (parts.foldl put draft) = (lastOf kind? parts).or (field draft) := by
  unfold lastOf
  induction parts generalizing draft with
  | nil => rfl
  | cons part rest ih =>
    rw [List.foldl_cons, ih, hput, List.filterMap_cons]
    cases kind? part with
    | none => rfl
    | some value =>
      rw [List.getLast?_cons]
      cases (rest.filterMap kind?).getLast? <;> rfl

/-- **The draft after a history** holds what was accepted last. -/
theorem run_empty (history : List Step) :
    (empty.run history).2 =
      ⟨lastOf Part.recipient? (accepted history), lastOf Part.amount? (accepted history),
        lastOf Part.fee? (accepted history), lastOf Part.nonce? (accepted history),
        lastOf Part.timestamp? (accepted history)⟩ := by
  rw [run_snd]
  have hlast {α : Type} {field : Draft → Option α} {kind? : Part → Option α}
      (hempty : field empty = none)
      (hput : ∀ draft part, field (draft.put part) = (kind? part).or (field draft)) :
      field ((accepted history).foldl put empty) = lastOf kind? (accepted history) := by
    rw [foldl_put hput, hempty, Option.or_none]
  ext1
  · exact hlast rfl fun draft part => by cases part <;> rfl
  · exact hlast rfl fun draft part => by cases part <;> rfl
  · exact hlast rfl fun draft part => by cases part <;> rfl
  · exact hlast rfl fun draft part => by cases part <;> rfl
  · exact hlast rfl fun draft part => by cases part <;> rfl

/-! ### The payment -/

/-- Some part of one kind is among the parts. -/
def Includes (kind : α → Part) (parts : List Part) : Prop := ∃ value, kind value ∈ parts

theorem lastOf_eq_none_iff {kind : α → Part} {kind? : Part → Option α}
    (hkind : ∀ {part value}, kind? part = some value ↔ part = kind value) {parts : List Part} :
    lastOf kind? parts = none ↔ ¬ Includes kind parts := by
  unfold lastOf Includes
  rw [List.getLast?_eq_none_iff, List.filterMap_eq_nil_iff]
  constructor
  · rintro hnone ⟨value, hmem⟩
    have hsome : kind? (kind value) = some value := hkind.2 rfl
    rw [hnone _ hmem] at hsome
    cases hsome
  · intro hnot part hmem
    cases hpart : kind? part with
    | none => rfl
    | some value =>
      obtain rfl := hkind.1 hpart
      exact absurd ⟨value, hmem⟩ hnot

theorem exists_lastOf_iff {kind : α → Part} {kind? : Part → Option α}
    (hkind : ∀ {part value}, kind? part = some value ↔ part = kind value) {parts : List Part} :
    (∃ value, lastOf kind? parts = some value) ↔ Includes kind parts := by
  rw [← Option.ne_none_iff_exists', ne_eq, lastOf_eq_none_iff hkind, not_not]

/-- What is built of a draft, given the parts that were accepted. -/
structure BuildsLast (draft : Draft) (parts : List Part) : Prop where
  isComplete : (∃ p, draft.build = .ok p) ↔
    Includes .recipient parts ∧ Includes .amount parts ∧ Includes .fee parts ∧
      Includes .nonce parts
  eq_last : ∀ p, draft.build = .ok p →
    lastOf Part.recipient? parts = some p.recipient ∧ lastOf Part.amount? parts = some p.amount ∧
      lastOf Part.fee? parts = some p.fee ∧ lastOf Part.nonce? parts = some p.nonce ∧
        lastOf Part.timestamp? parts = p.timestamp
  noRecipient : ¬ Includes .recipient parts → draft.build = .error (.incomplete "recipient")
  noAmount : Includes .recipient parts → ¬ Includes .amount parts →
    draft.build = .error (.incomplete "amount")
  noFee : Includes .recipient parts → Includes .amount parts → ¬ Includes .fee parts →
    draft.build = .error (.incomplete "fee")
  noNonce : Includes .recipient parts → Includes .amount parts → Includes .fee parts →
    ¬ Includes .nonce parts → draft.build = .error (.incomplete "nonce")

theorem buildsLast_run (history : List Step) :
    BuildsLast (empty.run history).2 (accepted history) := by
  rw [run_empty]
  generalize accepted history = parts
  have hrecipient : (∃ value, lastOf Part.recipient? parts = some value) ↔
      Includes .recipient parts := exists_lastOf_iff Part.recipient?_eq_some_iff
  have hamount : (∃ value, lastOf Part.amount? parts = some value) ↔ Includes .amount parts :=
    exists_lastOf_iff Part.amount?_eq_some_iff
  have hfee : (∃ value, lastOf Part.fee? parts = some value) ↔ Includes .fee parts :=
    exists_lastOf_iff Part.fee?_eq_some_iff
  have hnonce : (∃ value, lastOf Part.nonce? parts = some value) ↔ Includes .nonce parts :=
    exists_lastOf_iff Part.nonce?_eq_some_iff
  have hcomplete {recipient amount fee nonce} (p : Payment)
      (h : Draft.build ⟨recipient, amount, fee, nonce, lastOf Part.timestamp? parts⟩ = .ok p) :
      recipient = some p.recipient ∧ amount = some p.amount ∧ fee = some p.fee ∧
        nonce = some p.nonce ∧ lastOf Part.timestamp? parts = p.timestamp := by
    rw [build_eq_ok_iff, Draft.mk.injEq] at h
    exact h
  -- A part that is there has a last one, with which the build passes on to the next part.
  constructor
  case isComplete =>
    rw [← hrecipient, ← hamount, ← hfee, ← hnonce]
    constructor
    · rintro ⟨p, hp⟩
      obtain ⟨hr, ha, hf, hn, -⟩ := hcomplete p hp
      exact ⟨⟨_, hr⟩, ⟨_, ha⟩, ⟨_, hf⟩, ⟨_, hn⟩⟩
    · rintro ⟨⟨r, hr⟩, ⟨a, ha⟩, ⟨f, hf⟩, ⟨n, hn⟩⟩
      rw [hr, ha, hf, hn]
      exact ⟨_, rfl⟩
  case eq_last => exact hcomplete
  case noRecipient =>
    intro hnone
    rw [(lastOf_eq_none_iff Part.recipient?_eq_some_iff).2 hnone]
    rfl
  case noAmount =>
    intro hr hnone
    obtain ⟨r, hr⟩ := hrecipient.2 hr
    rw [hr, (lastOf_eq_none_iff Part.amount?_eq_some_iff).2 hnone]
    rfl
  case noFee =>
    intro hr ha hnone
    obtain ⟨r, hr⟩ := hrecipient.2 hr
    obtain ⟨a, ha⟩ := hamount.2 ha
    rw [hr, ha, (lastOf_eq_none_iff Part.fee?_eq_some_iff).2 hnone]
    rfl
  case noNonce =>
    intro hr ha hf hnone
    obtain ⟨r, hr⟩ := hrecipient.2 hr
    obtain ⟨a, ha⟩ := hamount.2 ha
    obtain ⟨f, hf⟩ := hfee.2 hf
    rw [hr, ha, hf, (lastOf_eq_none_iff Part.nonce?_eq_some_iff).2 hnone]
    rfl

/-! ### Signing -/

/-- The present does not matter for a payment with a time of its own. -/
theorem createTransaction_eq_sign {S : Scheme} (wallet : Wallet S) {p : Payment} {time : UInt64}
    (htime : p.timestamp = some time) {recipient : String} {amount fee : AmountInput}
    (hrecipient : Identifier.parse .account recipient = .ok p.recipient)
    (hamount : amount.resolve = .ok p.amount) (hfee : fee.resolve = .ok p.fee)
    (now later : UInt64) :
    wallet.createTransaction recipient amount fee p.nonce p.timestamp later =
      .ok (wallet.sign p now) := by
  rw [Wallet.createTransaction_eq_ok_iff]
  refine ⟨p, Wallet.payment_eq_ok_iff.2 ⟨hrecipient, hamount, hfee, rfl, rfl⟩, ?_⟩
  unfold Wallet.sign Payment.transfer
  rw [htime]
  rfl

/-- **A draft is what was last accepted.** After any history, an entry is answered with what it
stands for by itself, and one that is refused leaves the draft as it is. Taking a payment changes
nothing that comes later. The payment is complete once each of its four parts was accepted, in
whichever form; then it holds the last ones, and otherwise the first part that is missing is named.
A payment with a time is signed as what a wallet makes of its parts, at whatever time. -/
theorem build_last_accepted (history : List Step) :
    let draft := (empty.run history).2
    let parts := accepted history
    (∀ entry, (draft.step (.enter entry)).1 = .entered (entry.read.map fun _ => ())) ∧
    (∀ entry e, (draft.step (.enter entry)).1 = .entered (.error e) →
      (draft.step (.enter entry)).2 = draft) ∧
    (∀ rest, draft.run (.build :: rest) =
      (.built draft.build :: (draft.run rest).1, (draft.run rest).2)) ∧
    draft.BuildsLast parts ∧
    ∀ p time, draft.build = .ok p → lastOf Part.timestamp? parts = some time →
      ∀ {S : Scheme} (wallet : Wallet S) (recipient : String) (amount fee : AmountInput),
        Identifier.parse .account recipient = .ok p.recipient → amount.resolve = .ok p.amount →
          fee.resolve = .ok p.fee → ∀ now later : UInt64,
            wallet.createTransaction recipient amount fee p.nonce (some time) later =
              .ok (wallet.sign p now) := by
  intro draft parts
  refine ⟨fun entry => ?_, fun entry e he => ?_, fun rest => rfl, buildsLast_run history, ?_⟩
  · rw [step_enter]
  · rw [step_enter] at he ⊢
    cases hread : entry.read with
    | ok part =>
      rw [hread] at he
      cases he
    | error cause => rfl
  · intro p time hbuild hlast S wallet recipient amount fee hrecipient hamount hfee now later
    have htime : p.timestamp = some time :=
      ((buildsLast_run history).eq_last p hbuild).2.2.2.2.symm.trans hlast
    rw [← htime]
    exact createTransaction_eq_sign wallet htime hrecipient hamount hfee now later

/-- A history in which every part but one is given twice or refused once. -/
def oddHistory : List Step :=
  [.enter (.nonce 3), .enter (.recipient "nobody"), .build,
   .enter (.recipient "0XABABABABABABABABABABABABABABABABABABABABABABABABABABABABABABABAB"),
   .enter (.amountWei "007"), .enter (.amountWei "-1"), .enter (.nonce 0), .build,
   .enter (.feeWei "1"), .enter (.timestamp 1700000000000), .enter (.feeWei "5")]

/-- Its payment. -/
def oddPayment : Payment :=
  ⟨⟨Vector.replicate 32 0xab⟩, ⟨7⟩, ⟨5⟩, 0, some 1700000000000⟩

theorem build_last_accepted_odd :
    let wallet := Wallet.ofSecret Wallet.sampleScheme Wallet.sampleSecret
    (empty.run (oddHistory.take 8)).2.build = .error (.incomplete "fee") ∧
    (empty.run oddHistory).2.build = .ok oddPayment ∧
    wallet.createTransaction oddPayment.recipient.text (.exact ⟨7⟩) (.exact ⟨5⟩) 0
      (some 1700000000000) 1 = .ok (wallet.sign oddPayment 0) := by
  intro wallet
  obtain ⟨-, -, -, hbuilds, -⟩ := build_last_accepted (oddHistory.take 8)
  obtain ⟨-, -, -, -, hsigns⟩ := build_last_accepted oddHistory
  have hparts : accepted (oddHistory.take 8) =
      [.nonce 3, .recipient ⟨Vector.replicate 32 0xab⟩, .amount ⟨7⟩, .nonce 0] := by
    rfl
  have hnoFee : ¬ Includes .fee (accepted (oddHistory.take 8)) := by
    rw [hparts]
    rintro ⟨value, hmem⟩
    simp at hmem
  have hrecipient : Includes .recipient (accepted (oddHistory.take 8)) := by
    rw [hparts]
    exact ⟨_, .tail _ (.head _)⟩
  have hamount : Includes .amount (accepted (oddHistory.take 8)) := by
    rw [hparts]
    exact ⟨_, .tail _ (.tail _ (.head _))⟩
  have hbuild : (empty.run oddHistory).2.build = .ok oddPayment := by
    rfl
  refine ⟨hbuilds.noFee hrecipient hamount hnoFee, hbuild, ?_⟩
  exact hsigns oddPayment _ hbuild (by rfl) wallet _ (.exact ⟨7⟩) (.exact ⟨5⟩)
    (Identifier.parse_text _) rfl rfl 0 1

end Remit.Draft
