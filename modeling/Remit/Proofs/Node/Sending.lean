import Remit.Proofs.Node.Waiting
import Remit.Proofs.Text.Spellings
import Remit.Proofs.Transaction.Submission
import Remit.Proofs.Wallet.Signing

/-!
# One send, one transfer

A send looks up a nonce and hands in a transfer. Both may take several attempts, but the transfer is
made and signed only once, between the two, so whatever is handed in is the same each time, with
the same id and the same signature.

* `run_send`: a send in terms of its two requests;
* `run_execute_course`: how often a request is sent, and where a result comes from;
* `send_submits_once`: what a send sends and returns.
-/

namespace Remit

variable {S : Scheme}

/-! ### Parts -/

theorem AmountInput.exists_eq_format {amount : AmountInput} {e : Error}
    (h : amount.resolve = .error e) : ∃ reason, e = .format reason := by
  cases amount with
  | exact amount => cases h
  | coins value =>
    change Amount.ofCoins value = .error e at h
    unfold Amount.ofCoins at h
    split at h
    · cases h
      exact ⟨_, rfl⟩
    · split at h
      · split at h
        · cases h
        · cases h
          exact ⟨_, rfl⟩
      · cases h
        exact ⟨_, rfl⟩

theorem Wallet.createTransaction_of_parse {recipient : String} {address : Address}
    {amount fee : AmountInput} {a f : Amount}
    (hrecipient : Identifier.parse .account recipient = .ok address)
    (hamount : amount.resolve = .ok a) (hfee : fee.resolve = .ok f) (wallet : Wallet S)
    (nonce : UInt64) (timestamp : Option UInt64) (now : UInt64) :
    wallet.createTransaction recipient amount fee nonce timestamp now =
      .ok (wallet.sign ⟨address, a, f, nonce, timestamp⟩ now) :=
  createTransaction_eq_ok_iff.2
    ⟨_, payment_eq_ok_iff.2 ⟨hrecipient, hamount, hfee, rfl, rfl⟩, rfl⟩

theorem Wallet.createTransaction_of_not_isHexText {recipient : String}
    (h : ¬ Hex.IsHexText 64 recipient) (wallet : Wallet S) (amount fee : AmountInput)
    (nonce : UInt64) (timestamp : Option UInt64) (now : UInt64) :
    wallet.createTransaction recipient amount fee nonce timestamp now =
      .error (badRecipient recipient) := by
  unfold createTransaction payment
  cases hparse : Identifier.parse .account recipient with
  | ok address => exact absurd (Identifier.exists_parse_eq_ok_iff.1 ⟨address, hparse⟩) h
  | error e => rfl

theorem SignedTransfer.ofValue_json (t : SignedTransfer) : decoder.ofValue t.json = .ok t := by
  have hothers : AreOthers [] := fun m hm => absurd hm List.not_mem_nil
  refine ofValue_of_perm hothers ?_
  rw [List.append_nil]
  exact List.Perm.refl _

namespace Node.Client

variable {α : Type} {config : Config}

/-- The fee that is meant. -/
def SendRequest.feeInput (r : SendRequest S) : AmountInput :=
  r.fee.getD (.exact Policy.standardFee)

/-- The recipient is an address, and both amounts are amounts. -/
def SendRequest.IsInOrder (r : SendRequest S) : Prop :=
  Hex.IsHexText 64 r.recipient ∧ (∃ amount, r.amount.resolve = .ok amount) ∧
    ∃ fee, r.feeInput.resolve = .ok fee

/-- The request for the account of a wallet. -/
def lookup (wallet : Wallet S) : Request := .get s!"/account/{wallet.address.text}"

/-- The request that hands in a transfer. -/
def handIn (t : SignedTransfer) : Request := .post "/transaction" t.json

/-! ### Requests -/

/-- A request is sent at least once and at most as often as it may be, and a result is read from the
reply to the last one. -/
theorem run_execute_course (node : Node) (config : Config) (request : Request) (read : Reader α)
    (session : Session) :
    let run := (execute config request read).run.run node.handle session
    ∃ count, 1 ≤ count ∧ count ≤ max config.retries.toNat 1 ∧
      run.2.sent = session.sent ++ List.replicate count request ∧
      ∀ value, run.1 = .ok value → HeardLast node read run.2 value := by
  obtain ⟨count, hpos, hmax, hsent⟩ := run_execute_sent node config request read session
  refine ⟨count, hpos, hmax, hsent, fun value hvalue => ?_⟩
  exact heardLast_of_run_execute (Prod.ext hvalue rfl)

theorem account_address_text (config : Config) (address : Address) :
    account config address.text =
      get config s!"/account/{address.text}" Account.decoder := by
  unfold account
  rw [Address.canonical_of_parse (Identifier.parse_text address)]
  rfl

theorem run_lookup (node : Node) (config : Config) (wallet : Wallet S) (session : Session) :
    let run := (account config wallet.address.text).run.run node.handle session
    ∃ count, 1 ≤ count ∧ count ≤ max config.retries.toNat 1 ∧
      run.2.sent = session.sent ++ List.replicate count (lookup wallet) ∧
      ∀ reply, run.1 = .ok reply →
        HeardLast node (decodeEnvelope Account.decoder) run.2 reply := by
  rw [account_address_text]
  exact run_execute_course node config (lookup wallet) (decodeEnvelope Account.decoder) session

theorem run_nonce (node : Node) (config : Config) (address : String) (session : Session) :
    (nonce config address).run.run node.handle session =
      let run := (account config address).run.run node.handle session
      (run.1.map Account.nonce, run.2) := by
  unfold nonce
  rcases h : (account config address).run.run node.handle session with ⟨answer, heard⟩
  cases answer with
  | error e => rw [Task.run_run_bind_of_error h]; rfl
  | ok account => rw [Task.run_run_bind_of_ok h]; rfl

/-! ### Sending -/

/-- What is not in order is refused, and nothing is sent. -/
theorem run_send_of_not_isInOrder {r : SendRequest S} (h : ¬ r.IsInOrder) (node : Node)
    (config : Config) (session : Session) :
    ∃ e, (∃ reason, e = .validation reason ∨ e = .format reason) ∧
      (send config r).run.run node.handle session = (.error e, session) := by
  by_cases hrecipient : Hex.IsHexText 64 r.recipient
  · obtain ⟨address, haddress⟩ := Identifier.exists_parse_eq_ok_iff.2 hrecipient
    unfold send
    rw [Address.canonical_of_parse haddress]
    cases hamount : r.amount.resolve with
    | error e =>
      obtain ⟨reason, rfl⟩ := AmountInput.exists_eq_format hamount
      exact ⟨_, ⟨reason, Or.inr rfl⟩, rfl⟩
    | ok amount =>
      cases hfee : r.feeInput.resolve with
      | ok fee => exact absurd ⟨hrecipient, ⟨amount, hamount⟩, fee, hfee⟩ h
      | error e =>
        obtain ⟨reason, rfl⟩ := AmountInput.exists_eq_format hfee
        rw [show (r.fee.getD (.exact Policy.standardFee)).resolve = _ from hfee]
        exact ⟨_, ⟨reason, Or.inr rfl⟩, rfl⟩
  · unfold send
    rw [Address.canonical_of_not_isHexText hrecipient]
    exact ⟨_, ⟨_, Or.inl rfl⟩, rfl⟩

/-- **A send in terms of its two requests**: the account of the wallet is asked for, and if there is
an answer, a transfer with its nonce and the time of the answer is handed in. -/
theorem run_send {r : SendRequest S} {address : Address} {amount fee : Amount}
    (hrecipient : Identifier.parse .account r.recipient = .ok address)
    (hamount : r.amount.resolve = .ok amount) (hfee : r.feeInput.resolve = .ok fee) (node : Node)
    (config : Config) (session : Session) :
    (send config r).run.run node.handle session =
      let run := (account config r.wallet.address.text).run.run node.handle session
      match run.1 with
      | .error e => (.error e, run.2)
      | .ok account =>
        let timestamp := (node.clock run.2.now).milliseconds
        let t := r.wallet.sign ⟨address, amount, fee, account.nonce, some timestamp⟩ timestamp
        (submit config t).run.run node.handle run.2 := by
  have hnonce := run_nonce node config r.wallet.address.text session
  have hfee : (r.fee.getD (.exact Policy.standardFee)).resolve = .ok fee := hfee
  unfold send
  rw [Address.canonical_of_parse hrecipient, Task.ofExcept_ok_bind, hamount,
    Task.ofExcept_ok_bind, hfee, Task.ofExcept_ok_bind]
  rcases h : (account config r.wallet.address.text).run.run node.handle session with ⟨answer, heard⟩
  rw [h] at hnonce
  cases answer with
  | error e => rw [Task.run_run_bind_of_error hnonce]
  | ok account =>
    rw [Task.run_run_bind_of_ok hnonce,
      Task.run_run_bind_of_ok (show timestamp.run.run node.handle heard =
        (.ok (node.clock heard.now).milliseconds, heard) from rfl)]
    rw [Wallet.createTransaction_of_parse (Identifier.parse_text address) rfl rfl]
    rfl

/-- **One send hands in one transfer**, for every node. If the request is not in order, nothing is
sent. Otherwise the account of the wallet is asked for. If that fails, its error is the result and
there is nothing else. If it succeeds, one transfer is made, with the nonce of the account and one
timestamp, and only this transfer is handed in, as often as it takes; a result is read from the
reply to the last submission. -/
theorem send_submits_once (node : Node) (config : Config) (r : SendRequest S) (session : Session) :
    let attempts := max config.retries.toNat 1
    let run := (send config r).run.run node.handle session
    (¬ r.IsInOrder → run.2 = session ∧
      ∃ reason, run.1 = .error (.validation reason) ∨ run.1 = .error (.format reason)) ∧
    (r.IsInOrder → ∃ lookups answer heard, 1 ≤ lookups ∧ lookups ≤ attempts ∧
      (account config r.wallet.address.text).run.run node.handle session = (answer, heard) ∧
      heard.sent = session.sent ++ List.replicate lookups (lookup r.wallet) ∧
      (∀ e, answer = .error e → run = (.error e, heard)) ∧
      ∀ account, answer = .ok account →
        HeardLast node (decodeEnvelope Account.decoder) heard account ∧
        ∃ timestamp t submissions, 1 ≤ submissions ∧ submissions ≤ attempts ∧
          (∀ now, r.wallet.createTransaction r.recipient r.amount r.feeInput account.nonce
            (some timestamp) now = .ok t) ∧
          run.2.sent = heard.sent ++ List.replicate submissions (handIn t) ∧
          SignedTransfer.decoder.ofValue t.json = .ok t ∧
          ∀ report, run.1 = .ok report →
            HeardLast node (decodeEnvelope TransactionReport.decoder) run.2 report) := by
  intro attempts run
  constructor
  · intro h
    obtain ⟨e, ⟨reason, he⟩, hrun⟩ := run_send_of_not_isInOrder h node config session
    rw [show run = _ from hrun]
    refine ⟨rfl, reason, ?_⟩
    rcases he with rfl | rfl
    · exact Or.inl rfl
    · exact Or.inr rfl
  · rintro ⟨hrecipient, ⟨amount, hamount⟩, fee, hfee⟩
    obtain ⟨address, haddress⟩ := Identifier.exists_parse_eq_ok_iff.2 hrecipient
    have hrun : run = _ := run_send haddress hamount hfee node config session
    obtain ⟨lookups, hpos, hmax, hsent, hheard⟩ := run_lookup node config r.wallet session
    rcases h : (account config r.wallet.address.text).run.run node.handle session with
      ⟨answer, heard⟩
    rw [h] at hrun hsent hheard
    refine ⟨lookups, answer, heard, hpos, hmax, rfl, hsent, ?_, ?_⟩
    · rintro e rfl
      exact hrun
    · rintro account rfl
      set timestamp := (node.clock heard.now).milliseconds
      set t := r.wallet.sign ⟨address, amount, fee, account.nonce, some timestamp⟩ timestamp
      have hsubmit : run = (submit config t).run.run node.handle heard := hrun
      obtain ⟨submissions, hpos', hmax', hsent', hheard'⟩ := run_execute_course node config
        (handIn t) (decodeEnvelope TransactionReport.decoder) heard
      rw [hsubmit]
      refine ⟨hheard account rfl, timestamp, t, submissions, hpos', hmax', ?_, hsent', ?_, hheard'⟩
      · intro now
        exact Wallet.createTransaction_of_parse haddress hamount hfee r.wallet _ _ now
      · exact SignedTransfer.ofValue_json t

/-- A node that knows an account, and loses the first request. -/
def forgetfulNode : Node where
  deliver index _ _ := match index with
    | 1 => .arrives 20 (.ok ⟨200, "\x7b\"success\": true, \"data\": \x7b\"address\": \"" ++
        silentId ++ "\", \"balance\": \"0\", \"nonce\": 41\x7d\x7d"⟩)
    | _ => .lost
  clock now := ⟨now, 0⟩

/-- Five wei. -/
def smallRequest : SendRequest Wallet.sampleScheme :=
  ⟨Wallet.ofSecret Wallet.sampleScheme Wallet.sampleSecret, silentId, .exact ⟨5⟩, none⟩

/-- The account is asked for twice, and what is handed in then has the nonce of the one answer. -/
theorem send_submits_once_forgetful :
    smallRequest.IsInOrder ∧
    ∃ timestamp t submissions, 1 ≤ submissions ∧ submissions ≤ 3 ∧
      (∀ now, smallRequest.wallet.createTransaction silentId (.exact ⟨5⟩)
        (.exact Policy.standardFee) 41 (some timestamp) now = .ok t) ∧
      ((send hastyConfig smallRequest).run.run forgetfulNode.handle {}).2.sent =
        List.replicate 2 (lookup smallRequest.wallet) ++ List.replicate submissions (handIn t) := by
  have hparse : Identifier.parse .account silentId = .ok ⟨Vector.replicate 32 7⟩ := by
    cbv
  have horder : smallRequest.IsInOrder :=
    ⟨Identifier.exists_parse_eq_ok_iff.1 ⟨_, hparse⟩, ⟨_, rfl⟩, _, rfl⟩
  have haccount : (account hastyConfig smallRequest.wallet.address.text).run.run
      forgetfulNode.handle {} = (.ok ⟨⟨Vector.replicate 32 7⟩, ⟨0⟩, 41⟩,
        ⟨150, List.replicate 2 (lookup smallRequest.wallet)⟩) := by
    cbv
  obtain ⟨_, answer, heard, -, -, hanswer, -, -, hok⟩ :=
    (send_submits_once forgetfulNode hastyConfig smallRequest {}).2 horder
  obtain ⟨rfl, rfl⟩ := Prod.mk.inj (haccount.symm.trans hanswer)
  obtain ⟨-, timestamp, t, submissions, hpos, hmax, hmade, hsent, -⟩ := hok _ rfl
  exact ⟨horder, timestamp, t, submissions, hpos, hmax, hmade, hsent⟩

end Node.Client

end Remit
