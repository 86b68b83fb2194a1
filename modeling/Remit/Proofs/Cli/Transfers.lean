import Remit.Cli.Run
import Remit.Proofs.Node.Sending
import Remit.Proofs.Text.Coins

/-!
# Transfers from the command line

A transfer is carried out over files, a node and a console, all of which may be any. Only one of its
steps has to do with the node before there is a report: `submitTransfer`, which goes one of two
ways. With a nonce it signs and hands in, without one it is a send. Both ways sign the same payment,
so what is handed in is one function of the nonce and the time (`handed`), and both refuse what is
no address.

* `submitTransfer_submits`: what is sent until there is a report, on either way;
* `sendTransfer_exact`: when a transfer sends nothing, and what it hands in otherwise.
-/

namespace Remit.Cli

open Node Node.Client

variable {S : Scheme} {φ κ α : Type}

/-! ### Surroundings -/

/-- Any files, any node, and any console. -/
def surroundings (disk : Handler FileSystem.files φ) (node : Node) (terminal : Handler console κ) :
    Handler world (φ × Session × κ) :=
  disk.both (node.handle.both terminal)

section Steps

variable (disk : Handler FileSystem.files φ) (node : Node) (terminal : Handler console κ)
  (stored : φ) (session : Session) (shown : κ)

theorem run_onKeystore (task : Task FileSystem.files Keystore.Failure α) :
    (onKeystore task).run.run (surroundings disk node terminal) (stored, session, shown) =
      ((task.run.run disk stored).1.mapError Failure.ofKeystore, (task.run.run disk stored).2,
        session, shown) := by
  rw [onKeystore, surroundings, Task.run_run_left, Task.run_run_mapError]

theorem run_onNode (task : Task exchange Error α) :
    (onNode task).run.run (surroundings disk node terminal) (stored, session, shown) =
      ((task.run.run node.handle session).1.mapError Failure.ofError, stored,
        (task.run.run node.handle session).2, shown) := by
  rw [onNode, surroundings, Task.run_run_right, Task.run_run_left, Task.run_run_mapError]

/-- Printing is nothing to the files and the node. -/
theorem run_print (line : String) :
    ∃ shown', (print line).run.run (surroundings disk node terminal) (stored, session, shown) =
      (.ok (), stored, session, shown') :=
  ⟨_, rfl⟩

/-- What a console has shown once the lines are printed on it, one after the other. -/
def printed (lines : List String) : κ :=
  lines.foldl (fun shown line => (terminal (.print line) shown).2) shown

theorem run_printAll (lines : List String) :
    (printAll lines).run.run (surroundings disk node terminal) (stored, session, shown) =
      (.ok (), stored, session, printed terminal shown lines) := by
  induction lines generalizing shown with
  | nil => rfl
  | cons line rest ih =>
    have hprint : (print line).run.run (surroundings disk node terminal) (stored, session, shown) =
        (.ok (), stored, session, (terminal (.print line) shown).2) := rfl
    show (print line >>= fun _ => printAll rest).run.run _ _ = _
    rw [Task.run_run_bind_of_ok hprint]
    exact ih _

end Steps

/-! ### What is asked for -/

/-- The fee that is meant, which is the least one unless another is given. -/
def IsFee : Option String → Amount → Prop
  | some text, fee => Amount.IsCoins text fee
  | none, fee => fee = Policy.standardFee

/-- The arguments of a transfer mean this one. -/
structure Means (S : Scheme) (keystore : Keystore) (disk : Handler FileSystem.files φ) (stored : φ)
    (a : SendArguments) (wallet : Wallet S) (recipient : Address) (amount fee : Amount) :
    Prop where
  wallet : ∃ named stored', (keystore.get S a.wallet).run.run disk stored = (.ok named, stored') ∧
    named.wallet = wallet
  recipient : Hex.Denotes a.recipient recipient.bytes.toList
  amount : Amount.IsCoins a.amount amount
  fee : IsFee a.fee fee

/-- The request that hands in a transfer. -/
def handed (wallet : Wallet S) (recipient : Address) (amount fee : Amount)
    (nonce timestamp : UInt64) : Request :=
  let t : Transfer := ⟨wallet.address.text, recipient.text, toString amount.wei, toString fee.wei,
    nonce, timestamp⟩
  .post "/transaction" (t.sign wallet.keys).json

/-- What is sent until there is a report or a failure. If the nonce was given, it is only the
transfer. Otherwise it is the question for the account first, and the transfer if that was
answered, with the nonce of the answer. -/
inductive Submits (node : Node) (config : Config) (wallet : Wallet S)
    (handed : UInt64 → UInt64 → Request) (session : Session) :
    Option UInt64 → List Request → Prop where
  | given {nonce timestamp : UInt64} {count : Nat} (hpos : 1 ≤ count)
      (hmax : count ≤ max config.retries.toNat 1) :
    Submits node config wallet handed session (some nonce)
      (List.replicate count (handed nonce timestamp))
  | asked {reply : Account} {heard : Session} {lookups count : Nat} {timestamp : UInt64}
      (haccount : (account config wallet.address.text).run.run node.handle session =
        (.ok reply, heard))
      (hsent : heard.sent = session.sent ++ List.replicate lookups (lookup wallet))
      (hheard : HeardLast node (decodeEnvelope Account.decoder) heard reply)
      (hpos : 1 ≤ lookups) (hmax : lookups ≤ max config.retries.toNat 1)
      (hpos' : 1 ≤ count) (hmax' : count ≤ max config.retries.toNat 1) :
    Submits node config wallet handed session none
      (List.replicate lookups (lookup wallet) ++
        List.replicate count (handed reply.nonce timestamp))
  | unanswered {e : Error} {heard : Session} {lookups : Nat}
      (haccount : (account config wallet.address.text).run.run node.handle session =
        (.error e, heard))
      (hpos : 1 ≤ lookups) (hmax : lookups ≤ max config.retries.toNat 1) :
    Submits node config wallet handed session none (List.replicate lookups (lookup wallet))

/-! ### The two ways -/

theorem run_submitTransfer_of_not_isHexText {recipient : String}
    (h : ¬ Hex.IsHexText 64 recipient) (config : Config) (wallet : Wallet S) (amount fee : Amount)
    (nonce : Option UInt64) (node : Node) (session : Session) :
    ∃ e, (submitTransfer S config wallet recipient amount fee nonce).run.run node.handle session =
      (.error e, session) := by
  cases nonce with
  | some nonce =>
    refine ⟨Wallet.badRecipient recipient, ?_⟩
    have hpresent : timestamp.run.run node.handle session =
        (.ok (node.clock session.now).milliseconds, session) := rfl
    unfold submitTransfer
    dsimp only
    rw [Task.run_run_bind_of_ok hpresent, Wallet.createTransaction_of_not_isHexText h,
      Task.ofExcept_error_bind, Task.run_run_ofExcept]
  | none =>
    have horder : ¬ (SendRequest.mk wallet recipient (.exact amount)
        (some (.exact fee))).IsInOrder := fun horder => h horder.1
    obtain ⟨e, -, hrun⟩ := run_send_of_not_isInOrder horder node config session
    exact ⟨e, hrun⟩

theorem submitTransfer_submits {recipient : String} {address : Address}
    (h : Identifier.parse .account recipient = .ok address) (config : Config) (wallet : Wallet S)
    (amount fee : Amount) (nonce : Option UInt64) (node : Node) (session : Session) :
    ∃ issued,
      ((submitTransfer S config wallet recipient amount fee nonce).run.run node.handle
        session).2.sent = session.sent ++ issued ∧
      Submits node config wallet (handed wallet address amount fee) session nonce issued := by
  cases nonce with
  | some nonce =>
    -- To sign at the present is to sign a payment that has the present as its time.
    set present := (node.clock session.now).milliseconds
    set t := wallet.sign ⟨address, amount, fee, nonce, some present⟩ present
    have hrun : (submitTransfer S config wallet recipient amount fee (some nonce)).run.run
        node.handle session = (submit config t).run.run node.handle session := by
      have hnow : timestamp.run.run node.handle session = (.ok present, session) := rfl
      unfold submitTransfer
      dsimp only
      rw [Task.run_run_bind_of_ok hnow, Wallet.createTransaction_of_parse h rfl rfl,
        Task.ofExcept_ok_bind]
      rfl
    obtain ⟨count, hpos, hmax, hsent, -⟩ := run_execute_course node config (handIn t)
      (decodeEnvelope TransactionReport.decoder) session
    rw [hrun]
    exact ⟨_, hsent, .given hpos hmax⟩
  | none =>
    obtain ⟨lookups, hpos, hmax, hlooked, hheard⟩ := run_lookup node config wallet session
    let r : SendRequest S := ⟨wallet, recipient, .exact amount, some (.exact fee)⟩
    have hamount : r.amount.resolve = .ok amount := rfl
    have hfee : r.feeInput.resolve = .ok fee := rfl
    have hrun := run_send (r := r) h hamount hfee node config session
    rcases haccount : (account config wallet.address.text).run.run node.handle session with
      ⟨answer, heard⟩
    rw [haccount] at hrun hlooked hheard
    show ∃ issued, ((send config r).run.run node.handle session).2.sent =
      session.sent ++ issued ∧ _
    rw [hrun]
    cases answer with
    | error e => exact ⟨_, hlooked, .unanswered haccount hpos hmax⟩
    | ok reply =>
      set present := (node.clock heard.now).milliseconds
      set t := wallet.sign ⟨address, amount, fee, reply.nonce, some present⟩ present
      obtain ⟨count, hpos', hmax', hsent, -⟩ := run_execute_course node config (handIn t)
        (decodeEnvelope TransactionReport.decoder) heard
      refine ⟨List.replicate lookups (lookup wallet) ++ List.replicate count
        (handed wallet address amount fee reply.nonce present), ?_,
        .asked haccount hlooked (hheard reply rfl) hpos hmax hpos' hmax'⟩
      rw [← List.append_assoc, ← hlooked]
      exact hsent

/-! ### The steps of a transfer -/

/-- Reads the fee. -/
def readFee : Option String → Except Failure Amount
  | some text => (Amount.parseCoins text).mapError (Failure.because "invalid --fee")
  | none => .ok Policy.standardFee

/-- What happens once there is a report. -/
def follow (config : Config) (wait : Bool) (report : TransactionReport) : Step Unit := do
  printAll (reportLines report)
  if wait then
    print "Waiting for confirmation..."
    printAll (reportLines (← onNode (awaitFinal config report.id)))

/-- What happens once the amounts are read. -/
def carryOut (S : Scheme) (config : Config) (named : Keystore.NamedWallet S) (a : SendArguments)
    (amount fee : Amount) : Step Unit := do
  print s!"Sending {amount.coinText} RELYO from '{named.name}' to {a.recipient}..."
  let report ← onNode (submitTransfer S config named.wallet a.recipient amount fee a.nonce)
  follow config a.wait report

theorem sendTransfer_eq (S : Scheme) (config : Config) (keystore : Keystore) (a : SendArguments) :
    sendTransfer S config keystore a = (do
      let named ← onKeystore (keystore.get S a.wallet)
      let amount ← Task.ofExcept
        ((Amount.parseCoins a.amount).mapError (Failure.because "invalid --amount"))
      let fee ← Task.ofExcept (readFee a.fee)
      carryOut S config named a amount fee) := by
  -- The fee is read on one of two ways, and both go on with the same steps.
  unfold sendTransfer carryOut follow
  cases a.fee with
  | some text => rfl
  | none => rfl

theorem readFee_eq_ok_iff {text? : Option String} {fee : Amount} :
    readFee text? = .ok fee ↔ IsFee text? fee := by
  cases text? with
  | none =>
    show Except.ok Policy.standardFee = .ok fee ↔ fee = Policy.standardFee
    rw [Except.ok.injEq, eq_comm]
  | some text =>
    show (Amount.parseCoins text).mapError _ = .ok fee ↔ Amount.IsCoins text fee
    rw [← Amount.parseCoins_eq_ok_iff]
    cases Amount.parseCoins text with
    | ok amount =>
      show Except.ok amount = .ok fee ↔ Except.ok amount = .ok fee
      rw [Except.ok.injEq, Except.ok.injEq]
    | error e =>
      constructor
      · intro h
        cases h
      · intro h
        cases h

section Course

variable (disk : Handler FileSystem.files φ) (node : Node) (terminal : Handler console κ)
  (stored : φ) (session : Session) (shown : κ) (config : Config)

theorem sendsOnly_awaitFinal (id : TransactionId) :
    SendsOnly (.get s!"/transaction/{id.text}") (awaitFinal config id).run := by
  refine (sendsOnly_poll (Identifier.parse_text id) config {} enoughPolls 0 _).bind fun result => ?_
  cases result with
  | some result => trivial
  | none => trivial

/-- Once there is a report, nothing is sent but questions for what has become of it. -/
theorem run_follow (wait : Bool) (report : TransactionReport) :
    ∃ waits, (wait = false → waits = 0) ∧
      ((follow config wait report).run.run (surroundings disk node terminal)
        (stored, session, shown)).2.2.1.sent =
      session.sent ++ List.replicate waits (.get s!"/transaction/{report.id.text}") := by
  have hprint := run_printAll disk node terminal stored session shown (reportLines report)
  unfold follow
  rw [Task.run_run_bind_of_ok hprint]
  cases wait with
  | false =>
    refine ⟨0, fun _ => rfl, ?_⟩
    rw [List.replicate_zero, List.append_nil]
    rfl
  | true =>
    obtain ⟨told, hprint'⟩ :=
      run_print disk node terminal stored session (printed terminal shown (reportLines report))
        "Waiting for confirmation..."
    obtain ⟨waits, hwaits⟩ := (sendsOnly_awaitFinal config report.id).run node session
    have hwait := run_onNode disk node terminal stored session told (awaitFinal config report.id)
    refine ⟨waits, fun h => absurd h (by decide), ?_⟩
    rw [if_pos rfl, Task.run_run_bind_of_ok hprint', ← hwaits]
    cases h : ((awaitFinal config report.id).run.run node.handle session).1 with
    | error e =>
      rw [h] at hwait
      rw [Task.run_run_bind_of_error hwait]
    | ok final =>
      rw [h] at hwait
      have hlast := run_printAll disk node terminal stored
        ((awaitFinal config report.id).run.run node.handle session).2 told (reportLines final)
      rw [Task.run_run_bind_of_ok hwait, hlast]

variable (named : Keystore.NamedWallet S) (a : SendArguments) (amount fee : Amount)

theorem run_carryOut_of_not_isHexText (h : ¬ Hex.IsHexText 64 a.recipient) :
    ((carryOut S config named a amount fee).run.run (surroundings disk node terminal)
      (stored, session, shown)).2.2.1 = session := by
  obtain ⟨e, hsubmit⟩ := run_submitTransfer_of_not_isHexText h config named.wallet amount fee
    a.nonce node session
  obtain ⟨told, hprint⟩ := run_print disk node terminal stored session shown
    s!"Sending {amount.coinText} RELYO from '{named.name}' to {a.recipient}..."
  have hnode := run_onNode disk node terminal stored session told
    (submitTransfer S config named.wallet a.recipient amount fee a.nonce)
  rw [hsubmit] at hnode
  unfold carryOut
  rw [Task.run_run_bind_of_ok hprint, Task.run_run_bind_of_error hnode]

theorem run_carryOut {recipient : Address}
    (h : Identifier.parse .account a.recipient = .ok recipient) :
    ∃ (issued : List Request) (waits : Nat) (id : String),
      Submits node config named.wallet (handed named.wallet recipient amount fee) session a.nonce
        issued ∧
      (a.wait = false → waits = 0) ∧
      ((carryOut S config named a amount fee).run.run (surroundings disk node terminal)
        (stored, session, shown)).2.2.1.sent =
      session.sent ++ issued ++ List.replicate waits (.get s!"/transaction/{id}") := by
  obtain ⟨issued, hsent, hissued⟩ := submitTransfer_submits h config named.wallet amount fee
    a.nonce node session
  obtain ⟨told, hprint⟩ := run_print disk node terminal stored session shown
    s!"Sending {amount.coinText} RELYO from '{named.name}' to {a.recipient}..."
  have hnode := run_onNode disk node terminal stored session told
    (submitTransfer S config named.wallet a.recipient amount fee a.nonce)
  unfold carryOut
  rw [Task.run_run_bind_of_ok hprint]
  rcases hrun : (submitTransfer S config named.wallet a.recipient amount fee a.nonce).run.run
    node.handle session with ⟨answer, after⟩
  rw [hrun] at hsent hnode
  cases answer with
  | error e =>
    refine ⟨issued, 0, "", hissued, fun _ => rfl, ?_⟩
    rw [Task.run_run_bind_of_error hnode, List.replicate_zero, List.append_nil]
    exact hsent
  | ok report =>
    obtain ⟨waits, hwaits, hfollow⟩ :=
      run_follow disk node terminal stored after told config a.wait report
    refine ⟨issued, waits, report.id.text, hissued, hwaits, ?_⟩
    rw [Task.run_run_bind_of_ok hnode, hfollow, ← hsent]

end Course

/-! ### Transfers -/

theorem post_mem_of_submits {node : Node} {config : Config} {wallet : Wallet S}
    {handed : UInt64 → UInt64 → Request} {session : Session} {nonce : Option UInt64}
    {issued : List Request} (h : Submits node config wallet handed session nonce issued)
    {request : Request} (hmem : request ∈ issued) (hpost : request.method = .post) :
    ∃ nonce timestamp, request = handed nonce timestamp := by
  -- A question is no submission.
  have hlookup {count : Nat} (hmem : request ∈ List.replicate count (lookup wallet)) : False := by
    rw [List.eq_of_mem_replicate hmem] at hpost
    cases hpost
  cases h with
  | given _ _ => exact ⟨_, _, List.eq_of_mem_replicate hmem⟩
  | asked _ _ _ _ _ _ _ =>
    rcases List.mem_append.1 hmem with hmem | hmem
    · exact (hlookup hmem).elim
    · exact ⟨_, _, List.eq_of_mem_replicate hmem⟩
  | unanswered _ _ _ => exact (hlookup hmem).elim

section Exact

variable (S : Scheme) (config : Config) (keystore : Keystore) (disk : Handler FileSystem.files φ)
  (terminal : Handler console κ) (stored : φ) (a : SendArguments)

/-- What a node has seen after a transfer with or without a nonce. -/
def sessionAfter (nonce : Option UInt64) (node : Node) (session : Session) (shown : κ) : Session :=
  ((sendTransfer S config keystore { a with nonce := nonce }).run.run
    (surroundings disk node terminal) (stored, session, shown)).2.2.1

/-- The bodies that were handed in since. -/
def bodiesSince (session after : Session) : List Json :=
  (after.sent.drop session.sent.length).filterMap fun request =>
    if request.method = .post then request.body else none

variable {S keystore disk stored a}

/-- Arguments that mean no transfer are refused before anything is sent. -/
theorem sessionAfter_of_not_means
    (h : ∀ wallet recipient amount fee,
      ¬ Means S keystore disk stored a wallet recipient amount fee)
    (nonce : Option UInt64) (node : Node) (session : Session) (shown : κ) :
    sessionAfter S config keystore disk terminal stored a nonce node session shown = session := by
  have hget := run_onKeystore disk node terminal stored session shown (keystore.get S a.wallet)
  unfold sessionAfter
  rw [sendTransfer_eq]
  dsimp only
  rcases hstored : (keystore.get S a.wallet).run.run disk stored with ⟨answer, stored'⟩
  rw [hstored] at hget
  cases answer with
  | error e => rw [Task.run_run_bind_of_error hget]
  | ok named =>
    rw [Task.run_run_bind_of_ok hget]
    cases hamount : Amount.parseCoins a.amount with
    | error e => rfl
    | ok amount =>
      rw [show Except.mapError _ (.ok amount) = .ok amount from rfl, Task.ofExcept_ok_bind]
      cases hfee : readFee a.fee with
      | error e => rfl
      | ok fee =>
        rw [Task.ofExcept_ok_bind]
        refine run_carryOut_of_not_isHexText disk node terminal stored' session shown config named
          { a with nonce := nonce } amount fee fun hrecipient => ?_
        obtain ⟨recipient, hparse⟩ := Identifier.exists_parse_eq_ok_iff.2 hrecipient
        exact h named.wallet recipient amount fee ⟨⟨named, stored', hstored, rfl⟩,
          Identifier.parse_eq_ok_iff_denotes.1 hparse, Amount.parseCoins_eq_ok_iff.1 hamount,
          readFee_eq_ok_iff.1 hfee⟩

theorem sessionAfter_of_means {wallet : Wallet S} {recipient : Address} {amount fee : Amount}
    (h : Means S keystore disk stored a wallet recipient amount fee)
    (nonce : Option UInt64) (node : Node) (session : Session) (shown : κ) :
    ∃ (issued : List Request) (waits : Nat) (id : String),
      Submits node config wallet (handed wallet recipient amount fee) session nonce issued ∧
      (a.wait = false → waits = 0) ∧
      (sessionAfter S config keystore disk terminal stored a nonce node session shown).sent =
        session.sent ++ issued ++ List.replicate waits (.get s!"/transaction/{id}") := by
  obtain ⟨named, stored', hstored, rfl⟩ := h.wallet
  have hget := run_onKeystore disk node terminal stored session shown (keystore.get S a.wallet)
  rw [hstored] at hget
  have hparse := Identifier.parse_eq_ok_iff_denotes.2 h.recipient
  unfold sessionAfter
  rw [sendTransfer_eq]
  dsimp only
  rw [Task.run_run_bind_of_ok hget, Amount.parseCoins_eq_ok_iff.2 h.amount,
    show Except.mapError _ (.ok amount) = .ok amount from rfl, Task.ofExcept_ok_bind,
    readFee_eq_ok_iff.2 h.fee, Task.ofExcept_ok_bind]
  exact run_carryOut disk node terminal stored' session shown config named
    { a with nonce := nonce } amount fee hparse

theorem exists_eq_of_mem_bodiesSince {wallet : Wallet S} {recipient : Address}
    {amount fee : Amount} (h : Means S keystore disk stored a wallet recipient amount fee)
    {nonce : Option UInt64} {node : Node} {session : Session} {shown : κ} {body : Json}
    (hbody : body ∈ bodiesSince session
      (sessionAfter S config keystore disk terminal stored a nonce node session shown)) :
    ∃ n timestamp, .post "/transaction" body = handed wallet recipient amount fee n timestamp := by
  obtain ⟨issued, waits, id, hissued, -, hsent⟩ :=
    sessionAfter_of_means config terminal h nonce node session shown
  rw [bodiesSince, hsent, List.append_assoc, List.drop_left, List.mem_filterMap] at hbody
  obtain ⟨request, hmem, hrequest⟩ := hbody
  by_cases hpost : request.method = .post
  · rw [if_pos hpost] at hrequest
    rcases List.mem_append.1 hmem with hmem | hmem
    · obtain ⟨n, timestamp, rfl⟩ := post_mem_of_submits hissued hmem hpost
      cases hrequest
      exact ⟨n, timestamp, rfl⟩
    · rw [List.eq_of_mem_replicate hmem] at hpost
      cases hpost
  · rw [if_neg hpost] at hrequest
    cases hrequest

/-- **Transfers from the command line are exact.** Unless the wallet can be loaded, the amount and
the fee are decimals of at most 18 places and the recipient is an address, nothing is sent. If all
this is so, whatever is handed in is the transfer from the wallet to the recipient of exactly these
amounts, with the nonce that was given or else with the one that the node has told; the node is
only asked for it in the second case. This does not depend on which way the transfer goes: what is
handed in for the same nonce at the same time is the same. -/
theorem sendTransfer_exact (S : Scheme) (config : Config) (keystore : Keystore)
    (disk : Handler FileSystem.files φ) (terminal : Handler console κ) (stored : φ)
    (a : SendArguments) :
    let after := sessionAfter S config keystore disk terminal stored a
    ((∀ wallet recipient amount fee,
        ¬ Means S keystore disk stored a wallet recipient amount fee) →
      ∀ nonce node session shown, after nonce node session shown = session) ∧
    (∀ wallet recipient amount fee, Means S keystore disk stored a wallet recipient amount fee →
      ∀ nonce node session shown, ∃ (issued : List Request) (waits : Nat) (id : String),
        Submits node config wallet (handed wallet recipient amount fee) session nonce issued ∧
        (a.wait = false → waits = 0) ∧
        (after nonce node session shown).sent =
          session.sent ++ issued ++ List.replicate waits (.get s!"/transaction/{id}")) ∧
    ∀ nonce₁ node₁ session₁ shown₁ nonce₂ node₂ session₂ shown₂,
      ∀ body₁ ∈ bodiesSince session₁ (after nonce₁ node₁ session₁ shown₁),
      ∀ body₂ ∈ bodiesSince session₂ (after nonce₂ node₂ session₂ shown₂),
      ∃ t₁ t₂, SignedTransfer.decoder.ofValue body₁ = .ok t₁ ∧
        SignedTransfer.decoder.ofValue body₂ = .ok t₂ ∧
        (t₁.data.nonce = t₂.data.nonce → t₁.data.timestamp = t₂.data.timestamp →
          body₁ = body₂) := by
  intro after
  refine ⟨sessionAfter_of_not_means config terminal,
    fun wallet recipient amount fee h => sessionAfter_of_means config terminal h, ?_⟩
  intro nonce₁ node₁ session₁ shown₁ nonce₂ node₂ session₂ shown₂ body₁ hbody₁ body₂ hbody₂
  by_cases hmeans : ∃ wallet recipient amount fee,
      Means S keystore disk stored a wallet recipient amount fee
  · obtain ⟨wallet, recipient, amount, fee, h⟩ := hmeans
    obtain ⟨n₁, timestamp₁, heq₁⟩ := exists_eq_of_mem_bodiesSince config terminal h hbody₁
    obtain ⟨n₂, timestamp₂, heq₂⟩ := exists_eq_of_mem_bodiesSince config terminal h hbody₂
    cases heq₁
    cases heq₂
    refine ⟨_, _, SignedTransfer.ofValue_json _, SignedTransfer.ofValue_json _, ?_⟩
    intro hnonce htimestamp
    cases hnonce
    cases htimestamp
    rfl
  · -- Nothing was sent, so there is no body at all.
    have hnone : ∀ wallet recipient amount fee,
        ¬ Means S keystore disk stored a wallet recipient amount fee :=
      fun wallet recipient amount fee h => hmeans ⟨wallet, recipient, amount, fee, h⟩
    have hsame : after nonce₁ node₁ session₁ shown₁ = session₁ :=
      sessionAfter_of_not_means config terminal hnone nonce₁ node₁ session₁ shown₁
    rw [hsame, bodiesSince, List.drop_length] at hbody₁
    cases hbody₁

end Exact

/-! ### A stored wallet -/

/-- What the file of a wallet holds. -/
def fileOf (address secret : String) : Json :=
  .object [("version", .nat 1), ("name", .string "alice"),
    ("created_at", .string "1970-01-01T00:00:00Z"), ("address", .string address),
    ("public_key", .string ""), ("secret_key", .string secret)]

theorem ofText_fileOf (address secret : String) :
    Json.Document.ofText (fileOf address secret).render =
      ((fileOf address secret).toDocument, []) := by
  refine Json.Document.ofText_render ?_
  show Json.AreMembersExact _
  rw [Json.areMembersExact_iff]
  intro m hm
  simp only [List.mem_cons, List.not_mem_nil, or_false] at hm
  rcases hm with rfl | rfl | rfl | rfl | rfl | rfl
  · exact ⟨by decide, by decide⟩
  · trivial
  · trivial
  · trivial
  · trivial
  · trivial

theorem readRecord_fileOf (wallet : Wallet S) (path : FileSystem.Path) :
    Keystore.readRecord S path (fileOf wallet.address.text wallet.secretText).render =
      .ok ⟨"alice", ⟨0, 0⟩, wallet⟩ := by
  have hrecord (address secret : String) :
      Keystore.Record.decoder.ofText (fileOf address secret).render =
        .ok ⟨1, "alice", ⟨0, 0⟩, address, "", secret⟩ := by
    rw [Json.Decoder.ofText, ofText_fileOf]
    rfl
  have hserialized (address secret : String) :
      Wallet.Serialized.decoder.ofText (fileOf address secret).render =
        .ok ⟨some address, some "", some secret⟩ := by
    rw [Json.Decoder.ofText, ofText_fileOf]
    rfl
  have hwallet : Wallet.ofSerialized S (fileOf wallet.address.text wallet.secretText).render =
      .ok wallet := by
    rw [Wallet.ofSerialized, hserialized]
    exact Wallet.wallet_serialized wallet
  rw [Keystore.readRecord, hrecord]
  show (Wallet.ofSerialized _ _).mapError _ >>= _ = _
  rw [hwallet]
  rfl

/-- Files that hold one text wherever one looks, and cannot be changed. -/
def copiesOf (text : String) : Handler FileSystem.files Unit
  | .exists _, _ => (true, ())
  | .read _, _ => (.ok (Bytes.ofText text), ())
  | .makeDirectories _, _ => (.error .denied, ())
  | .createNew _ _, _ => (.error .denied, ())
  | .openEmpty _ _, _ => (.error .denied, ())
  | .setMode _ _, _ => (.error .denied, ())
  | .append _ _, _ => (.error .denied, ())
  | .sync _, _ => (.error .denied, ())
  | .list _, _ => (.error .denied, ())

theorem run_get_copiesOf {text : String} {named : Keystore.NamedWallet S}
    (h : ∀ path, Keystore.readRecord S path text = .ok named) :
    (Keystore.get S ⟨⟨[]⟩⟩ "alice").run.run (copiesOf text) () = (.ok named, ()) := by
  have hpath : (Keystore.pathOf ⟨⟨[]⟩⟩ "alice").run.run (copiesOf text) () =
      (.ok (FileSystem.Path.child ⟨[]⟩ "alice.json"), ()) := rfl
  have hread (path : FileSystem.Path) : (FileSystem.readText path).run.run (copiesOf text) () =
      (.ok text, ()) := by
    show Activity.run (copiesOf text) (match (Bytes.ofText text).toText? with
      | some text => .done (Except.ok text)
      | none => .done (Except.error FileSystem.Error.notText)) () = _
    rw [Bytes.toText?_ofText]
    rfl
  have hmapped (path : FileSystem.Path) (f : FileSystem.Error → Keystore.Failure) :
      ((FileSystem.readText path).mapError f).run.run (copiesOf text) () = (.ok text, ()) := by
    rw [Task.run_run_mapError, hread]
    rfl
  unfold Keystore.get
  rw [Task.run_run_bind_of_ok hpath]
  show Activity.run (copiesOf text) (ExceptT.run (Task.mapError _ (FileSystem.readText _) >>= _)) ()
    = _
  rw [Task.run_run_bind_of_ok (hmapped _ _), h]
  rfl

/-- A console that nobody reads. -/
def unread : Handler console Unit
  | .print _, _ => ((), ())
  | .remark _, _ => ((), ())
  | .freshSecret, _ => (Vector.replicate 32 0, ())

/-- The wallet of a known secret key. -/
def aliceWallet : Wallet Wallet.sampleScheme :=
  Wallet.ofSecret Wallet.sampleScheme Wallet.sampleSecret

/-- The file of the wallet. -/
def aliceText : String := (fileOf aliceWallet.address.text aliceWallet.secretText).render

/-- One and a half coins, to an address in digits. -/
def aliceArguments : SendArguments := ⟨"alice", silentId, "1.50", none, none, false⟩

theorem means_aliceArguments :
    Means Wallet.sampleScheme ⟨⟨[]⟩⟩ (copiesOf aliceText) () aliceArguments aliceWallet
      ⟨Vector.replicate 32 7⟩ ⟨1500000000000000000⟩ Policy.standardFee where
  wallet := ⟨_, _, run_get_copiesOf (readRecord_fileOf aliceWallet), rfl⟩
  recipient := by
    have hparse : Identifier.parse .account silentId = .ok ⟨Vector.replicate 32 7⟩ := by
      cbv
    exact Identifier.parse_eq_ok_iff_denotes.1 hparse
  amount := by
    refine Amount.parseCoins_eq_ok_iff.1 ?_
    cbv
  fee := rfl

/-- With the nonce 7, nothing but the transfer of one and a half coins is sent. -/
theorem sendTransfer_exact_alice :
    Means Wallet.sampleScheme ⟨⟨[]⟩⟩ (copiesOf aliceText) () aliceArguments aliceWallet
      ⟨Vector.replicate 32 7⟩ ⟨1500000000000000000⟩ Policy.standardFee ∧
    ∃ issued, Submits silentNode hastyConfig aliceWallet
        (handed aliceWallet ⟨Vector.replicate 32 7⟩ ⟨1500000000000000000⟩ Policy.standardFee) {}
        (some 7) issued ∧
      (sessionAfter Wallet.sampleScheme hastyConfig ⟨⟨[]⟩⟩ (copiesOf aliceText) unread ()
        aliceArguments (some 7) silentNode {} ()).sent = issued := by
  obtain ⟨issued, waits, id, hissued, hwaits, hsent⟩ :=
    (sendTransfer_exact Wallet.sampleScheme hastyConfig ⟨⟨[]⟩⟩ (copiesOf aliceText) unread ()
      aliceArguments).2.1 _ _ _ _ means_aliceArguments (some 7) silentNode {} ()
  rw [hwaits rfl, List.replicate_zero, List.append_nil] at hsent
  exact ⟨means_aliceArguments, issued, hissued, hsent⟩

end Remit.Cli
