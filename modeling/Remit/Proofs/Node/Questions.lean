import Remit.Proofs.Node.Sending

/-!
# Questions about what has a name

Four questions take the name of an account or of a transaction as a text that comes from outside.
The text is checked before anything is sent, and what is sent has the name in its one spelling and
nothing else of the text. So a text can do no more than name something, and texts that name the same
are the same question.

* `readsNames_address`, `readsNames_transaction`: the two ways to check a text;
* `isGated_of_readsNames`: a question that checks its text so, and asks for a path with the name;
* `IsGated.of_run_map`: one that uses a part of the answer to such a question;
* `questions_gated`: the four questions, and what a name in a path looks like.
-/

namespace Remit

namespace Node.Client

variable {α β : Type} {config : Config} {start : String}

/-! ### Questions -/

/-- **A question whose text is only a name.** Any other text is refused without asking the node. A
name is asked for at a path with its one spelling behind the given start, and nothing else is sent;
and two spellings of a name are the same question, on the wire, in time, and in the answer. -/
structure IsGated (config : Config) (start : String) (ask : String → Task exchange Error α) :
    Prop where
  refuses : ∀ text, ¬ Hex.IsHexText 64 text → ∀ (node : Node) (session : Session), ∃ reason,
    (ask text).run.run node.handle session = (.error (.validation reason), session)
  sends : ∀ text (bytes : FixedBytes 32), Hex.Denotes text bytes.toList →
    ∀ (node : Node) (session : Session), ∃ count, 1 ≤ count ∧ count ≤ max config.retries.toNat 1 ∧
      ((ask text).run.run node.handle session).2.sent =
        session.sent ++ List.replicate count ⟨.get, start ++ Hex.encode bytes.toList, none⟩
  spellings : ∀ text other (bytes : FixedBytes 32), Hex.Denotes text bytes.toList →
    Hex.Denotes other bytes.toList → ∀ (node : Node) (session : Session),
      (ask text).run.run node.handle session = (ask other).run.run node.handle session

/-- A reader of names: it refuses what is no name, and knows a name by its one spelling. -/
structure ReadsNames (read : String → Except Error String) : Prop where
  refuses : ∀ text, ¬ Hex.IsHexText 64 text → ∃ reason, read text = .error (.validation reason)
  reads : ∀ text (bytes : FixedBytes 32), Hex.Denotes text bytes.toList →
    read text = .ok (Hex.encode bytes.toList)

theorem readsNames_address : ReadsNames Address.canonical where
  refuses text htext := ⟨s!"invalid address: {text}", Address.canonical_of_not_isHexText htext⟩
  reads _ _ htext := (Address.isTaken_of_denotes htext).canonical

/-- How a transaction is named: its id has to be one, and is written again. -/
def transactionName (text : String) : Except Error String :=
  ((Identifier.parse .transaction text).mapError fun _ => badTransactionId text).map
    Identifier.text

theorem readsNames_transaction : ReadsNames transactionName where
  refuses text htext := by
    refine ⟨s!"invalid transaction id: {text}", ?_⟩
    unfold transactionName
    cases hparse : Identifier.parse .transaction text with
    | ok key => exact absurd (Identifier.exists_parse_eq_ok_iff.1 ⟨key, hparse⟩) htext
    | error e => rfl
  reads text bytes htext := by
    have hparse : Identifier.parse .transaction text = .ok ⟨bytes⟩ :=
      Identifier.parse_eq_ok_iff_denotes.2 htext
    rw [transactionName, hparse]
    rfl

/-- A question that reads a name and then asks for a path with it. -/
theorem isGated_of_readsNames {read : String → Except Error String} (hread : ReadsNames read)
    (decoder : Json.Decoder α) {ask : String → Task exchange Error α}
    (hask : ∀ text, ask text =
      Task.ofExcept (read text) >>= fun name => get config (start ++ name) decoder) :
    IsGated config start ask := by
  have hget : ∀ text (bytes : FixedBytes 32), Hex.Denotes text bytes.toList →
      ask text = get config (start ++ Hex.encode bytes.toList) decoder := by
    intro text bytes hbytes
    rw [hask, hread.reads text bytes hbytes, Task.ofExcept_ok_bind]
  refine ⟨fun text htext node session => ?_, fun text bytes hbytes node session => ?_,
    fun text other bytes hbytes hother node session => ?_⟩
  · -- What is no name fails before there is anything to send.
    obtain ⟨reason, hrefused⟩ := hread.refuses text htext
    have hfails : ask text = Task.ofExcept (.error (.validation reason)) := by
      rw [hask, hrefused, Task.ofExcept_error_bind]
    exact ⟨reason, by rw [hfails, Task.run_run_ofExcept]⟩
  · -- All attempts of a request are the same request.
    rw [hget text bytes hbytes]
    exact run_execute_sent node config _ _ session
  · -- Both spellings are the same task, whatever the node does with it.
    rw [hget text bytes hbytes, hget other bytes hother]

/-- A question that uses a part of the answer to another one. -/
theorem IsGated.of_run_map {ask : String → Task exchange Error α}
    {part : String → Task exchange Error β} {f : α → β} (h : IsGated config start ask)
    (hpart : ∀ text (node : Node) (session : Session),
      (part text).run.run node.handle session =
        let run := (ask text).run.run node.handle session
        (run.1.map f, run.2)) :
    IsGated config start part where
  refuses text htext node session := by
    obtain ⟨reason, hrun⟩ := h.refuses text htext node session
    refine ⟨reason, ?_⟩
    rw [hpart, hrun]
    rfl
  sends text bytes htext node session := by
    obtain ⟨count, hpos, hmax, hsent⟩ := h.sends text bytes htext node session
    refine ⟨count, hpos, hmax, ?_⟩
    rw [hpart]
    exact hsent
  spellings text other bytes htext hother node session := by
    rw [hpart, hpart, h.spellings text other bytes htext hother]

theorem isGated_account (config : Config) : IsGated config "/account/" (account config) :=
  isGated_of_readsNames readsNames_address Account.decoder fun _ => rfl

theorem isGated_balance (config : Config) : IsGated config "/balance/" (balance config) :=
  isGated_of_readsNames readsNames_address Balance.decoder fun _ => rfl

theorem isGated_nonce (config : Config) : IsGated config "/account/" (nonce config) :=
  (isGated_account config).of_run_map fun text node session => run_nonce node config text session

theorem isGated_transaction (config : Config) :
    IsGated config "/transaction/" (transaction config) := by
  refine isGated_of_readsNames readsNames_transaction TransactionReport.decoder fun text => ?_
  unfold transaction transactionName
  cases Identifier.parse .transaction text with
  | ok key => rfl
  | error e => rfl

/-- **Texts from outside only name things.** The account, the balance and the nonce of an address
and what has become of a transaction are asked for only if the text is 64 hexadecimal digits,
perhaps behind a mark. The only requests are questions for a path that ends with the name, and two
spellings of a name make no difference to them and to the answer. The name in the path is 64
lowercase digits, which are those of the text in lowercase, without the mark. -/
theorem questions_gated (config : Config) :
    IsGated config "/account/" (account config) ∧
    IsGated config "/balance/" (balance config) ∧
    IsGated config "/account/" (nonce config) ∧
    IsGated config "/transaction/" (transaction config) ∧
    ∀ text, (Hex.IsHexText 64 text ↔ ∃ bytes : FixedBytes 32, Hex.Denotes text bytes.toList) ∧
      ∀ bytes : FixedBytes 32, Hex.Denotes text bytes.toList →
        let name := Hex.encode bytes.toList
        name.length = 64 ∧ (∀ c ∈ name.toList, c ∈ Hex.lowercaseRow) ∧
        ∃ digits, Hex.HasDigits text digits ∧ digits.map Char.toLower = name.toList := by
  refine ⟨isGated_account config, isGated_balance config, isGated_nonce config,
    isGated_transaction config, fun text => ⟨Hex.isHexText_iff (n := 32), fun bytes hbytes => ?_⟩⟩
  have hlength : (Hex.encode bytes.toList).length = 64 := by
    rw [Hex.length_encode, Vector.length_toList]
  have hdecode : Hex.decode text = .ok bytes.toList := Hex.decode_eq_ok_iff.2 hbytes
  exact ⟨hlength, fun c hc => Hex.mem_lowercaseRow_of_mem_encode hc,
    Hex.decode_eq_ok_iff_map_toLower.1 hdecode⟩

/-- An address in capitals behind a mark. -/
def markedAddress : String :=
  "0XABABABABABABABABABABABABABABABABABABABABABABABABABABABABABABABAB"

/-- The same address as it is written. -/
def plainAddress : String :=
  "abababababababababababababababababababababababababababababababab"

/-- Both spellings of an address ask for the same path and learn the same, and a text that goes on
behind the address asks for nothing. -/
theorem questions_gated_marked :
    (nonce hastyConfig markedAddress).run.run silentNode.handle {} =
        (nonce hastyConfig plainAddress).run.run silentNode.handle {} ∧
    (∃ count, 1 ≤ count ∧ count ≤ 3 ∧
      ((nonce hastyConfig markedAddress).run.run silentNode.handle {}).2.sent =
        List.replicate count ⟨.get, "/account/" ++ plainAddress, none⟩) ∧
    ∃ reason, (nonce hastyConfig (plainAddress ++ "/../../status")).run.run silentNode.handle {} =
      (.error (.validation reason), {}) := by
  obtain ⟨-, -, hnonce, -, -⟩ := questions_gated hastyConfig
  have hmarked : Hex.Denotes markedAddress (Vector.replicate 32 0xab : FixedBytes 32).toList :=
    Hex.decode_eq_ok_iff.1 (by decide +kernel)
  have hplain : Hex.Denotes plainAddress (Vector.replicate 32 0xab : FixedBytes 32).toList :=
    Hex.decode_eq_ok_iff.1 (by decide +kernel)
  have hname : Hex.encode (Vector.replicate 32 0xab : FixedBytes 32).toList = plainAddress := by
    decide +kernel
  have hlonger : ¬ Hex.IsHexText 64 (plainAddress ++ "/../../status") := by
    rw [← Address.isValid_eq_true_iff]
    decide +kernel
  obtain ⟨count, hpos, hmax, hsent⟩ := hnonce.sends markedAddress _ hmarked silentNode {}
  rw [hname] at hsent
  exact ⟨hnonce.spellings _ _ _ hmarked hplain _ _,
    ⟨count, hpos, hmax, hsent.trans (List.nil_append _)⟩, hnonce.refuses _ hlonger silentNode {}⟩

end Node.Client

end Remit
