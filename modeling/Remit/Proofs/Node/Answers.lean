import Remit.Node.Envelope
import Remit.Node.Payload
import Remit.Proofs.Json.Records
import Remit.Proofs.Json.Reordering

/-!
# Answers read back

Whatever a node has to tell, a client that reads the answer has just that. The way there leads
through a text, a value in an envelope and the members of this value, and the order of the members
is lost twice: whoever writes an answer may choose one, and the envelope sorts the members of its
data before they are looked at. What makes up for this is that everything a node tells is flat, and
that the decoder of each payload takes the members in any order (`Carries`).

* `Carries.ofRecord`: a flat record, given what each of its fields reads;
* `decodeEnvelope_ok`, `decodeEnvelope_refusal`: the envelopes of data and of refusals;
* `answers_read_back`: every payload, the health of a node, and every refusal.
-/

namespace Remit.Node

open Json Json.Decoder

/-- The text is one of those that stand for the value: with or without blanks, and with the members
of every object in any order. -/
def IsTextOf (value : Json) (text : String) : Prop :=
  ∃ w, Reordered value w ∧ (text = w.render ∨ text = w.renderIndented)

theorem isTextOf_render (value : Json) : IsTextOf value value.render :=
  ⟨value, reordered_self value, .inl rfl⟩

theorem IsTextOf.exists_ofText {value : Json} {text : String} (h : IsTextOf value text) :
    ∃ w, Reordered value w ∧ (w.IsExact → Document.ofText text = (w.toDocument, [])) := by
  obtain ⟨w, hw, rfl | rfl⟩ := h
  · exact ⟨w, hw, Document.ofText_render⟩
  · exact ⟨w, hw, Document.ofText_renderIndented⟩

variable {α : Type}

/-! ### Values that are carried -/

/-- What is written of a value is flat, and the decoder takes it in any order for the value. -/
structure Carries (json : α → Json) (decoder : Decoder α) : Prop where
  isFlat : ∀ x, (json x).IsFlat
  reads : ∀ x w origin level, Reordered (json x) w → Origin.enter origin = .ok level →
    decoder origin w.toDocument = .ok x

/-- **A flat record is carried** if its fields ask for what is written. -/
theorem Carries.ofRecord {members : α → List (String × Json)} {fields : Fields α} (name : String)
    (hmembers : ∀ x, ∀ m ∈ members x, m.2.IsPlain)
    (hdistinct : ∀ x, ((members x).map Prod.fst).Nodup)
    (hasks : ∀ x origin, fields.Asks origin (members x) x) :
    Carries (fun x => .object (members x)) (record name fields) where
  isFlat x := .object (hmembers x) (hdistinct x)
  reads x w origin level hw hlevel := by
    obtain ⟨all, rfl, hall⟩ := (reordered_object_iff (hmembers x)).1 hw
    exact record_of_perm hlevel name (hasks x level) hall (hdistinct x)

theorem ofString_eq_ok {read : String → Except String α} {text : String} {x : α}
    (h : read text = .ok x) (origin : Origin) :
    ofString read origin (Json.string text).toDocument = .ok x := by
  simp only [ofString, Json.toDocument, string_toDocument, bind, Except.bind, h]

theorem identifier_decoder_json {kind : Identifier.Kind} (id : Identifier kind) (origin : Origin) :
    Identifier.decoder kind origin id.json.toDocument = .ok id := by
  refine ofString_eq_ok ?_ origin
  rw [Identifier.parse_text]
  rfl

theorem amount_decoder_json (amount : Amount) (origin : Origin) :
    Amount.decoder origin amount.json.toDocument = .ok amount := by
  refine ofString_eq_ok ?_ origin
  rw [Amount.parseWei_weiText]
  rfl

theorem transactionStatus_decoder_json (status : TransactionStatus) (origin : Origin) :
    TransactionStatus.decoder origin status.json.toDocument = .ok status := by
  cases status <;> rfl

theorem Status.carries : Carries Status.json Status.decoder := by
  refine Carries.ofRecord "NodeStatus" (fun s => ?_) (fun s => ?_) fun s origin => ?_
  · simp only [List.forall_mem_cons]
    exact ⟨.string _, .word _, .string _, .word _, .bool _, .word _, List.forall_mem_nil _⟩
  · show ["node_id", "state_version", "state_root", "peer_count", "is_validator",
      "mempool_size"].Nodup
    decide
  · exact ((((((Fields.Asks.pure Status.mk).and (.required rfl)).and
      (.required (word64_nat origin s.stateVersion))).and (.required rfl)).and
      (.required (word64_nat origin s.peerCount))).and (.required rfl)).and
      (.required (word64_nat origin s.mempoolSize))

theorem Account.carries : Carries Account.json Account.decoder := by
  refine Carries.ofRecord "AccountInfo" (fun a => ?_) (fun a => ?_) fun a origin => ?_
  · simp only [List.forall_mem_cons]
    exact ⟨.string _, .string _, .word _, List.forall_mem_nil _⟩
  · show ["address", "balance", "nonce"].Nodup
    decide
  · exact (((Fields.Asks.pure Account.mk).and
      (.required (identifier_decoder_json a.address origin))).and
      (.required (amount_decoder_json a.balance origin))).and
      (.required (word64_nat origin a.nonce))

theorem Balance.carries : Carries Balance.json Balance.decoder := by
  refine Carries.ofRecord "BalanceInfo" (fun b => ?_) (fun b => ?_) fun b origin => ?_
  · simp only [List.forall_mem_cons]
    exact ⟨.string _, .string _, .string _, List.forall_mem_nil _⟩
  · show ["address", "balance", "balance_relyo"].Nodup
    decide
  · exact (((Fields.Asks.pure Balance.mk).and
      (.required (identifier_decoder_json b.address origin))).and
      (.required (amount_decoder_json b.amount origin))).and (.required rfl)

theorem TransactionReport.carries : Carries TransactionReport.json TransactionReport.decoder := by
  refine Carries.ofRecord "TransactionInfo" (fun r => ?_) (fun r => ?_) fun r origin => ?_
  · simp only [List.forall_mem_cons]
    exact ⟨.string _, .string _, List.forall_mem_nil _⟩
  · show ["tx_id", "status"].Nodup
    decide
  · exact ((Fields.Asks.pure TransactionReport.mk).and
      (.required (identifier_decoder_json r.id origin))).and
      (.required (transactionStatus_decoder_json r.status origin))

theorem Health.carries : Carries Health.json Health.decoder := by
  refine Carries.ofRecord "Health" (fun h => ?_) (fun h => ?_) fun h origin => ?_
  · simp only [List.forall_mem_cons]
    exact ⟨.string _, List.forall_mem_nil _⟩
  · show ["status"].Nodup
    decide
  · exact (Fields.Asks.pure Health.mk).and (.required rfl)

theorem items_identifiers {kind : Identifier.Kind} (ids : List (Identifier kind))
    (origin : Origin) :
    items (Identifier.decoder kind) origin (itemDocuments (ids.map Identifier.json)) =
      .ok ids := by
  induction ids with
  | nil => rfl
  | cons id rest ih =>
    rw [List.map_cons, itemDocuments, items, identifier_decoder_json, ih]
    rfl

theorem pending_carries : Carries pendingJson pendingDecoder := by
  have hplain : ∀ (ids : List TransactionId), ∀ v ∈ ids.map Identifier.json, v.IsPlain := by
    intro ids v hv
    obtain ⟨id, -, rfl⟩ := List.mem_map.1 hv
    exact .string id.text
  refine ⟨fun ids => .array (hplain ids), fun ids w origin level hw hlevel => ?_⟩
  -- The order of the items is part of the value, so nothing is reordered here.
  obtain rfl := hw.eq_array (hplain ids)
  show (do items (Identifier.decoder .transaction) (← Origin.enter origin) _) = _
  rw [hlevel]
  exact items_identifiers ids level

/-! ### Envelopes -/

theorem nullable_eq_ok {decode : Decoder α} {v : Json} (hv : v.IsFlat) {origin : Origin} {x : α}
    (h : decode origin v.toDocument = .ok x) :
    nullable decode origin v.toDocument = .ok (some x) := by
  cases hv with
  | array hitems =>
    show (decode origin _).map some = _
    rw [h]
    rfl
  | object hmembers hdistinct =>
    show (decode origin _).map some = _
    rw [h]
    rfl

/-- The members of an envelope. -/
def Envelope.members (success : Bool) (data error : Json) : List (String × Json) :=
  [("success", .bool success), ("data", data), ("error", error)]

namespace Envelope

variable {success : Bool} {data error : Json}

theorem exists_of_reordered {w : Json} (herror : error.IsPlain)
    (h : Reordered (.object (members success data error)) w) :
    ∃ d all, Reordered data d ∧ w = .object all ∧ all.Perm (members success d error) := by
  cases h with
  | object hvalues hall =>
    cases hvalues with
    | cons _ hsuccess hrest =>
      cases hrest with
      | cons _ hdata hrest =>
        cases hrest with
        | cons _ hlast hnil =>
          cases hnil
          obtain rfl := (IsPlain.bool success).eq_of_reordered hsuccess
          obtain rfl := herror.eq_of_reordered hlast
          exact ⟨_, _, hdata, rfl, hall⟩

/-- An envelope is read from its members, given what is read of each. -/
theorem decoder_of_perm {origin level : Origin} (hlevel : origin.enter = .ok level)
    {all : List (String × Json)} (hall : all.Perm (members success data error))
    {kept : Option Json} {reason : Option String}
    (hdata : nullable (fun origin document => decodeAny origin document) level data.toDocument =
      .ok kept)
    (herror : nullable string level error.toDocument = .ok reason) :
    decoder origin (Json.object all).toDocument = .ok ⟨success, kept, reason⟩ := by
  have hasks : ((((Fields.pure Envelope.mk).and (.required "success" boolean)).and
      (.optional "data" (nullable fun origin document => decodeAny origin document) none)).and
      (.optional "error" (nullable string) none)).Asks level (members success data error)
        ⟨success, kept, reason⟩ :=
    (((Fields.Asks.pure Envelope.mk).and (.required rfl)).and (.optional hdata)).and
      (.optional herror)
  have hdistinct : ((members success data error).map Prod.fst).Nodup := by
    show ["success", "data", "error"].Nodup
    decide
  exact record_of_perm hlevel "Envelope" hasks hall hdistinct

/-- **A text of an envelope is read as the envelope**, with its data in some order. -/
theorem exists_ofText {text : String} (herror : error.IsPlain)
    (htext : IsTextOf (.object (members success data error)) text)
    (hexact : ∀ d, Reordered data d → d.IsExact) :
    ∃ d, Reordered data d ∧ ∀ kept reason,
      nullable (fun origin document => decodeAny origin document) (.text (levelLimit - 1))
          d.toDocument = .ok kept →
        nullable string (.text (levelLimit - 1)) error.toDocument = .ok reason →
          decoder.ofText text = .ok ⟨success, kept, reason⟩ := by
  obtain ⟨w, hw, hdocument⟩ := htext.exists_ofText
  obtain ⟨d, all, hd, rfl, hall⟩ := exists_of_reordered herror hw
  have hall' : (Json.object all).IsExact := by
    show AreMembersExact all
    rw [areMembersExact_iff]
    intro m hm
    have hm' := hall.mem_iff.1 hm
    simp only [members, List.mem_cons, List.not_mem_nil, or_false] at hm'
    rcases hm' with rfl | rfl | rfl
    · exact (IsPlain.bool success).isExact
    · exact hexact d hd
    · exact herror.isExact
  refine ⟨d, hd, fun kept reason hkept hreason => ?_⟩
  exact ofText_eq_ok_iff.2 ⟨_, hdocument hall', decoder_of_perm rfl hall hkept hreason⟩

end Envelope

variable {status : UInt16} {text what : String}

theorem isSuccess_of_bounds (hlow : 200 ≤ status) (hhigh : status < 300) (text : String) :
    Response.isSuccess ⟨status, text⟩ = true := by
  rw [Response.isSuccess, Bool.and_eq_true, decide_eq_true_eq, decide_eq_true_eq]
  exact ⟨hlow, hhigh⟩

/-- **Data in an envelope is read back.** -/
theorem decodeEnvelope_ok {json : α → Json} {decoder : Decoder α} (h : Carries json decoder)
    {x : α} (hsuccess : Response.isSuccess ⟨status, text⟩ = true)
    (htext : IsTextOf (Envelope.ok (json x)).json text) :
    decodeEnvelope decoder what ⟨status, text⟩ = .ok x := by
  obtain ⟨d, hd, hread⟩ := Envelope.exists_ofText .null htext fun d hd =>
    ((h.isFlat x).of_reordered hd).isExact
  -- The data stands one level below the envelope, and it is not the order in which it was written
  -- that reaches its decoder, but the one in which it was kept.
  have henter : Origin.enter (.text (levelLimit - 1)) = .ok (.text (levelLimit - 2)) := rfl
  obtain ⟨kept, hkept, hd'⟩ := (h.isFlat x).decodeAny hd henter
  have henvelope : Envelope.decoder.ofText text = .ok ⟨true, some kept, none⟩ :=
    hread _ _ (nullable_eq_ok ((h.isFlat x).of_reordered hd) hkept) rfl
  have hvalue : decoder.ofValue kept = .ok x := h.reads x kept .value .value hd' rfl
  unfold decodeEnvelope
  simp only [henvelope, hsuccess, hvalue]
  rfl

/-- **A refusal is read as one**, whatever was asked for and whatever the status. -/
theorem decodeEnvelope_refusal {decoder : Decoder α} {reason : String}
    (htext : IsTextOf (Envelope.refusal reason).json text) :
    decodeEnvelope decoder what ⟨status, text⟩ =
      .error (refused what ⟨status, text⟩ (some reason)) := by
  obtain ⟨d, hd, hread⟩ := Envelope.exists_ofText (.string reason) htext fun d hd => by
    obtain rfl := IsPlain.null.eq_of_reordered hd
    exact IsPlain.null.isExact
  -- A refusal has null for its data, which is kept as none at all.
  obtain rfl := IsPlain.null.eq_of_reordered hd
  have henvelope : Envelope.decoder.ofText text = .ok ⟨false, none, some reason⟩ :=
    hread none (some reason) rfl rfl
  unfold decodeEnvelope
  simp only [henvelope]
  rfl

theorem exists_message_refused (what reason : String) (response : Response) :
    ∃ before, (refused what response (some reason)).message = before ++ reason := by
  refine ⟨s!"network error after {(1 : UInt32)} attempt(s): {what}: node rejected request: ", ?_⟩
  apply String.ext
  unfold refused Error.unreached Error.message
  simp [toString]

/-- **A plain answer is read back.** -/
theorem decodePlain_ok {json : α → Json} {decoder : Decoder α} (h : Carries json decoder)
    {x : α} (hsuccess : Response.isSuccess ⟨status, text⟩ = true)
    (htext : IsTextOf (json x) text) : decodePlain decoder what ⟨status, text⟩ = .ok x := by
  obtain ⟨w, hw, hdocument⟩ := htext.exists_ofText
  have hread : decoder.ofText text = .ok x :=
    ofText_eq_ok_iff.2 ⟨_, hdocument ((h.isFlat x).of_reordered hw).isExact,
      h.reads x w (.text levelLimit) (.text (levelLimit - 1)) hw rfl⟩
  unfold decodePlain
  simp only [hsuccess, hread]
  rfl

/-! ### All answers -/

/-- Every text that stands for what is written of a value is read as the value, if it comes with a
status of success. -/
def ReadsBack (json : α → Json) (read : Reader α) : Prop :=
  ∀ (x : α) (what : String) (status : UInt16) (text : String), 200 ≤ status → status < 300 →
    IsTextOf (json x) text → read what ⟨status, text⟩ = .ok x

theorem Carries.readsBack {json : α → Json} {decoder : Decoder α} (h : Carries json decoder) :
    ReadsBack (fun x => (Envelope.ok (json x)).json) (decodeEnvelope decoder) := by
  intro x what status text hlow hhigh htext
  exact decodeEnvelope_ok h (isSuccess_of_bounds hlow hhigh text) htext

/-- **What a node tells is what a client reads.** Every payload in an envelope comes back with any
status of success and with the members of the envelope and of the payload in any order, and so does
the health of a node, which has no envelope. A refusal is an error of the network with any status
and whatever was asked for; it may pass, and its wording ends with the reason that was given. -/
theorem answers_read_back :
    ReadsBack (fun s => (Envelope.ok (Status.json s)).json) (decodeEnvelope Status.decoder) ∧
    ReadsBack (fun a => (Envelope.ok (Account.json a)).json) (decodeEnvelope Account.decoder) ∧
    ReadsBack (fun b => (Envelope.ok (Balance.json b)).json) (decodeEnvelope Balance.decoder) ∧
    ReadsBack (fun r => (Envelope.ok (TransactionReport.json r)).json)
      (decodeEnvelope TransactionReport.decoder) ∧
    ReadsBack (fun ids => (Envelope.ok (pendingJson ids)).json) (decodeEnvelope pendingDecoder) ∧
    ReadsBack Health.json (decodePlain Health.decoder) ∧
    ∀ (reason what : String) (status : UInt16) (text : String),
      IsTextOf (Envelope.refusal reason).json text →
        ∀ {α : Type} (decoder : Decoder α), ∃ cause,
          decodeEnvelope decoder what ⟨status, text⟩ = .error (.network cause 1) ∧
          (Error.network cause 1).isRetryable = true ∧
          ∃ before, (Error.network cause 1).message = before ++ reason := by
  refine ⟨Status.carries.readsBack, Account.carries.readsBack, Balance.carries.readsBack,
    TransactionReport.carries.readsBack, pending_carries.readsBack, ?_, ?_⟩
  · intro x what status text hlow hhigh htext
    exact decodePlain_ok Health.carries (isSuccess_of_bounds hlow hhigh text) htext
  · intro reason what status text htext α decoder
    exact ⟨_, decodeEnvelope_refusal htext, rfl, exists_message_refused what reason ⟨status, text⟩⟩

/-- An account with more than fits any word, and the last of all nonces. -/
def oddAccount : Account where
  address := ⟨Vector.replicate 32 0xa7⟩
  balance := ⟨10 ^ 40⟩
  nonce := 18446744073709551615

/-- A text of its envelope, with all members in the opposite order. -/
def oddAnswer : String :=
  "\x7b\"error\":null,\"data\":\x7b\"nonce\":18446744073709551615,\"balance\":" ++
    "\"10000000000000000000000000000000000000000\",\"address\":" ++
      "\"a7a7a7a7a7a7a7a7a7a7a7a7a7a7a7a7a7a7a7a7a7a7a7a7a7a7a7a7a7a7a7a7\"\x7d," ++
        "\"success\":true\x7d"

theorem isTextOf_oddAnswer : IsTextOf (Envelope.ok oddAccount.json).json oddAnswer := by
  let members : List (String × Json) :=
    [("address", oddAccount.address.json), ("balance", oddAccount.balance.json),
     ("nonce", .nat oddAccount.nonce.toNat)]
  have hdata : Reordered oddAccount.json (.object members.reverse) :=
    .object (valuesReordered_self members) (List.reverse_perm members)
  refine ⟨.object (Envelope.members true (.object members.reverse) .null).reverse, ?_, ?_⟩
  · exact .object (.cons _ (reordered_self _) (.cons _ hdata (.cons _ .null .nil)))
      (List.reverse_perm _)
  · left
    decide +kernel

theorem answers_read_back_odd :
    IsTextOf (Envelope.ok oddAccount.json).json oddAnswer ∧
    decodeEnvelope Account.decoder "GET /account" ⟨226, oddAnswer⟩ = .ok oddAccount ∧
    ∃ cause before,
      decodeEnvelope pendingDecoder "GET" ⟨302, (Envelope.refusal "\"\n😀").json.render⟩ =
          .error (.network cause 1) ∧
        (Error.network cause 1).message = before ++ "\"\n😀" := by
  obtain ⟨-, haccount, -, -, -, -, hrefusal⟩ := answers_read_back
  refine ⟨isTextOf_oddAnswer, ?_, ?_⟩
  · exact haccount oddAccount _ 226 _ (by decide) (by decide) isTextOf_oddAnswer
  · obtain ⟨cause, hrun, -, before, hmessage⟩ := hrefusal "\"\n😀" "GET" 302 _
      (isTextOf_render _) pendingDecoder
    exact ⟨cause, before, hrun, hmessage⟩

end Remit.Node
