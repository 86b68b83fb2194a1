import Remit.Proofs.Json.Records
import Remit.Proofs.Node.Attempts

/-!
# Whose fault it is

An answer that cannot be used is sorted by its status, by whether its body is an envelope, by what
the envelope says, and by what its data is. Which documents are envelopes is written down apart from
their decoder (`Envelope.Says`), so that the three classes of answers are said in terms of what came
over the wire: those that deliver a value, those that may be different the next time, and those that
have the wrong form and will keep it.

* `Envelope.decoder_ofText_eq_ok_iff`: the decoder of envelopes and `Envelope.Says` agree;
* `Client.sent_again_iff`: when a request is sent again after an answer;
* `answers_classified`: which answers are of which class, and that only those of the second are
  tried again.
-/

namespace Remit.Node

open Json Json.Decoder

/-! ### Envelopes -/

namespace Envelope

/-- A part that may be missing, or null, and otherwise is what some value is read from. -/
inductive Holds {β : Type} (reads : Document → β → Prop) : List Document → Option β → Prop
  | missing : Holds reads [] none
  | null : Holds reads [.scalar .null] none
  | value {document : Document} {x : β} (h : reads document x) (hnull : document ≠ .scalar .null) :
      Holds reads [document] (some x)

/-- What stands in the outermost object or array of a text. -/
abbrev inside : Origin := .text (levelLimit - 1)

/-- The document can be read as a value, and this is it. -/
def IsData (document : Document) (value : Json) : Prop := decodeAny inside document = .ok value

/-- The document is a string. -/
def IsReason (document : Document) (text : String) : Prop :=
  document = .scalar (.string (some text))

/-- **The document is an envelope**, and this is what it says. As an object it has, in any order and
among any members of other names that are sound, one truth value for `success`, and for each of
`data` and `error` at most one value, null being as good as none. As an array it has the same parts
in this order, of which the last ones may be missing. -/
inductive Says : Document → Envelope → Prop
  | object {members : List (Document × Document)} {e : Envelope}
      (named : ∀ m ∈ members, ∃ name, m.1 = .scalar (.string (some name)))
      (success : Document.under "success" members = [.scalar (.bool e.success)])
      (data : Holds IsData (Document.under "data" members) e.data)
      (error : Holds IsReason (Document.under "error" members) e.error)
      (others : ∀ m ∈ members, m.1.name? ∉ [some "success", some "data", some "error"] →
        m.2.isSound = true) :
      Says (.object members) e
  | array {items : List Document} {e : Envelope} (data : Holds IsData (items.take 1) e.data)
      (error : Holds IsReason (items.drop 1) e.error) :
      Says (.array (.scalar (.bool e.success) :: items)) e

/-- The text is an envelope, and this is what it says. -/
def IsWritten (text : String) (e : Envelope) : Prop :=
  ∃ document, Document.ofText text = (document, []) ∧ Says document e

/-- The fields of an envelope. -/
def fields : Fields Envelope :=
  (((Fields.pure Envelope.mk).and
    (.required "success" boolean)).and
    (.optional "data" (nullable fun origin document => decodeAny origin document) none)).and
    (.optional "error" (nullable string) none)

theorem decoder_eq : decoder = record "Envelope" fields := rfl

section Parts

variable {β : Type} {decode : Decoder β} {reads : Document → β → Prop} {level : Origin}
  {documents : List Document} {x : Option β}

theorem Holds.length_le (h : Holds reads documents x) : documents.length ≤ 1 := by
  cases h with
  | missing => exact Nat.zero_le 1
  | null => exact Nat.le_refl 1
  | value => exact Nat.le_refl 1

/-- What an optional part is read as, by a decoder for which null is nothing. -/
theorem holds_iff (hreads : ∀ document y, reads document y ↔ decode level document = .ok y) :
    Holds reads documents x ↔
      (documents = [] ∧ x = none) ∨
        ∃ document, documents = [document] ∧ nullable decode level document = .ok x := by
  simp only [nullable_eq_ok_iff]
  constructor
  · intro h
    cases h with
    | missing => exact .inl ⟨rfl, rfl⟩
    | null => exact .inr ⟨_, rfl, .inl ⟨rfl, rfl⟩⟩
    | value h hnull => exact .inr ⟨_, rfl, .inr ⟨hnull, _, (hreads _ _).1 h, rfl⟩⟩
  · rintro (⟨rfl, rfl⟩ | ⟨document, rfl, ⟨rfl, rfl⟩ | ⟨hnull, y, hread, rfl⟩⟩)
    · exact .missing
    · exact .null
    · exact .value ((hreads _ _).2 hread) hnull

/-- The same where at most one value is there. -/
theorem holds_iff_head? (hreads : ∀ document y, reads document y ↔ decode level document = .ok y)
    (hlength : documents.length ≤ 1) :
    Holds reads documents x ↔
      (documents.head? = none ∧ x = none) ∨
        ∃ document, documents.head? = some document ∧ nullable decode level document = .ok x := by
  rw [holds_iff hreads]
  cases documents with
  | nil => simp
  | cons document rest =>
    rw [List.length_cons] at hlength
    obtain rfl : rest = [] := List.length_eq_zero_iff.1 (by omega)
    simp

end Parts

theorem enter_text : Origin.enter (.text levelLimit) = .ok inside := rfl

theorem isData_iff (document : Document) (value : Json) :
    IsData document value ↔
      (fun origin document => decodeAny origin document : Decoder Json) inside document =
        .ok value :=
  Iff.rfl

theorem isReason_iff (document : Document) (text : String) :
    IsReason document text ↔ string inside document = .ok text :=
  string_eq_ok_iff.symm

theorem fields_ofItems_eq_ok_iff {expected : String} {items : List Document} {e : Envelope} :
    fields.ofItems inside expected 0 items = .ok (e, []) ↔
      ∃ rest, items = .scalar (.bool e.success) :: rest ∧ Holds IsData (rest.take 1) e.data ∧
        Holds IsReason (rest.drop 1) e.error := by
  unfold fields
  simp only [Fields.ofItems_and_eq_ok_iff, Fields.ofItems_pure_eq_ok_iff,
    Fields.ofItems_required_eq_ok_iff, Fields.ofItems_optional_eq_ok_iff, boolean_eq_ok_iff,
    holds_iff isData_iff, holds_iff isReason_iff]
  constructor
  · rintro ⟨_, reason, last, ⟨_, data, rest, ⟨_, success, _, ⟨rfl, rfl⟩, ⟨_, rfl, rfl⟩, rfl⟩,
      hdata, rfl⟩, herror, rfl⟩
    refine ⟨rest, rfl, ?_⟩
    -- Where the array ends before the data, there is no error in it either.
    rcases hdata with ⟨rfl, rfl, rfl⟩ | ⟨document, rfl, hdata⟩
    · rcases herror with ⟨-, -, rfl⟩ | ⟨_, hnil, -⟩
      · exact ⟨.inl ⟨rfl, rfl⟩, .inl ⟨rfl, rfl⟩⟩
      · cases hnil
    · refine ⟨.inr ⟨document, rfl, hdata⟩, ?_⟩
      rcases herror with ⟨hnil, -, rfl⟩ | ⟨document', hlast, herror⟩
      · exact .inl ⟨hnil, rfl⟩
      · exact .inr ⟨document', hlast, herror⟩
  · rintro ⟨rest, rfl, hdata, herror⟩
    obtain ⟨success, data, reason⟩ := e
    refine ⟨_, reason, rest.drop 1, ⟨_, data, rest, ⟨_, success, _, ⟨rfl, rfl⟩, ⟨_, rfl, rfl⟩, rfl⟩,
      ?_, rfl⟩, ?_, rfl⟩
    · cases rest with
      | nil =>
        rcases hdata with ⟨-, hnone⟩ | ⟨_, hnil, -⟩
        · exact .inl ⟨rfl, rfl, hnone⟩
        · cases hnil
      | cons document rest =>
        rcases hdata with ⟨hnil, -⟩ | ⟨_, hcons, hdata⟩
        · cases hnil
        · cases hcons
          exact .inr ⟨document, rfl, hdata⟩
    · rcases herror with ⟨hnil, hnone⟩ | hone
      · exact .inl ⟨hnil, trivial, hnone⟩
      · exact .inr hone

theorem fields_ofMembers_eq_ok_iff {find : String → Option Document} {e : Envelope} :
    fields.ofMembers inside find = .ok e ↔
      find "success" = some (.scalar (.bool e.success)) ∧
      ((find "data" = none ∧ e.data = none) ∨
        ∃ document, find "data" = some document ∧
          nullable (fun origin document => decodeAny origin document) inside document =
            .ok e.data) ∧
      ((find "error" = none ∧ e.error = none) ∨
        ∃ document, find "error" = some document ∧
          nullable string inside document = .ok e.error) := by
  unfold fields
  simp only [Fields.ofMembers_and_eq_ok_iff, Fields.ofMembers_pure_eq_ok_iff,
    Fields.ofMembers_required_eq_ok_iff, Fields.ofMembers_optional_eq_ok_iff, boolean_eq_ok_iff]
  constructor
  · rintro ⟨_, reason, ⟨_, data, ⟨_, success, rfl, ⟨_, hsuccess, rfl⟩, rfl⟩, hdata, rfl⟩, herror,
      rfl⟩
    exact ⟨hsuccess, hdata, herror⟩
  · rintro ⟨hsuccess, hdata, herror⟩
    exact ⟨_, e.error, ⟨_, e.data, ⟨_, e.success, rfl, ⟨_, hsuccess, rfl⟩, rfl⟩, hdata, rfl⟩,
      herror, rfl⟩

theorem map_name_fields : fields.list.map Field.name = ["success", "data", "error"] := rfl

theorem taken_fields {name : String} (h : name ∈ ["success", "data", "error"])
    (members : List (Document × Document)) :
    taken fields.list members name = (Document.under name members).head? :=
  taken_of_mem (map_name_fields ▸ h) members

theorem Holds.check {β : Type} {decode : Decoder β} {reads : Document → β → Prop}
    {level : Origin} {documents : List Document} {x : Option β} (h : Holds reads documents x)
    (hreads : ∀ document y, reads document y ↔ decode level document = .ok y)
    {document : Document} (hmem : document ∈ documents) :
    ((nullable decode level document).map fun _ => ()) = .ok () := by
  rcases (holds_iff hreads).1 h with ⟨rfl, -⟩ | ⟨only, rfl, hread⟩
  · cases hmem
  · rw [List.mem_singleton.1 hmem, hread]
    rfl

/-- What is asked of the members of an envelope. -/
theorem accepts_fields_iff {m : Document × Document} :
    Accepts fields.list inside m ↔
      ∃ name, m.1 = .scalar (.string (some name)) ∧
        (name = "success" → ((boolean inside m.2).map fun _ => ()) = .ok ()) ∧
        (name = "data" → ((nullable (fun origin document => decodeAny origin document) inside
          m.2).map fun _ => ()) = .ok ()) ∧
        (name = "error" → ((nullable string inside m.2).map fun _ => ()) = .ok ()) ∧
        (name ∉ ["success", "data", "error"] → m.2.isSound = true) := by
  have hdistinct : (fields.list.map Field.name).Nodup := by
    rw [map_name_fields]
    decide
  rw [accepts_iff hdistinct, map_name_fields]
  refine exists_congr fun name => and_congr_right fun _ => ?_
  unfold fields
  simp only [Fields.and, Fields.pure, Fields.required, Fields.optional, List.nil_append,
    List.cons_append, List.forall_mem_cons, List.not_mem_nil, false_implies, implies_true, and_true,
    and_assoc]

section Objects

variable {members : List (Document × Document)} {m : Document × Document} {e : Envelope}

theorem Says.accepts (h : Says (.object members) e) (hm : m ∈ members) :
    Accepts fields.list inside m := by
  cases h with
  | object named success data error others =>
    obtain ⟨name, hname⟩ := named m hm
    refine accepts_fields_iff.2 ⟨name, hname, ?_, ?_, ?_, fun hother => others m hm ?_⟩
    · rintro rfl
      have hmem := Document.mem_under hm hname
      rw [success] at hmem
      rw [List.mem_singleton.1 hmem]
      rfl
    · rintro rfl
      exact data.check isData_iff (Document.mem_under hm hname)
    · rintro rfl
      exact error.check isReason_iff (Document.mem_under hm hname)
    · rw [hname]
      intro hmem
      refine hother ?_
      simpa [Document.name?] using hmem

theorem Says.length_under_le (h : Says (.object members) e) {name : String}
    (hname : name ∈ ["success", "data", "error"]) :
    (Document.under name members).length ≤ 1 := by
  simp only [List.mem_cons, List.not_mem_nil, or_false] at hname
  cases h with
  | object named success data error others =>
    rcases hname with rfl | rfl | rfl
    · exact success ▸ Nat.le_refl 1
    · exact data.length_le
    · exact error.length_le

theorem decoder_object_eq_ok_iff :
    decoder (.text levelLimit) (.object members) = .ok e ↔ Says (.object members) e := by
  rw [decoder_eq, record_object_eq_ok_iff enter_text, fields_ofMembers_eq_ok_iff,
    taken_fields (by decide), taken_fields (by decide), taken_fields (by decide),
    areOnce_nil_iff, map_name_fields]
  constructor
  · rintro ⟨haccepts, hlength, hsuccess, hdata, herror⟩
    refine .object (fun m hm => ?_) ?_ ?_ ?_ fun m hm hname => ?_
    · obtain ⟨name, hname, -⟩ := haccepts m hm
      exact ⟨name, hname⟩
    · obtain ⟨rest, hrest⟩ := List.head?_eq_some_iff.1 hsuccess
      have hone := hlength "success" (by decide)
      rw [hrest, List.length_cons] at hone
      rw [hrest, List.length_eq_zero_iff.1 (show rest.length = 0 by omega)]
    · exact (holds_iff_head? isData_iff (hlength _ (by decide))).2 hdata
    · exact (holds_iff_head? isReason_iff (hlength _ (by decide))).2 herror
    · obtain ⟨name, hm', -, -, -, hsound⟩ := accepts_fields_iff.1 (haccepts m hm)
      refine hsound fun hmem => hname ?_
      rw [hm']
      exact List.mem_map_of_mem hmem
  · intro h
    refine ⟨fun m hm => h.accepts hm, fun name hname => h.length_under_le hname, ?_⟩
    cases h with
    | object named success data error others =>
      refine ⟨?_, (holds_iff_head? isData_iff data.length_le).1 data,
        (holds_iff_head? isReason_iff error.length_le).1 error⟩
      rw [success]
      rfl

end Objects

/-- **The decoder and `Says` agree** on which texts are envelopes, and on what they say. -/
theorem decoder_ofText_eq_ok_iff {text : String} {e : Envelope} :
    decoder.ofText text = .ok e ↔ IsWritten text e := by
  rw [ofText_eq_ok_iff]
  refine exists_congr fun document => and_congr_right fun _ => ?_
  cases document with
  | object members => exact decoder_object_eq_ok_iff
  | array items =>
    rw [decoder_eq, record_array_eq_ok_iff enter_text, fields_ofItems_eq_ok_iff]
    constructor
    · rintro ⟨rest, rfl, hdata, herror⟩
      exact .array hdata herror
    · intro h
      cases h with
      | array data error => exact ⟨_, rfl, data, error⟩
  | scalar value => exact ⟨fun h => absurd h (mismatch_ne_ok _ _ _), fun h => nomatch h⟩
  | malformed => exact ⟨fun h => absurd h (mismatch_ne_ok _ _ _), fun h => nomatch h⟩

end Envelope

/-! ### Classes of answers -/

/-- The status is one of success. -/
def Response.HasSuccess (response : Response) : Prop :=
  200 ≤ response.status.toNat ∧ response.status.toNat ≤ 299

theorem Response.isSuccess_eq_true_iff {response : Response} :
    response.isSuccess = true ↔ response.HasSuccess := by
  unfold isSuccess HasSuccess
  rw [Bool.and_eq_true, decide_eq_true_eq, decide_eq_true_eq, UInt16.le_iff_toNat_le,
    UInt16.lt_iff_toNat_lt]
  exact and_congr_right fun _ => Nat.lt_succ_iff

variable {α : Type}

/-- The answer delivers a value: its status is one of success, and it is an envelope that says yes
and has data which is read as the value. -/
def Delivers (decoder : Decoder α) (response : Response) (x : α) : Prop :=
  response.HasSuccess ∧ ∃ e data, Envelope.IsWritten response.body e ∧ e.success = true ∧
    e.data = some data ∧ decoder.ofValue data = .ok x

/-- The answer may be another one the next time: its status is bad, whatever its body is, or it is
an envelope that says no or has no data. -/
def MayPass (response : Response) : Prop :=
  ¬ response.HasSuccess ∨
    ∃ e, Envelope.IsWritten response.body e ∧ (e.success = false ∨ e.data = none)

/-- The answer has the wrong form: its status is one of success, but it is no envelope, or its data
is not what it should be. -/
def IsMisshapen (decoder : Decoder α) (response : Response) : Prop :=
  response.HasSuccess ∧
    ((∀ e, ¬ Envelope.IsWritten response.body e) ∨
      ∃ e data, Envelope.IsWritten response.body e ∧ e.success = true ∧ e.data = some data ∧
        ∀ x, decoder.ofValue data ≠ .ok x)

theorem decodeEnvelope_of_delivers {decoder : Decoder α} {response : Response} {x : α}
    (h : Delivers decoder response x) (what : String) :
    decodeEnvelope decoder what response = .ok x := by
  obtain ⟨hstatus, e, data, hbody, hsuccess, hdata, hread⟩ := h
  unfold decodeEnvelope
  simp only [Envelope.decoder_ofText_eq_ok_iff.2 hbody, hsuccess,
    Response.isSuccess_eq_true_iff.2 hstatus, hdata, hread]
  rfl

theorem decodeEnvelope_of_mayPass {decoder : Decoder α} {response : Response}
    (h : MayPass response) (what : String) :
    ∃ reason, decodeEnvelope decoder what response = .error (.network reason 1) := by
  unfold decodeEnvelope
  rcases h with hstatus | ⟨e, hbody, hempty⟩
  · -- With a bad status the body, envelope or not, only supplies the words.
    rw [← Response.isSuccess_eq_true_iff, Bool.not_eq_true] at hstatus
    cases Envelope.decoder.ofText response.body with
    | error cause =>
      simp only [hstatus]
      exact ⟨_, rfl⟩
    | ok e =>
      simp only [hstatus, Bool.not_false, Bool.or_true]
      exact ⟨_, rfl⟩
  · simp only [Envelope.decoder_ofText_eq_ok_iff.2 hbody]
    by_cases hrefused : (!e.success || !response.isSuccess) = true
    · rw [if_pos hrefused]
      exact ⟨_, rfl⟩
    · rw [if_neg hrefused]
      rcases hempty with hno | hnone
      · rw [hno] at hrefused
        exact absurd rfl hrefused
      · rw [hnone]
        exact ⟨_, rfl⟩

theorem decodeEnvelope_of_isMisshapen {decoder : Decoder α} {response : Response}
    (h : IsMisshapen decoder response) (what : String) :
    ∃ reason, decodeEnvelope decoder what response = .error (.format reason) := by
  obtain ⟨hstatus, hno | ⟨e, data, hbody, hsuccess, hdata, hbad⟩⟩ := h
  · unfold decodeEnvelope
    cases hread : Envelope.decoder.ofText response.body with
    | ok e => exact absurd (Envelope.decoder_ofText_eq_ok_iff.1 hread) (hno e)
    | error cause =>
      simp only [Response.isSuccess_eq_true_iff.2 hstatus]
      exact ⟨_, rfl⟩
  · unfold decodeEnvelope
    simp only [Envelope.decoder_ofText_eq_ok_iff.2 hbody, hsuccess, hdata,
      Response.isSuccess_eq_true_iff.2 hstatus]
    cases hread : decoder.ofValue data with
    | ok x => exact absurd hread (hbad x)
    | error cause => exact ⟨_, rfl⟩

/-- Every answer is of one of the classes. -/
theorem exists_class (decoder : Decoder α) (response : Response) :
    (∃ x, Delivers decoder response x) ∨ MayPass response ∨ IsMisshapen decoder response := by
  by_cases hstatus : response.HasSuccess
  · by_cases hbody : ∃ e, Envelope.IsWritten response.body e
    · obtain ⟨e, hbody⟩ := hbody
      cases hsuccess : e.success with
      | false => exact .inr (.inl (.inr ⟨e, hbody, .inl hsuccess⟩))
      | true =>
        cases hdata : e.data with
        | none => exact .inr (.inl (.inr ⟨e, hbody, .inr hdata⟩))
        | some data =>
          cases hread : decoder.ofValue data with
          | ok x => exact .inl ⟨x, hstatus, e, data, hbody, hsuccess, hdata, hread⟩
          | error cause =>
            refine .inr (.inr ⟨hstatus, .inr ⟨e, data, hbody, hsuccess, hdata, fun x hx => ?_⟩⟩)
            rw [hread] at hx
            cases hx
    · exact .inr (.inr ⟨hstatus, .inl (not_exists.1 hbody)⟩)
  · exact .inr (.inl (.inl hstatus))

/-- A result is sorted into three classes: a value that is delivered, an error of the network where
the trouble may pass, and an error of format where it will not. There is no fourth. -/
structure IsClassified (result : Except Error α) (delivers : α → Prop) (mayPass misshapen : Prop) :
    Prop where
  ok_iff : ∀ x, result = .ok x ↔ delivers x
  network_iff : (∃ reason attempts, result = .error (.network reason attempts)) ↔ mayPass
  format_iff : (∃ reason, result = .error (.format reason)) ↔ misshapen
  complete : (∃ x, delivers x) ∨ mayPass ∨ misshapen

namespace IsClassified

variable {result : Except Error α} {delivers : α → Prop} {mayPass misshapen : Prop}

/-- As every answer is of some class, it is enough to know what is returned in each. -/
theorem intro (hdelivers : ∀ x, delivers x → result = .ok x)
    (hmayPass : mayPass → ∃ reason, result = .error (.network reason 1))
    (hmisshapen : misshapen → ∃ reason, result = .error (.format reason))
    (complete : (∃ x, delivers x) ∨ mayPass ∨ misshapen) :
    IsClassified result delivers mayPass misshapen where
  ok_iff x := by
    refine ⟨fun h => ?_, hdelivers x⟩
    subst h
    rcases complete with ⟨y, hy⟩ | hy | hy
    · cases hdelivers y hy
      exact hy
    · obtain ⟨_, h⟩ := hmayPass hy
      cases h
    · obtain ⟨_, h⟩ := hmisshapen hy
      cases h
  network_iff := by
    refine ⟨?_, fun h => (hmayPass h).imp fun _ h => ⟨1, h⟩⟩
    rintro ⟨_, _, rfl⟩
    rcases complete with ⟨y, hy⟩ | hy | hy
    · cases hdelivers y hy
    · exact hy
    · obtain ⟨_, h⟩ := hmisshapen hy
      cases h
  format_iff := by
    refine ⟨?_, hmisshapen⟩
    rintro ⟨_, rfl⟩
    rcases complete with ⟨y, hy⟩ | hy | hy
    · cases hdelivers y hy
    · obtain ⟨_, h⟩ := hmayPass hy
      cases h
    · exact hy
  complete := complete

/-- Only what may pass is worth another attempt. -/
theorem exists_isRetryable_iff (h : IsClassified result delivers mayPass misshapen) :
    (∃ e, result = .error e ∧ e.isRetryable = true) ↔ mayPass := by
  constructor
  · rintro ⟨e, he, hretry⟩
    rcases h.complete with ⟨x, hx⟩ | hx | hx
    · rw [(h.ok_iff x).2 hx] at he
      cases he
    · exact hx
    · obtain ⟨reason, hformat⟩ := h.format_iff.2 hx
      rw [hformat] at he
      cases he
      cases hretry
  · intro hpass
    obtain ⟨reason, attempts, hnetwork⟩ := h.network_iff.2 hpass
    exact ⟨_, hnetwork, rfl⟩

end IsClassified

theorem isClassified_decodeEnvelope (decoder : Decoder α) (what : String) (response : Response) :
    IsClassified (decodeEnvelope decoder what response) (Delivers decoder response)
      (MayPass response) (IsMisshapen decoder response) :=
  .intro (fun _ h => decodeEnvelope_of_delivers h what)
    (fun h => decodeEnvelope_of_mayPass h what)
    (fun h => decodeEnvelope_of_isMisshapen h what)
    (exists_class decoder response)

/-! ### Answers without an envelope -/

theorem decodePlain_of_hasSuccess {response : Response} (h : response.HasSuccess)
    (decoder : Decoder α) (what : String) :
    decodePlain decoder what response =
      (decoder.ofText response.body).mapError (badAnswer what) := by
  unfold decodePlain
  rw [Response.isSuccess_eq_true_iff.2 h]
  rfl

theorem decodePlain_of_not_hasSuccess {response : Response} (h : ¬ response.HasSuccess)
    (decoder : Decoder α) (what : String) :
    decodePlain decoder what response = .error (badStatus what response) := by
  rw [← Response.isSuccess_eq_true_iff, Bool.not_eq_true] at h
  unfold decodePlain
  rw [h]
  rfl

theorem isClassified_decodePlain (decoder : Decoder α) (what : String) (response : Response) :
    IsClassified (decodePlain decoder what response)
      (fun x => response.HasSuccess ∧ decoder.ofText response.body = .ok x)
      (¬ response.HasSuccess)
      (response.HasSuccess ∧ ∀ x, decoder.ofText response.body ≠ .ok x) := by
  refine .intro ?_ ?_ ?_ ?_
  · rintro x ⟨hstatus, hread⟩
    rw [decodePlain_of_hasSuccess hstatus, hread]
    rfl
  · intro hstatus
    exact ⟨_, decodePlain_of_not_hasSuccess hstatus decoder what⟩
  · rintro ⟨hstatus, hbad⟩
    rw [decodePlain_of_hasSuccess hstatus]
    cases hread : decoder.ofText response.body with
    | ok x => exact absurd hread (hbad x)
    | error cause => exact ⟨_, rfl⟩
  · by_cases hstatus : response.HasSuccess
    · cases hread : decoder.ofText response.body with
      | ok x => exact .inl ⟨x, hstatus, rfl⟩
      | error cause => exact .inr (.inr ⟨hstatus, fun x hx => nomatch hx⟩)
    · exact .inr (.inl hstatus)

/-! ### Other attempts -/

namespace Client

section Course

variable (node : Node) (config : Config) (request : Request) (read : Reader α) (session : Session)

/-- How often a request is sent. -/
def timesSent : Nat :=
  ((execute config request read).run.run node.handle session).2.sent.length - session.sent.length

/-- In the attempt with the given number the answer arrives in time. -/
def Answered (k : Nat) (response : Response) : Prop :=
  ∃ after ≤ config.timeoutMs.toNat,
    delivery node config request session k = .arrives after (.ok response)

end Course

variable {node : Node} {config : Config} {request : Request} {read : Reader α} {session : Session}
  {k : Nat} {response : Response}

theorem Answered.attempt_eq (h : Answered node config request session k response)
    (read : Reader α) :
    attempt node config request session read k = read request.description response := by
  obtain ⟨after, hafter, hdelivery⟩ := h
  unfold attempt
  simp only [hdelivery, if_pos hafter]

/-- **After an answer a request is sent again** exactly if there are attempts left and what is read
from the answer is an error that may pass. -/
theorem sent_again_iff (h : Answered node config request session k response)
    (hmade : k < timesSent node config request read session) :
    k + 1 < timesSent node config request read session ↔
      k + 1 < config.attempts ∧
        ∃ e, read request.description response = .error e ∧ e.isRetryable = true := by
  obtain ⟨n, hn, hbefore, hlast, hrun⟩ := run_execute node config request read session
  have htimes : timesSent node config request read session = n + 1 := by
    unfold timesSent
    rw [hrun]
    show (session.sent ++ List.replicate (n + 1) request).length - _ = _
    rw [List.length_append, List.length_replicate]
    omega
  have hretry : ¬ Settles (attempt node config request session read k) ↔
      ∃ e, read request.description response = .error e ∧ e.isRetryable = true := by
    rw [h.attempt_eq]
    cases read request.description response with
    | ok x => simp [Settles]
    | error e => simp [settles_error_iff]
  rw [htimes] at hmade ⊢
  rw [← hretry]
  constructor
  · intro hagain
    exact ⟨by omega, hbefore k (by omega)⟩
  · rintro ⟨hleft, hunsettled⟩
    -- The last attempt either settles the matter or has none after it, so it is another one.
    have hne : k ≠ n := by
      rintro rfl
      rcases hlast with hsettles | hend
      · exact hunsettled hsettles
      · omega
    omega

theorem sent_again_iff_mayPass {delivers : α → Prop} {mayPass misshapen : Prop}
    (h : Answered node config request session k response)
    (hclass : IsClassified (read request.description response) delivers mayPass misshapen)
    (hmade : k < timesSent node config request read session) :
    k + 1 < timesSent node config request read session ↔
      k + 1 < max config.retries.toNat 1 ∧ mayPass :=
  (sent_again_iff h hmade).trans (and_congr_right fun _ => hclass.exists_isRetryable_iff)

end Client

/-! ### All answers -/

/-- **Every answer is of one of three classes**, whatever its status and its body are and whatever
it should hold, and what is returned for it tells which. An answer that should be an envelope
delivers a value, may be another one the next time, or has the wrong form; these are `Delivers`,
`MayPass` and `IsMisshapen`. Of an answer without an envelope the status alone says whether it may
pass, and then nothing is read from its body. After an answer a request is sent again exactly if
there are attempts left and the answer may pass. -/
theorem answers_classified (decoder : Decoder α) (what : String) (response : Response) :
    IsClassified (decodeEnvelope decoder what response) (Delivers decoder response)
      (MayPass response) (IsMisshapen decoder response) ∧
    IsClassified (decodePlain decoder what response)
      (fun x => response.HasSuccess ∧ decoder.ofText response.body = .ok x)
      (¬ response.HasSuccess)
      (response.HasSuccess ∧ ∀ x, decoder.ofText response.body ≠ .ok x) ∧
    ∀ node config request session k, Client.Answered node config request session k response →
      (k < Client.timesSent node config request (decodeEnvelope decoder) session →
        (k + 1 < Client.timesSent node config request (decodeEnvelope decoder) session ↔
          k + 1 < max config.retries.toNat 1 ∧ MayPass response)) ∧
      (k < Client.timesSent node config request (decodePlain decoder) session →
        (k + 1 < Client.timesSent node config request (decodePlain decoder) session ↔
          k + 1 < max config.retries.toNat 1 ∧ ¬ response.HasSuccess)) := by
  refine ⟨isClassified_decodeEnvelope decoder what response,
    isClassified_decodePlain decoder what response, fun node config request session k h => ?_⟩
  constructor
  · exact Client.sent_again_iff_mayPass h
      (isClassified_decodeEnvelope decoder request.description response)
  · exact Client.sent_again_iff_mayPass h
      (isClassified_decodePlain decoder request.description response)

/-- A yes with nothing in it. -/
def emptyAnswer : Response := ⟨200, "\x7b\"data\": null, \"success\": true\x7d"⟩

/-- An answer to some other question. -/
def strayAnswer : Response := ⟨200, "[0]"⟩

/-- A node behind a proxy that is down at first, which is not of much help after that either. -/
def moodyNode : Node where
  deliver index _ _ := match index with
    | 0 => .arrives 20 (.ok ⟨502, "<html>Bad Gateway</html>"⟩)
    | 1 => .arrives 50 (.ok emptyAnswer)
    | _ => .arrives 0 (.ok strayAnswer)
  clock now := ⟨now, 0⟩

/-- Five attempts, for which the second answer is just in time. -/
def stubbornConfig : Config := { timeoutMs := 50, retries := 5 }

/-- An envelope is asked for after the first answer and after the second, but not after the third;
and where none is expected, the second is the last. -/
theorem answers_classified_moody :
    Client.Answered moodyNode stubbornConfig (.get "/status") {} 1 emptyAnswer ∧
    Client.Answered moodyNode stubbornConfig (.get "/status") {} 2 strayAnswer ∧
    Client.Answered moodyNode stubbornConfig (.get "/health") {} 1 emptyAnswer ∧
    (let times := Client.timesSent moodyNode stubbornConfig (.get "/status")
      (decodeEnvelope Status.decoder) {}
    1 < times ∧ 2 < times ∧ ¬ 3 < times) ∧
    let times := Client.timesSent moodyNode stubbornConfig (.get "/health")
      (decodePlain Health.decoder) {}
    1 < times ∧ ¬ 2 < times := by
  have hempty (path : String) :
      Client.Answered moodyNode stubbornConfig (.get path) {} 1 emptyAnswer :=
    ⟨50, Nat.le_refl 50, rfl⟩
  have hstray : Client.Answered moodyNode stubbornConfig (.get "/status") {} 2 strayAnswer :=
    ⟨0, Nat.zero_le 50, rfl⟩
  have hone : 1 < Client.timesSent moodyNode stubbornConfig (.get "/status")
      (decodeEnvelope Status.decoder) {} := by
    decide +kernel
  have hhealth : 1 < Client.timesSent moodyNode stubbornConfig (.get "/health")
      (decodePlain Health.decoder) {} := by
    decide +kernel
  have hpass : MayPass emptyAnswer := by
    refine .inr ⟨⟨true, none, none⟩, ⟨.object [
      (.scalar (.string (some "data")), .scalar .null),
      (.scalar (.string (some "success")), .scalar (.bool true))], by cbv, ?_⟩, .inr rfl⟩
    exact .object (by simp) rfl .null .missing (by simp [Document.name?])
  have hbad : ¬ MayPass strayAnswer := by
    intro h
    obtain ⟨reason, attempts, herror⟩ :=
      (answers_classified Status.decoder "GET /status" strayAnswer).1.network_iff.2 h
    have hsettles : Settles (decodeEnvelope Status.decoder "GET /status" strayAnswer) := by
      decide +kernel
    rw [herror] at hsettles
    exact hsettles
  have hagain := (answers_classified Status.decoder "GET /status" emptyAnswer).2.2 moodyNode
    stubbornConfig (.get "/status") {} 1 (hempty "/status")
  have hlast := (answers_classified Status.decoder "GET /status" strayAnswer).2.2 moodyNode
    stubbornConfig (.get "/status") {} 2 hstray
  have hplain := (answers_classified Health.decoder "GET /health" emptyAnswer).2.2 moodyNode
    stubbornConfig (.get "/health") {} 1 (hempty "/health")
  have htwo := (hagain.1 hone).2 ⟨by decide, hpass⟩
  exact ⟨hempty "/status", hstray, hempty "/health",
    ⟨hone, htwo, fun h => hbad ((hlast.1 htwo).1 h).2⟩,
    hhealth, fun h => ((hplain.2 hhealth).1 h).2 ⟨by decide, by decide⟩⟩

end Remit.Node
