import Mathlib.Data.List.Infix
import Remit.Keystore.Basic
import Remit.Proofs.Json.Members
import Remit.Proofs.Json.Printing
import Remit.Proofs.Json.Records
import Remit.Proofs.Text.Utf8
import Remit.Proofs.Wallet.Written

/-!
# What the file of a wallet says

The text of a record is read back as the wallet that was stored, by two decoders one after the
other, provided that the time of its creation is read back (`readRecord_text`). A text that is cut
short is not read as anything (`readRecord_ne_ok_of_prefix`): the brace that closes the object is
the last character of the text and stands nowhere else in it.
-/

namespace Remit

open Json Json.Decoder

variable {S : Scheme}

/-- The written form of the instant is read back as it was. -/
def Instant.ReadsBack (instant : Instant) : Prop :=
  Rfc3339.parse (Rfc3339.formatZulu instant) = .ok instant

/-! ### The only closing brace -/

/-- The value is a text without a closing brace, or an integer. -/
def Json.IsOpen : Json → Prop
  | .string text => '}' ∉ text.toList
  | .number (.integer _) => True
  | _ => False

namespace Json

theorem brace_not_mem_escapeChar {c : Char} (h : c ≠ '}') : '}' ∉ escapeChar c := by
  have hcode : ∀ n : Fin 32,
      '}' ∉ ['\\', 'u', '0', '0', Nat.digitChar (n / 16), Nat.digitChar (n % 16)] := by
    decide
  unfold escapeChar
  -- Short escapes are fixed texts, control characters have a code, and all others stay.
  split_ifs with _ _ _ _ _ _ _ hcontrol
  rotate_left 7
  · exact hcode ⟨c.toNat, hcontrol⟩
  · simpa using h.symm
  all_goals decide

theorem brace_not_mem_stringText {text : String} (h : '}' ∉ text.toList) :
    '}' ∉ stringText text := by
  have hescaped : '}' ∉ text.toList.flatMap escapeChar := by
    rw [List.mem_flatMap]
    rintro ⟨c, hc, hmem⟩
    refine brace_not_mem_escapeChar ?_ hmem
    rintro rfl
    exact h hc
  simp [stringText, hescaped]

theorem brace_not_mem_toDigits (n : Nat) : '}' ∉ Nat.toDigits 10 n := by
  intro hmem
  exact absurd (Decimal.isDigit_of_mem_digits hmem) (by decide)

theorem IsOpen.brace_not_mem {value : Json} (h : value.IsOpen) (level : Nat) :
    '}' ∉ value.indentedChars level := by
  unfold IsOpen at h
  split at h
  · rw [indentedChars]
    exact brace_not_mem_stringText h
  · rename_i value
    rw [indentedChars, Number.text, integerText, Decimal.signed]
    have hdigits := brace_not_mem_toDigits value.natAbs
    split
    · simpa using hdigits
    · exact hdigits
  · exact h.elim

theorem brace_not_mem_newLine (level : Nat) : '}' ∉ newLine level := by
  simp [newLine]

theorem brace_not_mem_indentedMembers {members : List (String × Json)}
    (h : ∀ m ∈ members, '}' ∉ m.1.toList ∧ m.2.IsOpen) (level : Nat) :
    '}' ∉ indentedMembers level members := by
  induction members with
  | nil => exact List.not_mem_nil
  | cons m rest ih =>
    obtain ⟨name, value⟩ := m
    rw [List.forall_mem_cons] at h
    have hname := brace_not_mem_stringText h.1.1
    have hvalue := h.1.2.brace_not_mem level
    cases rest with
    | nil => simp [indentedMembers, hname, hvalue]
    | cons next rest =>
      simp [indentedMembers, hname, hvalue, brace_not_mem_newLine, ih h.2]

/-- The text of an object of open values opens with a brace and closes with the only one that
closes. -/
theorem exists_renderIndented_eq {members : List (String × Json)} (hne : members ≠ [])
    (h : ∀ m ∈ members, '}' ∉ m.1.toList ∧ m.2.IsOpen) :
    ∃ body, (Json.object members).renderIndented.toList = '{' :: body ++ ['}'] ∧ '}' ∉ body := by
  obtain ⟨first, rest, rfl⟩ := List.exists_cons_of_ne_nil hne
  refine ⟨newLine 1 ++ indentedMembers 1 (first :: rest) ++ newLine 0, ?_, ?_⟩
  · rw [renderIndented, String.toList_ofList, indentedChars]
    simp only [List.cons_append, List.append_assoc]
  · simp [brace_not_mem_newLine, brace_not_mem_indentedMembers h]

end Json

/-! ### The texts in a record -/

theorem Hex.brace_not_mem_encode (bytes : Bytes) : '}' ∉ (Hex.encode bytes).toList := by
  have hpair : ∀ byte, '}' ∉ digitPair byte := forall_byte (by decide +kernel)
  rw [toList_encode, encodeDigits, List.mem_flatMap]
  rintro ⟨byte, -, hmem⟩
  exact hpair byte hmem

namespace Rfc3339

theorem brace_not_mem_padded (width n : Nat) : '}' ∉ padded width n := by
  simp [padded, Json.brace_not_mem_toDigits]

theorem brace_not_mem_yearText (year : Int) : '}' ∉ yearText year := by
  unfold yearText
  split_ifs <;> simp [brace_not_mem_padded]

theorem brace_not_mem_fractionText (nanoseconds : Nat) : '}' ∉ fractionText nanoseconds := by
  unfold fractionText
  split_ifs <;> simp [brace_not_mem_padded]

theorem brace_not_mem_formatZulu (instant : Instant) : '}' ∉ (formatZulu instant).toList := by
  simp [formatZulu, localText, brace_not_mem_padded, brace_not_mem_yearText,
    brace_not_mem_fractionText]

end Rfc3339

namespace Keystore

theorem brace_not_mem_of_isName {name : String} (h : isName name = true) :
    '}' ∉ name.toList := by
  simp only [isName, Bool.and_eq_true, List.all_eq_true] at h
  intro hmem
  exact absurd (h.2 _ hmem) (by decide)

namespace Record

/-- The fields of a record. -/
def fields : Fields Record :=
  ((((((Fields.pure Record.mk).and
    (.required "version" word32)).and
    (.required "name" string)).and
    (.required "created_at" instantDecoder)).and
    (.required "address" string)).and
    (.required "public_key" string)).and
    (.required "secret_key" string)

theorem decoder_eq : decoder = record "WalletFile" fields := rfl

/-- The members of the JSON object of a record. -/
def members (r : Record) : List (String × Json) :=
  [("version", .nat r.version.toNat), ("name", .string r.name),
   ("created_at", .string (Rfc3339.formatZulu r.createdAt)), ("address", .string r.address),
   ("public_key", .string r.publicKey), ("secret_key", .string r.secretKey)]

theorem isExact_json (r : Record) : r.json.IsExact := by
  show AreMembersExact r.members
  rw [areMembersExact_iff]
  intro m hm
  simp only [members, List.mem_cons, List.not_mem_nil, or_false] at hm
  rcases hm with rfl | rfl | rfl | rfl | rfl | rfl
  · have hlt := r.version.toNat_lt
    constructor <;> omega
  all_goals trivial

theorem ofText_text (r : Record) :
    Document.ofText r.text = (.object (memberDocuments r.members), []) :=
  Document.ofText_renderIndented r.isExact_json

/-! ### Reading a record -/

theorem word32_nat (origin : Origin) (word : UInt32) :
    word32 origin (Json.nat word.toNat).toDocument = .ok word := by
  have hrange : 0 ≤ (word.toNat : Int) ∧ (word.toNat : Int) < UInt32.size :=
    ⟨Int.natCast_nonneg _, Int.ofNat_lt.2 word.toNat_lt⟩
  show (natural UInt32.size "u32" origin
    (.scalar (.number (some (.integer word.toNat))))).map UInt32.ofNat = _
  rw [natural, if_pos hrange]
  simp [Except.map]

theorem instantDecoder_string (origin : Origin) (text : String) :
    instantDecoder origin (Json.string text).toDocument =
      (Rfc3339.parse text).mapError fun cause => .refused cause.message := by
  have hdocument : (Json.string text).toDocument = .scalar (.string (some text)) := rfl
  rw [hdocument, instantDecoder]
  cases Rfc3339.parse text <;> rfl

theorem decoder_ofText_text (r : Record) {instant : Instant}
    (h : Rfc3339.parse (Rfc3339.formatZulu r.createdAt) = .ok instant) :
    decoder.ofText r.text = .ok { r with createdAt := instant } := by
  have hinstant (origin : Origin) : instantDecoder origin
      (Json.string (Rfc3339.formatZulu r.createdAt)).toDocument = .ok instant := by
    rw [instantDecoder_string, h]
    rfl
  have hasks : fields.Asks (.text 127) r.members { r with createdAt := instant } :=
    ((((((Fields.Asks.pure _).and (.required (word32_nat _ r.version))).and
      (.required rfl)).and (.required (hinstant _))).and (.required rfl)).and
      (.required rfl)).and (.required rfl)
  have hnames : (r.members.map Prod.fst).Nodup := by
    show ["version", "name", "created_at", "address", "public_key", "secret_key"].Nodup
    decide
  have hread : record "WalletFile" fields (.text levelLimit)
      (.object (memberDocuments r.members)) = .ok { r with createdAt := instant } := by
    have hall : r.members.Perm (r.members ++ []) := by rw [List.append_nil]
    exact record_eq_ok rfl _ hasks hall hnames (fun m hm => nomatch hm) fun m hm => nomatch hm
  rw [Json.Decoder.ofText, ofText_text, decoder_eq]
  simp only [hread]
  rfl

theorem find?_created_at : fields.list.find? (·.name == "created_at") =
    some ⟨"created_at", fun origin document =>
      (instantDecoder origin document).map fun _ => ()⟩ := by
  simp [fields, Fields.and, Fields.pure, Fields.required]

/-- A record whose time is not read back is not read at all. -/
theorem exists_parse_of_decoder_ofText {r record : Record}
    (h : decoder.ofText r.text = .ok record) :
    ∃ instant, Rfc3339.parse (Rfc3339.formatZulu r.createdAt) = .ok instant := by
  rw [Json.Decoder.ofText, ofText_text, decoder_eq] at h
  obtain ⟨_, hrecord, -⟩ := exists_of_bind_eq_ok h
  obtain ⟨level, -, hrecord⟩ := exists_of_bind_eq_ok hrecord
  obtain ⟨found, hread, -⟩ := exists_of_bind_eq_ok hrecord
  -- The third member holds the time, and whoever has read all members has accepted it.
  have hmem : (.scalar (.string (some "created_at")),
      (Json.string (Rfc3339.formatZulu r.createdAt)).toDocument) ∈ memberDocuments r.members :=
    .tail _ (.tail _ (.head _))
  obtain ⟨name, hname, haccepts⟩ := accepts_of_readMembers hread _ hmem
  obtain rfl : "created_at" = name := by simpa using hname
  rw [find?_created_at] at haccepts
  simp only [instantDecoder_string] at haccepts
  cases hparse : Rfc3339.parse (Rfc3339.formatZulu r.createdAt) with
  | ok instant => exact ⟨instant, rfl⟩
  | error cause =>
    rw [hparse] at haccepts
    cases haccepts

/-! ### Only sound values -/

theorem isSound_of_string {origin : Origin} {document : Document} {text : String}
    (h : Json.Decoder.string origin document = .ok text) : document.isSound = true := by
  rw [string_eq_ok_iff.1 h]
  rfl

theorem isSound_of_word32 {origin : Origin} {document : Document} {word : UInt32}
    (h : word32 origin document = .ok word) : document.isSound = true := by
  obtain ⟨n, hn⟩ : ∃ n, natural UInt32.size "u32" origin document = .ok n := by
    unfold word32 at h
    cases hread : natural UInt32.size "u32" origin document with
    | ok n => exact ⟨n, rfl⟩
    | error cause =>
      rw [hread] at h
      cases h
  unfold natural at hn
  split at hn
  · rfl
  · exact absurd hn (mismatch_ne_ok _ _ _)

theorem isSound_of_instantDecoder {origin : Origin} {document : Document} {instant : Instant}
    (h : instantDecoder origin document = .ok instant) : document.isSound = true := by
  unfold instantDecoder at h
  split at h
  · rfl
  · exact absurd h (mismatch_ne_ok _ _ _)

theorem isStrict_check {α : Type} {decode : Json.Decoder α}
    (h : ∀ origin document value, decode origin document = .ok value → document.isSound = true)
    (name : String) :
    Field.IsStrict ⟨name, fun origin document => (decode origin document).map fun _ => ()⟩ := by
  intro origin document hcheck
  cases hdecode : decode origin document with
  | ok value => exact h origin document value hdecode
  | error cause =>
    simp only [hdecode] at hcheck
    cases hcheck

/-- Only sound values pass the checks of a record. -/
theorem isStrict_fields : ∀ field ∈ fields.list, field.IsStrict := by
  have hstring (name : String) : Field.IsStrict ⟨name, fun origin document =>
      (Json.Decoder.string origin document).map fun _ => ()⟩ :=
    isStrict_check (fun _ _ _ => isSound_of_string) name
  intro field hfield
  simp only [fields, Fields.and, Fields.pure, Fields.required, List.nil_append,
    List.cons_append, List.mem_cons, List.not_mem_nil, or_false] at hfield
  rcases hfield with rfl | rfl | rfl | rfl | rfl | rfl
  · exact isStrict_check (fun _ _ _ => isSound_of_word32) _
  · exact hstring _
  · exact isStrict_check (fun _ _ _ => isSound_of_instantDecoder) _
  · exact hstring _
  · exact hstring _
  · exact hstring _

end Record

/-! ### Reading a wallet -/

theorem ofSerialized_text (name : String) (createdAt : Instant) (wallet : Wallet S) :
    Wallet.ofSerialized S (Record.ofWallet name createdAt wallet).text = .ok wallet := by
  have hall : (Record.ofWallet name createdAt wallet).members.Perm
      ((Record.ofWallet name createdAt wallet).members.drop 3 ++
        (Record.ofWallet name createdAt wallet).members.take 3) := by
    conv_lhs => rw [← List.take_append_drop 3 (Record.ofWallet name createdAt wallet).members]
    exact List.perm_append_comm
  refine Wallet.ofSerialized_of_members wallet (Record.ofText_text _) hall ?_ ?_
  · intro m hm
    have hname : m.1 ∈ ["version", "name", "created_at"] := List.mem_map_of_mem (f := Prod.fst) hm
    revert hname
    generalize m.1 = name
    revert name
    decide
  · intro m hm
    simp only [Record.members, List.take_succ_cons, List.take_zero, List.mem_cons,
      List.not_mem_nil, or_false] at hm
    rcases hm with rfl | rfl | rfl <;> rfl

/-- **What is stored is read back**, with the time as it is read. -/
theorem readRecord_text {name : String} {createdAt instant : Instant}
    (h : Rfc3339.parse (Rfc3339.formatZulu createdAt) = .ok instant) (wallet : Wallet S)
    (file : FileSystem.Path) :
    readRecord S file (Record.ofWallet name createdAt wallet).text =
      .ok ⟨name, instant, wallet⟩ := by
  have hrecord := Record.decoder_ofText_text (Record.ofWallet name createdAt wallet) h
  rw [readRecord, hrecord, ofSerialized_text]
  rfl

/-- If anything is read, then what was stored. -/
theorem eq_of_readRecord_text {name : String} {createdAt : Instant} {wallet : Wallet S}
    {file : FileSystem.Path} {named : NamedWallet S}
    (h : readRecord S file (Record.ofWallet name createdAt wallet).text = .ok named) :
    named.name = name ∧ named.wallet = wallet ∧
      Rfc3339.parse (Rfc3339.formatZulu createdAt) = .ok named.createdAt := by
  have hdecoded : ∃ record, Record.decoder.ofText (Record.ofWallet name createdAt wallet).text =
      .ok record := by
    rw [readRecord] at h
    cases hdecode : Record.decoder.ofText (Record.ofWallet name createdAt wallet).text with
    | ok record => exact ⟨record, rfl⟩
    | error cause =>
      rw [hdecode] at h
      cases h
  obtain ⟨record, hrecord⟩ := hdecoded
  obtain ⟨instant, hinstant⟩ := Record.exists_parse_of_decoder_ofText hrecord
  have hinstant' : Rfc3339.parse (Rfc3339.formatZulu createdAt) = .ok instant := hinstant
  rw [readRecord_text hinstant', Except.ok.injEq] at h
  subst h
  exact ⟨rfl, rfl, hinstant'⟩

/-! ### Texts that are cut short -/

/-- What is written of a wallet. -/
def contentOf (named : NamedWallet S) : Bytes :=
  Bytes.ofText (Record.ofWallet named.name named.createdAt named.wallet).text

theorem exists_text_eq {named : NamedWallet S} (hname : isName named.name = true) :
    ∃ body, (Record.ofWallet named.name named.createdAt named.wallet).text.toList =
      '{' :: body ++ ['}'] ∧ '}' ∉ body := by
  refine Json.exists_renderIndented_eq (List.cons_ne_nil _ _) ?_
  simp only [List.forall_mem_cons]
  exact ⟨⟨by decide, trivial⟩, ⟨by decide, brace_not_mem_of_isName hname⟩,
    ⟨by decide, Rfc3339.brace_not_mem_formatZulu _⟩, ⟨by decide, Hex.brace_not_mem_encode _⟩,
    ⟨by decide, Hex.brace_not_mem_encode _⟩, ⟨by decide, Hex.brace_not_mem_encode _⟩,
    fun m hm => nomatch hm⟩

/-- A part of the text has no brace that closes. -/
theorem not_closed_of_prefix {text : String} {body : List Char}
    (htext : text.toList = '{' :: body ++ ['}']) (hbody : '}' ∉ body) {part : String}
    (hpart : part.toList <+: text.toList) (hne : part ≠ text) :
    part.toList = [] ∨ ∃ rest, part.toList = '{' :: rest ∧ '}' ∉ rest := by
  rw [htext] at hpart
  rcases List.prefix_concat_iff.1 hpart with heq | hpart
  · exact absurd (String.toList_inj.1 (heq.trans htext.symm)) hne
  · cases hlist : part.toList with
    | nil => exact .inl rfl
    | cons c rest =>
      rw [hlist, List.cons_prefix_cons] at hpart
      obtain ⟨rfl, hrest⟩ := hpart
      exact .inr ⟨rest, rfl, fun hmem => hbody (hrest.subset hmem)⟩

/-- **A text that is cut short is not read as a wallet**, wherever it is cut. -/
theorem readRecord_ne_ok_of_prefix {named : NamedWallet S} (hname : isName named.name = true)
    {written : Bytes} (hwritten : written <+: contentOf named) (hne : written ≠ contentOf named)
    {part : String} (hpart : written.toText? = some part) (file : FileSystem.Path)
    (found : NamedWallet S) : readRecord S file part ≠ .ok found := by
  obtain rfl := Bytes.toText?_eq_some_iff.1 hpart
  obtain ⟨body, htext, hbody⟩ := exists_text_eq hname
  have hopen := not_closed_of_prefix htext hbody (Bytes.toList_prefix_of_ofText_prefix hwritten)
    fun heq => hne (congrArg Bytes.ofText heq)
  intro h
  rw [readRecord, Record.decoder_eq] at h
  cases hdecode : Json.Decoder.ofText (record "WalletFile" Record.fields) part with
  | ok record => exact ofText_record_of_not_closed Record.isStrict_fields _ hopen _ hdecode
  | error cause =>
    rw [hdecode] at h
    cases h

end Keystore

end Remit
