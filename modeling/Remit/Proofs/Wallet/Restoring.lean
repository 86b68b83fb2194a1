import Remit.Proofs.Keystore.Folder
import Remit.Proofs.Node.Faults
import Remit.Proofs.Wallet.Secrecy
import Remit.Proofs.Wallet.Signing

/-!
# Which texts restore a wallet

A wallet is restored from a text that is JSON of the right form, has a secret key of 32 bytes in it,
and has no address but the one of that key. Which documents have the right form is written down
apart from their decoder (`Serialized.Says`): the three parts of a written wallet may be missing or
null, stand in any order among other members, or one after the other in an array.

* `Serialized.decoder_ofText_eq_ok_iff`: the decoder of written wallets and `Serialized.Says` agree;
* `Serialized.wallet_eq_ok_iff`: which of these have a wallet in them, and that it is the one of the
  secret key;
* `restores_exactly`: which texts restore which wallet, and how the others are refused.
-/

namespace Remit.Json.Decoder.Fields

open Node.Envelope (Holds holds_iff)

variable {β : Type} {decode : Decoder β} {reads : Document → β → Prop} {level : Origin}

/-! ### Parts that may be missing -/

/-- Such a part is what stands under its name. -/
theorem ofMembers_part_eq_ok_iff
    (hreads : ∀ document y, reads document y ↔ decode level document = .ok y) (name : String)
    {find : String → Option Document} {x : Option β} :
    (optional name (nullable decode) none).ofMembers level find = .ok x ↔
      Holds reads (find name).toList x := by
  rw [ofMembers_optional_eq_ok_iff, holds_iff hreads]
  cases find name with
  | none => simp
  | some document => simp

/-- Such a part takes the first item, if there is one. -/
theorem ofItems_part_eq_ok_iff
    (hreads : ∀ document y, reads document y ↔ decode level document = .ok y) (name : String)
    {expected : String} {index : Nat} {items rest : List Document} {x : Option β} :
    (optional name (nullable decode) none).ofItems level expected index items = .ok (x, rest) ↔
      Holds reads (items.take 1) x ∧ items.drop 1 = rest := by
  rw [ofItems_optional_eq_ok_iff, holds_iff hreads]
  cases items with
  | nil => simp [and_comm, eq_comm]
  | cons document tail =>
    constructor
    · rintro (⟨hnil, -⟩ | ⟨_, hitems, hread⟩)
      · cases hnil
      · cases hitems
        exact ⟨.inr ⟨document, rfl, hread⟩, rfl⟩
    · rintro ⟨⟨hnil, -⟩ | ⟨_, hfirst, hread⟩, rfl⟩
      · cases hnil
      · cases hfirst
        exact .inr ⟨document, rfl, hread⟩

end Remit.Json.Decoder.Fields

namespace Remit.Wallet

open Json Json.Decoder
open Node.Envelope (Holds inside enter_text)

variable {S : Scheme}

/-! ### Written wallets -/

namespace Serialized

/-- The document is the text. -/
def IsText (document : Document) (text : String) : Prop :=
  document = .scalar (.string (some text))

/-- **The document is a written wallet**, and this is what it says. As an object it has, among any
members of other names that are sound, at most one value under each of the three names, a text or
null; as an array it has the same parts in this order, of which the last ones may be missing. -/
inductive Says : Document → Serialized → Prop
  | object {members : List (Document × Document)} {s : Serialized}
      (named : ∀ m ∈ members, ∃ name, m.1 = .scalar (.string (some name)))
      (address : Holds IsText (Document.under "address" members) s.address)
      (publicKey : Holds IsText (Document.under "public_key" members) s.publicKey)
      (secretKey : Holds IsText (Document.under "secret_key" members) s.secretKey)
      (others : ∀ m ∈ members,
        m.1.name? ∉ [some "address", some "public_key", some "secret_key"] → m.2.isSound = true) :
      Says (.object members) s
  | array {items : List Document} {s : Serialized}
      (address : Holds IsText (items.take 1) s.address)
      (publicKey : Holds IsText ((items.drop 1).take 1) s.publicKey)
      (secretKey : Holds IsText (items.drop 2) s.secretKey) :
      Says (.array items) s

/-- The text is a written wallet and nothing more, and this is what it says. -/
def IsWritten (text : String) (s : Serialized) : Prop :=
  ∃ document, Document.ofText text = (document, []) ∧ Says document s

theorem isText_iff (document : Document) (text : String) :
    IsText document text ↔ string inside document = .ok text :=
  string_eq_ok_iff.symm

theorem ofItems_fields_eq_ok_iff {expected : String} {items : List Document} {s : Serialized} :
    fields.ofItems inside expected 0 items = .ok (s, []) ↔
      Holds IsText (items.take 1) s.address ∧ Holds IsText ((items.drop 1).take 1) s.publicKey ∧
        Holds IsText (items.drop 2) s.secretKey := by
  -- The third part is the last one, so nothing may be left behind it.
  have hlast : ∀ (rest : List Document) (x : Option String),
      (Holds IsText (rest.take 1) x ∧ rest.drop 1 = []) ↔ Holds IsText rest x := by
    intro rest x
    constructor
    · rintro ⟨h, hrest⟩
      rwa [← List.take_append_drop 1 rest, hrest, List.append_nil]
    · intro h
      have hlength := h.length_le
      exact ⟨(List.take_of_length_le hlength).symm ▸ h, List.drop_eq_nil_of_le hlength⟩
  unfold fields
  simp only [Fields.ofItems_and_eq_ok_iff, Fields.ofItems_pure_eq_ok_iff,
    Fields.ofItems_part_eq_ok_iff isText_iff]
  constructor
  · rintro ⟨_, secretKey, _, ⟨_, publicKey, _, ⟨_, address, _, ⟨rfl, rfl⟩, ⟨haddress, rfl⟩, rfl⟩,
      ⟨hpublicKey, rfl⟩, rfl⟩, hsecretKey, rfl⟩
    rw [hlast, List.drop_drop] at hsecretKey
    exact ⟨haddress, hpublicKey, hsecretKey⟩
  · rintro ⟨haddress, hpublicKey, hsecretKey⟩
    rw [← hlast] at hsecretKey
    refine ⟨_, _, _, ⟨_, _, _, ⟨_, _, _, ⟨rfl, rfl⟩, ⟨haddress, rfl⟩, rfl⟩, ⟨hpublicKey, rfl⟩, rfl⟩,
      ?_, rfl⟩
    rw [List.drop_drop]
    exact hsecretKey

theorem ofMembers_fields_eq_ok_iff {find : String → Option Document} {s : Serialized} :
    fields.ofMembers inside find = .ok s ↔
      Holds IsText (find "address").toList s.address ∧
        Holds IsText (find "public_key").toList s.publicKey ∧
          Holds IsText (find "secret_key").toList s.secretKey := by
  unfold fields
  simp only [Fields.ofMembers_and_eq_ok_iff, Fields.ofMembers_pure_eq_ok_iff,
    Fields.ofMembers_part_eq_ok_iff isText_iff]
  constructor
  · rintro ⟨_, _, ⟨_, _, ⟨_, _, rfl, haddress, rfl⟩, hpublicKey, rfl⟩, hsecretKey, rfl⟩
    exact ⟨haddress, hpublicKey, hsecretKey⟩
  · rintro ⟨haddress, hpublicKey, hsecretKey⟩
    exact ⟨_, _, ⟨_, _, ⟨_, _, rfl, haddress, rfl⟩, hpublicKey, rfl⟩, hsecretKey, rfl⟩

theorem map_name_fields : fields.list.map Field.name = names := rfl

/-- All three fields are checked alike. -/
theorem check_of_mem_fields {field : Field} (h : field ∈ fields.list) (origin : Origin)
    (document : Document) : field.check origin document =
      (Json.Decoder.nullable string origin document).map fun _ => () := by
  have hmem : field ∈ names.map fun name => (⟨name, fun origin document =>
      (Json.Decoder.nullable string origin document).map fun _ => ()⟩ : Field) := h
  obtain ⟨name, -, rfl⟩ := List.mem_map.1 hmem
  rfl

section Objects

variable {members : List (Document × Document)} {s : Serialized}

theorem Says.exists_holds (h : Says (.object members) s) {name : String} (hname : name ∈ names) :
    ∃ x, Holds IsText (Document.under name members) x := by
  simp only [names, List.mem_cons, List.not_mem_nil, or_false] at hname
  cases h with
  | object named address publicKey secretKey others =>
    rcases hname with rfl | rfl | rfl
    · exact ⟨_, address⟩
    · exact ⟨_, publicKey⟩
    · exact ⟨_, secretKey⟩

/-- A member has one of the three names, or else nothing is asked of it but that it is sound. -/
theorem Says.accepts (h : Says (.object members) s) {m : Document × Document} (hm : m ∈ members) :
    Accepts fields.list inside m := by
  have hdistinct : (fields.list.map Field.name).Nodup := by
    rw [map_name_fields]
    decide
  have hparts (name : String) (hname : name ∈ names) := h.exists_holds hname
  cases h with
  | object named address publicKey secretKey others =>
    obtain ⟨name, hkey⟩ := named m hm
    refine (accepts_iff hdistinct).2 ⟨name, hkey, fun field hfield hname => ?_, fun hother => ?_⟩
    · -- A member of one of the three names is the only one of its name.
      have hmem : name ∈ names := by
        rw [← map_name_fields, hname]
        exact List.mem_map_of_mem hfield
      obtain ⟨x, hx⟩ := hparts name hmem
      rw [check_of_mem_fields hfield]
      exact hx.check isText_iff (Document.mem_under hm hkey)
    · refine others m hm fun hmem => hother ?_
      rw [hkey] at hmem
      rw [map_name_fields]
      simpa [Document.name?, names] using hmem

/-- Where a name is there once at most, what is taken for it is all that stands under it. -/
theorem toList_taken_fields {name : String} (hname : name ∈ names)
    (hlength : (Document.under name members).length ≤ 1) :
    (taken fields.list members name).toList = Document.under name members := by
  rw [taken_of_mem (map_name_fields ▸ hname)]
  generalize Document.under name members = found at hlength ⊢
  rcases found with _ | ⟨document, _ | ⟨second, rest⟩⟩
  · rfl
  · rfl
  · simp only [List.length_cons] at hlength
    omega

theorem decoder_object_eq_ok_iff :
    decoder (.text levelLimit) (.object members) = .ok s ↔ Says (.object members) s := by
  rw [decoder_eq, record_object_eq_ok_iff enter_text, areOnce_nil_iff, map_name_fields,
    ofMembers_fields_eq_ok_iff]
  constructor
  · rintro ⟨haccepts, hlength, haddress, hpublicKey, hsecretKey⟩
    rw [toList_taken_fields (by decide) (hlength _ (by decide))] at haddress
    rw [toList_taken_fields (by decide) (hlength _ (by decide))] at hpublicKey
    rw [toList_taken_fields (by decide) (hlength _ (by decide))] at hsecretKey
    refine .object (fun m hm => ?_) haddress hpublicKey hsecretKey fun m hm hname => ?_
    · obtain ⟨name, hkey, -⟩ := haccepts m hm
      exact ⟨name, hkey⟩
    · have hdistinct : (fields.list.map Field.name).Nodup := by
        rw [map_name_fields]
        decide
      obtain ⟨name, hkey, -, hsound⟩ := (accepts_iff hdistinct).1 (haccepts m hm)
      refine hsound fun hmem => hname ?_
      rw [hkey]
      exact List.mem_map_of_mem hmem
  · intro h
    have hlength : ∀ name ∈ names, (Document.under name members).length ≤ 1 := by
      intro name hname
      obtain ⟨x, hx⟩ := h.exists_holds hname
      exact hx.length_le
    refine ⟨fun m hm => h.accepts hm, hlength, ?_⟩
    rw [toList_taken_fields (by decide) (hlength _ (by decide)),
      toList_taken_fields (by decide) (hlength _ (by decide)),
      toList_taken_fields (by decide) (hlength _ (by decide))]
    cases h with
    | object named address publicKey secretKey others => exact ⟨address, publicKey, secretKey⟩

end Objects

/-- **The decoder and `Says` agree** on which texts are written wallets, and on what they say. -/
theorem decoder_ofText_eq_ok_iff {text : String} {s : Serialized} :
    decoder.ofText text = .ok s ↔ IsWritten text s := by
  rw [ofText_eq_ok_iff]
  refine exists_congr fun document => and_congr_right fun _ => ?_
  cases document with
  | object members => exact decoder_object_eq_ok_iff
  | array items =>
    rw [decoder_eq, record_array_eq_ok_iff enter_text, ofItems_fields_eq_ok_iff]
    constructor
    · rintro ⟨haddress, hpublicKey, hsecretKey⟩
      exact .array haddress hpublicKey hsecretKey
    · intro h
      cases h with
      | array address publicKey secretKey => exact ⟨address, publicKey, secretKey⟩
  | scalar value => exact ⟨fun h => absurd h (mismatch_ne_ok _ _ _), fun h => nomatch h⟩
  | malformed => exact ⟨fun h => absurd h (mismatch_ne_ok _ _ _), fun h => nomatch h⟩

/-! ### The wallet of what is written -/

/-- **What is written stands for the secret key**: its digits are there, and if there is an address,
it is a spelling of the digest of the public key. -/
structure StandsFor (S : Scheme) (s : Serialized) (secret : FixedBytes 32) : Prop where
  secretKey : ∃ digits, s.secretKey = some digits ∧ Hex.Denotes digits secret.toList
  address : ∀ text, s.address = some text →
    Hex.Denotes text (S.hash (S.publicKey secret).toList).toList

theorem wallet_of_none {s : Serialized} (h : s.secretKey = none) :
    s.wallet S = .error noSecret := by
  unfold wallet
  rw [h]
  rfl

theorem wallet_of_some {s : Serialized} {digits : String} (h : s.secretKey = some digits) :
    s.wallet S = Wallet.ofHex S digits >>= confirm s.address := by
  rw [← wallet_eq_confirm s.address s.publicKey, ← h]

theorem confirm_eq_ok_iff {address : Option String} {secret : FixedBytes 32} {w : Wallet S} :
    confirm address (ofSecret S secret) = .ok w ↔
      (∀ text, address = some text →
        Hex.Denotes text (S.hash (S.publicKey secret).toList).toList) ∧
      w = ofSecret S secret := by
  unfold confirm
  cases address with
  | none => simp [eq_comm]
  | some text =>
    have hspells : Hex.Denotes text (S.hash (S.publicKey secret).toList).toList ↔
        Identifier.parse .account text = .ok (ofSecret S secret).address :=
      Identifier.parse_eq_ok_iff_denotes.symm
    simp only [Option.some.injEq, forall_eq', hspells]
    cases Identifier.parse .account text with
    | error cause => simp
    | ok address =>
      by_cases heq : address = (ofSecret S secret).address
      · simp [heq, eq_comm]
      · simp [heq]

/-- **Which of what is written stands for a wallet**, and that it is the one of the secret key. -/
theorem wallet_eq_ok_iff {s : Serialized} {w : Wallet S} :
    s.wallet S = .ok w ↔ ∃ secret, s.StandsFor S secret ∧ w = ofSecret S secret := by
  constructor
  · intro h
    cases hsecret : s.secretKey with
    | none =>
      rw [wallet_of_none hsecret] at h
      cases h
    | some digits =>
      rw [wallet_of_some hsecret, bind_eq_ok_iff] at h
      obtain ⟨found, hfound, hconfirm⟩ := h
      obtain ⟨secret, hdenotes, rfl⟩ := Keystore.Request.ofHex_eq_ok_iff.1 hfound
      obtain ⟨haddress, rfl⟩ := confirm_eq_ok_iff.1 hconfirm
      exact ⟨secret, ⟨⟨digits, hsecret, hdenotes⟩, haddress⟩, rfl⟩
  · rintro ⟨secret, ⟨⟨digits, hsecret, hdenotes⟩, haddress⟩, rfl⟩
    rw [wallet_of_some hsecret, bind_eq_ok_iff]
    exact ⟨_, Keystore.Request.ofHex_eq_ok_iff.2 ⟨secret, hdenotes, rfl⟩,
      confirm_eq_ok_iff.2 ⟨haddress, rfl⟩⟩

theorem exists_ofHex_eq_invalidKey {digits : String} {cause : Error}
    (h : Wallet.ofHex S digits = .error cause) : ∃ reason, cause = .invalidKey reason := by
  unfold Wallet.ofHex KeyPair.ofHex KeyPair.ofBytes at h
  cases hdecode : Hex.decode digits with
  | error flaw =>
    rw [hdecode] at h
    cases h
    exact ⟨_, rfl⟩
  | ok bytes =>
    simp only [hdecode] at h
    split at h
    · cases h
    · cases h
      exact ⟨_, rfl⟩

theorem exists_confirm_eq_invalidKey {address : Option String} {w : Wallet S} {cause : Error}
    (h : confirm address w = .error cause) : ∃ reason, cause = .invalidKey reason := by
  unfold confirm at h
  split at h
  · cases h
  · split at h
    · cases h
      exact ⟨_, rfl⟩
    · split at h
      · cases h
      · cases h
        exact ⟨_, rfl⟩

/-- Everything else that is written is refused as a bad key. -/
theorem exists_wallet_eq_invalidKey {s : Serialized} (h : ∀ secret, ¬ s.StandsFor S secret) :
    ∃ reason, s.wallet S = .error (.invalidKey reason) := by
  cases hwallet : s.wallet S with
  | ok w =>
    obtain ⟨secret, hstands, -⟩ := wallet_eq_ok_iff.1 hwallet
    exact absurd hstands (h secret)
  | error cause =>
    suffices hreason : ∃ reason, cause = .invalidKey reason by
      obtain ⟨reason, rfl⟩ := hreason
      exact ⟨reason, rfl⟩
    cases hsecret : s.secretKey with
    | none =>
      rw [wallet_of_none hsecret] at hwallet
      cases hwallet
      exact ⟨_, rfl⟩
    | some digits =>
      rw [wallet_of_some hsecret] at hwallet
      cases hhex : Wallet.ofHex S digits with
      | error flaw =>
        rw [hhex] at hwallet
        cases hwallet
        exact exists_ofHex_eq_invalidKey hhex
      | ok w =>
        rw [hhex] at hwallet
        exact exists_confirm_eq_invalidKey hwallet

end Serialized

/-! ### Texts -/

theorem isExact_serialized (wallet : Wallet S) : wallet.serialized.json.IsExact := by
  show AreMembersExact [("address", .string wallet.address.text),
    ("public_key", .string wallet.publicKey.text), ("secret_key", .string wallet.secretText)]
  rw [areMembersExact_iff]
  intro m hm
  simp only [List.mem_cons, List.not_mem_nil, or_false] at hm
  rcases hm with rfl | rfl | rfl
  all_goals trivial

/-- **What is written of a wallet is read back.** -/
theorem ofSerialized_serialize (wallet : Wallet S) :
    ofSerialized S wallet.serialize = .ok wallet := by
  have htext : Document.ofText wallet.serialize = (wallet.serialized.json.toDocument, []) :=
    Document.ofText_renderIndented (isExact_serialized wallet)
  exact ofSerialized_of_members wallet htext (.of_eq (List.append_nil _).symm)
    (List.forall_mem_nil _) (List.forall_mem_nil _)

theorem ofHex_secretText (wallet : Wallet S) : ofHex S wallet.secretText = .ok wallet := by
  have hread : KeyPair.ofHex S wallet.secretText = .ok wallet.keys := by
    rw [secretText, KeyPair.secretText, KeyPair.ofHex_encode, KeyPair.ofSecret_secret]
  rw [ofHex, hread]
  rfl

theorem ofSerialized_of_isWritten {text : String} {s : Serialized} (h : s.IsWritten text) :
    ofSerialized S text = s.wallet S := by
  rw [ofSerialized, Serialized.decoder_ofText_eq_ok_iff.2 h]

theorem exists_ofSerialized_eq_format {text : String}
    (h : ∀ s, ¬ Serialized.IsWritten text s) :
    ∃ reason, ofSerialized S text = .error (.format reason) := by
  unfold ofSerialized
  cases hdecode : Serialized.decoder.ofText text with
  | ok s => exact absurd (Serialized.decoder_ofText_eq_ok_iff.1 hdecode) (h s)
  | error cause => exact ⟨_, rfl⟩

/-- **Texts restore exactly the wallets that they are written of.** Every wallet is restored from
its text and from the digits of its secret key. A text that is a written wallet restores the wallet
of the secret key that it stands for, whatever it says the public key is, and is refused as a bad
key if it stands for none; every other text is refused for its form. -/
theorem restores_exactly (S : Scheme) :
    (∀ secret : FixedBytes 32,
      ofSerialized S (ofSecret S secret).serialize = .ok (ofSecret S secret) ∧
      ofHex S (ofSecret S secret).secretText = .ok (ofSecret S secret) ∧
      (ofSecret S secret).keys.secret = secret ∧
      (ofSecret S secret).publicKey.bytes = S.publicKey secret ∧
      (ofSecret S secret).address.bytes = S.hash (S.publicKey secret).toList) ∧
    (∀ text s, Serialized.IsWritten text s →
      (∀ w, ofSerialized S text = .ok w ↔ ∃ secret, s.StandsFor S secret ∧ w = ofSecret S secret) ∧
      ((∀ secret, ¬ s.StandsFor S secret) →
        ∃ reason, ofSerialized S text = .error (.invalidKey reason))) ∧
    ∀ text, (∀ s, ¬ Serialized.IsWritten text s) →
      ∃ reason, ofSerialized S text = .error (.format reason) := by
  refine ⟨fun secret => ?_, fun text s hwritten => ⟨fun w => ?_, fun hnone => ?_⟩,
    fun text hnot => ?_⟩
  · exact ⟨ofSerialized_serialize _, ofHex_secretText _, rfl, rfl, rfl⟩
  · rw [ofSerialized_of_isWritten hwritten]
    exact Serialized.wallet_eq_ok_iff
  · rw [ofSerialized_of_isWritten hwritten]
    exact Serialized.exists_wallet_eq_invalidKey hnone
  · exact exists_ofSerialized_eq_format hnot

/-- The digits of a secret key in capitals, behind a mark. -/
def capitals : String := "0X9D61B19DEFFD5A60BA844AF492EC2CC44449C5697B326919703BAC031CAE7F60"

/-- A wallet that somebody has edited: the members are in another order, there is one more, and the
public key is gone. -/
def edited (address : String) : Json :=
  .object [("note", .nat 7), ("secret_key", .string capitals), ("public_key", .null),
    ("address", .string address)]

theorem isWritten_edited (address : String) :
    Serialized.IsWritten (edited address).render ⟨some address, none, some capitals⟩ := by
  refine ⟨_, Document.ofText_render ⟨⟨by decide, by decide⟩, trivial, trivial, trivial, trivial⟩,
    ?_⟩
  have hvalue (text : String) : Holds Serialized.IsText [.scalar (.string (some text))]
      (some text) := by
    refine .value rfl fun hnull => ?_
    cases hnull
  refine .object ?_ (hvalue address) .null (hvalue capitals) ?_
  · simp [memberDocuments]
  · simp only [memberDocuments, List.forall_mem_cons]
    exact ⟨fun _ => rfl, fun _ => rfl, fun _ => rfl, fun _ => rfl, List.forall_mem_nil _⟩

theorem denotes_capitals : Hex.Denotes capitals sampleSecret.toList :=
  Hex.decode_eq_ok_iff.1 (by decide +kernel)

/-- With its address in capitals the edited wallet is restored, with the address of somebody else it
is not, and a number is no wallet. -/
theorem restores_exactly_edited :
    ofSerialized sampleScheme
      (edited "6C31041268F471609C79F5F2DBCC38E4A4AB2F4D416109A4E09FCF50FD0F0062").render =
        .ok (ofSecret sampleScheme sampleSecret) ∧
    (∃ reason, ofSerialized sampleScheme (edited "abab").render = .error (.invalidKey reason)) ∧
    ∃ reason, ofSerialized sampleScheme "7" = .error (.format reason) := by
  obtain ⟨-, hwritten, hother⟩ := restores_exactly sampleScheme
  refine ⟨?_, ?_, hother "7" ?_⟩
  · refine ((hwritten _ _ (isWritten_edited _)).1 _).2 ⟨sampleSecret, ⟨⟨_, rfl, ?_⟩, ?_⟩, rfl⟩
    · exact denotes_capitals
    · rintro _ ⟨⟩
      exact Hex.decode_eq_ok_iff.1 (by decide +kernel)
  · refine (hwritten _ _ (isWritten_edited "abab")).2 fun secret hstands => ?_
    have hshort : Hex.Denotes "abab" [0xab, 0xab] := Hex.decode_eq_ok_iff.1 (by decide +kernel)
    have hlength := congrArg List.length ((hstands.address _ rfl).unique hshort)
    rw [Vector.length_toList] at hlength
    exact absurd hlength (by decide)
  · rintro s ⟨document, htext, hsays⟩
    have hnumber : Document.ofText "7" = (.scalar (.number (some (.integer 7))), []) := by cbv
    obtain ⟨rfl, -⟩ := Prod.mk.inj (hnumber.symm.trans htext)
    cases hsays

end Remit.Wallet
