import Mathlib
import Remit.Proofs.Json.Places
import Remit.Proofs.Text.Grammar
import Remit.Proofs.Wallet.Written

/-!
# What errors show of a secret key

Who loads a key with two secrets of one class, both of which are refused, gets the same error twice,
so the error shows the class and nothing else. The classes are those of `SameClass` for a text (no
hexadecimal, or so many bytes of it) and those of `SecretsAlike` for the value that stands for the
secret in a written wallet: null, a text of some class, an array, an object.

A written wallet that is refused for its form is refused at a place, and the place is part of the
error. It moves with the length of what stands before it, the secret among that
(`ofSerialized_error_cases`); secrets of one length do not move it (`ofSerialized_string_error_eq`),
and an array or object is not read (`exists_ofSerialized_bracket_eq_error`). The words for what is
wrong with a text that is not JSON are left open (`DecodeError.message`); the tokens behind secrets
of one length stand at the same places, whatever is wrong with them (`places_eq_of_isQuoted`).

Truth values and numbers are in none of the classes. They are refused by the reader of documents,
which says what it has found, and so the error spells out the value (`ofSerialized_scalar`). Two
numbers in the place of a secret are told apart by the error: `errors_show_numbers`.

`errors_of_secrets` states all of it.
-/

namespace Remit

open Json Json.Decoder

variable {S : Scheme}

/-! ### Texts -/

/-- Two texts of one class: neither is hexadecimal, or both are, with equally many bytes. -/
inductive SameClass (a b : String) : Prop
  | notHex (ha : ∀ bytes, ¬ Hex.Denotes a bytes) (hb : ∀ bytes, ¬ Hex.Denotes b bytes)
  | hex {x y : Bytes} (ha : Hex.Denotes a x) (hb : Hex.Denotes b y) (h : x.length = y.length)

theorem SameClass.refl (a : String) : SameClass a a := by
  by_cases h : ∃ bytes, Hex.Denotes a bytes
  · obtain ⟨bytes, h⟩ := h
    exact .hex h h rfl
  · exact .notHex (not_exists.1 h) (not_exists.1 h)

namespace KeyPair

/-- Bytes are refused for their number, which is all that the error shows. -/
theorem sameFailure_ofBytes {a b : Bytes} (h : a.length = b.length) :
    SameFailure (fun _ _ => True) (ofBytes S a) (ofBytes S b) := by
  unfold ofBytes
  by_cases hlength : a.length = 32
  · have ha : ∃ x, Bytes.ofLength? 32 a = some x := by
      by_contra hnone
      rw [not_exists, ← Option.eq_none_iff_forall_ne_some, Bytes.ofLength?_eq_none_iff] at hnone
      exact hnone hlength
    have hb : ∃ x, Bytes.ofLength? 32 b = some x := by
      by_contra hnone
      rw [not_exists, ← Option.eq_none_iff_forall_ne_some, Bytes.ofLength?_eq_none_iff] at hnone
      exact hnone (h ▸ hlength)
    obtain ⟨x, hx⟩ := ha
    obtain ⟨y, hy⟩ := hb
    rw [hx, hy]
    exact .ok trivial
  · rw [Bytes.ofLength?_eq_none_iff.2 hlength, Bytes.ofLength?_eq_none_iff.2 (h ▸ hlength), h]
    exact .error _

theorem ofHex_of_denotes {text : String} {bytes : Bytes} (h : Hex.Denotes text bytes) :
    ofHex S text = ofBytes S bytes := by
  rw [ofHex, Hex.decode_eq_ok_iff.2 h]

theorem ofHex_of_forall_not_denotes {text : String} (h : ∀ bytes, ¬ Hex.Denotes text bytes) :
    ofHex S text = .error notHex := by
  unfold ofHex
  cases hdecode : Hex.decode text with
  | ok bytes => exact absurd (Hex.decode_eq_ok_iff.1 hdecode) (h bytes)
  | error cause => rfl

theorem sameFailure_ofHex {a b : String} (h : SameClass a b) :
    SameFailure (fun _ _ => True) (ofHex S a) (ofHex S b) := by
  cases h with
  | notHex ha hb =>
    rw [ofHex_of_forall_not_denotes ha, ofHex_of_forall_not_denotes hb]
    exact .error _
  | hex ha hb hlength =>
    rw [ofHex_of_denotes ha, ofHex_of_denotes hb]
    exact sameFailure_ofBytes hlength

end KeyPair

theorem Wallet.sameFailure_ofHex {a b : String} (h : SameClass a b) :
    SameFailure (fun _ _ => True) (Wallet.ofHex S a) (Wallet.ofHex S b) :=
  (KeyPair.sameFailure_ofHex h).bind fun _ _ _ => .ok trivial

/-! ### Values in a written wallet -/

namespace Wallet.Serialized

/-- Two values of one class in the place of the secret key. -/
inductive SecretsAlike : Document → Document → Prop
  | null : SecretsAlike (.scalar .null) (.scalar .null)
  | text {a b : String} (h : SameClass a b) :
      SecretsAlike (.scalar (.string (some a))) (.scalar (.string (some b)))
  | sequence (items items' : List Document) : SecretsAlike (.array items) (.array items')
  | map (members members' : List (Document × Document)) :
      SecretsAlike (.object members) (.object members')

/-- The two values stand under the name of the secret key and are of one class. -/
def Hidden (name : String) (v v' : Document) : Prop := name = "secret_key" ∧ SecretsAlike v v'

/-- Two secrets as they were read, of one class. -/
inductive TextsAlike : Option String → Option String → Prop
  | none : TextsAlike none none
  | some {a b : String} (h : SameClass a b) : TextsAlike (some a) (some b)

theorem TextsAlike.refl (text : Option String) : TextsAlike text text := by
  cases text with
  | none => exact .none
  | some a => exact .some (.refl a)

theorem SecretsAlike.nullable {v v' : Document} (h : SecretsAlike v v') (origin : Origin) :
    SameFailure TextsAlike (nullable string origin v) (nullable string origin v') := by
  cases h with
  | null => exact .ok .none
  | text h => exact .ok (.some h)
  | sequence items items' => exact .error _
  | map members members' => exact .error _

/-- Two wallets as they were read, with secrets of one class. -/
structure Alike (s s' : Serialized) : Prop where
  address : s.address = s'.address
  publicKey : s.publicKey = s'.publicKey
  secretKey : TextsAlike s.secretKey s'.secretKey

theorem overlook_fields (origin : Origin) : fields.Overlook origin Hidden Alike := by
  -- The first two fields do not see what is hidden, the third sees its class.
  have hplain (name : String) (hname : name ≠ "secret_key") :
      (Fields.optional name (Json.Decoder.nullable string) none).Overlook origin Hidden Eq :=
    .optional (fun _ => rfl) fun v v' hv => absurd hv.1 hname
  have hsecret : (Fields.optional "secret_key" (Json.Decoder.nullable string) none).Overlook
      origin Hidden TextsAlike :=
    .optional .refl fun v v' hv => hv.2.nullable origin
  refine .and (.and (.and (.pure ?_) (hplain "address" (by decide)))
    (hplain "public_key" (by decide))) hsecret
  rintro address _ rfl publicKey _ rfl secret secret' h
  exact ⟨rfl, rfl, h⟩

theorem overlooks_list (origin : Origin) :
    Overlooks fields.list passOver origin Hidden where
  check := by
    intro field hfield v v' hv
    have hmem : field ∈ ["address", "public_key", "secret_key"].map fun name =>
        (⟨name, fun origin document =>
          (Json.Decoder.nullable string origin document).map fun _ => ()⟩ : Field) := hfield
    obtain ⟨name, -, rfl⟩ := List.mem_map.1 hmem
    exact (hv.2.nullable origin).map_unit_eq
  skip := by
    rintro name hnone v v' ⟨rfl, -⟩
    cases hnone

/-- **Two objects that differ in the secret alone**, and there within a class, are decoded alike. -/
theorem sameFailure_of_objectsAlike {document document' : Document}
    (h : ObjectsAlike Hidden document document') :
    SameFailure Alike (decoder (.text levelLimit) document)
      (decoder (.text levelLimit) document') := by
  obtain ⟨members, members', rfl, rfl, hmembers⟩ := h
  rw [decoder_eq]
  exact record_alike rfl (overlooks_list _) (overlook_fields _) hmembers "WalletJson"

/-- The same of texts. -/
theorem sameFailure_ofText {text text' : String}
    (h : ObjectsAlike Hidden (Document.ofText text).1 (Document.ofText text').1)
    (hrest : (Document.ofText text).2 = (Document.ofText text').2) :
    SameFailure Alike (decoder.ofText text) (decoder.ofText text') := by
  unfold Json.Decoder.ofText
  simp only [hrest]
  refine (sameFailure_of_objectsAlike h).bind fun s s' hs => ?_
  split
  · exact .ok hs
  · exact .error _

/-- A wallet with the address that is written next to it, if one is. -/
def confirm (address : Option String) (wallet : Wallet S) : Except Error (Wallet S) :=
  match address with
  | none => .ok wallet
  | some text =>
    match Identifier.parse .account text with
    | .error _ => .error badAddress
    | .ok address => if address = wallet.address then .ok wallet else .error otherAddress

theorem wallet_eq_confirm (address publicKey : Option String) (secret : String) :
    wallet S ⟨address, publicKey, some secret⟩ = Wallet.ofHex S secret >>= confirm address := rfl

/-- The address may tell the wallets of two keys apart, but only if one of them is right. -/
theorem confirm_error_eq {address : Option String} {w w' : Wallet S} {e e' : Error}
    (he : confirm address w = .error e) (he' : confirm address w' = .error e') : e = e' := by
  unfold confirm at he he'
  cases address with
  | none => cases he
  | some text =>
    cases hparse : Identifier.parse .account text with
    | error cause =>
      simp only [hparse] at he he'
      exact (Except.error.inj he).symm.trans (Except.error.inj he')
    | ok address =>
      simp only [hparse] at he he'
      split at he
      · cases he
      split at he'
      · cases he'
      exact (Except.error.inj he).symm.trans (Except.error.inj he')

/-- Where both of them are refused, they are for the same reason. -/
theorem Alike.error_eq {s s' : Serialized} (h : Alike s s') {e e' : Error}
    (he : s.wallet S = .error e) (he' : s'.wallet S = .error e') : e = e' := by
  obtain ⟨address, publicKey, secret⟩ := s
  obtain ⟨address', publicKey', secret'⟩ := s'
  obtain ⟨haddress, -, hsecret⟩ := h
  obtain rfl : address = address' := haddress
  cases hsecret with
  | none => exact (Except.error.inj he).symm.trans (Except.error.inj he')
  | @some a b hclass =>
    rw [wallet_eq_confirm] at he he'
    have hwallets := Wallet.sameFailure_ofHex (S := S) hclass
    generalize Wallet.ofHex S a = x at he hwallets
    generalize Wallet.ofHex S b = y at he' hwallets
    cases hwallets with
    | error cause => exact (Except.error.inj he).symm.trans (Except.error.inj he')
    | ok _ => exact confirm_error_eq he he'

end Wallet.Serialized

namespace Wallet

/-- **Two texts that are read alike** are refused for one reason, and if that is their form they are
refused for the same one, perhaps at different places. -/
theorem ofSerialized_error_cases {text text' : String}
    (h : SameFailure Serialized.Alike (Serialized.decoder.ofText text)
      (Serialized.decoder.ofText text')) {e e' : Error}
    (he : ofSerialized S text = .error e) (he' : ofSerialized S text' = .error e') :
    e = e' ∨ ∃ cause, e = notDecoded text cause ∧ e' = notDecoded text' cause := by
  unfold ofSerialized at he he'
  generalize Serialized.decoder.ofText text = x at h he
  generalize Serialized.decoder.ofText text' = y at h he'
  cases h with
  | error cause =>
    exact .inr ⟨cause, (Except.error.inj he).symm, (Except.error.inj he').symm⟩
  | ok halike => exact .inl (halike.error_eq he he')

theorem ofSerialized_of_decoder_eq_error {text : String} {cause : DecodeError}
    (h : Serialized.decoder (.text levelLimit) (Document.ofText text).1 = .error cause) :
    ofSerialized S text = .error (notDecoded text cause) := by
  unfold ofSerialized Json.Decoder.ofText
  simp only [h]
  rfl

theorem notDecoded_eq_of_placeOf_eq {text text' : String} {cause : DecodeError}
    (h : Serialized.decoder.placeOf cause text.toList =
      Serialized.decoder.placeOf cause text'.toList) :
    notDecoded text cause = notDecoded text' cause := by
  unfold notDecoded report
  rw [h]

/-! ### Secrets in a text -/

section Texts

variable {front : String} {before : List (Document × Document)}

/-- The members that are read when the value of the secret key is. -/
theorem objectsAlike_ofText (hfront : LeadsTo "secret_key" before front.toList)
    {literal literal' a b : String} (ha : IsQuoted literal a) (hb : IsQuoted literal' b)
    (h : SameClass a b) (back : String) :
    ObjectsAlike Serialized.Hidden (Document.ofText (front ++ literal ++ back)).1
        (Document.ofText (front ++ literal' ++ back)).1 ∧
      (Document.ofText (front ++ literal ++ back)).2 =
        (Document.ofText (front ++ literal' ++ back)).2 := by
  obtain ⟨content, hliteral, hread⟩ := ha
  obtain ⟨content', hliteral', hread'⟩ := hb
  have hbuild {literal text : String} {content : List Char}
      (hliteral : literal.toList = '"' :: content)
      (hread : Token.scanScalar? '"' content = some (.string (some text), [])) :
      Document.ofText (front ++ literal ++ back) =
        Document.build .more
          [.object ((.scalar (.string (some "secret_key")),
            .scalar (.string (some text))) :: before)] (Token.scan back.toList) := by
    have hscan := Token.scan_scalar (Token.scanScalar?_plain hread)
      (Token.scanScalar?_quote_append hread back.toList)
    rw [Document.ofText, String.toList_append, String.toList_append, hliteral, List.append_assoc,
      hfront.scan_append, hfront.build_append, List.cons_append, hscan]
    rfl
  rw [hbuild hliteral hread, hbuild hliteral' hread']
  have hopen : OpenAlike Serialized.Hidden
      [.object ((.scalar (.string (some "secret_key")), .scalar (.string (some a))) :: before)]
      [.object ((.scalar (.string (some "secret_key")), .scalar (.string (some b))) :: before)] :=
    .object (.cons (.named ⟨rfl, .text h⟩) (List.forall₂_same.2 fun m _ => .same m))
  exact hopen.build .more _

/-- Two strings of one length leave every token at its place. -/
theorem places_eq_of_isQuoted (hfront : LeadsTo "secret_key" before front.toList)
    {literal literal' a b : String} (ha : IsQuoted literal a) (hb : IsQuoted literal' b)
    (hlength : Bytes.utf8Length literal.toList = Bytes.utf8Length literal'.toList)
    (back : String) :
    places (front ++ literal ++ back).toList = places (front ++ literal' ++ back).toList := by
  obtain ⟨content, hliteral, hread⟩ := ha
  obtain ⟨content', hliteral', hread'⟩ := hb
  rw [hliteral, hliteral'] at hlength
  simp only [String.toList_append, List.append_assoc, hliteral, hliteral']
  exact places_eq_of_strings hfront hread hread' hlength back.toList

/-- **Two strings of one class and one length** in the place of the secret key. -/
theorem ofSerialized_string_error_eq (hfront : LeadsTo "secret_key" before front.toList)
    {literal literal' a b : String} (ha : IsQuoted literal a) (hb : IsQuoted literal' b)
    (h : SameClass a b)
    (hlength : Bytes.utf8Length literal.toList = Bytes.utf8Length literal'.toList) {back : String}
    {e e' : Error} (he : ofSerialized S (front ++ literal ++ back) = .error e)
    (he' : ofSerialized S (front ++ literal' ++ back) = .error e') : e = e' := by
  have hread := objectsAlike_ofText hfront ha hb h back
  rcases ofSerialized_error_cases (Serialized.sameFailure_ofText hread.1 hread.2) he he' with
    hsame | ⟨cause, rfl, rfl⟩
  · exact hsame
  · refine notDecoded_eq_of_placeOf_eq ?_
    obtain ⟨content, hliteral, hread⟩ := ha
    obtain ⟨content', hliteral', hread'⟩ := hb
    rw [hliteral, hliteral'] at hlength
    simp only [String.toList_append, List.append_assoc, hliteral, hliteral']
    have hhidden : Serialized.Hidden "secret_key" (.scalar (.string (some a)))
        (.scalar (.string (some b))) := ⟨rfl, .text h⟩
    exact placeOf_eq_of_strings hfront hread hread' hlength hhidden
      (fun _ _ => Serialized.sameFailure_of_objectsAlike) cause back.toList

theorem find?_fields_secretKey : Serialized.fields.list.find? (·.name == "secret_key") =
    some ⟨"secret_key", fun origin document =>
      (Decoder.nullable Decoder.string origin document).map fun _ => ()⟩ := by
  simp [Serialized.fields, Fields.and, Fields.pure, Fields.optional]

/-- A bracket that opens a value which is no text, and which is not entered for that reason. -/
structure IsOpening (c : Char) (token : Token) (kind : Document → Prop) (found : Found) :
    Prop where
  punctuation : Token.punctuation? c = some token
  ne_end : c ≠ '}'
  /-- Whatever follows the bracket, the value is of the kind. -/
  hasMember (before : List (Document × Document)) (name : Document) (tokens : List Token) :
    Document.HasMember before name kind
      (Document.build .value [.member before name] (token :: tokens)).1
  nullable {value : Document} (h : kind value) (origin : Origin) :
    Decoder.nullable Decoder.string origin value = .error (.wrongType found "a string")
  unread (lexeme : Lexeme) : lexeme.unread (.wrongType found "a string") = lexeme.start

theorem isOpening_array :
    IsOpening '[' .beginArray (fun value => ∃ items, value = .array items) .sequence where
  punctuation := rfl
  ne_end := by decide
  hasMember _ _ tokens :=
    (Document.Holds.array [] fun items => ⟨items, rfl⟩).build .firstItem tokens
  nullable := by
    rintro _ ⟨items, rfl⟩ origin
    rfl
  unread _ := rfl

theorem isOpening_object :
    IsOpening '\x7b' .beginObject (fun value => ∃ members, value = .object members) .map where
  punctuation := rfl
  ne_end := by decide
  hasMember _ _ tokens :=
    (Document.Holds.object [] fun members => ⟨members, rfl⟩).build .firstName tokens
  nullable := by
    rintro _ ⟨members, rfl⟩ origin
    rfl
  unread _ := rfl

section Opening

variable {c : Char} {token : Token} {kind : Document → Prop} {found : Found}

/-- Behind the bracket the text is refused for one reason, whatever follows: for the kind of the
value, or for something before the bracket. -/
theorem IsOpening.exists_cause (h : IsOpening c token kind found)
    (hfront : LeadsTo "secret_key" before front.toList) :
    ∃ cause, (∀ tokens, Serialized.decoder (.text levelLimit)
        (Document.build .value [] (Token.scan front.toList ++ token :: tokens)).1 =
          .error cause) ∧
      (cause = .wrongType found "a string" ∨ Serialized.decoder (.text levelLimit)
        (Document.build .value [] (Token.scan front.toList)).1 = .error cause) := by
  have hlevel : (Origin.text levelLimit).enter = .ok (.text 127) := rfl
  have hcheck (value : Document) (hvalue : kind value) :
      ((Decoder.nullable Decoder.string (.text 127) value).map fun _ => ()) =
        .error (.wrongType found "a string") := by
    rw [h.nullable hvalue]
    rfl
  obtain ⟨cause, hrefused, hcause⟩ := exists_record_eq_error find?_fields_secretKey hlevel hcheck
    "WalletJson" before.reverse
  refine ⟨cause, fun tokens => ?_, hcause.imp_right fun hbefore => ?_⟩
  · rw [hfront.build_append]
    obtain ⟨value, after, hvalue, hdocument⟩ := h.hasMember before _ tokens
    rw [hdocument]
    exact hrefused value after hvalue
  · -- Without its value the member is refused for the same reason.
    have hfinish := hfront.build_append []
    rw [List.append_nil] at hfinish
    rw [hfinish]
    show Serialized.decoder _ (.object ((_, .malformed) :: before).reverse) = _
    rw [List.reverse_cons]
    exact hbefore .malformed []

/-- **Arrays, or objects, in the place of the secret key** are refused alike, whatever they hold and
whatever follows. -/
theorem IsOpening.exists_ofSerialized_eq_error (h : IsOpening c token kind found)
    (hfront : LeadsTo "secret_key" before front.toList) {text text' : String}
    {rest rest' : List Char} (htext : text.toList = front.toList ++ c :: rest)
    (htext' : text'.toList = front.toList ++ c :: rest') :
    ∃ e, ofSerialized S text = .error e ∧ ofSerialized S text' = .error e := by
  obtain ⟨cause, hrefused, hcause⟩ := h.exists_cause hfront
  have hofText {text : String} {rest : List Char}
      (htext : text.toList = front.toList ++ c :: rest) :
      ofSerialized S text = .error (notDecoded text cause) := by
    refine ofSerialized_of_decoder_eq_error ?_
    rw [Document.ofText, htext, hfront.scan_append, Token.scan_cons_punctuation h.punctuation]
    exact hrefused _
  have hplace : notDecoded text cause = notDecoded text' cause := by
    refine notDecoded_eq_of_placeOf_eq ?_
    rw [htext, htext']
    refine placeOf_eq_of_opening hfront h.punctuation h.ne_end ?_ rest rest'
    rcases hcause with rfl | hbefore
    · exact .inr ⟨failsWith_of_eq_error (hrefused []), h.unread⟩
    · exact .inl (failsWith_of_eq_error hbefore)
  exact ⟨_, hofText htext, hplace ▸ hofText htext'⟩

end Opening

/-- **Arrays, or objects** in the place of the secret key. -/
theorem exists_ofSerialized_bracket_eq_error (hfront : LeadsTo "secret_key" before front.toList)
    {bracket : String} (hbracket : bracket = "[" ∨ bracket = "\x7b") (rest rest' : String) :
    ∃ e, ofSerialized S (front ++ bracket ++ rest) = .error e ∧
      ofSerialized S (front ++ bracket ++ rest') = .error e := by
  have htext (bracket rest : String) : (front ++ bracket ++ rest).toList =
      front.toList ++ (bracket.toList ++ rest.toList) := by
    rw [String.toList_append, String.toList_append, List.append_assoc]
  rcases hbracket with rfl | rfl
  · exact isOpening_array.exists_ofSerialized_eq_error hfront (htext _ rest) (htext _ rest')
  · exact isOpening_object.exists_ofSerialized_eq_error hfront (htext _ rest) (htext _ rest')

end Texts

/-! ### What is shown -/

/-- Truth values and numbers, with the way they are named in errors. -/
inductive Shown : Scalar → Found → Prop
  | boolean (value : Bool) : Shown (.bool value) (.boolean value)
  | integer (value : Int) : Shown (.number (some (.integer value))) (.integer value)
  | double (bits : UInt64) : Shown (.number (some (.double bits))) (.double bits)

theorem Shown.nullable {value : Scalar} {found : Found} (h : Shown value found) (origin : Origin) :
    Decoder.nullable Decoder.string origin (.scalar value) =
      .error (.wrongType found "a string") := by
  cases h <;> rfl

theorem Shown.unread {value : Scalar} {found : Found} (h : Shown value found) (lexeme : Lexeme) :
    lexeme.unread (.wrongType found "a string") = lexeme.rest := by
  cases h <;> rfl

theorem Shown.decoder {value : Scalar} {found : Found} (h : Shown value found)
    (after : List (Document × Document)) :
    Serialized.decoder (.text levelLimit)
        (.object ((.scalar (.string (some "secret_key")), .scalar value) :: after)) =
      .error (.wrongType found "a string") := by
  have hlevel : (Origin.text levelLimit).enter = .ok (.text 127) := rfl
  rw [Serialized.decoder_eq]
  unfold record
  simp only [hlevel, bind, Except.bind]
  rw [readMembers]
  simp only [find?_fields_secretKey, h.nullable]
  rfl

/-- The error that spells out what stands in the place of the secret key. -/
def spelledOut (found : Found) (place : Place) : Error :=
  .format s!"invalid type: {found.name}, expected a string at {place.text}"

theorem notDecoded_wrongType (found : Found) (text : String) :
    notDecoded text (.wrongType found "a string") =
      spelledOut found (Serialized.decoder.placeOf (.wrongType found "a string") text.toList) := by
  have hmessage : (DecodeError.wrongType found "a string").message =
      "invalid type: " ++ found.name ++ ", expected " ++ "a string" := rfl
  have hreport : Serialized.decoder.report text (.wrongType found "a string") =
      (DecodeError.wrongType found "a string").message ++ " at " ++
        (Serialized.decoder.placeOf (.wrongType found "a string") text.toList).text := rfl
  have hwords : ", expected a string at " = ", expected " ++ ("a string" ++ " at ") := rfl
  have hspelled (place : Place) : spelledOut found place =
      .format ("invalid type: " ++ found.name ++ ", expected a string at " ++ place.text) := rfl
  rw [notDecoded, hreport, hmessage, hspelled, hwords]
  simp only [String.append_assoc]

/-- The front of a text in which the secret key comes first. -/
def secretFirst : List Token :=
  [.beginObject, .scalar (.string (some "secret_key")), .colon]

/-- Nothing before the secret key is refused. -/
theorem failsWith_take_secretFirst (found : Found) (n : ℕ) :
    Serialized.decoder.failsWith (.wrongType found "a string") (secretFirst.take n) = false := by
  match n with
  | 0 => rfl
  | 1 => rfl
  | 2 => rfl
  | n + 3 =>
    have htake : secretFirst.take (n + 3) = secretFirst := by simp [secretFirst]
    rw [htake]
    rfl

/-- **A truth value or a number in the place of the secret key is shown by the error.** -/
theorem ofSerialized_scalar {front literal back : String} {value : Scalar} {found : Found}
    (hfront : Token.scan front.toList = secretFirst) (hliteral : IsTaken literal value back)
    (h : Shown value found) :
    ofSerialized S (front ++ literal ++ back) =
      .error (spelledOut found (.behind (front ++ literal).toList)) := by
  have hleads : LeadsTo "secret_key" [] front.toList := by
    unfold LeadsTo
    rw [hfront]
    rfl
  obtain ⟨c, content, htext, hread⟩ := hliteral
  have htoList : (front ++ literal ++ back).toList = front.toList ++ c :: content := by
    rw [String.toList_append, String.toList_append, List.append_assoc, htext]
  have hrefused : Serialized.decoder (.text levelLimit)
      (Document.ofText (front ++ literal ++ back)).1 = .error (.wrongType found "a string") := by
    obtain ⟨_, after, rfl, hdocument⟩ := hleads.hasMember_scalar hread
    rw [Document.ofText, htoList, hdocument]
    exact h.decoder after
  have hstops : Serialized.decoder.culprit? (.wrongType found "a string") []
      (lexemes (front.toList ++ c :: content)) =
        some ⟨.scalar value, c :: content, back.toList⟩ := by
    rw [hleads.lexemes_append, lexemes_scalar hread]
    refine culprit?_append_cons (fun n => ?_) ?_ _
    · rw [map_token_append, hfront]
      exact failsWith_take_secretFirst found n
    · rw [map_token_append, hfront]
      exact failsWith_of_eq_error (h.decoder _)
  have hplace : Serialized.decoder.placeOf (.wrongType found "a string")
      (front ++ literal ++ back).toList = .behind (front ++ literal).toList := by
    have hsplit : front.toList ++ c :: content = (front ++ literal).toList ++ back.toList := by
      rw [← htoList, String.toList_append]
    rw [htoList, placeOf_of_culprit? hstops, h.unread, hsplit, take_length_sub]
  rw [ofSerialized_of_decoder_eq_error hrefused, notDecoded_wrongType, hplace]

/-! ### Numbers -/

theorem toList_toString_eq_integerText (n : Int) : (toString n).toList = integerText n := by
  unfold integerText Decimal.signed
  rw [Int.toString_eq_repr, Int.repr_eq_if]
  by_cases hneg : n < 0
  · rw [if_neg (by omega), if_pos (decide_eq_true hneg), show (-n).toNat = n.natAbs by omega,
      String.toList_append, Nat.toList_repr]
    rfl
  · rw [if_pos (by omega), if_neg (by simpa using hneg), show n.toNat = n.natAbs by omega,
      Nat.toList_repr]

/-- Behind the number in the message stands a backquote, so the number can be read off. -/
theorem eq_of_message_spelledOut_eq {m n : Int} (hm : (Number.integer m).IsExact)
    (hn : (Number.integer n).IsExact) {place place' : Place}
    (h : (spelledOut (.integer m) place).message = (spelledOut (.integer n) place').message) :
    m = n := by
  have hmessage (k : Int) (place : Place) : (spelledOut (.integer k) place).message =
      "format error: " ++ ("invalid type: " ++ ("integer \x60" ++ (toString k ++ ("\x60" ++
        (", expected a string at " ++ place.text))))) := by
    have hspelled : (spelledOut (.integer k) place).message =
        "format error: " ++ ("invalid type: " ++ ("integer \x60" ++ toString k ++ "\x60") ++
          ", expected a string at " ++ place.text) := rfl
    rw [hspelled]
    simp only [String.append_assoc]
  rw [hmessage, hmessage, String.append_right_inj, String.append_right_inj,
    String.append_right_inj] at h
  have hdigits := congrArg String.toList h
  simp only [String.toList_append, toList_toString_eq_integerText] at hdigits
  have hends (rest : List Char) : EndsNumber ("\x60".toList ++ rest) :=
    endsNumber_cons (c := '\x60') (by decide)
  obtain ⟨numeral, hscan, hvalue⟩ := Numeral.scan_integerText hm (hends _)
  obtain ⟨numeral', hscan', hvalue'⟩ := Numeral.scan_integerText hn (hends _)
  rw [hdigits, hscan'] at hscan
  obtain ⟨rfl, -⟩ := Prod.mk.inj (Option.some.inj hscan)
  rw [hvalue'] at hvalue
  exact (Number.integer.inj (Option.some.inj hvalue)).symm

/-- A written wallet with nothing but a value in the place of the secret key. -/
def secretAlone (value : String) : String := "\x7b\"secret_key\":" ++ value ++ "\x7d"

theorem scan_secretAlone : Token.scan "\x7b\"secret_key\":".toList = secretFirst := by
  have hsplit : "\x7b\"secret_key\":".toList =
      '\x7b' :: (stringText "secret_key" ++ ':' :: []) := by decide +kernel
  rw [hsplit, Token.scan_cons_punctuation rfl, Token.scan_stringText,
    Token.scan_cons_punctuation rfl, Token.scan]
  rfl

/-- A number is taken up to the brace that ends the object. -/
theorem isTaken_toString {n : Int} (hn : (Number.integer n).IsExact) :
    IsTaken (toString n) (.number (some (.integer n))) "\x7d" := by
  obtain ⟨c, digits, htext, hc⟩ := Token.exists_integerText_eq_cons n
  have hends : EndsNumber "\x7d".toList := endsNumber_cons (c := '\x7d') (by decide)
  obtain ⟨numeral, hscan, hvalue⟩ := Numeral.scan_integerText hn hends
  refine ⟨c, digits ++ "\x7d".toList, by rw [toList_toString_eq_integerText, htext]; rfl, ?_⟩
  rw [htext, List.cons_append] at hscan
  rw [(Token.starts_number hc _).2, hscan, ← hvalue]
  rfl

/-- The error about an integer in the place of the secret key. -/
theorem ofSerialized_integer {n : Int} (hn : (Number.integer n).IsExact) :
    ofSerialized S (secretAlone (toString n)) =
      .error (spelledOut (.integer n)
        (.behind ("\x7b\"secret_key\":" ++ toString n).toList)) :=
  ofSerialized_scalar scan_secretAlone (isTaken_toString hn) (.integer n)

/-- **An error about a secret key shows the class of the secret and nothing else**, whichever way it
is loaded, but for two things that errors about a written wallet show. One is the place at which it
is refused, which moves with the length of the secret: for strings of one length, which leave every
token at its place, and for arrays or objects of any, the errors are the same. The other is a truth
value or a number in the place of the secret, which is spelled out, so that the errors about two
integers are the same only if the integers are. -/
theorem errors_of_secrets (S : Scheme) :
    (∀ (a b : Bytes) (e e' : Error), a.length = b.length →
      KeyPair.ofBytes S a = .error e → KeyPair.ofBytes S b = .error e' → e = e') ∧
    (∀ (a b : String) (e e' : Error), SameClass a b →
      (KeyPair.ofHex S a = .error e → KeyPair.ofHex S b = .error e' → e = e') ∧
      (Wallet.ofHex S a = .error e → Wallet.ofHex S b = .error e' → e = e')) ∧
    (∀ (text text' : String) (e e' : Error),
      ObjectsAlike Serialized.Hidden (Document.ofText text).1 (Document.ofText text').1 →
      (Document.ofText text).2 = (Document.ofText text').2 →
      ofSerialized S text = .error e → ofSerialized S text' = .error e' →
      e = e' ∨ ∃ cause, e = notDecoded text cause ∧ e' = notDecoded text' cause) ∧
    (∀ (front back : String) (before : List (Document × Document)),
      LeadsTo "secret_key" before front.toList →
      (∀ (literal literal' a b : String) (e e' : Error), IsQuoted literal a →
        IsQuoted literal' b → SameClass a b →
        Bytes.utf8Length literal.toList = Bytes.utf8Length literal'.toList →
        places (front ++ literal ++ back).toList = places (front ++ literal' ++ back).toList ∧
        (ofSerialized S (front ++ literal ++ back) = .error e →
          ofSerialized S (front ++ literal' ++ back) = .error e' → e = e')) ∧
      ∀ bracket rest rest' : String, bracket = "[" ∨ bracket = "\x7b" →
        ∃ e, ofSerialized S (front ++ bracket ++ rest) = .error e ∧
          ofSerialized S (front ++ bracket ++ rest') = .error e) ∧
    (∀ (front literal back : String) (value : Scalar) (found : Found),
      Token.scan front.toList = secretFirst → IsTaken literal value back → Shown value found →
      ofSerialized S (front ++ literal ++ back) =
        .error (spelledOut found (.behind (front ++ literal).toList))) ∧
    ∀ m n : Int, (Number.integer m).IsExact → (Number.integer n).IsExact →
      ∃ e e', ofSerialized S (secretAlone (toString m)) = .error e ∧
        ofSerialized S (secretAlone (toString n)) = .error e' ∧
        (e.message = e'.message ↔ m = n) := by
  refine ⟨?_, ?_, ?_, ?_, ?_, ?_⟩
  · intro a b e e' hlength
    exact (KeyPair.sameFailure_ofBytes hlength).error_eq
  · intro a b e e' hclass
    exact ⟨(KeyPair.sameFailure_ofHex hclass).error_eq,
      (Wallet.sameFailure_ofHex hclass).error_eq⟩
  · intro text text' e e' hobjects hrest
    exact ofSerialized_error_cases (Serialized.sameFailure_ofText hobjects hrest)
  · intro front back before hfront
    constructor
    · intro literal literal' a b e e' ha hb hclass hlength
      exact ⟨places_eq_of_isQuoted hfront ha hb hlength back,
        ofSerialized_string_error_eq hfront ha hb hclass hlength⟩
    · intro bracket rest rest' hbracket
      exact exists_ofSerialized_bracket_eq_error hfront hbracket rest rest'
  · intro front literal back value found hfront hliteral h
    exact ofSerialized_scalar hfront hliteral h
  · intro m n hm hn
    refine ⟨_, _, ofSerialized_integer hm, ofSerialized_integer hn,
      eq_of_message_spelledOut_eq hm hn, ?_⟩
    rintro rfl
    rfl

/-- Two numbers that are no secret keys are told apart by the errors about them. -/
theorem errors_show_numbers :
    ofSerialized .standard "\x7b\"secret_key\":31337\x7d" = .error
        (.format "invalid type: integer \x6031337\x60, expected a string at line 1 column 19") ∧
      ofSerialized .standard "\x7b\"secret_key\":31338\x7d" = .error
        (.format "invalid type: integer \x6031338\x60, expected a string at line 1 column 19") ∧
      Error.format "invalid type: integer \x6031337\x60, expected a string at line 1 column 19" ≠
        .format "invalid type: integer \x6031338\x60, expected a string at line 1 column 19" := by
  have htexts : secretAlone (toString (31337 : Int)) = "\x7b\"secret_key\":31337\x7d" ∧
      secretAlone (toString (31338 : Int)) = "\x7b\"secret_key\":31338\x7d" := by
    decide +kernel
  have herrors : spelledOut (.integer 31337)
        (.behind ("\x7b\"secret_key\":" ++ toString (31337 : Int)).toList) =
      .format "invalid type: integer \x6031337\x60, expected a string at line 1 column 19" ∧
      spelledOut (.integer 31338)
        (.behind ("\x7b\"secret_key\":" ++ toString (31338 : Int)).toList) =
      .format "invalid type: integer \x6031338\x60, expected a string at line 1 column 19" := by
    decide +kernel
  rw [← htexts.1, ← htexts.2, ← herrors.1, ← herrors.2]
  refine ⟨ofSerialized_integer (by constructor <;> decide),
    ofSerialized_integer (by constructor <;> decide), ?_⟩
  decide +kernel

/-- Bytes of one wrong number; texts that are not hexadecimal, by themselves and in a written wallet
with a number for an address, where the longer one moves the place of the number by two columns and
one of the same length does not; two arrays, a truth value, and two numbers. -/
theorem errors_of_secrets_malformed :
    (∃ e e', KeyPair.ofBytes .standard [1, 2, 3] = .error e ∧
      KeyPair.ofBytes .standard [4, 5, 6] = .error e' ∧ e = e') ∧
    (∃ e e', Wallet.ofHex .standard "hunter2" = .error e ∧
      Wallet.ofHex .standard "correct horse" = .error e' ∧ e = e') ∧
    (∃ e e', ofSerialized .standard "\x7b\"secret_key\":\"zz\",\"address\":5\x7d" = .error e ∧
      ofSerialized .standard "\x7b\"secret_key\":\"zzzz\",\"address\":5\x7d" = .error e' ∧
      e = .format "invalid type: integer \x605\x60, expected a string at line 1 column 30" ∧
      e' = .format "invalid type: integer \x605\x60, expected a string at line 1 column 32" ∧
      (e = e' ∨ ∃ cause,
        e = notDecoded "\x7b\"secret_key\":\"zz\",\"address\":5\x7d" cause ∧
        e' = notDecoded "\x7b\"secret_key\":\"zzzz\",\"address\":5\x7d" cause)) ∧
    (∃ e e', ofSerialized .standard "\x7b\"secret_key\":\"zz\",\"address\":5\x7d" = .error e ∧
      ofSerialized .standard "\x7b\"secret_key\":\"xy\",\"address\":5\x7d" = .error e' ∧
      e = e') ∧
    (∃ e, ofSerialized .standard "\x7b\"secret_key\":[1,2]\x7d" = .error e ∧
      ofSerialized .standard "\x7b\"secret_key\":[3]\x7d" = .error e) ∧
    ofSerialized .standard "\x7b\"secret_key\":true\x7d" =
      .error (spelledOut (.boolean true) ⟨1, 18⟩) ∧
    ∃ e e', ofSerialized .standard (secretAlone (toString (31337 : Int))) = .error e ∧
      ofSerialized .standard (secretAlone (toString (31338 : Int))) = .error e' ∧
      (e.message = e'.message ↔ (31337 : Int) = 31338) := by
  obtain ⟨hbytes, htexts, hwritten, hfronts, hscalar, hintegers⟩ := errors_of_secrets .standard
  have hnone (text : String) (h : (Hex.decode text).toOption = none) (bytes : Bytes) :
      ¬ Hex.Denotes text bytes := by
    intro hdenotes
    rw [Hex.decode_eq_ok_iff.2 hdenotes] at h
    cases h
  have hrefused (text : String) (h : (Hex.decode text).toOption = none) :
      Wallet.ofHex .standard text = .error KeyPair.notHex := by
    rw [Wallet.ofHex, KeyPair.ofHex_of_forall_not_denotes (hnone _ h)]
    rfl
  have hfront : LeadsTo "secret_key" [] "\x7b\"secret_key\":".toList := by
    unfold LeadsTo
    rw [scan_secretAlone]
    rfl
  -- The texts as they are put together, and what is said about them.
  have hclass (a b : String) (ha : (Hex.decode a).toOption = none)
      (hb : (Hex.decode b).toOption = none) : SameClass a b := .notHex (hnone a ha) (hnone b hb)
  have hzz : IsQuoted "\"zz\"" "zz" := ⟨_, rfl, by decide +kernel⟩
  have hzzzz : IsQuoted "\"zzzz\"" "zzzz" := ⟨_, rfl, by decide +kernel⟩
  have hxy : IsQuoted "\"xy\"" "xy" := ⟨_, rfl, by decide +kernel⟩
  have hfails (text message : String)
      (h : ((ofSerialized .standard text).map fun _ => ()) = .error (.format message)) :
      ofSerialized .standard text = .error (.format message) := by
    cases hread : ofSerialized .standard text with
    | error e =>
      rw [hread] at h
      rw [Except.error.inj h]
    | ok w =>
      rw [hread] at h
      cases h
  have hshort := hfails "\x7b\"secret_key\":\"zz\",\"address\":5\x7d"
    "invalid type: integer \x605\x60, expected a string at line 1 column 30" (by decide +kernel)
  have hlong := hfails "\x7b\"secret_key\":\"zzzz\",\"address\":5\x7d"
    "invalid type: integer \x605\x60, expected a string at line 1 column 32" (by decide +kernel)
  have hother := hfails "\x7b\"secret_key\":\"xy\",\"address\":5\x7d"
    "invalid type: integer \x605\x60, expected a string at line 1 column 30" (by decide +kernel)
  refine ⟨⟨_, _, rfl, rfl, hbytes [1, 2, 3] [4, 5, 6] _ _ rfl rfl rfl⟩, ?_, ?_, ?_, ?_, ?_, ?_⟩
  · have hfirst := hrefused "hunter2" (by decide +kernel)
    have hsecond := hrefused "correct horse" (by decide +kernel)
    exact ⟨_, _, hfirst, hsecond, (htexts _ _ _ _
      (hclass _ _ (by decide +kernel) (by decide +kernel))).2 hfirst hsecond⟩
  · have halike := objectsAlike_ofText hfront hzz hzzzz
      (hclass _ _ (by decide +kernel) (by decide +kernel)) ",\"address\":5\x7d"
    exact ⟨_, _, hshort, hlong, rfl, rfl, hwritten _ _ _ _ halike.1 halike.2 hshort hlong⟩
  · obtain ⟨-, hsame⟩ := (hfronts _ ",\"address\":5\x7d" [] hfront).1 _ _ _ _ _ _ hzz hxy
      (hclass _ _ (by decide +kernel) (by decide +kernel)) rfl
    exact ⟨_, _, hshort, hother, hsame hshort hother⟩
  · exact (hfronts _ "" [] hfront).2 "[" "1,2]\x7d" "3]\x7d" (.inl rfl)
  · have hplace : Place.behind ("\x7b\"secret_key\":" ++ "true").toList = ⟨1, 18⟩ := by
      decide +kernel
    have htext : "\x7b\"secret_key\":true\x7d" = "\x7b\"secret_key\":" ++ "true" ++ "\x7d" := by
      decide +kernel
    have htaken : IsTaken "true" (.bool true) "\x7d" :=
      ⟨'t', ['r', 'u', 'e', '\x7d'], by decide +kernel, by decide +kernel⟩
    rw [← hplace, htext]
    exact hscalar _ _ _ _ _ scan_secretAlone htaken (.boolean true)
  · exact hintegers 31337 31338 (by constructor <;> decide) (by constructor <;> decide)

end Wallet

end Remit
