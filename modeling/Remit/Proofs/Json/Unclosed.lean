import Mathlib.Data.List.Infix
import Remit.Json.Decoder

/-!
# Texts without a closing brace

A text that opens an object and has no closing brace anywhere holds no record: its document is an
object that is malformed somewhere, and a record is decoded only from a sound object, if its fields
take only sound values.

* `Token.mem_of_endObject_mem_scan`: without a brace there is no token for one;
* `Document.build_of_not_closed`: without the token the object is abandoned;
* `Decoder.accepts_of_readMembers`: a reader that has read all members has accepted each of them;
* `Decoder.ofText_record_of_not_closed`: so no record is decoded.
-/

namespace Remit.Json

/-! ### What is left of a text -/

namespace Numeral

theorem scanDigits?_suffix {text digits rest : List Char}
    (h : scanDigits? text = some (digits, rest)) : rest <:+ text := by
  unfold scanDigits? at h
  split at h
  · cases h
  · cases h
    exact List.dropWhile_suffix _

theorem scanFraction?_suffix {text digits rest : List Char}
    (h : scanFraction? text = some (digits, rest)) : rest <:+ text := by
  unfold scanFraction? at h
  split at h
  · exact (scanDigits?_suffix h).trans (List.suffix_cons _ _)
  · cases h
    exact List.suffix_rfl

theorem scanExponent?_suffix {text rest : List Char} {exponent : Option (Bool × List Char)}
    (h : scanExponent? text = some (exponent, rest)) : rest <:+ text := by
  unfold scanExponent? at h
  split at h
  · rename_i c tail
    split at h
    · simp only [Option.map_eq_some_iff, Prod.mk.injEq] at h
      obtain ⟨⟨digits, rest'⟩, hdigits, -, rfl⟩ := h
      refine (scanDigits?_suffix hdigits).trans ?_
      split
      · exact (List.suffix_cons _ _).trans (List.suffix_cons _ _)
      · exact (List.suffix_cons _ _).trans (List.suffix_cons _ _)
      · exact List.suffix_cons _ _
    · cases h
      exact List.suffix_rfl
  · cases h
    exact List.suffix_rfl

theorem scan_suffix {text rest : List Char} {numeral : Numeral}
    (h : scan text = some (numeral, rest)) : rest <:+ text := by
  unfold scan at h
  simp only at h
  split at h
  · cases h
  rename_i whole afterWhole hwhole
  split at h
  · cases h
  split at h
  · cases h
  rename_i fraction afterFraction hfraction
  split at h
  · cases h
  rename_i exponent afterExponent hexponent
  cases h
  refine (scanExponent?_suffix hexponent).trans ((scanFraction?_suffix hfraction).trans
    ((scanDigits?_suffix hwhole).trans ?_))
  split
  · exact List.suffix_cons _ _
  · exact List.suffix_rfl

end Numeral

namespace Token

theorem scanString_suffix {text rest : List Char} {pieces : List Piece}
    (h : scanString text = some (pieces, rest)) : rest <:+ text := by
  fun_induction scanString text generalizing pieces rest with
  | case1 => cases h
  | case2 => cases h; exact List.suffix_cons _ _
  | case3 => cases h
  | case4 a b c d tail code hc ih =>
    simp only [Option.map_eq_some_iff, Prod.mk.injEq] at h
    obtain ⟨⟨_, r⟩, hr, -, rfl⟩ := h
    exact (ih hr).trans ⟨['\\', 'u', a, b, c, d], rfl⟩
  | case5 => cases h
  | case6 c tail _ c' _ ih =>
    simp only [Option.map_eq_some_iff, Prod.mk.injEq] at h
    obtain ⟨⟨_, r⟩, hr, -, rfl⟩ := h
    exact (ih hr).trans ⟨['\\', c], rfl⟩
  | case7 => cases h
  | case8 c tail _ _ _ _ ih =>
    simp only [Option.map_eq_some_iff, Prod.mk.injEq] at h
    obtain ⟨⟨_, r⟩, hr, -, rfl⟩ := h
    exact (ih hr).trans (List.suffix_cons _ _)

theorem behind?_suffix {word text rest : List Char} (h : behind? word text = some rest) :
    rest <:+ text := by
  fun_induction behind? word text with
  | case1 => cases h; exact List.suffix_rfl
  | case2 => cases h
  | case3 _ _ _ ih => exact (ih h).trans (List.suffix_cons _ _)
  | case4 => cases h

theorem scanScalar?_suffix {c : Char} {text rest : List Char} {value : Scalar}
    (h : scanScalar? c text = some (value, rest)) : rest <:+ c :: text := by
  have hcons : text <:+ c :: text := List.suffix_cons _ _
  unfold scanScalar? at h
  split at h
  · simp only [Option.map_eq_some_iff, Prod.mk.injEq] at h
    obtain ⟨⟨_, r⟩, hr, -, rfl⟩ := h
    exact (scanString_suffix hr).trans hcons
  split at h
  · simp only [Option.map_eq_some_iff, Prod.mk.injEq] at h
    obtain ⟨r, hr, -, rfl⟩ := h
    exact (behind?_suffix hr).trans hcons
  split at h
  · simp only [Option.map_eq_some_iff, Prod.mk.injEq] at h
    obtain ⟨r, hr, -, rfl⟩ := h
    exact (behind?_suffix hr).trans hcons
  split at h
  · simp only [Option.map_eq_some_iff, Prod.mk.injEq] at h
    obtain ⟨r, hr, -, rfl⟩ := h
    exact (behind?_suffix hr).trans hcons
  · simp only [Option.map_eq_some_iff, Prod.mk.injEq] at h
    obtain ⟨⟨_, r⟩, hr, -, rfl⟩ := h
    exact Numeral.scan_suffix hr

theorem eq_of_punctuation?_eq_endObject {c : Char} (h : punctuation? c = some .endObject) :
    c = '}' := by
  unfold punctuation? at h
  split at h
  case h_4 => rfl
  all_goals cases h

/-- **A closing brace among the tokens** is one in the text. The induction is over the text, token
by token. -/
theorem mem_of_endObject_mem_scan {text : List Char} (h : Token.endObject ∈ scan text) :
    '}' ∈ text := by
  fun_induction scan text with
  | case1 => cases h
  | case2 c rest _ ih => exact List.mem_cons_of_mem _ (ih h)
  | case3 c rest _ token htoken ih =>
    rcases List.mem_cons.1 h with rfl | h
    · rw [eq_of_punctuation?_eq_endObject htoken]
      exact List.mem_cons_self
    · exact List.mem_cons_of_mem _ (ih h)
  | case4 => simp at h
  | case5 c rest _ _ value rest' hscalar _ ih =>
    rcases List.mem_cons.1 h with h | h
    · cases h
    · exact (scanScalar?_suffix hscalar).subset (ih h)

end Token

/-! ### Objects that are not closed -/

namespace Document

/-- The member has a string for a name, and its value can be read to its end. -/
def isMemberSound : Document × Document → Bool
  | (.scalar (.string _), value) => value.isSound
  | _ => false

theorem areItemsSound_eq_all (items : List Document) : areItemsSound items = items.all isSound := by
  induction items with
  | nil => rfl
  | cons item rest ih => rw [areItemsSound, List.all_cons, ih]

theorem areMembersSound_eq_all (members : List (Document × Document)) :
    areMembersSound members = members.all isMemberSound := by
  induction members with
  | nil => rfl
  | cons m rest ih =>
    unfold areMembersSound
    split
    · rename_i heq
      cases heq
    · rename_i value tail heq
      obtain ⟨rfl, rfl⟩ := List.cons.inj heq
      rw [List.all_cons, ih]
      rfl
    · rename_i head tail hname heq
      obtain ⟨rfl, rfl⟩ := List.cons.inj heq
      have hfalse : isMemberSound m = false := by
        unfold isMemberSound
        split
        · exact absurd rfl (hname _ _)
        · rfl
      rw [List.all_cons, hfalse, Bool.false_and]

/-- An object with a flaw. -/
def IsBroken (document : Document) : Prop :=
  ∃ members, document = object members ∧ areMembersSound members = false

theorem IsBroken.isSound_eq_false {document : Document} (h : IsBroken document) :
    document.isSound = false := by
  obtain ⟨members, rfl, hmembers⟩ := h
  rw [isSound, hmembers]

theorem isBroken_object {m : Document × Document} (hm : isMemberSound m = false)
    (members : List (Document × Document)) : IsBroken (object (m :: members).reverse) := by
  refine ⟨_, rfl, ?_⟩
  rw [areMembersSound_eq_all, List.all_reverse, List.all_cons, hm, Bool.false_and]

theorem isMemberSound_eq_false {name value : Document} (h : value.isSound = false) :
    isMemberSound (name, value) = false := by
  unfold isMemberSound
  split
  · rename_i heq
    cases heq
    exact h
  · rfl

/-- The outermost of the open frames is that of an object. -/
inductive InObject : List Frame → Prop
  | object (members : List (Document × Document)) : InObject [.object members]
  | member (members : List (Document × Document)) (name : Document) :
      InObject [.member members name]
  | cons (frame : Frame) {frames : List Frame} (h : InObject frames) : InObject (frame :: frames)

theorem isBroken_closeWith {frames : List Frame} (h : InObject frames) {part : Document}
    (hpart : part.isSound = false) : IsBroken (closeWith part frames) := by
  induction h generalizing part with
  | object members => exact isBroken_object (isMemberSound_eq_false rfl) members
  | member members name => exact isBroken_object (isMemberSound_eq_false hpart) members
  | cons frame _ ih =>
    cases frame with
    | array items =>
      refine ih ?_
      rw [isSound, areItemsSound_eq_all, List.all_reverse, List.all_cons, hpart, Bool.false_and]
    | object members =>
      exact ih (isBroken_object (isMemberSound_eq_false rfl) members).isSound_eq_false
    | member members name =>
      exact ih (isBroken_object (isMemberSound_eq_false hpart) members).isSound_eq_false

/-- What is handed to an open object leaves it open. -/
theorem exists_deliver_of_inObject {frames : List Frame} (h : InObject frames) (part : Document) :
    ∃ frames', deliver part frames = .inr frames' ∧ InObject frames' := by
  cases h with
  | object members => exact ⟨_, rfl, .object _⟩
  | member members name => exact ⟨_, rfl, .object _⟩
  | cons frame h =>
    cases frame with
    | array items => exact ⟨_, rfl, .cons _ h⟩
    | object members => exact ⟨_, rfl, .cons _ h⟩
    | member members name => exact ⟨_, rfl, .cons _ h⟩

/-- A step leaves the outermost object open, or breaks it. -/
def Step.KeepsObject : Step → Prop
  | .finish _ frames => InObject frames
  | .goOn _ frames => InObject frames
  | .stop document => IsBroken document

theorem keepsObject_abandon {frames : List Frame} (h : InObject frames) :
    (Step.stop (abandon frames)).KeepsObject := isBroken_closeWith h rfl

theorem keepsObject_stepValue {frames : List Frame} (h : InObject frames) (token : Token) :
    (stepValue token frames).KeepsObject := by
  unfold stepValue
  split
  · exact h
  · exact .cons _ h
  · exact .cons _ h
  · exact keepsObject_abandon h

theorem keepsObject_stepName {frames : List Frame} (h : InObject frames) (token : Token) :
    (stepName token frames).KeepsObject := by
  unfold stepName
  split
  · cases h with
    | object members => exact .member _ _
    | cons _ h => exact .cons _ h
  · exact keepsObject_abandon h

/-- **No step but that of a closing brace** ends the outermost object. -/
theorem keepsObject_step {frames : List Frame} (h : InObject frames) {token : Token}
    (htoken : token ≠ .endObject) (due : Due) : (step due token frames).KeepsObject := by
  unfold step
  split
  case h_1 => exact keepsObject_stepValue h _
  case h_2 => cases h with | cons _ h => exact h
  case h_3 => exact keepsObject_stepValue h _
  case h_4 => exact absurd rfl htoken
  case h_5 => exact keepsObject_stepName h _
  case h_6 => exact keepsObject_stepName h _
  case h_7 => exact h
  case h_8 => exact keepsObject_abandon h
  case h_9 => exact h
  case h_10 => exact h
  case h_11 => cases h with | cons _ h => exact h
  case h_12 => exact absurd rfl htoken
  case h_13 => exact keepsObject_abandon h

/-- **Without a closing brace** an open object is never finished. The induction is over the
tokens. -/
theorem build_of_not_closed {tokens : List Token} (htokens : Token.endObject ∉ tokens)
    {frames : List Frame} (h : InObject frames) (due : Due) :
    IsBroken (build due frames tokens).1 := by
  induction tokens generalizing due frames with
  | nil => exact isBroken_closeWith h rfl
  | cons token rest ih =>
    rw [List.mem_cons, not_or] at htokens
    have hstep := keepsObject_step h (Ne.symm htokens.1) due
    rw [build]
    cases hnext : step due token frames with
    | stop document =>
      rw [hnext] at hstep
      exact hstep
    | goOn due' frames' =>
      rw [hnext] at hstep
      exact ih htokens.2 hstep due'
    | finish part frames' =>
      rw [hnext] at hstep
      obtain ⟨frames'', hdeliver, hopen⟩ := exists_deliver_of_inObject hstep part
      simp only [hdeliver]
      exact ih htokens.2 hopen .more

theorem isBroken_ofText {text : String} {rest : List Char} (hopen : text.toList = '{' :: rest)
    (hclosed : '}' ∉ rest) : IsBroken (ofText text).1 := by
  have hscan : Token.scan text.toList = .beginObject :: Token.scan rest := by
    rw [hopen, Token.scan]
    rfl
  rw [ofText, hscan]
  exact build_of_not_closed (fun h => hclosed (Token.mem_of_endObject_mem_scan h)) (.object [])
    .firstName

end Document

/-! ### Records -/

namespace Decoder

variable {α : Type}

/-- Only sound values pass the check of the field. -/
def Field.IsStrict (field : Field) : Prop :=
  ∀ origin document, field.check origin document = .ok () → document.isSound = true

/-- A reader takes the member: its name is a string, and either a field checks it or, where there is
none of that name, it is sound. -/
def Accepts (fields : List Field) (origin : Origin) (m : Document × Document) : Prop :=
  ∃ name, m.1 = .scalar (.string (some name)) ∧
    match fields.find? (·.name == name) with
    | some field => field.check origin m.2 = .ok ()
    | none => m.2.isSound = true

/-- **Whoever has read all members has accepted each of them.** The induction is over the members,
with any members known before. -/
theorem accepts_of_readMembers {fields : List Field} {origin : Origin}
    {members : List (Document × Document)} {known : List (String × Document)}
    {found : List (String × Document) × Unit}
    (h : readMembers fields passOver origin members known () = .ok found) :
    ∀ m ∈ members, Accepts fields origin m := by
  induction members generalizing known with
  | nil => exact fun m hm => nomatch hm
  | cons first rest ih =>
    rw [List.forall_mem_cons]
    unfold readMembers at h
    -- A member of a field that is known, one that is passed over, or one without a name.
    split at h
    · rename_i heq
      cases heq
    · rename_i name document _ heq
      obtain ⟨rfl, rfl⟩ := List.cons.inj heq
      split at h
      · rename_i field hfind
        split at h
        · cases h
        cases hcheck : field.check origin document with
        | error cause =>
          rw [hcheck] at h
          cases h
        | ok =>
          rw [hcheck] at h
          refine ⟨⟨name, rfl, ?_⟩, ih h⟩
          rw [hfind]
          exact hcheck
      · rename_i hfind
        unfold passOver at h
        split at h
        · rename_i hvalue
          refine ⟨⟨name, rfl, ?_⟩, ih h⟩
          rw [hfind]
          exact hvalue
        · cases h
    · cases h

theorem Accepts.isMemberSound {fields : List Field} (hfields : ∀ field ∈ fields, field.IsStrict)
    {origin : Origin} {m : Document × Document} (h : Accepts fields origin m) :
    Document.isMemberSound m = true := by
  obtain ⟨name, hname, h⟩ := h
  obtain ⟨_, value⟩ := m
  obtain rfl : _ = Document.scalar (.string (some name)) := hname
  split at h
  · rename_i field hfind
    exact hfields field (List.mem_of_find?_eq_some hfind) origin value h
  · exact h

theorem exists_of_bind_eq_ok {ε β : Type} {x : Except ε α} {f : α → Except ε β} {b : β}
    (h : x >>= f = .ok b) : ∃ a, x = .ok a ∧ f a = .ok b := by
  cases x with
  | error cause => cases h
  | ok a => exact ⟨a, rfl, h⟩

/-- **A record is decoded from sound objects only.** -/
theorem areMembersSound_of_record {fields : Fields α}
    (hfields : ∀ field ∈ fields.list, field.IsStrict) {members : List (Document × Document)}
    {name : String} {origin : Origin} {value : α}
    (h : record name fields origin (.object members) = .ok value) :
    Document.areMembersSound members = true := by
  unfold record at h
  obtain ⟨level, -, h⟩ := exists_of_bind_eq_ok h
  obtain ⟨found, hread, -⟩ := exists_of_bind_eq_ok h
  rw [Document.areMembersSound_eq_all, List.all_eq_true]
  exact fun m hm => (accepts_of_readMembers hread m hm).isMemberSound hfields

/-- A text with a brace that opens and none that closes holds no record, and neither does the empty
text. -/
theorem ofText_record_of_not_closed {fields : Fields α}
    (hfields : ∀ field ∈ fields.list, field.IsStrict) (name : String) {text : String}
    (hopen : text.toList = [] ∨ ∃ rest, text.toList = '{' :: rest ∧ '}' ∉ rest) (value : α) :
    ofText (record name fields) text ≠ .ok value := by
  intro h
  unfold ofText at h
  obtain ⟨value', hrecord, -⟩ := exists_of_bind_eq_ok h
  change record name fields _ (Document.ofText text).1 = _ at hrecord
  rcases hopen with hempty | ⟨rest, hopen, hclosed⟩
  · have hdocument : Document.ofText text = (.malformed, []) := by
      rw [Document.ofText, hempty, Token.scan]
      rfl
    rw [hdocument] at hrecord
    cases hrecord
  · obtain ⟨members, hmembers, hbroken⟩ := Document.isBroken_ofText hopen hclosed
    rw [hmembers] at hrecord
    exact absurd (hbroken.symm.trans (areMembersSound_of_record hfields hrecord))
      Bool.false_ne_true

end Decoder

end Remit.Json
