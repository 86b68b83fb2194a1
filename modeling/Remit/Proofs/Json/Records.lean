import Mathlib.Data.List.Nodup
import Remit.Proofs.Json.Alike
import Remit.Proofs.Json.Unclosed

/-!
# Which documents are records

A record is decoded from an object if and only if nothing is wrong with any member of it, no field
is there twice, and the fields find what they ask for (`record_object_eq_ok_iff`). What they find is
said by `Document.under`, the values that stand under a name, without regard to their place. For an
array the fields take its items one after the other. What a row of fields makes of either is told
field by field: `Fields.ofMembers_and_eq_ok_iff`, `Fields.ofItems_and_eq_ok_iff` and their like.
What is no record, but only a text, is a single string (`parse_eq_string_iff`).
-/

namespace Remit.Json

namespace Document

/-- The text that stands for a name, if it is one. -/
def name? : Document → Option String
  | .scalar (.string text) => text
  | _ => none

/-- The values that stand under a name, in their order. -/
def under (name : String) (members : List (Document × Document)) : List Document :=
  (members.filter fun m => m.1.name? == some name).map Prod.snd

theorem under_cons_self (name : String) (value : Document) (rest : List (Document × Document)) :
    under name ((.scalar (.string (some name)), value) :: rest) = value :: under name rest := by
  simp [under, name?]

theorem mem_under {name : String} {members : List (Document × Document)} {m : Document × Document}
    (hm : m ∈ members) (hname : m.1 = .scalar (.string (some name))) :
    m.2 ∈ under name members := by
  refine List.mem_map_of_mem (List.mem_filter.2 ⟨hm, ?_⟩)
  rw [hname]
  exact beq_self_eq_true _

theorem under_cons_of_ne {name other : String} (h : other ≠ name) (value : Document)
    (rest : List (Document × Document)) :
    under name ((.scalar (.string (some other)), value) :: rest) = under name rest := by
  simp [under, name?, h]

end Document

open Document (under)

namespace Decoder

variable {α β : Type}

theorem bind_eq_ok_iff {ε : Type} {x : Except ε α} {f : α → Except ε β} {b : β} :
    x >>= f = .ok b ↔ ∃ a, x = .ok a ∧ f a = .ok b := by
  constructor
  · exact exists_of_bind_eq_ok
  · rintro ⟨a, rfl, h⟩
    exact h

theorem map_eq_ok_iff {ε : Type} {x : Except ε α} {f : α → β} {b : β} :
    x.map f = .ok b ↔ ∃ a, x = .ok a ∧ f a = b := by
  cases x with
  | error e => simp [Except.map]
  | ok a => simp [Except.map]

/-! ### Scalars -/

/-- What is refused as a mismatch is never decoded. -/
theorem mismatch_ne_ok (expected : String) (document : Document) (a : α) :
    mismatch expected document ≠ .ok a := by
  unfold mismatch
  cases found document with
  | ok what => exact fun h => nomatch h
  | error cause => exact fun h => nomatch h

theorem boolean_eq_ok_iff {origin : Origin} {document : Document} {value : Bool} :
    boolean origin document = .ok value ↔ document = .scalar (.bool value) := by
  constructor
  · intro h
    unfold boolean at h
    split at h
    · rw [Except.ok.inj h]
    · exact absurd h (mismatch_ne_ok _ _ _)
  · rintro rfl
    rfl

theorem string_eq_ok_iff {origin : Origin} {document : Document} {text : String} :
    string origin document = .ok text ↔ document = .scalar (.string (some text)) := by
  constructor
  · intro h
    unfold string at h
    split at h
    · rw [Except.ok.inj h]
    · exact absurd h (mismatch_ne_ok _ _ _)
  · rintro rfl
    rfl

theorem ofString_eq_ok_iff {read : String → Except String α} {origin : Origin}
    {document : Document} {a : α} :
    ofString read origin document = .ok a ↔
      ∃ text, document = .scalar (.string (some text)) ∧ read text = .ok a := by
  rw [ofString, bind_eq_ok_iff]
  constructor
  · rintro ⟨text, htext, hread⟩
    refine ⟨text, string_eq_ok_iff.1 htext, ?_⟩
    split at hread
    · rename_i value hvalue
      cases hread
      exact hvalue
    · cases hread
  · rintro ⟨text, rfl, hread⟩
    exact ⟨text, rfl, by rw [hread]⟩

theorem nullable_of_ne_null {decode : Decoder α} {origin : Origin} {document : Document}
    (h : document ≠ .scalar .null) :
    nullable decode origin document = (decode origin document).map some := by
  unfold nullable
  split
  · exact absurd rfl h
  · rfl

theorem nullable_eq_ok_iff {decode : Decoder α} {origin : Origin} {document : Document}
    {a : Option α} :
    nullable decode origin document = .ok a ↔
      (document = .scalar .null ∧ a = none) ∨
        (document ≠ .scalar .null ∧ ∃ b, decode origin document = .ok b ∧ a = some b) := by
  by_cases hnull : document = .scalar .null
  · subst hnull
    simp [nullable, eq_comm]
  · rw [nullable_of_ne_null hnull, map_eq_ok_iff]
    simp [hnull, eq_comm]

/-! ### What fields make of members and items -/

namespace Fields

variable {origin : Origin} {find : String → Option Document} {expected : String} {index : Nat}
  {items rest : List Document}

theorem ofMembers_pure_eq_ok_iff {a b : α} :
    (pure b).ofMembers origin find = .ok a ↔ b = a := by
  unfold Fields.pure
  simp

theorem ofMembers_and_eq_ok_iff {f : Fields (α → β)} {x : Fields α} {b : β} :
    (f.and x).ofMembers origin find = .ok b ↔
      ∃ g a, f.ofMembers origin find = .ok g ∧ x.ofMembers origin find = .ok a ∧ g a = b := by
  unfold Fields.and
  simp only [bind_eq_ok_iff, Except.ok.injEq]
  constructor
  · rintro ⟨g, hg, a, ha, h⟩
    exact ⟨g, a, hg, ha, h⟩
  · rintro ⟨g, a, hg, ha, h⟩
    exact ⟨g, hg, a, ha, h⟩

theorem ofMembers_required_eq_ok_iff {name : String} {decode : Decoder α} {a : α} :
    (required name decode).ofMembers origin find = .ok a ↔
      ∃ document, find name = some document ∧ decode origin document = .ok a := by
  unfold required
  cases hfind : find name with
  | none => simp [hfind]
  | some document => simp [hfind]

theorem ofMembers_optional_eq_ok_iff {name : String} {decode : Decoder α} {default a : α} :
    (optional name decode default).ofMembers origin find = .ok a ↔
      (find name = none ∧ a = default) ∨
        ∃ document, find name = some document ∧ decode origin document = .ok a := by
  unfold optional
  cases hfind : find name with
  | none => simp [hfind, eq_comm]
  | some document => simp [hfind]

theorem ofItems_pure_eq_ok_iff {a b : α} :
    (pure b).ofItems origin expected index items = .ok (a, rest) ↔ b = a ∧ items = rest := by
  unfold Fields.pure
  simp

theorem ofItems_and_eq_ok_iff {f : Fields (α → β)} {x : Fields α} {b : β} :
    (f.and x).ofItems origin expected index items = .ok (b, rest) ↔
      ∃ g a between, f.ofItems origin expected index items = .ok (g, between) ∧
        x.ofItems origin expected (index + f.list.length) between = .ok (a, rest) ∧ g a = b := by
  unfold Fields.and
  simp only [bind_eq_ok_iff, Except.ok.injEq, Prod.mk.injEq, Prod.exists]
  constructor
  · rintro ⟨g, between, hg, a, _, ha, h, rfl⟩
    exact ⟨g, a, between, hg, ha, h⟩
  · rintro ⟨g, a, between, hg, ha, h⟩
    exact ⟨g, between, hg, a, rest, ha, h, rfl⟩

theorem ofItems_required_eq_ok_iff {name : String} {decode : Decoder α} {a : α} :
    (required name decode).ofItems origin expected index items = .ok (a, rest) ↔
      ∃ document, items = document :: rest ∧ decode origin document = .ok a := by
  unfold required
  cases items with
  | nil => simp
  | cons document tail =>
    simp only [map_eq_ok_iff, Prod.mk.injEq, List.cons.injEq]
    constructor
    · rintro ⟨_, h, rfl, rfl⟩
      exact ⟨document, ⟨rfl, rfl⟩, h⟩
    · rintro ⟨_, ⟨rfl, rfl⟩, h⟩
      exact ⟨a, h, rfl, rfl⟩

theorem ofItems_optional_eq_ok_iff {name : String} {decode : Decoder α} {default a : α} :
    (optional name decode default).ofItems origin expected index items = .ok (a, rest) ↔
      (items = [] ∧ rest = [] ∧ a = default) ∨
        ∃ document, items = document :: rest ∧ decode origin document = .ok a := by
  unfold optional
  cases items with
  | nil => simp [eq_comm, and_comm]
  | cons document tail =>
    simp only [map_eq_ok_iff, Prod.mk.injEq, List.cons.injEq, reduceCtorEq, false_and, false_or]
    constructor
    · rintro ⟨_, h, rfl, rfl⟩
      exact ⟨document, ⟨rfl, rfl⟩, h⟩
    · rintro ⟨_, ⟨rfl, rfl⟩, h⟩
      exact ⟨a, h, rfl, rfl⟩

end Fields

/-! ### Members -/

/-- There is a field of the name. -/
def hasField (fields : List Field) (name : String) : Bool :=
  (fields.find? (·.name == name)).isSome

theorem hasField_iff {fields : List Field} {name : String} :
    hasField fields name = true ↔ name ∈ fields.map Field.name := by
  simp [hasField]

/-- What is asked of a member, field by field. -/
theorem accepts_iff {fields : List Field} (hdistinct : (fields.map Field.name).Nodup)
    {origin : Origin} {m : Document × Document} :
    Accepts fields origin m ↔
      ∃ name, m.1 = .scalar (.string (some name)) ∧
        (∀ field ∈ fields, name = field.name → field.check origin m.2 = .ok ()) ∧
        (name ∉ fields.map Field.name → m.2.isSound = true) := by
  refine exists_congr fun name => and_congr_right fun _ => ?_
  cases hfind : fields.find? (·.name == name) with
  | none =>
    have hnone : name ∉ fields.map Field.name := by
      rw [← hasField_iff, hasField, hfind]
      exact Bool.false_ne_true
    refine ⟨fun h => ⟨fun field hfield hname => ?_, fun _ => h⟩, fun h => h.2 hnone⟩
    exact absurd (List.mem_map.2 ⟨field, hfield, hname.symm⟩) hnone
  | some found =>
    have hmem : found ∈ fields := List.mem_of_find?_eq_some hfind
    have hmatches := List.find?_some hfind
    have hname : found.name = name := eq_of_beq hmatches
    refine ⟨fun h => ⟨fun field hfield hother => ?_, fun hnone => ?_⟩,
      fun h => h.1 found hmem hname.symm⟩
    · obtain rfl := List.inj_on_of_nodup_map hdistinct hmem hfield (hname.trans hother)
      exact h
    · exact absurd (hname ▸ List.mem_map_of_mem hmem) hnone

/-- What stands under the name of a field. -/
def taken (fields : List Field) (members : List (Document × Document)) (name : String) :
    Option Document :=
  if hasField fields name then (under name members).head? else none

/-- No field is there twice, those included that are known from before. -/
def AreOnce (fields : List Field) (members : List (Document × Document))
    (known : List (String × Document)) : Prop :=
  ∀ name, hasField fields name = true →
    (under name members).length + (known.lookup name).toList.length ≤ 1

section Members

variable {fields : List Field} {origin : Origin} {name : String} {value : Document}
  {rest members : List (Document × Document)} {known result : List (String × Document)}

/-- Where nothing is known from before, each name is there once at most. -/
theorem areOnce_nil_iff : AreOnce fields members [] ↔
    ∀ name ∈ fields.map Field.name, (under name members).length ≤ 1 := by
  refine forall_congr' fun name => ?_
  rw [hasField_iff]
  rfl

/-- What is taken for the name of a field is the first that stands under it. -/
theorem taken_of_mem (h : name ∈ fields.map Field.name) (members : List (Document × Document)) :
    taken fields members name = (under name members).head? := by
  rw [taken, if_pos (hasField_iff.2 h)]

theorem areOnce_cons_iff (hfield : hasField fields name = true) :
    AreOnce fields ((.scalar (.string (some name)), value) :: rest) known ↔
      known.lookup name = none ∧ AreOnce fields rest ((name, value) :: known) := by
  constructor
  · intro h
    have hname := h name hfield
    rw [Document.under_cons_self, List.length_cons] at hname
    have hnone : known.lookup name = none := by
      cases hlookup : known.lookup name with
      | none => rfl
      | some document =>
        rw [hlookup, Option.toList_some, List.length_singleton] at hname
        omega
    refine ⟨hnone, fun other hother => ?_⟩
    by_cases heq : other = name
    · subst heq
      rw [List.lookup_cons_self, Option.toList_some, List.length_singleton]
      omega
    · have hrest := h other hother
      rw [Document.under_cons_of_ne (Ne.symm heq)] at hrest
      rwa [List.lookup_cons, beq_eq_false_iff_ne.2 heq]
  · rintro ⟨hnone, h⟩ other hother
    have hrest := h other hother
    by_cases heq : other = name
    · subst heq
      rw [List.lookup_cons_self, Option.toList_some, List.length_singleton] at hrest
      rw [Document.under_cons_self, hnone, Option.toList_none, List.length_cons, List.length_nil]
      omega
    · rw [List.lookup_cons, beq_eq_false_iff_ne.2 heq] at hrest
      rwa [Document.under_cons_of_ne (Ne.symm heq)]

theorem areOnce_cons_of_not_hasField (hfield : hasField fields name = false) :
    AreOnce fields ((.scalar (.string (some name)), value) :: rest) known ↔
      AreOnce fields rest known := by
  have hunder : ∀ other, hasField fields other = true →
      under other ((.scalar (.string (some name)), value) :: rest) = under other rest := by
    intro other hother
    refine Document.under_cons_of_ne ?_ value rest
    rintro rfl
    rw [hfield] at hother
    cases hother
  constructor
  · intro h other hother
    rw [← hunder other hother]
    exact h other hother
  · intro h other hother
    rw [hunder other hother]
    exact h other hother

theorem accepts_of_find?_eq_some {field : Field} (h : fields.find? (·.name == name) = some field) :
    Accepts fields origin (.scalar (.string (some name)), value) ↔
      field.check origin value = .ok () := by
  constructor
  · rintro ⟨_, hname, hcheck⟩
    cases hname
    rwa [h] at hcheck
  · intro hcheck
    refine ⟨name, rfl, ?_⟩
    rwa [h]

theorem accepts_of_find?_eq_none (h : fields.find? (·.name == name) = none) :
    Accepts fields origin (.scalar (.string (some name)), value) ↔ value.isSound = true := by
  constructor
  · rintro ⟨_, hname, hsound⟩
    cases hname
    rwa [h] at hsound
  · intro hsound
    refine ⟨name, rfl, ?_⟩
    rwa [h]

/-- A member of a field is read as the first of it. -/
theorem readMembers_cons_iff_of_hasField (hfield : hasField fields name = true) :
    readMembers fields passOver origin ((.scalar (.string (some name)), value) :: rest) known () =
        .ok (result, ()) ↔
      Accepts fields origin (.scalar (.string (some name)), value) ∧ known.lookup name = none ∧
        readMembers fields passOver origin rest ((name, value) :: known) () = .ok (result, ()) := by
  obtain ⟨field, hfind⟩ := Option.isSome_iff_exists.1 hfield
  rw [readMembers, hfind, accepts_of_find?_eq_some hfind]
  cases known.lookup name with
  | some document =>
    constructor
    · intro h
      cases h
    · rintro ⟨-, h, -⟩
      cases h
  | none =>
    refine bind_eq_ok_iff.trans ⟨?_, ?_⟩
    · rintro ⟨_, hcheck, h⟩
      exact ⟨hcheck, rfl, h⟩
    · rintro ⟨hcheck, -, h⟩
      exact ⟨(), hcheck, h⟩

/-- Any other member is passed over. -/
theorem readMembers_cons_iff_of_not_hasField (hfield : hasField fields name = false) :
    readMembers fields passOver origin ((.scalar (.string (some name)), value) :: rest) known () =
        .ok (result, ()) ↔
      Accepts fields origin (.scalar (.string (some name)), value) ∧
        readMembers fields passOver origin rest known () = .ok (result, ()) := by
  have hfind : fields.find? (·.name == name) = none :=
    Option.isNone_iff_eq_none.1 (Option.isSome_eq_false_iff.1 hfield)
  rw [readMembers, hfind, accepts_of_find?_eq_none hfind, passOver]
  cases value.isSound with
  | false =>
    constructor
    · intro h
      cases h
    · rintro ⟨h, -⟩
      cases h
  | true => exact ⟨fun h => ⟨rfl, h⟩, fun h => h.2⟩

/-- Members are taken or not for their names, and of those that are taken a field finds its own. -/
theorem lookup_or_taken_cons (hfield : hasField fields name = true)
    (hnone : known.lookup name = none) (other : String) :
    (List.lookup other ((name, value) :: known)).or (taken fields rest other) =
      (known.lookup other).or
        (taken fields ((.scalar (.string (some name)), value) :: rest) other) := by
  by_cases heq : other = name
  · subst heq
    rw [List.lookup_cons_self, hnone, taken, taken, if_pos hfield, if_pos hfield,
      Document.under_cons_self]
    rfl
  · rw [List.lookup_cons, beq_eq_false_iff_ne.2 heq, taken, taken,
      Document.under_cons_of_ne (Ne.symm heq)]

theorem taken_cons_of_not_hasField (hfield : hasField fields name = false) (other : String) :
    taken fields ((.scalar (.string (some name)), value) :: rest) other =
      taken fields rest other := by
  rw [taken, taken]
  by_cases heq : other = name
  · rw [heq, hfield]
    rfl
  · rw [Document.under_cons_of_ne (Ne.symm heq)]

/-- **What a reader of members has taken**: of every field what stands under its name, which is one
value at most. -/
theorem lookup_of_readMembers
    (h : readMembers fields passOver origin members known () = .ok (result, ())) :
    AreOnce fields members known ∧
      ∀ name, result.lookup name = (known.lookup name).or (taken fields members name) := by
  -- What a member adds to those known from before, the rest of the members must not have again.
  induction members generalizing known with
  | nil =>
    rw [readMembers] at h
    cases h
    refine ⟨fun name _ => ?_, fun name => ?_⟩
    · cases result.lookup name with
      | none => exact Nat.zero_le _
      | some document => exact Nat.le_refl _
    · simp [taken, under]
  | cons m rest ih =>
    obtain ⟨⟨name, hname, -⟩, -⟩ := List.forall_mem_cons.1 (accepts_of_readMembers h)
    obtain ⟨_, value⟩ := m
    obtain rfl : _ = Document.scalar (.string (some name)) := hname
    cases hfield : hasField fields name with
    | true =>
      obtain ⟨-, hnone, h⟩ := (readMembers_cons_iff_of_hasField hfield).1 h
      obtain ⟨honce, hlookup⟩ := ih h
      refine ⟨(areOnce_cons_iff hfield).2 ⟨hnone, honce⟩, fun other => ?_⟩
      rw [hlookup, lookup_or_taken_cons hfield hnone]
    | false =>
      obtain ⟨-, h⟩ := (readMembers_cons_iff_of_not_hasField hfield).1 h
      obtain ⟨honce, hlookup⟩ := ih h
      refine ⟨(areOnce_cons_of_not_hasField hfield).2 honce, fun other => ?_⟩
      rw [hlookup, taken_cons_of_not_hasField hfield]

theorem exists_readMembers (haccepts : ∀ m ∈ members, Accepts fields origin m)
    (honce : AreOnce fields members known) :
    ∃ result, readMembers fields passOver origin members known () = .ok (result, ()) := by
  induction members generalizing known with
  | nil => exact ⟨known, rfl⟩
  | cons m rest ih =>
    obtain ⟨hm, hrest⟩ := List.forall_mem_cons.1 haccepts
    obtain ⟨name, hname, -⟩ := hm
    obtain ⟨_, value⟩ := m
    obtain rfl : _ = Document.scalar (.string (some name)) := hname
    cases hfield : hasField fields name with
    | true =>
      obtain ⟨hnone, honce⟩ := (areOnce_cons_iff hfield).1 honce
      obtain ⟨result, hresult⟩ := ih hrest honce
      exact ⟨result, (readMembers_cons_iff_of_hasField hfield).2
        ⟨haccepts _ List.mem_cons_self, hnone, hresult⟩⟩
    | false =>
      obtain ⟨result, hresult⟩ := ih hrest ((areOnce_cons_of_not_hasField hfield).1 honce)
      exact ⟨result, (readMembers_cons_iff_of_not_hasField hfield).2
        ⟨haccepts _ List.mem_cons_self, hresult⟩⟩

end Members

/-! ### Records -/

/-- **Which objects are records.** -/
theorem record_object_eq_ok_iff {fields : Fields α} {name : String} {origin level : Origin}
    (hlevel : origin.enter = .ok level) {members : List (Document × Document)} {a : α} :
    record name fields origin (.object members) = .ok a ↔
      (∀ m ∈ members, Accepts fields.list level m) ∧ AreOnce fields.list members [] ∧
        fields.ofMembers level (taken fields.list members) = .ok a := by
  have htaken : ∀ result : List (String × Document),
      (∀ name, result.lookup name = (List.lookup name []).or (taken fields.list members name)) →
        (result.lookup ·) = taken fields.list members := by
    intro result hlookup
    funext name
    rw [hlookup, List.lookup_nil, Option.none_or]
  unfold record
  simp only [hlevel]
  constructor
  · intro h
    obtain ⟨_, hlevel', h⟩ := exists_of_bind_eq_ok h
    cases hlevel'
    obtain ⟨⟨result, _⟩, hread, h⟩ := exists_of_bind_eq_ok h
    obtain ⟨honce, hlookup⟩ := lookup_of_readMembers hread
    rw [← htaken result hlookup]
    exact ⟨accepts_of_readMembers hread, honce, h⟩
  · rintro ⟨haccepts, honce, h⟩
    obtain ⟨result, hread⟩ := exists_readMembers haccepts honce
    rw [← htaken result (lookup_of_readMembers hread).2] at h
    refine bind_eq_ok_iff.2 ⟨level, rfl, bind_eq_ok_iff.2 ⟨_, hread, h⟩⟩

/-- How a record is named where an array is too short for it. -/
def shape (name : String) (fields : Fields α) : String :=
  let count := fields.list.length
  let elements := if count = 1 then "element" else "elements"
  s!"struct {name} with {count} {elements}"

/-- **Which arrays are records**: those of which the fields leave nothing over. -/
theorem record_array_eq_ok_iff {fields : Fields α} {name : String} {origin level : Origin}
    (hlevel : origin.enter = .ok level) {items : List Document} {a : α} :
    record name fields origin (.array items) = .ok a ↔
      fields.ofItems level (shape name fields) 0 items = .ok (a, []) := by
  unfold record
  simp only [hlevel]
  constructor
  · intro h
    obtain ⟨_, hlevel', h⟩ := exists_of_bind_eq_ok h
    cases hlevel'
    obtain ⟨⟨b, left⟩, hitems, h⟩ := exists_of_bind_eq_ok h
    cases left with
    | nil =>
      cases h
      exact hitems
    | cons document rest => cases h
  · intro h
    exact bind_eq_ok_iff.2 ⟨level, rfl, bind_eq_ok_iff.2 ⟨_, h, rfl⟩⟩

/-- A text is decoded if and only if it is one document and nothing more, and this is decoded. -/
theorem ofText_eq_ok_iff {decode : Decoder α} {text : String} {a : α} :
    decode.ofText text = .ok a ↔
      ∃ document, Document.ofText text = (document, []) ∧
        decode (.text levelLimit) document = .ok a := by
  unfold ofText
  simp only [bind_eq_ok_iff]
  constructor
  · rintro ⟨b, hdecode, h⟩
    split at h
    · rename_i hrest
      cases h
      exact ⟨_, Prod.ext rfl (List.isEmpty_iff.1 hrest), hdecode⟩
    · cases h
  · rintro ⟨document, htext, hdecode⟩
    rw [htext]
    exact ⟨a, hdecode, rfl⟩

end Decoder

/-! ### Strings -/

theorem toDocument_eq_string_iff {value : Json} {text : String} :
    value.toDocument = .scalar (.string (some text)) ↔ value = .string text := by
  cases value <;> simp [toDocument]

theorem decodeAny_eq_string_iff {origin : Origin} {document : Document} {text : String} :
    decodeAny origin document = .ok (.string text) ↔ document = .scalar (.string (some text)) := by
  constructor
  · intro h
    cases document with
    | scalar value =>
      rcases value with _ | _ | (_ | _) | (_ | contents)
      case string.some =>
        cases h
        rfl
      all_goals cases h
    | array items =>
      obtain ⟨_, -, hdecoded⟩ := Decoder.bind_eq_ok_iff.1 h
      obtain ⟨_, -, hvalue⟩ := Decoder.bind_eq_ok_iff.1 hdecoded
      cases hvalue
    | object members =>
      obtain ⟨_, -, hdecoded⟩ := Decoder.bind_eq_ok_iff.1 h
      obtain ⟨_, -, hvalue⟩ := Decoder.bind_eq_ok_iff.1 hdecoded
      cases hvalue
    | malformed => cases h
  · rintro rfl
    rfl

/-- A text is one of a string if and only if it is a string token and nothing more. -/
theorem parse_eq_string_iff {text contents : String} :
    parse text = .ok (.string contents) ↔
      Document.ofText text = (.scalar (.string (some contents)), []) := by
  rw [parse, Decoder.ofText_eq_ok_iff]
  constructor
  · rintro ⟨document, htext, hdecode⟩
    rw [htext, decodeAny_eq_string_iff.1 hdecode]
  · intro htext
    exact ⟨_, htext, rfl⟩

end Remit.Json
