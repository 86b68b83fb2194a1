import Remit.Proofs.Json.Members
import Remit.Proofs.Json.Printing

/-!
# Values up to the order of members

Two values that differ only in the order in which their objects hold their members (`Reordered`)
say the same. A reader that takes any value sorts the members of objects, and so keeps a value up to
this order, provided that no object has two members of one name.

Most of what travels is flat (`IsFlat`): an object or array whose parts are plain, which means that
they have no parts of their own. For these the order of members is a permutation and nothing else.

* `reordered_self`: a value is one of those that differ from it only in the order of members;
* `reordered_object_iff`, `Reordered.eq_array`: what a flat value may turn into;
* `IsFlat.decodeAny`: a flat value is read as one that differs from it only in this order.
-/

namespace Remit.Json

/-! ### Plain values -/

/-- A value without parts, and a number that is a word if it is one. -/
inductive IsPlain : Json → Prop
  | null : IsPlain .null
  | bool (value : Bool) : IsPlain (.bool value)
  | string (text : String) : IsPlain (.string text)
  | word (value : UInt64) : IsPlain (.nat value.toNat)

theorem IsPlain.isExact {v : Json} (h : v.IsPlain) : v.IsExact := by
  cases h with
  | null => trivial
  | bool value => trivial
  | string text => trivial
  | word value =>
    have hlt : value.toNat < 2 ^ 64 := value.toNat_lt
    show -2 ^ 63 ≤ (value.toNat : Int) ∧ (value.toNat : Int) < 2 ^ 64
    omega

theorem IsPlain.decodeAny {v : Json} (h : v.IsPlain) (origin : Origin) :
    Json.decodeAny origin v.toDocument = .ok v := by
  cases h <;> rfl

theorem Decoder.word64_nat (origin : Origin) (value : UInt64) :
    word64 origin (Json.nat value.toNat).toDocument = .ok value := by
  have hlt : (value.toNat : Int) < UInt64.size := by exact_mod_cast value.toNat_lt
  show Except.map UInt64.ofNat (natural UInt64.size "u64" origin (.scalar _)) = _
  rw [natural, if_pos ⟨Int.natCast_nonneg _, hlt⟩]
  show Except.ok (UInt64.ofNat value.toNat) = _
  rw [UInt64.ofNat_toNat]

theorem areItemsExact_iff {items : List Json} : AreItemsExact items ↔ ∀ v ∈ items, v.IsExact := by
  induction items with
  | nil => simp [AreItemsExact]
  | cons v rest ih => rw [AreItemsExact, ih, List.forall_mem_cons]

/-! ### The order of members -/

mutual

/-- The second value is the first but for the order of the members, in every object at every
level. -/
inductive Reordered : Json → Json → Prop
  | null : Reordered .null .null
  | bool (value : Bool) : Reordered (.bool value) (.bool value)
  | number (value : Number) : Reordered (.number value) (.number value)
  | string (text : String) : Reordered (.string text) (.string text)
  | array {items items' : List Json} (h : ItemsReordered items items') :
      Reordered (.array items) (.array items')
  | object {members members' all : List (String × Json)} (h : ValuesReordered members members')
      (hall : all.Perm members') : Reordered (.object members) (.object all)

/-- The same for each of the items, which keep their order. -/
inductive ItemsReordered : List Json → List Json → Prop
  | nil : ItemsReordered [] []
  | cons {v w : Json} {rest rest' : List Json} (h : Reordered v w)
      (hrest : ItemsReordered rest rest') : ItemsReordered (v :: rest) (w :: rest')

/-- The same for each of the values under their names. -/
inductive ValuesReordered : List (String × Json) → List (String × Json) → Prop
  | nil : ValuesReordered [] []
  | cons {v w : Json} {rest rest' : List (String × Json)} (name : String) (h : Reordered v w)
      (hrest : ValuesReordered rest rest') :
      ValuesReordered ((name, v) :: rest) ((name, w) :: rest')

end

mutual

theorem reordered_self : (v : Json) → Reordered v v
  | .null => .null
  | .bool value => .bool value
  | .number value => .number value
  | .string text => .string text
  | .array items => .array (itemsReordered_self items)
  | .object members => .object (valuesReordered_self members) (List.Perm.refl members)

theorem itemsReordered_self : (items : List Json) → ItemsReordered items items
  | [] => .nil
  | v :: rest => .cons (reordered_self v) (itemsReordered_self rest)

theorem valuesReordered_self : (members : List (String × Json)) → ValuesReordered members members
  | [] => .nil
  | (name, v) :: rest => .cons name (reordered_self v) (valuesReordered_self rest)

end

theorem IsPlain.eq_of_reordered {v w : Json} (hv : v.IsPlain) (h : Reordered v w) : w = v := by
  cases hv <;> cases h <;> rfl

variable {items : List Json} {members : List (String × Json)} {w : Json}

theorem eq_of_itemsReordered {items' : List Json} (hitems : ∀ v ∈ items, v.IsPlain)
    (h : ItemsReordered items items') : items' = items := by
  induction items generalizing items' with
  | nil =>
    cases h
    rfl
  | cons v rest ih =>
    cases h with
    | cons hv hrest =>
      rw [(hitems v List.mem_cons_self).eq_of_reordered hv,
        ih (fun v hv => hitems v (List.mem_cons_of_mem _ hv)) hrest]

theorem eq_of_valuesReordered {members' : List (String × Json)}
    (hmembers : ∀ m ∈ members, m.2.IsPlain) (h : ValuesReordered members members') :
    members' = members := by
  induction members generalizing members' with
  | nil =>
    cases h
    rfl
  | cons m rest ih =>
    cases h with
    | cons name hv hrest =>
      rw [(hmembers _ List.mem_cons_self).eq_of_reordered hv,
        ih (fun m hm => hmembers m (List.mem_cons_of_mem _ hm)) hrest]

/-- A flat array stays as it is. -/
theorem Reordered.eq_array (hitems : ∀ v ∈ items, v.IsPlain) (h : Reordered (.array items) w) :
    w = .array items := by
  cases h with
  | array h => rw [eq_of_itemsReordered hitems h]

/-- A flat object may have its members in any order, and nothing else. -/
theorem reordered_object_iff (hmembers : ∀ m ∈ members, m.2.IsPlain) :
    Reordered (.object members) w ↔ ∃ all, w = .object all ∧ all.Perm members := by
  constructor
  · intro h
    cases h with
    | object h hall =>
      obtain rfl := eq_of_valuesReordered hmembers h
      exact ⟨_, rfl, hall⟩
  · rintro ⟨all, rfl, hall⟩
    exact .object (valuesReordered_self members) hall

/-! ### Reading any value -/

theorem insertMember_perm {name : String} (value : Json) {sofar : List (String × Json)}
    (hname : name ∉ sofar.map Prod.fst) :
    (insertMember name value sofar).Perm ((name, value) :: sofar) := by
  induction sofar with
  | nil => exact List.Perm.refl _
  | cons m rest ih =>
    obtain ⟨other, old⟩ := m
    rw [List.map_cons, List.mem_cons, not_or] at hname
    rw [insertMember, if_neg hname.1]
    by_cases hlt : name < other
    · rw [if_pos hlt]
    · rw [if_neg hlt]
      exact ((ih hname.2).cons _).trans (List.Perm.swap ..)

/-- Members that are read as they are end up among those read before. The induction is over the
members, whose names are new each time. -/
theorem decodeMembers_perm {origin : Origin}
    (hkept : ∀ m ∈ members, decodeAny origin m.2.toDocument = .ok m.2)
    (sofar : List (String × Json)) (hdistinct : ((sofar ++ members).map Prod.fst).Nodup) :
    ∃ all, decodeMembers origin sofar (memberDocuments members) = .ok all ∧
      all.Perm (sofar ++ members) := by
  induction members generalizing sofar with
  | nil => exact ⟨sofar, rfl, by rw [List.append_nil]⟩
  | cons m rest ih =>
    obtain ⟨name, value⟩ := m
    have hname : name ∉ sofar.map Prod.fst := by
      rw [List.map_append, List.nodup_append] at hdistinct
      intro hmem
      exact hdistinct.2.2 name hmem name List.mem_cons_self rfl
    have hperm : (insertMember name value sofar ++ rest).Perm (sofar ++ (name, value) :: rest) :=
      ((insertMember_perm value hname).append_right rest).trans List.perm_middle.symm
    obtain ⟨all, hrun, hall⟩ := ih (fun m hm => hkept m (List.mem_cons_of_mem _ hm))
      (insertMember name value sofar) ((hperm.map Prod.fst).nodup_iff.2 hdistinct)
    refine ⟨all, ?_, hall.trans hperm⟩
    rw [memberDocuments, decodeMembers, hkept _ List.mem_cons_self]
    exact hrun

/-- **A flat object keeps its members**, though not their order. -/
theorem decodeAny_object {origin level : Origin} (hlevel : origin.enter = .ok level)
    (hmembers : ∀ m ∈ members, m.2.IsPlain) (hdistinct : (members.map Prod.fst).Nodup) :
    ∃ all, decodeAny origin (Json.object members).toDocument = .ok (.object all) ∧
      all.Perm members := by
  obtain ⟨all, hrun, hall⟩ := decodeMembers_perm
    (fun m hm => (hmembers m hm).decodeAny level) [] hdistinct
  refine ⟨all, ?_, hall⟩
  rw [toDocument, decodeAny, hlevel]
  show Except.map _ (decodeMembers level [] (memberDocuments members)) = _
  rw [hrun]
  rfl

/-- **A flat array is read as it is.** -/
theorem decodeAny_array {origin level : Origin} (hlevel : origin.enter = .ok level)
    (hitems : ∀ v ∈ items, v.IsPlain) :
    decodeAny origin (Json.array items).toDocument = .ok (.array items) := by
  have hrun : decodeItems level (itemDocuments items) = .ok items := by
    induction items with
    | nil => rfl
    | cons v rest ih =>
      rw [itemDocuments, decodeItems, (hitems v List.mem_cons_self).decodeAny level,
        ih fun v hv => hitems v (List.mem_cons_of_mem _ hv)]
      rfl
  rw [toDocument, decodeAny, hlevel]
  show Except.map _ (decodeItems level (itemDocuments items)) = _
  rw [hrun]
  rfl

/-! ### Flat values -/

/-- A value whose parts are plain, and whose members have names of their own if it is an object. -/
inductive IsFlat : Json → Prop
  | array {items : List Json} (hitems : ∀ v ∈ items, v.IsPlain) : IsFlat (.array items)
  | object {members : List (String × Json)} (hmembers : ∀ m ∈ members, m.2.IsPlain)
      (hdistinct : (members.map Prod.fst).Nodup) : IsFlat (.object members)

namespace IsFlat

variable {v : Json}

theorem of_reordered (hv : v.IsFlat) (h : Reordered v w) : w.IsFlat := by
  cases hv with
  | array hitems =>
    obtain rfl := h.eq_array hitems
    exact .array hitems
  | object hmembers hdistinct =>
    obtain ⟨all, rfl, hall⟩ := (reordered_object_iff hmembers).1 h
    have hnames : (all.map Prod.fst).Nodup := (hall.map Prod.fst).nodup_iff.2 hdistinct
    exact .object (fun m hm => hmembers m (hall.mem_iff.1 hm)) hnames

theorem isExact (hv : v.IsFlat) : v.IsExact := by
  cases hv with
  | array hitems => exact areItemsExact_iff.2 fun v hv => (hitems v hv).isExact
  | object hmembers hdistinct => exact areMembersExact_iff.2 fun m hm => (hmembers m hm).isExact

/-- **A flat value is read as what it is**, but for the order of its members. -/
theorem decodeAny (hv : v.IsFlat) (h : Reordered v w) {origin level : Origin}
    (hlevel : origin.enter = .ok level) :
    ∃ kept, Json.decodeAny origin w.toDocument = .ok kept ∧ Reordered v kept := by
  cases hv with
  | array hitems =>
    obtain rfl := h.eq_array hitems
    exact ⟨_, decodeAny_array hlevel hitems, h⟩
  | object hmembers hdistinct =>
    obtain ⟨all, rfl, hall⟩ := (reordered_object_iff hmembers).1 h
    cases (IsFlat.object hmembers hdistinct).of_reordered h with
    | object hmembersAll hdistinctAll =>
      obtain ⟨sorted, hrun, hsorted⟩ := decodeAny_object hlevel hmembersAll hdistinctAll
      exact ⟨_, hrun, (reordered_object_iff hmembers).2 ⟨sorted, rfl, hsorted.trans hall⟩⟩

end IsFlat

end Remit.Json
