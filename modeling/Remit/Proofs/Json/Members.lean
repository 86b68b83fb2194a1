import Mathlib.Data.List.Forall2
import Remit.Json.Decoder

/-!
# Members in any order

What a decoder makes of an object depends on which members the object has, and not on their order
or on members that nobody asked for. Which members a record asks for is said by `Fields.Asks`: the
members with their values, one for each field, and the value that is put together from them. It is
built up along with the fields.

* `readMembers_eq_ok`: what is found among the members of an object, and what is done with the
  others;
* `flattened_eq_ok`: a record with another one inside is decoded from the members of both, in any
  order and among any others.
-/

namespace Remit.Json

/-! ### Association lists -/

theorem lookup_eq_some_of_mem {β : Type} {l : List (String × β)}
    (hl : (l.map Prod.fst).Nodup) {name : String} {value : β} (h : (name, value) ∈ l) :
    l.lookup name = some value := by
  induction l with
  | nil => cases h
  | cons m rest ih =>
    obtain ⟨other, old⟩ := m
    rw [List.map_cons, List.nodup_cons] at hl
    rcases List.mem_cons.1 h with heq | hrest
    · obtain ⟨rfl, rfl⟩ := Prod.mk.inj heq
      exact List.lookup_cons_self
    · have hne : name ≠ other := by
        rintro rfl
        exact hl.1 (List.mem_map.2 ⟨_, hrest, rfl⟩)
      rw [List.lookup_cons, beq_eq_false_iff_ne.2 hne]
      exact ih hl.2 hrest

namespace Decoder

variable {α β γ σ : Type}

/-! ### Known members and others -/

/-- A member as a reader keeps it. -/
def asKnown (m : String × Json) : String × Document := (m.1, m.2.toDocument)

/-- The member has the name of a field. -/
def isKnown (fields : List Field) (m : String × Json) : Bool :=
  (fields.find? (·.name == m.1)).isSome

/-- A field takes the member, or else nothing is wrong with passing it on. -/
inductive IsRead (fields : List Field) (skip : σ → String → Document → Except DecodeError σ)
    (keep : σ → String × Json → σ) (origin : Origin) (m : String × Json) : Prop where
  | known (field : Field) (hfind : fields.find? (·.name == m.1) = some field)
      (hcheck : field.check origin m.2.toDocument = .ok ())
  | other (hfind : fields.find? (·.name == m.1) = none)
      (hskip : ∀ state, skip state m.1 m.2.toDocument = .ok (keep state m))

/-- **What a reader of members ends up with**, if it reads every one of them and no known one is
there twice: the known ones, last first, and the others handed to `keep` in their order. -/
theorem readMembers_eq_ok {fields : List Field}
    {skip : σ → String → Document → Except DecodeError σ} {keep : σ → String × Json → σ}
    {origin : Origin} (members : List (String × Json))
    (hread : ∀ m ∈ members, IsRead fields skip keep origin m)
    (known : List (String × Document)) (state : σ)
    (hknown : (((members.filter (isKnown fields)).reverse.map asKnown ++ known).map
      Prod.fst).Nodup) :
    readMembers fields skip origin (memberDocuments members) known state =
      .ok ((members.filter (isKnown fields)).reverse.map asKnown ++ known,
        (members.filter fun m => !isKnown fields m).foldl keep state) := by
  induction members generalizing known state with
  | nil => rfl
  | cons m rest ih =>
    obtain ⟨name, value⟩ := m
    have hrest : ∀ m ∈ rest, IsRead fields skip keep origin m :=
      fun m hm => hread m (List.mem_cons_of_mem _ hm)
    cases hread (name, value) List.mem_cons_self with
    | known field hfind hcheck =>
      have hthis : isKnown fields (name, value) = true := by
        rw [isKnown, hfind]
        rfl
      have hmembers : (((name, value) :: rest).filter (isKnown fields)).reverse.map asKnown ++
          known = (rest.filter (isKnown fields)).reverse.map asKnown ++
            (name, value.toDocument) :: known := by
        rw [List.filter_cons_of_pos hthis, List.reverse_cons, List.map_append, List.append_assoc]
        rfl
      rw [hmembers] at hknown ⊢
      -- The name is not among the known ones yet.
      have hnew : (known.lookup name).isSome = false := by
        rw [List.map_append, List.nodup_append, List.map_cons, List.nodup_cons] at hknown
        have hnot : name ∉ known.map Prod.fst := hknown.2.1.1
        rw [Option.isSome_eq_false_iff, Option.isNone_iff_eq_none, List.lookup_eq_none_iff]
        intro p hp
        have hne : name ≠ p.1 := by
          rintro rfl
          exact hnot (List.mem_map_of_mem hp)
        exact bne_iff_ne.2 hne
      rw [memberDocuments, readMembers]
      simp only [hfind, hnew, Bool.false_eq_true, if_false, hcheck]
      rw [List.filter_cons_of_neg (by simp [hthis])]
      exact ih hrest _ state hknown
    | other hfind hskip =>
      have hthis : isKnown fields (name, value) = false := by
        rw [isKnown, hfind]
        rfl
      have hmembers : ((name, value) :: rest).filter (isKnown fields) =
          rest.filter (isKnown fields) := List.filter_cons_of_neg (by simp [hthis])
      rw [hmembers] at hknown ⊢
      rw [memberDocuments, readMembers]
      simp only [hfind, hskip]
      rw [List.filter_cons_of_pos (by simp [hthis]), List.foldl_cons]
      exact ih hrest known _ hknown

/-! ### What a record asks for -/

/-- The fields take these members, in the order of the fields, and put them together to the
value. -/
structure Fields.Asks (fields : Fields α) (origin : Origin) (members : List (String × Json))
    (value : α) : Prop where
  takes : List.Forall₂ (fun field m =>
    field.name = m.1 ∧ field.check origin m.2.toDocument = .ok ()) fields.list members
  ofMembers : ∀ find : String → Option Document,
    (∀ m ∈ members, find m.1 = some m.2.toDocument) →
      fields.ofMembers origin find = .ok value

namespace Fields.Asks

variable {origin : Origin} {members : List (String × Json)}

theorem pure (value : α) : (Fields.pure value).Asks origin [] value where
  takes := .nil
  ofMembers _ _ := rfl

theorem required {decode : Decoder α} {name : String} {json : Json} {value : α}
    (h : decode origin json.toDocument = .ok value) :
    (Fields.required name decode).Asks origin [(name, json)] value where
  takes := by
    refine .cons ⟨rfl, ?_⟩ .nil
    show (decode origin json.toDocument).map _ = _
    rw [h]
    rfl
  ofMembers find hfind := by
    have hname : find name = some json.toDocument := hfind (name, json) List.mem_cons_self
    unfold Fields.required
    simp only [hname, h]

theorem optional {decode : Decoder α} {name : String} {json : Json} {value default : α}
    (h : decode origin json.toDocument = .ok value) :
    (Fields.optional name decode default).Asks origin [(name, json)] value where
  takes := (required h).takes
  ofMembers find hfind := by
    have hname : find name = some json.toDocument := hfind (name, json) List.mem_cons_self
    unfold Fields.optional
    simp only [hname, h]

theorem and {f : Fields (α → β)} {x : Fields α} {g : α → β} {y : α}
    {more : List (String × Json)} (hf : f.Asks origin members g) (hx : x.Asks origin more y) :
    (f.and x).Asks origin (members ++ more) (g y) where
  takes := List.rel_append hf.takes hx.takes
  ofMembers find hfind := by
    have hmembers := hf.ofMembers find fun m hm => hfind m (List.mem_append_left _ hm)
    have hmore := hx.ofMembers find fun m hm => hfind m (List.mem_append_right _ hm)
    unfold Fields.and
    simp only [hmembers, hmore]
    rfl

variable {fields : Fields α} {value : α}

theorem map_name (h : fields.Asks origin members value) :
    fields.list.map Field.name = members.map Prod.fst := by
  obtain ⟨takes, -⟩ := h
  generalize fields.list = list at takes ⊢
  induction takes with
  | nil => rfl
  | cons hhead _ ih => rw [List.map_cons, List.map_cons, hhead.1, ih]

theorem exists_find? (h : fields.Asks origin members value)
    (hdistinct : (members.map Prod.fst).Nodup) {m : String × Json} (hm : m ∈ members) :
    ∃ field, fields.list.find? (·.name == m.1) = some field ∧
      field.check origin m.2.toDocument = .ok () := by
  obtain ⟨takes, -⟩ := h
  generalize fields.list = list at takes ⊢
  induction takes with
  | nil => cases hm
  | cons hhead _ ih =>
    rename_i field first list rest _
    rw [List.map_cons, List.nodup_cons] at hdistinct
    rcases List.mem_cons.1 hm with rfl | hm
    · refine ⟨field, ?_, hhead.2⟩
      rw [List.find?_cons_of_pos (by simp [hhead.1])]
    · have hne : first.1 ≠ m.1 := by
        intro heq
        exact hdistinct.1 (heq ▸ List.mem_map_of_mem hm)
      rw [List.find?_cons_of_neg (by simp [hhead.1, hne])]
      exact ih hdistinct.2 hm

theorem find?_eq_none (h : fields.Asks origin members value) {name : String}
    (hname : name ∉ members.map Prod.fst) : fields.list.find? (·.name == name) = none := by
  rw [List.find?_eq_none]
  intro field hfield heq
  rw [← h.map_name] at hname
  exact hname (eq_of_beq heq ▸ List.mem_map_of_mem hfield)

theorem isKnown_of_mem (h : fields.Asks origin members value)
    (hdistinct : (members.map Prod.fst).Nodup) {m : String × Json} (hm : m ∈ members) :
    isKnown fields.list m = true := by
  obtain ⟨field, hfind, -⟩ := h.exists_find? hdistinct hm
  rw [isKnown, hfind]
  rfl

theorem isKnown_eq_false (h : fields.Asks origin members value) {m : String × Json}
    (hm : m.1 ∉ members.map Prod.fst) : isKnown fields.list m = false := by
  rw [isKnown, h.find?_eq_none hm]
  rfl

/-- **A record finds what it asks for** among any other members, in any order, and passes on
exactly the others. -/
theorem readMembers {all others : List (String × Json)}
    (h : fields.Asks origin members value)
    (skip : σ → String → Document → Except DecodeError σ) (keep : σ → String × Json → σ)
    (hall : all.Perm (members ++ others))
    (hdistinct : (members.map Prod.fst).Nodup)
    (hothers : ∀ m ∈ others, m.1 ∉ members.map Prod.fst)
    (hskip : ∀ m ∈ others, ∀ state, skip state m.1 m.2.toDocument = .ok (keep state m))
    (state : σ) :
    ∃ (known : List (String × Document)) (passed : List (String × Json)),
      Decoder.readMembers fields.list skip origin (memberDocuments all) [] state =
          .ok (known, passed.foldl keep state) ∧
        fields.ofMembers origin (known.lookup ·) = .ok value ∧ passed.Perm others := by
  have hfound : (all.filter (isKnown fields.list)).Perm members := by
    have hnone : others.filter (isKnown fields.list) = [] := by
      rw [List.filter_eq_nil_iff]
      intro m hm
      rw [h.isKnown_eq_false (hothers m hm)]
      exact Bool.false_ne_true
    have hwhole : members.filter (isKnown fields.list) = members :=
      List.filter_eq_self.2 fun m hm => h.isKnown_of_mem hdistinct hm
    have hfilter := hall.filter (isKnown fields.list)
    rwa [List.filter_append, hwhole, hnone, List.append_nil] at hfilter
  have hpassed : (all.filter fun m => !isKnown fields.list m).Perm others := by
    have hnone : members.filter (fun m => !isKnown fields.list m) = [] := by
      rw [List.filter_eq_nil_iff]
      intro m hm
      rw [h.isKnown_of_mem hdistinct hm]
      exact Bool.false_ne_true
    have hwhole : others.filter (fun m => !isKnown fields.list m) = others := by
      rw [List.filter_eq_self]
      intro m hm
      rw [h.isKnown_eq_false (hothers m hm)]
      rfl
    have hfilter := hall.filter fun m => !isKnown fields.list m
    rwa [List.filter_append, hnone, hwhole, List.nil_append] at hfilter
  -- The known members are those asked for, so none of them is there twice.
  have hknown : ((all.filter (isKnown fields.list)).reverse.map asKnown).Perm
      (members.map asKnown) := ((List.reverse_perm _).trans hfound).map asKnown
  have hnames : (((all.filter (isKnown fields.list)).reverse.map asKnown).map
      Prod.fst).Nodup := by
    rw [(hknown.map Prod.fst).nodup_iff, List.map_map]
    exact hdistinct
  have hread : ∀ m ∈ all, IsRead fields.list skip keep origin m := by
    intro m hm
    rcases List.mem_append.1 (hall.mem_iff.1 hm) with hm | hm
    · obtain ⟨field, hfind, hcheck⟩ := h.exists_find? hdistinct hm
      exact .known field hfind hcheck
    · exact .other (h.find?_eq_none (hothers m hm)) (hskip m hm)
  have hrun := readMembers_eq_ok all hread [] state (by rw [List.append_nil]; exact hnames)
  rw [List.append_nil] at hrun
  refine ⟨_, _, hrun, h.ofMembers _ fun m hm => ?_, hpassed⟩
  exact lookup_eq_some_of_mem hnames (hknown.mem_iff.2 (List.mem_map_of_mem hm))

end Fields.Asks

/-- **A record** is decoded from the members that it asks for, whatever their order and whatever
else there is that is sound. -/
theorem record_eq_ok {origin level : Origin} (hlevel : origin.enter = .ok level) (name : String)
    {fields : Fields α} {members others all : List (String × Json)} {value : α}
    (h : fields.Asks level members value) (hall : all.Perm (members ++ others))
    (hdistinct : (members.map Prod.fst).Nodup)
    (hothers : ∀ m ∈ others, m.1 ∉ members.map Prod.fst)
    (hsound : ∀ m ∈ others, m.2.toDocument.isSound = true) :
    record name fields origin (.object (memberDocuments all)) = .ok value := by
  have hskip : ∀ m ∈ others, ∀ state,
      passOver state m.1 m.2.toDocument = .ok ((fun _ _ => ()) state m) := by
    intro m hm state
    rw [passOver, if_pos (hsound m hm)]
  obtain ⟨known, passed, hrun, hvalue, -⟩ :=
    h.readMembers passOver (fun _ _ => ()) hall hdistinct hothers hskip ()
  unfold record
  simp only [hlevel, hrun, hvalue, bind, Except.bind]

/-- A record is decoded from the members that it asks for, and nothing else. -/
theorem record_of_perm {origin level : Origin} (hlevel : origin.enter = .ok level) (name : String)
    {fields : Fields α} {members all : List (String × Json)} {value : α}
    (h : fields.Asks level members value) (hall : all.Perm members)
    (hdistinct : (members.map Prod.fst).Nodup) :
    record name fields origin (.object (memberDocuments all)) = .ok value := by
  have hperm : all.Perm (members ++ []) := by
    rw [List.append_nil]
    exact hall
  refine record_eq_ok hlevel name h hperm hdistinct ?_ ?_
  · intro m hm
    cases hm
  · intro m hm
    cases hm

/-! ### Records inside records -/

theorem foldl_keep (members kept : List (String × Json)) :
    members.foldl (fun kept m => kept ++ [m]) kept = kept ++ members := by
  induction members generalizing kept with
  | nil => rw [List.foldl_nil, List.append_nil]
  | cons m rest ih => rw [List.foldl_cons, ih, List.append_assoc, List.singleton_append]

/-- **A record with another one inside** is decoded from the members that the two ask for,
whatever their order and whatever else there is. What is read later than it stands has to survive
being kept, which is what `hkept` says. -/
theorem flattened_eq_ok {origin level : Origin} (hlevel : origin.enter = .ok level) (name : String)
    {outer : Fields (γ → α)} {inner : Fields γ} {own inside others all : List (String × Json)}
    {f : γ → α} {x : γ} (houter : outer.Asks level own f) (hinner : inner.Asks .value inside x)
    (hall : all.Perm (own ++ (inside ++ others)))
    (hdistinct : ((own ++ inside).map Prod.fst).Nodup)
    (hothers : ∀ m ∈ others, m.1 ∉ (own ++ inside).map Prod.fst)
    (hkept : ∀ m ∈ inside ++ others, decodeAny level m.2.toDocument = .ok m.2) :
    flattened name outer inner origin (.object (memberDocuments all)) = .ok (f x) := by
  rw [List.map_append, List.nodup_append] at hdistinct
  obtain ⟨hown, hinside, hapart⟩ := hdistinct
  simp only [List.map_append, List.mem_append, not_or] at hothers
  have hnotOwn : ∀ m ∈ inside ++ others, m.1 ∉ own.map Prod.fst := by
    intro m hm
    rcases List.mem_append.1 hm with hm | hm
    · intro hmem
      exact hapart _ hmem _ (List.mem_map_of_mem hm) rfl
    · exact (hothers m hm).1
  have hkeep : ∀ m ∈ inside ++ others, ∀ kept,
      keepMember level kept m.1 m.2.toDocument = .ok (kept ++ [m]) := by
    intro m hm kept
    unfold keepMember
    rw [hkept m hm]
    rfl
  obtain ⟨known, kept, hrun, hvalue, hperm⟩ :=
    houter.readMembers (keepMember level) (fun kept m => kept ++ [m]) hall hown hnotOwn hkeep []
  rw [foldl_keep, List.nil_append] at hrun
  obtain ⟨knownInside, passed, hrunInside, hvalueInside, -⟩ :=
    hinner.readMembers (fun _ _ _ => .ok ()) (fun _ _ => ()) hperm hinside
      (fun m hm => (hothers m hm).2) (fun _ _ _ => rfl) ()
  unfold flattened
  simp only [hlevel, hrun, hvalue, hrunInside, hvalueInside, bind, Except.bind]

end Decoder

end Remit.Json
