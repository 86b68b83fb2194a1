import Mathlib.Data.List.Forall2
import Remit.Json.Decoder

/-!
# Objects that are read alike

Two objects with the same names in the same order, whose values a reader cannot tell apart as far as
it looks at them, are read alike: with the same error, or with values that differ only where the
objects do (`SameFailure`). What a reader cannot tell apart is left open: `alike name v v'` says it
of two values under a name.

* `SameFailure.bind`: steps that are alike make readers that are alike;
* `readMembers_alike`: the members of two such objects are taken or refused alike;
* `record_alike`: and so are the records that are made of them;
* `OpenAlike.build`: two texts that differ in a member that is read already hold two such objects.
-/

namespace Remit

/-- The same error, or two values of which something holds. -/
inductive SameFailure {ε α β : Type} (related : α → β → Prop) : Except ε α → Except ε β → Prop
  | error (e : ε) : SameFailure related (.error e) (.error e)
  | ok {a : α} {b : β} (h : related a b) : SameFailure related (.ok a) (.ok b)

namespace SameFailure

variable {ε α β γ δ : Type} {related : α → β → Prop} {further : γ → δ → Prop}

theorem of_eq {x y : Except ε α} (h : x = y) : SameFailure Eq x y := by
  subst h
  cases x with
  | error e => exact .error e
  | ok a => exact .ok rfl

theorem bind {x : Except ε α} {y : Except ε β} {f : α → Except ε γ} {g : β → Except ε δ}
    (h : SameFailure related x y) (hnext : ∀ a b, related a b → SameFailure further (f a) (g b)) :
    SameFailure further (x >>= f) (y >>= g) := by
  cases h with
  | error e => exact .error e
  | ok hab => exact hnext _ _ hab

theorem mono {x : Except ε α} {y : Except ε β} {weaker : α → β → Prop}
    (h : SameFailure related x y) (hweaker : ∀ a b, related a b → weaker a b) :
    SameFailure weaker x y := by
  cases h with
  | error e => exact .error e
  | ok hab => exact .ok (hweaker _ _ hab)

theorem error_eq {x : Except ε α} {y : Except ε β} {e e' : ε} (h : SameFailure related x y)
    (hx : x = .error e) (hy : y = .error e') : e = e' := by
  cases h with
  | error =>
    rw [Except.error.injEq] at hx hy
    exact hx.symm.trans hy
  | ok => cases hx

theorem map_unit_eq {x : Except ε α} {y : Except ε β} (h : SameFailure related x y) :
    x.map (fun _ => ()) = y.map fun _ => () := by
  cases h with
  | error e => rfl
  | ok hab => rfl

end SameFailure

namespace Json.Decoder

variable {α σ : Type} {alike : String → Document → Document → Prop}

/-- Two members that cannot be told apart: the same one twice, or two under one name. -/
inductive MembersAlike (alike : String → Document → Document → Prop) :
    Document × Document → Document × Document → Prop
  | same (m : Document × Document) : MembersAlike alike m m
  | named {name : String} {v v' : Document} (h : alike name v v') :
      MembersAlike alike (.scalar (.string (some name)), v) (.scalar (.string (some name)), v')

/-- The same for members that were found. -/
def KnownAlike (alike : String → Document → Document → Prop) (m m' : String × Document) : Prop :=
  m.1 = m'.1 ∧ (m.2 = m'.2 ∨ alike m.1 m.2 m'.2)

/-- The members that were found, each like its counterpart. -/
abbrev AllAlike (alike : String → Document → Document → Prop)
    (known known' : List (String × Document)) : Prop :=
  List.Forall₂ (KnownAlike alike) known known'

/-- Under each name the same was found, or two values that are alike, or twice nothing. -/
inductive FoundAlike (alike : String → Document → Document → Prop) (name : String) :
    Option Document → Option Document → Prop
  | same (found : Option Document) : FoundAlike alike name found found
  | alike {v v' : Document} (h : alike name v v') : FoundAlike alike name (some v) (some v')

theorem AllAlike.lookup {known known' : List (String × Document)} (h : AllAlike alike known known')
    (name : String) : FoundAlike alike name (known.lookup name) (known'.lookup name) := by
  induction h with
  | nil => exact .same none
  | @cons m m' _ _ hhead _ ih =>
    obtain ⟨first, v⟩ := m
    obtain ⟨first', v'⟩ := m'
    obtain ⟨hname, hvalue⟩ := hhead
    obtain rfl : first = first' := hname
    by_cases hfirst : name = first
    · subst hfirst
      rw [List.lookup_cons_self, List.lookup_cons_self]
      rcases hvalue with heq | halike
      · obtain rfl : v = v' := heq
        exact .same _
      · exact .alike halike
    · rw [List.lookup_cons, List.lookup_cons, beq_eq_false_iff_ne.2 hfirst]
      exact ih

theorem FoundAlike.isSome_eq {name : String} {found found' : Option Document}
    (h : FoundAlike alike name found found') : found.isSome = found'.isSome := by
  cases h <;> rfl

/-- A reader of members does not tell `alike` values apart: fields check them with one outcome, and
whatever else is done with them has one outcome too. -/
structure Overlooks (fields : List Field) (skip : σ → String → Document → Except DecodeError σ)
    (origin : Origin) (alike : String → Document → Document → Prop) : Prop where
  check : ∀ field ∈ fields, ∀ v v', alike field.name v v' →
    field.check origin v = field.check origin v'
  skip : ∀ name, fields.find? (·.name == name) = none → ∀ v v', alike name v v' →
    ∀ state, skip state name v = skip state name v'

/-- What was found is alike, and what was done with the other members is the same. -/
def ReadAlike (alike : String → Document → Document → Prop)
    (found found' : List (String × Document) × σ) : Prop :=
  AllAlike alike found.1 found'.1 ∧ found.2 = found'.2

section Reading

variable {fields : List Field} {skip : σ → String → Document → Except DecodeError σ}
  {origin : Origin}

theorem Overlooks.readMembers_cons (ho : Overlooks fields skip origin alike) {name : String}
    {v v' : Document} (hv : v = v' ∨ alike name v v')
    {rest rest' : List (Document × Document)}
    (hrest : ∀ known known', AllAlike alike known known' → ∀ state,
      SameFailure (ReadAlike alike) (readMembers fields skip origin rest known state)
        (readMembers fields skip origin rest' known' state))
    {known known' : List (String × Document)} (hknown : AllAlike alike known known') (state : σ) :
    SameFailure (ReadAlike alike)
      (readMembers fields skip origin ((.scalar (.string (some name)), v) :: rest) known state)
      (readMembers fields skip origin ((.scalar (.string (some name)), v') :: rest') known'
        state) := by
  rw [readMembers, readMembers]
  cases hfind : fields.find? (·.name == name) with
  | some field =>
    dsimp only
    rw [(hknown.lookup name).isSome_eq]
    split
    · -- The name comes a second time.
      exact .error _
    · have hmatches := List.find?_some hfind
      have hname : field.name = name := eq_of_beq hmatches
      have hcheck : field.check origin v = field.check origin v' := by
        rcases hv with rfl | hv
        · rfl
        · exact ho.check field (List.mem_of_find?_eq_some hfind) v v' (hname ▸ hv)
      refine (SameFailure.of_eq hcheck).bind fun _ _ _ => hrest _ _ ?_ state
      exact .cons ⟨rfl, hv⟩ hknown
  | none =>
    have hskip : skip state name v = skip state name v' := by
      rcases hv with rfl | hv
      · rfl
      · exact ho.skip name hfind v v' hv state
    refine (SameFailure.of_eq hskip).bind fun after after' hafter => ?_
    subst hafter
    exact hrest _ _ hknown after

/-- A member whose name is no string is refused before its value is looked at. -/
theorem readMembers_of_not_string {m : Document × Document}
    (h : ∀ name, m.1 ≠ .scalar (.string (some name))) (rest : List (Document × Document))
    (known : List (String × Document)) (state : σ) :
    readMembers fields skip origin (m :: rest) known state = .error .notJson := by
  rw [readMembers]
  rintro name v rfl
  exact h name rfl

/-- **Members that are alike are taken or refused alike.** The induction is over the members, with
any members known before. -/
theorem readMembers_alike (ho : Overlooks fields skip origin alike)
    {members members' : List (Document × Document)}
    (h : List.Forall₂ (MembersAlike alike) members members')
    {known known' : List (String × Document)} (hknown : AllAlike alike known known') (state : σ) :
    SameFailure (ReadAlike alike) (readMembers fields skip origin members known state)
      (readMembers fields skip origin members' known' state) := by
  induction h generalizing known known' state with
  | nil => exact .ok ⟨hknown, rfl⟩
  | @cons m _ rest rest' hhead _ ih =>
    have hrest : ∀ known known', AllAlike alike known known' → ∀ state,
        SameFailure (ReadAlike alike) (readMembers fields skip origin rest known state)
          (readMembers fields skip origin rest' known' state) :=
      fun _ _ hknown state => ih hknown state
    cases hhead with
    | named hv => exact ho.readMembers_cons (.inr hv) hrest hknown state
    | same =>
      by_cases hname : ∃ name, m.1 = .scalar (.string (some name))
      · obtain ⟨_, v⟩ := m
        obtain ⟨name, rfl⟩ := hname
        exact ho.readMembers_cons (.inl rfl) hrest hknown state
      · rw [readMembers_of_not_string (not_exists.1 hname),
          readMembers_of_not_string (not_exists.1 hname)]
        exact .error _

end Reading

/-! ### Records -/

/-- From members that are alike the fields put together values that are `related`. -/
def Fields.Overlook (fields : Fields α) (origin : Origin)
    (alike : String → Document → Document → Prop) (related : α → α → Prop) : Prop :=
  ∀ known known', AllAlike alike known known' →
    SameFailure related (fields.ofMembers origin (known.lookup ·))
      (fields.ofMembers origin (known'.lookup ·))

namespace Fields.Overlook

variable {β : Type} {origin : Origin} {related : α → α → Prop}

theorem pure {value : α} (h : related value value) :
    (Fields.pure value).Overlook origin alike related :=
  fun _ _ _ => .ok h

theorem and {further : β → β → Prop} {f : Fields (α → β)} {x : Fields α}
    (hf : f.Overlook origin alike fun g g' => ∀ y y', related y y' → further (g y) (g' y'))
    (hx : x.Overlook origin alike related) : (f.and x).Overlook origin alike further := by
  intro known known' hknown
  exact (hf known known' hknown).bind fun g g' hg =>
    (hx known known' hknown).bind fun y y' hy => .ok (hg y y' hy)

theorem optional {name : String} {decode : Decoder α} {default : α} (hrefl : ∀ a, related a a)
    (h : ∀ v v', alike name v v' → SameFailure related (decode origin v) (decode origin v')) :
    (Fields.optional name decode default).Overlook origin alike related := by
  intro known known' hknown
  have hfound := hknown.lookup name
  unfold Fields.optional
  dsimp only
  generalize known.lookup name = found at hfound ⊢
  generalize known'.lookup name = found' at hfound ⊢
  cases hfound with
  | alike hv => exact h _ _ hv
  | same =>
    refine (SameFailure.of_eq rfl).mono ?_
    rintro a _ rfl
    exact hrefl a

end Fields.Overlook

/-- **Records of objects that are alike** are decoded alike, if their fields are. -/
theorem record_alike {fields : Fields α} {related : α → α → Prop} {origin level : Origin}
    (hlevel : origin.enter = .ok level) (ho : Overlooks fields.list passOver level alike)
    (hfields : fields.Overlook level alike related)
    {members members' : List (Document × Document)}
    (h : List.Forall₂ (MembersAlike alike) members members') (name : String) :
    SameFailure related (record name fields origin (.object members))
      (record name fields origin (.object members')) := by
  unfold record
  simp only [hlevel]
  exact (readMembers_alike ho h .nil ()).bind fun found found' hfound =>
    hfields found.1 found'.1 hfound.1

/-! ### Texts -/

/-- Two objects with members that are alike. -/
def ObjectsAlike (alike : String → Document → Document → Prop) (document document' : Document) :
    Prop :=
  ∃ members members', document = .object members ∧ document' = .object members' ∧
    List.Forall₂ (MembersAlike alike) members members'

theorem objectsAlike_reverse {members members' : List (Document × Document)}
    (h : List.Forall₂ (MembersAlike alike) members members') :
    ObjectsAlike alike (.object members.reverse) (.object members'.reverse) :=
  ⟨_, _, rfl, rfl, List.rel_reverse h⟩

open Document (Due Frame Step)

/-- The same frames are open in both texts, but for members of the outermost object that are
alike. -/
inductive OpenAlike (alike : String → Document → Document → Prop) : List Frame → List Frame → Prop
  | object {members members' : List (Document × Document)}
      (h : List.Forall₂ (MembersAlike alike) members members') :
      OpenAlike alike [.object members] [.object members']
  | member {members members' : List (Document × Document)}
      (h : List.Forall₂ (MembersAlike alike) members members') (name : Document) :
      OpenAlike alike [.member members name] [.member members' name]
  | cons (frame : Frame) {frames frames' : List Frame} (h : OpenAlike alike frames frames') :
      OpenAlike alike (frame :: frames) (frame :: frames')

/-- Two steps that leave the same open, or finish objects that are alike. -/
inductive StepsAlike (alike : String → Document → Document → Prop) : Step → Step → Prop
  | inside (part : Document) {frames frames' : List Frame} (h : OpenAlike alike frames frames') :
      StepsAlike alike (.finish part frames) (.finish part frames')
  | whole {document document' : Document} (h : ObjectsAlike alike document document') :
      StepsAlike alike (.finish document []) (.finish document' [])
  | goOn (due : Due) {frames frames' : List Frame} (h : OpenAlike alike frames frames') :
      StepsAlike alike (.goOn due frames) (.goOn due frames')
  | stop {document document' : Document} (h : ObjectsAlike alike document document') :
      StepsAlike alike (.stop document) (.stop document')

namespace OpenAlike

variable {frames frames' : List Frame}

theorem closeWith (h : OpenAlike alike frames frames') (part : Document) :
    ObjectsAlike alike (Document.closeWith part frames) (Document.closeWith part frames') := by
  induction h generalizing part with
  | object h => exact objectsAlike_reverse (.cons (.same _) h)
  | member h name => exact objectsAlike_reverse (.cons (.same _) h)
  | cons frame _ ih =>
    cases frame with
    | array items => exact ih _
    | object members => exact ih _
    | member members name => exact ih _

theorem exists_deliver (h : OpenAlike alike frames frames') (part : Document) :
    ∃ next next', Document.deliver part frames = .inr next ∧
      Document.deliver part frames' = .inr next' ∧ OpenAlike alike next next' := by
  cases h with
  | object h => exact ⟨_, _, rfl, rfl, .object (.cons (.same _) h)⟩
  | member h name => exact ⟨_, _, rfl, rfl, .object (.cons (.same _) h)⟩
  | cons frame h =>
    cases frame with
    | array items => exact ⟨_, _, rfl, rfl, .cons _ h⟩
    | object members => exact ⟨_, _, rfl, rfl, .cons _ h⟩
    | member members name => exact ⟨_, _, rfl, rfl, .cons _ h⟩

theorem abandon (h : OpenAlike alike frames frames') :
    StepsAlike alike (.stop (Document.abandon frames)) (.stop (Document.abandon frames')) :=
  .stop (h.closeWith _)

theorem stepValue (h : OpenAlike alike frames frames') (token : Token) :
    StepsAlike alike (Document.stepValue token frames) (Document.stepValue token frames') := by
  cases token with
  | scalar value => exact .inside _ h
  | beginArray => exact .goOn _ (.cons _ h)
  | beginObject => exact .goOn _ (.cons _ h)
  | _ => exact h.abandon

theorem stepName (h : OpenAlike alike frames frames') (token : Token) :
    StepsAlike alike (Document.stepName token frames) (Document.stepName token frames') := by
  cases token with
  | scalar value =>
    cases value with
    | string text =>
      cases h with
      | object h => exact .goOn _ (.member h _)
      | member h name => exact (member h name).abandon
      | cons frame h =>
        cases frame with
        | object members => exact .goOn _ (.cons _ h)
        | _ => exact (cons _ h).abandon
    | _ => exact h.abandon
  | _ => exact h.abandon

/-- The end of an array. -/
theorem endArray (h : OpenAlike alike frames frames') {due : Due}
    (hdue : due = .firstItem ∨ due = .more) :
    StepsAlike alike (Document.step due .endArray frames)
      (Document.step due .endArray frames') := by
  rcases hdue with rfl | rfl <;> cases h with
  | object h => exact (object h).abandon
  | member h name => exact (member h name).abandon
  | cons frame h =>
    cases frame with
    | array items => exact .inside _ h
    | _ => exact (cons _ h).abandon

/-- The end of an object. -/
theorem endObject (h : OpenAlike alike frames frames') {due : Due}
    (hdue : due = .firstName ∨ due = .more) :
    StepsAlike alike (Document.step due .endObject frames)
      (Document.step due .endObject frames') := by
  rcases hdue with rfl | rfl <;> cases h with
  | object h => exact .whole (objectsAlike_reverse h)
  | member h name => exact (member h name).abandon
  | cons frame h =>
    cases frame with
    | object members => exact .inside _ h
    | _ => exact (cons _ h).abandon

theorem comma (h : OpenAlike alike frames frames') :
    StepsAlike alike (Document.step .more .comma frames) (Document.step .more .comma frames') := by
  cases h with
  | object h => exact .goOn _ (.object h)
  | member h name => exact (member h name).abandon
  | cons frame h =>
    cases frame with
    | array items => exact .goOn _ (.cons _ h)
    | object members => exact .goOn _ (.cons _ h)
    | member members name => exact (cons _ h).abandon

/-- **One token** does the same in both texts. -/
theorem step (h : OpenAlike alike frames frames') (due : Due) (token : Token) :
    StepsAlike alike (Document.step due token frames) (Document.step due token frames') := by
  cases due with
  | value => exact h.stepValue token
  | name => exact h.stepName token
  | firstItem =>
    have hvalue := h.stepValue token
    cases token with
    | endArray => exact h.endArray (.inl rfl)
    | _ => exact hvalue
  | firstName =>
    have hname := h.stepName token
    cases token with
    | endObject => exact h.endObject (.inl rfl)
    | _ => exact hname
  | colon =>
    cases token with
    | colon => exact .goOn _ h
    | _ => exact h.abandon
  | more =>
    cases token with
    | comma => exact h.comma
    | endArray => exact h.endArray (.inr rfl)
    | endObject => exact h.endObject (.inr rfl)
    | _ => exact h.abandon

/-- **The same tokens make objects that are alike**, and leave the same behind them. The induction
is over the tokens. -/
theorem build (h : OpenAlike alike frames frames') (due : Due) (tokens : List Token) :
    ObjectsAlike alike (Document.build due frames tokens).1
        (Document.build due frames' tokens).1 ∧
      (Document.build due frames tokens).2 = (Document.build due frames' tokens).2 := by
  induction tokens generalizing due frames frames' with
  | nil => exact ⟨h.closeWith _, rfl⟩
  | cons token rest ih =>
    rw [Document.build, Document.build]
    have hstep := h.step due token
    generalize Document.step due token frames = next at hstep
    generalize Document.step due token frames' = next' at hstep
    cases hstep with
    | stop hdocuments => exact ⟨hdocuments, rfl⟩
    | whole hdocuments => exact ⟨hdocuments, rfl⟩
    | goOn due' hopen => exact ih hopen due'
    | inside part hopen =>
      obtain ⟨_, _, hdeliver, hdeliver', hnext⟩ := hopen.exists_deliver part
      simp only [hdeliver, hdeliver']
      exact ih hnext .more

end OpenAlike

end Json.Decoder

end Remit
