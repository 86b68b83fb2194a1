import Remit.FileSystem.Disk

/-!
# What may become of an activity

What is known of the real files of a program is less than what `Disk.handle` says of a disk: every
step may fail, for reasons that do not lie in the files, a directory may be made only in part, and
of the bytes that are handed over only the first few may be taken. `Disk.Yields` lists what may come
of a step, and `Activity.Unfolds` what may come of an activity then: its *moments*, each with the
step that was taken, its answer, and the state that it left.

* `Activity.unfolds_bind_iff`: what may come of a sequence comes of its parts;
* `Disk.unfolds_run`: what comes of an activity on a disk where nothing fails is one of the
  possibilities.
-/

namespace Remit

namespace Activity

variable {I : Interface} {α β σ : Type}

/-! ### Moments -/

/-- A question that was asked, its answer, and the state after it. -/
structure Moment (I : Interface) (σ : Type) where
  op : I.Op
  answer : I.Answer op
  after : σ

/-- What may come of a question: an answer, and the state after it. -/
abbrev Possibilities (I : Interface) (σ : Type) := (op : I.Op) → σ → I.Answer op → σ → Prop

/-- **This may come of the activity**: it goes through these moments, ends with the value, and
leaves the last state. -/
inductive Unfolds (may : Possibilities I σ) :
    Activity I α → σ → List (Moment I σ) → α → σ → Prop
  | done (value : α) (state : σ) : Unfolds may (.done value) state [] value state
  | ask {op : I.Op} {next : I.Answer op → Activity I α} {state after last : σ}
      {answer : I.Answer op} {moments : List (Moment I σ)} {value : α}
      (hstep : may op state answer after)
      (hnext : Unfolds may (next answer) after moments value last) :
      Unfolds may (.ask op next) state (⟨op, answer, after⟩ :: moments) value last

variable {may : Possibilities I σ} {state last : σ} {moments : List (Moment I σ)}

theorem unfolds_done_iff {value result : α} :
    Unfolds may (.done value) state moments result last ↔
      moments = [] ∧ result = value ∧ last = state := by
  constructor
  · intro h
    cases h
    exact ⟨rfl, rfl, rfl⟩
  · rintro ⟨rfl, rfl, rfl⟩
    exact .done _ _

theorem unfolds_ask_iff {op : I.Op} {next : I.Answer op → Activity I α} {result : α} :
    Unfolds may (.ask op next) state moments result last ↔
      ∃ answer after rest, moments = ⟨op, answer, after⟩ :: rest ∧ may op state answer after ∧
        Unfolds may (next answer) after rest result last := by
  constructor
  · intro h
    cases h with
    | ask hstep hnext => exact ⟨_, _, _, rfl, hstep, hnext⟩
  · rintro ⟨answer, after, rest, rfl, hstep, hnext⟩
    exact .ask hstep hnext

theorem unfolds_perform_iff {op : I.Op} {result : I.Answer op} :
    Unfolds may (.perform op) state moments result last ↔
      moments = [⟨op, result, last⟩] ∧ may op state result last := by
  simp only [perform, unfolds_ask_iff, unfolds_done_iff]
  constructor
  · rintro ⟨_, _, _, rfl, hstep, rfl, rfl, rfl⟩
    exact ⟨rfl, hstep⟩
  · rintro ⟨rfl, hstep⟩
    exact ⟨result, last, [], rfl, hstep, rfl, rfl, rfl⟩

/-- **What may come of a sequence comes of its parts.** The induction is on the first part. -/
theorem unfolds_bind_iff {activity : Activity I α} {f : α → Activity I β} {result : β} :
    Unfolds may (activity >>= f) state moments result last ↔
      ∃ value between first second, moments = first ++ second ∧
        Unfolds may activity state first value between ∧
        Unfolds may (f value) between second result last := by
  induction activity generalizing state moments with
  | done value =>
    simp only [done_bind, unfolds_done_iff]
    constructor
    · intro h
      exact ⟨value, state, [], moments, rfl, ⟨rfl, rfl, rfl⟩, h⟩
    · rintro ⟨_, _, _, second, rfl, ⟨rfl, rfl, rfl⟩, h⟩
      exact h
  | ask op next ih =>
    simp only [ask_bind, unfolds_ask_iff, ih]
    constructor
    · rintro ⟨answer, after, _, rfl, hstep, value, between, first, second, rfl, hfirst, hsecond⟩
      exact ⟨value, between, ⟨op, answer, after⟩ :: first, second, rfl,
        ⟨answer, after, first, rfl, hstep, hfirst⟩, hsecond⟩
    · rintro ⟨value, between, _, second, rfl, ⟨answer, after, first, rfl, hstep, hfirst⟩, hsecond⟩
      exact ⟨answer, after, first ++ second, rfl, hstep, value, between, first, second, rfl, hfirst,
        hsecond⟩

/-- Whatever is answered, only such questions are asked. -/
def Asks (fits : I.Op → Prop) : Activity I α → Prop
  | done _ => True
  | ask op next => fits op ∧ ∀ answer, (next answer).Asks fits

section Asks

variable {fits : I.Op → Prop} {activity : Activity I α}

theorem Asks.mono (h : activity.Asks fits) {more : I.Op → Prop} (hmore : ∀ op, fits op → more op) :
    activity.Asks more := by
  induction activity with
  | done value => trivial
  | ask op next ih => exact ⟨hmore op h.1, fun answer => ih answer (h.2 answer)⟩

theorem Asks.bind (h : activity.Asks fits) {f : α → Activity I β}
    (hf : ∀ value, (f value).Asks fits) : (activity >>= f).Asks fits := by
  induction activity with
  | done value => exact hf value
  | ask op next ih => exact ⟨h.1, fun answer => ih answer (h.2 answer)⟩

/-- **What each step keeps, a whole run keeps.** A relation between the states before and after each
of the questions that are asked also holds between the first state and each later one. -/
theorem Unfolds.forall_related {value : α} {related : σ → σ → Prop}
    (h : Unfolds may activity state moments value last) (hasks : activity.Asks fits)
    (hrefl : ∀ s, related s s) (htrans : ∀ {a b c}, related a b → related b c → related a c)
    (hstep : ∀ {op s answer after}, fits op → may op s answer after → related s after) :
    (∀ moment ∈ moments, related state moment.after) ∧ related state last := by
  induction h with
  | done value state => exact ⟨List.forall_mem_nil _, hrefl state⟩
  | ask hmay hnext ih =>
    obtain ⟨hmoments, hlast⟩ := ih (hasks.2 _)
    have hfirst := hstep hasks.1 hmay
    rw [List.forall_mem_cons]
    exact ⟨⟨hfirst, fun moment hmoment => htrans hfirst (hmoments moment hmoment)⟩,
      htrans hfirst hlast⟩

end Asks

/-- What a handler answers is one of the possibilities if it is for each question. -/
theorem exists_unfolds_run {handle : Handler I σ}
    (h : ∀ op state, may op state (handle op state).1 (handle op state).2)
    (activity : Activity I α) (state : σ) :
    ∃ moments, Unfolds may activity state moments (activity.run handle state).1
      (activity.run handle state).2 := by
  induction activity generalizing state with
  | done value => exact ⟨[], .done value state⟩
  | ask op next ih =>
    obtain ⟨moments, hnext⟩ := ih (handle op state).1 (handle op state).2
    exact ⟨_, .ask (h op state) hnext⟩

end Activity

/-! ### Tasks -/

namespace Task

open Activity

variable {I : Interface} {α β ε ε' σ : Type} {may : Possibilities I σ} {state last : σ}
  {moments : List (Moment I σ)}

/-- A sequence of tasks ends with the first error, or goes on after each of them. -/
theorem unfolds_bind_iff {task : Task I ε α} {f : α → Task I ε β} {result : Except ε β} :
    Unfolds may (task >>= f).run state moments result last ↔
      (∃ error, Unfolds may task.run state moments (.error error) last ∧ result = .error error) ∨
      ∃ value between first second, moments = first ++ second ∧
        Unfolds may task.run state first (.ok value) between ∧
        Unfolds may (f value).run between second result last := by
  rw [ExceptT.run_bind, Activity.unfolds_bind_iff]
  constructor
  · rintro ⟨value, between, first, second, rfl, hfirst, hsecond⟩
    cases value with
    | error error =>
      obtain ⟨rfl, rfl, rfl⟩ := unfolds_done_iff.1 hsecond
      rw [List.append_nil]
      exact .inl ⟨error, hfirst, rfl⟩
    | ok value => exact .inr ⟨value, between, first, second, rfl, hfirst, hsecond⟩
  · rintro (⟨error, hfirst, rfl⟩ | ⟨value, between, first, second, rfl, hfirst, hsecond⟩)
    · exact ⟨_, _, moments, [], (List.append_nil _).symm, hfirst, .done _ _⟩
    · exact ⟨_, _, first, second, rfl, hfirst, hsecond⟩

theorem unfolds_mapError_iff {f : ε → ε'} {task : Task I ε α} {result : Except ε' α} :
    Unfolds may (task.mapError f).run state moments result last ↔
      ∃ value, Unfolds may task.run state moments value last ∧ result = value.mapError f := by
  show Unfolds may (task.run >>= fun value => .done (value.mapError f)) _ _ _ _ ↔ _
  simp only [Activity.unfolds_bind_iff, unfolds_done_iff]
  constructor
  · rintro ⟨value, _, _, _, rfl, htask, rfl, rfl, rfl⟩
    rw [List.append_nil]
    exact ⟨value, htask, rfl⟩
  · rintro ⟨value, htask, rfl⟩
    exact ⟨value, last, moments, [], (List.append_nil _).symm, htask, rfl, rfl, rfl⟩

end Task

namespace FileSystem

open Activity

/-! ### Steps that may fail -/

/-- The answer to a step that failed. Whoever asks whether something is there is told that nothing
is. -/
def Op.refuse : (op : Op) → Error → op.Answer
  | .exists _, _ => false
  | .makeDirectories _, cause => .error cause
  | .createNew _ _, cause => .error cause
  | .openEmpty _ _, cause => .error cause
  | .setMode _ _, cause => .error cause
  | .append _ _, cause => .error cause
  | .sync _, cause => .error cause
  | .read _, cause => .error cause
  | .list _, cause => .error cause

/-- A step that only looks. -/
def Op.IsLook : Op → Prop
  | .exists _ => True
  | .read _ => True
  | .list _ => True
  | _ => False

namespace Disk

/-- **What may come of a step** on a disk: it works, it fails and leaves the disk as it is, it makes
only the outer ones of several directories, or it writes only the first few of the bytes. -/
inductive Yields : Possibilities files Disk
  | works (op : Op) (disk : Disk) : Yields op disk (handle op disk).1 (handle op disk).2
  | fails (op : Op) (cause : Error) (disk : Disk) : Yields op disk (op.refuse cause) disk
  | partlyMade (path : Path) (count : Nat) (cause : Error) (disk : Disk) :
      Yields (.makeDirectories path) disk (.error cause)
        (disk.makeLineage (path.lineage.drop count)).2
  | cutShort (path : Path) (bytes : Bytes) (count : Nat) (disk : Disk) :
      Yields (.append path bytes) disk (handle (.append path (bytes.take count)) disk).1
        (handle (.append path (bytes.take count)) disk).2

/-- A look changes nothing. -/
theorem Yields.eq_of_isLook {op : Op} {disk after : Disk} {answer : op.Answer}
    (h : Yields op disk answer after) (hlook : op.IsLook) : after = disk := by
  cases h with
  | works =>
    cases op with
    | «exists» path => rfl
    | read path => rfl
    | list path => rfl
    | _ => cases hlook
  | fails => rfl
  | partlyMade => cases hlook
  | cutShort => cases hlook

/-- Who only looks changes nothing. -/
theorem eq_of_unfolds_of_isLook {α : Type} {activity : Activity files α} {disk last : Disk}
    {moments : List (Moment files Disk)} {value : α}
    (h : Unfolds Yields activity disk moments value last) (hlooks : activity.Asks Op.IsLook) :
    (∀ moment ∈ moments, moment.after = disk) ∧ last = disk := by
  obtain ⟨hmoments, hlast⟩ := h.forall_related hlooks Eq.refl Eq.trans
    fun hlook hstep => (hstep.eq_of_isLook hlook).symm
  exact ⟨fun moment hmoment => (hmoments moment hmoment).symm, hlast.symm⟩

/-- On a disk where nothing fails an activity goes one of the ways that it may go. -/
theorem unfolds_run {α : Type} (activity : Activity files α) (disk : Disk) :
    ∃ moments, Unfolds Yields activity disk moments (activity.run handle disk).1
      (activity.run handle disk).2 :=
  exists_unfolds_run Yields.works activity disk

end Disk

end FileSystem

end Remit
