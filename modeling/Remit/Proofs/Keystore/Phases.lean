import Remit.Proofs.Keystore.Folder

/-!
# How far a call of a keystore has got

A call of a keystore, to store a wallet or to look one up, is a row of steps on the files. How far
it has got is its `Phase`, what one step does to the phase and to the directory is `Moves`, and what
is known of the directory in a phase is `Phase.Stands`. On a reliable file system a call that has
not ended makes one of these moves (`exists_turns`), and every move is one turn less
(`Moves.left_after`).

Other calls may take steps in between, so what a phase knows of the directory is not enough to say
that a call gets its way. That nobody else writes to a file that a call has made is a property of
all calls together, not of one.
-/

namespace Remit.Keystore

open FileSystem

variable {S : Scheme} {σ : Type}

/-! ### Phases -/

/-- How far a call has got. -/
inductive Phase (S : Scheme) where
  | checking (named : NamedWallet S)
  | making (named : NamedWallet S)
  | creating (named : NamedWallet S)
  /-- The file is made, and the rest is still to be written to it. -/
  | writing (named : NamedWallet S) (rest : Bytes)
  | stored (named : NamedWallet S)
  /-- The name was taken. -/
  | taken (named : NamedWallet S)
  | seeking (name : String)
  | reading (name : String)
  | missing (name : String)
  | read (name : String) (result : Result S)
  /-- There was nothing to do. -/
  | refused (failure : Failure)

namespace Phase

/-- What is still to be done. -/
def activity (keystore : Keystore) : Phase S → Activity files (Result S)
  | checking named => Keystore.checking keystore named
  | making named => Keystore.making keystore named
  | creating named => Keystore.creating keystore named
  | writing named rest => Keystore.writing keystore named rest
  | stored named => .done (.ok named)
  | taken named => .done (.error (.alreadyExists named.name))
  | seeking name => Keystore.seeking keystore S name
  | reading name => Keystore.reading keystore S name
  | missing name => .done (.error (.notFound name keystore.directory))
  | read _ result => .done result
  | refused failure => .done (.error failure)

/-- The wallet whose file was made in an earlier phase. -/
def owned? : Phase S → Option (NamedWallet S)
  | writing named _ => some named
  | stored named => some named
  | _ => none

/-- The wallet all of which was written in an earlier phase. -/
def full? : Phase S → Option (NamedWallet S)
  | writing named [] => some named
  | stored named => some named
  | _ => none

theorem owned?_of_full? {phase : Phase S} {named : NamedWallet S} (h : phase.full? = some named) :
    phase.owned? = some named := by
  cases phase with
  | writing other rest =>
    cases rest with
    | nil => exact h
    | cons byte rest => cases h
  | stored other => exact h
  | _ => cases h

/-- How many turns are left at most. -/
def left : Phase S → Nat
  | checking named => (contentOf named).length + 4
  | making named => (contentOf named).length + 3
  | creating named => (contentOf named).length + 2
  | writing _ rest => rest.length + 1
  | seeking _ => 2
  | reading _ => 1
  | _ => 0

/-- The phase is one of the call. -/
def IsOf (request : Request) : Phase S → Prop
  | checking named => request.Stores named
  | making named => request.Stores named
  | creating named => request.Stores named
  | writing named _ => request.Stores named
  | stored named => request.Stores named
  | taken named => request.Stores named
  | seeking name => request = .get name ∧ isName name = true
  | reading name => request = .get name ∧ isName name = true
  | missing name => request = .get name ∧ isName name = true
  | read name _ => request = .get name ∧ isName name = true
  | refused _ => ∀ named : NamedWallet S, ¬ request.Stores named

/-- What is known of the directory in the phase. -/
def Stands (keystore : Keystore) (folder : Folder) : Phase S → Prop
  | creating _ => folder.isThere = true
  | writing named rest =>
    ∃ old, folder.content? (fileName named.name) = some old ∧ old ++ rest = contentOf named
  | stored named => folder.content? (fileName named.name) = some (contentOf named)
  | reading name => (folder.content? (fileName name)).isSome = true
  | read name (.ok named) => ∃ bytes, folder.content? (fileName name) = some bytes ∧
    readBytes S (keystore.fileFor name) bytes = .ok named
  | _ => True

end Phase

/-- **One step** of a call, with what it does to the directory. -/
inductive Moves (keystore : Keystore) (folder : Folder) : Phase S → Phase S → Folder → Prop
  | free {named : NamedWallet S} (h : folder.content? (fileName named.name) = none) :
      Moves keystore folder (.checking named) (.making named) folder
  | busy {named : NamedWallet S} {old : Bytes}
      (h : folder.content? (fileName named.name) = some old) :
      Moves keystore folder (.checking named) (.taken named) folder
  | made (named : NamedWallet S) :
      Moves keystore folder (.making named) (.creating named) folder.made
  | won {named : NamedWallet S} (h : folder.content? (fileName named.name) = none) :
      Moves keystore folder (.creating named) (.writing named (contentOf named))
        (folder.write (fileName named.name) [])
  | lost {named : NamedWallet S} {old : Bytes}
      (h : folder.content? (fileName named.name) = some old) :
      Moves keystore folder (.creating named) (.taken named) folder
  | wrote {named : NamedWallet S} {rest old : Bytes} (hne : rest ≠ [])
      (h : folder.content? (fileName named.name) = some old) {count : Nat} (hpos : 0 < count) :
      Moves keystore folder (.writing named rest) (.writing named (rest.drop count))
        (folder.write (fileName named.name) (old ++ rest.take count))
  | synced (named : NamedWallet S) :
      Moves keystore folder (.writing named []) (.stored named) folder
  | found {name : String} {bytes : Bytes} (h : folder.content? (fileName name) = some bytes) :
      Moves keystore folder (.seeking name) (.reading name) folder
  | absent {name : String} (h : folder.content? (fileName name) = none) :
      Moves keystore folder (.seeking name) (.missing name) folder
  | read {name : String} {bytes : Bytes} (h : folder.content? (fileName name) = some bytes) :
      Moves keystore folder (.reading name)
        (.read name (readBytes S (keystore.fileFor name) bytes)) folder

/-! ### What a step does to the files -/

/-- The call is about to write to the file. -/
def Phase.Writes (file : String) : Phase S → Prop
  | .writing named rest => rest ≠ [] ∧ fileName named.name = file
  | _ => False

theorem Phase.Writes.exists_owned? {file : String} {phase : Phase S} (h : phase.Writes file) :
    ∃ named, phase.owned? = some named ∧ fileName named.name = file := by
  cases phase with
  | writing named rest => exact ⟨named, rfl, h.2⟩
  | _ => cases h

namespace Moves

variable {keystore : Keystore} {folder after : Folder} {phase next : Phase S}
  (h : Moves keystore folder phase next after)

include h

theorem isThere_after (hthere : folder.isThere = true) : after.isThere = true := by
  cases h <;> first | exact hthere | rfl

/-- No file changes that is there, unless the call is about to write to it. -/
theorem content?_after {file : String} {bytes : Bytes} (hbytes : folder.content? file = some bytes)
    (hwrites : ¬ phase.Writes file) : after.content? file = some bytes := by
  cases h with
  | won hfree =>
    rw [Folder.content?_write]
    split
    · rename_i heq
      subst heq
      rw [hfree] at hbytes
      cases hbytes
    · exact hbytes
  | wrote hne hold =>
    rw [Folder.content?_write, if_neg fun heq => hwrites ⟨hne, heq.symm⟩]
    exact hbytes
  | _ => exact hbytes

theorem isSome_after {file : String} (hsome : (folder.content? file).isSome = true) :
    (after.content? file).isSome = true := by
  cases h with
  | won hfree =>
    rw [Folder.content?_write]
    split
    · rfl
    · exact hsome
  | wrote hne hold =>
    rw [Folder.content?_write]
    split
    · rfl
    · exact hsome
  | _ => exact hsome

/-- Who owns a file goes on to own it. -/
theorem owned?_after {named : NamedWallet S} (howned : phase.owned? = some named) :
    next.owned? = some named := by
  cases h <;> first | exact howned | cases howned

/-- A file with all of a wallet goes on to hold it. -/
theorem full?_after {named : NamedWallet S} (hfull : phase.full? = some named) :
    next.full? = some named := by
  cases h with
  | @wrote _ rest _ hne =>
    cases rest with
    | nil => exact absurd rfl hne
    | cons byte rest => cases hfull
  | synced => exact hfull
  | won hfree => cases hfull
  | _ => cases hfull

/-- To own a file one has to make it, which nobody can where one is. -/
theorem owned?_before {named : NamedWallet S} (howned : next.owned? = some named) :
    phase.owned? = some named ∨ folder.content? (fileName named.name) = none := by
  cases h with
  | won hfree =>
    cases howned
    exact .inr hfree
  | wrote => exact .inl howned
  | synced => exact .inl howned
  | _ => cases howned

/-- Whoever makes a file owns it. -/
theorem exists_owned?_of_new {file : String} (hnone : folder.content? file = none)
    (hsome : (after.content? file).isSome = true) :
    ∃ named, next.owned? = some named ∧ fileName named.name = file := by
  cases h with
  | won hfree =>
    rw [Folder.content?_write] at hsome
    split at hsome
    · rename_i heq
      exact ⟨_, rfl, heq.symm⟩
    · rw [hnone] at hsome
      cases hsome
  | wrote hne hold =>
    rw [Folder.content?_write] at hsome
    split at hsome
    · rename_i heq
      exact ⟨_, rfl, heq.symm⟩
    · rw [hnone] at hsome
      cases hsome
  | _ =>
    have hcontent : (folder.content? file).isSome = true := hsome
    rw [hnone] at hcontent
    cases hcontent

/-- A call that ends up without a file has not changed any. -/
theorem content?_eq_of_owned?_eq_none (hnone : next.owned? = none) (file : String) :
    after.content? file = folder.content? file := by
  cases h <;> first | rfl | cases hnone

/-- Every step is a turn less. -/
theorem left_after : next.left < phase.left := by
  cases h with
  | @wrote _ rest _ hne _ count hpos =>
    have hlength := List.length_pos_iff.2 hne
    simp only [Phase.left, List.length_drop]
    omega
  | _ => simp [Phase.left]

/-- What was known of the directory is carried over to the next phase. -/
theorem stands_after (hstands : phase.Stands keystore folder) : next.Stands keystore after := by
  cases h with
  | made => exact Folder.isThere_made folder
  | won => exact ⟨[], Folder.content?_write_self .., rfl⟩
  | @wrote named rest old hne hold =>
    obtain ⟨found, hfound, hrest⟩ := hstands
    rw [hold] at hfound
    cases hfound
    refine ⟨_, Folder.content?_write_self .., ?_⟩
    rw [List.append_assoc, List.take_append_drop, hrest]
  | synced named =>
    obtain ⟨old, hold, hrest⟩ := hstands
    rw [List.append_nil] at hrest
    rwa [hrest] at hold
  | found hbytes =>
    show (folder.content? _).isSome = true
    rw [hbytes]
    rfl
  | @read name bytes hbytes =>
    cases hresult : readBytes S (keystore.fileFor name) bytes with
    | ok named => exact ⟨bytes, hbytes, hresult⟩
    | error failure => trivial
  | _ => trivial

end Moves

/-! ### Files that are owned -/

/-- The call owns the file. -/
def Phase.Owns (file : String) (phase : Phase S) : Prop :=
  ∃ named, phase.owned? = some named ∧ fileName named.name = file

/-- A part of what is written of a wallet is not read as one. -/
theorem readBytes_ne_ok_of_part {named : NamedWallet S} (hname : isName named.name = true)
    {written rest : Bytes} (hcontent : written ++ rest = contentOf named) (hne : rest ≠ [])
    (file : Path) (found : NamedWallet S) : readBytes S file written ≠ .ok found := by
  have hpart : written ≠ contentOf named := by
    rintro rfl
    exact hne (List.append_right_eq_self.1 hcontent)
  rw [readBytes]
  cases htext : written.toText? with
  | none => exact fun h => nomatch h
  | some text => exact readRecord_ne_ok_of_prefix hname ⟨rest, hcontent⟩ hpart htext file found

/-- What is written of a wallet is read as that wallet, or not at all. -/
theorem eq_of_readBytes_contentOf {original named : NamedWallet S} {file : Path}
    (h : readBytes S file (contentOf original) = .ok named) :
    named.name = original.name ∧ named.wallet = original.wallet ∧
      Rfc3339.parse (Rfc3339.formatZulu original.createdAt) = .ok named.createdAt := by
  rw [readBytes, contentOf, Bytes.toText?_ofText] at h
  exact eq_of_readRecord_text h

/-- An owned file holds the part that its owner has written. -/
theorem Phase.Stands.exists_part {keystore : Keystore} {folder : Folder} {phase : Phase S}
    (h : phase.Stands keystore folder) {named : NamedWallet S}
    (howned : phase.owned? = some named) :
    ∃ written rest, folder.content? (fileName named.name) = some written ∧
      written ++ rest = contentOf named := by
  cases phase with
  | writing other rest =>
    cases howned
    obtain ⟨old, hold, hrest⟩ := h
    exact ⟨old, rest, hold, hrest⟩
  | stored other =>
    cases howned
    exact ⟨_, [], h, List.append_nil _⟩
  | _ => cases howned

theorem Phase.Stands.content?_eq {keystore : Keystore} {folder : Folder} {phase : Phase S}
    (h : phase.Stands keystore folder) {named : NamedWallet S} (hfull : phase.full? = some named) :
    folder.content? (fileName named.name) = some (contentOf named) := by
  cases phase with
  | writing other rest =>
    cases rest with
    | cons byte rest => cases hfull
    | nil =>
      cases hfull
      obtain ⟨old, hold, hrest⟩ := h
      rw [List.append_nil] at hrest
      rwa [hrest] at hold
  | stored other =>
    cases hfull
    exact h
  | _ => cases hfull

/-- The name in an owned file is one that a wallet may have. -/
theorem Phase.IsOf.stores {request : Request} {phase : Phase S} (h : phase.IsOf request)
    {named : NamedWallet S} (howned : phase.owned? = some named) : request.Stores named := by
  cases phase with
  | writing other rest =>
    cases howned
    exact h
  | stored other =>
    cases howned
    exact h
  | _ => cases howned

theorem isOf_of_moves {keystore : Keystore} {folder after : Folder} {phase next : Phase S}
    (h : Moves keystore folder phase next after) {request : Request} (hphase : phase.IsOf request) :
    next.IsOf request := by
  cases h <;> exact hphase

/-- An owned file that is read as a wallet holds all of it. -/
theorem Phase.Stands.full?_of_readBytes {keystore : Keystore} {folder : Folder} {phase : Phase S}
    (h : phase.Stands keystore folder) {named found : NamedWallet S} {bytes : Bytes} {file : Path}
    (howned : phase.owned? = some named) (hname : isName named.name = true)
    (hbytes : folder.content? (fileName named.name) = some bytes)
    (hread : readBytes S file bytes = .ok found) : phase.full? = some named := by
  cases phase with
  | writing other rest =>
    cases howned
    obtain ⟨old, hold, hrest⟩ := h
    rw [hbytes] at hold
    cases hold
    cases rest with
    | nil => rfl
    | cons byte rest =>
      exact absurd hread (readBytes_ne_ok_of_part hname hrest (List.cons_ne_nil _ _) _ _)
  | stored other => exact howned
  | _ => cases howned

/-- Nobody is about to write to a file that is read as a wallet. -/
theorem Phase.Stands.not_writes {keystore : Keystore} {folder : Folder} {phase : Phase S}
    (h : phase.Stands keystore folder) {request : Request} (hisOf : phase.IsOf request)
    {file : String} {bytes : Bytes} (hbytes : folder.content? file = some bytes) {path : Path}
    {found : NamedWallet S} (hread : readBytes S path bytes = .ok found) : ¬ phase.Writes file := by
  intro hwrites
  cases phase with
  | writing other rest =>
    obtain ⟨hrest, rfl⟩ := hwrites
    obtain ⟨old, hold, hcontent⟩ := h
    rw [hbytes] at hold
    cases hold
    -- Something is left to be written, and a part of a wallet is not read as one.
    exact readBytes_ne_ok_of_part hisOf.isName hcontent hrest _ _ hread
  | _ => cases hwrites

/-! ### Turns -/

section Turns

variable {handle : Handler files σ} {keystore : Keystore} {fits : String → Prop}
  {v : DirectoryView σ}

/-- The name of the wallet that the phase is about. -/
def Phase.name? : Phase S → Option String
  | .checking named => some named.name
  | .making named => some named.name
  | .creating named => some named.name
  | .writing named _ => some named.name
  | .stored named => some named.name
  | .taken named => some named.name
  | .seeking name => some name
  | .reading name => some name
  | .missing name => some name
  | .read name _ => some name
  | .refused _ => none

/-- The next question of the phase, and the phase after its answer. -/
structure Turns (keystore : Keystore) (handle : Handler files σ) (v : DirectoryView σ) (state : σ)
    (phase next : Phase S) : Prop where
  asks : ∃ op reply, phase.activity keystore = .ask (I := files) op reply ∧
    reply (handle op state).1 = next.activity keystore ∧
    Moves keystore (v.folder state) phase next (v.folder (handle op state).2) ∧
    v.sound (handle op state).2

theorem turns_of_leads {phase next : Phase S} {state : σ} {op : Op} {answer : op.Answer}
    {after : Folder} (h : v.Leads handle op state answer after)
    {reply : op.Answer → Activity files (Result S)}
    (hphase : phase.activity keystore = .ask (I := files) op reply)
    (hnext : reply answer = next.activity keystore)
    (hmoves : Moves keystore (v.folder state) phase next after) :
    Turns keystore handle v state phase next := by
  refine ⟨op, reply, hphase, ?_, ?_, h.sound⟩
  · rw [h.answer_eq, hnext]
  · rw [h.folder_eq]
    exact hmoves

variable (hfs : Reliable handle keystore fits v)

include hfs

/-- **A call that has not ended makes one of its moves.** -/
theorem exists_turns {phase : Phase S} {state : σ} (h : v.sound state)
    (hfits : ∀ name, phase.name? = some name → fits name)
    (hstands : phase.Stands keystore (v.folder state)) :
    (∃ result, phase.activity keystore = .done result) ∨
      ∃ next, Turns keystore handle v state phase next := by
  cases phase with
  | checking named =>
    have hleads := hfs.file_exists h (hfits _ rfl)
    cases hcontent : (v.folder state).content? (fileName named.name) with
    | none =>
      rw [hcontent] at hleads
      exact .inr ⟨.making named, turns_of_leads hleads rfl rfl (.free hcontent)⟩
    | some old =>
      rw [hcontent] at hleads
      exact .inr ⟨.taken named, turns_of_leads hleads rfl rfl (.busy hcontent)⟩
  | making named =>
    exact .inr ⟨.creating named, turns_of_leads (hfs.make h) rfl rfl (.made named)⟩
  | creating named =>
    cases hcontent : (v.folder state).content? (fileName named.name) with
    | none =>
      have hleads := hfs.create_free h (hfits _ rfl) hstands hcontent
      exact .inr ⟨.writing named (contentOf named),
        turns_of_leads hleads rfl rfl (.won hcontent)⟩
    | some old =>
      have hleads := hfs.create_taken h (hfits _ rfl) hcontent
      exact .inr ⟨.taken named, turns_of_leads hleads rfl rfl (.lost hcontent)⟩
  | writing named rest =>
    obtain ⟨old, hold, -⟩ := hstands
    by_cases hne : rest = []
    · subst hne
      have hleads := hfs.sync h (hfits _ rfl) hold
      exact .inr ⟨.stored named,
        turns_of_leads hleads (writing_nil keystore named) rfl (.synced named)⟩
    · obtain ⟨taken, hpos, -, hleads⟩ := hfs.append h (hfits _ rfl) hold hne
      refine .inr ⟨.writing named (rest.drop taken),
        turns_of_leads hleads (writing_of_ne_nil keystore named hne) ?_ (.wrote hne hold hpos)⟩
      simp only [if_neg hpos.ne']
      rfl
  | seeking name =>
    have hleads := hfs.file_exists h (hfits _ rfl)
    cases hcontent : (v.folder state).content? (fileName name) with
    | none =>
      rw [hcontent] at hleads
      exact .inr ⟨.missing name, turns_of_leads hleads rfl rfl (.absent hcontent)⟩
    | some bytes =>
      rw [hcontent] at hleads
      exact .inr ⟨.reading name, turns_of_leads hleads rfl rfl (.found hcontent)⟩
  | reading name =>
    obtain ⟨bytes, hbytes⟩ := Option.isSome_iff_exists.1 hstands
    have hleads := hfs.read h (hfits _ rfl) hbytes
    exact .inr ⟨_, turns_of_leads hleads rfl rfl (.read hbytes)⟩
  | stored named => exact .inl ⟨_, rfl⟩
  | taken named => exact .inl ⟨_, rfl⟩
  | missing name => exact .inl ⟨_, rfl⟩
  | read name result => exact .inl ⟨_, rfl⟩
  | refused failure => exact .inl ⟨_, rfl⟩

end Turns

theorem Phase.IsOf.isWalletName {request : Request} {phase : Phase S} (h : phase.IsOf request)
    {name : String} (hname : phase.name? = some name) :
    name = request.name ∧ IsWalletName name := by
  have hstores {named : NamedWallet S} (h : request.Stores named) :
      named.name = request.name ∧ IsWalletName named.name :=
    ⟨h.name_eq, isName_iff.1 h.isName⟩
  have hlooks {name : String} (h : request = .get name ∧ isName name = true) :
      name = request.name ∧ IsWalletName name := ⟨by rw [h.1]; rfl, isName_iff.1 h.2⟩
  cases phase <;> cases hname <;> first | exact hstores h | exact hlooks h

/-! ### Ends -/

/-- The phases in which a call has ended, with its result. -/
inductive Phase.Ends (keystore : Keystore) : Phase S → Result S → Prop
  | stored (named : NamedWallet S) : Ends keystore (.stored named) (.ok named)
  | taken (named : NamedWallet S) :
      Ends keystore (.taken named) (.error (.alreadyExists named.name))
  | missing (name : String) :
      Ends keystore (.missing name) (.error (.notFound name keystore.directory))
  | read (name : String) (result : Result S) : Ends keystore (.read name result) result
  | refused (failure : Failure) : Ends keystore (.refused failure) (.error failure)

theorem Phase.ends_of_activity_eq_done {keystore : Keystore} {phase : Phase S} {result : Result S}
    (h : phase.activity keystore = .done result) : phase.Ends keystore result := by
  cases phase with
  | writing named rest =>
    rw [activity] at h
    by_cases hne : rest = []
    · subst hne
      rw [writing_nil] at h
      cases h
    · rw [writing_of_ne_nil keystore named hne] at h
      cases h
  | stored named => cases h; exact .stored named
  | taken named => cases h; exact .taken named
  | missing name => cases h; exact .missing name
  | read name result => cases h; exact .read name result
  | refused failure => cases h; exact .refused failure
  | checking named => cases h
  | making named => cases h
  | creating named => cases h
  | seeking name => cases h
  | reading name => cases h

/-- Who owns a file ends well. -/
theorem Phase.Ends.eq_ok {keystore : Keystore} {phase : Phase S} {result : Result S}
    (h : phase.Ends keystore result) {named : NamedWallet S} (howned : phase.owned? = some named) :
    result = .ok named := by
  cases h with
  | stored => cases howned; rfl
  | _ => cases howned

/-- A call with no turns left has ended. -/
theorem Phase.exists_done_of_left_eq_zero (keystore : Keystore) {phase : Phase S}
    (h : phase.left = 0) : ∃ result, phase.activity keystore = .done result := by
  cases phase with
  | checking | making | creating | writing | seeking | reading => cases h
  | stored | taken | missing | read | refused => exact ⟨_, rfl⟩

theorem Phase.left_eq_zero_of_done {keystore : Keystore} {phase : Phase S} {result : Result S}
    (h : phase.activity keystore = .done result) : phase.left = 0 := by
  cases ends_of_activity_eq_done h <;> rfl

/-- What a phase owes to the one from which the call came to it in some turns. -/
structure Phase.Leads (turns : Nat) (phase later : Phase S) : Prop where
  owned? : ∀ named, phase.owned? = some named → later.owned? = some named
  full? : ∀ named, phase.full? = some named → later.full? = some named
  left : later.left ≤ phase.left - turns

theorem Phase.Leads.refl (phase : Phase S) : phase.Leads 0 phase :=
  ⟨fun _ h => h, fun _ h => h, le_rfl⟩

/-- A call that has ended stays as it is. -/
theorem Phase.Leads.of_done {keystore : Keystore} {phase : Phase S} {result : Result S}
    (h : phase.activity keystore = .done result) (turns : Nat) : phase.Leads turns phase :=
  ⟨fun _ h => h, fun _ h => h, by rw [left_eq_zero_of_done h]; exact Nat.zero_le _⟩

theorem Moves.leads {keystore : Keystore} {folder after : Folder} {phase next : Phase S}
    (h : Moves keystore folder phase next after) : phase.Leads 1 next :=
  ⟨fun _ => h.owned?_after, fun _ => h.full?_after, Nat.le_sub_one_of_lt h.left_after⟩

theorem Phase.Leads.trans {first second : Nat} {phase later last : Phase S}
    (h : phase.Leads first later) (hlater : later.Leads second last) :
    phase.Leads (first + second) last where
  owned? named howned := hlater.owned? named (h.owned? named howned)
  full? named hfull := hlater.full? named (h.full? named hfull)
  left := by
    have hfirst := h.left
    have hsecond := hlater.left
    omega

/-! ### Starts -/

/-- The turns that a call takes at most: those for its bytes, if each is written by itself, and a
few more. -/
def Request.turns (S : Scheme) : Request → Nat
  | .create name secret createdAt =>
    (contentOf ⟨name, createdAt, Wallet.ofSecret S secret⟩).length + 4
  | .importSecret name secret createdAt =>
    match Wallet.ofHex S secret with
    | .ok wallet => (contentOf ⟨name, createdAt, wallet⟩).length + 4
    | .error _ => 0
  | .get _ => 2

theorem Request.Stores.turns_eq {request : Request} {named : NamedWallet S}
    (h : request.Stores named) : request.turns S = (contentOf named).length + 4 := by
  cases h with
  | create => rfl
  | importSecret hname hsecret createdAt =>
    rw [turns, ofHex_eq_ok_iff.2 ⟨_, hsecret, rfl⟩]

/-- The phase is one that the call can start in. -/
structure Phase.Starts (keystore : Keystore) (request : Request) (phase : Phase S) : Prop where
  run_eq : request.run S keystore = phase.activity keystore
  isOf : phase.IsOf request
  owned? : phase.owned? = none
  left_le : phase.left ≤ request.turns S
  stands : ∀ folder, phase.Stands keystore folder

theorem starts_refused {keystore : Keystore} {request : Request} {failure : Failure}
    (hrun : request.run S keystore = .done (.error failure))
    (h : ∀ named : NamedWallet S, ¬ request.Stores named) :
    (Phase.refused (S := S) failure).Starts keystore request :=
  ⟨hrun, h, rfl, Nat.zero_le _, fun _ => trivial⟩

theorem exists_starts (S : Scheme) (keystore : Keystore) (request : Request) :
    ∃ phase : Phase S, phase.Starts keystore request := by
  by_cases hstores : ∃ named : NamedWallet S, request.Stores named
  · obtain ⟨named, hstores⟩ := hstores
    exact ⟨.checking named, hstores.run_eq keystore, hstores, rfl, hstores.turns_eq.ge,
      fun _ => trivial⟩
  · rw [not_exists] at hstores
    cases request with
    | get name =>
      cases hname : isName name with
      | true => exact ⟨.seeking name, run_get keystore hname, ⟨rfl, hname⟩, rfl, le_rfl,
          fun _ => trivial⟩
      | false => exact ⟨_, starts_refused (run_get_of_not_isName keystore hname) hstores⟩
    | create name secret createdAt =>
      have hstore : (Request.create name secret createdAt).IsToStore := trivial
      obtain ⟨failure, hrun⟩ := Request.run_eq_of_forall_not_stores hstore hstores keystore
      exact ⟨_, starts_refused hrun hstores⟩
    | importSecret name secret createdAt =>
      have hstore : (Request.importSecret name secret createdAt).IsToStore := trivial
      obtain ⟨failure, hrun⟩ := Request.run_eq_of_forall_not_stores hstore hstores keystore
      exact ⟨_, starts_refused hrun hstores⟩

end Remit.Keystore
