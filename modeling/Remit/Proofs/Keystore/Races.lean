import Remit.Proofs.Keystore.OnDisk
import Remit.Proofs.Keystore.Phases
import Remit.Proofs.Wallet.Signing

/-!
# Keystores that race for a name

Any number of calls may use one keystore at the same time, and their steps may come in any order
(`Pool.play`). The check that a name is free says little then, because the file may be there by the
time it is to be made. What keeps wallets from being overwritten is that a file is made only where
none is: whoever makes it *owns* it, and nobody else ever writes to it.

`Standing` is the invariant: files that were there are untouched, every other file has one owner,
and what it holds is the part that its owner has written so far. Since such a part is not read as a
wallet unless it is all of it, whoever looks up a name gets a whole wallet or none.

`race_isSafe` draws the conclusions.
-/

namespace Remit

/-! ### Activities side by side -/

/-- Activities that take turns, and the state that they share. -/
structure Pool (I : Interface) (ι α σ : Type) where
  threads : ι → Activity I α
  state : σ

namespace Pool

variable {I : Interface} {ι α σ : Type} [DecidableEq ι]

/-- One step of one of the activities, unless it has ended. -/
def turn (handle : Handler I σ) (pool : Pool I ι α σ) (i : ι) : Pool I ι α σ :=
  match pool.threads i with
  | .done _ => pool
  | .ask op next =>
    ⟨Function.update pool.threads i (next (handle op pool.state).1), (handle op pool.state).2⟩

/-- One step for each entry of the schedule. -/
def play (handle : Handler I σ) (pool : Pool I ι α σ) (schedule : List ι) : Pool I ι α σ :=
  schedule.foldl (turn handle) pool

theorem play_append (handle : Handler I σ) (pool : Pool I ι α σ) (before after : List ι) :
    pool.play handle (before ++ after) = (pool.play handle before).play handle after :=
  List.foldl_append ..

theorem turn_of_done {handle : Handler I σ} {pool : Pool I ι α σ} {i : ι} {value : α}
    (h : pool.threads i = .done value) : pool.turn handle i = pool := by
  rw [turn, h]

theorem turn_of_ask {handle : Handler I σ} {pool : Pool I ι α σ} {i : ι} {op : I.Op}
    {next : I.Answer op → Activity I α} (h : pool.threads i = .ask op next) :
    pool.turn handle i =
      ⟨Function.update pool.threads i (next (handle op pool.state).1),
        (handle op pool.state).2⟩ := by
  rw [turn, h]

end Pool

namespace Keystore

open FileSystem

variable {S : Scheme} {σ ι : Type}

/-! ### The invariant -/

/-- What holds of the directory and of all calls at every moment; `start` is the directory before
the calls. -/
structure Standing (keystore : Keystore) (requests : ι → Request) (start : Folder)
    (phases : ι → Phase S) (folder : Folder) : Prop where
  isOf : ∀ i, (phases i).IsOf (requests i)
  /-- No file that was there has changed. -/
  kept : ∀ file bytes, start.content? file = some bytes → folder.content? file = some bytes
  /-- Every other file belongs to a call. -/
  owned : ∀ file, start.content? file = none → (folder.content? file).isSome = true →
    ∃ i, (phases i).Owns file
  /-- Calls own files only that were not there. -/
  fresh : ∀ i file, (phases i).Owns file → start.content? file = none
  /-- No two calls own one file. -/
  single : ∀ i j file, (phases i).Owns file → (phases j).Owns file → i = j
  stands : ∀ i, (phases i).Stands keystore folder

section Preserved

variable {keystore : Keystore} {requests : ι → Request} {start folder after : Folder}
  {phases : ι → Phase S} {i : ι} {next : Phase S}

/-- A file that nobody but the call at hand is writing to stays as it is. -/
theorem Standing.content?_after (h : Standing keystore requests start phases folder)
    (hmoves : Moves keystore folder (phases i) next after) {file : String} {bytes : Bytes}
    (hbytes : folder.content? file = some bytes)
    (hother : start.content? file = some bytes ∨ ∃ j, j ≠ i ∧ (phases j).Owns file) :
    after.content? file = some bytes := by
  refine hmoves.content?_after hbytes fun hwrites => ?_
  have howns : (phases i).Owns file := hwrites.exists_owned?
  rcases hother with hstart | ⟨j, hne, hj⟩
  · rw [h.fresh i file howns] at hstart
    cases hstart
  · exact hne (h.single j i file hj howns)

/-- What another call knows of the directory goes on to hold. -/
theorem Standing.stands_other (h : Standing keystore requests start phases folder)
    (hmoves : Moves keystore folder (phases i) next after) {j : ι} (hne : j ≠ i) :
    (phases j).Stands keystore after := by
  have hstands := h.stands j
  cases hphase : phases j with
  | creating named =>
    rw [hphase] at hstands
    exact hmoves.isThere_after hstands
  | writing named rest =>
    rw [hphase] at hstands
    obtain ⟨old, hold, hrest⟩ := hstands
    have howns : (phases j).Owns (fileName named.name) := ⟨named, by rw [hphase]; rfl, rfl⟩
    exact ⟨old, h.content?_after hmoves hold (.inr ⟨j, hne, howns⟩), hrest⟩
  | stored named =>
    rw [hphase] at hstands
    have howns : (phases j).Owns (fileName named.name) := ⟨named, by rw [hphase]; rfl, rfl⟩
    exact h.content?_after hmoves hstands (.inr ⟨j, hne, howns⟩)
  | reading name =>
    rw [hphase] at hstands
    exact hmoves.isSome_after hstands
  | read name result =>
    cases result with
    | error failure => trivial
    | ok named =>
      rw [hphase] at hstands
      obtain ⟨bytes, hbytes, hread⟩ := hstands
      have hidle : ¬ (phases i).Writes (fileName name) :=
        (h.stands i).not_writes (h.isOf i) hbytes hread
      exact ⟨bytes, hmoves.content?_after hbytes hidle, hread⟩
  | _ => trivial

theorem Standing.content?_ne_none (h : Standing keystore requests start phases folder) {j : ι}
    {file : String} (howns : (phases j).Owns file) : folder.content? file ≠ none := by
  obtain ⟨named, howned, rfl⟩ := howns
  obtain ⟨written, rest, hwritten, -⟩ := (h.stands j).exists_part howned
  rw [hwritten]
  exact Option.some_ne_none _

theorem Standing.start_eq_none (h : Standing keystore requests start phases folder) {file : String}
    (hnone : folder.content? file = none) : start.content? file = none := by
  rw [Option.eq_none_iff_forall_ne_some]
  intro bytes hstart
  rw [h.kept file bytes hstart] at hnone
  cases hnone

variable [DecidableEq ι]

theorem Moves.owns_after (hmoves : Moves keystore folder (phases i) next after) {j : ι}
    {file : String} (howns : (phases j).Owns file) :
    (Function.update phases i next j).Owns file := by
  by_cases hj : j = i
  · subst hj
    obtain ⟨named, howned, hfile⟩ := howns
    rw [Function.update_self]
    exact ⟨named, hmoves.owned?_after howned, hfile⟩
  · rw [Function.update_of_ne hj]
    exact howns

/-- Who owns a file after the step owned it before, or has just made it where none was. -/
theorem Moves.owns_before (hmoves : Moves keystore folder (phases i) next after) {j : ι}
    {file : String} (howns : (Function.update phases i next j).Owns file) :
    (phases j).Owns file ∨ j = i ∧ folder.content? file = none := by
  by_cases hj : j = i
  · subst hj
    rw [Function.update_self] at howns
    obtain ⟨named, howned, rfl⟩ := howns
    rcases hmoves.owned?_before howned with hbefore | hnone
    · exact .inl ⟨named, hbefore, rfl⟩
    · exact .inr ⟨rfl, hnone⟩
  · rw [Function.update_of_ne hj] at howns
    exact .inl howns

/-- **The invariant is preserved** by every step of every call. -/
theorem Standing.moves (h : Standing keystore requests start phases folder)
    (hmoves : Moves keystore folder (phases i) next after) :
    Standing keystore requests start (Function.update phases i next) after where
  isOf := (Function.forall_update_iff phases fun j phase => phase.IsOf (requests j)).2
    ⟨isOf_of_moves hmoves (h.isOf i), fun j _ => h.isOf j⟩
  kept file bytes hstart := h.content?_after hmoves (h.kept file bytes hstart) (.inl hstart)
  owned file hstart hsome := by
    cases hbefore : folder.content? file with
    | none =>
      obtain ⟨named, howned, hfile⟩ := hmoves.exists_owned?_of_new hbefore hsome
      refine ⟨i, named, ?_, hfile⟩
      rw [Function.update_self, howned]
    | some bytes =>
      obtain ⟨j, howns⟩ := h.owned file hstart (by rw [hbefore]; rfl)
      exact ⟨j, hmoves.owns_after howns⟩
  fresh j file howns := by
    rcases hmoves.owns_before howns with hbefore | ⟨-, hnone⟩
    · exact h.fresh j file hbefore
    · exact h.start_eq_none hnone
  single j k file hj hk := by
    -- Only the call at hand can be a new owner, and only of a file that nobody owned before.
    rcases hmoves.owns_before hj with hj' | ⟨hji, hnone⟩
    · rcases hmoves.owns_before hk with hk' | ⟨-, hnone⟩
      · exact h.single j k file hj' hk'
      · exact absurd hnone (h.content?_ne_none hj')
    · rcases hmoves.owns_before hk with hk' | ⟨hki, -⟩
      · exact absurd hnone (h.content?_ne_none hk')
      · exact hji.trans hki.symm
  stands := (Function.forall_update_iff phases fun _ phase => phase.Stands keystore after).2
    ⟨hmoves.stands_after (h.stands i), fun _ hj => h.stands_other hmoves hj⟩

end Preserved

/-! ### All turns -/

/-- What is known at every moment while the calls are under way. -/
structure Underway (keystore : Keystore) (v : DirectoryView σ) (requests : ι → Request)
    (start : Folder) (pool : Pool files ι (Result S) σ) (phases : ι → Phase S) : Prop where
  sound : v.sound pool.state
  threads : ∀ i, pool.threads i = (phases i).activity keystore
  standing : Standing keystore requests start phases (v.folder pool.state)

section AllTurns

variable [DecidableEq ι] {handle : Handler files σ} {keystore : Keystore} {fits : String → Prop}
  {v : DirectoryView σ} {requests : ι → Request} {start : Folder}
  {pool : Pool files ι (Result S) σ} {phases : ι → Phase S}

variable (hfs : Reliable handle keystore fits v)
  (hfits : ∀ i, IsWalletName (requests i).name → fits (requests i).name)

include hfs hfits

/-- **One turn** keeps what is known. A call that owns no file after it has changed none. -/
theorem Underway.exists_turn (h : Underway keystore v requests start pool phases) (i : ι) :
    ∃ after, Underway keystore v requests start (pool.turn handle i) after ∧
      (∀ j, (phases j).Leads ([i].count j) (after j)) ∧
      ((after i).owned? = none → ∀ file, (v.folder (pool.turn handle i).state).content? file =
        (v.folder pool.state).content? file) := by
  have hroom : ∀ name, (phases i).name? = some name → fits name := by
    intro name hname
    obtain ⟨rfl, hvalid⟩ := (h.standing.isOf i).isWalletName hname
    exact hfits i hvalid
  have hother (j : ι) (hj : j ≠ i) : (phases j).Leads ([i].count j) (phases j) := by
    rw [List.count_eq_zero.2 (mt List.mem_singleton.1 hj)]
    exact .refl _
  rcases exists_turns hfs h.sound hroom (h.standing.stands i) with
    ⟨result, hdone⟩ | ⟨next, op, reply, hasks, hreply, hmoves, hsound⟩
  · rw [Pool.turn_of_done ((h.threads i).trans hdone)]
    refine ⟨phases, h, fun j => ?_, fun _ _ => rfl⟩
    by_cases hj : j = i
    · subst hj
      exact .of_done hdone _
    · exact hother j hj
  · rw [Pool.turn_of_ask ((h.threads i).trans hasks)]
    refine ⟨Function.update phases i next, ⟨hsound, fun j => ?_, h.standing.moves hmoves⟩, ?_,
      fun hnone => ?_⟩
    · have hthreads : pool.threads = fun j => (phases j).activity keystore := funext h.threads
      dsimp only
      rw [hthreads, hreply, Function.apply_update fun _ (phase : Phase S) =>
        phase.activity keystore]
    · rw [Function.forall_update_iff phases fun j phase => (phases j).Leads ([i].count j) phase,
        List.count_singleton_self]
      exact ⟨hmoves.leads, hother⟩
    · rw [Function.update_self] at hnone
      exact hmoves.content?_eq_of_owned?_eq_none hnone

/-- **Any schedule** keeps what is known. The induction is over the schedule. -/
theorem Underway.exists_play (h : Underway keystore v requests start pool phases)
    (schedule : List ι) :
    ∃ after, Underway keystore v requests start (pool.play handle schedule) after ∧
      ∀ j, (phases j).Leads (schedule.count j) (after j) := by
  induction schedule generalizing pool phases with
  | nil => exact ⟨phases, h, fun j => .refl _⟩
  | cons i rest ih =>
    obtain ⟨between, hbetween, hturn, -⟩ := h.exists_turn hfs hfits i
    obtain ⟨after, hafter, hrest⟩ := ih hbetween
    refine ⟨after, hafter, fun j => ?_⟩
    rw [← List.singleton_append, List.count_append]
    exact (hturn j).trans (hrest j)

end AllTurns

/-! ### Calls that race -/

/-- The calls are all made at once, and their steps come in the order of the schedule. -/
def race [DecidableEq ι] (S : Scheme) (handle : Handler files σ) (keystore : Keystore)
    (requests : ι → Request) (state : σ) (schedule : List ι) : Pool files ι (Result S) σ :=
  Pool.play handle ⟨fun i => (requests i).run S keystore, state⟩ schedule

theorem exists_underway (S : Scheme) (keystore : Keystore) {v : DirectoryView σ}
    (requests : ι → Request) {state : σ} (h : v.sound state) :
    ∃ phases : ι → Phase S, Underway keystore v requests (v.folder state)
      ⟨fun i => (requests i).run S keystore, state⟩ phases ∧
      ∀ i, (phases i).left ≤ (requests i).turns S := by
  choose phases hstarts using fun i => exists_starts S keystore (requests i)
  have hnone (i : ι) (file : String) : ¬ (phases i).Owns file := by
    rintro ⟨named, hsome, -⟩
    rw [(hstarts i).owned?] at hsome
    cases hsome
  refine ⟨phases, ⟨h, fun i => (hstarts i).run_eq, fun i => (hstarts i).isOf,
    fun _ _ hstart => hstart, fun file hstart hsome => ?_,
    fun i file howns => absurd howns (hnone i file),
    fun i j file howns => absurd howns (hnone i file), fun i => (hstarts i).stands _⟩,
    fun i => (hstarts i).left_le⟩
  rw [hstart] at hsome
  cases hsome

/-- What may be relied on while calls race, at any moment of it. -/
structure IsSafe [DecidableEq ι] (S : Scheme) (handle : Handler files σ) (v : DirectoryView σ)
    (keystore : Keystore) (requests : ι → Request) (state : σ) (schedule : List ι) : Prop where
  /-- Every call that has had its turns has ended. -/
  ends : ∀ i, (requests i).turns S ≤ schedule.count i →
    ∃ result, (race S handle keystore requests state schedule).threads i = .done result
  /-- No file that was there before has changed. -/
  untouched : ∀ file bytes, (v.folder state).content? file = some bytes →
    (v.folder (race S handle keystore requests state schedule).state).content? file = some bytes
  /-- No two calls have stored a wallet under one name. -/
  one_winner : ∀ i j (a b : NamedWallet S),
    (requests i).IsToStore → (requests j).IsToStore → (requests i).name = (requests j).name →
    (race S handle keystore requests state schedule).threads i = .done (.ok a) →
    (race S handle keystore requests state schedule).threads j = .done (.ok b) → i = j
  /-- A call that has stored a wallet has stored the one that it was to store, and its file holds
  all of it from then on. -/
  winner_stays : ∀ i (named : NamedWallet S), (requests i).IsToStore →
    (race S handle keystore requests state schedule).threads i = .done (.ok named) →
    (requests i).Stores named ∧ ∀ more,
      (v.folder (race S handle keystore requests state (schedule ++ more)).state).content?
        (fileName named.name) = some (contentOf named)
  /-- A call that could have stored a wallet and has not says that there is one already, and no step
  that it took has changed a file. -/
  loser_harmless : ∀ i (named : NamedWallet S) failure, (requests i).Stores named →
    (race S handle keystore requests state schedule).threads i = .done (.error failure) →
    failure = .alreadyExists named.name ∧ ∀ before after, schedule = before ++ i :: after →
      ∀ file,
        (v.folder (race S handle keystore requests state (before ++ [i])).state).content? file =
          (v.folder (race S handle keystore requests state before).state).content? file
  /-- A call that has looked up a wallet has it from a file that was there before, or else it has
  the whole wallet of a call to which the file belongs: that call ends well, and no other call ever
  stores one under the name. -/
  found_whole : ∀ i name (named : NamedWallet S), requests i = .get name →
    (race S handle keystore requests state schedule).threads i = .done (.ok named) →
    (∃ bytes, (v.folder state).content? (fileName name) = some bytes ∧
      readBytes S (keystore.fileFor name) bytes = .ok named) ∨
    ∃ j original, (requests j).Stores original ∧ original.name = name ∧ named.name = name ∧
      named.wallet = original.wallet ∧
      Rfc3339.parse (Rfc3339.formatZulu original.createdAt) = .ok named.createdAt ∧
      (v.folder state).content? (fileName name) = none ∧
      ∀ more, (v.folder (race S handle keystore requests state (schedule ++ more)).state).content?
          (fileName name) = some (contentOf original) ∧
        (∀ result, (race S handle keystore requests state (schedule ++ more)).threads j =
          .done result → result = .ok original) ∧
        ∀ k other, (requests k).IsToStore → (requests k).name = name →
          (race S handle keystore requests state (schedule ++ more)).threads k =
            .done (.ok other) → k = j

/-! ### Conclusions -/

section Ended

variable {keystore : Keystore} {v : DirectoryView σ} {requests : ι → Request} {start : Folder}
  {pool : Pool files ι (Result S) σ} {phases : ι → Phase S}
  (h : Underway keystore v requests start pool phases) {i : ι}

include h

theorem Underway.ends {result : Result S} (hdone : pool.threads i = .done result) :
    (phases i).Ends keystore result :=
  Phase.ends_of_activity_eq_done ((h.threads i).symm.trans hdone)

theorem Underway.eq_stored {named : NamedWallet S} (hstore : (requests i).IsToStore)
    (hdone : pool.threads i = .done (.ok named)) : phases i = .stored named := by
  have hends := h.ends hdone
  have hisOf := h.standing.isOf i
  generalize phases i = phase at hends hisOf
  cases hends with
  | stored => rfl
  | read name =>
    rw [hisOf.1] at hstore
    cases hstore

theorem Underway.exists_eq_taken {named : NamedWallet S} {failure : Failure}
    (hstores : (requests i).Stores named) (hdone : pool.threads i = .done (.error failure)) :
    ∃ other : NamedWallet S, phases i = .taken other ∧ failure = .alreadyExists named.name := by
  have hends := h.ends hdone
  have hisOf := h.standing.isOf i
  have hstore := hstores.isToStore
  generalize phases i = phase at hends hisOf
  cases hends with
  | taken other =>
    have hother : (requests i).Stores other := hisOf
    exact ⟨other, rfl, by rw [hother.name_eq, hstores.name_eq]⟩
  | missing name =>
    rw [hisOf.1] at hstore
    cases hstore
  | read name =>
    rw [hisOf.1] at hstore
    cases hstore
  | refused => exact absurd hstores (hisOf named)

theorem Underway.eq_read {name : String} {named : NamedWallet S} (hget : requests i = .get name)
    (hdone : pool.threads i = .done (.ok named)) : phases i = .read name (.ok named) := by
  have hends := h.ends hdone
  have hisOf := h.standing.isOf i
  rw [hget] at hisOf
  generalize phases i = phase at hends hisOf
  cases hends with
  | stored =>
    have hstores : Request.Stores (.get name) named := hisOf
    cases hstores
  | read other =>
    have hname := hisOf.1
    cases hname
    rfl

/-- What has been read and was not there before is all of what some call had to store. -/
theorem Underway.exists_full {name : String} {named : NamedWallet S} {bytes : Bytes}
    (hbytes : (v.folder pool.state).content? (fileName name) = some bytes)
    (hread : readBytes S (keystore.fileFor name) bytes = .ok named)
    (hstart : start.content? (fileName name) = none) :
    ∃ j original, (phases j).full? = some original ∧ (requests j).Stores original ∧
      original.name = name ∧ bytes = contentOf original := by
  obtain ⟨j, original, howned, hfile⟩ := h.standing.owned _ hstart (by rw [hbytes]; rfl)
  obtain rfl := fileName_inj.1 hfile
  have hstores := (h.standing.isOf j).stores howned
  have hstands := h.standing.stands j
  have hfull := hstands.full?_of_readBytes howned hstores.isName hbytes hread
  refine ⟨j, original, hfull, hstores, rfl, ?_⟩
  rw [hstands.content?_eq hfull] at hbytes
  exact (Option.some.inj hbytes).symm

/-- Whoever has stored a wallet under a name owns the file. -/
theorem Underway.eq_of_stored {j k : ι} {original other : NamedWallet S}
    (howned : (phases j).owned? = some original) (hstore : (requests k).IsToStore)
    (hname : (requests k).name = original.name)
    (hdone : pool.threads k = .done (.ok other)) : k = j := by
  have hstored := h.eq_stored hstore hdone
  have hother : (phases k).owned? = some other := by rw [hstored, Phase.owned?]
  have hfile : fileName other.name = fileName original.name := by
    rw [((h.standing.isOf k).stores hother).name_eq, hname]
  exact h.standing.single k j _ ⟨other, hother, hfile⟩ ⟨original, howned, rfl⟩

end Ended

section Safe

variable [DecidableEq ι] {handle : Handler files σ} {keystore : Keystore} {fits : String → Prop}
  {v : DirectoryView σ} {requests : ι → Request} {state : σ}
  (hfs : Reliable handle keystore fits v)
  (hfits : ∀ i, IsWalletName (requests i).name → fits (requests i).name) (h : v.sound state)

include hfs hfits h

theorem exists_underway_race (S : Scheme) (schedule : List ι) :
    ∃ phases : ι → Phase S, Underway keystore v requests (v.folder state)
      (race S handle keystore requests state schedule) phases ∧
      ∀ i, (phases i).left ≤ (requests i).turns S - schedule.count i := by
  obtain ⟨first, hfirst, hturns⟩ := exists_underway S keystore requests h
  obtain ⟨phases, hphases, hleads⟩ := hfirst.exists_play hfs hfits schedule
  exact ⟨phases, hphases, fun i => (hleads i).left.trans (Nat.sub_le_sub_right (hturns i) _)⟩

omit h in
theorem Underway.exists_later {schedule : List ι} {phases : ι → Phase S}
    (hphases : Underway keystore v requests (v.folder state)
      (race S handle keystore requests state schedule) phases) (more : List ι) :
    ∃ later, Underway keystore v requests (v.folder state)
        (race S handle keystore requests state (schedule ++ more)) later ∧
      ∀ i, (phases i).Leads (more.count i) (later i) := by
  unfold race at hphases ⊢
  rw [Pool.play_append]
  exact hphases.exists_play hfs hfits more

omit h in
/-- What has been written in full is there from then on. -/
theorem Underway.content?_later {schedule : List ι} {phases : ι → Phase S}
    (hphases : Underway keystore v requests (v.folder state)
      (race S handle keystore requests state schedule) phases) {i : ι} {named : NamedWallet S}
    (hfull : (phases i).full? = some named) (more : List ι) :
    (v.folder (race S handle keystore requests state (schedule ++ more)).state).content?
      (fileName named.name) = some (contentOf named) := by
  obtain ⟨later, hlater, hleads⟩ := hphases.exists_later hfs hfits more
  exact (hlater.standing.stands i).content?_eq ((hleads i).full? named hfull)

/-- A call that has lost has changed no file with any of its turns. -/
theorem content?_of_lost {before after : List ι} {i : ι} {named : NamedWallet S}
    {failure : Failure} (hstores : (requests i).Stores named)
    (hdone : (race S handle keystore requests state (before ++ i :: after)).threads i =
      .done (.error failure)) (file : String) :
    (v.folder (race S handle keystore requests state (before ++ [i])).state).content? file =
      (v.folder (race S handle keystore requests state before).state).content? file := by
  obtain ⟨phases, hphases, -⟩ := exists_underway_race hfs hfits h S before
  obtain ⟨next, hnext, -, hsame⟩ := hphases.exists_turn hfs hfits i
  have hturn : race S handle keystore requests state (before ++ [i]) =
      (race S handle keystore requests state before).turn handle i :=
    Pool.play_append ..
  rw [hturn]
  cases howned : (next i).owned? with
  | none => exact hsame howned file
  | some mine =>
    -- Who owns a file owns it in the end, and who has lost owns none.
    rw [← hturn] at hnext
    obtain ⟨last, hlast, hleads⟩ := hnext.exists_later hfs hfits after
    rw [List.append_assoc, List.singleton_append] at hlast
    obtain ⟨other, hlost, -⟩ := hlast.exists_eq_taken hstores hdone
    have hmine := (hleads i).owned? mine howned
    rw [hlost] at hmine
    cases hmine

/-- **Calls that race are safe.** Whatever calls are made at once, whatever the order of their steps
and wherever one stops: every call ends in its turns, files that were there are untouched, each name
has one winner at most, whose wallet stays, losers change nothing, and whoever looks up a wallet
gets a whole one. -/
theorem race_isSafe (S : Scheme) (schedule : List ι) :
    IsSafe S handle v keystore requests state schedule := by
  obtain ⟨phases, hphases, hleft⟩ := exists_underway_race hfs hfits h S schedule
  constructor
  case ends =>
    intro i hturns
    have hzero : (phases i).left = 0 := by
      have := hleft i
      omega
    obtain ⟨result, hdone⟩ := Phase.exists_done_of_left_eq_zero keystore hzero
    exact ⟨result, (hphases.threads i).trans hdone⟩
  case untouched => exact hphases.standing.kept
  case one_winner =>
    intro i j a b hi hj hname hdonei hdonej
    have hstored := hphases.eq_stored hj hdonej
    have howned : (phases j).owned? = some b := by rw [hstored, Phase.owned?]
    have hb := ((hphases.standing.isOf j).stores howned).name_eq
    exact hphases.eq_of_stored howned hi (hname.trans hb.symm) hdonei
  case winner_stays =>
    intro i named hi hdone
    have hstored := hphases.eq_stored hi hdone
    have hfull : (phases i).full? = some named := by rw [hstored, Phase.full?]
    exact ⟨(hphases.standing.isOf i).stores (Phase.owned?_of_full? hfull),
      hphases.content?_later hfs hfits hfull⟩
  case loser_harmless =>
    intro i named failure hstores hdone
    obtain ⟨other, -, hfailure⟩ := hphases.exists_eq_taken hstores hdone
    refine ⟨hfailure, ?_⟩
    rintro before after rfl file
    exact content?_of_lost hfs hfits h hstores hdone file
  case found_whole =>
    intro i name named hget hdone
    have hstands := hphases.standing.stands i
    rw [hphases.eq_read hget hdone] at hstands
    obtain ⟨bytes, hbytes, hread⟩ := hstands
    cases hstart : (v.folder state).content? (fileName name) with
    | some old =>
      have hkept := hphases.standing.kept _ _ hstart
      rw [hbytes] at hkept
      exact .inl ⟨bytes, hkept.symm, hread⟩
    | none =>
      obtain ⟨j, original, hfull, hstores, rfl, rfl⟩ := hphases.exists_full hbytes hread hstart
      obtain ⟨hname, hwallet, htime⟩ := eq_of_readBytes_contentOf hread
      refine .inr ⟨j, original, hstores, rfl, hname, hwallet, htime, rfl, fun more => ?_⟩
      obtain ⟨later, hlater, hleads⟩ := hphases.exists_later hfs hfits more
      have howned := Phase.owned?_of_full? ((hleads j).full? original hfull)
      exact ⟨hphases.content?_later hfs hfits hfull more,
        fun result hdonej => (hlater.ends hdonej).eq_ok howned,
        fun k other hstore hk hdonek => hlater.eq_of_stored howned hstore hk hdonek⟩

end Safe

/-- Two wallets are to be stored under one name while somebody looks it up. -/
def rivals : Fin 3 → Request
  | 0 => .create "alice" Wallet.sampleSecret ⟨1700000000, 0⟩
  | 1 => .importSecret "alice" (String.ofList (List.replicate 64 'a')) ⟨1700000001, 500⟩
  | 2 => .get "alice"

theorem race_isSafe_rivals :
    IsSafe Wallet.sampleScheme Disk.handle Disk.walletsSite.view Disk.walletsSite.keystore rivals
      Disk.empty [0, 1, 0, 1, 0, 2, 1, 2, 0, 0] := by
  refine race_isSafe (Disk.Site.reliable_disk Disk.walletsSite) (fun i _ => ?_)
    Disk.isSound_empty Wallet.sampleScheme _
  have hname : (rivals i).name = "alice" := by
    fin_cases i <;> rfl
  rw [hname]
  exact ⟨by decide +kernel, by decide +kernel⟩

example : (race Wallet.sampleScheme Disk.handle Disk.walletsSite.keystore rivals Disk.empty
    [0, 1, 0, 1, 0, 1]).threads 1 = .done (.error (.alreadyExists "alice")) := by
  rfl

end Keystore

end Remit
