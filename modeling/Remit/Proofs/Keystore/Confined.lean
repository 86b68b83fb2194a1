import Remit.Proofs.FileSystem.Places

/-!
# What a keystore touches

The name of a wallet becomes a part of a path, and anybody may choose it. A name that no wallet may
have is refused before any file is looked at; for every other name the keystore takes steps on its
directory and on one file in it (`IsStepFor`), whatever the file system answers. On a disk, whatever
fails, only the directory, those above it and this file may be different afterwards.

* `locate_fileFor`: the path of a file leads nowhere but one name further than the directory;
* `Request.run_eq_done_iff`: which requests are refused without a step;
* `requests_confined`: what is touched by requests and by listings.
-/

namespace Remit.Keystore

open FileSystem Activity Disk

variable {S : Scheme} {keystore : Keystore}

/-! ### Where the files are -/

/-- The path of a file leads one name further than the directory. -/
theorem locate_fileFor {disk : Disk} {name : String} {place : Place}
    (h : disk.locate (keystore.fileFor name) = .ok place) :
    ∃ home, disk.walk [] keystore.directory.parts = .ok home ∧
      disk.find? home = some .directory ∧ place = home ++ [fileName name] := by
  have hname := isName_fileName name
  obtain ⟨-, h⟩ := locate_eq_ok_iff.1 h
  unfold fileFor Path.child at h
  split at h
  · -- The path of the directory ends in a slash, behind which nothing moves.
    rename_i hslash
    obtain ⟨front, hfront⟩ : ∃ front, keystore.directory.parts = front ++ [""] :=
      List.getLast?_eq_some_iff.1 (beq_iff_eq.1 hslash)
    rw [hfront, List.dropLast_concat] at h
    obtain ⟨home, hwalk, hmove⟩ := walk_concat_eq_ok_iff.1 h
    have hhome := find?_of_move hmove
    have hstay : disk.move home "" = .ok home := by
      rw [move, hhome]
      rfl
    refine ⟨home, ?_, hhome, eq_concat_of_move hname hmove⟩
    rw [hfront]
    exact walk_concat_eq_ok_iff.2 ⟨home, hwalk, hstay⟩
  · obtain ⟨home, hwalk, hmove⟩ := walk_concat_eq_ok_iff.1 h
    exact ⟨home, hwalk, find?_of_move hmove, eq_concat_of_move hname hmove⟩

/-- Files of different names are at different places. -/
theorem name_eq_of_locate {disk : Disk} {a b : String} {place : Place}
    (ha : disk.locate (keystore.fileFor a) = .ok place)
    (hb : disk.locate (keystore.fileFor b) = .ok place) : a = b := by
  obtain ⟨home, -, -, rfl⟩ := locate_fileFor ha
  obtain ⟨home', -, -, heq⟩ := locate_fileFor hb
  obtain ⟨-, hname⟩ := List.append_inj' heq rfl
  exact fileName_inj.1 (List.singleton_inj.1 hname)

/-! ### Steps for one wallet -/

/-- **A step that is taken for the wallet of a name**: the directory is made, or something is done
with the file. -/
inductive IsStepFor (keystore : Keystore) (name : String) : Op → Prop
  | make : IsStepFor keystore name (.makeDirectories keystore.directory)
  | look : IsStepFor keystore name (.exists (keystore.fileFor name))
  | create (mode : UInt32) : IsStepFor keystore name (.createNew (keystore.fileFor name) mode)
  | append (bytes : Bytes) : IsStepFor keystore name (.append (keystore.fileFor name) bytes)
  | sync : IsStepFor keystore name (.sync (keystore.fileFor name))
  | read : IsStepFor keystore name (.read (keystore.fileFor name))

/-- A step that is taken to look up the wallet of a name. -/
inductive IsLookFor (keystore : Keystore) (name : String) : Op → Prop
  | look : IsLookFor keystore name (.exists (keystore.fileFor name))
  | read : IsLookFor keystore name (.read (keystore.fileFor name))

theorem IsLookFor.isStepFor {name : String} {op : Op} (h : keystore.IsLookFor name op) :
    keystore.IsStepFor name op := by
  cases h with
  | look => exact .look
  | read => exact .read

theorem IsLookFor.isLook {name : String} {op : Op} (h : keystore.IsLookFor name op) :
    op.IsLook := by
  cases h with
  | look => trivial
  | read => trivial

section Asks

variable (keystore) (named : NamedWallet S)

theorem asks_syncing : (syncing keystore named).Asks (keystore.IsStepFor named.name) := by
  refine ⟨.sync, fun answer => ?_⟩
  cases answer with
  | error cause => trivial
  | ok => trivial

/-- The induction is over the number of bytes that are left. -/
theorem asks_writing (rest : Bytes) :
    (writing keystore named rest).Asks (keystore.IsStepFor named.name) := by
  induction hcount : rest.length using Nat.strong_induction_on generalizing rest with
  | _ count ih =>
  by_cases hnil : rest = []
  · rw [hnil, writing_nil]
    exact asks_syncing keystore named
  rw [writing_of_ne_nil keystore named hnil]
  refine ⟨.append rest, fun answer => ?_⟩
  cases answer with
  | error cause => trivial
  | ok taken =>
    by_cases hzero : taken = 0
    · simp only [if_pos hzero]
      trivial
    · simp only [if_neg hzero]
      have hpos := List.length_pos_iff.2 hnil
      refine ih _ ?_ _ rfl
      rw [List.length_drop]
      omega

theorem asks_creating : (creating keystore named).Asks (keystore.IsStepFor named.name) := by
  refine ⟨.create _, fun answer => ?_⟩
  cases answer with
  | error cause => trivial
  | ok => exact asks_writing keystore named _

theorem asks_making : (making keystore named).Asks (keystore.IsStepFor named.name) := by
  refine ⟨.make, fun answer => ?_⟩
  cases answer with
  | error cause => trivial
  | ok => exact asks_creating keystore named

theorem asks_checking : (checking keystore named).Asks (keystore.IsStepFor named.name) := by
  refine ⟨.look, fun isTaken => ?_⟩
  cases isTaken with
  | true => trivial
  | false => exact asks_making keystore named

theorem asks_seeking (S : Scheme) (name : String) :
    (seeking keystore S name).Asks (keystore.IsLookFor name) := by
  refine ⟨.look, fun isThere => ?_⟩
  cases isThere with
  | false => trivial
  | true =>
    refine ⟨.read, fun answer => ?_⟩
    cases answer with
    | error cause => trivial
    | ok bytes => trivial

end Asks

/-! ### Requests -/

namespace Request

/-- **The request is one that the keystore goes into**: the name is one that a wallet may have, and
a secret that is given is hexadecimal and has 32 bytes. -/
def IsAccepted : Request → Prop
  | create name _ _ => IsWalletName name
  | importSecret name text _ =>
    IsWalletName name ∧ ∃ secret : FixedBytes 32, Hex.Denotes text secret.toList
  | get name => IsWalletName name

theorem Stores.isAccepted {request : Request} {named : NamedWallet S}
    (h : request.Stores named) : request.IsAccepted := by
  cases h with
  | create hname secret createdAt => exact hname
  | importSecret hname hsecret createdAt => exact ⟨hname, _, hsecret⟩

/-- What the keystore does for a request that it goes into. -/
theorem run_of_isAccepted (S : Scheme) (keystore : Keystore) {request : Request}
    (h : request.IsAccepted) :
    (∃ named : NamedWallet S, request.Stores named ∧
      request.run S keystore = checking keystore named) ∨
    request = .get request.name ∧ request.run S keystore = seeking keystore S request.name := by
  cases request with
  | create name secret createdAt =>
    have hstores : Stores (S := S) (.create name secret createdAt) _ := .create h secret createdAt
    exact .inl ⟨_, hstores, hstores.run_eq keystore⟩
  | importSecret name text createdAt =>
    obtain ⟨hname, secret, hsecret⟩ := h
    have hstores : Stores (S := S) (.importSecret name text createdAt) _ :=
      .importSecret hname hsecret createdAt
    exact .inl ⟨_, hstores, hstores.run_eq keystore⟩
  | get name => exact .inr ⟨rfl, run_get keystore (isName_iff.2 h)⟩

/-- All others are refused without a step. -/
theorem run_of_not_isAccepted (S : Scheme) (keystore : Keystore) {request : Request}
    (h : ¬ request.IsAccepted) : ∃ failure, request.run S keystore = .done (.error failure) := by
  have hnone (named : NamedWallet S) : ¬ request.Stores named := fun hstores =>
    h hstores.isAccepted
  cases request with
  | create name secret createdAt =>
    have hstore : IsToStore (.create name secret createdAt) := trivial
    exact run_eq_of_forall_not_stores hstore hnone keystore
  | importSecret name text createdAt =>
    have hstore : IsToStore (.importSecret name text createdAt) := trivial
    exact run_eq_of_forall_not_stores hstore hnone keystore
  | get name =>
    have hname : isName name = false := by
      rw [← Bool.not_eq_true, isName_iff]
      exact h
    exact ⟨_, run_get_of_not_isName keystore hname⟩

theorem run_eq_done_iff (S : Scheme) (keystore : Keystore) (request : Request) :
    (∃ failure, request.run S keystore = .done (.error failure)) ↔ ¬ request.IsAccepted := by
  constructor
  · rintro ⟨failure, hrun⟩ haccepted
    rcases run_of_isAccepted S keystore haccepted with ⟨named, -, hchecking⟩ | ⟨-, hseeking⟩
    · cases hrun.symm.trans hchecking
    · cases hrun.symm.trans hseeking
  · exact run_of_not_isAccepted S keystore

theorem asks_run (S : Scheme) (keystore : Keystore) (request : Request) :
    (request.run S keystore).Asks (keystore.IsStepFor request.name) := by
  by_cases haccepted : request.IsAccepted
  · rcases run_of_isAccepted S keystore haccepted with ⟨named, hstores, hrun⟩ | ⟨-, hrun⟩
    · rw [hrun, ← hstores.name_eq]
      exact asks_checking keystore named
    · rw [hrun]
      exact (asks_seeking keystore S request.name).mono fun _ h => h.isStepFor
  · obtain ⟨failure, hrun⟩ := run_of_not_isAccepted S keystore haccepted
    rw [hrun]
    trivial

end Request

/-! ### Listings -/

/-- A step of a listing: the directory is looked at, or a file in it. -/
inductive IsListingStep (keystore : Keystore) : Op → Prop
  | look : IsListingStep keystore (.exists keystore.directory)
  | list : IsListingStep keystore (.list keystore.directory)
  | file {name : String} {op : Op} (hname : IsWalletName name) (hop : keystore.IsLookFor name op) :
      IsListingStep keystore op

theorem IsListingStep.isLook {op : Op} (h : keystore.IsListingStep op) : op.IsLook := by
  cases h with
  | look => trivial
  | list => trivial
  | file hname hop => exact hop.isLook

theorem asks_get (S : Scheme) (keystore : Keystore) (name : String) :
    (keystore.get S name).run.Asks keystore.IsListingStep := by
  cases hname : isName name with
  | false =>
    rw [run_get_of_not_isName keystore hname]
    trivial
  | true =>
    rw [run_get keystore hname]
    exact (asks_seeking keystore S name).mono fun _ h => .file (isName_iff.1 hname) h

/-- Whatever the names of the files are. -/
theorem asks_summaries (S : Scheme) (keystore : Keystore) (files : List String) :
    (keystore.summaries S files).Asks keystore.IsListingStep := by
  induction files with
  | nil => trivial
  | cons file rest ih =>
    rw [summaries]
    cases stem? file with
    | none => exact ih
    | some name =>
      refine (asks_get S keystore name).bind fun result => ?_
      cases result with
      | error failure => exact ih
      | ok named => exact ih.bind fun found => trivial

theorem asks_list (S : Scheme) (keystore : Keystore) :
    (keystore.list S).run.Asks keystore.IsListingStep := by
  rw [run_list]
  refine ⟨.look, fun isThere => ?_⟩
  cases isThere with
  | false => trivial
  | true =>
    refine ⟨.list, fun answer => ?_⟩
    cases answer with
    | error cause => trivial
    | ok files => exact (asks_summaries S keystore files).bind fun found => trivial

/-! ### Disks -/

theorem touches_of_isStepFor {name : String} {op : Op} {disk after : Disk} {answer : op.Answer}
    (hop : keystore.IsStepFor name op) (h : Yields op disk answer after) :
    Touches keystore.directory.lineage (keystore.fileFor name) disk after := by
  cases hop with
  | make => exact .of_gains h.makeDirectories _
  | look => exact h.touches (fun _ heq => nomatch heq) _
  | create mode => exact h.touches (fun _ heq => nomatch heq) _
  | append bytes => exact h.touches (fun _ heq => nomatch heq) _
  | sync => exact h.touches (fun _ heq => nomatch heq) _
  | read => exact h.touches (fun _ heq => nomatch heq) _

/-- **A keystore touches its directory and one file in it.** A request is refused without a step if
and only if its name is none that a wallet may have, or its secret is not 32 bytes in hexadecimal.
For every other request each step is one on the directory or on the file of the name, whatever is
answered; and whatever becomes of the steps on a disk, nothing is different afterwards but new
directories on the way to the directory, and this file. The path of the file leads one name further
than the directory, and different names lead to different files. A listing looks at the directory
and at such files, and changes nothing. -/
theorem requests_confined (S : Scheme) (keystore : Keystore) :
    (∀ request : Request,
      ((∃ failure, request.run S keystore = .done (.error failure)) ↔ ¬ request.IsAccepted) ∧
      (request.run S keystore).Asks (keystore.IsStepFor request.name) ∧
      ∀ disk moments result last, Unfolds Yields (request.run S keystore) disk moments result last →
        (∀ moment ∈ moments, Touches keystore.directory.lineage (keystore.fileFor request.name) disk
          moment.after) ∧
        Touches keystore.directory.lineage (keystore.fileFor request.name) disk last) ∧
    (∀ (disk : Disk) (name : String) (place : Place),
      disk.locate (keystore.fileFor name) = .ok place →
      (∃ home, disk.walk [] keystore.directory.parts = .ok home ∧
        disk.find? home = some .directory ∧ place = home ++ [fileName name]) ∧
      ∀ other, disk.locate (keystore.fileFor other) = .ok place → other = name) ∧
    (∀ a b, keystore.fileFor a = keystore.fileFor b → a = b) ∧
    (keystore.list S).run.Asks keystore.IsListingStep ∧
    ∀ disk moments result last, Unfolds Yields (keystore.list S).run disk moments result last →
      (∀ moment ∈ moments, moment.after = disk) ∧ last = disk := by
  refine ⟨fun request => ⟨request.run_eq_done_iff S keystore, request.asks_run S keystore, ?_⟩,
    fun disk name place hplace => ⟨locate_fileFor hplace, fun other hother => ?_⟩,
    fun a b h => fileName_inj.1 (Path.child_inj.1 h), asks_list S keystore, ?_⟩
  · -- What a single step touches does not grow along the way: `Touches` is transitive.
    intro disk moments result last h
    exact h.forall_related (request.asks_run S keystore) (Touches.refl _ _) Touches.trans
      touches_of_isStepFor
  · exact name_eq_of_locate hother hplace
  · intro disk moments result last h
    exact eq_of_unfolds_of_isLook h ((asks_list S keystore).mono fun _ hop => hop.isLook)

theorem walk_wallets (disk : Disk) : disk.walk [] ["wallets"] = .ok ["wallets"] := by
  have hmove : disk.move [] "wallets" = .ok ["wallets"] :=
    move_of_isName rfl walletsSite.isName walletsSite.short
  rw [walk, hmove]
  rfl

/-- A name that leads out of the directory is refused; and after a wallet is stored on an empty
disk, the directory and one file in it are new. -/
theorem requests_confined_hostile :
    (∃ failure, (Request.create "../evil" Wallet.sampleSecret sampleTime).run Wallet.sampleScheme
      walletsSite.keystore = .done (.error failure)) ∧
    ∀ place, (((Request.create "alice" Wallet.sampleSecret sampleTime).run Wallet.sampleScheme
        walletsSite.keystore).run Disk.handle empty).2.find? place = empty.find? place ∨
      place = ["wallets"] ∨ place = ["wallets", "alice.json"] := by
  obtain ⟨hrequests, hfiles, -, -, -⟩ := requests_confined Wallet.sampleScheme walletsSite.keystore
  constructor
  · refine (hrequests _).1.2 fun hname => ?_
    have hgood : isName "../evil" = true := isName_iff.2 hname
    exact absurd hgood (by decide)
  · intro place
    obtain ⟨moments, hway⟩ := unfolds_run ((Request.create "alice" Wallet.sampleSecret
      sampleTime).run Wallet.sampleScheme walletsSite.keystore) empty
    obtain ⟨-, htouches⟩ := (hrequests _).2.2 _ _ _ _ hway
    rcases htouches.places place with heq | ⟨-, -, path, hpath, hlocate⟩ | hlocate
    · exact .inl heq
    · have hlineage : walletsSite.keystore.directory.lineage =
          [walletsSite.keystore.directory] := by
        decide +kernel
      rw [hlineage, List.mem_singleton] at hpath
      subst hpath
      have hwalk := (locate_eq_ok_iff.1 hlocate).2
      exact .inr (.inl (Except.ok.inj (hwalk.symm.trans (walk_wallets _))))
    · obtain ⟨⟨home, hwalk, -, rfl⟩, -⟩ := hfiles _ _ _ hlocate
      obtain rfl : ["wallets"] = home := Except.ok.inj ((walk_wallets _).symm.trans hwalk)
      exact .inr (.inr rfl)

end Remit.Keystore
