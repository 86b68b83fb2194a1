import Remit.Proofs.Keystore.Confined
import Remit.Proofs.Keystore.Phases
import Remit.Proofs.Wallet.Saving

/-!
# What a failure leaves behind

A save empties the file before it writes, and a wallet that is stored has its file before it has its
text, so a step that fails after that leaves a part of the text, from its start. Nothing is put
aside before and nothing is taken away afterwards: what a saved file held is gone
(`failure_loses_wallet`), and a name whose file was made is taken. A step that fails earlier leaves
all files as they were.

* `Wallet.ofContent_eq_ok_iff`: a part of the text of a wallet is not read as one;
* `unfolds_checking`: what may come of storing a wallet;
* `failures_leave`: what there is after a save or a store that failed.
-/

namespace Remit

open FileSystem Activity Disk

variable {S : Scheme}

/-! ### Texts of wallets that are cut short -/

namespace Wallet

theorem exists_serialize_eq (wallet : Wallet S) :
    ∃ body, wallet.serialize.toList = '{' :: body ++ ['}'] ∧ '}' ∉ body := by
  show ∃ body, (Json.object [("address", .string wallet.address.text),
    ("public_key", .string wallet.publicKey.text),
    ("secret_key", .string wallet.secretText)]).renderIndented.toList = '{' :: body ++ ['}'] ∧
      '}' ∉ body
  refine Json.exists_renderIndented_eq (List.cons_ne_nil _ _) ?_
  simp only [List.forall_mem_cons]
  exact ⟨⟨by decide, Hex.brace_not_mem_encode _⟩, ⟨by decide, Hex.brace_not_mem_encode _⟩,
    ⟨by decide, Hex.brace_not_mem_encode _⟩, List.forall_mem_nil _⟩

theorem content_ne_nil (wallet : Wallet S) : wallet.content ≠ [] := by
  intro hnil
  obtain ⟨body, hbody, -⟩ := exists_serialize_eq wallet
  have hempty : wallet.serialize = "" := Bytes.ofText_injective hnil
  rw [hempty] at hbody
  cases hbody

namespace Serialized

open Json Json.Decoder

/-- Only sound values pass the checks of a written wallet. -/
theorem isStrict_fields : ∀ field ∈ fields.list, field.IsStrict := by
  intro field hfield origin document hcheck
  rw [check_of_mem_fields hfield] at hcheck
  obtain ⟨value, hvalue, -⟩ := map_eq_ok_iff.1 hcheck
  rcases nullable_eq_ok_iff.1 hvalue with ⟨rfl, -⟩ | ⟨-, text, htext, -⟩
  · rfl
  · rw [string_eq_ok_iff.1 htext]
    rfl

end Serialized

theorem ofSerialized_ne_ok_of_not_closed {text : String}
    (hopen : text.toList = [] ∨ ∃ rest, text.toList = '{' :: rest ∧ '}' ∉ rest) (w : Wallet S) :
    ofSerialized S text ≠ .ok w := by
  intro h
  unfold ofSerialized at h
  split at h
  · rename_i s hdecode
    exact Json.Decoder.ofText_record_of_not_closed Serialized.isStrict_fields _ hopen s hdecode
  · cases h

/-- **A part of the text of a wallet is not read as one**, wherever it is cut. -/
theorem ofContent_ne_ok_of_part {wallet : Wallet S} {written : Bytes}
    (h : written <+: wallet.content) (hne : written ≠ wallet.content) (w : Wallet S) :
    ofContent S written ≠ .ok w := by
  unfold ofContent
  cases htext : written.toText? with
  | none => exact fun hread => nomatch hread
  | some part =>
    obtain rfl := Bytes.toText?_eq_some_iff.1 htext
    obtain ⟨body, hbody, hclosed⟩ := exists_serialize_eq wallet
    exact ofSerialized_ne_ok_of_not_closed (Keystore.not_closed_of_prefix hbody hclosed
      (Bytes.toList_prefix_of_ofText_prefix h) fun heq => hne (congrArg Bytes.ofText heq)) w

theorem ofContent_eq_ok_iff {wallet w : Wallet S} {written : Bytes}
    (h : written <+: wallet.content) :
    ofContent S written = .ok w ↔ written = wallet.content ∧ w = wallet := by
  by_cases hall : written = wallet.content
  · rw [hall, ofContent_content, Except.ok.injEq]
    exact ⟨fun heq => ⟨rfl, heq.symm⟩, fun heq => heq.2.symm⟩
  · exact ⟨fun hread => absurd hread (ofContent_ne_ok_of_part h hall w), fun heq =>
      absurd heq.1 hall⟩

/-- A save may fail after the file is emptied and before anything is written. -/
theorem exists_unfolds_save_denied (wallet : Wallet S) {path : Path} {disk : Disk} {place : Place}
    (hplace : disk.placeForFile path = .ok place) (hfile : disk.find? place ≠ some .directory) :
    ∃ moments mode, Unfolds Yields (wallet.save path).run disk moments
      (.error (fileFailed .denied)) (disk.put place (.file [] mode)) := by
  obtain ⟨mode, hopen⟩ := exists_run_openEmpty hplace hfile privateMode
  obtain ⟨opening, hopened⟩ := unfolds_run (openEmpty path privateMode).run disk
  rw [hopen] at hopened
  have hdenied : Yields (.setMode path privateMode) (disk.put place (.file [] mode))
      (.error .denied) (disk.put place (.file [] mode)) :=
    .fails (.setMode path privateMode) .denied _
  refine ⟨opening ++ [⟨.setMode path privateMode, .error .denied,
    disk.put place (.file [] mode)⟩], mode, ?_⟩
  rw [save, Task.unfolds_mapError_iff]
  refine ⟨.error .denied, ?_, rfl⟩
  rw [Task.unfolds_bind_iff]
  refine .inr ⟨(), _, opening, _, rfl, hopened, ?_⟩
  rw [Task.unfolds_bind_iff]
  exact .inl ⟨.denied, unfolds_perform_iff.2 ⟨rfl, hdenied⟩, rfl⟩

end Wallet

/-! ### Storing a wallet -/

namespace Keystore

variable {keystore : Keystore}

/-- **What is left of storing a wallet**: no file is new, or the file of the wallet is there with a
part of its text, or with all of it. Directories may be new. -/
inductive Left (keystore : Keystore) (named : NamedWallet S) (disk : Disk) : Result S → Disk → Prop
  | nothing {failure : Failure} {last : Disk} (hgains : Gains keystore.directory.lineage disk last)
      (hfailure : ∀ file cause, failure ≠ .fileNotWritten file cause) :
      Left keystore named disk (.error failure) last
  | part {between : Disk} {place : Place} {written : Bytes}
      (hgains : Gains keystore.directory.lineage disk between)
      (hplace : between.placeForFile (keystore.fileFor named.name) = .ok place)
      (hfree : between.find? place = none) (hpart : written <+: contentOf named)
      (cause : FileSystem.Error) :
      Left keystore named disk (.error (.fileNotWritten (keystore.fileFor named.name) cause))
        (between.put place (.file written Wallet.privateMode))
  | all {between : Disk} {place : Place}
      (hgains : Gains keystore.directory.lineage disk between)
      (hplace : between.placeForFile (keystore.fileFor named.name) = .ok place)
      (hfree : between.find? place = none) :
      Left keystore named disk (.ok named)
        (between.put place (.file (contentOf named) Wallet.privateMode))

section Unfolding

variable {named : NamedWallet S} {disk between last : Disk} {place : Place}
  {moments : List (Moment files Disk)} {result : Result S}

theorem unfolds_writing (hgains : Gains keystore.directory.lineage disk between)
    (hplace : between.placeForFile (keystore.fileFor named.name) = .ok place)
    (hfree : between.find? place = none)
    (h : Unfolds Yields (writing keystore named (contentOf named))
      (between.put place (.file [] Wallet.privateMode)) moments result last) :
    Left keystore named disk result last := by
  have hfile := ne_directory_of_none hfree
  unfold writing at h
  obtain ⟨answer, written, first, second, rfl, hwrite, hsync⟩ := unfolds_bind_iff.1 h
  obtain ⟨-, part, hpart, hall, rfl⟩ := unfolds_appendAll hplace hfile hwrite
  rw [List.nil_append] at hsync
  cases answer with
  | error cause =>
    obtain ⟨-, rfl, rfl⟩ := unfolds_done_iff.1 hsync
    exact .part hgains hplace hfree hpart cause
  | ok =>
    obtain rfl := hall rfl
    obtain ⟨synced, after, rest, -, hstep, hdone⟩ := unfolds_ask_iff.1 hsync
    obtain rfl := hstep.sync hplace hfile
    cases synced with
    | error cause =>
      obtain ⟨-, rfl, rfl⟩ := unfolds_done_iff.1 hdone
      exact .part hgains hplace hfree hpart cause
    | ok =>
      obtain ⟨-, rfl, rfl⟩ := unfolds_done_iff.1 hdone
      exact .all hgains hplace hfree

theorem notMade_ne_fileNotWritten (name : String) (path file : Path)
    (cause reason : FileSystem.Error) : notMade name path cause ≠ .fileNotWritten file reason := by
  cases cause <;> exact fun heq => nomatch heq

theorem unfolds_creating (hgains : Gains keystore.directory.lineage disk between)
    (h : Unfolds Yields (creating keystore named) between moments result last) :
    Left keystore named disk result last := by
  obtain ⟨answer, after, rest, -, hstep, hnext⟩ := unfolds_ask_iff.1 h
  rcases hstep.createNew with ⟨⟨cause, rfl⟩, rfl⟩ | ⟨rfl, place, hplace, hfree, rfl⟩
  · obtain ⟨-, rfl, rfl⟩ := unfolds_done_iff.1 hnext
    exact .nothing hgains fun file reason => notMade_ne_fileNotWritten _ _ file cause reason
  · exact unfolds_writing hgains hplace hfree hnext

/-- **What may come of storing a wallet.** -/
theorem unfolds_checking (h : Unfolds Yields (checking keystore named) disk moments result last) :
    Left keystore named disk result last := by
  obtain ⟨isTaken, after, rest, -, hstep, hnext⟩ := unfolds_ask_iff.1 h
  obtain rfl := hstep.eq_of_isLook trivial
  cases isTaken with
  | true =>
    obtain ⟨-, rfl, rfl⟩ := unfolds_done_iff.1 hnext
    exact .nothing (.refl _ _) fun _ _ heq => nomatch heq
  | false =>
    obtain ⟨answer, between, rest, -, hmake, hnext⟩ := unfolds_ask_iff.1 hnext
    have hgains := hmake.makeDirectories
    cases answer with
    | error cause =>
      obtain ⟨-, rfl, rfl⟩ := unfolds_done_iff.1 hnext
      exact .nothing hgains fun _ _ heq => nomatch heq
    | ok => exact unfolds_creating hgains hnext

/-- **What may come of a request to store a wallet**: it is refused without a step, or there is a
wallet to store. -/
theorem unfolds_toStore {request : Request} (hstore : request.IsToStore)
    (h : Unfolds Yields (request.run S keystore) disk moments result last) :
    (∃ failure, result = .error failure ∧ last = disk ∧
      ∀ file cause, failure ≠ .fileNotWritten file cause) ∨
    ∃ named : NamedWallet S, request.Stores named ∧ Left keystore named disk result last := by
  by_cases hstores : ∃ named : NamedWallet S, request.Stores named
  · obtain ⟨named, hstores⟩ := hstores
    rw [hstores.run_eq keystore] at h
    exact .inr ⟨named, hstores, unfolds_checking h⟩
  · obtain ⟨failure, hrun, hfailure⟩ := Request.run_eq_refusal_of_forall_not_stores hstore
      (fun named hnamed => hstores ⟨named, hnamed⟩) keystore
    rw [hrun] at h
    obtain ⟨-, hresult, hlast⟩ := unfolds_done_iff.1 h
    refine .inl ⟨failure, hresult, hlast, fun file cause heq => ?_⟩
    rcases hfailure with hname | ⟨flaw, hflaw⟩
    · cases hname.symm.trans heq
    · cases hflaw.symm.trans heq

/-- Storing a wallet may fail after the file is made and before anything is written. -/
theorem exists_unfolds_checking_denied (keystore : Keystore) (named : NamedWallet S)
    (hexists : Disk.handle (.exists (keystore.fileFor named.name)) disk = (false, disk))
    (hmake : Disk.handle (.makeDirectories keystore.directory) disk = (.ok (), between))
    (hcreate : Disk.handle (.createNew (keystore.fileFor named.name) Wallet.privateMode) between =
      (.ok (), last)) (hcontent : contentOf named ≠ []) :
    ∃ moments, Unfolds Yields (checking keystore named) disk moments
      (.error (.fileNotWritten (keystore.fileFor named.name) .denied)) last := by
  have hlooked := Yields.works (.exists (keystore.fileFor named.name)) disk
  have hmade := Yields.works (.makeDirectories keystore.directory) disk
  have hcreated :=
    Yields.works (.createNew (keystore.fileFor named.name) Wallet.privateMode) between
  rw [hexists] at hlooked
  rw [hmake] at hmade
  rw [hcreate] at hcreated
  have hwriting : ∃ moments, Unfolds Yields (writing keystore named (contentOf named)) last moments
      (.error (.fileNotWritten (keystore.fileFor named.name) .denied)) last := by
    rw [writing_of_ne_nil keystore named hcontent]
    exact ⟨_, .ask (.fails _ .denied last) (.done _ last)⟩
  obtain ⟨moments, hwriting⟩ := hwriting
  exact ⟨_, .ask hlooked (.ask hmade (.ask hcreated hwriting))⟩

end Unfolding

/-! ### What is left -/

/-- **The file of a wallet that was not stored**: it is new and holds a part of the text of the
wallet, and no other file is different. The name is taken then, and nothing is found under it unless
all of the text is there. -/
structure IsLeftover (keystore : Keystore) (named : NamedWallet S) (disk last : Disk)
    (place : Place) (written : Bytes) : Prop where
  leads : last.locate (keystore.fileFor named.name) = .ok place
  fresh : disk.find? place = none
  file : last.find? place = some (.file written Wallet.privateMode)
  part : written <+: contentOf named
  others : ∀ other, other ≠ place → ∀ content mode,
    last.find? other = some (.file content mode) ↔ disk.find? other = some (.file content mode)
  taken : ∀ secret createdAt,
    ((keystore.create S named.name secret createdAt).run.run Disk.handle last).1 =
      .error (.alreadyExists named.name)
  unread : ∀ found, ((keystore.get S named.name).run.run Disk.handle last).1 = .ok found →
    written = contentOf named

section Leftovers

variable {name : String} {disk : Disk} {entry : Entry}

theorem handle_exists_of_look {path : Path} (hlook : disk.look path = .ok entry) :
    Disk.handle (.exists path) disk = (true, disk) := by
  rw [handle, hlook]
  rfl

theorem run_create_of_look (hname : isName name = true)
    (hlook : disk.look (keystore.fileFor name) = .ok entry) (secret : FixedBytes 32)
    (createdAt : Instant) :
    ((keystore.create S name secret createdAt).run.run Disk.handle disk).1 =
      .error (.alreadyExists name) := by
  have hrun := run_store keystore ⟨name, createdAt, Wallet.ofSecret S secret⟩ hname
  rw [create, hrun, checking, run_ask, handle_exists_of_look hlook]
  rfl

theorem run_get_of_look (hname : isName name = true) {bytes : Bytes} {mode : UInt32}
    (hlook : disk.look (keystore.fileFor name) = .ok (.file bytes mode)) :
    ((keystore.get S name).run.run Disk.handle disk).1 =
      readBytes S (keystore.fileFor name) bytes := by
  have hread : Disk.handle (.read (keystore.fileFor name)) disk = (.ok bytes, disk) := by
    rw [handle, hlook]
  rw [run_get keystore hname, seeking, run_ask, handle_exists_of_look hlook]
  rw [reading, run_ask, hread]
  rfl

/-- A part of the text in a file that was free. -/
theorem isLeftover_put {named : NamedWallet S} {between : Disk} {place : Place} {written : Bytes}
    (hname : isName named.name = true) (hgains : Gains keystore.directory.lineage disk between)
    (hplace : between.placeForFile (keystore.fileFor named.name) = .ok place)
    (hfree : between.find? place = none) (hpart : written <+: contentOf named) :
    keystore.IsLeftover named disk (between.put place (.file written Wallet.privateMode)) place
      written := by
  have hfile := ne_directory_of_none hfree
  have hlook := look_put_of_placeForFile hplace hfile (.file written Wallet.privateMode)
  refine ⟨locate_put_of_placeForFile hplace hfile _, ?_,
    find?_put_self (ne_nil_of_placeForFile hplace), hpart, fun other hother content mode => ?_,
    fun secret createdAt => run_create_of_look hname hlook secret createdAt, fun found hfound => ?_⟩
  · by_contra hthere
    exact hthere ((hgains.find?_eq hthere).symm.trans hfree)
  · rw [find?_put_of_ne hother]
    exact hgains.find?_file_iff
  · rw [run_get_of_look hname hlook] at hfound
    by_contra hne
    -- Something is missing at the end, so the last brace is, and no record is read.
    obtain ⟨rest, hrest⟩ := hpart
    have hnil : rest ≠ [] := by
      rintro rfl
      exact hne ((List.append_nil _).symm.trans hrest)
    exact readBytes_ne_ok_of_part hname hrest hnil _ _ hfound

end Leftovers

/-! ### What may be lost -/

/-- A disk with a saved wallet. -/
def savedDisk : Disk :=
  empty.put ["alice.json"] (.file Wallet.sampleWallet.content Wallet.privateMode)

/-- Another wallet, that is saved in its place. -/
def otherWallet : Wallet Wallet.sampleScheme :=
  Wallet.ofSecret Wallet.sampleScheme (Vector.replicate 32 1)

/-- An empty disk after the file of a wallet is made. -/
def madeDisk : Disk :=
  (empty.put ["wallets"] .directory).put ["wallets", "alice.json"] (.file [] Wallet.privateMode)

theorem placeForFile_savedDisk : savedDisk.placeForFile Wallet.alicePath = .ok ["alice.json"] := rfl

theorem find?_savedDisk : savedDisk.find? ["alice.json"] =
    some (.file Wallet.sampleWallet.content Wallet.privateMode) := rfl

theorem look_savedDisk : savedDisk.look Wallet.alicePath =
    .ok (.file Wallet.sampleWallet.content Wallet.privateMode) := by
  rw [look, locate_of_placeForFile placeForFile_savedDisk]
  simp only [find?_savedDisk]

theorem look_madeDisk : madeDisk.look (walletsSite.keystore.fileFor "alice") =
    .ok (.file [] Wallet.privateMode) := rfl

theorem contentOf_ne_nil {named : NamedWallet S} (hname : isName named.name = true) :
    contentOf named ≠ [] := by
  intro hnil
  obtain ⟨body, hbody, -⟩ := exists_text_eq hname
  have hempty : (Record.ofWallet named.name named.createdAt named.wallet).text = "" :=
    Bytes.ofText_injective hnil
  rw [hempty] at hbody
  cases hbody

/-- Access is denied when the file is emptied and its mode is to be set. -/
theorem exists_unfolds_save_savedDisk : ∃ moments mode,
    Unfolds Yields (otherWallet.save Wallet.alicePath).run savedDisk moments
      (.error (Wallet.fileFailed .denied)) (savedDisk.put ["alice.json"] (.file [] mode)) :=
  Wallet.exists_unfolds_save_denied otherWallet placeForFile_savedDisk
    (ne_directory_of_file find?_savedDisk)

/-- Access is denied when the file is made and its text is to be written. -/
theorem exists_unfolds_create_empty : ∃ moments, Unfolds Yields
    ((Request.create "alice" Wallet.sampleSecret sampleTime).run Wallet.sampleScheme
      walletsSite.keystore) empty moments
    (.error (.fileNotWritten (walletsSite.keystore.fileFor "alice") .denied)) madeDisk := by
  have hname : isName "alice" = true := by decide
  have hstores : (Request.create "alice" Wallet.sampleSecret sampleTime).Stores
      ⟨"alice", sampleTime, Wallet.sampleWallet⟩ :=
    .create (isName_iff.1 hname) Wallet.sampleSecret sampleTime
  rw [hstores.run_eq walletsSite.keystore]
  have hmake : Disk.handle (.makeDirectories walletsSite.keystore.directory) empty =
      (.ok (), empty.put ["wallets"] .directory) := rfl
  exact exists_unfolds_checking_denied walletsSite.keystore _ rfl hmake rfl (contentOf_ne_nil hname)

/-- **A failure may lose a wallet, and a name.** A wallet is saved, and when another one is saved in
its place and this fails, there is none any more; and a name that was free is taken after the wallet
could not be stored under it. -/
theorem failure_loses_wallet :
    ((Wallet.load Wallet.sampleScheme Wallet.alicePath).run.run Disk.handle savedDisk).1 =
      .ok Wallet.sampleWallet ∧
    (∃ moments cause last,
      Unfolds Yields (otherWallet.save Wallet.alicePath).run savedDisk moments (.error cause) last ∧
      ∀ w, ((Wallet.load Wallet.sampleScheme Wallet.alicePath).run.run Disk.handle last).1 ≠
        .ok w) ∧
    ∃ moments failure last, Unfolds Yields
      (walletsSite.keystore.create Wallet.sampleScheme "alice" Wallet.sampleSecret sampleTime).run
        empty moments (.error failure) last ∧
      empty.find? ["wallets", "alice.json"] = none ∧
      last.find? ["wallets", "alice.json"] = some (.file [] Wallet.privateMode) ∧
      ∀ secret createdAt, ((walletsSite.keystore.create Wallet.sampleScheme "alice" secret
        createdAt).run.run Disk.handle last).1 = .error (.alreadyExists "alice") := by
  refine ⟨?_, ?_, ?_⟩
  · rw [Wallet.run_load_of_look look_savedDisk, Wallet.ofContent_content]
  · obtain ⟨moments, mode, hdenied⟩ := exists_unfolds_save_savedDisk
    refine ⟨moments, _, _, hdenied, fun w => ?_⟩
    have hfile := ne_directory_of_file find?_savedDisk
    rw [Wallet.run_load_of_look (look_put_of_placeForFile placeForFile_savedDisk hfile _)]
    exact Wallet.ofContent_ne_ok_of_part List.nil_prefix Wallet.sampleWallet.content_ne_nil.symm w
  · obtain ⟨moments, hdenied⟩ := exists_unfolds_create_empty
    exact ⟨moments, _, madeDisk, hdenied, rfl, rfl, run_create_of_look (by decide) look_madeDisk⟩

/-- **What a failure leaves behind.** A save that fails has not opened the file, and then nothing is
different, or it has, and then the file holds a part of the new text and nothing else, from which no
wallet is loaded but the new one, once all of the text is there. A store that fails leaves all
files that were there as they were. Unless it failed in writing, no file is new; if it did, there is
one new file, that of the wallet, with a part of its text. -/
theorem failures_leave (S : Scheme) :
    (∀ (wallet : Wallet S) (path : Path) (disk : Disk) moments cause last,
      Unfolds Yields (wallet.save path).run disk moments (.error cause) last →
      (∃ reason, moments = [⟨.openEmpty path Wallet.privateMode, .error reason, disk⟩] ∧
        last = disk) ∨
      ∃ place written mode, disk.placeForFile path = .ok place ∧
        last = disk.put place (.file written mode) ∧ written <+: Bytes.ofText wallet.serialize ∧
        ∀ w, ((Wallet.load S path).run.run Disk.handle last).1 = .ok w ↔
          written = Bytes.ofText wallet.serialize ∧ w = wallet) ∧
    ∀ (keystore : Keystore) (request : Request) (disk : Disk) moments failure last,
      request.IsToStore →
      Unfolds Yields (request.run S keystore) disk moments (.error failure) last →
      (∀ place content mode, disk.find? place = some (.file content mode) →
        last.find? place = some (.file content mode)) ∧
      ((∀ file cause, failure ≠ .fileNotWritten file cause) → ∀ place content mode,
        last.find? place = some (.file content mode) →
          disk.find? place = some (.file content mode)) ∧
      ∀ file cause, failure = .fileNotWritten file cause →
        ∃ named : NamedWallet S, request.Stores named ∧ file = keystore.fileFor named.name ∧
          ∃ place written, keystore.IsLeftover named disk last place written := by
  constructor
  · intro wallet path disk moments cause last h
    rcases Wallet.unfolds_save h with ⟨reason, hmoments, -, hlast⟩ | ⟨place, hplace, hfile, hsaves⟩
    · exact .inl ⟨reason, hmoments, hlast⟩
    · obtain ⟨written, mode, rfl, hpart, -⟩ := hsaves.last
      refine .inr ⟨place, written, mode, hplace, rfl, hpart, fun w => ?_⟩
      rw [Wallet.run_load_of_look (look_put_of_placeForFile hplace hfile _)]
      exact Wallet.ofContent_eq_ok_iff hpart
  · intro keystore request disk moments failure last hstore h
    rcases unfolds_toStore hstore h with ⟨reason, hresult, rfl, hreason⟩ | ⟨named, hstores, hleft⟩
    · obtain rfl := Except.error.inj hresult
      exact ⟨fun _ _ _ hfile => hfile, fun _ _ _ _ hfile => hfile,
        fun file cause heq => absurd heq (hreason file cause)⟩
    generalize hresult : (.error failure : Result S) = result at hleft
    cases hleft with
    | nothing hgains hfailure =>
      -- Directories may be new, but they are no files.
      obtain rfl := Except.error.inj hresult
      exact ⟨fun _ _ _ => hgains.find?_file_iff.2, fun _ _ _ _ => hgains.find?_file_iff.1,
        fun file cause heq => absurd heq (hfailure file cause)⟩
    | part hgains hplace hfree hpart cause =>
      obtain rfl := Except.error.inj hresult
      have hleftover := isLeftover_put hstores.isName hgains hplace hfree hpart
      refine ⟨fun other content mode hother => (hleftover.others other ?_ content mode).2 hother,
        fun hnot => absurd rfl (hnot _ cause), fun file reason heq => ?_⟩
      · -- The place of the new file was free.
        rintro rfl
        rw [hleftover.fresh] at hother
        cases hother
      · cases heq
        exact ⟨named, hstores, rfl, _, _, hleftover⟩
    | all => cases hresult

/-- Access is denied in the middle of a save, and of a creation. -/
theorem failures_leave_sample :
    (∃ moments cause last,
      Unfolds Yields (otherWallet.save Wallet.alicePath).run savedDisk moments (.error cause) last ∧
      ∀ w, ((Wallet.load Wallet.sampleScheme Wallet.alicePath).run.run Disk.handle last).1 = .ok w →
        w = otherWallet) ∧
    ∃ moments failure last,
      Unfolds Yields ((Request.create "alice" Wallet.sampleSecret sampleTime).run
        Wallet.sampleScheme walletsSite.keystore) empty moments (.error failure) last ∧
      ∃ named : NamedWallet Wallet.sampleScheme, ∃ place written,
        walletsSite.keystore.IsLeftover named empty last place written := by
  obtain ⟨hsaves, hstores⟩ := failures_leave Wallet.sampleScheme
  constructor
  · obtain ⟨moments, mode, hdenied⟩ := exists_unfolds_save_savedDisk
    refine ⟨moments, _, _, hdenied, fun w hload => ?_⟩
    rcases hsaves _ _ _ _ _ _ hdenied with ⟨reason, -, hlast⟩ | ⟨place, written, _, -, -, -, hloads⟩
    · -- The file is empty now, and it was not before.
      have hfind : (savedDisk.put ["alice.json"] (.file [] mode)).find? ["alice.json"] =
          some (.file [] mode) := find?_put_self (List.cons_ne_nil _ _)
      rw [hlast, find?_savedDisk, Option.some.injEq, Entry.file.injEq] at hfind
      exact absurd hfind.1 Wallet.sampleWallet.content_ne_nil
    · exact ((hloads w).1 hload).2
  · obtain ⟨moments, hdenied⟩ := exists_unfolds_create_empty
    obtain ⟨-, -, hleft⟩ := hstores walletsSite.keystore (.create "alice" Wallet.sampleSecret
      sampleTime) _ _ _ _ trivial hdenied
    obtain ⟨named, -, -, place, written, hleftover⟩ := hleft _ _ rfl
    exact ⟨moments, _, madeDisk, hdenied, named, place, written, hleftover⟩

end Keystore

end Remit
