import Remit.Proofs.FileSystem.Places
import Remit.Proofs.Wallet.Messages
import Remit.Proofs.Wallet.Restoring

/-!
# Saving a wallet

A save opens the file, which empties it, sets its mode, and only then writes. So at each moment the
file is empty or may only be read by its owner (`IsGuarded`), whatever mode it had and wherever the
save ends; and when it ends well, nothing of what the file held is left.

* `unfolds_save`: what may come of a save;
* `save_replaces`: a save that ends well has replaced the file by one that the wallet is loaded
  from, and no other file or directory has changed.
-/

namespace Remit.Wallet

open FileSystem Activity Disk

variable {S : Scheme}

/-! ### What is written and what is read -/

/-- What the file of a wallet holds. -/
def content (wallet : Wallet S) : Bytes := Bytes.ofText wallet.serialize

/-- What the bytes in a file are read as. -/
def ofContent (S : Scheme) (bytes : Bytes) : Except Error (Wallet S) :=
  match bytes.toText? with
  | some text => ofSerialized S text
  | none => .error (fileFailed .notText)

theorem ofContent_content (wallet : Wallet S) : ofContent S wallet.content = .ok wallet := by
  rw [ofContent, content, Bytes.toText?_ofText]
  exact ofSerialized_serialize wallet

section Reading

variable {disk : Disk} {path : Path} {bytes : Bytes} {mode : UInt32}

theorem run_readText_of_look (h : disk.look path = .ok (.file bytes mode)) :
    (readText path).run.run Disk.handle disk =
      (match bytes.toText? with
        | some text => .ok text
        | none => .error .notText, disk) := by
  have hread : Disk.handle (.read path) disk = (.ok bytes, disk) := by
    rw [handle, h]
  rw [readText, ExceptT.run_mk, run_ask, hread]
  cases htext : bytes.toText? with
  | none => simp only [htext, run_done]
  | some text => simp only [htext, run_done]

/-- A load reads the file that the path leads to. -/
theorem run_load_of_look (h : disk.look path = .ok (.file bytes mode)) :
    ((load S path).run.run Disk.handle disk).1 = ofContent S bytes := by
  have htask := congrArg (fun answer => (answer.1.mapError fileFailed, answer.2))
    (run_readText_of_look h)
  rw [← Task.run_run_mapError] at htask
  unfold load ofContent
  cases htext : bytes.toText? with
  | none =>
    simp only [htext] at htask
    rw [Task.run_run_bind_of_error htask]
  | some text =>
    simp only [htext] at htask
    rw [Task.run_run_bind_of_ok htask, Task.run_run_ofExcept]

end Reading

/-! ### What may come of a save -/

/-- **The file at the place is guarded**: it holds a part of the text of the wallet and nothing
else, and if it holds anything, only its owner may read it. Everything else is as it was. -/
def IsGuarded (wallet : Wallet S) (disk : Disk) (place : Place) (after : Disk) : Prop :=
  ∃ written mode, after = disk.put place (.file written mode) ∧ written <+: wallet.content ∧
    (written = [] ∨ mode = privateMode)

/-- A save that has opened its file goes through these moments and ends like this. -/
structure Saves (wallet : Wallet S) (disk : Disk) (place : Place)
    (moments : List (Moment files Disk)) (result : Except Error Unit) (last : Disk) : Prop where
  moments : ∀ moment ∈ moments, wallet.IsGuarded disk place moment.after
  complete : result = .ok () → last = disk.put place (.file wallet.content privateMode)
  last : wallet.IsGuarded disk place last

theorem isGuarded_nil (wallet : Wallet S) (disk : Disk) (place : Place) (mode : UInt32) :
    wallet.IsGuarded disk place (disk.put place (.file [] mode)) :=
  ⟨[], mode, rfl, List.nil_prefix, .inl rfl⟩

theorem isGuarded_private {wallet : Wallet S} {written : Bytes} (h : written <+: wallet.content)
    (disk : Disk) (place : Place) :
    wallet.IsGuarded disk place (disk.put place (.file written privateMode)) :=
  ⟨written, privateMode, rfl, h, .inr rfl⟩

section Unfolding

variable {wallet : Wallet S} {path : Path} {disk last : Disk} {place : Place}
  {moments : List (Moment files Disk)}

/-- The mode is set, and then the text is written. -/
theorem unfolds_setMode_write {old : UInt32} {result : Except FileSystem.Error Unit}
    (hplace : disk.placeForFile path = .ok place) (hfile : disk.find? place ≠ some .directory)
    (h : Unfolds Yields (do
        setMode path privateMode
        appendAll path wallet.content
        sync path : Task files FileSystem.Error Unit).run
      (disk.put place (.file [] old)) moments result last) :
    wallet.Saves disk place moments (result.mapError fileFailed) last := by
  rcases Task.unfolds_bind_iff.1 h with
    ⟨cause, hmode, rfl⟩ | ⟨_, between, first, second, rfl, hmode, hwrite⟩
  · obtain ⟨rfl, hstep⟩ := unfolds_perform_iff.1 hmode
    rcases hstep.setMode hplace hfile with ⟨-, rfl⟩ | ⟨hok, -⟩
    · -- The old mode stays, but nothing is written.
      refine ⟨?_, (nomatch ·), isGuarded_nil wallet disk place old⟩
      rw [List.forall_mem_singleton]
      exact isGuarded_nil wallet disk place old
    · cases hok
  · obtain ⟨rfl, hstep⟩ := unfolds_perform_iff.1 hmode
    rcases hstep.setMode hplace hfile with ⟨⟨cause, hcause⟩, -⟩ | ⟨-, rfl⟩
    · cases hcause
    · -- From here on the file is private, so it does not matter how much is written.
      obtain ⟨hmoments, written, hpart, hwritten, rfl⟩ :=
        unfolds_appendAll_sync hplace hfile hwrite
      refine ⟨?_, fun hok => ?_, isGuarded_private hpart disk place⟩
      · rw [List.singleton_append, List.forall_mem_cons]
        refine ⟨isGuarded_nil wallet disk place privateMode, fun moment hmoment => ?_⟩
        obtain ⟨part, hpart', hafter⟩ := hmoments moment hmoment
        rw [hafter]
        exact isGuarded_private hpart' disk place
      · cases result with
        | error cause => cases hok
        | ok => rw [hwritten rfl, List.nil_append]

/-- **What may come of a save**: the file is not opened and nothing changes, or it is opened. -/
theorem unfolds_save {result : Except Error Unit}
    (h : Unfolds Yields (wallet.save path).run disk moments result last) :
    (∃ cause, moments = [⟨.openEmpty path privateMode, .error cause, disk⟩] ∧
      result = .error (fileFailed cause) ∧ last = disk) ∨
    ∃ place, disk.placeForFile path = .ok place ∧ disk.find? place ≠ some .directory ∧
      wallet.Saves disk place moments result last := by
  obtain ⟨value, hsave, rfl⟩ := Task.unfolds_mapError_iff.1 h
  rcases Task.unfolds_bind_iff.1 hsave with
    ⟨cause, hopen, rfl⟩ | ⟨_, between, first, second, rfl, hopen, hrest⟩
  · obtain ⟨rfl, hstep⟩ := unfolds_perform_iff.1 hopen
    rcases hstep.openEmpty with ⟨-, rfl⟩ | ⟨hok, -⟩
    · exact .inl ⟨cause, rfl, rfl, rfl⟩
    · cases hok
  · obtain ⟨rfl, hstep⟩ := unfolds_perform_iff.1 hopen
    rcases hstep.openEmpty with ⟨⟨cause, hcause⟩, -⟩ | ⟨-, place, old, hplace, hfile, rfl⟩
    · cases hcause
    · refine .inr ⟨place, hplace, hfile, ?_⟩
      obtain ⟨hmoments, hcomplete, hlast⟩ := unfolds_setMode_write hplace hfile hrest
      refine ⟨?_, hcomplete, hlast⟩
      rw [List.singleton_append, List.forall_mem_cons]
      exact ⟨isGuarded_nil wallet disk place old, hmoments⟩

end Unfolding

/-! ### Where nothing fails -/

section Working

variable {disk : Disk} {path : Path} {place : Place}
  (hplace : disk.placeForFile path = .ok place) (hfile : disk.find? place ≠ some .directory)

include hplace hfile

theorem run_appendAll (old bytes : Bytes) (mode : UInt32) :
    (appendAll path bytes).run.run Disk.handle (disk.put place (.file old mode)) =
      (.ok (), disk.put place (.file (old ++ bytes) mode)) := by
  have hnothing (disk : Disk) : (appendAll path []).run.run Disk.handle disk = (.ok (), disk) := by
    rw [appendAll, if_pos rfl]
    rfl
  by_cases hnil : bytes = []
  · rw [hnil, List.append_nil]
    exact hnothing _
  · have hlength : bytes.length ≠ 0 := List.length_eq_zero_iff.not.2 hnil
    -- All of the bytes are taken at once.
    rw [appendAll, if_neg hnil, ExceptT.run_mk, run_ask, handle_append hplace hfile]
    simp only [hlength, dite_false, List.drop_length]
    exact hnothing _

theorem exists_run_openEmpty (mode : UInt32) :
    ∃ old, (openEmpty path mode).run.run Disk.handle disk =
      (.ok (), disk.put place (.file [] old)) := by
  rw [openEmpty, ExceptT.run_mk, run_perform, handle, hplace]
  dsimp only
  split
  · rename_i hdirectory
    exact absurd hdirectory hfile
  · exact ⟨_, rfl⟩
  · exact ⟨_, rfl⟩

theorem run_setMode (content : Bytes) (old mode : UInt32) :
    (setMode path mode).run.run Disk.handle (disk.put place (.file content old)) =
      (.ok (), disk.put place (.file content mode)) := by
  rw [setMode, ExceptT.run_mk, run_perform, handle, change_put_of_placeForFile hplace hfile]

theorem run_sync (content : Bytes) (mode : UInt32) :
    (FileSystem.sync path).run.run Disk.handle (disk.put place (.file content mode)) =
      (.ok (), disk.put place (.file content mode)) := by
  rw [FileSystem.sync, ExceptT.run_mk, run_perform, handle, change_put_of_placeForFile hplace hfile]

theorem run_save (wallet : Wallet S) :
    ((wallet.save path).run.run Disk.handle disk).1 = .ok () := by
  obtain ⟨old, hopen⟩ := exists_run_openEmpty hplace hfile privateMode
  have hmode := run_setMode hplace hfile [] old privateMode
  have hwrite := run_appendAll hplace hfile [] wallet.content privateMode
  have hsync := run_sync hplace hfile wallet.content privateMode
  rw [List.nil_append] at hwrite
  rw [save, Task.run_run_mapError, Task.run_run_bind_of_ok hopen, Task.run_run_bind_of_ok hmode,
    ← content, Task.run_run_bind_of_ok hwrite, hsync]
  rfl

end Working

/-- **A save guards the file at every moment and replaces it completely.** Whatever becomes of its
steps, either the file cannot be opened and nothing changes, or at each moment from then on the file
is empty or private, and nothing else changes. If the save ends well, the file holds the text of the
wallet and nothing more, is private, and loads as the wallet. It does end well where there is a
place for the file and nothing fails, whatever was there before. -/
theorem save_replaces (wallet : Wallet S) (path : Path) (disk : Disk) :
    (∀ moments result last, Unfolds Yields (wallet.save path).run disk moments result last →
      (∃ cause, moments = [⟨.openEmpty path privateMode, .error cause, disk⟩] ∧
        result = .error (fileFailed cause) ∧ last = disk) ∨
      ∃ place, disk.placeForFile path = .ok place ∧ disk.find? place ≠ some .directory ∧
        (∀ moment ∈ moments, wallet.IsGuarded disk place moment.after) ∧
        (result = .ok () →
          last.look path = .ok (.file (Bytes.ofText wallet.serialize) privateMode) ∧
          (∀ other, other ≠ place → last.find? other = disk.find? other) ∧
          ((load S path).run.run Disk.handle last).1 = .ok wallet)) ∧
    ∀ place, disk.placeForFile path = .ok place → disk.find? place ≠ some .directory →
      ((wallet.save path).run.run Disk.handle disk).1 = .ok () := by
  refine ⟨fun moments result last h => ?_, fun place hplace hfile => run_save hplace hfile wallet⟩
  rcases unfolds_save h with hclosed | ⟨place, hplace, hfile, hsaves⟩
  · exact .inl hclosed
  refine .inr ⟨place, hplace, hfile, hsaves.moments, fun hok => ?_⟩
  rw [hsaves.complete hok]
  have hlook := look_put_of_placeForFile hplace hfile (.file wallet.content privateMode)
  refine ⟨hlook, fun other hother => find?_put_of_ne hother, ?_⟩
  rw [run_load_of_look hlook, ofContent_content]

/-- Where a wallet is saved, right below the root. -/
def alicePath : Path := ⟨["", "alice.json"]⟩

/-- A file that everybody may read and that is longer than the text of a wallet. -/
def sharedDisk : Disk := empty.put ["alice.json"] (.file (List.replicate 1000 0x6f) 0o644)

theorem placeForFile_sharedDisk : sharedDisk.placeForFile alicePath = .ok ["alice.json"] := by
  decide +kernel

theorem find?_sharedDisk :
    sharedDisk.find? ["alice.json"] = some (.file (List.replicate 1000 0x6f) 0o644) := rfl

/-- A save to this file ends well, and nothing is left of what it held. -/
theorem save_replaces_shared :
    ((sampleWallet.save alicePath).run.run Disk.handle sharedDisk).1 = .ok () ∧
    ((sampleWallet.save alicePath).run.run Disk.handle sharedDisk).2.look alicePath =
      .ok (.file (Bytes.ofText sampleWallet.serialize) privateMode) ∧
    ((load sampleScheme alicePath).run.run Disk.handle
      ((sampleWallet.save alicePath).run.run Disk.handle sharedDisk).2).1 = .ok sampleWallet := by
  obtain ⟨hunfolds, hruns⟩ := save_replaces sampleWallet alicePath sharedDisk
  have hok := hruns ["alice.json"] placeForFile_sharedDisk (ne_directory_of_file find?_sharedDisk)
  obtain ⟨moments, hway⟩ := unfolds_run (sampleWallet.save alicePath).run sharedDisk
  rcases hunfolds _ _ _ hway with ⟨cause, -, herror, -⟩ | ⟨place, -, -, -, hcomplete⟩
  · rw [hok] at herror
    cases herror
  · obtain ⟨hlook, -, hload⟩ := hcomplete hok
    exact ⟨hok, hlook, hload⟩

end Remit.Wallet
