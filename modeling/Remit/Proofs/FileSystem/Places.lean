import Remit.Proofs.FileSystem.Moments
import Remit.Proofs.Keystore.Names

/-!
# Where things are put on a disk

A new file is put at a place that the path of the file leads to afterwards, and stays there however
its content is changed (`locate_put_of_placeForFile`). Directories are made on the way of a path
only (`Gains`), and nothing else changes when they are. From these follows what may come of each
step of a disk, whether it works or not (`Yields`).

* `Yields.createNew`, `Yields.openEmpty`, `Yields.makeDirectories`: what a step may leave that makes
  something new;
* `Yields.setMode`, `Yields.append`, `Yields.sync`: what a step may leave of a file that is there;
* `unfolds_appendAll`: whatever becomes of the chunks, what is written is a part of the bytes from
  their start.
-/

namespace Remit.FileSystem

open Activity

namespace Path

/-! ### Slashes at the end -/

theorem exists_parts_eq_trimmed (path : Path) :
    ∃ count, path.parts = path.trimmed ++ List.replicate count "" := by
  have hsplit := List.takeWhile_append_dropWhile (p := (· == "")) (l := path.parts.reverse)
  refine ⟨(path.parts.reverse.takeWhile (· == "")).length, ?_⟩
  have hempty : path.parts.reverse.takeWhile (· == "") =
      List.replicate (path.parts.reverse.takeWhile (· == "")).length "" := by
    refine List.eq_replicate_length.2 fun part hpart => ?_
    simpa using List.mem_takeWhile_imp hpart
  rw [trimmed]
  conv_lhs => rw [← List.reverse_reverse path.parts, ← hsplit, List.reverse_append, hempty]
  rw [List.reverse_replicate]

theorem trimmed_eq_front_concat {path : Path} (h : isName path.last = true) :
    path.trimmed = path.front ++ [path.last] := by
  have hne : path.trimmed ≠ [] := by
    intro hnil
    rw [last, hnil] at h
    cases h
  rw [front, last, List.getLastD_eq_getLast?, List.getLast?_eq_getLast_of_ne_nil hne]
  exact (List.dropLast_append_getLast hne).symm

/-- A path that ends in a name has slashes behind it, if anything. -/
theorem exists_parts_eq_front {path : Path} (h : isName path.last = true) :
    ∃ count, path.parts = path.front ++ [path.last] ++ List.replicate count "" := by
  rw [← trimmed_eq_front_concat h]
  exact exists_parts_eq_trimmed path

theorem parts_eq_front_concat {path : Path} (h : isName path.last = true)
    (hslash : path.endsInSlash = false) : path.parts = path.front ++ [path.last] := by
  obtain ⟨count, hparts⟩ := exists_parts_eq_front h
  cases count with
  | zero => rw [hparts, List.replicate_zero, List.append_nil]
  | succ count =>
    rw [endsInSlash, hparts, List.replicate_succ', ← List.append_assoc,
      List.getLast?_concat] at hslash
    cases hslash

end Path

namespace Disk

variable {disk : Disk} {path : Path} {place : Place}

/-! ### What is put -/

theorem ne_directory_of_none (h : disk.find? place = none) :
    disk.find? place ≠ some .directory := by
  rw [h]
  exact fun heq => nomatch heq

theorem ne_directory_of_file {content : Bytes} {mode : UInt32}
    (h : disk.find? place = some (.file content mode)) : disk.find? place ≠ some .directory := by
  rw [h]
  exact fun heq => nomatch heq

theorem find?_put_self {entry : Entry} (h : place ≠ []) :
    (disk.put place entry).find? place = some entry := by
  rw [find?_put h, if_pos rfl]

theorem find?_put_of_ne {entry : Entry} {other : Place} (h : other ≠ place) :
    (disk.put place entry).find? other = disk.find? other := by
  by_cases hnil : other = []
  · rw [hnil]
    rfl
  · rw [find?_put hnil, if_neg h]

theorem putEntry_putEntry (place : Place) (old new : Entry) (entries : List (Place × Entry)) :
    putEntry place new (putEntry place old entries) = putEntry place new entries := by
  induction entries with
  | nil => simp [putEntry]
  | cons first rest ih =>
    obtain ⟨other, entry⟩ := first
    by_cases h : place = other
    · simp [putEntry, h]
    · simp [putEntry, h, ih]

@[simp] theorem put_put (disk : Disk) (place : Place) (old new : Entry) :
    (disk.put place old).put place new = disk.put place new :=
  congrArg Disk.mk (putEntry_putEntry place old new disk.entries)

/-! ### The place of a new file -/

theorem walk_concat_eq_ok_iff {start : Place} {parts : List String} {part : String} :
    disk.walk start (parts ++ [part]) = .ok place ↔
      ∃ above, disk.walk start parts = .ok above ∧ disk.move above part = .ok place := by
  rw [walk_append]
  cases disk.walk start parts with
  | error cause => simp
  | ok above =>
    simp only [walk, Except.ok.injEq, exists_eq_left']
    cases disk.move above part <;> simp

theorem locate_eq_ok_iff :
    disk.locate path = .ok place ↔ path.flaw? = none ∧ disk.walk [] path.parts = .ok place := by
  unfold locate
  cases path.flaw? <;> simp

/-- A move that stays ends where it starts. -/
theorem eq_of_move_stay {part : String} {above : Place} (hpart : Path.isStay part = true)
    (h : disk.move above part = .ok place) : place = above := by
  rw [move, find?_of_move h] at h
  simp only [hpart, if_true] at h
  exact (Except.ok.inj h).symm

/-- The last move of a path starts where the parts before it lead. -/
theorem walk_front_of_above {above : Place} (h : disk.above path = .ok above) :
    path.flaw? = none ∧ disk.walk [] path.front = .ok above := by
  unfold Disk.above at h
  split at h
  · cases h
  · rename_i hflaw
    obtain ⟨start, hstart, hstay⟩ := walk_concat_eq_ok_iff.1 h
    rw [eq_of_move_stay rfl hstay]
    exact ⟨hflaw, hstart⟩

theorem exists_move_of_placeForFile (h : disk.placeForFile path = .ok place) :
    path.endsInSlash = false ∧ Path.isName path.last = true ∧
      ∃ above, disk.above path = .ok above ∧ disk.move above path.last = .ok place := by
  unfold placeForFile at h
  split at h
  · cases h
  · rename_i above habove
    split at h
    · cases h
    · rename_i hpath
      simp only [Bool.or_eq_true, Bool.not_eq_true', not_or, Bool.not_eq_true,
        Bool.not_eq_false] at hpath
      exact ⟨hpath.1, hpath.2, above, habove, h⟩

theorem ne_nil_of_placeForFile (h : disk.placeForFile path = .ok place) : place ≠ [] := by
  obtain ⟨-, hname, above, -, hmove⟩ := exists_move_of_placeForFile h
  rw [eq_concat_of_move hname hmove]
  exact List.concat_ne_nil _ _

/-- The path of a file leads to the place where the file is put. -/
theorem locate_of_placeForFile (h : disk.placeForFile path = .ok place) :
    disk.locate path = .ok place := by
  obtain ⟨hslash, hname, above, habove, hmove⟩ := exists_move_of_placeForFile h
  obtain ⟨hflaw, hwalk⟩ := walk_front_of_above habove
  rw [locate_eq_ok_iff, Path.parts_eq_front_concat hname hslash]
  exact ⟨hflaw, walk_concat_eq_ok_iff.2 ⟨above, hwalk, hmove⟩⟩

theorem locate_of_keepsDirectories {after : Disk} (hkeeps : disk.KeepsDirectories after)
    (h : disk.locate path = .ok place) : after.locate path = .ok place := by
  rw [locate_eq_ok_iff] at h ⊢
  exact ⟨h.1, walk_of_keepsDirectories hkeeps h.2⟩

/-- It leads there also when the file is there, whatever is in it. -/
theorem locate_put_of_placeForFile (h : disk.placeForFile path = .ok place)
    (hfile : disk.find? place ≠ some .directory) (entry : Entry) :
    (disk.put place entry).locate path = .ok place :=
  locate_of_keepsDirectories (keepsDirectories_put (.inr hfile)) (locate_of_placeForFile h)

theorem look_put_of_placeForFile (h : disk.placeForFile path = .ok place)
    (hfile : disk.find? place ≠ some .directory) (entry : Entry) :
    (disk.put place entry).look path = .ok entry := by
  rw [look, locate_put_of_placeForFile h hfile]
  simp only [find?_put_self (ne_nil_of_placeForFile h)]

/-- A file that is there is changed where it is. -/
theorem change_put_of_placeForFile (h : disk.placeForFile path = .ok place)
    (hfile : disk.find? place ≠ some .directory) (content : Bytes) (mode : UInt32)
    (f : Bytes → UInt32 → Bytes × UInt32) :
    (disk.put place (.file content mode)).change path f =
      (.ok (), disk.put place (.file (f content mode).1 (f content mode).2)) := by
  rw [change, locate_put_of_placeForFile h hfile]
  simp only [find?_put_self (ne_nil_of_placeForFile h), put_put]

/-! ### New directories -/

/-- **All that is new are directories**, and the paths lead to them. -/
def Gains (paths : List Path) (disk after : Disk) : Prop :=
  ∀ place, after.find? place = disk.find? place ∨
    disk.find? place = none ∧ after.find? place = some .directory ∧
      ∃ path ∈ paths, after.locate path = .ok place

namespace Gains

variable {paths : List Path} {after last : Disk}

theorem refl (paths : List Path) (disk : Disk) : Gains paths disk disk := fun _ => .inl rfl

theorem keepsDirectories (h : Gains paths disk after) : disk.KeepsDirectories after := by
  intro place hplace
  rcases h place with heq | ⟨-, hnew, -⟩
  · rw [heq, hplace]
  · exact hnew

theorem mono (h : Gains paths disk after) {more : List Path} (hmore : paths ⊆ more) :
    Gains more disk after := by
  intro place
  rcases h place with heq | ⟨hnone, hnew, path, hpath, hlocate⟩
  · exact .inl heq
  · exact .inr ⟨hnone, hnew, path, hmore hpath, hlocate⟩

theorem trans (h : Gains paths disk after) (h' : Gains paths after last) :
    Gains paths disk last := by
  intro place
  rcases h' place with heq' | ⟨hnone', hnew', hpath'⟩
  · rcases h place with heq | ⟨hnone, hnew, path, hpath, hlocate⟩
    · exact .inl (heq'.trans heq)
    · exact .inr ⟨hnone, heq'.trans hnew, path, hpath,
        locate_of_keepsDirectories h'.keepsDirectories hlocate⟩
  · rcases h place with heq | ⟨-, hnew, -⟩
    · exact .inr ⟨heq ▸ hnone', hnew', hpath'⟩
    · rw [hnew] at hnone'
      cases hnone'

/-- What was there is still there, as it was. -/
theorem find?_eq (h : Gains paths disk after) (hplace : disk.find? place ≠ none) :
    after.find? place = disk.find? place := by
  rcases h place with heq | ⟨hnone, -⟩
  · exact heq
  · exact absurd hnone hplace

/-- No file is new. -/
theorem find?_file_iff (h : Gains paths disk after) {content : Bytes} {mode : UInt32} :
    after.find? place = some (.file content mode) ↔
      disk.find? place = some (.file content mode) := by
  rcases h place with heq | ⟨hnone, hnew, -⟩
  · rw [heq]
  · simp [hnone, hnew]

end Gains

/-- Slashes behind the path of a directory that is there lead nowhere else. -/
theorem walk_replicate_empty (hplace : disk.find? place = some .directory) (count : Nat) :
    disk.walk place (List.replicate count "") = .ok place := by
  induction count with
  | zero => rfl
  | succ count ih =>
    have hstay : disk.move place "" = .ok place := by
      rw [move, hplace]
      rfl
    rw [List.replicate_succ, walk, hstay]
    exact ih

/-- The path of a directory leads to the place where the directory is put, once it is there. -/
theorem locate_put_of_placeForDirectory (h : disk.placeForDirectory path = .ok place) :
    (disk.put place .directory).locate path = .ok place := by
  unfold placeForDirectory at h
  split at h
  · cases h
  · rename_i above habove
    split at h
    · rename_i hname
      obtain ⟨hflaw, hwalk⟩ := walk_front_of_above habove
      obtain ⟨count, hparts⟩ := Path.exists_parts_eq_front hname
      have hkeeps : disk.KeepsDirectories (disk.put place .directory) :=
        keepsDirectories_put (.inl rfl)
      have hnil : place ≠ [] := by
        rw [eq_concat_of_move hname h]
        exact List.concat_ne_nil _ _
      have hfront : (disk.put place .directory).walk [] (path.front ++ [path.last]) = .ok place :=
        walk_of_keepsDirectories hkeeps (walk_concat_eq_ok_iff.2 ⟨above, hwalk, h⟩)
      rw [locate_eq_ok_iff, hparts, walk_append, hfront]
      exact ⟨hflaw, walk_replicate_empty (find?_put_self hnil) count⟩
    · cases h

theorem gains_put_directory {paths : List Path} (h : disk.placeForDirectory path = .ok place)
    (hnone : disk.find? place = none) (hpath : path ∈ paths) :
    Gains paths disk (disk.put place .directory) := by
  intro other
  by_cases heq : other = place
  · subst heq
    have hnil : other ≠ [] := by
      rintro rfl
      cases hnone
    exact .inr ⟨hnone, find?_put_self hnil, path, hpath, locate_put_of_placeForDirectory h⟩
  · exact .inl (find?_put_of_ne heq)

theorem gains_makeDirectory {paths : List Path} {after : Disk} (hpath : path ∈ paths)
    (h : disk.makeDirectory path = .ok after) : Gains paths disk after := by
  unfold makeDirectory at h
  split at h
  · split at h
    · cases h
      exact .refl paths disk
    · cases h
  · rename_i place hplace
    split at h
    · rename_i hnone
      cases h
      exact gains_put_directory hplace hnone hpath
    · cases h
      exact .refl paths disk
    · cases h

/-- Making a directory and those above it makes directories, on this way. The induction is over
those above it. -/
theorem gains_makeLineage (paths : List Path) (disk : Disk) :
    Gains paths disk (disk.makeLineage paths).2 := by
  induction paths generalizing disk with
  | nil => exact .refl [] disk
  | cons path rest ih =>
    have habove : Gains (path :: rest) disk (disk.makeLineage rest).2 :=
      (ih disk).mono (List.subset_cons_self _ _)
    rw [makeLineage]
    split
    · rename_i hmake
      exact gains_makeDirectory List.mem_cons_self hmake
    · split
      · rename_i hrest
        rwa [hrest] at habove
      · rename_i hrest
        rw [hrest] at habove
        split
        · rename_i hmake
          exact habove.trans (gains_makeDirectory List.mem_cons_self hmake)
        · exact habove
    · exact .refl _ disk

/-! ### The footprint of a step -/

/-- **Only this is touched**: new directories that the paths lead to, and what the path of the file
leads to. No directory is taken away. -/
structure Touches (paths : List Path) (file : Path) (disk after : Disk) : Prop where
  keeps : disk.KeepsDirectories after
  places : ∀ place, after.find? place = disk.find? place ∨
    (disk.find? place = none ∧ after.find? place = some .directory ∧
      ∃ path ∈ paths, after.locate path = .ok place) ∨
    after.locate file = .ok place

namespace Touches

variable {paths : List Path} {file : Path} {after last : Disk}

theorem refl (paths : List Path) (file : Path) (disk : Disk) : Touches paths file disk disk :=
  ⟨fun _ h => h, fun _ => .inl rfl⟩

theorem trans (h : Touches paths file disk after) (h' : Touches paths file after last) :
    Touches paths file disk last := by
  refine ⟨fun place hplace => h'.keeps place (h.keeps place hplace), fun place => ?_⟩
  rcases h.places place with heq | ⟨hnone, hnew, path, hpath, hlocate⟩ | hlocate
  · rw [← heq]
    exact h'.places place
  · exact .inr (.inl ⟨hnone, h'.keeps place hnew, path, hpath,
      locate_of_keepsDirectories h'.keeps hlocate⟩)
  · exact .inr (.inr (locate_of_keepsDirectories h'.keeps hlocate))

theorem of_gains (h : Gains paths disk after) (file : Path) : Touches paths file disk after := by
  refine ⟨h.keepsDirectories, fun place => ?_⟩
  rcases h place with heq | hnew
  · exact .inl heq
  · exact .inr (.inl hnew)

/-- A file that is put where its path leads. -/
theorem put_file {entry : Entry} (hlocate : disk.locate file = .ok place)
    (hfile : disk.find? place ≠ some .directory) :
    Touches paths file disk (disk.put place entry) := by
  have hkeeps : disk.KeepsDirectories (disk.put place entry) := keepsDirectories_put (.inr hfile)
  refine ⟨hkeeps, fun other => ?_⟩
  by_cases hother : other = place
  · rw [hother]
    exact .inr (.inr (locate_of_keepsDirectories hkeeps hlocate))
  · exact .inl (find?_put_of_ne hother)

theorem change (disk : Disk) (file : Path) (f : Bytes → UInt32 → Bytes × UInt32) :
    Touches paths file disk (disk.change file f).2 := by
  unfold Disk.change
  split
  · exact .refl paths file disk
  · rename_i place hlocate
    split
    · exact .refl paths file disk
    · exact .refl paths file disk
    · rename_i hfile
      exact put_file hlocate (ne_directory_of_file hfile)

end Touches

/-! ### Bytes that are written in chunks -/

/-- **A part of the bytes is written**, from their start and behind what the file held, at each of
the moments and at the end; and all of them if nothing failed. -/
structure Appends (disk : Disk) (place : Place) (old bytes : Bytes) (mode : UInt32)
    (moments : List (Moment files Disk)) (result : Except Error Unit) (last : Disk) : Prop where
  moments : ∀ moment ∈ moments, ∃ written, written <+: bytes ∧
    moment.after = disk.put place (.file (old ++ written) mode)
  last : ∃ written, written <+: bytes ∧ (result = .ok () → written = bytes) ∧
    last = disk.put place (.file (old ++ written) mode)

namespace Appends

variable {old bytes : Bytes} {mode : UInt32} {moments : List (Moment files Disk)}
  {result : Except Error Unit} {last : Disk} {moment : Moment files Disk}

theorem of_nil (place : Place) (old : Bytes) (mode : UInt32) (disk : Disk) :
    Appends disk place old [] mode [] (.ok ()) (disk.put place (.file old mode)) where
  moments := fun moment hmoment => nomatch hmoment
  last := ⟨[], List.prefix_rfl, fun _ => rfl, by rw [List.append_nil]⟩

/-- A step that takes nothing is the last one. -/
theorem stopped (cause : Error)
    (hafter : moment.after = disk.put place (.file old mode)) :
    Appends disk place old bytes mode [moment] (.error cause) moment.after where
  moments := by
    rw [List.forall_mem_singleton]
    exact ⟨[], List.nil_prefix, by rw [hafter, List.append_nil]⟩
  last := ⟨[], List.nil_prefix, (nomatch ·), by rw [hafter, List.append_nil]⟩

/-- After a step that takes some of the bytes the others are left. -/
theorem more {taken : Nat}
    (hafter : moment.after = disk.put place (.file (old ++ bytes.take taken) mode))
    (h : Appends disk place (old ++ bytes.take taken) (bytes.drop taken) mode moments result last) :
    Appends disk place old bytes mode (moment :: moments) result last := by
  have hextend : ∀ {part : Bytes}, part <+: bytes.drop taken →
      bytes.take taken ++ part <+: bytes := by
    intro part hpart
    conv_rhs => rw [← List.take_append_drop taken bytes]
    exact (List.prefix_append_right_inj _).2 hpart
  obtain ⟨hmoments, written, hwritten, hresult, hlast⟩ := h
  constructor
  · rw [List.forall_mem_cons]
    refine ⟨⟨_, List.take_prefix taken bytes, hafter⟩, fun later hlater => ?_⟩
    obtain ⟨part, hpart, heq⟩ := hmoments later hlater
    exact ⟨_, hextend hpart, by rw [heq, List.append_assoc]⟩
  · refine ⟨_, hextend hwritten, fun hok => ?_, by rw [hlast, List.append_assoc]⟩
    rw [hresult hok, List.take_append_drop]

end Appends

/-! ### What may come of the steps -/

section Steps

variable {after : Disk}

theorem Yields.makeDirectories {answer : Except Error Unit}
    (h : Yields (.makeDirectories path) disk answer after) : Gains path.lineage disk after := by
  cases h with
  | works => exact gains_makeLineage path.lineage disk
  | fails => exact .refl _ disk
  | partlyMade _ count => exact (gains_makeLineage _ disk).mono (List.drop_subset count _)

theorem Yields.createNew {mode : UInt32} {answer : Except Error Unit}
    (h : Yields (.createNew path mode) disk answer after) :
    (∃ cause, answer = .error cause) ∧ after = disk ∨
      answer = .ok () ∧ ∃ place, disk.placeForFile path = .ok place ∧ disk.find? place = none ∧
        after = disk.put place (.file [] mode) := by
  cases h with
  | works =>
    rw [handle]
    split
    · exact .inl ⟨⟨_, rfl⟩, rfl⟩
    · rename_i place hplace
      split
      · exact .inl ⟨⟨_, rfl⟩, rfl⟩
      · rename_i hnone
        exact .inr ⟨rfl, place, hplace, hnone, rfl⟩
  | fails _ cause => exact .inl ⟨⟨cause, rfl⟩, rfl⟩

theorem Yields.openEmpty {mode : UInt32} {answer : Except Error Unit}
    (h : Yields (.openEmpty path mode) disk answer after) :
    (∃ cause, answer = .error cause) ∧ after = disk ∨
      answer = .ok () ∧ ∃ place old, disk.placeForFile path = .ok place ∧
        disk.find? place ≠ some .directory ∧ after = disk.put place (.file [] old) := by
  cases h with
  | works =>
    rw [handle]
    split
    · exact .inl ⟨⟨_, rfl⟩, rfl⟩
    · rename_i place hplace
      split
      · exact .inl ⟨⟨_, rfl⟩, rfl⟩
      · rename_i content old hfile
        exact .inr ⟨rfl, place, old, hplace, ne_directory_of_file hfile, rfl⟩
      · rename_i hnone
        exact .inr ⟨rfl, place, mode, hplace, ne_directory_of_none hnone, rfl⟩
  | fails _ cause => exact .inl ⟨⟨cause, rfl⟩, rfl⟩

/-- **A step touches what its path leads to**, unless it makes directories. -/
theorem Yields.touches {op : Op} {answer : op.Answer} (h : Yields op disk answer after)
    (hop : ∀ path, op ≠ .makeDirectories path) (paths : List Path) :
    Touches paths op.path disk after := by
  cases op with
  | «exists» path =>
    rw [h.eq_of_isLook trivial]
    exact .refl paths path disk
  | makeDirectories path => exact absurd rfl (hop path)
  | createNew path mode =>
    rcases Yields.createNew h with ⟨-, rfl⟩ | ⟨-, place, hplace, hnone, rfl⟩
    · exact .refl paths path after
    · exact .put_file (locate_of_placeForFile hplace) (ne_directory_of_none hnone)
  | openEmpty path mode =>
    rcases Yields.openEmpty h with ⟨-, rfl⟩ | ⟨-, place, old, hplace, hfile, rfl⟩
    · exact .refl paths path after
    · exact .put_file (locate_of_placeForFile hplace) hfile
  | setMode path mode =>
    cases h with
    | works => exact .change disk path _
    | fails => exact .refl paths path disk
  | append path bytes =>
    cases h with
    | works => exact .change disk path _
    | fails => exact .refl paths path disk
    | cutShort => exact .change disk path _
  | sync path =>
    cases h with
    | works => exact .change disk path _
    | fails => exact .refl paths path disk
  | read path =>
    rw [h.eq_of_isLook trivial]
    exact .refl paths path disk
  | list path =>
    rw [h.eq_of_isLook trivial]
    exact .refl paths path disk

variable (hplace : disk.placeForFile path = .ok place) (hfile : disk.find? place ≠ some .directory)
  {content : Bytes} {old : UInt32}

include hplace hfile

theorem Yields.setMode {mode : UInt32} {answer : Except Error Unit}
    (h : Yields (.setMode path mode) (disk.put place (.file content old)) answer after) :
    (∃ cause, answer = .error cause) ∧ after = disk.put place (.file content old) ∨
      answer = .ok () ∧ after = disk.put place (.file content mode) := by
  cases h with
  | works =>
    rw [handle, change_put_of_placeForFile hplace hfile]
    exact .inr ⟨rfl, rfl⟩
  | fails _ cause => exact .inl ⟨⟨cause, rfl⟩, rfl⟩

theorem Yields.sync {answer : Except Error Unit}
    (h : Yields (.sync path) (disk.put place (.file content old)) answer after) :
    after = disk.put place (.file content old) := by
  cases h with
  | works => rw [handle, change_put_of_placeForFile hplace hfile]
  | fails => rfl

theorem handle_append (bytes : Bytes) :
    handle (.append path bytes) (disk.put place (.file content old)) =
      (.ok bytes.length, disk.put place (.file (content ++ bytes) old)) := by
  rw [handle, change_put_of_placeForFile hplace hfile]
  rfl

theorem Yields.append {bytes : Bytes} {answer : Except Error Nat}
    (h : Yields (.append path bytes) (disk.put place (.file content old)) answer after) :
    (∃ cause, answer = .error cause) ∧ after = disk.put place (.file content old) ∨
      ∃ count, count ≤ bytes.length ∧ answer = .ok count ∧
        after = disk.put place (.file (content ++ bytes.take count) old) := by
  cases h with
  | works =>
    rw [handle_append hplace hfile]
    exact .inr ⟨bytes.length, le_rfl, rfl, by rw [List.take_length]⟩
  | fails _ cause => exact .inl ⟨⟨cause, rfl⟩, rfl⟩
  | cutShort _ _ count =>
    rw [handle_append hplace hfile]
    refine .inr ⟨min count bytes.length, min_le_right _ _, by rw [List.length_take], ?_⟩
    rw [List.take_eq_take_min]

/-- **Whatever becomes of the chunks**, they are written one behind the other. The induction is over
the number of bytes. -/
theorem unfolds_appendAll {bytes : Bytes} {moments : List (Moment files Disk)}
    {result : Except Error Unit} {last : Disk}
    (h : Unfolds Yields (appendAll path bytes).run (disk.put place (.file content old)) moments
      result last) :
    Appends disk place content bytes old moments result last := by
  induction hcount : bytes.length using Nat.strong_induction_on
    generalizing bytes content moments with
  | _ count ih =>
  rw [appendAll] at h
  by_cases hnil : bytes = []
  · rw [if_pos hnil] at h
    obtain ⟨rfl, rfl, rfl⟩ := unfolds_done_iff.1 h
    subst hnil
    exact .of_nil place content old disk
  rw [if_neg hnil] at h
  obtain ⟨answer, after, rest, rfl, hstep, hnext⟩ := unfolds_ask_iff.1 h
  rcases Yields.append hplace hfile hstep with ⟨⟨cause, rfl⟩, hafter⟩ | ⟨taken, hle, rfl, hafter⟩
  · obtain ⟨rfl, rfl, rfl⟩ := unfolds_done_iff.1 hnext
    exact .stopped cause hafter
  by_cases hzero : taken = 0
  · subst hzero
    -- Nothing is taken, and the loop gives up.
    simp only [dite_true] at hnext
    obtain ⟨rfl, rfl, rfl⟩ := unfolds_done_iff.1 hnext
    rw [List.take_zero, List.append_nil] at hafter
    exact .stopped .notWritten hafter
  simp only [hzero, dite_false] at hnext
  have hless : (bytes.drop taken).length < count := by
    rw [List.length_drop]
    omega
  refine .more hafter (ih _ hless ?_ rfl)
  rw [← hafter]
  exact hnext

/-- The same with a wait for the file to be safe, after which nothing is different. -/
theorem unfolds_appendAll_sync {bytes : Bytes} {moments : List (Moment files Disk)}
    {result : Except Error Unit} {last : Disk}
    (h : Unfolds Yields (do appendAll path bytes; FileSystem.sync path : Task files Error Unit).run
      (disk.put place (.file content old)) moments result last) :
    Appends disk place content bytes old moments result last := by
  rcases Task.unfolds_bind_iff.1 h with
    ⟨cause, hwrite, rfl⟩ | ⟨_, between, first, second, rfl, hwrite, hsync⟩
  · exact unfolds_appendAll hplace hfile hwrite
  · obtain ⟨hmoments, written, -, hwritten, rfl⟩ := unfolds_appendAll hplace hfile hwrite
    obtain rfl := hwritten rfl
    obtain ⟨rfl, hstep⟩ := unfolds_perform_iff.1 hsync
    have hlast := hstep.sync hplace hfile
    constructor
    · rw [List.forall_mem_append, List.forall_mem_singleton]
      exact ⟨hmoments, written, List.prefix_rfl, hlast⟩
    · exact ⟨written, List.prefix_rfl, fun _ => rfl, hlast⟩

end Steps

end Disk

end Remit.FileSystem
