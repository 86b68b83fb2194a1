import Remit.FileSystem.Disk
import Remit.Proofs.Keystore.Folder

/-!
# Keystores on a disk

A disk is a reliable file system for a keystore whose directory lies in one that is there
(`reliable_disk`). Names have to be short enough for the disk; nothing else keeps a file from being
made.
-/

namespace Remit.FileSystem.Disk

/-! ### Directories that stay -/

/-- Whatever was a directory still is one. -/
def KeepsDirectories (disk after : Disk) : Prop :=
  ∀ place, disk.find? place = some .directory → after.find? place = some .directory

theorem keepsDirectories_put {disk : Disk} {place : Place} {entry : Entry}
    (h : entry = .directory ∨ disk.find? place ≠ some .directory) :
    disk.KeepsDirectories (disk.put place entry) := by
  intro other hother
  by_cases hnil : other = []
  · subst hnil
    rfl
  rw [find?_put hnil]
  split
  · rename_i heq
    subst heq
    rcases h with rfl | h
    · rfl
    · exact absurd hother h
  · exact hother

theorem find?_of_move {disk : Disk} {place next : Place} {part : String}
    (h : disk.move place part = .ok next) : disk.find? place = some .directory := by
  unfold move at h
  split at h
  · cases h
  · cases h
  · assumption

theorem move_of_keepsDirectories {disk after : Disk} (hkeeps : disk.KeepsDirectories after)
    {place next : Place} {part : String} (h : disk.move place part = .ok next) :
    after.move place part = .ok next := by
  have hplace := find?_of_move h
  unfold move at h ⊢
  rw [hkeeps place hplace]
  rw [hplace] at h
  exact h

/-- A walk passes through directories only, so it stays possible. -/
theorem walk_of_keepsDirectories {disk after : Disk} (hkeeps : disk.KeepsDirectories after)
    {parts : List String} {place last : Place} (h : disk.walk place parts = .ok last) :
    after.walk place parts = .ok last := by
  induction parts generalizing place with
  | nil => exact h
  | cons part rest ih =>
    unfold walk at h ⊢
    cases hmove : disk.move place part with
    | error cause =>
      rw [hmove] at h
      cases h
    | ok next =>
      rw [hmove] at h
      rw [move_of_keepsDirectories hkeeps hmove]
      exact ih h

/-! ### Places of entries -/

theorem map_fst_putEntry (place : Place) (entry : Entry) (entries : List (Place × Entry)) :
    (putEntry place entry entries).map Prod.fst =
      if place ∈ entries.map Prod.fst then entries.map Prod.fst
      else entries.map Prod.fst ++ [place] := by
  induction entries with
  | nil => rfl
  | cons first rest ih =>
    obtain ⟨other, old⟩ := first
    by_cases hplace : place = other
    · simp [putEntry, hplace]
    · rw [putEntry, if_neg hplace, List.map_cons, ih, List.map_cons]
      by_cases hrest : place ∈ rest.map Prod.fst
      · rw [if_pos hrest, if_pos (List.mem_cons_of_mem _ hrest)]
      · rw [if_neg hrest, if_neg (by simp only [List.mem_cons, hplace, hrest, or_self,
          not_false_eq_true]), List.cons_append]

theorem nodup_putEntry {place : Place} {entry : Entry} {entries : List (Place × Entry)}
    (h : (entries.map Prod.fst).Nodup) : ((putEntry place entry entries).map Prod.fst).Nodup := by
  rw [map_fst_putEntry]
  split
  · exact h
  · rename_i hplace
    rw [List.nodup_append]
    refine ⟨h, List.nodup_singleton _, ?_⟩
    rintro a ha b hb rfl
    rw [List.mem_singleton] at hb
    exact hplace (hb ▸ ha)

theorem names_eq (disk : Disk) (directory : Place) : disk.names directory =
    (disk.entries.map Prod.fst).filterMap fun place =>
      if place.dropLast = directory then place.getLast? else none := by
  rw [names, List.filterMap_map]
  rfl

theorem eq_concat_of_name {directory place : Place} {name : String}
    (h : (if place.dropLast = directory then place.getLast? else none) = some name) :
    place = directory ++ [name] := by
  split at h
  · rename_i hplace
    rw [← hplace]
    exact (List.dropLast_append_getLast? name h).symm
  · cases h

theorem nodup_names {disk : Disk} (h : (disk.entries.map Prod.fst).Nodup) (directory : Place) :
    (disk.names directory).Nodup := by
  rw [names_eq]
  refine h.filterMap fun a b name ha hb => ?_
  rw [eq_concat_of_name ha, eq_concat_of_name hb]

theorem mem_names_iff {disk : Disk} {directory : Place} {name : String} :
    name ∈ disk.names directory ↔ (disk.find? (directory ++ [name])).isSome := by
  have hfind : disk.find? (directory ++ [name]) = disk.entries.lookup (directory ++ [name]) := by
    rw [find?, if_neg (by simp)]
  rw [names_eq, List.mem_filterMap, hfind, List.lookup_isSome_iff]
  constructor
  · rintro ⟨place, hplace, hname⟩
    obtain ⟨entry, hentry, rfl⟩ := List.mem_map.1 hplace
    exact ⟨entry, hentry, beq_iff_eq.2 (eq_concat_of_name hname).symm⟩
  · rintro ⟨entry, hentry, hplace⟩
    refine ⟨_, List.mem_map_of_mem hentry, ?_⟩
    rw [← eq_of_beq hplace, List.dropLast_concat, if_pos rfl, List.getLast?_concat]

/-! ### Paths -/

theorem trimmed_concat (parts : List String) {last : String} (h : last ≠ "") :
    Path.trimmed ⟨parts ++ [last]⟩ = parts ++ [last] := by
  simp [Path.trimmed, h]

theorem ne_empty_of_isName {part : String} (h : Path.isName part = true) : part ≠ "" := by
  rintro rfl
  cases h

theorem move_of_isName {disk : Disk} {place : Place} (hplace : disk.find? place = some .directory)
    {part : String} (hpart : Path.isName part = true) (hlength : part.utf8ByteSize ≤ longestName) :
    disk.move place part = .ok (place ++ [part]) := by
  simp only [Path.isName, Bool.and_eq_true, Bool.not_eq_true', bne_iff_ne] at hpart
  rw [move, hplace]
  simp only [hpart.1, Bool.false_eq_true, if_false, if_neg hpart.2, if_neg (Nat.not_lt.2 hlength)]

/-- The last move of a path that ends in a name starts where the parts before it lead. -/
theorem above_concat {disk : Disk} {parts : List String} {last : String}
    (hlast : Path.isName last = true) (hflaw : Path.flaw? ⟨parts ++ [last]⟩ = none) {place : Place}
    (hwalk : disk.walk [] parts = .ok place) (hplace : disk.find? place = some .directory) :
    disk.above ⟨parts ++ [last]⟩ = .ok place := by
  have hstay : disk.walk place ["."] = .ok place := by
    simp [walk, move, hplace, Path.isStay]
  simp only [above, hflaw, Path.front, trimmed_concat parts (ne_empty_of_isName hlast),
    List.dropLast_concat, walk_append, hwalk, hstay]

theorem last_concat (parts : List String) {last : String} (h : Path.isName last = true) :
    Path.last ⟨parts ++ [last]⟩ = last := by
  rw [Path.last, trimmed_concat parts (ne_empty_of_isName h), List.getLastD_concat]

theorem endsInSlash_concat (parts : List String) {last : String} (h : Path.isName last = true) :
    Path.endsInSlash ⟨parts ++ [last]⟩ = false := by
  simp [Path.endsInSlash, ne_empty_of_isName h]

theorem child_concat (parts : List String) {last : String} (h : Path.isName last = true)
    (name : String) : Path.child ⟨parts ++ [last]⟩ name = ⟨parts ++ [last] ++ [name]⟩ := by
  rw [Path.child, endsInSlash_concat parts h]
  rfl

theorem exists_lineage_eq_cons (parts : List String) {last : String}
    (h : Path.isName last = true) :
    ∃ above, Path.lineage ⟨parts ++ [last]⟩ = ⟨parts ++ [last]⟩ :: above := by
  have hmove : last ∈ Path.moves ⟨parts ++ [last]⟩ := by
    simp only [Path.isName, Bool.and_eq_true, Bool.not_eq_true'] at h
    simp [Path.moves, h.1]
  have hpos := List.length_pos_of_mem hmove
  rw [Path.lineage]
  split
  · omega
  · exact ⟨_, rfl⟩

theorem isName_fileName (name : String) : Path.isName (Keystore.fileName name) = true := by
  have hlength : 5 ≤ (Keystore.fileName name).toList.length := by
    simp [Keystore.fileName, Keystore.extension]
  have hne (part : String) (hpart : part.toList.length < 5) :
      Keystore.fileName name ≠ part := by
    rintro rfl
    omega
  simp [Path.isName, Path.isStay, hne "" (by decide), hne "." (by decide), hne ".." (by decide)]

/-! ### The directory of a keystore -/

/-- Where a keystore is to lie: under a name, below a place that the parts before the name lead
to. -/
structure Site where
  before : List String
  name : String
  place : Place
  isName : Path.isName name = true
  short : name.utf8ByteSize ≤ longestName
  flawless : Path.flaw? ⟨before ++ [name]⟩ = none

namespace Site

open Keystore

variable (site : Site)

/-- The keystore. -/
def keystore : Keystore := ⟨⟨site.before ++ [site.name]⟩⟩

/-- The place of its directory. -/
def home : Place := site.place ++ [site.name]

/-- The disk takes a file of the name. -/
def Fits (name : String) : Prop :=
  (fileName name).utf8ByteSize ≤ longestName ∧ (site.keystore.fileFor name).flaw? = none

/-- What lies in the directory. -/
def folder (disk : Disk) : Folder :=
  match disk.find? site.home with
  | some .directory => .files fun file =>
    match disk.find? (site.home ++ [file]) with
    | some (.file content _) => some content
    | _ => none
  | _ => .absent

/-- The place above is a directory, and the directory, if it is there, has nothing but files. -/
structure IsSound (disk : Disk) : Prop where
  walk : disk.walk [] site.before = .ok site.place
  above : disk.find? site.place = some .directory
  distinct : (disk.entries.map Prod.fst).Nodup
  not_file : ∀ content mode, disk.find? site.home ≠ some (.file content mode)
  files : ∀ file, disk.find? (site.home ++ [file]) = none ∨
    disk.find? site.home = some .directory ∧
      ∃ content mode, disk.find? (site.home ++ [file]) = some (.file content mode)

/-- The directory as it is seen on the disk. -/
def view : DirectoryView Disk := ⟨site.folder, site.IsSound⟩

variable {site} {disk : Disk}

theorem IsSound.find?_home (h : site.IsSound disk) :
    disk.find? site.home = none ∧ site.folder disk = .absent ∨
      disk.find? site.home = some .directory ∧ (site.folder disk).isThere = true := by
  unfold folder
  cases hhome : disk.find? site.home with
  | none => exact .inl ⟨rfl, rfl⟩
  | some entry =>
    cases entry with
    | directory => exact .inr ⟨rfl, rfl⟩
    | file content mode => exact absurd hhome (h.not_file content mode)

theorem IsSound.find?_home_of_isThere (h : site.IsSound disk)
    (hthere : (site.folder disk).isThere = true) : disk.find? site.home = some .directory := by
  rcases h.find?_home with ⟨-, habsent⟩ | ⟨hhome, -⟩
  · rw [habsent] at hthere
    cases hthere
  · exact hhome

theorem IsSound.find?_file (h : site.IsSound disk) (file : String) :
    disk.find? (site.home ++ [file]) = none ∧ (site.folder disk).content? file = none ∨
      ∃ content mode, disk.find? (site.home ++ [file]) = some (.file content mode) ∧
        (site.folder disk).content? file = some content := by
  rcases h.files file with hnone | ⟨hhome, content, mode, hfile⟩
  · refine .inl ⟨hnone, ?_⟩
    unfold folder
    split
    · simp only [Folder.content?, hnone]
    · rfl
  · refine .inr ⟨content, mode, hfile, ?_⟩
    simp only [folder, hhome, Folder.content?, hfile]

theorem IsSound.exists_file (h : site.IsSound disk) {file : String} {content : Bytes}
    (hcontent : (site.folder disk).content? file = some content) :
    ∃ mode, disk.find? (site.home ++ [file]) = some (.file content mode) := by
  rcases h.find?_file file with ⟨-, hnone⟩ | ⟨found, mode, hfile, hfound⟩
  · rw [hnone] at hcontent
    cases hcontent
  · rw [hfound] at hcontent
    cases hcontent
    exact ⟨mode, hfile⟩

theorem IsSound.find?_file_eq_none (h : site.IsSound disk) {file : String}
    (hcontent : (site.folder disk).content? file = none) :
    disk.find? (site.home ++ [file]) = none := by
  rcases h.find?_file file with ⟨hfile, -⟩ | ⟨found, mode, -, hfound⟩
  · exact hfile
  · rw [hfound] at hcontent
    cases hcontent

/-! ### Where the paths lead -/

theorem IsSound.walk_name (h : site.IsSound disk) :
    disk.walk site.place [site.name] = .ok site.home := by
  simp only [Disk.walk, move_of_isName h.above site.isName site.short, home]

theorem IsSound.locate_directory (h : site.IsSound disk) :
    disk.locate site.keystore.directory = .ok site.home := by
  simp only [locate, keystore, site.flawless, walk_append, h.walk, h.walk_name]

theorem fileFor_eq (name : String) : site.keystore.fileFor name =
    ⟨site.before ++ [site.name] ++ [fileName name]⟩ :=
  child_concat site.before site.isName _

theorem IsSound.locate_file (h : site.IsSound disk) {name : String} (hname : site.Fits name)
    (hthere : disk.find? site.home = some .directory) :
    disk.locate (site.keystore.fileFor name) = .ok (site.home ++ [fileName name]) :=
  locate_child h.locate_directory hthere (isName_fileName name) hname.1 hname.2

/-- Where the directory is missing, the walk to a file in it ends. -/
theorem IsSound.locate_file_of_missing (h : site.IsSound disk) {name : String}
    (hname : site.Fits name) (hmissing : disk.find? site.home = none) :
    disk.locate (site.keystore.fileFor name) = .error .notFound := by
  have hfile : disk.walk site.home [fileName name] = .error .notFound := by
    simp only [Disk.walk, move, hmissing]
  rw [locate, hname.2]
  simp only [fileFor_eq, walk_append, h.walk, h.walk_name, hfile]

theorem IsSound.placeForFile (h : site.IsSound disk) {name : String} (hname : site.Fits name)
    (hthere : disk.find? site.home = some .directory) :
    disk.placeForFile (site.keystore.fileFor name) = .ok (site.home ++ [fileName name]) := by
  have hwalk : disk.walk [] (site.before ++ [site.name]) = .ok site.home := by
    rw [walk_append, h.walk]
    exact h.walk_name
  have hfile := isName_fileName name
  have hflaw := hname.2
  rw [fileFor_eq] at hflaw ⊢
  rw [Disk.placeForFile, above_concat hfile hflaw hwalk hthere]
  simp only [endsInSlash_concat _ hfile, last_concat _ hfile, hfile, Bool.not_true, Bool.or_self,
    Bool.false_eq_true, if_false]
  exact move_of_isName hthere hfile hname.1

/-! ### What is put -/

theorem find?_put_file {file : String} {entry : Entry} (place : Place) :
    (disk.put (site.home ++ [file]) entry).find? place =
      if place = site.home ++ [file] then some entry else disk.find? place := by
  by_cases hnil : place = []
  · subst hnil
    rw [if_neg (by simp)]
    rfl
  · exact find?_put hnil

theorem home_ne_file (file : String) : site.home ≠ site.home ++ [file] := by
  simp

theorem IsSound.put_file (h : site.IsSound disk) (hthere : disk.find? site.home = some .directory)
    (file : String) (content : Bytes) (mode : UInt32) :
    site.IsSound (disk.put (site.home ++ [file]) (.file content mode)) where
  walk := by
    refine walk_of_keepsDirectories (keepsDirectories_put (.inr ?_)) h.walk
    rcases h.files file with hnone | ⟨-, old, oldMode, hold⟩
    · rw [hnone]
      exact Option.some_ne_none _ |>.symm
    · rw [hold]
      exact fun heq => nomatch heq
  above := by
    have hne : site.place ≠ site.home ++ [file] := by
      simp [home]
    rw [find?_put_file, if_neg hne, h.above]
  distinct := nodup_putEntry h.distinct
  not_file other otherMode := by
    rw [find?_put_file, if_neg (home_ne_file file)]
    exact h.not_file other otherMode
  files other := by
    rw [find?_put_file, find?_put_file, if_neg (home_ne_file file)]
    split
    · exact .inr ⟨hthere, content, mode, rfl⟩
    · exact h.files other

theorem folder_put_file (hthere : disk.find? site.home = some .directory) (file : String)
    (content : Bytes) (mode : UInt32) :
    site.folder (disk.put (site.home ++ [file]) (.file content mode)) =
      (site.folder disk).write file content := by
  unfold folder Folder.write
  rw [find?_put_file, if_neg (home_ne_file file), hthere]
  refine congrArg Folder.files (funext fun other => ?_)
  rw [find?_put_file, Function.update_apply]
  by_cases hother : other = file
  · simp [hother]
  · simp [hother, Folder.content?]

theorem home_ne_nil : site.home ≠ [] := by
  simp [home]

theorem IsSound.put_directory (h : site.IsSound disk) (hmissing : disk.find? site.home = none) :
    site.IsSound (disk.put site.home .directory) where
  walk := walk_of_keepsDirectories (keepsDirectories_put (.inl rfl)) h.walk
  above := keepsDirectories_put (.inl rfl) _ h.above
  distinct := nodup_putEntry h.distinct
  not_file content mode := by
    rw [find?_put home_ne_nil, if_pos rfl]
    exact fun heq => nomatch heq
  files file := by
    refine .inl ?_
    rw [find?_put (by simp), if_neg (home_ne_file file).symm]
    rcases h.files file with hnone | ⟨hthere, -⟩
    · exact hnone
    · rw [hmissing] at hthere
      cases hthere

theorem folder_put_directory (h : site.IsSound disk) (hmissing : disk.find? site.home = none) :
    site.folder (disk.put site.home .directory) = (site.folder disk).made := by
  have habsent : site.folder disk = .absent := by
    unfold folder
    rw [hmissing]
  rw [habsent]
  unfold folder
  rw [find?_put home_ne_nil, if_pos rfl]
  refine congrArg Folder.files (funext fun file => ?_)
  have hnone : disk.find? (site.home ++ [file]) = none :=
    h.find?_file_eq_none (by rw [habsent]; rfl)
  rw [find?_put (by simp), if_neg (home_ne_file file).symm, hnone]
  rfl

/-! ### The steps -/

theorem leads_same (h : site.IsSound disk) {op : Op} {answer : op.Answer}
    (hstep : Disk.handle op disk = (answer, disk)) :
    site.view.Leads Disk.handle op disk answer (site.folder disk) :=
  ⟨by rw [hstep], by rw [hstep]; rfl, by rw [hstep]; exact h⟩

theorem leads_exists_directory (h : site.IsSound disk) :
    site.view.Leads Disk.handle (.exists site.keystore.directory) disk
      (site.folder disk).isThere (site.folder disk) := by
  refine leads_same h ?_
  rw [handle, look, h.locate_directory]
  rcases h.find?_home with ⟨hmissing, habsent⟩ | ⟨hhome, hthere⟩
  · simp only [hmissing, habsent]
    rfl
  · simp only [hhome, hthere]
    rfl

theorem leads_exists_file (h : site.IsSound disk) {name : String} (hname : site.Fits name) :
    site.view.Leads Disk.handle (.exists (site.keystore.fileFor name)) disk
      ((site.folder disk).content? (fileName name)).isSome (site.folder disk) := by
  refine leads_same h ?_
  rw [handle, look]
  rcases h.find?_home with ⟨hmissing, habsent⟩ | ⟨hhome, -⟩
  · rw [h.locate_file_of_missing hname hmissing, habsent]
    rfl
  · rw [h.locate_file hname hhome]
    rcases h.find?_file (fileName name) with ⟨hfile, hcontent⟩ | ⟨content, mode, hfile, hcontent⟩
    · simp only [hfile, hcontent]
      rfl
    · simp only [hfile, hcontent]
      rfl

theorem handle_make {after : Disk}
    (h : disk.makeDirectory site.keystore.directory = .ok after) :
    Disk.handle (.makeDirectories site.keystore.directory) disk = (.ok (), after) := by
  obtain ⟨above, hlineage⟩ := exists_lineage_eq_cons site.before site.isName
  have hstep : disk.makeLineage (site.keystore.directory :: above) = (.ok (), after) := by
    rw [makeLineage, h]
  exact (congrArg disk.makeLineage hlineage).trans hstep

theorem leads_make (h : site.IsSound disk) :
    site.view.Leads Disk.handle (.makeDirectories site.keystore.directory) disk (.ok ())
      (site.folder disk).made := by
  have hplace : disk.placeForDirectory site.keystore.directory = .ok site.home := by
    have habove : disk.above site.keystore.directory = .ok site.place :=
      above_concat site.isName site.flawless h.walk h.above
    have hlast : site.keystore.directory.last = site.name := last_concat _ site.isName
    rw [placeForDirectory, habove]
    simp only [hlast, site.isName, if_true]
    exact move_of_isName h.above site.isName site.short
  rcases h.find?_home with ⟨hmissing, -⟩ | ⟨hhome, hthere⟩
  · have hmake : disk.makeDirectory site.keystore.directory =
        .ok (disk.put site.home .directory) := by
      rw [makeDirectory, hplace]
      simp only [hmissing]
    have hstep := handle_make hmake
    exact ⟨by rw [hstep], by rw [hstep]; exact folder_put_directory h hmissing,
      by rw [hstep]; exact h.put_directory hmissing⟩
  · have hmade : (site.folder disk).made = site.folder disk := by
      unfold folder
      rw [hhome]
      rfl
    rw [hmade]
    refine leads_same h (handle_make ?_)
    rw [makeDirectory, hplace]
    simp only [hhome]

theorem leads_put (h : site.IsSound disk) (hthere : disk.find? site.home = some .directory)
    {file : String} {content : Bytes} (mode : UInt32) {op : Op} {answer : op.Answer}
    (hstep : Disk.handle op disk =
      (answer, disk.put (site.home ++ [file]) (.file content mode))) :
    site.view.Leads Disk.handle op disk answer ((site.folder disk).write file content) :=
  ⟨by rw [hstep], by rw [hstep]; exact folder_put_file hthere file content mode,
    by rw [hstep]; exact h.put_file hthere file content mode⟩

theorem leads_create_free (h : site.IsSound disk) {name : String} (hname : site.Fits name)
    (hthere : (site.folder disk).isThere = true)
    (hfree : (site.folder disk).content? (fileName name) = none) (mode : UInt32) :
    site.view.Leads Disk.handle (.createNew (site.keystore.fileFor name) mode) disk (.ok ())
      ((site.folder disk).write (fileName name) []) := by
  have hhome := h.find?_home_of_isThere hthere
  refine leads_put h hhome mode ?_
  rw [handle, h.placeForFile hname hhome]
  simp only [h.find?_file_eq_none hfree]

theorem leads_create_taken (h : site.IsSound disk) {name : String} (hname : site.Fits name)
    {old : Bytes} (htaken : (site.folder disk).content? (fileName name) = some old)
    (mode : UInt32) :
    site.view.Leads Disk.handle (.createNew (site.keystore.fileFor name) mode) disk
      (.error .alreadyExists) (site.folder disk) := by
  have hhome := h.find?_home_of_isThere (Folder.isThere_of_content? htaken)
  obtain ⟨oldMode, hfile⟩ := h.exists_file htaken
  refine leads_same h ?_
  rw [handle, h.placeForFile hname hhome]
  simp only [hfile]

/-- A change of a file that is there puts the new content in the place of the old one. -/
theorem exists_change_eq (h : site.IsSound disk) {name : String} (hname : site.Fits name)
    {old : Bytes} (hold : (site.folder disk).content? (fileName name) = some old)
    (f : Bytes → UInt32 → Bytes × UInt32) (hf : ∀ content mode, (f content mode).2 = mode) :
    ∃ mode, disk.change (site.keystore.fileFor name) f =
      (.ok (), disk.put (site.home ++ [fileName name]) (.file (f old mode).1 mode)) := by
  have hhome := h.find?_home_of_isThere (Folder.isThere_of_content? hold)
  obtain ⟨mode, hfile⟩ := h.exists_file hold
  refine ⟨mode, ?_⟩
  rw [change, h.locate_file hname hhome]
  simp only [hfile, hf]

theorem leads_append (h : site.IsSound disk) {name : String} (hname : site.Fits name)
    {old : Bytes} (hold : (site.folder disk).content? (fileName name) = some old)
    (bytes : Bytes) :
    site.view.Leads Disk.handle (.append (site.keystore.fileFor name) bytes) disk
      (.ok bytes.length) ((site.folder disk).write (fileName name) (old ++ bytes)) := by
  obtain ⟨mode, hchange⟩ := exists_change_eq h hname hold
    (fun content mode => (content ++ bytes, mode)) fun _ _ => rfl
  refine leads_put h (h.find?_home_of_isThere (Folder.isThere_of_content? hold)) mode ?_
  rw [handle, hchange]
  rfl

theorem leads_sync (h : site.IsSound disk) {name : String} (hname : site.Fits name)
    {old : Bytes} (hold : (site.folder disk).content? (fileName name) = some old) :
    site.view.Leads Disk.handle (.sync (site.keystore.fileFor name)) disk (.ok ())
      (site.folder disk) := by
  obtain ⟨mode, hchange⟩ := exists_change_eq h hname hold
    (fun content mode => (content, mode)) fun _ _ => rfl
  rw [← Folder.write_of_content? hold]
  exact leads_put h (h.find?_home_of_isThere (Folder.isThere_of_content? hold)) mode hchange

theorem leads_read (h : site.IsSound disk) {name : String} (hname : site.Fits name)
    {bytes : Bytes} (hbytes : (site.folder disk).content? (fileName name) = some bytes) :
    site.view.Leads Disk.handle (.read (site.keystore.fileFor name)) disk (.ok bytes)
      (site.folder disk) := by
  have hhome := h.find?_home_of_isThere (Folder.isThere_of_content? hbytes)
  obtain ⟨mode, hfile⟩ := h.exists_file hbytes
  refine leads_same h ?_
  rw [handle, look, h.locate_file hname hhome]
  simp only [hfile]

theorem leads_list (h : site.IsSound disk) (hthere : (site.folder disk).isThere = true) :
    ∃ names : List String, names.Nodup ∧
      (∀ file, file ∈ names ↔ ((site.folder disk).content? file).isSome) ∧
      site.view.Leads Disk.handle (.list site.keystore.directory) disk (.ok names)
        (site.folder disk) := by
  have hhome := h.find?_home_of_isThere hthere
  refine ⟨disk.names site.home, nodup_names h.distinct _, fun file => ?_, leads_same h ?_⟩
  · rw [mem_names_iff]
    rcases h.find?_file file with ⟨hfile, hcontent⟩ | ⟨content, mode, hfile, hcontent⟩
    · rw [hfile, hcontent]
      rfl
    · rw [hfile, hcontent]
      rfl
  · rw [handle, h.locate_directory]
    simp only [hhome]

/-- **A disk is reliable.** -/
theorem reliable_disk (site : Site) :
    Reliable Disk.handle site.keystore site.Fits site.view where
  directory_exists h := leads_exists_directory h
  make h := leads_make h
  list h hthere := leads_list h hthere
  file_exists h hname := leads_exists_file h hname
  create_free h hname hthere hfree := leads_create_free h hname hthere hfree _
  create_taken h hname htaken := leads_create_taken h hname htaken _
  append {disk name old bytes} h hname hold hne := by
    -- A disk takes all of the bytes at once.
    refine ⟨bytes.length, List.length_pos_iff.2 hne, le_rfl, ?_⟩
    rw [List.take_length]
    exact leads_append h hname hold bytes
  sync h hname hold := leads_sync h hname hold
  read h hname hbytes := leads_read h hname hbytes

end Site

/-- A directory that is made when the first wallet is stored. -/
def walletsSite : Site where
  before := []
  name := "wallets"
  place := []
  isName := by decide
  short := by decide
  flawless := by decide

theorem isSound_empty : walletsSite.IsSound empty where
  walk := rfl
  above := rfl
  distinct := .nil
  not_file _ _ := fun h => nomatch h
  files _ := .inl rfl

end Remit.FileSystem.Disk
