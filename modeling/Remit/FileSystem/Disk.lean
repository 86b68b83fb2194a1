import Remit.FileSystem.Files

/-!
# A disk

The file system as a value: which files and directories there are, what the files contain, and
their modes. `Disk.handle` answers every step that a task on files may ask for and never fails
without a reason that lies in the disk: a directory on the way that is missing or is a file,
something that is there or is missing, or a name that no file can have.

A path is walked part by part (`Disk.move`), and every part but the last has to lead to a directory
that is there, also when the next part leads back out of it. The walk ends at a *place*, the names
on the way from the root; different paths may lead to one place, and entries are kept by place.
The root is where all paths start.

A mode is kept but does not keep anybody from anything, as for the owner of the disk.

## Main statements

* `Disk.find?_put`: what is put at a place is found there, and nothing else changes.
* `Disk.locate_child`: what lies in a directory under a name is at the place of the directory, one
  name further.
-/

namespace Remit.FileSystem

/-- What lies at a place. -/
inductive Entry where
  | directory
  | file (content : Bytes) (mode : UInt32)
  deriving DecidableEq

/-- The names on the way from the root, outermost first. -/
abbrev Place := List String

/-- Files and directories by their places, in the order in which they were made. -/
structure Disk where
  entries : List (Place × Entry)

namespace Disk

/-- Nothing at all. -/
def empty : Disk := ⟨[]⟩

/-- What lies at a place; the root is always a directory. -/
def find? (disk : Disk) (place : Place) : Option Entry :=
  if place = [] then some .directory else disk.entries.lookup place

/-- The entries with one more, or with another one in the place of the old. -/
def putEntry (place : Place) (entry : Entry) : List (Place × Entry) → List (Place × Entry)
  | [] => [(place, entry)]
  | (other, old) :: rest =>
    if place = other then (place, entry) :: rest else (other, old) :: putEntry place entry rest

/-- The disk with an entry at a place, instead of what was there. -/
def put (disk : Disk) (place : Place) (entry : Entry) : Disk :=
  ⟨putEntry place entry disk.entries⟩

theorem lookup_putEntry (place other : Place) (entry : Entry) (entries : List (Place × Entry)) :
    (putEntry place entry entries).lookup other =
      if other = place then some entry else entries.lookup other := by
  have beq_of_ne {p : Place} (h : other ≠ p) : (other == p) = false := by simpa using h
  induction entries with
  | nil =>
    by_cases h : other = place
    · simp [putEntry, h]
    · simp [putEntry, List.lookup_cons, h, beq_of_ne h]
  | cons first rest ih =>
    obtain ⟨p, old⟩ := first
    by_cases hp : place = p
    · subst hp
      by_cases h : other = place
      · simp [putEntry, h]
      · simp [putEntry, List.lookup_cons, h, beq_of_ne h]
    · by_cases h : other = p
      · subst h
        have : other ≠ place := fun h => hp h.symm
        simp [putEntry, hp, this]
      · simp [putEntry, List.lookup_cons, hp, beq_of_ne h, ih]

theorem find?_put {disk : Disk} {place other : Place} {entry : Entry} (h : other ≠ []) :
    (disk.put place entry).find? other =
      if other = place then some entry else disk.find? other := by
  simp [find?, put, h, lookup_putEntry]

/-! ### Walking -/

/-- The most bytes that a name may have. -/
def longestName : Nat := 255

/-- One move from a place, which has to be a directory that is there. -/
def move (disk : Disk) (place : Place) (part : String) : Except Error Place :=
  match disk.find? place with
  | none => .error .notFound
  | some (.file _ _) => .error .notDirectory
  | some .directory =>
    if Path.isStay part then .ok place
    else if part = ".." then .ok place.dropLast
    else if part.utf8ByteSize > longestName then .error .nameTooLong
    else .ok (place ++ [part])

/-- All moves, one after the other. -/
def walk (disk : Disk) (place : Place) : List String → Except Error Place
  | [] => .ok place
  | part :: rest =>
    match disk.move place part with
    | .ok next => disk.walk next rest
    | .error cause => .error cause

/-- Where a path leads, whether or not there is something. -/
def locate (disk : Disk) (path : Path) : Except Error Place :=
  match path.flaw? with
  | some flaw => .error flaw
  | none => disk.walk [] path.parts

/-- What a path leads to. -/
def look (disk : Disk) (path : Path) : Except Error Entry :=
  match disk.locate path with
  | .error cause => .error cause
  | .ok place =>
    match disk.find? place with
    | some entry => .ok entry
    | none => .error .notFound

/-- A path leads to a directory. -/
def isDirectory (disk : Disk) (path : Path) : Bool :=
  match disk.look path with
  | .ok .directory => true
  | _ => false

theorem walk_append (disk : Disk) (place : Place) (before after : List String) :
    disk.walk place (before ++ after) =
      match disk.walk place before with
      | .ok next => disk.walk next after
      | .error cause => .error cause := by
  induction before generalizing place with
  | nil => rfl
  | cons part rest ih =>
    simp only [List.cons_append, walk]
    cases disk.move place part with
    | ok next => exact ih next
    | error cause => rfl

theorem walk_child {disk : Disk} {directory : Path} {name : String} {start place : Place}
    (hwalk : disk.walk start directory.parts = .ok place)
    (hplace : disk.find? place = some .directory) (hname : Path.isName name = true)
    (hlength : name.utf8ByteSize ≤ longestName) :
    disk.walk start (directory.child name).parts = .ok (place ++ [name]) := by
  have hstay : Path.isStay name = false := by
    cases h : Path.isStay name with
    | false => rfl
    | true => simp [Path.isName, h] at hname
  have hback : name ≠ ".." := by
    intro h
    simp [Path.isName, h] at hname
  have hlast : disk.walk place [name] = .ok (place ++ [name]) := by
    simp [walk, move, hplace, hstay, hback, Nat.not_lt.2 hlength]
  unfold Path.child
  split
  case isFalse => simp [walk_append, hwalk, hlast]
  case isTrue h =>
    simp only [Path.endsInSlash, beq_iff_eq] at h
    obtain ⟨front, hfront⟩ : ∃ front, directory.parts = front ++ [""] :=
      List.getLast?_eq_some_iff.1 h
    rw [hfront, walk_append] at hwalk
    simp only [hfront, List.dropLast_concat, walk_append]
    cases hbefore : disk.walk start front with
    | error cause => simp [hbefore] at hwalk
    | ok next =>
      simp only [hbefore, walk, move] at hwalk
      have hnext : next = place := by
        cases hfind : disk.find? next with
        | none => simp [hfind] at hwalk
        | some entry =>
          cases entry with
          | file content mode => simp [hfind] at hwalk
          | directory => simpa [hfind, Path.isStay] using hwalk
      simpa [hnext] using hlast

/-- What lies in a directory under a name is at the place of the directory, one name further. -/
theorem locate_child {disk : Disk} {directory : Path} {name : String} {place : Place}
    (hlocate : disk.locate directory = .ok place)
    (hplace : disk.find? place = some .directory) (hname : Path.isName name = true)
    (hlength : name.utf8ByteSize ≤ longestName) (hflaw : (directory.child name).flaw? = none) :
    disk.locate (directory.child name) = .ok (place ++ [name]) := by
  simp only [locate, hflaw]
  refine walk_child ?_ hplace hname hlength
  simp only [locate] at hlocate
  split at hlocate
  · cases hlocate
  · exact hlocate

/-! ### Places for something new -/

/-- The directory that the last move of a path starts from. -/
def above (disk : Disk) (path : Path) : Except Error Place :=
  match path.flaw? with
  | some flaw => .error flaw
  | none => disk.walk [] (path.front ++ ["."])

/-- The place for a new file. A path that can only be that of a directory has none. -/
def placeForFile (disk : Disk) (path : Path) : Except Error Place :=
  match disk.above path with
  | .error cause => .error cause
  | .ok place =>
    if path.endsInSlash || !Path.isName path.last then .error .isDirectory
    else disk.move place path.last

/-- The place for a new directory. A path that ends in no name leads to one that is there. -/
def placeForDirectory (disk : Disk) (path : Path) : Except Error Place :=
  match disk.above path with
  | .error cause => .error cause
  | .ok place =>
    if Path.isName path.last then disk.move place path.last else .error .alreadyExists

/-! ### Steps -/

/-- Makes a directory, unless it is there. -/
def makeDirectory (disk : Disk) (path : Path) : Except Error Disk :=
  match disk.placeForDirectory path with
  | .error cause => if disk.isDirectory path then .ok disk else .error cause
  | .ok place =>
    match disk.find? place with
    | none => .ok (disk.put place .directory)
    | some .directory => .ok disk
    | some (.file _ _) => .error .alreadyExists

/-- Makes the first directory, after those behind it if the directory above it is missing. -/
def makeLineage (disk : Disk) : List Path → Except Error Unit × Disk
  | [] => (.ok (), disk)
  | path :: rest =>
    match disk.makeDirectory path with
    | .ok disk => (.ok (), disk)
    | .error .notFound =>
      match disk.makeLineage rest with
      | (.error cause, disk) => (.error cause, disk)
      | (.ok (), disk) =>
        match disk.makeDirectory path with
        | .ok disk => (.ok (), disk)
        | .error cause => (.error cause, disk)
    | .error cause => (.error cause, disk)

/-- Changes the file at a path. -/
def change (disk : Disk) (path : Path) (f : Bytes → UInt32 → Bytes × UInt32) :
    Except Error Unit × Disk :=
  match disk.locate path with
  | .error cause => (.error cause, disk)
  | .ok place =>
    match disk.find? place with
    | none => (.error .notFound, disk)
    | some .directory => (.error .isDirectory, disk)
    | some (.file content mode) =>
      (.ok (), disk.put place (.file (f content mode).1 (f content mode).2))

/-- The names of what lies in a directory. -/
def names (disk : Disk) (directory : Place) : List String :=
  disk.entries.filterMap fun (place, _) =>
    if place.dropLast = directory then place.getLast? else none

/-- The answer to a step and the disk after it. -/
def handle : Handler files Disk
  | .exists path, disk => ((disk.look path).isOk, disk)
  | .makeDirectories path, disk => disk.makeLineage path.lineage
  | .createNew path mode, disk =>
    match disk.placeForFile path with
    | .error cause => (.error cause, disk)
    | .ok place =>
      match disk.find? place with
      | some _ => (.error .alreadyExists, disk)
      | none => (.ok (), disk.put place (.file [] mode))
  | .openEmpty path mode, disk =>
    match disk.placeForFile path with
    | .error cause => (.error cause, disk)
    | .ok place =>
      match disk.find? place with
      | some .directory => (.error .isDirectory, disk)
      | some (.file _ old) => (.ok (), disk.put place (.file [] old))
      | none => (.ok (), disk.put place (.file [] mode))
  | .setMode path mode, disk => disk.change path fun content _ => (content, mode)
  | .append path bytes, disk =>
    let (result, disk) := disk.change path fun content mode => (content ++ bytes, mode)
    (result.map fun () => bytes.length, disk)
  | .sync path, disk => disk.change path fun content mode => (content, mode)
  | .read path, disk =>
    (match disk.look path with
      | .error cause => .error cause
      | .ok .directory => .error .isDirectory
      | .ok (.file content _) => .ok content, disk)
  | .list path, disk =>
    (match disk.locate path with
      | .error cause => .error cause
      | .ok place =>
        match disk.find? place with
        | none => .error .notFound
        | some (.file _ _) => .error .notDirectory
        | some .directory => .ok (disk.names place), disk)

end Disk

end Remit.FileSystem
