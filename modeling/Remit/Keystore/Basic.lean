import Remit.FileSystem.Files
import Remit.Keystore.Record
import Remit.Wallet.File

/-!
# Named wallets in a directory

A keystore is a directory with one file for each wallet, named after it. A name is a non-empty row
of letters, digits, `-` and `_`, so no name leads out of the directory. A file that is there is
never written to again.

A failure says what could not be done and, where there is one, the cause of that.

## Main statements

* `Keystore.path?_eq_some_iff`: where the wallet with a good name lies, and that no other name has
  a place.
-/

namespace Remit

open FileSystem

/-- A directory of wallets. -/
structure Keystore where
  directory : Path

namespace Keystore

variable {S : Scheme}

/-- A wallet with its name and the time of its creation. -/
structure NamedWallet (S : Scheme) where
  name : String
  createdAt : Instant
  wallet : Wallet S

/-- What a listing shows of a wallet. -/
structure Summary where
  name : String
  address : Address
  deriving DecidableEq

/-! ### Failures -/

/-- What could not be done. -/
inductive Failure where
  | invalidName (name : String)
  | alreadyExists (name : String)
  | notFound (name : String) (directory : Path)
  | unsupportedVersion (version : UInt32)
  | secretRejected (cause : Error)
  | directoryNotMade (directory : Path) (cause : FileSystem.Error)
  | directoryNotRead (directory : Path) (cause : FileSystem.Error)
  | fileNotMade (file : Path) (cause : FileSystem.Error)
  | fileNotWritten (file : Path) (cause : FileSystem.Error)
  | fileNotRead (file : Path) (cause : FileSystem.Error)
  | malformed (file : Path) (cause : Json.DecodeError)
  | inconsistent (file : Path) (cause : Error)
  deriving DecidableEq

/-- The wording of a failure, with that of its cause behind it. -/
def Failure.messages : Failure → List String
  | invalidName name => [s!"invalid wallet name '{name}': use letters, digits, '-' and '_'"]
  | alreadyExists name => [s!"wallet '{name}' already exists"]
  | notFound name directory => [s!"wallet '{name}' not found in {directory.text}"]
  | unsupportedVersion version => [s!"unsupported wallet file version {version}"]
  | secretRejected cause => ["secret key rejected", cause.message]
  | directoryNotMade directory cause =>
    [s!"failed to create wallets directory {directory.text}", cause.message]
  | directoryNotRead directory cause =>
    [s!"failed to read wallets directory {directory.text}", cause.message]
  | fileNotMade file cause => [s!"failed to create wallet file {file.text}", cause.message]
  | fileNotWritten file cause => [s!"failed to write wallet file {file.text}", cause.message]
  | fileNotRead file cause => [s!"failed to read wallet file {file.text}", cause.message]
  | malformed file cause => [s!"malformed wallet file {file.text}", cause.message]
  | inconsistent file cause => [s!"wallet file {file.text} is inconsistent", cause.message]

/-! ### Names -/

/-- A character that names are made of. -/
def isNameChar (c : Char) : Bool := c.isAlphanum || c == '-' || c == '_'

/-- A name that a wallet may have. -/
def isName (name : String) : Bool := !name.toList.isEmpty && name.toList.all isNameChar

/-- What the names of wallet files end in. -/
def extension : List Char := ['.', 'j', 's', 'o', 'n']

/-- The name of the file of a wallet. -/
def fileName (name : String) : String := String.ofList (name.toList ++ extension)

/-- The name that a file is stored under, if it is a wallet file. -/
def stem? (fileName : String) : Option String :=
  let count := fileName.toList.length - extension.length
  if 0 < count ∧ fileName.toList.drop count = extension then
    some (String.ofList (fileName.toList.take count))
  else none

/-- Where the wallet with the given name lies. -/
def path? (store : Keystore) (name : String) : Option Path :=
  if isName name then some (store.directory.child (fileName name)) else none

theorem path?_eq_some_iff {store : Keystore} {name : String} {path : Path} :
    store.path? name = some path ↔
      isName name = true ∧ path = store.directory.child (fileName name) := by
  unfold path?
  cases isName name with
  | true => simp [eq_comm]
  | false => simp

theorem stem?_fileName {name : String} (h : isName name = true) :
    stem? (fileName name) = some name := by
  have hne : name.toList ≠ [] := by
    simp only [isName, Bool.and_eq_true, Bool.not_eq_true', List.isEmpty_eq_false_iff] at h
    exact h.1
  have hpos := List.length_pos_iff.2 hne
  simp [stem?, fileName, hpos]

/-- The path of a wallet, or a failure if it can have none. -/
def pathOf (store : Keystore) (name : String) : Task files Failure Path :=
  match store.path? name with
  | some path => Task.ofExcept (.ok path)
  | none => Task.ofExcept (.error (.invalidName name))

/-! ### Storing -/

/-- What it means that a wallet file could not be made. -/
def notMade (name : String) (file : Path) : FileSystem.Error → Failure
  | .alreadyExists => .alreadyExists name
  | cause => .fileNotMade file cause

/-- Stores a wallet under a name that is not taken. -/
def store (keystore : Keystore) (name : String) (wallet : Wallet S) (createdAt : Instant) :
    Task files Failure (NamedWallet S) := do
  let path ← keystore.pathOf name
  if ← ExceptT.lift (isPresent path) then throw (.alreadyExists name)
  (makeDirectories keystore.directory).mapError (Failure.directoryNotMade keystore.directory)
  (createNew path Wallet.privateMode).mapError (notMade name path)
  let text := (Record.ofWallet name createdAt wallet).text
  Task.mapError (Failure.fileNotWritten path) do
    appendAll path (Bytes.ofText text)
    sync path
  return ⟨name, createdAt, wallet⟩

/-- Stores the wallet of a fresh secret key. -/
def create (S : Scheme) (keystore : Keystore) (name : String) (secret : FixedBytes 32)
    (createdAt : Instant) : Task files Failure (NamedWallet S) :=
  keystore.store name (Wallet.ofSecret S secret) createdAt

/-- Stores the wallet of a secret key that is given in any hexadecimal spelling. -/
def importSecret (S : Scheme) (keystore : Keystore) (name secret : String) (createdAt : Instant) :
    Task files Failure (NamedWallet S) := do
  let wallet ← Task.ofExcept ((Wallet.ofHex S secret).mapError .secretRejected)
  keystore.store name wallet createdAt

/-! ### Looking up -/

/-- The wallet that the text of a file describes. -/
def readRecord (S : Scheme) (file : Path) (text : String) : Except Failure (NamedWallet S) := do
  let record ← (Record.decoder.ofText text).mapError (.malformed file)
  if record.version ≠ Record.currentVersion then .error (.unsupportedVersion record.version)
  let wallet ← (Wallet.ofSerialized S text).mapError (.inconsistent file)
  .ok ⟨record.name, record.createdAt, wallet⟩

/-- The wallet with a name. -/
def get (S : Scheme) (keystore : Keystore) (name : String) :
    Task files Failure (NamedWallet S) := do
  let path ← keystore.pathOf name
  if !(← ExceptT.lift (isPresent path)) then throw (.notFound name keystore.directory)
  let text ← (readText path).mapError (.fileNotRead path)
  Task.ofExcept (readRecord S path text)

/-- The wallets in those of the files that are wallet files and can be read. -/
def summaries (S : Scheme) (keystore : Keystore) : List String → Activity files (List Summary)
  | [] => return []
  | fileName :: rest =>
    match stem? fileName with
    | none => summaries S keystore rest
    | some name => do
      match ← (keystore.get S name).run with
      | .error _ => summaries S keystore rest
      | .ok named => return ⟨named.name, named.wallet.address⟩ :: (← summaries S keystore rest)

/-- All wallets that can be read, by name. -/
def list (S : Scheme) (keystore : Keystore) : Task files Failure (List Summary) := do
  if !(← ExceptT.lift (isPresent keystore.directory)) then return []
  let names ← (FileSystem.list keystore.directory).mapError
    (.directoryNotRead keystore.directory)
  let found ← ExceptT.lift (keystore.summaries S names)
  return found.mergeSort fun a b => a.name ≤ b.name

end Keystore

end Remit
