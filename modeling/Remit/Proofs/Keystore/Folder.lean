import Mathlib
import Remit.Proofs.Keystore.Records
import Remit.Proofs.Text.Grammar

/-!
# Keystores on a reliable file system

A keystore takes one step after the other on the files of its directory. Here the steps of storing a
wallet and of looking one up are spelled out (`run_store`, `run_get`), and with them what a file
system has to do for them, and nothing more: `Reliable` says of each kind of step what it is
answered and what it leaves in the directory. A new file is made only where none is, and no step
fails for another reason; bytes are taken in chunks of any size.

What the directory looks like is a `Folder`, for which the states of the file system may be of any
type.
-/

namespace Remit.Keystore

open FileSystem

variable {S : Scheme} {σ : Type}

/-! ### Folders -/

/-- What can be seen of a directory: it is missing, or it has files with some content. -/
inductive Folder where
  | absent
  | files (content : String → Option Bytes)

namespace Folder

/-- The directory is there. -/
def isThere : Folder → Bool
  | absent => false
  | files _ => true

/-- What the file with the name contains, if it is there. -/
def content? : Folder → String → Option Bytes
  | absent, _ => none
  | files content, file => content file

/-- The directory, empty if it was missing. -/
def made (folder : Folder) : Folder := files folder.content?

/-- The directory with a file of the given content. -/
def write (folder : Folder) (file : String) (bytes : Bytes) : Folder :=
  files (Function.update folder.content? file (some bytes))

/-- Nothing is stored in the directory. -/
def IsEmpty (folder : Folder) : Prop := ∀ file, folder.content? file = none

@[simp] theorem isThere_made (folder : Folder) : folder.made.isThere = true := rfl

@[simp] theorem content?_made (folder : Folder) : folder.made.content? = folder.content? := rfl

theorem content?_write (folder : Folder) (file other : String) (bytes : Bytes) :
    (folder.write file bytes).content? other =
      if other = file then some bytes else folder.content? other :=
  Function.update_apply ..

@[simp] theorem content?_write_self (folder : Folder) (file : String) (bytes : Bytes) :
    (folder.write file bytes).content? file = some bytes :=
  Function.update_self ..

@[simp] theorem write_write (folder : Folder) (file : String) (old new : Bytes) :
    (folder.write file old).write file new = folder.write file new :=
  congrArg files (Function.update_idem ..)

theorem write_of_content? {folder : Folder} {file : String} {bytes : Bytes}
    (h : folder.content? file = some bytes) : folder.write file bytes = folder := by
  cases folder with
  | absent => cases h
  | files content => exact congrArg files (h ▸ Function.update_eq_self file content)

theorem isThere_of_content? {folder : Folder} {file : String} {bytes : Bytes}
    (h : folder.content? file = some bytes) : folder.isThere = true := by
  cases folder with
  | absent => cases h
  | files content => rfl

end Folder

/-! ### Reliable file systems -/

/-- A way to look at the directory of a keystore, in the states in which nothing else is wrong. -/
structure DirectoryView (σ : Type) where
  folder : σ → Folder
  sound : σ → Prop

/-- The step is answered like this and leaves this in the directory. -/
structure DirectoryView.Leads (v : DirectoryView σ) (handle : Handler files σ) (op : Op) (state : σ)
    (answer : op.Answer) (folder : Folder) : Prop where
  answer_eq : (handle op state).1 = answer
  folder_eq : v.folder (handle op state).2 = folder
  sound : v.sound (handle op state).2

/-- Where the wallet with a name lies. -/
def fileFor (keystore : Keystore) (name : String) : Path := keystore.directory.child (fileName name)

theorem fileName_inj {a b : String} : fileName a = fileName b ↔ a = b := by
  rw [fileName, fileName, String.ofList_inj, List.append_cancel_right_eq, String.toList_inj]

/-- Steps on the directory of the keystore, and on the files of wallets whose names `fits` allows,
are answered as they should be. -/
structure Reliable (handle : Handler files σ) (keystore : Keystore) (fits : String → Prop)
    (v : DirectoryView σ) : Prop where
  directory_exists {state : σ} (h : v.sound state) :
    v.Leads handle (.exists keystore.directory) state (v.folder state).isThere (v.folder state)
  make {state : σ} (h : v.sound state) :
    v.Leads handle (.makeDirectories keystore.directory) state (.ok ()) (v.folder state).made
  list {state : σ} (h : v.sound state) (hthere : (v.folder state).isThere = true) :
    ∃ names : List String, names.Nodup ∧
      (∀ file, file ∈ names ↔ ((v.folder state).content? file).isSome) ∧
      v.Leads handle (.list keystore.directory) state (.ok names) (v.folder state)
  file_exists {state : σ} {name : String} (h : v.sound state) (hname : fits name) :
    v.Leads handle (.exists (keystore.fileFor name)) state
      ((v.folder state).content? (fileName name)).isSome (v.folder state)
  create_free {state : σ} {name : String} (h : v.sound state) (hname : fits name)
    (hthere : (v.folder state).isThere = true)
    (hfree : (v.folder state).content? (fileName name) = none) :
    v.Leads handle (.createNew (keystore.fileFor name) Wallet.privateMode) state (.ok ())
      ((v.folder state).write (fileName name) [])
  create_taken {state : σ} {name : String} {old : Bytes} (h : v.sound state) (hname : fits name)
    (htaken : (v.folder state).content? (fileName name) = some old) :
    v.Leads handle (.createNew (keystore.fileFor name) Wallet.privateMode) state
      (.error .alreadyExists) (v.folder state)
  append {state : σ} {name : String} {old bytes : Bytes} (h : v.sound state) (hname : fits name)
    (hold : (v.folder state).content? (fileName name) = some old) (hne : bytes ≠ []) :
    ∃ taken, 0 < taken ∧ taken ≤ bytes.length ∧
      v.Leads handle (.append (keystore.fileFor name) bytes) state (.ok taken)
        ((v.folder state).write (fileName name) (old ++ bytes.take taken))
  sync {state : σ} {name : String} {old : Bytes} (h : v.sound state) (hname : fits name)
    (hold : (v.folder state).content? (fileName name) = some old) :
    v.Leads handle (.sync (keystore.fileFor name)) state (.ok ()) (v.folder state)
  read {state : σ} {name : String} {bytes : Bytes} (h : v.sound state) (hname : fits name)
    (hbytes : (v.folder state).content? (fileName name) = some bytes) :
    v.Leads handle (.read (keystore.fileFor name)) state (.ok bytes) (v.folder state)

/-! ### The steps of storing a wallet -/

/-- What comes out of storing a wallet or looking one up. -/
abbrev Result (S : Scheme) : Type := Except Failure (NamedWallet S)

section Steps

variable (keystore : Keystore) (named : NamedWallet S)

/-- All is written; the file is made safe. -/
def syncing : Activity files (Result S) :=
  .ask (I := files) (.sync (keystore.fileFor named.name)) fun
    | .ok () => .done (.ok named)
    | .error cause => .done (.error (.fileNotWritten (keystore.fileFor named.name) cause))

/-- The rest is still to be written. -/
def writing (rest : Bytes) : Activity files (Result S) := do
  match ← (appendAll (keystore.fileFor named.name) rest).run with
  | .ok () => syncing keystore named
  | .error cause => .done (.error (.fileNotWritten (keystore.fileFor named.name) cause))

/-- The file is made. -/
def creating : Activity files (Result S) :=
  .ask (I := files) (.createNew (keystore.fileFor named.name) Wallet.privateMode) fun
    | .ok () => writing keystore named (contentOf named)
    | .error cause => .done (.error (notMade named.name (keystore.fileFor named.name) cause))

/-- The directory is made. -/
def making : Activity files (Result S) :=
  .ask (I := files) (.makeDirectories keystore.directory) fun
    | .ok () => creating keystore named
    | .error cause => .done (.error (.directoryNotMade keystore.directory cause))

/-- It is checked that the name is free. -/
def checking : Activity files (Result S) :=
  .ask (I := files) (.exists (keystore.fileFor named.name)) fun
    | true => .done (.error (.alreadyExists named.name))
    | false => making keystore named

theorem writing_nil : writing keystore named [] = syncing keystore named := by
  unfold writing
  rw [appendAll, if_pos rfl]
  rfl

theorem writing_of_ne_nil {rest : Bytes} (h : rest ≠ []) : writing keystore named rest =
    .ask (I := files) (.append (keystore.fileFor named.name) rest) fun
      | .ok taken =>
        if taken = 0 then
          .done (.error (.fileNotWritten (keystore.fileFor named.name) .notWritten))
        else writing keystore named (rest.drop taken)
      | .error cause =>
        .done (.error (.fileNotWritten (keystore.fileFor named.name) cause)) := by
  unfold writing
  rw [appendAll, if_neg h]
  refine congrArg (Activity.ask (I := files) (.append _ rest)) (funext fun answer => ?_)
  cases answer with
  | error cause => rfl
  | ok taken =>
    by_cases htaken : taken = 0
    · simp only [htaken, dite_true, if_true]
      rfl
    · simp only [htaken, dite_false, if_false]
      rfl

theorem run_write : (do
      Task.mapError (Failure.fileNotWritten (keystore.fileFor named.name)) do
        appendAll (keystore.fileFor named.name) (contentOf named)
        sync (keystore.fileFor named.name)
      return named : Task files Failure (NamedWallet S)).run =
    writing keystore named (contentOf named) := by
  unfold writing
  generalize appendAll (keystore.fileFor named.name) (contentOf named) = task
  have hactivity : ∃ activity : Activity files (Except FileSystem.Error Unit),
      ExceptT.mk activity = task := ⟨task, rfl⟩
  obtain ⟨activity, rfl⟩ := hactivity
  -- What comes after the last chunk is the same on both sides, so the number of chunks does not
  -- matter.
  induction activity with
  | done result =>
    cases result with
    | error cause => rfl
    | ok =>
      refine congrArg (Activity.ask (I := files) (.sync _)) (funext fun synced => ?_)
      cases synced <;> rfl
  | ask op next ih => exact congrArg (Activity.ask op) (funext ih)

/-- **Storing a wallet** is these steps, one after the other. -/
theorem run_store (hname : isName named.name = true) :
    (keystore.store named.name named.wallet named.createdAt).run = checking keystore named := by
  have hpath : keystore.path? named.name = some (keystore.fileFor named.name) :=
    path?_eq_some_iff.2 ⟨hname, rfl⟩
  unfold store pathOf
  rw [hpath]
  refine congrArg (Activity.ask (I := files) (.exists _)) (funext fun isTaken => ?_)
  cases isTaken with
  | true => rfl
  | false =>
    refine congrArg (Activity.ask (I := files) (.makeDirectories _)) (funext fun made => ?_)
    cases made with
    | error cause => rfl
    | ok =>
      refine congrArg (Activity.ask (I := files) (.createNew _ _)) (funext fun created => ?_)
      cases created with
      | error cause => rfl
      | ok => exact run_write keystore named

theorem run_store_of_not_isName (hname : isName named.name = false) :
    (keystore.store named.name named.wallet named.createdAt).run =
      .done (.error (.invalidName named.name)) := by
  unfold store pathOf path?
  rw [hname]
  rfl

/-! ### The steps of looking one up -/

/-- What the bytes in a file are read as. -/
def readBytes (S : Scheme) (file : Path) (bytes : Bytes) : Result S :=
  match bytes.toText? with
  | some text => readRecord S file text
  | none => .error (.fileNotRead file .notText)

/-- The file is read. -/
def reading (S : Scheme) (name : String) : Activity files (Result S) :=
  .ask (I := files) (.read (keystore.fileFor name)) fun
    | .ok bytes => .done (readBytes S (keystore.fileFor name) bytes)
    | .error cause => .done (.error (.fileNotRead (keystore.fileFor name) cause))

/-- It is checked that there is a wallet of the name. -/
def seeking (S : Scheme) (name : String) : Activity files (Result S) :=
  .ask (I := files) (.exists (keystore.fileFor name)) fun
    | true => reading keystore S name
    | false => .done (.error (.notFound name keystore.directory))

theorem run_get {name : String} (hname : isName name = true) :
    (keystore.get S name).run = seeking keystore S name := by
  have hpath : keystore.path? name = some (keystore.fileFor name) :=
    path?_eq_some_iff.2 ⟨hname, rfl⟩
  unfold get pathOf
  rw [hpath]
  refine congrArg (Activity.ask (I := files) (.exists _)) (funext fun isThere => ?_)
  cases isThere with
  | false => rfl
  | true =>
    refine congrArg (Activity.ask (I := files) (.read _)) (funext fun answer => ?_)
    cases answer with
    | error cause => rfl
    | ok bytes =>
      dsimp only [readBytes]
      cases bytes.toText? <;> rfl

theorem run_get_of_not_isName {name : String} (hname : isName name = false) :
    (keystore.get S name).run = .done (.error (.invalidName name)) := by
  unfold get pathOf path?
  rw [hname]
  rfl

end Steps

/-! ### Requests -/

/-- A name that a wallet may have: one character or more, all of them letters, digits, `-`, `_`. -/
def IsWalletName (name : String) : Prop :=
  name.toList ≠ [] ∧ ∀ c ∈ name.toList, 'a' ≤ c ∧ c ≤ 'z' ∨ 'A' ≤ c ∧ c ≤ 'Z' ∨
    '0' ≤ c ∧ c ≤ '9' ∨ c = '-' ∨ c = '_'

theorem isNameChar_iff {c : Char} : isNameChar c = true ↔ 'a' ≤ c ∧ c ≤ 'z' ∨
    'A' ≤ c ∧ c ≤ 'Z' ∨ '0' ≤ c ∧ c ≤ '9' ∨ c = '-' ∨ c = '_' := by
  simp only [isNameChar, Char.isAlphanum, Char.isAlpha, Char.isUpper, Char.isLower, Char.isDigit,
    Bool.or_eq_true, Bool.and_eq_true, decide_eq_true_eq, beq_iff_eq, Char.le_def]
  tauto

theorem isName_iff {name : String} : isName name = true ↔ IsWalletName name := by
  simp only [isName, Bool.and_eq_true, Bool.not_eq_true', List.isEmpty_eq_false_iff,
    List.all_eq_true, isNameChar_iff, IsWalletName]

/-- What a keystore is asked for by somebody who names a wallet. -/
inductive Request where
  | create (name : String) (secret : FixedBytes 32) (createdAt : Instant)
  | importSecret (name secret : String) (createdAt : Instant)
  | get (name : String)

namespace Request

/-- The name in the request. -/
def name : Request → String
  | create name _ _ => name
  | importSecret name _ _ => name
  | get name => name

/-- What the keystore does. -/
def run (S : Scheme) (keystore : Keystore) : Request → Activity files (Result S)
  | create name secret createdAt => (keystore.create S name secret createdAt).run
  | importSecret name secret createdAt => (keystore.importSecret S name secret createdAt).run
  | get name => (keystore.get S name).run

/-- The request is to store the wallet: the name is one that a wallet may have, and the secret is
hexadecimal and has 32 bytes. -/
inductive Stores : Request → NamedWallet S → Prop
  | create {name : String} (hname : IsWalletName name) (secret : FixedBytes 32)
      (createdAt : Instant) :
      Stores (.create name secret createdAt) ⟨name, createdAt, Wallet.ofSecret S secret⟩
  | importSecret {name text : String} (hname : IsWalletName name) {secret : FixedBytes 32}
      (hsecret : Hex.Denotes text secret.toList) (createdAt : Instant) :
      Stores (.importSecret name text createdAt) ⟨name, createdAt, Wallet.ofSecret S secret⟩

/-- The request is to store something. -/
def IsToStore : Request → Prop
  | create _ _ _ => True
  | importSecret _ _ _ => True
  | get _ => False

theorem Stores.isToStore {request : Request} {named : NamedWallet S} (h : Stores request named) :
    request.IsToStore := by
  cases h <;> trivial

theorem Stores.name_eq {request : Request} {named : NamedWallet S} (h : Stores request named) :
    named.name = request.name := by
  cases h <;> rfl

theorem Stores.isName {request : Request} {named : NamedWallet S} (h : Stores request named) :
    isName named.name = true := by
  cases h with
  | create hname => exact isName_iff.2 hname
  | importSecret hname => exact isName_iff.2 hname

theorem ofHex_eq_ok_iff {text : String} {wallet : Wallet S} : Wallet.ofHex S text = .ok wallet ↔
    ∃ secret : FixedBytes 32, Hex.Denotes text secret.toList ∧
      wallet = Wallet.ofSecret S secret := by
  constructor
  · intro h
    unfold Wallet.ofHex KeyPair.ofHex at h
    cases hdecode : Hex.decode text with
    | error cause =>
      rw [hdecode] at h
      cases h
    | ok bytes =>
      simp only [hdecode, KeyPair.ofBytes] at h
      cases hlength : Bytes.ofLength? 32 bytes with
      | none =>
        rw [hlength] at h
        cases h
      | some secret =>
        rw [hlength] at h
        cases h
        obtain rfl := Bytes.ofLength?_eq_some_iff.1 hlength
        exact ⟨secret, Hex.decode_eq_ok_iff.1 hdecode, rfl⟩
  · rintro ⟨secret, hsecret, rfl⟩
    unfold Wallet.ofHex KeyPair.ofHex KeyPair.ofBytes
    rw [Hex.decode_eq_ok_iff.2 hsecret]
    simp only [Bytes.ofLength?_toList]
    rfl

theorem run_importSecret_of_ok (keystore : Keystore) (name : String) {text : String}
    {wallet : Wallet S} (h : Wallet.ofHex S text = .ok wallet) (createdAt : Instant) :
    (keystore.importSecret S name text createdAt).run =
      (keystore.store name wallet createdAt).run := by
  unfold Keystore.importSecret
  rw [h]
  rfl

theorem run_importSecret_of_error (keystore : Keystore) (name : String) {text : String}
    {cause : Error} (h : Wallet.ofHex S text = .error cause) (createdAt : Instant) :
    (keystore.importSecret S name text createdAt).run = .done (.error (.secretRejected cause)) := by
  unfold Keystore.importSecret
  rw [h]
  rfl

/-- A request to store a wallet starts with a look at whether its name is free. -/
theorem Stores.run_eq {request : Request} {named : NamedWallet S} (h : Stores request named)
    (keystore : Keystore) : request.run S keystore = checking keystore named := by
  rw [← run_store keystore named h.isName]
  cases h with
  | create hname secret createdAt => rfl
  | importSecret hname hsecret createdAt =>
    exact run_importSecret_of_ok keystore _ (ofHex_eq_ok_iff.2 ⟨_, hsecret, rfl⟩) createdAt

/-- A request to store what cannot be stored is refused for its name or for its secret. -/
theorem run_eq_refusal_of_forall_not_stores {request : Request} (hstore : request.IsToStore)
    (h : ∀ named : NamedWallet S, ¬ request.Stores named) (keystore : Keystore) :
    ∃ failure, request.run S keystore = .done (.error failure) ∧
      (failure = .invalidName request.name ∨ ∃ cause, failure = .secretRejected cause) := by
  cases request with
  | create name secret createdAt =>
    have hname : isName name = false := by
      rw [← Bool.not_eq_true, isName_iff]
      exact fun hname => h _ (.create hname secret createdAt)
    exact ⟨_, run_store_of_not_isName keystore ⟨name, createdAt, Wallet.ofSecret S secret⟩ hname,
      .inl rfl⟩
  | importSecret name text createdAt =>
    cases hwallet : Wallet.ofHex S text with
    | error cause =>
      exact ⟨_, run_importSecret_of_error keystore name hwallet createdAt, .inr ⟨cause, rfl⟩⟩
    | ok wallet =>
      obtain ⟨secret, hsecret, rfl⟩ := ofHex_eq_ok_iff.1 hwallet
      have hname : isName name = false := by
        rw [← Bool.not_eq_true, isName_iff]
        exact fun hname => h _ (.importSecret hname hsecret createdAt)
      refine ⟨.invalidName name, ?_, .inl rfl⟩
      exact (run_importSecret_of_ok keystore name hwallet createdAt).trans
        (run_store_of_not_isName keystore ⟨name, createdAt, Wallet.ofSecret S secret⟩ hname)
  | get name => cases hstore

/-- A request to store what cannot be stored is refused before any file is looked at. -/
theorem run_eq_of_forall_not_stores {request : Request} (hstore : request.IsToStore)
    (h : ∀ named : NamedWallet S, ¬ request.Stores named) (keystore : Keystore) :
    ∃ failure, request.run S keystore = .done (.error failure) := by
  obtain ⟨failure, hrun, -⟩ := run_eq_refusal_of_forall_not_stores hstore h keystore
  exact ⟨failure, hrun⟩

end Request

end Remit.Keystore
