import Remit.Proofs.Keystore.OnDisk
import Remit.Proofs.Wallet.Signing

/-!
# A keystore is a map that is written once

Calls of a keystore, one after the other, on a directory that starts empty and that nobody else
writes to, are answered as by a map from names to wallets (`Register`) to which names are added and
from which nothing is ever taken or changed. What the map answers to a call, and what becomes of the
directory, is `Meets`; `history` is what happens, and `history_follows` says that it follows the
map.
-/

namespace Remit.Keystore

open FileSystem

variable {S : Scheme} {σ α β : Type}

/-! ### Runs on a folder -/

/-- The activity ends with the result and leaves this in the directory. -/
structure DirectoryView.Runs (v : DirectoryView σ) (handle : Handler files σ)
    (activity : Activity files α) (state : σ) (result : α) (folder : Folder) : Prop where
  result_eq : (activity.run handle state).1 = result
  folder_eq : v.folder (activity.run handle state).2 = folder
  sound : v.sound (activity.run handle state).2

section Runs

variable {v : DirectoryView σ} {handle : Handler files σ} {state : σ}

theorem runs_done (h : v.sound state) (result : α) :
    v.Runs handle (.done result) state result (v.folder state) :=
  ⟨rfl, rfl, h⟩

theorem runs_ask_at {op : Op} {answer : op.Answer} {after folder : Folder}
    (h : v.Leads handle op state answer after) {next : op.Answer → Activity files α} {result : α}
    (hnext : v.Runs handle (next answer) (handle op state).2 result folder) :
    v.Runs handle (.ask (I := files) op next) state result folder := by
  rw [← h.answer_eq] at hnext
  exact ⟨hnext.result_eq, hnext.folder_eq, hnext.sound⟩

theorem runs_ask {op : Op} {answer : op.Answer} {after folder : Folder}
    (h : v.Leads handle op state answer after) {next : op.Answer → Activity files α} {result : α}
    (hnext : ∀ state', v.sound state' → v.folder state' = after →
      v.Runs handle (next answer) state' result folder) :
    v.Runs handle (.ask (I := files) op next) state result folder :=
  runs_ask_at h (hnext _ h.sound h.folder_eq)

theorem DirectoryView.Runs.bind {activity : Activity files α} {result : α} {after : Folder}
    (h : v.Runs handle activity state result after) {f : α → Activity files β} {last : β}
    {folder : Folder}
    (hnext : ∀ state', v.sound state' → v.folder state' = after →
      v.Runs handle (f result) state' last folder) :
    v.Runs handle (activity >>= f) state last folder := by
  have hrun := hnext _ h.sound h.folder_eq
  rw [← h.result_eq] at hrun
  exact ⟨by rw [Activity.run_bind]; exact hrun.result_eq,
    by rw [Activity.run_bind]; exact hrun.folder_eq,
    by rw [Activity.run_bind]; exact hrun.sound⟩

/-- The last step. -/
theorem runs_ask_done {op : Op} {answer : op.Answer} {after : Folder}
    (h : v.Leads handle op state answer after) {next : op.Answer → Activity files α} {result : α}
    (hnext : next answer = .done result) :
    v.Runs handle (.ask (I := files) op next) state result after := by
  refine runs_ask h fun state' h' hfolder => ?_
  rw [hnext, ← hfolder]
  exact runs_done h' result

theorem DirectoryView.Runs.map {activity : Activity files α} {result : α} {folder : Folder}
    (h : v.Runs handle activity state result folder) (f : α → β) :
    v.Runs handle (do return f (← activity)) state (f result) folder := by
  refine h.bind fun state' h' hfolder => ?_
  rw [← hfolder]
  exact runs_done h' (f result)

end Runs

/-! ### Storing and looking up -/

section Reliable

variable {handle : Handler files σ} {keystore : Keystore} {fits : String → Prop}
  {v : DirectoryView σ} (hfs : Reliable handle keystore fits v)

include hfs

/-- **What is to be written is written**, behind what is there already, in whatever chunks. The
induction is over the number of bytes that are left. -/
theorem runs_writing (named : NamedWallet S) (hname : fits named.name) (rest : Bytes) {state : σ}
    {old : Bytes} (h : v.sound state)
    (hold : (v.folder state).content? (fileName named.name) = some old) :
    v.Runs handle (writing keystore named rest) state (.ok named)
      ((v.folder state).write (fileName named.name) (old ++ rest)) := by
  induction hcount : rest.length using Nat.strong_induction_on generalizing rest state old with
  | _ count ih =>
  by_cases hne : rest = []
  · subst hne
    rw [writing_nil, List.append_nil, Folder.write_of_content? hold]
    exact runs_ask_done (hfs.sync h hname hold) rfl
  · rw [writing_of_ne_nil keystore named hne]
    obtain ⟨taken, hpos, hle, hleads⟩ := hfs.append h hname hold hne
    refine runs_ask hleads fun state' h' hfolder => ?_
    have hnew : (v.folder state').content? (fileName named.name) =
        some (old ++ rest.take taken) := by
      rw [hfolder, Folder.content?_write_self]
    have hless : (rest.drop taken).length < count := by
      rw [List.length_drop]
      omega
    have hrun := ih _ hless (rest.drop taken) h' hnew rfl
    rw [hfolder, Folder.write_write, List.append_assoc, List.take_append_drop] at hrun
    simp only [if_neg hpos.ne']
    exact hrun

theorem runs_checking_free (named : NamedWallet S) (hname : fits named.name) {state : σ}
    (h : v.sound state) (hfree : (v.folder state).content? (fileName named.name) = none) :
    v.Runs handle (checking keystore named) state (.ok named)
      ((v.folder state).write (fileName named.name) (contentOf named)) := by
  have hexists := hfs.file_exists h hname
  rw [hfree] at hexists
  refine runs_ask hexists fun state₁ h₁ hfolder₁ => ?_
  refine runs_ask (hfs.make h₁) fun state₂ h₂ hfolder₂ => ?_
  rw [hfolder₁] at hfolder₂
  have hthere : (v.folder state₂).isThere = true := by rw [hfolder₂, Folder.isThere_made]
  have hfree₂ : (v.folder state₂).content? (fileName named.name) = none := by
    rw [hfolder₂, Folder.content?_made, hfree]
  refine runs_ask (hfs.create_free h₂ hname hthere hfree₂) fun state₃ h₃ hfolder₃ => ?_
  have hnew : (v.folder state₃).content? (fileName named.name) = some [] := by
    rw [hfolder₃, Folder.content?_write_self]
  have hrun := runs_writing hfs named hname (contentOf named) h₃ hnew
  rw [hfolder₃, hfolder₂, Folder.write_write, List.nil_append] at hrun
  exact hrun

theorem runs_checking_taken (named : NamedWallet S) (hname : fits named.name) {state : σ}
    (h : v.sound state) {old : Bytes}
    (hold : (v.folder state).content? (fileName named.name) = some old) :
    v.Runs handle (checking keystore named) state (.error (.alreadyExists named.name))
      (v.folder state) := by
  have hexists := hfs.file_exists h hname
  rw [hold] at hexists
  exact runs_ask_done hexists rfl

theorem runs_seeking_found {name : String} (hname : fits name) {state : σ} (h : v.sound state)
    {bytes : Bytes} (hbytes : (v.folder state).content? (fileName name) = some bytes) :
    v.Runs handle (seeking keystore S name) state
      (readBytes S (keystore.fileFor name) bytes) (v.folder state) := by
  have hexists := hfs.file_exists h hname
  rw [hbytes] at hexists
  refine runs_ask hexists fun state₁ h₁ hfolder₁ => ?_
  rw [← hfolder₁] at hbytes ⊢
  exact runs_ask_done (hfs.read h₁ hname hbytes) rfl

theorem runs_seeking_missing {name : String} (hname : fits name) {state : σ} (h : v.sound state)
    (hfree : (v.folder state).content? (fileName name) = none) :
    v.Runs handle (seeking keystore S name) state (.error (.notFound name keystore.directory))
      (v.folder state) := by
  have hexists := hfs.file_exists h hname
  rw [hfree] at hexists
  exact runs_ask_done hexists rfl

end Reliable

/-! ### The map -/

/-- The wallets by their names. -/
abbrev Register (S : Scheme) : Type := String → Option (NamedWallet S)

/-- The map with one more wallet. -/
def Register.add (register : Register S) (named : NamedWallet S) : Register S :=
  Function.update register named.name (some named)

/-- One call of a keystore. -/
inductive Call where
  | request (r : Request)
  | list

/-- What comes out of a call. -/
inductive Outcome (S : Scheme) where
  | wallet (result : Result S)
  | summaries (result : Except Failure (List Summary))

/-- A call with its outcome, and the directory before and after it. -/
structure Event (S : Scheme) where
  before : Folder
  call : Call
  outcome : Outcome S
  after : Folder

/-- What a map answers to a call, and which map there is after it. Unless a wallet is stored,
neither the map nor the directory changes. -/
inductive Meets (register : Register S) : Event S → Register S → Prop
  | stored {request : Request} {named : NamedWallet S} (h : request.Stores named)
      (hfree : register named.name = none) (before after : Folder) :
      Meets register ⟨before, .request request, .wallet (.ok named), after⟩ (register.add named)
  | taken {request : Request} {named old : NamedWallet S} (h : request.Stores named)
      (hold : register named.name = some old) (folder : Folder) :
      Meets register
        ⟨folder, .request request, .wallet (.error (.alreadyExists named.name)), folder⟩
        register
  | refused {request : Request} (hstore : request.IsToStore)
      (h : ∀ named : NamedWallet S, ¬ request.Stores named) (failure : Failure) (folder : Folder) :
      Meets register ⟨folder, .request request, .wallet (.error failure), folder⟩ register
  | found {name : String} {named : NamedWallet S} (h : register name = some named)
      (folder : Folder) :
      Meets register ⟨folder, .request (.get name), .wallet (.ok named), folder⟩ register
  | missing {name : String} (h : register name = none) (failure : Failure) (folder : Folder) :
      Meets register ⟨folder, .request (.get name), .wallet (.error failure), folder⟩ register
  | listed {summaries : List Summary} (hsorted : summaries.Pairwise (·.name < ·.name))
      (h : ∀ summary, summary ∈ summaries ↔ ∃ named, register summary.name = some named ∧
        summary.address = named.wallet.address) (folder : Folder) :
      Meets register ⟨folder, .list, .summaries (.ok summaries), folder⟩ register

/-- The directory holds one file for each wallet of the map, and nothing else. -/
structure Folder.Holds (folder : Folder) (register : Register S) : Prop where
  content : ∀ name, folder.content? (fileName name) = (register name).map contentOf
  nothing_else : ∀ file, (folder.content? file).isSome → ∃ name, file = fileName name

/-- The events are those of the map, and the directory holds what the map holds after each. -/
inductive Follows : Register S → List (Event S) → Prop
  | nil (register : Register S) : Follows register []
  | cons {register after : Register S} {event : Event S} {rest : List (Event S)}
      (hevent : Meets register event after) (hholds : event.after.Holds after)
      (hrest : Follows after rest) : Follows register (event :: rest)

/-! ### What happens -/

/-- What the keystore does at a call. -/
def Call.run (S : Scheme) (keystore : Keystore) : Call → Activity files (Outcome S)
  | .request r => do return .wallet (← r.run S keystore)
  | .list => do return .summaries (← (keystore.list S).run)

/-- What happens when the calls are made one after the other. -/
def history (S : Scheme) (handle : Handler files σ) (v : DirectoryView σ) (keystore : Keystore) :
    List Call → σ → List (Event S)
  | [], _ => []
  | call :: rest, state =>
    ⟨v.folder state, call, ((call.run S keystore).run handle state).1,
      v.folder ((call.run S keystore).run handle state).2⟩ ::
      history S handle v keystore rest ((call.run S keystore).run handle state).2

/-- The file system has room for a file of the name, and the time is read back as it was. -/
def Call.Suits (fits : String → Prop) : Call → Prop
  | .request (.create name _ createdAt) => (IsWalletName name → fits name) ∧ createdAt.ReadsBack
  | .request (.importSecret name _ createdAt) =>
    (IsWalletName name → fits name) ∧ createdAt.ReadsBack
  | .request (.get name) => IsWalletName name → fits name
  | .list => True

/-- What is in the map was stored in it under its name, and can be read back. -/
def Register.IsProper (register : Register S) (fits : String → Prop) : Prop :=
  ∀ name named, register name = some named →
    named.name = name ∧ isName name = true ∧ fits name ∧ named.createdAt.ReadsBack

theorem readBytes_contentOf {named : NamedWallet S} (h : named.createdAt.ReadsBack) (file : Path) :
    readBytes S file (contentOf named) = .ok named := by
  rw [readBytes, contentOf, Bytes.toText?_ofText]
  exact readRecord_text h named.wallet file

theorem Folder.Holds.write {folder : Folder} {register : Register S} (h : folder.Holds register)
    (named : NamedWallet S) :
    (folder.write (fileName named.name) (contentOf named)).Holds (register.add named) where
  content name := by
    rw [Folder.content?_write, Register.add, Function.update_apply]
    by_cases hname : name = named.name
    · rw [if_pos hname, if_pos (fileName_inj.2 hname)]
      rfl
    · rw [if_neg hname, if_neg (mt fileName_inj.1 hname)]
      exact h.content name
  nothing_else file hfile := by
    rw [Folder.content?_write] at hfile
    split at hfile
    · rename_i heq
      exact ⟨_, heq⟩
    · exact h.nothing_else file hfile

theorem Register.IsProper.add {register : Register S} {fits : String → Prop}
    (h : register.IsProper fits) {named : NamedWallet S} (hname : isName named.name = true)
    (hfits : fits named.name) (htime : named.createdAt.ReadsBack) :
    (register.add named).IsProper fits := by
  intro name found hfound
  rw [Register.add, Function.update_apply] at hfound
  split at hfound
  · rename_i heq
    cases hfound
    subst heq
    exact ⟨rfl, hname, hfits, htime⟩
  · exact h name found hfound

/-! ### One call -/

section OneCall

variable {handle : Handler files σ} {keystore : Keystore} {fits : String → Prop}
  {v : DirectoryView σ} {register : Register S} {state : σ}

/-- The call is answered as by the map, which the directory goes on to hold. -/
def Agrees (S : Scheme) (handle : Handler files σ) (v : DirectoryView σ) (keystore : Keystore)
    (fits : String → Prop) (register : Register S) (call : Call) (state : σ) : Prop :=
  ∃ outcome folder after, v.Runs handle (call.run S keystore) state outcome folder ∧
    Meets register ⟨v.folder state, call, outcome, folder⟩ after ∧ folder.Holds after ∧
    after.IsProper fits

theorem runs_request {request : Request} {result : Result S} {folder : Folder}
    (h : v.Runs handle (request.run S keystore) state result folder) :
    v.Runs handle (Call.run S keystore (.request request)) state (.wallet result) folder :=
  h.map Outcome.wallet

theorem runs_list {summaries : Except Failure (List Summary)} {folder : Folder}
    (h : v.Runs handle (keystore.list S).run state summaries folder) :
    v.Runs handle (Call.run S keystore .list) state (.summaries summaries) folder :=
  h.map Outcome.summaries

/-- A request that is answered without a step. -/
theorem runs_request_of_done {request : Request} {result : Result S} (h : v.sound state)
    (hrun : request.run S keystore = .done result) :
    v.Runs handle (Call.run S keystore (.request request)) state (.wallet result)
      (v.folder state) := by
  refine runs_request ?_
  rw [hrun]
  exact runs_done h result

theorem agrees_of_forall_not_stores {request : Request} (h : v.sound state)
    (hstore : request.IsToStore) (hnone : ∀ named : NamedWallet S, ¬ request.Stores named)
    (hholds : (v.folder state).Holds register) (hproper : register.IsProper fits) :
    Agrees S handle v keystore fits register (.request request) state := by
  obtain ⟨failure, hrun⟩ := Request.run_eq_of_forall_not_stores hstore hnone keystore
  exact ⟨_, _, _, runs_request_of_done h hrun, .refused hstore hnone failure _, hholds, hproper⟩

variable (hfs : Reliable handle keystore fits v)

include hfs

theorem agrees_of_stores {request : Request} {named : NamedWallet S} (h : v.sound state)
    (hstores : request.Stores named) (hfits : fits named.name) (htime : named.createdAt.ReadsBack)
    (hholds : (v.folder state).Holds register) (hproper : register.IsProper fits) :
    Agrees S handle v keystore fits register (.request request) state := by
  have hrun := hstores.run_eq keystore
  cases hname : register named.name with
  | none =>
    have hfree : (v.folder state).content? (fileName named.name) = none := by
      rw [hholds.content, hname]
      rfl
    refine ⟨_, _, _, runs_request (hrun ▸ runs_checking_free hfs named hfits h hfree),
      .stored hstores hname _ _, hholds.write named, hproper.add hstores.isName hfits htime⟩
  | some old =>
    have htaken : (v.folder state).content? (fileName named.name) = some (contentOf old) := by
      rw [hholds.content, hname]
      rfl
    exact ⟨_, _, _, runs_request (hrun ▸ runs_checking_taken hfs named hfits h htaken),
      .taken hstores hname _, hholds, hproper⟩

theorem runs_get_of_mem {name : String} {named : NamedWallet S} (h : v.sound state)
    (hholds : (v.folder state).Holds register) (hproper : register.IsProper fits)
    (hfound : register name = some named) :
    v.Runs handle (keystore.get S name).run state (.ok named) (v.folder state) := by
  obtain ⟨-, hname, hfit, htime⟩ := hproper name named hfound
  have hcontent := hholds.content name
  rw [hfound] at hcontent
  have hruns := runs_seeking_found (S := S) hfs hfit h hcontent
  rw [readBytes_contentOf htime] at hruns
  rw [run_get keystore hname]
  exact hruns

theorem agrees_get {name : String} (h : v.sound state)
    (hfits : IsWalletName name → fits name) (hholds : (v.folder state).Holds register)
    (hproper : register.IsProper fits) :
    Agrees S handle v keystore fits register (.request (.get name)) state := by
  cases hname : isName name with
  | false =>
    have hmissing : register name = none := by
      by_contra hne
      obtain ⟨named, hnamed⟩ := Option.ne_none_iff_exists'.1 hne
      exact absurd (hproper name named hnamed).2.1 (hname ▸ Bool.false_ne_true)
    exact ⟨_, _, _, runs_request_of_done h (run_get_of_not_isName keystore hname),
      .missing hmissing _ _, hholds, hproper⟩
  | true =>
    have hfit := hfits (isName_iff.1 hname)
    cases hfound : register name with
    | none =>
      have hcontent := hholds.content name
      rw [hfound] at hcontent
      have hrun : Request.run S keystore (.get name) = seeking keystore S name :=
        run_get keystore hname
      exact ⟨_, _, _, runs_request (hrun ▸ runs_seeking_missing hfs hfit h hcontent),
        .missing hfound _ _, hholds, hproper⟩
    | some named =>
      exact ⟨_, _, _, runs_request (runs_get_of_mem hfs h hholds hproper hfound),
        .found hfound _, hholds, hproper⟩

/-! ### The listing -/

omit hfs in
theorem eq_fileName_of_stem?_eq_some {file name : String} (h : stem? file = some name) :
    file = fileName name := by
  unfold stem? at h
  dsimp only at h
  split at h
  · rename_i hcount
    cases h
    rw [fileName, String.toList_ofList, ← String.toList_inj, String.toList_ofList]
    conv_lhs => rw [← List.take_append_drop (file.toList.length - extension.length) file.toList,
      hcount.2]
  · cases h

/-- The line of a file in the listing, if it is that of a wallet. -/
def summary? (register : Register S) (file : String) : Option Summary :=
  (stem? file).bind register |>.map fun named => ⟨named.name, named.wallet.address⟩

omit hfs in
/-- If the lookup of every file is answered from the map, then so are all of them, one after the
other, and the files that are no wallets are passed over. The induction is over the files. -/
theorem runs_summaries_of_gets {folder : Folder} (files : List String)
    (hgets : ∀ state', v.sound state' → v.folder state' = folder →
      ∀ file ∈ files, ∀ name, stem? file = some name → ∃ result : Result S,
        result.toOption = register name ∧
          v.Runs handle (keystore.get S name).run state' result folder)
    {state : σ} (h : v.sound state) (hfolder : v.folder state = folder) :
    v.Runs handle (keystore.summaries S files) state (files.filterMap (summary? register))
      folder := by
  induction files generalizing state with
  | nil =>
    rw [← hfolder]
    exact runs_done h _
  | cons file rest ih =>
    have hrest {state : σ} (h : v.sound state) (hfolder : v.folder state = folder) :
        v.Runs handle (keystore.summaries S rest) state (rest.filterMap (summary? register))
          folder :=
      ih (fun state' h' hfolder' other hother =>
        hgets state' h' hfolder' other (List.mem_cons_of_mem file hother)) h hfolder
    unfold summaries
    cases hstem : stem? file with
    | none =>
      have hline : summary? register file = none := by
        rw [summary?, hstem]
        rfl
      rw [List.filterMap_cons_none hline]
      exact hrest h hfolder
    | some name =>
      obtain ⟨result, hresult, hget⟩ := hgets state h hfolder file List.mem_cons_self name hstem
      have hline : summary? register file =
          result.toOption.map fun named => ⟨named.name, named.wallet.address⟩ := by
        rw [summary?, hstem, Option.bind_some, ← hresult]
      refine hget.bind fun state' h' hfolder' => ?_
      cases result with
      | error failure =>
        rw [List.filterMap_cons_none hline]
        exact hrest h' hfolder'
      | ok named =>
        rw [List.filterMap_cons_some hline]
        exact (hrest h' hfolder').map (⟨named.name, named.wallet.address⟩ :: ·)

theorem runs_summaries (hproper : register.IsProper fits) (files : List String) {state : σ}
    (h : v.sound state) (hholds : (v.folder state).Holds register)
    (hfiles : ∀ file ∈ files, ((v.folder state).content? file).isSome) :
    v.Runs handle (keystore.summaries S files) state (files.filterMap (summary? register))
      (v.folder state) := by
  refine runs_summaries_of_gets files (fun state' h' hfolder file hfile name hstem => ?_) h rfl
  have hsome := hfiles file hfile
  rw [eq_fileName_of_stem?_eq_some hstem, hholds.content, Option.isSome_map] at hsome
  obtain ⟨named, hnamed⟩ := Option.isSome_iff_exists.1 hsome
  rw [← hfolder] at hholds ⊢
  exact ⟨.ok named, hnamed.symm, runs_get_of_mem hfs h' hholds hproper hnamed⟩

end OneCall

/-- **The listing** is the lines of the files that are found, by name. -/
def sorted (summaries : List Summary) : List Summary :=
  summaries.mergeSort fun a b => a.name ≤ b.name

theorem run_list (S : Scheme) (keystore : Keystore) : (keystore.list S).run =
    .ask (I := files) (.exists keystore.directory) fun
      | true => .ask (I := files) (.list keystore.directory) fun
        | .ok names => do return .ok (sorted (← keystore.summaries S names))
        | .error cause => .done (.error (.directoryNotRead keystore.directory cause))
      | false => .done (.ok []) := by
  unfold list
  refine congrArg (Activity.ask (I := files) (.exists _)) (funext fun isThere => ?_)
  cases isThere with
  | false => rfl
  | true =>
    refine congrArg (Activity.ask (I := files) (.list _)) (funext fun answer => ?_)
    cases answer with
    | error cause => rfl
    | ok names =>
      show (ExceptT.lift (keystore.summaries S names) >>= fun found =>
        (return sorted found : Task files Failure (List Summary))).run =
          keystore.summaries S names >>= fun found => return .ok (sorted found)
      generalize keystore.summaries S names = activity
      induction activity with
      | done found => rfl
      | ask op next ih => exact congrArg (Activity.ask op) (funext ih)

/-- A listing is that of the files which are found, if the directory is there. -/
theorem runs_list_of_leads {handle : Handler files σ} {keystore : Keystore} {v : DirectoryView σ}
    {state : σ} {before folder : Folder} {files : List String} {lines : List Summary}
    (hexists : v.Leads handle (.exists keystore.directory) state true before)
    (hlist : v.Leads handle (.list keystore.directory)
      (handle (.exists keystore.directory) state).2 (.ok files) folder)
    (hsummaries : ∀ state', v.sound state' → v.folder state' = folder →
      v.Runs handle (keystore.summaries S files) state' lines folder) :
    v.Runs handle (keystore.list S).run state (.ok (sorted lines)) folder := by
  rw [run_list]
  refine runs_ask_at hexists (runs_ask hlist fun state' h' hfolder => ?_)
  exact (hsummaries state' h' hfolder).map
    fun found => (.ok (sorted found) : Except Failure (List Summary))

theorem summary?_eq_some_iff {register : Register S} {fits : String → Prop}
    (hproper : register.IsProper fits) {file : String} {summary : Summary} :
    summary? register file = some summary ↔ file = fileName summary.name ∧
      ∃ named, register summary.name = some named ∧ summary.address = named.wallet.address := by
  constructor
  · intro h
    obtain ⟨named, hfound, rfl⟩ := Option.map_eq_some_iff.1 h
    obtain ⟨name, hstem, hnamed⟩ := Option.bind_eq_some_iff.1 hfound
    obtain rfl := (hproper name named hnamed).1
    exact ⟨eq_fileName_of_stem?_eq_some hstem, named, hnamed, rfl⟩
  · rintro ⟨rfl, named, hnamed, haddress⟩
    obtain ⟨hname, hvalid, -⟩ := hproper _ _ hnamed
    rw [summary?, stem?_fileName hvalid, Option.bind_some, hnamed, Option.map_some, hname,
      ← haddress]

theorem sorted_perm (summaries : List Summary) : (sorted summaries).Perm summaries :=
  List.mergeSort_perm _ _

theorem pairwise_le_sorted (summaries : List Summary) :
    (sorted summaries).Pairwise (·.name ≤ ·.name) := by
  have hsorted := @List.pairwise_mergeSort Summary (fun a b => a.name ≤ b.name)
    (fun a b c hab hbc => decide_eq_true
      (le_trans (of_decide_eq_true hab) (of_decide_eq_true hbc)))
    (fun a b => by simpa using le_total a.name b.name) summaries
  exact hsorted.imp of_decide_eq_true

theorem pairwise_lt_sorted {summaries : List Summary}
    (h : (summaries.map Summary.name).Nodup) : (sorted summaries).Pairwise (·.name < ·.name) := by
  have hdistinct := ((sorted_perm summaries).map Summary.name).nodup_iff.2 h
  rw [List.Nodup, List.pairwise_map] at hdistinct
  exact (pairwise_le_sorted summaries).imp₂ (fun a b hle hne => lt_of_le_of_ne hle hne) hdistinct

/-- Files of different names have lines of different names. -/
theorem nodup_names_of_files {register : Register S} {fits : String → Prop}
    (hproper : register.IsProper fits) {files : List String} (h : files.Nodup) :
    ((files.filterMap (summary? register)).map Summary.name).Nodup := by
  rw [List.map_filterMap]
  refine h.filterMap fun a b name ha hb => ?_
  obtain ⟨first, hfirst, rfl⟩ := Option.map_eq_some_iff.1 ha
  obtain ⟨second, hsecond, hname⟩ := Option.map_eq_some_iff.1 hb
  obtain ⟨rfl, -⟩ := (summary?_eq_some_iff hproper).1 hfirst
  obtain ⟨rfl, -⟩ := (summary?_eq_some_iff hproper).1 hsecond
  rw [hname]

theorem mem_sorted_iff {register : Register S} {fits : String → Prop}
    (hproper : register.IsProper fits) {files : List String}
    (hfiles : ∀ name, (register name).isSome → fileName name ∈ files) {summary : Summary} :
    summary ∈ sorted (files.filterMap (summary? register)) ↔
      ∃ named, register summary.name = some named ∧ summary.address = named.wallet.address := by
  rw [(sorted_perm _).mem_iff, List.mem_filterMap]
  constructor
  · rintro ⟨file, -, hline⟩
    exact ((summary?_eq_some_iff hproper).1 hline).2
  · rintro ⟨named, hnamed, haddress⟩
    refine ⟨fileName summary.name, hfiles _ ?_,
      (summary?_eq_some_iff hproper).2 ⟨rfl, named, hnamed, haddress⟩⟩
    rw [hnamed]
    rfl

/-- A directory that is missing holds the empty map only. -/
theorem Folder.Holds.eq_none {folder : Folder} {register : Register S} (h : folder.Holds register)
    (hthere : folder.isThere = false) (name : String) : register name = none := by
  have hcontent := h.content name
  cases folder with
  | absent => exact Option.map_eq_none_iff.1 hcontent.symm
  | files content => cases hthere

theorem exists_runs_list {handle : Handler files σ} {keystore : Keystore} {fits : String → Prop}
    {v : DirectoryView σ} {register : Register S} {state : σ}
    (hfs : Reliable handle keystore fits v) (h : v.sound state)
    (hholds : (v.folder state).Holds register) (hproper : register.IsProper fits)
    (hthere : (v.folder state).isThere = true) :
    ∃ files : List String, files.Nodup ∧
      (∀ file, file ∈ files ↔ ((v.folder state).content? file).isSome) ∧
      v.Runs handle (keystore.list S).run state (.ok (sorted (files.filterMap (summary? register))))
        (v.folder state) := by
  have hdirectory := hfs.directory_exists h
  have hfolder₁ := hdirectory.folder_eq
  have h₁ := hdirectory.sound
  rw [← hfolder₁] at hthere hholds
  obtain ⟨files, hnodup, hfiles, hlist⟩ := hfs.list h₁ hthere
  rw [← hfolder₁] at hdirectory ⊢
  rw [hthere] at hdirectory
  refine ⟨files, hnodup, hfiles, runs_list_of_leads hdirectory hlist fun state₂ h₂ hfolder₂ => ?_⟩
  rw [← hfolder₂] at hholds hfiles ⊢
  exact runs_summaries hfs hproper files h₂ hholds fun file hfile => (hfiles file).1 hfile

theorem agrees_list {handle : Handler files σ} {keystore : Keystore} {fits : String → Prop}
    {v : DirectoryView σ} {register : Register S} {state : σ}
    (hfs : Reliable handle keystore fits v) (h : v.sound state)
    (hholds : (v.folder state).Holds register) (hproper : register.IsProper fits) :
    Agrees S handle v keystore fits register .list state := by
  have hdirectory := hfs.directory_exists h
  cases hthere : (v.folder state).isThere with
  | false =>
    have hnone := hholds.eq_none hthere
    rw [hthere] at hdirectory
    have hruns : v.Runs handle (keystore.list S).run state (.ok []) (v.folder state) := by
      rw [run_list]
      exact runs_ask_done hdirectory rfl
    refine ⟨_, _, _, runs_list hruns,
      .listed .nil (fun summary => ?_) _, hholds, hproper⟩
    simp [hnone]
  | true =>
    obtain ⟨files, hnodup, hfiles, hruns⟩ := exists_runs_list hfs h hholds hproper hthere
    have hnames : ∀ name, (register name).isSome → fileName name ∈ files := by
      intro name hname
      rw [hfiles, hholds.content, Option.isSome_map]
      exact hname
    have hsorted := pairwise_lt_sorted (nodup_names_of_files hproper hnodup)
    exact ⟨_, _, _, runs_list hruns,
      .listed hsorted (fun _ => mem_sorted_iff hproper hnames) _, hholds, hproper⟩

/-! ### All calls -/

section AllCalls

variable {handle : Handler files σ} {keystore : Keystore} {fits : String → Prop}
  {v : DirectoryView σ}

theorem suits_of_stores {request : Request} {named : NamedWallet S} (h : request.Stores named)
    (hsuits : Call.Suits fits (.request request)) :
    fits named.name ∧ named.createdAt.ReadsBack := by
  cases h with
  | create hname => exact ⟨hsuits.1 hname, hsuits.2⟩
  | importSecret hname => exact ⟨hsuits.1 hname, hsuits.2⟩

/-- **One call** is answered as by the map. -/
theorem agrees (hfs : Reliable handle keystore fits v) {register : Register S} {state : σ}
    (h : v.sound state) (hholds : (v.folder state).Holds register)
    (hproper : register.IsProper fits) {call : Call} (hsuits : call.Suits fits) :
    Agrees S handle v keystore fits register call state := by
  cases call with
  | list => exact agrees_list hfs h hholds hproper
  | request request =>
    by_cases hstores : ∃ named : NamedWallet S, request.Stores named
    · obtain ⟨named, hstores⟩ := hstores
      obtain ⟨hfits, htime⟩ := suits_of_stores hstores hsuits
      exact agrees_of_stores hfs h hstores hfits htime hholds hproper
    · rw [not_exists] at hstores
      cases request with
      | create name secret createdAt =>
        exact agrees_of_forall_not_stores h trivial hstores hholds hproper
      | importSecret name secret createdAt =>
        exact agrees_of_forall_not_stores h trivial hstores hholds hproper
      | get name => exact agrees_get hfs h hsuits hholds hproper

/-- From any map that the directory holds, the calls go on as those of the map. The induction is
over the calls. -/
theorem history_follows_of_holds (hfs : Reliable handle keystore fits v) (calls : List Call)
    {register : Register S} {state : σ} (h : v.sound state)
    (hholds : (v.folder state).Holds register) (hproper : register.IsProper fits)
    (hcalls : ∀ call ∈ calls, call.Suits fits) :
    Follows register (history S handle v keystore calls state) := by
  induction calls generalizing register state with
  | nil => exact .nil register
  | cons call rest ih =>
    rw [List.forall_mem_cons] at hcalls
    obtain ⟨outcome, folder, after, hruns, hmeets, hheld, hgood⟩ :=
      agrees hfs h hholds hproper hcalls.1
    rw [← hruns.folder_eq] at hmeets hheld
    rw [← hruns.result_eq] at hmeets
    exact .cons hmeets hheld (ih hruns.sound hheld hgood hcalls.2)

/-- **The keystore is a map that is written once.** Whatever calls are made of it, from a directory
that is missing or empty, their outcomes are those of a map that starts with nothing in it, and
after each call the directory holds what the map holds. -/
theorem history_follows (S : Scheme) (hfs : Reliable handle keystore fits v) {state : σ}
    (h : v.sound state) (hempty : (v.folder state).IsEmpty) (calls : List Call)
    (hcalls : ∀ call ∈ calls, call.Suits fits) :
    Follows (fun _ => none) (history S handle v keystore calls state) := by
  refine history_follows_of_holds hfs calls h ⟨fun name => ?_, fun file hfile => ?_⟩ ?_ hcalls
  · rw [hempty]
    rfl
  · rw [hempty] at hfile
    cases hfile
  · exact fun name named hnamed => nomatch hnamed

end AllCalls

/-- A time with parts of a second. -/
def sampleTime : Instant := ⟨1700000000, 123456789⟩

/-- A wallet is made, its name is asked for again, another one is imported, and both are looked
for. -/
def sampleCalls : List Call :=
  [.request (.create "alice" Wallet.sampleSecret sampleTime),
    .request (.importSecret "alice" "00" sampleTime),
    .request (.importSecret "bob-2" (Hex.encode Wallet.sampleSecret.toList) sampleTime),
    .request (.get "alice"), .request (.get "../alice"), .list]

theorem history_follows_sample :
    Follows (fun _ => none) (history Wallet.sampleScheme Disk.handle Disk.walletsSite.view
      Disk.walletsSite.keystore sampleCalls Disk.empty) := by
  have htime : sampleTime.ReadsBack := by
    rfl
  have halice : Disk.walletsSite.Fits "alice" := ⟨by decide +kernel, by decide +kernel⟩
  have hbob : Disk.walletsSite.Fits "bob-2" := ⟨by decide +kernel, by decide +kernel⟩
  have habove : ¬ IsWalletName "../alice" := by
    rw [← isName_iff]
    decide
  refine history_follows Wallet.sampleScheme (Disk.Site.reliable_disk Disk.walletsSite)
    Disk.isSound_empty (fun _ => rfl) sampleCalls ?_
  simp only [sampleCalls, List.forall_mem_cons]
  exact ⟨⟨fun _ => halice, htime⟩, ⟨fun _ => halice, htime⟩, ⟨fun _ => hbob, htime⟩,
    fun _ => halice, fun hname => absurd hname habove, trivial, fun call hcall => nomatch hcall⟩

end Remit.Keystore
