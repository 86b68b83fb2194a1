import Remit.Proofs.Keystore.WriteOnce

/-!
# Labels of wallets

The name of a wallet stands in two places: its file is called after it, and it is written in the
file, which is then labelled with it. Whatever the files are, the directory is read as a map from
the names of the files to wallets (`Folder.register`), each of which brings its label along.

Where directory and files can be read at all (`Legible`), lookups are answered from this map, and a
listing has one line for each wallet in it, by their labels (`IsListing`). If every label is the
name of its file, then the lines have different names, and there is one listing only
(`IsListing.unique`), in whatever order the files are found.

* `labelled_history`: the labels stay right as long as only the keystore writes to the directory.
-/

namespace Remit.Keystore

open FileSystem

variable {S : Scheme} {σ : Type}

/-! ### What the directory is read as -/

/-- The wallet that some bytes are read as, whichever file they are in. -/
def walletIn? (S : Scheme) (bytes : Bytes) : Option (NamedWallet S) := do
  let text ← bytes.toText?
  let record ← (Record.decoder.ofText text).toOption
  if record.version ≠ Record.currentVersion then none
  else
    let wallet ← (Wallet.ofSerialized S text).toOption
    return ⟨record.name, record.createdAt, wallet⟩

/-- The wallets in the directory, each under the name that its file has. -/
def Folder.register (S : Scheme) (folder : Folder) : Register S := fun name =>
  if isName name then (folder.content? (fileName name)).bind (walletIn? S) else none

theorem toOption_eq_some_iff {ε α : Type} {result : Except ε α} {value : α} :
    result.toOption = some value ↔ result = .ok value := by
  cases result with
  | error cause => simp [Except.toOption]
  | ok found => simp [Except.toOption]

theorem toOption_readBytes (file : Path) (bytes : Bytes) :
    (readBytes S file bytes).toOption = walletIn? S bytes := by
  unfold readBytes walletIn?
  cases bytes.toText? with
  | none => rfl
  | some text =>
    simp only [Option.bind_eq_bind, Option.bind_some, readRecord]
    cases Record.decoder.ofText text with
    | error cause => rfl
    | ok record =>
      by_cases hversion : record.version ≠ Record.currentVersion
      · exact (congrArg Except.toOption (if_pos hversion)).trans (if_pos hversion).symm
      · refine (congrArg Except.toOption (if_neg hversion)).trans
          (Eq.trans ?_ (if_neg hversion).symm)
        cases Wallet.ofSerialized S text <;> rfl

/-- **The name of a wallet is the one that is written in its file**, and so is its time. -/
theorem walletIn?_eq_some_iff {bytes : Bytes} {named : NamedWallet S} :
    walletIn? S bytes = some named ↔ ∃ text record, bytes = Bytes.ofText text ∧
      Record.decoder.ofText text = .ok record ∧ record.version = Record.currentVersion ∧
      Wallet.ofSerialized S text = .ok named.wallet ∧ named.name = record.name ∧
      named.createdAt = record.createdAt := by
  unfold walletIn?
  simp only [Option.bind_eq_bind, Option.bind_eq_some_iff, Bytes.toText?_eq_some_iff,
    toOption_eq_some_iff]
  constructor
  · rintro ⟨text, htext, record, hrecord, hread⟩
    split at hread
    · cases hread
    · rename_i hversion
      obtain ⟨wallet, hwallet, hnamed⟩ := Option.bind_eq_some_iff.1 hread
      cases hnamed
      exact ⟨text, record, htext, hrecord, not_not.1 hversion, toOption_eq_some_iff.1 hwallet, rfl,
        rfl⟩
  · rintro ⟨text, record, htext, hrecord, hversion, hwallet, hname, htime⟩
    refine ⟨text, htext, record, hrecord, ?_⟩
    rw [if_neg (not_not.2 hversion), hwallet, ← hname, ← htime]
    rfl

theorem walletIn?_contentOf {named : NamedWallet S} (h : named.createdAt.ReadsBack) :
    walletIn? S (contentOf named) = some named := by
  rw [← toOption_readBytes ⟨[]⟩, readBytes_contentOf h]
  rfl

/-- Two files that hold one document hold one wallet. -/
theorem walletIn?_of_ofText_eq {text text' : String} {named : NamedWallet S}
    (h : Json.Document.ofText text = Json.Document.ofText text')
    (hread : walletIn? S (Bytes.ofText text') = some named) :
    walletIn? S (Bytes.ofText text) = some named := by
  obtain ⟨_, record, htext, hrecord, hversion, hwallet, hnames⟩ := walletIn?_eq_some_iff.1 hread
  obtain rfl := Bytes.ofText_injective htext
  refine walletIn?_eq_some_iff.2
    ⟨text, record, rfl, (Json.Decoder.ofText_congr _ h).trans hrecord, hversion, ?_, hnames⟩
  rw [Wallet.ofSerialized] at hwallet ⊢
  rw [Json.Decoder.ofText_congr _ h]
  generalize Wallet.Serialized.decoder.ofText text' = found at hwallet ⊢
  cases found with
  | ok s => exact hwallet
  | error cause => cases hwallet

/-- What the keystore has written carries the name that it was written for. -/
theorem name_eq_of_walletIn?_contentOf {original named : NamedWallet S}
    (h : walletIn? S (contentOf original) = some named) : named.name = original.name := by
  rw [← toOption_readBytes ⟨[]⟩, toOption_eq_some_iff, readBytes, contentOf,
    Bytes.toText?_ofText] at h
  exact (eq_of_readRecord_text h).1

/-! ### Labels -/

/-- Every wallet carries the name that it is stored under. -/
def Register.IsLabelled (register : Register S) : Prop :=
  ∀ name named, register name = some named → named.name = name

theorem register_eq_some_iff {folder : Folder} {name : String} {named : NamedWallet S} :
    folder.register S name = some named ↔ isName name = true ∧
      ∃ bytes, folder.content? (fileName name) = some bytes ∧ walletIn? S bytes = some named := by
  unfold Folder.register
  cases isName name with
  | true => simp [Option.bind_eq_some_iff]
  | false => simp

theorem register_of_content? {folder : Folder} {name : String} {bytes : Bytes}
    (hname : isName name = true) (h : folder.content? (fileName name) = some bytes) :
    folder.register S name = walletIn? S bytes := by
  rw [Folder.register, if_pos hname, h, Option.bind_some]

theorem register_of_content?_eq_none {folder : Folder} {name : String}
    (h : folder.content? (fileName name) = none) : folder.register S name = none := by
  rw [Folder.register, h]
  split <;> rfl

theorem register_of_not_isName (folder : Folder) {name : String} (h : isName name = false) :
    folder.register S name = none := by
  rw [Folder.register, h, if_neg Bool.false_ne_true]

/-- What is written into another file does not change what is stored under a name. -/
theorem register_write_of_ne (folder : Folder) {name file : String} (h : fileName name ≠ file)
    (bytes : Bytes) : (folder.write file bytes).register S name = folder.register S name := by
  unfold Folder.register
  rw [Folder.content?_write, if_neg h]

theorem Register.IsLabelled.write {folder : Folder} (h : (folder.register S).IsLabelled)
    {file : String} {bytes : Bytes} (hbytes : ∀ name named, fileName name = file →
      walletIn? S bytes = some named → named.name = name) :
    ((folder.write file bytes).register S).IsLabelled := by
  intro name named hnamed
  by_cases hfile : fileName name = file
  · subst hfile
    obtain ⟨-, content, hcontent, hread⟩ := register_eq_some_iff.1 hnamed
    rw [Folder.content?_write_self] at hcontent
    cases hcontent
    exact hbytes name named rfl hread
  · rw [register_write_of_ne folder hfile] at hnamed
    exact h name named hnamed

/-! ### Listings -/

/-- The line of a wallet in a listing. -/
def NamedWallet.summary (named : NamedWallet S) : Summary := ⟨named.name, named.wallet.address⟩

/-- The lines are one for each wallet of the map, by the names that the wallets carry. -/
structure IsListing (register : Register S) (lines : List Summary) : Prop where
  exists_entries : ∃ entries : List (String × NamedWallet S), (entries.map Prod.fst).Nodup ∧
    (∀ name named, (name, named) ∈ entries ↔ register name = some named) ∧
    lines.Perm (entries.map fun entry => entry.2.summary)
  sorted : lines.Pairwise (·.name ≤ ·.name)

namespace IsListing

variable {register : Register S} {lines : List Summary}

theorem mem_iff (h : IsListing register lines) (hlabelled : register.IsLabelled)
    {line : Summary} : line ∈ lines ↔
      ∃ named, register line.name = some named ∧ line.address = named.wallet.address := by
  obtain ⟨entries, -, hentries, hperm⟩ := h.exists_entries
  rw [hperm.mem_iff, List.mem_map]
  constructor
  · rintro ⟨⟨name, named⟩, hentry, rfl⟩
    have hfound := (hentries name named).1 hentry
    obtain rfl := hlabelled name named hfound
    exact ⟨named, hfound, rfl⟩
  · rintro ⟨named, hfound, haddress⟩
    have hname := hlabelled _ _ hfound
    refine ⟨(line.name, named), (hentries _ _).2 hfound, ?_⟩
    rw [NamedWallet.summary, hname, ← haddress]

theorem pairwise_lt (h : IsListing register lines) (hlabelled : register.IsLabelled) :
    lines.Pairwise (·.name < ·.name) := by
  obtain ⟨entries, hnodup, hentries, hperm⟩ := h.exists_entries
  -- The names in the lines are those of the files, which are different.
  have hnames : (entries.map fun entry => entry.2.summary).map Summary.name =
      entries.map Prod.fst := by
    rw [List.map_map]
    refine List.map_congr_left fun entry hentry => ?_
    exact hlabelled _ _ ((hentries entry.1 entry.2).1 hentry)
  have hdistinct := (hperm.map Summary.name).nodup_iff.2 (hnames ▸ hnodup)
  rw [List.Nodup, List.pairwise_map] at hdistinct
  exact h.sorted.imp₂ (fun a b hle hne => lt_of_le_of_ne hle hne) hdistinct

/-- **There is one listing** of labelled wallets. -/
theorem unique {other : List Summary} (h : IsListing register lines)
    (hother : IsListing register other) (hlabelled : register.IsLabelled) : lines = other := by
  have hlt := h.pairwise_lt hlabelled
  have hlt' := hother.pairwise_lt hlabelled
  have hnodup : lines.Nodup := hlt.imp fun hab heq => absurd (heq ▸ hab) (lt_irrefl _)
  have hnodup' : other.Nodup := hlt'.imp fun hab heq => absurd (heq ▸ hab) (lt_irrefl _)
  have hperm : lines.Perm other := by
    rw [List.perm_ext_iff_of_nodup hnodup hnodup']
    intro line
    rw [h.mem_iff hlabelled, hother.mem_iff hlabelled]
  exact hperm.eq_of_pairwise (fun a b _ _ hab hba => absurd hab (lt_asymm hba)) hlt hlt'

end IsListing

/-- The entries of the map that are found in the files. -/
def entryOf? (register : Register S) (file : String) : Option (String × NamedWallet S) :=
  (stem? file).bind fun name => (register name).map fun named => (name, named)

theorem entryOf?_eq_some_iff {register : Register S} {file name : String} {named : NamedWallet S} :
    entryOf? register file = some (name, named) ↔
      stem? file = some name ∧ register name = some named := by
  simp only [entryOf?, Option.bind_eq_some_iff, Option.map_eq_some_iff, Prod.mk.injEq]
  constructor
  · rintro ⟨_, hstem, _, hfound, rfl, rfl⟩
    exact ⟨hstem, hfound⟩
  · rintro ⟨hstem, hfound⟩
    exact ⟨name, hstem, named, hfound, rfl, rfl⟩

theorem summary?_eq_map_entryOf? (register : Register S) (file : String) :
    summary? register file = (entryOf? register file).map fun entry => entry.2.summary := by
  unfold summary? entryOf?
  cases stem? file with
  | none => rfl
  | some name =>
    simp only [Option.bind_some, Option.map_map]
    rfl

/-- The lines of different files, among which are those of all wallets, are a listing. -/
theorem isListing_of_files {register : Register S} {files : List String} (hnodup : files.Nodup)
    (hnames : ∀ name named, register name = some named → isName name = true)
    (hfiles : ∀ name named, register name = some named → fileName name ∈ files) :
    IsListing register (sorted (files.filterMap (summary? register))) where
  exists_entries := by
    refine ⟨files.filterMap (entryOf? register), ?_, fun name named => ?_, ?_⟩
    · rw [List.map_filterMap]
      refine hnodup.filterMap fun a b name ha hb => ?_
      obtain ⟨⟨_, first⟩, hfirst, rfl⟩ := Option.map_eq_some_iff.1 ha
      obtain ⟨⟨_, second⟩, hsecond, rfl⟩ := Option.map_eq_some_iff.1 hb
      have hstemA := (entryOf?_eq_some_iff.1 hfirst).1
      have hstemB := (entryOf?_eq_some_iff.1 hsecond).1
      rw [eq_fileName_of_stem?_eq_some hstemA, eq_fileName_of_stem?_eq_some hstemB]
    · rw [List.mem_filterMap]
      constructor
      · rintro ⟨file, -, hentry⟩
        exact (entryOf?_eq_some_iff.1 hentry).2
      · intro hfound
        have hstem := stem?_fileName (hnames name named hfound)
        exact ⟨fileName name, hfiles name named hfound,
          entryOf?_eq_some_iff.2 ⟨hstem, hfound⟩⟩
    · rw [List.map_filterMap]
      refine (sorted_perm _).trans ?_
      rw [funext (summary?_eq_map_entryOf? register)]
  sorted := pairwise_le_sorted _

/-! ### File systems that can be read -/

/-- Looking at the directory and reading the files in it is answered as it should be and changes
nothing. What lies under a name that no file has, a directory for one, cannot be read. -/
structure Legible (handle : Handler files σ) (keystore : Keystore) (v : DirectoryView σ) :
    Prop where
  directory_exists {state : σ} (h : v.sound state) :
    v.Leads handle (.exists keystore.directory) state (v.folder state).isThere (v.folder state)
  list {state : σ} (h : v.sound state) (hthere : (v.folder state).isThere = true) :
    ∃ names : List String, names.Nodup ∧
      (∀ file, ((v.folder state).content? file).isSome → file ∈ names) ∧
      v.Leads handle (.list keystore.directory) state (.ok names) (v.folder state)
  file_exists {state : σ} {name : String} (h : v.sound state) (hname : isName name = true) :
    ∃ isThere, (((v.folder state).content? (fileName name)).isSome → isThere = true) ∧
      v.Leads handle (.exists (keystore.fileFor name)) state isThere (v.folder state)
  read {state : σ} {name : String} (h : v.sound state) (hname : isName name = true) :
    ∃ answer, answer.toOption = (v.folder state).content? (fileName name) ∧
      v.Leads handle (.read (keystore.fileFor name)) state answer (v.folder state)

namespace Legible

variable {handle : Handler files σ} {keystore : Keystore} {v : DirectoryView σ} {state : σ}

/-- **A lookup** is answered from the map, and nothing changes. -/
theorem exists_runs_get (hfs : Legible handle keystore v) (h : v.sound state) (S : Scheme)
    (name : String) : ∃ result : Result S,
      result.toOption = (v.folder state).register S name ∧
      v.Runs handle (keystore.get S name).run state result (v.folder state) := by
  cases hname : isName name with
  | false =>
    rw [run_get_of_not_isName keystore hname, register_of_not_isName _ hname]
    exact ⟨_, rfl, runs_done h _⟩
  | true =>
    obtain ⟨isThere, hthere, hexists⟩ := hfs.file_exists h hname
    have hsame := hexists.folder_eq
    rw [run_get keystore hname]
    cases isThere with
    | false =>
      have hnone : (v.folder state).content? (fileName name) = none := by
        rw [← Option.not_isSome_iff_eq_none]
        exact fun hsome => Bool.false_ne_true (hthere hsome)
      refine ⟨.error (.notFound name keystore.directory), ?_, runs_ask_done hexists rfl⟩
      exact (register_of_content?_eq_none hnone).symm
    | true =>
      obtain ⟨answer, hanswer, hread⟩ := hfs.read hexists.sound hname
      rw [hsame] at hanswer hread
      cases answer with
      | error cause =>
        -- What lies there is no file.
        refine ⟨.error (.fileNotRead (keystore.fileFor name) cause), ?_,
          runs_ask_at hexists (runs_ask_done hread rfl)⟩
        exact (register_of_content?_eq_none hanswer.symm).symm
      | ok bytes =>
        refine ⟨readBytes S (keystore.fileFor name) bytes, ?_,
          runs_ask_at hexists (runs_ask_done hread rfl)⟩
        rw [toOption_readBytes, register_of_content? hname hanswer.symm]

/-- If these files are found in the directory, then the listing is made of their lines. -/
theorem runs_list_of_files (hfs : Legible handle keystore v) (h : v.sound state) (S : Scheme)
    (hthere : (v.folder state).isThere = true) {files : List String}
    (hlist : v.Leads handle (.list keystore.directory)
      (handle (.exists keystore.directory) state).2 (.ok files) (v.folder state)) :
    v.Runs handle (keystore.list S).run state
      (.ok (sorted (files.filterMap (summary? ((v.folder state).register S)))))
      (v.folder state) := by
  have hdirectory := hfs.directory_exists h
  rw [hthere] at hdirectory
  refine runs_list_of_leads hdirectory hlist fun state₂ h₂ hfolder₂ => ?_
  refine runs_summaries_of_gets files (fun state' h' hfolder file _ name _ => ?_) h₂ hfolder₂
  rw [← hfolder]
  exact hfs.exists_runs_get h' S name

/-- **A listing** is one of the map, and nothing changes. -/
theorem exists_runs_list (hfs : Legible handle keystore v) (h : v.sound state) (S : Scheme) :
    ∃ lines, IsListing ((v.folder state).register S) lines ∧
      v.Runs handle (keystore.list S).run state (.ok lines) (v.folder state) := by
  have hdirectory := hfs.directory_exists h
  cases hthere : (v.folder state).isThere with
  | false =>
    have hnone (name : String) : (v.folder state).register S name = none := by
      apply register_of_content?_eq_none
      cases hfolder : v.folder state with
      | absent => rfl
      | files content => rw [hfolder] at hthere; cases hthere
    rw [hthere] at hdirectory
    rw [run_list]
    refine ⟨[], ⟨⟨[], .nil, ?_, .nil⟩, .nil⟩, runs_ask_done hdirectory rfl⟩
    simp [hnone]
  | true =>
    have hsame := hdirectory.folder_eq
    obtain ⟨files, hnodup, hfiles, hlist⟩ := hfs.list hdirectory.sound (hsame ▸ hthere)
    rw [hsame] at hfiles hlist
    refine ⟨_, isListing_of_files hnodup ?_ ?_, hfs.runs_list_of_files h S hthere hlist⟩
    · intro name named hfound
      exact (register_eq_some_iff.1 hfound).1
    · intro name named hfound
      obtain ⟨-, bytes, hcontent, -⟩ := register_eq_some_iff.1 hfound
      exact hfiles _ (Option.isSome_of_eq_some hcontent)

/-- What a lookup returns is in the map. -/
theorem get_eq_ok_iff (hfs : Legible handle keystore v) (h : v.sound state) {name : String}
    {named : NamedWallet S} : ((keystore.get S name).run.run handle state).1 = .ok named ↔
      (v.folder state).register S name = some named := by
  obtain ⟨result, hresult, hruns⟩ := hfs.exists_runs_get h S name
  rw [hruns.result_eq, ← hresult, toOption_eq_some_iff]

end Legible

/-! ### What becomes of the labels -/

section Labels

variable {handle : Handler files σ} {keystore : Keystore} {fits : String → Prop}
  {v : DirectoryView σ} {state : σ}

/-- **A call leaves the labels right**: what it writes, if anything, carries the name of its
file. -/
theorem exists_runs_call (hstores : Reliable handle keystore fits v)
    (hreads : Legible handle keystore v) (h : v.sound state)
    (hlabelled : ((v.folder state).register S).IsLabelled) {call : Call}
    (hsuits : call.Suits fits) : ∃ outcome folder,
      v.Runs handle (call.run S keystore) state outcome folder ∧
        (folder.register S).IsLabelled := by
  cases call with
  | list =>
    obtain ⟨lines, -, hruns⟩ := hreads.exists_runs_list h S
    exact ⟨_, _, runs_list hruns, hlabelled⟩
  | request request =>
    by_cases hto : ∃ named : NamedWallet S, request.Stores named
    · obtain ⟨named, hnamed⟩ := hto
      have hrun := hnamed.run_eq keystore
      have hfits := (suits_of_stores hnamed hsuits).1
      cases hcontent : (v.folder state).content? (fileName named.name) with
      | none =>
        refine ⟨_, _, runs_request (hrun ▸ runs_checking_free hstores named hfits h hcontent), ?_⟩
        refine hlabelled.write fun name found hfile hread => ?_
        rw [fileName_inj.1 hfile]
        exact name_eq_of_walletIn?_contentOf hread
      | some old =>
        exact ⟨_, _, runs_request (hrun ▸ runs_checking_taken hstores named hfits h hcontent),
          hlabelled⟩
    · rw [not_exists] at hto
      have hrefused (hstore : request.IsToStore) : ∃ outcome folder,
          v.Runs handle (Call.run S keystore (.request request)) state outcome folder ∧
            (folder.register S).IsLabelled := by
        obtain ⟨failure, hrun⟩ := Request.run_eq_of_forall_not_stores hstore hto keystore
        exact ⟨_, _, runs_request_of_done h hrun, hlabelled⟩
      cases request with
      | create name secret createdAt => exact hrefused trivial
      | importSecret name secret createdAt => exact hrefused trivial
      | get name =>
        obtain ⟨result, -, hruns⟩ := hreads.exists_runs_get h S name
        exact ⟨_, _, runs_request hruns, hlabelled⟩

/-- **The labels stay right** as long as nobody else writes to the directory, whatever else is in
it. The induction is over the calls. -/
theorem labelled_history (hstores : Reliable handle keystore fits v)
    (hreads : Legible handle keystore v) (calls : List Call) (h : v.sound state)
    (hlabelled : ((v.folder state).register S).IsLabelled)
    (hcalls : ∀ call ∈ calls, call.Suits fits) :
    ∀ event ∈ history S handle v keystore calls state, (event.after.register S).IsLabelled := by
  induction calls generalizing state with
  | nil => exact fun event hevent => nomatch hevent
  | cons call rest ih =>
    rw [List.forall_mem_cons] at hcalls
    obtain ⟨outcome, folder, hruns, hafter⟩ :=
      exists_runs_call hstores hreads h hlabelled hcalls.1
    rw [← hruns.folder_eq] at hafter
    rw [history, List.forall_mem_cons]
    exact ⟨hafter, ih hruns.sound hafter hcalls.2⟩

end Labels

/-! ### Names that the file system takes -/

/-- Only names that the file system takes are those of files. -/
def Folder.IsWithin (fits : String → Prop) (folder : Folder) : Prop :=
  ∀ name, (folder.content? (fileName name)).isSome → fits name

/-- The view, with no files that the file system would not take. -/
def DirectoryView.within (v : DirectoryView σ) (fits : String → Prop) : DirectoryView σ :=
  ⟨v.folder, fun state => v.sound state ∧ (v.folder state).IsWithin fits⟩

theorem Folder.IsWithin.write {fits : String → Prop} {folder : Folder} (h : folder.IsWithin fits)
    {file : String} (hfile : ∀ name, fileName name = file → fits name) (bytes : Bytes) :
    (folder.write file bytes).IsWithin fits := by
  intro name hname
  rw [Folder.content?_write] at hname
  split at hname
  · rename_i heq
    exact hfile name heq
  · exact h name hname

theorem Folder.IsWithin.write_fileName {fits : String → Prop} {folder : Folder}
    (h : folder.IsWithin fits) {name : String} (hname : fits name) (bytes : Bytes) :
    (folder.write (fileName name) bytes).IsWithin fits := by
  refine h.write (fun other hother => ?_) bytes
  rw [fileName_inj.1 hother]
  exact hname

theorem DirectoryView.Leads.within {v : DirectoryView σ} {fits : String → Prop}
    {handle : Handler files σ} {op : Op} {state : σ} {answer : op.Answer} {folder : Folder}
    (h : v.Leads handle op state answer folder) (hfits : folder.IsWithin fits) :
    (v.within fits).Leads handle op state answer folder :=
  ⟨h.answer_eq, h.folder_eq, h.sound, h.folder_eq ▸ hfits⟩

theorem Reliable.within {handle : Handler files σ} {keystore : Keystore} {fits : String → Prop}
    {v : DirectoryView σ} (hfs : Reliable handle keystore fits v) :
    Reliable handle keystore fits (v.within fits) where
  directory_exists h := (hfs.directory_exists h.1).within h.2
  make h := (hfs.make h.1).within h.2
  list h hthere := by
    obtain ⟨names, hnodup, hnames, hlist⟩ := hfs.list h.1 hthere
    exact ⟨names, hnodup, hnames, hlist.within h.2⟩
  file_exists h hname := (hfs.file_exists h.1 hname).within h.2
  create_free h hname hthere hfree :=
    (hfs.create_free h.1 hname hthere hfree).within (h.2.write_fileName hname _)
  create_taken h hname htaken := (hfs.create_taken h.1 hname htaken).within h.2
  append h hname hold hne := by
    obtain ⟨taken, hpos, hle, happend⟩ := hfs.append h.1 hname hold hne
    exact ⟨taken, hpos, hle, happend.within (h.2.write_fileName hname _)⟩
  sync h hname hold := (hfs.sync h.1 hname hold).within h.2
  read h hname hbytes := (hfs.read h.1 hname hbytes).within h.2

end Remit.Keystore
