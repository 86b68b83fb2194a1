import Remit.Proofs.Keystore.Labels

/-!
# Names of files and names in files

A wallet is looked up by the name of its file and reported by the name that is written there, and
nothing compares the two. They are the same in files that the keystore has written, but anybody may
copy, rename or edit a file, and then they may not be (`names_disagree_twins`).

A disk can be read (`Disk.Site.legible_disk`), whatever the contents of the files are, so all that
is said of lookups and listings holds there.

* `stored_names_agree`: what is looked up and listed, for any files.
-/

namespace Remit.FileSystem.Disk

open Keystore

/-! ### Disks that can be read -/

theorem eq_concat_of_move {disk : Disk} {place next : Place} {part : String}
    (hpart : Path.isName part = true) (h : disk.move place part = .ok next) :
    next = place ++ [part] := by
  simp only [Path.isName, Bool.and_eq_true, Bool.not_eq_true', bne_iff_ne] at hpart
  rw [move, find?_of_move h] at h
  simp only [hpart.1, Bool.false_eq_true, if_false, if_neg hpart.2] at h
  split at h
  · cases h
  · exact (Except.ok.inj h).symm

namespace Site

variable {site : Site} {disk : Disk}

/-- Where there is no file, nothing is found. -/
theorem IsSound.exists_look_eq_error (h : site.IsSound disk) {name : String}
    (hnone : (site.folder disk).content? (fileName name) = none) :
    ∃ cause, disk.look (site.keystore.fileFor name) = .error cause := by
  cases hlocate : disk.locate (site.keystore.fileFor name) with
  | error cause =>
    rw [look, hlocate]
    exact ⟨cause, rfl⟩
  | ok place =>
    -- A walk that comes to its end leads one name further than the directory, where nothing is.
    have hplace : place = site.home ++ [fileName name] := by
      rw [locate] at hlocate
      split at hlocate
      · cases hlocate
      · simp only [fileFor_eq, walk_append, h.walk, h.walk_name] at hlocate
        simp only [Disk.walk] at hlocate
        cases hmove : disk.move site.home (fileName name) with
        | error cause =>
          rw [hmove] at hlocate
          cases hlocate
        | ok next =>
          rw [hmove] at hlocate
          rw [← Except.ok.inj hlocate]
          exact eq_concat_of_move (isName_fileName name) hmove
    rw [look, hlocate]
    simp only [hplace, h.find?_file_eq_none hnone]
    exact ⟨_, rfl⟩

/-- **A disk can be read.** -/
theorem legible_disk (site : Site) :
    Legible Disk.handle site.keystore (site.view.within site.Fits) where
  directory_exists h := (leads_exists_directory h.1).within h.2
  list h hthere := by
    obtain ⟨names, hnodup, hnames, hlist⟩ := leads_list h.1 hthere
    exact ⟨names, hnodup, fun file => (hnames file).2, hlist.within h.2⟩
  file_exists {disk name} h hname := by
    cases hcontent : (site.folder disk).content? (fileName name) with
    | none =>
      obtain ⟨cause, hlook⟩ := h.1.exists_look_eq_error hcontent
      refine ⟨false, ?_, (leads_same h.1 ?_).within h.2⟩
      · intro hsome
        have hfile : ((site.folder disk).content? (fileName name)).isSome := hsome
        rw [hcontent] at hfile
        cases hfile
      · rw [handle, hlook]
        rfl
    | some bytes =>
      -- A file that is there has a name that the disk takes.
      have hfits : site.Fits name := h.2 name (Option.isSome_of_eq_some hcontent)
      exact ⟨_, fun hsome => hsome, (leads_exists_file h.1 hfits).within h.2⟩
  read {disk name} h hname := by
    cases hcontent : (site.folder disk).content? (fileName name) with
    | none =>
      obtain ⟨cause, hlook⟩ := h.1.exists_look_eq_error hcontent
      refine ⟨.error cause, hcontent.symm, (leads_same h.1 ?_).within h.2⟩
      rw [handle, hlook]
    | some bytes =>
      have hfits : site.Fits name := h.2 name (Option.isSome_of_eq_some hcontent)
      exact ⟨.ok bytes, hcontent.symm, (leads_read h.1 hfits hcontent).within h.2⟩

/-- **Calls of a keystore on a disk leave the labels right**, whatever else is in the directory. -/
theorem isLabelled_history (S : Scheme) (h : (site.view.within site.Fits).sound disk)
    (hlabelled : ((site.folder disk).register S).IsLabelled) (calls : List Call)
    (hcalls : ∀ call ∈ calls, call.Suits site.Fits) :
    ∀ event ∈ history S Disk.handle (site.view.within site.Fits) site.keystore calls disk,
      (event.after.register S).IsLabelled :=
  labelled_history (reliable_disk site).within (legible_disk site) calls h hlabelled hcalls

end Site

/-- A disk with a directory of wallets, and files in it that were written in this order. -/
def stocked (contents : List (String × Bytes)) : Disk :=
  contents.foldl
    (fun disk entry => disk.put (walletsSite.home ++ [entry.1])
      (.file entry.2 Wallet.privateMode))
    (empty.put walletsSite.home .directory)

/-- The directory on this disk. -/
def stock (contents : List (String × Bytes)) : Folder :=
  contents.foldl (fun folder entry => folder.write entry.1 entry.2) (.files fun _ => none)

theorem stocked_concat (contents : List (String × Bytes)) (file : String) (bytes : Bytes) :
    stocked (contents ++ [(file, bytes)]) =
      (stocked contents).put (walletsSite.home ++ [file]) (.file bytes Wallet.privateMode) := by
  rw [stocked, List.foldl_append]
  rfl

theorem stock_concat (contents : List (String × Bytes)) (file : String) (bytes : Bytes) :
    stock (contents ++ [(file, bytes)]) = (stock contents).write file bytes := by
  rw [stock, List.foldl_append]
  rfl

theorem stocked_spec (contents : List (String × Bytes)) :
    walletsSite.IsSound (stocked contents) ∧
      (stocked contents).find? walletsSite.home = some .directory ∧
      walletsSite.folder (stocked contents) = stock contents := by
  induction contents using List.reverseRecOn with
  | nil => exact ⟨isSound_empty.put_directory rfl, rfl, rfl⟩
  | append_singleton contents entry ih =>
    obtain ⟨file, bytes⟩ := entry
    obtain ⟨hsound, hthere, hfolder⟩ := ih
    rw [stocked_concat, stock_concat]
    refine ⟨hsound.put_file hthere _ _ _, ?_, ?_⟩
    · rw [Site.find?_put_file, if_neg (Site.home_ne_file _)]
      exact hthere
    · rw [Site.folder_put_file hthere, hfolder]

theorem sound_stocked {contents : List (String × Bytes)}
    (h : (stock contents).IsWithin walletsSite.Fits) :
    (walletsSite.view.within walletsSite.Fits).sound (stocked contents) := by
  obtain ⟨hsound, -, hfolder⟩ := stocked_spec contents
  rw [← hfolder] at h
  exact ⟨hsound, h⟩

theorem folder_stocked (contents : List (String × Bytes)) :
    (walletsSite.view.within walletsSite.Fits).folder (stocked contents) = stock contents :=
  (stocked_spec contents).2.2

end Remit.FileSystem.Disk

namespace Remit.Keystore

open FileSystem Disk

variable {S : Scheme} {σ : Type}

/-! ### Two files -/

theorem Folder.write_comm (folder : Folder) {file other : String} (h : file ≠ other)
    (bytes more : Bytes) :
    (folder.write file bytes).write other more = (folder.write other more).write file bytes := by
  show files (Function.update (Function.update folder.content? file (some bytes)) other
      (some more)) =
    files (Function.update (Function.update folder.content? other (some more)) file (some bytes))
  rw [Function.update_comm h]

/-- Two files with some content. -/
def shelf (first second : Bytes) : List (String × Bytes) :=
  [("alice.json", first), ("bob.json", second)]

section Shelf

variable (first second : Bytes)

theorem stock_shelf : stock (shelf first second) =
    ((Folder.files fun _ => none).write "alice.json" first).write "bob.json" second := rfl

/-- The directory does not depend on which of the files was written first. -/
theorem stock_reverse_shelf : stock (shelf first second).reverse = stock (shelf first second) := by
  have hne : "bob.json" ≠ "alice.json" := by decide
  exact Folder.write_comm _ hne second first

theorem isWithin_shelf : (stock (shelf first second)).IsWithin walletsSite.Fits := by
  have hempty : (Folder.files fun _ => none).IsWithin walletsSite.Fits :=
    fun _ hfile => nomatch hfile
  have halice : walletsSite.Fits "alice" := ⟨by decide +kernel, by decide +kernel⟩
  have hbob : walletsSite.Fits "bob" := ⟨by decide +kernel, by decide +kernel⟩
  exact (hempty.write_fileName halice first).write_fileName hbob second

theorem register_shelf_alice : (stock (shelf first second)).register S "alice" =
    walletIn? S first := by
  refine register_of_content? (by decide) ?_
  have hne : fileName "alice" ≠ "bob.json" := by decide
  rw [stock_shelf, Folder.content?_write, if_neg hne]
  exact Folder.content?_write_self ..

theorem register_shelf_bob : (stock (shelf first second)).register S "bob" =
    walletIn? S second := by
  refine register_of_content? (by decide) ?_
  exact Folder.content?_write_self _ (fileName "bob") second

theorem sound_shelf :
    (walletsSite.view.within walletsSite.Fits).sound (stocked (shelf first second)) :=
  sound_stocked (isWithin_shelf first second)

theorem sound_reverse_shelf :
    (walletsSite.view.within walletsSite.Fits).sound (stocked (shelf first second).reverse) :=
  sound_stocked ((stock_reverse_shelf first second).symm ▸ isWithin_shelf first second)

end Shelf

/-! ### Names -/

/-- **Names are those in the files.** Whatever the files of the directory are, a lookup finds what
the file of the name is read as, with the name that is written there; and a listing has one line for
each wallet that can be looked up. If every wallet that is found carries the name that it was looked
up by, then the names in the listing are different, each of them leads to the wallet of the line,
and all file systems list the same of these files, in whatever order they find them. -/
theorem stored_names_agree (S : Scheme) {handle : Handler files σ} {keystore : Keystore}
    {v : DirectoryView σ} (hfs : Legible handle keystore v) {state : σ} (h : v.sound state) :
    (∀ name named, ((keystore.get S name).run.run handle state).1 = .ok named ↔
      isName name = true ∧ ∃ text record,
        (v.folder state).content? (fileName name) = some (Bytes.ofText text) ∧
        Record.decoder.ofText text = .ok record ∧ record.version = Record.currentVersion ∧
        Wallet.ofSerialized S text = .ok named.wallet ∧ named.name = record.name ∧
        named.createdAt = record.createdAt) ∧
    ∃ lines, ((keystore.list S).run.run handle state).1 = .ok lines ∧
      IsListing ((v.folder state).register S) lines ∧
      ((∀ name named, ((keystore.get S name).run.run handle state).1 = .ok named →
          named.name = name) →
        lines.Pairwise (·.name < ·.name) ∧
        (∀ line ∈ lines, ∃ named : NamedWallet S,
          ((keystore.get S line.name).run.run handle state).1 = .ok named ∧
            named.wallet.address = line.address) ∧
        ∀ {τ : Type} (other : Handler files τ) (keystore' : Keystore) (w : DirectoryView τ)
          (state' : τ), Legible other keystore' w → w.sound state' →
            w.folder state' = v.folder state →
              ((keystore'.list S).run.run other state').1 = .ok lines) := by
  constructor
  · intro name named
    rw [hfs.get_eq_ok_iff h, register_eq_some_iff]
    simp only [walletIn?_eq_some_iff]
    constructor
    · rintro ⟨hname, _, hcontent, text, record, rfl, hread⟩
      exact ⟨hname, text, record, hcontent, hread⟩
    · rintro ⟨hname, text, record, hcontent, hread⟩
      exact ⟨hname, _, hcontent, text, record, rfl, hread⟩
  · obtain ⟨lines, hlisting, hruns⟩ := hfs.exists_runs_list h S
    refine ⟨lines, hruns.result_eq, hlisting, fun hnames => ?_⟩
    have hlabelled : ((v.folder state).register S).IsLabelled := fun name named hfound =>
      hnames name named ((hfs.get_eq_ok_iff h).2 hfound)
    refine ⟨hlisting.pairwise_lt hlabelled, fun line hline => ?_, ?_⟩
    · obtain ⟨named, hfound, haddress⟩ := (hlisting.mem_iff hlabelled).1 hline
      exact ⟨named, (hfs.get_eq_ok_iff h).2 hfound, haddress.symm⟩
    · intro τ other keystore' w state' hother h' hfolder
      obtain ⟨lines', hlisting', hruns'⟩ := hother.exists_runs_list h' S
      rw [hfolder] at hlisting'
      rw [hruns'.result_eq, hlisting'.unique hlisting hlabelled]

/-- A lone brace is not read as a wallet. -/
theorem walletIn?_brace : walletIn? S (Bytes.ofText "\x7b") = none := by
  rw [Option.eq_none_iff_forall_ne_some]
  intro named hread
  obtain ⟨text, record, htext, hrecord, -⟩ := walletIn?_eq_some_iff.1 hread
  obtain rfl := Bytes.ofText_injective htext
  rw [Record.decoder_eq] at hrecord
  exact Json.Decoder.ofText_record_of_not_closed Record.isStrict_fields _
    (.inr ⟨[], rfl, List.not_mem_nil⟩) _ hrecord

/-- A wallet that is labelled with the name of the first file. -/
def sampleNamed : NamedWallet Wallet.sampleScheme :=
  ⟨"alice", sampleTime, .ofSecret Wallet.sampleScheme Wallet.sampleSecret⟩

/-- The wallet, and a file that is none. -/
def labelledFiles : List (String × Bytes) := shelf (contentOf sampleNamed) (Bytes.ofText "\x7b")

theorem isLabelled_labelledFiles :
    ((stock labelledFiles).register Wallet.sampleScheme).IsLabelled := by
  have hempty : ((Folder.files fun _ => none).register Wallet.sampleScheme).IsLabelled := by
    intro name named hfound
    rw [register_of_content?_eq_none rfl] at hfound
    cases hfound
  rw [labelledFiles, stock_shelf]
  refine (hempty.write fun name named hfile hread => ?_).write fun name named _ hread => ?_
  · have halice : fileName "alice" = "alice.json" := by decide +kernel
    rw [name_eq_of_walletIn?_contentOf hread]
    exact fileName_inj.1 (halice.trans hfile.symm)
  · rw [walletIn?_brace] at hread
    cases hread

/-- One wallet is found under its name, and listed in both orders of the files. -/
theorem stored_names_agree_sample :
    ((walletsSite.keystore.get Wallet.sampleScheme "alice").run.run Disk.handle
      (stocked labelledFiles)).1 = .ok sampleNamed ∧
    ∃ lines, ((walletsSite.keystore.list Wallet.sampleScheme).run.run Disk.handle
        (stocked labelledFiles)).1 = .ok lines ∧
      lines.Pairwise (·.name < ·.name) ∧ sampleNamed.summary ∈ lines ∧
      ((walletsSite.keystore.list Wallet.sampleScheme).run.run Disk.handle
        (stocked labelledFiles.reverse)).1 = .ok lines := by
  have hfs := Site.legible_disk walletsSite
  have hsound : (walletsSite.view.within walletsSite.Fits).sound (stocked labelledFiles) :=
    sound_shelf _ _
  have hread : walletIn? Wallet.sampleScheme (contentOf sampleNamed) = some sampleNamed :=
    walletIn?_contentOf (by rfl)
  have halice : (stock labelledFiles).register Wallet.sampleScheme "alice" = some sampleNamed :=
    (register_shelf_alice _ _).trans hread
  obtain ⟨-, lines, hlist, hlisting, hagree⟩ :=
    stored_names_agree Wallet.sampleScheme hfs hsound
  rw [folder_stocked] at hlisting hagree
  have hnames : ∀ name named,
      ((walletsSite.keystore.get Wallet.sampleScheme name).run.run Disk.handle
        (stocked labelledFiles)).1 = .ok named → named.name = name := by
    intro name named hfound
    rw [hfs.get_eq_ok_iff hsound, folder_stocked] at hfound
    exact isLabelled_labelledFiles name named hfound
  obtain ⟨hsorted, -, hunique⟩ := hagree hnames
  refine ⟨?_, lines, hlist, hsorted, ?_, ?_⟩
  · rw [hfs.get_eq_ok_iff hsound, folder_stocked]
    exact halice
  · exact (hlisting.mem_iff isLabelled_labelledFiles).2 ⟨sampleNamed, halice, rfl⟩
  · refine hunique Disk.handle _ _ _ hfs (sound_reverse_shelf _ _) ?_
    exact (folder_stocked _).trans (stock_reverse_shelf _ _)

/-- A record that is labelled `alice`. -/
def aliceRecord : Record where
  version := 1
  name := "alice"
  createdAt := ⟨1767323045, 0⟩
  address := "fef6dfa48b073924c436539010d7812fbe50096ae82569fdad35f79628bc0084"
  publicKey := "2152f8d19b791d24453242e15f2eab6cb7cffa7b6a5ed30097960e069881db12"
  secretKey := "4242424242424242424242424242424242424242424242424242424242424242"

/-- A file that holds the record, member by member. -/
def aliceParts : List String :=
  ["\x7b\"version\": 1, \"name\": \"alice\", ",
    "\"created_at\": \"2026-01-02T03:04:05Z\", ",
    "\"address\": \"fef6dfa48b073924c436539010d7812fbe50096ae82569fdad35f79628bc0084\", ",
    "\"public_key\": \"2152f8d19b791d24453242e15f2eab6cb7cffa7b6a5ed30097960e069881db12\", ",
    "\"secret_key\": \"4242424242424242424242424242424242424242424242424242424242424242\"\x7d"]

/-- The text of the file. -/
def aliceText : String := String.join aliceParts

/-- The wallet of the record and others that are labelled like it. -/
def twin (byte : UInt8) : NamedWallet .standard :=
  ⟨"alice", aliceRecord.createdAt, .ofSecret .standard (Vector.replicate 32 byte)⟩

theorem readsBack_twin (byte : UInt8) : (twin byte).createdAt.ReadsBack := by
  show Rfc3339.parse (Rfc3339.formatZulu aliceRecord.createdAt) = .ok aliceRecord.createdAt
  decide +kernel

/-- The record is that of the wallet. -/
theorem ofWallet_twin :
    Record.ofWallet (twin 0x42).name (twin 0x42).createdAt (twin 0x42).wallet = aliceRecord := by
  have haddress : (twin 0x42).wallet.address.text = aliceRecord.address := by decide +kernel
  have hpublicKey : (twin 0x42).wallet.publicKey.text = aliceRecord.publicKey := by
    decide +kernel
  have hsecret : (twin 0x42).wallet.secretText = aliceRecord.secretKey := by decide +kernel
  rw [Record.ofWallet, haddress, hpublicKey, hsecret]
  rfl

/-- The file differs from one that the keystore has written in its blanks only. -/
theorem ofText_aliceText :
    Json.Document.ofText aliceText = Json.Document.ofText aliceRecord.text := by
  have htokens : Json.Token.scan aliceText.toList = aliceRecord.json.tokens := by
    rw [aliceText, String.toList_join]
    decide +kernel
  have hbuild := Json.Document.build_tokens aliceRecord.json [] []
  rw [List.append_nil] at hbuild
  rw [Record.ofText_text, Json.Document.ofText, htokens, hbuild]
  rfl

theorem walletIn?_aliceText : walletIn? .standard (Bytes.ofText aliceText) = some (twin 0x42) := by
  have hwritten : walletIn? .standard (contentOf (twin 0x42)) = some (twin 0x42) :=
    walletIn?_contentOf (readsBack_twin _)
  rw [contentOf, ofWallet_twin] at hwritten
  exact walletIn?_of_ofText_eq ofText_aliceText hwritten

/-- The file and a copy of it. -/
def copies : List (String × Bytes) := shelf (Bytes.ofText aliceText) (Bytes.ofText aliceText)

/-- The file, and a copy in which somebody has put another secret. -/
def twins : List (String × Bytes) := shelf (Bytes.ofText aliceText) (contentOf (twin 1))

/-- The listing of two files with one label shows the files as they are found. -/
theorem list_of_files {first second : Bytes} (files : List String) {lines : List Summary}
    {disk : Disk} (hsound : (walletsSite.view.within walletsSite.Fits).sound disk)
    (hfolder : (walletsSite.view.within walletsSite.Fits).folder disk =
      stock (shelf first second))
    (hfiles : Disk.handle (.list walletsSite.keystore.directory) disk = (.ok files, disk))
    (hlines : files.filterMap (summary? ((stock (shelf first second)).register S)) = lines)
    (hsorted : lines.Pairwise (·.name ≤ ·.name)) :
    ((walletsSite.keystore.list S).run.run Disk.handle disk).1 = .ok lines := by
  have hfs := Site.legible_disk walletsSite
  have hthere : ((walletsSite.view.within walletsSite.Fits).folder disk).isThere = true := by
    rw [hfolder]
    rfl
  have hleads := (Site.leads_same hsound.1 hfiles).within hsound.2
  have hruns := hfs.runs_list_of_files hsound S hthere hleads
  rw [hfolder, hlines, sorted, List.mergeSort_of_pairwise] at hruns
  · exact hruns.result_eq
  · exact hsorted.imp fun hle => decide_eq_true hle

/-- **What is found of two files with one label**: a lookup finds the file of the name, and a
listing has the label twice, in the order in which the files are found. -/
theorem shelf_found {first second : Bytes} {a b : NamedWallet S}
    (ha : walletIn? S first = some a) (hb : walletIn? S second = some b) (hname : a.name = b.name) :
    ((walletsSite.keystore.get S "alice").run.run Disk.handle
        (stocked (shelf first second))).1 = .ok a ∧
      ((walletsSite.keystore.get S "bob").run.run Disk.handle
        (stocked (shelf first second))).1 = .ok b ∧
      ((walletsSite.keystore.list S).run.run Disk.handle
        (stocked (shelf first second))).1 = .ok [a.summary, b.summary] ∧
      ((walletsSite.keystore.list S).run.run Disk.handle
        (stocked (shelf first second).reverse)).1 = .ok [b.summary, a.summary] := by
  have hfs := Site.legible_disk walletsSite
  have hsound := sound_shelf first second
  have halice : (stock (shelf first second)).register S "alice" = some a :=
    (register_shelf_alice _ _).trans ha
  have hbob : (stock (shelf first second)).register S "bob" = some b :=
    (register_shelf_bob _ _).trans hb
  have hlineA : summary? ((stock (shelf first second)).register S) "alice.json" =
      some a.summary := by
    have hstem : stem? "alice.json" = some "alice" := by decide +kernel
    rw [summary?, hstem, Option.bind_some, halice]
    rfl
  have hlineB : summary? ((stock (shelf first second)).register S) "bob.json" =
      some b.summary := by
    have hstem : stem? "bob.json" = some "bob" := by decide +kernel
    rw [summary?, hstem, Option.bind_some, hbob]
    rfl
  refine ⟨?_, ?_, ?_, ?_⟩
  · rw [hfs.get_eq_ok_iff hsound, folder_stocked]
    exact halice
  · rw [hfs.get_eq_ok_iff hsound, folder_stocked]
    exact hbob
  · refine list_of_files ["alice.json", "bob.json"] hsound (folder_stocked _) rfl ?_
      (List.pairwise_pair.2 hname.le)
    rw [List.filterMap_cons_some hlineA, List.filterMap_cons_some hlineB]
    rfl
  · refine list_of_files ["bob.json", "alice.json"] (sound_reverse_shelf first second)
      ((folder_stocked _).trans (stock_reverse_shelf first second)) rfl ?_
      (List.pairwise_pair.2 hname.ge)
    rw [List.filterMap_cons_some hlineB, List.filterMap_cons_some hlineA]
    rfl

/-- **Without the labels, names do not agree.** A copied file is found under the name of the copy
and reported under another, and the listing has that one twice and the name of the copy not at all.
If another secret is put into the copy, one line of the listing leads to the wrong wallet, and it
depends on the order in which the files are found which of the two comes first. -/
theorem names_disagree_twins :
    ((walletsSite.view.within walletsSite.Fits).sound (stocked copies) ∧
      ((walletsSite.keystore.get .standard "bob").run.run Disk.handle (stocked copies)).1 =
        .ok (twin 0x42) ∧ (twin 0x42).name ≠ "bob" ∧
      ((walletsSite.keystore.list .standard).run.run Disk.handle (stocked copies)).1 =
        .ok [(twin 0x42).summary, (twin 0x42).summary]) ∧
    (walletsSite.view.within walletsSite.Fits).sound (stocked twins) ∧
    (walletsSite.view.within walletsSite.Fits).sound (stocked twins.reverse) ∧
    walletsSite.folder (stocked twins.reverse) = walletsSite.folder (stocked twins) ∧
    ((walletsSite.keystore.get .standard "bob").run.run Disk.handle (stocked twins)).1 =
      .ok (twin 1) ∧ (twin 1).name ≠ "bob" ∧
    ((walletsSite.keystore.get .standard "alice").run.run Disk.handle (stocked twins)).1 =
      .ok (twin 0x42) ∧
    ((walletsSite.keystore.list .standard).run.run Disk.handle (stocked twins)).1 =
      .ok [(twin 0x42).summary, (twin 1).summary] ∧
    ((walletsSite.keystore.list .standard).run.run Disk.handle (stocked twins.reverse)).1 =
      .ok [(twin 1).summary, (twin 0x42).summary] ∧
    (twin 0x42).summary.name = (twin 1).summary.name ∧
    (twin 0x42).summary.address ≠ (twin 1).summary.address := by
  have hother : walletIn? .standard (contentOf (twin 1)) = some (twin 1) :=
    walletIn?_contentOf (readsBack_twin _)
  obtain ⟨-, hcopy, hlist, -⟩ := shelf_found walletIn?_aliceText walletIn?_aliceText rfl
  obtain ⟨halice, hbob, hlines, hreversed⟩ := shelf_found walletIn?_aliceText hother rfl
  refine ⟨⟨sound_shelf _ _, hcopy, by decide, hlist⟩, sound_shelf _ _, sound_reverse_shelf _ _,
    ?_, hbob, by decide, halice, hlines, hreversed, rfl, by decide +kernel⟩
  exact (folder_stocked _).trans ((stock_reverse_shelf _ _).trans (folder_stocked _).symm)

end Remit.Keystore
