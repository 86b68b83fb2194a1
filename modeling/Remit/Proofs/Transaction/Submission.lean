import Remit.Proofs.Json.Records
import Remit.Proofs.Json.Reordering
import Remit.Proofs.Node.Replies

/-!
# A submission loses nothing

A signed transfer is handed in as one flat object, and whoever reads this object has the transfer
again. The reader takes the object apart into the members of two records, so the order of the
members does not matter and others may stand among them; a text of the object says the same as the
object. The texts in a transfer may be any texts at all: they are not looked at on the way.

* `decoder_of_perm`: a document with the members of a transfer is read as the transfer;
* `submit_faithful`: what a client sends of a transfer, and what is read from it.
-/

namespace Remit

open Json Json.Decoder

/-! ### The members of a transfer -/

theorem Transfer.asks_members (t : Transfer) (origin : Origin) :
    Transfer.fields.Asks origin t.members t :=
  ((((((Fields.Asks.pure Transfer.mk).and (.required rfl)).and (.required rfl)).and
    (.required rfl)).and (.required rfl)).and (.required (word64_nat origin t.nonce))).and
    (.required (word64_nat origin t.timestamp))

namespace SignedTransfer

/-- The members that only a signed transfer has. -/
def ownMembers (t : SignedTransfer) : List (String × Json) :=
  [("public_key", .string t.publicKey), ("signature", .string t.signature)]

/-- The eight members of a signed transfer. -/
def members (t : SignedTransfer) : List (String × Json) :=
  [("from", .string t.data.sender), ("to", .string t.data.recipient),
   ("amount", .string t.data.amount), ("fee", .string t.data.fee),
   ("nonce", .nat t.data.nonce.toNat), ("timestamp", .nat t.data.timestamp.toNat),
   ("public_key", .string t.publicKey), ("signature", .string t.signature)]

/-- Their names. -/
def memberNames : List String :=
  ["from", "to", "amount", "fee", "nonce", "timestamp", "public_key", "signature"]

theorem json_eq (t : SignedTransfer) : t.json = .object t.members := rfl

theorem isPlain_of_mem_members {t : SignedTransfer} {m : String × Json} (h : m ∈ t.members) :
    m.2.IsPlain := by
  simp only [members, List.mem_cons, List.not_mem_nil, or_false] at h
  rcases h with rfl | rfl | rfl | rfl | rfl | rfl | rfl | rfl
  · exact .string _
  · exact .string _
  · exact .string _
  · exact .string _
  · exact .word _
  · exact .word _
  · exact .string _
  · exact .string _

/-- What an object may hold beside a signed transfer. -/
def AreOthers (others : List (String × Json)) : Prop :=
  ∀ m ∈ others, m.1 ∉ memberNames ∧ m.2.IsPlain

/-- The fields that only a signed transfer has. -/
def ownFields : Fields (Transfer → SignedTransfer) :=
  ((Fields.pure fun publicKey signature data => ⟨data, publicKey, signature⟩).and
    (.required "public_key" string)).and
    (.required "signature" string)

theorem asks_ownMembers (t : SignedTransfer) (origin : Origin) :
    ownFields.Asks origin t.ownMembers fun data => ⟨data, t.publicKey, t.signature⟩ :=
  ((Fields.Asks.pure _).and (.required rfl)).and (.required rfl)

variable {t : SignedTransfer} {others all : List (String × Json)}

theorem isPlain_of_mem_all (hothers : AreOthers others) (hall : all.Perm (t.members ++ others))
    {m : String × Json} (hm : m ∈ all) : m.2.IsPlain := by
  rcases List.mem_append.1 (hall.mem_iff.1 hm) with hm | hm
  · exact isPlain_of_mem_members hm
  · exact (hothers m hm).2

/-- **The members of a transfer are read as the transfer**, in any order and among others. -/
theorem decoder_of_perm (hothers : AreOthers others) (hall : all.Perm (t.members ++ others))
    {origin level : Origin} (hlevel : origin.enter = .ok level) :
    decoder origin (.object (memberDocuments all)) = .ok t := by
  have hperm : all.Perm (t.ownMembers ++ (t.data.members ++ others)) := by
    have hcomm : (t.data.members ++ t.ownMembers).Perm (t.ownMembers ++ t.data.members) :=
      List.perm_append_comm
    rw [← List.append_assoc]
    exact hall.trans (hcomm.append_right others)
  have hdistinct : ((t.ownMembers ++ t.data.members).map Prod.fst).Nodup := by
    show ["public_key", "signature", "from", "to", "amount", "fee", "nonce", "timestamp"].Nodup
    decide
  have hapart : ∀ m ∈ others, m.1 ∉ (t.ownMembers ++ t.data.members).map Prod.fst := by
    have hnames : ((t.ownMembers ++ t.data.members).map Prod.fst).Perm memberNames := by
      rw [List.map_append]
      exact List.perm_append_comm
    intro m hm hmem
    exact (hothers m hm).1 (hnames.mem_iff.1 hmem)
  refine flattened_eq_ok hlevel "SignedTransaction" (t.asks_ownMembers level)
    (t.data.asks_members .value) hperm hdistinct hapart fun m hm => ?_
  have hmem : m ∈ all := hperm.mem_iff.2 (List.mem_append_right _ hm)
  exact (isPlain_of_mem_all hothers hall hmem).decodeAny level

theorem ofValue_of_perm (hothers : AreOthers others) (hall : all.Perm (t.members ++ others)) :
    decoder.ofValue (.object all) = .ok t :=
  decoder_of_perm hothers hall rfl

theorem isExact_of_perm (hothers : AreOthers others) (hall : all.Perm (t.members ++ others)) :
    (Json.object all).IsExact := by
  show AreMembersExact all
  rw [areMembersExact_iff]
  intro m hm
  exact (isPlain_of_mem_all hothers hall hm).isExact

theorem ofText_of_perm (hothers : AreOthers others) (hall : all.Perm (t.members ++ others))
    {text : String} (htext : Document.ofText text = ((Json.object all).toDocument, [])) :
    decoder.ofText text = .ok t :=
  ofText_eq_ok_iff.2 ⟨_, htext, decoder_of_perm hothers hall rfl⟩

/-- **What is handed in is what was signed.** A client sends nothing but the eight members of the
transfer, the same in every attempt. Whoever reads an object with these members, be it the object
or a text of it, in any order and with others among them, has the transfer, and so whatever can be
computed from it. -/
theorem submit_faithful (t : SignedTransfer) :
    (∀ (node : Node) (config : Config) (session : Node.Session),
      ∃ count, 1 ≤ count ∧ count ≤ max config.retries.toNat 1 ∧
        ((Node.Client.submit config t).run.run node.handle session).2.sent =
          session.sent ++ List.replicate count (.post "/transaction" (.object t.members))) ∧
    ∀ others all : List (String × Json), AreOthers others → all.Perm (t.members ++ others) →
      ∀ received ∈ [decoder.ofValue (.object all), decoder.ofText (Json.object all).render,
          decoder.ofText (Json.object all).renderIndented],
        received = .ok t ∧
        ∀ u, received = .ok u →
          u.data.signingText = t.data.signingText ∧ u.totalCost = t.totalCost ∧
          ∀ S : Scheme, u.data.id S = t.data.id S ∧
            ∀ policy now, u.check S policy now = t.check S policy now := by
  constructor
  · intro node config session
    rw [← json_eq]
    exact Node.Client.run_execute_sent node config (.post "/transaction" t.json) _ session
  · intro others all hothers hall received hreceived
    have hexact : (Json.object all).IsExact := isExact_of_perm hothers hall
    have heq : received = .ok t := by
      simp only [List.mem_cons, List.not_mem_nil, or_false] at hreceived
      rcases hreceived with rfl | rfl | rfl
      · exact ofValue_of_perm hothers hall
      · exact ofText_of_perm hothers hall (Document.ofText_render hexact)
      · exact ofText_of_perm hothers hall (Document.ofText_renderIndented hexact)
    refine ⟨heq, fun u hu => ?_⟩
    obtain rfl : t = u := Except.ok.inj (heq.symm.trans hu)
    exact ⟨rfl, rfl, fun S => ⟨rfl, fun policy now => rfl⟩⟩

/-- A transfer that nobody would accept, with characters that have to be escaped and the largest
words. -/
def oddTransfer : SignedTransfer where
  data := ⟨"a\"b\\c\n", "\x01\t:é😀", "", "-1e400", 18446744073709551615, 0⟩
  publicKey := "0x"
  signature := "\x7b\"from\": null\x7d"

/-- Members that nobody asked for. -/
def oddOthers : List (String × Json) :=
  [("From", .nat (18446744073709551615 : UInt64).toNat), ("", .null), ("data", .bool true),
   ("data", .string "\r")]

theorem submit_faithful_odd :
    AreOthers oddOthers ∧
    (oddTransfer.members ++ oddOthers).reverse.Perm (oddTransfer.members ++ oddOthers) ∧
    decoder.ofText (Json.object (oddTransfer.members ++ oddOthers).reverse).render =
      .ok oddTransfer := by
  have hothers : AreOthers oddOthers := by
    intro m hm
    simp only [oddOthers, List.mem_cons, List.not_mem_nil, or_false] at hm
    rcases hm with rfl | rfl | rfl | rfl
    · exact ⟨by decide, .word _⟩
    · exact ⟨by decide, .null⟩
    · exact ⟨by decide, .bool _⟩
    · exact ⟨by decide, .string _⟩
  have hperm := List.reverse_perm (oddTransfer.members ++ oddOthers)
  refine ⟨hothers, hperm, ?_⟩
  exact ((submit_faithful oddTransfer).2 oddOthers _ hothers hperm _
    (List.mem_cons_of_mem _ List.mem_cons_self)).1

end SignedTransfer

end Remit
