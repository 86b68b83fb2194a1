import Mathlib.Data.List.Pairwise
import Remit.Proofs.Json.Printing
import Remit.Transaction.Validation

/-!
# A reason says which rejection it is

The reason for a rejection is a text of fixed words, with numbers between them if the rejection has
any. A reader of the text can tell what is what. The numbers are put where digits end, so they can
be read off again once the words are known; and no two kinds of rejections start with words of which
one goes on where the other ends, so the words are known from the start of the text.

* `Piece.fill_injective`: the numbers can be read off a text, if the words are known;
* `Rejection.openings_apart`: the words are known from the start of the text;
* `Rejection.message_injective`: a text is the reason for one rejection only;
* `SignedTransfer.reasons_identify`: and so a report has the verdict in its reason.
-/

namespace Remit

/-! ### Texts with numbers in them -/

/-- A number ends where something else than a digit follows. -/
theorem Decimal.digits_append_inj {n m : Nat} {a b : List Char}
    (ha : ∀ c ∈ a.head?, c.isDigit = false) (hb : ∀ c ∈ b.head?, c.isDigit = false)
    (h : digits n ++ a = digits m ++ b) : n = m ∧ a = b := by
  have hdigits (k : Nat) : ∀ c ∈ digits k, c.isDigit = true := fun c hc => isDigit_of_mem_digits hc
  obtain ⟨htake, hdrop⟩ := Json.takeWhile_isDigit_append (hdigits n) ha
  obtain ⟨htake', hdrop'⟩ := Json.takeWhile_isDigit_append (hdigits m) hb
  rw [h] at htake hdrop
  have hsame : digits n = digits m := htake.symm.trans htake'
  refine ⟨?_, hdrop.symm.trans hdrop'⟩
  rw [← value_digits n, hsame, value_digits]

/-- A part of a text that has places for numbers. -/
inductive Piece where
  | words (text : String)
  | number

namespace Piece

/-- The text with numbers in its places, the first one in the first place. -/
def fill : List Piece → List Nat → List Char
  | [], _ => []
  | words text :: rest, numbers => text.toList ++ fill rest numbers
  | number :: rest, n :: numbers => Decimal.digits n ++ fill rest numbers
  | number :: rest, [] => fill rest []

/-- How many places there are. -/
def places : List Piece → Nat
  | [] => 0
  | words _ :: rest => places rest
  | number :: rest => places rest + 1

/-- What a text that starts with words starts with. -/
def opening : List Piece → List Char
  | words text :: _ => text.toList
  | _ => []

/-- A number in front of this part of a text ends there: there is nothing, or words that do not
start with a digit. -/
def endsNumber : List Piece → Bool
  | [] => true
  | words text :: _ => text.toList.head?.any fun c => !c.isDigit
  | number :: _ => false

/-- All numbers in the text end where their places do. -/
def isClear : List Piece → Bool
  | [] => true
  | words _ :: rest => isClear rest
  | number :: rest => endsNumber rest && isClear rest

theorem opening_prefix_fill (pieces : List Piece) (numbers : List Nat) :
    opening pieces <+: fill pieces numbers := by
  unfold opening
  split
  · exact List.prefix_append _ _
  · exact List.nil_prefix

theorem isDigit_of_endsNumber {rest : List Piece} (h : endsNumber rest = true)
    (numbers : List Nat) : ∀ c ∈ (fill rest numbers).head?, c.isDigit = false := by
  cases rest with
  | nil =>
    intro c hc
    cases hc
  | cons piece rest =>
    cases piece with
    | words text =>
      intro c hc
      rw [endsNumber] at h
      rw [fill] at hc
      cases htext : text.toList with
      | nil =>
        rw [htext] at h
        cases h
      | cons first more =>
        rw [htext] at h hc
        obtain rfl : first = c := Option.some.inj hc
        simpa using h
    | number => cases h

/-- **The numbers can be read off a text whose words are known.** -/
theorem fill_injective {pieces : List Piece} (hclear : isClear pieces = true)
    {numbers others : List Nat} (hnumbers : numbers.length = places pieces)
    (hothers : others.length = places pieces) (h : fill pieces numbers = fill pieces others) :
    numbers = others := by
  induction pieces generalizing numbers others with
  | nil =>
    rw [List.length_eq_zero_iff.1 hnumbers, List.length_eq_zero_iff.1 hothers]
  | cons piece rest ih =>
    cases piece with
    | words text => exact ih hclear hnumbers hothers (List.append_cancel_left h)
    | number =>
      obtain ⟨hends, hrest⟩ := Bool.and_eq_true_iff.1 hclear
      obtain ⟨n, numbers, rfl⟩ := List.exists_cons_of_length_eq_add_one hnumbers
      obtain ⟨m, others, rfl⟩ := List.exists_cons_of_length_eq_add_one hothers
      obtain ⟨rfl, hfill⟩ := Decimal.digits_append_inj
        (isDigit_of_endsNumber hends numbers) (isDigit_of_endsNumber hends others) h
      rw [ih hrest (Nat.succ.inj hnumbers) (Nat.succ.inj hothers) hfill]

end Piece

namespace Rejection

open Piece

/-! ### The words of the reasons -/

/-- A kind of rejection: the text of its reason, and the rejection with given numbers. -/
structure Kind where
  pieces : List Piece
  make : List Nat → Rejection

/-- The kind of a rejection. -/
def kind : Rejection → Kind
  | invalidSender => ⟨[words "invalid sender address"], fun _ => invalidSender⟩
  | invalidRecipient => ⟨[words "invalid recipient address"], fun _ => invalidRecipient⟩
  | invalidAmount =>
    ⟨[words "invalid amount: must be a non-negative integer"], fun _ => invalidAmount⟩
  | invalidFee => ⟨[words "invalid fee: must be a non-negative integer"], fun _ => invalidFee⟩
  | selfTransfer =>
    ⟨[words "self-transfer: sender and recipient are the same address"], fun _ => selfTransfer⟩
  | senderKeyMismatch =>
    ⟨[words "public key does not match sender address"], fun _ => senderKeyMismatch⟩
  | invalidSignature => ⟨[words "invalid signature"], fun _ => invalidSignature⟩
  | feeTooLow _ _ =>
    ⟨[words "fee ", number, words " is below the minimum ", number],
      fun numbers => feeTooLow ⟨numbers.getD 0 0⟩ ⟨numbers.getD 1 0⟩⟩
  | amountTooHigh _ _ =>
    ⟨[words "amount ", number, words " exceeds the maximum ", number],
      fun numbers => amountTooHigh ⟨numbers.getD 0 0⟩ ⟨numbers.getD 1 0⟩⟩
  | expired _ _ =>
    ⟨[words "transaction expired: ", number, words "ms old, limit ", number, words "ms"],
      fun numbers => expired (.ofNat (numbers.getD 0 0)) (.ofNat (numbers.getD 1 0))⟩

/-- The numbers in a rejection. -/
def numbers : Rejection → List Nat
  | feeTooLow fee minimum => [fee.wei, minimum.wei]
  | amountTooHigh amount maximum => [amount.wei, maximum.wei]
  | expired ageMs limitMs => [ageMs.toNat, limitMs.toNat]
  | _ => []

/-- All kinds of rejections. -/
def kinds : List Kind :=
  [kind invalidSender, kind invalidRecipient, kind invalidAmount, kind invalidFee,
    kind selfTransfer, kind senderKeyMismatch, kind invalidSignature, kind (feeTooLow .zero .zero),
    kind (amountTooHigh .zero .zero), kind (expired 0 0)]

theorem kind_mem_kinds (r : Rejection) : r.kind ∈ kinds := by
  cases r <;> simp [kinds, kind]

theorem make_numbers (r : Rejection) : r.kind.make r.numbers = r := by
  cases r <;> simp [kind, numbers]

theorem length_numbers (r : Rejection) : r.numbers.length = places r.kind.pieces := by
  cases r <;> rfl

theorem toList_message (r : Rejection) : r.message.toList = fill r.kind.pieces r.numbers := by
  have hnatural (n : Nat) : (toString n).toList = Decimal.digits n := by
    rw [Decimal.toString_eq_digits, String.toList_ofList]
  have hword (w : UInt64) : (toString w).toList = Decimal.digits w.toNat := hnatural w.toNat
  cases r with
  | feeTooLow fee minimum =>
    have hmessage : (feeTooLow fee minimum).message =
        "fee " ++ toString fee.wei ++ " is below the minimum " ++ toString minimum.wei := rfl
    rw [hmessage]
    simp only [String.toList_append, List.append_assoc, List.append_nil, hnatural, kind, numbers,
      fill]
  | amountTooHigh amount maximum =>
    have hmessage : (amountTooHigh amount maximum).message =
        "amount " ++ toString amount.wei ++ " exceeds the maximum " ++ toString maximum.wei := rfl
    rw [hmessage]
    simp only [String.toList_append, List.append_assoc, List.append_nil, hnatural, kind, numbers,
      fill]
  | expired ageMs limitMs =>
    have hmessage : (expired ageMs limitMs).message =
        "transaction expired: " ++ toString ageMs ++ "ms old, limit " ++ toString limitMs ++ "ms" :=
      rfl
    rw [hmessage]
    simp only [String.toList_append, List.append_assoc, List.append_nil, hword, kind, numbers, fill]
  | _ => exact (List.append_nil _).symm

theorem isClear_of_mem_kinds : ∀ k ∈ kinds, isClear k.pieces = true := by decide +kernel

/-- **No two reasons start alike**: the opening words of no kind go on from those of another. -/
theorem openings_apart : ∀ i j : Fin kinds.length,
    opening (kinds.get i).pieces <+: opening (kinds.get j).pieces → i = j := by
  decide +kernel

theorem kind_eq_of_message_eq {a b : Rejection} (h : a.message = b.message) : a.kind = b.kind := by
  have hstart (r : Rejection) : opening r.kind.pieces <+: r.message.toList := by
    rw [toList_message]
    exact opening_prefix_fill _ _
  have hleft : opening a.kind.pieces <+: b.message.toList := h ▸ hstart a
  -- Both openings start the same text, so one of them starts the other.
  have hboth := List.prefix_or_prefix_of_prefix hleft (hstart b)
  obtain ⟨i, hi⟩ := List.mem_iff_get.1 (kind_mem_kinds a)
  obtain ⟨j, hj⟩ := List.mem_iff_get.1 (kind_mem_kinds b)
  rw [← hi, ← hj] at hboth ⊢
  rcases hboth with hstarts | hstarts
  · rw [openings_apart i j hstarts]
  · rw [openings_apart j i hstarts]

/-- **A text is the reason for one rejection only.** -/
theorem message_injective {a b : Rejection} (h : a.message = b.message) : a = b := by
  have hkind := kind_eq_of_message_eq h
  have hfill : fill a.kind.pieces a.numbers = fill a.kind.pieces b.numbers := by
    rw [← toList_message, h, toList_message, hkind]
  have hnumbers : a.numbers = b.numbers := by
    refine fill_injective (isClear_of_mem_kinds _ (kind_mem_kinds a)) (length_numbers a) ?_ hfill
    rw [length_numbers, hkind]
  rw [← make_numbers a, ← make_numbers b, hkind, hnumbers]

end Rejection

theorem Verdict.reason_eq_iff {outcome other : Except Rejection Unit} :
    (ofOutcome outcome).reason = (ofOutcome other).reason ↔ outcome = other := by
  refine ⟨fun h => ?_, fun h => by rw [h]⟩
  cases outcome with
  | ok =>
    cases other with
    | ok => rfl
    | error r => cases h
  | error r =>
    cases other with
    | ok => cases h
    | error s => rw [Rejection.message_injective (Option.some.inj h)]

/-- **A reason says which rejection it is.** Equal texts are the reasons for equal rejections, with
all numbers in them. So the reasons in two reports agree if and only if the outcomes do, for any
transfers, policies and times; and there is a reason if and only if the transfer is not valid. -/
theorem SignedTransfer.reasons_identify (S : Scheme) :
    (∀ a b : Rejection, a.message = b.message ↔ a = b) ∧
    (∀ (policy other : Option Policy) (now later : UInt64) (t u : SignedTransfer),
      (Verdict.ofOutcome (t.check S policy now)).reason =
          (Verdict.ofOutcome (u.check S other later)).reason ↔
        t.check S policy now = u.check S other later) ∧
    ∀ (policy : Option Policy) (now : UInt64) (t : SignedTransfer),
      (Verdict.ofOutcome (t.check S policy now)).reason.isSome = true ↔
        (Verdict.ofOutcome (t.check S policy now)).valid = false := by
  refine ⟨fun a b => ⟨Rejection.message_injective, congrArg _⟩,
    fun _ _ _ _ _ _ => Verdict.reason_eq_iff, fun policy now t => ?_⟩
  rw [Option.isSome_iff_ne_none, ne_eq, Verdict.reason_eq_none_iff, Bool.not_eq_true]

end Remit
