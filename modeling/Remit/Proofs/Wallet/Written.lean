import Remit.Proofs.Json.Members
import Remit.Wallet.Serialized

/-!
# Wallets inside of larger objects

A written wallet is found among any other members that an object may have, in any order, so that the
file of a named wallet is one of them.
-/

namespace Remit.Wallet

open Json Json.Decoder

variable {S : Scheme}

namespace Serialized

/-- The fields of a written wallet. -/
def fields : Fields Serialized :=
  (((Fields.pure Serialized.mk).and
    (.optional "address" (Json.Decoder.nullable string) none)).and
    (.optional "public_key" (Json.Decoder.nullable string) none)).and
    (.optional "secret_key" (Json.Decoder.nullable string) none)

theorem decoder_eq : decoder = record "WalletJson" fields := rfl

/-- The names of the members of a written wallet. -/
def names : List String := ["address", "public_key", "secret_key"]

end Serialized

/-- **A wallet is read from an object that has its members**, whatever their order and whatever else
there is that is sound. -/
theorem ofSerialized_of_members (wallet : Wallet S) {text : String}
    {all others : List (String × Json)}
    (htext : Document.ofText text = (.object (memberDocuments all), []))
    (hall : all.Perm ([("address", .string wallet.address.text),
      ("public_key", .string wallet.publicKey.text), ("secret_key", .string wallet.secretText)] ++
        others))
    (hothers : ∀ m ∈ others, m.1 ∉ Serialized.names)
    (hsound : ∀ m ∈ others, m.2.toDocument.isSound = true) :
    ofSerialized S text = .ok wallet := by
  have hasks : Serialized.fields.Asks (.text 127)
      [("address", .string wallet.address.text), ("public_key", .string wallet.publicKey.text),
        ("secret_key", .string wallet.secretText)] wallet.serialized :=
    (((Fields.Asks.pure _).and (.optional rfl)).and (.optional rfl)).and (.optional rfl)
  have hread : record "WalletJson" Serialized.fields (.text levelLimit)
      (.object (memberDocuments all)) = .ok wallet.serialized :=
    record_eq_ok rfl _ hasks hall (by show Serialized.names.Nodup; decide) hothers hsound
  have hdecode : Serialized.decoder.ofText text = .ok wallet.serialized := by
    rw [Json.Decoder.ofText, htext, Serialized.decoder_eq]
    simp only [hread]
    rfl
  rw [ofSerialized, hdecode]
  exact wallet_serialized wallet

end Remit.Wallet
