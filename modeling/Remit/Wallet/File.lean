import Remit.FileSystem.Files
import Remit.Wallet.Serialized

/-!
# Wallets in files

A wallet is saved in a file of its own that only its owner may read. The mode is set before the
first byte of the secret is written, also when the file was there before and had another mode.
-/

namespace Remit.Wallet

open FileSystem

variable {S : Scheme}

/-- Reading and writing for the owner, and nothing for anybody else. -/
def privateMode : UInt32 := 0o600

/-- A step on files failed. -/
def fileFailed (cause : FileSystem.Error) : Error := .file cause

/-- Writes a wallet to a file, in the place of what the file held. -/
def save (wallet : Wallet S) (path : Path) : Task files Error Unit :=
  .mapError fileFailed do
    openEmpty path privateMode
    setMode path privateMode
    appendAll path (Bytes.ofText wallet.serialize)
    sync path

/-- Reads a wallet from a file. -/
def load (S : Scheme) (path : Path) : Task files Error (Wallet S) := do
  let text ← (readText path).mapError fileFailed
  Task.ofExcept (ofSerialized S text)

end Remit.Wallet
