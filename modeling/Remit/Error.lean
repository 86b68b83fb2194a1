import Remit.FileSystem.Error

/-!
# Errors

One type for everything that can go wrong outside the command line, sorted by what the caller can
do about it: malformed text, well-formed text that is not acceptable, a transfer with parts
missing, bad key material, trouble on the way to a node, and files.

Only trouble with a node may pass by itself, so only there is another attempt worth making.

## Main statements

* `Error.withAttempts_of_not_isRetryable`: counting attempts changes nothing else.
-/

namespace Remit

/-- What went wrong. -/
inductive Error where
  /-- A text or a payload could not be decoded. -/
  | format (reason : String)
  /-- What was decoded is not acceptable here. -/
  | validation (reason : String)
  /-- A transfer was asked for before one of its parts was given. -/
  | incomplete (field : String)
  /-- Secret key material is missing or malformed. The reason never shows any of it. -/
  | invalidKey (reason : String)
  | seedTooShort (minimum actual : Nat)
  /-- No answer came, or the answer was a refusal. -/
  | network (reason : String) (attempts : UInt32)
  /-- A deadline passed. -/
  | timeout (what : String) (afterMs : UInt64) (attempts : UInt32)
  | file (cause : FileSystem.Error)
  deriving DecidableEq

namespace Error

/-- The wording of an error. -/
def message : Error → String
  | format reason => s!"format error: {reason}"
  | validation reason => s!"validation error: {reason}"
  | incomplete field => s!"incomplete transaction: missing {field}"
  | invalidKey reason => s!"invalid key: {reason}"
  | seedTooShort minimum actual =>
    s!"seed too short: need at least {minimum} bytes, got {actual}"
  | network reason attempts => s!"network error after {attempts} attempt(s): {reason}"
  | timeout what afterMs attempts =>
    s!"timed out waiting for {what} after {afterMs}ms ({attempts} attempt(s))"
  | file cause => s!"i/o error: {cause.message}"

/-- Another attempt may succeed. -/
def isRetryable : Error → Bool
  | network _ _ => true
  | timeout _ _ _ => true
  | _ => false

/-- The error with the number of attempts that were made. -/
def withAttempts (attempts : UInt32) : Error → Error
  | network reason _ => network reason attempts
  | timeout what afterMs _ => timeout what afterMs attempts
  | error => error

/-- An error of the first attempt. -/
def unreached (reason : String) : Error := network reason 1

theorem withAttempts_of_not_isRetryable {error : Error} (h : error.isRetryable = false)
    (attempts : UInt32) : error.withAttempts attempts = error := by
  cases error <;> first | rfl | cases h

end Error

end Remit
