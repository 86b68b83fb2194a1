import Remit.Network

/-!
# Configuration of a client

Which node to talk to, how long to wait for an answer, and how often to try again. The pause
between two attempts doubles each time; it is counted in words of 64 bits and stays at the largest
word once it gets there.

## Main statements

* `Config.attempts_pos`: at least one attempt is made.
* `Config.toNat_backoff`: the pause is the doubled base or the largest word.
-/

namespace Remit

/-- The settings of a client. -/
structure Config where
  network : Network := .devnet
  /-- A node of one's own, in place of the network's. -/
  nodeUrl : Option String := none
  /-- How many milliseconds one attempt may take. -/
  timeoutMs : UInt64 := 30000
  /-- How often a request is tried; none counts as once. -/
  retries : UInt32 := 3
  /-- The milliseconds between the first attempt and the second. -/
  baseDelayMs : UInt64 := 1000
  deriving DecidableEq

namespace Config

/-- Whether a text ends in slashes is of no account for where requests go. -/
def dropTrailingSlashes (url : String) : String :=
  String.ofList (url.toList.reverse.dropWhile (· = '/')).reverse

/-- What the paths of requests are appended to. -/
def baseUrl (config : Config) : String :=
  dropTrailingSlashes (config.nodeUrl.getD config.network.nodeUrl)

/-- How often a request is tried. -/
def attempts (config : Config) : Nat := max config.retries.toNat 1

/-- The product of two words, or the largest word. -/
def saturatingMul (a b : UInt64) : UInt64 :=
  if a.toNat * b.toNat < UInt64.size then a * b else 0xffffffffffffffff

/-- The milliseconds to pause after the attempt with the given number, counted from one. -/
def backoff (config : Config) (attempt : UInt32) : UInt64 :=
  saturatingMul config.baseDelayMs (UInt64.ofNat (Nat.pow 2 (min (attempt.toNat - 1) 31)))

theorem attempts_pos (config : Config) : 0 < config.attempts := by
  unfold attempts; omega

theorem toNat_saturatingMul (a b : UInt64) :
    (saturatingMul a b).toNat = min (a.toNat * b.toNat) (UInt64.size - 1) := by
  unfold saturatingMul
  split
  · rename_i h
    rw [UInt64.toNat_mul, Nat.mod_eq_of_lt h]
    omega
  · rename_i h
    have : (0xffffffffffffffff : UInt64).toNat = UInt64.size - 1 := rfl
    omega

theorem toNat_backoff (config : Config) (attempt : UInt32) :
    (config.backoff attempt).toNat =
      min (config.baseDelayMs.toNat * Nat.pow 2 (min (attempt.toNat - 1) 31))
        (UInt64.size - 1) := by
  have h : Nat.pow 2 (min (attempt.toNat - 1) 31) < 2 ^ 64 :=
    Nat.pow_lt_pow_right (by decide) (by omega)
  rw [backoff, toNat_saturatingMul, UInt64.toNat_ofNat_of_lt' h]

/-! ### JSON -/

/-- The settings as a JSON object. -/
def json (config : Config) : Json :=
  .object
    [("network", config.network.json),
     ("node_url", .optionalString config.nodeUrl),
     ("timeout_ms", .nat config.timeoutMs.toNat),
     ("retries", .nat config.retries.toNat),
     ("retry_base_delay_ms", .nat config.baseDelayMs.toNat)]

open Json Decoder in
/-- Settings from a JSON object, in which every one of them may be missing. -/
def decoder : Json.Decoder Config :=
  let standard : Config := {}
  record "ClientConfig"
    ((((((Fields.pure Config.mk).and
      (.optional "network" Network.decoder standard.network)).and
      (.optional "node_url" (nullable string) standard.nodeUrl)).and
      (.optional "timeout_ms" word64 standard.timeoutMs)).and
      (.optional "retries" word32 standard.retries)).and
      (.optional "retry_base_delay_ms" word64 standard.baseDelayMs))

end Config

end Remit
