import Remit.Error
import Remit.Json.Decoder
import Remit.Text.Blank

/-!
# Networks

The deployments a client can talk to, each with its chain number and the address of its node. A
network is named in any mixture of upper and lower case, with blanks around it; in JSON only the
lowercase name counts.

## Main statements

* `Network.parse_name`: every network is found by its name.
-/

namespace Remit

/-- A deployment. -/
inductive Network where
  | mainnet
  | testnet
  /-- A single node on the own machine. -/
  | devnet
  deriving DecidableEq, Inhabited

namespace Network

/-- The lowercase name. -/
def name : Network → String
  | mainnet => "mainnet"
  | testnet => "testnet"
  | devnet => "devnet"

/-- The name for people. -/
def title : Network → String
  | mainnet => "RAINSONET Mainnet"
  | testnet => "RAINSONET Testnet"
  | devnet => "RAINSONET Devnet"

/-- The number of the chain. -/
def chainId : Network → UInt64
  | mainnet => 1
  | testnet => 2
  | devnet => 3

/-- Where its node answers. -/
def nodeUrl : Network → String
  | mainnet => "https://mainnet.rainsonet.io"
  | testnet => "https://testnet.rainsonet.io"
  | devnet => "http://127.0.0.1:8080"

/-- The networks by name. -/
def all : List (String × Network) := [mainnet, testnet, devnet].map fun n => (n.name, n)

/-- Finds a network by its name. -/
def parse (text : String) : Except Error Network :=
  let name := String.ofList (Text.asciiLowercase (Text.trim text.toList))
  match all.lookup name with
  | some network => .ok network
  | none => .error (.validation s!"unknown network: {name}")

/-- The name as a JSON string. -/
def json (network : Network) : Json := .string network.name

/-- A network from its name. -/
def decoder : Json.Decoder Network := Json.Decoder.enumeration all

theorem parse_name (network : Network) : parse network.name = .ok network := by
  cases network <;> rfl

end Network

end Remit
