import Remit.Cli.Arguments
import Remit.Decimal.Natural
import Remit.Network

/-!
# The commands of the program

The grammar of the command line and what is made of it: the settings that hold for every command,
and the command with its arguments.
-/

namespace Remit.Cli

/-! ### What is asked for -/

/-- Arguments of a transfer. -/
structure SendArguments where
  wallet : String
  recipient : String
  amount : String
  fee : Option String
  nonce : Option UInt64
  wait : Bool
  deriving DecidableEq

/-- A command with its arguments. -/
inductive Command where
  | walletCreate (name : String)
  | walletImport (name secret : String)
  | walletInfo (name : String)
  | walletExport (name : String)
  | walletList
  | hdDerive (seed : Option String) (count start : UInt32)
  | status
  | health
  | balance (address wallet : Option String)
  | account (address : String)
  | transaction (id : String)
  | mempool
  | send (arguments : SendArguments)
  deriving DecidableEq

/-- A command with the settings that hold for every command. -/
structure Invocation where
  network : Network
  nodeUrl : Option String
  walletsDirectory : String
  logFormat : String
  command : Command
  deriving DecidableEq

/-- How a log is written. -/
inductive LogFormat where
  | pretty
  | json
  deriving DecidableEq

namespace LogFormat

/-- The format with the given name; every other name means the pretty one. -/
def ofText (text : String) : LogFormat :=
  if text.toList.map Char.toLower = ['j', 's', 'o', 'n'] then json else pretty

end LogFormat

/-! ### Values -/

/-- A natural number below a limit, perhaps with a plus sign. -/
def unsigned? (limit : Nat) (text : List Char) : Option Nat :=
  let digits := match text with
    | '+' :: rest => rest
    | _ => text
  (Decimal.natural? digits).filter (· < limit)

/-- A number of 32 bits with any sign; with a minus sign it can only be zero. -/
def word32? (text : String) : Option UInt32 :=
  match text.toList with
  | '-' :: digits => ((Decimal.natural? digits).filter (· = 0)).map UInt32.ofNat
  | text => (unsigned? UInt32.size text).map UInt32.ofNat

/-- A number of 64 bits. -/
def word64? (text : String) : Option UInt64 :=
  (unsigned? UInt64.size text.toList).map UInt64.ofNat

/-- Any text. -/
def anyText (_ : String) : Option Refusal := none

/-- A text that is not empty. -/
def someText (text : String) : Option Refusal := if text.isEmpty then some .missingValue else none

/-- A text that can be read. -/
def readable {α : Type} (read : String → Option α) (text : String) : Option Refusal :=
  if (read text).isSome then none else some .badValue

/-- The network with the given name. -/
def network? (text : String) : Option Network := (Network.parse text).toOption

/-! ### Grammar -/

/-- The settings that hold for every command. -/
def globalOptions : List OptionSpec :=
  [{ long := "network", effect := .value (readable network?), isGlobal := true
     standIn := some "RELYO_NETWORK", fallback := some Network.devnet.name },
   { long := "node-url", short := some 'n', effect := .value anyText, isGlobal := true
     standIn := some "RELYO_NODE_URL" },
   { long := "wallets-dir", short := some 'w', effect := .value someText, isGlobal := true
     standIn := some "RELYO_WALLETS_DIR", fallback := some "./wallets" },
   { long := "log-format", effect := .value anyText, isGlobal := true
     standIn := some "RELYO_LOG_FORMAT", fallback := some "pretty" }]

/-- A command that takes nothing but operands, all of which are required. -/
def plainCommand (name : String) (operands : List String) : Grammar :=
  .command name [] operands (operands.map fun operand => .required operand none) []

/-- An option that takes any text. -/
def textOption (long : String) (short : Option Char) : OptionSpec :=
  { long := long, short := short, effect := .value anyText }

/-- The commands on stored wallets. -/
def walletGrammar : Grammar :=
  .command "wallet" [] [] []
    [plainCommand "create" ["name"], plainCommand "import" ["name", "secret"],
     plainCommand "info" ["name"], plainCommand "export" ["name"], plainCommand "list" []]

/-- The commands on wallets that come from a seed. -/
def hdGrammar : Grammar :=
  .command "hd" [] [] []
    [.command "derive"
      [textOption "seed" none,
       { long := "count", effect := .value (readable word32?), fallback := some "5" },
       { long := "start", effect := .value (readable word32?), fallback := some "0" }] [] [] []]

/-- What an account holds, which is named by its address or by a wallet. -/
def balanceGrammar : Grammar :=
  .command "balance" [textOption "wallet" none] ["address"]
    [.exclusive "address" "wallet", .required "address" (some "wallet")] []

/-- A transfer. -/
def sendGrammar : Grammar :=
  .command "send"
    [textOption "from" (some 'f'), textOption "to" (some 't'), textOption "amount" (some 'a'),
     textOption "fee" none, { long := "nonce", effect := .value (readable word64?) },
     { long := "wait", effect := .flag }]
    [] [.required "from" none, .required "to" none, .required "amount" none] []

/-- All commands. -/
def grammar : Grammar :=
  .command "relyo" globalOptions [] []
    [walletGrammar, hdGrammar, plainCommand "status" [], plainCommand "health" [], balanceGrammar,
     plainCommand "account" ["address"], plainCommand "tx" ["id"], plainCommand "mempool" [],
     sendGrammar]

/-- What is printed for the version of a command. -/
def versionText (path : List String) : String := String.intercalate "-" path ++ " 0.1.0"

/-! ### Meaning -/

/-- The command that was named, given the value of each of its arguments. -/
def Command.ofArguments? (path : List String) (argument : String → Option String) :
    Option Command :=
  match path with
  | ["wallet", "create"] => do return .walletCreate (← argument "name")
  | ["wallet", "import"] => do return .walletImport (← argument "name") (← argument "secret")
  | ["wallet", "info"] => do return .walletInfo (← argument "name")
  | ["wallet", "export"] => do return .walletExport (← argument "name")
  | ["wallet", "list"] => some .walletList
  | ["hd", "derive"] => do
    return .hdDerive (argument "seed") (← (argument "count").bind word32?)
      (← (argument "start").bind word32?)
  | ["status"] => some .status
  | ["health"] => some .health
  | ["balance"] => some (.balance (argument "address") (argument "wallet"))
  | ["account"] => do return .account (← argument "address")
  | ["tx"] => do return .transaction (← argument "id")
  | ["mempool"] => some .mempool
  | ["send"] => do
    return .send
      { wallet := ← argument "from"
        recipient := ← argument "to"
        amount := ← argument "amount"
        fee := argument "fee"
        nonce := (argument "nonce").bind word64?
        wait := (argument "wait").isSome }
  | _ => none

/-- What the commands on a command line amount to. -/
def Invocation.ofLevels? (levels : List Level) : Option Invocation := do
  let path := (levels.map (·.command)).drop 1
  let level ← levels.getLast?
  return {
    network := ← (valueOf levels "network").bind network?
    nodeUrl := valueOf levels "node-url"
    walletsDirectory := ← valueOf levels "wallets-dir"
    logFormat := ← valueOf levels "log-format"
    command := ← Command.ofArguments? path fun name => (level.find? name).map (·.value) }

/-- Reads a command line without the name of the program, in an environment. -/
def parse (environment : List (String × String)) (arguments : List String) :
    Except Refusal Invocation := do
  let levels ← read grammar environment arguments
  match Invocation.ofLevels? levels with
  | some invocation => .ok invocation
  | none => .error .missingSubcommand

end Remit.Cli
