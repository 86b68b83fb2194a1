import Remit.Cli.Command
import Remit.Keystore.Basic
import Remit.Node.Polling
import Remit.Wallet.Hierarchy

/-!
# Carrying out commands

Every command is a task over files, a node, and a console, which is where lines are printed and
where fresh secrets come from. What a command has printed stays printed when it fails later.
-/

namespace Remit.Cli

open FileSystem Node

/-! ### Surroundings -/

/-- What a command does beside files and a node. -/
inductive ConsoleOp where
  /-- Prints a line of the result. -/
  | print (line : String)
  /-- Prints a line beside the result. -/
  | remark (line : String)
  /-- Draws 32 bytes that nobody can guess. -/
  | freshSecret

/-- What is answered to it. -/
@[reducible] def ConsoleOp.Answer : ConsoleOp → Type
  | .print _ => Unit
  | .remark _ => Unit
  | .freshSecret => FixedBytes 32

/-- The console. -/
abbrev console : Interface := ⟨ConsoleOp, ConsoleOp.Answer⟩

/-- All that commands work with. -/
abbrev world : Interface := files.both (exchange.both console)

/-! ### Failures -/

/-- What could not be done, and the causes of it, outermost first. -/
structure Failure where
  message : String
  causes : List String
  deriving DecidableEq

namespace Failure

/-- A failure without a cause. -/
def plain (message : String) : Failure := ⟨message, []⟩

/-- An error as a failure. -/
def ofError (e : Error) : Failure := plain e.message

/-- A failure that was caused by an error. -/
def because (message : String) (cause : Error) : Failure := ⟨message, [cause.message]⟩

/-- A failure of the keystore. -/
def ofKeystore (failure : Keystore.Failure) : Failure :=
  match failure.messages with
  | [] => plain ""
  | message :: causes => ⟨message, causes⟩

/-- A text on lines that are indented like the first one, which starts with a mark. -/
def indent (mark blanks text : String) : String :=
  mark ++ String.ofList (text.toList.flatMap fun c =>
    if c = '\n' then '\n' :: blanks.toList else [c])

/-- The causes, numbered if there are several. -/
def causeLines : List String → List String
  | [] => []
  | [cause] => [indent "    " "    " cause]
  | causes => causes.zipIdx.map fun (cause, i) =>
    indent (String.ofList (List.replicate (5 - (Decimal.digits i).length) ' ') ++ s!"{i}: ")
      "       " cause

/-- What is shown of a failure. -/
def lines (failure : Failure) : List String :=
  s!"Error: {failure.message}" ::
    if failure.causes.isEmpty then [] else "" :: "Caused by:" :: causeLines failure.causes

end Failure

/-! ### Steps -/

/-- A step of a command. -/
abbrev Step := Task world Failure

/-- Prints a line of the result. -/
def print (line : String) : Step Unit :=
  .mk (Activity.right (Activity.right (do
    Activity.perform (I := console) (.print line)
    return .ok ())))

/-- Prints a line beside the result. -/
def remark (line : String) : Step Unit :=
  .mk (Activity.right (Activity.right (do
    Activity.perform (I := console) (.remark line)
    return .ok ())))

/-- Draws a fresh secret. -/
def freshSecret : Step (FixedBytes 32) :=
  .mk (Activity.right (Activity.right (do
    return .ok (← Activity.perform (I := console) .freshSecret))))

/-- The present. -/
def present : Step Instant := .mk (Activity.right (Activity.left (do return .ok (← Node.now))))

/-- A step on stored wallets. -/
def onKeystore {α : Type} (task : Task files Keystore.Failure α) : Step α :=
  (task.mapError Failure.ofKeystore).left

/-- A step with a node. -/
def onNode {α : Type} (task : Task exchange Error α) : Step α :=
  ((task.mapError Failure.ofError).left (J := console)).right

/-! ### Lines -/

/-- A text with blanks behind it up to a width. -/
def padRight (width : Nat) (text : String) : String :=
  text ++ String.ofList (List.replicate (width - text.length) ' ')

/-- A text with blanks before it up to a width. -/
def padLeft (width : Nat) (text : String) : String :=
  String.ofList (List.replicate (width - text.length) ' ') ++ text

/-- The start of a text, with points if it is not all. -/
def truncate (count : Nat) (text : String) : String :=
  if text.length ≤ count then text else String.ofList (text.toList.take count) ++ "..."

/-- A row of dashes. -/
def dashes (count : Nat) : String := String.ofList (List.replicate count '-')

/-- The lines about a node. -/
def statusLines (s : Status) : List String :=
  let isValidator := if s.isValidator then "Yes" else "No"
  ["RAINSONET Node Status",
   "=====================",
   s!"Node ID:       {truncate 16 s.nodeId}",
   s!"State Version: {s.stateVersion}",
   s!"State Root:    {truncate 16 s.stateRoot}",
   s!"Peer Count:    {s.peerCount}",
   s!"Is Validator:  {isValidator}",
   s!"Mempool Size:  {s.mempoolSize}"]

/-- The lines about a transaction. -/
def reportLines (r : TransactionReport) : List String :=
  [s!"TX ID:  {r.id.text}", s!"Status: {r.status.name}"]

/-- Prints lines of the result. -/
def printAll (lines : List String) : Step Unit := lines.forM print

/-! ### Commands -/

variable (S : Scheme)

/-- Shows a wallet that was just stored. -/
def printStored (named : Keystore.NamedWallet S) (done : String) : Step Unit :=
  printAll [s!"Wallet '{named.name}' {done}.", s!"Address: {named.wallet.address.text}"]

/-- Lists the stored wallets. -/
def printWallets (keystore : Keystore) : Step Unit := do
  match ← onKeystore (keystore.list S) with
  | [] => print s!"No wallets in {keystore.directory.text}."
  | wallets =>
    print (padRight 20 "Name" ++ " Address")
    print (dashes 20 ++ " " ++ dashes 64)
    printAll (wallets.map fun w => padRight 20 w.name ++ " " ++ w.address.text)

/-- The seed that was given, or else a fresh one, which is shown. -/
def seedOrFresh : Option String → Step Hierarchy
  | some text => Task.ofExcept ((Hierarchy.ofHex text).mapError (Failure.because "seed rejected"))
  | none => do
    let seed ← freshSecret
    let h : Hierarchy := ⟨seed.toList, by simp⟩
    remark "Generated a new seed. Back it up; it recreates every wallet below."
    print s!"Seed: {h.seedText}"
    return h

/-- The line about a derived wallet with its index. -/
def derivedLine (index : UInt64) (wallet : Wallet S) : String :=
  padLeft 6 (toString index) ++ "  " ++ wallet.address.text

/-- Lists wallets that come from a seed. -/
def printDerived (seed : Option String) (count start : UInt32) : Step Unit := do
  let h ← seedOrFresh seed
  let wallets ← Task.ofExcept ((h.deriveMany S count start).mapError Failure.ofError)
  printAll (wallets.zipIdx.map fun (wallet, k) =>
    derivedLine S (start.toUInt64 + UInt64.ofNat k) wallet)

/-- Shows what an account holds. -/
def printBalance (config : Config) (keystore : Keystore) (address wallet : Option String) :
    Step Unit := do
  let address ← match wallet, address with
    | some name, _ => do pure (← onKeystore (keystore.get S name)).wallet.address.text
    | none, some address => pure address
    | none, none => throw (.plain "provide an address or --wallet")
  let balance ← onNode (Client.balance config address)
  printAll
    [s!"Address: {balance.address.text}", s!"Balance: {balance.coins} RELYO",
     s!"(Raw:    {balance.amount.weiText} wei)"]

/-- Signs and hands in a transfer with the nonce that was given, or else with the next one. -/
def submitTransfer (config : Config) (wallet : Wallet S) (recipient : String)
    (amount fee : Amount) (nonce : Option UInt64) : Task exchange Error TransactionReport :=
  match nonce with
  | some nonce => do
    let present ← Client.timestamp
    let t ← Task.ofExcept
      (wallet.createTransaction recipient (.exact amount) (.exact fee) nonce none present)
    Client.submit config t
  | none =>
    Client.send config
      { wallet := wallet
        recipient := recipient
        amount := .exact amount
        fee := some (.exact fee) }

/-- Waits until a transaction is final, for as long as is usual. -/
def awaitFinal (config : Config) (id : TransactionId) : Task exchange Error TransactionReport :=
  .mk do
    match ← Client.waitForTransaction config id.text {} with
    | some result => return result
    | none => return .error (Client.expired id.text {} Client.enoughPolls)

/-- Makes a transfer. -/
def sendTransfer (config : Config) (keystore : Keystore) (a : SendArguments) : Step Unit := do
  let named ← onKeystore (keystore.get S a.wallet)
  let amount ← Task.ofExcept
    ((Amount.parseCoins a.amount).mapError (Failure.because "invalid --amount"))
  let fee ← match a.fee with
    | some fee => Task.ofExcept ((Amount.parseCoins fee).mapError (Failure.because "invalid --fee"))
    | none => pure Policy.standardFee
  print s!"Sending {amount.coinText} RELYO from '{named.name}' to {a.recipient}..."
  let report ← onNode (submitTransfer S config named.wallet a.recipient amount fee a.nonce)
  printAll (reportLines report)
  if a.wait then
    print "Waiting for confirmation..."
    printAll (reportLines (← onNode (awaitFinal config report.id)))

/-- Shows the transactions that wait to be included. -/
def printPending (config : Config) : Step Unit := do
  match ← onNode (Client.pending config) with
  | [] => print "Mempool is empty."
  | ids =>
    print s!"{ids.length} pending transaction(s):"
    printAll (ids.map fun id => s!"  {id.text}")

/-- Carries out a command. -/
def runCommand (config : Config) (keystore : Keystore) : Command → Step Unit
  | .walletCreate name => do
    let secret ← freshSecret
    let createdAt ← present
    printStored S (← onKeystore (keystore.create S name secret createdAt)) "created"
  | .walletImport name secret => do
    let createdAt ← present
    printStored S (← onKeystore (keystore.importSecret S name secret createdAt)) "imported"
  | .walletInfo name => do
    let named ← onKeystore (keystore.get S name)
    printAll
      [s!"Wallet:     {named.name}", s!"Address:    {named.wallet.address.text}",
       s!"Public key: {named.wallet.publicKey.text}",
       s!"Created:    {Rfc3339.format named.createdAt}"]
  | .walletExport name => do
    let named ← onKeystore (keystore.get S name)
    remark "Keep this secret key safe. Anyone holding it controls the funds."
    print named.wallet.secretText
  | .walletList => printWallets S keystore
  | .hdDerive seed count start => printDerived S seed count start
  | .status => do printAll (statusLines (← onNode (Client.status config)))
  | .health => do
    let health ← onNode (Client.health config)
    print s!"Node health: {health.status}"
    if !health.isOk then
      throw (Failure.plain s!"node reports unhealthy status '{health.status}'")
  | .balance address wallet => printBalance S config keystore address wallet
  | .account address => do
    let account ← onNode (Client.account config address)
    printAll
      [s!"Address: {account.address.text}", s!"Balance: {account.balance.coinText} RELYO",
       s!"Nonce:   {account.nonce}"]
  | .transaction id => do printAll (reportLines (← onNode (Client.transaction config id)))
  | .mempool => printPending config
  | .send arguments => sendTransfer S config keystore arguments

/-- The settings of the client that an invocation asks for. -/
def Invocation.config (invocation : Invocation) : Config :=
  { network := invocation.network, nodeUrl := invocation.nodeUrl }

/-- Carries out an invocation. -/
def run (invocation : Invocation) : Step Unit :=
  runCommand S invocation.config ⟨Path.ofText invocation.walletsDirectory⟩ invocation.command

end Remit.Cli
