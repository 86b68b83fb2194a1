import Remit.Cli.Run
import Remit.Cli.Usage
import Remit.Node.Http
import Std.Async.DNS
import Std.Async.TCP
import Std.Time

/-!
# The program

Here the questions that commands ask are put to the real world: the file system, a node behind a
TCP connection, the clock, and the console. Nothing is decided here.
-/

namespace Remit.Program

open Std.Async

/-! ### Files -/

/-- What an error of the system means for files, by its number. -/
def fileError (e : IO.Error) : FileSystem.Error :=
  match e with
  | .noFileOrDirectory _ _ _ => .notFound
  | .permissionDenied _ _ _ => .denied
  | .alreadyExists _ _ _ => .alreadyExists
  | .inappropriateType _ 21 _ => .isDirectory
  | .inappropriateType _ _ _ => .notDirectory
  | .invalidArgument _ 36 _ => .nameTooLong
  | e => .other (toString e)

/-- An action with the errors of the system as results. -/
def guarded {α : Type} (action : IO α) : IO (Except FileSystem.Error α) := do
  match ← action.toBaseIO with
  | .ok value => return .ok value
  | .error e => return .error (fileError e)

/-- A path as the system has it. -/
def entry (path : FileSystem.Path) : IO.FS.DirEntry := { root := path.text, fileName := path.name }

/-- The rights that the bits of a mode stand for. -/
def rights (mode : UInt32) : IO.FileRight :=
  let of (shift : UInt32) : IO.AccessRight :=
    let bits := mode >>> shift
    { read := bits &&& 4 ≠ 0, write := bits &&& 2 ≠ 0, execution := bits &&& 1 ≠ 0 }
  { user := of 6, group := of 3, other := of 0 }

/-- Opens a file for as long as an action takes. -/
def withFile {α : Type} (path : FileSystem.Path) (mode : IO.FS.Mode)
    (action : IO.FS.Handle → IO α) : IO α := do
  action (← IO.FS.Handle.mk path.text mode)

/-- Does what is asked of the file system. -/
def answerFiles : (op : FileSystem.Op) → IO op.Answer
  | .exists path => (entry path).root.pathExists
  | .makeDirectories path => guarded (IO.FS.createDirAll path.text)
  | .createNew path mode => guarded do
    withFile path .writeNew fun _ => IO.setAccessRights path.text (rights mode)
  | .openEmpty path mode => guarded do
    let isNew := !(← (entry path).root.pathExists)
    withFile path .write fun _ =>
      if isNew then IO.setAccessRights path.text (rights mode) else pure ()
  | .setMode path mode => guarded (IO.setAccessRights path.text (rights mode))
  | .append path bytes => guarded do
    withFile path .append fun file => do
      file.write ⟨bytes.toArray⟩
      file.flush
    return bytes.length
  | .sync path => guarded (withFile path .append (·.flush))
  | .read path => guarded do return (← IO.FS.readBinFile path.text).toList
  | .list path => guarded do
    return ((← (entry path).root.readDir).map (·.fileName)).toList

/-! ### The node -/

/-- Everything that comes back on a connection until the other side closes it. -/
partial def receiveAll (socket : TCP.Socket.Client) (received : ByteArray) : Async ByteArray := do
  match ← socket.recv? 65536 with
  | some bytes => receiveAll socket (received ++ bytes)
  | none => return received

/-- The address of a host with the number of a service on it. -/
def socketAddress (service : UInt16) : Std.Net.IPAddr → Std.Net.SocketAddress
  | .v4 address => .v4 ⟨address, service⟩
  | .v6 address => .v6 ⟨address, service⟩

/-- Sends bytes to an origin and waits for all that comes back. -/
def transmit (origin : Node.Http.Origin) (bytes : ByteArray) : Async ByteArray := do
  let service := UInt16.ofNat (Decimal.value origin.service.toList)
  match (← DNS.getAddrInfo origin.host origin.service).toList with
  | [] => throw (IO.userError s!"{origin.host} has no address")
  | address :: _ =>
    let socket ← TCP.Socket.Client.mk
    socket.connect (socketAddress service address)
    socket.send bytes
    receiveAll socket .empty

/-- What comes of a request. -/
def deliver (url : String) (request : Node.Request) : IO (Except Error Node.Response) := do
  match Node.Http.Origin.ofUrl? url with
  | none => return .error (.unreached s!"{request.description}: cannot connect to {url}")
  | some origin =>
    match ← (transmit origin ⟨(Node.Http.encode origin request).toArray⟩).block.toBaseIO with
    | .error e => return .error (.unreached s!"{request.description}: {e}")
    | .ok answer => return (Node.Http.decode answer.toList).mapError (·.error request)

/-- Sleeps, also for longer than one sleep of the system can last. -/
def sleep (duration : Nat) : IO Unit := do
  let most := 1000000000
  for _ in [0 : duration / most] do
    IO.sleep (UInt32.ofNat most)
  IO.sleep (UInt32.ofNat (duration % most))

/-- Waits until something is done, but not past the deadline. -/
partial def waitFor (deadline : Nat) (isDone : BaseIO Bool) : IO Bool := do
  if ← isDone then return true
  else if deadline ≤ (← IO.monoMsNow) then return false
  else
    IO.sleep 1
    waitFor deadline isDone

/-- The present. -/
def present : IO Instant := do
  let t ← Std.Time.Timestamp.now
  let nanoseconds := t.toNanosecondsSinceUnixEpoch.val
  return ⟨nanoseconds.fdiv 1000000000, (nanoseconds.fmod 1000000000).toNat⟩

/-- Does what is asked of the node with the given address, and of the clock. -/
def answerNode (url : String) : (op : Node.Op) → IO op.Answer
  | .call request patience => do
    let start ← IO.monoMsNow
    let delivery ← IO.asTask (deliver url request)
    if ← waitFor (start + patience) (IO.hasFinished delivery) then
      let after := min ((← IO.monoMsNow) - start) patience
      match ← IO.wait delivery with
      | .ok outcome => return ⟨after, some outcome⟩
      | .error e => return ⟨after, some (.error (.unreached s!"{request.description}: {e}"))⟩
    else return ⟨patience, none⟩
  | .pause duration => sleep duration
  | .now => present

/-! ### The console -/

/-- Does what is asked of the console. -/
def answerConsole : (op : Cli.ConsoleOp) → IO op.Answer
  | .print line => IO.println line
  | .remark line => IO.eprintln line
  | .freshSecret => do
    match Bytes.ofLength? 32 (← IO.getRandomBytes 32).toList with
    | some secret => return secret
    | none => throw (IO.userError "the system gave no random bytes")

/-- Does whatever is asked. -/
def answer (url : String) : (op : Cli.world.Op) → IO (Cli.world.Answer op)
  | .inl op => answerFiles op
  | .inr (.inl op) => answerNode url op
  | .inr (.inr op) => answerConsole op

/-- The variables of the environment that options look at. -/
def environment : IO (List (String × String)) := do
  Cli.globalOptions.filterMapM fun o => do
    match o.standIn with
    | none => return none
    | some name => return (← IO.getEnv name).map fun value => (name, value)

end Remit.Program

/-- Carries out a command line. -/
def main (arguments : List String) : IO UInt32 := do
  match Remit.Cli.parse (← Remit.Program.environment) arguments with
  | .error refusal =>
    refusal.lines.forM (if refusal.isAnswered then IO.println else IO.eprintln)
    return refusal.exitCode
  | .ok invocation =>
    let url := invocation.config.baseUrl
    let task := (Remit.Cli.run Remit.Scheme.standard invocation).run
    match ← task.runIn (Remit.Program.answer url) with
    | .ok () => return 0
    | .error failure =>
      failure.lines.forM IO.eprintln
      return 1
