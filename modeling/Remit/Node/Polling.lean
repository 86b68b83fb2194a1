import Remit.Node.Client

/-!
# Waiting for a transaction

A client asks a node again and again what has become of a transaction, until it is final or the
time is up. Every question, with all its attempts, gets only the time that is left, and so does the
pause before the next one.

Nothing bounds the number of questions if there is no pause between them and the node answers at
once, so the number is a parameter. `enoughPolls` is more than any wait with a pause can take.
-/

namespace Remit.Node.Client

/-- How long to wait for a transaction, and how often to ask. -/
structure WaitOptions where
  timeoutMs : UInt64 := 60000
  pollIntervalMs : UInt64 := 1000
  deriving DecidableEq

/-- The time is up after so many questions. -/
def expired (id : String) (options : WaitOptions) (polls : Nat) : Error :=
  .timeout s!"transaction {id}" options.timeoutMs (UInt32.ofNat polls)

/-- Asks until the transaction is final or the time is up. There are `time` milliseconds left,
`polls` questions have been asked, and at most `more` more are; the result is missing if those are
not enough. -/
def poll (config : Config) (id : String) (options : WaitOptions) :
    (more polls time : Nat) → Activity exchange (Option (Except Error TransactionReport))
  | 0, _, _ => return none
  | more + 1, polls, time => do
    let (answer, time) ← within time (transaction config id).run
    match answer with
    | none => return some (.error (expired id options (polls + 1)))
    | some (.error e) => return some (.error e)
    | some (.ok report) =>
      if report.status.isFinal then return some (.ok report)
      else if time = 0 then return some (.error (expired id options (polls + 1)))
      else
        let duration := min options.pollIntervalMs.toNat time
        pause duration
        poll config id options more (polls + 1) (time - duration)

/-- As many questions as there are milliseconds in the longest wait, and two more. -/
def enoughPolls : Nat := UInt64.size + 1

/-- Waits until a transaction is final. The result is missing only if there is no pause between
the questions and more of them have been asked than there can be milliseconds to wait. -/
def waitForTransaction (config : Config) (id : String) (options : WaitOptions) :
    Activity exchange (Option (Except Error TransactionReport)) :=
  poll config id options enoughPolls 0 options.timeoutMs.toNat

end Remit.Node.Client
