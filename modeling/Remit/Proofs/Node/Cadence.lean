import Mathlib.Algebra.Order.Floor.Div
import Remit.Proofs.Node.Waiting

/-!
# Polls keep time

How many polls a wait takes, and when they fall due. Every poll but the first follows a pause, and
every pause is a whole interval unless the deadline cuts it short. So the polls are at least an
interval apart until the last one, which is due exactly at the deadline and has no time left; an
answer that is there at once still counts.

* `Polled.min_le`, `Polled.polls_le`: when a poll is due at the earliest, and how many there can be;
* `exists_run_poll_of_polled`: a wait returns before it runs out of polls;
* `run_poll_due`: against a node that answers at once, the polls are due at the multiples of the
  interval and at the deadline;
* `waitForTransaction_keeps_time`: what this means for a wait.
-/

namespace Remit.Node.Client

variable {node : Node} {config : Config} {id : String} {options : WaitOptions}
  {start session : Session} {polls : Nat}

/-! ### Any node -/

/-- A poll is not due before the pauses that precede it are over, unless the deadline comes
first. -/
theorem Polled.min_le (h : Polled node config id options start polls session) :
    start.now + min (options.pollIntervalMs.toNat * polls) options.timeoutMs.toNat ≤
        session.now ∧
      session.now ≤ start.now + options.timeoutMs.toNat := by
  induction h with
  | start =>
    rw [Nat.mul_zero]
    omega
  | @again polls before after report earlier hask _ hnow ih =>
    have hlater : before.now ≤ after.now := by
      have h := now_le_run node (transaction config id).run before
      rwa [show (transaction config id).run.run node.handle before = _ from hask] at h
    rw [Nat.mul_succ]
    dsimp only
    omega

/-- **There is at most one poll for each interval that has begun by the deadline**, and one more. -/
theorem Polled.polls_le (h : Polled node config id options start polls session)
    (hinterval : 0 < options.pollIntervalMs.toNat) :
    polls ≤ options.timeoutMs.toNat ⌈/⌉ options.pollIntervalMs.toNat := by
  cases h with
  | start => exact Nat.zero_le _
  | @again polls before after report earlier hask _ hnow =>
    have hdue := earlier.min_le.1
    have hlater : before.now ≤ after.now := by
      have h := now_le_run node (transaction config id).run before
      rwa [show (transaction config id).run.run node.handle before = _ from hask] at h
    -- The poll before this one was due ahead of the deadline, so its pauses were whole.
    have hlt : options.pollIntervalMs.toNat * polls < options.timeoutMs.toNat := by omega
    have hceil : ¬ options.timeoutMs.toNat ⌈/⌉ options.pollIntervalMs.toNat ≤ polls := by
      rw [ceilDiv_le_iff_le_mul hinterval]
      omega
    omega

theorem exists_run_poll_of_polled (hinterval : 0 < options.pollIntervalMs.toNat) {more time : Nat}
    (hpolled : Polled node config id options start polls session)
    (htime : session.now + time = start.now + options.timeoutMs.toNat)
    (hmore : options.timeoutMs.toNat ⌈/⌉ options.pollIntervalMs.toNat < polls + more) :
    ∃ result final, (poll config id options more polls time).run node.handle session =
      (some result, final) := by
  induction more generalizing polls time session with
  | zero =>
    have hle := hpolled.polls_le hinterval
    omega
  | succ more ih =>
    rcases run_poll_cases node config id options polls time session with
      ⟨result, final, -, hturn⟩ | ⟨report, after, hask, hopen, hlt, hturn⟩
    · exact ⟨result, final, hturn more⟩
    · rw [hturn, htime]
      rw [htime] at hlt
      refine ih (.again hpolled hask hopen hlt) ?_ (by omega)
      dsimp only
      omega

/-- Further polls are not made once the wait has returned. -/
theorem run_poll_of_le {more more' time : Nat} (hle : more ≤ more')
    {result : Except Error TransactionReport} {final : Session}
    (hrun : (poll config id options more polls time).run node.handle session =
      (some result, final)) :
    (poll config id options more' polls time).run node.handle session = (some result, final) := by
  induction more generalizing more' polls time session with
  | zero => cases hrun
  | succ more ih =>
    obtain ⟨more', rfl⟩ : ∃ k, more' = k + 1 := ⟨more' - 1, by omega⟩
    rcases run_poll_cases node config id options polls time session with
      ⟨_, _, -, hturn⟩ | ⟨report, after, -, -, -, hturn⟩
    · rw [hturn] at hrun ⊢
      exact hrun
    · rw [hturn] at hrun ⊢
      exact ih (by omega) hrun

/-! ### A node that answers at once -/

/-- An answer that is there at once makes a second attempt needless, and takes no time. -/
theorem run_execute_of_deliver {α : Type} {request : Request} {read : Reader α}
    {response : Response} {value : α}
    (hdeliver : node.deliver session.sent.length session.now request = .arrives 0 (.ok response))
    (hread : read request.description response = .ok value) :
    (execute config request read).run.run node.handle session =
      (.ok value, ⟨session.now, session.sent ++ [request]⟩) := by
  have hdelivery : delivery node config request session 0 = .arrives 0 (.ok response) := hdeliver
  have hattempt : attempt node config request session read 0 = .ok value := by
    unfold attempt
    rw [hdelivery]
    dsimp only
    rw [if_pos (Nat.zero_le _), hread]
  have hafter : after node config request session 0 =
      ⟨session.now, session.sent ++ [request]⟩ := by
    unfold after
    rw [hdelivery]
    show Session.mk (session.now + min 0 _) _ = _
    rw [Nat.zero_min, Nat.add_zero]
    rfl
  obtain ⟨n, -, hbefore, -, hrun⟩ := run_execute node config request read session
  have hn : n = 0 := by
    by_contra hne
    apply hbefore 0 (Nat.pos_of_ne_zero hne)
    rw [hattempt]
    trivial
  subst hn
  rw [hrun, hattempt, hafter]
  rfl

/-- The request is answered at once, whenever it is sent. The report is final from `change`
milliseconds after the start on, and not before. -/
structure Prompt (node : Node) (request : Request) (start change : Nat)
    (report : (index time : Nat) → TransactionReport) : Prop where
  deliver (index time : Nat) : ∃ response,
    node.deliver index time request = .arrives 0 (.ok response) ∧
      decodeEnvelope TransactionReport.decoder request.description response =
        .ok (report index time)
  isFinal_iff (index time : Nat) :
    (report index time).status.isFinal = true ↔ start + change ≤ time

/-- How things stand when the poll with the given number is due, counted from zero, if no poll takes
any time. -/
def due (options : WaitOptions) (request : Request) (start : Session) (polls : Nat) : Session :=
  ⟨start.now + min (options.pollIntervalMs.toNat * polls) options.timeoutMs.toNat,
    start.sent ++ List.replicate polls request⟩

/-- How things stand when this poll has been answered. -/
def answered (options : WaitOptions) (request : Request) (start : Session) (polls : Nat) :
    Session :=
  ⟨(due options request start polls).now, start.sent ++ List.replicate (polls + 1) request⟩

/-- The time that is left when the poll is due. -/
def timeLeft (options : WaitOptions) (polls : Nat) : Nat :=
  options.timeoutMs.toNat - options.pollIntervalMs.toNat * polls

section Prompt

variable {key : TransactionId} {change : Nat} {report : (index time : Nat) → TransactionReport}
  (hkey : Identifier.parse .transaction id = .ok key)
  (h : Prompt node (.get s!"/transaction/{key.text}") start.now change report)

include hkey h

theorem ask_due (config : Config) (options : WaitOptions) (polls : Nat) :
    let request := Request.get s!"/transaction/{key.text}"
    ask node config id (due options request start polls) =
      (.ok (report (start.sent.length + polls) (due options request start polls).now),
        answered options request start polls) := by
  intro request
  have hindex : (due options request start polls).sent.length = start.sent.length + polls := by
    show (start.sent ++ List.replicate polls request).length = _
    rw [List.length_append, List.length_replicate]
  have hsent : start.sent ++ List.replicate polls request ++ [request] =
      start.sent ++ List.replicate (polls + 1) request := by
    rw [List.append_assoc, List.replicate_succ']
  obtain ⟨response, hdeliver, hread⟩ := h.deliver
    (due options request start polls).sent.length (due options request start polls).now
  rw [ask, transaction_of_parse_eq_ok hkey, get, run_execute_of_deliver hdeliver hread, hindex,
    answered, ← hsent]
  rfl

/-- **A poll that comes too early is followed by the next one**, an interval later or at the
deadline. -/
theorem run_poll_due (config : Config) {polls : Nat}
    (hlt : options.pollIntervalMs.toNat * polls < min change options.timeoutMs.toNat)
    (more : Nat) :
    let request := Request.get s!"/transaction/{key.text}"
    (poll config id options (more + 1) polls (timeLeft options polls)).run node.handle
        (due options request start polls) =
      (poll config id options more (polls + 1) (timeLeft options (polls + 1))).run node.handle
        (due options request start (polls + 1)) := by
  intro request
  have hnow : (due options request start polls).now =
      start.now + options.pollIntervalMs.toNat * polls := by
    show start.now + min _ _ = _
    omega
  have hopen : (report (start.sent.length + polls)
      (due options request start polls).now).status.isFinal = false := by
    rw [← Bool.not_eq_true, h.isFinal_iff, hnow]
    omega
  have hless : (answered options request start polls).now <
      (due options request start polls).now + timeLeft options polls := by
    show (due options request start polls).now < _
    unfold timeLeft
    omega
  have hstep : options.pollIntervalMs.toNat * (polls + 1) =
      options.pollIntervalMs.toNat * polls + options.pollIntervalMs.toNat := Nat.mul_succ _ _
  have hleft : (due options request start polls).now + timeLeft options polls -
      (answered options request start polls).now = timeLeft options polls :=
    Nat.add_sub_cancel_left ..
  have htime : timeLeft options polls - min options.pollIntervalMs.toNat (timeLeft options polls) =
      timeLeft options (polls + 1) := by
    unfold timeLeft
    omega
  have hdue : (answered options request start polls).now +
      min options.pollIntervalMs.toNat (timeLeft options polls) =
        (due options request start (polls + 1)).now := by
    show (due options request start polls).now + _ = start.now + min _ _
    rw [hnow, hstep]
    unfold timeLeft
    omega
  rw [run_poll_again (ask_due hkey h config options polls) hless hopen]
  dsimp only
  rw [hleft, htime, hdue]
  rfl

/-- The polls that come too early are made one after the other. The induction is on their number,
and `hlt` says that the last of them is still too early. -/
theorem run_polls_due (config : Config) {polls : Nat}
    (hlt : ∀ k < polls, options.pollIntervalMs.toNat * k < min change options.timeoutMs.toNat)
    (more : Nat) :
    let request := Request.get s!"/transaction/{key.text}"
    (poll config id options (more + polls) 0 options.timeoutMs.toNat).run node.handle start =
      (poll config id options more polls (timeLeft options polls)).run node.handle
        (due options request start polls) := by
  intro request
  induction polls generalizing more with
  | zero =>
    have hstart : due options request start 0 = start := by
      unfold due
      rw [Nat.mul_zero, Nat.zero_min, List.replicate_zero, List.append_nil]
      rfl
    rw [hstart]
    rfl
  | succ polls ih =>
    have hbefore := ih (fun k hk => hlt k (Nat.lt_succ_of_lt hk)) (more + 1)
    rw [Nat.add_right_comm] at hbefore
    rw [← Nat.add_assoc, hbefore]
    exact run_poll_due hkey h config (hlt polls (Nat.lt_succ_self polls)) more

/-- The polls that come too early are those ahead of the change and of the deadline. -/
theorem run_waitForTransaction_due (config : Config)
    (hinterval : 0 < options.pollIntervalMs.toNat) {polls : Nat}
    (hpolls : polls = min change options.timeoutMs.toNat ⌈/⌉ options.pollIntervalMs.toNat) :
    let request := Request.get s!"/transaction/{key.text}"
    ∃ more, (waitForTransaction config id options).run node.handle start =
      (poll config id options (more + 1) polls (timeLeft options polls)).run node.handle
        (due options request start polls) := by
  intro request
  have hlt : ∀ k < polls,
      options.pollIntervalMs.toNat * k < min change options.timeoutMs.toNat := by
    intro k hk
    rw [hpolls] at hk
    by_contra hle
    have hceil := (ceilDiv_le_iff_le_mul hinterval).2 (Nat.le_of_not_lt hle)
    omega
  have hfew : polls ≤ options.timeoutMs.toNat := by
    rw [hpolls, ceilDiv_le_iff_le_mul hinterval]
    have hmul := Nat.le_mul_of_pos_left options.timeoutMs.toNat hinterval
    omega
  have henough : options.timeoutMs.toNat < enoughPolls :=
    Nat.lt_succ_of_lt options.timeoutMs.toNat_lt
  obtain ⟨more, hmore⟩ : ∃ more, enoughPolls = more + 1 + polls :=
    ⟨enoughPolls - 1 - polls, by omega⟩
  refine ⟨more, ?_⟩
  rw [waitForTransaction, hmore]
  exact run_polls_due hkey h config hlt (more + 1)

/-- The first poll after the change finds it, be it the one at the deadline. -/
theorem run_waitForTransaction_of_le (config : Config)
    (hinterval : 0 < options.pollIntervalMs.toNat) (hchange : change ≤ options.timeoutMs.toNat) :
    let polls := change ⌈/⌉ options.pollIntervalMs.toNat
    let last := due options (.get s!"/transaction/{key.text}") start polls
    let found := report (start.sent.length + polls) last.now
    found.status.isFinal = true ∧
      (waitForTransaction config id options).run node.handle start = (some (.ok found),
        answered options (.get s!"/transaction/{key.text}") start polls) := by
  intro polls last found
  have hmul : change ≤ options.pollIntervalMs.toNat * polls :=
    (ceilDiv_le_iff_le_mul hinterval).1 (Nat.le_refl _)
  have hfinal : found.status.isFinal = true := by
    rw [h.isFinal_iff]
    show _ ≤ start.now + min _ _
    omega
  have hpolls : polls =
      min change options.timeoutMs.toNat ⌈/⌉ options.pollIntervalMs.toNat := by
    rw [Nat.min_eq_left hchange]
  obtain ⟨more, hrun⟩ := run_waitForTransaction_due hkey h config hinterval hpolls
  refine ⟨hfinal, hrun.trans ?_⟩
  exact run_poll_of_isFinal (ask_due hkey h config options polls) (Nat.le_add_right _ _) hfinal more

/-- If there is no change by the deadline, the poll that is due then does not find it either. -/
theorem run_waitForTransaction_of_lt (config : Config)
    (hinterval : 0 < options.pollIntervalMs.toNat) (hchange : options.timeoutMs.toNat < change) :
    let polls := options.timeoutMs.toNat ⌈/⌉ options.pollIntervalMs.toNat
    (waitForTransaction config id options).run node.handle start =
      (some (.error (expired id options (polls + 1))),
        ⟨start.now + options.timeoutMs.toNat,
          start.sent ++ List.replicate (polls + 1) (.get s!"/transaction/{key.text}")⟩) := by
  intro polls
  have hmul : options.timeoutMs.toNat ≤ options.pollIntervalMs.toNat * polls :=
    (ceilDiv_le_iff_le_mul hinterval).1 (Nat.le_refl _)
  have hnow : (due options (.get s!"/transaction/{key.text}") start polls).now =
      start.now + options.timeoutMs.toNat := by
    show start.now + min _ _ = _
    rw [Nat.min_eq_right hmul]
  have hopen : (report (start.sent.length + polls)
      (due options (.get s!"/transaction/{key.text}") start polls).now).status.isFinal =
        false := by
    rw [← Bool.not_eq_true, h.isFinal_iff, hnow]
    omega
  have hleft : timeLeft options polls = 0 := Nat.sub_eq_zero_of_le hmul
  have hpolls : polls =
      min change options.timeoutMs.toNat ⌈/⌉ options.pollIntervalMs.toNat := by
    rw [Nat.min_eq_right (Nat.le_of_lt hchange)]
  obtain ⟨more, hrun⟩ := run_waitForTransaction_due hkey h config hinterval hpolls
  rw [hrun, ← hnow]
  have hlast : (answered options (.get s!"/transaction/{key.text}") start polls).now =
      (due options (.get s!"/transaction/{key.text}") start polls).now +
        timeLeft options polls := by
    rw [hleft]
    rfl
  exact run_poll_of_eq (ask_due hkey h config options polls) hlast hopen more

end Prompt

/-- **A wait keeps time.** With any pause between its polls it returns, and takes at most one poll
for each interval that has begun by the deadline, and one more. If every poll is answered at once,
and the transaction is final from some time on, then the first poll after that finds it so; this is
the first multiple of the interval, or the deadline if that is earlier. If the transaction is not
final by the deadline, then the time is up exactly then, after all the polls that there can be. -/
theorem waitForTransaction_keeps_time (node : Node) (config : Config) (id : String)
    (options : WaitOptions) (session : Session) (hinterval : 0 < options.pollIntervalMs) :
    let interval := options.pollIntervalMs.toNat
    let limit := options.timeoutMs.toNat
    let run := (waitForTransaction config id options).run node.handle session
    (∃ result final, run = (some result, final) ∧
      (poll config id options (limit ⌈/⌉ interval + 1) 0 limit).run node.handle session =
        (some result, final)) ∧
    (∀ polls last, Polled node config id options session polls last →
      polls + 1 ≤ limit ⌈/⌉ interval + 1) ∧
    ∀ (key : TransactionId) (change : Nat) (report : (index time : Nat) → TransactionReport),
      Identifier.parse .transaction id = .ok key →
      Prompt node (.get s!"/transaction/{key.text}") session.now change report →
      let sent (polls : Nat) :=
        session.sent ++ List.replicate polls (Request.get s!"/transaction/{key.text}")
      (change ≤ limit →
        let time := session.now + min (interval * (change ⌈/⌉ interval)) limit
        let found := report (session.sent.length + change ⌈/⌉ interval) time
        found.status.isFinal = true ∧
          run = (some (.ok found), ⟨time, sent (change ⌈/⌉ interval + 1)⟩)) ∧
      (limit < change → ∃ result, IsExpired id options (limit ⌈/⌉ interval + 1) result ∧
        run = (some result, ⟨session.now + limit, sent (limit ⌈/⌉ interval + 1)⟩)) := by
  intro interval limit run
  have hpos : 0 < interval := hinterval
  refine ⟨?_, ?_, ?_⟩
  · have hstart : Polled node config id options session 0 session := .start
    have hmore : limit ⌈/⌉ interval < 0 + (limit ⌈/⌉ interval + 1) := by
      rw [Nat.zero_add]
      exact Nat.lt_succ_self _
    obtain ⟨result, final, hrun⟩ := exists_run_poll_of_polled hpos hstart rfl hmore
    have hfew : limit ⌈/⌉ interval ≤ limit := by
      rw [ceilDiv_le_iff_le_mul hpos]
      exact Nat.le_mul_of_pos_left limit hpos
    have henough : limit < enoughPolls := Nat.lt_succ_of_lt options.timeoutMs.toNat_lt
    exact ⟨result, final, run_poll_of_le (by omega) hrun, hrun⟩
  · intro polls last hpolled
    exact Nat.succ_le_succ (hpolled.polls_le hpos)
  · intro key change report hkey hprompt sent
    refine ⟨fun hchange => run_waitForTransaction_of_le hkey hprompt config hpos hchange, ?_⟩
    intro hchange
    exact ⟨_, isExpired_expired id options _,
      run_waitForTransaction_of_lt hkey hprompt config hpos hchange⟩

/-- A node that takes a transaction to be final from the given time on. -/
def changingNode (change : Nat) : Node where
  deliver _ time _ :=
    let status : TransactionStatus := if time < change then .unknown else .failed
    .arrives 0 (.ok ⟨201, "\x7b\"success\": true, \"data\": [\"" ++ silentId ++ "\", \"" ++
      status.name ++ "\"]\x7d"⟩)
  clock now := ⟨now, 0⟩

theorem prompt_changingNode (change : Nat) :
    Prompt (changingNode change) (.get s!"/transaction/{silentId}") 0 change
      fun _ time => ⟨⟨Vector.replicate 32 7⟩, if time < change then .unknown else .failed⟩ := by
  constructor
  · intro index time
    refine ⟨_, rfl, ?_⟩
    by_cases h : time < change
    · simp only [if_pos h]
      cbv
    · simp only [if_neg h]
      cbv
  · intro index time
    by_cases h : time < change
    · simp only [if_pos h]
      exact iff_of_false (by decide) (by omega)
    · simp only [if_neg h]
      exact iff_of_true (by decide) (by omega)

/-- A quarter of a second with a poll each tenth: the fourth poll is the one at the deadline. -/
theorem waitForTransaction_keeps_time_changing :
    let run (change : Nat) :=
      (waitForTransaction hastyConfig silentId hastyOptions).run (changingNode change).handle {}
    let final : Session := ⟨250, List.replicate 4 (.get s!"/transaction/{silentId}")⟩
    0 < hastyOptions.pollIntervalMs ∧
    run 201 = (some (.ok ⟨⟨Vector.replicate 32 7⟩, .failed⟩), final) ∧
    ∃ result, IsExpired silentId hastyOptions 4 result ∧ run 251 = (some result, final) := by
  intro run final
  have hinterval : 0 < hastyOptions.pollIntervalMs := by decide
  have hkey : Identifier.parse .transaction silentId = .ok ⟨Vector.replicate 32 7⟩ := by
    cbv
  have htext : (⟨Vector.replicate 32 7⟩ : TransactionId).text = silentId := by
    cbv
  have hprompt (change : Nat) := prompt_changingNode change
  rw [← htext] at hprompt
  have hkeeps (change : Nat) := (waitForTransaction_keeps_time (changingNode change) hastyConfig
    silentId hastyOptions {} hinterval).2.2 _ change _ hkey (hprompt change)
  rw [htext] at hkeeps
  exact ⟨hinterval, ((hkeeps 201).1 (by decide)).2, (hkeeps 251).2 (by decide)⟩

end Remit.Node.Client
