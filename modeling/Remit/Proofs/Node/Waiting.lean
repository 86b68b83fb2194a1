import Mathlib
import Remit.Node.Polling
import Remit.Proofs.Node.Replies
import Remit.Proofs.Text.Grammar

/-!
# Waiting never lies and never overruns

A wait is told here without deadlines: each poll is the question `Client.transaction` as anyone may
ask it, with all the time it takes, and only afterwards is it compared with the time that was left.

* `cutAt_within`: an activity with a deadline is the activity itself if this one is over by then,
  and otherwise it is cut off at the deadline;
* `run_poll_cases`: one turn of the loop;
* `ends_of_run_poll`, `exists_run_poll`: how a run of the loop ends, and that it does;
* `waitForTransaction_ends`: what a wait returns, and when.

Every statement is about an arbitrary node. It may answer late, wrongly or never, and may let a
poll run out in the middle of an attempt or of the pause before the next one.
-/

namespace Remit.Node

variable {α : Type}

/-! ### Deadlines -/

theorem now_le_handle (node : Node) (op : Op) (session : Session) :
    session.now ≤ (node.handle op session).2.now := by
  cases op with
  | call request patience => exact Nat.le_add_right _ _
  | pause duration => exact Nat.le_add_right _ _
  | now => exact Nat.le_refl _

/-- Time does not go back. -/
theorem now_le_run (node : Node) (activity : Activity exchange α) (session : Session) :
    session.now ≤ (activity.run node.handle session).2.now := by
  induction activity generalizing session with
  | done value => exact Nat.le_refl _
  | ask op next ih => exact Nat.le_trans (now_le_handle node op session) (ih _ _)

/-- What comes back in time comes back whatever the patience. -/
theorem Delivery.reply_eq_reply {delivery : Delivery} {time patience : Nat}
    (hle : time ≤ patience) {answer : Except Error Response}
    (h : (delivery.reply time).outcome = some answer) :
    delivery.reply patience = delivery.reply time := by
  cases delivery with
  | lost => cases h
  | arrives after outcome =>
    simp only [reply] at h ⊢
    by_cases hafter : after ≤ time
    · rw [if_pos hafter, if_pos (Nat.le_trans hafter hle)]
    · rw [if_neg hafter] at h
      cases h

/-- Whoever has more patience than time, and hears nothing in this time, waits longer. -/
theorem Delivery.lt_after_reply {delivery : Delivery} {time patience : Nat}
    (hlt : time < patience) (h : (delivery.reply time).outcome = none) :
    time < (delivery.reply patience).after := by
  cases delivery with
  | lost => exact hlt
  | arrives after outcome =>
    simp only [reply] at h ⊢
    by_cases hafter : after ≤ time
    · rw [if_pos hafter] at h
      cases h
    · split
      · show time < after
        omega
      · exact hlt

/-- The second run is the first with a deadline: the same if this one is over by then, and cut off
at the deadline otherwise. The number is the time that is left. -/
inductive CutAt (deadline : Nat) (run : α × Session) : (Option α × Nat) × Session → Prop where
  | inTime (h : run.2.now ≤ deadline) :
    CutAt deadline run ((some run.1, deadline - run.2.now), run.2)
  | late (sent : List Request) (h : deadline < run.2.now) :
    CutAt deadline run ((none, 0), ⟨deadline, sent⟩)

/-- A request that would be waited for beyond the deadline is waited for until then. -/
theorem run_within_call_of_lt (node : Node) {request : Request} {time patience : Nat}
    (hlt : time < patience) (next : Reply → Activity exchange α) (session : Session) :
    (within time (.ask (I := exchange) (.call request patience) next)).run node.handle session =
      let reply := (node.deliver session.sent.length session.now request).reply time
      let heard : Session := ⟨session.now + reply.after, session.sent ++ [request]⟩
      match reply.outcome with
      | some _ => (within (time - reply.after) (next reply)).run node.handle heard
      | none => ((none, 0), heard) := by
  rw [within, if_neg (Nat.not_le.2 hlt), Activity.run_ask]
  cases h : ((node.deliver session.sent.length session.now request).reply time).outcome with
  | some answer => simp only [handle, h]
  | none => simp only [handle, h, Activity.run_done]

theorem cutAt_within (node : Node) (activity : Activity exchange α) (time : Nat)
    (session : Session) :
    CutAt (session.now + time) (activity.run node.handle session)
      ((within time activity).run node.handle session) := by
  induction activity generalizing time session with
  | done value =>
    have h : CutAt (session.now + time) (value, session)
        ((some value, session.now + time - session.now), session) := .inTime (Nat.le_add_right _ _)
    rwa [Nat.add_sub_cancel_left] at h
  | ask op next ih =>
    have hlater := now_le_run node (next (node.handle op session).1) (node.handle op session).2
    rw [Activity.run_ask]
    cases op with
    | now => exact ih _ time session
    | pause duration =>
      rw [within]
      by_cases hduration : duration ≤ time
      · rw [if_pos hduration]
        have h := ih () (time - duration) { session with now := session.now + duration }
        rwa [Nat.add_assoc, Nat.add_sub_cancel' hduration] at h
      · rw [if_neg hduration]
        refine .late session.sent (Nat.lt_of_lt_of_le ?_ hlater)
        show session.now + time < session.now + duration
        omega
    | call request patience =>
      set delivery := node.deliver session.sent.length session.now request
      by_cases hpatience : patience ≤ time
      · -- The request is waited for as long as without a deadline.
        have hafter : (delivery.reply patience).after ≤ time :=
          Nat.le_trans (Delivery.after_reply_le patience delivery) hpatience
        have h := ih (delivery.reply patience) (time - (delivery.reply patience).after)
          ⟨session.now + (delivery.reply patience).after, session.sent ++ [request]⟩
        rw [within, if_pos hpatience]
        rwa [Nat.add_assoc, Nat.add_sub_cancel' hafter] at h
      · have hlt : time < patience := Nat.not_le.1 hpatience
        rw [run_within_call_of_lt node hlt]
        dsimp only
        cases houtcome : (delivery.reply time).outcome with
        | some answer =>
          have hreply := Delivery.reply_eq_reply (Nat.le_of_lt hlt) houtcome
          have hafter := Delivery.after_reply_le time delivery
          have h := ih (delivery.reply time) (time - (delivery.reply time).after)
            ⟨session.now + (delivery.reply time).after, session.sent ++ [request]⟩
          rw [Nat.add_assoc, Nat.add_sub_cancel' hafter] at h
          show CutAt _ ((next (delivery.reply patience)).run node.handle
            ⟨session.now + (delivery.reply patience).after, session.sent ++ [request]⟩) _
          rw [hreply]
          exact h
        | none =>
          rw [Delivery.after_reply_of_outcome_eq_none houtcome]
          refine .late _ (Nat.lt_of_lt_of_le ?_ hlater)
          show session.now + time < session.now + (delivery.reply patience).after
          have hlate := Delivery.lt_after_reply hlt houtcome
          omega

section Deadline

variable {node : Node} {activity : Activity exchange α} {session after : Session} {value : α}
  {time : Nat}

theorem run_within_of_le (h : activity.run node.handle session = (value, after))
    (hle : after.now ≤ session.now + time) :
    (within time activity).run node.handle session =
      ((some value, session.now + time - after.now), after) := by
  have hcut := cutAt_within node activity time session
  rw [h] at hcut
  generalize (within time activity).run node.handle session = run at hcut ⊢
  cases hcut with
  | inTime hnow => rfl
  | late sent hnow => exact absurd hle (Nat.not_le.2 hnow)

theorem run_within_of_lt (h : session.now + time < (activity.run node.handle session).2.now) :
    ∃ sent, (within time activity).run node.handle session =
      ((none, 0), ⟨session.now + time, sent⟩) := by
  have hcut := cutAt_within node activity time session
  generalize (within time activity).run node.handle session = run at hcut ⊢
  cases hcut with
  | inTime hnow => exact absurd hnow (Nat.not_le.2 h)
  | late sent hnow => exact ⟨sent, rfl⟩

end Deadline

/-! ### Requests -/

/-- The activity begins with a request. -/
def Calls (activity : Activity exchange α) : Prop :=
  ∃ request patience next, activity = .ask (I := exchange) (.call request patience) next

theorem Calls.bind {β : Type} {activity : Activity exchange α} (h : Calls activity)
    (f : α → Activity exchange β) : Calls (activity >>= f) := by
  obtain ⟨request, patience, next, rfl⟩ := h
  exact ⟨request, patience, _, rfl⟩

theorem Calls.within {activity : Activity exchange α} (h : Calls activity) (time : Nat) :
    Calls (within time activity) := by
  obtain ⟨request, patience, next, rfl⟩ := h
  rw [Node.within]
  split
  · exact ⟨request, patience, _, rfl⟩
  · exact ⟨request, time, _, rfl⟩

theorem Calls.length_sent_lt {activity : Activity exchange α} (h : Calls activity) (node : Node)
    (session : Session) :
    session.sent.length < (activity.run node.handle session).2.sent.length := by
  obtain ⟨request, patience, next, rfl⟩ := h
  rcases hcall : node.handle (.call request patience) session with ⟨reply, heard⟩
  have hsent : heard.sent = session.sent ++ [request] := by
    have h := congrArg (fun heard => heard.2.sent) hcall
    exact h.symm
  have hlater := (sent_isPrefix_run node (next reply) heard).length_le
  rw [hsent, List.length_append, List.length_singleton] at hlater
  rw [Activity.run_ask, hcall]
  exact hlater

namespace Client

/-! ### Polls -/

section Course

variable (node : Node) (config : Config) (id : String) (options : WaitOptions)

/-- What a poll comes to if it may take all its time. -/
def ask (session : Session) : Except Error TransactionReport × Session :=
  (transaction config id).run.run node.handle session

/-- The poll with the given number, counted from zero, is due. Each of those before it brought a
report in time, though not a final one, and was followed by a pause, which was cut short if less
time was left. -/
inductive Polled (start : Session) : (polls : Nat) → Session → Prop where
  | start : Polled start 0 start
  | again {polls : Nat} {before after : Session} {report : TransactionReport}
      (earlier : Polled start polls before)
      (hask : ask node config id before = (.ok report, after))
      (hstatus : report.status = .pending ∨ report.status = .unknown)
      (hnow : after.now < start.now + options.timeoutMs.toNat) :
      Polled start (polls + 1) { after with
        now := after.now + min options.pollIntervalMs.toNat
          (start.now + options.timeoutMs.toNat - after.now) }

/-- The time is up, after so many polls if they can be counted. -/
inductive IsExpired (polls : Nat) : Except Error TransactionReport → Prop where
  | intro (attempts : UInt32) (h : polls < UInt32.size → attempts.toNat = polls) :
    IsExpired polls (.error (.timeout s!"transaction {id}" options.timeoutMs attempts))

/-- **How a wait ends** with a poll that is due in the session `last`, after so many others: with a
final report, with an error of the poll, or because the time is up. -/
inductive Ends (deadline polls : Nat) (last : Session) :
    Except Error TransactionReport → Session → Prop where
  | final {report : TransactionReport} {session : Session}
      (hask : ask node config id last = (.ok report, session))
      (hheard : HeardLast node (decodeEnvelope TransactionReport.decoder) session report)
      (hstatus : report.status = .confirmed ∨ report.status = .failed)
      (hnow : session.now ≤ deadline) :
      Ends deadline polls last (.ok report) session
  | failed {e : Error} {session : Session}
      (hask : ask node config id last = (.error e, session)) (hnow : session.now ≤ deadline) :
      Ends deadline polls last (.error e) session
  | cut {result : Except Error TransactionReport} {session : Session}
      (hresult : IsExpired id options (polls + 1) result)
      (hask : deadline < (ask node config id last).2.now) (hnow : session.now = deadline) :
      Ends deadline polls last result session
  | undecided {result : Except Error TransactionReport} {report : TransactionReport}
      {session : Session} (hresult : IsExpired id options (polls + 1) result)
      (hask : ask node config id last = (.ok report, session))
      (hstatus : report.status = .pending ∨ report.status = .unknown)
      (hnow : session.now = deadline) :
      Ends deadline polls last result session

/-- A wait returns, after however many polls. -/
def Returns (session : Session) (result : Except Error TransactionReport) (final : Session) :
    Prop :=
  ∃ more, (poll config id options more 0 options.timeoutMs.toNat).run node.handle session =
    (some result, final)

end Course

variable {node : Node} {config : Config} {id : String} {options : WaitOptions}
  {start session last final : Session} {result : Except Error TransactionReport}
  {report : TransactionReport}

theorem transaction_of_parse_eq_ok {key : TransactionId}
    (h : Identifier.parse .transaction id = .ok key) (config : Config) :
    transaction config id = get config s!"/transaction/{key.text}" TransactionReport.decoder := by
  unfold transaction
  rw [h]
  rfl

theorem transaction_of_not_isHexText (h : ¬ Hex.IsHexText 64 id) (config : Config) :
    (transaction config id).run = .done (.error (badTransactionId id)) := by
  unfold transaction
  cases hparse : Identifier.parse .transaction id with
  | ok key => exact absurd (Identifier.exists_parse_eq_ok_iff.1 ⟨key, hparse⟩) h
  | error e => rfl

theorem calls_transaction (h : Hex.IsHexText 64 id) (config : Config) :
    Calls (transaction config id).run := by
  obtain ⟨key, hkey⟩ := Identifier.exists_parse_eq_ok_iff.2 h
  rw [transaction_of_parse_eq_ok hkey]
  show Calls (tryAgain config _ _ _ 1)
  rw [tryAgain]
  exact Calls.bind ⟨_, _, _, rfl⟩ _

theorem isExpired_expired (id : String) (options : WaitOptions) (polls : Nat) :
    IsExpired id options polls (.error (expired id options polls)) :=
  .intro _ fun h => UInt32.toNat_ofNat_of_lt' h

theorem isFinal_eq_true_iff {status : TransactionStatus} :
    status.isFinal = true ↔ status = .confirmed ∨ status = .failed := by
  cases status <;> decide

theorem isFinal_eq_false_iff {status : TransactionStatus} :
    status.isFinal = false ↔ status = .pending ∨ status = .unknown := by
  cases status <;> decide

theorem heardLast_of_ask (h : ask node config id session = (.ok report, final)) :
    HeardLast node (decodeEnvelope TransactionReport.decoder) final report := by
  by_cases hid : Hex.IsHexText 64 id
  · obtain ⟨key, hkey⟩ := Identifier.exists_parse_eq_ok_iff.2 hid
    rw [ask, transaction_of_parse_eq_ok hkey] at h
    exact heardLast_of_run_execute h
  · rw [ask, transaction_of_not_isHexText hid] at h
    cases h

/-! ### One turn of the loop -/

section Turn

variable {more polls time : Nat} {after : Session}

theorem run_poll_of_lt (h : session.now + time < (ask node config id session).2.now) :
    ∃ sent, ∀ more, (poll config id options (more + 1) polls time).run node.handle session =
      (some (.error (expired id options (polls + 1))), ⟨session.now + time, sent⟩) := by
  obtain ⟨sent, hcut⟩ := run_within_of_lt h
  refine ⟨sent, fun more => ?_⟩
  rw [poll, Activity.run_bind, hcut]
  rfl

theorem run_poll_of_error {e : Error} (h : ask node config id session = (.error e, after))
    (hle : after.now ≤ session.now + time) (more : Nat) :
    (poll config id options (more + 1) polls time).run node.handle session =
      (some (.error e), after) := by
  rw [poll, Activity.run_bind, run_within_of_le h hle]
  rfl

theorem run_poll_of_isFinal (h : ask node config id session = (.ok report, after))
    (hle : after.now ≤ session.now + time) (hfinal : report.status.isFinal = true) (more : Nat) :
    (poll config id options (more + 1) polls time).run node.handle session =
      (some (.ok report), after) := by
  rw [poll, Activity.run_bind, run_within_of_le h hle]
  dsimp only
  rw [if_pos hfinal]
  rfl

theorem run_poll_of_eq (h : ask node config id session = (.ok report, after))
    (heq : after.now = session.now + time) (hopen : report.status.isFinal = false) (more : Nat) :
    (poll config id options (more + 1) polls time).run node.handle session =
      (some (.error (expired id options (polls + 1))), after) := by
  rw [poll, Activity.run_bind, run_within_of_le h (Nat.le_of_eq heq)]
  dsimp only
  rw [if_neg (by rw [hopen]; decide), if_pos (by omega)]
  rfl

theorem run_poll_again (h : ask node config id session = (.ok report, after))
    (hlt : after.now < session.now + time) (hopen : report.status.isFinal = false) (more : Nat) :
    (poll config id options (more + 1) polls time).run node.handle session =
      let left := session.now + time - after.now
      let duration := min options.pollIntervalMs.toNat left
      (poll config id options more (polls + 1) (left - duration)).run node.handle
        { after with now := after.now + duration } := by
  rw [poll, Activity.run_bind, run_within_of_le h (Nat.le_of_lt hlt)]
  dsimp only
  rw [if_neg (by rw [hopen]; decide), if_neg (by omega)]
  rfl

/-- **One turn**: the wait ends with this poll, or the poll brings a report that is not final and
there is still time. -/
theorem run_poll_cases (node : Node) (config : Config) (id : String) (options : WaitOptions)
    (polls time : Nat) (session : Session) :
    (∃ result final,
      Ends node config id options (session.now + time) polls session result final ∧
      ∀ more, (poll config id options (more + 1) polls time).run node.handle session =
        (some result, final)) ∨
    ∃ report after, ask node config id session = (.ok report, after) ∧
      (report.status = .pending ∨ report.status = .unknown) ∧ after.now < session.now + time ∧
      ∀ more, (poll config id options (more + 1) polls time).run node.handle session =
        let left := session.now + time - after.now
        let duration := min options.pollIntervalMs.toNat left
        (poll config id options more (polls + 1) (left - duration)).run node.handle
          { after with now := after.now + duration } := by
  have hexpired := isExpired_expired id options (polls + 1)
  -- The poll is first looked at with all the time it takes, and only then held against the
  -- deadline.
  rcases hask : ask node config id session with ⟨answer, after⟩
  rcases Nat.lt_or_ge (session.now + time) after.now with hlate | hle
  · have hcut : session.now + time < (ask node config id session).2.now := by
      rw [hask]
      exact hlate
    obtain ⟨sent, hrun⟩ := run_poll_of_lt hcut
    exact Or.inl ⟨_, _, .cut hexpired hcut rfl, hrun⟩
  · cases answer with
    | error e => exact Or.inl ⟨_, _, .failed hask hle, run_poll_of_error hask hle⟩
    | ok report =>
      cases hstatus : report.status.isFinal with
      | true =>
        have hend := isFinal_eq_true_iff.1 hstatus
        exact Or.inl ⟨_, _, .final hask (heardLast_of_ask hask) hend hle,
          run_poll_of_isFinal hask hle hstatus⟩
      | false =>
        have hopen := isFinal_eq_false_iff.1 hstatus
        rcases Nat.lt_or_eq_of_le hle with hlt | heq
        · exact Or.inr ⟨report, after, rfl, hopen, hlt, run_poll_again hask hlt hstatus⟩
        · exact Or.inl ⟨_, _, .undecided hexpired hask hopen heq, run_poll_of_eq hask heq hstatus⟩

end Turn

/-! ### The loop -/

/-- What the loop returns is how the wait ends. The time that has passed and the time that is left
to the loop are the time that was given to the wait. -/
theorem ends_of_run_poll {more polls time : Nat}
    (hpolled : Polled node config id options start polls session)
    (htime : session.now + time = start.now + options.timeoutMs.toNat)
    (hrun : (poll config id options more polls time).run node.handle session =
      (some result, final)) :
    let deadline := start.now + options.timeoutMs.toNat
    ∃ polls last, Polled node config id options start polls last ∧
      Ends node config id options deadline polls last result final := by
  -- The induction is on the polls that may follow, and `htime` keeps the deadline where it is.
  intro deadline
  induction more generalizing polls time session with
  | zero => cases hrun
  | succ more ih =>
    rcases run_poll_cases node config id options polls time session with
      ⟨_, _, hends, hturn⟩ | ⟨report, after, hask, hopen, hlt, hturn⟩
    · rw [hturn] at hrun
      cases hrun
      rw [htime] at hends
      exact ⟨polls, session, hpolled, hends⟩
    · rw [hturn, htime] at hrun
      rw [htime] at hlt
      refine ih (.again hpolled hask hopen hlt) ?_ hrun
      dsimp only
      omega

/-- Every pause takes some of the time, so more polls than there are milliseconds are enough. -/
theorem exists_run_poll (node : Node) (config : Config) (id : String)
    (hinterval : 0 < options.pollIntervalMs.toNat) {more polls time : Nat} (hmore : time < more)
    (session : Session) :
    ∃ result final, (poll config id options more polls time).run node.handle session =
      (some result, final) := by
  induction more generalizing polls time session with
  | zero => exact absurd hmore (Nat.not_lt_zero time)
  | succ more ih =>
    rcases run_poll_cases node config id options polls time session with
      ⟨result, final, -, hturn⟩ | ⟨report, after, hask, -, hlt, hturn⟩
    · exact ⟨result, final, hturn more⟩
    · -- Neither the poll nor the pause gives time back, and the pause takes some.
      have hnow : session.now ≤ after.now := by
        have h := now_le_run node (transaction config id).run session
        rwa [show (transaction config id).run.run node.handle session = _ from hask] at h
      rw [hturn]
      exact ih (by omega) _

theorem length_sent_lt_of_run_poll (hid : Hex.IsHexText 64 id) {more polls time : Nat}
    (hrun : (poll config id options more polls time).run node.handle session =
      (some result, final)) :
    session.sent.length < final.sent.length := by
  cases more with
  | zero => cases hrun
  | succ more =>
    have hcalls : Calls (poll config id options (more + 1) polls time) := by
      rw [poll]
      exact ((calls_transaction hid config).within time).bind _
    have hlength := hcalls.length_sent_lt node session
    rw [hrun] at hlength
    exact hlength

theorem eq_of_run_poll_of_not_isHexText (hid : ¬ Hex.IsHexText 64 id) {more polls time : Nat}
    (hrun : (poll config id options more polls time).run node.handle session =
      (some result, final)) :
    result = .error (badTransactionId id) ∧ final = session := by
  cases more with
  | zero => cases hrun
  | succ more =>
    rw [poll, transaction_of_not_isHexText hid] at hrun
    cases hrun
    exact ⟨rfl, rfl⟩

/-- Whatever comes back, the loop asks for nothing but the transaction. -/
theorem sendsOnly_poll {key : TransactionId} (hkey : Identifier.parse .transaction id = .ok key)
    (config : Config) (options : WaitOptions) (more polls time : Nat) :
    SendsOnly (.get s!"/transaction/{key.text}") (poll config id options more polls time) := by
  have hask : SendsOnly (.get s!"/transaction/{key.text}") (transaction config id).run := by
    rw [transaction_of_parse_eq_ok hkey]
    exact sendsOnly_tryAgain config _ _ _ 1
  have hpause (duration : Nat) : SendsOnly (.get s!"/transaction/{key.text}") (pause duration) :=
    trivial
  induction more generalizing polls time with
  | zero => trivial
  | succ more ih =>
    rw [poll]
    refine (hask.within time).bind fun ⟨answer, left⟩ => ?_
    dsimp only
    split
    · trivial
    · trivial
    · split
      · trivial
      · split
        · trivial
        · exact (hpause _).bind fun _ => ih _ _

theorem Ends.now_le {deadline polls : Nat}
    (h : Ends node config id options deadline polls last result final) : final.now ≤ deadline := by
  cases h with
  | final _ _ _ hnow => exact hnow
  | failed _ hnow => exact hnow
  | cut _ _ hnow => exact Nat.le_of_eq hnow
  | undecided _ _ _ hnow => exact Nat.le_of_eq hnow

/-- **A wait never lies and never overruns.** Whenever it returns, it does so by its deadline. A
malformed id is refused, and nothing is sent; any other is asked for, until a poll brings a final
report or an error, which is returned as it is, or the time is up to the millisecond. And it does
return, if there is any pause between the polls. -/
theorem waitForTransaction_ends (node : Node) (config : Config) (id : String)
    (options : WaitOptions) (session : Session) :
    let deadline := session.now + options.timeoutMs.toNat
    (∀ result final, Returns node config id options session result final →
      final.now ≤ deadline ∧
      (¬ Hex.IsHexText 64 id → result = .error (badTransactionId id) ∧ final = session) ∧
      (Hex.IsHexText 64 id → session.sent.length < final.sent.length ∧
        ∃ polls last, Polled node config id options session polls last ∧
          Ends node config id options deadline polls last result final)) ∧
    (∀ result final,
      (waitForTransaction config id options).run node.handle session = (some result, final) →
      Returns node config id options session result final) ∧
    (0 < options.pollIntervalMs → ∃ result final,
      (waitForTransaction config id options).run node.handle session =
        (some result, final)) := by
  intro deadline
  refine ⟨?_, fun result final hrun => ⟨enoughPolls, hrun⟩, ?_⟩
  · rintro result final ⟨more, hrun⟩
    obtain ⟨polls, last, hpolled, hends⟩ := ends_of_run_poll .start rfl hrun
    refine ⟨hends.now_le, fun hid => ?_, fun hid => ?_⟩
    · exact eq_of_run_poll_of_not_isHexText hid hrun
    · exact ⟨length_sent_lt_of_run_poll hid hrun, polls, last, hpolled, hends⟩
  · intro hinterval
    have henough : options.timeoutMs.toNat < enoughPolls :=
      Nat.lt_succ_of_lt options.timeoutMs.toNat_lt
    exact exists_run_poll node config id hinterval henough session

/-- The id of a transaction. -/
def silentId : String := "0707070707070707070707070707070707070707070707070707070707070707"

/-- A node that has heard of the transaction once, and says nothing from then on. -/
def silentNode : Node where
  deliver index _ _ := match index with
    | 0 => .arrives 10 (.ok ⟨200, "\x7b\"success\": true, \"data\": \x7b\"tx_id\": \"" ++
        silentId ++ "\", \"status\": \"pending\"\x7d\x7d"⟩)
    | _ => .lost
  clock now := ⟨now, 0⟩

/-- A client that is soon out of patience. -/
def hastyConfig : Config := { timeoutMs := 30, retries := 3, baseDelayMs := 100 }

/-- A wait of a quarter of a second. -/
def hastyOptions : WaitOptions := { timeoutMs := 250, pollIntervalMs := 100 }

/-- The second poll begins after 110 milliseconds, and the time is up in its second attempt. -/
theorem waitForTransaction_ends_silent :
    let result := .error (.timeout s!"transaction {silentId}" 250 2)
    let final : Session := ⟨250, List.replicate 3 (.get s!"/transaction/{silentId}")⟩
    Hex.IsHexText 64 silentId ∧
    Returns silentNode hastyConfig silentId hastyOptions {} result final ∧
    ∃ polls last, Polled silentNode hastyConfig silentId hastyOptions {} polls last ∧
      Ends silentNode hastyConfig silentId hastyOptions 250 polls last result final := by
  have hparse : Identifier.parse .transaction silentId = .ok ⟨Vector.replicate 32 7⟩ := by
    cbv
  have hid : Hex.IsHexText 64 silentId := Identifier.exists_parse_eq_ok_iff.1 ⟨_, hparse⟩
  have hreturns : Returns silentNode hastyConfig silentId hastyOptions {}
      (.error (.timeout s!"transaction {silentId}" 250 2))
      ⟨250, List.replicate 3 (.get s!"/transaction/{silentId}")⟩ := by
    refine ⟨5, ?_⟩
    cbv
  have h := (waitForTransaction_ends silentNode hastyConfig silentId hastyOptions {}).1 _ _ hreturns
  exact ⟨hid, hreturns, (h.2.2 hid).2⟩

end Client

end Remit.Node
