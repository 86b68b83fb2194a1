import Remit.Proofs.Node.Attempts

/-!
# What a client has heard

A client that has a result has it from a reply, and the reply is the one to the last request that
it sent. `HeardLast` says this of the session in which it has the result. How many requests it
took is bounded by the configuration, whatever the result.

* `run_execute_sent`: a request is sent at least once, at most as often as it may be, and nothing
  else is;
* `heardLast_of_run_execute`: a value is read from the reply to the last request;
* `sent_isPrefix_run`: what was sent stays sent;
* `SendsOnly.run`: an activity that has only one request to send sends it some number of times.
-/

namespace Remit.Node

variable {α : Type}

/-- **The last request was answered**: the answer came in just when the session ends, and the value
is what is read from it. -/
def HeardLast (node : Node) (read : Reader α) (session : Session) (value : α) : Prop :=
  ∃ earlier request start delay response,
    session.sent = earlier ++ [request] ∧ session.now = start + delay ∧
      node.deliver earlier.length start request = .arrives delay (.ok response) ∧
      read request.description response = .ok value

/-- What was sent before an activity is not changed by it. -/
theorem sent_isPrefix_run (node : Node) (activity : Activity exchange α) (session : Session) :
    session.sent <+: (activity.run node.handle session).2.sent := by
  induction activity generalizing session with
  | done value => exact List.prefix_rfl
  | ask op next ih =>
    rw [Activity.run_ask]
    refine List.IsPrefix.trans ?_ (ih _ _)
    cases op with
    | call request patience => exact List.prefix_append _ _
    | pause duration => exact List.prefix_rfl
    | now => exact List.prefix_rfl

/-! ### Repeating a request -/

/-- The activity sends no other request, whatever it is answered. -/
def SendsOnly (request : Request) : Activity exchange α → Prop
  | .done _ => True
  | .ask (.call other _) next => other = request ∧ ∀ reply, SendsOnly request (next reply)
  | .ask (.pause _) next => SendsOnly request (next ())
  | .ask .now next => ∀ instant, SendsOnly request (next instant)

namespace SendsOnly

variable {request : Request}

theorem bind {β : Type} {activity : Activity exchange α} (h : SendsOnly request activity)
    {f : α → Activity exchange β} (hf : ∀ value, SendsOnly request (f value)) :
    SendsOnly request (activity >>= f) := by
  induction activity with
  | done value => exact hf value
  | ask op next ih =>
    cases op with
    | call other patience => exact ⟨h.1, fun reply => ih reply (h.2 reply)⟩
    | pause duration => exact ih () h
    | now => exact fun instant => ih instant (h instant)

/-- A deadline adds no requests. -/
theorem within {activity : Activity exchange α} (h : SendsOnly request activity) (time : Nat) :
    SendsOnly request (within time activity) := by
  induction activity generalizing time with
  | done value => trivial
  | ask op next ih =>
    cases op with
    | call other patience =>
      rw [Node.within]
      split
      · exact ⟨h.1, fun reply => ih reply (h.2 reply) _⟩
      · refine ⟨h.1, fun reply => ?_⟩
        dsimp only
        split
        · exact ih reply (h.2 reply) _
        · trivial
    | pause duration =>
      rw [Node.within]
      split
      · exact ih () h _
      · trivial
    | now => exact fun instant => ih instant (h instant) time

theorem run {activity : Activity exchange α} (h : SendsOnly request activity) (node : Node)
    (session : Session) :
    ∃ count, (activity.run node.handle session).2.sent =
      session.sent ++ List.replicate count request := by
  induction activity generalizing session with
  | done value => exact ⟨0, (List.append_nil _).symm⟩
  | ask op next ih =>
    rw [Activity.run_ask]
    cases op with
    | call other patience =>
      obtain ⟨rfl, hnext⟩ := h
      obtain ⟨count, hcount⟩ := ih _ (hnext _) (node.handle (.call other patience) session).2
      refine ⟨count + 1, ?_⟩
      rw [hcount, List.replicate_succ]
      exact List.append_assoc session.sent [other] _
    | pause duration => exact ih () h _
    | now => exact ih _ (h _) _

end SendsOnly

theorem sendsOnly_call (request : Request) (patience : Nat) :
    SendsOnly request (call request patience) :=
  ⟨rfl, fun _ => trivial⟩

theorem sendsOnly_tryAgain (config : Config) (request : Request) (read : Reader α)
    (more k : Nat) : SendsOnly request (Client.tryAgain config request read more k) := by
  induction more generalizing k with
  | zero =>
    rw [Client.tryAgain]
    refine (sendsOnly_call request _).bind fun reply => ?_
    split
    · trivial
    · split
      · trivial
      · trivial
  | succ more ih =>
    rw [Client.tryAgain]
    refine (sendsOnly_call request _).bind fun reply => ?_
    split
    · trivial
    · split
      · trivial
      · exact ih (k + 1)

namespace Client

variable {node : Node} {config : Config} {request : Request} {read : Reader α}
  {session final : Session} {value : α}

theorem run_execute_sent (node : Node) (config : Config) (request : Request) (read : Reader α)
    (session : Session) :
    ∃ count, 1 ≤ count ∧ count ≤ max config.retries.toNat 1 ∧
      ((execute config request read).run.run node.handle session).2.sent =
        session.sent ++ List.replicate count request := by
  obtain ⟨n, hn, -, -, hrun⟩ := run_execute node config request read session
  refine ⟨n + 1, Nat.le_add_left 1 n, hn, ?_⟩
  rw [hrun]
  rfl

theorem eq_ok_of_recount {n : Nat} {result : Except Error α} (h : recount n result = .ok value) :
    result = .ok value := by
  cases result with
  | ok other => exact h
  | error e => cases h

/-- An attempt succeeds only with an answer that arrives in time. -/
theorem delivery_of_attempt_eq_ok {k : Nat}
    (h : attempt node config request session read k = .ok value) :
    ∃ delay response, delivery node config request session k = .arrives delay (.ok response) ∧
      delay ≤ config.timeoutMs.toNat ∧ read request.description response = .ok value := by
  unfold attempt at h
  cases hdelivery : delivery node config request session k with
  | lost => rw [hdelivery] at h; cases h
  | arrives delay answer =>
    rw [hdelivery] at h
    dsimp only at h
    by_cases hdelay : delay ≤ config.timeoutMs.toNat
    · rw [if_pos hdelay] at h
      cases answer with
      | error e => cases h
      | ok response => exact ⟨delay, response, rfl, hdelay, h⟩
    · rw [if_neg hdelay] at h
      cases h

/-- **A value is read from the reply to the last request.** -/
theorem heardLast_of_run_execute
    (h : (execute config request read).run.run node.handle session = (.ok value, final)) :
    HeardLast node read final value := by
  obtain ⟨n, -, -, -, hrun⟩ := run_execute node config request read session
  rw [hrun] at h
  obtain ⟨hvalue, rfl⟩ := Prod.mk.inj h
  obtain ⟨delay, response, hdelivery, hdelay, hread⟩ :=
    delivery_of_attempt_eq_ok (eq_ok_of_recount hvalue)
  refine ⟨session.sent ++ List.replicate n request, request,
    begins node config request session n, delay, response, ?_, ?_, ?_, hread⟩
  · show session.sent ++ List.replicate (n + 1) request = _
    rw [List.replicate_succ', List.append_assoc]
  · show _ + (delivery node config request session n).wait config.timeoutMs.toNat = _
    rw [hdelivery]
    show _ + min delay _ = _
    rw [Nat.min_eq_left hdelay]
  · rw [List.length_append, List.length_replicate]
    exact hdelivery

end Client

end Remit.Node
