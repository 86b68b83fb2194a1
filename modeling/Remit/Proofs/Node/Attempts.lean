import Remit.Node.Client

/-!
# The attempts of a request

What becomes of a request is told here without the loop of `Client.tryAgain`: when each attempt
would begin, what would become of it, and which attempt is the last. The attempts are numbered by
those before them, so that the one with number `k` is the attempt that errors count as `k + 1`.

* `run_tryAgain`: the loop stops at the first attempt that settles the matter, or at the last one
  that it may make.
* `execute_eq_of_attempts`: what `Client.execute` returns and sends.

The loop is played against an arbitrary node, which may answer every request in its own way, late
or not at all, whatever it answered before.
-/

namespace Remit

/-- The number of attempts can be counted by the errors that carry it. -/
theorem Config.attempts_lt_size (config : Config) : config.attempts < UInt32.size := by
  have hretries : config.retries.toNat < UInt32.size := config.retries.toNat_lt
  have hone : 1 < UInt32.size := by decide
  unfold attempts
  omega

namespace Node

variable {α : Type}

/-! ### Deliveries -/

/-- How long a client with the given patience waits. -/
def Delivery.wait (patience : Nat) : Delivery → Nat
  | arrives after _ => min after patience
  | lost => patience

theorem Delivery.after_reply (patience : Nat) (delivery : Delivery) :
    (delivery.reply patience).after = delivery.wait patience := by
  cases delivery with
  | lost => rfl
  | arrives after answer =>
    simp only [reply, wait]
    by_cases h : after ≤ patience
    · rw [if_pos h, Nat.min_eq_left h]
    · rw [if_neg h, Nat.min_eq_right (by omega)]

/-! ### Results -/

/-- No other attempt follows a success, or an error that is not a matter of network or time. -/
def Settles : Except Error α → Prop
  | .ok _ => True
  | .error (.network _ _) => False
  | .error (.timeout _ _ _) => False
  | .error _ => True

theorem settles_error_iff (e : Error) :
    Settles (.error e : Except Error α) ↔ e.isRetryable = false := by
  cases e <;> simp [Settles, Error.isRetryable]

instance : (result : Except Error α) → Decidable (Settles result)
  | .ok _ => .isTrue trivial
  | .error e => decidable_of_iff _ (settles_error_iff e).symm

/-- The second result is the first but for the count of attempts, which is `n`. -/
inductive Recounted (n : Nat) : Except Error α → Except Error α → Prop where
  | network (reason : String) (old : UInt32) {new : UInt32} (h : new.toNat = n) :
    Recounted n (.error (.network reason old)) (.error (.network reason new))
  | timeout (what : String) (afterMs : UInt64) (old : UInt32) {new : UInt32} (h : new.toNat = n) :
    Recounted n (.error (.timeout what afterMs old)) (.error (.timeout what afterMs new))

/-- The result with the number of attempts that were made. -/
def recount (n : Nat) (result : Except Error α) : Except Error α :=
  result.mapError (·.withAttempts (UInt32.ofNat n))

theorem recount_of_settles {result : Except Error α} (h : Settles result) (n : Nat) :
    recount n result = result := by
  cases result with
  | ok value => rfl
  | error e =>
    rw [settles_error_iff] at h
    exact congrArg Except.error (Error.withAttempts_of_not_isRetryable h _)

theorem recounted_recount {result : Except Error α} (h : ¬ Settles result) {n : Nat}
    (hn : n < UInt32.size) : Recounted n result (recount n result) := by
  have hcount : (UInt32.ofNat n).toNat = n := UInt32.toNat_ofNat_of_lt' hn
  cases result with
  | ok value => exact absurd trivial h
  | error e =>
    cases e with
    | network reason old => exact .network reason old hcount
    | timeout what afterMs old => exact .timeout what afterMs old hcount
    | _ => exact absurd trivial h

/-! ### Attempts -/

namespace Client

section Course

variable (node : Node) (config : Config) (request : Request) (session : Session)

/-- When an attempt begins: after the waits of those before it and the pauses between them. -/
def begins : Nat → Nat
  | 0 => session.now
  | k + 1 =>
    begins k
      + (node.deliver (session.sent.length + k) (begins k) request).wait config.timeoutMs.toNat
      + (config.backoff (UInt32.ofNat (k + 1))).toNat

/-- What becomes of the request in an attempt. -/
def delivery (k : Nat) : Delivery :=
  node.deliver (session.sent.length + k) (begins node config request session k) request

/-- **The outcome of an attempt**: what is read from the answer or the error of the transport if it
arrives in time, be it at the last moment, and that it is late otherwise. -/
def attempt (read : Reader α) (k : Nat) : Except Error α :=
  match delivery node config request session k with
  | .arrives after answer =>
    if after ≤ config.timeoutMs.toNat then
      match answer with
      | .ok response => read request.description response
      | .error e => .error e
    else .error (.timeout request.description config.timeoutMs (UInt32.ofNat (k + 1)))
  | .lost => .error (.timeout request.description config.timeoutMs (UInt32.ofNat (k + 1)))

/-- How things stand when an attempt begins. -/
def before (k : Nat) : Session :=
  ⟨begins node config request session k, session.sent ++ List.replicate k request⟩

/-- How things stand when an attempt is over. -/
def after (k : Nat) : Session :=
  ⟨begins node config request session k
      + (delivery node config request session k).wait config.timeoutMs.toNat,
    session.sent ++ List.replicate (k + 1) request⟩

end Course

variable {node : Node} {config : Config} {request : Request} {session : Session} {read : Reader α}

theorem outcome_delivery (k : Nat) :
    outcome config request read (k + 1)
        ((delivery node config request session k).reply config.timeoutMs.toNat).outcome =
      attempt node config request session read k := by
  unfold attempt
  cases delivery node config request session k with
  | lost => rfl
  | arrives after answer =>
    show outcome config request read (k + 1)
      (if after ≤ config.timeoutMs.toNat then Reply.mk after (some answer)
        else ⟨config.timeoutMs.toNat, none⟩).outcome = _
    by_cases h : after ≤ config.timeoutMs.toNat
    · rw [if_pos h]
      simp only [if_pos h]
      cases answer <;> rfl
    · rw [if_neg h]
      simp only [if_neg h]
      rfl

theorem handle_call_before (k : Nat) :
    node.handle (.call request config.timeoutMs.toNat) (before node config request session k) =
      ((delivery node config request session k).reply config.timeoutMs.toNat,
        after node config request session k) := by
  have hnumber : (session.sent ++ List.replicate k request).length = session.sent.length + k := by
    rw [List.length_append, List.length_replicate]
  simp only [handle, before, hnumber, Delivery.after_reply]
  rw [List.append_assoc, ← List.replicate_succ']
  rfl

/-! ### The loop -/

/-- One turn of the loop: the attempt is made, and unless it settles the matter or is the last, the
loop goes on from the start of the next. -/
theorem run_tryAgain_step (more k : Nat) :
    (tryAgain config request read more (k + 1)).run node.handle
        (before node config request session k) =
      if Settles (attempt node config request session read k) then
        (attempt node config request session read k, after node config request session k)
      else match more with
        | 0 => (recount (k + 1) (attempt node config request session read k),
            after node config request session k)
        | more + 1 => (tryAgain config request read more (k + 2)).run node.handle
            (before node config request session (k + 1)) := by
  rw [tryAgain, call, Activity.run_bind, Activity.run_perform, handle_call_before,
    outcome_delivery]
  cases attempt node config request session read k with
  | ok value => rfl
  | error e =>
    simp only [settles_error_iff]
    by_cases h : e.isRetryable = false
    · rw [if_pos h, h]
      rfl
    · rw [if_neg h, eq_true_of_ne_false h]
      cases more with
      | zero => rfl
      | succ more => rfl

/-- **The loop stops at the first attempt that settles the matter**, or at the last that it may
make. -/
theorem run_tryAgain (node : Node) (config : Config) (request : Request) (read : Reader α)
    (session : Session) (more k : Nat) :
    ∃ n, k ≤ n ∧ n ≤ k + more ∧
      (∀ j, k ≤ j → j < n → ¬ Settles (attempt node config request session read j)) ∧
      (Settles (attempt node config request session read n) ∨ n = k + more) ∧
      (tryAgain config request read more (k + 1)).run node.handle
          (before node config request session k) =
        (recount (n + 1) (attempt node config request session read n),
          after node config request session n) := by
  -- The induction is on the attempts that may follow; each turn moves the start to the next one.
  induction more generalizing k with
  | zero =>
    refine ⟨k, Nat.le_refl k, Nat.le_refl k, fun j hkj hjk => by omega, Or.inr rfl, ?_⟩
    rw [run_tryAgain_step]
    by_cases h : Settles (attempt node config request session read k)
    · rw [if_pos h, recount_of_settles h]
    · rw [if_neg h]
  | succ more ih =>
    by_cases h : Settles (attempt node config request session read k)
    · refine ⟨k, Nat.le_refl k, by omega, fun j hkj hjk => by omega, Or.inl h, ?_⟩
      rw [run_tryAgain_step, if_pos h, recount_of_settles h]
    · obtain ⟨n, hkn, hnk, hbefore, hlast, hrun⟩ := ih (k + 1)
      refine ⟨n, by omega, by omega, ?_, ?_, ?_⟩
      · -- The attempt just made has not settled the matter either.
        intro j hkj hjn
        by_cases hj : j = k
        · rw [hj]
          exact h
        · exact hbefore j (by omega) hjn
      · rcases hlast with hsettles | hn
        · exact Or.inl hsettles
        · exact Or.inr (by omega)
      · rw [run_tryAgain_step, if_neg h]
        exact hrun

theorem before_zero : before node config request session 0 = session := by
  unfold before
  rw [List.replicate_zero, List.append_nil]
  rfl

theorem run_execute (node : Node) (config : Config) (request : Request) (read : Reader α)
    (session : Session) :
    ∃ n < config.attempts,
      (∀ k < n, ¬ Settles (attempt node config request session read k)) ∧
      (Settles (attempt node config request session read n) ∨ n + 1 = config.attempts) ∧
      (execute config request read).run.run node.handle session =
        (recount (n + 1) (attempt node config request session read n),
          after node config request session n) := by
  have hpos : 0 < config.attempts := config.attempts_pos
  obtain ⟨n, -, hn, hbefore, hlast, hrun⟩ := run_tryAgain node config request read session
    (config.attempts - 1) 0
  rw [before_zero] at hrun
  refine ⟨n, by omega, fun k hk => hbefore k (Nat.zero_le k) hk, ?_, hrun⟩
  rcases hlast with hsettles | hend
  · exact Or.inl hsettles
  · exact Or.inr (by omega)

/-- **What a client does with a request**, for every node. If one of the attempts that it may make
settles the matter, the first such is the last that it makes, and the outcome is returned as it is.
Otherwise it makes them all and returns the last outcome with their number. Whatever it sends is
the request itself, once for each attempt. -/
theorem execute_eq_of_attempts (node : Node) (config : Config) (request : Request)
    (read : Reader α) (session : Session) :
    let outcome := attempt node config request session read
    let attempts := max config.retries.toNat 1
    let run := (execute config request read).run.run node.handle session
    (∀ n < attempts, Settles (outcome n) → (∀ k < n, ¬ Settles (outcome k)) →
      run.1 = outcome n ∧ run.2.sent = session.sent ++ List.replicate (n + 1) request) ∧
    ((∀ k < attempts, ¬ Settles (outcome k)) →
      Recounted attempts (outcome (attempts - 1)) run.1 ∧
        run.2.sent = session.sent ++ List.replicate attempts request) := by
  intro outcome attempts run
  obtain ⟨n, hn, hbefore, hlast, hrun⟩ := run_execute node config request read session
  have hattempts : config.attempts = attempts := rfl
  have hrun : run = _ := hrun
  rw [hattempts] at hn hlast
  rw [hrun]
  constructor
  · intro m hm hsettles hfirst
    -- Neither of the two first ones can come before the other.
    have hnm : n = m := by
      rcases Nat.lt_trichotomy n m with hlt | heq | hgt
      · rcases hlast with hsettles' | hend
        · exact absurd hsettles' (hfirst n hlt)
        · omega
      · exact heq
      · exact absurd hsettles (hbefore m hgt)
    subst hnm
    exact ⟨recount_of_settles hsettles _, rfl⟩
  · intro hnone
    have hend : n + 1 = attempts := by
      rcases hlast with hsettles | hend
      · exact absurd hsettles (hnone n hn)
      · exact hend
    have hsize : n + 1 < UInt32.size := by
      rw [hend, ← hattempts]
      exact config.attempts_lt_size
    rw [← hend, Nat.add_sub_cancel]
    exact ⟨recounted_recount (hnone n hn) hsize, rfl⟩

/-- An answer comes back in the third attempt, at the last moment, after one that was lost and one
that reached nobody. -/
example :
    let node : Node := ⟨fun index _ _ => match index with
      | 0 => .lost
      | 1 => .arrives 10 (.error (.network "refused" 7))
      | _ => .arrives 50 (.ok ⟨200, "done"⟩), fun now => ⟨now, 0⟩⟩
    let config : Config := { timeoutMs := 50, baseDelayMs := 5 }
    let run := (execute config (.get "/status") fun _ response => .ok response.body).run.run
      node.handle {}
    run.1 = .ok "done" ∧ run.2.now = 50 + 5 + 10 + 10 + 50 ∧
      run.2.sent.length = 3 := by
  cbv

end Client

end Node

end Remit
