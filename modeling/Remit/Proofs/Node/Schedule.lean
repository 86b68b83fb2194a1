import Mathlib
import Remit.Proofs.Node.Attempts

/-!
# The schedule of attempts

How long a request takes. The pause after an attempt is counted in numbers without a bound
(`Config.toNat_backoff_eq_min`), so that it is plain arithmetic that it doubles, where it stops to
do so, and that it never becomes shorter. When each attempt begins is then a sum over those before
it (`Client.begins_eq_sum`).

`Client.departures` looks at a run from outside and notes when requests leave. It shows that no
time passes before the first attempt, and that every pause lies between two attempts.

* `Config.backoff_le_backoff`, `Config.toNat_backoff_succ`: pauses grow, and each is twice the last;
* `Client.exists_onSchedule`: when the requests of a run leave, and when the run is over;
* `Client.schedule_exact`: both together.
-/

namespace Remit

/-! ### Pauses -/

namespace Config

variable (config : Config)

/-- The base, doubled with every attempt but the first, 31 times at most. -/
theorem toNat_backoff_eq_min (attempt : UInt32) :
    (config.backoff attempt).toNat =
      min (config.baseDelayMs.toNat * 2 ^ min (max attempt.toNat 1 - 1) 31) (2 ^ 64 - 1) := by
  have hcount : max attempt.toNat 1 - 1 = attempt.toNat - 1 := by omega
  rw [toNat_backoff, hcount]
  rfl

theorem backoff_le_backoff {a b : UInt32} (hle : a ≤ b) : config.backoff a ≤ config.backoff b := by
  have hcount : a.toNat ≤ b.toNat := UInt32.le_iff_toNat_le.1 hle
  have hpower : 2 ^ min (max a.toNat 1 - 1) 31 ≤ 2 ^ min (max b.toNat 1 - 1) 31 :=
    Nat.pow_le_pow_right (by decide) (by omega)
  have hproduct := Nat.mul_le_mul_left config.baseDelayMs.toNat hpower
  rw [UInt64.le_iff_toNat_le, toNat_backoff_eq_min, toNat_backoff_eq_min]
  omega

/-- **The pause doubles**, unless it is at the largest word, or after 32 attempts. -/
theorem toNat_backoff_succ {attempt : UInt32} (hone : 1 ≤ attempt) (hlast : attempt < 32) :
    (config.backoff (attempt + 1)).toNat =
      min (2 * (config.backoff attempt).toNat) (2 ^ 64 - 1) := by
  have hlow : 1 ≤ attempt.toNat := UInt32.le_iff_toNat_le.1 hone
  have hhigh : attempt.toNat < 32 := UInt32.lt_iff_toNat_lt.1 hlast
  have hnext : (attempt + 1).toNat = attempt.toNat + 1 := by
    rw [UInt32.toNat_add]
    show (attempt.toNat + 1) % 2 ^ 32 = _
    omega
  have hexponent : min (max (attempt.toNat + 1) 1 - 1) 31 =
      min (max attempt.toNat 1 - 1) 31 + 1 := by omega
  rw [toNat_backoff_eq_min, toNat_backoff_eq_min, hnext, hexponent, Nat.pow_succ, ← Nat.mul_assoc]
  omega

theorem backoff_of_le {attempt : UInt32} (h : 32 ≤ attempt) :
    config.backoff attempt = config.backoff 32 := by
  have hcount : 32 ≤ attempt.toNat := UInt32.le_iff_toNat_le.1 h
  have hexponent : min (max attempt.toNat 1 - 1) 31 = 31 := by omega
  apply UInt64.toNat_inj.1
  rw [toNat_backoff_eq_min, toNat_backoff_eq_min, hexponent]
  rfl

theorem baseDelayMs_le_backoff (attempt : UInt32) :
    config.baseDelayMs ≤ config.backoff attempt := by
  have hfits : config.baseDelayMs.toNat < 2 ^ 64 := config.baseDelayMs.toNat_lt
  have hproduct : config.baseDelayMs.toNat ≤
      config.baseDelayMs.toNat * 2 ^ min (max attempt.toNat 1 - 1) 31 :=
    Nat.le_mul_of_pos_right _ (Nat.two_pow_pos _)
  rw [UInt64.le_iff_toNat_le, toNat_backoff_eq_min]
  omega

end Config

namespace Node

open Finset

variable {α β : Type}

/-! ### Waits -/

/-- How long it takes until something comes back. -/
def Delivery.duration : Delivery → ℕ∞
  | arrives after _ => after
  | lost => ⊤

theorem Delivery.natCast_wait (patience : Nat) (delivery : Delivery) :
    (delivery.wait patience : ℕ∞) = min delivery.duration patience := by
  cases delivery with
  | arrives after answer => exact Nat.mono_cast.map_min
  | lost => exact (min_eq_right le_top).symm

namespace Client

variable (node : Node) (config : Config) (request : Request) (session : Session)

/-- The pauses before an attempt are those after the attempts before it. -/
theorem begins_eq_sum (k : Nat) :
    begins node config request session k = session.now
      + ∑ j ∈ range k, (delivery node config request session j).wait config.timeoutMs.toNat
      + ∑ j ∈ Ico 1 (k + 1), (config.backoff (UInt32.ofNat j)).toNat := by
  induction k with
  | zero => rfl
  | succ k ih =>
    have hstep : begins node config request session (k + 1) =
        begins node config request session k
          + (delivery node config request session k).wait config.timeoutMs.toNat
          + (config.backoff (UInt32.ofNat (k + 1))).toNat := rfl
    rw [hstep, ih, sum_range_succ, sum_Ico_succ_top (Nat.le_add_left 1 k)]
    omega

/-! ### Departures -/

/-- When requests leave during a run. -/
def departures (node : Node) : Activity exchange α → Session → List Nat
  | .done _, _ => []
  | .ask (.call request patience) next, session =>
    session.now :: departures node (next (node.handle (.call request patience) session).1)
      (node.handle (.call request patience) session).2
  | .ask (.pause duration) next, session =>
    departures node (next ()) (node.handle (.pause duration) session).2
  | .ask .now next, session => departures node (next (node.clock session.now)) session

theorem departures_bind (activity : Activity exchange α) (f : α → Activity exchange β) :
    departures node (activity >>= f) session = departures node activity session ++
      departures node (f (activity.run node.handle session).1)
        (activity.run node.handle session).2 := by
  induction activity generalizing session with
  | done value => rfl
  | ask op next ih =>
    cases op with
    | call request patience => exact congrArg (session.now :: ·) (ih _ _)
    | pause duration => exact ih _ _
    | now => exact ih _ _

variable {config request session} {read : Reader α}

/-- One turn of the loop: the request leaves as the turn begins. -/
theorem departures_tryAgain_step (more k : Nat) :
    departures node (tryAgain config request read more (k + 1))
        (before node config request session k) =
      begins node config request session k ::
        if Settles (attempt node config request session read k) then []
        else match more with
          | 0 => []
          | more + 1 => departures node (tryAgain config request read more (k + 2))
            (before node config request session (k + 1)) := by
  rw [tryAgain, departures_bind, call, Activity.run_perform, handle_call_before, outcome_delivery]
  refine congrArg (begins node config request session k :: ·) ?_
  cases attempt node config request session read k with
  | ok value => rfl
  | error e =>
    simp only [settles_error_iff]
    by_cases h : e.isRetryable = false
    · rw [if_pos h, h]
      rfl
    · rw [if_neg h, eq_true_of_ne_false h]
      cases more with
      | zero => rfl
      | succ more => rfl

/-- **Requests leave when attempts begin**, from the first attempt of the loop to its last. -/
theorem departures_tryAgain (config : Config) (request : Request) (read : Reader α)
    (session : Session) (more k : Nat) :
    ∃ n, k ≤ n ∧ n ≤ k + more ∧
      ((tryAgain config request read more (k + 1)).run node.handle
        (before node config request session k)).2 = after node config request session n ∧
      departures node (tryAgain config request read more (k + 1))
          (before node config request session k) =
        (List.range' k (n + 1 - k)).map (begins node config request session) := by
  -- The induction is that of `run_tryAgain`: on the attempts that may follow.
  induction more generalizing k with
  | zero =>
    refine ⟨k, Nat.le_refl k, Nat.le_refl k, ?_, ?_⟩
    · rw [run_tryAgain_step]
      split
      · rfl
      · rfl
    · rw [departures_tryAgain_step, Nat.add_sub_cancel_left]
      simp
  | succ more ih =>
    by_cases h : Settles (attempt node config request session read k)
    · refine ⟨k, Nat.le_refl k, Nat.le_add_right k _, ?_, ?_⟩
      · rw [run_tryAgain_step, if_pos h]
      · rw [departures_tryAgain_step, if_pos h, Nat.add_sub_cancel_left]
        rfl
    · obtain ⟨n, hkn, hnk, hrun, hdepartures⟩ := ih (k + 1)
      refine ⟨n, by omega, by omega, ?_, ?_⟩
      · rw [run_tryAgain_step, if_neg h]
        exact hrun
      · have hcount : n + 1 - k = (n + 1 - (k + 1)) + 1 := by omega
        rw [departures_tryAgain_step, if_neg h, hcount, List.range'_succ, List.map_cons]
        exact congrArg _ hdepartures

/-! ### A run -/

/-- How long it takes until something comes back to each attempt, if they begin at these times. -/
def took (node : Node) (request : Request) (session : Session) (start : Nat → Nat) (k : Nat) : ℕ∞ :=
  (node.deliver (session.sent.length + k) (start k) request).duration

/-- **The schedule of a run** of `n` attempts which begin at the times `start`. An attempt ends when
something comes back, or else when the client runs out of patience. Between an attempt and the next
there is the pause that is due, and nothing but this. -/
structure OnSchedule (node : Node) (config : Config) (request : Request) (n : Nat)
    (start : Nat → Nat) (departed : List Nat) (session final : Session) : Prop where
  sent : final.sent = session.sent ++ List.replicate n request
  departed_eq : departed = (List.range n).map start
  start_eq : ∀ k < n, (start k : ℕ∞) = session.now
    + ∑ j ∈ range k, min (took node request session start j) config.timeoutMs.toNat
    + ∑ j ∈ Ico 1 (k + 1), ((config.backoff (UInt32.ofNat j)).toNat : ℕ∞)
  now_eq : (final.now : ℕ∞) = session.now
    + ∑ k ∈ range n, min (took node request session start k) config.timeoutMs.toNat
    + ∑ k ∈ Ico 1 n, ((config.backoff (UInt32.ofNat k)).toNat : ℕ∞)

theorem natCast_begins (k : Nat) :
    (begins node config request session k : ℕ∞) = session.now
      + ∑ j ∈ range k, min (took node request session (begins node config request session) j)
          config.timeoutMs.toNat
      + ∑ j ∈ Ico 1 (k + 1), ((config.backoff (UInt32.ofNat j)).toNat : ℕ∞) := by
  rw [begins_eq_sum, Nat.cast_add, Nat.cast_add, Nat.cast_sum, Nat.cast_sum]
  refine congrArg (· + _) (congrArg (_ + ·) (sum_congr rfl fun j _ => ?_))
  exact Delivery.natCast_wait _ _

/-- When an attempt is over, its own wait has been added, and no pause. -/
theorem natCast_now_after (k : Nat) :
    ((after node config request session k).now : ℕ∞) = session.now
      + ∑ j ∈ range (k + 1), min (took node request session (begins node config request session) j)
          config.timeoutMs.toNat
      + ∑ j ∈ Ico 1 (k + 1), ((config.backoff (UInt32.ofNat j)).toNat : ℕ∞) := by
  have hover : (after node config request session k).now = begins node config request session k
      + (delivery node config request session k).wait config.timeoutMs.toNat := rfl
  have hwait : ((delivery node config request session k).wait config.timeoutMs.toNat : ℕ∞) =
      min (took node request session (begins node config request session) k)
        config.timeoutMs.toNat := Delivery.natCast_wait _ _
  rw [hover, Nat.cast_add, natCast_begins, hwait, sum_range_succ, add_right_comm, ← add_assoc]

/-- **A request keeps to the schedule**, whatever becomes of its attempts. -/
theorem exists_onSchedule (node : Node) (config : Config) (request : Request) (read : Reader α)
    (session : Session) :
    ∃ n start, 1 ≤ n ∧ n ≤ max config.retries.toNat 1 ∧
      OnSchedule node config request n start
        (departures node (execute config request read).run session) session
        ((execute config request read).run.run node.handle session).2 := by
  have hpos : 0 < config.attempts := config.attempts_pos
  have hattempts : config.attempts = max config.retries.toNat 1 := rfl
  obtain ⟨n, -, hn, hrun, hdepartures⟩ := departures_tryAgain node config request read
    session (config.attempts - 1) 0
  rw [before_zero] at hrun hdepartures
  have hfinal : ((execute config request read).run.run node.handle session).2 =
      after node config request session n := hrun
  refine ⟨n + 1, begins node config request session, Nat.le_add_left 1 n, by omega, ?_, ?_, ?_, ?_⟩
  · rw [hfinal]
    rfl
  · rw [List.range_eq_range']
    exact hdepartures
  · intro k _
    exact natCast_begins node k
  · rw [hfinal]
    exact natCast_now_after node n

/-- **The schedule of attempts is exact.** A pause is the base, doubled for every attempt but the
first, up to 31 times and up to the largest word. So pauses never become shorter, each is twice the
one before it until it reaches one of the two limits, and none is shorter than the base. A request
takes the waits of its attempts and the pauses between them, and no more. -/
theorem schedule_exact (config : Config) :
    (∀ attempt, (config.backoff attempt).toNat =
      min (config.baseDelayMs.toNat * 2 ^ min (max attempt.toNat 1 - 1) 31) (2 ^ 64 - 1)) ∧
    (∀ a b, a ≤ b → config.backoff a ≤ config.backoff b) ∧
    (∀ attempt, 1 ≤ attempt → attempt < 32 →
      (config.backoff (attempt + 1)).toNat =
        min (2 * (config.backoff attempt).toNat) (2 ^ 64 - 1)) ∧
    (∀ attempt, 32 ≤ attempt → config.backoff attempt = config.backoff 32) ∧
    (∀ attempt, config.baseDelayMs ≤ config.backoff attempt) ∧
    ∀ (node : Node) (request : Request) (read : Reader α) (session : Session),
      ∃ n start, 1 ≤ n ∧ n ≤ max config.retries.toNat 1 ∧
        OnSchedule node config request n start
          (departures node (execute config request read).run session) session
          ((execute config request read).run.run node.handle session).2 :=
  ⟨config.toNat_backoff_eq_min, fun _ _ => config.backoff_le_backoff,
    fun _ => config.toNat_backoff_succ, fun _ => config.backoff_of_le,
    config.baseDelayMs_le_backoff, fun node => exists_onSchedule node config⟩

/-- A node that loses the first request, refuses the second after a while, and answers the third at
the last moment. -/
def wearyNode : Node where
  deliver index _ _ := match index with
    | 0 => .lost
    | 1 => .arrives 10 (.error (.network "refused" 7))
    | _ => .arrives 50 (.ok ⟨200, "done"⟩)
  clock now := ⟨now, 0⟩

/-- Little patience and short pauses. -/
def wearyConfig : Config := { timeoutMs := 50, baseDelayMs := 5 }

/-- Takes any answer as it comes. -/
def readBody : Reader String := fun _ response => .ok response.body

/-- Three attempts with two pauses between them, of which the second is twice the first. -/
theorem schedule_exact_weary :
    let run := (execute wearyConfig (.get "/status") readBody).run.run wearyNode.handle {}
    (1 : UInt32) ≤ 1 ∧ (1 : UInt32) < 32 ∧
      (wearyConfig.backoff 2).toNat = min (2 * (wearyConfig.backoff 1).toNat) (2 ^ 64 - 1) ∧
      run.2.now = 50 + 5 + 10 + 10 + 50 ∧
      ∃ start, OnSchedule wearyNode wearyConfig (.get "/status") 3 start [0, 55, 75] {} run.2 := by
  intro run
  have hone : (1 : UInt32) ≤ 1 := by decide
  have hlast : (1 : UInt32) < 32 := by decide
  obtain ⟨-, -, hdoubles, -, -, hschedule⟩ := schedule_exact (α := String) wearyConfig
  obtain ⟨n, start, -, -, h⟩ := hschedule wearyNode (.get "/status") readBody {}
  have hdeparted : departures wearyNode
      (execute wearyConfig (.get "/status") readBody).run {} = [0, 55, 75] := by
    cbv
  have hnow : ((execute wearyConfig (.get "/status") readBody).run.run wearyNode.handle {}).2.now =
      50 + 5 + 10 + 10 + 50 := by
    cbv
  have hcount : n = 3 := by
    have hlength := congrArg List.length h.departed_eq
    rw [hdeparted, List.length_map, List.length_range] at hlength
    exact hlength.symm
  rw [hcount, hdeparted] at h
  exact ⟨hone, hlast, hdoubles 1 hone hlast, hnow, start, h⟩

end Client

end Node

end Remit
