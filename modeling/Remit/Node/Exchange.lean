import Remit.Activity
import Remit.Error
import Remit.Node.Request
import Remit.Time.Instant

/-!
# Exchanges with a node

A client does three things that others can see: it sends a request and waits for what comes back,
though not longer than it has patience; it pauses; and it looks at the clock. Time is counted in
milliseconds and passes only while a client waits or pauses.

`Activity.within` gives any such activity a deadline. What happens exactly at the deadline still
happens, and whatever would happen later does not.

A `Node` says what becomes of every request that is ever sent to it, as a plain function, so that
statements about a client can speak of all nodes.

## Main statements

* `Node.now_run_within`: the time that an activity takes and the time that is left to it are the
  time that it was given.
-/

namespace Remit

namespace Node

/-! ### The interface -/

/-- What became of a request: after how many milliseconds, and what came back, if anything did
while the client was waiting. -/
structure Reply where
  after : Nat
  outcome : Option (Except Error Response)

/-- What a client does. -/
inductive Op where
  /-- Sends a request and waits for at most so many milliseconds. -/
  | call (request : Request) (patience : Nat)
  /-- Does nothing for so many milliseconds. -/
  | pause (duration : Nat)
  /-- Looks at the clock. -/
  | now

/-- What is answered to it. -/
@[reducible] def Op.Answer : Op → Type
  | .call _ _ => Reply
  | .pause _ => Unit
  | .now => Instant

/-- The surroundings of a client. -/
abbrev exchange : Interface := ⟨Op, Op.Answer⟩

/-- Sends a request and waits for at most so many milliseconds. -/
def call (request : Request) (patience : Nat) : Activity exchange Reply :=
  .perform (I := exchange) (.call request patience)

/-- Does nothing for so many milliseconds. -/
def pause (duration : Nat) : Activity exchange Unit := .perform (I := exchange) (.pause duration)

/-- The present. -/
def now : Activity exchange Instant := .perform (I := exchange) .now

/-! ### Deadlines -/

/-- Plays an activity until the given number of milliseconds has passed. The result is missing if
it was not done by then; the second component is what is left of the time. -/
def within {α : Type} : (time : Nat) → Activity exchange α → Activity exchange (Option α × Nat)
  | time, .done value => .done (some value, time)
  | time, .ask .now next => .ask (I := exchange) .now fun instant => within time (next instant)
  | time, .ask (.pause duration) next =>
    if duration ≤ time then
      .ask (I := exchange) (.pause duration) fun _ => within (time - duration) (next ())
    else .ask (I := exchange) (.pause time) fun _ => .done (none, 0)
  | time, .ask (.call request patience) next =>
    if patience ≤ time then
      .ask (I := exchange) (.call request patience) fun reply =>
        within (time - reply.after) (next reply)
    else .ask (I := exchange) (.call request time) fun reply =>
      match reply.outcome with
      | some _ => within (time - reply.after) (next reply)
      | none => .done (none, 0)

/-! ### Nodes -/

/-- What becomes of a request. -/
inductive Delivery where
  /-- Something comes back after so many milliseconds. -/
  | arrives (after : Nat) (outcome : Except Error Response)
  /-- Nothing ever comes back. -/
  | lost

/-- What a client sees of a delivery that it waits for with limited patience. -/
def Delivery.reply (patience : Nat) : Delivery → Reply
  | arrives after outcome => if after ≤ patience then ⟨after, some outcome⟩ else ⟨patience, none⟩
  | lost => ⟨patience, none⟩

theorem Delivery.after_reply_le (patience : Nat) (delivery : Delivery) :
    (delivery.reply patience).after ≤ patience := by
  cases delivery with
  | lost => exact Nat.le_refl _
  | arrives after outcome =>
    simp only [reply]
    split
    · assumption
    · exact Nat.le_refl _

theorem Delivery.after_reply_of_outcome_eq_none {patience : Nat} {delivery : Delivery}
    (h : (delivery.reply patience).outcome = none) :
    (delivery.reply patience).after = patience := by
  cases delivery with
  | lost => rfl
  | arrives after outcome =>
    simp only [reply] at h ⊢
    split at h
    · cases h
    · rename_i hlt; simp [hlt]

/-- What has happened between a client and a node so far. -/
structure Session where
  /-- The milliseconds that have passed. -/
  now : Nat := 0
  /-- The requests that were sent, oldest first. -/
  sent : List Request := []

end Node

/-- A node, given by what becomes of every request that is sent to it: the one with the given
number, counted from zero, at the given time. -/
structure Node where
  deliver : (index time : Nat) → Node.Request → Node.Delivery
  /-- What a clock shows at the given time. -/
  clock : Nat → Instant

namespace Node

/-- Plays the part of a node and of time. -/
def handle (node : Node) : Handler exchange Session
  | .call request patience, session =>
    let reply := (node.deliver session.sent.length session.now request).reply patience
    (reply, ⟨session.now + reply.after, session.sent ++ [request]⟩)
  | .pause duration, session => ((), { session with now := session.now + duration })
  | .now, session => (node.clock session.now, session)

/-- Nothing is lost of the time that is given to an activity: what has not passed is left. -/
theorem now_run_within (node : Node) {α : Type} (activity : Activity exchange α) (time : Nat)
    (session : Session) :
    ((within time activity).run node.handle session).2.now +
        ((within time activity).run node.handle session).1.2 = session.now + time := by
  induction activity generalizing time session with
  | done value => rfl
  | ask op next ih =>
    cases op with
    | now =>
      simp only [within, Activity.run_ask]
      exact ih _ _ _
    | pause duration =>
      simp only [within]
      split
      · rename_i h
        simp only [Activity.run_ask]
        rw [ih]
        simp only [handle]; omega
      · simp [handle]
    | call request patience =>
      simp only [within]
      split
      · rename_i h
        simp only [Activity.run_ask]
        rw [ih]
        have := Delivery.after_reply_le patience
          (node.deliver session.sent.length session.now request)
        simp only [handle]; omega
      · simp only [Activity.run_ask]
        split
        · rw [ih]
          have := Delivery.after_reply_le time
            (node.deliver session.sent.length session.now request)
          simp only [handle]; omega
        · rename_i h
          have := Delivery.after_reply_of_outcome_eq_none h
          simp only [Activity.run_done, handle]; omega

end Node

end Remit
