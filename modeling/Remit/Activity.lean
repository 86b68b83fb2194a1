/-!
# Activities

What this library does with its surroundings, such as a node on the network or the files of a
disk, is written as an *activity*: a value that says what to ask next for every answer it may
get. An activity does nothing by itself. `Activity.run` plays it against surroundings that are
plain functions on a state, which is what every statement about the library talks about;
`Activity.runIn` plays it in any monad, which is how the program meets the real world.

An `Interface` lists the questions and gives the type of each answer. `Interface.both` joins two
interfaces, so that an activity that needs files and a node is built from one of each. A `Task` is
an activity that may fail.

## Main statements

* `Activity.run_bind`: running a sequence is running its parts one after the other.
* `Activity.run_left`, `Activity.run_right`: an activity over one of two joined interfaces leaves
  the surroundings of the other as they are.
* `Task.run_run_bind_of_ok`, `Task.run_run_bind_of_error`: a sequence of tasks goes on after a
  success and ends with the first error.
-/

namespace Remit

/-- The questions an activity may ask of its surroundings, each with the type of its answer. -/
structure Interface where
  /-- The questions. -/
  Op : Type
  /-- What is answered to each of them. -/
  Answer : Op → Type

/-- The questions of both interfaces. -/
def Interface.both (I J : Interface) : Interface where
  Op := I.Op ⊕ J.Op
  Answer
    | .inl op => I.Answer op
    | .inr op => J.Answer op

/-- A finished result, or a question together with what to do for each answer. -/
inductive Activity (I : Interface) (α : Type) where
  | done (value : α)
  | ask (op : I.Op) (next : I.Answer op → Activity I α)

/-- Surroundings with a state: the answer to each question, and the state after it. -/
abbrev Handler (I : Interface) (σ : Type) := (op : I.Op) → σ → I.Answer op × σ

namespace Activity

variable {I J : Interface} {α β σ τ : Type}

/-- Goes on with `f` once the activity has its result. -/
def bind : Activity I α → (α → Activity I β) → Activity I β
  | done value, f => f value
  | ask op next, f => ask op fun answer => (next answer).bind f

instance : Monad (Activity I) where
  pure := done
  bind := bind

@[simp] theorem pure_eq (value : α) : (pure value : Activity I α) = done value := rfl

@[simp] theorem done_bind (value : α) (f : α → Activity I β) : done value >>= f = f value := rfl

@[simp] theorem ask_bind (op : I.Op) (next : I.Answer op → Activity I α)
    (f : α → Activity I β) : ask op next >>= f = ask op fun answer => next answer >>= f := rfl

/-- Asks one question and returns its answer. -/
def perform (op : I.Op) : Activity I (I.Answer op) := ask op done

/-! ### Running -/

/-- Plays the activity against surroundings that start in the given state. -/
def run (handle : Handler I σ) : Activity I α → σ → α × σ
  | done value, state => (value, state)
  | ask op next, state => (next (handle op state).1).run handle (handle op state).2

@[simp] theorem run_done (handle : Handler I σ) (value : α) (state : σ) :
    (done value : Activity I α).run handle state = (value, state) := rfl

@[simp] theorem run_ask (handle : Handler I σ) (op : I.Op) (next : I.Answer op → Activity I α)
    (state : σ) : (ask op next).run handle state =
      (next (handle op state).1).run handle (handle op state).2 := rfl

@[simp] theorem run_perform (handle : Handler I σ) (op : I.Op) (state : σ) :
    (perform op : Activity I _).run handle state = handle op state := rfl

@[simp] theorem run_bind (handle : Handler I σ) (activity : Activity I α)
    (f : α → Activity I β) (state : σ) :
    (activity >>= f).run handle state =
      (f (activity.run handle state).1).run handle (activity.run handle state).2 := by
  induction activity generalizing state with
  | done value => rfl
  | ask op next ih => simp [ih]

/-- Plays the activity in a monad that can answer its questions. -/
def runIn {m : Type → Type} [Monad m] (answer : (op : I.Op) → m (I.Answer op)) :
    Activity I α → m α
  | done value => pure value
  | ask op next => do (next (← answer op)).runIn answer

/-! ### Joined interfaces -/

/-- An activity over the first of two interfaces, seen over both. -/
def left : Activity I α → Activity (I.both J) α
  | done value => done value
  | ask op next => ask (I := I.both J) (.inl op) fun answer => (next answer).left

/-- An activity over the second of two interfaces, seen over both. -/
def right : Activity J α → Activity (I.both J) α
  | done value => done value
  | ask op next => ask (I := I.both J) (.inr op) fun answer => (next answer).right

end Activity

/-- Surroundings for both interfaces, each with its own state. -/
def Handler.both {I J : Interface} {σ τ : Type} (handleI : Handler I σ) (handleJ : Handler J τ) :
    Handler (I.both J) (σ × τ)
  | .inl op, state => ((handleI op state.1).1, (handleI op state.1).2, state.2)
  | .inr op, state => ((handleJ op state.2).1, state.1, (handleJ op state.2).2)

namespace Activity

variable {I J : Interface} {α σ τ : Type}

@[simp] theorem run_left (handleI : Handler I σ) (handleJ : Handler J τ)
    (activity : Activity I α) (s : σ) (t : τ) :
    (activity.left (J := J)).run (handleI.both handleJ) (s, t) =
      ((activity.run handleI s).1, (activity.run handleI s).2, t) := by
  induction activity generalizing s with
  | done value => rfl
  | ask op next ih => exact ih (handleI op s).1 (handleI op s).2

@[simp] theorem run_right (handleI : Handler I σ) (handleJ : Handler J τ)
    (activity : Activity J α) (s : σ) (t : τ) :
    (activity.right (I := I)).run (handleI.both handleJ) (s, t) =
      ((activity.run handleJ t).1, s, (activity.run handleJ t).2) := by
  induction activity generalizing t with
  | done value => rfl
  | ask op next ih => exact ih (handleJ op t).1 (handleJ op t).2

end Activity

/-- An activity that may fail. -/
abbrev Task (I : Interface) (ε α : Type) := ExceptT ε (Activity I) α

namespace Task

variable {I J : Interface} {α β ε ε' : Type}

/-- A result or an error, without asking anything. -/
def ofExcept (result : Except ε α) : Task I ε α := .mk (.done result)

/-- The task with another kind of error. -/
def mapError (f : ε → ε') (task : Task I ε α) : Task I ε' α :=
  .mk do return (← task.run).mapError f

/-- A task over the first of two interfaces, seen over both. -/
def left (task : Task I ε α) : Task (I.both J) ε α := .mk (Activity.left task.run)

/-- A task over the second of two interfaces, seen over both. -/
def right (task : Task J ε α) : Task (I.both J) ε α := .mk (Activity.right task.run)

@[simp] theorem ofExcept_ok_bind (value : α) (f : α → Task I ε β) :
    ofExcept (.ok value) >>= f = f value := rfl

@[simp] theorem ofExcept_error_bind (error : ε) (f : α → Task I ε β) :
    ofExcept (.error error) >>= f = ofExcept (.error error) := rfl

/-! ### Running tasks -/

section Running

variable {σ τ : Type} {handle : Handler I σ} {task : Task I ε α} {state after : σ} {value : α}
  {error : ε}

@[simp] theorem run_run_ofExcept (result : Except ε α) (state : σ) :
    (ofExcept result : Task I ε α).run.run handle state = (result, state) := rfl

theorem run_run_bind_of_ok (h : task.run.run handle state = (.ok value, after))
    (f : α → Task I ε β) :
    (task >>= f).run.run handle state = (f value).run.run handle after := by
  rw [ExceptT.run_bind, Activity.run_bind, h]

theorem run_run_bind_of_error (h : task.run.run handle state = (.error error, after))
    (f : α → Task I ε β) :
    (task >>= f).run.run handle state = (.error error, after) := by
  rw [ExceptT.run_bind, Activity.run_bind, h]
  rfl

@[simp] theorem run_run_mapError (f : ε → ε') (task : Task I ε α) (state : σ) :
    (task.mapError f).run.run handle state =
      ((task.run.run handle state).1.mapError f, (task.run.run handle state).2) :=
  Activity.run_bind ..

@[simp] theorem run_run_left (handleI : Handler I σ) (handleJ : Handler J τ)
    (task : Task I ε α) (s : σ) (t : τ) :
    (task.left (J := J)).run.run (handleI.both handleJ) (s, t) =
      ((task.run.run handleI s).1, (task.run.run handleI s).2, t) :=
  Activity.run_left ..

@[simp] theorem run_run_right (handleI : Handler I σ) (handleJ : Handler J τ)
    (task : Task J ε α) (s : σ) (t : τ) :
    (task.right (I := I)).run.run (handleI.both handleJ) (s, t) =
      ((task.run.run handleJ t).1, s, (task.run.run handleJ t).2) :=
  Activity.run_right ..

end Running

end Task

end Remit
