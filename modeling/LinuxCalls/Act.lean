/-
This file holds the actions that the library is made of. An action reads and changes a state, and
it ends with a value or with a fault. The state is kept in both cases.
-/

import LinuxCalls.Errno

namespace LinuxCalls

/-- An action ends without a value for one of three reasons. -/
inductive Fault
  /-- The action reports an error. -/
  | errno (error : Errno)
  /-- A broken invariant ends the program. -/
  | panic
  /-- The process has exited. -/
  | exit (status : UInt64)
  deriving DecidableEq

/-- An action over a state. -/
def Act (σ α : Type) : Type := σ → Except Fault α × σ

namespace Act

variable {σ τ ρ α β : Type}

protected def pure (value : α) : Act σ α := fun state => (.ok value, state)

protected def bind (first : Act σ α) (second : α → Act σ β) : Act σ β := fun state =>
  match first state with
  | (.ok value, next) => second value next
  | (.error fault, next) => (.error fault, next)

instance : Monad (Act σ) where
  pure := Act.pure
  bind := Act.bind

@[simp] theorem pure_apply (value : α) (state : σ) :
    (pure value : Act σ α) state = (.ok value, state) := rfl

theorem bind_apply (first : Act σ α) (second : α → Act σ β) (state : σ) :
    (first >>= second) state =
      match first state with
      | (.ok value, next) => second value next
      | (.error fault, next) => (.error fault, next) := rfl

@[ext] protected theorem ext {first second : Act σ α} (same : ∀ state, first state = second state) :
    first = second := funext same

instance : LawfulMonad (Act σ) := LawfulMonad.mk' (Act σ)
  (by
    intro _ act
    funext state
    show Act.bind act (fun value => Act.pure (id value)) state = act state
    unfold Act.bind
    rcases act state with ⟨_ | _, _⟩ <;> rfl)
  (fun _ _ => rfl)
  (by
    intro _ _ _ first second third
    funext state
    show Act.bind (Act.bind first second) third state =
      Act.bind first (fun value => Act.bind (second value) third) state
    simp only [Act.bind]
    rcases first state with ⟨_ | _, _⟩ <;> rfl)

def fault (reason : Fault) : Act σ α := fun state => (.error reason, state)

def fail (error : Errno) : Act σ α := fault (.errno error)

def panic : Act σ α := fault .panic

def get : Act σ σ := fun state => (.ok state, state)

def modify (change : σ → σ) : Act σ Unit := fun state => (.ok (), change state)

/-- This action turns every fault into a value. -/
def outcome (act : Act σ α) : Act σ (Except Fault α) := fun state =>
  let (result, next) := act state
  (.ok result, next)

/-- This action ends as a given outcome did. -/
def resume : Except Fault α → Act σ α
  | .ok value => pure value
  | .error reason => fault reason

/-- This action gives a value or reports an error. -/
def ofExcept : Except Errno α → Act σ α
  | .ok value => pure value
  | .error error => fail error

/-- This action turns reported errors into values. The other faults remain. -/
def attempt (act : Act σ α) : Act σ (Except Errno α) := fun state =>
  match act state with
  | (.ok value, next) => (.ok (.ok value), next)
  | (.error (.errno error), next) => (.ok (.error error), next)
  | (.error reason, next) => (.error reason, next)

/-- This action runs on a part of the state. -/
def focus (part : σ → τ) (replace : σ → τ → σ) (act : Act τ α) : Act σ α := fun state =>
  let (result, next) := act (part state)
  (result, replace state next)

/-- This action runs beside a value of its own and gives that value's end with its own outcome. -/
def beside (own : ρ) (act : Act (ρ × σ) α) : Act σ (Except Fault α × ρ) := fun state =>
  let (result, own, next) := act (own, state)
  (.ok (result, own), next)

@[simp] theorem fault_apply (reason : Fault) (state : σ) :
    (fault reason : Act σ α) state = (.error reason, state) := rfl

@[simp] theorem fail_apply (error : Errno) (state : σ) :
    (fail error : Act σ α) state = (.error (.errno error), state) := rfl

@[simp] theorem panic_apply (state : σ) : (panic : Act σ α) state = (.error .panic, state) := rfl

@[simp] theorem get_apply (state : σ) : get state = (.ok state, state) := rfl

@[simp] theorem modify_apply (change : σ → σ) (state : σ) :
    modify change state = (.ok (), change state) := rfl

@[simp] theorem outcome_apply (act : Act σ α) (state : σ) :
    act.outcome state = (.ok (act state).1, (act state).2) := rfl

@[simp] theorem focus_apply (part : σ → τ) (replace : σ → τ → σ) (act : Act τ α) (state : σ) :
    focus part replace act state =
      ((act (part state)).1, replace state (act (part state)).2) := rfl

@[simp] theorem beside_apply (own : ρ) (act : Act (ρ × σ) α) (state : σ) :
    beside own act state =
      (.ok ((act (own, state)).1, (act (own, state)).2.1), (act (own, state)).2.2) := rfl

/-- An action that a fault ends in never reaches the second one. -/
@[simp] theorem fault_bind (reason : Fault) (second : α → Act σ β) :
    (fault reason : Act σ α) >>= second = fault reason := rfl

theorem bind_of_ok {first : Act σ α} {value : α} {state next : σ} (second : α → Act σ β)
    (ended : first state = (.ok value, next)) : (first >>= second) state = second value next := by
  rw [bind_apply, ended]

theorem bind_of_fault {first : Act σ α} {reason : Fault} {state next : σ} (second : α → Act σ β)
    (ended : first state = (.error reason, next)) :
    (first >>= second) state = (.error reason, next) := by
  rw [bind_apply, ended]

@[simp] theorem attempt_eq_ok (act : Act σ α) (state next : σ) (value : α) :
    act.attempt state = (.ok (.ok value), next) ↔ act state = (.ok value, next) := by
  unfold attempt
  rcases act state with ⟨fault | _, _⟩
  · cases fault <;> simp
  · simp

@[simp] theorem attempt_eq_error (act : Act σ α) (state next : σ) (error : Errno) :
    act.attempt state = (.ok (.error error), next) ↔
      act state = (.error (.errno error), next) := by
  unfold attempt
  rcases act state with ⟨fault | _, _⟩
  · cases fault <;> simp
  · simp

/-- An action that ends as a result does is attempted with that result. -/
theorem attempt_of_ofExcept {act : Act σ α} {state next : σ} {result : Except Errno α}
    (ended : act state = ofExcept result next) : act.attempt state = (.ok result, next) := by
  cases result with
  | ok _ => exact (attempt_eq_ok _ _ _ _).mpr ended
  | error _ => exact (attempt_eq_error _ _ _ _).mpr ended

@[simp] theorem attempt_snd (act : Act σ α) (state : σ) : (act.attempt state).2 = (act state).2 := by
  unfold attempt
  rcases act state with ⟨fault | _, _⟩
  · cases fault <;> rfl
  · rfl

/-- The outcome of an attempt follows from the outcome of the action. -/
theorem attempt_fst_congr {first second : Act σ α} {state other : σ}
    (same : (first state).1 = (second other).1) :
    (first.attempt state).1 = (second.attempt other).1 := by
  unfold attempt
  rcases act : first state with ⟨fault | _, _⟩ <;> rcases act' : second other with ⟨fault' | _, _⟩ <;>
    rw [act, act'] at same <;> cases same
  · cases fault <;> rfl
  · rfl

theorem attempt_congr {first second : Act σ α} {state other : σ}
    (same : first state = second other) : first.attempt state = second.attempt other := by
  unfold attempt
  rw [same]

theorem attempt_focus (part : σ → τ) (replace : σ → τ → σ) (act : Act τ α) :
    (focus part replace act).attempt = focus part replace act.attempt := by
  funext state
  rw [focus_apply]
  unfold attempt
  rw [focus_apply]
  rcases act (part state) with ⟨fault | _, _⟩
  · cases fault <;> rfl
  · rfl

/-- Resuming an outcome undoes taking it. -/
theorem outcome_bind_resume (act : Act σ α) : act.outcome >>= resume = act := by
  funext state
  simp only [bind_apply, outcome_apply]
  rcases act state with ⟨_ | _, _⟩ <;> rfl

/-- An action on the second part of a pair leaves the first part alone. -/
instance : MonadLift (Act σ) (Act (ρ × σ)) where
  monadLift act := focus Prod.snd (fun state next => (state.1, next)) act

/--
This action runs a body and then releases what the body used. A panic releases it as well, and a
process that exits releases nothing.
-/
def releasing (release : Act σ Unit) (body : Act σ α) : Act σ α := do
  match ← body.outcome with
  | .error (.exit status) => fault (.exit status)
  | ended =>
    release
    resume ended

end Act

end LinuxCalls
