/-
This file holds runs of calls. Each call starts where the one before it has ended, whatever the
result of that one was, and a run says of every call what it amounts to.
-/

import LinuxCalls.Act

namespace LinuxCalls.Act

variable {σ τ κ α γ : Type}

/-- What is made of a value afterwards does not change the state. -/
theorem bind_pure_snd {β : Type} (act : Act σ α) (make : α → β) (state : σ) :
    ((act >>= fun value => pure (make value)) state).2 = (act state).2 := by
  rw [bind_apply]
  rcases act state with ⟨fault | value, next⟩ <;> rfl

/-- This action makes calls in turn and gives their results. -/
def each (act : κ → Act σ α) : List κ → Act σ (List (Except Errno α))
  | [] => return []
  | call :: calls => do
    let result ← (act call).attempt
    let results ← each act calls
    return result :: results

/--
A run of calls without a panic and without an exit. What a call amounts to may depend on what the
calls before it have amounted to.
-/
inductive Run (act : κ → Act σ α)
    (amounts : List γ → κ → Except Errno α → σ → σ → γ → Prop) :
    List γ → σ → List κ → List (Except Errno α) → List γ → σ → Prop
  | done (past : List γ) (state : σ) : Run act amounts past state [] [] [] state
  | call {past rest : List γ} {call : κ} {calls : List κ} {result : Except Errno α}
      {results : List (Except Errno α)} {amount : γ} {before middle after : σ}
      (made : (act call).attempt before = (.ok result, middle))
      (amounted : amounts past call result before middle amount)
      (later : Run act amounts (past ++ [amount]) middle calls results rest after) :
      Run act amounts past before (call :: calls) (result :: results) (amount :: rest) after

variable {act : κ → Act σ α} {amounts : List γ → κ → Except Errno α → σ → σ → γ → Prop}

/-- A run is what making the calls in turn does. -/
theorem Run.each_eq {past rest : List γ} {before after : σ} {calls : List κ}
    {results : List (Except Errno α)} (run : Run act amounts past before calls results rest after) :
    each act calls before = (.ok results, after) := by
  induction run with
  | done past state => rfl
  | call made _ _ step =>
    rw [each, bind_of_ok _ made, bind_of_ok _ step]
    rfl

/-- Calls that keep an invariant one by one have a run, and the run keeps it. -/
theorem Run.exists_of_step (invariant : List γ → σ → Prop)
    (step : ∀ call past before, invariant past before → ∃ result middle amount,
      (act call).attempt before = (.ok result, middle) ∧
      amounts past call result before middle amount ∧ invariant (past ++ [amount]) middle)
    (calls : List κ) (past : List γ) (before : σ) (holds : invariant past before) :
    ∃ results rest after, Run act amounts past before calls results rest after ∧
      invariant (past ++ rest) after := by
  induction calls generalizing past before with
  | nil => exact ⟨[], [], before, .done past before, by rwa [List.append_nil]⟩
  | cons call calls later =>
    obtain ⟨result, middle, amount, made, amounted, kept⟩ := step call past before holds
    obtain ⟨results, rest, after, run, last⟩ := later _ _ kept
    rw [List.append_assoc] at last
    exact ⟨result :: results, amount :: rest, after, .call made amounted run, last⟩

/-- One action stands for another one if a projection of the states turns its runs into the other's. -/
def StandsFor (project : σ → τ) (first : Act σ α) (second : Act τ α) : Prop :=
  ∀ state, second (project state) = ((first state).1, project (first state).2)

namespace StandsFor

variable {β : Type} {project : σ → τ}

theorem pure (value : α) : StandsFor project (Pure.pure value) (Pure.pure value) := fun _ => rfl

theorem fault (reason : Fault) :
    StandsFor project (Act.fault reason : Act σ α) (Act.fault reason) := fun _ => rfl

theorem bind {first : Act σ α} {second : Act τ α} {next : α → Act σ β} {other : α → Act τ β}
    (head : StandsFor project first second) (tail : ∀ value, StandsFor project (next value) (other value)) :
    StandsFor project (first >>= next) (second >>= other) := by
  intro state
  rw [bind_apply, bind_apply, head state]
  rcases first state with ⟨fault | value, middle⟩
  · rfl
  · exact tail value middle

theorem attempt {first : Act σ α} {second : Act τ α} (same : StandsFor project first second) :
    StandsFor project first.attempt second.attempt := by
  intro state
  unfold Act.attempt
  rw [same state]
  rcases first state with ⟨fault | value, middle⟩
  · cases fault <;> rfl
  · rfl

theorem focus {σ' τ' : Type} {onPart : σ' → τ'} {part : σ → σ'} {replace : σ → σ' → σ}
    {otherPart : τ → τ'} {otherReplace : τ → τ' → τ} {first : Act σ' α} {second : Act τ' α}
    (same : StandsFor onPart first second)
    (parts : ∀ state, otherPart (project state) = onPart (part state))
    (replaced : ∀ state next,
      otherReplace (project state) (onPart next) = project (replace state next)) :
    StandsFor project (Act.focus part replace first) (Act.focus otherPart otherReplace second) := by
  intro state
  rw [focus_apply, focus_apply, parts, same, replaced]

theorem ofExcept (result : Except Errno α) :
    StandsFor project (Act.ofExcept result : Act σ α) (Act.ofExcept result) := by
  cases result <;> exact fun _ => rfl

/-- Making calls in turn stands for making them in turn. -/
theorem each {act : κ → Act σ α} {other : κ → Act τ α}
    (same : ∀ call, StandsFor project (act call) (other call)) (calls : List κ) :
    StandsFor project (each act calls) (Act.each other calls) := by
  induction calls with
  | nil => exact pure []
  | cons call calls step =>
    exact bind (attempt (same call)) fun _ => bind step fun _ => pure _

end StandsFor

end LinuxCalls.Act
