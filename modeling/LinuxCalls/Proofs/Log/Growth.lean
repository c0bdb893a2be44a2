/-
This file shows that actions only add to the journal: what was asked stays on record whatever is asked
later, and however an action ends.
-/

import LinuxCalls.Proofs.Calls.Own

namespace LinuxCalls.Act

variable {σ τ α β : Type}

/-- An action grows the journal if it only adds to it. -/
def Grows [HasMachine σ] (act : Act σ α) : Prop :=
  ∀ state, (machine state).journal <:+ (machine (act state).2).journal

section Control

variable [HasMachine σ]

theorem grows_pure (value : α) : (Pure.pure value : Act σ α).Grows := fun _ => List.suffix_refl _

/-- What comes second only adds to the journal that comes first. -/
theorem suffix_bind (first : Act σ α) {second : α → Act σ β} (tail : ∀ value, (second value).Grows) (state : σ) :
    (machine (first state).2).journal <:+ (machine ((first >>= second) state).2).journal := by
  rw [bind_apply]
  rcases first state with ⟨fault | value, middle⟩
  · exact List.suffix_refl _
  · exact tail value middle

theorem Grows.bind {first : Act σ α} {second : α → Act σ β} (head : first.Grows)
    (tail : ∀ value, (second value).Grows) : (first >>= second).Grows := fun state =>
  (head state).trans (suffix_bind first tail state)

theorem Grows.congr [HasMachine τ] {first : Act σ α} {second : Act τ β} (grows : first.Grows) (part : τ → σ)
    (before : ∀ state, machine (part state) = machine state)
    (after : ∀ state, machine (second state).2 = machine (first (part state)).2) : second.Grows := by
  intro state
  rw [after, ← before]
  exact grows (part state)

end Control

theorem grows_perform (request : Request) : (perform request).Grows := by
  intro (machine : Machine)
  by_cases exits : request.number = CallKind.exit.number
  · rw [perform_of_exit exits]
    exact List.suffix_cons _ _
  · rw [perform_of_ne_exit exits]
    exact List.suffix_cons _ _

theorem grows_callRuntime (channel : Channel) (arguments : List Register) (exhausted : Int32) :
    (callRuntime channel arguments exhausted).Grows := fun _ => List.suffix_cons _ _

theorem grows_tell (level : Level) (message : String) : (Log.tell level message).Grows := fun machine =>
  (Log.tell_keeps level message machine).2

end LinuxCalls.Act
