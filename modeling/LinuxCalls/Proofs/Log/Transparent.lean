/-
This file holds transparent actions. A transparent action does the same on a quiet machine and on
every loud machine that is like it, unless it asks for a complaint itself.
-/

import LinuxCalls.Proofs.Log.Alike

namespace LinuxCalls

/-- A state with a machine in it. -/
class HasMachine (σ : Type) where
  /-- The machine of a state. -/
  machine : σ → Machine
  /-- This function replaces the machine and leaves the rest alone. -/
  withMachine : σ → Machine → σ

export HasMachine (machine withMachine)

instance : HasMachine Machine := ⟨id, fun _ replacement => replacement⟩

instance {ρ : Type} : HasMachine (ρ × Machine) :=
  ⟨Prod.snd, fun state replacement => (state.1, replacement)⟩

namespace Act

variable {σ τ ρ α β : Type}

/--
A transparent action only adds to the journal of a machine whose log is off. If it asks for no
complaint, it does the same on a loud machine, and the machines are alike again.
-/
structure Transparent [HasMachine σ] (act : Act σ α) : Prop where
  stays : ∀ state, (machine state).threshold = .off →
    (machine (act state).2).threshold = .off ∧
      (machine state).journal <:+ (machine (act state).2).journal
  follows : ∀ state loud, (machine state).Alike loud → (machine (act state).2).IsQuiet →
    ∃ next, act (withMachine state loud) = ((act state).1, withMachine (act state).2 next) ∧
      (machine (act state).2).Alike next ∧ loud.journal <:+ next.journal

namespace Transparent

section Control

variable [HasMachine σ]

/-- An action that only decides on a result is transparent. -/
theorem of_result (result : Except Fault α) :
    Transparent (fun state => (result, state) : Act σ α) where
  stays _ off := ⟨off, List.suffix_refl _⟩
  follows _ loud alike _ := ⟨loud, rfl, alike, List.suffix_refl _⟩

/-- An action on the machine itself is transparent if it does the same on like machines. -/
theorem ofMachine {act : Sys α}
    (stays : ∀ quiet : Machine, quiet.threshold = .off →
      (act quiet).2.threshold = .off ∧ quiet.journal <:+ (act quiet).2.journal)
    (follows : ∀ quiet loud : Machine, quiet.Alike loud → (act quiet).2.IsQuiet →
      ∃ next, act loud = ((act quiet).1, next) ∧ (act quiet).2.Alike next ∧
        loud.journal <:+ next.journal) : Transparent act :=
  ⟨stays, follows⟩

theorem pure (value : α) : Transparent (Pure.pure value : Act σ α) := of_result (.ok value)

theorem bind {first : Act σ α} {second : α → Act σ β} (head : Transparent first)
    (tail : ∀ value, Transparent (second value)) : Transparent (first >>= second) where
  stays state off := by
    obtain ⟨middleOff, grown⟩ := head.stays state off
    rw [bind_apply]
    rcases ended : first state with ⟨reason | value, middle⟩
    · rw [ended] at middleOff grown
      exact ⟨middleOff, grown⟩
    · rw [ended] at middleOff grown
      obtain ⟨lastOff, more⟩ := (tail value).stays middle middleOff
      exact ⟨lastOff, grown.trans more⟩
  follows state loud alike quiet := by
    have middleOff := (head.stays state alike.off).1
    have same := head.follows state loud alike
    rw [bind_apply] at quiet ⊢
    rw [bind_apply]
    rcases ended : first state with ⟨reason | value, middle⟩
    · rw [ended] at same quiet
      obtain ⟨next, made, still⟩ := same quiet
      exact ⟨next, by rw [made], still⟩
    · rw [ended] at same quiet middleOff
      have grown := ((tail value).stays middle middleOff).2
      obtain ⟨next, made, still, first⟩ := same (quiet.of_suffix grown)
      obtain ⟨last, later, alike, second⟩ := (tail value).follows middle next still quiet
      exact ⟨last, by rw [made]; exact later, alike, first.trans second⟩

theorem outcome {act : Act σ α} (clear : Transparent act) : Transparent act.outcome where
  stays := clear.stays
  follows state loud alike quiet := by
    obtain ⟨next, made, still⟩ := clear.follows state loud alike quiet
    exact ⟨next, by rw [outcome_apply, made, outcome_apply], still⟩

theorem attempt {act : Act σ α} (clear : Transparent act) : Transparent act.attempt where
  stays state off := by
    rw [attempt_snd]
    exact clear.stays state off
  follows state loud alike quiet := by
    rw [attempt_snd] at quiet ⊢
    obtain ⟨next, made, still⟩ := clear.follows state loud alike quiet
    have same : (act (withMachine state loud)).1 = (act state).1 := by rw [made]
    have left : (act.attempt (withMachine state loud)).2 = withMachine (act state).2 next := by
      rw [attempt_snd, made]
    exact ⟨next, Prod.ext (attempt_fst_congr same) left, still⟩

theorem get_bind {next : σ → Act σ α} (same : ∀ state loud, (machine state).Alike loud →
    next (withMachine state loud) = next state) (later : ∀ state, Transparent (next state)) :
    Transparent (Act.get >>= next) where
  stays state off := (later state).stays state off
  follows state loud alike quiet := by
    change ∃ last, next (withMachine state loud) (withMachine state loud) = _ ∧ _
    rw [same state loud alike]
    exact (later state).follows state loud alike quiet

theorem modify {change : σ → σ}
    (stays : ∀ state, (machine (change state)).threshold = (machine state).threshold ∧
      (machine (change state)).journal = (machine state).journal)
    (follows : ∀ state loud, (machine state).Alike loud → ∃ next,
      change (withMachine state loud) = withMachine (change state) next ∧
      (machine (change state)).Alike next ∧ loud.journal <:+ next.journal) :
    Transparent (Act.modify change) where
  stays state off := by
    obtain ⟨threshold, journal⟩ := stays state
    exact ⟨threshold.trans off, journal ▸ List.suffix_refl _⟩
  follows state loud alike _ := by
    obtain ⟨next, changed, still⟩ := follows state loud alike
    exact ⟨next, congrArg (Prod.mk _) changed, still⟩

end Control

section Parts

variable [HasMachine σ] [HasMachine τ]

theorem focus {part : σ → τ} {replace : σ → τ → σ} {act : Act τ α} (clear : Transparent act)
    (parts : ∀ state, machine (part state) = machine state)
    (partsWith : ∀ state loud, part (withMachine state loud) = withMachine (part state) loud)
    (replaced : ∀ state next, machine (replace state next) = machine next)
    (replacedWith : ∀ state loud next other,
      replace (withMachine state loud) (withMachine next other) = withMachine (replace state next) other) :
    Transparent (Act.focus part replace act) where
  stays state off := by
    rw [focus_apply, replaced, ← parts]
    exact clear.stays (part state) (by rw [parts]; exact off)
  follows state loud alike quiet := by
    rw [focus_apply, replaced] at quiet
    rw [← parts] at alike
    obtain ⟨next, made, still⟩ := clear.follows (part state) loud alike quiet
    refine ⟨next, ?_, ?_⟩
    · rw [focus_apply, focus_apply, partsWith, made, replacedWith]
    · rw [focus_apply, replaced]
      exact still

theorem beside (own : ρ) {act : Act (ρ × Machine) α} (clear : Transparent act) :
    Transparent (Act.beside own act : Sys _) where
  stays state off := clear.stays (own, state) off
  follows state loud alike quiet := by
    obtain ⟨next, made, still⟩ := clear.follows (own, state) loud alike quiet
    refine ⟨next, ?_, still⟩
    change Act.beside own act loud = _
    rw [beside_apply, beside_apply]
    change act (own, loud) = _ at made
    rw [made]
    rfl

end Parts

end Transparent

end Act

end LinuxCalls
