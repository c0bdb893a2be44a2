/-
This file holds the actions that are composed of the library's primitives: attempts at calls, requests
that go past the log, calls of the threading runtime, records and changes of memory. What holds of the
primitives and is kept by the ways of composing them holds of all such actions.
-/

import LinuxCalls.Proofs.Log.Requests

namespace LinuxCalls

/--
The library makes a child with a call that it does not log. It does not log the two requests of that
child or its own exit either, and they leave the registers out that they do not use.
-/
def Request.Bypasses (request : Request) : Prop :=
  request.number = CallKind.cloneNumber ∨
    (request.number = CallKind.execute.number ∨ request.number = CallKind.exit.number) ∧
      request.registers.length < CallKind.registerCount

namespace Act

variable {σ τ ρ α β : Type}

/--
An action is composed of primitives. Besides the requests that the library does not log there may be raw
ones, which the caller chooses.
-/
inductive Composed (raw : Request → Prop) : {σ : Type} → [HasMachine σ] → {α : Type} → Act σ α → Prop
  | result {σ : Type} [HasMachine σ] {α : Type} (result : Except Fault α) :
      Composed raw (fun state : σ => (result, state))
  | bind {σ : Type} [HasMachine σ] {α β : Type} {first : Act σ α} {second : α → Act σ β}
      (head : Composed raw first) (tail : ∀ value, Composed raw (second value)) : Composed raw (first >>= second)
  | outcome {σ : Type} [HasMachine σ] {α : Type} {act : Act σ α} (composed : Composed raw act) :
      Composed raw act.outcome
  | attempt {σ : Type} [HasMachine σ] {α : Type} {act : Act σ α} (composed : Composed raw act) :
      Composed raw act.attempt
  /-- What comes next may depend on the state, but not on the log of its machine. -/
  | get_bind {σ : Type} [HasMachine σ] {α : Type} {next : σ → Act σ α}
      (same : ∀ state loud, (machine state).Alike loud → next (withMachine state loud) = next state)
      (later : ∀ state, Composed raw (next state)) : Composed raw (Act.get >>= next)
  /-- A change leaves all of the machine but its memory alone and does not depend on the log. -/
  | modify {σ : Type} [HasMachine σ] {change : σ → σ}
      (stores : ∀ state, machine (change state) =
        { machine state with memory := (machine (change state)).memory })
      (commutes : ∀ state loud, (machine state).Alike loud → change (withMachine state loud) =
        withMachine (change state) { loud with memory := (machine (change state)).memory }) :
      Composed raw (Act.modify change)
  | focus {σ τ : Type} [HasMachine σ] [HasMachine τ] {α : Type} {part : σ → τ} {replace : σ → τ → σ}
      {act : Act τ α} (composed : Composed raw act) (parts : ∀ state, machine (part state) = machine state)
      (partsWith : ∀ state loud, part (withMachine state loud) = withMachine (part state) loud)
      (replaced : ∀ state next, machine (replace state next) = machine next)
      (replacedWith : ∀ state loud next other,
        replace (withMachine state loud) (withMachine next other) = withMachine (replace state next) other) :
      Composed raw (Act.focus part replace act)
  | beside {ρ α : Type} (own : ρ) {act : Act (ρ × Machine) α} (composed : Composed raw act) :
      Composed raw (Act.beside own act : Sys (Except Fault α × ρ))
  /-- A call through the invocation primitive is attempted once. -/
  | attemptOnce (kind : CallKind) {registers : List Register}
      (filled : registers.length = CallKind.registerCount) :
      Composed raw (CallKind.attemptOnce Log.tell kind registers)
  | perform (request : Request) (untraced : request.Bypasses ∨ raw request) :
      Composed raw (LinuxCalls.perform request)
  | callRuntime {channel : Channel} (runtime : channel = .fork ∨ channel = .spawn)
      (arguments : List Register) (exhausted : Int32) :
      Composed raw (LinuxCalls.callRuntime channel arguments exhausted)
  /-- A record that is not one of the trace. -/
  | tell {level : Level} (other : level ≠ .trace) (message : String) : Composed raw (Log.tell level message)

namespace Composed

variable {raw : Request → Prop}

section Control

variable [HasMachine σ]

theorem pure (value : α) : Composed raw (Pure.pure value : Act σ α) := .result (.ok value)

theorem fault (reason : Fault) : Composed raw (Act.fault reason : Act σ α) := .result (.error reason)

theorem ofExcept (result : Except Errno α) : Composed raw (Act.ofExcept result : Act σ α) := by
  cases result with
  | ok value => exact pure value
  | error error => exact fault _

theorem resume (result : Except Fault α) : Composed raw (Act.resume result : Act σ α) := by
  cases result with
  | ok value => exact pure value
  | error reason => exact fault reason

theorem map {act : Act σ α} (change : α → β) (composed : Composed raw act) : Composed raw (change <$> act) := by
  rw [← bind_pure_comp]
  exact bind composed fun value => pure (change value)

/-- Releasing what a body used is composed. -/
theorem releasing {release : Act σ Unit} {body : Act σ α} (head : Composed raw body)
    (tail : Composed raw release) : Composed raw (Act.releasing release body) := by
  refine bind head.outcome fun ended => ?_
  rcases ended with reason | value
  · cases reason with
    | exit status => exact fault _
    | errno error => exact bind tail fun _ => resume _
    | panic => exact bind tail fun _ => resume _
  · exact bind tail fun _ => resume _

/-- A change beside the machine is composed. -/
theorem modifyBeside {change : σ → σ} (beside : ∀ state, machine (change state) = machine state)
    (commutes : ∀ state loud, change (withMachine state loud) = withMachine (change state) loud) :
    Composed raw (Act.modify change) := by
  refine modify (fun state => by rw [beside]) fun state loud alike => ?_
  rw [commutes, beside, ← alike.memory]

end Control

theorem lift {act : Sys α} (composed : Composed raw act) : Composed raw (liftM act : Act (ρ × Machine) α) :=
  focus composed (fun _ => rfl) (fun _ _ => rfl) (fun _ _ => rfl) fun _ _ _ _ => rfl

/-- Composed actions are transparent. -/
theorem transparent [HasMachine σ] {act : Act σ α} (composed : Composed raw act) : Transparent act := by
  induction composed with
  | result result => exact .of_result result
  | bind _ _ head tail => exact .bind head tail
  | outcome _ clear => exact .outcome clear
  | attempt _ clear => exact .attempt clear
  | get_bind same _ later => exact .get_bind same later
  | modify stores commutes =>
    refine .modify (fun state => ?_) fun state loud alike => ⟨_, commutes state loud alike, ?_, List.suffix_refl _⟩
    · rw [stores]
      exact ⟨rfl, rfl⟩
    · rw [stores]
      exact ⟨alike.off, alike.idle, rfl, alike.agrees, alike.lawful, alike.asked⟩
  | focus _ parts partsWith replaced replacedWith clear =>
    exact .focus clear parts partsWith replaced replacedWith
  | beside own _ clear => exact .beside own clear
  | attemptOnce kind _ => exact CallKind.transparent_attemptOnce kind _
  | perform request _ => exact transparent_perform request
  | callRuntime runtime arguments exhausted =>
    exact transparent_callRuntime (by rcases runtime with rfl | rfl <;> decide) arguments exhausted
  | tell _ message => exact Log.transparent_tell _ message

end Composed

end Act

end LinuxCalls
