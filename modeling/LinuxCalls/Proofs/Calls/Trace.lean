/-
This file holds traces of actions. A specification says of an action which calls it makes from a state
on, how it ends and what it leaves, and there is one rule for each way of making actions up.
-/

import LinuxCalls.Proofs.Calls.Own

namespace LinuxCalls

namespace Act

variable {σ τ ρ α β : Type}

/--
An action traces a specification from a state on if it meets it with the calls that it makes. Only a
log that is not ready may end it with a panic instead.
-/
def Traces [HasMachine σ] (act : Act σ α) (state : σ)
    (spec : List Event → Except Fault α → σ → Prop) : Prop :=
  (∃ calls, (machine state).Makes calls (machine (act state).2) ∧ spec calls (act state).1 (act state).2) ∨
    (act state).1 = .error .panic ∧ ¬ (machine state).LogReady

/-- An action on the machine leaves the value beside it alone. -/
theorem lift_apply (act : Sys α) (state : ρ × Machine) :
    (liftM act : Act (ρ × Machine) α) state = ((act state.2).1, (state.1, (act state.2).2)) := rfl

/-- Giving a value or reporting an error leaves the state as it is. -/
theorem ofExcept_apply (result : Except Errno α) (state : σ) :
    (ofExcept result : Act σ α) state = (result.mapError .errno, state) := by
  cases result <;> rfl

namespace Traces

section Control

variable [HasMachine σ] {state : σ}

/-- A log that is ready leaves no doubt. -/
theorem of_ready {act : Act σ α} {spec : List Event → Except Fault α → σ → Prop}
    (traces : act.Traces state spec) (ready : (machine state).LogReady) :
    ∃ calls, (machine state).Makes calls (machine (act state).2) ∧
      spec calls (act state).1 (act state).2 :=
  traces.resolve_right fun panicked => panicked.2 ready

theorem mono {act : Act σ α} {spec weaker : List Event → Except Fault α → σ → Prop}
    (traces : act.Traces state spec)
    (weaken : ∀ calls outcome next, spec calls outcome next → weaker calls outcome next) :
    act.Traces state weaker :=
  traces.imp_left fun ⟨calls, makes, meets⟩ => ⟨calls, makes, weaken _ _ _ meets⟩

theorem congr {act other : Act σ α} {spec : List Event → Except Fault α → σ → Prop}
    (same : act state = other state) (traces : other.Traces state spec) : act.Traces state spec := by
  unfold Traces at traces ⊢
  rw [same]
  exact traces

/-- An action whose end and calls are known meets what they meet. -/
theorem of_eq {act : Act σ α} {outcome : Except Fault α} {next : σ} {calls : List Event}
    {spec : List Event → Except Fault α → σ → Prop} (ended : act state = (outcome, next))
    (makes : (machine state).Makes calls (machine next)) (meets : spec calls outcome next) :
    act.Traces state spec := by
  refine .inl ⟨calls, ?_, ?_⟩
  · rw [ended]
    exact makes
  · rw [ended]
    exact meets

/-- An action that changes nothing but the rest of a state makes no call. -/
theorem of_still {act : Act σ α} {spec : List Event → Except Fault α → σ → Prop}
    (still : machine (act state).2 = machine state) (meets : spec [] (act state).1 (act state).2) :
    act.Traces state spec :=
  .inl ⟨[], still ▸ .nothing _, meets⟩

/-- What an action traces may be said of what it is known to do. -/
theorem known {act : Act σ α} {spec : List Event → Except Fault α → σ → Prop} (traces : act.Traces state spec) :
    act.Traces state fun calls outcome next => act state = (outcome, next) ∧ spec calls outcome next :=
  traces.imp_left fun ⟨calls, makes, meets⟩ => ⟨calls, makes, rfl, meets⟩

/-- What an action traces may be said of calls that the machine is known to make. -/
theorem made {act : Act σ α} {spec : List Event → Except Fault α → σ → Prop} (traces : act.Traces state spec) :
    act.Traces state fun calls outcome next =>
      (machine state).Makes calls (machine next) ∧ spec calls outcome next :=
  traces.imp_left fun ⟨calls, makes, meets⟩ => ⟨calls, makes, makes, meets⟩

theorem pure {value : α} {spec : List Event → Except Fault α → σ → Prop}
    (meets : spec [] (.ok value) state) : (Pure.pure value : Act σ α).Traces state spec :=
  of_still rfl meets

theorem fault {reason : Fault} {spec : List Event → Except Fault α → σ → Prop}
    (meets : spec [] (.error reason) state) : (Act.fault reason : Act σ α).Traces state spec :=
  of_still rfl meets

theorem bind {first : Act σ α} {second : α → Act σ β} {head : List Event → Except Fault α → σ → Prop}
    {spec : List Event → Except Fault β → σ → Prop} (traces : first.Traces state head)
    (onwards : ∀ calls value middle, head calls (.ok value) middle →
      (second value).Traces middle fun more outcome next => spec (calls ++ more) outcome next)
    (failed : ∀ calls reason next, head calls (.error reason) next → spec calls (.error reason) next) :
    (first >>= second).Traces state spec := by
  unfold Traces at traces ⊢
  rw [bind_apply]
  rcases ended : first state with ⟨reason | value, middle⟩
  · rw [ended] at traces
    refine traces.imp (fun ⟨calls, makes, meets⟩ => ⟨calls, makes, failed _ _ _ meets⟩) fun panicked => ?_
    cases panicked.1
    exact ⟨rfl, panicked.2⟩
  · rw [ended] at traces
    obtain ⟨calls, makes, meets⟩ | ⟨panicked, -⟩ := traces
    · refine (onwards calls value middle meets).imp ?_ fun ⟨panicked, unready⟩ => ?_
      · rintro ⟨more, later, meets⟩
        exact ⟨calls ++ more, makes.trans later, meets⟩
      · exact ⟨panicked, fun ready => unready (makes.logReady ready)⟩
    · cases panicked

/-- What follows an action that always succeeds makes the other calls. -/
theorem bind_success {first : Act σ α} {second : α → Act σ β} {value : α} {head : List Event → σ → Prop}
    {spec : List Event → Except Fault β → σ → Prop}
    (traces : first.Traces state fun calls outcome next => outcome = .ok value ∧ head calls next)
    (onwards : ∀ calls middle, head calls middle →
      (second value).Traces middle fun more outcome next => spec (calls ++ more) outcome next) :
    (first >>= second).Traces state spec := by
  apply traces.bind
  · rintro calls _ middle ⟨ended, meets⟩
    cases ended
    exact onwards calls middle meets
  · rintro calls reason next ⟨failed, -⟩
    contradiction

/-- An action that always succeeds makes all the calls if only a value is given after it. -/
theorem bind_success_pure {first : Act σ α} {value : α} {given : α → β} {head : List Event → σ → Prop}
    {spec : List Event → Except Fault β → σ → Prop}
    (traces : first.Traces state fun calls outcome next => outcome = .ok value ∧ head calls next)
    (meets : ∀ calls next, head calls next → spec calls (.ok (given value)) next) :
    (first >>= fun value => Pure.pure (given value)).Traces state spec := by
  apply traces.bind_success
  intro calls next headed
  apply pure
  rw [List.append_nil]
  exact meets calls next headed

/-- An action that succeeds unless it panics makes all the calls if only a value is given after it. -/
theorem bind_pure_of_panics {first : Act σ α} {value : α} {given : α → β} {head : List Event → σ → Prop}
    {spec : List Event → Except Fault β → σ → Prop}
    (traces : first.Traces state fun calls outcome next =>
      outcome = .error .panic ∨ outcome = .ok value ∧ head calls next)
    (panics : ∀ calls next, spec calls (.error .panic) next)
    (meets : ∀ calls next, head calls next → spec calls (.ok (given value)) next) :
    (first >>= fun value => Pure.pure (given value)).Traces state spec := by
  apply traces.bind
  · rintro calls _ next (failed | ⟨ended, headed⟩)
    · contradiction
    · cases ended
      apply pure
      rw [List.append_nil]
      exact meets calls next headed
  · rintro calls reason next (panicked | ⟨failed, -⟩)
    · cases panicked
      exact panics calls next
    · contradiction

theorem get_bind {second : σ → Act σ β} {spec : List Event → Except Fault β → σ → Prop}
    (traces : (second state).Traces state spec) : (Act.get >>= second).Traces state spec := traces

/-- Changing what stands beside the machine makes no call. -/
theorem modify_bind {change : σ → σ} {second : Unit → Act σ β} {spec : List Event → Except Fault β → σ → Prop}
    (still : machine (change state) = machine state) (traces : (second ()).Traces (change state) spec) :
    (Act.modify change >>= second).Traces state spec := by
  unfold Traces at traces ⊢
  rw [still] at traces
  exact traces

theorem map {act : Act σ α} {change : α → β} {spec : List Event → Except Fault β → σ → Prop}
    (traces : act.Traces state fun calls outcome next => spec calls (outcome.map change) next) :
    (change <$> act).Traces state spec := by
  rw [← bind_pure_comp]
  refine traces.bind (fun calls value middle meets => .pure ?_) fun calls reason next meets => meets
  rw [List.append_nil]
  exact meets

/-- An attempt makes the calls of the action, and a reported error becomes a value. -/
theorem attempt {act : Act σ α} {head : List Event → Except Fault α → σ → Prop}
    {spec : List Event → Except Fault (Except Errno α) → σ → Prop} (traces : act.Traces state head)
    (fine : ∀ calls value next, head calls (.ok value) next → spec calls (.ok (.ok value)) next)
    (failed : ∀ calls error next, head calls (.error (.errno error)) next →
      spec calls (.ok (.error error)) next)
    (panicked : ∀ calls next, head calls (.error .panic) next → spec calls (.error .panic) next)
    (exited : ∀ calls status next, head calls (.error (.exit status)) next →
      spec calls (.error (.exit status)) next) : act.attempt.Traces state spec := by
  unfold Traces at traces ⊢
  unfold Act.attempt
  generalize act state = ended at traces ⊢
  rcases ended with ⟨(error | _ | status) | value, next⟩
  · exact traces.imp (fun ⟨calls, makes, meets⟩ => ⟨calls, makes, failed _ _ _ meets⟩) (nomatch ·.1)
  · exact traces.imp (fun ⟨calls, makes, meets⟩ => ⟨calls, makes, panicked _ _ meets⟩) fun ended => ⟨rfl, ended.2⟩
  · exact traces.imp (fun ⟨calls, makes, meets⟩ => ⟨calls, makes, exited _ _ _ meets⟩) (nomatch ·.1)
  · exact traces.imp (fun ⟨calls, makes, meets⟩ => ⟨calls, makes, fine _ _ _ meets⟩) (nomatch ·.1)

/-- What follows an attempt makes the other calls, also after an error. -/
theorem attempt_bind {act : Act σ α} {second : Except Errno α → Act σ β}
    {head : List Event → Except Fault α → σ → Prop} {spec : List Event → Except Fault β → σ → Prop}
    (traces : act.Traces state head)
    (fine : ∀ calls value middle, head calls (.ok value) middle →
      (second (.ok value)).Traces middle fun more outcome next => spec (calls ++ more) outcome next)
    (failed : ∀ calls error middle, head calls (.error (.errno error)) middle →
      (second (.error error)).Traces middle fun more outcome next => spec (calls ++ more) outcome next)
    (panicked : ∀ calls next, head calls (.error .panic) next → spec calls (.error .panic) next)
    (exited : ∀ calls status next, head calls (.error (.exit status)) next →
      spec calls (.error (.exit status)) next) : (act.attempt >>= second).Traces state spec := by
  have attempted : act.attempt.Traces state fun calls outcome middle =>
      (∀ result, outcome = .ok result →
        (second result).Traces middle fun more outcome next => spec (calls ++ more) outcome next) ∧
      ∀ reason, outcome = .error reason → spec calls (.error reason) middle := by
    apply traces.attempt
    · intro calls value middle meets
      refine ⟨fun result same => ?_, nofun⟩
      cases same
      exact fine calls value middle meets
    · intro calls error middle meets
      refine ⟨fun result same => ?_, nofun⟩
      cases same
      exact failed calls error middle meets
    · intro calls next meets
      refine ⟨nofun, fun reason same => ?_⟩
      cases same
      exact panicked calls next meets
    · intro calls status next meets
      refine ⟨nofun, fun reason same => ?_⟩
      cases same
      exact exited calls status next meets
  exact attempted.bind (fun _ value _ meets => meets.1 value rfl) fun _ reason _ meets => meets.2 reason rfl

/-- An attempt at an action that ends with a result gives that result. -/
theorem attempt_result {act : Act σ α} {head : List Event → Except Errno α → σ → Prop}
    {spec : List Event → Except Fault (Except Errno α) → σ → Prop}
    (traces : act.Traces state fun calls outcome next =>
      ∃ result : Except Errno α, outcome = result.mapError .errno ∧ head calls result next)
    (meets : ∀ calls result next, head calls result next → spec calls (.ok result) next) :
    act.attempt.Traces state spec := by
  apply traces.attempt
  · rintro calls value next ⟨result | _, same, meets'⟩ <;> cases same
    exact meets _ _ _ meets'
  · rintro calls error next ⟨_ | result, same, meets'⟩ <;> cases same
    exact meets _ _ _ meets'
  · rintro calls next ⟨_ | _, same, -⟩ <;> cases same
  · rintro calls status next ⟨_ | _, same, -⟩ <;> cases same

/-- What follows an action that ends with a result makes the other calls, unless it is an error. -/
theorem bind_result {first : Act σ α} {second : α → Act σ β} {head : List Event → Except Errno α → σ → Prop}
    {spec : List Event → Except Fault β → σ → Prop}
    (traces : first.Traces state fun calls outcome next =>
      ∃ result : Except Errno α, outcome = result.mapError .errno ∧ head calls result next)
    (onwards : ∀ calls value middle, head calls (.ok value) middle →
      (second value).Traces middle fun more outcome next => spec (calls ++ more) outcome next)
    (failed : ∀ calls error next, head calls (.error error) next → spec calls (.error (.errno error)) next) :
    (first >>= second).Traces state spec := by
  apply traces.bind
  · rintro calls value next ⟨result | _, same, meets⟩ <;> cases same
    exact onwards _ _ _ meets
  · rintro calls reason next ⟨_ | result, same, meets⟩ <;> cases same
    exact failed _ _ _ meets

/-- What follows an outcome makes the other calls, and a panic must remain one. -/
theorem outcome_bind {act : Act σ α} {second : Except Fault α → Act σ β}
    {head : List Event → Except Fault α → σ → Prop} {spec : List Event → Except Fault β → σ → Prop}
    (traces : act.Traces state head)
    (onwards : ∀ calls ended middle, head calls ended middle →
      (second ended).Traces middle fun more outcome next => spec (calls ++ more) outcome next)
    (panics : ∀ middle, (second (.error .panic) middle).1 = .error .panic) :
    (act.outcome >>= second).Traces state spec := by
  unfold Traces at traces ⊢
  rw [bind_apply, outcome_apply]
  rcases ended : act state with ⟨outcome, middle⟩
  rw [ended] at traces
  obtain ⟨calls, makes, meets⟩ | ⟨panicked, unready⟩ := traces
  · refine (onwards calls outcome middle meets).imp ?_ fun ⟨panicked, unready⟩ => ?_
    · rintro ⟨more, later, meets⟩
      exact ⟨calls ++ more, makes.trans later, meets⟩
    · exact ⟨panicked, fun ready => unready (makes.logReady ready)⟩
  · have same : outcome = .error .panic := panicked
    subst same
    exact .inr ⟨panics middle, unready⟩

theorem ofExcept {result : Except Errno α} {spec : List Event → Except Fault α → σ → Prop}
    (meets : spec [] (result.mapError .errno) state) : (Act.ofExcept result : Act σ α).Traces state spec := by
  cases result with
  | ok value => exact pure meets
  | error error => exact fault meets

/-- What follows a value that was decided on makes all the calls. -/
theorem ofExcept_bind {result : Except Errno α} {second : α → Act σ β}
    {spec : List Event → Except Fault β → σ → Prop}
    (rejected : ∀ error, result = .error error → spec [] (.error (.errno error)) state)
    (onwards : ∀ value, result = .ok value → (second value).Traces state spec) :
    (Act.ofExcept result >>= second).Traces state spec := by
  cases result with
  | ok value => exact onwards value rfl
  | error error => exact fault (rejected error rfl)

end Control

section Parts

variable [HasMachine σ] [HasMachine τ]

theorem focus {part : σ → τ} {replace : σ → τ → σ} {act : Act τ α} {state : σ}
    {spec : List Event → Except Fault α → σ → Prop} (parts : machine (part state) = machine state)
    (replaced : ∀ next, machine (replace state next) = machine next)
    (traces : act.Traces (part state) fun calls outcome next => spec calls outcome (replace state next)) :
    (Act.focus part replace act).Traces state spec := by
  unfold Traces at traces ⊢
  rw [focus_apply, replaced, ← parts]
  exact traces

/-- An action on the machine makes its calls beside a value, too. -/
theorem lift {act : Sys α} {state : ρ × Machine} {spec : List Event → Except Fault α → ρ × Machine → Prop}
    (traces : act.Traces state.2 fun calls outcome next => spec calls outcome (state.1, next)) :
    (liftM act : Act (ρ × Machine) α).Traces state spec :=
  focus rfl (fun _ => rfl) traces

end Parts

variable {machine : Machine}

/-- A record is no call. -/
theorem tell {level : Level} {message : String} {spec : List Event → Except Fault Unit → Machine → Prop}
    (meets : ∀ next, machine.OnlyComplains next → spec [] (.ok ()) next) :
    (Log.tell level message).Traces machine spec := by
  rcases Log.tell_ends level message machine with ⟨next, told, complains⟩ | ⟨panicked, unready, -⟩
  · exact of_eq told (.told told (.nothing next)) (meets next complains)
  · exact .inr ⟨panicked, unready⟩

/-- What follows a record makes all the calls. -/
theorem tell_bind {level : Level} {message : String} {second : Unit → Sys α}
    {spec : List Event → Except Fault α → Machine → Prop}
    (onwards : ∀ next, machine.OnlyComplains next → (second ()).Traces next spec) :
    (Log.tell level message >>= second).Traces machine spec := by
  have told : (Log.tell level message).Traces machine fun calls outcome next =>
      calls = [] ∧ outcome = .ok () ∧ machine.OnlyComplains next := tell fun _ complains => ⟨rfl, rfl, complains⟩
  apply told.bind
  · rintro _ _ next ⟨rfl, -, complains⟩
    exact onwards next complains
  · rintro _ _ _ ⟨-, failed, -⟩
    contradiction

/-- A request that does not end the process is one call, and what follows learns its answer. -/
theorem perform_bind {request : Request} (stays : request.number ≠ CallKind.exit.number)
    {second : Reply → Sys α} {spec : List Event → Except Fault α → Machine → Prop}
    (onwards : ∀ reply next, (second reply).Traces next fun more outcome last =>
      spec (⟨.kernel request, some reply.word⟩ :: more) outcome last) :
    (perform request >>= second).Traces machine spec := by
  have answered := perform_of_ne_exit stays machine
  have performed : (perform request).Traces machine fun calls outcome _ =>
      ∃ reply, calls = [⟨.kernel request, some reply.word⟩] ∧ outcome = .ok reply :=
    of_eq answered (.asked answered (.nothing _)) ⟨_, rfl, rfl⟩
  apply performed.bind
  · rintro _ _ next ⟨reply, rfl, same⟩
    cases same
    exact onwards _ next
  · rintro _ _ _ ⟨reply, -, failed⟩
    contradiction

/-- A request to exit is one call without an answer, and nothing follows it. -/
theorem perform_bind_of_exit {request : Request} (exits : request.number = CallKind.exit.number)
    {second : Reply → Sys α} {spec : List Event → Except Fault α → Machine → Prop}
    (meets : ∀ next, spec [⟨.kernel request, none⟩] (.error (.exit (request.register 0))) next) :
    (perform request >>= second).Traces machine spec := by
  have left := perform_of_exit exits machine
  exact of_eq (bind_of_fault _ left) (.exited left (.nothing _)) (meets _)

end Traces

end Act

end LinuxCalls
