/-
This file follows the calls at the end of a stream's life. What a stream holds is released once, after
the writes of the last flush, and a writer that finishes well releases nothing.
-/

import LinuxCalls.Proofs.Stream.WriterEnd

namespace LinuxCalls

open Act (Faithful Faithfully Traces)

namespace Holding

/-- The calls that release what is held: a guard that is not lent is closed. -/
def Releases (holding : Holding) (calls : List Event) : Prop :=
  match holding.device, holding.lent with
  | .guard guard, false => ∃ word, calls = [(Descriptor.closing guard.descriptor).answered word]
  | _, _ => calls = []

/-- Releasing what is held ends well. -/
theorem traces_release (holding : Holding) {machine : Machine} :
    (Resource.release holding : Sys Unit).Traces machine fun calls outcome _ =>
      outcome = .ok () ∧ holding.Releases calls := by
  obtain ⟨device, slot, lent⟩ := holding
  cases lent with
  | true => cases device <;> exact .pure ⟨rfl, rfl⟩
  | false =>
    cases device with
    | reference held => exact .pure ⟨rfl, rfl⟩
    | cursor held => exact .pure ⟨rfl, rfl⟩
    | guard held =>
      refine held.traces_drop.mono ?_
      rintro calls outcome _ ⟨word, rfl, rfl⟩
      exact ⟨rfl, word, rfl⟩

/-- Releasing what is held ends well or with a panic. -/
theorem release_fst (holding : Holding) (machine : Machine) :
    (Resource.release holding machine).1 = .ok () ∨ (Resource.release holding machine).1 = .error .panic := by
  rcases holding.traces_release with ⟨_, _, ended, _⟩ | ⟨panicked, _⟩
  · exact .inl ended
  · exact .inr panicked

/-- What remains the same holding is released by the same calls. -/
theorem Remains.releases {origin : Holding} {state : Holding × Machine} {calls : List Event}
    (remains : origin.Remains state) (releases : state.1.Releases calls) : origin.Releases calls := by
  obtain ⟨⟨device, slot, lent⟩, machine⟩ := state
  obtain ⟨device', slot', lent'⟩ := origin
  obtain ⟨same, -, loan⟩ := remains
  have equal : lent = lent' := loan
  subst equal
  cases same <;> exact releases

end Holding

namespace Writer

variable {state : Writer Holding × Machine} {origin : Holding}

/-- A writer holds what it held at first. -/
abbrev Holds (origin : Holding) (state : Writer Holding × Machine) : Prop := DeviceKeeps origin.Remains state

/-- Releasing the device of a writer makes the calls that release what it held at first. -/
theorem traces_releaseDevice (holds : Holds origin state) :
    (drop.releaseDevice : Act (Writer Holding × Machine) Unit).Traces state fun calls outcome next =>
      outcome = .ok () ∧ Holds origin next ∧ origin.Releases calls := by
  have same : (drop.releaseDevice : Act (Writer Holding × Machine) Unit) state =
      (liftM (Resource.release state.1.device : Sys Unit) : Act (Writer Holding × Machine) Unit) state := rfl
  apply Traces.congr same
  apply Traces.lift
  refine state.1.device.traces_release.mono ?_
  rintro calls outcome next ⟨rfl, releases⟩
  exact ⟨rfl, ⟨holds.device, holds.slot, holds.lent⟩, holds.releases releases⟩

/-- The last flush writes to what the writer holds, and it never reports an error. -/
theorem traces_flushAtEnd (holds : Holds origin state) :
    (flushAtEnd : Act (Writer Holding × Machine) Unit).Traces state fun calls outcome next =>
      (outcome = .ok () ∨ outcome = .error .panic) ∧ Holds origin next ∧
        ∀ call ∈ calls, origin.device.Allows call := by
  apply Traces.congr (flushAtEnd_apply state)
  apply (traces_flush origin.faithful_sink origin.device.extends_cause holds).attempt_bind
  · rintro calls _ middle ⟨done, _⟩
    apply Traces.pure
    rw [List.append_nil]
    exact ⟨.inl rfl, done.kept, done.allowed⟩
  · rintro calls error middle ⟨done, _⟩
    have same : (self >>= fun writer => liftM (Log.tell .warn (lostOnDropText writer.buffer.length error)) :
        Act (Writer Holding × Machine) Unit) middle =
      (liftM (Log.tell .warn (lostOnDropText middle.1.buffer.length error)) :
        Act (Writer Holding × Machine) Unit) middle := rfl
    apply Traces.congr same
    apply Traces.lift
    apply Traces.tell
    intro next _
    rw [List.append_nil]
    exact ⟨.inl rfl, ⟨done.kept.device, done.kept.slot, done.kept.lent⟩, done.allowed⟩
  · rintro calls next ⟨done, _⟩
    exact ⟨.inr rfl, done.kept, done.allowed⟩
  · rintro calls status next ⟨_, _, stays⟩
    exact absurd rfl (stays status)

/-- A drop writes to what the writer holds and then releases it. -/
theorem traces_drop (holds : Holds origin state) :
    (drop : Act (Writer Holding × Machine) Unit).Traces state fun calls outcome next =>
      (outcome = .ok () ∨ outcome = .error .panic) ∧ Holds origin next ∧
        ∃ writes closes, calls = writes ++ closes ∧ (∀ call ∈ writes, origin.device.Allows call) ∧
          origin.Releases closes := by
  apply (traces_flushAtEnd holds).outcome_bind
  · rintro calls ended middle ⟨ends, kept, allowed⟩
    have releases : (drop.releaseDevice >>= fun _ => Act.resume ended :
        Act (Writer Holding × Machine) Unit).Traces middle fun more outcome next =>
          outcome = ended ∧ Holds origin next ∧ origin.Releases more := by
      apply (traces_releaseDevice kept).bind_success
      rintro more next ⟨kept, released⟩
      apply Traces.of_still
      · cases ended <;> rfl
      · rw [List.append_nil]
        cases ended <;> exact ⟨rfl, kept, released⟩
    have whole : (drop.releaseDevice >>= fun _ => Act.resume ended :
        Act (Writer Holding × Machine) Unit).Traces middle fun more outcome next =>
          (outcome = .ok () ∨ outcome = .error .panic) ∧ Holds origin next ∧
            ∃ writes closes, calls ++ more = writes ++ closes ∧
              (∀ call ∈ writes, origin.device.Allows call) ∧ origin.Releases closes := by
      refine releases.mono ?_
      rintro more outcome next ⟨rfl, kept, released⟩
      exact ⟨ends, kept, calls, more, rfl, allowed, released⟩
    rcases ends with rfl | rfl <;> exact whole
  · intro middle
    change ((drop.releaseDevice >>= fun _ => Act.fault .panic : Act (Writer Holding × Machine) Unit) middle).1 = _
    rw [Act.bind_apply, releaseDevice_apply]
    rcases middle.1.device.release_fst middle.2 with fine | panicked
    · rw [fine]
      rfl
    · rw [panicked]

/-- A drop ends well or with a panic. -/
theorem drop_fst (state : Writer Holding × Machine) :
    (drop state).1 = .ok () ∨ (drop state).1 = .error .panic := by
  have holds : Holds state.1.device state := state.1.device.remains_self state.2
  rcases traces_drop holds with ⟨_, _, ends, _⟩ | ⟨panicked, _⟩
  · exact ends
  · exact .inr panicked

/-- A flush whose failure is kept is faithful, and it panics only if a call is not within bounds. -/
theorem traces_flushOrLose (holds : Holds origin state) :
    (finish.flushOrLose : Act (Writer Holding × Machine) _).Traces state fun calls outcome next =>
      Faithfully (Holds origin) origin.device.Allows origin.device.Cause attempted? calls outcome next ∧
        ∀ reason, outcome = .error reason → reason = .panic ∧ ∃ call ∈ calls, ¬ call.IsWithin := by
  apply (traces_flush origin.faithful_sink origin.device.extends_cause holds).attempt_bind
  · rintro calls _ middle ⟨done, _⟩
    apply Traces.pure
    rw [List.append_nil]
    exact ⟨⟨done.kept, done.allowed, done.reports⟩, nofun⟩
  · rintro calls error middle ⟨done, _⟩
    have told : (liftM (Log.tell .warn (lostText middle.1.buffer.length error)) :
        Act (Writer Holding × Machine) Unit).Traces middle fun more outcome next =>
          more = [] ∧ outcome = .ok () ∧ Holds origin next := by
      apply Traces.lift
      apply Traces.tell
      intro next _
      exact ⟨rfl, rfl, done.kept.device, done.kept.slot, done.kept.lent⟩
    have same : (self >>= fun writer => liftM (Log.tell .warn (lostText writer.buffer.length error)) >>= fun _ =>
        setBuffer [] >>= fun _ => pure (.error error) : Act (Writer Holding × Machine) (Except Errno Unit)) middle =
      (liftM (Log.tell .warn (lostText middle.1.buffer.length error)) >>= fun _ =>
        setBuffer [] >>= fun _ => pure (.error error) : Act (Writer Holding × Machine) (Except Errno Unit)) middle :=
      rfl
    apply Traces.congr same
    apply told.bind
    · rintro _ _ next ⟨rfl, -, kept⟩
      apply Traces.of_still rfl
      rw [List.append_nil, List.append_nil]
      exact ⟨⟨⟨kept.device, kept.slot, kept.lent⟩, done.allowed, done.reports⟩, nofun⟩
    · rintro _ _ _ ⟨-, failed, -⟩
      contradiction
  · rintro calls next ⟨done, outside, _⟩
    refine ⟨⟨done.kept, done.allowed, done.reports⟩, fun reason ended => ?_⟩
    cases ended
    exact ⟨rfl, outside rfl⟩
  · rintro calls status next ⟨_, _, stays⟩
    exact absurd rfl (stays status)

/-- What a finish has done when it ends: the writes of the last flush, and the calls after them. -/
structure Finished (origin : Holding) (writes closes : List Event) (outcome : Except Fault Unit)
    (next : Writer Holding × Machine) : Prop where
  kept : Holds origin next
  allowed : ∀ call ∈ writes, origin.device.Allows call
  reports : Reports origin.device.Cause writes (reported (fun _ => none) outcome)
  handedOver : outcome = .ok () → closes = []
  released : ∀ error, outcome = .error (.errno error) → origin.Releases closes
  panicked : ∀ reason, outcome = .error reason → (∃ error, reason = .errno error) ∨
    reason = .panic ∧ ∃ call ∈ writes, ¬ call.IsWithin

/-- A finish hands over what the writer holds, or releases it once after the writes. -/
theorem traces_finish (holds : Holds origin state) :
    (finish : Act (Writer Holding × Machine) Unit).Traces state fun calls outcome next =>
      ∃ writes closes, calls = writes ++ closes ∧ Finished origin writes closes outcome next := by
  apply (traces_flushOrLose holds).outcome_bind
  · rintro writes ended middle ⟨done, faults⟩
    cases ended with
    | ok result =>
      cases result with
      | ok _ =>
        refine .pure ⟨writes, [], rfl, done.kept, done.allowed, done.reports, fun _ => rfl, nofun, nofun⟩
      | error error =>
        change (drop.releaseDevice >>= fun _ => Act.fail error : Act (Writer Holding × Machine) Unit).Traces _ _
        apply (traces_releaseDevice done.kept).bind_success
        rintro closes next ⟨kept, released⟩
        apply Traces.fault
        rw [List.append_nil]
        exact ⟨writes, closes, rfl, kept, done.allowed, done.reports, nofun, fun _ _ => released,
          fun _ ended => .inl ⟨error, (Except.error.inj ended).symm⟩⟩
    | error reason =>
      obtain ⟨rfl, outside⟩ := faults reason rfl
      change (drop >>= fun _ => Act.fault .panic : Act (Writer Holding × Machine) Unit).Traces _ _
      have panics {closes : List Event} {next : Writer Holding × Machine} (kept : Holds origin next) :
          Finished origin writes closes (.error .panic) next :=
        ⟨kept, done.allowed, done.reports, nofun, nofun,
          fun _ ended => .inr ⟨(Except.error.inj ended).symm, outside⟩⟩
      apply (traces_drop done.kept).bind
      · rintro closes _ next ⟨_, kept, _⟩
        apply Traces.fault
        rw [List.append_nil]
        exact ⟨writes, closes, rfl, panics kept⟩
      · rintro closes reason next ⟨ends, kept, _⟩
        have same : reason = .panic := by
          rcases ends with fine | panicked
          · contradiction
          · exact Except.error.inj panicked
        subst same
        exact ⟨writes, closes, rfl, panics kept⟩
  · intro middle
    change ((drop >>= fun _ => Act.fault .panic : Act (Writer Holding × Machine) Unit) middle).1 = _
    rw [Act.bind_apply]
    rcases ended : (drop : Act (Writer Holding × Machine) Unit) middle with ⟨outcome, next⟩
    have ends := drop_fst middle
    rw [ended] at ends
    rcases ends with fine | panicked
    · have same : outcome = .ok () := fine
      rw [same]
      rfl
    · have same : outcome = .error .panic := panicked
      rw [same]

end Writer

end LinuxCalls
