/-
This file keeps the accounts of the steps on readers and writers that hold guards. A stream neither
acquires a descriptor nor gives one up, and the guard in it lives until its end comes.
-/

import LinuxCalls.Proofs.Ownership.Steps

namespace LinuxCalls

open Act (Confined Traces)

namespace Session

variable {session : Session}

/-- The balance is kept without a gain and without a loss, unless there is a panic. -/
def Preserves {α : Type} (before : Session) (calls : List Event) (outcome : Except Fault α) (next : Session) : Prop :=
  outcome = .error .panic ∨ next.Sound ∧ Balance before.live calls [] [] next.live

/-- Nothing is kept at all times. -/
theorem Preserves.nothing {α : Type} (sound : session.Sound) (outcome : Except Fault α) :
    session.Preserves [] outcome session := .inr ⟨sound, .even⟩

/-- A step on a reader that keeps the balance is accounted for. -/
theorem Preserves.accounts_reader {before next : Session} {calls : List Event} {outcome : Except Fault Report}
    (preserves : before.Preserves calls outcome next) (slot : String) (step : ReaderStep) :
    (Step.reader slot step).Accounts before calls outcome next := by
  intro report reported
  rcases preserves with rfl | ⟨sound, balance⟩
  · contradiction
  · exact ⟨sound, balance, rfl, nofun, False.elim, fun _ _ => rfl⟩

/-- A step on a writer that keeps the balance is accounted for. -/
theorem Preserves.accounts_writer {before next : Session} {calls : List Event} {outcome : Except Fault Report}
    (preserves : before.Preserves calls outcome next) (slot : String) (step : WriterStep) :
    (Step.writer slot step).Accounts before calls outcome next := by
  intro report reported
  rcases preserves with rfl | ⟨sound, balance⟩
  · contradiction
  · exact ⟨sound, balance, rfl, nofun, False.elim, fun _ _ => rfl⟩

/-- What follows the taking of a guard begins with its slot empty. -/
theorem traces_takeDevice_bind {α : Type} {slot : String} {lent : Bool} {use : Option Holding → Act Session α}
    {spec : List Event → Except Fault α → Session → Prop}
    (traces : (use ((session.guards.get? slot).map fun guard => ⟨.guard guard, slot, lent⟩)).Traces
      { session with guards := session.guards.erase slot } spec) :
    (takeDevice (.guard slot lent) >>= use).Traces session spec := traces

/-- A step that takes a guard for a stream finds it in its slot, or it reports that the slot is empty. -/
theorem traces_start (sound : session.Sound) {slot : String} {lent : Bool} {use : Holding → Act Session Report}
    (stores : ∀ holding : Holding, holding.HasGuard → ∀ rest : Session, rest.Sound →
      (use holding).Traces rest fun calls outcome next =>
        outcome = .error .panic ∨ next.Sound ∧ Balance (rest.live + holding.owned) calls [] [] next.live) :
    (takeDevice (.guard slot lent) >>= fun held =>
      match held with
      | none => pure (.ofFailure (.emptySlot slot))
      | some holding => use holding).Traces session (Preserves session) := by
  apply traces_takeDevice_bind
  have rest := sound.eraseGuard slot
  have taken := live_eraseGuard sound slot
  cases found : session.guards.get? slot with
  | none =>
    rw [found, Option.elim_none, add_zero] at taken
    refine .pure (.inr ⟨rest, ?_⟩)
    rw [taken]
    exact .even
  | some guard =>
    rw [found, Option.elim_some] at taken
    refine (stores ⟨.guard guard, slot, lent⟩ ⟨guard, rfl⟩ _ rest).mono fun calls outcome next stored => ?_
    unfold Preserves
    rw [taken]
    exact stored

section Readers

variable {reader : Reader Holding} {slot : String}

/-- What a reader in a slot holds is among what lives. -/
theorem owned_le_of_reader (sound : session.Sound) (found : session.readers.get? slot = some reader) :
    reader.device.owned ≤ session.live := by
  rw [live_eraseReader sound slot, found]
  exact Multiset.le_add_left _ _

/-- A reader that makes way for one that holds the same changes nothing. -/
theorem live_replaceReader (sound : session.Sound) (found : session.readers.get? slot = some reader)
    {other : Reader Holding} (same : other.device = reader.device) :
    live { session with readers := session.readers.put slot other } = session.live := by
  rw [live_eraseReader sound slot, found, Option.elim_some, ← same]
  unfold live
  rw [Slots.total_put]
  abel

end Readers

section Writers

variable {writer : Writer Holding} {slot : String}

/-- What a writer in a slot holds is among what lives. -/
theorem owned_le_of_writer (sound : session.Sound) (found : session.writers.get? slot = some writer) :
    writer.device.owned ≤ session.live := by
  rw [live_eraseWriter sound slot, found]
  exact Multiset.le_add_left _ _

/-- A writer that makes way for one that holds the same changes nothing. -/
theorem live_replaceWriter (sound : session.Sound) (found : session.writers.get? slot = some writer)
    {other : Writer Holding} (same : other.device = writer.device) :
    live { session with writers := session.writers.put slot other } = session.live := by
  rw [live_eraseWriter sound slot, found, Option.elim_some, ← same]
  unfold live
  rw [Slots.total_put]
  abel

end Writers

end Session

open Session

namespace ReaderStep

variable {session : Session} {slot : String}

/-- An action on the reader in a slot leaves the guard in it. -/
theorem traces_onReader (sound : session.Sound) (slot : String) {act : Act (Reader Holding × Machine) Report}
    (confined : ∀ origin, Reader.Confines origin act) :
    (onReader slot act).Traces session (Preserves session) := by
  apply traces_withObject (.nothing sound _)
  intro reader found
  have has := sound.hasGuard_reader found
  apply Traces.focus rfl (fun _ => rfl)
  refine (confined reader.device (reader, session.machine) (reader.device.remains_self session.machine)).mono ?_
  rintro calls outcome next ⟨kept, inside⟩
  have same : next.1.device = reader.device := has.eq_of_remains kept
  have live := live_replaceReader sound found same
  refine .inr ⟨(sound.putReader slot (same ▸ has)).withMachine next.2, ?_⟩
  have uses : Balance session.live calls [] [] session.live := .of_harmless fun call member =>
    (has.harmless (inside call member)).mono (owned_le_of_reader sound found)
  exact live ▸ uses

/-- A step on a reader over a guard keeps the balance. -/
theorem traces_run (step : ReaderStep) (owning : (Step.reader slot step).IsOwning) (sound : session.Sound) :
    (step.run slot).Traces session (Preserves session) := by
  cases step with
  | start choice capacity =>
    obtain ⟨name, lent, rfl⟩ := owning
    apply traces_start sound
    intro holding has rest sound
    have stores (reader : Reader Holding) (same : reader.device = holding) :
        (storeReader slot reader >>= fun _ => pure (Report.ofValue .nothing)).Traces rest fun calls outcome next =>
          outcome = .error .panic ∨ next.Sound ∧ Balance (rest.live + holding.owned) calls [] [] next.live := by
      subst same
      exact (traces_storeReader sound slot has).bind_success_pure fun _ _ stored => .inr stored
    cases capacity with
    | none => exact stores (Reader.ofDevice holding) rfl
    | some capacity => exact stores (Reader.withCapacity capacity holding) rfl
  | fill => exact traces_onReader sound slot fun _ => Reader.confines_available.bind fun _ => .pure _
  | consume amount => exact traces_onReader sound slot fun _ => (Reader.confines_consume amount).bind fun _ => .pure _
  | read size => exact traces_onReader sound slot fun _ => (Reader.confines_read _).bind fun _ => .pure _
  | readExact size => exact traces_onReader sound slot fun _ => (Reader.confines_readExact _).bind fun _ => .pure _
  | readUntil delimiter bytes =>
    exact traces_onReader sound slot fun _ => (Reader.confines_readUntil delimiter bytes).bind fun _ => .pure _
  | readLine text =>
    exact traces_onReader sound slot fun _ => (Reader.confines_readLine text).bind fun _ => .pure _
  | device => exact traces_withObject (.nothing sound _) fun reader _ => .pure (.nothing sound _)
  | finish =>
    apply traces_withObject (.nothing sound _)
    intro reader found
    apply Traces.modify_bind rfl
    apply (traces_giveBack (sound.eraseReader slot) (sound.hasGuard_reader found)).bind_success_pure
    intro calls next settles
    have taken := live_eraseReader sound slot
    rw [found, Option.elim_some] at taken
    exact .inr ⟨settles.sound, taken ▸ settles.balance⟩
  | drop =>
    apply traces_withObject (.nothing sound _)
    intro reader found
    apply (traces_dropReader sound slot).bind_success_pure
    intro calls next settles
    exact .inr ⟨settles.sound, live_eraseReader sound slot ▸ settles.balance⟩

end ReaderStep

namespace WriterStep

variable {session : Session} {slot : String}

/-- An action on the writer in a slot leaves the guard in it. -/
theorem traces_onWriter (sound : session.Sound) (slot : String) (failure : Errno → Failure)
    {act : Act (Writer Holding × Machine) Unit} (confined : ∀ origin, Writer.Confines origin act) :
    (onWriter slot failure act).Traces session (Preserves session) := by
  apply traces_withObject (.nothing sound _)
  intro writer found
  have has := sound.hasGuard_writer found
  have holds : Writer.Holds writer.device (writer, session.machine) := writer.device.remains_self session.machine
  apply Traces.focus rfl (fun _ => rfl)
  refine ((confined writer.device).attempt.bind (fun result => ?_) _ holds).mono ?_
  · exact .of_still fun state kept => ⟨rfl, kept⟩
  · rintro calls outcome next ⟨kept, inside⟩
    have same : next.1.device = writer.device := has.eq_of_remains kept
    have live := live_replaceWriter sound found same
    refine .inr ⟨(sound.putWriter slot (same ▸ has)).withMachine next.2, ?_⟩
    have uses : Balance session.live calls [] [] session.live := .of_harmless fun call member =>
      (has.harmless (inside call member)).mono (owned_le_of_writer sound found)
    exact live ▸ uses

/--
A step that finishes a writer makes the writes of its last flush. What the writer holds is given back after
them, or released and settled if they have failed.
-/
theorem traces_finish_of {writer : Writer Holding} (found : session.writers.get? slot = some writer)
    {spec : List Event → Except Fault Report → Session → Prop}
    (handed : ∀ writes holding machine, writer.device.Remains (holding, machine) →
      (∀ call ∈ writes, writer.device.device.Allows call) →
        (giveBack holding).Traces { session with writers := session.writers.erase slot, machine := machine }
          fun more outcome next => outcome = .ok () ∧ spec (writes ++ more) (.ok (.ofValue holding.shown)) next)
    (settled : ∀ writes closes error holding machine, writer.device.Remains (holding, machine) →
      (∀ call ∈ writes, writer.device.device.Allows call) → writer.device.Releases closes →
        (settle holding).Traces { session with writers := session.writers.erase slot, machine := machine }
          fun more outcome next => outcome = .ok () ∧ spec (writes ++ closes ++ more) (.error (.errno error)) next)
    (panicked : ∀ calls next, spec calls (.error .panic) next) : (run slot .finish).Traces session spec := by
  have holds : Writer.Holds writer.device (writer, session.machine) := writer.device.remains_self session.machine
  apply Traces.congr (withObject_of_some found _)
  apply Traces.modify_bind rfl
  apply Traces.beside_bind
  · exact Writer.traces_finish holds
  · rintro _ ended last ⟨writes, closes, rfl, finished⟩
    dsimp only
    cases ended with
    | ok _ =>
      have none := finished.handedOver rfl
      subst none
      rw [List.append_nil]
      exact (handed writes last.1.device last.2 finished.kept finished.allowed).bind_success_pure fun _ _ met => met
    | error reason =>
      rcases finished.panicked reason rfl with ⟨error, rfl⟩ | ⟨rfl, _⟩
      · have released := finished.released error rfl
        apply (settled writes closes error last.1.device last.2 finished.kept finished.allowed released).bind_success
        intro more next met
        apply Traces.fault
        rwa [List.append_nil more]
      · exact .fault (panicked _ _)
  · intro own middle
    rfl

/-- A step that finishes a writer gives its guard back, or it settles the guard after a failure. -/
theorem traces_finish (sound : session.Sound) (slot : String) :
    (run slot .finish).Traces session (Preserves session) := by
  cases found : session.writers.get? slot with
  | none =>
    apply traces_withObject (.nothing sound _)
    intro writer there
    rw [found] at there
    contradiction
  | some writer =>
    have has := sound.hasGuard_writer found
    have rest := sound.eraseWriter slot
    have taken := live_eraseWriter sound slot
    rw [found, Option.elim_some] at taken
    have wrote {writes : List Event} (allowed : ∀ call ∈ writes, writer.device.device.Allows call) :
        Balance writer.device.owned writes [] [] writer.device.owned :=
      .of_harmless fun call member => has.harmless (allowed call member)
    -- What is in the hand after the calls of the writer is settled next.
    have preserves {hand : Multiset Descriptor} {calls more : List Event} {outcome : Except Fault Report}
        {machine : Machine} {next : Session} (balance : Balance writer.device.owned calls [] [] hand)
        (settles : Settles hand { session with writers := session.writers.erase slot, machine := machine } more next) :
        Preserves session (calls ++ more) outcome next :=
      .inr ⟨settles.sound, taken ▸ (settles.after balance).balance⟩
    apply traces_finish_of found
    · intro writes holding machine kept allowed
      have same : holding = writer.device := has.eq_of_remains kept
      subst same
      refine (traces_giveBack (rest.withMachine machine) has).mono ?_
      rintro more outcome next ⟨ended, settles⟩
      exact ⟨ended, preserves (wrote allowed) settles⟩
    · intro writes closes error holding machine kept allowed releases
      have same : holding = writer.device := has.eq_of_remains kept
      subst same
      refine (traces_settle (rest.withMachine machine) has).mono ?_
      rintro more outcome next ⟨ended, settles⟩
      exact ⟨ended, preserves ((wrote allowed).trans (has.balance_of_releases releases)) settles⟩
    · exact fun _ _ => .inl rfl

/-- A step on a writer over a guard keeps the balance. -/
theorem traces_run (step : WriterStep) (owning : (Step.writer slot step).IsOwning) (sound : session.Sound) :
    (step.run slot).Traces session (Preserves session) := by
  cases step with
  | start choice capacity =>
    obtain ⟨name, lent, rfl⟩ := owning
    apply traces_start sound
    intro holding has rest sound
    have stores (writer : Writer Holding) (same : writer.device = holding) :
        (storeWriter slot writer >>= fun _ => pure (Report.ofValue .nothing)).Traces rest fun calls outcome next =>
          outcome = .error .panic ∨ next.Sound ∧ Balance (rest.live + holding.owned) calls [] [] next.live := by
      subst same
      apply (traces_storeWriter sound slot has).bind_pure_of_panics
      · exact fun _ _ => .inl rfl
      · exact fun _ _ stored => .inr stored
    cases capacity with
    | none => exact stores (Writer.ofDevice holding) rfl
    | some capacity => exact stores (Writer.withCapacity capacity holding) rfl
  | writeAll bytes => exact traces_onWriter sound slot _ fun _ => Writer.confines_writeAll bytes
  | writeFormat format => exact traces_onWriter sound slot _ fun _ => Writer.confines_writeFormat format
  | writeText text => exact traces_onWriter sound slot _ fun _ => Writer.confines_writeAll (Bytes.ofText text)
  | flush => exact traces_onWriter sound slot _ fun _ => Writer.confines_flush
  | device => exact traces_withObject (.nothing sound _) fun writer _ => .pure (.nothing sound _)
  | finish => exact traces_finish sound slot
  | drop =>
    apply traces_withObject (.nothing sound _)
    intro writer found
    apply (traces_dropWriter sound slot).bind_pure_of_panics
    · exact fun _ _ => .inl rfl
    · exact fun _ _ settles => .inr ⟨settles.sound, live_eraseWriter sound slot ▸ settles.balance⟩

end WriterStep

/-- Every step on guards, or on streams over guards, is accounted for. -/
theorem Step.traces_run (step : Step) (owning : step.IsOwning) {session : Session} (sound : session.Sound) :
    step.run.Traces session (step.Accounts session) := by
  cases step with
  | guard step => exact step.traces_run sound
  | reader slot step =>
    exact (step.traces_run owning sound).mono fun _ _ _ preserves => preserves.accounts_reader slot step
  | writer slot step =>
    exact (step.traces_run owning sound).mono fun _ _ _ preserves => preserves.accounts_writer slot step
  | _ => exact owning.elim

end LinuxCalls
