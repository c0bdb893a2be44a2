/-
This file keeps the accounts of mappings over the steps on readers and writers. A stream that holds a cursor
holds its mapping, too, and at the end of the stream the mapping is in a slot again.
-/

import LinuxCalls.Proofs.Mapping.Steps
import LinuxCalls.Proofs.Ownership.StreamSteps

namespace LinuxCalls

open Act (Confined Traces)

namespace Session

variable {session : Session}

/-- What is taken for a stream is its mapping, or nothing if the slot of the device is empty. -/
theorem traces_takeDevice (distinct : session.Distinct) (choice : DeviceChoice) :
    (takeDevice choice).Traces session fun calls outcome next => calls = [] ∧ next.Distinct ∧ ∃ held,
      outcome = .ok held ∧ session.mapped = next.mapped + held.elim 0 Holding.mapped := by
  cases choice with
  | reference descriptor => exact .pure ⟨rfl, distinct, _, rfl, (add_zero _).symm⟩
  | guard slot lent =>
    apply Traces.get_bind
    apply Traces.modify_bind rfl
    refine .pure ⟨rfl, ⟨distinct.mappings, distinct.cursors, distinct.readers, distinct.writers⟩, _, rfl, ?_⟩
    cases session.guards.get? slot <;> exact (add_zero _).symm
  | cursor slot lent =>
    apply Traces.get_bind
    apply Traces.modify_bind rfl
    refine .pure ⟨rfl, { distinct with cursors := Slots.nodup_names_erase distinct.cursors slot }, _, rfl, ?_⟩
    rw [mapped_eraseCursor distinct slot]
    cases session.cursors.get? slot <;> rfl

/-- A step that starts a stream retains all mappings if the stream that is stored does. -/
theorem retains_start (distinct : session.Distinct) (choice : DeviceChoice) {use : Holding → Act Session Report}
    (stores : ∀ (holding : Holding) (rest : Session), rest.Distinct →
      (use holding).Traces rest fun calls outcome next => outcome = .error .panic ∨
        next.Distinct ∧ Mapping.Leaves (rest.mapped + holding.mapped) calls next.mapped) :
    (takeDevice choice >>= fun held =>
      match held with
      | none => pure (.ofFailure (.emptySlot (deviceSlot choice)))
      | some holding => use holding).Traces session (Retains session) := by
  apply (traces_takeDevice distinct choice).bind
  · rintro _ held rest ⟨rfl, separate, _, same, taken⟩
    cases same
    cases held with
    | none =>
      rw [Option.elim_none, add_zero] at taken
      refine .pure (.inr ⟨separate, ?_⟩)
      rw [taken]
      exact .all rfl
    | some holding =>
      rw [Option.elim_some] at taken
      refine (stores holding rest separate).mono ?_
      intro calls outcome next stored
      rw [List.nil_append]
      unfold Retains
      rw [taken]
      exact stored
  · rintro _ reason _ ⟨-, -, held, failed, -⟩
    contradiction

end Session

open Session

namespace ReaderStep

variable {session : Session} {slot : String}

/-- An action on the reader in a slot leaves its mapping in it. -/
theorem retains_onReader (distinct : session.Distinct) (slot : String) {act : Act (Reader Holding × Machine) Report}
    (confined : ∀ origin, Reader.Confines origin act) : (onReader slot act).Traces session (Retains session) := by
  apply traces_withObject (.nothing distinct _)
  intro reader found
  apply Traces.focus rfl (fun _ => rfl)
  refine (confined reader.device (reader, session.machine) (reader.device.remains_self session.machine)).mono ?_
  rintro calls outcome next ⟨kept, inside⟩
  have quiet : Event.unmaps calls = [] :=
    Event.unmaps_eq_nil fun call member => Device.keepsMapped_of_allows (inside call member)
  have names := Slots.nodup_names_put distinct.readers slot next.1
  refine .inr ⟨⟨distinct.mappings, distinct.cursors, names, distinct.writers⟩, ?_⟩
  have same : mapped { session with readers := session.readers.put slot next.1 } = session.mapped := by
    rw [mapped_eraseReader distinct slot, found, Option.elim_some, ← Holding.Remains.mapped kept, mapped_putReader]
  change Mapping.Leaves _ _ (mapped { session with readers := session.readers.put slot next.1 })
  rw [same]
  exact .all quiet

/-- A step on a reader retains all mappings. -/
theorem retains_run (step : ReaderStep) (distinct : session.Distinct) :
    (step.run slot).Traces session (Retains session) := by
  cases step with
  | start choice capacity =>
    apply retains_start distinct choice
    intro holding rest separate
    have stores (reader : Reader Holding) (same : reader.device = holding) :
        (storeReader slot reader >>= fun _ => pure (Report.ofValue .nothing)).Traces rest fun calls outcome next =>
          outcome = .error .panic ∨
            next.Distinct ∧ Mapping.Leaves (rest.mapped + holding.mapped) calls next.mapped := by
      subst same
      exact (shelves_storeReader separate slot reader).bind_success_pure fun _ _ stored => .inr stored
    cases capacity with
    | none => exact stores (Reader.ofDevice holding) rfl
    | some capacity => exact stores (Reader.withCapacity capacity holding) rfl
  | fill => exact retains_onReader distinct slot fun _ => Reader.confines_available.bind fun _ => .pure _
  | consume amount =>
    exact retains_onReader distinct slot fun _ => (Reader.confines_consume amount).bind fun _ => .pure _
  | read size => exact retains_onReader distinct slot fun _ => (Reader.confines_read _).bind fun _ => .pure _
  | readExact size => exact retains_onReader distinct slot fun _ => (Reader.confines_readExact _).bind fun _ => .pure _
  | readUntil delimiter bytes =>
    exact retains_onReader distinct slot fun _ => (Reader.confines_readUntil delimiter bytes).bind fun _ => .pure _
  | readLine text =>
    exact retains_onReader distinct slot fun _ => (Reader.confines_readLine text).bind fun _ => .pure _
  | device => exact traces_withObject (.nothing distinct _) fun reader _ => .pure (.nothing distinct _)
  | finish =>
    apply traces_withObject (.nothing distinct _)
    intro reader found
    apply Traces.modify_bind rfl
    have rest : Distinct { session with readers := session.readers.erase slot } :=
      { distinct with readers := Slots.nodup_names_erase distinct.readers slot }
    have taken := mapped_eraseReader distinct slot
    rw [found, Option.elim_some] at taken
    apply (shelves_giveBack rest reader.device).bind_success_pure
    intro calls next shelves
    exact .inr ⟨shelves.distinct, taken ▸ shelves.leaves⟩
  | drop =>
    apply traces_withObject (.nothing distinct _)
    intro reader found
    apply (shelves_dropReader distinct slot).bind_success_pure
    intro calls next shelves
    exact .inr ⟨shelves.distinct, mapped_eraseReader distinct slot ▸ shelves.leaves⟩

end ReaderStep

namespace WriterStep

variable {session : Session} {slot : String}

/-- An action on the writer in a slot leaves its mapping in it. -/
theorem retains_onWriter (distinct : session.Distinct) (slot : String) (failure : Errno → Failure)
    {act : Act (Writer Holding × Machine) Unit} (confined : ∀ origin, Writer.Confines origin act) :
    (onWriter slot failure act).Traces session (Retains session) := by
  apply traces_withObject (.nothing distinct _)
  intro writer found
  have holds : Writer.Holds writer.device (writer, session.machine) := writer.device.remains_self session.machine
  apply Traces.focus rfl (fun _ => rfl)
  refine ((confined writer.device).attempt.bind (fun result => ?_) _ holds).mono ?_
  · exact .of_still fun state kept => ⟨rfl, kept⟩
  · rintro calls outcome next ⟨kept, inside⟩
    have quiet : Event.unmaps calls = [] :=
      Event.unmaps_eq_nil fun call member => Device.keepsMapped_of_allows (inside call member)
    have names := Slots.nodup_names_put distinct.writers slot next.1
    refine .inr ⟨⟨distinct.mappings, distinct.cursors, distinct.readers, names⟩, ?_⟩
    have same : mapped { session with writers := session.writers.put slot next.1 } = session.mapped := by
      rw [mapped_eraseWriter distinct slot, found, Option.elim_some, ← Holding.Remains.mapped kept, mapped_putWriter]
    change Mapping.Leaves _ _ (mapped { session with writers := session.writers.put slot next.1 })
    rw [same]
    exact .all quiet

/-- A step that finishes a writer gives its mapping back, or it settles the mapping after a failure. -/
theorem retains_finish (distinct : session.Distinct) (slot : String) :
    (run slot .finish).Traces session (Retains session) := by
  cases found : session.writers.get? slot with
  | none =>
    apply traces_withObject (.nothing distinct _)
    intro writer there
    rw [found] at there
    contradiction
  | some writer =>
    have rest : Distinct { session with writers := session.writers.erase slot } :=
      { distinct with writers := Slots.nodup_names_erase distinct.writers slot }
    -- What the writer held is put into a slot after the calls of the writer.
    have retains {calls more : List Event} {outcome : Except Fault Report} {holding : Holding} {machine : Machine}
        {next : Session} (kept : writer.device.Remains (holding, machine)) (quiet : Event.unmaps calls = [])
        (shelves : Shelves holding.mapped
          { session with writers := session.writers.erase slot, machine := machine } more next) :
        Retains session (calls ++ more) outcome next := by
      have taken := mapped_eraseWriter distinct slot
      rw [found, Option.elim_some, ← kept.mapped] at taken
      exact .inr ⟨shelves.distinct, taken ▸ (shelves.after quiet).leaves⟩
    apply traces_finish_of found
    · intro writes holding machine kept allowed
      have quiet : Event.unmaps writes = [] :=
        Event.unmaps_eq_nil fun call member => Device.keepsMapped_of_allows (allowed call member)
      refine (shelves_giveBack (rest.withMachine machine) holding).mono ?_
      rintro more outcome next ⟨ended, shelves⟩
      exact ⟨ended, retains kept quiet shelves⟩
    · intro writes closes error holding machine kept allowed releases
      refine (shelves_settle (rest.withMachine machine) holding).mono ?_
      rintro more outcome next ⟨ended, shelves⟩
      exact ⟨ended, retains kept (Holding.unmaps_of_stream allowed releases) shelves⟩
    · exact fun _ _ => .inl rfl

/-- A step on a writer retains all mappings. -/
theorem retains_run (step : WriterStep) (distinct : session.Distinct) :
    (step.run slot).Traces session (Retains session) := by
  cases step with
  | start choice capacity =>
    apply retains_start distinct choice
    intro holding rest separate
    have stores (writer : Writer Holding) (same : writer.device = holding) :
        (storeWriter slot writer >>= fun _ => pure (Report.ofValue .nothing)).Traces rest fun calls outcome next =>
          outcome = .error .panic ∨
            next.Distinct ∧ Mapping.Leaves (rest.mapped + holding.mapped) calls next.mapped := by
      subst same
      apply (shelves_storeWriter separate slot writer).bind_pure_of_panics
      · exact fun _ _ => .inl rfl
      · exact fun _ _ stored => .inr stored
    cases capacity with
    | none => exact stores (Writer.ofDevice holding) rfl
    | some capacity => exact stores (Writer.withCapacity capacity holding) rfl
  | writeAll bytes => exact retains_onWriter distinct slot _ fun _ => Writer.confines_writeAll bytes
  | writeFormat format => exact retains_onWriter distinct slot _ fun _ => Writer.confines_writeFormat format
  | writeText text => exact retains_onWriter distinct slot _ fun _ => Writer.confines_writeAll (Bytes.ofText text)
  | flush => exact retains_onWriter distinct slot _ fun _ => Writer.confines_flush
  | device => exact traces_withObject (.nothing distinct _) fun writer _ => .pure (.nothing distinct _)
  | finish => exact retains_finish distinct slot
  | drop =>
    apply traces_withObject (.nothing distinct _)
    intro writer found
    apply (shelves_dropWriter distinct slot).bind_pure_of_panics
    · exact fun _ _ => .inl rfl
    · exact fun _ _ shelves => .inr ⟨shelves.distinct, mapped_eraseWriter distinct slot ▸ shelves.leaves⟩

end WriterStep

/-- A step is on objects: on guards, mappings, cursors or streams. -/
def Step.IsOnObjects : Step → Prop
  | .guard _ | .mapping _ | .cursor _ | .reader _ _ | .writer _ _ => True
  | _ => False

/-- Every step on objects keeps the accounts of mappings. -/
theorem Step.keepsTally_run (step : Step) (objects : step.IsOnObjects) {session : Session}
    (distinct : session.Distinct) : step.run.Traces session (step.KeepsTally session) := by
  cases step with
  | guard step => exact Spares.keepsTally step.spares_run distinct fun _ => rfl
  | mapping step => exact step.traces_run distinct
  | cursor step => exact (step.traces_run distinct).mono fun _ _ _ retains => retains.keepsTally fun _ _ => rfl
  | reader slot step => exact (step.retains_run distinct).mono fun _ _ _ retains => retains.keepsTally fun _ _ => rfl
  | writer slot step => exact (step.retains_run distinct).mono fun _ _ _ retains => retains.keepsTally fun _ _ => rfl
  | _ => exact objects.elim

end LinuxCalls
