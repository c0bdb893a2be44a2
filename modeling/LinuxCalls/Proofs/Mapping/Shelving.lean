/-
This file follows the actions that put mappings into slots and take them out. What is dropped is unmapped,
what a cursor or a stream has taken goes back to its slot, and what is replaced there is dropped in its turn.
-/

import LinuxCalls.Proofs.Mapping.Custody
import LinuxCalls.Proofs.Ownership.Settling

namespace LinuxCalls

open Act (Traces)

namespace Session

/-- Apart from guards, all objects are where they were. -/
structure SameObjects (before next : Session) : Prop where
  mappings : next.mappings = before.mappings
  cursors : next.cursors = before.cursors
  readers : next.readers = before.readers
  writers : next.writers = before.writers

/--
Calls put what is in the hand into the places of a session, which keeps its streams. The mappings that make
way for it are unmapped.
-/
structure Shelves (hand : Multiset Mapping) (before : Session) (calls : List Event) (next : Session) : Prop where
  distinct : next.Distinct
  leaves : Mapping.Leaves (before.mapped + hand) calls next.mapped
  readers : next.readers = before.readers
  writers : next.writers = before.writers

variable {session : Session}

/-- What the machine does leaves the objects distinct. -/
theorem Distinct.withMachine (distinct : session.Distinct) (machine : Machine) :
    Distinct { session with machine := machine } :=
  ⟨distinct.mappings, distinct.cursors, distinct.readers, distinct.writers⟩

/-- Calls that unmap nothing while all objects stay where they are leave nothing to put anywhere. -/
theorem SameObjects.shelves {next : Session} {calls : List Event} (same : session.SameObjects next)
    (distinct : session.Distinct) (quiet : Event.unmaps calls = []) : Shelves 0 session calls next := by
  obtain ⟨machine, guards, mappings, cursors, readers, writers⟩ := next
  obtain ⟨rfl, rfl, rfl, rfl⟩ := same
  refine ⟨⟨distinct.mappings, distinct.cursors, distinct.readers, distinct.writers⟩, ?_, rfl, rfl⟩
  rw [add_zero]
  exact .all quiet

/-- Without a call nothing is put anywhere. -/
theorem Shelves.nothing (distinct : session.Distinct) : Shelves 0 session [] session :=
  SameObjects.shelves ⟨rfl, rfl, rfl, rfl⟩ distinct rfl

/-- Calls before that unmap nothing do not matter. -/
theorem Shelves.after {hand : Multiset Mapping} {calls more : List Event} {next : Session}
    (quiet : Event.unmaps calls = []) (shelves : Shelves hand session more next) :
    Shelves hand session (calls ++ more) next :=
  { shelves with leaves := (Mapping.Leaves.all quiet).trans shelves.leaves }

section Guards

/-- A guard that is dropped leaves all other objects where they are. -/
theorem shelves_dropGuard (slot : String) : (dropGuard slot).Traces session fun calls outcome next =>
    outcome = .ok () ∧ session.SameObjects next ∧ ∀ call ∈ calls, call.KeepsMapped := by
  apply Traces.get_bind
  apply Traces.modify_bind rfl
  cases session.guards.get? slot with
  | none => exact .pure ⟨rfl, ⟨rfl, rfl, rfl, rfl⟩, nofun⟩
  | some guard =>
    apply traces_onMachine
    refine guard.traces_drop.mono ?_
    rintro _ _ next ⟨word, rfl, rfl⟩
    refine ⟨rfl, ⟨rfl, rfl, rfl, rfl⟩, ?_⟩
    simpa using Descriptor.keepsMapped_closing guard.descriptor word

/-- A guard that is stored leaves all other objects where they are. -/
theorem shelves_storeGuard (slot : String) (guard : Guard) :
    (storeGuard slot guard).Traces session fun calls outcome next =>
      outcome = .ok () ∧ session.SameObjects next ∧ ∀ call ∈ calls, call.KeepsMapped := by
  apply (shelves_dropGuard slot).bind_success
  rintro calls middle ⟨⟨mappings, cursors, readers, writers⟩, keeps⟩
  apply Traces.of_still rfl
  rw [List.append_nil]
  exact ⟨rfl, ⟨mappings, cursors, readers, writers⟩, keeps⟩

end Guards

section Mappings

/-- The requests that drop what is in a mapping's slot. -/
def drops (session : Session) (slot : String) : List Question :=
  (session.mappings.get? slot).toList.map fun mapping => .kernel mapping.unmapping

/-- The mapping in a slot is dropped by one request, and its slot is empty. -/
theorem traces_dropMapping (slot : String) : (dropMapping slot).Traces session fun calls outcome next =>
    outcome = .ok () ∧ calls.map Event.question = session.drops slot ∧
      ∃ machine, next = { session with mappings := session.mappings.erase slot, machine := machine } := by
  apply Traces.get_bind
  apply Traces.modify_bind rfl
  unfold drops
  cases session.mappings.get? slot with
  | none => exact .pure ⟨rfl, rfl, session.machine, rfl⟩
  | some mapping =>
    apply traces_onMachine
    refine mapping.traces_drop.mono ?_
    rintro _ _ next ⟨word, rfl, rfl⟩
    exact ⟨rfl, rfl, next, rfl⟩

/-- A mapping is stored in its slot once the mapping that was there is dropped. -/
theorem traces_storeMapping (slot : String) (mapping : Mapping) :
    (storeMapping slot mapping).Traces session fun calls outcome next =>
      outcome = .ok () ∧ calls.map Event.question = session.drops slot ∧
        ∃ machine, next = { session with mappings := session.mappings.put slot mapping, machine := machine } := by
  apply (traces_dropMapping slot).bind_success
  rintro calls _ ⟨asked, machine, rfl⟩
  apply Traces.of_still rfl
  rw [List.append_nil]
  refine ⟨rfl, asked, machine, ?_⟩
  have placed : (session.mappings.erase slot).put slot mapping = session.mappings.put slot mapping :=
    Slots.put_erase session.mappings slot mapping
  change { session with mappings := (session.mappings.erase slot).put slot mapping, machine := machine } = _
  rw [placed]

/-- The requests that drop what is in a mapping's slot leave the other mappings. -/
theorem leaves_of_drops (distinct : session.Distinct) {slot : String} {calls : List Event}
    (asked : calls.map Event.question = session.drops slot) : Mapping.Leaves session.mapped calls
      (mapped { session with mappings := session.mappings.erase slot }) := by
  have unmapped : Event.unmaps calls = (session.mappings.get? slot).toList.map Mapping.range := by
    rw [Event.unmaps, asked, drops, List.filterMap_map]
    exact congrFun List.filterMap_eq_map _
  refine ⟨(session.mappings.get? slot).toList, ?_, unmapped⟩
  rw [mapped_eraseMapping distinct slot]
  cases session.mappings.get? slot <;> rfl

/-- A mapping that is dropped is unmapped. -/
theorem shelves_dropMapping (distinct : session.Distinct) (slot : String) :
    (dropMapping slot).Traces session fun calls outcome next =>
      outcome = .ok () ∧ Shelves 0 session calls next := by
  refine (traces_dropMapping slot).mono ?_
  rintro calls _ _ ⟨rfl, asked, machine, rfl⟩
  have names := Slots.nodup_names_erase distinct.mappings slot
  refine ⟨rfl, ⟨names, distinct.cursors, distinct.readers, distinct.writers⟩, ?_, rfl, rfl⟩
  rw [add_zero]
  exact leaves_of_drops distinct asked

/-- A mapping that is put into a slot lives there once the requests for what was there are made. -/
theorem Shelves.stored (distinct : session.Distinct) {slot : String} (mapping : Mapping) {calls : List Event}
    (asked : calls.map Event.question = session.drops slot) (machine : Machine) : Shelves {mapping} session calls
      { session with mappings := session.mappings.put slot mapping, machine := machine } := by
  have names := Slots.nodup_names_put distinct.mappings slot mapping
  refine ⟨⟨names, distinct.cursors, distinct.readers, distinct.writers⟩, ?_, rfl, rfl⟩
  have leaves := (leaves_of_drops distinct asked).beside {mapping}
  rw [← mapped_putMapping] at leaves
  exact leaves

/-- A mapping lives in the slot where it is stored. -/
theorem shelves_storeMapping (distinct : session.Distinct) (slot : String) (mapping : Mapping) :
    (storeMapping slot mapping).Traces session fun calls outcome next =>
      outcome = .ok () ∧ Shelves {mapping} session calls next ∧ next.cursors = session.cursors := by
  refine (traces_storeMapping slot mapping).mono ?_
  rintro calls _ _ ⟨rfl, asked, machine, rfl⟩
  exact ⟨rfl, .stored distinct mapping asked machine, rfl⟩

end Mappings

section Cursors

/-- The mapping of a cursor that is dropped goes back to its own slot. -/
theorem shelves_dropCursor (distinct : session.Distinct) (slot : String) :
    (dropCursor slot).Traces session fun calls outcome next =>
      outcome = .ok () ∧ Shelves 0 session calls next ∧ next.cursors = session.cursors.erase slot := by
  apply Traces.get_bind
  apply Traces.modify_bind rfl
  have rest : Distinct { session with cursors := session.cursors.erase slot } :=
    { distinct with cursors := Slots.nodup_names_erase distinct.cursors slot }
  have taken := mapped_eraseCursor distinct slot
  cases found : session.cursors.get? slot with
  | none =>
    rw [found, Option.elim_none, add_zero] at taken
    refine .pure ⟨rfl, ⟨rest, ?_, rfl, rfl⟩, rfl⟩
    rw [add_zero, taken]
    exact .all rfl
  | some bookmark =>
    rw [found, Option.elim_some] at taken
    refine (shelves_storeMapping rest bookmark.mappingSlot bookmark.cursor.mapping).mono ?_
    rintro calls outcome next ⟨ended, shelves, cursors⟩
    refine ⟨ended, ⟨shelves.distinct, ?_, shelves.readers, shelves.writers⟩, cursors⟩
    rw [add_zero, taken]
    exact shelves.leaves

/-- The mapping of a cursor lives in the slot where the cursor is stored. -/
theorem shelves_storeCursor (distinct : session.Distinct) (slot : String) (bookmark : Bookmark) :
    (storeCursor slot bookmark).Traces session fun calls outcome next =>
      outcome = .ok () ∧ Shelves {bookmark.cursor.mapping} session calls next := by
  apply (shelves_dropCursor distinct slot).bind_success
  rintro calls middle ⟨shelves, cursors⟩
  apply Traces.of_still rfl
  rw [List.append_nil]
  have vacant : middle.cursors.get? slot = none := by
    rw [cursors]
    exact Slots.get?_erase_self _ _
  have names := Slots.nodup_names_put shelves.distinct.cursors slot bookmark
  refine ⟨rfl, { shelves.distinct with cursors := names }, ?_, shelves.readers, shelves.writers⟩
  have leaves := shelves.leaves.beside {bookmark.cursor.mapping}
  rw [add_zero, mapped_eraseCursor shelves.distinct slot, vacant, Option.elim_none, add_zero,
    ← mapped_putCursor] at leaves
  exact leaves

end Cursors

section Streams

/-- A device that is given back is in its slot again. -/
theorem shelves_giveBack (distinct : session.Distinct) (holding : Holding) :
    (giveBack holding).Traces session fun calls outcome next =>
      outcome = .ok () ∧ Shelves holding.mapped session calls next := by
  obtain ⟨device, slot, lent⟩ := holding
  cases device with
  | reference held => exact .pure ⟨rfl, .nothing distinct⟩
  | guard held =>
    refine (shelves_storeGuard slot held).mono ?_
    rintro calls outcome next ⟨ended, same, keeps⟩
    exact ⟨ended, same.shelves distinct (Event.unmaps_eq_nil keeps)⟩
  | cursor held => exact shelves_storeCursor distinct slot held

/-- The device of a stream that has ended leaves its mapping in a slot. -/
theorem shelves_settle (distinct : session.Distinct) (holding : Holding) :
    (settle holding).Traces session fun calls outcome next =>
      outcome = .ok () ∧ Shelves holding.mapped session calls next := by
  unfold settle
  split
  · exact shelves_giveBack distinct holding
  · obtain ⟨device, slot, lent⟩ := holding
    cases device with
    | reference held => exact .pure ⟨rfl, .nothing distinct⟩
    | guard held => exact .pure ⟨rfl, .nothing distinct⟩
    | cursor held =>
      refine (shelves_storeMapping distinct held.mappingSlot held.cursor.mapping).mono ?_
      rintro calls outcome next ⟨ended, shelves, -⟩
      exact ⟨ended, shelves⟩

/-- The mapping in a reader that is dropped goes to a slot. -/
theorem shelves_dropReader (distinct : session.Distinct) (slot : String) :
    (dropReader slot).Traces session fun calls outcome next => outcome = .ok () ∧
      Shelves ((session.readers.get? slot).elim 0 fun reader => reader.device.mapped)
        { session with readers := session.readers.erase slot } calls next := by
  have rest : Distinct { session with readers := session.readers.erase slot } :=
    { distinct with readers := Slots.nodup_names_erase distinct.readers slot }
  apply traces_dropReader_of
  · intro vacant
    rw [vacant]
    exact ⟨rfl, .nothing rest⟩
  · intro reader found calls machine releases
    rw [found]
    refine (shelves_settle (rest.withMachine machine) reader.device).mono ?_
    rintro more outcome next ⟨ended, shelves⟩
    exact ⟨ended, { shelves.after (Holding.unmaps_of_releases releases) with }⟩

/-- The mapping in a reader lives in the slot where the reader is stored. -/
theorem shelves_storeReader (distinct : session.Distinct) (slot : String) (reader : Reader Holding) :
    (storeReader slot reader).Traces session fun calls outcome next => outcome = .ok () ∧ next.Distinct ∧
      Mapping.Leaves (session.mapped + reader.device.mapped) calls next.mapped := by
  apply (shelves_dropReader distinct slot).bind_success
  intro calls middle shelves
  apply Traces.of_still rfl
  rw [List.append_nil]
  have vacant : middle.readers.get? slot = none := by
    rw [shelves.readers]
    exact Slots.get?_erase_self _ _
  have names := Slots.nodup_names_put shelves.distinct.readers slot reader
  refine ⟨rfl, { shelves.distinct with readers := names }, ?_⟩
  have leaves := shelves.leaves.beside reader.device.mapped
  rw [← mapped_eraseReader distinct slot, mapped_eraseReader shelves.distinct slot, vacant, Option.elim_none,
    add_zero, ← mapped_putReader] at leaves
  exact leaves

/-- The mapping in a writer that is dropped goes to a slot, unless its last flush panics. -/
theorem shelves_dropWriter (distinct : session.Distinct) (slot : String) :
    (dropWriter slot).Traces session fun calls outcome next => outcome = .error .panic ∨ outcome = .ok () ∧
      Shelves ((session.writers.get? slot).elim 0 fun writer => writer.device.mapped)
        { session with writers := session.writers.erase slot } calls next := by
  have rest : Distinct { session with writers := session.writers.erase slot } :=
    { distinct with writers := Slots.nodup_names_erase distinct.writers slot }
  apply traces_dropWriter_of
  · intro vacant
    rw [vacant]
    exact .inr ⟨rfl, .nothing rest⟩
  · intro writer found writes closes holding machine kept allowed releases
    have same : holding.mapped = writer.device.mapped := kept.mapped
    rw [found, Option.elim_some, ← same]
    refine (shelves_settle (rest.withMachine machine) holding).mono ?_
    rintro more outcome next ⟨ended, shelves⟩
    exact .inr ⟨ended, { shelves.after (Holding.unmaps_of_stream allowed releases) with }⟩
  · exact fun _ _ => .inl rfl

/-- The mapping in a writer lives in the slot where the writer is stored, unless there is a panic. -/
theorem shelves_storeWriter (distinct : session.Distinct) (slot : String) (writer : Writer Holding) :
    (storeWriter slot writer).Traces session fun calls outcome next => outcome = .error .panic ∨
      outcome = .ok () ∧ next.Distinct ∧
        Mapping.Leaves (session.mapped + writer.device.mapped) calls next.mapped := by
  apply traces_storeWriter_of (shelves_dropWriter distinct slot)
  · intro calls middle shelves
    have vacant : middle.writers.get? slot = none := by
      rw [shelves.writers]
      exact Slots.get?_erase_self _ _
    have names := Slots.nodup_names_put shelves.distinct.writers slot writer
    refine .inr ⟨rfl, { shelves.distinct with writers := names }, ?_⟩
    have leaves := shelves.leaves.beside writer.device.mapped
    rw [← mapped_eraseWriter distinct slot, mapped_eraseWriter shelves.distinct slot, vacant, Option.elim_none,
      add_zero, ← mapped_putWriter] at leaves
    exact leaves
  · exact fun _ _ => .inl rfl

end Streams

end Session

end LinuxCalls
