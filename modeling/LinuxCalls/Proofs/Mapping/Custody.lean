/-
This file follows mappings through the places of a session. A mapping is in its slot, in a cursor or in a
cursor that a stream holds, and it stays in one of these places until the request that unmaps it.
-/

import Mathlib.Data.Multiset.AddSub
import Mathlib.Tactic.Abel
import LinuxCalls.Proofs.Calls.Endings
import LinuxCalls.Proofs.Mapping.Calls
import LinuxCalls.Proofs.Ownership.Slots

namespace LinuxCalls

/--
The mappings that calls leave of those that are held. All the others are unmapped, each one by a request of
its own for the range that it was made with.
-/
def Mapping.Leaves (held : Multiset Mapping) (calls : List Event) (left : Multiset Mapping) : Prop :=
  ∃ ended : List Mapping, held = left + ended ∧ Event.unmaps calls = ended.map Mapping.range

namespace Mapping.Leaves

variable {held middle left : Multiset Mapping} {calls more : List Event}

/-- Calls that unmap nothing leave all that is held. -/
theorem all (quiet : Event.unmaps calls = []) : Leaves held calls held := ⟨[], by simp, by simpa using quiet⟩

theorem trans (head : Leaves held calls middle) (tail : Leaves middle more left) :
    Leaves held (calls ++ more) left := by
  obtain ⟨early, rfl, first⟩ := head
  obtain ⟨late, rfl, last⟩ := tail
  refine ⟨early ++ late, ?_, ?_⟩
  · rw [← Multiset.coe_add]
    abel
  · rw [Event.unmaps_append, first, last, List.map_append]

theorem beside (leaves : Leaves held calls left) (extra : Multiset Mapping) :
    Leaves (held + extra) calls (left + extra) := by
  obtain ⟨ended, rfl, unmapped⟩ := leaves
  exact ⟨ended, by abel, unmapped⟩

/-- What is left was held before. -/
theorem subset (leaves : Leaves held calls left) : left ⊆ held := by
  obtain ⟨ended, rfl, -⟩ := leaves
  exact Multiset.subset_of_le (Multiset.le_add_right _ _)

/-- The ranges that were held are those that are left and those that were unmapped. -/
theorem ranges (leaves : Leaves held calls left) :
    held.map Mapping.range = left.map Mapping.range + Event.unmaps calls := by
  obtain ⟨ended, rfl, unmapped⟩ := leaves
  rw [Multiset.map_add, unmapped, Multiset.map_coe]

end Mapping.Leaves

/-- A call on a device unmaps nothing. -/
theorem Device.keepsMapped_of_allows {device : Device} {call : Event} (allows : device.Allows call) :
    call.KeepsMapped := by
  have transfers {descriptor : Descriptor} (transfers : Event.Transfers descriptor call) : call.KeepsMapped :=
    transfers.elim (fun reads => Event.keepsMapped_of_puts reads (by decide))
      fun writes => Event.keepsMapped_of_puts writes (by decide)
  cases device with
  | reference held => exact transfers allows
  | guard held => exact transfers allows
  | cursor held => exact allows.elim

/-- The request to close a descriptor unmaps nothing. -/
theorem Descriptor.keepsMapped_closing (descriptor : Descriptor) (word : UInt64) :
    ((closing descriptor).answered word).KeepsMapped := by
  have puts : CallKind.close.Puts [] ((closing descriptor).answered word) := ⟨(closing descriptor).registers, rfl⟩
  exact Event.keepsMapped_of_puts puts (by decide)

namespace Holding

/-- The mapping of the cursor that is held. -/
def mapped (holding : Holding) : Multiset Mapping :=
  match holding.device with
  | .cursor bookmark => {bookmark.cursor.mapping}
  | _ => 0

/-- What remains the same holding keeps its mapping. -/
theorem Remains.mapped {origin : Holding} {state : Holding × Machine} (remains : origin.Remains state) :
    state.1.mapped = origin.mapped := by
  obtain ⟨device, slot, lent⟩ := origin
  obtain ⟨⟨device', slot', lent'⟩, machine⟩ := state
  obtain ⟨same, -, -⟩ := remains
  cases same with
  | cursor mapping from' => simp only [Holding.mapped, mapping]
  | _ => rfl

/-- The calls that release what is held unmap nothing. -/
theorem unmaps_of_releases {holding : Holding} {calls : List Event} (releases : holding.Releases calls) :
    Event.unmaps calls = [] := by
  obtain ⟨device, slot, lent⟩ := holding
  cases device with
  | reference held => exact congrArg Event.unmaps releases
  | cursor held => exact congrArg Event.unmaps releases
  | guard held =>
    cases lent with
    | true => exact congrArg Event.unmaps releases
    | false =>
      obtain ⟨word, rfl⟩ := releases
      apply Event.unmaps_eq_nil
      simpa using Descriptor.keepsMapped_closing held.descriptor word

/-- The calls of a stream until what it holds is released unmap nothing. -/
theorem unmaps_of_stream {holding : Holding} {writes closes : List Event}
    (allowed : ∀ call ∈ writes, holding.device.Allows call) (releases : holding.Releases closes) :
    Event.unmaps (writes ++ closes) = [] := by
  rw [Event.unmaps_append, unmaps_of_releases releases, List.append_nil]
  exact Event.unmaps_eq_nil fun call member => Device.keepsMapped_of_allows (allowed call member)

end Holding

namespace Session

/-- The mappings that live in a session: in their slots, in cursors and in streams. -/
def mapped (session : Session) : Multiset Mapping :=
  session.mappings.total (fun mapping => {mapping}) +
    (session.cursors.total (fun bookmark => {bookmark.cursor.mapping}) +
      (session.readers.total (fun reader => reader.device.mapped) +
        session.writers.total fun writer => writer.device.mapped))

/-- No two objects of a kind are in the same slot. -/
structure Distinct (session : Session) : Prop where
  mappings : session.mappings.names.Nodup
  cursors : session.cursors.names.Nodup
  readers : session.readers.names.Nodup
  writers : session.writers.names.Nodup

variable {session : Session} {slot : String}

/-- The objects are distinct at the start, since there are none. -/
theorem distinct_start (script : Script) (threshold : Threshold) : (start script threshold).Distinct :=
  ⟨List.nodup_nil, List.nodup_nil, List.nodup_nil, List.nodup_nil⟩

/-- No mapping lives at the start. -/
@[simp] theorem mapped_start (script : Script) (threshold : Threshold) : (start script threshold).mapped = 0 := rfl

section Places

variable {mapping : Mapping} {bookmark : Bookmark} {reader : Reader Holding} {writer : Writer Holding}

/-- A mapping that is taken out of its slot no longer lives in the session. -/
theorem mapped_eraseMapping (distinct : session.Distinct) (slot : String) :
    session.mapped = mapped { session with mappings := session.mappings.erase slot } +
      (session.mappings.get? slot).elim 0 fun mapping => {mapping} := by
  unfold mapped
  rw [Slots.total_erase distinct.mappings slot]
  abel

/-- The mapping of a cursor that is taken out of its slot no longer lives in the session. -/
theorem mapped_eraseCursor (distinct : session.Distinct) (slot : String) :
    session.mapped = mapped { session with cursors := session.cursors.erase slot } +
      (session.cursors.get? slot).elim 0 fun bookmark => {bookmark.cursor.mapping} := by
  unfold mapped
  rw [Slots.total_erase distinct.cursors slot]
  abel

/-- The mapping in a reader that is taken out of its slot no longer lives in the session. -/
theorem mapped_eraseReader (distinct : session.Distinct) (slot : String) :
    session.mapped = mapped { session with readers := session.readers.erase slot } +
      (session.readers.get? slot).elim 0 fun reader => reader.device.mapped := by
  unfold mapped
  rw [Slots.total_erase distinct.readers slot]
  abel

/-- The mapping in a writer that is taken out of its slot no longer lives in the session. -/
theorem mapped_eraseWriter (distinct : session.Distinct) (slot : String) :
    session.mapped = mapped { session with writers := session.writers.erase slot } +
      (session.writers.get? slot).elim 0 fun writer => writer.device.mapped := by
  unfold mapped
  rw [Slots.total_erase distinct.writers slot]
  abel

/-- A mapping that is put into a slot lives in place of the one that was there. -/
theorem mapped_putMapping : mapped { session with mappings := session.mappings.put slot mapping } =
    mapped { session with mappings := session.mappings.erase slot } + {mapping} := by
  unfold mapped
  rw [Slots.total_put]
  abel

/-- The mapping of a cursor that is put into a slot lives in place of the one that was there. -/
theorem mapped_putCursor : mapped { session with cursors := session.cursors.put slot bookmark } =
    mapped { session with cursors := session.cursors.erase slot } + {bookmark.cursor.mapping} := by
  unfold mapped
  rw [Slots.total_put]
  abel

/-- The mapping in a reader that is put into a slot lives in place of the one that was there. -/
theorem mapped_putReader : mapped { session with readers := session.readers.put slot reader } =
    mapped { session with readers := session.readers.erase slot } + reader.device.mapped := by
  unfold mapped
  rw [Slots.total_put]
  abel

/-- The mapping in a writer that is put into a slot lives in place of the one that was there. -/
theorem mapped_putWriter : mapped { session with writers := session.writers.put slot writer } =
    mapped { session with writers := session.writers.erase slot } + writer.device.mapped := by
  unfold mapped
  rw [Slots.total_put]
  abel

end Places

end Session

end LinuxCalls
