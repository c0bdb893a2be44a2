/-
This file follows descriptors through the places of a session. A guard is in a slot or inside a stream,
and whatever is dropped, replaced or given back, its descriptor stays in custody until it is closed.
-/

import LinuxCalls.Proofs.Calls.Endings
import LinuxCalls.Proofs.Ownership.Balance
import LinuxCalls.Proofs.Ownership.Slots

namespace LinuxCalls

open Act (Traces)

namespace Holding

/-- The descriptor of the guard that is held. -/
def owned (holding : Holding) : Multiset Descriptor :=
  match holding.device with
  | .guard guard => {guard.descriptor}
  | _ => 0

/-- What is left of the guard that was held after its release: a lent one goes back to its slot. -/
def left (holding : Holding) : Multiset Descriptor := if holding.lent then holding.owned else 0

/-- A guard is held. -/
def HasGuard (holding : Holding) : Prop := ∃ guard, holding.device = .guard guard

variable {holding : Holding} {calls : List Event}

/-- A guard that is held remains the same. -/
theorem HasGuard.eq_of_remains (has : holding.HasGuard) {state : Holding × Machine}
    (remains : holding.Remains state) : state.1 = holding := by
  obtain ⟨device, slot, lent⟩ := holding
  obtain ⟨⟨device', slot', lent'⟩, machine⟩ := state
  obtain ⟨guard, same⟩ := has
  obtain ⟨stays, slots, loans⟩ := remains
  have equal : device = .guard guard := same
  subst equal
  cases stays
  cases slots
  cases loans
  rfl

/-- The calls on a guard that is held are harmless. -/
theorem HasGuard.harmless (has : holding.HasGuard) {call : Event} (allows : holding.device.Allows call) :
    call.Harmless holding.owned := by
  obtain ⟨guard, same⟩ := has
  rw [same] at allows
  have owned : guard.descriptor ∈ holding.owned := by simp [Holding.owned, same]
  rcases allows with reads | writes
  · exact ⟨guard.descriptor, owned, .on (by decide) reads, Event.isOpening_of_puts reads⟩
  · exact ⟨guard.descriptor, owned, .on (by decide) writes, Event.isOpening_of_puts writes⟩

/-- A guard that is released is closed unless it is lent. -/
theorem HasGuard.balance_of_releases (has : holding.HasGuard) (releases : holding.Releases calls) :
    Balance holding.owned calls [] [] holding.left := by
  obtain ⟨device, slot, lent⟩ := holding
  obtain ⟨guard, same⟩ := has
  have equal : device = .guard guard := same
  subst equal
  cases lent with
  | true =>
    have nothing : calls = [] := releases
    subst nothing
    exact .even
  | false =>
    obtain ⟨word, rfl⟩ := releases
    have start : Balance {guard.descriptor} [] [] [] (guard.descriptor ::ₘ 0) := .even
    exact start.closed word

end Holding

namespace Session

/-- The descriptors of the guards that live in a session: in their slots and inside streams. -/
def live (session : Session) : Multiset Descriptor :=
  session.guards.total (fun guard => {guard.descriptor}) +
    (session.readers.total (fun reader => reader.device.owned) +
      session.writers.total fun writer => writer.device.owned)

/-- No two objects of a kind are in the same slot, and every stream holds a guard. -/
structure Sound (session : Session) : Prop where
  guards : session.guards.names.Nodup
  readers : session.readers.names.Nodup
  writers : session.writers.names.Nodup
  read : ∀ reader ∈ session.readers.objects, reader.device.HasGuard
  written : ∀ writer ∈ session.writers.objects, writer.device.HasGuard

variable {session : Session} {slot : String}

/-- A session is sound at its start, and no guard lives. -/
theorem sound_start (script : Script) (threshold : Threshold) : (start script threshold).Sound :=
  ⟨List.nodup_nil, List.nodup_nil, List.nodup_nil, nofun, nofun⟩

/-- No guard lives at the start. -/
@[simp] theorem live_start (script : Script) (threshold : Threshold) : (start script threshold).live = 0 := rfl

/-- What the machine does leaves the session sound. -/
theorem Sound.withMachine (sound : session.Sound) (machine : Machine) :
    Sound { session with machine := machine } :=
  ⟨sound.guards, sound.readers, sound.writers, sound.read, sound.written⟩

section Guards

/-- Taking a guard out of its slot leaves the session sound. -/
theorem Sound.eraseGuard (sound : session.Sound) (slot : String) :
    Sound { session with guards := session.guards.erase slot } :=
  { sound with guards := Slots.nodup_names_erase sound.guards slot }

/-- Putting a guard into a slot leaves the session sound. -/
theorem Sound.putGuard (sound : session.Sound) (slot : String) (guard : Guard) :
    Sound { session with guards := session.guards.put slot guard } :=
  { sound with guards := Slots.nodup_names_put sound.guards slot guard }

/-- A guard that is taken out of its slot no longer lives in the session. -/
theorem live_eraseGuard (sound : session.Sound) (slot : String) :
    session.live = live { session with guards := session.guards.erase slot } +
      (session.guards.get? slot).elim 0 fun guard => {guard.descriptor} := by
  unfold live
  rw [Slots.total_erase sound.guards slot]
  abel

/-- A guard that is put into an empty slot lives in the session. -/
theorem live_putGuard (sound : session.Sound) (vacant : session.guards.get? slot = none) (guard : Guard) :
    live { session with guards := session.guards.put slot guard } = session.live + {guard.descriptor} := by
  unfold live
  rw [Slots.total_put_of_none sound.guards vacant]
  abel

/-- A guard that is in a slot lives beside the guards that are elsewhere. -/
theorem live_of_guard {guard : Guard} (sound : session.Sound) (found : session.guards.get? slot = some guard) :
    session.live = guard.descriptor ::ₘ live { session with guards := session.guards.erase slot } := by
  rw [live_eraseGuard sound slot, found, Option.elim_some, add_comm, Multiset.singleton_add]

/-- A guard that is taken out of its slot is in the hand. -/
theorem balance_taken {guard : Guard} (sound : session.Sound) (found : session.guards.get? slot = some guard) :
    Balance session.live [] [] []
      (guard.descriptor ::ₘ live { session with guards := session.guards.erase slot }) := by
  rw [← live_of_guard sound found]
  exact .even

/-- The descriptor of a guard in a slot is one of those that live. -/
theorem mem_live_of_guard {guard : Guard} (sound : session.Sound) (found : session.guards.get? slot = some guard) :
    guard.descriptor ∈ session.live :=
  live_of_guard sound found ▸ Multiset.mem_cons_self _ _

end Guards

section Readers

variable {reader : Reader Holding}

/-- Taking a reader out of its slot leaves the session sound. -/
theorem Sound.eraseReader (sound : session.Sound) (slot : String) :
    Sound { session with readers := session.readers.erase slot } :=
  { sound with
    readers := Slots.nodup_names_erase sound.readers slot
    read := fun reader left => sound.read reader (Slots.mem_objects_of_erase left) }

/-- Putting a reader of a guard into a slot leaves the session sound. -/
theorem Sound.putReader (sound : session.Sound) (slot : String) (has : reader.device.HasGuard) :
    Sound { session with readers := session.readers.put slot reader } :=
  { sound with
    readers := Slots.nodup_names_put sound.readers slot reader
    read := fun other there => (Slots.mem_objects_of_put there).elim (fun same => same ▸ has) (sound.read other) }

/-- What a reader holds that is taken out of its slot no longer lives in the session. -/
theorem live_eraseReader (sound : session.Sound) (slot : String) :
    session.live = live { session with readers := session.readers.erase slot } +
      (session.readers.get? slot).elim 0 fun reader => reader.device.owned := by
  unfold live
  rw [Slots.total_erase sound.readers slot]
  abel

/-- What a reader holds that is put into an empty slot lives in the session. -/
theorem live_putReader (sound : session.Sound) (vacant : session.readers.get? slot = none)
    (reader : Reader Holding) :
    live { session with readers := session.readers.put slot reader } = session.live + reader.device.owned := by
  unfold live
  rw [Slots.total_put_of_none sound.readers vacant]
  abel

/-- A reader in a slot holds a guard. -/
theorem Sound.hasGuard_reader (sound : session.Sound) (found : session.readers.get? slot = some reader) :
    reader.device.HasGuard := sound.read reader (Slots.mem_objects_of_get? found)

end Readers

section Writers

variable {writer : Writer Holding}

/-- Taking a writer out of its slot leaves the session sound. -/
theorem Sound.eraseWriter (sound : session.Sound) (slot : String) :
    Sound { session with writers := session.writers.erase slot } :=
  { sound with
    writers := Slots.nodup_names_erase sound.writers slot
    written := fun writer left => sound.written writer (Slots.mem_objects_of_erase left) }

/-- Putting a writer to a guard into a slot leaves the session sound. -/
theorem Sound.putWriter (sound : session.Sound) (slot : String) (has : writer.device.HasGuard) :
    Sound { session with writers := session.writers.put slot writer } :=
  { sound with
    writers := Slots.nodup_names_put sound.writers slot writer
    written := fun other there =>
      (Slots.mem_objects_of_put there).elim (fun same => same ▸ has) (sound.written other) }

/-- What a writer holds that is taken out of its slot no longer lives in the session. -/
theorem live_eraseWriter (sound : session.Sound) (slot : String) :
    session.live = live { session with writers := session.writers.erase slot } +
      (session.writers.get? slot).elim 0 fun writer => writer.device.owned := by
  unfold live
  rw [Slots.total_erase sound.writers slot]
  abel

/-- What a writer holds that is put into an empty slot lives in the session. -/
theorem live_putWriter (sound : session.Sound) (vacant : session.writers.get? slot = none)
    (writer : Writer Holding) :
    live { session with writers := session.writers.put slot writer } = session.live + writer.device.owned := by
  unfold live
  rw [Slots.total_put_of_none sound.writers vacant]
  abel

/-- A writer in a slot holds a guard. -/
theorem Sound.hasGuard_writer (sound : session.Sound) (found : session.writers.get? slot = some writer) :
    writer.device.HasGuard := sound.written writer (Slots.mem_objects_of_get? found)

end Writers

end Session

end LinuxCalls
