/-
This file shows that what a session does with its slots is composed of primitives: the devices that streams hold,
the ends of objects' lives, and the replacement of one object by another.
-/

import LinuxCalls.Session.State
import LinuxCalls.Proofs.Log.Streams

namespace LinuxCalls

open Act (Composed)

variable {raw : Request → Prop} {α : Type}

instance : HasMachine Session :=
  ⟨Session.machine, fun session machine => { session with machine := machine }⟩

namespace Descriptor

variable {δ : Type}

theorem composed_readThrough (descriptor : δ → Descriptor) (buffer : Bytes) :
    Composed raw (Act.get >>= fun state : δ × Machine => do
      let delivery ← liftM (read (descriptor state.1) buffer.length)
      return delivery.into buffer) :=
  .get_bind (fun _ _ _ => rfl) fun _ => .bind (.lift (composed_read _ _)) fun _ => .pure _

theorem composed_writeThrough (descriptor : δ → Descriptor) (bytes : Bytes) :
    Composed raw (Act.get >>= fun state : δ × Machine => liftM (write (descriptor state.1) bytes)) :=
  .get_bind (fun _ _ _ => rfl) fun _ => .lift (composed_write _ _)

/-- Like machines have the same answers left for reads of descriptors. -/
theorem reserve_of_alike {quiet loud : Machine} (alike : quiet.Alike loud) : reserve loud = reserve quiet := by
  change Script.usesOf (loud.script.queue _) = Script.usesOf (quiet.script.queue _)
  rw [alike.agrees (.call .read) nofun]

end Descriptor

namespace DescriptorRef

theorem composed_source : Source.Composed raw DescriptorRef where
  read buffer := Descriptor.composed_readThrough DescriptorRef.descriptor buffer
  reserve _ _ _ alike := Descriptor.reserve_of_alike alike

theorem composed_sink : Sink.Composed raw DescriptorRef := fun bytes =>
  Descriptor.composed_writeThrough DescriptorRef.descriptor bytes

end DescriptorRef

namespace Guard

theorem composed_source : Source.Composed raw Guard where
  read buffer := Descriptor.composed_readThrough Guard.descriptor buffer
  reserve _ _ _ alike := Descriptor.reserve_of_alike alike

theorem composed_sink : Sink.Composed raw Guard := fun bytes =>
  Descriptor.composed_writeThrough Guard.descriptor bytes

end Guard

namespace Cursor

theorem composed_source : Source.Composed raw Cursor where
  read buffer := .bind (composed_read buffer.length) fun _ => .pure _
  reserve _ _ _ _ := rfl

theorem composed_sink : Sink.Composed raw Cursor := composed_write

end Cursor

namespace Holding

/-- Running on what is held is running on a part of the holding. -/
theorem dispatch_eq (onReference : Act (DescriptorRef × Machine) α) (onGuard : Act (Guard × Machine) α)
    (onCursor : Act (Cursor × Machine) α) :
    dispatch onReference onGuard onCursor = Act.get >>= fun state =>
      match state.1.device with
      | .reference held => Act.focus (fun state => (held, state.2))
        (fun state next => ({ state.1 with device := .reference next.1 }, next.2)) onReference
      | .guard held => Act.focus (fun state => (held, state.2))
        (fun state next => ({ state.1 with device := .guard next.1 }, next.2)) onGuard
      | .cursor held => Act.focus (fun state => (held.cursor, state.2))
        (fun state next => ({ state.1 with device := .cursor { held with cursor := next.1 } }, next.2))
        onCursor := by
  funext state
  obtain ⟨⟨device, slot, lent⟩, machine⟩ := state
  cases device <;> rfl

theorem composed_dispatch {onReference : Act (DescriptorRef × Machine) α}
    {onGuard : Act (Guard × Machine) α} {onCursor : Act (Cursor × Machine) α}
    (reference : Composed raw onReference) (guard : Composed raw onGuard) (cursor : Composed raw onCursor) :
    Composed raw (dispatch onReference onGuard onCursor) := by
  rw [dispatch_eq]
  refine .get_bind (fun _ _ _ => rfl) fun state => ?_
  cases state.1.device with
  | reference held =>
    exact .focus reference (fun _ => rfl) (fun _ _ => rfl) (fun _ _ => rfl) fun _ _ _ _ => rfl
  | guard held => exact .focus guard (fun _ => rfl) (fun _ _ => rfl) (fun _ _ => rfl) fun _ _ _ _ => rfl
  | cursor held => exact .focus cursor (fun _ => rfl) (fun _ _ => rfl) (fun _ _ => rfl) fun _ _ _ _ => rfl

theorem composed_source : Source.Composed raw Holding where
  read buffer := composed_dispatch (DescriptorRef.composed_source.read buffer)
    (Guard.composed_source.read buffer) (Cursor.composed_source.read buffer)
  reserve holding quiet loud alike := by
    obtain ⟨device, slot, lent⟩ := holding
    cases device with
    | reference held => exact Descriptor.reserve_of_alike alike
    | guard held => exact Descriptor.reserve_of_alike alike
    | cursor held => rfl

theorem composed_sink : Sink.Composed raw Holding := fun bytes =>
  composed_dispatch (DescriptorRef.composed_sink bytes) (Guard.composed_sink bytes)
    (Cursor.composed_sink bytes)

theorem composed_resource : Resource.Composed raw Holding := by
  rintro ⟨device, slot, lent⟩
  change Composed raw (if lent then _ else _)
  split
  · exact .pure _
  · cases device with
    | reference held => exact .pure _
    | guard held => exact Guard.composed_drop held
    | cursor held => exact .pure _

end Holding

namespace Session

theorem composed_onMachine {act : Sys α} (clear : Composed raw act) : Composed raw (onMachine act) :=
  .focus clear (fun _ => rfl) (fun _ _ => rfl) (fun _ _ => rfl) fun _ _ _ _ => rfl

theorem composed_modify {change : Session → Session}
    (beside : ∀ session, (change session).machine = session.machine)
    (commutes : ∀ session machine,
      change { session with machine := machine } = { change session with machine := machine }) :
    Composed raw (Act.modify change) :=
  .modifyBeside beside commutes

theorem composed_dropGuard (slot : String) : Composed raw (dropGuard slot) := by
  refine .get_bind (fun _ _ _ => rfl) fun session =>
    .bind (composed_modify (fun _ => rfl) fun _ _ => rfl) fun _ => ?_
  cases session.guards.get? slot with
  | none => exact .pure _
  | some guard => exact composed_onMachine guard.composed_drop

theorem composed_storeGuard (slot : String) (guard : Guard) : Composed raw (storeGuard slot guard) :=
  .bind (composed_dropGuard slot) fun _ => composed_modify (fun _ => rfl) fun _ _ => rfl

theorem composed_dropMapping (slot : String) : Composed raw (dropMapping slot) := by
  refine .get_bind (fun _ _ _ => rfl) fun session =>
    .bind (composed_modify (fun _ => rfl) fun _ _ => rfl) fun _ => ?_
  cases session.mappings.get? slot with
  | none => exact .pure _
  | some mapping => exact composed_onMachine mapping.composed_drop

theorem composed_storeMapping (slot : String) (mapping : Mapping) :
    Composed raw (storeMapping slot mapping) :=
  .bind (composed_dropMapping slot) fun _ => composed_modify (fun _ => rfl) fun _ _ => rfl

theorem composed_dropCursor (slot : String) : Composed raw (dropCursor slot) := by
  refine .get_bind (fun _ _ _ => rfl) fun session =>
    .bind (composed_modify (fun _ => rfl) fun _ _ => rfl) fun _ => ?_
  cases session.cursors.get? slot with
  | none => exact .pure _
  | some bookmark => exact composed_storeMapping _ _

theorem composed_storeCursor (slot : String) (bookmark : Bookmark) :
    Composed raw (storeCursor slot bookmark) :=
  .bind (composed_dropCursor slot) fun _ => composed_modify (fun _ => rfl) fun _ _ => rfl

theorem composed_giveBack (holding : Holding) : Composed raw (giveBack holding) := by
  unfold giveBack
  cases holding.device with
  | reference _ => exact .pure _
  | guard guard => exact composed_storeGuard _ _
  | cursor bookmark => exact composed_storeCursor _ _

/-- Settling a device is composed, however its stream has ended. -/
theorem composed_settleAfter (ended : Except Fault α) (holding : Holding) :
    Composed raw (settleAfter ended holding) := by
  have settled : Composed raw (settle holding) := by
    unfold settle
    split
    · exact composed_giveBack holding
    · cases holding.device with
      | reference _ => exact .pure _
      | guard _ => exact .pure _
      | cursor bookmark => exact composed_storeMapping _ _
  rcases ended with reason | value
  · cases reason with
    | panic => exact .pure _
    | errno error => exact settled
    | exit status => exact settled
  · exact settled

theorem composed_dropReader (slot : String) : Composed raw (dropReader slot) := by
  refine .get_bind (fun _ _ _ => rfl) fun session =>
    .bind (composed_modify (fun _ => rfl) fun _ _ => rfl) fun _ => ?_
  cases session.readers.get? slot with
  | none => exact .pure _
  | some reader =>
    exact .bind (.outcome (composed_onMachine (Holding.composed_resource reader.device))) fun ended =>
      .bind (composed_settleAfter ended _) fun _ => .resume _

theorem composed_storeReader (slot : String) (reader : Reader Holding) :
    Composed raw (storeReader slot reader) :=
  .bind (composed_dropReader slot) fun _ => composed_modify (fun _ => rfl) fun _ _ => rfl

theorem composed_dropWriter (slot : String) : Composed raw (dropWriter slot) := by
  refine .get_bind (fun _ _ _ => rfl) fun session =>
    .bind (composed_modify (fun _ => rfl) fun _ _ => rfl) fun _ => ?_
  cases session.writers.get? slot with
  | none => exact .pure _
  | some writer =>
    have dropped : Composed raw (Writer.drop : Act (Writer Holding × Machine) Unit) :=
      Writer.composed_drop Holding.composed_sink Holding.composed_resource
    exact .bind (composed_onMachine (.beside writer dropped)) fun ended =>
      .bind (composed_settleAfter ended.1 _) fun _ => .resume _

theorem composed_storeWriter (slot : String) (writer : Writer Holding) :
    Composed raw (storeWriter slot writer) := by
  refine .bind (.outcome (composed_dropWriter slot)) fun ended => ?_
  cases ended with
  | ok _ => exact composed_modify (fun _ => rfl) fun _ _ => rfl
  | error fault =>
    exact .bind (composed_onMachine (Holding.composed_resource writer.device)) fun _ => .fault _

theorem composed_takeDevice (choice : DeviceChoice) : Composed raw (takeDevice choice) := by
  cases choice with
  | reference descriptor => exact .pure _
  | guard slot lent =>
    exact .get_bind (fun _ _ _ => rfl) fun _ =>
      .bind (composed_modify (fun _ => rfl) fun _ _ => rfl) fun _ => .pure _
  | cursor slot lent =>
    exact .get_bind (fun _ _ _ => rfl) fun _ =>
      .bind (composed_modify (fun _ => rfl) fun _ _ => rfl) fun _ => .pure _

theorem composed_withObject {slots : Session → Slots α}
    (beside : ∀ session machine, slots { session with machine := machine } = slots session) (slot : String)
    {use : α → Act Session Report} (used : ∀ object, Composed raw (use object)) :
    Composed raw (withObject slots slot use) := by
  refine .get_bind (fun session machine _ => ?_) fun session => ?_
  · have same : slots (withMachine session machine) = slots session := beside session machine
    simp only [same]
  · cases (slots session).get? slot with
    | some object => exact used object
    | none => exact .pure _

end Session

end LinuxCalls
