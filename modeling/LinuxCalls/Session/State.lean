/-
This file holds the state of a session: the machine and the objects in their slots. It says where an
object goes when its life ends, and what happens to an object whose slot is taken by another one.
-/

import LinuxCalls.Session.Slots
import LinuxCalls.Session.Report

namespace LinuxCalls

/-- A cursor and the slot of the mapping that it has taken. -/
structure Bookmark where
  cursor : Cursor
  mappingSlot : String

inductive Device
  | reference (reference : DescriptorRef)
  | guard (guard : Guard)
  | cursor (bookmark : Bookmark)

/-- A device as a stream holds it. It came from a slot, and it may be lent only. -/
structure Holding where
  device : Device
  slot : String
  lent : Bool

structure Session where
  machine : Machine
  guards : Slots Guard
  mappings : Slots Mapping
  cursors : Slots Bookmark
  readers : Slots (Reader Holding)
  writers : Slots (Writer Holding)

namespace Holding

/-- This action runs on the guard, the reference or the cursor that is held. -/
def dispatch {α : Type} (onReference : Act (DescriptorRef × Machine) α)
    (onGuard : Act (Guard × Machine) α) (onCursor : Act (Cursor × Machine) α) :
    Act (Holding × Machine) α := fun (holding, machine) =>
  match holding.device with
  | .reference reference =>
    let (result, reference, machine) := onReference (reference, machine)
    (result, { holding with device := .reference reference }, machine)
  | .guard guard =>
    let (result, guard, machine) := onGuard (guard, machine)
    (result, { holding with device := .guard guard }, machine)
  | .cursor bookmark =>
    let (result, cursor, machine) := onCursor (bookmark.cursor, machine)
    (result, { holding with device := .cursor { bookmark with cursor := cursor } }, machine)

instance : Source Holding where
  read buffer := dispatch (Source.read buffer) (Source.read buffer) (Source.read buffer)
  reserve holding machine :=
    match holding.device with
    | .reference reference => Source.reserve reference machine
    | .guard guard => Source.reserve guard machine
    | .cursor bookmark => Source.reserve bookmark.cursor machine

instance : Sink Holding where
  write bytes := dispatch (Sink.write bytes) (Sink.write bytes) (Sink.write bytes)

/-- A lent device is released by its owner, and only a guard has something to release. -/
instance : Resource Holding where
  release holding :=
    if holding.lent then pure ()
    else
      match holding.device with
      | .reference reference => Resource.release reference
      | .guard guard => Resource.release guard
      | .cursor bookmark => Resource.release bookmark.cursor

/-- A device is shown by its long form, and a cursor by its position. -/
def shown (holding : Holding) : Value :=
  match holding.device with
  | .reference reference => .text reference.longForm
  | .guard guard => .text guard.longForm
  | .cursor bookmark => .number bookmark.cursor.position

end Holding

namespace Session

def start (script : Script) (threshold : Threshold) : Session :=
  ⟨Machine.start script threshold, Slots.empty, Slots.empty, Slots.empty, Slots.empty, Slots.empty⟩

def onMachine {α : Type} (act : Sys α) : Act Session α :=
  Act.focus Session.machine (fun session machine => { session with machine := machine }) act

/-- This action empties a guard's slot and drops the guard that was there. -/
def dropGuard (slot : String) : Act Session Unit := do
  let session ← Act.get
  Act.modify fun session => { session with guards := session.guards.erase slot }
  match session.guards.get? slot with
  | none => pure ()
  | some guard => onMachine guard.drop

def storeGuard (slot : String) (guard : Guard) : Act Session Unit := do
  dropGuard slot
  Act.modify fun session => { session with guards := session.guards.put slot guard }

def dropMapping (slot : String) : Act Session Unit := do
  let session ← Act.get
  Act.modify fun session => { session with mappings := session.mappings.erase slot }
  match session.mappings.get? slot with
  | none => pure ()
  | some mapping => onMachine mapping.drop

def storeMapping (slot : String) (mapping : Mapping) : Act Session Unit := do
  dropMapping slot
  Act.modify fun session => { session with mappings := session.mappings.put slot mapping }

/-- This action ends a cursor's life, after which the mapping is back in its own slot. -/
def dropCursor (slot : String) : Act Session Unit := do
  let session ← Act.get
  Act.modify fun session => { session with cursors := session.cursors.erase slot }
  match session.cursors.get? slot with
  | none => pure ()
  | some bookmark => storeMapping bookmark.mappingSlot bookmark.cursor.mapping

def storeCursor (slot : String) (bookmark : Bookmark) : Act Session Unit := do
  dropCursor slot
  Act.modify fun session => { session with cursors := session.cursors.put slot bookmark }

def giveBack (holding : Holding) : Act Session Unit :=
  match holding.device with
  | .reference _ => pure ()
  | .guard guard => storeGuard holding.slot guard
  | .cursor bookmark => storeCursor holding.slot bookmark

/--
This action settles a device whose stream has ended and released it. A lent device goes back to its
slot, and an owned cursor leaves its mapping to the mapping's slot.
-/
def settle (holding : Holding) : Act Session Unit :=
  if holding.lent then giveBack holding
  else
    match holding.device with
    | .cursor bookmark => storeMapping bookmark.mappingSlot bookmark.cursor.mapping
    | _ => pure ()

/--
This action settles the device of a stream whose end came out in a given way. A panic loses the
device: a lent one is neither released nor given back.
-/
def settleAfter {α : Type} (ended : Except Fault α) (holding : Holding) : Act Session Unit :=
  match ended with
  | .error .panic => pure ()
  | _ => settle holding

def dropReader (slot : String) : Act Session Unit := do
  let session ← Act.get
  Act.modify fun session => { session with readers := session.readers.erase slot }
  match session.readers.get? slot with
  | none => pure ()
  | some reader =>
    let ended ← (onMachine reader.drop).outcome
    settleAfter ended reader.device
    Act.resume ended

def storeReader (slot : String) (reader : Reader Holding) : Act Session Unit := do
  dropReader slot
  Act.modify fun session => { session with readers := session.readers.put slot reader }

def dropWriter (slot : String) : Act Session Unit := do
  let session ← Act.get
  Act.modify fun session => { session with writers := session.writers.erase slot }
  match session.writers.get? slot with
  | none => pure ()
  | some writer =>
    let (ended, writer) ← onMachine (Act.beside writer Writer.drop)
    settleAfter ended writer.device
    Act.resume ended

/--
This action puts a new writer into a slot after dropping what was there. If that drop ends with a
fault, the new writer is lost: it has nothing buffered, so only its device is released.
-/
def storeWriter (slot : String) (writer : Writer Holding) : Act Session Unit := do
  match ← (dropWriter slot).outcome with
  | .ok _ => Act.modify fun session => { session with writers := session.writers.put slot writer }
  | .error fault =>
    onMachine (Resource.release writer.device)
    Act.fault fault

/-- This action takes a device for a new stream, if its slot is not empty. -/
def takeDevice : DeviceChoice → Act Session (Option Holding)
  | .reference descriptor => return some ⟨.reference ⟨descriptor⟩, "", false⟩
  | .guard slot lent => do
    let session ← Act.get
    Act.modify fun session => { session with guards := session.guards.erase slot }
    return (session.guards.get? slot).map fun guard => ⟨.guard guard, slot, lent⟩
  | .cursor slot lent => do
    let session ← Act.get
    Act.modify fun session => { session with cursors := session.cursors.erase slot }
    return (session.cursors.get? slot).map fun bookmark => ⟨.cursor bookmark, slot, lent⟩

def deviceSlot : DeviceChoice → String
  | .reference _ => ""
  | .guard slot _ => slot
  | .cursor slot _ => slot

/-- This action does something with the object in a slot, and reports a slot that is empty. -/
def withObject {α : Type} (slots : Session → Slots α) (slot : String)
    (use : α → Act Session Report) : Act Session Report := do
  let session ← Act.get
  match (slots session).get? slot with
  | some object => use object
  | none => return Report.ofFailure (.emptySlot slot)

end Session

end LinuxCalls
