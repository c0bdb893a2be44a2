/-
This file holds the devices that byte streams run on: where bytes come from, where they go, and what
happens to a device at the end of its life.
-/

import LinuxCalls.Guard
import LinuxCalls.Cursor

namespace LinuxCalls

/-- What became of a caller's buffer: its contents and the count or an error. -/
structure Reading where
  buffer : Bytes
  count : Except Errno Nat

def Delivery.into (delivery : Delivery) (buffer : Bytes) : Reading :=
  ⟨Bytes.overlay delivery.stored buffer, delivery.count⟩

/-- A device that bytes come from. -/
class Source (δ : Type) where
  /-- This action reads once into a buffer. -/
  read : (buffer : Bytes) → Act (δ × Machine) Reading
  /-- A bound on the reads that can still bring something. -/
  reserve : δ → Machine → Nat

/-- A device that bytes go to. -/
class Sink (δ : Type) where
  /-- This action writes once and gives the number of bytes that was accepted. -/
  write : Bytes → Act (δ × Machine) Nat

/-- A device that is released at the end of its life. -/
class Resource (δ : Type) where
  /-- This action releases the device. -/
  release : δ → Sys Unit

/-- A descriptor that is used without being owned. -/
structure DescriptorRef where
  descriptor : Descriptor
  deriving DecidableEq

def DescriptorRef.longForm (reference : DescriptorRef) : String :=
  "FdRef(" ++ toString reference.descriptor.toInt ++ ")"

/-- Reads of descriptors bring something only while the script has answers for them. -/
def Descriptor.reserve (machine : Machine) : Nat := machine.script.uses (.call .read)

instance : Source DescriptorRef where
  read buffer := do
    let (reference, _) ← Act.get
    let delivery ← liftM (Descriptor.read reference.descriptor buffer.length)
    return delivery.into buffer
  reserve _ machine := Descriptor.reserve machine

instance : Sink DescriptorRef where
  write bytes := do
    let (reference, _) ← Act.get
    liftM (Descriptor.write reference.descriptor bytes)

instance : Resource DescriptorRef where
  release _ := pure ()

instance : Source Guard where
  read buffer := do
    let (guard, _) ← Act.get
    let delivery ← liftM (guard.read buffer.length)
    return delivery.into buffer
  reserve _ machine := Descriptor.reserve machine

instance : Sink Guard where
  write bytes := do
    let (guard, _) ← Act.get
    liftM (guard.write bytes)

instance : Resource Guard where
  release guard := guard.drop

instance : Source Cursor where
  read buffer := do
    let bytes ← Cursor.read buffer.length
    return ⟨Bytes.overlay bytes buffer, .ok bytes.length⟩
  reserve cursor _ := cursor.left

instance : Sink Cursor where
  write bytes := Cursor.write bytes

instance : Resource Cursor where
  release _ := pure ()

/-- A device that a stream borrows. Its owner releases it. -/
structure Borrowed (δ : Type) where
  device : δ

instance {δ : Type} [Source δ] : Source (Borrowed δ) where
  read buffer := Act.focus (fun state => (state.1.device, state.2))
    (fun _ next => (⟨next.1⟩, next.2)) (Source.read buffer)
  reserve borrowed machine := Source.reserve borrowed.device machine

instance {δ : Type} [Sink δ] : Sink (Borrowed δ) where
  write bytes := Act.focus (fun state => (state.1.device, state.2))
    (fun _ next => (⟨next.1⟩, next.2)) (Sink.write bytes)

instance {δ : Type} : Resource (Borrowed δ) where
  release _ := pure ()

def defaultCapacity : Nat := 8192

end LinuxCalls
