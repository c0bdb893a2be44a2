/-
This file shows what the devices that have a descriptor do to a stream: each write to such a device is one to
its descriptor, so a write past the buffer does what a guard of that descriptor does.
-/

import LinuxCalls.Writer

namespace LinuxCalls

variable {δ : Type} [Sink δ]

/-- A device writes to a descriptor if each write to it is one to the descriptor and leaves the device alone. -/
def Sink.WritesTo (device : δ) (descriptor : Descriptor) : Prop :=
  ∀ (bytes : Bytes) (machine : Machine), Sink.write bytes (device, machine) =
    ((Descriptor.write descriptor bytes machine).1, (device, (Descriptor.write descriptor bytes machine).2))

/-- A guard writes to the descriptor that it owns. -/
theorem Guard.writesTo (guard : Guard) : Sink.WritesTo guard guard.descriptor := fun _ _ => rfl

/-- A reference writes to the descriptor that it refers to. -/
theorem DescriptorRef.writesTo (reference : DescriptorRef) : Sink.WritesTo reference reference.descriptor :=
  fun _ _ => rfl

/-- A borrowed device writes to the descriptor of the device that is lent. -/
theorem Borrowed.writesTo {device : δ} {descriptor : Descriptor} (writes : Sink.WritesTo device descriptor) :
    Sink.WritesTo (Borrowed.mk device) descriptor := by
  intro bytes machine
  simp only [Sink.write, Act.focus_apply, writes bytes machine]

/-- A write past the buffer to a device that writes to a guard's descriptor is the guard's write of all bytes. -/
theorem Writer.writeThrough_of_writesTo {device : δ} {guard : Guard}
    (writes : Sink.WritesTo device guard.descriptor) (bytes : Bytes) (machine : Machine) :
    (writeThrough bytes : Act (δ × Machine) Unit) (device, machine) =
      ((guard.writeAll bytes machine).1, (device, (guard.writeAll bytes machine).2)) := by
  induction size : bytes.length using Nat.strongRecOn generalizing bytes machine with
  | ind size step =>
    subst size
    rw [writeThrough, Guard.writeAll]
    by_cases nothing : bytes = []
    · rw [if_pos nothing, if_pos nothing]
      rfl
    · have positive := List.length_pos_iff.mpr nothing
      rw [if_neg nothing, if_neg nothing, Act.bind_apply, Act.bind_apply, writes, Guard.write]
      rcases Descriptor.write guard.descriptor bytes machine with ⟨fault | count, next⟩
      · rfl
      · dsimp only
        split
        · rfl
        · split
          · rfl
          · exact step _ (by simp; omega) _ _ rfl

end LinuxCalls
