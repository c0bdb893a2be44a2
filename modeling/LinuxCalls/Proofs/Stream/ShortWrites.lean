/-
This file compares the loops that go on after a short write: a guard's write of all bytes, a write past an empty
buffer and a flush. They make the same calls with the same result, and only what stays in a buffer differs.
-/

import LinuxCalls.Proofs.Stream.DescriptorDevice
import LinuxCalls.Proofs.Stream.Pushing
import LinuxCalls.Proofs.Stream.WriterEnd

namespace LinuxCalls.Writer

variable {δ : Type} [Sink δ]

/-- A write to an empty buffer of bytes that the buffer could never hold goes past the buffer at once. -/
theorem writeAll_of_large {bytes : Bytes} {capacity : Nat} (large : capacity ≤ bytes.length) (device : δ)
    (machine : Machine) :
    (writeAll bytes : Act (Writer δ × Machine) Unit) (⟨device, [], capacity⟩, machine) =
      (onDevice (writeThrough bytes) : Act (Writer δ × Machine) Unit) (⟨device, [], capacity⟩, machine) := by
  have flushed : (flush : Act (Writer δ × Machine) Unit) (⟨device, [], capacity⟩, machine) =
      (.ok (), (⟨device, [], capacity⟩, machine)) := flush_of_empty rfl
  rw [writeAll_apply]
  split
  · rw [Act.bind_of_ok _ flushed, place, if_pos large]
  · rw [place, if_pos large]

/--
Three loops go on after a short write, and they make the same writes of the same bytes with the same result: the
machine is the same after them, and recorded devices have the same offers. Each offer is what the answers before
it have left, and an answer beyond the bytes offered is a panic of all three. Nothing stays in a buffer that was
written past. A flush that fails keeps what no answer has acknowledged, and one that panics keeps everything.
-/
theorem short_write_loops_agree {device : δ} {guard : Guard} (writes : Sink.WritesTo device guard.descriptor)
    {bytes : Bytes} {capacity : Nat} (large : capacity ≤ bytes.length) (held : Nat) (machine : Machine) :
    ∃ outcome next offers left,
      guard.writeAll bytes machine = (outcome, next) ∧
      writeAll bytes (⟨device, [], capacity⟩, machine) = (outcome, (⟨device, [], capacity⟩, next)) ∧
      flush (⟨device, bytes, held⟩, machine) = (outcome, (⟨device, kept bytes left outcome, held⟩, next)) ∧
      writeAll bytes (⟨Recorded.start device, [], capacity⟩, machine) =
        (outcome, (⟨⟨device, offers⟩, [], capacity⟩, next)) ∧
      flush (⟨Recorded.start device, bytes, held⟩, machine) =
        (outcome, (⟨⟨device, offers⟩, kept bytes left outcome, held⟩, next)) ∧
      Pushes bytes offers left ∧ Stops offers left outcome := by
  let start : Writer (Recorded δ Offer) × Machine := (⟨Recorded.start device, bytes, held⟩, machine)
  obtain ⟨outcome, recorded, next, offers, left, through, flushed, noted, pushes, stops⟩ := flush_pushes start
  -- The bare device does what the recorded one does, and it is the guard's descriptor that is written to.
  have bare : writeThrough bytes (device, machine) = (outcome, (recorded.device, next)) := by
    have same := standsFor_writeThrough Recorded.standsFor_write bytes (start.1.device, machine)
    rw [through] at same
    exact same
  have direct := writeThrough_of_writesTo writes bytes machine
  rw [bare] at direct
  obtain ⟨ended, rfl, left'⟩ : outcome = (guard.writeAll bytes machine).1 ∧ recorded.device = device ∧
      next = (guard.writeAll bytes machine).2 := by simpa using direct
  have whole : recorded = ⟨recorded.device, offers⟩ := by
    have all : recorded.record = offers := noted
    rw [← all]
  refine ⟨outcome, next, offers, left, Prod.ext ended.symm left'.symm, ?_, ?_, ?_, ?_, pushes, stops⟩
  · rw [writeAll_of_large large, onDevice, Act.focus_apply, bare]
  · have same := standsFor_flush Recorded.standsFor_write start
    rw [flushed] at same
    exact same
  · rw [writeAll_of_large large, onDevice, Act.focus_apply]
    change ((writeThrough bytes (start.1.device, machine)).1, _) = _
    rw [through, ← whole]
  · rw [← whole]
    exact flushed

/--
A short write and a refused one, to a borrowed reference, with a buffer that holds all bytes and one that does not.
-/
theorem short_write_loops_agree_refused_write :
    let device : Borrowed DescriptorRef := ⟨⟨5⟩⟩
    let guard : Guard := ⟨5⟩
    let bytes : Bytes := [1, 2, 3, 4, 5]
    let machine := Machine.start ⟨[(.call .write, [{ most := some 2 }, { word := some 0 }])]⟩ (.upTo .trace)
    Sink.WritesTo device guard.descriptor ∧ 2 ≤ bytes.length ∧ ∃ outcome next offers left,
      guard.writeAll bytes machine = (outcome, next) ∧
      writeAll bytes (⟨device, [], 2⟩, machine) = (outcome, (⟨device, [], 2⟩, next)) ∧
      flush (⟨device, bytes, 8⟩, machine) = (outcome, (⟨device, kept bytes left outcome, 8⟩, next)) ∧
      writeAll bytes (⟨Recorded.start device, [], 2⟩, machine) =
        (outcome, (⟨⟨device, offers⟩, [], 2⟩, next)) ∧
      flush (⟨Recorded.start device, bytes, 8⟩, machine) =
        (outcome, (⟨⟨device, offers⟩, kept bytes left outcome, 8⟩, next)) ∧
      Pushes bytes offers left ∧ Stops offers left outcome := by
  intro device guard bytes machine
  have writes : Sink.WritesTo device guard.descriptor := Borrowed.writesTo (DescriptorRef.writesTo ⟨5⟩)
  have large : 2 ≤ bytes.length := by decide
  exact ⟨writes, large, short_write_loops_agree writes large 8 machine⟩

end LinuxCalls.Writer
