/-
This file follows the streams of the probe. What a stream asks of the kernel is a row of transfers, and the one that
fails is the last of them.
-/

import LinuxCalls.Proofs.Calls.Errors
import LinuxCalls.Proofs.Probe.Record
import LinuxCalls.Proofs.Probe.Tasks

namespace LinuxCalls

open Act (Rows Traces)

namespace Writer

variable {δ : Type} [Sink δ]

end Writer

namespace Probe

open CarriesOut (Alone)

variable {α : Type}

namespace Task

/-- Bytes are written to a descriptor. A write that fails or accepts nothing is the last one. -/
def write : Task where
  passes _ calls := ∃ descriptor, Row (Descriptor.Accepts descriptor) (Descriptor.Declines descriptor) calls none
  fails _ calls := ∃ descriptor error,
    Row (Descriptor.Accepts descriptor) (Descriptor.Declines descriptor) calls (some error)
  apart := by
    rintro _ _ - ⟨descriptor, fine⟩ ⟨other, error, failed⟩
    obtain ⟨call, member, declines⟩ := failed.exists_stops
    exact (fine.passing call member).not_declines declines

/-- A report is written to the standard output. -/
def tell : Task where
  passes _ calls := Tells calls
  fails _ calls := ∃ call ∈ calls, Descriptor.Declines Descriptor.output call
  apart := by
    rintro _ _ - tells ⟨call, member, declines⟩
    exact (tells call member).not_declines declines

/-- The bytes of the next line behind a descriptor. -/
def lineBehind (guard : Guard) (machine : Machine) (line : Bytes) : Prop :=
  ∃ count, ((Reader.readUntil Reader.lineEnd [] : Act (Reader (Borrowed Guard) × Machine) _)
    (Reader.ofDevice ⟨guard⟩, machine)).1 = .ok ⟨line, .ok count⟩

/-- There is at most one line behind a descriptor. -/
theorem lineBehind_unique {guard : Guard} {machine : Machine} {line other : Bytes}
    (behind : lineBehind guard machine line) (again : lineBehind guard machine other) : line = other := by
  obtain ⟨_, same⟩ := behind
  obtain ⟨_, same'⟩ := again
  exact congrArg Appended.out (Except.ok.inj (same.symm.trans same'))

/-- A line is read from a descriptor. A read that fails is the last one, and a line that is no text is a failure. -/
def readLine : Task where
  passes machine calls := ∃ guard line text, lineBehind guard machine line ∧ Text.ofBytes? line = some text ∧
    Row (Descriptor.Delivers guard.descriptor) (Descriptor.Refuses guard.descriptor) calls none
  fails machine calls := ∃ guard,
    (∃ error, Row (Descriptor.Delivers guard.descriptor) (Descriptor.Refuses guard.descriptor) calls (some error)) ∨
    ∃ line, lineBehind guard machine line ∧ Text.ofBytes? line = none ∧
      Row (Descriptor.Delivers guard.descriptor) (Descriptor.Refuses guard.descriptor) calls none
  apart := by
    rintro _ calls begun ⟨guard, line, text, behind, read, fine⟩
      ⟨other, ⟨error, failed⟩ | ⟨line', behind', none, fine'⟩⟩
    · obtain ⟨call, member, refuses⟩ := failed.exists_stops
      exact (fine.passing call member).not_refuses refuses
    · -- The first read says from which descriptor the line came.
      obtain ⟨call, rest, rfl⟩ := List.exists_cons_of_ne_nil begun
      have delivers := fine.passing call List.mem_cons_self
      have same : guard = other := congrArg Guard.mk (delivers.unique (fine'.passing call List.mem_cons_self))
      subst same
      rw [lineBehind_unique behind behind', none] at read
      contradiction

end Task

section Writers

variable {δ : Type} [Sink δ] {keeps : δ × Machine → Prop} {passes stops : Event → Prop} {task : Task}
  (sink : Sink.Rows δ keeps passes stops)
  (passing : ∀ machine calls, Row passes stops calls none → task.passes machine calls)
  (failing : ∀ machine calls error, Row passes stops calls (some error) → task.fails machine calls)

include sink passing failing

end Writers

section Dropped

variable {δ : Type} [Sink δ]

variable {state : Writer (Borrowed δ) × Machine}

end Dropped

/-- Writing to a file that the program has borrowed carries a plan out, or it is the last of what the program does. -/
theorem CarriesOut.writing {plan : List Item} {before after : Writer (Borrowed Guard) × Machine → Prop}
    {act : Act (Writer (Borrowed Guard) × Machine) Unit}
    (carries : CarriesOut (fun _ => []) True before plan after act) (context : String) :
    CarriesOut (fun _ => []) False before plan after (Probe.writing act context) :=
  carries.dying (fun _ _ _ => rfl) (fun _ => ⟨(), rfl⟩) fun _ => rfl

/-- Writing to the standard output carries a plan out, or it is the last of what the program does. -/
theorem CarriesOut.onReports {plan : List Item} {before after : Writer DescriptorRef × Machine → Prop}
    {act : Run (Writer DescriptorRef) α} (carries : CarriesOut (fun _ => []) True before plan after act)
    (context : String) : CarriesOut (fun _ => []) False before plan after (Probe.onReports act context) :=
  carries.dying (fun _ _ _ => rfl) (fun value => ⟨value, rfl⟩) fun _ => rfl

end Probe

end LinuxCalls
