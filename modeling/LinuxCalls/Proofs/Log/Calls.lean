/-
This file shows that the functions of the library are composed of its primitives, from the calls up to
the ends of the objects that own something.
-/

import LinuxCalls.Guard
import LinuxCalls.Mapping
import LinuxCalls.SignalMask
import LinuxCalls.Complaint
import LinuxCalls.Proofs.Log.Composed

namespace LinuxCalls

open Act (Composed)

variable {raw : Request → Prop}

namespace CallKind

theorem composed_settle (kind : CallKind) (completion : Completion) :
    Composed raw (attemptAgain.settle Log.tell kind completion) := by
  unfold attemptAgain.settle
  split
  · exact .bind (.tell (by decide) _) fun _ => .pure _
  · exact .pure _

theorem composed_attemptAgain (kind : CallKind) {registers : List Register}
    (filled : registers.length = registerCount) (left : Nat) :
    Composed raw (attemptAgain Log.tell kind registers left) := by
  induction left with
  | zero => exact .bind (.attemptOnce kind filled) fun _ => composed_settle kind _
  | succ left step =>
    refine .bind (.attemptOnce kind filled) fun completion => ?_
    split
    · exact .bind (.tell (by decide) _) fun _ => step
    · exact composed_settle kind _

theorem composed_complete (kind : CallKind) (registers : List Register) :
    Composed raw (kind.complete registers) := by
  unfold complete issue
  split
  · exact .fault _
  · rename_i few
    exact composed_attemptAgain kind (length_padded (Nat.not_lt.mp few)) _

theorem composed_invoke (kind : CallKind) (registers : List Register) :
    Composed raw (kind.invoke registers) :=
  .bind (composed_complete kind registers) fun _ => .ofExcept _

theorem composed_collect (kind : CallKind) (registers : List Register) :
    Composed raw (kind.collect registers) :=
  .bind (composed_complete kind registers) fun _ => .bind (.ofExcept _) fun _ => .pure _

theorem composed_run (kind : CallKind) (registers : List Register) : Composed raw (kind.run registers) :=
  .bind (composed_invoke kind registers) fun _ => .pure _

theorem composed_invokeInt32 (kind : CallKind) (registers : List Register) :
    Composed raw (kind.invokeInt32 registers) :=
  .bind (composed_invoke kind registers) fun _ => .pure _

end CallKind

namespace Descriptor

theorem composed_openAt (directory : Directory) (path : StringArgument) (flags : OpenFlags) (mode : Mode) :
    Composed raw (openAt directory path flags mode) :=
  .bind (.ofExcept _) fun _ => CallKind.composed_invokeInt32 _ _

theorem composed_unlinkAt (directory : Directory) (path : StringArgument) (isDirectory : Bool) :
    Composed raw (unlinkAt directory path isDirectory) :=
  .bind (.ofExcept _) fun _ => CallKind.composed_run _ _

theorem composed_setLength (descriptor : Descriptor) (length : UInt64) :
    Composed raw (setLength descriptor length) := by
  unfold setLength
  split
  · exact .fault _
  · exact CallKind.composed_run _ _

theorem composed_read (descriptor : Descriptor) (size : Nat) : Composed raw (read descriptor size) :=
  .bind (CallKind.composed_complete _ _) fun _ => .pure _

theorem composed_write (descriptor : Descriptor) (bytes : Bytes) : Composed raw (write descriptor bytes) :=
  .bind (CallKind.composed_invoke _ _) fun _ => .pure _

theorem composed_readAt (descriptor : Descriptor) (size : Nat) (offset : UInt64) :
    Composed raw (readAt descriptor size offset) :=
  .bind (CallKind.composed_complete _ _) fun _ => .pure _

theorem composed_writeAt (descriptor : Descriptor) (bytes : Bytes) (offset : UInt64) :
    Composed raw (writeAt descriptor bytes offset) :=
  .bind (CallKind.composed_invoke _ _) fun _ => .pure _

theorem composed_pipe (flags : OpenFlags) : Composed raw (pipe flags) :=
  .bind (CallKind.composed_collect _ _) fun _ => .pure _

theorem composed_status (descriptor : Descriptor) : Composed raw (status descriptor) :=
  .bind (CallKind.composed_collect _ _) fun _ => .pure _

theorem composed_memoryFile (name : StringArgument) (flags : MemoryFileFlags) :
    Composed raw (memoryFile name flags) :=
  .bind (.ofExcept _) fun _ => CallKind.composed_invokeInt32 _ _

end Descriptor

namespace SignalMask

theorem composed_change (how : MaskChange) (set : SignalSet) : Composed raw (change how set) :=
  .bind (CallKind.composed_collect _ _) fun _ => .pure _

theorem composed_current : Composed raw current :=
  .bind (CallKind.composed_collect _ _) fun _ => .pure _

end SignalMask

namespace Process

theorem composed_fork : Composed raw fork := by
  refine .bind (.callRuntime (.inl rfl) _ _) fun reply => ?_
  split
  · exact .fault _
  · split
    · exact .pure _
    · exact .pure _

theorem composed_exit {α : Type} (code : Int32) : Composed raw (exit code : Sys α) :=
  .bind (.perform _ (.inl (.inr ⟨.inr rfl, by simp [CallKind.registerCount]⟩))) fun _ => .fault _

theorem composed_launchBorrowing (program : Program) : Composed raw (launchBorrowing program) := by
  refine .bind (.ofExcept _) fun prepared => .bind (.perform _ (.inl (.inl rfl))) fun reply => ?_
  split
  · exact .bind (.perform _ (.inl (.inr ⟨.inl rfl, by simp [CallKind.registerCount]⟩))) fun _ => composed_exit _
  · exact .bind (.ofExcept _) fun _ => .bind (.tell (by decide) _) fun _ => .pure _

theorem composed_launch (program : Program) : Composed raw (launch program) := by
  refine .bind (.ofExcept _) fun prepared =>
    .bind (.callRuntime (.inr rfl) _ _) fun reply => ?_
  split
  · exact .fault _
  · exact .bind (.tell (by decide) _) fun _ => .pure _

theorem composed_execute {α : Type} (program : Program) : Composed raw (execute program : Sys α) :=
  .bind (.ofExcept _) fun _ => .bind (CallKind.composed_invoke _ _) fun _ => .fault _

theorem composed_wait (target : WaitTarget) (options : WaitOptions) : Composed raw (wait target options) :=
  .bind (CallKind.composed_collect _ _) fun _ => .ofExcept _

theorem composed_identifier : Composed raw identifier := by
  refine .bind (.attempt (CallKind.composed_invokeInt32 _ _)) fun result => ?_
  cases result <;> exact .pure _

end Process

namespace Complaint

/-- Pushing bytes out is composed, unless some of them are pushed. -/
theorem composed_push (bytes : Bytes) : Composed raw (push bytes) := by
  induction size : bytes.length using Nat.strongRecOn generalizing bytes with
  | ind size step =>
    subst size
    unfold push
    refine .bind (.attempt (Descriptor.composed_write _ _)) fun result => ?_
    cases result with
    | error error => exact .pure _
    | ok count =>
      dsimp only
      split
      · exact .pure _
      · split
        · exact .fault _
        · split
          · exact .pure _
          · exact step _ (by rw [List.length_drop]; omega) _ rfl

theorem composed_die {α : Type} (context : String) (error : Errno) : Composed raw (die context error : Sys α) :=
  .bind (composed_push _) fun _ => Process.composed_exit _

theorem composed_orDie {α : Type} {act : Sys α} (clear : Composed raw act) (context : String) :
    Composed raw (orDie act context) := by
  refine .bind (.attempt clear) fun result => ?_
  cases result with
  | ok value => exact .pure _
  | error error => exact composed_die context error

end Complaint

namespace Guard

theorem composed_pipe (flags : OpenFlags) : Composed raw (pipe flags) :=
  .bind (Descriptor.composed_pipe flags) fun _ => .pure _

theorem composed_drop (guard : Guard) : Composed raw guard.drop := by
  refine .bind (.attempt (CallKind.composed_run _ _)) fun result => ?_
  cases result with
  | ok _ => exact .pure _
  | error error => exact .tell (by decide) _

theorem composed_handOver (guard : Guard) : Composed raw guard.handOver := by
  unfold handOver
  split
  · exact .fault _
  · exact .pure _

theorem composed_writeAll (guard : Guard) (bytes : Bytes) : Composed raw (guard.writeAll bytes) := by
  induction size : bytes.length using Nat.strongRecOn generalizing bytes with
  | ind size step =>
    subst size
    unfold writeAll
    split
    · exact .pure _
    · rename_i nonempty
      have positive := List.length_pos_iff.mpr nonempty
      refine .bind (Descriptor.composed_write _ _) fun count => ?_
      split
      · exact .fault _
      · split
        · exact .fault _
        · exact step _ (by rw [List.length_drop]; omega) _ rfl

theorem composed_seekStandard (guard : Guard) (position : SeekPosition) :
    Composed raw (guard.seekStandard position) := by
  cases position with
  | start offset =>
    rw [seekStandard]
    split
    · exact .fault _
    · exact CallKind.composed_invoke _ _
  | current offset => exact CallKind.composed_invoke _ _
  | fileEnd offset => exact CallKind.composed_invoke _ _

end Guard

namespace Mapping

theorem composed_make (descriptor : Descriptor) (length : Nat) (offset : UInt64) (protection : Protection)
    (sharing : Sharing) (flags : MapFlags) :
    Composed raw (make descriptor length offset protection sharing flags) := by
  unfold make
  split
  · refine .bind (CallKind.composed_invoke _ _) fun address => ?_
    split
    · exact .fault _
    · exact .pure _
  · exact .fault _

theorem composed_store (address : Nat) (bytes : Bytes) :
    Composed raw (Act.modify fun machine : Machine =>
      { machine with memory := machine.memory.store address bytes }) :=
  .modify (fun _ => rfl) fun _ loud alike => by
    change ({ loud with memory := loud.memory.store address bytes } : Machine) = _
    rw [alike.memory]
    rfl

theorem composed_copyIn (mapping : Mapping) (start : Nat) (bytes : Bytes) :
    Composed raw (mapping.copyIn start bytes) := by
  unfold copyIn
  split
  · exact .fault _
  · split
    · exact .fault _
    · exact composed_store _ _

theorem composed_flush (mapping : Mapping) : Composed raw mapping.flush := by
  unfold flush
  cases mapping.sharing with
  | copied => exact .pure _
  | shared => exact CallKind.composed_run _ _

theorem composed_drop (mapping : Mapping) : Composed raw mapping.drop := by
  refine .bind (.attempt (CallKind.composed_run _ _)) fun result => ?_
  cases result with
  | ok _ => exact .pure _
  | error error => exact .tell (by decide) _

end Mapping

end LinuxCalls
