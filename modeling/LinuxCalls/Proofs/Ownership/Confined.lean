/-
This file confines actions to the calls that they may make. A use of a guard makes calls on its
descriptor only, and so does a call on a stream that holds a guard.
-/

import LinuxCalls.Proofs.Calls.Errors
import LinuxCalls.Proofs.Ownership.Balance
import LinuxCalls.Session.Streams

namespace LinuxCalls

namespace Act

variable {σ α β : Type} [HasMachine σ] {keeps : σ → Prop} {allowed : Event → Prop}

/-- An action is confined if it keeps what holds of its state and makes allowed calls only. -/
def Confined (keeps : σ → Prop) (allowed : Event → Prop) (act : Act σ α) : Prop :=
  ∀ state, keeps state → act.Traces state fun calls _ next => keeps next ∧ ∀ call ∈ calls, allowed call

/-- A faithful action is confined, whatever its causes to fail are. -/
theorem Faithful.confined {failure : α → Option Errno} {act : Act σ α}
    (faithful : Faithful keeps allowed (fun _ _ => True) failure act) : Confined keeps allowed act :=
  fun state kept => (faithful state kept).mono fun _ _ _ done => ⟨done.kept, done.allowed⟩

namespace Confined

/-- An action that leaves the machine alone is confined. -/
theorem of_still {act : Act σ α}
    (still : ∀ state, keeps state → machine (act state).2 = machine state ∧ keeps (act state).2) :
    Confined keeps allowed act :=
  fun state kept => .of_still (still state kept).1 ⟨(still state kept).2, nofun⟩

theorem pure (value : α) : Confined keeps allowed (Pure.pure value : Act σ α) :=
  of_still fun _ kept => ⟨rfl, kept⟩

theorem fault (reason : Fault) : Confined keeps allowed (Act.fault reason : Act σ α) :=
  of_still fun _ kept => ⟨rfl, kept⟩

theorem ofExcept (result : Except Errno α) : Confined keeps allowed (Act.ofExcept result : Act σ α) := by
  cases result with
  | ok value => exact pure value
  | error error => exact fault _

theorem bind {first : Act σ α} {second : α → Act σ β} (confined : Confined keeps allowed first)
    (onwards : ∀ value, Confined keeps allowed (second value)) : Confined keeps allowed (first >>= second) := by
  intro state kept
  apply (confined state kept).bind
  · rintro calls value middle ⟨kept, head⟩
    refine (onwards value middle kept).mono ?_
    rintro more outcome next ⟨kept, tail⟩
    exact ⟨kept, fun call member => (List.mem_append.mp member).elim (head call) (tail call)⟩
  · intro calls reason next ended
    exact ended

theorem map {act : Act σ α} (confined : Confined keeps allowed act) (change : α → β) :
    Confined keeps allowed (change <$> act) := by
  rw [← bind_pure_comp]
  exact confined.bind fun value => .pure (change value)

theorem attempt {act : Act σ α} (confined : Confined keeps allowed act) : Confined keeps allowed act.attempt := by
  intro state kept
  apply (confined state kept).attempt
  all_goals
    intros
    assumption

theorem mono {more : Event → Prop} {act : Act σ α} (confined : Confined keeps allowed act)
    (admits : ∀ call, allowed call → more call) : Confined keeps more act :=
  fun state kept => (confined state kept).mono fun _ _ _ done =>
    ⟨done.1, fun call member => admits call (done.2 call member)⟩

end Confined

end Act

open Act (Confined Faithful)

/-- Without a cause to name, only the calls that may be tried again matter. -/
theorem extends_true {allowed : Event → Prop} (plain : ∀ call, allowed call → ¬ call.IsBusyDuplicate) :
    Extends allowed fun _ _ => True := ⟨plain, fun _ _ _ _ => trivial⟩

namespace Guard

/-- An action on a guard is confined to calls on its descriptor that open no other one. -/
abbrev Confines {α : Type} (guard : Guard) (act : Sys α) : Prop :=
  Confined (fun _ => True) (Event.Borrows guard.descriptor) act

variable (guard : Guard)

theorem confines_of_faithful {α : Type} {failure : α → Option Errno} {kind : CallKind} {act : Sys α}
    (uses : kind ∈ CallKind.onDescriptor) (plain : CallKind.opening.contains kind = false)
    (faithful : Faithful (fun _ => True) (kind.Puts [.ofInt32 guard.descriptor]) (fun _ _ => True) failure act) :
    guard.Confines act :=
  faithful.confined.mono fun _ puts =>
    ⟨.on uses puts, (Event.isOpening_of_puts puts).trans plain⟩

theorem confines_duplicateOnto (target : Guard) : guard.Confines (guard.duplicateOnto target) := by
  have duplicates : Faithful (fun _ => True) (CallKind.duplicateOnto.Puts
      [.ofInt32 guard.descriptor, .ofInt32 target.descriptor]) (fun _ _ => True) (fun _ => none)
      (guard.duplicateOnto target) :=
    (CallKind.faithful_invokeInt32 (List.prefix_refl _)).followed fun _ => .pure ()
  exact duplicates.confined.mono fun _ puts => ⟨.onto puts, Event.isOpening_of_puts puts⟩

theorem confines_read (size : Nat) : guard.Confines (guard.read size) :=
  guard.confines_of_faithful (by decide) (by decide) (Descriptor.faithful_read guard.descriptor size)

theorem confines_readAt (size : Nat) (offset : UInt64) : guard.Confines (guard.readAt size offset) :=
  guard.confines_of_faithful (by decide) (by decide) (Descriptor.faithful_readAt guard.descriptor size offset)

theorem confines_write (bytes : Bytes) : guard.Confines (guard.write bytes) :=
  guard.confines_of_faithful (by decide) (by decide) (Descriptor.faithful_write guard.descriptor bytes)

theorem confines_writeAt (bytes : Bytes) (offset : UInt64) : guard.Confines (guard.writeAt bytes offset) :=
  guard.confines_of_faithful (by decide) (by decide) (Descriptor.faithful_writeAt guard.descriptor bytes offset)

theorem confines_writeAll (bytes : Bytes) : guard.Confines (guard.writeAll bytes) :=
  guard.confines_of_faithful (by decide) (by decide)
    ((guard.faithful_writeAll bytes).mono (fun _ writes => writes) fun _ _ _ => trivial)

theorem confines_seek (offset : Int64) (origin : Origin) : guard.Confines (guard.seek offset origin) :=
  guard.confines_of_faithful (by decide) (by decide) (CallKind.faithful_invoke (List.prefix_append [_] _))

theorem confines_seekStandard (position : SeekPosition) : guard.Confines (guard.seekStandard position) := by
  cases position with
  | start offset =>
    change guard.Confines (if _ then _ else _)
    split
    · exact .fault _
    · exact guard.confines_seek _ _
  | current offset => exact guard.confines_seek _ _
  | fileEnd offset => exact guard.confines_seek _ _

theorem confines_setLength (length : UInt64) : guard.Confines (guard.setLength length) :=
  guard.confines_of_faithful (by decide) (by decide) (Descriptor.faithful_setLength _ length fun _ => trivial)

theorem confines_status : guard.Confines guard.status :=
  guard.confines_of_faithful (by decide) (by decide) (Descriptor.faithful_status guard.descriptor)

end Guard

namespace Reader

/-- An action on a reader is confined to what it holds. -/
abbrev Confines {α : Type} (origin : Holding) (act : Act (Reader Holding × Machine) α) : Prop :=
  Confined (DeviceKeeps origin.Remains) origin.device.Allows act

variable {origin : Holding}

/-- A holding is a source whose causes need no name. -/
private theorem source (origin : Holding) :
    Source.Faithful Holding origin.Remains origin.device.Allows fun _ _ => True :=
  origin.faithful_source fun _ _ => True

theorem confines_available : Confines origin available := (faithful_available (source origin)).confined

theorem confines_consume (amount : Nat) : Confines origin (consume amount) := .of_still fun _ kept => ⟨rfl, kept⟩

theorem confines_read (out : Bytes) : Confines origin (read out) := (faithful_read (source origin) out).confined

theorem confines_readExact (out : Bytes) : Confines origin (readExact out) :=
  (faithful_fillFrom (source origin) (extends_true origin.device.extends_cause.plain) trivial out.length out).confined

theorem confines_readUntil (delimiter : UInt8) (out : Bytes) : Confines origin (readUntil delimiter out) :=
  (faithful_readUntil (source origin) (extends_true origin.device.extends_cause.plain) delimiter out).confined

theorem confines_readLine (out : String) : Confines origin (readLine out) :=
  (faithful_readLine (source origin) (extends_true origin.device.extends_cause.plain) trivial out).confined

end Reader

namespace Writer

/-- An action on a writer is confined to what it holds. -/
abbrev Confines {α : Type} (origin : Holding) (act : Act (Writer Holding × Machine) α) : Prop :=
  Confined (Holds origin) origin.device.Allows act

variable {origin : Holding}

/-- A holding is a sink whose causes need no name. -/
private theorem sink (origin : Holding) :
    Sink.Faithful Holding origin.Remains origin.device.Allows fun _ _ => True :=
  origin.faithful_sink.mono fun _ _ _ => trivial

theorem confines_writeAll (bytes : Bytes) : Confines origin (writeAll bytes) :=
  (faithful_writeAll (sink origin) (extends_true origin.device.extends_cause.plain) bytes).confined

theorem confines_flush : Confines origin flush :=
  (faithful_flush (sink origin) (extends_true origin.device.extends_cause.plain)).confined

/-- A formatted write is confined, whether or not the value passes errors on. -/
theorem confines_writeFormat (format : Format) : Confines origin (writeFormat format) := by
  -- The errors seen so far make no difference to the calls.
  have goes (seen : Option Errno) : Confines origin (writeFormat.go format seen) := by
    induction format generalizing seen with
    | done => exact .pure ()
    | refuse => exact .fault _
    | piece text next step =>
      apply (confines_writeAll text).attempt.bind
      intro result
      cases result with
      | ok _ => exact step true seen
      | error error => exact step false (some error)
  exact goes none

end Writer

end LinuxCalls
