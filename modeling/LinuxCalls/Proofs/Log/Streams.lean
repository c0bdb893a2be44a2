/-
This file shows that what cursors do is composed of primitives, and that what readers and writers do is
composed if it is on their devices.
-/

import LinuxCalls.Proofs.Log.Calls
import LinuxCalls.Proofs.Stream.CursorDevice
import LinuxCalls.Proofs.Stream.Writing

namespace LinuxCalls

open Act (Composed)

variable {raw : Request → Prop} {δ α : Type}

/-- A source is composed if its reads are and if like machines give it the same reserve. -/
structure Source.Composed (raw : Request → Prop) (δ : Type) [Source δ] : Prop where
  read : ∀ buffer, Act.Composed raw (Source.read buffer : Act (δ × Machine) Reading)
  reserve : ∀ (device : δ) (quiet loud : Machine), quiet.Alike loud →
    Source.reserve device loud = Source.reserve device quiet

/-- A sink is composed if its writes are. -/
def Sink.Composed (raw : Request → Prop) (δ : Type) [Sink δ] : Prop :=
  ∀ bytes, Act.Composed raw (Sink.write bytes : Act (δ × Machine) Nat)

/-- A resource is composed if its release is. -/
def Resource.Composed (raw : Request → Prop) (δ : Type) [Resource δ] : Prop :=
  ∀ device : δ, Act.Composed raw (Resource.release device)

namespace Cursor

theorem composed_read (size : Nat) : Composed raw (read size) := by
  refine .get_bind (fun state loud alike => ?_) fun state => ?_
  · change (do
      Act.modify _
      return loud.memory.load state.1.address (min state.1.left size) : Act (Cursor × Machine) Bytes) = _
    rw [alike.memory]
    rfl
  · exact .bind (.modifyBeside (fun _ => rfl) fun _ _ => rfl) fun _ => .pure _

theorem composed_write (bytes : Bytes) : Composed raw (write bytes) := by
  unfold write
  split
  · exact .pure _
  · refine .get_bind (fun _ _ _ => rfl) fun state => ?_
    dsimp only
    split
    · exact .fault _
    · split
      · exact .fault _
      · refine .bind (.modify (fun _ => rfl) fun later loud alike => ?_) fun _ => .pure _
        have alike' : later.2.Alike loud := alike
        change (_, ({ loud with memory := loud.memory.store _ _ } : Machine)) = _
        rw [alike'.memory]
        rfl

end Cursor

namespace Reader

theorem composed_self_bind {next : Reader δ → Act (Reader δ × Machine) α}
    (later : ∀ reader, Composed raw (next reader)) : Composed raw (self >>= next) :=
  .get_bind (fun _ _ _ => rfl) fun state => later state.1

theorem composed_change (update : Reader δ → Reader δ) : Composed raw (change update) :=
  .modifyBeside (fun _ => rfl) fun _ _ => rfl

theorem composed_onDevice {act : Act (δ × Machine) α} (clear : Composed raw act) :
    Composed raw (onDevice act) :=
  .focus clear (fun _ => rfl) (fun _ _ => rfl) (fun _ _ => rfl) fun _ _ _ _ => rfl

section Source

variable [Source δ] (source : Source.Composed raw δ)

include source

theorem composed_fill : Composed raw (fill : Act (Reader δ × Machine) Unit) := by
  refine composed_self_bind fun reader => ?_
  split
  · refine .bind (composed_onDevice (source.read _)) fun reading =>
      .bind (composed_change _) fun _ => .bind (.ofExcept _) fun count => ?_
    split
    · exact .bind (.fault _) fun _ => composed_change _
    · exact composed_change _
  · exact .pure _

theorem composed_available : Composed raw (available : Act (Reader δ × Machine) Bytes) :=
  .bind (composed_fill source) fun _ => composed_self_bind fun _ => .pure _

theorem composed_read (out : Bytes) : Composed raw (read out : Act (Reader δ × Machine) Reading) := by
  refine composed_self_bind fun reader => ?_
  split
  · exact composed_onDevice (source.read out)
  · refine .bind (.attempt (composed_available source)) fun result => ?_
    cases result with
    | error error => exact .pure _
    | ok bytes => exact .bind (composed_change _) fun _ => .pure _

theorem composed_fillFrom (rounds : Nat) (out : Bytes) :
    Composed raw (readExact.fillFrom rounds out : Act (Reader δ × Machine) Collected) := by
  induction rounds generalizing out with
  | zero => exact .pure _
  | succ rounds step =>
    unfold readExact.fillFrom
    split
    · exact .pure _
    · refine .bind (composed_read source out) fun reading => ?_
      obtain ⟨filled, count⟩ := reading
      cases count with
      | error error => exact .pure _
      | ok count =>
        dsimp only
        split
        · exact .pure _
        · split
          · exact .fault _
          · exact .bind (step _) fun _ => .pure _

theorem composed_collect (delimiter : UInt8) (rounds total : Nat) :
    Composed raw (readUntil.collect delimiter rounds total : Act (Reader δ × Machine) (Appended Bytes)) := by
  induction rounds generalizing total with
  | zero => exact .pure _
  | succ rounds step =>
    unfold readUntil.collect
    refine .bind (.attempt (composed_available source)) fun result => ?_
    rcases result with error | _ | ⟨first, rest⟩
    · exact .pure _
    · exact .pure _
    · dsimp only
      split
      · exact .bind (composed_change _) fun _ => .pure _
      · exact .bind (composed_change _) fun _ => .bind (step _) fun _ => .pure _

theorem composed_readUntil (delimiter : UInt8) (out : Bytes) :
    Composed raw (readUntil delimiter out : Act (Reader δ × Machine) (Appended Bytes)) := by
  refine .get_bind (fun state loud alike => ?_) fun state =>
    .bind (composed_collect source delimiter _ 0) fun _ => .pure _
  change (readUntil.collect delimiter (Source.reserve state.1.device loud + 2) 0 >>= fun _ => _) = _
  rw [source.reserve state.1.device state.2 loud alike]

theorem composed_readLine (out : String) :
    Composed raw (readLine out : Act (Reader δ × Machine) (Appended String)) := by
  refine .bind (composed_readUntil source lineEnd []) fun line => ?_
  obtain ⟨bytes, count⟩ := line
  cases count with
  | error error => exact .pure _
  | ok count =>
    dsimp only
    cases Text.ofBytes? bytes <;> exact .pure _

end Source

end Reader

namespace Writer

theorem composed_self_bind {next : Writer δ → Act (Writer δ × Machine) α}
    (later : ∀ writer, Composed raw (next writer)) : Composed raw (self >>= next) :=
  .get_bind (fun _ _ _ => rfl) fun state => later state.1

theorem composed_setBuffer (bytes : Bytes) :
    Composed raw (setBuffer bytes : Act (Writer δ × Machine) Unit) :=
  .modifyBeside (fun _ => rfl) fun _ _ => rfl

theorem composed_onDevice {act : Act (δ × Machine) α} (clear : Composed raw act) :
    Composed raw (onDevice act) :=
  .focus clear (fun _ => rfl) (fun _ _ => rfl) (fun _ _ => rfl) fun _ _ _ _ => rfl

section Sink

variable [Sink δ] (sink : Sink.Composed raw δ)

include sink

theorem composed_drainFrom (bytes : Bytes) (written : Nat) :
    Composed raw (drainFrom bytes written : Act (δ × Machine) (Nat × Except Errno Unit)) := by
  induction left : bytes.length - written using Nat.strongRecOn generalizing written with
  | ind size step =>
    subst left
    unfold drainFrom
    split
    · exact .pure _
    · split
      · exact .fault _
      · refine .bind (.attempt (sink _)) fun answer => ?_
        cases answer with
        | error error => exact .pure _
        | ok count =>
          dsimp only
          split
          · exact .pure _
          · exact step _ (by omega) _ rfl

theorem composed_flush : Composed raw (flush : Act (Writer δ × Machine) Unit) :=
  composed_self_bind fun writer =>
    .bind (composed_onDevice (composed_drainFrom sink writer.buffer 0)) fun _ =>
      .bind (composed_setBuffer _) fun _ => .ofExcept _

theorem composed_writeThrough (bytes : Bytes) :
    Composed raw (writeThrough bytes : Act (δ × Machine) Unit) := by
  induction size : bytes.length using Nat.strongRecOn generalizing bytes with
  | ind size step =>
    subst size
    unfold writeThrough
    split
    · exact .pure _
    · rename_i nonempty
      have positive := List.length_pos_iff.mpr nonempty
      refine .bind (sink _) fun count => ?_
      split
      · exact .fault _
      · split
        · exact .fault _
        · exact step _ (by rw [List.length_drop]; omega) _ rfl

theorem composed_writeAll (bytes : Bytes) :
    Composed raw (writeAll bytes : Act (Writer δ × Machine) Unit) := by
  have placed (capacity : Nat) : Composed raw (place capacity bytes : Act (Writer δ × Machine) Unit) := by
    unfold place
    split
    · exact composed_onDevice (composed_writeThrough sink bytes)
    · exact composed_self_bind fun _ => composed_setBuffer _
  rw [writeAll_eq]
  refine composed_self_bind fun writer => ?_
  split
  · exact .bind (composed_flush sink) fun _ => placed _
  · exact placed _

theorem composed_writeFormat_go (format : Format) (seen : Option Errno) :
    Composed raw (writeFormat.go format seen : Act (Writer δ × Machine) Unit) := by
  induction format generalizing seen with
  | done => exact .pure _
  | refuse => exact .fault _
  | piece text next step =>
    refine .bind (.attempt (composed_writeAll sink text)) fun result => ?_
    cases result with
    | ok _ => exact step true seen
    | error error => exact step false (some error)

theorem composed_flushAtEnd : Composed raw (flushAtEnd : Act (Writer δ × Machine) Unit) := by
  refine composed_self_bind fun writer => ?_
  split
  · exact .pure _
  · refine .bind (.attempt (composed_flush sink)) fun result => ?_
    cases result with
    | ok _ => exact .pure _
    | error error => exact composed_self_bind fun _ => .lift (.tell (by decide) _)

variable [Resource δ] (resource : Resource.Composed raw δ)

omit [Sink δ] sink in
include resource in
theorem composed_releaseDevice : Composed raw (drop.releaseDevice : Act (Writer δ × Machine) Unit) :=
  composed_self_bind fun writer => .lift (resource writer.device)

include resource

theorem composed_drop : Composed raw (drop : Act (Writer δ × Machine) Unit) :=
  .releasing (composed_flushAtEnd sink) (composed_releaseDevice resource)

theorem composed_finish : Composed raw (finish : Act (Writer δ × Machine) Unit) := by
  have flushed : Composed raw (finish.flushOrLose : Act (Writer δ × Machine) (Except Errno Unit)) := by
    refine .bind (.attempt (composed_flush sink)) fun result => ?_
    cases result with
    | ok _ => exact .pure _
    | error error =>
      exact composed_self_bind fun _ => .bind (.lift (.tell (by decide) _)) fun _ =>
        .bind (composed_setBuffer _) fun _ => .pure _
  refine .bind (.outcome flushed) fun ended => ?_
  rcases ended with reason | error | _
  · cases reason with
    | exit status => exact .fault _
    | errno error => exact .bind (composed_drop sink resource) fun _ => .fault _
    | panic => exact .bind (composed_drop sink resource) fun _ => .fault _
  · exact .bind (composed_releaseDevice resource) fun _ => .fault _
  · exact .pure _

end Sink

end Writer

end LinuxCalls
