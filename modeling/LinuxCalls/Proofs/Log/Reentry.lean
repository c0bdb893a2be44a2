/-
This file shows that the log may use the library's own calls. While a record is being written, a call
that is logged does what a silent one does.
-/

import LinuxCalls.Invoke

namespace LinuxCalls

variable {α β : Type}

/-- Two actions do the same while a record is being written, and they leave it being written. -/
structure SameWhileRecording (first second : Sys α) : Prop where
  same : ∀ machine, machine.recording = true → first machine = second machine
  stays : ∀ machine, machine.recording = true → (second machine).2.recording = true

namespace SameWhileRecording

theorem refl {act : Sys α} (stays : ∀ machine, (act machine).2.recording = machine.recording) :
    SameWhileRecording act act where
  same _ _ := rfl
  stays machine recording := (stays machine).trans recording

theorem pure (value : α) : SameWhileRecording (Pure.pure value) (Pure.pure value) := refl fun _ => rfl

theorem bind {first second : Sys α} {next next' : α → Sys β} (head : SameWhileRecording first second)
    (tail : ∀ value, SameWhileRecording (next value) (next' value)) :
    SameWhileRecording (first >>= next) (second >>= next') where
  same machine recording := by
    have still := head.stays machine recording
    rw [Act.bind_apply, Act.bind_apply, head.same machine recording]
    rcases ended : second machine with ⟨reason | value, middle⟩
    · rfl
    · rw [ended] at still
      exact (tail value).same middle still
  stays machine recording := by
    have still := head.stays machine recording
    rw [Act.bind_apply]
    rcases ended : second machine with ⟨reason | value, middle⟩
    · rw [ended] at still
      exact still
    · rw [ended] at still
      exact (tail value).stays middle still

end SameWhileRecording

/-- A request leaves the flag alone. -/
theorem sameWhileRecording_perform (request : Request) :
    SameWhileRecording (perform request) (perform request) := by
  refine .refl fun machine => ?_
  by_cases exits : request.number = CallKind.exit.number
  · rw [perform_of_exit exits]
    rfl
  · rw [perform_of_ne_exit exits]
    rfl

/-- A record that arrives while another one is being written is dropped, and its message is not made. -/
theorem Log.Backend.log_of_recording (backend : Backend) (level : Level) (target : String)
    (message : Sys String) {machine : Machine} (recording : machine.recording = true) :
    backend.log level target message machine = (.ok (), machine) := by
  unfold Backend.log
  split
  · rw [Act.bind_of_ok _ (Act.get_apply machine), recording]
    rfl
  · rfl

/-- What the library tells while a record is being written is dropped. -/
theorem Log.sameWhileRecording_tell (level : Level) (message : String) :
    SameWhileRecording (tell level message) (Listener.silent level message) where
  same machine recording := by
    rw [tell, record, Act.bind_of_ok _ (Act.get_apply machine)]
    split
    · exact installed.log_of_recording level target _ recording
    · rfl
  stays _ recording := recording

namespace CallKind

/-- An attempt that is logged is the same as a silent one. -/
theorem sameWhileRecording_attemptOnce (kind : CallKind) (registers : List Register) :
    SameWhileRecording (attemptOnce Log.tell kind registers) (attemptOnce Listener.silent kind registers) :=
  .bind (Log.sameWhileRecording_tell _ _) fun _ => .bind (sameWhileRecording_perform _) fun _ =>
    .bind (Log.sameWhileRecording_tell _ _) fun _ => .pure _

/-- The end of a call that is logged is the same as that of a silent one. -/
theorem sameWhileRecording_settle (kind : CallKind) (completion : Completion) :
    SameWhileRecording (attemptAgain.settle Log.tell kind completion)
      (attemptAgain.settle Listener.silent kind completion) := by
  unfold attemptAgain.settle
  split
  · exact .bind (Log.sameWhileRecording_tell _ _) fun _ => .pure _
  · exact .pure _

/-- Attempts that are logged are the same as silent ones. -/
theorem sameWhileRecording_attemptAgain (kind : CallKind) (registers : List Register) (left : Nat) :
    SameWhileRecording (attemptAgain Log.tell kind registers left)
      (attemptAgain Listener.silent kind registers left) := by
  induction left with
  | zero =>
    exact .bind (sameWhileRecording_attemptOnce kind registers) fun _ => sameWhileRecording_settle kind _
  | succ left step =>
    refine .bind (sameWhileRecording_attemptOnce kind registers) fun completion => ?_
    split
    · exact .bind (Log.sameWhileRecording_tell _ _) fun _ => step
    · exact sameWhileRecording_settle kind _

/-- A call that is logged while a record is being written does what a silent one does. -/
theorem sameWhileRecording_complete (kind : CallKind) (registers : List Register) :
    SameWhileRecording (kind.complete registers) (kind.issue Listener.silent registers) := by
  unfold complete issue
  split
  · exact .refl fun _ => rfl
  · exact sameWhileRecording_attemptAgain kind _ _

end CallKind

/-- The log's own write is the library's write to the descriptor for complaints. -/
theorem Log.invoke_eq_writeQuietly (bytes : Bytes) {machine : Machine} (recording : machine.recording = true) :
    CallKind.write.invoke [.ofInt32 complaints, .data bytes, .ofLength bytes.length] machine =
      writeQuietly bytes machine := by
  have same := (CallKind.sameWhileRecording_complete .write
    [.ofInt32 complaints, .data bytes, .ofLength bytes.length]).same machine recording
  rw [CallKind.invoke, writeQuietly, Act.bind_apply, Act.bind_apply, same]

end LinuxCalls
