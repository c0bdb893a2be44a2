/-
This file shows that the calls of the library are faithful: each of them reports the error that the
kernel answers with, and it has no other cause than the ones that its caller is told of.
-/

import LinuxCalls.Proofs.Calls.Reports
import LinuxCalls.Guard
import LinuxCalls.Mapping
import LinuxCalls.SignalMask

namespace LinuxCalls

open Act (Faithful Still)

namespace CallKind

/-- A call puts a request of a kind whose first registers are given. -/
def Puts (kind : CallKind) (targets : List Register) (call : Event) : Prop :=
  ∃ rest, call.question = .kernel ⟨kind.number, targets ++ rest⟩

/-- Only one kind of call is tried again. -/
theorem Puts.not_isBusyDuplicate {kind : CallKind} {targets : List Register} {call : Event}
    (puts : kind.Puts targets call) (never : kind ≠ .duplicateOnto) : ¬ call.IsBusyDuplicate := by
  rintro ⟨registers, rfl⟩
  obtain ⟨rest, same⟩ := puts
  injection same with same
  exact never (number_inj.mp (congrArg Request.number same).symm)

variable {kind : CallKind} {targets registers : List Register} {cause : List Event → Errno → Prop}

/-- A call that is never tried again is put to the kernel once. -/
theorem traces_complete_once (stays : kind ≠ .exit) (never : kind ≠ .duplicateOnto)
    (few : registers.length ≤ registerCount) {machine : Machine} :
    (kind.complete registers).Traces machine fun calls outcome _ => ∃ word stored,
      calls = [Request.answered ⟨kind.number, padded registers⟩ word] ∧
        outcome = .ok ⟨RawReturn.decode word, stored⟩ := by
  refine (traces_complete stays few).mono ?_
  rintro calls outcome next ⟨refused, last, stored, rfl, rfl, attempted⟩
  have once : refused = [] := Decidable.byContradiction fun some => never (attempted.retried some)
  subst once
  exact ⟨last, stored, rfl, rfl⟩

/-- A call that is never tried again gives what its one answer stands for. -/
theorem traces_invoke_once (stays : kind ≠ .exit) (never : kind ≠ .duplicateOnto)
    (few : registers.length ≤ registerCount) {machine : Machine} :
    (kind.invoke registers).Traces machine fun calls outcome _ => ∃ result : Except Errno UInt64,
      outcome = result.mapError .errno ∧ ∃ word, result = RawReturn.decode word ∧
        calls = [Request.answered ⟨kind.number, padded registers⟩ word] := by
  apply (traces_complete_once stays never few).bind
  · rintro _ _ middle ⟨word, stored, rfl, same⟩
    cases same
    exact .ofExcept ⟨_, rfl, word, rfl, rfl⟩
  · rintro _ _ _ ⟨_, _, -, failed⟩
    contradiction

/-- A call whose value does not matter, and that is never tried again, is put to the kernel once. -/
theorem traces_run_once (stays : kind ≠ .exit) (never : kind ≠ .duplicateOnto)
    (few : registers.length ≤ registerCount) {machine : Machine} :
    (kind.run registers).Traces machine fun calls outcome _ => ∃ result : Except Errno Unit,
      outcome = result.mapError .errno ∧
        ∃ word, calls = [Request.answered ⟨kind.number, padded registers⟩ word] := by
  apply (traces_invoke_once stays never few).bind_result
  · rintro _ value middle ⟨word, -, rfl⟩
    exact .pure ⟨.ok (), rfl, word, rfl⟩
  · rintro _ error _ ⟨word, -, rfl⟩
    exact ⟨.error error, rfl, word, rfl⟩

/-- A call that is never tried again gives what its one answer has stored, unless the answer is an error. -/
theorem traces_collect_once (stays : kind ≠ .exit) (never : kind ≠ .duplicateOnto)
    (few : registers.length ≤ registerCount) {machine : Machine} :
    (kind.collect registers).Traces machine fun calls outcome _ => ∃ result : Except Errno Bytes,
      outcome = result.mapError .errno ∧ ∃ word stored,
        result = (RawReturn.decode word).map (fun _ => stored) ∧
        calls = [Request.answered ⟨kind.number, padded registers⟩ word] := by
  apply (traces_complete_once stays never few).bind
  · rintro _ _ middle ⟨word, stored, rfl, same⟩
    cases same
    cases decoded : RawReturn.decode word with
    | ok value => exact .pure ⟨.ok stored, rfl, word, stored, by rw [decoded]; rfl, rfl⟩
    | error error => exact .fault ⟨.error error, rfl, word, stored, by rw [decoded]; rfl, rfl⟩
  · rintro _ _ _ ⟨_, _, -, failed⟩
    contradiction

/-- What the policy makes of a call reports the last answer. -/
theorem Issues.reports {request : Request} {calls : List Event} {outcome : Except Fault Completion}
    (issues : kind.Issues request (Policy.attemptLimit - 1) calls outcome)
    (number : request.number = kind.number) :
    Reports cause calls (reported (fun completion => attempted? completion.result) outcome) := by
  obtain ⟨refused, last, stored, rfl, rfl, attempted⟩ := issues
  rw [List.map_append]
  have retried : ∀ word ∈ refused, (request.answered word).IsBusyDuplicate := by
    intro word member
    obtain ⟨asked, registers⟩ := request
    have same : asked = CallKind.duplicateOnto.number := by
      rw [← attempted.retried (List.ne_nil_of_mem member)]
      exact number
    exact ⟨registers, by rw [attempted.busy word member, same]⟩
  have early : refused.length < Policy.attemptLimit := by
    have within := attempted.within
    have positive : 0 < Policy.attemptLimit := by decide
    omega
  have before {index : Nat} {call : Event} (found : (refused.map request.answered)[index]? = some call) :
      call.IsBusyDuplicate ∧ index < refused.length := by
    obtain ⟨word, member, rfl⟩ := List.mem_map.mp (List.mem_of_getElem? found)
    have inside := (List.getElem?_eq_some_iff.mp found).1
    rw [List.length_map] at inside
    exact ⟨retried word member, inside⟩
  cases answer : RawReturn.decode last with
  | error error =>
    refine .answered ?_ ((request.error?_answered last error).mpr answer) ?_
    · intro index call other found _
      obtain ⟨busy, inside⟩ := before found
      exact ⟨busy, by omega⟩
    · rintro ⟨registers, same⟩
      injection same with asked word
      injection asked with asked
      have duplicates : kind = .duplicateOnto := number_inj.mp (number ▸ congrArg Request.number asked)
      have all := attempted.settled duplicates (Option.some.inj word)
      rw [List.length_map]
      omega
  | ok value =>
    apply Reports.nothing
    intro index call error found failed
    rw [List.getElem?_append] at found
    split at found
    · obtain ⟨busy, inside⟩ := before found
      exact ⟨busy, by omega⟩
    · have final := List.mem_of_getElem? found
      rw [List.map_singleton, List.mem_singleton] at final
      rw [final, request.error?_answered, answer] at failed
      contradiction

/-- Issuing a call is faithful, and the completion holds the error. -/
theorem faithful_complete (starts : targets <+: registers) :
    Faithful (fun _ => True) (kind.Puts targets) cause (fun completion => attempted? completion.result)
      (kind.complete registers) := by
  intro machine _
  obtain ⟨rest, rfl⟩ := starts
  by_cases few : (targets ++ rest).length ≤ registerCount
  · have puts (word : Option UInt64) :
        kind.Puts targets ⟨.kernel ⟨kind.number, padded (targets ++ rest)⟩, word⟩ := by
      rw [padded, List.append_assoc]
      exact ⟨_, rfl⟩
    by_cases exits : kind = .exit
    · subst exits
      refine (traces_complete_exit few).mono ?_
      rintro calls outcome next ⟨rfl, rfl⟩
      have passed : Passed [⟨.kernel ⟨CallKind.exit.number, padded (targets ++ rest)⟩, none⟩] :=
        .of_error?_eq_none (by simp [Event.error?])
      exact ⟨trivial, by simpa using puts none, .nothing passed⟩
    · refine (traces_complete exits few).mono ?_
      intro calls outcome next issues
      refine ⟨trivial, ?_, issues.reports rfl⟩
      obtain ⟨refused, last, stored, rfl, -, -⟩ := issues
      intro call member
      obtain ⟨word, -, rfl⟩ := List.mem_map.mp member
      exact puts (some word)
  · rw [complete, issue, if_pos (Nat.lt_of_not_le few)]
    exact Faithful.panic machine trivial

theorem faithful_invoke (starts : targets <+: registers) :
    Faithful (fun _ => True) (kind.Puts targets) cause (fun _ => none) (kind.invoke registers) :=
  (faithful_complete starts).followed fun completion => .ofExcept completion.result

theorem faithful_collect (starts : targets <+: registers) :
    Faithful (fun _ => True) (kind.Puts targets) cause (fun _ => none) (kind.collect registers) := by
  refine (faithful_complete starts).followed fun completion => ?_
  cases completion.result with
  | ok value => exact .pure completion.stored
  | error error => exact .fail error

theorem faithful_run (starts : targets <+: registers) :
    Faithful (fun _ => True) (kind.Puts targets) cause (fun _ => none) (kind.run registers) :=
  (faithful_invoke starts).followed fun _ => .pure ()

theorem faithful_invokeInt32 (starts : targets <+: registers) :
    Faithful (fun _ => True) (kind.Puts targets) cause (fun _ => none) (kind.invokeInt32 registers) :=
  (faithful_invoke starts).followed fun word => .pure word.toUInt32.toInt32

end CallKind

namespace Descriptor

open CallKind (faithful_complete faithful_invoke faithful_collect faithful_run faithful_invokeInt32)

variable {cause : List Event → Errno → Prop}

/-- The request to close a descriptor. -/
def closing (descriptor : Descriptor) : Request :=
  ⟨CallKind.close.number, CallKind.padded [.ofInt32 descriptor]⟩

/-- Opening a file is faithful, and a path with a zero byte is rejected before any call. -/
theorem faithful_openAt (directory : Directory) (path : StringArgument) (flags : OpenFlags) (mode : Mode)
    (rejected : ∀ error, path.terminate = .error error → cause [] error) :
    Faithful (fun _ => True) (CallKind.openAt.Puts [.ofInt32 directory.descriptor]) cause (fun _ => none)
      (openAt directory path flags mode) :=
  .ofExcept_bind rejected fun _ _ => faithful_invokeInt32 (List.prefix_append [_] _)

/-- Removing an entry is faithful, and a path with a zero byte is rejected before any call. -/
theorem faithful_unlinkAt (directory : Directory) (path : StringArgument) (isDirectory : Bool)
    (rejected : ∀ error, path.terminate = .error error → cause [] error) :
    Faithful (fun _ => True) (CallKind.unlink.Puts [.ofInt32 directory.descriptor]) cause (fun _ => none)
      (unlinkAt directory path isDirectory) :=
  .ofExcept_bind rejected fun _ _ => faithful_run (List.prefix_append [_] _)

/-- Making a file in memory is faithful, and a name with a zero byte is rejected before any call. -/
theorem faithful_memoryFile (name : StringArgument) (flags : MemoryFileFlags)
    (rejected : ∀ error, name.terminate = .error error → cause [] error) :
    Faithful (fun _ => True) (CallKind.memoryFile.Puts []) cause (fun _ => none) (memoryFile name flags) :=
  .ofExcept_bind rejected fun _ _ => faithful_invokeInt32 List.nil_prefix

/-- Setting a length is faithful, and a length that no offset reaches is rejected before any call. -/
theorem faithful_setLength (descriptor : Descriptor) (length : UInt64)
    (rejected : largestLength < length → cause [] Errno.invalidArgument) :
    Faithful (fun _ => True) (CallKind.setLength.Puts [.ofInt32 descriptor]) cause (fun _ => none)
      (setLength descriptor length) := by
  unfold setLength
  split
  · rename_i beyond
    exact .of_still_error (.fail _) (rejected beyond)
  · exact faithful_run (List.prefix_append [_] _)

/-- A call that fills a buffer is faithful, and what it delivers holds the error. -/
theorem faithful_delivered {kind : CallKind} {targets registers : List Register} (starts : targets <+: registers) :
    Faithful (fun _ => True) (kind.Puts targets) cause (fun delivery => attempted? delivery.count)
      (kind.complete registers >>= fun completion => pure (delivered completion)) := by
  refine (faithful_complete starts).followed fun completion => ?_
  have same : attempted? (delivered completion).count = attempted? completion.result := attempted?_map _ _
  exact same ▸ .pure (delivered completion)

theorem faithful_deliver {β : Type} {allowed : Event → Prop} {act : Sys Delivery} {change : Delivery → Nat → β}
    (faithful : Faithful (fun _ => True) allowed cause (fun delivery => attempted? delivery.count) act) :
    Faithful (fun _ => True) allowed cause (fun _ => none)
      (act >>= fun delivery => Act.ofExcept (delivery.count.map (change delivery))) := by
  refine faithful.followed fun delivery => ?_
  have same : attempted? (delivery.count.map (change delivery)) = attempted? delivery.count := attempted?_map _ _
  exact same ▸ .ofExcept _

/-- A read is faithful, and what it delivers holds the error. -/
theorem faithful_read (descriptor : Descriptor) (size : Nat) :
    Faithful (fun _ => True) (CallKind.read.Puts [.ofInt32 descriptor]) cause
      (fun delivery => attempted? delivery.count) (read descriptor size) :=
  faithful_delivered (List.prefix_append [_] _)

/-- A read at an offset is faithful, and what it delivers holds the error. -/
theorem faithful_readAt (descriptor : Descriptor) (size : Nat) (offset : UInt64) :
    Faithful (fun _ => True) (CallKind.readAt.Puts [.ofInt32 descriptor]) cause
      (fun delivery => attempted? delivery.count) (readAt descriptor size offset) :=
  faithful_delivered (List.prefix_append [_] _)

theorem faithful_write (descriptor : Descriptor) (bytes : Bytes) :
    Faithful (fun _ => True) (CallKind.write.Puts [.ofInt32 descriptor]) cause (fun _ => none)
      (write descriptor bytes) :=
  (faithful_invoke (List.prefix_append [_] _)).followed fun count => .pure count.toNat

theorem faithful_writeAt (descriptor : Descriptor) (bytes : Bytes) (offset : UInt64) :
    Faithful (fun _ => True) (CallKind.writeAt.Puts [.ofInt32 descriptor]) cause (fun _ => none)
      (writeAt descriptor bytes offset) :=
  (faithful_invoke (List.prefix_append [_] _)).followed fun count => .pure count.toNat

theorem faithful_pipe (flags : OpenFlags) :
    Faithful (fun _ => True) (CallKind.pipe.Puts []) cause (fun _ => none) (pipe flags) :=
  (faithful_collect List.nil_prefix).followed fun stored => .pure (pipeEnds stored)

theorem faithful_status (descriptor : Descriptor) :
    Faithful (fun _ => True) (CallKind.status.Puts [.ofInt32 descriptor]) cause (fun _ => none)
      (status descriptor) :=
  (faithful_collect (List.prefix_append [_] _)).followed fun _ => .pure _

/-- A close is one call, whatever comes of it. -/
theorem traces_close (descriptor : Descriptor) {machine : Machine} :
    (close descriptor).Traces machine fun calls outcome _ => ∃ result : Except Errno Unit,
      outcome = result.mapError .errno ∧ ∃ word, calls = [Request.answered (closing descriptor) word] := by
  have few : [Register.ofInt32 descriptor].length ≤ CallKind.registerCount := by simp [CallKind.registerCount]
  exact CallKind.traces_run_once (by decide) (by decide) few

end Descriptor

/-- A guard that is dropped makes one call, which closes its descriptor. -/
theorem Guard.traces_drop (guard : Guard) {machine : Machine} :
    guard.drop.Traces machine fun calls outcome _ => ∃ word,
      calls = [Request.answered (Descriptor.closing guard.descriptor) word] ∧ outcome = .ok () := by
  have closed : guard.close.attempt.Traces machine fun calls outcome _ => ∃ word result,
      calls = [Request.answered (Descriptor.closing guard.descriptor) word] ∧ outcome = .ok result := by
    apply (Descriptor.traces_close guard.descriptor).attempt_result
    rintro _ result _ ⟨word, rfl⟩
    exact ⟨word, result, rfl, rfl⟩
  apply closed.bind
  · rintro _ result middle ⟨word, _, rfl, -⟩
    cases result with
    | ok _ => exact .pure ⟨word, rfl, rfl⟩
    | error error => exact .tell fun _ _ => ⟨word, rfl, rfl⟩
  · rintro _ _ _ ⟨_, _, -, failed⟩
    contradiction

end LinuxCalls
