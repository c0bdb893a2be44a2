/-
This file says where guards have their descriptors from. A call that makes guards takes a descriptor over or
asks the kernel for some, and what it acquires is what the kernel's reply gives.
-/

import LinuxCalls.Proofs.Calls.Replies
import LinuxCalls.Proofs.Ownership.Confined
import LinuxCalls.Proofs.Strings.Passing

namespace LinuxCalls

open Act (Confined Traces)

/-- How descriptors are acquired: one is taken over, the kernel is asked, or the arguments are rejected. -/
inductive Acquisition
  | taken (descriptor : Descriptor)
  | asked (kind : CallKind) (opens : kind ∈ CallKind.opening) (registers : List Register)
  | rejected (error : Errno)

namespace Acquisition

/-- A file is opened in a directory unless there is a zero byte in its path. -/
def openAt (directory : Directory) (path : StringArgument) (flags : OpenFlags) (mode : Mode) : Acquisition :=
  if 0 ∈ path.bytes then .rejected Errno.invalidArgument
  else .asked .openAt (by decide) [.ofInt32 directory.descriptor, .text path.bytes,
    .ofUInt32 (flags.union OpenFlags.largeFile).bits, .ofUInt32 mode.bits]

/-- A file is made in memory unless there is a zero byte in its name. -/
def memoryFile (name : StringArgument) (flags : MemoryFileFlags) : Acquisition :=
  if 0 ∈ name.bytes then .rejected Errno.invalidArgument
  else .asked .memoryFile (by decide) [.text name.bytes, .ofUInt32 flags.bits]

/-- A secret file is made in memory. -/
def secretMemoryFile (closeOnExec : Bool) : Acquisition :=
  .asked .secretMemoryFile (by decide) [.ofUInt32 (if closeOnExec then OpenFlags.closeOnExec.bits else 0)]

/-- A descriptor is opened for a process. -/
def ofProcess (process : ProcessId) (flags : ProcessFileFlags) : Acquisition :=
  .asked .processFile (by decide) [.ofInt32 process, .ofUInt32 flags.bits]

/-- A descriptor is duplicated. -/
def duplicate (descriptor : Descriptor) : Acquisition := .asked .duplicate (by decide) [.ofInt32 descriptor]

/-- A pipe is made. -/
def pipe (flags : OpenFlags) : Acquisition := .asked .pipe (by decide) [.room 8, .ofUInt32 flags.bits]

/-- The request that the kernel is asked. -/
def request? : Acquisition → Option Request
  | .asked kind _ registers => some ⟨kind.number, CallKind.padded registers⟩
  | _ => none

/-- The questions that ask for descriptors. -/
def questions (acquisition : Acquisition) : List Question := acquisition.request?.toList.map .kernel

variable (machine : Machine) (acquisition : Acquisition)

/-- What is acquired on a machine: the descriptor that is taken over, or what the kernel's reply gives. -/
def result : Except Errno (List Descriptor) :=
  match acquisition with
  | .taken descriptor => .ok [descriptor]
  | .asked kind _ registers =>
    (machine.replyTo ⟨kind.number, CallKind.padded registers⟩).given ⟨kind.number, CallKind.padded registers⟩
  | .rejected error => .error error

/-- The descriptors that are acquired on a machine. -/
def descriptors : List Descriptor := (acquisition.result machine).toOption.getD []

/-- The calls that are made on a machine. -/
def calls : List Event :=
  acquisition.request?.toList.map fun request => request.answered (machine.replyTo request).word

/-- The gains that are made on a machine. -/
def gains : List Gain :=
  match acquisition with
  | .taken descriptor => [.taken descriptor]
  | .asked kind opens registers =>
    let request : Request := ⟨kind.number, CallKind.padded registers⟩
    [.opened (request.answered (machine.replyTo request).word) ((asked kind opens registers).descriptors machine)]
  | .rejected _ => []

variable {machine acquisition}

/-- The gains are the descriptors that are acquired. -/
theorem flatMap_gains : (acquisition.gains machine).flatMap Gain.descriptors = acquisition.descriptors machine := by
  cases acquisition with
  | taken descriptor => rfl
  | asked kind opens registers => exact List.append_nil _
  | rejected error => rfl

/-- The gains hold the calls that are made. -/
theorem filterMap_gains : (acquisition.gains machine).filterMap Gain.call? = acquisition.calls machine := by
  cases acquisition <;> rfl

/-- The calls ask the questions that ask for descriptors. -/
theorem map_question_calls : (acquisition.calls machine).map Event.question = acquisition.questions := by
  cases acquisition <;> rfl

/-- The calls open descriptors. -/
theorem isOpening_calls : ∀ call ∈ acquisition.calls machine, call.question.isOpening = true := by
  intro call member
  cases acquisition with
  | taken descriptor => contradiction
  | asked kind opens registers =>
    obtain rfl := List.mem_singleton.mp member
    have asks : kind.Puts [] ((Request.mk kind.number (CallKind.padded registers)).answered
        (machine.replyTo ⟨kind.number, CallKind.padded registers⟩).word) := ⟨_, rfl⟩
    rw [Event.isOpening_of_puts asks]
    exact List.contains_iff_mem.mpr opens
  | rejected error => contradiction

/-- A call of an acquisition asks the one request that there is. -/
theorem exists_of_mem_calls {call : Event} (member : call ∈ acquisition.calls machine) :
    ∃ request ∈ acquisition.request?, call = request.answered (machine.replyTo request).word := by
  obtain ⟨request, asked, rfl⟩ := List.mem_map.mp member
  exact ⟨request, Option.mem_toList.mp asked, rfl⟩

/-- A file in the current directory is opened without a descriptor. -/
theorem opens_openAt {path : StringArgument} {flags : OpenFlags} {mode : Mode} :
    ∀ call ∈ (openAt .current path flags mode).calls machine, call.Opens := by
  intro call member
  obtain ⟨request, asked, rfl⟩ := exists_of_mem_calls member
  unfold openAt at asked
  split at asked
  · contradiction
  · cases asked
    exact .inCurrent ⟨_, rfl⟩

/-- A file in an open directory is opened with the descriptor of the directory. -/
theorem uses_openAt {descriptor : Descriptor} {path : StringArgument} {flags : OpenFlags} {mode : Mode} :
    ∀ call ∈ (openAt (.opened descriptor) path flags mode).calls machine, call.Uses descriptor := by
  intro call member
  obtain ⟨request, asked, rfl⟩ := exists_of_mem_calls member
  unfold openAt at asked
  split at asked
  · contradiction
  · cases asked
    exact .on (by decide : CallKind.openAt ∈ CallKind.onDescriptor) ⟨_, rfl⟩

/-- A file in memory is made without a descriptor. -/
theorem opens_memoryFile {name : StringArgument} {flags : MemoryFileFlags} :
    ∀ call ∈ (memoryFile name flags).calls machine, call.Opens := by
  intro call member
  obtain ⟨request, asked, rfl⟩ := exists_of_mem_calls member
  unfold memoryFile at asked
  split at asked
  · contradiction
  · cases asked
    exact .anew (by decide : CallKind.memoryFile ∈ CallKind.openingAlone) ⟨_, rfl⟩

/-- A duplicate is made with the descriptor that it duplicates. -/
theorem uses_duplicate {descriptor : Descriptor} :
    ∀ call ∈ (duplicate descriptor).calls machine, call.Uses descriptor := by
  intro call member
  obtain ⟨request, asked, rfl⟩ := exists_of_mem_calls member
  cases asked
  exact .on (by decide : CallKind.duplicate ∈ CallKind.onDescriptor) ⟨_, rfl⟩

/-- A call of a kind that needs no descriptor is made without one. -/
theorem opens_of_alone {kind : CallKind} (alone : kind ∈ CallKind.openingAlone) {opens : kind ∈ CallKind.opening}
    {registers : List Register} : ∀ call ∈ (asked kind opens registers).calls machine, call.Opens := by
  intro call member
  obtain ⟨request, asked, rfl⟩ := exists_of_mem_calls member
  cases asked
  exact .anew alone ⟨_, rfl⟩

/-- What is acquired by placed calls comes to live. -/
theorem balance {live : Multiset Descriptor} (placed : ∀ call ∈ acquisition.calls machine, call.IsPlaced live) :
    Balance live (acquisition.calls machine) (acquisition.gains machine) []
      (live + acquisition.descriptors machine) := by
  cases acquisition with
  | taken descriptor =>
    have start : Balance live [] [] [] live := .even
    have one : live + ((taken descriptor).descriptors machine : Multiset Descriptor) = descriptor ::ₘ live := by
      rw [← Multiset.singleton_add, add_comm]
      rfl
    rw [one]
    exact start.acquired descriptor
  | asked kind opens registers =>
    have areOpening : ∀ call ∈ (asked kind opens registers).calls machine, call.question.isOpening = true :=
      isOpening_calls
    exact Balance.even.opened (placed _ List.mem_cons_self) (areOpening _ List.mem_cons_self) ⟨_, _, rfl, rfl⟩
  | rejected error =>
    have none : live + ((rejected error).descriptors machine : Multiset Descriptor) = live := add_zero live
    rw [none]
    exact .even

end Acquisition

/--
An action carries an acquisition out: it makes the calls of the acquisition, and it gives what owns the
descriptors that are acquired or reports the error.
-/
def Acquisition.IsCarriedOut {α : Type} (acquisition : Acquisition) (act : Sys α)
    (owned : α → List Descriptor) : Prop :=
  ∀ machine, act.Traces machine fun calls outcome _ => ∃ result : Except Errno α,
    outcome = result.mapError .errno ∧ calls = acquisition.calls machine ∧
      result.map owned = acquisition.result machine

namespace Acquisition.IsCarriedOut

variable {α β : Type} {acquisition : Acquisition} {act : Sys α} {owned : α → List Descriptor}

/-- An action that carries an acquisition out asks for descriptors only. -/
theorem confined (carries : acquisition.IsCarriedOut act owned) :
    Confined (fun _ => True) (fun call => call.question.isOpening = true) act := by
  intro machine _
  refine (carries machine).mono ?_
  rintro _ _ _ ⟨_, _, rfl, _⟩
  exact ⟨trivial, Acquisition.isOpening_calls⟩

/-- Another owner of the same descriptors carries the acquisition out, too. -/
theorem map {owned' : β → List Descriptor} (change : α → β) (same : ∀ value, owned' (change value) = owned value)
    (carries : acquisition.IsCarriedOut act owned) : acquisition.IsCarriedOut (change <$> act) owned' := by
  intro machine
  apply Traces.map
  refine (carries machine).mono ?_
  rintro calls _ _ ⟨result, rfl, made, gives⟩
  refine ⟨result.map change, ?_, made, ?_⟩
  · cases result <;> rfl
  · rw [← gives]
    cases result with
    | error error => rfl
    | ok value => exact congrArg Except.ok (same value)

/-- A value that follows carries the acquisition out, too. -/
theorem bind_pure {owned' : β → List Descriptor} (change : α → β) (same : ∀ value, owned' (change value) = owned value)
    (carries : acquisition.IsCarriedOut act owned) :
    acquisition.IsCarriedOut (act >>= fun value => pure (change value)) owned' := by
  rw [bind_pure_comp]
  exact carries.map change same

end Acquisition.IsCarriedOut

namespace CallKind

open Acquisition (IsCarriedOut)

variable {kind : CallKind} {registers : List Register}

/-- A call that returns a descriptor gives the one that the kernel returns. -/
theorem isCarriedOut_invokeInt32 (opens : kind ∈ opening) (single : kind ≠ .pipe)
    (few : registers.length ≤ registerCount) :
    IsCarriedOut (.asked kind opens registers) (kind.invokeInt32 registers) fun descriptor => [descriptor] := by
  intro machine
  have stays : kind ≠ .exit := by
    rintro rfl
    revert opens
    decide
  have never : kind ≠ .duplicateOnto := by
    rintro rfl
    revert opens
    decide
  have other : kind ≠ .write := by
    rintro rfl
    revert opens
    decide
  have notPipe : kind.number ≠ CallKind.pipe.number := number_inj.not.mpr single
  rw [invokeInt32, invoke, bind_assoc]
  apply (traces_complete_reply stays never other few).bind
  · rintro _ _ middle ⟨rfl, same⟩
    cases same
    cases decoded : RawReturn.decode (machine.replyTo ⟨kind.number, padded registers⟩).word with
    | ok word =>
      refine .pure ⟨.ok word.toUInt32.toInt32, rfl, rfl, ?_⟩
      simp only [Acquisition.result, Reply.given, decoded, Except.map, if_neg notPipe]
    | error error =>
      refine .fault ⟨.error error, rfl, rfl, ?_⟩
      simp only [Acquisition.result, Reply.given, decoded, Except.map]
  · rintro _ _ _ ⟨_, failed⟩
    contradiction

end CallKind

namespace Descriptor

open Acquisition (IsCarriedOut)

/-- Opening a file gives the descriptor that the kernel returns. -/
theorem isCarriedOut_openAt (directory : Directory) (path : StringArgument) (flags : OpenFlags) (mode : Mode) :
    IsCarriedOut (.openAt directory path flags mode) (openAt directory path flags mode)
      fun descriptor => [descriptor] := by
  by_cases zero : 0 ∈ path.bytes
  · intro machine
    rw [openAt, StringArgument.prepare, StringArgument.terminate_of_mem zero, Acquisition.openAt, if_pos zero]
    exact .fault ⟨.error Errno.invalidArgument, rfl, rfl, rfl⟩
  · rw [openAt, StringArgument.prepare_of_notMem zero, pure_bind, TerminatedString.register_eq, Acquisition.openAt,
      if_neg zero]
    exact CallKind.isCarriedOut_invokeInt32 _ (by decide) (by simp [CallKind.registerCount])

/-- Making a file in memory gives the descriptor that the kernel returns. -/
theorem isCarriedOut_memoryFile (name : StringArgument) (flags : MemoryFileFlags) :
    IsCarriedOut (.memoryFile name flags) (memoryFile name flags) fun descriptor => [descriptor] := by
  by_cases zero : 0 ∈ name.bytes
  · intro machine
    rw [memoryFile, StringArgument.prepare, StringArgument.terminate_of_mem zero, Acquisition.memoryFile, if_pos zero]
    exact .fault ⟨.error Errno.invalidArgument, rfl, rfl, rfl⟩
  · rw [memoryFile, StringArgument.prepare_of_notMem zero, pure_bind, TerminatedString.register_eq,
      Acquisition.memoryFile, if_neg zero]
    exact CallKind.isCarriedOut_invokeInt32 _ (by decide) (by simp [CallKind.registerCount])

/-- Making a pipe gives the two ends that the kernel stores. -/
theorem isCarriedOut_pipe (flags : OpenFlags) :
    IsCarriedOut (.pipe flags) (pipe flags) fun ends => [ends.1, ends.2] := by
  intro machine
  rw [pipe, CallKind.collect, bind_assoc]
  apply (CallKind.traces_complete_reply (by decide) (by decide) (by decide) (by simp [CallKind.registerCount])).bind
  · rintro _ _ middle ⟨rfl, same⟩
    cases same
    cases decoded : RawReturn.decode (machine.replyTo
        ⟨CallKind.pipe.number, CallKind.padded [.room 8, .ofUInt32 flags.bits]⟩).word with
    | ok word =>
      refine .pure ⟨.ok (pipeEnds _), rfl, rfl, ?_⟩
      simp only [Acquisition.result, Acquisition.pipe, Reply.given, decoded, Except.map, if_true, pipeEnds]
    | error error =>
      refine .fault ⟨.error error, rfl, rfl, ?_⟩
      simp only [Acquisition.result, Acquisition.pipe, Reply.given, decoded, Except.map]
  · rintro _ _ _ ⟨_, failed⟩
    contradiction

end Descriptor

namespace Guard

open Acquisition (IsCarriedOut)

/-- A guard owns one descriptor. -/
def owned (guard : Guard) : List Descriptor := [guard.descriptor]

/-- The guard of a file in the current directory owns the descriptor that the kernel returns. -/
theorem isCarriedOut_openFile (path : StringArgument) (flags : OpenFlags) (mode : Mode) :
    IsCarriedOut (.openAt .current path flags mode) (openFile path flags mode) owned :=
  (Descriptor.isCarriedOut_openAt .current path flags mode).map Guard.mk fun _ => rfl

/-- The guard of a file in the directory of another guard owns the descriptor that the kernel returns. -/
theorem isCarriedOut_openAt (guard : Guard) (path : StringArgument) (flags : OpenFlags) (mode : Mode) :
    IsCarriedOut (.openAt (.opened guard.descriptor) path flags mode) (guard.openAt path flags mode) owned :=
  (Descriptor.isCarriedOut_openAt (.opened guard.descriptor) path flags mode).map Guard.mk fun _ => rfl

/-- The guard of a file in memory owns the descriptor that the kernel returns. -/
theorem isCarriedOut_memoryFile (name : StringArgument) (flags : MemoryFileFlags) :
    IsCarriedOut (.memoryFile name flags) (memoryFile name flags) owned :=
  (Descriptor.isCarriedOut_memoryFile name flags).map Guard.mk fun _ => rfl

/-- The guard of a secret file in memory owns the descriptor that the kernel returns. -/
theorem isCarriedOut_secretMemoryFile (closeOnExec : Bool) :
    IsCarriedOut (.secretMemoryFile closeOnExec) (secretMemoryFile closeOnExec) owned :=
  (CallKind.isCarriedOut_invokeInt32 _ (by decide) (by simp [CallKind.registerCount])).map Guard.mk fun _ => rfl

/-- The guard of a process owns the descriptor that the kernel returns. -/
theorem isCarriedOut_ofProcess (process : ProcessId) (flags : ProcessFileFlags) :
    IsCarriedOut (.ofProcess process flags) (ofProcess process flags) owned :=
  (CallKind.isCarriedOut_invokeInt32 _ (by decide) (by simp [CallKind.registerCount])).map Guard.mk fun _ => rfl

/-- The guard of a duplicate owns the descriptor that the kernel returns. -/
theorem isCarriedOut_duplicate (guard : Guard) :
    IsCarriedOut (.duplicate guard.descriptor) guard.duplicate owned :=
  (CallKind.isCarriedOut_invokeInt32 _ (by decide) (by simp [CallKind.registerCount])).map Guard.mk fun _ => rfl

/-- The guards of a pipe own the two ends that the kernel stores. -/
theorem isCarriedOut_pipe (flags : OpenFlags) :
    IsCarriedOut (.pipe flags) (pipe flags) fun ends : Guard × Guard => [ends.1.descriptor, ends.2.descriptor] :=
  (Descriptor.isCarriedOut_pipe flags).bind_pure
    (fun ends : Descriptor × Descriptor => (Guard.mk ends.1, Guard.mk ends.2)) fun _ => rfl

/-- A guard that takes a descriptor over owns it. -/
theorem isCarriedOut_pure (descriptor : Descriptor) :
    IsCarriedOut (.taken descriptor) (pure ⟨descriptor⟩) owned := fun _ => .pure ⟨.ok _, rfl, rfl, rfl⟩

end Guard

namespace GuardStep

open Acquisition

/-- What a step on guards is to acquire. A step on an empty slot acquires nothing. -/
def acquisition? (session : Session) : GuardStep → Option Acquisition
  | .openFile path flags mode _ => some (.openAt .current path flags mode)
  | .openAt guard path flags mode _ =>
    (session.guards.get? guard).map fun guard => .openAt (.opened guard.descriptor) path flags mode
  | .memoryFile name flags _ => some (.memoryFile name flags)
  | .secretMemoryFile closeOnExec _ => some (.secretMemoryFile closeOnExec)
  | .ofProcess process flags _ => some (.ofProcess process flags)
  | .ofDescriptor number _ => some (.taken number)
  | .duplicate guard _ => (session.guards.get? guard).map fun guard => .duplicate guard.descriptor
  | .pipe flags _ _ => some (.pipe flags)
  | .handOver guard => (session.guards.get? guard).map fun guard => .taken guard.descriptor
  | _ => none

end GuardStep

end LinuxCalls
