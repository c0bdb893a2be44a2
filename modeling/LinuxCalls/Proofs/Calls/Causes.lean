/-
This file shows for the calls without an owner that they are faithful. It lists the causes for which
such a call fails although the kernel has answered no error.
-/

import LinuxCalls.Proofs.Calls.Wrappers
import LinuxCalls.Session.Call

namespace LinuxCalls

open Act (Faithful Faithfully Still Traces)

namespace StringArgument

/-- A string argument is rejected for a zero byte. -/
theorem eq_of_terminate_eq_error {argument : StringArgument} {error : Errno}
    (rejected : argument.terminate = .error error) : error = Errno.invalidArgument ∧ 0 ∈ argument.bytes := by
  unfold terminate at rejected
  split at rejected
  · contradiction
  · rename_i zero
    exact ⟨(Except.error.inj rejected).symm, not_not.mp zero⟩

/-- A list of string arguments is rejected for a zero byte in one of them. -/
theorem eq_of_terminateAll_eq_error {arguments : List StringArgument} {error : Errno}
    (rejected : terminateAll arguments = .error error) :
    error = Errno.invalidArgument ∧ ∃ argument ∈ arguments, 0 ∈ argument.bytes := by
  induction arguments with
  | nil => contradiction
  | cons argument rest step =>
    unfold terminateAll at rejected
    cases first : argument.terminate with
    | error other =>
      rw [first] at rejected
      obtain ⟨rfl, zero⟩ := eq_of_terminate_eq_error first
      exact ⟨(Except.error.inj rejected).symm, argument, List.mem_cons_self, zero⟩
    | ok string =>
      cases later : terminateAll rest with
      | ok strings =>
        rw [first, later] at rejected
        contradiction
      | error other =>
        rw [first, later] at rejected
        obtain ⟨same, found, member, zero⟩ := step (later.trans rejected)
        exact ⟨same, found, List.mem_cons_of_mem _ member, zero⟩

end StringArgument

/-- A list of strings is rejected for a zero byte in one of them. -/
theorem StringVector.eq_of_new_eq_error {arguments : List StringArgument} {error : Errno}
    (rejected : new arguments = .error error) :
    error = Errno.invalidArgument ∧ ∃ argument ∈ arguments, 0 ∈ argument.bytes := by
  apply StringArgument.eq_of_terminateAll_eq_error
  unfold new at rejected
  cases result : StringArgument.terminateAll arguments with
  | error other =>
    rw [result] at rejected
    cases rejected
    rfl
  | ok strings =>
    rw [result] at rejected
    contradiction

/-- The strings that a program consists of. -/
def Program.strings (program : Program) : List StringArgument :=
  program.path :: (program.arguments ++ program.environment)

/-- A program is rejected for a zero byte in one of its strings. -/
theorem Program.eq_of_terminate_eq_error {program : Program} {error : Errno}
    (rejected : program.terminate = .error error) :
    error = Errno.invalidArgument ∧ ∃ string ∈ program.strings, 0 ∈ string.bytes := by
  unfold terminate at rejected
  cases path : program.path.terminate with
  | error other =>
    rw [path] at rejected
    cases rejected
    obtain ⟨same, zero⟩ := StringArgument.eq_of_terminate_eq_error path
    exact ⟨same, program.path, List.mem_cons_self, zero⟩
  | ok terminated =>
    cases arguments : StringVector.new program.arguments with
    | error other =>
      rw [path, arguments] at rejected
      cases rejected
      obtain ⟨same, string, member, zero⟩ := StringVector.eq_of_new_eq_error arguments
      exact ⟨same, string, List.mem_cons_of_mem _ (List.mem_append_left _ member), zero⟩
    | ok strings =>
      cases environment : StringVector.new program.environment with
      | error other =>
        rw [path, arguments, environment] at rejected
        cases rejected
        obtain ⟨same, string, member, zero⟩ := StringVector.eq_of_new_eq_error environment
        exact ⟨same, string, List.mem_cons_of_mem _ (List.mem_append_right _ member), zero⟩
      | ok more =>
        rw [path, arguments, environment] at rejected
        contradiction

/-- A function of the runtime is faithful, since it is no request to the kernel. -/
theorem faithful_callRuntime (cause : List Event → Errno → Prop) {channel : Channel}
    (runtime : channel = .fork ∨ channel = .spawn) (registers : List Register) (exhausted : Int32) :
    Faithful (fun _ => True) (fun _ => True) cause (fun _ => none) (callRuntime channel registers exhausted) := by
  intro machine _
  have called : callRuntime channel registers exhausted machine = (.ok _, _) := rfl
  refine .of_eq called (.ran runtime rfl (.nothing _)) ⟨trivial, fun _ _ => trivial, .nothing (.of_error?_eq_none ?_)⟩
  intro call member
  rw [List.mem_singleton.mp member]
  rfl

namespace CallStep

/-- These steps report their errors. The others give no result, or are not made by the library. -/
def IsFallible : CallStep → Prop
  | .processId | .exit _ | .die _ _ | .duplicateOrDie _ | .perform _ _ => False
  | _ => True

/-- The arguments of a step are rejected before any call. -/
def Rejects : CallStep → Prop
  | .openFile path _ _ | .openAt _ path _ _ | .unlinkAt _ path _ | .memoryFile path _ => 0 ∈ path.bytes
  | .setLength _ length => Descriptor.largestLength < length
  | .execute program | .launch program | .launchBorrowing program =>
    ∃ string ∈ program.strings, 0 ∈ string.bytes
  | _ => False

/-- The causes that a step has to fail without a failed call, from the machine that it starts on. -/
inductive Cause (machine : Machine) : CallStep → List Event → Errno → Prop
  | rejected {step : CallStep} (rejects : step.Rejects) : Cause machine step [] Errno.invalidArgument
  /-- The wait succeeds, but the code of the child is unknown. -/
  | strangeChild {target : WaitTarget} {options : WaitOptions} {stored : Bytes} {after : Machine}
      {calls : List Event}
      (waited : CallKind.wait.collect [.word target.kindNumber, .ofInt32 target.identifier,
        .room WaitStatus.layoutSize, .ofUInt32 options.bits, .word 0] machine = (.ok stored, after))
      (unknown : ChildState.ofCode?
        ((Bytes.overlay stored (Bytes.zeros WaitStatus.layoutSize)).int32 8) = none) :
      Cause machine (.wait target options) calls Errno.invalidArgument
  /-- The runtime reports an error beside its result. -/
  | notForked {reply : RuntimeReply} {after : Machine} {calls : List Event}
      (called : callRuntime .fork [] (-1) machine = (.ok reply, after)) (failed : reply.result = -1) :
      Cause machine .fork calls ⟨reply.error⟩
  /-- The runtime reports an error as its result. -/
  | notSpawned {program : Program} {registers : List Register} {reply : RuntimeReply} {after : Machine}
      {calls : List Event}
      (called : callRuntime .spawn registers Errno.notImplemented.raw machine = (.ok reply, after))
      (failed : reply.result ≠ 0) : Cause machine (.launch program) calls ⟨reply.result⟩

/--
The calls that a step makes beside its own: a child that borrows the memory of its parent runs the
program and exits if that fails.
-/
def Beside (calls aside : List Event) : CallStep → Prop
  | .launchBorrowing _ => aside = [] ∨ ∃ (clone run leave : Request) (word : UInt64),
      clone.number = CallKind.cloneNumber ∧ calls = [clone.answered 0] ∧
      run.number = CallKind.execute.number ∧ leave.number = CallKind.exit.number ∧
      aside = [run.answered word, ⟨.kernel leave, none⟩]
  | _ => aside = []

/-- What a step reports after its own calls. -/
def Reported (machine : Machine) (step : CallStep) (calls : List Event) (outcome : Except Fault Value) : Prop :=
  ∃ own aside, calls = own ++ aside ∧ step.Beside own aside ∧
    Reports (step.Cause machine) own (reported (fun _ => none) outcome)

variable {machine : Machine} {step : CallStep} {allowed : Event → Prop}

/-- What is done faithfully is reported by a step that makes its own calls only. -/
theorem reported_of_faithfully {act : Sys Value} (alone : ∀ calls, step.Beside calls [])
    (traces : act.Traces machine (Faithfully (fun _ => True) allowed (step.Cause machine) (fun _ => none))) :
    act.Traces machine fun calls outcome _ => Reported machine step calls outcome := by
  refine traces.mono ?_
  intro calls outcome _ done
  exact ⟨calls, [], (List.append_nil _).symm, alone calls, done.reports⟩

/-- A faithful action reports as a step does that makes its own calls only. -/
theorem reported_of_faithful {act : Sys Value} (alone : ∀ calls, step.Beside calls [])
    (faithful : Faithful (fun _ => True) allowed (step.Cause machine) (fun _ => none) act) :
    act.Traces machine fun calls outcome _ => Reported machine step calls outcome :=
  reported_of_faithfully alone (faithful machine trivial)

/-- A string is rejected only if the step rejects its arguments. -/
theorem cause_of_string {string : StringArgument} (rejects : 0 ∈ string.bytes → step.Rejects) (error : Errno)
    (rejected : string.terminate = .error error) : step.Cause machine [] error := by
  obtain ⟨rfl, zero⟩ := StringArgument.eq_of_terminate_eq_error rejected
  exact .rejected (rejects zero)

/-- A program is rejected only if the step rejects its arguments. -/
theorem cause_of_program {program : Program} (rejects : (∃ string ∈ program.strings, 0 ∈ string.bytes) → step.Rejects)
    (error : Errno) (rejected : program.terminate = .error error) : step.Cause machine [] error := by
  obtain ⟨rfl, zero⟩ := Program.eq_of_terminate_eq_error rejected
  exact .rejected (rejects zero)

end CallStep

/-- A change of state is rejected for an unknown code only. -/
theorem WaitStatus.eq_of_decode_eq_error {layout : Bytes} {error : Errno}
    (rejected : decode layout = .error error) :
    error = Errno.invalidArgument ∧ ChildState.ofCode? (layout.int32 8) = none := by
  unfold decode at rejected
  split at rejected
  · contradiction
  · split at rejected
    · rename_i unknown
      exact ⟨(Except.error.inj rejected).symm, unknown⟩
    · contradiction

namespace Process

variable {machine : Machine}

/-- A wait is faithful, and a child with an unknown code is a cause to fail. -/
theorem traces_wait (target : WaitTarget) (options : WaitOptions) :
    (wait target options).Traces machine (Faithfully (fun _ => True) (CallKind.wait.Puts [])
      ((CallStep.wait target options).Cause machine) (fun _ => none)) := by
  apply (CallKind.faithful_collect List.nil_prefix machine trivial).decided
  intro stored after waited
  refine ⟨_, Act.ofExcept_apply _ after, fun error strange calls => ?_⟩
  obtain ⟨rfl, unknown⟩ := WaitStatus.eq_of_decode_eq_error strange
  exact .strangeChild waited unknown

/-- Duplicating the process is faithful, and a failure that the runtime reports is a cause to fail. -/
theorem traces_fork : fork.Traces machine (Faithfully (fun _ => True) (fun _ => True)
    (CallStep.fork.Cause machine) (fun _ => none)) := by
  apply (faithful_callRuntime _ (.inl rfl) [] (-1) machine trivial).decided
  intro reply after called
  by_cases failed : reply.result = -1
  · rw [if_pos failed]
    refine ⟨.error ⟨reply.error⟩, rfl, fun error same calls => ?_⟩
    rw [← Except.error.inj same]
    exact .notForked called failed
  · rw [if_neg failed]
    by_cases child : reply.result = 0
    · rw [if_pos child]
      exact ⟨.ok .child, rfl, nofun⟩
    · rw [if_neg child]
      exact ⟨.ok (.parent reply.result), rfl, nofun⟩

/-- Replacing the program is faithful, and a string with a zero byte is rejected before any call. -/
theorem faithful_execute {α : Type} {cause : List Event → Errno → Prop} (program : Program)
    (rejected : ∀ error, program.terminate = .error error → cause [] error) :
    Faithful (fun _ => True) (CallKind.execute.Puts []) cause (fun _ => none) (execute program : Sys α) := by
  apply Faithful.ofExcept_bind rejected
  intro prepared _
  apply (CallKind.faithful_invoke List.nil_prefix).followed
  exact fun _ _ _ => ⟨rfl, trivial, rfl⟩

/-- Running a program through the runtime reports what the runtime reports. -/
theorem traces_launch (program : Program) : (launch program).Traces machine (Faithfully (fun _ => True)
    (fun _ => True) ((CallStep.launch program).Cause machine) (fun _ => none)) := by
  apply Traces.ofExcept_bind
  · intro error rejected
    exact ⟨trivial, nofun, .caused .nil (CallStep.cause_of_program id error rejected)⟩
  · intro prepared _
    apply (faithful_callRuntime ((CallStep.launch program).Cause machine) (.inr rfl) _ _ machine trivial).known.bind
    · rintro calls reply middle ⟨called, done⟩
      have passed := done.reports.passed
      by_cases failed : reply.result ≠ 0
      · rw [if_pos failed]
        apply Traces.fault
        rw [List.append_nil]
        exact ⟨trivial, done.allowed, .caused passed (.notSpawned called failed)⟩
      · rw [if_neg failed]
        apply Traces.tell_bind
        intro next _
        apply Traces.pure
        rw [List.append_nil]
        exact ⟨trivial, done.allowed, .nothing passed⟩
    · rintro calls reason next ⟨_, done⟩
      refine ⟨trivial, done.allowed, ?_⟩
      cases reason <;> exact done.reports

/-- Running a program in a child that borrows the memory reports what the call that makes the child reports. -/
theorem traces_launchBorrowing (program : Program) : (launchBorrowing program).Traces machine
    fun calls outcome _ => (CallStep.launchBorrowing program).Reported machine calls (outcome.map Value.ofInt32) := by
  apply Traces.ofExcept_bind
  · intro error rejected
    have cause : (CallStep.launchBorrowing program).Cause machine [] error :=
      CallStep.cause_of_program id error rejected
    exact ⟨[], [], rfl, .inl rfl, .caused .nil cause⟩
  · intro prepared _
    apply Traces.perform_bind (by decide)
    intro reply next
    set clone : Request := ⟨CallKind.cloneNumber, [.word Clone.borrowing, .word 0, .word 0, .word 0, .word 0]⟩
    have plain : ¬ (clone.answered reply.word).IsBusyDuplicate := by
      rintro ⟨registers, same⟩
      injection same with asked
      injection asked with asked
      have numbers : CallKind.cloneNumber = CallKind.duplicateOnto.number := congrArg Request.number asked
      exact absurd numbers (by decide)
    by_cases child : reply.word = 0
    · rw [if_pos child]
      have stays : CallKind.execute.number ≠ CallKind.exit.number := by decide
      apply Traces.perform_bind stays
      intro ran middle
      apply Traces.perform_bind_of_exit rfl
      intro last
      refine ⟨[clone.answered reply.word], _, rfl, .inr ⟨clone, _, _, ran.word, rfl, ?_, rfl, rfl, rfl⟩, .nothing ?_⟩
      · rw [child]
      · apply Passed.of_error?_eq_none
        intro call member
        rw [List.mem_singleton.mp member, child]
        decide
    · rw [if_neg child]
      apply Traces.ofExcept_bind
      · intro error decoded
        have failed := (clone.error?_answered reply.word error).mpr decoded
        have reports : Reports ((CallStep.launchBorrowing program).Cause machine)
            ([] ++ [clone.answered reply.word]) (some error) :=
          .answered .nil failed fun busy => absurd busy plain
        exact ⟨[clone.answered reply.word], [], rfl, .inl rfl, reports⟩
      · intro word decoded
        apply Traces.tell_bind
        intro told _
        apply Traces.pure
        refine ⟨[clone.answered reply.word], [], rfl, .inl rfl, .nothing (.of_error?_eq_none ?_)⟩
        intro call member
        rw [List.mem_singleton.mp member, Event.error?]
        simp [decoded]

end Process

namespace CallStep

variable {machine : Machine}

/-- Every step that may fail reports the first error that the kernel answers its own calls with. -/
theorem traces_run (step : CallStep) (fallible : step.IsFallible) :
    step.run.Traces machine fun calls outcome _ => Reported machine step calls outcome := by
  cases step with
  | openFile path flags mode =>
    exact reported_of_faithful (fun _ => rfl) (Descriptor.faithful_openAt _ path flags mode (cause_of_string id)).map
  | openAt directory path flags mode =>
    exact reported_of_faithful (fun _ => rfl)
      (Descriptor.faithful_openAt directory path flags mode (cause_of_string id)).map
  | unlinkAt directory path isDirectory =>
    exact reported_of_faithful (fun _ => rfl)
      ((Descriptor.faithful_unlinkAt directory path isDirectory (cause_of_string id)).followed fun _ => .pure _)
  | close descriptor =>
    exact reported_of_faithful (fun _ => rfl) ((CallKind.faithful_run List.nil_prefix).followed fun _ => .pure _)
  | duplicate descriptor =>
    exact reported_of_faithful (fun _ => rfl) (CallKind.faithful_invokeInt32 List.nil_prefix).map
  | duplicateOnto descriptor target =>
    exact reported_of_faithful (fun _ => rfl) (CallKind.faithful_invokeInt32 List.nil_prefix).map
  | seek descriptor offset origin =>
    exact reported_of_faithful (fun _ => rfl) (CallKind.faithful_invoke List.nil_prefix).map
  | setLength descriptor length =>
    have rejected (beyond : Descriptor.largestLength < length) :
        (setLength descriptor length).Cause machine [] Errno.invalidArgument := .rejected beyond
    exact reported_of_faithful (fun _ => rfl)
      ((Descriptor.faithful_setLength descriptor length rejected).followed fun _ => .pure _)
  | read descriptor size =>
    exact reported_of_faithful (fun _ => rfl) (Descriptor.faithful_deliver (Descriptor.faithful_read descriptor size))
  | write descriptor bytes =>
    exact reported_of_faithful (fun _ => rfl) ((Descriptor.faithful_write descriptor bytes).followed fun _ => .pure _)
  | readAt descriptor size offset =>
    exact reported_of_faithful (fun _ => rfl)
      (Descriptor.faithful_deliver (Descriptor.faithful_readAt descriptor size offset))
  | writeAt descriptor bytes offset =>
    exact reported_of_faithful (fun _ => rfl)
      ((Descriptor.faithful_writeAt descriptor bytes offset).followed fun _ => .pure _)
  | pipe flags =>
    exact reported_of_faithful (fun _ => rfl) ((Descriptor.faithful_pipe flags).followed fun _ => .pure _)
  | status descriptor =>
    exact reported_of_faithful (fun _ => rfl) (Descriptor.faithful_status descriptor).map
  | memoryFile name flags =>
    exact reported_of_faithful (fun _ => rfl) (Descriptor.faithful_memoryFile name flags (cause_of_string id)).map
  | secretMemoryFile closeOnExec =>
    exact reported_of_faithful (fun _ => rfl) (CallKind.faithful_invokeInt32 List.nil_prefix).map
  | map address length protection sharing flags descriptor offset =>
    exact reported_of_faithful (fun _ => rfl) (CallKind.faithful_invoke List.nil_prefix).map
  | unmap address length =>
    exact reported_of_faithful (fun _ => rfl) ((CallKind.faithful_run List.nil_prefix).followed fun _ => .pure _)
  | writeBack address length flags =>
    exact reported_of_faithful (fun _ => rfl) ((CallKind.faithful_run List.nil_prefix).followed fun _ => .pure _)
  | openProcess process flags =>
    exact reported_of_faithful (fun _ => rfl) (CallKind.faithful_invokeInt32 List.nil_prefix).map
  | sendSignal descriptor signal =>
    exact reported_of_faithful (fun _ => rfl) ((CallKind.faithful_run List.nil_prefix).followed fun _ => .pure _)
  | execute program =>
    exact reported_of_faithful (fun _ => rfl) (Process.faithful_execute program (cause_of_program id))
  | launch program =>
    exact reported_of_faithfully (fun _ => rfl) ((Process.traces_launch program).followed_map Value.ofInt32)
  | launchBorrowing program => exact (Process.traces_launchBorrowing program).map
  | fork => exact reported_of_faithfully (fun _ => rfl) (Process.traces_fork.followed_map Value.forked)
  | wait target options =>
    refine reported_of_faithfully (fun _ => rfl) ((Process.traces_wait target options).followed fun found => ?_)
    cases found <;> exact .pure _
  | changeMask how set =>
    exact reported_of_faithful (fun _ => rfl)
      (((CallKind.faithful_collect List.nil_prefix).followed fun _ => .pure _).followed fun _ => .pure _)
  | currentMask =>
    exact reported_of_faithful (fun _ => rfl)
      (((CallKind.faithful_collect List.nil_prefix).followed fun _ => .pure _).followed fun _ => .pure _)
  | invoke kind words =>
    exact reported_of_faithful (fun _ => rfl) (CallKind.faithful_invoke List.nil_prefix).map
  | processId | exit _ | die _ _ | duplicateOrDie _ | perform _ _ => exact fallible.elim

end CallStep

end LinuxCalls
