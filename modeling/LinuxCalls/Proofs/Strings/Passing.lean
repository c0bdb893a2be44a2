/-
This file shows that strings reach the kernel intact or not at all. A call with a zero byte in one of its
strings is rejected before anything happens. Every other call passes exactly the strings it was given, and
what carries their bytes makes no difference.
-/

import LinuxCalls.Proofs.Calls.Causes
import LinuxCalls.Proofs.Strings.Layout

namespace LinuxCalls

open Act (Traces)

namespace StringArgument

/-- A string argument with a zero byte is rejected. -/
theorem terminate_of_mem {argument : StringArgument} (zero : 0 ∈ argument.bytes) :
    argument.terminate = .error Errno.invalidArgument := dif_neg (not_not.mpr zero)

/-- A string argument without a zero byte is prepared with its bytes. -/
theorem prepare_of_notMem {argument : StringArgument} (zeroFree : 0 ∉ argument.bytes) :
    argument.prepare = pure ⟨argument.bytes, zeroFree⟩ := by
  rw [prepare, terminate, dif_pos zeroFree]
  rfl

/-- A terminated string has the bytes of its argument. -/
theorem bytes_of_terminate {argument : StringArgument} {string : TerminatedString}
    (terminated : argument.terminate = .ok string) : string.bytes = argument.bytes := by
  unfold terminate at terminated
  split at terminated
  · exact (congrArg TerminatedString.bytes (Except.ok.inj terminated)).symm
  · contradiction

/-- Terminated strings have the bytes of their arguments in the same order. -/
theorem bytes_of_terminateAll {arguments : List StringArgument} {strings : List TerminatedString}
    (terminated : terminateAll arguments = .ok strings) :
    strings.map TerminatedString.bytes = arguments.map bytes := by
  induction arguments generalizing strings with
  | nil =>
    cases terminated
    rfl
  | cons argument arguments step =>
    rw [terminateAll] at terminated
    cases first : argument.terminate with
    | error error => simp [first] at terminated
    | ok string =>
      cases rest : terminateAll arguments with
      | error error => simp [first, rest] at terminated
      | ok others =>
        rw [first, rest] at terminated
        cases terminated
        rw [List.map_cons, List.map_cons, bytes_of_terminate first, step rest]

/-- A string argument with the given bytes. -/
def plain (bytes : Bytes) : StringArgument := ⟨.path, bytes, by simp [Carrier.isTerminated]⟩

/-- What a string argument is terminated to depends on its bytes. -/
theorem terminate_plain (argument : StringArgument) : (plain argument.bytes).terminate = argument.terminate := rfl

/-- What string arguments are terminated to depends on their bytes. -/
theorem terminateAll_plain (arguments : List StringArgument) :
    terminateAll (arguments.map (plain ∘ bytes)) = terminateAll arguments := by
  induction arguments with
  | nil => rfl
  | cons argument arguments step =>
    rw [List.map_cons, terminateAll, step, Function.comp_apply, terminate_plain, terminateAll]

end StringArgument

namespace StringVector

/-- A list of string arguments is kept with the bytes of its arguments in the same order. -/
theorem exists_of_new {arguments : List StringArgument} {vector : StringVector}
    (made : new arguments = .ok vector) :
    ∃ strings, vector = ofStrings strings ∧
      strings.map TerminatedString.bytes = arguments.map StringArgument.bytes := by
  unfold new at made
  cases result : StringArgument.terminateAll arguments with
  | error error =>
    rw [result] at made
    contradiction
  | ok strings =>
    rw [result] at made
    exact ⟨strings, (Except.ok.inj made).symm, StringArgument.bytes_of_terminateAll result⟩

/-- The register of a list of string arguments passes their bytes. -/
theorem register_of_new {arguments : List StringArgument} {vector : StringVector}
    (made : new arguments = .ok vector) : vector.register = .texts (arguments.map StringArgument.bytes) := by
  obtain ⟨strings, rfl, same⟩ := exists_of_new made
  rw [register_ofStrings, same]

/-- A list of string arguments that is kept has no zero byte in any of them. -/
theorem zeroFree_of_new {arguments : List StringArgument} {vector : StringVector}
    (made : new arguments = .ok vector) : ∀ argument ∈ arguments, 0 ∉ argument.bytes := by
  obtain ⟨strings, -, same⟩ := exists_of_new made
  intro argument member
  have found : argument.bytes ∈ strings.map TerminatedString.bytes := same ▸ List.mem_map_of_mem member
  obtain ⟨string, -, bytes⟩ := List.mem_map.mp found
  exact bytes ▸ string.zeroFree

/-- A list of string arguments without a zero byte in any of them is kept. -/
theorem exists_new {arguments : List StringArgument} (zeroFree : ∀ argument ∈ arguments, 0 ∉ argument.bytes) :
    ∃ vector, new arguments = .ok vector := by
  cases made : new arguments with
  | ok vector => exact ⟨vector, rfl⟩
  | error error =>
    obtain ⟨-, argument, member, zero⟩ := eq_of_new_eq_error made
    exact absurd zero (zeroFree argument member)

/-- What a list of string arguments is kept as depends on their bytes. -/
theorem new_plain (arguments : List StringArgument) :
    new (arguments.map (.plain ∘ StringArgument.bytes)) = new arguments := by
  rw [new, StringArgument.terminateAll_plain, new]

end StringVector

/-- A prepared program keeps what its path and its lists of strings are terminated to. -/
theorem Program.eq_of_terminate {program : Program} {prepared : PreparedProgram}
    (terminated : program.terminate = .ok prepared) : program.path.terminate = .ok prepared.path ∧
      StringVector.new program.arguments = .ok prepared.arguments ∧
      StringVector.new program.environment = .ok prepared.environment := by
  unfold terminate at terminated
  cases path : program.path.terminate with
  | error error =>
    rw [path] at terminated
    contradiction
  | ok first =>
    cases arguments : StringVector.new program.arguments with
    | error error =>
      rw [path, arguments] at terminated
      contradiction
    | ok second =>
      cases environment : StringVector.new program.environment with
      | error error =>
        rw [path, arguments, environment] at terminated
        contradiction
      | ok third =>
        rw [path, arguments, environment] at terminated
        cases terminated
        exact ⟨rfl, rfl, rfl⟩

/-- What a program is terminated to depends on the bytes of its strings. -/
theorem Program.terminate_plain (program : Program) :
    Program.terminate ⟨.plain program.path.bytes, program.arguments.map (.plain ∘ StringArgument.bytes),
      program.environment.map (.plain ∘ StringArgument.bytes)⟩ = program.terminate := by
  simp only [Program.terminate, StringArgument.terminate_plain, StringVector.new_plain]

/-- A program with a zero byte in one of its strings is rejected. -/
theorem Program.terminate_of_mem {program : Program} (zero : ∃ string ∈ program.strings, 0 ∈ string.bytes) :
    program.terminate = .error Errno.invalidArgument := by
  cases result : program.terminate with
  | error error => rw [(eq_of_terminate_eq_error result).1]
  | ok prepared =>
    obtain ⟨path, arguments, environment⟩ := Program.eq_of_terminate result
    obtain ⟨string, member, zero⟩ := zero
    rcases List.mem_cons.mp member with rfl | member
    · exact absurd zero (StringArgument.bytes_of_terminate path ▸ prepared.path.zeroFree)
    · rcases List.mem_append.mp member with member | member
      · exact absurd zero (StringVector.zeroFree_of_new arguments string member)
      · exact absurd zero (StringVector.zeroFree_of_new environment string member)

/-- A program without a zero byte in its strings is prepared with the bytes of its strings. -/
theorem Program.exists_prepare {program : Program} (zeroFree : ∀ string ∈ program.strings, 0 ∉ string.bytes) :
    ∃ prepared, program.prepare = pure prepared ∧ prepared.path.bytes = program.path.bytes ∧
      prepared.arguments.register = .texts (program.arguments.map StringArgument.bytes) ∧
      prepared.environment.register = .texts (program.environment.map StringArgument.bytes) := by
  cases result : program.terminate with
  | error error =>
    obtain ⟨-, string, member, zero⟩ := eq_of_terminate_eq_error result
    exact absurd zero (zeroFree string member)
  | ok prepared =>
    obtain ⟨path, arguments, environment⟩ := Program.eq_of_terminate result
    refine ⟨prepared, ?_, StringArgument.bytes_of_terminate path, StringVector.register_of_new arguments,
      StringVector.register_of_new environment⟩
    rw [prepare, result]
    rfl

/-- The registers with which a question is asked. -/
def Question.registers : Question → List Register
  | .kernel request => request.registers
  | .runtime _ arguments => arguments

/-- A call that takes strings, over any form of a string. -/
inductive StringCall (σ : Type)
  | openFile (path : σ) (flags : OpenFlags) (mode : Mode)
  | openAt (directory : Directory) (path : σ) (flags : OpenFlags) (mode : Mode)
  | unlinkAt (directory : Directory) (path : σ) (isDirectory : Bool)
  | memoryFile (name : σ) (flags : MemoryFileFlags)
  | execute (path : σ) (arguments environment : List σ)
  | launch (path : σ) (arguments environment : List σ)
  | launchBorrowing (path : σ) (arguments environment : List σ)

namespace StringCall

variable {σ τ : Type}

/-- This function changes every string of a call. -/
def map (change : σ → τ) : StringCall σ → StringCall τ
  | openFile path flags mode => openFile (change path) flags mode
  | openAt directory path flags mode => openAt directory (change path) flags mode
  | unlinkAt directory path isDirectory => unlinkAt directory (change path) isDirectory
  | memoryFile name flags => memoryFile (change name) flags
  | execute path arguments environment => execute (change path) (arguments.map change) (environment.map change)
  | launch path arguments environment => launch (change path) (arguments.map change) (environment.map change)
  | launchBorrowing path arguments environment =>
    launchBorrowing (change path) (arguments.map change) (environment.map change)

/-- The string of a call that is passed on its own. -/
def path : StringCall σ → σ
  | openFile path _ _ | openAt _ path _ _ | unlinkAt _ path _ | memoryFile path _ | execute path _ _
  | launch path _ _ | launchBorrowing path _ _ => path

/-- The lists of strings of a call. -/
def lists : StringCall σ → List (List σ)
  | openFile _ _ _ | openAt _ _ _ _ | unlinkAt _ _ _ | memoryFile _ _ => []
  | execute _ arguments environment | launch _ arguments environment
  | launchBorrowing _ arguments environment => [arguments, environment]

/-- All strings of a call. -/
def strings : StringCall σ → List σ
  | openFile path _ _ | openAt _ path _ _ | unlinkAt _ path _ | memoryFile path _ => [path]
  | execute path arguments environment | launch path arguments environment
  | launchBorrowing path arguments environment => path :: (arguments ++ environment)

/-- The strings of a call are the one that is passed on its own and those of its lists. -/
theorem strings_eq (call : StringCall σ) : call.strings = call.path :: call.lists.flatten := by
  cases call <;> simp [strings, path, lists]

/-- The step that makes a call. -/
def step : StringCall StringArgument → CallStep
  | openFile path flags mode => .openFile path flags mode
  | openAt directory path flags mode => .openAt directory path flags mode
  | unlinkAt directory path isDirectory => .unlinkAt directory path isDirectory
  | memoryFile name flags => .memoryFile name flags
  | execute path arguments environment => .execute ⟨path, arguments, environment⟩
  | launch path arguments environment => .launch ⟨path, arguments, environment⟩
  | launchBorrowing path arguments environment => .launchBorrowing ⟨path, arguments, environment⟩

/-- The question that passes the strings of a call on. -/
def question : StringCall Bytes → Question
  | openFile path flags mode => .kernel ⟨CallKind.openAt.number, CallKind.padded
    [.ofInt32 Directory.current.descriptor, .text path, .ofUInt32 (flags.union OpenFlags.largeFile).bits,
      .ofUInt32 mode.bits]⟩
  | openAt directory path flags mode => .kernel ⟨CallKind.openAt.number, CallKind.padded
    [.ofInt32 directory.descriptor, .text path, .ofUInt32 (flags.union OpenFlags.largeFile).bits,
      .ofUInt32 mode.bits]⟩
  | unlinkAt directory path isDirectory => .kernel ⟨CallKind.unlink.number, CallKind.padded
    [.ofInt32 directory.descriptor, .text path,
      .ofUInt32 (if isDirectory then Descriptor.removeDirectory else 0)]⟩
  | memoryFile name flags => .kernel ⟨CallKind.memoryFile.number, CallKind.padded
    [.text name, .ofUInt32 flags.bits]⟩
  | execute path arguments environment => .kernel ⟨CallKind.execute.number, CallKind.padded
    [.text path, .texts arguments, .texts environment]⟩
  | launch path arguments environment => .runtime Channel.spawn.name
    [.text path, .word 0, .word 0, .texts arguments, .texts environment]
  | launchBorrowing path arguments environment => .kernel ⟨CallKind.execute.number,
    [.text path, .texts arguments, .texts environment]⟩

/--
The calls that a call makes: the question that passes its strings on, asked once. Only a borrowing child asks
it after the call that makes the child, and it exits if that fails.
-/
def Asks (call : StringCall Bytes) (calls : List Event) : Prop :=
  match call with
  | launchBorrowing _ _ _ => ∃ clone : Request, clone.number = CallKind.cloneNumber ∧
    ((∃ word, word ≠ 0 ∧ calls = [clone.answered word]) ∨
      ∃ (word : Option UInt64) (leave : Request), leave.number = CallKind.exit.number ∧
        calls = [clone.answered 0, ⟨call.question, word⟩, ⟨.kernel leave, none⟩])
  | _ => ∃ word, calls = [⟨call.question, word⟩]

/-- What a call does depends on the bytes of its strings. -/
theorem run_plain (call : StringCall StringArgument) :
    ((call.map StringArgument.bytes).map StringArgument.plain).step.run = call.step.run := by
  cases call with
  | openFile path flags mode => rfl
  | openAt directory path flags mode => rfl
  | unlinkAt directory path isDirectory => rfl
  | memoryFile name flags => rfl
  | execute path arguments environment | launch path arguments environment
  | launchBorrowing path arguments environment =>
    have same := Program.terminate_plain ⟨path, arguments, environment⟩
    simp only [map, step, List.map_map, CallStep.run, Process.execute, Process.launch, Process.launchBorrowing,
      Program.prepare, same]

/-- A call with a zero byte in one of its strings is rejected before anything happens. -/
theorem run_of_mem {call : StringCall StringArgument} (zero : ∃ string ∈ call.strings, 0 ∈ string.bytes) :
    call.step.run = Act.fail Errno.invalidArgument := by
  cases call with
  | openFile path flags mode | openAt directory path flags mode | unlinkAt directory path isDirectory
  | memoryFile path flags =>
    obtain ⟨string, member, zero⟩ := zero
    obtain rfl := List.mem_singleton.mp member
    simp only [step, CallStep.run, Descriptor.openFile, Descriptor.openAt, Descriptor.unlinkAt,
      Descriptor.memoryFile, StringArgument.prepare, StringArgument.terminate_of_mem zero]
    rfl
  | execute path arguments environment | launch path arguments environment
  | launchBorrowing path arguments environment =>
    have rejected : Program.terminate ⟨path, arguments, environment⟩ = .error Errno.invalidArgument :=
      Program.terminate_of_mem zero
    simp only [step, CallStep.run, Process.execute, Process.launch, Process.launchBorrowing, Program.prepare,
      rejected]
    rfl

/-- What follows the calls of an action without a call of its own leaves them alone. -/
theorem traces_bind_silent {α β : Type} {first : Sys α} {second : α → Sys β} {machine : Machine}
    {asks : List Event → Prop} (traces : first.Traces machine fun calls _ _ => asks calls)
    (silent : ∀ value middle, (second value).Traces middle fun calls _ _ => calls = []) :
    (first >>= second).Traces machine fun calls _ _ => asks calls := by
  apply traces.bind
  · intro calls value middle asked
    apply (silent value middle).mono
    rintro _ _ _ rfl
    rwa [List.append_nil]
  · exact fun calls reason next asked => asked

/-- A call that is never tried again asks its question once. -/
theorem traces_invoke {kind : CallKind} {registers : List Register} (stays : kind ≠ .exit)
    (never : kind ≠ .duplicateOnto) (few : registers.length ≤ CallKind.registerCount) {machine : Machine} :
    (kind.invoke registers).Traces machine fun calls _ _ =>
      ∃ word, calls = [⟨.kernel ⟨kind.number, CallKind.padded registers⟩, word⟩] := by
  apply (CallKind.traces_invoke_once stays never few).mono
  rintro calls outcome next ⟨result, -, word, -, same⟩
  exact ⟨some word, same⟩

/-- A call without a zero byte in its strings asks its question. -/
theorem traces_run {call : StringCall StringArgument} (zeroFree : ∀ string ∈ call.strings, 0 ∉ string.bytes)
    (machine : Machine) :
    call.step.run.Traces machine fun calls _ _ => (call.map StringArgument.bytes).Asks calls := by
  cases call with
  | openFile path flags mode | openAt directory path flags mode | memoryFile path flags =>
    simp only [step, CallStep.run, Descriptor.openFile, Descriptor.openAt, Descriptor.memoryFile,
      StringArgument.prepare_of_notMem (zeroFree path List.mem_cons_self), pure_bind, CallKind.invokeInt32,
      TerminatedString.register_eq]
    apply Traces.map
    exact traces_bind_silent
      (traces_invoke (by decide) (by decide) (by simp [CallKind.registerCount])) fun _ _ => .pure rfl
  | unlinkAt directory path isDirectory =>
    simp only [step, CallStep.run, Descriptor.unlinkAt, CallKind.run,
      StringArgument.prepare_of_notMem (zeroFree path List.mem_cons_self), pure_bind, TerminatedString.register_eq]
    apply traces_bind_silent (traces_bind_silent
      (traces_invoke (by decide) (by decide) (by simp [CallKind.registerCount])) ?_)
    · exact fun _ _ => .pure rfl
    · exact fun _ _ => .pure rfl
  | execute path arguments environment =>
    obtain ⟨prepared, ready, first, second, third⟩ :=
      @Program.exists_prepare ⟨path, arguments, environment⟩ zeroFree
    simp only [step, CallStep.run, Process.execute, ready, pure_bind, TerminatedString.register_eq, first, second,
      third]
    exact traces_bind_silent (traces_invoke (by decide) (by decide) (by simp [CallKind.registerCount]))
      fun _ _ => .fault rfl
  | launch path arguments environment =>
    obtain ⟨prepared, ready, first, second, third⟩ :=
      @Program.exists_prepare ⟨path, arguments, environment⟩ zeroFree
    simp only [step, CallStep.run, Process.launch, ready, pure_bind, TerminatedString.register_eq, first, second,
      third]
    apply Traces.map
    apply traces_bind_silent
    · exact .of_eq rfl (.ran (.inr rfl) rfl (.nothing _)) ⟨_, rfl⟩
    · intro reply middle
      split
      · exact .fault rfl
      · exact .tell_bind fun _ _ => .pure rfl
  | launchBorrowing path arguments environment =>
    obtain ⟨prepared, ready, first, second, third⟩ :=
      @Program.exists_prepare ⟨path, arguments, environment⟩ zeroFree
    simp only [step, CallStep.run, Process.launchBorrowing, ready, pure_bind, TerminatedString.register_eq, first,
      second, third]
    apply Traces.map
    apply Traces.perform_bind (by decide)
    intro reply next
    by_cases child : reply.word = 0
    · have stays : CallKind.execute.number ≠ CallKind.exit.number := by decide
      rw [if_pos child, child]
      apply Traces.perform_bind stays
      intro ran middle
      apply Traces.perform_bind_of_exit rfl
      exact fun last => ⟨_, rfl, .inr ⟨some ran.word, _, rfl, rfl⟩⟩
    · rw [if_neg child]
      apply Traces.ofExcept_bind
      · exact fun error _ => ⟨_, rfl, .inl ⟨reply.word, child, rfl⟩⟩
      · intro word _
        apply Traces.tell_bind
        exact fun _ _ => .pure ⟨_, rfl, .inl ⟨reply.word, child, rfl⟩⟩

end StringCall

/--
A string argument reaches the kernel. It is kept with a terminator, its register passes the bytes given, and the
kernel reads these wherever the caller stores the string.
-/
def StringArgument.Reaches (argument : StringArgument) : Prop :=
  ∃ string, argument.terminate = .ok string ∧ string.register = .text argument.bytes ∧
    ∀ memory address, ∃ enough, ∀ limit, enough ≤ limit →
      (Memory.store memory address string.inMemory).stringAt limit address = some argument.bytes

/--
A list of string arguments reaches the kernel. Terminated strings and an array of pointers are made of it, the
register passes the bytes given in their order, and wherever the caller stores the strings and the array, these
hold the bytes with all zeros behind them, and the kernel reads them through the array.
-/
def StringVector.Reaches (arguments : List StringArgument) : Prop :=
  ∃ vector, new arguments = .ok vector ∧ vector.register = .texts (arguments.map StringArgument.bytes) ∧
    ∀ memory (placement : Placement), placement.Sound vector →
      (vector.storedIn placement memory).HoldsStrings placement.array (arguments.map StringArgument.bytes) ∧
      ∃ enough, ∀ limit, enough ≤ limit →
        (vector.storedIn placement memory).stringsAt limit limit placement.array =
          some (arguments.map StringArgument.bytes)

/-- A string argument without a zero byte reaches the kernel. -/
theorem StringArgument.reaches {argument : StringArgument} (zeroFree : 0 ∉ argument.bytes) : argument.Reaches :=
  ⟨⟨argument.bytes, zeroFree⟩, dif_pos zeroFree, TerminatedString.register_eq _, TerminatedString.stringAt_store _⟩

/-- A list of string arguments without a zero byte in any of them reaches the kernel. -/
theorem StringVector.reaches {arguments : List StringArgument}
    (zeroFree : ∀ argument ∈ arguments, 0 ∉ argument.bytes) : Reaches arguments := by
  obtain ⟨vector, made⟩ := exists_new zeroFree
  obtain ⟨strings, rfl, same⟩ := exists_of_new made
  refine ⟨_, made, register_of_new made, fun memory placement sound => ?_⟩
  rw [← same]
  exact ⟨holdsStrings_storedIn sound memory, stringsAt_storedIn sound memory⟩

/--
Strings reach the kernel intact or not at all. A call with a zero byte in one of its strings is an invalid
argument and leaves the machine as it is. Every other call passes its strings on in one question, each of
them is stored with a terminator and each list of them as an array that ends in a null pointer, and the kernel
reads exactly the bytes that were given. What carries the bytes of the strings makes no difference.
-/
theorem StringCall.intact_or_rejected (call : StringCall StringArgument) (machine : Machine) :
    ((∃ string ∈ call.strings, 0 ∈ string.bytes) →
      call.step.run machine = (.error (.errno Errno.invalidArgument), machine)) ∧
    ((∀ string ∈ call.strings, 0 ∉ string.bytes) →
      call.step.run.Traces machine (fun calls _ _ => (call.map StringArgument.bytes).Asks calls) ∧
      call.path.Reaches ∧ ∀ arguments ∈ call.lists, StringVector.Reaches arguments) ∧
    ∀ other : StringCall StringArgument, other.map StringArgument.bytes = call.map StringArgument.bytes →
      other.step.run = call.step.run := by
  refine ⟨fun zero => ?_, fun zeroFree => ⟨traces_run zeroFree machine, ?_⟩, fun other same => ?_⟩
  · rw [run_of_mem zero, Act.fail_apply]
  · rw [strings_eq, List.forall_mem_cons] at zeroFree
    refine ⟨StringArgument.reaches zeroFree.1, fun arguments listed => ?_⟩
    exact StringVector.reaches fun argument member => zeroFree.2 argument (List.mem_flatten_of_mem listed member)
  · rw [← run_plain other, ← run_plain call, same]

/--
A program with the arguments `sh` and `-c` is passed on, and the kernel reads the list behind its pointers. The
same program is an invalid argument where an owned text among its arguments holds a zero byte.
-/
theorem StringCall.intact_or_rejected_two_arguments :
    let machine := Machine.start ⟨[]⟩ (.upTo .warn)
    let program (bytes : Bytes) : StringCall StringArgument :=
      .execute (.plain [115, 104]) [.plain [115, 104], ⟨.ownedText, bytes, nofun⟩] []
    let placement : Placement := ⟨fun index => if index = 0 then 256 else 264, 512⟩
    (program [45, 0]).step.run machine = (.error (.errno Errno.invalidArgument), machine) ∧
      ∃ vector, StringVector.new [.plain [115, 104], ⟨.ownedText, [45, 99], nofun⟩] = .ok vector ∧
        placement.Sound vector ∧ ∃ enough, ∀ limit, enough ≤ limit →
          (vector.storedIn placement Memory.blank).stringsAt limit limit 512 = some [[115, 104], [45, 99]] := by
  intro machine program placement
  have zero : ∃ string ∈ (program [45, 0]).strings, 0 ∈ string.bytes :=
    ⟨⟨.ownedText, [45, 0], nofun⟩, by simp [program, strings], by decide⟩
  have zeroFree : ∀ string ∈ (program [45, 99]).strings, 0 ∉ string.bytes := by
    simp [program, strings, StringArgument.plain]
  have rejected := (intact_or_rejected (program [45, 0]) machine).1 zero
  obtain ⟨-, -, intact⟩ := (intact_or_rejected (program [45, 99]) machine).2.1 zeroFree
  obtain ⟨vector, made, -, read⟩ := intact _ List.mem_cons_self
  have sound : placement.Sound vector := by
    cases made
    refine ⟨by decide, Memory.Blocks.agree_of_apart (by decide), by decide⟩
  exact ⟨rejected, vector, made, sound, (read Memory.blank placement sound).2⟩

end LinuxCalls
