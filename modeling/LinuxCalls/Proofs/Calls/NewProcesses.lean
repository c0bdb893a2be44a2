/-
This file compares the ways to run a program. All of them pass the same strings on, whoever reads them: the
kernel, the runtime, or the kernel on behalf of a child that borrows its parent's memory. Such a child asks two
questions of its own and is gone, so nothing else ever runs in the memory that it borrows.
-/

import LinuxCalls.Proofs.Calls.Replies
import LinuxCalls.Proofs.Log.Transparency
import LinuxCalls.Proofs.Strings.Passing

namespace LinuxCalls

open Act (Traces)

/-- A register holds the address of a string or of a list of strings. -/
def Register.isString : Register → Bool
  | .text _ | .texts _ => true
  | _ => false

/-- The registers of a question that hold the addresses of strings. -/
def Question.strings (question : Question) : List Register := question.registers.filter Register.isString

/-- What a body that ends with an exit has in use is never released, and nothing follows it. -/
theorem Act.releasing_bind_of_exit {σ α β : Type} {body : Act σ α} {status : UInt64} {state next : σ}
    (left : body state = (.error (.exit status), next)) (rest : α → Act σ β) (release : Act σ Unit) :
    releasing release (body >>= rest) state = (.error (.exit status), next) := by
  have ended : (body >>= rest) state = (.error (.exit status), next) := bind_of_fault rest left
  rw [releasing, bind_apply, outcome_apply, ended]
  rfl

namespace Session

variable {session : Session} {call : CallStep} {status : UInt64} {after : Machine}

/-- A call that exits ends its step. -/
theorem runStep_of_exit (left : call.run session.machine = (.error (.exit status), after)) :
    session.runStep (.call call) = (⟨.exited status, questionsSince session { session with machine := after }⟩,
      { session with machine := after }) := by
  have ended : (onMachine call.run) session = (.error (.exit status), { session with machine := after }) := by
    rw [onMachine, Act.focus_apply, left]
  rw [runStep, Step.run, Act.bind_of_fault _ ended]
  rfl

/-- A call that exits is the last thing that a session does: no later step runs, and no object is dropped. -/
theorem conclude_of_exit (left : call.run session.machine = (.error (.exit status), after)) (steps : List Step) :
    session.runSteps (.call call :: steps) =
        ([⟨.exited status, questionsSince session { session with machine := after }⟩],
          { session with machine := after }) ∧
      conclude (session.runSteps (.call call :: steps)).1 (session.runSteps (.call call :: steps)).2 =
        { session with machine := after } := by
  have ended := runStep_of_exit left
  have stops : session.runSteps (.call call :: steps) = ([(session.runStep (.call call)).1],
      (session.runStep (.call call)).2) := runSteps_of_end (by rw [ended]; nofun)
  rw [stops, ended]
  exact ⟨rfl, rfl⟩

end Session

namespace Program

/-- The strings of a program as they are passed on: its path, its arguments and its environment. -/
def passed (program : Program) : List Register :=
  [.text program.path.bytes, .texts (program.arguments.map StringArgument.bytes),
    .texts (program.environment.map StringArgument.bytes)]

/-- The request that runs a program in place of the caller's. -/
def executing (program : Program) : Request := ⟨CallKind.execute.number, CallKind.padded program.passed⟩

/-- The request with which a borrowing child runs a program. It sets no other register. -/
def executingInChild (program : Program) : Request := ⟨CallKind.execute.number, program.passed⟩

/-- What the runtime is called with to run a program in a new process. -/
def spawning (program : Program) : List Register :=
  [.text program.path.bytes, .word 0, .word 0, .texts (program.arguments.map StringArgument.bytes),
    .texts (program.environment.map StringArgument.bytes)]

/-- The questions of the three ways to run a program. -/
def questions (program : Program) : List Question :=
  [.kernel program.executing, .runtime Channel.spawn.name program.spawning, .kernel program.executingInChild]

/-- Each way to run a program passes exactly its strings on, in the same order. -/
theorem strings_of_mem_questions (program : Program) :
    ∀ question ∈ program.questions, question.strings = program.passed := by
  rw [questions, List.forall_mem_cons, List.forall_mem_cons, List.forall_mem_singleton]
  exact ⟨rfl, rfl, rfl⟩

end Program

namespace Process

/-- The request that makes a child which borrows its parent's memory. -/
def cloning : Request :=
  ⟨CallKind.cloneNumber, [.word Clone.borrowing, .word 0, .word 0, .word 0, .word 0]⟩

/-- The request with which a borrowing child leaves. -/
def leaving : Request := ⟨CallKind.exit.number, [.ofInt32 notRunnable]⟩

/-- The text of the record of a new process. -/
def announcement (origin : String) (process : ProcessId) (program : Program) : String :=
  origin ++ " pid " ++ toString process.toInt ++ " for " ++ Text.quoteBytes program.path.bytes

/-- The process that a word stands for. -/
def ofWord (word : UInt64) : ProcessId := word.toUInt32.toInt32

variable {program : Program}

section Equations

variable (zeroFree : ∀ string ∈ program.strings, 0 ∉ string.bytes)

include zeroFree

/-- Running a program in place of the caller's is one call that does not return. -/
theorem execute_eq {α : Type} : (execute program : Sys α) =
    CallKind.execute.invoke program.passed >>= fun _ => Act.panic := by
  obtain ⟨prepared, ready, path, arguments, environment⟩ := Program.exists_prepare zeroFree
  rw [execute, ready, pure_bind, TerminatedString.register_eq, path, arguments, environment]
  rfl

/-- Running a program through the runtime is one call of it, and a record if it succeeds. -/
theorem launch_eq : launch program =
    callRuntime .spawn program.spawning Errno.notImplemented.raw >>= fun reply =>
      if reply.result ≠ 0 then Act.fail ⟨reply.result⟩
      else Log.tell .debug (announcement "spawned" reply.process program) >>= fun _ => pure reply.process := by
  obtain ⟨prepared, ready, path, arguments, environment⟩ := Program.exists_prepare zeroFree
  rw [launch, ready, pure_bind, TerminatedString.register_eq, path, arguments, environment]
  rfl

/-- Running a program in a borrowing child is one request, after which the child and its parent part. -/
theorem launchBorrowing_eq : launchBorrowing program =
    perform cloning >>= fun reply =>
      if reply.word = 0 then perform program.executingInChild >>= fun _ => exit notRunnable
      else Act.ofExcept (RawReturn.decode reply.word) >>= fun value =>
        Log.tell .debug (announcement "vforked" (ofWord value) program) >>= fun _ => pure (ofWord value) := by
  obtain ⟨prepared, ready, path, arguments, environment⟩ := Program.exists_prepare zeroFree
  rw [launchBorrowing, ready, pure_bind, TerminatedString.register_eq, path, arguments, environment]
  rfl

end Equations

/-- A record that a value follows is the last thing to happen, and with a ready log that value is given. -/
theorem announced {α : Type} {machine : Machine} (ready : machine.LogReady) (level : Level) (message : String)
    (value : α) : ∃ last, (Log.tell level message >>= fun _ => pure value : Sys α) machine = (.ok value, last) ∧
      machine.OnlyComplains last := by
  rcases Log.tell_ends level message machine with ⟨last, told, complains⟩ | ⟨-, unready, -⟩
  · exact ⟨last, Act.bind_of_ok _ told, complains⟩
  · exact absurd ready unready

/--
A program is run in place of the caller's by one request. The caller goes on only with the error of the answer, as
there is nothing left for it to do if the program runs.
-/
def Executes (program : Program) (machine : Machine) : Prop :=
  ∀ α : Type, (execute program : Sys α).Traces machine fun calls outcome _ =>
    let word := (machine.replyTo program.executing).word
    calls = [program.executing.answered word] ∧
      (∀ error, RawReturn.decode word = .error error → outcome = .error (.errno error)) ∧
      ∀ value, RawReturn.decode word = .ok value → outcome = .error .panic

/--
A program is run through the runtime by one call of it. The runtime's own error is reported unchanged and leaves no
record. Otherwise there is one record, and the process that the runtime has stored is reported.
-/
structure Spawns (program : Program) (machine next : Machine) (reply : RuntimeReply) : Prop where
  asked : next.journal = ⟨.runtime Channel.spawn.name program.spawning, some reply.result.toInt64.toUInt64⟩ ::
    machine.journal
  failed : reply.result ≠ 0 → launch program machine = (.error (.errno ⟨reply.result⟩), next)
  recorded : reply.result = 0 → launch program machine =
    (Log.tell .debug (announcement "spawned" reply.process program) >>= fun _ => pure reply.process) next
  reported : reply.result = 0 → machine.LogReady →
    ∃ last, launch program machine = (.ok reply.process, last) ∧ next.OnlyComplains last

/--
The parent of a borrowing child makes no other request than the one that makes the child. It reports what the answer
stands for, after one record if that is a process.
-/
structure Parts (program : Program) (machine next : Machine) (word : UInt64) : Prop where
  asked : Event.withoutComplaints (launchBorrowing program machine).2.journal = Event.withoutComplaints next.journal
  failed : ∀ error, RawReturn.decode word = .error error →
    launchBorrowing program machine = (.error (.errno error), next)
  recorded : ∀ value, RawReturn.decode word = .ok value → launchBorrowing program machine =
    (Log.tell .debug (announcement "vforked" (ofWord value) program) >>= fun _ => pure (ofWord value)) next
  reported : machine.LogReady → ∃ last, next.OnlyComplains last ∧
    launchBorrowing program machine = (((RawReturn.decode word).map ofWord).mapError .errno, last)

/--
A borrowing child asks to run its program and then leaves, whatever the answer was. Between the two and after them
there is nothing, in the log or elsewhere: the caller does not go on, what it has in use is not released, and
a session neither takes another step nor drops an object.
-/
structure Confined (program : Program) (machine next after : Machine) : Prop where
  asked : after.journal = ⟨.kernel leaving, none⟩ ::
    program.executingInChild.answered (next.replyTo program.executingInChild).word :: next.journal
  left : launchBorrowing program machine = (.error (.exit 127), after)
  unreturned : ∀ (β : Type) (rest : ProcessId → Sys β) (release : Sys Unit),
    Act.releasing release (launchBorrowing program >>= rest) machine = (.error (.exit 127), after)
  ended : ∀ (session : Session) (steps : List Step), session.machine = machine →
    let answers := [⟨.exited 127, [.kernel cloning, .kernel program.executingInChild, .kernel leaving]⟩]
    session.runSteps (.call (.launchBorrowing program) :: steps) = (answers, { session with machine := after }) ∧
      Session.conclude answers { session with machine := after } = { session with machine := after }

/-- A child that could not run its program leaves with one request. -/
theorem exit_notRunnable {α : Type} (machine : Machine) :
    (exit notRunnable : Sys α) machine = (.error (.exit 127), machine.note (.kernel leaving) none) :=
  Act.bind_of_fault _ (perform_of_exit rfl machine)

section Proofs

variable (zeroFree : ∀ string ∈ program.strings, 0 ∉ string.bytes)

include zeroFree

/-- Running a program in place of the caller's is one request. -/
theorem executes (machine : Machine) : Executes program machine := by
  intro α
  have few : program.passed.length ≤ CallKind.registerCount := by simp [Program.passed, CallKind.registerCount]
  rw [execute_eq zeroFree, CallKind.invoke, bind_assoc]
  apply (CallKind.traces_complete_reply (by decide) (by decide) (by decide) few).bind
  · rintro _ completion middle ⟨rfl, same⟩
    cases same
    dsimp only
    change (Act.ofExcept (RawReturn.decode (machine.replyTo program.executing).word) >>= _).Traces _ _
    cases decoded : RawReturn.decode (machine.replyTo program.executing).word with
    | ok value =>
      refine .fault ⟨rfl, fun _ same => ?_, fun _ _ => rfl⟩
      contradiction
    | error error =>
      refine .fault ⟨rfl, fun other same => ?_, fun _ same => ?_⟩
      · rw [Except.error.inj same]
      · contradiction
  · rintro _ _ _ ⟨_, failed⟩
    contradiction

/-- Running a program through the runtime is one call of it. -/
theorem spawns (machine : Machine) : ∃ reply next,
    callRuntime .spawn program.spawning Errno.notImplemented.raw machine = (.ok reply, next) ∧
      Spawns program machine next reply := by
  let reply := RuntimeReply.ofAnswer Errno.notImplemented.raw (machine.script.next .spawn).1
  let next := (callRuntime .spawn program.spawning Errno.notImplemented.raw machine).2
  have called : callRuntime .spawn program.spawning Errno.notImplemented.raw machine = (.ok reply, next) := rfl
  have recorded (fine : reply.result = 0) : launch program machine =
      (Log.tell .debug (announcement "spawned" reply.process program) >>= fun _ => pure reply.process) next := by
    rw [launch_eq zeroFree, Act.bind_of_ok _ called, if_neg (not_not.mpr fine)]
  refine ⟨reply, next, called, rfl, fun failed => ?_, recorded, fun fine ready => ?_⟩
  · rw [launch_eq zeroFree, Act.bind_of_ok _ called, if_pos failed, Act.fail_apply]
  · rw [recorded fine]
    exact announced (ready.next .spawn _ _) .debug _ reply.process

variable {machine next : Machine} {reply : Reply}

/-- The parent of a borrowing child makes no other request. -/
theorem parts (cloned : perform cloning machine = (.ok reply, next)) (parent : reply.word ≠ 0) :
    Parts program machine next reply.word := by
  have goesOn : launchBorrowing program machine = (Act.ofExcept (RawReturn.decode reply.word) >>= fun value =>
      Log.tell .debug (announcement "vforked" (ofWord value) program) >>= fun _ => pure (ofWord value)) next := by
    rw [launchBorrowing_eq zeroFree, Act.bind_of_ok _ cloned, if_neg parent]
  have failed (error : Errno) (decoded : RawReturn.decode reply.word = .error error) :
      launchBorrowing program machine = (.error (.errno error), next) := by
    rw [goesOn, decoded]
    rfl
  have recorded (value : UInt64) (decoded : RawReturn.decode reply.word = .ok value) :
      launchBorrowing program machine =
        (Log.tell .debug (announcement "vforked" (ofWord value) program) >>= fun _ => pure (ofWord value)) next := by
    rw [goesOn, decoded]
    rfl
  refine ⟨?_, failed, recorded, fun ready => ?_⟩
  · cases decoded : RawReturn.decode reply.word with
    | error error => rw [failed error decoded]
    | ok value =>
      have told := Log.withoutComplaints_tell .debug (announcement "vforked" (ofWord value) program) next
      rw [recorded value decoded, Act.bind_pure_snd, told]
  · cases decoded : RawReturn.decode reply.word with
    | error error => exact ⟨next, .refl next, failed error decoded⟩
    | ok value =>
      have still : next.LogReady := by
        have kept := ready.perform cloning
        rwa [cloned] at kept
      obtain ⟨last, told, complains⟩ := announced still .debug (announcement "vforked" (ofWord value) program)
        (ofWord value)
      exact ⟨last, complains, (recorded value decoded).trans told⟩

/-- A borrowing child runs nothing beside its two requests. -/
theorem confined (cloned : perform cloning machine = (.ok reply, next)) (child : reply.word = 0) :
    ∃ after, Confined program machine next after := by
  have stays : program.executingInChild.number ≠ CallKind.exit.number := by
    change CallKind.execute.number ≠ CallKind.exit.number
    decide
  have noted : next.journal = cloning.answered reply.word :: machine.journal := by
    rw [(eq_of_perform_eq_ok cloned).2]
    rfl
  have asked := perform_of_ne_exit stays next
  let ran := (next.serve program.executingInChild).1
  let middle := (next.serve program.executingInChild).2.note (.kernel program.executingInChild) (some ran.word)
  let after := middle.note (.kernel leaving) none
  have left : launchBorrowing program machine = (.error (.exit 127), after) := by
    rw [launchBorrowing_eq zeroFree, Act.bind_of_ok _ cloned, if_pos child, Act.bind_of_ok _ asked,
      exit_notRunnable]
  refine ⟨after, rfl, left, fun β rest release => Act.releasing_bind_of_exit left rest release, ?_⟩
  rintro session steps rfl
  have exits : (CallStep.launchBorrowing program).run session.machine = (.error (.exit 127), after) :=
    Act.bind_of_fault _ left
  have grown : [⟨.kernel leaving, none⟩, program.executingInChild.answered ran.word, cloning.answered reply.word] ++
      session.machine.journal = after.journal := (congrArg (_ :: _ :: ·) noted).symm
  have asks : Session.questionsSince session { session with machine := after } =
      [.kernel cloning, .kernel program.executingInChild, .kernel leaving] :=
    @Session.questionsSince_of_append session { session with machine := after } _ grown
  have concluded := Session.conclude_of_exit exits steps
  rw [asks] at concluded
  exact ⟨concluded.1, rfl⟩

end Proofs

/--
The ways to run a program agree, and a borrowing child is confined. Whether the kernel, the runtime or the kernel on
behalf of a borrowing child is asked, exactly the strings of the program are passed on. A borrowing child is made by
one request with the flags for shared memory and for a suspended parent beside the signal of an ended child. Its
parent then makes no other request, and the child runs the program or leaves. The runtime's own error is reported
unchanged.
-/
theorem creation_agrees_and_confines (program : Program) (zeroFree : ∀ string ∈ program.strings, 0 ∉ string.bytes)
    (machine : Machine) :
    (∀ question ∈ program.questions, question.strings = program.passed) ∧
    Executes program machine ∧
    (∃ reply next, callRuntime .spawn program.spawning Errno.notImplemented.raw machine = (.ok reply, next) ∧
      Spawns program machine next reply) ∧
    cloning.register 0 = 0x100 ||| 0x4000 ||| 17 ∧
    ∃ reply next, perform cloning machine = (.ok reply, next) ∧
      next.journal = cloning.answered reply.word :: machine.journal ∧
      (reply.word ≠ 0 → Parts program machine next reply.word) ∧
      (reply.word = 0 → ∃ after, Confined program machine next after) := by
  have cloned : perform cloning machine = _ := perform_of_ne_exit (by decide) machine
  exact ⟨program.strings_of_mem_questions, executes zeroFree machine, spawns zeroFree machine, rfl, _, _, cloned, rfl,
    parts zeroFree cloned, confined zeroFree cloned⟩

/--
A shell gets two strings and one variable. If it may not be run, the runtime says so and a child leaves, but
a parent knows only that the child is number 4321.
-/
theorem creation_agrees_and_confines_shell :
    let program : Program := ⟨.plain [47, 98, 105, 110, 47, 115, 104], [.plain [115, 104], .plain [45, 99]],
      [.plain [65, 61, 49]]⟩
    let parent := Machine.start ⟨[(.clone, [{ word := some 4321 }]), (.spawn, [{ word := some 13 }])]⟩ (.upTo .trace)
    let child := Machine.start ⟨[(.clone, [{ word := some 0 }]), (.call .execute, [{ word := some (-13) }])]⟩
      (.upTo .trace)
    (∀ string ∈ program.strings, 0 ∉ string.bytes) ∧
      (launch program parent).1 = .error (.errno Errno.accessDenied) ∧
      (∃ last, launchBorrowing program parent = (.ok 4321, last) ∧
        Event.withoutComplaints last.journal = [cloning.answered 4321]) ∧
      ∃ after, launchBorrowing program child = (.error (.exit 127), after) ∧
        after.journal = [⟨.kernel leaving, none⟩, program.executingInChild.answered (-13), cloning.answered 0] := by
  intro program parent child
  have zeroFree : ∀ string ∈ program.strings, 0 ∉ string.bytes := by
    simp [program, Program.strings, StringArgument.plain]
  have ready : parent.LogReady := .inr (.inr (by decide))
  obtain ⟨-, -, ⟨denial, _, called, spawned⟩, -, number, _, cloned, noted, parts, -⟩ :=
    creation_agrees_and_confines program zeroFree parent
  obtain ⟨-, -, -, -, zero, last, cloned', noted', -, confined⟩ :=
    creation_agrees_and_confines program zeroFree child
  have denied : denial.result = 13 := by
    rw [← Except.ok.inj (congrArg Prod.fst called)]
    decide
  have numbered : number.word = 4321 := by
    rw [(eq_of_perform_eq_ok cloned).1]
    decide
  have zeroed : zero.word = 0 := by
    rw [(eq_of_perform_eq_ok cloned').1]
    decide
  have answered : (last.replyTo program.executingInChild).word = -13 := by
    rw [(eq_of_perform_eq_ok cloned').2, zeroed]
    decide
  refine ⟨zeroFree, ?_, ?_, ?_⟩
  · rw [spawned.failed (by rw [denied]; decide), denied]
    rfl
  · rw [numbered] at noted parts
    obtain ⟨asked, -, -, reported⟩ := parts (by decide)
    obtain ⟨after, -, launched⟩ := reported ready
    rw [launched, noted] at asked
    exact ⟨after, launched, asked⟩
  · obtain ⟨after, asked, left, -, -⟩ := confined zeroed
    refine ⟨after, left, ?_⟩
    rw [asked, noted', zeroed, answered]
    rfl

end Process

end LinuxCalls
