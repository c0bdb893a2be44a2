/-
This file holds the tasks of the probe. Each of them says which calls carry it out and which calls it fails with, and
the calls of the library that the probe is made of are shown to keep to that.
-/

import LinuxCalls.Proofs.Layout.ChildChanges
import LinuxCalls.Proofs.Log.ProcessRecords
import LinuxCalls.Proofs.Mapping.Calls
import LinuxCalls.Proofs.Probe.Calls
import LinuxCalls.Proofs.Probe.Plan

namespace LinuxCalls

/-- The script gives what its reply holds. -/
theorem Machine.gives_replyTo (machine : Machine) (request : Request) :
    machine.Gives request (machine.replyTo request).word (machine.replyTo request).stored := by
  unfold Gives replyTo replyOf
  cases (machine.script.queue (Channel.ofRequest request)).head? with
  | none => rw [List.take_nil]
  | some answer => rw [List.take_take, Nat.min_self]

/-- What comes of the reply to a wait: its error, or what is read from the bytes that it stores. -/
def Process.waitResult (reply : Reply) : Except Errno (Option WaitStatus) :=
  match RawReturn.decode reply.word with
  | .error error => .error error
  | .ok _ => WaitStatus.decode (buffer reply.stored)

namespace Probe

open Act (Traces)
open CarriesOut (Alone)

variable {α β : Type}

/-- The calls are one of a kind, and its answer is decoded to a result. -/
def Asks (kind : CallKind) (answer : Except Errno UInt64) (calls : List Event) : Prop :=
  ∃ registers word, RawReturn.decode word = answer ∧ calls = [Request.answered ⟨kind.number, registers⟩ word]

/-- One call has one result. -/
theorem Asks.unique {kind other : CallKind} {first second : Except Errno UInt64} {calls : List Event}
    (asks : Asks kind first calls) (again : Asks other second calls) : first = second := by
  obtain ⟨_, word, rfl, rfl⟩ := asks
  obtain ⟨_, word', rfl, same⟩ := again
  have words : word = word' := Option.some.inj (congrArg Event.word (List.singleton_inj.mp same))
  rw [words]

namespace Task

/-- A call of a kind is made, and its error is the failure of the task. -/
def call (kind : CallKind) : Task where
  passes _ calls := ∃ value, Asks kind (.ok value) calls
  fails _ calls := ∃ error, Asks kind (.error error) calls
  apart := by
    rintro _ _ - ⟨value, fine⟩ ⟨error, failed⟩
    exact nomatch fine.unique failed

/-- A call of a kind is made, and its error makes no difference. -/
def attempt (kind : CallKind) : Task where
  passes _ calls := ∃ answer, Asks kind answer calls
  fails _ _ := False
  apart _ _ _ _ := id

/-- The log is told, and no call is made. -/
def note : Task where
  passes _ calls := calls = []
  fails _ _ := False
  apart _ _ _ _ := id

/-- A program is started by the runtime, which reports a failure by a number other than zero. -/
def spawn : Task where
  passes _ calls := ∃ registers, calls = [⟨.runtime Channel.spawn.name registers, some 0⟩]
  fails _ calls := ∃ registers word, word ≠ 0 ∧ calls = [⟨.runtime Channel.spawn.name registers, some word⟩]
  apart := by
    rintro _ _ - ⟨_, rfl⟩ ⟨_, word, failed, same⟩
    exact failed (Option.some.inj (congrArg Event.word (List.singleton_inj.mp same))).symm

/--
The end of the child is waited for. That fails with the error of the call, and with a change of state that cannot
be read, after which a descriptor may be closed.
-/
def awaitChild : Task where
  passes machine calls := ∃ target change,
    let request := Process.waiting target WaitOptions.exited
    let reply := machine.replyTo request
    Process.waitResult reply = .ok change ∧ calls = [request.answered reply.word]
  fails machine calls := ∃ target error closing,
    let request := Process.waiting target WaitOptions.exited
    let reply := machine.replyTo request
    Process.waitResult reply = .error error ∧ calls = request.answered reply.word :: closing ∧
    (closing = [] ∨ ∃ answer, Asks .close answer closing)
  apart := by
    rintro machine _ - ⟨target, change, fine, rfl⟩ ⟨other, error, closing, failed, same, -⟩
    have questions := congrArg Event.question (List.cons.inj same).1
    rw [Question.kernel.inj questions, failed] at fine
    contradiction

end Task

/-- An action makes one call of a kind and reports its error, or it gives a value if there is none. -/
def Asking (kind : CallKind) (act : Sys α) : Prop :=
  ∀ machine, act.Traces machine fun calls outcome _ => ∃ result : Except Errno α,
    outcome = result.mapError .errno ∧ ∃ answer, attempted? result = attempted? answer ∧ Asks kind answer calls

namespace Asking

variable {kind : CallKind} {registers : List Register} {act : Sys α}

/-- A plain call gives what its answer is decoded to. -/
theorem traces_invoke (plain : kind.IsPlain) (few : registers.length ≤ CallKind.registerCount) {machine : Machine} :
    (kind.invoke registers).Traces machine fun calls outcome _ => ∃ result : Except Errno UInt64,
      outcome = result.mapError .errno ∧ Asks kind result calls := by
  refine (CallKind.traces_invoke_once plain.1 plain.2.1 few).mono ?_
  rintro _ _ _ ⟨_, rfl, word, rfl, rfl⟩
  exact ⟨_, rfl, _, word, rfl, rfl⟩

/-- A plain call asks for what it gives. -/
theorem invoke (plain : kind.IsPlain) (few : registers.length ≤ CallKind.registerCount) :
    Asking kind (kind.invoke registers) := fun _ =>
  (traces_invoke plain few).mono fun _ _ _ ⟨result, same, asks⟩ => ⟨result, same, result, rfl, asks⟩

/-- A plain call asks for what it stores. -/
theorem collect (plain : kind.IsPlain) (few : registers.length ≤ CallKind.registerCount) :
    Asking kind (kind.collect registers) := by
  intro machine
  refine (CallKind.traces_collect_once plain.1 plain.2.1 few).mono ?_
  rintro _ _ _ ⟨_, rfl, word, stored, rfl, rfl⟩
  exact ⟨_, rfl, _, attempted?_map _ _, _, word, rfl, rfl⟩

theorem bind_pure (asking : Asking kind act) (change : α → β) :
    Asking kind (act >>= fun value => pure (change value)) := by
  intro machine
  apply (asking machine).bind_result
  · rintro calls value _ ⟨answer, same, asks⟩
    apply Traces.pure
    rw [List.append_nil]
    exact ⟨.ok (change value), rfl, answer, same, asks⟩
  · rintro calls error _ ⟨answer, same, asks⟩
    exact ⟨.error error, rfl, answer, same, asks⟩

/-- A plain call whose value does not matter asks for nothing else. -/
theorem run (plain : kind.IsPlain) (few : registers.length ≤ CallKind.registerCount) :
    Asking kind (kind.run registers) := (invoke plain few).bind_pure _

/-- A plain call asks for the signed number that it gives. -/
theorem invokeInt32 (plain : kind.IsPlain) (few : registers.length ≤ CallKind.registerCount) :
    Asking kind (kind.invokeInt32 registers) := (invoke plain few).bind_pure _

theorem map (asking : Asking kind act) (change : α → β) : Asking kind (change <$> act) := by
  rw [← bind_pure_comp]
  exact asking.bind_pure change

/-- A call whose error is reported carries a task out that passes with a value and fails with an error. -/
theorem carries (asking : Asking kind act) {task : Task}
    (passes : ∀ machine calls value, Asks kind (.ok value) calls → task.passes machine calls)
    (fails : ∀ machine calls error, Asks kind (.error error) calls → task.fails machine calls) :
    Alone True [.task task] act := by
  refine .of_traces fun machine _ => (asking machine).mono ?_
  rintro calls _ _ ⟨error | value, rfl, failure | given, same, asks⟩ <;> cases same
  · exact ⟨rfl, trivial, fails _ _ _ asks⟩
  · exact ⟨rfl, trivial, passes _ _ _ asks⟩

/-- A call whose error is reported carries its task out. -/
theorem alone (asking : Asking kind act) : Alone True [.task (.call kind)] act :=
  asking.carries (fun _ _ value asks => ⟨value, asks⟩) fun _ _ error asks => ⟨error, asks⟩

theorem attempt (asking : Asking kind act) {settle : Except Errno α → Sys β} {mayFail : Prop}
    (settles : ∀ result machine, (settle result).Traces machine fun calls outcome _ =>
      calls = [] ∧ ∃ value, outcome = .ok value) :
    Alone mayFail [.task (.attempt kind)] (act.attempt >>= settle) := by
  refine .of_traces fun machine _ => ?_
  have attempted : act.attempt.Traces machine fun calls outcome _ => ∃ result, outcome = .ok result ∧
      ∃ answer, Asks kind answer calls := by
    apply (asking machine).attempt_result
    rintro calls result _ ⟨answer, -, asks⟩
    exact ⟨result, rfl, answer, asks⟩
  apply attempted.bind
  · rintro calls result middle ⟨_, -, answer, asks⟩
    refine (settles result middle).mono ?_
    rintro _ _ _ ⟨rfl, value, rfl⟩
    rw [List.append_nil]
    exact ⟨rfl, trivial, answer, asks⟩
  · rintro _ _ _ ⟨_, failed, -⟩
    contradiction

end Asking

/-- An action makes one call of a kind, and it never fails. -/
def Releases (kind : CallKind) (release : Sys Unit) : Prop :=
  ∀ machine, release.Traces machine fun calls outcome _ => outcome = .ok () ∧ ∃ answer, Asks kind answer calls

/-- Such an action carries its task out. -/
theorem Releases.alone {kind : CallKind} {release : Sys Unit} {mayFail : Prop} (releases : Releases kind release) :
    Alone mayFail [.task (.attempt kind)] release := by
  refine .of_traces fun machine _ => (releases machine).mono ?_
  rintro _ _ _ ⟨rfl, asks⟩
  exact ⟨rfl, trivial, asks⟩

/-- Such an action gives a value. -/
theorem Releases.fine {kind : CallKind} {release : Sys Unit} (releases : Releases kind release) (machine : Machine) :
    release.Traces machine fun _ outcome _ => outcome = .ok () := (releases machine).mono fun _ _ _ => And.left

/-- A wait for the end of a child is one call, which decides what comes of it. -/
theorem traces_wait (target : WaitTarget) {machine : Machine} :
    (Process.wait target WaitOptions.exited).Traces machine fun calls outcome _ =>
      let request := Process.waiting target WaitOptions.exited
      outcome = (Process.waitResult (machine.replyTo request)).mapError .errno ∧
        calls = [request.answered (machine.replyTo request).word] := by
  refine (Process.traces_wait_reply (machine.gives_replyTo _)).mono ?_
  rintro calls _ _ ⟨result, rfl, rfl, fails, decides⟩
  refine ⟨?_, rfl⟩
  unfold Process.waitResult
  cases decoded : RawReturn.decode (machine.replyTo (Process.waiting target WaitOptions.exited)).word with
  | error error => rw [fails error decoded]
  | ok value => rw [decides value decoded]

end Probe

end LinuxCalls
