/-
This file holds plans. A plan lists in order what a program does: its tasks, each with the calls that carry it out and
the calls that it fails with, and the reports that it makes between them. There is one rule for each way of making
runs up, which says what plan a run carries out and how it ends where a task fails.
-/

import LinuxCalls.Complaint
import LinuxCalls.Proofs.Calls.Rows
import LinuxCalls.Proofs.Probe.Fair

namespace LinuxCalls

open Act (Traces)

namespace Complaint

/-- The last calls of a program that cannot go on: what it writes to the descriptor for complaints, and an exit. -/
def IsFarewell (calls : List Event) : Prop :=
  ∃ writes, calls = writes ++ [Machine.leaving 1] ∧ ∀ call ∈ writes,
    CallKind.write.Puts [.ofInt32 Descriptor.complaints] call

/-- A push makes writes to the descriptor for complaints, and no error comes of it. -/
theorem traces_push (bytes : Bytes) {machine : Machine} : (push bytes).Traces machine fun calls outcome _ =>
    (outcome = .ok () ∨ outcome = .error .panic) ∧
      ∀ call ∈ calls, CallKind.write.Puts [.ofInt32 Descriptor.complaints] call := by
  -- Each write that accepts something leaves fewer bytes for the next one.
  induction size : bytes.length using Nat.strongRecOn generalizing bytes machine with
  | ind size step =>
    subst size
    unfold push
    have wrote : (Descriptor.write Descriptor.complaints bytes).attempt.Traces machine fun calls outcome _ =>
        ∃ result, outcome = .ok result ∧ ∀ call ∈ calls, CallKind.write.Puts [.ofInt32 Descriptor.complaints] call := by
      apply (Descriptor.traces_write Descriptor.complaints bytes).attempt_result
      rintro _ result _ ⟨word, -, rfl⟩
      exact ⟨result, rfl, fun call member => List.mem_singleton.mp member ▸ ⟨_, rfl⟩⟩
    apply wrote.bind
    · rintro calls result middle ⟨-, -, puts⟩
      have stops {ending : Except Fault Unit} (ends : ending = .ok () ∨ ending = .error .panic) :
          (ending = .ok () ∨ ending = .error .panic) ∧
            ∀ call ∈ calls ++ [], CallKind.write.Puts [.ofInt32 Descriptor.complaints] call :=
        ⟨ends, by rwa [List.append_nil]⟩
      cases result with
      | error error => exact .pure (stops (.inl rfl))
      | ok count =>
        dsimp only
        split
        · exact .pure (stops (.inl rfl))
        · split
          · exact .fault (stops (.inr rfl))
          · split
            · exact .pure (stops (.inl rfl))
            · refine (step _ (by rw [List.length_drop]; omega) _ rfl).mono ?_
              rintro more outcome next ⟨ends, later⟩
              exact ⟨ends, fun call member => (List.mem_append.mp member).elim (puts call) (later call)⟩
    · rintro _ _ _ ⟨_, failed, -⟩
      contradiction

/-- Complaining and exiting are the last calls, unless an answer or the log makes the program panic. -/
theorem traces_die {α : Type} (context : String) (error : Errno) {machine : Machine} :
    (die context error : Sys α).Traces machine fun calls outcome _ =>
      outcome = .error .panic ∨ outcome = .error (.exit 1) ∧ IsFarewell calls := by
  apply (traces_push (Bytes.ofText (line context error))).bind
  · rintro writes _ middle ⟨-, puts⟩
    exact .perform_bind_of_exit rfl fun _ => .inr ⟨rfl, writes, rfl, puts⟩
  · rintro _ reason _ ⟨ended | panicked, -⟩
    · contradiction
    · exact .inl (congrArg Except.error (Except.error.inj panicked))

end Complaint

namespace Probe

open Complaint (IsFarewell)

/-- A task is carried out with some calls from a machine on, and it fails with others. -/
structure Task where
  passes : Machine → List Event → Prop
  fails : Machine → List Event → Prop
  /-- The calls decide which of both it is. -/
  apart : ∀ machine calls, calls ≠ [] → passes machine calls → ¬ fails machine calls

/-- What a plan is made of. -/
inductive Item
  | task (task : Task)
  | report (kind : List String → Prop)

/-- The calls that make a report are writes to the standard output, each of which accepts some bytes. -/
def Tells (calls : List Event) : Prop := ∀ call ∈ calls, Descriptor.Accepts Descriptor.output call

/-- A plan is completed: its tasks are carried out and its reports are made, in order. -/
inductive Completes : List Item → Machine → List (List String) → List Event → Machine → Prop
  | nothing (machine : Machine) : Completes [] machine [] [] machine
  | task {task : Task} {plan : List Item} {told : List (List String)} {calls more : List Event}
      {machine middle last : Machine} (passes : task.passes machine calls) (makes : machine.Makes calls middle)
      (rest : Completes plan middle told more last) : Completes (.task task :: plan) machine told (calls ++ more) last
  | report {kind : List String → Prop} {texts : List String} {plan : List Item} {told : List (List String)}
      {calls more : List Event} {machine middle last : Machine} (fits : kind texts) (tells : Tells calls)
      (makes : machine.Makes calls middle) (rest : Completes plan middle told more last) :
      Completes (.report kind :: plan) machine (texts :: told) (calls ++ more) last

/-- A plan breaks at a task that fails. What comes before it is done, and nothing of what comes after it is. -/
inductive Breaks : List Item → Machine → List (List String) → List Event → Prop
  | failed {task : Task} {plan : List Item} {calls : List Event} {machine : Machine}
      (fails : task.fails machine calls) : Breaks (.task task :: plan) machine [] calls
  | task {task : Task} {plan : List Item} {told : List (List String)} {calls more : List Event}
      {machine middle : Machine} (passes : task.passes machine calls) (makes : machine.Makes calls middle)
      (rest : Breaks plan middle told more) : Breaks (.task task :: plan) machine told (calls ++ more)
  | report {kind : List String → Prop} {texts : List String} {plan : List Item} {told : List (List String)}
      {calls more : List Event} {machine middle : Machine} (fits : kind texts) (tells : Tells calls)
      (makes : machine.Makes calls middle) (rest : Breaks plan middle told more) :
      Breaks (.report kind :: plan) machine (texts :: told) (calls ++ more)

variable {plan more : List Item} {told later : List (List String)} {calls others : List Event}
  {first middle last : Machine}

/-- A plan of one task is completed by the calls that carry the task out. -/
theorem Completes.single {task : Task} (passes : task.passes first calls) (makes : first.Makes calls last) :
    Completes [.task task] first [] calls last := by
  have done := Completes.task passes makes (.nothing last)
  rwa [List.append_nil] at done

/-- A plan of one report is completed by the calls that make it. -/
theorem Completes.reported {kind : List String → Prop} {texts : List String} (fits : kind texts) (tells : Tells calls)
    (makes : first.Makes calls last) : Completes [.report kind] first [texts] calls last := by
  have done := Completes.report fits tells makes (.nothing last)
  rwa [List.append_nil] at done

theorem Completes.trans (head : Completes plan first told calls middle)
    (tail : Completes more middle later others last) :
    Completes (plan ++ more) first (told ++ later) (calls ++ others) last := by
  induction head with
  | nothing => exact tail
  | task passes makes _ step =>
    rw [List.append_assoc]
    exact .task passes makes (step tail)
  | report fits tells makes _ step =>
    rw [List.append_assoc]
    exact .report fits tells makes (step tail)

/-- A plan breaks after what is completed. -/
theorem Completes.breaks (head : Completes plan first told calls middle) (tail : Breaks more middle later others) :
    Breaks (plan ++ more) first (told ++ later) (calls ++ others) := by
  induction head with
  | nothing => exact tail
  | task passes makes _ step =>
    rw [List.append_assoc]
    exact .task passes makes (step tail)
  | report fits tells makes _ step =>
    rw [List.append_assoc]
    exact .report fits tells makes (step tail)

/-- What would have followed a broken plan is not done. -/
theorem Breaks.before (breaks : Breaks plan first told calls) (more : List Item) :
    Breaks (plan ++ more) first told calls := by
  induction breaks with
  | failed fails => exact .failed fails
  | task passes makes _ step => exact .task passes makes step
  | report fits tells makes _ step => exact .report fits tells makes step

section Runs

variable {σ ρ α β : Type} [HasMachine σ]

/--
How a run ends that is to carry a plan out, in the light of the reports in its state. A value comes of the completed
plan, and where the plan breaks, an error is reported if that may be, or the program takes its leave. Only an unfair
answer to a report comes before that.
-/
def Ended (record : σ → List (List String)) (mayFail : Prop) (plan : List Item) (after : σ → Prop) (state : σ)
    (calls : List Event) (outcome : Except Fault α) (next : σ) : Prop :=
  match outcome with
  | .ok _ => after next ∧ ∃ told, record next = record state ++ told ∧
      Completes plan (machine state) told calls (machine next)
  | .error (.errno _) => mayFail ∧ ∃ told, record next = record state ++ told ∧ Breaks plan (machine state) told calls
  | .error (.exit status) => (∃ call ∈ calls, ¬ call.IsFair) ∨ status = 1 ∧ ∃ told broken farewell,
      record next = record state ++ told ∧ calls = broken ++ farewell ∧ Breaks plan (machine state) told broken ∧
        IsFarewell farewell
  | .error .panic => True

/-- A run carries a plan out, or it ends where the plan breaks. -/
def CarriesOut (record : σ → List (List String)) (mayFail : Prop) (before : σ → Prop) (plan : List Item)
    (after : σ → Prop) (act : Act σ α) : Prop :=
  ∀ state, before state → act.Traces state (Ended record mayFail plan after state)

variable {record : σ → List (List String)} {mayFail : Prop} {before after after' : σ → Prop}

/-- What comes after a completed plan ends both. -/
theorem Ended.follows {state middle next : σ} {outcome : Except Fault α}
    (same : record middle = record state ++ told) (head : Completes plan (machine state) told calls (machine middle))
    (tail : Ended record mayFail more after middle others outcome next) :
    Ended record mayFail (plan ++ more) after state (calls ++ others) outcome next := by
  rcases outcome with (error | _ | status) | value
  · obtain ⟨fails, later, grown, breaks⟩ := tail
    exact ⟨fails, told ++ later, by rw [grown, same, List.append_assoc], head.breaks breaks⟩
  · exact trivial
  · rcases tail with ⟨call, member, unfair⟩ | ⟨code, later, broken, farewell, grown, rfl, breaks, left⟩
    · exact .inl ⟨call, List.mem_append_right _ member, unfair⟩
    · exact .inr ⟨code, told ++ later, calls ++ broken, farewell, by rw [grown, same, List.append_assoc],
        (List.append_assoc _ _ _).symm, head.breaks breaks, left⟩
  · obtain ⟨holds, later, grown, completes⟩ := tail
    exact ⟨holds, told ++ later, by rw [grown, same, List.append_assoc], head.trans completes⟩

/-- An exit ends a longer plan, too. -/
theorem Ended.exited {mayFail' : Prop} {state next : σ} {status : UInt64}
    (ended : Ended record mayFail plan after state calls (.error (.exit status) : Except Fault α) next)
    (more : List Item) :
    Ended record mayFail' (plan ++ more) after' state calls (.error (.exit status) : Except Fault β) next := by
  refine ended.imp_right ?_
  rintro ⟨code, told, broken, farewell, grown, rfl, breaks, left⟩
  exact ⟨code, told, broken, farewell, grown, rfl, breaks.before more, left⟩

namespace CarriesOut

/-- What holds before a run may be said more strongly, and what holds after it more weakly. -/
theorem mono {before' : σ → Prop} {act : Act σ α} (carries : CarriesOut record mayFail before plan after act)
    (assumed : ∀ state, before' state → before state) (weaker : ∀ state, after state → after' state) :
    CarriesOut record mayFail before' plan after' act := by
  intro state holds
  refine (carries state (assumed state holds)).mono ?_
  rintro calls ((error | _ | status) | value) next ended
  · exact ended
  · exact ended
  · exact ended
  · exact ⟨weaker next ended.1, ended.2⟩

/-- An action that leaves the state as it is and gives a value carries the empty plan out. -/
theorem of_still {act : Act σ α} (still : ∀ state, before state → ∃ value, act state = (.ok value, state)) :
    CarriesOut record mayFail before [] before act := by
  intro state holds
  obtain ⟨value, same⟩ := still state holds
  exact .of_eq same (.nothing _) ⟨holds, [], (List.append_nil _).symm, .nothing _⟩

/-- An action whose calls carry a task out or fail with it carries the plan of that task out. -/
theorem of_traces {task : Task} {act : Act σ α}
    (traces : ∀ state, before state → act.Traces state fun calls outcome next => record next = record state ∧
      match outcome with
      | .ok _ => after next ∧ task.passes (machine state) calls
      | .error (.errno _) => mayFail ∧ task.fails (machine state) calls
      | .error (.exit _) => False
      | .error .panic => True) : CarriesOut record mayFail before [.task task] after act := by
  intro state holds
  refine (traces state holds).made.mono ?_
  rintro calls ((error | _ | status) | value) next ⟨makes, same, ended⟩
  · exact ⟨ended.1, [], by rw [same, List.append_nil], .failed ended.2⟩
  · exact trivial
  · exact ended.elim
  · exact ⟨ended.1, [], by rw [same, List.append_nil], .single ended.2 makes⟩

/-- What is decided on before all calls fails with the first task or goes on with the plan. -/
theorem ofExcept_bind {task : Task} {result : Except Errno α} {second : α → Act σ β}
    (rejected : ∀ error, result = .error error → mayFail ∧ ∀ first, task.fails first [])
    (onwards : ∀ value, result = .ok value →
      CarriesOut record mayFail before (.task task :: plan) after (second value)) :
    CarriesOut record mayFail before (.task task :: plan) after (Act.ofExcept result >>= second) := by
  intro state holds
  apply Traces.ofExcept_bind
  · intro error failed
    obtain ⟨fails, first⟩ := rejected error failed
    exact ⟨fails, [], (List.append_nil _).symm, .failed (first _)⟩
  · intro value fine
    exact onwards value fine state holds

/-- What holds after a run may be what it is known to do. -/
theorem known {act : Act σ α} (carries : CarriesOut record mayFail before plan after act)
    (knows : ∀ state value next, before state → act state = (.ok value, next) → after next → after' next) :
    CarriesOut record mayFail before plan after' act := by
  intro state holds
  refine (carries state holds).known.mono ?_
  rintro calls ((error | _ | status) | value) next ⟨same, ended⟩
  · exact ended
  · exact ended
  · exact ended
  · exact ⟨knows state value next holds same ended.1, ended.2⟩

theorem pure {value : α} : CarriesOut record mayFail before [] before (Pure.pure value : Act σ α) :=
  of_still fun _ _ => ⟨value, rfl⟩

theorem bind {first : Act σ α} {second : α → Act σ β} (head : CarriesOut record mayFail before plan after first)
    (tail : ∀ value, CarriesOut record mayFail after more after' (second value)) :
    CarriesOut record mayFail before (plan ++ more) after' (first >>= second) := by
  intro state holds
  apply (head state holds).bind
  · rintro calls value middle ⟨goes, told, grown, completes⟩
    exact (tail value middle goes).mono fun _ _ _ ended => ended.follows grown completes
  · rintro calls (error | _ | status) next ended
    · obtain ⟨fails, told, grown, breaks⟩ := ended
      exact ⟨fails, told, grown, breaks.before more⟩
    · exact trivial
    · exact Ended.exited ended more

theorem bind_pure {first : Act σ α} {value : α → β} (head : CarriesOut record mayFail before plan after first) :
    CarriesOut record mayFail before plan after (first >>= fun given => Pure.pure (value given)) := by
  have both : CarriesOut record mayFail before (plan ++ []) after (first >>= fun given => Pure.pure (value given)) :=
    head.bind fun _ => .pure
  rwa [List.append_nil] at both

theorem map {act : Act σ α} {change : α → β} (head : CarriesOut record mayFail before plan after act) :
    CarriesOut record mayFail before plan after (change <$> act) := by
  rw [← bind_pure_comp]
  exact head.bind_pure

theorem get_bind {second : σ → Act σ β}
    (tail : ∀ state, CarriesOut record mayFail before plan after (second state)) :
    CarriesOut record mayFail before plan after (Act.get >>= second) := fun state holds =>
  .get_bind (tail state state holds)

/-- An error at which the program takes its leave ends the run where the plan breaks. -/
theorem attempt_bind {act : Act σ α} {second : Except Errno α → Act σ β}
    (head : CarriesOut record True before plan after act)
    (goes : ∀ value, CarriesOut record mayFail after more after' (second (.ok value)))
    (dies : ∀ error state, (second (.error error)).Traces state fun calls outcome next => outcome = .error .panic ∨
      outcome = .error (.exit 1) ∧ record next = record state ∧ IsFarewell calls) :
    CarriesOut record mayFail before (plan ++ more) after' (act.attempt >>= second) := by
  intro state holds
  apply (head state holds).attempt_bind
  · rintro calls value middle ⟨fine, told, grown, completes⟩
    exact (goes value middle fine).mono fun _ _ _ ended => ended.follows grown completes
  · rintro calls error middle ⟨-, told, grown, breaks⟩
    refine (dies error middle).mono ?_
    rintro farewell _ next (rfl | ⟨rfl, same, left⟩)
    · exact trivial
    · exact .inr ⟨rfl, told, calls, farewell, same.trans grown, rfl, breaks.before more, left⟩
  · exact fun _ _ _ => trivial
  · intro calls status next ended
    exact Ended.exited ended more

/-- What follows an outcome goes on with the plan after a value, and it only tidies up after a panic. -/
theorem outcome_bind {act : Act σ α} {second : Except Fault α → Act σ β}
    (head : CarriesOut record False before plan after act)
    (goes : ∀ value, CarriesOut record mayFail after more after' (second (.ok value)))
    (exits : ∀ status, second (.error (.exit status)) = Act.fault (.exit status))
    (panics : ∀ state, (second (.error .panic)).Traces state fun _ outcome _ => outcome = .error .panic) :
    CarriesOut record mayFail before (plan ++ more) after' (act.outcome >>= second) := by
  intro state holds
  apply (head state holds).outcome_bind
  · rintro calls ((error | _ | status) | value) middle ended
    · exact ended.1.elim
    · refine (panics middle).mono ?_
      rintro others _ next rfl
      exact trivial
    · rw [exits]
      apply Traces.fault
      rw [List.append_nil]
      exact Ended.exited ended more
    · obtain ⟨fine, told, grown, completes⟩ := ended
      exact (goes value middle fine).mono fun _ _ _ ended => ended.follows grown completes
  · intro middle
    rcases panics middle with ⟨_, _, panicked⟩ | ⟨panicked, _⟩ <;> exact panicked

/-- What a run used is released after a value, which carries the rest of the plan out. -/
theorem releasing {release : Act σ Unit} {body : Act σ α} (head : CarriesOut record False before plan after body)
    (tail : CarriesOut record False after more after' release)
    (panics : ∀ state, (release >>= fun _ => Act.fault .panic : Act σ α).Traces state
      fun _ outcome _ => outcome = .error .panic) :
    CarriesOut record False before (plan ++ more) after' (Act.releasing release body) :=
  head.outcome_bind (fun _ => tail.bind_pure) (fun _ => rfl) panics

end CarriesOut

end Runs

namespace CarriesOut

variable {ρ α β : Type} {mayFail : Prop}

/-- A call carries a plan out from any machine on, without a report. -/
abbrev Alone (mayFail : Prop) (plan : List Item) (act : Sys α) : Prop :=
  CarriesOut (fun _ => []) mayFail (fun _ => True) plan (fun _ => True) act

theorem lift {record : ρ × Machine → List (List String)} {holds : ρ × Machine → Prop} {act : Sys α}
    (alone : Alone mayFail plan act) (kept : ∀ own first last, record (own, last) = record (own, first))
    (stays : ∀ own first last, holds (own, first) → holds (own, last)) :
    CarriesOut record mayFail holds plan holds (liftM act : Act (ρ × Machine) α) := by
  rintro ⟨own, machine⟩ before
  apply Traces.lift
  refine (alone machine trivial).mono ?_
  have same (next : Machine) : record (own, next) = record (own, machine) ++ [] := by
    rw [kept own machine, List.append_nil]
  rintro calls ((error | _ | status) | value) next ended
  · obtain ⟨fails, told, none, breaks⟩ := ended
    cases none
    exact ⟨fails, [], same next, breaks⟩
  · exact trivial
  · refine ended.imp_right ?_
    rintro ⟨code, told, broken, farewell, none, rfl, breaks, left⟩
    cases none
    exact ⟨code, [], broken, farewell, same next, rfl, breaks, left⟩
  · obtain ⟨-, told, none, completes⟩ := ended
    cases none
    exact ⟨stays own machine next before, [], same next, completes⟩

/-- A call that ends the program with its error never reports it. -/
theorem orDie {act : Sys α} (alone : Alone True plan act) (context : String) :
    Alone False plan (Complaint.orDie act context) := by
  have both : Alone False (plan ++ []) (Complaint.orDie act context) :=
    alone.attempt_bind (fun _ => .pure) fun error _ => (Complaint.traces_die context error).mono
      fun _ _ _ died => died.imp_right fun left => ⟨left.1, rfl, left.2⟩
  rwa [List.append_nil] at both

/-- An error at which the program takes its leave is the last of what it does. -/
theorem dying {record : ρ × Machine → List (List String)} {before after : ρ × Machine → Prop}
    {act : Act (ρ × Machine) α} {second : Except Errno α → Act (ρ × Machine) β} {context : String}
    (carries : CarriesOut record True before plan after act)
    (kept : ∀ own first last, record (own, last) = record (own, first))
    (fine : ∀ value, ∃ given, second (.ok value) = Pure.pure given)
    (dies : ∀ error, second (.error error) = liftM (Complaint.die context error : Sys β)) :
    CarriesOut record False before plan after (act.attempt >>= second) := by
  rw [← List.append_nil plan]
  refine carries.attempt_bind (fun value => ?_) fun error state => ?_
  · obtain ⟨given, same⟩ := fine value
    rw [same]
    exact .pure
  · rw [dies]
    exact .lift <| (Complaint.traces_die context error).mono
      fun _ _ _ died => died.imp_right fun left => ⟨left.1, kept _ _ _, left.2⟩

/-- A release that gives a value leaves a panic a panic. -/
theorem traces_release_panic {release : Sys Unit}
    (fine : ∀ machine, release.Traces machine fun _ outcome _ => outcome = .ok ())
    (rest : α → Act (ρ × Machine) β) (state : ρ × Machine) :
    (liftM release >>= fun _ => Act.fault .panic >>= rest : Act (ρ × Machine) β).Traces state
      fun _ outcome _ => outcome = .error .panic := by
  have released : (liftM release : Act (ρ × Machine) Unit).Traces state fun _ outcome _ => outcome = .ok () :=
    .lift (fine state.2)
  apply released.bind
  · intro _ _ _ _
    exact .fault rfl
  · intros
    contradiction

end CarriesOut

end Probe

end LinuxCalls
