/-
This file shows that guards own their descriptors. Over every run of a session, what guards have ever
acquired is what they still have, what they gave up and what they closed, and a close is a guard's last call.
-/

import LinuxCalls.Proofs.Log.Transparency
import LinuxCalls.Proofs.Ownership.Lives
import LinuxCalls.Proofs.Ownership.StreamSteps

namespace LinuxCalls

namespace StepAnswer

/-- The descriptors that were closed on the way to an answer, in order. -/
def closed (answer : StepAnswer) : List Descriptor := answer.questions.filterMap Question.closed?

/-- The questions that asked for descriptors on the way to an answer, in order. -/
def openings (answer : StepAnswer) : List Question := answer.questions.filter Question.isOpening

end StepAnswer

namespace Step

/-- The descriptors that guards have acquired in a step. -/
def gains (step : Step) (answer : StepAnswer) : List Descriptor :=
  match answer.ending with
  | .report report => step.acquired report
  | _ => []

/-- The descriptors that guards have given up in a step without closing them. -/
def losses (step : Step) (answer : StepAnswer) : List Descriptor :=
  match answer.ending with
  | .report report => step.givenUp report
  | _ => []

end Step

/-- A view of questions that writes have no part in is the same without the complaints. -/
theorem Question.filterMap_withoutComplaints {β : Type} {view : Question → Option β}
    (blind : ∀ request : Request, request.number = CallKind.write.number → view (.kernel request) = none)
    (questions : List Question) : (withoutComplaints questions).filterMap view = questions.filterMap view := by
  unfold withoutComplaints
  rw [List.filterMap_filter]
  apply List.filterMap_congr
  intro question _
  cases complains : question.isComplaint with
  | false => rfl
  | true =>
    cases question with
    | runtime name registers => contradiction
    | kernel request =>
      have both : (request.number == CallKind.write.number && request.register 0 == 2) = true := complains
      simp only [Bool.and_eq_true, beq_iff_eq] at both
      exact (blind request both.1).symm

namespace Session

variable {session : Session}

section Questions

variable {next : Session} {calls : List Event}

/-- Beside the complaints, the questions of a step are those of its calls. -/
theorem withoutComplaints_questionsSince (makes : session.machine.Makes calls next.machine) :
    Question.withoutComplaints (questionsSince session next) =
      Question.withoutComplaints (calls.map Event.question) := by
  obtain ⟨added, joined⟩ := makes.grown
  have asked := makes.asked_eq
  rw [← joined, Event.withoutComplaints, List.filter_append] at asked
  have same : Event.withoutComplaints added = (Event.withoutComplaints calls).reverse :=
    List.append_cancel_right asked
  calc Question.withoutComplaints (questionsSince session next)
    _ = (Question.withoutComplaints (added.map Event.question)).reverse := by
      rw [questionsSince_of_append joined, Question.withoutComplaints, List.filter_reverse]
      rfl
    _ = ((Event.withoutComplaints added).map Event.question).reverse := by
      rw [Event.map_question_withoutComplaints]
    _ = Question.withoutComplaints (calls.map Event.question) := by
      rw [same, List.map_reverse, List.reverse_reverse, Event.map_question_withoutComplaints]

/-- The questions of a step show what its calls do if writes have no part in it. -/
theorem filterMap_questionsSince {β : Type} {view : Question → Option β}
    (blind : ∀ request : Request, request.number = CallKind.write.number → view (.kernel request) = none)
    (makes : session.machine.Makes calls next.machine) :
    (questionsSince session next).filterMap view = (calls.map Event.question).filterMap view := by
  rw [← Question.filterMap_withoutComplaints blind, withoutComplaints_questionsSince makes,
    Question.filterMap_withoutComplaints blind]

/-- The questions of a step close what its calls close. -/
theorem closed_of_makes (makes : session.machine.Makes calls next.machine) :
    (questionsSince session next).filterMap Question.closed? = Event.closes calls := by
  have other : CallKind.write.number ≠ CallKind.close.number := by decide
  rw [filterMap_questionsSince (fun _ writes => if_neg (writes ▸ other)) makes, List.filterMap_map]
  rfl

/-- The questions of a step ask for descriptors where its calls open some. -/
theorem openings_of_makes (makes : session.machine.Makes calls next.machine) :
    (questionsSince session next).filter Question.isOpening = (Event.openings calls).map Event.question := by
  have blind (request : Request) (writes : request.number = CallKind.write.number) :
      Option.guard Question.isOpening (.kernel request) = none := by
    have plain : (Question.kernel request).isOpening = false := by
      rw [Question.isOpening, writes]
      rfl
    simp [Option.guard, plain]
  rw [← List.filterMap_eq_filter, filterMap_questionsSince blind makes, List.filterMap_eq_filter, List.filter_map]
  rfl

/-- A step that reports makes the calls that it traces. -/
theorem exists_makes_of_report {step : Step} {spec : List Event → Except Fault Report → Session → Prop}
    (traces : step.run.Traces session spec) {report : Report}
    (reported : (session.runStep step).1.ending = .report report) :
    ∃ calls, session.machine.Makes calls (session.runStep step).2.machine ∧
      spec calls (step.run session).1 (session.runStep step).2 := by
  rcases traces with traced | ⟨panicked, -⟩
  · exact traced
  · have ended : (session.runStep step).1.ending = .panicked := congrArg endingOf panicked
    rw [ended] at reported
    contradiction

end Questions

/-- A step that reports is accounted for by the calls that it makes, and its questions show what they close. -/
theorem runStep_accounted {step : Step} (owning : step.IsOwning) (sound : session.Sound) {report : Report}
    (reported : (session.runStep step).1.ending = .report report) :
    ∃ calls, session.machine.Makes calls (session.runStep step).2.machine ∧
      step.Accounted report session calls (session.runStep step).2 ∧
      (session.runStep step).1.closed = Event.closes calls ∧
      (session.runStep step).1.openings = (Event.openings calls).map Event.question := by
  obtain ⟨calls, makes, accounts⟩ := exists_makes_of_report (step.traces_run owning sound) reported
  exact ⟨calls, makes, accounts report reported, closed_of_makes makes, openings_of_makes makes⟩

/-- The descriptors that guards have acquired in the steps of a run, in order. -/
def gains (steps : List Step) (answers : List StepAnswer) : List Descriptor :=
  (steps.zip answers).flatMap fun entry => entry.1.gains entry.2

/-- The descriptors that guards have given up in the steps of a run, in order. -/
def losses (steps : List Step) (answers : List StepAnswer) : List Descriptor :=
  (steps.zip answers).flatMap fun entry => entry.1.losses entry.2

/-- All steps report: none of them panics, and none exits. -/
def AllReport (answers : List StepAnswer) : Prop := ∀ answer ∈ answers, ∃ report, answer.ending = .report report

/-- An ending tells whether there is a report. -/
instance (answer : StepAnswer) : Decidable (∃ report, answer.ending = .report report) :=
  match answer with
  | ⟨.report report, _⟩ => isTrue ⟨report, rfl⟩
  | ⟨.panicked, _⟩ => isFalse nofun
  | ⟨.exited _, _⟩ => isFalse nofun

instance (answers : List StepAnswer) : Decidable (AllReport answers) :=
  inferInstanceAs (Decidable (∀ answer ∈ answers, ∃ report, answer.ending = .report report))

/-- Where all steps report, the first one does, and the others go on from where it has ended. -/
theorem AllReport.first {step : Step} {rest : List Step} (reported : AllReport (session.runSteps (step :: rest)).1) :
    ∃ report, (session.runStep step).1.ending = .report report ∧
      AllReport ((session.runStep step).2.runSteps rest).1 := by
  rcases reported_or_ended (session.runStep step).1 with ⟨report, first⟩ | ended
  · rw [runSteps_of_report first] at reported
    exact ⟨report, first, fun answer member => reported answer (List.mem_cons_of_mem _ member)⟩
  · rw [runSteps_of_end ended] at reported
    obtain ⟨report, first⟩ := reported _ List.mem_cons_self
    exact absurd first (ended report)

/-- Where all steps report, the later ones go on from where the earlier ones have ended. -/
theorem AllReport.split {earlier later : List Step} (reported : AllReport (session.runSteps (earlier ++ later)).1) :
    AllReport (session.runSteps earlier).1 ∧ AllReport ((session.runSteps earlier).2.runSteps later).1 := by
  induction earlier generalizing session with
  | nil => exact ⟨nofun, reported⟩
  | cons step rest onwards =>
    obtain ⟨report, first, others⟩ := reported.first
    obtain ⟨head, tail⟩ := onwards others
    rw [runSteps_of_report first]
    refine ⟨fun answer member => ?_, tail⟩
    rcases List.mem_cons.mp member with rfl | member
    · exact ⟨report, first⟩
    · exact head answer member

/-- The accounts of a run are those of its steps in a row. -/
theorem runSteps_accounted {steps : List Step} (owning : ∀ step ∈ steps, step.IsOwning) (sound : session.Sound)
    (reported : AllReport (session.runSteps steps).1) :
    let run := session.runSteps steps
    ∃ calls gained, session.machine.Makes calls run.2.machine ∧ run.2.Sound ∧
      Balance session.live calls gained (losses steps run.1) run.2.live ∧
      gains steps run.1 = gained.flatMap Gain.descriptors ∧
      run.1.flatMap StepAnswer.closed = Event.closes calls := by
  induction steps generalizing session with
  | nil => exact ⟨[], [], .nothing _, sound, .even, rfl, rfl⟩
  | cons step rest later =>
    obtain ⟨report, first, others⟩ := reported.first
    obtain ⟨calls, makes, accounted, closed, -⟩ := runStep_accounted (owning step List.mem_cons_self) sound first
    obtain ⟨more, gained, makes', sound', balance, acquired, closed'⟩ :=
      later (fun step member => owning step (List.mem_cons_of_mem _ member)) accounted.sound others
    rw [runSteps_of_report first]
    refine ⟨calls ++ more, step.gained session ++ gained, makes.trans makes', sound', ?_, ?_, ?_⟩
    · have joined := accounted.balance.trans balance
      simpa [losses, Step.losses, first] using joined
    · rw [List.flatMap_append, ← accounted.acquired, ← acquired]
      simp [gains, Step.gains, first]
    · rw [List.flatMap_cons, closed, closed', Event.closes_append]

end Session

open Session

/--
A step keeps ownership in order. Its gains and losses account for what lives and for what it closes. It acquires
exactly what it takes over or what the kernel gives it, it asks for descriptors as its acquisition says and not
otherwise, and an error is reported. A success acquires what the step is for, a step that only borrows guards or
fails to make one changes nothing, and a guard that is closed or dropped is gone from its slot after one close.
-/
structure Step.KeepsOwnership (step : Step) (before : Session) : Prop where
  balanced : before.live + step.gains (before.runStep step).1 =
    (before.runStep step).2.live + step.losses (before.runStep step).1 + (before.runStep step).1.closed
  acquired : step.gains (before.runStep step).1 =
    (step.acquisition? before).elim [] (Acquisition.descriptors before.machine)
  asked : (before.runStep step).1.openings = (step.acquisition? before).elim [] Acquisition.questions
  refused : ∀ acquisition error, step.acquisition? before = some acquisition →
    acquisition.result before.machine = .error error →
      (before.runStep step).1.ending = .report (.ofFailure (.errno error))
  counted : ∀ value details, (before.runStep step).1.ending = .report ⟨.ok value, details⟩ →
    (step.gains (before.runStep step).1).length = step.count
  spared : ∀ report, (before.runStep step).1.ending = .report report → step.Spares report →
    step.gains (before.runStep step).1 = [] ∧ step.losses (before.runStep step).1 = [] ∧
      (before.runStep step).1.closed = [] ∧ (before.runStep step).2.live = before.live
  ended : ∀ slot guard, step = .guard (.close slot) ∨ step = .guard (.drop slot) →
    before.guards.get? slot = some guard → (before.runStep step).1.closed = [guard.descriptor] ∧
      (before.runStep step).2.guards.get? slot = none

/-- A step that spares all guards acquires nothing and gives nothing up. -/
theorem Step.Spares.nothing {step : Step} {report : Report} (spares : step.Spares report) :
    step.acquired report = [] ∧ step.givenUp report = [] := by
  cases step with
  | guard step =>
    rcases spares with ⟨borrows, keeps⟩ | ⟨-, failure, failed⟩
    · have holds : step.givesUp = false := by
        cases step <;> first | rfl | contradiction
      simp [Step.acquired, borrows, Step.givenUp, holds]
    · have none : report.descriptors = [] := by simp [Report.descriptors, failed]
      simp [Step.acquired, Step.givenUp, none]
  | _ => exact ⟨rfl, rfl⟩

namespace Session

variable {session : Session}

/-- A step that closes the guard in a slot makes one call, and the slot is empty after it. -/
theorem closed_of_end {slot : String} {guard : Guard} {step : Step}
    (ends : step = .guard (.close slot) ∨ step = .guard (.drop slot))
    (found : session.guards.get? slot = some guard) {report : Report}
    (reported : (session.runStep step).1.ending = .report report) :
    (session.runStep step).1.closed = [guard.descriptor] ∧ (session.runStep step).2.guards.get? slot = none := by
  have consumed : step.run.Traces session fun calls _ next => ∃ word machine,
      calls = [(Descriptor.closing guard.descriptor).answered word] ∧
        next = { session with guards := session.guards.erase slot, machine := machine } := by
    rcases ends with rfl | rfl
    · exact GuardStep.traces_consumed found (GuardStep.traces_close guard)
    · exact GuardStep.traces_consumed found (GuardStep.traces_drop guard)
  obtain ⟨_, makes, word, machine, rfl, moved⟩ := exists_makes_of_report consumed reported
  refine ⟨(closed_of_makes makes).trans (Event.closes_closing _ word), ?_⟩
  rw [moved]
  exact Slots.get?_erase_self _ _

/-- The gains of a step hold the questions that its acquisition asks. -/
theorem map_question_openings {step : Step} {calls : List Event} {lost : List Descriptor}
    {last : Multiset Descriptor} (balance : Balance session.live calls (step.gained session) lost last) :
    (Event.openings calls).map Event.question = (step.acquisition? session).elim [] Acquisition.questions := by
  rw [balance.openings_eq, Step.gained]
  cases step.acquisition? session with
  | none => rfl
  | some acquisition =>
    rw [Option.elim_some, Option.elim_some, Acquisition.filterMap_gains, Acquisition.map_question_calls]

/-- The gains of a step are the descriptors that its acquisition acquires. -/
theorem flatMap_gained (step : Step) : (step.gained session).flatMap Gain.descriptors =
    (step.acquisition? session).elim [] (Acquisition.descriptors session.machine) := by
  rw [Step.gained]
  cases step.acquisition? session with
  | none => rfl
  | some acquisition => exact Acquisition.flatMap_gains

/-- Every step of a sound session that reports keeps ownership in order. -/
theorem keepsOwnership {step : Step} (owning : step.IsOwning) (sound : session.Sound) {report : Report}
    (reported : (session.runStep step).1.ending = .report report) : step.KeepsOwnership session := by
  obtain ⟨calls, makes, accounted, closed, opened⟩ := runStep_accounted owning sound reported
  have gains : step.gains (session.runStep step).1 = step.acquired report := by rw [Step.gains, reported]
  have losses : step.losses (session.runStep step).1 = step.givenUp report := by rw [Step.losses, reported]
  have ledger := accounted.balance.ledger
  rw [← accounted.acquired, ← gains, ← losses, ← closed] at ledger
  refine ⟨ledger, ?_, ?_, ?_, ?_, ?_, ?_⟩
  · rw [gains, accounted.acquired, flatMap_gained]
  · rw [opened, map_question_openings accounted.balance]
  · intro acquisition error planned failed
    rw [reported, accounted.refused acquisition error planned failed]
  · intro value details fine
    rw [reported] at fine
    cases fine
    rw [gains]
    exact accounted.counted value rfl
  · intro other same spares
    rw [reported] at same
    cases same
    obtain ⟨none, none'⟩ := spares.nothing
    have quiet : (session.runStep step).1.closed = [] := closed.trans (accounted.spared spares)
    rw [gains, losses, none, none', quiet] at ledger
    exact ⟨gains.trans none, losses.trans none', quiet, by simpa using ledger.symm⟩
  · exact fun slot guard ends found => closed_of_end ends found reported

/--
Guards own their descriptors. Take any run of steps on guards and on streams over guards in which no step
panics or exits, whatever the kernel answers. Then the descriptors that guards have ever acquired are those
of the guards that live, those that were given up and those that were closed. What they have acquired is what
they took over and what the kernel gave with its answers to all the calls that open descriptors. Every guard has
a life in which all of its calls use its descriptor, and if it is closed, then once and by its last call. And
every step of the run keeps ownership in order by itself.
-/
theorem ownership_balances (script : Script) (threshold : Threshold) {steps : List Step}
    (owning : ∀ step ∈ steps, step.IsOwning) (reported : AllReport ((start script threshold).runSteps steps).1) :
    let run := (start script threshold).runSteps steps
    (gains steps run.1 : Multiset Descriptor) =
        run.2.live + losses steps run.1 + run.1.flatMap StepAnswer.closed ∧
      (∃ lives calls gained, (Machine.start script threshold).Makes calls run.2.machine ∧
        run.1.flatMap StepAnswer.closed = Event.closes calls ∧
        Gain.Tells gained calls (gains steps run.1) ∧
        Explains lives calls (gains steps run.1) (losses steps run.1) run.2.live ∧
        ∀ life ∈ lives, Event.closes life.calls = if life.isClosed then [life.descriptor] else []) ∧
      ∀ earlier step later, steps = earlier ++ step :: later →
        step.KeepsOwnership ((start script threshold).runSteps earlier).2 := by
  intro run
  have sound := sound_start script threshold
  obtain ⟨calls, gained, makes, -, balance, acquired, closed⟩ := runSteps_accounted owning sound reported
  refine ⟨?_, ?_, ?_⟩
  · have ledger := balance.ledger
    rw [live_start, zero_add, ← closed, ← acquired] at ledger
    exact ledger
  · obtain ⟨lives, explains⟩ := balance.exists_lives
    rw [← acquired] at explains
    exact ⟨lives, calls, gained, makes, closed, ⟨acquired.symm, balance.openings_eq, balance.isGiven⟩, explains,
      fun life _ => life.closes_calls⟩
  · rintro earlier step later rfl
    obtain ⟨first, last⟩ := reported.split
    obtain ⟨report, here, -⟩ := last.first
    have before : ∀ step ∈ earlier, step.IsOwning := fun step member => owning step (List.mem_append_left _ member)
    obtain ⟨_, _, _, sound, _⟩ := runSteps_accounted before sound first
    exact keepsOwnership (owning step (List.mem_append_right _ List.mem_cons_self)) sound here

/--
A duplicate is moved into a writer, which is dropped, and its close is interrupted. A close of the first
guard fails, too. Both are closed once all the same, a guard that was never made closes nothing, and a
descriptor that was given up is not closed. The kernel gave the first two, and the third was taken over.
-/
theorem ownership_balances_interrupted_drop :
    let script : Script := ⟨[(.call .processFile, [{ word := some 5 }]), (.call .duplicate, [{ word := some 6 }]),
      (.call .close, [{ word := some (-4) }, { word := some (-9) }])]⟩
    let steps : List Step := [.guard (.secretMemoryFile false "inbox"), .guard (.ofProcess 1 ⟨0⟩ "inbox"),
      .guard (.duplicate "inbox" "copy"), .writer "out" (.start (.guard "copy" false) none), .writer "out" .drop,
      .guard (.ofDescriptor 9 "raw"), .guard (.giveUp "raw"), .guard (.close "inbox")]
    let run := (start script (.upTo .warn)).runSteps steps
    gains steps run.1 = [5, 6, 9] ∧ losses steps run.1 = [9] ∧ run.1.flatMap StepAnswer.closed = [6, 5] ∧
      run.2.live = 0 ∧ (∃ lives, lives.map Life.descriptor = [5, 6, 9] ∧ Life.among Life.isClosed lives = {6, 5}) ∧
      Step.KeepsOwnership (.guard (.secretMemoryFile false "inbox")) (start script (.upTo .warn)) := by
  intro script steps run
  have owning : ∀ step ∈ steps, step.IsOwning := by simp [steps, Step.IsOwning]
  have reported : AllReport run.1 := by decide +kernel
  have gained : gains steps run.1 = [5, 6, 9] := by decide +kernel
  have lost : losses steps run.1 = [9] := by decide +kernel
  have closed : run.1.flatMap StepAnswer.closed = [6, 5] := by decide +kernel
  obtain ⟨ledger, ⟨lives, calls, _, -, closes, -, explains, -⟩, each⟩ :=
    ownership_balances script (.upTo .warn) owning reported
  have total : (([5, 6, 9] : List Descriptor) : Multiset Descriptor) =
      0 + ([9] : List Descriptor) + ([6, 5] : List Descriptor) := by decide
  refine ⟨gained, lost, closed, ?_, ⟨lives, explains.gained.trans gained, ?_⟩, each [] _ _ rfl⟩
  · change (gains steps run.1 : Multiset Descriptor) =
      run.2.live + losses steps run.1 + run.1.flatMap StepAnswer.closed at ledger
    rw [gained, lost, closed] at ledger
    exact (add_right_cancel (add_right_cancel (total.symm.trans ledger))).symm
  · rw [explains.closed, ← closes]
    change ((run.1.flatMap StepAnswer.closed : List Descriptor) : Multiset Descriptor) = _
    rw [closed]
    rfl

end Session

end LinuxCalls
