/-
This file shows that logging makes no difference to a session. Whatever the threshold is and whatever
becomes of the complaints, the steps report the same, ask the same and leave the same objects.
-/

import LinuxCalls.Proofs.Log.Steps

namespace LinuxCalls

/-- An answer without the complaints among its questions. -/
def StepAnswer.withoutComplaints (answer : StepAnswer) : StepAnswer :=
  ⟨answer.ending, Question.withoutComplaints answer.questions⟩

/-- Removing the complaints from a journal removes them from its questions. -/
theorem Event.map_question_withoutComplaints (journal : List Event) :
    (Event.withoutComplaints journal).map Event.question =
      Question.withoutComplaints (journal.map Event.question) := by
  rw [Event.withoutComplaints, Question.withoutComplaints, List.filter_map]
  rfl

namespace Session

/-- The questions since an earlier state are those that were added to its journal. -/
theorem questionsSince_of_append {earlier later : Session} {added : List Event}
    (grown : added ++ earlier.machine.journal = later.machine.journal) :
    questionsSince earlier later = (added.map Event.question).reverse := by
  have length : later.machine.journal.length - earlier.machine.journal.length = added.length := by
    rw [← grown, List.length_append]
    omega
  rw [questionsSince, length, ← grown, List.take_left]

/-- Two sessions have the same objects and machines that are the same beside complaints. -/
structure SameBesideComplaints (first second : Session) : Prop where
  guards : first.guards = second.guards
  mappings : first.mappings = second.mappings
  cursors : first.cursors = second.cursors
  readers : first.readers = second.readers
  writers : first.writers = second.writers
  memory : first.machine.memory = second.machine.memory
  answers : first.machine.script.AgreesBesideComplaints second.machine.script
  asked : Event.withoutComplaints first.machine.journal = Event.withoutComplaints second.machine.journal

/-- Sessions that differ from a quiet one in loud machines like its own are the same beside complaints. -/
theorem sameBesideComplaints_of_alike {session : Session} {first second : Machine}
    (alike : session.machine.Alike first) (alike' : session.machine.Alike second) :
    SameBesideComplaints { session with machine := first } { session with machine := second } where
  guards := rfl
  mappings := rfl
  cursors := rfl
  readers := rfl
  writers := rfl
  memory := alike.memory.trans alike'.memory.symm
  answers channel other := (alike.agrees channel other).symm.trans (alike'.agrees channel other)
  asked := alike.asked.trans alike'.asked.symm

/-- The questions of quiet and loud machines that stay alike are the same without the complaints. -/
theorem questionsSince_alike {earlier later : Session} {first last : Machine}
    (before : earlier.machine.Alike first) (after : later.machine.Alike last)
    (grown : earlier.machine.journal <:+ later.machine.journal) (grown' : first.journal <:+ last.journal) :
    Question.withoutComplaints
        (questionsSince { earlier with machine := first } { later with machine := last }) =
      Question.withoutComplaints (questionsSince earlier later) := by
  obtain ⟨added, joined⟩ := grown
  obtain ⟨added', joined'⟩ := grown'
  have same : Event.withoutComplaints added' = Event.withoutComplaints added := by
    have asked := after.asked
    rw [← joined, ← joined'] at asked
    unfold Event.withoutComplaints at asked ⊢
    rw [List.filter_append, List.filter_append] at asked
    have start := before.asked
    unfold Event.withoutComplaints at start
    rw [start] at asked
    exact List.append_cancel_right asked
  rw [questionsSince_of_append joined, questionsSince_of_append joined']
  unfold Question.withoutComplaints
  rw [List.filter_reverse, List.filter_reverse]
  change (Question.withoutComplaints (added'.map Event.question)).reverse =
    (Question.withoutComplaints (added.map Event.question)).reverse
  rw [← Event.map_question_withoutComplaints, ← Event.map_question_withoutComplaints, same]

/-- A step of the library leaves the log off and only adds to the journal. -/
theorem runStep_stays {step : Step} (library : step.isLibrary = true) {session : Session}
    (off : session.machine.threshold = .off) :
    (session.runStep step).2.machine.threshold = .off ∧
      session.machine.journal <:+ (session.runStep step).2.machine.journal :=
  (Step.transparent_run library).stays session off

/-- A step of the library does the same on a loud machine as on a quiet one. -/
theorem runStep_alike {step : Step} (library : step.isLibrary = true) {session : Session} {loud : Machine}
    (alike : session.machine.Alike loud) (quiet : (session.runStep step).2.machine.IsQuiet) :
    ∃ next, (runStep { session with machine := loud } step).2 =
        { (session.runStep step).2 with machine := next } ∧
      (runStep { session with machine := loud } step).1.withoutComplaints =
        (session.runStep step).1.withoutComplaints ∧
      (session.runStep step).2.machine.Alike next := by
  obtain ⟨next, made, still, grown'⟩ := (Step.transparent_run library).follows session loud alike quiet
  have grown := (runStep_stays library alike.off).2
  have made' : step.run { session with machine := loud } =
      ((step.run session).1, { (step.run session).2 with machine := next }) := made
  refine ⟨next, congrArg Prod.snd made', ?_, still⟩
  have questions := questionsSince_alike alike still grown grown'
  unfold StepAnswer.withoutComplaints runStep
  rw [made']
  exact congrArg (StepAnswer.mk _) questions

/-- Steps go on after a report. -/
theorem runSteps_of_report {session : Session} {step : Step} {rest : List Step} {report : Report}
    (reported : (session.runStep step).1.ending = .report report) :
    session.runSteps (step :: rest) = ((session.runStep step).1 :: ((session.runStep step).2.runSteps rest).1,
      ((session.runStep step).2.runSteps rest).2) := by
  simp only [runSteps, reported]

/-- Steps stop after a panic or an exit. -/
theorem runSteps_of_end {session : Session} {step : Step} {rest : List Step}
    (ended : ∀ report, (session.runStep step).1.ending ≠ .report report) :
    session.runSteps (step :: rest) = ([(session.runStep step).1], (session.runStep step).2) := by
  cases ending : (session.runStep step).1.ending with
  | report report => exact absurd ending (ended report)
  | panicked => simp only [runSteps, ending]
  | exited status => simp only [runSteps, ending]

/-- A step reports or it ends the session. -/
theorem reported_or_ended (answer : StepAnswer) :
    (∃ report, answer.ending = .report report) ∨ ∀ report, answer.ending ≠ .report report := by
  cases answer.ending with
  | report report => exact .inl ⟨report, rfl⟩
  | panicked => exact .inr nofun
  | exited status => exact .inr nofun

/-- Steps of the library leave the log off and only add to the journal. -/
theorem runSteps_stays {steps : List Step} (library : ∀ step ∈ steps, step.isLibrary = true)
    {session : Session} (off : session.machine.threshold = .off) :
    (session.runSteps steps).2.machine.threshold = .off ∧
      session.machine.journal <:+ (session.runSteps steps).2.machine.journal := by
  induction steps generalizing session with
  | nil => exact ⟨off, List.suffix_refl _⟩
  | cons step rest later =>
    obtain ⟨still, grown⟩ := runStep_stays (library step List.mem_cons_self) off
    rcases reported_or_ended (session.runStep step).1 with ⟨report, reported⟩ | ended
    · rw [runSteps_of_report reported]
      obtain ⟨last, more⟩ := later (fun step member => library step (List.mem_cons_of_mem _ member)) still
      exact ⟨last, grown.trans more⟩
    · rw [runSteps_of_end ended]
      exact ⟨still, grown⟩

/-- Steps of the library do the same on a loud machine as on a quiet one. -/
theorem runSteps_alike {steps : List Step} (library : ∀ step ∈ steps, step.isLibrary = true)
    {session : Session} {loud : Machine} (alike : session.machine.Alike loud)
    (quiet : (session.runSteps steps).2.machine.IsQuiet) :
    ∃ next, (runSteps { session with machine := loud } steps).2 =
        { (session.runSteps steps).2 with machine := next } ∧
      (runSteps { session with machine := loud } steps).1.map StepAnswer.withoutComplaints =
        (session.runSteps steps).1.map StepAnswer.withoutComplaints ∧
      (session.runSteps steps).2.machine.Alike next := by
  induction steps generalizing session loud with
  | nil => exact ⟨loud, rfl, rfl, alike⟩
  | cons step rest later =>
    have first := library step List.mem_cons_self
    have others (step : Step) (member : step ∈ rest) := library step (List.mem_cons_of_mem _ member)
    obtain ⟨still, -⟩ := runStep_stays first alike.off
    rcases reported_or_ended (session.runStep step).1 with ⟨report, reported⟩ | ended
    · rw [runSteps_of_report reported] at quiet ⊢
      -- The journal only grows, so a run that never complains does not complain in its first step.
      have silent := quiet.of_suffix (runSteps_stays others still).2
      obtain ⟨middle, made, answered, alike⟩ := runStep_alike first alike silent
      have ending := congrArg StepAnswer.ending answered
      have reported' : (runStep { session with machine := loud } step).1.ending = .report report :=
        ending.trans reported
      obtain ⟨next, run, answers, alike⟩ := later others alike quiet
      rw [runSteps_of_report reported', made]
      refine ⟨next, run, ?_, alike⟩
      rw [List.map_cons, List.map_cons, answered, answers]
    · rw [runSteps_of_end ended] at quiet ⊢
      obtain ⟨next, made, answered, alike⟩ := runStep_alike first alike quiet
      have ending := congrArg StepAnswer.ending answered
      have ended' (report : Report) : (runStep { session with machine := loud } step).1.ending ≠ .report report :=
        fun reported => ended report (ending.symm.trans reported)
      rw [runSteps_of_end ended']
      exact ⟨next, made, congrArg (fun answer => [answer]) answered, alike⟩

/-- Complaints do not make the difference between an exit and another end. -/
theorem hasExited_map_withoutComplaints (answers : List StepAnswer) :
    hasExited (answers.map StepAnswer.withoutComplaints) = hasExited answers := by
  unfold hasExited
  rw [List.getLast?_map]
  cases answers.getLast? with
  | none => rfl
  | some answer =>
    obtain ⟨ending, questions⟩ := answer
    cases ending <;> rfl

/-- The end of a session leaves the log off and only adds to the journal. -/
theorem conclude_stays (answers : List StepAnswer) {session : Session} (off : session.machine.threshold = .off) :
    session.machine.journal <:+ (conclude answers session).machine.journal := by
  unfold conclude
  split
  · exact List.suffix_refl _
  · exact (transparent_dropAll.stays session off).2

/-- The end of a session is the same on a loud machine as on a quiet one. -/
theorem conclude_alike {answers answers' : List StepAnswer} {session : Session} {loud : Machine}
    (same : answers'.map StepAnswer.withoutComplaints = answers.map StepAnswer.withoutComplaints)
    (alike : session.machine.Alike loud) (quiet : (conclude answers session).machine.IsQuiet) :
    ∃ next, conclude answers' { session with machine := loud } =
        { conclude answers session with machine := next } ∧
      (conclude answers session).machine.Alike next := by
  have exited : hasExited answers' = hasExited answers := by
    rw [← hasExited_map_withoutComplaints, same, hasExited_map_withoutComplaints]
  unfold conclude at quiet ⊢
  rw [exited]
  split at quiet
  · rename_i gone
    rw [if_pos gone, if_pos gone]
    exact ⟨loud, rfl, alike⟩
  · rename_i stays
    rw [if_neg stays, if_neg stays]
    obtain ⟨next, made, still, -⟩ := transparent_dropAll.follows session loud alike quiet
    exact ⟨next, congrArg Prod.snd made, still⟩

/-- A session with its log off asks for no complaint, so no step and no drop complains by itself. -/
def NoneComplains (script : Script) (steps : List Step) : Prop :=
  (conclude ((start script .off).runSteps steps).1 ((start script .off).runSteps steps).2).machine.IsQuiet

/-- Steps that do not complain by themselves run alike on every machine that is like a quiet one. -/
theorem runSteps_conclude_alike {script : Script} {steps : List Step}
    (library : ∀ step ∈ steps, step.isLibrary = true) (silent : NoneComplains script steps) {loud : Machine}
    (alike : (start script .off).machine.Alike loud) :
    ∃ next last, let quiet := (start script .off).runSteps steps
      let run := runSteps { start script .off with machine := loud } steps
      run.2 = { quiet.2 with machine := next } ∧ quiet.2.machine.Alike next ∧
      run.1.map StepAnswer.withoutComplaints = quiet.1.map StepAnswer.withoutComplaints ∧
      conclude run.1 run.2 = { conclude quiet.1 quiet.2 with machine := last } ∧
      (conclude quiet.1 quiet.2).machine.Alike last := by
  obtain ⟨off, -⟩ := runSteps_stays library alike.off
  have before := silent.of_suffix (conclude_stays _ off)
  obtain ⟨next, ran, answers, still⟩ := runSteps_alike library alike before
  obtain ⟨last, concluded, alike'⟩ := conclude_alike answers still silent
  refine ⟨next, last, ran, still, answers, ?_, alike'⟩
  rw [ran]
  exact concluded

/-- A machine at its start is like every quiet one whose script agrees with its own beside complaints. -/
theorem alike_start {first second : Script} (agrees : first.AgreesBesideComplaints second)
    (lawful : second.Lawful) (threshold : Threshold) :
    (start first .off).machine.Alike (Machine.start second threshold) :=
  ⟨rfl, rfl, rfl, agrees, lawful, rfl⟩

/--
Logging is transparent. Take any steps of the library that do not complain by themselves, any two
thresholds, and any two scripts that differ in their lawful answers to complaints only. Then the
steps end the same and ask the same beside complaints, and the objects, the memory and the answers left
on all other channels are the same, before and after the objects left are dropped.
-/
theorem logging_transparent {first second : Script} (agrees : first.AgreesBesideComplaints second)
    (lawful : first.Lawful) (lawful' : second.Lawful) (threshold threshold' : Threshold)
    {steps : List Step} (library : ∀ step ∈ steps, step.isLibrary = true)
    (silent : NoneComplains first steps) :
    let run := (start first threshold).runSteps steps
    let run' := (start second threshold').runSteps steps
    run.1.map StepAnswer.withoutComplaints = run'.1.map StepAnswer.withoutComplaints ∧
      SameBesideComplaints run.2 run'.2 ∧
      SameBesideComplaints (conclude run.1 run.2) (conclude run'.1 run'.2) := by
  obtain ⟨next, last, ran, still, answers, concluded, alike⟩ := runSteps_conclude_alike library silent
    (alike_start (fun _ _ => rfl) lawful threshold)
  obtain ⟨next', last', ran', still', answers', concluded', alike'⟩ := runSteps_conclude_alike library silent
    (alike_start agrees lawful' threshold')
  refine ⟨answers.trans answers'.symm, ?_, ?_⟩
  · have same := sameBesideComplaints_of_alike still still'
    rw [← ran, ← ran'] at same
    exact same
  · have same := sameBesideComplaints_of_alike alike alike'
    rw [← concluded, ← concluded'] at same
    exact same

/--
A guard whose close fails complains when it is dropped at the end. It makes no difference whether every
call is recorded and the first record is interrupted and cut short, or whether the complaint is the only
record and is refused.
-/
theorem logging_transparent_failed_close :
    let failure (error : Errno) : Answer := { word := some (RawReturn.encode (.error error)) }
    let closing := (Channel.call .close, [failure Errno.transferFailed])
    let first : Script := ⟨[(.complaints, [failure Errno.interrupted, { most := some 3 }]), closing]⟩
    let second : Script := ⟨[(.complaints, [failure Errno.noSpace]), closing]⟩
    let steps : List Step := [.guard (.ofDescriptor 5 "inbox"), .guard (.read "inbox" 4)]
    let run := (start first (.upTo .trace)).runSteps steps
    let run' := (start second (.upTo .warn)).runSteps steps
    run.1.map StepAnswer.withoutComplaints = run'.1.map StepAnswer.withoutComplaints ∧
      SameBesideComplaints run.2 run'.2 ∧
      SameBesideComplaints (conclude run.1 run.2) (conclude run'.1 run'.2) := by
  intro failure closing first second steps
  have agrees : first.AgreesBesideComplaints second := by
    intro channel other
    simp [Script.queue, first, second, List.lookup_cons, beq_false_of_ne other]
  have lawful : first.Lawful := by
    intro answer member word named
    have answers : first.queue .complaints = [failure Errno.interrupted, { most := some 3 }] := rfl
    simp only [answers, List.mem_cons, List.not_mem_nil, or_false] at member
    rcases member with rfl | rfl <;> cases named
    decide
  have lawful' : second.Lawful := by
    intro answer member word named
    have answers : second.queue .complaints = [failure Errno.noSpace] := rfl
    simp only [answers, List.mem_singleton] at member
    subst member
    cases named
    decide
  have library : ∀ step ∈ steps, step.isLibrary = true := by decide
  have silent : NoneComplains first steps := by
    unfold NoneComplains Machine.IsQuiet
    decide
  exact logging_transparent agrees lawful lawful' _ _ library silent

end Session

end LinuxCalls
