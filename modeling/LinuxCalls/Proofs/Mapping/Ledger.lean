/-
This file shows that mappings own their ranges. Over every run of a session, the ranges that were ever mapped
are those of the mappings that live and those that were unmapped, and every mapping that lives is valid.
-/

import LinuxCalls.Proofs.Mapping.StreamSteps
import LinuxCalls.Proofs.Ownership.Ledger

namespace LinuxCalls

open Act (Traces)

/-- The ranges that were unmapped on the way to an answer, in order. -/
def StepAnswer.unmapped (answer : StepAnswer) : List (UInt64 × UInt64) :=
  answer.questions.filterMap Question.unmapped?

/-- The mappings that a step has made. -/
def Step.makes (step : Step) (answer : StepAnswer) : List Mapping :=
  match answer.ending with
  | .report report => step.made report
  | _ => []

namespace Session

/-- The mappings that the steps of a run have made, in order. -/
def makes (steps : List Step) (answers : List StepAnswer) : List Mapping :=
  (steps.zip answers).flatMap fun entry => entry.1.makes entry.2

variable {session : Session}

/-- The questions of a step unmap what its calls unmap. -/
theorem unmapped_of_makes {next : Session} {calls : List Event} (makes : session.machine.Makes calls next.machine) :
    (questionsSince session next).filterMap Question.unmapped? = Event.unmaps calls := by
  have other : CallKind.write.number ≠ CallKind.unmap.number := by decide
  exact filterMap_questionsSince (fun _ writes => if_neg (writes ▸ other)) makes

/-- A step that reports is accounted for, and its questions show what it unmaps. -/
theorem runStep_tallied {step : Step} (objects : step.IsOnObjects) (distinct : session.Distinct) {report : Report}
    (reported : (session.runStep step).1.ending = .report report) :
    ∃ calls, step.Tallies report session calls (session.runStep step).2 ∧
      (session.runStep step).1.unmapped = Event.unmaps calls := by
  obtain ⟨calls, makes, tallies⟩ := exists_makes_of_report (step.keepsTally_run objects distinct) reported
  exact ⟨calls, tallies report reported, unmapped_of_makes makes⟩

/-- The accounts of a run are those of its steps in a row. -/
theorem runSteps_tallied {steps : List Step} (objects : ∀ step ∈ steps, step.IsOnObjects)
    (distinct : session.Distinct) (reported : AllReport (session.runSteps steps).1) :
    let run := session.runSteps steps
    run.2.Distinct ∧ (∀ mapping ∈ makes steps run.1, mapping.IsValid) ∧
      ∃ calls, Mapping.Leaves (session.mapped + (makes steps run.1 : List Mapping)) calls run.2.mapped ∧
        run.1.flatMap StepAnswer.unmapped = Event.unmaps calls := by
  induction steps generalizing session with
  | nil =>
    have same : session.mapped + (makes [] [] : List Mapping) = session.mapped := add_zero _
    refine ⟨distinct, nofun, [], ?_, rfl⟩
    change Mapping.Leaves (session.mapped + (makes [] [] : List Mapping)) [] session.mapped
    rw [same]
    exact .all rfl
  | cons step rest later =>
    obtain ⟨report, first, others⟩ := reported.first
    obtain ⟨calls, tallies, unmapped⟩ := runStep_tallied (objects step List.mem_cons_self) distinct first
    obtain ⟨separate, valid, more, leaves, unmapped'⟩ :=
      later (fun step member => objects step (List.mem_cons_of_mem _ member)) tallies.distinct others
    rw [runSteps_of_report first]
    generalize ((session.runStep step).2.runSteps rest) = last at separate valid leaves unmapped' ⊢
    have made : makes (step :: rest) ((session.runStep step).1 :: last.1) = step.made report ++ makes rest last.1 := by
      simp [makes, Step.makes, first]
    refine ⟨separate, ?_, calls ++ more, ?_, ?_⟩
    · rw [made]
      exact List.forall_mem_append.mpr ⟨tallies.valid, valid⟩
    · rw [made, ← Multiset.coe_add, ← add_assoc]
      exact (tallies.leaves.beside _).trans leaves
    · rw [List.flatMap_cons, unmapped, unmapped', Event.unmaps_append]

end Session

open Session

/--
A step tends mappings as they are owned. Its ranges balance, a rejected plan makes no call and changes nothing,
an accepted plan asks for its range once, a flush writes a shared mapping back as a whole by one call, and a
drop unmaps its mapping by one call, whatever the kernel answers.
-/
structure Step.Tends (step : Step) (before : Session) (answer : StepAnswer) (next : Session) : Prop where
  balanced : before.mapped.map Mapping.range + ((step.makes answer).map Mapping.range : List (UInt64 × UInt64)) =
    next.mapped.map Mapping.range + (answer.unmapped : List (UInt64 × UInt64))
  rejected : ∀ (making : MappingStep) (plan : Mapping.Plan) (slot : String), step = .mapping making →
    making.plan? before = some (plan, slot) → plan.IsRejected →
      answer = ⟨.report (.ofFailure (.errno Errno.invalidArgument)), []⟩ ∧ next = before
  carried : ∀ (making : MappingStep) (plan : Mapping.Plan) (slot : String), step = .mapping making →
    making.plan? before = some (plan, slot) → ¬ plan.IsRejected → ∃ calls outcome,
      before.machine.Makes calls next.machine ∧ answer.withoutComplaints.questions = calls.map Event.question ∧
        answer.ending = endingOf outcome ∧ MappingStep.Carried plan slot before calls outcome next
  flushed : ∀ (slot : String) (mapping : Mapping), step = .mapping (.flush slot) →
    before.mappings.get? slot = some mapping → answer.withoutComplaints.questions = mapping.writeBacks ∧
      next = { before with machine := next.machine }
  dropped : ∀ (slot : String) (mapping : Mapping), step = .mapping (.drop slot) →
    before.mappings.get? slot = some mapping → answer.ending = .report (.ofValue .nothing) ∧
      answer.withoutComplaints.questions = [.kernel mapping.unmapping] ∧
      next = { before with machine := next.machine, mappings := before.mappings.erase slot }

/-- The requests that drop what is in a slot are no complaints. -/
theorem Session.own_of_drops (session : Session) (slot : String) :
    ∀ question ∈ session.drops slot, question.isComplaint = false := by
  intro question member
  obtain ⟨mapping, -, rfl⟩ := List.mem_map.mp member
  rfl

/-- The calls that carry a plan out are no complaints. -/
theorem MappingStep.Carried.own {plan : Mapping.Plan} {slot : String} {before next : Session} {calls : List Event}
    {outcome : Except Fault Report} (carried : Carried plan slot before calls outcome next) :
    ∀ question ∈ calls.map Event.question, question.isComplaint = false := by
  intro question member
  cases carried with
  | made machine result dropped =>
    rcases List.mem_cons.mp member with rfl | member
    · rfl
    · exact before.own_of_drops slot question (dropped ▸ member)
  | failed machine result =>
    rw [List.mem_singleton.mp member]
    rfl

namespace Session

variable {session : Session}

/-- A step that leaves the session as it is asks nothing. -/
theorem runStep_of_still {step : Step} {outcome : Except Fault Report} (still : step.run session = (outcome, session)) :
    session.runStep step = (⟨endingOf outcome, []⟩, session) := by
  have nothing : questionsSince session session = [] := questionsSince_of_append (List.nil_append _)
  simp only [runStep, still, nothing]

/-- The questions of a step are those of its calls if none of them is a complaint. -/
theorem questions_of_makes {step : Step} {calls : List Event}
    (makes : session.machine.Makes calls (session.runStep step).2.machine)
    (own : ∀ question ∈ calls.map Event.question, question.isComplaint = false) :
    (session.runStep step).1.withoutComplaints.questions = calls.map Event.question := by
  have kept : Question.withoutComplaints (calls.map Event.question) = calls.map Event.question := by
    apply List.filter_eq_self.mpr
    intro question member
    rw [own question member]
    rfl
  exact (withoutComplaints_questionsSince makes).trans kept

/-- An accepted plan is carried out by the step that has it. -/
theorem carried_of_report {making : MappingStep} {plan : Mapping.Plan} {slot : String}
    (planned : making.plan? session = some (plan, slot)) (accepted : ¬ plan.IsRejected) {report : Report}
    (reported : (session.runStep (.mapping making)).1.ending = .report report) : ∃ calls outcome,
      session.machine.Makes calls (session.runStep (.mapping making)).2.machine ∧
        (session.runStep (.mapping making)).1.withoutComplaints.questions = calls.map Event.question ∧
        (session.runStep (.mapping making)).1.ending = endingOf outcome ∧
        MappingStep.Carried plan slot session calls outcome (session.runStep (.mapping making)).2 := by
  have traces : (Step.mapping making).run.Traces session (MappingStep.Carried plan slot session) :=
    .congr (MappingStep.run_of_plan? planned) (MappingStep.traces_make accepted slot)
  obtain ⟨calls, makes, carried⟩ := exists_makes_of_report traces reported
  exact ⟨calls, _, makes, questions_of_makes makes carried.own, rfl, carried⟩

/-- A flush writes the mapping in a slot back as a whole if it is shared. -/
theorem flushed_of_report {slot : String} {mapping : Mapping} (found : session.mappings.get? slot = some mapping)
    {report : Report} (reported : (session.runStep (.mapping (.flush slot))).1.ending = .report report) :
    (session.runStep (.mapping (.flush slot))).1.withoutComplaints.questions = mapping.writeBacks ∧
      ∃ machine, (session.runStep (.mapping (.flush slot))).2 = { session with machine := machine } := by
  have asks : (onMachine mapping.flush).Traces session fun calls _ next =>
      calls.map Event.question = mapping.writeBacks ∧ ∃ machine, next = { session with machine := machine } := by
    apply traces_onMachine
    exact mapping.traces_flush.mono fun _ _ next asked => ⟨asked, next, rfl⟩
  have traces : (Step.mapping (.flush slot)).run.Traces session fun calls _ next =>
      calls.map Event.question = mapping.writeBacks ∧ ∃ machine, next = { session with machine := machine } := by
    apply Traces.congr (withObject_of_some found _)
    apply asks.bind
    · rintro calls value middle asked
      apply Traces.pure
      rwa [List.append_nil]
    · exact fun _ _ _ asked => asked
  obtain ⟨calls, makes, asked, moved⟩ := exists_makes_of_report traces reported
  refine ⟨(questions_of_makes makes ?_).trans asked, moved⟩
  rw [asked]
  unfold Mapping.writeBacks
  cases mapping.sharing with
  | copied => exact nofun
  | shared =>
    intro question member
    rw [List.mem_singleton.mp member]
    rfl

/-- A drop unmaps the mapping in a slot by one call, and the slot is empty after it. -/
theorem dropped_of_report {slot : String} {mapping : Mapping} (found : session.mappings.get? slot = some mapping)
    {report : Report} (reported : (session.runStep (.mapping (.drop slot))).1.ending = .report report) :
    (session.runStep (.mapping (.drop slot))).1.ending = .report (.ofValue .nothing) ∧
      (session.runStep (.mapping (.drop slot))).1.withoutComplaints.questions = [.kernel mapping.unmapping] ∧
      ∃ machine, (session.runStep (.mapping (.drop slot))).2 =
        { session with machine := machine, mappings := session.mappings.erase slot } := by
  have traces : (Step.mapping (.drop slot)).run.Traces session fun calls outcome next =>
      outcome = .ok (.ofValue .nothing) ∧ calls.map Event.question = session.drops slot ∧
        ∃ machine, next = { session with machine := machine, mappings := session.mappings.erase slot } := by
    apply Traces.congr (withObject_of_some found _)
    exact (traces_dropMapping slot).bind_success_pure fun _ _ dropped => ⟨rfl, dropped⟩
  obtain ⟨calls, makes, ended, asked, moved⟩ := exists_makes_of_report traces reported
  have own : ∀ question ∈ calls.map Event.question, question.isComplaint = false := asked ▸ own_of_drops session slot
  refine ⟨congrArg endingOf ended, (questions_of_makes makes own).trans ?_, moved⟩
  rw [asked, drops, found]
  rfl

/-- Every step on objects that reports tends mappings as they are owned. -/
theorem tends {step : Step} (objects : step.IsOnObjects) (distinct : session.Distinct) {report : Report}
    (reported : (session.runStep step).1.ending = .report report) :
    step.Tends session (session.runStep step).1 (session.runStep step).2 := by
  obtain ⟨calls, tallies, unmapped⟩ := runStep_tallied objects distinct reported
  refine ⟨?_, ?_, ?_, ?_, ?_⟩
  · have made : step.makes (session.runStep step).1 = step.made report := by rw [Step.makes, reported]
    have ranges := tallies.leaves.ranges
    rw [Multiset.map_add, Multiset.map_coe, ← made, ← unmapped] at ranges
    exact ranges
  · rintro making plan slot rfl planned rejected
    have still : (Step.mapping making).run session = (.error (.errno Errno.invalidArgument), session) := by
      rw [Step.run, MappingStep.run_of_plan? planned, Mapping.Plan.make_of_isRejected rejected]
      rfl
    rw [runStep_of_still still]
    exact ⟨rfl, rfl⟩
  · rintro making plan slot rfl planned accepted
    exact carried_of_report planned accepted reported
  · rintro slot mapping rfl found
    obtain ⟨asked, machine, moved⟩ := flushed_of_report found reported
    exact ⟨asked, by rw [moved]⟩
  · rintro slot mapping rfl found
    obtain ⟨ended, asked, machine, moved⟩ := dropped_of_report found reported
    exact ⟨ended, asked, by rw [moved]⟩

/--
Mappings own their ranges. Take any run of steps on guards, mappings, cursors and streams in which no step
panics or exits, whatever the kernel answers. Then the ranges of the mappings that were ever made are those of
the mappings that live and those that were unmapped, so every other mapping was unmapped by a request of its
own for the range that it was made with. Every mapping that lives is valid. And every step of the run tends
mappings as they are owned.
-/
theorem ranges_balance (script : Script) (threshold : Threshold) {steps : List Step}
    (objects : ∀ step ∈ steps, step.IsOnObjects) (reported : AllReport ((start script threshold).runSteps steps).1) :
    let run := (start script threshold).runSteps steps
    (((makes steps run.1).map Mapping.range : List (UInt64 × UInt64)) : Multiset (UInt64 × UInt64)) =
        run.2.mapped.map Mapping.range + (run.1.flatMap StepAnswer.unmapped : List (UInt64 × UInt64)) ∧
      (∃ ended : List Mapping, (makes steps run.1 : Multiset Mapping) = run.2.mapped + ended ∧
        run.1.flatMap StepAnswer.unmapped = ended.map Mapping.range) ∧
      (∀ mapping ∈ run.2.mapped, mapping.IsValid) ∧
      ∀ earlier step later, steps = earlier ++ step :: later →
        let before := ((start script threshold).runSteps earlier).2
        step.Tends before (before.runStep step).1 (before.runStep step).2 := by
  intro run
  have distinct := distinct_start script threshold
  obtain ⟨-, valid, calls, leaves, unmapped⟩ := runSteps_tallied objects distinct reported
  rw [mapped_start, zero_add] at leaves
  refine ⟨?_, ?_, ?_, ?_⟩
  · rw [unmapped, ← leaves.ranges, Multiset.map_coe]
  · obtain ⟨ended, made, ranges⟩ := leaves
    exact ⟨ended, made, unmapped.trans ranges⟩
  · intro mapping lives
    exact valid mapping (Multiset.mem_coe.mp (leaves.subset lives))
  · rintro earlier step later rfl
    obtain ⟨first, last⟩ := reported.split
    obtain ⟨report, here, -⟩ := last.first
    have before : ∀ step ∈ earlier, step.IsOnObjects := fun step member => objects step (List.mem_append_left _ member)
    obtain ⟨separate, -⟩ := runSteps_tallied before distinct first
    exact tends (objects step (List.mem_append_right _ List.mem_cons_self)) separate here

/--
An empty mapping is rejected, one of a file fails, and three are made. The third one stands in the slot of the
first one, which a cursor has taken, and it makes way when the cursor is dropped. Its range is unmapped once
although the kernel refuses that, the first one is dropped, and the second one lives on.
-/
theorem ranges_balance_refused_unmap :
    let script : Script := ⟨[(.call .map, [{ word := some 65536 }, { word := some (-12) }, { word := some 131072 },
      { word := some 196608 }]), (.call .unmap, [{ word := some (-22) }, { word := some 0 }])]⟩
    let steps : List Step := [.mapping (.anonymous 0 Protection.read "page"),
      .mapping (.anonymous 100 Protection.read "page"),
      .mapping (.ofFile (.descriptor 5) 200 4096 Protection.read .shared "file"),
      .mapping (.ofFile (.descriptor 5) 200 4096 Protection.read .shared "file"), .mapping (.flush "file"),
      .cursor (.start "page" "place"), .mapping (.anonymous 300 Protection.read "page"), .cursor (.drop "place"),
      .mapping (.drop "page")]
    let run := (start script (.upTo .warn)).runSteps steps
    (makes steps run.1).map Mapping.range = [(65536, 100), (131072, 200), (196608, 300)] ∧
      run.1.flatMap StepAnswer.unmapped = [(196608, 300), (65536, 100)] ∧
      run.2.mapped.map Mapping.range = {(131072, 200)} ∧ (∀ mapping ∈ run.2.mapped, mapping.IsValid) ∧
      (start script (.upTo .warn)).runStep (.mapping (.anonymous 0 Protection.read "page")) =
        (⟨.report (.ofFailure (.errno Errno.invalidArgument)), []⟩, start script (.upTo .warn)) := by
  intro script steps run
  have objects : ∀ step ∈ steps, step.IsOnObjects := by simp [steps, Step.IsOnObjects]
  have reported : AllReport run.1 := by decide +kernel
  have made : (makes steps run.1).map Mapping.range = [(65536, 100), (131072, 200), (196608, 300)] := by
    decide +kernel
  have unmapped : run.1.flatMap StepAnswer.unmapped = [(196608, 300), (65536, 100)] := by decide +kernel
  obtain ⟨ledger, -, valid, each⟩ := ranges_balance script (.upTo .warn) objects reported
  have first := (each [] _ _ rfl).rejected (.anonymous 0 Protection.read "page") _ "page" rfl rfl (.inl rfl)
  refine ⟨made, unmapped, ?_, valid, Prod.ext first.1 first.2⟩
  have total : (([(65536, 100), (131072, 200), (196608, 300)] : List (UInt64 × UInt64)) : Multiset (UInt64 × UInt64)) =
      {(131072, 200)} + ([(196608, 300), (65536, 100)] : List (UInt64 × UInt64)) := by decide
  change (((makes steps run.1).map Mapping.range : List (UInt64 × UInt64)) : Multiset (UInt64 × UInt64)) =
    run.2.mapped.map Mapping.range + (run.1.flatMap StepAnswer.unmapped : List (UInt64 × UInt64)) at ledger
  rw [made, unmapped] at ledger
  exact (add_right_cancel (total.symm.trans ledger)).symm

end Session

end LinuxCalls
