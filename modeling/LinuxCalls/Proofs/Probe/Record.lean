/-
This file records the reports that the probe makes. The recorded probe is made of the same steps and does the same,
and at its end the record holds each report that was begun.
-/

import LinuxCalls.Proofs.Calls.Trace
import LinuxCalls.Proofs.Log.Growth
import LinuxCalls.Probe

namespace LinuxCalls.Probe

variable {α β : Type}

/-- The writer of the reports while no report is being made. -/
def resting : Writer DescriptorRef := Writer.ofDevice ⟨Descriptor.output⟩

/-- The writer of the reports, and the reports so far. -/
abbrev Recorder := Writer DescriptorRef × List (List String)

/-- The state without the record. -/
def unrecorded (state : Recorder × Machine) : Writer DescriptorRef × Machine := (state.1.1, state.2)

/-- This action records a report and then makes it. -/
def recordedReport (texts : List String) : Run Recorder Unit := do
  Act.modify fun state => ((state.1.1, state.1.2 ++ [texts]), state.2)
  Act.focus unrecorded (fun state next => ((next.1, state.1.2), next.2)) (report texts)

/-- A run records another one if it does the same apart from the record. -/
def Records (recorded : Run Recorder α) (act : Run (Writer DescriptorRef) α) : Prop :=
  ∀ state, act (unrecorded state) = ((recorded state).1, unrecorded (recorded state).2)

namespace Records

theorem fault (reason : Fault) : Records (Act.fault reason : Run Recorder α) (Act.fault reason) := fun _ => rfl

/-- A call is its own record. -/
theorem call (act : Sys α) : Records (liftM act) (liftM act) := fun _ => rfl

/-- A recorded report is the record of a report. -/
theorem report (texts : List String) : Records (recordedReport texts) (report texts) := fun _ => rfl

theorem bind {recorded : Run Recorder α} {act : Run (Writer DescriptorRef) α} {recorded' : α → Run Recorder β}
    {act' : α → Run (Writer DescriptorRef) β} (head : Records recorded act)
    (tail : ∀ value, Records (recorded' value) (act' value)) :
    Records (recorded >>= recorded') (act >>= act') := by
  intro state
  rw [Act.bind_apply, Act.bind_apply, head state]
  rcases recorded state with ⟨reason | value, next⟩
  · rfl
  · exact tail value next

theorem get_bind {recorded : Recorder × Machine → Run Recorder β}
    {act : Writer DescriptorRef × Machine → Run (Writer DescriptorRef) β}
    (tail : ∀ state, Records (recorded state) (act (unrecorded state))) :
    Records (Act.get >>= recorded) (Act.get >>= act) := fun state => tail state state

theorem outcome {recorded : Run Recorder α} {act : Run (Writer DescriptorRef) α} (records : Records recorded act) :
    Records recorded.outcome act.outcome := by
  intro state
  rw [Act.outcome_apply, Act.outcome_apply, records state]

/-- Releasing what a run used is recorded if the run is. -/
theorem releasing {recorded : Run Recorder α} {act : Run (Writer DescriptorRef) α} (release : Sys Unit)
    (records : Records recorded act) :
    Records (Act.releasing (liftM release) recorded) (Act.releasing (liftM release) act) := by
  refine records.outcome.bind fun ended => ?_
  have resumes : Records (liftM release >>= fun _ => Act.resume ended)
      (liftM release >>= fun _ => Act.resume ended) :=
    (call release).bind fun _ _ => by cases ended <;> rfl
  rcases ended with (error | _ | status) | value
  · exact resumes
  · exact resumes
  · exact .fault _
  · exact resumes

/-- A run grows the journal if its record does. -/
theorem grows {recorded : Run Recorder α} {act : Run (Writer DescriptorRef) α} (records : Records recorded act)
    (grown : recorded.Grows) : act.Grows :=
  grown.congr (fun state => ((state.1, []), state.2)) (fun _ => rfl) fun state =>
    congrArg (fun ended => machine ended.2) (records ((state.1, []), state.2))

end Records

/-- This action writes to a file that the program has borrowed and ends the program if that fails. -/
def writing (act : Act (Writer (Borrowed Guard) × Machine) Unit) (context : String) :
    Act (Writer (Borrowed Guard) × Machine) Unit := do
  match ← act.attempt with
  | .ok _ => pure ()
  | .error error => liftM (Complaint.die context error : Sys Unit)

end LinuxCalls.Probe
