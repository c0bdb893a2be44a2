/-
This file follows the reports of the probe. It has one rule for each way of making runs up, which says which
reports a run makes and that the standard output shows them in full and in order, while the kernel answers fairly.
-/

import LinuxCalls.Proofs.Probe.Record
import LinuxCalls.Proofs.Probe.Streams

namespace LinuxCalls.Probe

open Act (Ensures Keeps Settled Succeeds)
open Complaint (HasDied)
open Machine (Shows)

variable {α β : Type}

/-- The bytes of reports. -/
def bytesOf (told : List (List String)) : Bytes := told.flatMap fun texts => texts.flatMap Bytes.ofText

/-- The bytes of one more report come last. -/
theorem bytesOf_concat (told : List (List String)) (texts : List String) :
    bytesOf (told ++ [texts]) = bytesOf told ++ texts.flatMap Bytes.ofText := by
  rw [bytesOf, List.flatMap_append, List.flatMap_singleton]
  rfl

/--
A run that started after some reports has made more. They are shown behind the older ones when it gives a value
with the writer at rest, and when it has exited.
-/
def Concludes (told : List (List String)) (spec : List (List String) → Option α → Prop) :
    Except Fault α → Recorder × Machine → Prop :=
  Settled
    (fun value next => ∃ more, spec more (some value) ∧ next.1 = (resting, told ++ more) ∧
      next.2.Shows (bytesOf (told ++ more)))
    (fun _ _ => False)
    (fun status next => ∃ more, spec more none ∧ next.1.2 = told ++ more ∧
      HasDied (bytesOf (told ++ more)) status next.2)

/-- A run goes on after some reports. -/
def Resumes (given : Prop) (told : List (List String)) (state : Recorder × Machine) : Prop :=
  given ∧ state.1 = (resting, told) ∧ state.2.Shows (bytesOf told)

/-- A run reports by a specification of what it tells and gives. -/
def Reporting (given : Prop) (act : Run Recorder α) (spec : List (List String) → Option α → Prop) : Prop :=
  ∀ told, act.Ensures (Resumes given told) (Concludes told spec)

/-- Writing to the standard output never fails, so the program goes on. -/
theorem ensures_onReports {act : Run (Writer DescriptorRef) α} {before : Writer DescriptorRef × Machine → Prop}
    {fine : α → Writer DescriptorRef × Machine → Prop} (context : String)
    (writes : act.Ensures before
      (Settled fine (fun _ => Writer.GaveUp DescriptorRef.Showing False) fun _ _ => False)) :
    (onReports act context).Ensures before (Succeeds fine) := by
  refine (Ensures.attempt writes).bind_settled fun result => ?_
  cases result with
  | ok value => exact .pure fun _ holds => holds
  | error error =>
    exact .of_unreachable (fun state => Complaint.grows_die context error state.2) fun _ gaveUp => gaveUp.1

/-- A report is shown behind what was shown before, and it never fails. -/
theorem ensures_report (texts : List String) {shown : Bytes} :
    (report texts).Ensures (fun state => state.1 = resting ∧ state.2.Shows shown)
      (Succeeds fun _ next => next.1 = resting ∧ next.2.Shows (shown ++ texts.flatMap Bytes.ofText)) := by
  have reports : (report texts).Ensures (Writer.Carries DescriptorRef.Showing resting.capacity shown)
      (Succeeds fun _ next => Writer.Carries DescriptorRef.Showing resting.capacity
        (shown ++ texts.flatMap Bytes.ofText) next ∧ next.1.buffer = []) :=
    (ensures_onReports _ (Writer.ensures_writeFormat DescriptorRef.takes_showing texts)).bind_settled fun _ =>
      ensures_onReports _ (Writer.ensures_flush DescriptorRef.takes_showing)
  refine (reports.assuming ?_).settle ?_ (fun _ _ _ => id) fun _ _ => id
  · rintro ⟨writer, machine⟩ ⟨rfl, shows⟩
    exact ⟨rfl, shown, ⟨rfl, shows⟩, List.append_nil _⟩
  · rintro _ ⟨⟨held, buffer, capacity⟩, machine⟩ - ⟨⟨size, sent, ⟨device, shows⟩, whole⟩, empty⟩
    cases device
    cases size
    cases empty
    rw [List.append_nil] at whole
    subst whole
    exact ⟨rfl, shows⟩

/-- A run without reports gives a good value, or it leaves if it may. -/
def Silent (mayLeave : Prop) (good : α → Prop) (told : List (List String)) (result : Option α) : Prop :=
  told = [] ∧
    match result with
    | some value => good value
    | none => mayLeave

namespace Reporting

variable {given : Prop}

/-- A run that reports grows the journal. -/
theorem grows {act : Run Recorder α} {spec : List (List String) → Option α → Prop}
    (reporting : Reporting given act spec) : act.Grows := (reporting []).grows

theorem mono {act : Run Recorder α} {given' : Prop} {spec spec' : List (List String) → Option α → Prop}
    (reporting : Reporting given act spec) (assumed : given' → given)
    (weaker : ∀ told result, spec told result → spec' told result) : Reporting given' act spec' := fun told =>
  (reporting told).mono (fun _ holds => ⟨assumed holds.1, holds.2⟩) fun _ _ concludes =>
    concludes.mono (fun _ ⟨more, met, rest⟩ => ⟨more, weaker _ _ met, rest⟩) (fun _ => id)
      fun _ ⟨more, met, rest⟩ => ⟨more, weaker _ _ met, rest⟩

theorem pure {value : α} {good : α → Prop} (fine : good value) :
    Reporting given (Pure.pure value : Run Recorder α) (Silent False good) := fun told =>
  .pure fun _ resumes => ⟨[], ⟨rfl, fine⟩, (List.append_nil told).symm ▸ resumes.2⟩

/-- A call tells nothing. -/
theorem call {act : Sys α} {good : α → Prop} {mayLeave : Prop}
    (ensures : ∀ shown, act.Ensures (fun machine => given ∧ machine.Shows shown)
      (Settled (fun value next => good value ∧ next.Shows shown) (fun _ _ => False) fun status next =>
        mayLeave ∧ HasDied shown status next)) : Reporting given (liftM act) (Silent mayLeave good) := by
  intro told
  refine ((Ensures.lift (· = (resting, told)) (ensures (bytesOf told))).assuming ?_).settle ?_
    (fun _ _ _ holds => holds.2) ?_
  · exact fun _ resumes => ⟨resumes.2.1, resumes.1, resumes.2.2⟩
  · rintro value next - ⟨same, fine, shows⟩
    exact ⟨[], ⟨rfl, fine⟩, (List.append_nil told).symm ▸ ⟨same, shows⟩⟩
  · rintro status next ⟨same, leaves, died⟩
    exact ⟨[], ⟨rfl, leaves⟩, (List.append_nil told).symm ▸ ⟨congrArg Prod.snd same, died⟩⟩

/-- A call whose error ends the program tells nothing. -/
theorem must {act : Sys α} {good : α → Prop} (context : String)
    (kept : ∀ shown, act.Keeps True (Shows shown) good) : Reporting given (must act context) (Silent True good) :=
  .call fun shown => (Complaint.ensures_orDie context (kept shown)).mono (fun _ => And.right) fun _ _ settled =>
    settled.mono (fun _ holds => holds) (fun _ => id) fun _ died => ⟨trivial, died⟩

/-- A call that never fails tells nothing. -/
theorem plain {act : Sys α} {good : α → Prop} (kept : ∀ shown, act.Keeps False (Shows shown) good) :
    Reporting given (liftM act) (Silent False good) :=
  .call fun shown => (kept shown).succeeds.mono (fun _ => And.right) fun _ _ settled =>
    settled.mono (fun _ holds => holds) (fun _ => id) fun _ => False.elim

theorem get_bind {second : Recorder × Machine → Run Recorder β} {spec : List (List String) → Option β → Prop}
    (tail : ∀ state, Reporting given (second state) spec) : Reporting given (Act.get >>= second) spec :=
  fun told => .get_bind fun state => (tail state told).assuming fun _ => And.right

/-- What follows an outcome tells the rest after a value, and after an exit there is no rest. -/
theorem outcome_bind {act : Run Recorder α} {second : Except Fault α → Run Recorder β}
    {first : List (List String) → Option α → Prop} {later : α → List (List String) → Option β → Prop}
    {spec : List (List String) → Option β → Prop}
    (head : Reporting given act first) (grows : ∀ ended, (second ended).Grows)
    (tail : ∀ value, Reporting (given ∧ ∃ told, first told (some value)) (second (.ok value)) (later value))
    (exits : ∀ status, second (.error (.exit status)) = Act.fault (.exit status))
    (joined : ∀ told value more result,
      first told (some value) → later value more result → spec (told ++ more) result)
    (left : ∀ told, first told none → spec told none) : Reporting given (act.outcome >>= second) spec := by
  intro told
  have framed : act.Ensures (Resumes given told) fun outcome next => given ∧ Concludes told first outcome next :=
    ((head told).frame given).assuming fun _ resumes => ⟨resumes.1, resumes⟩
  refine framed.outcome_bind fun ended => ?_
  rcases ended with (error | _ | status) | value
  · exact .of_unreachable (grows _) fun _ => And.right
  · exact .of_unreachable (grows _) fun _ => And.right
  · rw [exits]
    exact .fault fun _ ⟨_, more, met, rest⟩ => ⟨more, left more met, rest⟩
  · -- Which reports the first part has made is fixed before the second one starts.
    have continued (more : List (List String)) : (second (.ok value)).Ensures
        (fun state => first more (some value) ∧ Resumes given (told ++ more) state) (Concludes told spec) := by
      refine ((((tail value) (told ++ more)).frame (first more (some value))).assuming ?_).mono
        (fun _ => id) fun outcome next ⟨met, concludes⟩ => ?_
      · exact fun _ ⟨met, known, rest⟩ => ⟨met, ⟨known, more, met⟩, rest⟩
      · refine concludes.mono ?_ (fun _ => id) ?_
        · rintro value' ⟨more', met', rest⟩
          exact ⟨more ++ more', joined more value more' _ met met', List.append_assoc told more more' ▸ rest⟩
        · rintro status ⟨more', met', rest⟩
          exact ⟨more ++ more', joined more value more' _ met met', List.append_assoc told more more' ▸ rest⟩
    exact (Ensures.of_exists continued).assuming fun _ ⟨known, more, met, rest⟩ => ⟨more, met, known, rest⟩

theorem bind {act : Run Recorder α} {second : α → Run Recorder β} {first : List (List String) → Option α → Prop}
    {later : α → List (List String) → Option β → Prop} {spec : List (List String) → Option β → Prop}
    (head : Reporting given act first)
    (tail : ∀ value, Reporting (given ∧ ∃ told, first told (some value)) (second value) (later value))
    (joined : ∀ told value more result,
      first told (some value) → later value more result → spec (told ++ more) result)
    (left : ∀ told, first told none → spec told none) : Reporting given (act >>= second) spec := by
  -- The outcome of the first run is resumed before what follows, so a fault of it is the outcome of both.
  have same : act >>= second = act.outcome >>= fun ended => Act.resume ended >>= second := by
    rw [← bind_assoc, Act.outcome_bind_resume]
  rw [same]
  refine outcome_bind head (fun ended => ?_) tail (fun _ => rfl) joined left
  cases ended with
  | ok value => exact (tail value).grows
  | error reason => exact fun _ => List.suffix_refl _

/-- What follows a run without reports tells everything. -/
theorem silent_bind {act : Run Recorder α} {second : α → Run Recorder β} {mayLeave : Prop} {good : α → Prop}
    {spec : List (List String) → Option β → Prop} (head : Reporting given act (Silent mayLeave good))
    (left : mayLeave → spec [] none) (tail : ∀ value, Reporting (given ∧ good value) (second value) spec) :
    Reporting given (act >>= second) spec := by
  refine head.bind (fun value => (tail value).mono ?_ fun _ _ => id) ?_ ?_
  · rintro ⟨known, told, -, fine⟩
    exact ⟨known, fine⟩
  · rintro told value more result ⟨rfl, -⟩ met
    exact met
  · rintro told ⟨rfl, leaves⟩
    exact left leaves

/-- What a run used is released after a value and after an error, which tells nothing more. -/
theorem releasing {release : Sys Unit} {body : Run Recorder α} {spec : List (List String) → Option α → Prop}
    (head : Reporting given body spec) (kept : ∀ shown, release.Keeps False (Shows shown) fun _ => True) :
    Reporting given (Act.releasing (liftM release) body) spec := by
  have releases (given : Prop) : Reporting given (liftM release) (Silent False fun _ => True) := .plain kept
  have resumes (ended : Except Fault α) : (liftM release >>= fun _ => Act.resume ended : Run Recorder α).Grows :=
    (releases True).grows.bind fun _ => by cases ended <;> exact fun _ => List.suffix_refl _
  have gives (given : Prop) (value : α) :
      Reporting given (Pure.pure value : Run Recorder α) (Silent False (· = value)) := .pure rfl
  refine head.outcome_bind (fun ended => ?_)
    (fun value => (releases _).silent_bind False.elim fun _ => gives _ value) (fun _ => rfl) ?_ fun _ => id
  · rcases ended with (error | _ | status) | value
    · exact resumes _
    · exact resumes _
    · exact fun _ => List.suffix_refl _
    · exact resumes _
  · rintro told value more (_ | value') met ⟨rfl, same⟩
    · exact same.elim
    · rw [List.append_nil, same]
      exact met

/-- A recorded report is told, and it never fails. -/
theorem report (texts : List String) :
    Reporting given (recordedReport texts) fun told result => told = [texts] ∧ result = some () := by
  intro told
  let noted (state : Recorder × Machine) : Prop :=
    state.1 = (resting, told ++ [texts]) ∧ state.2.Shows (bytesOf told)
  have notes : (Act.modify fun state => ((state.1.1, state.1.2 ++ [texts]), state.2) : Run Recorder Unit).Ensures
      (Resumes given told) (Succeeds fun _ => noted) :=
    .of_still (fun _ => rfl) (fun _ => rfl) fun _ ⟨_, same, shows⟩ => ⟨by rw [same], shows⟩
  have reports : (Act.focus unrecorded (fun state next => ((next.1, state.1.2), next.2)) (Probe.report texts) :
      Run Recorder Unit).Ensures noted
      (Succeeds fun _ next => next.1 = (resting, told ++ [texts]) ∧ next.2.Shows (bytesOf (told ++ [texts]))) := by
    refine Ensures.focus (ensures_report texts) (fun _ => rfl) (fun _ _ => rfl)
      (fun _ ⟨same, shows⟩ => ⟨congrArg Prod.fst same, shows⟩) ?_
    rintro state outcome next ⟨same, -⟩ settled
    refine settled.mono ?_ (fun _ => id) fun _ => id
    rintro _ ⟨rests, shows⟩
    have record : state.1.2 = told ++ [texts] := congrArg Prod.snd same
    exact ⟨Prod.ext rests record, (bytesOf_concat told texts).symm ▸ shows⟩
  exact (notes.bind_settled fun _ => reports).settle (fun _ _ _ shown => ⟨[texts], ⟨rfl, rfl⟩, shown⟩)
    (fun _ _ _ => id) fun _ _ => False.elim

end Reporting

end LinuxCalls.Probe
