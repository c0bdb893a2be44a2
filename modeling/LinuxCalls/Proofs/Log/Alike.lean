/-
This file relates two machines that differ in their logs only: a quiet one, which logs nothing, and a
loud one, which has any threshold and any answers for its complaints.
-/

import LinuxCalls.Log.Backend

namespace LinuxCalls

namespace Request

/-- A complaint is a write to descriptor 2. -/
def isComplaint (request : Request) : Bool :=
  request.number == CallKind.write.number && request.register 0 == 2

/-- Complaints are the requests that draw their answers from the channel for complaints. -/
theorem ofRequest_eq_complaints_iff (request : Request) :
    Channel.ofRequest request = .complaints ↔ request.isComplaint = true := by
  unfold Channel.ofRequest isComplaint
  by_cases clone : request.number = CallKind.cloneNumber
  · rw [if_pos clone, clone]
    have differs : (CallKind.cloneNumber == CallKind.write.number) = false := by decide
    simp [differs]
  · rw [if_neg clone]
    have known : CallKind.ofNumber? CallKind.write.number = some .write := by decide
    cases found : CallKind.ofNumber? request.number with
    | none =>
      have other : request.number ≠ CallKind.write.number := by
        intro same
        rw [same, known] at found
        contradiction
      simp [other]
    | some kind =>
      have number : kind.number = request.number := by simpa using List.find?_some found
      by_cases write : kind = .write
      · subst write
        by_cases target : request.register 0 = 2 <;> simp [← number, target]
      · have other : request.number ≠ CallKind.write.number := by
          intro same
          rw [same, known] at found
          exact write (Option.some.inj found).symm
        have otherCall : ¬ ((request.number == CallKind.write.number) && request.register 0 == 2) = true := by
          simp [other]
        refine ⟨fun complains => ?_, fun complains => absurd complains otherCall⟩
        split at complains
        · rename_i same
          exact absurd (Option.some.inj same) write
        · contradiction
        · contradiction

end Request

/-- A question is a complaint if it is such a request. Questions to the runtime are none. -/
def Question.isComplaint : Question → Bool
  | .kernel request => request.isComplaint
  | .runtime _ _ => false

/-- This function removes the complaints from a list of questions. -/
def Question.withoutComplaints (questions : List Question) : List Question :=
  questions.filter fun question => !question.isComplaint

/-- This function removes the complaints from a journal. -/
def Event.withoutComplaints (journal : List Event) : List Event :=
  journal.filter fun event => !event.question.isComplaint

/-- The word of an answer, if it names one, is a count or an error as the kernel returns them. -/
def Answer.IsLawful (answer : Answer) : Prop :=
  ∀ word, answer.word = some word → -Errno.largest.toInt64 ≤ word.toInt64

instance (answer : Answer) : Decidable answer.IsLawful :=
  decidable_of_iff (answer.word.all (fun word => -Errno.largest.toInt64 ≤ word.toInt64) = true) <| by
    simp only [Option.all_eq_true, decide_eq_true_eq]
    rfl

namespace Script

/-- A script gives lawful answers to complaints. -/
def Lawful (script : Script) : Prop := ∀ answer ∈ script.queue .complaints, answer.IsLawful

instance (script : Script) : Decidable script.Lawful :=
  inferInstanceAs (Decidable (∀ answer ∈ script.queue .complaints, answer.IsLawful))

/-- Two scripts agree beside their answers to complaints. -/
def AgreesBesideComplaints (first second : Script) : Prop :=
  ∀ channel, channel ≠ .complaints → first.queue channel = second.queue channel

/-- The answers left after one use are among those before, up to the number of uses. -/
theorem exists_of_mem_spend {answers : List Answer} {answer : Answer} (left : answer ∈ spend answers) :
    ∃ before ∈ answers, before.word = answer.word := by
  cases answers with
  | nil => exact absurd left List.not_mem_nil
  | cons first rest =>
    rw [spend] at left
    split at left
    · exact ⟨answer, List.mem_cons_of_mem _ left, rfl⟩
    · rcases List.mem_cons.mp left with rfl | later
      · exact ⟨first, List.mem_cons_self, rfl⟩
      · exact ⟨answer, List.mem_cons_of_mem _ later, rfl⟩

/-- Using an answer to a complaint leaves lawful answers. -/
theorem Lawful.next {script : Script} (lawful : script.Lawful) (channel : Channel) :
    (script.next channel).2.Lawful := by
  intro answer left
  by_cases same : channel = .complaints
  · subst same
    rw [queue_next_self] at left
    obtain ⟨before, member, word⟩ := exists_of_mem_spend left
    intro named found
    exact lawful before member named (word.trans found)
  · rw [queue_next_of_ne _ (Ne.symm same)] at left
    exact lawful answer left

/-- Scripts that agree beside complaints do so after the same use. -/
theorem AgreesBesideComplaints.next {first second : Script} (agrees : first.AgreesBesideComplaints second)
    (channel : Channel) : (first.next channel).2.AgreesBesideComplaints (second.next channel).2 := by
  intro asked other
  by_cases same : asked = channel
  · subst same
    rw [queue_next_self, queue_next_self, agrees asked other]
  · rw [queue_next_of_ne _ same, queue_next_of_ne _ same, agrees asked other]

/-- The answers beside complaints stay when a complaint is answered. -/
theorem agreesBesideComplaints_next (script : Script) :
    script.AgreesBesideComplaints (script.next .complaints).2 := fun _ other =>
  (queue_next_of_ne script other).symm

end Script

namespace Machine

/-- A machine has not been asked for a complaint. -/
def IsQuiet (machine : Machine) : Prop := ∀ event ∈ machine.journal, event.question.isComplaint = false

/--
A loud machine is like a quiet one whose log is off if it only adds complaints and if its answers to
complaints are lawful.
-/
structure Alike (quiet loud : Machine) : Prop where
  off : quiet.threshold = .off
  idle : loud.recording = false
  memory : loud.memory = quiet.memory
  agrees : quiet.script.AgreesBesideComplaints loud.script
  lawful : loud.script.Lawful
  asked : Event.withoutComplaints loud.journal = Event.withoutComplaints quiet.journal

/-- The questions of a suffix of a quiet machine's journal are no complaints either. -/
theorem IsQuiet.of_suffix {first last : Machine} (quiet : last.IsQuiet)
    (suffix : first.journal <:+ last.journal) : first.IsQuiet := fun event member =>
  quiet event (suffix.subset member)

end Machine

end LinuxCalls
