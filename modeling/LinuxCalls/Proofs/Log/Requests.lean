/-
This file shows that what the library asks the kernel and the threading runtime is transparent, from a
single request up to an attempt at a call.
-/

import LinuxCalls.Invoke
import LinuxCalls.Proofs.Log.Telling

namespace LinuxCalls

open Act (Transparent)

namespace Machine

/-- A question that both machines ask keeps them alike. -/
theorem Alike.note {quiet loud : Machine} (alike : quiet.Alike loud) (question : Question)
    (word : Option UInt64) : (quiet.note question word).Alike (loud.note question word) where
  off := alike.off
  idle := alike.idle
  memory := alike.memory
  agrees := alike.agrees
  lawful := alike.lawful
  asked := by
    have before := alike.asked
    unfold Event.withoutComplaints at before ⊢
    rw [Machine.note, Machine.note, List.filter_cons, List.filter_cons, before]

/-- Like machines draw the same answer from every channel but the one for complaints. -/
theorem Alike.answer_eq {quiet loud : Machine} (alike : quiet.Alike loud) {channel : Channel}
    (other : channel ≠ .complaints) :
    (loud.script.next channel).1 = (quiet.script.next channel).1 := by
  change (loud.script.queue channel).head? = (quiet.script.queue channel).head?
  rw [alike.agrees channel other]

/-- An answer that both machines draw keeps them alike. -/
theorem Alike.next {quiet loud : Machine} (alike : quiet.Alike loud) (channel : Channel)
    {quietMemory loudMemory : Memory} (same : loudMemory = quietMemory) :
    Alike { quiet with script := (quiet.script.next channel).2, memory := quietMemory }
      { loud with script := (loud.script.next channel).2, memory := loudMemory } where
  off := alike.off
  idle := alike.idle
  memory := same
  agrees := alike.agrees.next channel
  lawful := alike.lawful.next channel
  asked := alike.asked

end Machine

/-- A question at the front of a quiet machine's journal is no complaint. -/
theorem Machine.IsQuiet.head {machine : Machine} {question : Question} {word : Option UInt64}
    (quiet : (machine.note question word).IsQuiet) : question.isComplaint = false :=
  quiet ⟨question, word⟩ List.mem_cons_self

/-- Like machines serve a request alike unless it is a complaint. -/
theorem Machine.Alike.serve {quiet loud : Machine} (alike : quiet.Alike loud) {request : Request}
    (other : Channel.ofRequest request ≠ .complaints) :
    (loud.serve request).1 = (quiet.serve request).1 ∧
      (quiet.serve request).2.Alike (loud.serve request).2 := by
  have same := alike.answer_eq other
  have reply : (loud.serve request).1 = (quiet.serve request).1 :=
    congrArg (Machine.replyOf (Channel.ofRequest request) request) same
  have memory : (loud.serve request).2.memory = (quiet.serve request).2.memory := by
    change Machine.memoryAfter loud.memory request (loud.script.next (Channel.ofRequest request)).1
      (loud.serve request).1 = Machine.memoryAfter quiet.memory request
        (quiet.script.next (Channel.ofRequest request)).1 (quiet.serve request).1
    rw [alike.memory, same, reply]
  exact ⟨reply, alike.next (Channel.ofRequest request) memory⟩

/-- A request is transparent, as a complaint would not be. -/
theorem transparent_perform (request : Request) : Transparent (perform request) := by
  by_cases exits : request.number = CallKind.exit.number
  · have asked := perform_of_exit exits
    refine .ofMachine (fun quiet off => ?_) fun quiet loud alike _ => ?_
    · rw [asked]
      exact ⟨off, List.suffix_cons _ _⟩
    · rw [asked, asked]
      exact ⟨_, rfl, alike.note _ _, List.suffix_cons _ _⟩
  · have asked := perform_of_ne_exit exits
    refine .ofMachine (fun quiet off => ?_) fun quiet loud alike silent => ?_
    · rw [asked]
      exact ⟨off, List.suffix_cons _ _⟩
    · rw [asked] at silent
      have other : Channel.ofRequest request ≠ .complaints := by
        intro complains
        have complaint := (Request.ofRequest_eq_complaints_iff request).mp complains
        have none : request.isComplaint = false := silent.head
        rw [complaint] at none
        contradiction
      obtain ⟨reply, still⟩ := alike.serve other
      rw [asked, asked, reply]
      exact ⟨_, rfl, still.note _ _, List.suffix_cons _ _⟩

theorem transparent_callRuntime {channel : Channel} (other : channel ≠ .complaints)
    (arguments : List Register) (exhausted : Int32) :
    Transparent (callRuntime channel arguments exhausted) := by
  refine .ofMachine (fun quiet off => ⟨off, List.suffix_cons _ _⟩) fun quiet loud alike _ => ?_
  have same := alike.answer_eq other
  simp only [callRuntime, same]
  exact ⟨_, rfl, (alike.next channel alike.memory).note _ _, List.suffix_cons _ _⟩

namespace CallKind

theorem transparent_attemptOnce (kind : CallKind) (registers : List Register) :
    Transparent (attemptOnce Log.tell kind registers) :=
  .bind (Log.transparent_tell _ _) fun _ => .bind (transparent_perform _) fun _ =>
    .bind (Log.transparent_tell _ _) fun _ => .pure _

end CallKind

end LinuxCalls
