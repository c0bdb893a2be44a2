/-
This file compares the last complaint of a program with a record of the log. Both go to descriptor 2 write by
write, but the complaint is given up where a write is interrupted, and a record is not.
-/

import LinuxCalls.Complaint
import LinuxCalls.Proofs.Calls.Wrappers
import LinuxCalls.Proofs.Log.FirstInterruption
import LinuxCalls.Proofs.Probe.Fair

namespace LinuxCalls

namespace Machine

/-- The log takes no record, because it is off or because it is writing one. -/
def Silent (machine : Machine) : Prop := machine.threshold = .off ∨ machine.recording = true

/-- A machine that only complains goes on to take no record. -/
theorem OnlyComplains.silent {before after : Machine} (complains : before.OnlyComplains after)
    (silent : before.Silent) : after.Silent :=
  silent.imp complains.threshold.trans complains.recording.trans

/-- A silent log does nothing with a record. -/
theorem Silent.tell {machine : Machine} (silent : machine.Silent) (level : Level) (message : String) :
    Log.tell level message machine = (.ok (), machine) := by
  rcases silent with off | recording
  · exact Log.tell_of_off level message off
  · exact (Log.sameWhileRecording_tell level message).same machine recording

/-- Lawful answers do not exceed what is offered in the writes that a machine makes. -/
theorem Makes.fits {calls : List Event} {before after : Machine} (makes : before.Makes calls after)
    (lawful : before.script.Lawful) {write : Log.Written} (among : write.event ∈ calls) : write.Fits := by
  induction makes with
  | nothing => contradiction
  | told told _ step => exact step ((Log.complains_of_told told).lawful lawful) among
  | @asked request reply calls before middle after answered _ step =>
    rcases List.mem_cons.mp among with same | later
    · obtain ⟨asked, answer⟩ := Event.mk.inj same
      cases asked
      have written : write = ⟨write.offered, reply.word⟩ :=
        congrArg (Log.Written.mk write.offered) (Option.some.inj answer)
      rw [written]
      exact Log.fits_of_request answered lawful
    · obtain ⟨-, rfl⟩ := eq_of_perform_eq_ok answered
      exact step (lawful.next _) later
  | exited left _ step =>
    rw [eq_of_perform_eq_exit left] at step
    exact step lawful (List.mem_of_ne_of_mem (fun same => by injections) among)
  | ran runtime answered _ step =>
    cases answered
    exact step (lawful.next _) (List.mem_of_ne_of_mem (fun same => by injections) among)
  | stored memory _ step => exact step lawful among

/-- Calls that are complaints add nothing but complaints to the journal. -/
theorem Makes.added_of_complaints {calls : List Event} {before after : Machine} (makes : before.Makes calls after)
    (complaints : ∀ call ∈ calls, call.question.isComplaint = true) : ∃ added,
      after.events = before.events ++ added ∧ ∀ event ∈ added, event.question.isComplaint = true := by
  obtain ⟨added, joined⟩ := makes.grown
  have none : Event.withoutComplaints calls = [] :=
    List.filter_eq_nil_iff.mpr fun call member => by simp [complaints call member]
  have asked := makes.asked_eq
  rw [none, ← joined, Event.withoutComplaints, List.filter_append] at asked
  have kept : added.filter (fun event => !event.question.isComplaint) = [] := List.append_cancel_right asked
  refine ⟨added.reverse, ?_, fun event member => ?_⟩
  · rw [Machine.events, ← joined, List.reverse_append]
    rfl
  · simpa using List.filter_eq_nil_iff.mp kept event (List.mem_reverse.mp member)

end Machine

namespace Complaint

open Log (Written Rounds SameAnswers upToInterruption deliver deliverWithin request)

/-- An attempt at a write gives the answer that the word of its call stands for. -/
theorem attempt_write_of_invoke {bytes : Bytes} {word : UInt64} {machine next : Machine}
    (invoked : CallKind.write.invoke [.ofInt32 Descriptor.complaints, .data bytes, .ofLength bytes.length] machine =
      Act.ofExcept (RawReturn.decode word) next) :
    (Descriptor.write Descriptor.complaints bytes).attempt machine =
      (.ok (Written.offer ⟨bytes, word⟩).answer, next) := by
  apply Act.attempt_of_ofExcept
  cases decoded : RawReturn.decode word with
  | ok count =>
    rw [decoded] at invoked
    rw [Written.offer_of_ok decoded, Descriptor.write, Act.bind_of_ok _ invoked]
    rfl
  | error error =>
    rw [decoded] at invoked
    rw [Written.offer_of_error decoded, Descriptor.write, Act.bind_of_fault _ invoked]
    rfl

/-- With a silent log, an attempt at a write is one request. -/
theorem attempt_write_of_silent {bytes : Bytes} {reply : Reply} {machine next : Machine} (silent : machine.Silent)
    (performed : perform (request bytes) machine = (.ok reply, next)) :
    (Descriptor.write Descriptor.complaints bytes).attempt machine =
      (.ok (Written.offer ⟨bytes, reply.word⟩).answer, next) := by
  have silent' : next.Silent := (Log.complains_of_request performed).silent silent
  let completion : Completion := ⟨RawReturn.decode reply.word, reply.stored⟩
  have once : CallKind.attemptOnce Log.tell .write (request bytes).registers machine = (.ok completion, next) := by
    rw [CallKind.attemptOnce, Act.bind_of_ok _ (silent.tell _ _)]
    change (perform (request bytes) >>= _) machine = _
    rw [Act.bind_of_ok _ performed, Act.bind_of_ok _ (silent'.tell _ _)]
    rfl
  have settled : CallKind.attemptAgain.settle Log.tell .write completion next = (.ok completion, next) := by
    unfold CallKind.attemptAgain.settle
    split
    · rw [Act.bind_of_ok _ (silent'.tell _ _)]
      rfl
    · rfl
  have never : (Policy.of .write).retry ≠ .whenBusy := by decide
  have completed (left : Nat) :
      CallKind.attemptAgain Log.tell .write (request bytes).registers left machine = (.ok completion, next) := by
    cases left with
    | zero => rw [CallKind.attemptAgain, Act.bind_of_ok _ once, settled]
    | succ left => rw [CallKind.attemptAgain, Act.bind_of_ok _ once, if_neg fun both => never both.2, settled]
  apply attempt_write_of_invoke
  rw [CallKind.invoke, CallKind.complete, CallKind.issue, if_neg (by simp [CallKind.registerCount])]
  exact Act.bind_of_ok _ (completed _)

/-- A machine makes one write of its own. With a silent log, it makes nothing but the request. -/
structure Writes (machine : Machine) (write : Written) (next : Machine) : Prop where
  made : machine.Makes [write.event] next
  asked : machine.Silent →
    ∃ reply, reply.word = write.word ∧ perform (request write.offered) machine = (.ok reply, next)

/-- An attempt at a write is one write of the machine's own, unless a log that is not ready panics. -/
theorem attempt_write (bytes : Bytes) (machine : Machine) :
    (∃ next, (Descriptor.write Descriptor.complaints bytes).attempt machine = (.error .panic, next) ∧
      ¬ machine.LogReady) ∨
    ∃ word next, (Descriptor.write Descriptor.complaints bytes).attempt machine =
        (.ok (Written.offer ⟨bytes, word⟩).answer, next) ∧ Writes machine ⟨bytes, word⟩ next := by
  by_cases silent : machine.Silent
  · obtain ⟨reply, next, performed, -⟩ := Log.perform_request bytes machine
    exact .inr ⟨reply.word, next, attempt_write_of_silent silent performed,
      .asked performed (.nothing next), fun _ => ⟨reply, rfl, performed⟩⟩
  · have traced : (CallKind.write.invoke
        [.ofInt32 Descriptor.complaints, .data bytes, .ofLength bytes.length]).Traces machine _ :=
      CallKind.traces_invoke_once (by decide) (by decide) (by simp [CallKind.registerCount])
    rcases traced with ⟨calls, makes, result, ended, word, rfl, rfl⟩ | ⟨panicked, unready⟩
    · refine .inr ⟨word, _, attempt_write_of_invoke ?_, makes, fun loud => absurd loud silent⟩
      rw [Act.ofExcept_apply]
      exact Prod.ext ended rfl
    · have failed : Descriptor.write Descriptor.complaints bytes machine = (.error .panic, _) :=
        Act.bind_of_fault _ (Prod.ext panicked rfl)
      exact .inl ⟨_, by rw [Act.attempt, failed], unready⟩

/-- This action pushes bytes if there are any. -/
def pushRest (bytes : Bytes) : Sys Unit := if bytes = [] then pure () else push bytes

/-- A round of a push is one write, and only an answer that goes on without an interruption brings another round. -/
theorem pushRest_of_written {write : Written} {machine next : Machine} (some : write.offered ≠ [])
    (attempted : (Descriptor.write Descriptor.complaints write.offered).attempt machine =
      (.ok write.offer.answer, next)) :
    ¬ write.Fits ∧ pushRest write.offered machine = (.error .panic, next) ∨
      (write.isInterrupted = true ∨ ¬ write.GoesOn) ∧ pushRest write.offered machine = (.ok (), next) ∨
      (write.Fits ∧ write.GoesOn ∧ write.isInterrupted = false) ∧
        pushRest write.offered machine = pushRest write.offer.left next := by
  rw [pushRest, if_neg some, push, Act.bind_of_ok _ attempted]
  cases answer : write.offer.answer with
  | error error =>
    refine .inr (.inl ⟨?_, rfl⟩)
    by_cases interrupted : error = Errno.interrupted
    · exact .inl (by simp [Written.isInterrupted, answer, interrupted])
    · exact .inr (by simpa [Written.GoesOn, answer] using interrupted)
  | ok count =>
    dsimp only
    by_cases none : count = 0
    · rw [dif_pos none]
      exact .inr (.inl ⟨.inr (by simpa [Written.GoesOn, answer] using none), rfl⟩)
    · rw [dif_neg none]
      by_cases beyond : write.offered.length < count
      · rw [dif_pos beyond]
        exact .inl ⟨fun fits => Nat.not_le.mpr beyond (fits count answer), rfl⟩
      · have within : write.Fits := fun other same => by
          rw [answer] at same
          cases same
          exact Nat.le_of_not_lt beyond
        have left : write.offer.left = write.offered.drop count := by
          unfold Offer.left
          rw [answer]
          rfl
        rw [dif_neg beyond, left]
        exact .inr (.inr ⟨⟨within, by simpa [Written.GoesOn, answer] using none,
          by simp [Written.isInterrupted, answer]⟩, rfl⟩)

/--
Writes of a machine's own are those of a delivery up to the first interruption. With a silent log there is nothing
else in the journal, and the delivery is the one that the log itself would make.
-/
structure CutsDelivery (bytes : Bytes) (machine : Machine) (own : List Written)
    (ended : Except Fault Unit × Machine) : Prop where
  makes : machine.Makes (own.map Written.event) ended.2
  ends : (∀ write ∈ own, write.Fits) ∧ ended.1 = .ok () ∨ (∃ write ∈ own, ¬ write.Fits) ∧ ended.1 = .error .panic
  cut : ∃ writes outcome, Rounds bytes writes outcome ∧ own = upToInterruption writes
  events : machine.Silent → ended.2.events = machine.events ++ own.map Written.event
  delivery : machine.Silent → ∀ patience, bytes.length + machine.script.uses .complaints < patience →
    ∃ writes, (deliverWithin patience bytes machine).2.events = machine.events ++ writes.map Written.event ∧
      own = upToInterruption writes

namespace CutsDelivery

variable {bytes : Bytes} {word : UInt64} {machine next : Machine}

/-- Without bytes there is no write. -/
theorem nothing (machine : Machine) : CutsDelivery [] machine [] (.ok (), machine) where
  makes := .nothing machine
  ends := .inl ⟨nofun, rfl⟩
  cut := ⟨[], .ok (), .finished, rfl⟩
  events _ := (List.append_nil _).symm
  delivery _ patience _ := by
    refine ⟨[], ?_, rfl⟩
    cases patience <;> exact (List.append_nil _).symm

/-- A write is the last one if it was interrupted, or if the delivery does not go on after it either. -/
theorem last (some : bytes ≠ []) (short : bytes.length < 2 ^ 63) (writes : Writes machine ⟨bytes, word⟩ next)
    (final : Written.isInterrupted ⟨bytes, word⟩ = true ∨
      ¬ (Written.Fits ⟨bytes, word⟩ ∧ Written.GoesOn ⟨bytes, word⟩))
    {ending : Except Fault Unit} (ends : Written.Fits ⟨bytes, word⟩ ∧ ending = .ok () ∨
      ¬ Written.Fits ⟨bytes, word⟩ ∧ ending = .error .panic) :
    CutsDelivery bytes machine [⟨bytes, word⟩] (ending, next) where
  makes := writes.made
  ends := by simpa using ends
  cut := by
    rcases final with interrupted | stops
    · obtain ⟨fits, goesOn, left⟩ := Written.of_interrupted interrupted
      obtain ⟨others, -, rounds, -⟩ := Log.deliver_rounds short next
      exact ⟨_, _, .onwards some fits goesOn (by rw [left]; exact rounds),
        (Log.upToInterruption_of_interrupted interrupted others).symm⟩
    · by_cases goesOn : Written.GoesOn ⟨bytes, word⟩
      · have beyond : ¬ Written.Fits ⟨bytes, word⟩ := fun fits => stops ⟨fits, goesOn⟩
        exact ⟨_, _, .overrun some beyond, (Log.upToInterruption_singleton _).symm⟩
      · exact ⟨_, _, .stopped some goesOn, (Log.upToInterruption_singleton _).symm⟩
  events silent := by
    obtain ⟨reply, rfl, performed⟩ := writes.asked silent
    exact Log.events_of_request performed
  delivery silent patience enough := by
    obtain ⟨reply, rfl, performed⟩ := writes.asked silent
    have noted := Log.events_of_request performed
    obtain ⟨patience, rfl⟩ := Nat.exists_eq_succ_of_ne_zero (Nat.ne_of_gt (Nat.zero_lt_of_lt enough))
    have alone {outcome : Except Fault Unit} (same : deliverWithin (patience + 1) bytes machine = (outcome, next)) :
        (deliverWithin (patience + 1) bytes machine).2.events =
          machine.events ++ [(⟨bytes, reply.word⟩ : Written)].map Written.event := by
      rw [same]
      exact noted
    rcases Log.deliverWithin_succ patience some performed with ⟨-, same⟩ | ⟨-, same⟩ | ⟨fits, goesOn, same⟩
    · exact ⟨_, alone same, (Log.upToInterruption_singleton _).symm⟩
    · exact ⟨_, alone same, (Log.upToInterruption_singleton _).symm⟩
    · -- The log goes on where the write was interrupted, with the same bytes.
      have interrupted := final.resolve_right fun stops => stops ⟨fits, goesOn⟩
      have left : (Written.offer ⟨bytes, reply.word⟩).left = bytes := (Written.of_interrupted interrupted).2.2
      have less := Log.lt_of_goesOn some short performed goesOn
      rw [left] at same less
      have enough' : bytes.length + next.script.uses .complaints < patience := by omega
      obtain ⟨others, joined, -⟩ := Log.deliverWithin_rounds short enough'
      refine ⟨⟨bytes, reply.word⟩ :: others, ?_, (Log.upToInterruption_of_interrupted interrupted _).symm⟩
      rw [same, joined, noted]
      simp [Written.event]

/-- A write that goes on without an interruption is followed by the writes of what it has left. -/
theorem cons (some : bytes ≠ []) (short : bytes.length < 2 ^ 63) (writes : Writes machine ⟨bytes, word⟩ next)
    (fits : Written.Fits ⟨bytes, word⟩) (goesOn : Written.GoesOn ⟨bytes, word⟩)
    (heard : Written.isInterrupted ⟨bytes, word⟩ = false) {own : List Written}
    {ended : Except Fault Unit × Machine}
    (later : CutsDelivery (Written.offer ⟨bytes, word⟩).left next own ended) :
    CutsDelivery bytes machine (⟨bytes, word⟩ :: own) ended where
  makes := writes.made.trans later.makes
  ends := by simpa [fits] using later.ends
  cut := by
    obtain ⟨writes, outcome, rounds, rfl⟩ := later.cut
    exact ⟨_, outcome, .onwards some fits goesOn rounds, (Log.upToInterruption_of_heard heard writes).symm⟩
  events silent := by
    obtain ⟨reply, rfl, performed⟩ := writes.asked silent
    rw [later.events ((Log.complains_of_request performed).silent silent), Log.events_of_request performed]
    simp [Written.event]
  delivery silent patience enough := by
    obtain ⟨reply, rfl, performed⟩ := writes.asked silent
    obtain ⟨patience, rfl⟩ := Nat.exists_eq_succ_of_ne_zero (Nat.ne_of_gt (Nat.zero_lt_of_lt enough))
    have less := Log.lt_of_goesOn some short performed goesOn
    obtain ⟨others, joined, rfl⟩ :=
      later.delivery ((Log.complains_of_request performed).silent silent) patience (by omega)
    rcases Log.deliverWithin_succ patience some performed with ⟨beyond, -⟩ | ⟨stops, -⟩ | ⟨-, -, same⟩
    · exact absurd fits beyond
    · exact absurd goesOn stops
    · refine ⟨⟨bytes, reply.word⟩ :: others, ?_, (Log.upToInterruption_of_heard heard others).symm⟩
      rw [same, joined, Log.events_of_request performed]
      simp [Written.event]

end CutsDelivery

/-- A push makes the writes of a delivery up to the first interruption, unless a log that is not ready panics. -/
theorem pushRest_cutsDelivery (bytes : Bytes) (short : bytes.length < 2 ^ 63) (machine : Machine) :
    (∃ next, pushRest bytes machine = (.error .panic, next) ∧ ¬ machine.LogReady) ∨
      ∃ own, CutsDelivery bytes machine own (pushRest bytes machine) := by
  -- Each round that goes on without an interruption leaves fewer bytes.
  induction size : bytes.length using Nat.strongRecOn generalizing bytes machine with
  | ind length step =>
    subst size
    by_cases done : bytes = []
    · subst done
      exact .inr ⟨[], .nothing machine⟩
    · rcases attempt_write bytes machine with ⟨next, panicked, unready⟩ | ⟨word, next, attempted, writes⟩
      · exact .inl ⟨next, by rw [pushRest, if_neg done, push, Act.bind_of_fault _ panicked], unready⟩
      · have rounds := @pushRest_of_written ⟨bytes, word⟩ machine next done attempted
        rcases rounds with ⟨beyond, ended⟩ | ⟨last, ended⟩ | ⟨⟨fits, goesOn, heard⟩, ended⟩
        · rw [ended]
          exact .inr ⟨_, .last done short writes (.inr fun both => beyond both.1) (.inr ⟨beyond, rfl⟩)⟩
        · have fits : Written.Fits ⟨bytes, word⟩ :=
            last.elim (fun interrupted => (Written.of_interrupted interrupted).1) Written.fits_of_stops
          rw [ended]
          exact .inr ⟨_, .last done short writes (last.imp_right fun stops both => stops both.2) (.inl ⟨fits, rfl⟩)⟩
        · have fewer : (Written.offer ⟨bytes, word⟩).left.length < bytes.length :=
            Written.length_left_lt done goesOn heard
          rw [ended]
          rcases step _ fewer _ (Nat.lt_trans fewer short) next rfl with ⟨last, panicked, unready⟩ | ⟨own, later⟩
          · exact .inl ⟨last, panicked, fun ready => unready (writes.made.logReady ready)⟩
          · exact .inr ⟨_, later.cons done short writes fits goesOn heard⟩

/--
The last words of a program: what it has put to descriptor 2 before it asks to exit, once and at the very end. They
are what a delivery of the line has up to the first interruption, and they are the whole line exactly if every answer
is a positive count.
-/
structure LastWords (bytes : Bytes) (own : List Written) (before after : Machine) : Prop where
  fits : ∀ write ∈ own, write.Fits
  makes : before.Makes (own.map Written.event ++ [Machine.leaving 1]) after
  exits : ∃ added, after.events = before.events ++ added ++ [Machine.leaving 1] ∧
    ∀ event ∈ added, event.question.isComplaint = true
  front : own.flatMap Written.accepted <+: bytes
  whole : own.flatMap Written.accepted = bytes ↔ ∀ write ∈ own, write.GoesOn ∧ write.isInterrupted = false
  cut : ∃ writes outcome, Rounds bytes writes outcome ∧ own = upToInterruption writes
  only : ∀ writes outcome, Rounds bytes writes outcome → SameAnswers own writes → own = upToInterruption writes
  logged : before.Silent → after.events = before.events ++ own.map Written.event ++ [Machine.leaving 1] ∧
    ∃ writes, (deliver bytes before).2.events = before.events ++ writes.map Written.event ∧
      own = upToInterruption writes
  alike : before.Silent → (∀ write ∈ own, write.isInterrupted = false) →
    after.accepted Log.complaints = (deliver bytes before).2.accepted Log.complaints

/-- A line that was pushed with answers that fit becomes the last words once the program has asked to exit. -/
theorem CutsDelivery.lastWords {bytes : Bytes} {own : List Written} {before middle : Machine}
    (short : bytes.length < 2 ^ 63) (cuts : CutsDelivery bytes before own (.ok (), middle))
    (fits : ∀ write ∈ own, write.Fits) :
    LastWords bytes own before (middle.note (Machine.leaving 1).question none) where
  fits := fits
  makes := by
    have left : perform ⟨CallKind.exit.number, [.ofInt32 1]⟩ middle = _ := perform_of_exit rfl middle
    exact cuts.makes.trans (.exited left (.nothing _))
  exits := by
    obtain ⟨added, joined, complaints⟩ := cuts.makes.added_of_complaints fun call member => by
      obtain ⟨write, -, rfl⟩ := List.mem_map.mp member
      rfl
    exact ⟨added, by rw [Machine.events_note, joined]; rfl, complaints⟩
  front := by
    obtain ⟨writes, outcome, rounds, rfl⟩ := cuts.cut
    exact ((Log.upToInterruption_prefix writes).flatMap _).trans (rounds.accepted_prefix short)
  whole := by
    obtain ⟨writes, outcome, rounds, rfl⟩ := cuts.cut
    exact rounds.accepted_eq_iff short fits
  cut := cuts.cut
  only writes outcome rounds same := by
    obtain ⟨others, outcome', rounds', rfl⟩ := cuts.cut
    exact (rounds'.upToInterruption_eq rounds same).symm
  logged silent := by
    refine ⟨?_, cuts.delivery silent _ (Nat.lt_succ_self _)⟩
    rw [Machine.events_note, cuts.events silent]
    rfl
  alike silent heard := by
    obtain ⟨writes, joined, rfl⟩ := cuts.delivery silent _ (Nat.lt_succ_self _)
    rw [Log.upToInterruption_eq_self heard] at cuts
    unfold Machine.accepted
    rw [Machine.events_note, cuts.events silent, show (deliver bytes before).2.events = _ from joined,
      List.flatMap_append]
    exact List.append_nil _

/--
A program that cannot go on pushes its line and exits with code 1, but unlike a record of the log it gives the line up
at the first interruption. With lawful answers it always ends so. It panics instead where an answer exceeds what was
offered, or where a log that is not ready does. No line in memory is as long as the bound.
-/
theorem die_stops_at_interruption {α : Type} (context : String) (error : Errno) (machine : Machine)
    (short : (Bytes.ofText (line context error)).length < 2 ^ 63) :
    let died := (die context error : Sys α) machine
    (died.1 = .error .panic ∧ ¬ machine.LogReady) ∨
      ∃ own : List Written, (machine.script.Lawful → ∀ write ∈ own, write.Fits) ∧
        (died.1 = .error .panic ∧ machine.Makes (own.map Written.event) died.2 ∧ (∃ write ∈ own, ¬ write.Fits) ∨
          died.1 = .error (.exit 1) ∧ LastWords (Bytes.ofText (line context error)) own machine died.2) := by
  intro died
  have some : Bytes.ofText (line context error) ≠ [] := by
    unfold line
    simp [Bytes.ofText]
  have pushes : pushRest (Bytes.ofText (line context error)) = push (Bytes.ofText (line context error)) :=
    if_neg some
  have dies : died = (push (Bytes.ofText (line context error)) >>= fun _ => Process.exit 1) machine := rfl
  rcases pushRest_cutsDelivery _ short machine with ⟨next, panicked, unready⟩ | ⟨own, cuts⟩
  · rw [pushes] at panicked
    rw [dies, Act.bind_of_fault _ panicked]
    exact .inl ⟨rfl, unready⟩
  · rw [pushes] at cuts
    refine .inr ⟨own, fun lawful write member => cuts.makes.fits lawful (List.mem_map_of_mem member), ?_⟩
    rcases ended : push (Bytes.ofText (line context error)) machine with ⟨outcome, next⟩
    rw [ended] at cuts
    rcases cuts.ends with ⟨fits, rfl⟩ | ⟨beyond, rfl⟩
    · rw [dies, Act.bind_of_ok _ ended]
      exact .inr ⟨rfl, cuts.lastWords short fits⟩
    · rw [dies, Act.bind_of_fault _ ended]
      exact .inl ⟨rfl, cuts.makes, beyond⟩

/-- A short write goes on and an interruption ends a complaint, of which the log would deliver the rest. -/
theorem die_stops_at_interruption_short :
    let machine := Machine.start ⟨[(.complaints,
      [{ most := some 3 }, { word := some (RawReturn.encode (.error Errno.interrupted)) }])]⟩ .off
    let died := (die "open" Errno.accessDenied : Sys Unit) machine
    (Bytes.ofText (line "open" Errno.accessDenied)).length < 2 ^ 63 ∧
      (∃ own : List Written, (∀ write ∈ own, write.Fits) ∧ died.1 = .error (.exit 1) ∧
        LastWords (Bytes.ofText (line "open" Errno.accessDenied)) own machine died.2) ∧
      died.2.accepted Log.complaints = Bytes.ofText "err" := by
  intro machine died
  have short : (Bytes.ofText (line "open" Errno.accessDenied)).length < 2 ^ 63 := by decide
  have lawful : machine.script.Lawful := by decide
  refine ⟨short, ?_, by decide +kernel⟩
  rcases die_stops_at_interruption (α := Unit) "open" Errno.accessDenied machine short with
    ⟨-, unready⟩ | ⟨own, fit, ended⟩
  · exact absurd (.inl rfl) unready
  · rcases ended with ⟨-, -, write, member, beyond⟩ | ⟨exited, words⟩
    · exact absurd (fit lawful write member) beyond
    · exact ⟨own, fit lawful, exited, words⟩

/-- The first write of a complaint is interrupted, and nothing of it arrives where the log would deliver the line. -/
theorem die_loses_interrupted_line :
    let machine := Machine.start ⟨[(.complaints,
      [{ word := some (RawReturn.encode (.error Errno.interrupted)) }])]⟩ .off
    let bytes := Bytes.ofText (line "open" Errno.accessDenied)
    ((die "open" Errno.accessDenied : Sys Unit) machine).2.accepted Log.complaints = [] ∧
      (deliver bytes machine).2.accepted Log.complaints = bytes ∧ bytes ≠ [] := by
  decide +kernel

end Complaint

end LinuxCalls
