/-
This file says what actions ensure while the kernel answers fairly. It has one rule for each way of making
actions up, and it follows what a process has put on its standard output and whether it still runs.
-/

import LinuxCalls.Proofs.Calls.Devices
import LinuxCalls.Proofs.Log.Growth

namespace LinuxCalls

/--
A call is answered fairly if it does not report more bytes than it was asked for, if a write to the
standard output accepts at least one byte, and if no file in memory takes the place of that output.
-/
structure Event.IsFair (call : Event) : Prop where
  within : call.IsWithin
  accepts : ∀ bytes word, call = (Descriptor.writing Descriptor.output bytes).answered word →
    ∃ count, RawReturn.decode word = .ok count ∧ count ≠ 0
  elsewhere : ∀ (request : Request) word count, call = request.answered word →
    request.number = CallKind.memoryFile.number → RawReturn.decode word = .ok count →
      count.toUInt32.toInt32 ≠ Descriptor.output

/-- The kernel has answered fairly so far. -/
def Machine.IsFair (machine : Machine) : Prop := ∀ event ∈ machine.journal, event.IsFair

/-- What was fair so far was fair at any time before. -/
theorem Machine.IsFair.of_suffix {before after : Machine} (fair : after.IsFair)
    (grown : before.journal <:+ after.journal) : before.IsFair := fun event member =>
  fair event (grown.subset member)

/-- A request to exit ends the process. -/
def Event.leaves (event : Event) : Bool :=
  match event.question with
  | .kernel request => request.number == CallKind.exit.number
  | .runtime _ _ => false

namespace Machine

/-- A process that runs has put some bytes on its standard output. -/
structure Shows (shown : Bytes) (machine : Machine) : Prop where
  accepted : machine.accepted Descriptor.output = shown
  stays : ∀ event ∈ machine.journal, event.leaves = false

/-- The request to exit with a code. -/
def leaving (code : Int32) : Event := ⟨.kernel ⟨CallKind.exit.number, [.ofInt32 code]⟩, none⟩

/-- A process that has put some bytes on its standard output has then exited with a code, and done so once. -/
structure HasLeft (code : Int32) (shown : Bytes) (machine : Machine) : Prop where
  accepted : machine.accepted Descriptor.output = shown
  last : ∃ earlier, machine.events = earlier ++ [leaving code] ∧ ∀ event ∈ earlier, event.leaves = false

end Machine

/-- A complaint puts nothing on the standard output. -/
theorem Event.accepted_of_isComplaint {event : Event} (complains : event.question.isComplaint = true) :
    event.accepted Descriptor.output = [] := by
  obtain ⟨question, word⟩ := event
  unfold Event.accepted
  split
  · rename_i number target bytes rest word question' word'
    dsimp only at question'
    subst question'
    refine if_neg fun written => ?_
    obtain ⟨-, rfl, -⟩ := written
    have second : (Register.ofInt32 Descriptor.output).value = 2 :=
      eq_of_beq (Bool.and_eq_true_iff.mp complains).2
    exact absurd second (by decide)
  · rfl

/-- A complaint does not end the process. -/
theorem Event.leaves_of_isComplaint {event : Event} (complains : event.question.isComplaint = true) :
    event.leaves = false := by
  obtain ⟨question, word⟩ := event
  cases question with
  | runtime name arguments => rfl
  | kernel request =>
    simp only [Question.isComplaint, Request.isComplaint, Bool.and_eq_true, beq_iff_eq] at complains
    simp [Event.leaves, complains.1, CallKind.number]

/-- Complaints make no difference to the standard output. -/
theorem Event.flatMap_accepted_withoutComplaints (journal : List Event) :
    (Event.withoutComplaints journal).flatMap (Event.accepted Descriptor.output) =
      journal.flatMap (Event.accepted Descriptor.output) := by
  induction journal with
  | nil => rfl
  | cons event rest step =>
    unfold Event.withoutComplaints at step ⊢
    rw [List.filter_cons]
    split
    · rw [List.flatMap_cons, List.flatMap_cons, step]
    · rename_i complains
      rw [List.flatMap_cons, Event.accepted_of_isComplaint (by simpa using complains), List.nil_append, step]

namespace Machine

/-- The standard output follows from what was asked beside complaints. -/
theorem accepted_output_eq (machine : Machine) : machine.accepted Descriptor.output =
    (Event.withoutComplaints machine.journal).reverse.flatMap (Event.accepted Descriptor.output) := by
  rw [accepted, events, ← Event.flatMap_accepted_withoutComplaints, Event.withoutComplaints,
    Event.withoutComplaints, List.filter_reverse]

/-- Complaints leave the standard output and the process alone. -/
theorem Shows.complain {shown : Bytes} {before after : Machine} (shows : before.Shows shown)
    (complains : before.OnlyComplains after) : after.Shows shown where
  accepted := by
    rw [accepted_output_eq, complains.asked, ← accepted_output_eq]
    exact shows.accepted
  stays event member := by
    by_cases complaint : event.question.isComplaint = true
    · exact Event.leaves_of_isComplaint complaint
    · have kept : event ∈ Event.withoutComplaints after.journal :=
        List.mem_filter.mpr ⟨member, by simpa using complaint⟩
      rw [complains.asked] at kept
      exact shows.stays event (List.mem_filter.mp kept).1

/-- An event that does not end the process adds to the standard output what it accepts. -/
theorem Shows.of_cons {shown : Bytes} {before after : Machine} {event : Event} (shows : before.Shows shown)
    (noted : after.journal = event :: before.journal) (stays : event.leaves = false) :
    after.Shows (shown ++ event.accepted Descriptor.output) where
  accepted := by
    rw [Machine.accepted, Machine.events, noted, List.reverse_cons, List.flatMap_append, List.flatMap_singleton,
      ← shows.accepted]
    rfl
  stays other member := by
    rw [noted] at member
    rcases List.mem_cons.mp member with rfl | earlier
    · exact stays
    · exact shows.stays other earlier

end Machine

namespace Act

variable {σ τ ρ α β : Type}

/-- An action settles with a value, a reported error or an exit, but not with a panic. -/
def Settled (fine : α → σ → Prop) (failed : Errno → σ → Prop) (left : UInt64 → σ → Prop) :
    Except Fault α → σ → Prop
  | .ok value, next => fine value next
  | .error (.errno error), next => failed error next
  | .error (.exit status), next => left status next
  | .error .panic, _ => False

/-- How an action settles may be said more weakly, or of another state. -/
theorem Settled.mono {fine : α → σ → Prop} {fine' : α → τ → Prop} {failed : Errno → σ → Prop}
    {failed' : Errno → τ → Prop} {left : UInt64 → σ → Prop} {left' : UInt64 → τ → Prop}
    {outcome : Except Fault α} {next : σ} {next' : τ} (settled : Settled fine failed left outcome next)
    (values : ∀ value, fine value next → fine' value next')
    (errors : ∀ error, failed error next → failed' error next')
    (exits : ∀ status, left status next → left' status next') : Settled fine' failed' left' outcome next' := by
  rcases outcome with (error | _ | status) | value
  · exact errors error settled
  · exact settled
  · exact exits status settled
  · exact values value settled

/-- An action succeeds if it settles with a value. -/
abbrev Succeeds (fine : α → σ → Prop) : Except Fault α → σ → Prop :=
  Settled fine (fun _ _ => False) fun _ _ => False

/--
An action that starts where something holds ensures what holds at its end, provided that the kernel has
answered fairly up to there. In any case it only adds to the journal.
-/
structure Ensures [HasMachine σ] (act : Act σ α) (before : σ → Prop) (after : Except Fault α → σ → Prop) :
    Prop where
  grows : act.Grows
  ensures : ∀ state, before state → (machine (act state).2).IsFair → after (act state).1 (act state).2

/-- An action keeps what holds of a state if it gives a good value, or else reports an error if it may. -/
def Keeps [HasMachine σ] (act : Act σ α) (mayFail : Prop) (keeps : σ → Prop) (good : α → Prop) : Prop :=
  act.Ensures keeps (Settled (fun value next => good value ∧ keeps next) (fun _ next => mayFail ∧ keeps next)
    fun _ _ => False)

namespace Ensures

section Control

variable [HasMachine σ] {before : σ → Prop}

/-- What is ensured may be weakened, and what is assumed may be strengthened. -/
theorem mono {act : Act σ α} {before' : σ → Prop} {after after' : Except Fault α → σ → Prop}
    (ensures : act.Ensures before after) (assumed : ∀ state, before' state → before state)
    (weaker : ∀ outcome next, after outcome next → after' outcome next) : act.Ensures before' after' where
  grows := ensures.grows
  ensures state holds fair := weaker _ _ (ensures.ensures state (assumed state holds) fair)

/-- What is assumed may be strengthened. -/
theorem assuming {act : Act σ α} {before' : σ → Prop} {after : Except Fault α → σ → Prop}
    (ensures : act.Ensures before after) (assumed : ∀ state, before' state → before state) :
    act.Ensures before' after := ensures.mono assumed fun _ _ => id

/-- How an action settles may be said in the light of what the kernel has answered. -/
theorem settle {act : Act σ α} {fine fine' : α → σ → Prop} {failed failed' : Errno → σ → Prop}
    {left left' : UInt64 → σ → Prop} (ensures : act.Ensures before (Settled fine failed left))
    (values : ∀ value next, (machine next).IsFair → fine value next → fine' value next)
    (errors : ∀ error next, (machine next).IsFair → failed error next → failed' error next)
    (exits : ∀ status next, left status next → left' status next) :
    act.Ensures before (Settled fine' failed' left') where
  grows := ensures.grows
  ensures state holds fair := (ensures.ensures state holds fair).mono (fun _ => values _ _ fair)
    (fun _ => errors _ _ fair) fun _ => exits _ _

/-- What does not depend on the state goes on to hold. -/
theorem frame {act : Act σ α} {after : Except Fault α → σ → Prop} (fact : Prop)
    (ensures : act.Ensures before after) :
    act.Ensures (fun state => fact ∧ before state) fun outcome next => fact ∧ after outcome next where
  grows := ensures.grows
  ensures state holds fair := ⟨holds.1, ensures.ensures state holds.2 fair⟩

/-- What does not depend on a choice holds for all choices. -/
theorem of_exists {ι : Type} [Inhabited ι] {act : Act σ α} {before : ι → σ → Prop}
    {after : Except Fault α → σ → Prop} (ensures : ∀ choice, act.Ensures (before choice) after) :
    act.Ensures (fun state => ∃ choice, before choice state) after where
  grows := (ensures default).grows
  ensures state holds := holds.elim fun choice holds => (ensures choice).ensures state holds

/-- An action that asks for nothing ensures what holds after it in any case. -/
theorem of_still {act : Act σ α} {result : Except Fault α} {change : σ → σ} {after : Except Fault α → σ → Prop}
    (same : ∀ state, act state = (result, change state))
    (beside : ∀ state, machine (change state) = machine state)
    (meets : ∀ state, before state → after result (change state)) : act.Ensures before after where
  grows state := by rw [same, beside]
  ensures state holds _ := by
    rw [same]
    exact meets state holds

/-- An action that nothing leads to ensures anything. -/
theorem of_unreachable {act : Act σ α} {after : Except Fault α → σ → Prop} (grows : act.Grows)
    (never : ∀ state, ¬ before state) : act.Ensures before after :=
  ⟨grows, fun state holds => absurd holds (never state)⟩

theorem pure {value : α} {after : Except Fault α → σ → Prop}
    (meets : ∀ state, before state → after (.ok value) state) :
    (Pure.pure value : Act σ α).Ensures before after := of_still (fun _ => rfl) (fun _ => rfl) meets

theorem fault {reason : Fault} {after : Except Fault α → σ → Prop}
    (meets : ∀ state, before state → after (.error reason) state) :
    (Act.fault reason : Act σ α).Ensures before after := of_still (fun _ => rfl) (fun _ => rfl) meets

theorem bind {first : Act σ α} {second : α → Act σ β} {middle : Except Fault α → σ → Prop}
    {after : Except Fault β → σ → Prop} (head : first.Ensures before middle)
    (tail : ∀ value, (second value).Ensures (middle (.ok value)) after)
    (faults : ∀ reason next, middle (.error reason) next → after (.error reason) next) :
    (first >>= second).Ensures before after where
  grows := head.grows.bind fun value => (tail value).grows
  ensures state holds fair := by
    -- The journal of the first action is a part of the journal at the end, so it is fair as well.
    have reached := head.ensures state holds
      (fair.of_suffix (suffix_bind first (fun value => (tail value).grows) state))
    rw [bind_apply] at fair ⊢
    rcases ended : first state with ⟨reason | value, next⟩
    · rw [ended] at reached
      exact faults reason next reached
    · rw [ended] at reached fair
      exact (tail value).ensures next reached fair

/-- Two actions in a row settle if each does. -/
theorem bind_settled {first : Act σ α} {second : α → Act σ β} {fine : α → σ → Prop} {fine' : β → σ → Prop}
    {failed : Errno → σ → Prop} {left : UInt64 → σ → Prop}
    (head : first.Ensures before (Settled fine failed left))
    (tail : ∀ value, (second value).Ensures (fine value) (Settled fine' failed left)) :
    (first >>= second).Ensures before (Settled fine' failed left) := by
  refine head.bind tail fun reason next settled => ?_
  cases reason <;> exact settled

theorem get_bind {second : σ → Act σ β} {after : Except Fault β → σ → Prop}
    (tail : ∀ state, (second state).Ensures (fun next => next = state ∧ before next) after) :
    (Act.get >>= second).Ensures before after where
  grows state := (tail state).grows state
  ensures state holds fair := (tail state).ensures state ⟨rfl, holds⟩ fair

theorem attempt {act : Act σ α} {fine : α → σ → Prop} {failed : Errno → σ → Prop} {left : UInt64 → σ → Prop}
    (ensures : act.Ensures before (Settled fine failed left)) : act.attempt.Ensures before
      (Settled (fun result next => match result with
        | .ok value => fine value next
        | .error error => failed error next) (fun _ _ => False) left) where
  grows := ensures.grows.congr id (fun _ => rfl) fun state => by rw [attempt_snd]; rfl
  ensures state holds fair := by
    rw [attempt_snd] at fair
    have settled := ensures.ensures state holds fair
    unfold Act.attempt
    rcases ended : act state with ⟨(error | _ | status) | value, next⟩ <;> rw [ended] at settled <;> exact settled

/-- What follows an outcome assumes what was ensured of it. -/
theorem outcome_bind {act : Act σ α} {second : Except Fault α → Act σ β} {middle : Except Fault α → σ → Prop}
    {after : Except Fault β → σ → Prop} (head : act.Ensures before middle)
    (tail : ∀ ended, (second ended).Ensures (middle ended) after) :
    (act.outcome >>= second).Ensures before after := by
  have taken : act.outcome.Ensures before fun outcome next => ∃ ended, outcome = .ok ended ∧ middle ended next :=
    ⟨head.grows.congr id (fun _ => rfl) fun _ => rfl, fun state holds fair =>
      ⟨_, rfl, head.ensures state holds fair⟩⟩
  refine taken.bind (fun ended => (tail ended).mono ?_ fun _ _ meets => meets) ?_
  · rintro state ⟨_, same, holds⟩
    cases same
    exact holds
  · rintro reason next ⟨_, ended, -⟩
    contradiction

theorem resume (ended : Except Fault α) {after : Except Fault α → σ → Prop}
    (meets : ∀ state, before state → after ended state) :
    (Act.resume ended : Act σ α).Ensures before after := by
  cases ended with
  | ok value => exact pure meets
  | error reason => exact fault meets

/-- A body that settles is followed by its release unless it exits, and the release must succeed. -/
theorem releasing {release : Act σ Unit} {body : Act σ α} {fine fine' : α → σ → Prop}
    {failed failed' : Errno → σ → Prop} {left : UInt64 → σ → Prop}
    (head : body.Ensures before (Settled fine failed left))
    (afterValue : ∀ value, release.Ensures (fine value) (Succeeds fun _ next => fine' value next))
    (afterError : ∀ error, release.Ensures (failed error) (Succeeds fun _ next => failed' error next)) :
    (Act.releasing release body).Ensures before (Settled fine' failed' left) := by
  have grows : release.Grows := (afterError Errno.interrupted).grows
  have resumes (ended : Except Fault α) {holds : σ → Prop}
      (released : release.Ensures holds (Succeeds fun _ next => Settled fine' failed' left ended next)) :
      (release >>= fun _ => Act.resume ended).Ensures holds (Settled fine' failed' left) := by
    refine released.bind (fun _ => resume ended fun _ meets => meets) fun reason next settled => ?_
    cases reason <;> exact absurd settled id
  refine head.outcome_bind fun ended => ?_
  rcases ended with (error | _ | status) | value
  · exact resumes _ (afterError error)
  · exact of_unreachable (grows.bind fun _ _ => List.suffix_refl _) fun _ => id
  · exact fault fun _ meets => meets
  · exact resumes _ (afterValue value)

end Control

section Parts

variable [HasMachine σ] [HasMachine τ]

theorem focus {part : σ → τ} {replace : σ → τ → σ} {act : Act τ α} {before : τ → Prop} {before' : σ → Prop}
    {after : Except Fault α → τ → Prop} {after' : Except Fault α → σ → Prop} (ensures : act.Ensures before after)
    (parts : ∀ state, machine (part state) = machine state)
    (replaced : ∀ state next, machine (replace state next) = machine next)
    (assumed : ∀ state, before' state → before (part state))
    (weaker : ∀ state outcome next, before' state → after outcome next → after' outcome (replace state next)) :
    (Act.focus part replace act).Ensures before' after' where
  grows := ensures.grows.congr part parts fun state => by rw [focus_apply, replaced]
  ensures state holds fair := by
    rw [focus_apply, replaced] at fair
    exact weaker state _ _ holds (ensures.ensures (part state) (assumed state holds) fair)

theorem lift (own : ρ → Prop) {act : Sys α} {before : Machine → Prop} {fine : α → Machine → Prop}
    {failed : Errno → Machine → Prop} {left : UInt64 → Machine → Prop}
    (ensures : act.Ensures before (Settled fine failed left)) : (liftM act : Act (ρ × Machine) α).Ensures
      (fun state => own state.1 ∧ before state.2)
      (Settled (fun value next => own next.1 ∧ fine value next.2)
        (fun error next => own next.1 ∧ failed error next.2)
        fun status next => own next.1 ∧ left status next.2) :=
  ensures.focus (fun _ => rfl) (fun _ _ => rfl) (fun _ holds => holds.2) fun _ _ _ holds settled =>
    settled.mono (fun _ fine => ⟨holds.1, fine⟩) (fun _ failed => ⟨holds.1, failed⟩) fun _ left => ⟨holds.1, left⟩

end Parts

end Ensures

namespace Keeps

section Control

variable [HasMachine σ] {keeps : σ → Prop} {mayFail : Prop} {good : α → Prop}

/-- An action that succeeds with good values keeps the state, whether it may fail or not. -/
theorem of_succeeds {act : Act σ α}
    (ensures : act.Ensures keeps (Succeeds fun value next => good value ∧ keeps next)) :
    act.Keeps mayFail keeps good :=
  ensures.settle (fun _ _ _ holds => holds) (fun _ _ _ => False.elim) fun _ _ => id

/-- An action that keeps the state and may not fail succeeds. -/
theorem succeeds {act : Act σ α} (kept : act.Keeps False keeps good) :
    act.Ensures keeps (Succeeds fun value next => good value ∧ keeps next) :=
  Ensures.settle kept (fun _ _ _ holds => holds) (fun _ _ _ holds => holds.1) fun _ _ => id

theorem pure {value : α} (fine : good value) : (Pure.pure value : Act σ α).Keeps mayFail keeps good :=
  Ensures.pure fun _ holds => ⟨fine, holds⟩

theorem fail (error : Errno) : (Act.fail error : Act σ α).Keeps True keeps good :=
  Ensures.fault fun _ holds => ⟨trivial, holds⟩

theorem ofExcept {result : Except Errno α} (fine : ∀ value, result = .ok value → good value) :
    (Act.ofExcept result : Act σ α).Keeps True keeps good := by
  cases result with
  | ok value => exact pure (fine value rfl)
  | error error => exact fail error

/-- What does not depend on the state is kept, too. -/
theorem frame {act : Act σ α} (fact : Prop) (kept : act.Keeps mayFail keeps good) :
    act.Keeps mayFail (fun state => fact ∧ keeps state) good :=
  Ensures.mono (Ensures.frame fact kept) (fun _ holds => holds) fun _ _ settled =>
    settled.2.mono (fun _ holds => ⟨holds.1, settled.1, holds.2⟩) (fun _ holds => ⟨holds.1, settled.1, holds.2⟩)
      fun _ => id

theorem bind {first : Act σ α} {second : α → Act σ β} {good' : β → Prop}
    (head : first.Keeps mayFail keeps good)
    (tail : ∀ value, (second value).Keeps mayFail keeps good') : (first >>= second).Keeps mayFail keeps good' :=
  Ensures.bind_settled head fun value => Ensures.assuming (tail value) fun _ => And.right

/-- Two actions in a row keep the state if the second one does so for good values of the first one. -/
theorem bind_good {first : Act σ α} {second : α → Act σ β} {good' : β → Prop}
    (head : first.Keeps mayFail keeps good)
    (tail : ∀ value, (second value).Keeps mayFail (fun state => good value ∧ keeps state) good') :
    (first >>= second).Keeps mayFail keeps good' :=
  Ensures.bind_settled head fun value =>
    Ensures.mono (tail value) (fun _ holds => holds) fun _ _ settled =>
      settled.mono (fun _ holds => ⟨holds.1, holds.2.2⟩) (fun _ holds => ⟨holds.1, holds.2.2⟩) fun _ => id

theorem map {act : Act σ α} {change : α → β} {good' : β → Prop}
    (kept : act.Keeps mayFail keeps fun value => good' (change value)) :
    (change <$> act).Keeps mayFail keeps good' := by
  rw [← bind_pure_comp]
  exact kept.bind_good fun value => Ensures.pure fun _ holds => ⟨holds.1, holds⟩

/-- What follows an attempt keeps the state if it does so after good values and after errors. -/
theorem attempt_bind {act : Act σ α} {second : Except Errno α → Act σ β} {mayFail' : Prop} {good' : β → Prop}
    (head : act.Keeps mayFail keeps good) (tail : ∀ result, (second result).Keeps mayFail'
      (fun state => (∀ value, result = .ok value → good value) ∧ keeps state) good') :
    (act.attempt >>= second).Keeps mayFail' keeps good' := by
  refine (Ensures.attempt head).bind (fun result => Ensures.mono (tail result) ?_ fun _ _ settled => ?_) ?_
  · intro state holds
    cases result with
    | ok value => exact ⟨fun other same => Except.ok.inj same ▸ holds.1, holds.2⟩
    | error error => exact ⟨nofun, holds.2⟩
  · exact settled.mono (fun _ holds => ⟨holds.1, holds.2.2⟩) (fun _ holds => ⟨holds.1, holds.2.2⟩) fun _ => id
  · intro reason next settled
    cases reason <;> exact absurd settled id

/-- A body that keeps the state may be followed by a release that does so and never fails. -/
theorem releasing {release : Act σ Unit} {body : Act σ α} (head : body.Keeps mayFail keeps good)
    (tail : release.Keeps False keeps fun _ => True) : (Act.releasing release body).Keeps mayFail keeps good := by
  have released (fact : Prop) : release.Ensures (fun state => fact ∧ keeps state)
      (Succeeds fun _ next => fact ∧ keeps next) :=
    Ensures.settle (tail.frame fact) (fun _ _ _ holds => holds.2) (fun _ _ _ holds => holds.1) fun _ _ => id
  exact Ensures.releasing head (fun value => released (good value)) fun _ => released mayFail

end Control

theorem lift {act : Sys α} {keeps : Machine → Prop} {mayFail : Prop} {good : α → Prop}
    (kept : act.Keeps mayFail keeps good) :
    (liftM act : Act (ρ × Machine) α).Keeps mayFail (fun state => keeps state.2) good :=
  Ensures.focus kept (fun _ => rfl) (fun _ _ => rfl) (fun _ holds => holds) fun _ _ _ _ settled =>
    settled.mono (fun _ holds => holds) (fun _ holds => holds) fun _ => id

end Keeps

end Act

end LinuxCalls
