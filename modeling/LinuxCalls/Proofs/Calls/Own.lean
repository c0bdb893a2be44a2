/-
This file separates what the library asks for its caller from what its log writes. A machine makes
calls of its own in order, and between them the log may write records.
-/

import Mathlib.Logic.Function.Iterate
import LinuxCalls.Proofs.Log.Reentry
import LinuxCalls.Proofs.Log.Telling

namespace LinuxCalls

namespace Machine

/-- The log is ready if it takes no records, or if the answers to its complaints are lawful. -/
def LogReady (machine : Machine) : Prop :=
  machine.threshold = .off ∨ machine.recording = true ∨ machine.script.Lawful

/-- Complaints leave the log ready. -/
theorem OnlyComplains.logReady {before after : Machine} (complains : before.OnlyComplains after)
    (ready : before.LogReady) : after.LogReady := by
  rcases ready with off | recording | lawful
  · exact .inl (complains.threshold.trans off)
  · exact .inr (.inl (complains.recording.trans recording))
  · exact .inr (.inr (complains.lawful lawful))

/-- Drawing an answer leaves the log ready. -/
theorem LogReady.next {machine : Machine} (ready : machine.LogReady) (channel : Channel) (memory : Memory)
    (journal : List Event) : LogReady
      { machine with script := (machine.script.next channel).2, memory := memory, journal := journal } := by
  rcases ready with off | recording | lawful
  · exact .inl off
  · exact .inr (.inl recording)
  · exact .inr (.inr (lawful.next channel))

/-- A request leaves the log ready. -/
theorem LogReady.perform {machine : Machine} (ready : machine.LogReady) (request : Request) :
    (perform request machine).2.LogReady := by
  by_cases exits : request.number = CallKind.exit.number
  · rw [perform_of_exit exits]
    exact ready
  · rw [perform_of_ne_exit exits]
    exact ready.next _ _ _

end Machine

/-- A request that is answered is served and noted. -/
theorem eq_of_perform_eq_ok {request : Request} {reply : Reply} {before after : Machine}
    (answered : perform request before = (.ok reply, after)) :
    reply = (before.serve request).1 ∧
      after = (before.serve request).2.note (.kernel request) (some reply.word) := by
  by_cases exits : request.number = CallKind.exit.number
  · rw [perform_of_exit exits] at answered
    cases answered
  · rw [perform_of_ne_exit exits] at answered
    cases answered
    exact ⟨rfl, rfl⟩

/-- A request that ends the process is noted. -/
theorem eq_of_perform_eq_exit {request : Request} {status : UInt64} {before after : Machine}
    (left : perform request before = (.error (.exit status), after)) :
    after = before.note (.kernel request) none := by
  by_cases exits : request.number = CallKind.exit.number
  · rw [perform_of_exit exits] at left
    cases left
    rfl
  · rw [perform_of_ne_exit exits] at left
    cases left

/--
A record ends with complaints at most, or with a panic of a log that is not ready, to which the kernel has
reported more bytes than it was given.
-/
theorem Log.tell_ends (level : Level) (message : String) (machine : Machine) :
    (∃ next, tell level message machine = (.ok (), next) ∧ machine.OnlyComplains next) ∨
      (tell level message machine).1 = .error .panic ∧ ¬ machine.LogReady ∧
        Overreported (tell level message machine).2 := by
  cases idle : machine.recording with
  | true =>
    have dropped := (sameWhileRecording_tell level message).same machine idle
    exact .inl ⟨machine, dropped, .refl machine⟩
  | false =>
    refine (tell_complains level message idle).imp_right ?_
    rintro ⟨panicked, on, unlawful, overreported⟩
    refine ⟨panicked, ?_, overreported⟩
    rintro (off | recording | lawful)
    · exact on off
    · rw [idle] at recording
      contradiction
    · exact unlawful lawful

/-- Beside the flag that it raises, a record only complains, however it ends. -/
theorem Log.tell_complains_besideFlag (level : Level) (message : String) (machine : Machine) :
    Machine.OnlyComplains { machine with recording := true }
      { (tell level message machine).2 with recording := true } := by
  cases idle : machine.recording with
  | true =>
    rw [(sameWhileRecording_tell level message).same machine idle]
    exact .refl _
  | false =>
    by_cases admitted : machine.threshold.admits level = true
    · obtain ⟨outcome, next, delivered, complains, -⟩ :=
        deliver_complains (Bytes.ofText (line level target message)) { machine with recording := true }
      have lowered : Machine.OnlyComplains { machine with recording := true } { next with recording := true } :=
        { complains with recording := rfl }
      rw [tell_of_admitted message admitted idle, Act.bind_apply, delivered]
      cases outcome <;> exact lowered
    · rw [tell_of_refused message admitted]
      exact .refl _

/-- A record leaves the memory alone and only adds to the journal, however it ends. -/
theorem Log.tell_keeps (level : Level) (message : String) (machine : Machine) :
    (tell level message machine).2.memory = machine.memory ∧
      machine.journal <:+ (tell level message machine).2.journal :=
  have complains := tell_complains_besideFlag level message machine
  ⟨complains.memory, complains.grown⟩

/-- A record asks nothing but complaints, however it ends. -/
theorem Log.withoutComplaints_tell (level : Level) (message : String) (machine : Machine) :
    Event.withoutComplaints (tell level message machine).2.journal = Event.withoutComplaints machine.journal :=
  (tell_complains_besideFlag level message machine).asked

/-- A record that ends well only complains. -/
theorem Log.complains_of_told {level : Level} {message : String} {before after : Machine}
    (told : tell level message before = (.ok (), after)) : before.OnlyComplains after := by
  rcases tell_ends level message before with ⟨next, told', complains⟩ | ⟨panicked, -⟩
  · rw [told] at told'
    cases told'
    exact complains
  · rw [told] at panicked
    contradiction

/-- An event draws an answer from a channel. A request to exit draws none. -/
def Event.draws (event : Event) (channel : Channel) : Bool :=
  match event.question, event.word with
  | .kernel request, some _ => Channel.ofRequest request == channel
  | .kernel _, none => false
  | .runtime name _, _ => (channel == .fork || channel == .spawn) && channel.name == name

namespace Machine

/--
A machine makes calls in order and becomes another one. Records of the log are no calls, and storing
bytes is none either.
-/
inductive Makes : Machine → List Event → Machine → Prop
  | nothing (machine : Machine) : Makes machine [] machine
  | told {level : Level} {message : String} {calls : List Event} {before middle after : Machine}
      (told : Log.tell level message before = (.ok (), middle)) (later : Makes middle calls after) :
      Makes before calls after
  | asked {request : Request} {reply : Reply} {calls : List Event} {before middle after : Machine}
      (answered : perform request before = (.ok reply, middle)) (later : Makes middle calls after) :
      Makes before (⟨.kernel request, some reply.word⟩ :: calls) after
  | exited {request : Request} {status : UInt64} {calls : List Event} {before middle after : Machine}
      (left : perform request before = (.error (.exit status), middle)) (later : Makes middle calls after) :
      Makes before (⟨.kernel request, none⟩ :: calls) after
  | ran {channel : Channel} {registers : List Register} {exhausted : Int32} {reply : RuntimeReply}
      {calls : List Event} {before middle after : Machine} (runtime : channel = .fork ∨ channel = .spawn)
      (answered : callRuntime channel registers exhausted before = (.ok reply, middle))
      (later : Makes middle calls after) :
      Makes before (⟨.runtime channel.name registers, some reply.result.toInt64.toUInt64⟩ :: calls) after
  | stored (memory : Memory) {calls : List Event} {before after : Machine}
      (later : Makes { before with memory := memory } calls after) : Makes before calls after

namespace Makes

variable {before middle after : Machine} {calls more : List Event}

theorem trans (head : before.Makes calls middle) (tail : middle.Makes more after) :
    before.Makes (calls ++ more) after := by
  induction head with
  | nothing => exact tail
  | told told _ step => exact .told told (step tail)
  | asked answered _ step => exact .asked answered (step tail)
  | exited left _ step => exact .exited left (step tail)
  | ran runtime answered _ step => exact .ran runtime answered (step tail)
  | stored memory _ step => exact .stored memory (step tail)

/-- Calls leave the log ready. -/
theorem logReady (makes : before.Makes calls after) (ready : before.LogReady) : after.LogReady := by
  induction makes with
  | nothing => exact ready
  | told told _ step => exact step ((Log.complains_of_told told).logReady ready)
  | asked answered _ step =>
    have still := ready.perform ‹Request›
    rw [answered] at still
    exact step still
  | exited left _ step =>
    have still := ready.perform ‹Request›
    rw [left] at still
    exact step still
  | ran runtime answered _ step =>
    cases answered
    exact step (ready.next _ _ _)
  | stored memory _ step => exact step ready

/-- The journal grows. -/
theorem grown (makes : before.Makes calls after) : before.journal <:+ after.journal := by
  induction makes with
  | nothing machine => exact List.suffix_refl _
  | told told _ step => exact (Log.complains_of_told told).grown.trans step
  | asked answered _ step =>
    obtain ⟨-, rfl⟩ := eq_of_perform_eq_ok answered
    exact (List.suffix_cons _ _).trans step
  | exited left _ step =>
    rw [eq_of_perform_eq_exit left] at step
    exact (List.suffix_cons _ _).trans step
  | ran runtime answered _ step =>
    cases answered
    exact (List.suffix_cons _ _).trans step
  | stored memory _ step => exact step

/-- The journal keeps every call. -/
theorem mem_journal (makes : before.Makes calls after) : ∀ call ∈ calls, call ∈ after.journal := by
  -- The first call is kept while the later ones are noted.
  have kept {call : Event} {rest : List Event} {first middle last : Machine}
      (journal : middle.journal = call :: first.journal) (later : middle.Makes rest last)
      (step : ∀ call ∈ rest, call ∈ last.journal) : ∀ other ∈ call :: rest, other ∈ last.journal := by
    intro other member
    rcases List.mem_cons.mp member with rfl | more
    · exact later.grown.subset (journal ▸ List.mem_cons_self)
    · exact step other more
  induction makes with
  | nothing machine => nofun
  | told told _ step => exact step
  | asked answered later step =>
    obtain ⟨-, rfl⟩ := eq_of_perform_eq_ok answered
    exact kept rfl later step
  | exited left later step =>
    have noted := eq_of_perform_eq_exit left
    subst noted
    exact kept rfl later step
  | ran runtime answered later step =>
    cases answered
    exact kept rfl later step
  | stored memory _ step => exact step

/-- The journal keeps the calls in order, and besides them there are complaints only. -/
theorem asked_eq (makes : before.Makes calls after) : Event.withoutComplaints after.journal =
    (Event.withoutComplaints calls).reverse ++ Event.withoutComplaints before.journal := by
  -- A call goes to the front of the journal, so the later ones stand before it there.
  have noted {call : Event} {rest : List Event} {first middle last : Machine}
      (journal : middle.journal = call :: first.journal)
      (step : Event.withoutComplaints last.journal =
        (Event.withoutComplaints rest).reverse ++ Event.withoutComplaints middle.journal) :
      Event.withoutComplaints last.journal =
        (Event.withoutComplaints (call :: rest)).reverse ++ Event.withoutComplaints first.journal := by
    rw [step, journal, Event.withoutComplaints, Event.withoutComplaints, Event.withoutComplaints,
      Event.withoutComplaints, List.filter_cons, List.filter_cons]
    split <;> simp
  induction makes with
  | nothing machine => rfl
  | told told _ step => rw [step, (Log.complains_of_told told).asked]
  | asked answered _ step =>
    obtain ⟨-, rfl⟩ := eq_of_perform_eq_ok answered
    exact noted rfl step
  | exited left _ step =>
    rw [eq_of_perform_eq_exit left] at step
    exact noted rfl step
  | ran runtime answered _ step =>
    cases answered
    exact noted rfl step
  | stored memory _ step => exact step

/-- Calls that draw from a channel use up its answers one by one, and nothing else does. -/
theorem queue_eq (makes : before.Makes calls after) {channel : Channel} (other : channel ≠ .complaints) :
    after.script.queue channel =
      Script.spend^[calls.countP (·.draws channel)] (before.script.queue channel) := by
  induction makes with
  | nothing => rfl
  | told told _ step => rw [step, ← (Log.complains_of_told told).agrees channel other]
  | @asked request reply calls before middle after answered later step =>
    obtain ⟨-, rfl⟩ := eq_of_perform_eq_ok answered
    change _ = Script.spend^[_] ((before.script.next (Channel.ofRequest request)).2.queue channel) at step
    by_cases same : Channel.ofRequest request = channel
    · subst same
      rw [Script.queue_next_self] at step
      rw [step, List.countP_cons_of_pos (by simp [Event.draws]), Function.iterate_succ_apply]
    · rw [Script.queue_next_of_ne _ (Ne.symm same)] at step
      rw [step, List.countP_cons_of_neg (by simpa [Event.draws] using same)]
  | exited left later step =>
    rw [eq_of_perform_eq_exit left] at step
    rw [step, List.countP_cons_of_neg (by simp [Event.draws])]
    rfl
  | @ran drawn registers exhausted reply calls before middle after runtime answered later step =>
    cases answered
    change _ = Script.spend^[_] ((before.script.next drawn).2.queue channel) at step
    by_cases same : channel = drawn
    · subst same
      rw [Script.queue_next_self] at step
      rw [step, List.countP_cons_of_pos (by simpa [Event.draws] using runtime),
        Function.iterate_succ_apply]
    · rw [Script.queue_next_of_ne _ same] at step
      have undrawn (word : Option UInt64) : ¬ Event.draws ⟨.runtime drawn.name registers, word⟩ channel = true := by
        rcases runtime with rfl | rfl <;> cases channel <;> simp_all [Event.draws, Channel.name]
      rw [step, List.countP_cons_of_neg]
      exact undrawn _
  | stored memory _ step => exact step

/-- The answers that calls leave on a channel are among those before, up to the number of uses. -/
theorem exists_of_mem_queue (makes : before.Makes calls after) {channel : Channel} (other : channel ≠ .complaints)
    {answer : Answer} (left : answer ∈ after.script.queue channel) :
    ∃ first ∈ before.script.queue channel, first.word = answer.word := by
  rw [makes.queue_eq other] at left
  generalize calls.countP (·.draws channel) = uses at left
  induction uses generalizing answer with
  | zero => exact ⟨answer, left, rfl⟩
  | succ uses step =>
    rw [Function.iterate_succ_apply'] at left
    obtain ⟨middle, member, same⟩ := Script.exists_of_mem_spend left
    obtain ⟨first, member, same'⟩ := step member
    exact ⟨first, member, same'.trans same⟩

end Makes

/-- The word that a script would give to a request after a number of answers from the same channel. -/
def wordAfter (machine : Machine) (request : Request) (uses : Nat) : UInt64 :=
  (replyOf (Channel.ofRequest request) request
    (Script.spend^[uses] (machine.script.queue (Channel.ofRequest request))).head?).word

/-- The answers to the calls come from the script in order, whatever the log does in between. -/
theorem Makes.word_eq {before after : Machine} {calls past later : List Event} {request : Request}
    {word : UInt64} (makes : before.Makes calls after)
    (split : calls = past ++ ⟨.kernel request, some word⟩ :: later)
    (other : Channel.ofRequest request ≠ .complaints) :
    word = before.wordAfter request (past.countP (·.draws (Channel.ofRequest request))) := by
  -- The rest of the calls is answered by a machine whose queue is what the first call has left of it.
  have onwards {first middle : Machine} {call : Event} {rest past later : List Event}
      (head : first.Makes [call] middle)
      (step : ∀ {past}, rest = past ++ ⟨.kernel request, some word⟩ :: later →
        word = middle.wordAfter request (past.countP (·.draws (Channel.ofRequest request))))
      (split : rest = past ++ ⟨.kernel request, some word⟩ :: later) :
      word = first.wordAfter request ((call :: past).countP (·.draws (Channel.ofRequest request))) := by
    rw [step split, wordAfter, wordAfter, head.queue_eq other, ← Function.iterate_add_apply,
      ← List.countP_append]
    exact congrArg (fun uses => (replyOf _ request (Script.spend^[uses] _).head?).word)
      ((List.perm_append_singleton call past).countP_eq _)
  induction makes generalizing past with
  | nothing => simp at split
  | told told _ step =>
    rw [step split, wordAfter, wordAfter, (Log.complains_of_told told).agrees _ other]
  | asked answered later step =>
    rcases List.cons_eq_append_iff.mp split with ⟨rfl, same⟩ | ⟨past, rfl, rest⟩
    · obtain ⟨replied, -⟩ := eq_of_perform_eq_ok answered
      cases same
      rw [replied]
      rfl
    · exact onwards (.asked answered (.nothing _)) step rest
  | exited left later step =>
    rcases List.cons_eq_append_iff.mp split with ⟨rfl, same⟩ | ⟨past, rfl, rest⟩
    · cases same
    · exact onwards (.exited left (.nothing _)) step rest
  | ran runtime answered later step =>
    rcases List.cons_eq_append_iff.mp split with ⟨rfl, same⟩ | ⟨past, rfl, rest⟩
    · cases same
    · exact onwards (.ran runtime answered (.nothing _)) step rest
  | stored memory _ step => exact step split

end Machine

end LinuxCalls
