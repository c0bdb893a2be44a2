/-
This file shows that the trace is a faithful transcript. Whatever the steps of a session ask the kernel
through the invocation primitive is announced right before and reported right after, and nothing else is.
-/

import LinuxCalls.Proofs.Log.Entries
import LinuxCalls.Proofs.Log.Growth
import LinuxCalls.Proofs.Log.Transparency

namespace LinuxCalls

open Log (Entry)

/-- A request adds itself to the events, and a machine that traces goes on doing so. -/
theorem perform_adds (request : Request) (machine : Machine) :
    (∃ reply next, perform request machine = (.ok reply, next) ∧ request.number ≠ CallKind.exit.number ∧
      next.events = machine.events ++ [⟨.kernel request, some reply.word⟩] ∧
      (machine.IsTracing → next.IsTracing)) ∨
    ∃ status next, perform request machine = (.error (.exit status), next) ∧
      request.number = CallKind.exit.number ∧
      next.events = machine.events ++ [⟨.kernel request, none⟩] ∧ (machine.IsTracing → next.IsTracing) := by
  by_cases exits : request.number = CallKind.exit.number
  · exact .inr ⟨_, _, perform_of_exit exits machine, exits, Machine.events_note _ _ _, id⟩
  · exact .inl ⟨_, _, perform_of_ne_exit exits machine, exits, Machine.events_note _ _ _, id⟩

namespace CallKind

/-- No other call has the number of the exit. -/
theorem number_eq_exit_iff (kind : CallKind) : kind.number = CallKind.exit.number ↔ kind = .exit := by
  cases kind <;> decide

/-- The end of an attempt reports the return of the call. -/
def report (kind : CallKind) (reply : Reply) : Sys Completion := do
  Log.tell .trace (kind.exitText (RawReturn.decode reply.word))
  return ⟨RawReturn.decode reply.word, reply.stored⟩

/-- An attempt announces the call, puts it to the kernel and reports its return. -/
theorem attemptOnce_eq (kind : CallKind) (registers : List Register) :
    attemptOnce Log.tell kind registers = (do
      Log.tell .trace (kind.entryText registers)
      let reply ← perform ⟨kind.number, registers⟩
      kind.report reply) := rfl

end CallKind

namespace Log

/--
A machine that traces delivers every record and goes on tracing, unless the delivery breaks, after
which anything may be added.
-/
theorem tell_traces (level : Level) (message : String) {machine : Machine} (tracing : machine.IsTracing) :
    (∃ added next, tell level message machine = (.ok (), next) ∧ next.IsTracing ∧
      next.events = machine.events ++ added ∧ Delivers (lineBytes level message) added []) ∨
    ∀ last : Machine, (tell level message machine).2.journal <:+ last.journal →
      ∃ added, last.events = machine.events ++ added ∧ Breaks (lineBytes level message) added := by
  have admitted : machine.threshold.admits level = true := by
    rw [tracing.1]
    cases level <;> decide
  obtain ⟨added, joined, ⟨next, told, idle, threshold, delivered⟩ | breaks⟩ := tell_adds message admitted tracing.2
  · rw [told] at joined
    exact .inl ⟨added, next, told, ⟨threshold.trans tracing.1, idle⟩, joined, delivered⟩
  · refine .inr fun last grown => ?_
    obtain ⟨more, later⟩ := Machine.exists_events_of_suffix grown
    exact ⟨added ++ more, by rw [later, joined, List.append_assoc], breaks.append more⟩

end Log

namespace Act

variable {raw : Request → Prop} {σ τ α β : Type}

/-- An action is transcribed if it grows the journal, and a machine that traces adds a transcript to it. -/
structure Transcribed (raw : Request → Prop) [HasMachine σ] (act : Act σ α) : Prop where
  grows : act.Grows
  transcribes : ∀ state, (machine state).IsTracing → (machine state).Transcribes raw (machine (act state).2)

/-- An action on the machine itself is transcribed if the machine adds a transcript. -/
theorem Transcribed.ofMachine {act : Sys α} (grows : act.Grows)
    (transcribes : ∀ first : Machine, first.IsTracing → first.Transcribes raw (act first).2) :
    act.Transcribed raw :=
  ⟨grows, transcribes⟩

section Control

variable [HasMachine σ]

theorem Transcribed.bind {first : Act σ α} {second : α → Act σ β} (head : first.Transcribed raw)
    (tail : ∀ value, (second value).Transcribed raw) : (first >>= second).Transcribed raw where
  grows := head.grows.bind fun value => (tail value).grows
  transcribes state tracing := by
    have before := head.transcribes state tracing
    have grown := suffix_bind first (fun value => (tail value).grows) state
    refine before.trans grown fun still => ?_
    rw [bind_apply]
    rcases ended : first state with ⟨fault | value, middle⟩
    · rw [ended] at still
      exact .nothing still rfl
    · rw [ended] at still
      exact (tail value).transcribes middle still

theorem Transcribed.congr [HasMachine τ] {first : Act σ α} {second : Act τ β} (transcribed : first.Transcribed raw)
    (part : τ → σ) (before : ∀ state, machine (part state) = machine state)
    (after : ∀ state, machine (second state).2 = machine (first (part state)).2) : second.Transcribed raw where
  grows := transcribed.grows.congr part before after
  transcribes state tracing := by
    rw [after, ← before]
    exact transcribed.transcribes (part state) (by rwa [before])

end Control

/-- A request that is not logged is transcribed as such. -/
theorem transcribed_perform {request : Request} (unlogged : request.Bypasses ∨ raw request) :
    (perform request).Transcribed raw := by
  refine .ofMachine (grows_perform request) fun first tracing => ?_
  rcases perform_adds request first with
    ⟨reply, next, performed, -, joined, still⟩ | ⟨status, next, performed, -, joined, still⟩
  · rw [performed]
    exact .one (.request unlogged (some reply.word)) joined (still tracing)
  · rw [performed]
    exact .one (.request unlogged none) joined (still tracing)

/-- A call of the runtime is transcribed as one that is not logged. -/
theorem transcribed_callRuntime {channel : Channel} (runtime : channel = .fork ∨ channel = .spawn)
    (arguments : List Register) (exhausted : Int32) :
    (callRuntime channel arguments exhausted).Transcribed raw :=
  .ofMachine (grows_callRuntime _ _ _) fun _ tracing =>
    .one (.runtime runtime arguments _) (Machine.events_note _ _ _) tracing

/-- A record is transcribed unless it is one of the trace. -/
theorem transcribed_tell {level : Level} (other : level ≠ .trace) (message : String) :
    (Log.tell level message).Transcribed raw := by
  refine .ofMachine (grows_tell level message) fun first tracing => ?_
  rcases Log.tell_traces level message tracing with ⟨added, next, told, still, joined, delivered⟩ | broken
  · rw [told]
    exact .one (.remark other delivered) joined still
  · obtain ⟨added, joined, breaks⟩ := broken _ (List.suffix_refl _)
    exact .cutAtOnce joined (.remark other breaks)

section Attempts

variable {first second : Machine} {kind : CallKind} {registers : List Register} {before : List Event}

theorem grows_report (kind : CallKind) (reply : Reply) : (kind.report reply).Grows :=
  (grows_tell _ _).bind fun _ => grows_pure _

/-- A call that has come back is transcribed with the report of its return. -/
theorem transcribes_report (filled : registers.length = CallKind.registerCount)
    (announced : Log.Delivers (Log.entryLine kind registers) before []) (other : kind ≠ .exit) (reply : Reply)
    (joined : second.events = first.events ++ (before ++ [kind.event registers (some reply.word)]))
    (tracing : second.IsTracing) : first.Transcribes raw (kind.report reply second).2 := by
  rcases Log.tell_traces .trace (kind.exitText (RawReturn.decode reply.word)) tracing with
    ⟨after, last, told, still, more, reported⟩ | broken
  · have ended : kind.report reply second = (.ok ⟨RawReturn.decode reply.word, reply.stored⟩, last) :=
      bind_of_ok _ told
    have back : some reply.word = none ↔ kind = .exit := iff_of_false nofun other
    rw [ended]
    refine .one (.call filled back announced reported) ?_ still
    rw [more, joined, List.append_assoc, List.append_assoc]
    rfl
  · obtain ⟨after, more, breaks⟩ := broken _ (suffix_bind _ (fun _ => grows_pure _) second)
    refine .cutAtOnce (more.trans ?_) (.reporting announced breaks)
    rw [joined, List.append_assoc, List.append_assoc]
    rfl

/-- A call that has been announced is transcribed, and an exit is so without a report. -/
theorem transcribes_perform (filled : registers.length = CallKind.registerCount)
    (announced : Log.Delivers (Log.entryLine kind registers) before [])
    (joined : second.events = first.events ++ before) (tracing : second.IsTracing) :
    first.Transcribes raw ((perform ⟨kind.number, registers⟩ >>= kind.report) second).2 := by
  rcases perform_adds ⟨kind.number, registers⟩ second with
    ⟨reply, next, performed, other, more, still⟩ | ⟨status, next, performed, exits, more, still⟩
  · have other' : kind ≠ .exit := fun exits => other ((CallKind.number_eq_exit_iff kind).mpr exits)
    rw [bind_of_ok _ performed]
    refine transcribes_report filled announced other' reply ?_ (still tracing)
    rw [more, joined, List.append_assoc]
    rfl
  · have exits' : kind = .exit := (CallKind.number_eq_exit_iff kind).mp exits
    rw [bind_of_fault _ performed]
    refine .one (.call filled (iff_of_true rfl exits') announced (.nothing [])) ?_ (still tracing)
    rw [more, joined, List.append_assoc]
    rfl

/-- An attempt at a call is transcribed between its records. -/
theorem transcribed_attemptOnce (kind : CallKind) (filled : registers.length = CallKind.registerCount) :
    (CallKind.attemptOnce Log.tell kind registers).Transcribed raw := by
  have performs : (perform ⟨kind.number, registers⟩ >>= kind.report).Grows :=
    Grows.bind (grows_perform _) (grows_report kind)
  rw [CallKind.attemptOnce_eq]
  refine .ofMachine ((grows_tell _ _).bind fun _ => performs) fun first tracing => ?_
  rcases Log.tell_traces .trace (kind.entryText registers) tracing with
    ⟨before, second, told, still, joined, announced⟩ | broken
  · rw [bind_of_ok _ told]
    exact transcribes_perform filled announced joined still
  · obtain ⟨added, joined, breaks⟩ := broken _ (suffix_bind _ (fun _ => performs) first)
    exact .cutAtOnce joined (.announcing breaks)

end Attempts

/-- Composed actions are transcribed. -/
theorem Composed.transcribed [HasMachine σ] {act : Act σ α} (composed : Composed raw act) :
    act.Transcribed raw := by
  induction composed with
  | result result => exact ⟨fun _ => List.suffix_refl _, fun _ tracing => .nothing tracing rfl⟩
  | bind _ _ head tail => exact .bind head tail
  | outcome _ clear => exact clear.congr id (fun _ => rfl) fun _ => rfl
  | attempt _ clear => exact clear.congr id (fun _ => rfl) fun state => by rw [attempt_snd]; rfl
  | get_bind _ _ later => exact ⟨fun state => (later state).grows state, fun state => (later state).transcribes state⟩
  | modify stores _ =>
    refine ⟨fun state => (stores state).symm ▸ List.suffix_refl _, fun state tracing => ?_⟩
    rw [modify_apply, stores]
    exact .nothing tracing rfl
  | focus _ parts _ replaced _ clear =>
    exact clear.congr _ parts fun state => by rw [focus_apply, replaced]
  | beside own _ clear => exact clear.congr (fun state => (own, state)) (fun _ => rfl) fun _ => rfl
  | attemptOnce kind filled => exact transcribed_attemptOnce kind filled
  | perform request unlogged => exact transcribed_perform unlogged
  | callRuntime runtime arguments exhausted => exact transcribed_callRuntime runtime arguments exhausted
  | tell other message => exact transcribed_tell other message

end Act

namespace Session

variable {raw : Request → Prop}

/-- Steps of the library only add to the journal, and they are transcribed while a machine traces. -/
theorem runSteps_transcribes {steps : List Step} (library : ∀ step ∈ steps, step.isLibrary = true)
    (allowed : ∀ step ∈ steps, ∀ request, step.rawRequest? = some request → raw request) (session : Session) :
    session.machine.journal <:+ (session.runSteps steps).2.machine.journal ∧
      (session.machine.IsTracing → session.machine.Transcribes raw (session.runSteps steps).2.machine) := by
  induction steps generalizing session with
  | nil => exact ⟨List.suffix_refl _, fun tracing => .nothing tracing rfl⟩
  | cons step rest later =>
    have composed : Act.Composed raw step.run :=
      Step.composed_run (library step List.mem_cons_self) (allowed step List.mem_cons_self)
    have grown : session.machine.journal <:+ (session.runStep step).2.machine.journal :=
      composed.transcribed.grows session
    have told : session.machine.IsTracing → session.machine.Transcribes raw (session.runStep step).2.machine :=
      composed.transcribed.transcribes session
    rcases reported_or_ended (session.runStep step).1 with ⟨report, reported⟩ | ended
    · obtain ⟨more, goes⟩ := later (fun step member => library step (List.mem_cons_of_mem _ member))
        (fun step member => allowed step (List.mem_cons_of_mem _ member)) (session.runStep step).2
      rw [runSteps_of_report reported]
      exact ⟨grown.trans more, fun tracing => (told tracing).trans more goes⟩
    · rw [runSteps_of_end ended]
      exact ⟨grown, told⟩

/-- The end of a session is transcribed like its steps. -/
theorem conclude_transcribes (answers : List StepAnswer) (session : Session) :
    session.machine.journal <:+ (conclude answers session).machine.journal ∧
      (session.machine.IsTracing → session.machine.Transcribes raw (conclude answers session).machine) := by
  have composed : Act.Composed raw dropAll := composed_dropAll
  unfold conclude
  split
  · exact ⟨List.suffix_refl _, fun tracing => .nothing tracing rfl⟩
  · exact ⟨composed.transcribed.grows session, composed.transcribed.transcribes session⟩

/--
The trace is a faithful transcript. Take any steps of the library on a machine that logs everything.
Then all events up to the end of the session are those of faithful entries, unless the kernel does not
accept a write of the log. Without the log's writes they are the calls of the entries, and descriptor 2
shows the lines of the records and what the program writes there itself. From the lines of the trace the
calls through the invocation primitive can be read, one after the other, with their registers and results.
-/
theorem transcript_faithful (script : Script) {steps : List Step}
    (library : ∀ step ∈ steps, step.isLibrary = true) :
    let run := (start script (.upTo .trace)).runSteps steps
    ∃ entries rest, Log.IsTranscript (· ∈ steps.filterMap Step.rawRequest?) entries rest
      (conclude run.1 run.2).machine := by
  intro run
  have allowed : ∀ step ∈ steps, ∀ request, step.rawRequest? = some request →
      request ∈ steps.filterMap Step.rawRequest? := fun step member request found =>
    List.mem_filterMap.mpr ⟨step, member, found⟩
  have tracing : (start script (.upTo .trace)).machine.IsTracing := ⟨rfl, rfl⟩
  obtain ⟨-, told⟩ := runSteps_transcribes library allowed (start script (.upTo .trace))
  obtain ⟨grown, concluded⟩ := conclude_transcribes run.1 run.2
  exact ((told tracing).trans grown concluded).isTranscript rfl

/--
A busy descriptor is duplicated onto descriptor 2 in a second attempt, the program writes there itself,
and a child is made and exits past the primitive, while the log's first write is a short one.
-/
theorem transcript_faithful_busy_descriptor :
    let busy : Answer := { word := some (RawReturn.encode (.error Errno.busy)) }
    let script : Script := ⟨[(.complaints, [{ most := some 3 }]), (.call .duplicateOnto, [busy])]⟩
    let steps : List Step := [.call (.duplicateOnto 5 2), .call (.write 2 [104, 105]), .call .fork,
      .call (.perform 39 []), .call (.exit 3)]
    let run := (start script (.upTo .trace)).runSteps steps
    (∀ step ∈ steps, step.isLibrary = true) ∧
    ∃ entries rest, Log.IsTranscript (· ∈ steps.filterMap Step.rawRequest?) entries rest
      (conclude run.1 run.2).machine := by
  intro busy script steps
  have library : ∀ step ∈ steps, step.isLibrary = true := by decide
  exact ⟨library, transcript_faithful script library⟩

end Session

end LinuxCalls
