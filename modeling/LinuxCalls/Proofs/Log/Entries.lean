/-
This file holds the entries of a transcript, which are the events of a machine that logs everything. A
call through the invocation primitive stands between the record that announces it and the record that
reports its return, and nothing else has such records.
-/

import Mathlib.Data.List.Basic
import LinuxCalls.Proofs.Log.Composed
import LinuxCalls.Proofs.Log.Delivery

namespace LinuxCalls

namespace CallKind

/-- The event of a call is its request with the word that came back, if one did. -/
def event (kind : CallKind) (registers : List Register) (word : Option UInt64) : Event :=
  ⟨.kernel ⟨kind.number, registers⟩, word⟩

/-- The trace of a call is a text that announces it and, if a word came back, a text that reports it. -/
def traceTexts (kind : CallKind) (registers : List Register) (word : Option UInt64) : List String :=
  kind.entryText registers :: word.toList.map fun word => kind.exitText (RawReturn.decode word)

end CallKind

namespace Log

/-- The line that announces a call. -/
def entryLine (kind : CallKind) (registers : List Register) : Bytes :=
  lineBytes .trace (kind.entryText registers)

/-- The line that reports the word of a call. A call that did not come back has none. -/
def exitLine (kind : CallKind) : Option UInt64 → Bytes
  | none => []
  | some word => lineBytes .trace (kind.exitText (RawReturn.decode word))

/-- An entry of a transcript, with the writes of the records that belong to it. -/
inductive Entry
  /-- A record by itself. -/
  | remark (level : Level) (message : String) (writes : List Event)
  /-- A call through the invocation primitive, between the writes of its records. -/
  | call (kind : CallKind) (registers : List Register) (word : Option UInt64) (before after : List Event)
  /-- A request to the kernel or to the runtime that has no record. -/
  | untraced (event : Event)

namespace Entry

/-- All events of an entry, in order. -/
def events : Entry → List Event
  | remark _ _ writes => writes
  | call kind registers word before after => before ++ kind.event registers word :: after
  | untraced event => [event]

/-- The events of an entry without the writes of its records. -/
def calls : Entry → List Event
  | remark _ _ _ => []
  | call kind registers word _ _ => [kind.event registers word]
  | untraced event => [event]

/-- The records of an entry, in order. -/
def records : Entry → List (Level × String)
  | remark level message _ => [(level, message)]
  | call kind registers word _ _ => (kind.traceTexts registers word).map (Level.trace, ·)
  | untraced _ => []

/-- The lines of the records of an entry, in order. -/
def lines (entry : Entry) : List Bytes := entry.records.map fun (level, message) => lineBytes level message

/-- What the trace is to say about an entry follows from the call that it is, if it is one. -/
def trace : Entry → List Trace
  | call kind registers word _ _ => .announced kind (registers.map Register.value) ::
    word.toList.map fun word => .returned kind (RawReturn.decode word)
  | _ => []

/-- An entry is a call through the invocation primitive. -/
def isCall : Entry → Bool
  | call _ _ _ _ _ => true
  | _ => false

/-- What an entry leaves on descriptor 2: its lines, and between them what the program itself writes. -/
def shown : Entry → Bytes
  | remark level message _ => lineBytes level message
  | call kind registers word _ _ =>
    entryLine kind registers ++ (kind.event registers word).accepted complaints ++ exitLine kind word
  | untraced event => event.accepted complaints

/--
A faithful entry is a record that is not one of the trace, a call that has six registers and both of
its records, or something that the library does not log. The lines of all records are delivered in
full. Only an exit does not come back, and it has no second record.
-/
inductive Faithful (raw : Request → Prop) : Entry → Prop
  | remark {level : Level} {message : String} {writes : List Event} (other : level ≠ .trace)
      (delivered : Delivers (lineBytes level message) writes []) : Faithful raw (.remark level message writes)
  | call {kind : CallKind} {registers : List Register} {word : Option UInt64} {before after : List Event}
      (filled : registers.length = CallKind.registerCount) (exits : word = none ↔ kind = .exit)
      (announced : Delivers (entryLine kind registers) before [])
      (reported : Delivers (exitLine kind word) after []) : Faithful raw (.call kind registers word before after)
  | request {request : Request} (unlogged : request.Bypasses ∨ raw request) (word : Option UInt64) :
      Faithful raw (.untraced ⟨.kernel request, word⟩)
  | runtime {channel : Channel} (runtime : channel = .fork ∨ channel = .spawn) (registers : List Register)
      (word : Option UInt64) : Faithful raw (.untraced ⟨.runtime channel.name registers, word⟩)

/-- A transcript is cut short where the line of a record is not delivered in full. -/
inductive CutShort : List Event → Prop
  | remark {level : Level} {message : String} {added : List Event} (other : level ≠ .trace)
      (breaks : Breaks (lineBytes level message) added) : CutShort added
  | announcing {kind : CallKind} {registers : List Register} {added : List Event}
      (breaks : Breaks (entryLine kind registers) added) : CutShort added
  | reporting {kind : CallKind} {registers : List Register} {word : UInt64} {before added : List Event}
      (announced : Delivers (entryLine kind registers) before [])
      (breaks : Breaks (exitLine kind (some word)) added) :
      CutShort (before ++ kind.event registers (some word) :: added)

theorem CutShort.append {added : List Event} (cut : CutShort added) (more : List Event) :
    CutShort (added ++ more) := by
  cases cut with
  | remark other breaks => exact .remark other (breaks.append more)
  | announcing breaks => exact .announcing (breaks.append more)
  | reporting announced breaks =>
    rw [List.append_assoc, List.cons_append]
    exact .reporting announced (breaks.append more)

/-- A transcript that is cut short has a complaint that was not accepted. -/
theorem CutShort.exists_refused {added : List Event} (cut : CutShort added) :
    ∃ left word, ⟨.kernel (request left), some word⟩ ∈ added ∧ ¬ Accepts left word := by
  cases cut with
  | remark _ breaks => exact breaks.exists_refused
  | announcing breaks => exact breaks.exists_refused
  | reporting _ breaks =>
    obtain ⟨left, word, member, refused⟩ := breaks.exists_refused
    exact ⟨left, word, List.mem_append_right _ (List.mem_cons_of_mem _ member), refused⟩

variable {raw : Request → Prop} {entry : Entry} {entries : List Entry}

/-- Without the complaints, the events of a faithful entry are its calls. -/
theorem Faithful.withoutComplaints (faithful : entry.Faithful raw) :
    Event.withoutComplaints entry.events = Event.withoutComplaints entry.calls := by
  cases faithful with
  | remark _ delivered => exact delivered.withoutComplaints
  | call _ _ announced reported =>
    have before := announced.withoutComplaints
    have after := reported.withoutComplaints
    unfold Event.withoutComplaints at before after ⊢
    rw [events, calls, List.filter_append, before, List.nil_append, List.filter_cons, List.filter_cons, after]
    rfl
  | request _ _ => rfl
  | runtime _ _ _ => rfl

/-- Descriptor 2 accepts what a faithful entry shows. -/
theorem Faithful.accepted (faithful : entry.Faithful raw) :
    entry.events.flatMap (Event.accepted complaints) = entry.shown := by
  have whole {bytes : Bytes} {writes : List Event} (delivers : Delivers bytes writes []) :
      writes.flatMap (Event.accepted complaints) = bytes := by
    rw [← delivers.accepted_append, List.append_nil]
  cases faithful with
  | remark _ delivered => exact whole delivered
  | call _ _ announced reported =>
    rw [events, List.flatMap_append, List.flatMap_cons, whole announced, whole reported, shown,
      List.append_assoc]
  | request _ _ => exact List.flatMap_singleton _ _
  | runtime _ _ _ => exact List.flatMap_singleton _ _

/-- The lines of an entry read back as its records. -/
theorem recordOf_lines (entry : Entry) : entry.lines.map recordOf = entry.records.map some := by
  rw [lines, List.map_map]
  exact List.map_congr_left fun (level, message) _ => recordOf_lineBytes level message

/-- The lines of a faithful entry say what the trace is to say about it. -/
theorem Faithful.trace_eq (faithful : entry.Faithful raw) : entry.lines.filterMap traceOf = entry.trace := by
  cases faithful with
  | @remark level message _ other _ =>
    show [lineBytes level message].filterMap traceOf = []
    rw [List.filterMap_cons_none (traceOf_other other message), List.filterMap_nil]
  | @call kind registers word _ _ _ _ _ _ =>
    have announced := (traceOf_trace (kind.entryText registers)).trans (traceIn_entryText kind registers)
    show (lineBytes .trace (kind.entryText registers) :: _).filterMap traceOf = _
    rw [List.filterMap_cons_some announced]
    cases word with
    | none => rfl
    | some word =>
      have returned := (traceOf_trace (kind.exitText (RawReturn.decode word))).trans (traceIn_exitText kind _)
      show _ :: [lineBytes .trace (kind.exitText (RawReturn.decode word))].filterMap traceOf = _
      rw [List.filterMap_cons_some returned]
      rfl
  | request _ _ => rfl
  | runtime _ _ _ => rfl

/-- The trace of an entry announces one call exactly if the entry is one. -/
theorem countP_trace (entry : Entry) : entry.trace.countP Trace.isAnnounced = [entry].countP isCall := by
  cases entry with
  | call kind registers word before after => cases word <;> rfl
  | remark _ _ _ => rfl
  | untraced _ => rfl

/-- Without the complaints, the events of faithful entries are their calls. -/
theorem withoutComplaints_flatMap (faithful : ∀ entry ∈ entries, entry.Faithful raw) :
    Event.withoutComplaints (entries.flatMap events) = Event.withoutComplaints (entries.flatMap calls) := by
  rw [Event.withoutComplaints, Event.withoutComplaints, List.filter_flatMap, List.filter_flatMap]
  exact List.flatMap_congr fun entry member => (faithful entry member).withoutComplaints

/-- Descriptor 2 accepts what faithful entries show, one after the other. -/
theorem accepted_flatMap (faithful : ∀ entry ∈ entries, entry.Faithful raw) :
    (entries.flatMap events).flatMap (Event.accepted complaints) = entries.flatMap shown := by
  rw [List.flatMap_assoc]
  exact List.flatMap_congr fun entry member => (faithful entry member).accepted

/-- The lines of faithful entries say what the trace is to say about them, one after the other. -/
theorem trace_flatMap (faithful : ∀ entry ∈ entries, entry.Faithful raw) :
    (entries.flatMap lines).filterMap traceOf = entries.flatMap trace := by
  rw [List.filterMap_flatMap]
  exact List.flatMap_congr fun entry member => (faithful entry member).trace_eq

/-- The traces of entries announce as many calls as there are among the entries. -/
theorem countP_flatMap_trace (entries : List Entry) :
    (entries.flatMap trace).countP Trace.isAnnounced = entries.countP isCall := by
  induction entries with
  | nil => rfl
  | cons entry entries step =>
    rw [List.flatMap_cons, List.countP_append, step, countP_trace, ← List.countP_append, List.singleton_append]

end Entry

/--
The events of a machine are a transcript of faithful entries. What is left over is cut short by a write
of the log that the kernel has not accepted, so nothing is left over if it accepts them all. No line is
empty, and each one reads back as its record. Those of the trace say which calls there were, with what
registers and with what results, and as many of them announce a call as there are calls.
-/
structure IsTranscript (raw : Request → Prop) (entries : List Entry) (rest : List Event) (last : Machine) :
    Prop where
  events : last.events = entries.flatMap Entry.events ++ rest
  faithful : ∀ entry ∈ entries, entry.Faithful raw
  ended : rest = [] ∨ Entry.CutShort rest
  complete : (∀ left word, ⟨.kernel (request left), some word⟩ ∈ last.events → Accepts left word) → rest = []
  asked : Event.withoutComplaints last.events = Event.withoutComplaints (entries.flatMap Entry.calls ++ rest)
  shown : last.accepted complaints =
    entries.flatMap Entry.shown ++ rest.flatMap (Event.accepted complaints)
  written : ∀ line ∈ entries.flatMap Entry.lines, line ≠ []
  records : (entries.flatMap Entry.lines).map recordOf = (entries.flatMap Entry.records).map some
  trace : (entries.flatMap Entry.lines).filterMap traceOf = entries.flatMap Entry.trace
  counted : ((entries.flatMap Entry.lines).filterMap traceOf).countP Trace.isAnnounced =
    entries.countP Entry.isCall

/-- Faithful entries and what is left over are a transcript. -/
theorem isTranscript_of_faithful {raw : Request → Prop} {entries : List Entry} {rest : List Event} {last : Machine}
    (faithful : ∀ entry ∈ entries, entry.Faithful raw) (added : last.events = entries.flatMap Entry.events ++ rest)
    (ended : rest = [] ∨ Entry.CutShort rest) : IsTranscript raw entries rest last where
  events := added
  faithful := faithful
  ended := ended
  complete accepts := ended.resolve_right fun cut => by
    obtain ⟨left, word, member, refused⟩ := cut.exists_refused
    exact refused (accepts left word (added ▸ List.mem_append_right _ member))
  asked := by
    have calls := Entry.withoutComplaints_flatMap faithful
    unfold Event.withoutComplaints at calls ⊢
    rw [added, List.filter_append, List.filter_append, calls]
  shown := by
    rw [Machine.accepted, added, List.flatMap_append, Entry.accepted_flatMap faithful]
  written line member := by
    obtain ⟨entry, -, inside⟩ := List.mem_flatMap.mp member
    obtain ⟨⟨level, message⟩, -, rfl⟩ := List.mem_map.mp inside
    exact lineBytes_ne_nil level message
  records := by
    rw [List.map_flatMap, List.map_flatMap]
    exact List.flatMap_congr fun entry _ => entry.recordOf_lines
  trace := Entry.trace_flatMap faithful
  counted := by rw [Entry.trace_flatMap faithful, Entry.countP_flatMap_trace]

end Log

open Log (Entry)

namespace Machine

/-- A machine traces if its threshold admits everything and no record is being written. -/
def IsTracing (machine : Machine) : Prop := machine.threshold = .upTo .trace ∧ machine.recording = false

/-- What a machine adds to its events is a transcript, and it goes on tracing unless that is cut short. -/
inductive Transcribes (raw : Request → Prop) (before after : Machine) : Prop
  | whole (entries : List Entry) (faithful : ∀ entry ∈ entries, entry.Faithful raw)
      (added : after.events = before.events ++ entries.flatMap Entry.events) (tracing : after.IsTracing)
  | cut (entries : List Entry) (faithful : ∀ entry ∈ entries, entry.Faithful raw) {rest : List Event}
      (added : after.events = before.events ++ (entries.flatMap Entry.events ++ rest)) (cut : Entry.CutShort rest)

namespace Transcribes

variable {raw : Request → Prop} {before middle after : Machine}

/-- A machine that does not change its log has an empty transcript. -/
theorem nothing (tracing : after.IsTracing) (journal : after.journal = before.journal) :
    before.Transcribes raw after :=
  .whole [] nofun (by rw [events, journal, List.flatMap_nil, List.append_nil, events]) tracing

/-- A single faithful entry is a transcript. -/
theorem one {entry : Entry} (faithful : entry.Faithful raw)
    (added : after.events = before.events ++ entry.events) (tracing : after.IsTracing) :
    before.Transcribes raw after :=
  .whole [entry] (by simpa using faithful) (by rw [added, List.flatMap_singleton]) tracing

/-- A transcript may be cut short from the start. -/
theorem cutAtOnce {rest : List Event} (added : after.events = before.events ++ rest)
    (cut : Entry.CutShort rest) : before.Transcribes raw after :=
  .cut [] nofun added cut

/-- A transcript is continued unless it was cut short, after which anything may be added. -/
theorem trans (head : before.Transcribes raw middle) (grown : middle.journal <:+ after.journal)
    (tail : middle.IsTracing → middle.Transcribes raw after) : before.Transcribes raw after := by
  cases head with
  | cut entries faithful added cut =>
    obtain ⟨more, joined⟩ := exists_events_of_suffix grown
    refine .cut entries faithful ?_ (cut.append more)
    rw [joined, added, List.append_assoc, List.append_assoc]
  | whole entries faithful added tracing =>
    have both {others : List Entry} (faithful' : ∀ entry ∈ others, entry.Faithful raw) :
        ∀ entry ∈ entries ++ others, entry.Faithful raw := fun entry member =>
      (List.mem_append.mp member).elim (faithful entry) (faithful' entry)
    cases tail tracing with
    | whole others faithful' added' tracing' =>
      refine .whole (entries ++ others) (both faithful') ?_ tracing'
      rw [added', added, List.append_assoc, List.flatMap_append]
    | cut others faithful' added' cut =>
      refine .cut (entries ++ others) (both faithful') ?_ cut
      rw [added', added, List.append_assoc, List.flatMap_append, List.append_assoc]

/-- What a machine has added since its start is a transcript. -/
theorem isTranscript (told : before.Transcribes raw after) (fresh : before.events = []) :
    ∃ entries rest, Log.IsTranscript raw entries rest after := by
  cases told with
  | whole entries faithful added tracing =>
    rw [fresh, List.nil_append] at added
    exact ⟨entries, [], Log.isTranscript_of_faithful faithful (by rw [added, List.append_nil]) (.inl rfl)⟩
  | @cut entries faithful rest added cut =>
    rw [fresh, List.nil_append] at added
    exact ⟨entries, rest, Log.isTranscript_of_faithful faithful added (.inr cut)⟩

end Transcribes

end Machine

end LinuxCalls
