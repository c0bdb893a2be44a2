/-
This file shows that the path of a program cannot forge the log. The record of a new process is one line, in which
nothing can be seen but printable ASCII and characters of the path, and the path can be recovered from it.
-/

import LinuxCalls.Proofs.Calls.NewProcesses
import LinuxCalls.Proofs.Log.WholeLine
import LinuxCalls.Proofs.Text.Quoted

namespace LinuxCalls

/-- The code of a line feed. -/
def lineFeed : UInt8 := 0x0a

/--
A line that tells of a path cannot be forged by that path. It has one line feed, at its end. What can be seen before
that is printable ASCII and characters that the path shows, which neither control anything nor separate lines, so it
is all ASCII exactly if the path shows none. This is the case where each byte of the path is quoted on its own, as it
is without characters outside of ASCII. The path can be recovered from the line.
-/
structure Unforgeable (path line : Bytes) : Prop where
  ends : line.getLast? = some lineFeed ∧ line.count lineFeed = 1
  shown : ∃ front : String, line.dropLast = Bytes.ofText front ∧
    ∀ character ∈ front.toList, Text.Printable character.toNat ∨ Text.Shows path character
  visible : ∀ character, Text.Shows path character →
    0xa0 < character.toNat ∧ character.toNat ≠ 0x2028 ∧ character.toNat ≠ 0x2029
  ascii : (∀ byte ∈ line.dropLast, Text.Printable byte.toNat) ↔ ∀ character, ¬ Text.Shows path character
  bytewise : Text.quoteBytes path = Text.quoteBytewise path → ∀ byte ∈ line.dropLast, Text.Printable byte.toNat
  escaped : (∀ value, .character value ∈ Text.read path → value.toNat ≤ 0x7f) →
    Text.quoteBytes path = Text.quoteBytewise path
  recovered : (Text.ofBytes? line).bind Text.quotedIn = some path

section Lines

variable {path : Bytes} {text : String}
  (shown : ∀ character ∈ text.toList, Text.Printable character.toNat ∨ Text.Shows path character)

include shown

/-- A text that is printable apart from what a path shows has no line feed in it. -/
theorem lineFeed_notMem_ofText : lineFeed ∉ Bytes.ofText text := by
  intro member
  obtain ⟨character, among, inside⟩ := List.mem_flatMap.mp member
  rcases shown character among with printable | shows
  · have low := (Text.printable_of_mem_utf8EncodeChar printable inside).1
    exact absurd low (by decide)
  · have high := Text.le_of_mem_utf8EncodeChar shows.2.1 inside
    exact absurd high (by decide)

/-- If all that a path shows stands in such a text, its bytes are printable exactly if the path shows nothing. -/
theorem printable_ofText_iff_not_shows (told : ∀ character, Text.Shows path character → character ∈ text.toList) :
    (∀ byte ∈ Bytes.ofText text, Text.Printable byte.toNat) ↔ ∀ character, ¬ Text.Shows path character := by
  rw [Text.printable_ofText_iff]
  constructor
  · intro printable character shows
    have inside := (printable character (told character shows)).2
    have outside := shows.2.1
    omega
  · intro silent character member
    exact (shown character member).resolve_right (silent character)

end Lines

/-- Printable text without a quote may stand in front of a quoted form. -/
def Leads (character : Char) : Prop := Text.Printable character.toNat ∧ character ≠ '\x22'

instance (character : Char) : Decidable (Leads character) := inferInstanceAs (Decidable (_ ∧ _))

/-- Whether a given text may stand in front of a quoted form can be computed. -/
theorem leads_of_all {text : String} (all : (text.toList.all fun character => decide (Leads character)) = true) :
    ∀ character ∈ text.toList, Leads character := by
  simpa only [List.all_eq_true, decide_eq_true_eq] using all

/-- A decimal number may stand in front of a quoted form. -/
theorem leads_toString (number : Int) : ∀ character ∈ (toString number).toList, Leads character := by
  have digits (size : Nat) : ∀ character ∈ size.repr.toList, Leads character := by
    intro character member
    rw [Nat.toList_repr] at member
    have digit := Nat.isDigit_of_mem_toDigits (by decide) (by decide) member
    have inside : 48 ≤ character.toNat ∧ character.toNat ≤ 57 := by
      simpa [Char.isDigit, UInt32.le_iff_toNat_le] using digit
    refine ⟨⟨by omega, by omega⟩, ?_⟩
    rintro rfl
    exact absurd inside (by decide)
  rw [Int.toString_eq_repr, Int.repr_eq_if]
  split
  · exact digits _
  · rw [String.toList_append, List.forall_mem_append]
    exact ⟨leads_of_all rfl, digits _⟩

/-- A line that quotes a path behind printable text cannot be forged by that path. -/
theorem unforgeable_of_quoted {path : Bytes} (zeroFree : 0 ∉ path) {lead : String}
    (plain : ∀ character ∈ lead.toList, Leads character) :
    Unforgeable path (Bytes.ofText (lead ++ Text.quoteBytes path ++ "\n")) := by
  have parted : Bytes.ofText (lead ++ Text.quoteBytes path ++ "\n") =
      Bytes.ofText (lead ++ Text.quoteBytes path) ++ [lineFeed] := Bytes.ofText_append _ _
  have shown : ∀ character ∈ (lead ++ Text.quoteBytes path).toList,
      Text.Printable character.toNat ∨ Text.Shows path character := by
    rw [String.toList_append, List.forall_mem_append]
    exact ⟨fun character member => .inl (plain character member).1, Text.printable_quoteBytes path⟩
  have told (character : Char) (shows : Text.Shows path character) :
      character ∈ (lead ++ Text.quoteBytes path).toList := by
    rw [String.toList_append]
    exact List.mem_append_right _ (Text.mem_quoteBytes_of_shows shows)
  have ascii := printable_ofText_iff_not_shows shown told
  -- The lead has no quote in it, so a reader of the line begins with the path.
  have unquoted : '\x22' ∉ lead.toList := fun member => (plain _ member).2 rfl
  refine ⟨⟨?_, ?_⟩, ⟨_, by rw [parted, List.dropLast_concat], shown⟩, fun character shows => shows.2.visible, ?_,
    fun bytewise => ?_, Text.quoteBytes_of_ascii zeroFree, ?_⟩
  · rw [parted, List.getLast?_concat]
  · rw [parted, List.count_append, List.count_eq_zero.mpr (lineFeed_notMem_ofText shown)]
    decide
  · rw [parted, List.dropLast_concat]
    exact ascii
  · rw [parted, List.dropLast_concat]
    exact ascii.mpr (Text.not_shows_of_bytewise bytewise)
  · rw [Text.ofBytes?_eq_some_iff.mpr rfl, Option.bind_some, Text.quotedIn_append unquoted]

/-- The log's events since a machine are one question that is no complaint and the writes of a line. -/
def Records (before after : Machine) (line : Bytes) : Prop :=
  ∃ asked writes, asked.question.isComplaint = false ∧
    after.events = before.events ++ asked :: writes.map Log.Written.event ∧ Log.BringsOut line writes

/-- A machine records one line only. -/
theorem Records.unique {before after : Machine} {line other : Bytes} (records : Records before after line)
    (again : Records before after other) : line = other := by
  obtain ⟨_, _, -, joined, ⟨first, later, rfl, rfl⟩, -, -⟩ := records
  obtain ⟨_, _, -, joined', ⟨first', later', rfl, rfl⟩, -, -⟩ := again
  have same := (List.cons.inj (List.append_cancel_left (joined.symm.trans joined'))).2
  rw [List.map_cons, List.map_cons, List.cons.injEq] at same
  rw [Log.Written.event_injective same.1]

/-- The ways to run a program in a new process. -/
inductive Launching
  /-- The runtime makes the process. -/
  | runtime
  /-- The process borrows the memory of its parent until it runs the program. -/
  | borrowing

namespace Launching

/-- The action that runs a program. -/
def run : Launching → Program → Sys ProcessId
  | runtime => Process.launch
  | borrowing => Process.launchBorrowing

/-- The word by which the record of a process begins. -/
def verb : Launching → String
  | runtime => "spawned"
  | borrowing => "vforked"

/-- The line that records a process. -/
def line (launching : Launching) (process : ProcessId) (program : Program) : Bytes :=
  Log.lineBytes .debug (Process.announcement launching.verb process program)

/-- The part of the line in front of the quoted path. -/
def lead (launching : Launching) (process : ProcessId) : String :=
  "[DEBUG sysbase] " ++ launching.verb ++ " pid " ++ toString process.toInt ++ " for "

/-- The line quotes the path behind its lead. -/
theorem line_eq (launching : Launching) (process : ProcessId) (program : Program) :
    launching.line process program =
      Bytes.ofText (launching.lead process ++ Text.quoteBytes program.path.bytes ++ "\n") := by
  have head : "[" ++ Level.debug.name ++ String.ofList (List.replicate (5 - Level.debug.name.length) ' ') ++ " " ++
      Log.target ++ "] " = "[DEBUG sysbase] " := by decide +kernel
  unfold line Log.lineBytes Log.line
  rw [head]
  unfold Process.announcement lead
  simp only [String.append_assoc]

/-- The lead of a line has no quote in it. -/
theorem leads_lead (launching : Launching) (process : ProcessId) :
    ∀ character ∈ (launching.lead process).toList, Leads character := by
  have verb : ∀ character ∈ launching.verb.toList, Leads character := by
    cases launching <;> exact leads_of_all rfl
  have joined {first second : String} (one : ∀ character ∈ first.toList, Leads character)
      (two : ∀ character ∈ second.toList, Leads character) :
      ∀ character ∈ (first ++ second).toList, Leads character := by
    rw [String.toList_append, List.forall_mem_append]
    exact ⟨one, two⟩
  unfold lead
  exact joined (joined (joined (joined (leads_of_all rfl) verb) (leads_of_all rfl)) (leads_toString _))
    (leads_of_all rfl)

/-- The answer to a call makes a process. The runtime reports it beside its result, and the kernel returns it. -/
def Answered (launching : Launching) (machine : Machine) (process : ProcessId) : Prop :=
  match launching with
  | runtime =>
    let reply := RuntimeReply.ofAnswer Errno.notImplemented.raw (machine.script.next .spawn).1
    reply.result = 0 ∧ reply.process = process
  | borrowing =>
    let word := (machine.replyTo Process.cloning).word
    word ≠ 0 ∧ RawReturn.decode word = .ok word ∧ Process.ofWord word = process

/-- A program without a zero byte in its strings is run in a process, and the log takes the record of it. -/
structure Succeeds (launching : Launching) (program : Program) (machine : Machine) (process : ProcessId) : Prop where
  zeroFree : ∀ string ∈ program.strings, 0 ∉ string.bytes
  answered : launching.Answered machine process
  admitted : machine.threshold.admits .debug = true
  idle : machine.recording = false

variable {launching : Launching} {program : Program} {machine : Machine} {process : ProcessId}

/-- A launch that makes a process asks one question and then records the process. -/
theorem exists_told (zeroFree : ∀ string ∈ program.strings, 0 ∉ string.bytes)
    (answered : launching.Answered machine process) :
    ∃ asked middle, asked.question.isComplaint = false ∧ middle.events = machine.events ++ [asked] ∧
      (middle.threshold = machine.threshold ∧ middle.recording = machine.recording) ∧
      (machine.LogReady → middle.LogReady) ∧
      launching.run program machine =
        (Log.tell .debug (Process.announcement launching.verb process program) >>= fun _ => pure process) middle := by
  cases launching with
  | runtime =>
    obtain ⟨fine, rfl⟩ := answered
    obtain ⟨reply, next, called, spawned⟩ := Process.spawns zeroFree machine
    let asked : Event := ⟨.runtime Channel.spawn.name program.spawning,
      some reply.result.toInt64.toUInt64⟩
    have noted : next.events = machine.events ++ [asked] := by
      rw [Machine.events, spawned.asked, List.reverse_cons, Machine.events]
    cases called
    exact ⟨asked, _, rfl, noted, ⟨rfl, rfl⟩, fun ready => ready.next .spawn _ _, spawned.recorded fine⟩
  | borrowing =>
    obtain ⟨parent, decoded, rfl⟩ := answered
    let reply := (machine.serve Process.cloning).1
    let next := (machine.serve Process.cloning).2.note (.kernel Process.cloning) (some reply.word)
    have cloned : perform Process.cloning machine = (.ok reply, next) := perform_of_ne_exit (by decide) machine
    have parted := Process.parts zeroFree cloned parent
    exact ⟨Process.cloning.answered reply.word, next, rfl, Machine.events_note _ _ _, ⟨rfl, rfl⟩,
      fun ready => ready.next (Channel.ofRequest Process.cloning) _ _, parted.recorded _ decoded⟩

/-- A launch that succeeds records the line of its process. -/
theorem Succeeds.records (succeeds : launching.Succeeds program machine process) :
    Records machine (launching.run program machine).2 (launching.line process program) := by
  obtain ⟨asked, middle, silent, noted, ⟨threshold, recording⟩, -, told⟩ :=
    exists_told succeeds.zeroFree succeeds.answered
  obtain ⟨writes, joined, brings⟩ := Log.tell_bringsOut (Process.announcement launching.verb process program)
    (threshold ▸ succeeds.admitted) (recording.trans succeeds.idle)
  refine ⟨asked, writes, silent, ?_, brings⟩
  rw [told, Act.bind_pure_snd, joined, noted, List.append_assoc, List.singleton_append]

theorem Succeeds.outcome (succeeds : launching.Succeeds program machine process) (ready : machine.LogReady) :
    (launching.run program machine).1 = .ok process := by
  obtain ⟨_, middle, -, -, -, still, told⟩ := exists_told succeeds.zeroFree succeeds.answered
  obtain ⟨last, ended, -⟩ := Process.announced (still ready) .debug
    (Process.announcement launching.verb process program) process
  rw [told, ended]

/-- The line of a launch that succeeds cannot be forged by the path of its program. -/
theorem Succeeds.unforgeable (succeeds : launching.Succeeds program machine process) :
    Unforgeable program.path.bytes (launching.line process program) := by
  rw [line_eq]
  exact unforgeable_of_quoted (succeeds.zeroFree program.path List.mem_cons_self) (launching.leads_lead process)

/--
The path of a program cannot forge the log. A launch that succeeds asks one question and records one line, and it
gives its process unless the kernel reports more bytes to the log than it was given. The line has one line feed, at its
end, and it is printable ASCII before that if each byte of the path is quoted on its own. The path is recovered from
it, so a launch of another path records another line, even if the processes have the same number.
-/
theorem record_unforgeable (succeeds : launching.Succeeds program machine process) :
    let path := program.path.bytes
    let line := launching.line process program
    (machine.LogReady → (launching.run program machine).1 = .ok process) ∧
    Records machine (launching.run program machine).2 line ∧
    (line.getLast? = some lineFeed ∧ line.count lineFeed = 1) ∧
    (Text.quoteBytes path = Text.quoteBytewise path → ∀ byte ∈ line.dropLast, Text.Printable byte.toNat) ∧
    (Text.ofBytes? line).bind Text.quotedIn = some path ∧
    ∀ (other : Launching) (program' : Program) (machine' : Machine) (process' : ProcessId) (line' : Bytes),
      other.Succeeds program' machine' process' → Records machine' (other.run program' machine').2 line' →
        program'.path.bytes ≠ path → line' ≠ line := by
  have unforgeable := succeeds.unforgeable
  refine ⟨succeeds.outcome, succeeds.records, unforgeable.ends, unforgeable.bytewise, unforgeable.recovered, ?_⟩
  intro other program' machine' process' line' succeeds' records' different same
  -- From equal lines the same path would be recovered twice.
  have there := succeeds'.unforgeable.recovered
  rw [← records'.unique succeeds'.records, same] at there
  exact different (Option.some.inj (there.symm.trans unforgeable.recovered))

/--
A path with a line feed and a byte outside of ASCII is told apart from the path that spells out the quoted form of
these two, although the number of the process is the same.
-/
theorem record_unforgeable_line_feed :
    let machine := Machine.start ⟨[(.spawn, [{ process := 88 }])]⟩ (.upTo .debug)
    let feed : Program := ⟨.plain [97, 10, 0xff], [], []⟩
    let spelled : Program := ⟨.plain (Bytes.ofText "a\\n\\xff"), [], []⟩
    let line := runtime.line 88 feed
    runtime.Succeeds feed machine 88 ∧ runtime.Succeeds spelled machine 88 ∧
      (Process.launch feed machine).1 = .ok 88 ∧ Records machine (Process.launch feed machine).2 line ∧
      (∀ byte ∈ line.dropLast, Text.Printable byte.toNat) ∧
      line = Bytes.ofText "[DEBUG sysbase] spawned pid 88 for \"a\\n\\xff\"\n" ∧
      runtime.line 88 spelled ≠ line := by
  intro machine feed spelled line
  have ready : machine.LogReady := .inr (.inr (by decide))
  have succeeds : runtime.Succeeds feed machine 88 :=
    ⟨by simp [feed, Program.strings, StringArgument.plain], ⟨by decide, by decide⟩, by decide, rfl⟩
  have succeeds' : runtime.Succeeds spelled machine 88 :=
    ⟨by simp only [spelled, Program.strings]; decide +kernel, ⟨by decide, by decide⟩, by decide, rfl⟩
  obtain ⟨given, records, -, printable, -, apart⟩ := record_unforgeable succeeds
  exact ⟨succeeds, succeeds', given ready, records, printable (by decide +kernel), by decide +kernel,
    apart runtime spelled machine 88 _ succeeds' succeeds'.records (by decide +kernel)⟩

end Launching

end LinuxCalls
