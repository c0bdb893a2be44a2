/-
This file shows that no error of the kernel is swallowed, replaced or retried. It covers every operation
that may fail: the calls without an owner, guards, mappings, readers and writers.
-/

import LinuxCalls.Proofs.Calls.Causes
import LinuxCalls.Proofs.Calls.Endings
import LinuxCalls.Proofs.Stream.ReaderBalance
import LinuxCalls.Proofs.Stream.DescriptorDevice

namespace LinuxCalls

open Act (Faithful Faithfully Still Traces)

namespace Act

variable {σ ρ α : Type}

/-- This action runs beside a value of its own and gives that value up. -/
def owning (own : ρ) (act : Act (ρ × σ) α) : Act σ α := do
  let (ended, _) ← beside own act
  resume ended

/-- What an action makes of its own value is lost, and the rest remains. -/
theorem owning_apply (own : ρ) (act : Act (ρ × σ) α) (state : σ) :
    owning own act state = ((act (own, state)).1, (act (own, state)).2.2) := by
  simp only [owning, bind_apply, beside_apply]
  cases (act (own, state)).1 <;> rfl

/-- An action beside a value of its own makes the calls of that action. -/
theorem Traces.owning {own : ρ} {act : Act (ρ × Machine) α} {machine : Machine}
    {spec : List Event → Except Fault α → Machine → Prop}
    (traces : act.Traces (own, machine) fun calls outcome next => spec calls outcome next.2) :
    (Act.owning own act).Traces machine spec := by
  unfold Traces at traces ⊢
  rw [owning_apply]
  exact traces

end Act

namespace Guard

/-- A call on guards. -/
inductive Call
  | openFile (path : StringArgument) (flags : OpenFlags) (mode : Mode)
  | openAt (guard : Guard) (path : StringArgument) (flags : OpenFlags) (mode : Mode)
  | memoryFile (name : StringArgument) (flags : MemoryFileFlags)
  | secretMemoryFile (closeOnExec : Bool)
  | ofProcess (process : ProcessId) (flags : ProcessFileFlags)
  | pipe (flags : OpenFlags)
  | close (guard : Guard)
  | duplicate (guard : Guard)
  | duplicateOnto (guard target : Guard)
  | read (guard : Guard) (size : Nat)
  | write (guard : Guard) (bytes : Bytes)
  | readAt (guard : Guard) (size : Nat) (offset : UInt64)
  | writeAt (guard : Guard) (bytes : Bytes) (offset : UInt64)
  | writeAll (guard : Guard) (bytes : Bytes)
  | seek (guard : Guard) (offset : Int64) (origin : Origin)
  | setLength (guard : Guard) (length : UInt64)
  | status (guard : Guard)

namespace Call

/-- This action makes a call. -/
def run : Call → Sys Unit
  | .openFile path flags mode => Guard.openFile path flags mode >>= fun _ => pure ()
  | .openAt guard path flags mode => guard.openAt path flags mode >>= fun _ => pure ()
  | .memoryFile name flags => Guard.memoryFile name flags >>= fun _ => pure ()
  | .secretMemoryFile closeOnExec => Guard.secretMemoryFile closeOnExec >>= fun _ => pure ()
  | .ofProcess process flags => Guard.ofProcess process flags >>= fun _ => pure ()
  | .pipe flags => Guard.pipe flags >>= fun _ => pure ()
  | .close guard => guard.close
  | .duplicate guard => guard.duplicate >>= fun _ => pure ()
  | .duplicateOnto guard target => guard.duplicateOnto target
  | .read guard size => guard.read size >>= fun delivery => Act.ofExcept (delivery.count.map fun _ => ())
  | .write guard bytes => guard.write bytes >>= fun _ => pure ()
  | .readAt guard size offset =>
    guard.readAt size offset >>= fun delivery => Act.ofExcept (delivery.count.map fun _ => ())
  | .writeAt guard bytes offset => guard.writeAt bytes offset >>= fun _ => pure ()
  | .writeAll guard bytes => guard.writeAll bytes
  | .seek guard offset origin => guard.seek offset origin >>= fun _ => pure ()
  | .setLength guard length => guard.setLength length
  | .status guard => guard.status >>= fun _ => pure ()

/-- The arguments of a call are rejected before any call to the kernel. -/
def Rejects : Call → Prop
  | .openFile path _ _ | .openAt _ path _ _ | .memoryFile path _ => 0 ∈ path.bytes
  | .setLength _ length => Descriptor.largestLength < length
  | _ => False

/-- The causes that a call has to fail without a failed call to the kernel. -/
inductive Cause : Call → List Event → Errno → Prop
  | rejected {call : Call} (rejects : call.Rejects) : Cause call [] Errno.invalidArgument
  | refused {guard : Guard} {bytes : Bytes} {calls : List Event} {error : Errno}
      (refused : RefusedWrite calls error) : Cause (.writeAll guard bytes) calls error

end Call

/-- Writing all bytes to a guard is what a stream over the guard does past its buffer. -/
theorem writeThrough_apply (guard : Guard) (bytes : Bytes) (machine : Machine) :
    (Writer.writeThrough bytes : Act (Guard × Machine) Unit) (guard, machine) =
      ((guard.writeAll bytes machine).1, (guard, (guard.writeAll bytes machine).2)) :=
  Writer.writeThrough_of_writesTo guard.writesTo bytes machine

/-- Writing all bytes is faithful, and a write that accepts nothing is a cause to fail. -/
theorem faithful_writeAll (guard : Guard) (bytes : Bytes) :
    Faithful (fun _ => True) (CallKind.write.Puts [.ofInt32 guard.descriptor]) RefusedWrite (fun _ => none)
      (guard.writeAll bytes) := by
  intro machine _
  have extending : Extends (CallKind.write.Puts [.ofInt32 guard.descriptor]) RefusedWrite :=
    extends_refusedWrite fun _ writes => .inr writes
  have same : Act.owning guard (Writer.writeThrough bytes) = guard.writeAll bytes := by
    funext state
    rw [Act.owning_apply, writeThrough_apply]
  rw [← same]
  apply Traces.owning
  refine (Writer.faithful_writeThrough guard.faithful_sink extending bytes (guard, machine) rfl).mono ?_
  intro calls outcome next done
  exact ⟨trivial, done.allowed, done.reports⟩

/-- Every call on guards is faithful. -/
theorem Call.traces_run (call : Call) {machine : Machine} :
    call.run.Traces machine fun calls outcome _ => Reports call.Cause calls (reported (fun _ => none) outcome) := by
  -- Whatever the calls to the kernel are, what is reported about them counts.
  have reports {allowed : Event → Prop}
      (faithful : Faithful (fun _ => True) allowed call.Cause (fun _ => none) call.run) :
      call.run.Traces machine fun calls outcome _ => Reports call.Cause calls (reported (fun _ => none) outcome) :=
    (faithful machine trivial).mono fun _ _ _ done => done.reports
  have string {name : StringArgument} (rejects : 0 ∈ name.bytes → call.Rejects) (error : Errno)
      (rejected : name.terminate = .error error) : call.Cause [] error := by
    obtain ⟨rfl, zero⟩ := StringArgument.eq_of_terminate_eq_error rejected
    exact .rejected (rejects zero)
  cases call with
  | openFile path flags mode =>
    exact reports ((Descriptor.faithful_openAt .current path flags mode (string id)).map.followed fun _ => .pure ())
  | openAt guard path flags mode =>
    exact reports ((Descriptor.faithful_openAt (.opened guard.descriptor) path flags mode (string id)).map.followed
      fun _ => .pure ())
  | memoryFile name flags =>
    exact reports ((Descriptor.faithful_memoryFile name flags (string id)).map.followed fun _ => .pure ())
  | secretMemoryFile closeOnExec =>
    exact reports ((CallKind.faithful_invokeInt32 List.nil_prefix).map.followed fun _ => .pure ())
  | ofProcess process flags =>
    exact reports ((CallKind.faithful_invokeInt32 List.nil_prefix).map.followed fun _ => .pure ())
  | pipe flags =>
    exact reports (((Descriptor.faithful_pipe flags).followed fun _ => .pure _).followed fun _ => .pure ())
  | close guard => exact reports (CallKind.faithful_run List.nil_prefix)
  | duplicate guard =>
    exact reports ((CallKind.faithful_invokeInt32 List.nil_prefix).map.followed fun _ => .pure ())
  | duplicateOnto guard target =>
    exact reports ((CallKind.faithful_invokeInt32 List.nil_prefix).followed fun _ => .pure ())
  | read guard size => exact reports (Descriptor.faithful_deliver (Descriptor.faithful_read guard.descriptor size))
  | write guard bytes => exact reports ((Descriptor.faithful_write guard.descriptor bytes).followed fun _ => .pure ())
  | readAt guard size offset =>
    exact reports (Descriptor.faithful_deliver (Descriptor.faithful_readAt guard.descriptor size offset))
  | writeAt guard bytes offset =>
    exact reports ((Descriptor.faithful_writeAt guard.descriptor bytes offset).followed fun _ => .pure ())
  | writeAll guard bytes =>
    exact reports ((guard.faithful_writeAll bytes).mono (fun _ writes => writes) fun _ _ refused => .refused refused)
  | seek guard offset origin =>
    exact reports ((CallKind.faithful_invoke List.nil_prefix).followed fun _ => .pure ())
  | setLength guard length =>
    have rejected (beyond : Descriptor.largestLength < length) :
        (setLength guard length).Cause [] Errno.invalidArgument := .rejected beyond
    exact reports (Descriptor.faithful_setLength guard.descriptor length rejected)
  | status guard => exact reports ((Descriptor.faithful_status guard.descriptor).followed fun _ => .pure ())

end Guard

namespace Mapping

/-- A call on mappings. -/
inductive Call
  | ofFile (descriptor : Descriptor) (length : Nat) (offset : UInt64) (protection : Protection) (sharing : Sharing)
  | anonymous (length : Nat) (protection : Protection)
  | flush (mapping : Mapping)

/-- This action makes a call. -/
def Call.run : Call → Sys Unit
  | .ofFile descriptor length offset protection sharing =>
    Mapping.ofFile descriptor length offset protection sharing >>= fun _ => pure ()
  | .anonymous length protection => Mapping.anonymous length protection >>= fun _ => pure ()
  | .flush mapping => mapping.flush

/-- The causes that making a mapping has to fail: its arguments, or a range at address zero. -/
inductive Unmade (machine : Machine) (descriptor : Descriptor) (length : Nat) (offset : UInt64)
    (protection : Protection) (sharing : Sharing) (flags : MapFlags) : List Event → Errno → Prop
  | rejected (rejects : ¬ accepts length offset protection) :
      Unmade machine descriptor length offset protection sharing flags [] Errno.invalidArgument
  | noMemory {calls : List Event} {after : Machine}
      (mapped : MappedRange.map 0 length protection sharing flags descriptor offset machine = (.ok 0, after)) :
      Unmade machine descriptor length offset protection sharing flags calls Errno.noMemory

/-- The causes that a call has to fail without a failed call to the kernel. -/
def Call.Cause (machine : Machine) : Call → List Event → Errno → Prop
  | .ofFile descriptor length offset protection sharing =>
    Unmade machine descriptor length offset protection sharing Flags.empty
  | .anonymous length protection => Unmade machine (-1) length 0 protection .copied MapFlags.anonymous
  | .flush _ => fun _ _ => False

/-- Making a mapping is faithful. -/
theorem traces_make {machine : Machine} (descriptor : Descriptor) (length : Nat) (offset : UInt64)
    (protection : Protection) (sharing : Sharing) (flags : MapFlags) :
    (make descriptor length offset protection sharing flags).Traces machine
      (Faithfully (fun _ => True) (CallKind.map.Puts [])
        (Unmade machine descriptor length offset protection sharing flags) (fun _ => none)) := by
  unfold make
  split
  · apply (CallKind.faithful_invoke List.nil_prefix machine trivial).decided
    intro address after mapped
    by_cases zero : address = 0
    · subst zero
      refine ⟨.error Errno.noMemory, rfl, fun error same calls => ?_⟩
      rw [← Except.error.inj same]
      exact .noMemory mapped
    · rw [if_neg zero]
      exact ⟨.ok _, rfl, nofun⟩
  · rename_i rejects
    exact .fault ⟨trivial, nofun, .caused .nil (.rejected rejects)⟩

/-- Every call on mappings is faithful. -/
theorem Call.traces_run (call : Call) {machine : Machine} : call.run.Traces machine fun calls outcome _ =>
    Reports (call.Cause machine) calls (reported (fun _ => none) outcome) := by
  cases call with
  | ofFile descriptor length offset protection sharing =>
    exact ((traces_make _ _ _ _ _ _).followed fun _ => .pure ()).mono fun _ _ _ done => done.reports
  | anonymous length protection =>
    exact ((traces_make _ _ _ _ _ _).followed fun _ => .pure ()).mono fun _ _ _ done => done.reports
  | flush mapping =>
    change mapping.flush.Traces _ _
    unfold Mapping.flush
    split
    · exact .pure (.nothing .nil)
    · exact (CallKind.faithful_run List.nil_prefix machine trivial).mono fun _ _ _ done => done.reports

end Mapping

namespace Reader

/-- The result that an answer holds. -/
def Answer.result : Answer → Except Errno Unit
  | .reading filled => filled.count.map fun _ => ()
  | .collected taken => taken.ending
  | .appended taken => taken.count.map fun _ => ()
  | .line taken => taken.count.map fun _ => ()
  | _ => .ok ()

/-- The errors that a call has a cause of its own to report: input that ends, and a line that is no text. -/
def Call.Cause : Call → Errno → Prop
  | .readExact _, error => error = Errno.noData
  | .readLine _, error => error = Errno.illegalSequence
  | _, _ => False

theorem Call.faithful_run (call : Call) (origin : Holding) :
    Faithful (DeviceKeeps origin.Remains) origin.device.Allows (fun _ => call.Cause)
      (fun answer => attempted? answer.result) (call.run : Act (Reader Holding × Machine) Answer) := by
  have extending : Extends origin.device.Allows (fun _ => call.Cause) :=
    ⟨origin.device.extends_cause.plain, fun _ _ _ cause => cause⟩
  have source := origin.faithful_source fun _ => call.Cause
  cases call with
  | fill => exact (faithful_available source).followed fun bytes => .pure (Answer.available bytes)
  | consume amount => exact .of_still (still_consume_bind amount (.pure Answer.consumed))
  | read out =>
    refine (faithful_read source out).followed fun reading => ?_
    have same : attempted? (Answer.reading reading).result = attempted? reading.count := attempted?_map _ _
    exact same ▸ .pure (Answer.reading reading)
  | readExact out =>
    exact (faithful_fillFrom source extending rfl out.length out).followed fun taken => .pure (Answer.collected taken)
  | readUntil delimiter out =>
    refine (faithful_readUntil source extending delimiter out).followed fun taken => ?_
    have same : attempted? (Answer.appended taken).result = attempted? taken.count := attempted?_map _ _
    exact same ▸ .pure (Answer.appended taken)
  | readLine out =>
    refine (faithful_readLine source extending rfl out).followed fun taken => ?_
    have same : attempted? (Answer.line taken).result = attempted? taken.count := attempted?_map _ _
    exact same ▸ .pure (Answer.line taken)

end Reader

namespace Writer

/-- A call passes errors on unless it writes a value that does not. -/
def Call.PassesOn : Call → Prop
  | .writeFormat format => format.PassesOn
  | _ => True

/-- The causes that a call has to fail without a failed call to the kernel. -/
inductive Call.Cause (device : Device) : Call → List Event → Errno → Prop
  | device {call : Call} {calls : List Event} {error : Errno} (cause : device.Cause calls error) :
      Cause device call calls error
  /-- A formatted value has refused on its own. -/
  | refused {format : Format} {calls : List Event} (refuses : format.Refuses) :
      Cause device (.writeFormat format) calls Errno.invalidArgument

theorem Call.faithful_run (call : Call) (passes : call.PassesOn) (origin : Holding) :
    Faithful (DeviceKeeps origin.Remains) origin.device.Allows (call.Cause origin.device) (fun _ => none)
      (call.run : Act (Writer Holding × Machine) Unit) := by
  have sink : Sink.Faithful Holding origin.Remains origin.device.Allows (call.Cause origin.device) :=
    origin.faithful_sink.mono fun _ _ cause => .device cause
  have extending : Extends origin.device.Allows (call.Cause origin.device) := by
    refine ⟨origin.device.extends_cause.plain, ?_⟩
    intro earlier calls error cause
    cases cause with
    | device cause => exact .device (origin.device.extends_cause.later earlier calls error cause)
    | refused refuses => exact .refused refuses
  cases call with
  | writeAll bytes => exact faithful_writeAll sink extending bytes
  | writeFormat format => exact faithful_writeFormat sink extending .refused passes
  | flush => exact faithful_flush sink extending

end Writer

/-- An operation of the library that gives a result. -/
inductive Operation
  | ofStep (step : CallStep)
  | ofGuard (call : Guard.Call)
  | ofMapping (call : Mapping.Call)
  | ofReader (reader : Reader Holding) (call : Reader.Call)
  | ofWriter (writer : Writer Holding) (call : Writer.Call)
  | finish (writer : Writer Holding)

namespace Operation

/-- This action runs an operation. A stream lives as long as the operation does. -/
def run : Operation → Sys Unit
  | .ofStep step => step.run >>= fun _ => pure ()
  | .ofGuard call => call.run
  | .ofMapping call => call.run
  | .ofReader reader call => Act.owning reader call.run >>= fun answer => Act.ofExcept answer.result
  | .ofWriter writer call => Act.owning writer call.run
  | .finish writer => Act.owning writer Writer.finish

/-- These operations report their errors. -/
def IsFallible : Operation → Prop
  | .ofStep step => step.IsFallible
  | _ => True

/-- An operation passes errors on unless it writes a value that does not. -/
def PassesOn : Operation → Prop
  | .ofWriter _ call => call.PassesOn
  | _ => True

/-- The causes that an operation has to fail without a failed call, from the machine that it starts on. -/
def Cause (machine : Machine) : Operation → List Event → Errno → Prop
  | .ofStep step => step.Cause machine
  | .ofGuard call => call.Cause
  | .ofMapping call => call.Cause machine
  | .ofReader _ call => fun _ => call.Cause
  | .ofWriter writer call => call.Cause writer.device.device
  | .finish writer => writer.device.device.Cause

/--
The calls that an operation makes beside its own: those of a child that borrows the memory, and those
that release what a writer holds.
-/
def Beside (calls aside : List Event) : Operation → Prop
  | .ofStep step => step.Beside calls aside
  | .finish writer => aside = [] ∨ writer.device.Releases aside
  | _ => aside = []

/--
An operation reports the first error on a machine. If no read and no write reports more bytes than it
was asked for, a call that fails is the last one and its error is reported, and an error without such a
call has a cause.
-/
def ReportsFirstError (operation : Operation) (machine : Machine) : Prop :=
  ∃ own aside, machine.Makes (own ++ aside) (operation.run machine).2 ∧
    ((∀ call ∈ own, call.IsWithin) → operation.Beside own aside ∧
      (∀ (index : Nat) (call : Event) error, own[index]? = some call → call.Ends index error →
        (operation.run machine).1 = .error (.errno error) ∧ index + 1 = own.length) ∧
      ∀ error, (operation.run machine).1 = .error (.errno error) →
        (∀ (index : Nat) (call : Event) other, own[index]? = some call → ¬ call.Ends index other) →
          operation.Cause machine own error)

variable {operation : Operation} {machine : Machine}

/-- What is reported after the operation's own calls tells where the first error has gone. -/
theorem reportsFirstError_of_traces (ready : machine.LogReady)
    (traces : operation.run.Traces machine fun calls outcome _ => ∃ own aside, calls = own ++ aside ∧
      ((∀ call ∈ own, call.IsWithin) → operation.Beside own aside ∧
        Reports (operation.Cause machine) own (reported (fun _ => none) outcome))) :
    operation.ReportsFirstError machine := by
  obtain ⟨_, makes, own, aside, rfl, meets⟩ := traces.of_ready ready
  refine ⟨own, aside, makes, fun within => ?_⟩
  obtain ⟨beside, reports⟩ := meets within
  refine ⟨beside, fun index call error found ends => ?_, fun error failed none => ?_⟩
  · obtain ⟨same, last⟩ := reports.eq_of_ends found ends
    refine ⟨?_, last⟩
    generalize (operation.run machine).1 = outcome at same
    rcases outcome with (other | _ | _) | _
    · rw [Option.some.inj same]
    all_goals contradiction
  · rw [failed] at reports
    exact reports.cause_of_no_end none

/-- What is reported after the calls is reported of the operation's own calls where it makes no others. -/
theorem reportsFirstError_of_reports (ready : machine.LogReady) (alone : ∀ calls, operation.Beside calls [])
    (traces : operation.run.Traces machine fun calls outcome _ =>
      Reports (operation.Cause machine) calls (reported (fun _ => none) outcome)) :
    operation.ReportsFirstError machine := by
  apply reportsFirstError_of_traces ready
  refine traces.mono ?_
  intro calls outcome _ reports
  exact ⟨calls, [], (List.append_nil _).symm, fun _ => ⟨alone calls, reports⟩⟩

/--
No operation that passes errors on swallows, replaces or retries an error of the kernel, whatever the
kernel answers.
-/
theorem reports_first_error (operation : Operation) (fallible : operation.IsFallible) (passes : operation.PassesOn)
    {machine : Machine} (ready : machine.LogReady) : operation.ReportsFirstError machine := by
  cases operation with
  | ofStep step =>
    apply reportsFirstError_of_traces ready
    change (step.run >>= fun _ => pure ()).Traces _ _
    apply (step.traces_run fallible).bind
    · rintro _ value middle ⟨own, aside, rfl, beside, reports⟩
      apply Traces.pure
      rw [List.append_nil]
      exact ⟨own, aside, rfl, fun _ => ⟨beside, reports⟩⟩
    · rintro _ reason next ⟨own, aside, rfl, beside, reports⟩
      refine ⟨own, aside, rfl, fun _ => ⟨beside, ?_⟩⟩
      cases reason <;> exact reports
  | ofGuard call => exact reportsFirstError_of_reports ready (fun _ => rfl) call.traces_run
  | ofMapping call => exact reportsFirstError_of_reports ready (fun _ => rfl) call.traces_run
  | ofReader reader call =>
    have holds : reader.device.Remains (reader.device, machine) := reader.device.remains_self machine
    have faithful := call.faithful_run reader.device (reader, machine) holds
    refine reportsFirstError_of_reports ready (fun _ => rfl) ?_
    have owned : (Act.owning reader call.run).Traces machine (Faithfully (fun _ => True)
        reader.device.device.Allows (fun _ => call.Cause) fun answer => attempted? answer.result) := by
      apply Traces.owning
      refine faithful.mono ?_
      intro calls outcome next done
      exact ⟨trivial, done.allowed, done.reports⟩
    refine (owned.followed fun answer => .ofExcept answer.result).mono ?_
    intro calls outcome next done
    exact done.reports
  | ofWriter writer call =>
    have holds : writer.device.Remains (writer.device, machine) := writer.device.remains_self machine
    refine reportsFirstError_of_reports ready (fun _ => rfl) ?_
    apply Traces.owning
    refine (call.faithful_run passes writer.device (writer, machine) holds).mono ?_
    intro calls outcome next done
    exact done.reports
  | finish writer =>
    have holds : writer.device.Remains (writer.device, machine) := writer.device.remains_self machine
    have finished : (Writer.finish : Act (Writer Holding × Machine) Unit).Traces (writer, machine) _ :=
      Writer.traces_finish holds
    apply reportsFirstError_of_traces ready
    apply Traces.owning
    refine finished.mono ?_
    rintro calls outcome next ⟨writes, closes, rfl, done⟩
    refine ⟨writes, closes, rfl, fun within => ⟨?_, done.reports⟩⟩
    cases outcome with
    | ok _ => exact .inl (done.handedOver rfl)
    | error reason =>
      rcases done.panicked reason rfl with ⟨error, rfl⟩ | ⟨_, call, member, beyond⟩
      · exact .inr (done.released error rfl)
      · exact absurd (within call member) beyond

/-- A line that an interruption breaks off reports the interruption, which is the last call. -/
theorem reports_first_error_interrupted_line :
    let operation := ofReader (Reader.withCapacity 4 ⟨.reference ⟨5⟩, "", false⟩) (.readLine "")
    let machine := Machine.start ⟨[(.call .read, [{ stored := some [97, 98] }, { word := some (-4) }])]⟩ .off
    (operation.run machine).1 = .error (.errno Errno.interrupted) ∧
      ∃ own aside, machine.Makes (own ++ aside) (operation.run machine).2 ∧
        ((∀ call ∈ own, call.IsWithin) → aside = [] ∧ ∃ (index : Nat) (call : Event) (error : Errno),
          own[index]? = some call ∧ call.Ends index error ∧ error = Errno.interrupted ∧ index + 1 = own.length) := by
  intro operation machine
  have failed : (operation.run machine).1 = .error (.errno Errno.interrupted) := by rfl
  have ready : machine.LogReady := .inl rfl
  obtain ⟨own, aside, makes, meets⟩ := reports_first_error operation trivial trivial ready
  refine ⟨failed, own, aside, makes, fun within => ?_⟩
  obtain ⟨beside, ends, caused⟩ := meets within
  refine ⟨beside, ?_⟩
  -- A line has no cause of its own to report an interruption.
  by_contra none
  have cause : Errno.interrupted = Errno.illegalSequence := by
    apply caused _ failed
    intro index call other found ended
    obtain ⟨same, last⟩ := ends index call other found ended
    rw [failed] at same
    cases same
    exact none ⟨index, call, _, found, ended, rfl, last⟩
  exact absurd cause (by decide)

/-- A formatted value that does not pass errors on makes a write succeed although the kernel has failed. -/
theorem not_reportsFirstError_lenient :
    let operation := ofWriter (Writer.withCapacity 2 ⟨.reference ⟨5⟩, "", false⟩)
      (.writeFormat (.lenient [some [97, 98]]))
    let machine := Machine.start ⟨[(.call .write, [{ word := some (-28) }])]⟩ .off
    operation.IsFallible ∧ machine.LogReady ∧ ¬ operation.ReportsFirstError machine := by
  intro operation machine
  let device : Holding := ⟨.reference ⟨5⟩, "", false⟩
  let call := (Descriptor.writing 5 [97, 98]).answered (-28)
  have wrote : (Writer.writeThrough [97, 98] : Act (Holding × Machine) Unit) (device, machine) =
      (.error (.errno Errno.noSpace), (device, (Descriptor.write 5 [97, 98] machine).2)) := by
    unfold Writer.writeThrough
    rfl
  have ran : operation.run machine = (.ok (), (Descriptor.write 5 [97, 98] machine).2) := by
    have parts : (Writer.writeAll [97, 98] : Act (Writer Holding × Machine) Unit)
        (Writer.withCapacity 2 device, machine) =
      (((Writer.writeThrough [97, 98] : Act (Holding × Machine) Unit) (device, machine)).1,
        { Writer.withCapacity 2 device with
          device := ((Writer.writeThrough [97, 98] : Act (Holding × Machine) Unit) (device, machine)).2.1 },
        ((Writer.writeThrough [97, 98] : Act (Holding × Machine) Unit) (device, machine)).2.2) := rfl
    rw [wrote] at parts
    have attempted := (Act.attempt_eq_error _ _ _ _).mpr parts
    change Act.owning (Writer.withCapacity 2 device) (Writer.writeFormat (.lenient [some [97, 98]])) machine = _
    rw [Act.owning_apply, Writer.writeFormat, Format.lenient, Writer.writeFormat.go, Act.bind_of_ok _ attempted]
    rfl
  refine ⟨trivial, .inl rfl, ?_⟩
  rintro ⟨own, aside, makes, meets⟩
  rw [ran] at makes meets
  have only : ∀ other ∈ own ++ aside, other = call := by
    intro other member
    have noted : other ∈ [call] := makes.mem_journal other member
    exact List.mem_singleton.mp noted
  have failed : call.error? = some Errno.noSpace := by decide
  have puts : CallKind.write.Puts [] call := ⟨_, rfl⟩
  have within : ∀ other ∈ own, other.IsWithin := by
    intro other member request word count same _ decoded
    rw [only other (List.mem_append_left _ member)] at same
    have answer : word = -28 := (Option.some.inj (congrArg Event.word same)).symm
    have lost : RawReturn.decode (-28) = .error Errno.noSpace := by decide
    rw [answer, lost] at decoded
    contradiction
  obtain ⟨alone, ends, -⟩ := meets within
  have none : aside = [] := alone
  subst none
  cases own with
  | nil =>
    have asked : Event.withoutComplaints [call] = [] := makes.asked_eq
    exact absurd asked (by decide)
  | cons first rest =>
    have same : first = call := only first List.mem_cons_self
    subst same
    have plain : ¬ call.IsBusyDuplicate := puts.not_isBusyDuplicate (by decide)
    have reported := ends 0 call Errno.noSpace rfl ⟨failed, fun busy => absurd busy plain⟩
    cases reported.1

end Operation

end LinuxCalls
