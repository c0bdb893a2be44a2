/-
This file shows that every step of a session is composed of primitives that is no step on the log and no
probe, and that so are the drops at the end of a session.
-/

import LinuxCalls.Session.Run
import LinuxCalls.Proofs.Log.Slots

namespace LinuxCalls

open Act (Composed)
open Session

variable {raw : Request → Prop}

/-- The raw request that a call without an owner is, if it is one. -/
def CallStep.rawRequest? : CallStep → Option Request
  | .perform number words => some ⟨number, words.map Register.word⟩
  | _ => none

theorem CallStep.composed_run (step : CallStep)
    (allowed : ∀ request, step.rawRequest? = some request → raw request) : Composed raw step.run := by
  cases step with
  | openFile path flags mode => exact .map _ (Descriptor.composed_openAt _ _ _ _)
  | openAt directory path flags mode => exact .map _ (Descriptor.composed_openAt _ _ _ _)
  | unlinkAt directory path isDirectory =>
    exact .bind (Descriptor.composed_unlinkAt _ _ _) fun _ => .pure _
  | close descriptor => exact .bind (CallKind.composed_run _ _) fun _ => .pure _
  | duplicate descriptor => exact .map _ (CallKind.composed_invokeInt32 _ _)
  | duplicateOnto descriptor target => exact .map _ (CallKind.composed_invokeInt32 _ _)
  | seek descriptor offset origin => exact .map _ (CallKind.composed_invoke _ _)
  | setLength descriptor length => exact .bind (Descriptor.composed_setLength _ _) fun _ => .pure _
  | read descriptor size => exact .bind (Descriptor.composed_read _ _) fun _ => .ofExcept _
  | write descriptor bytes => exact .bind (Descriptor.composed_write _ _) fun _ => .pure _
  | readAt descriptor size offset => exact .bind (Descriptor.composed_readAt _ _ _) fun _ => .ofExcept _
  | writeAt descriptor bytes offset => exact .bind (Descriptor.composed_writeAt _ _ _) fun _ => .pure _
  | pipe flags => exact .bind (Descriptor.composed_pipe _) fun _ => .pure _
  | status descriptor => exact .map _ (Descriptor.composed_status _)
  | memoryFile name flags => exact .map _ (Descriptor.composed_memoryFile _ _)
  | secretMemoryFile closeOnExec => exact .map _ (CallKind.composed_invokeInt32 _ _)
  | map address length protection sharing flags descriptor offset =>
    exact .map _ (CallKind.composed_invoke _ _)
  | unmap address length => exact .bind (CallKind.composed_run _ _) fun _ => .pure _
  | writeBack address length flags => exact .bind (CallKind.composed_run _ _) fun _ => .pure _
  | processId => exact .map _ Process.composed_identifier
  | openProcess process flags => exact .map _ (CallKind.composed_invokeInt32 _ _)
  | sendSignal descriptor signal => exact .bind (CallKind.composed_run _ _) fun _ => .pure _
  | execute program => exact Process.composed_execute program
  | launch program => exact .map _ (Process.composed_launch program)
  | launchBorrowing program => exact .map _ (Process.composed_launchBorrowing program)
  | fork => exact .map _ Process.composed_fork
  | wait target options =>
    refine .bind (Process.composed_wait target options) fun found => ?_
    cases found <;> exact .pure _
  | exit code => exact Process.composed_exit code
  | die context error => exact Complaint.composed_die context error
  | duplicateOrDie descriptor =>
    exact .map _ (Complaint.composed_orDie (CallKind.composed_invokeInt32 _ _) _)
  | changeMask how set => exact .bind (SignalMask.composed_change how set) fun _ => .pure _
  | currentMask => exact .bind SignalMask.composed_current fun _ => .pure _
  | invoke kind words => exact .map _ (CallKind.composed_invoke _ _)
  | perform number words => exact .bind (.perform _ (.inr (allowed _ rfl))) fun _ => .pure _

namespace GuardStep

theorem composed_make {act : Sys Guard} (clear : Composed raw act) (slot : String) :
    Composed raw (make act slot) :=
  .bind (composed_onMachine clear) fun _ => .bind (composed_storeGuard _ _) fun _ => .pure _

theorem composed_borrowing (slot : String) {use : Guard → Sys Value}
    (used : ∀ guard, Composed raw (use guard)) : Composed raw (borrowing slot use) :=
  composed_withObject (fun _ _ => rfl) slot fun guard =>
    .bind (composed_onMachine (used guard)) fun _ => .pure _

theorem composed_borrowingStandard (slot : String) {use : Guard → Sys Value}
    (used : ∀ guard, Composed raw (use guard)) : Composed raw (borrowingStandard slot use) :=
  composed_withObject (fun _ _ => rfl) slot fun guard =>
    .bind (composed_onMachine (.attempt (used guard))) fun _ => .pure _

theorem composed_consuming (slot : String) {use : Guard → Sys Value}
    (used : ∀ guard, Composed raw (use guard)) : Composed raw (consuming slot use) :=
  composed_withObject (fun _ _ => rfl) slot fun guard =>
    .bind (composed_modify (fun _ => rfl) fun _ _ => rfl) fun _ =>
      .bind (composed_onMachine (used guard)) fun _ => .pure _

theorem composed_reading (size : Nat) (guard : Guard) : Composed raw (reading size guard) :=
  .bind (Descriptor.composed_read _ _) fun _ => .ofExcept _

theorem composed_run (step : GuardStep) : Composed raw step.run := by
  cases step with
  | openFile path flags mode slot => exact composed_make (.map _ (Descriptor.composed_openAt _ _ _ _)) _
  | openAt guard path flags mode slot =>
    exact composed_withObject (fun _ _ => rfl) _ fun _ =>
      composed_make (.map _ (Descriptor.composed_openAt _ _ _ _)) _
  | memoryFile name flags slot => exact composed_make (.map _ (Descriptor.composed_memoryFile _ _)) _
  | secretMemoryFile closeOnExec slot =>
    exact composed_make (.map _ (CallKind.composed_invokeInt32 _ _)) _
  | ofProcess process flags slot => exact composed_make (.map _ (CallKind.composed_invokeInt32 _ _)) _
  | ofDescriptor descriptor slot => exact composed_make (.pure _) _
  | duplicate guard slot =>
    exact composed_withObject (fun _ _ => rfl) _ fun _ =>
      composed_make (.map _ (CallKind.composed_invokeInt32 _ _)) _
  | pipe flags input output =>
    exact .bind (composed_onMachine (Guard.composed_pipe flags)) fun _ =>
      .bind (composed_storeGuard _ _) fun _ => .bind (composed_storeGuard _ _) fun _ => .pure _
  | duplicateOnto guard target =>
    exact composed_withObject (fun _ _ => rfl) _ fun _ => composed_borrowing _ fun _ =>
      .bind (.bind (CallKind.composed_invokeInt32 _ _) fun _ => .pure _) fun _ => .pure _
  | descriptor guard =>
    exact composed_withObject (fun _ _ => rfl) _ fun guard =>
      .bind (composed_onMachine guard.composed_handOver) fun _ => .pure _
  | giveUp guard => exact composed_consuming _ fun _ => .pure _
  | close guard =>
    exact composed_consuming _ fun _ => .bind (CallKind.composed_run _ _) fun _ => .pure _
  | drop guard => exact composed_consuming _ fun guard => .bind guard.composed_drop fun _ => .pure _
  | handOver guard =>
    exact composed_withObject (fun _ _ => rfl) _ fun guard =>
      .bind (composed_modify (fun _ => rfl) fun _ _ => rfl) fun _ =>
        .bind (composed_onMachine guard.composed_handOver) fun _ =>
          .bind (composed_storeGuard _ _) fun _ => .pure _
  | read guard size => exact composed_borrowing _ (composed_reading size)
  | write guard bytes =>
    exact composed_borrowing _ fun _ => .bind (Descriptor.composed_write _ _) fun _ => .pure _
  | writeAll guard bytes =>
    exact composed_borrowing _ fun guard => .bind (guard.composed_writeAll bytes) fun _ => .pure _
  | readAt guard size offset =>
    exact composed_borrowing _ fun _ => .bind (Descriptor.composed_readAt _ _ _) fun _ => .ofExcept _
  | writeAt guard bytes offset =>
    exact composed_borrowing _ fun _ => .bind (Descriptor.composed_writeAt _ _ _) fun _ => .pure _
  | seek guard offset origin => exact composed_borrowing _ fun _ => .map _ (CallKind.composed_invoke _ _)
  | setLength guard length =>
    exact composed_borrowing _ fun _ => .bind (Descriptor.composed_setLength _ _) fun _ => .pure _
  | status guard => exact composed_borrowing _ fun _ => .map _ (Descriptor.composed_status _)
  | standardRead guard size => exact composed_borrowingStandard _ (composed_reading size)
  | standardWrite guard bytes =>
    exact composed_borrowingStandard _ fun _ => .bind (Descriptor.composed_write _ _) fun _ => .pure _
  | standardFlush guard => exact composed_borrowingStandard _ fun _ => .pure _
  | standardSeek guard position =>
    exact composed_borrowingStandard _ fun guard => .map _ (guard.composed_seekStandard position)

end GuardStep

namespace MappingStep

theorem composed_make {act : Sys Mapping} (clear : Composed raw act) (slot : String) :
    Composed raw (make act slot) :=
  .bind (composed_onMachine clear) fun _ => .bind (composed_storeMapping _ _) fun _ => .pure _

theorem composed_run (step : MappingStep) : Composed raw step.run := by
  cases step with
  | anonymous length protection slot => exact composed_make (Mapping.composed_make _ _ _ _ _ _) _
  | ofFile file length offset protection sharing slot =>
    cases file with
    | descriptor descriptor => exact composed_make (Mapping.composed_make _ _ _ _ _ _) _
    | guard guard =>
      exact composed_withObject (fun _ _ => rfl) _ fun _ =>
        composed_make (Mapping.composed_make _ _ _ _ _ _) _
  | info mapping => exact composed_withObject (fun _ _ => rfl) _ fun _ => .pure _
  | slice mapping start length =>
    refine composed_withObject (fun _ _ => rfl) _ fun mapping => .get_bind (fun session loud alike => ?_)
      fun session => ?_
    · have same : (withMachine session loud).machine.memory = session.machine.memory := alike.memory
      simp only [same]
    · cases mapping.slice session.machine.memory start length <;> exact .pure _
  | copyIn mapping start bytes =>
    exact composed_withObject (fun _ _ => rfl) _ fun mapping =>
      .bind (composed_onMachine (mapping.composed_copyIn start bytes)) fun _ => .pure _
  | flush mapping =>
    exact composed_withObject (fun _ _ => rfl) _ fun mapping =>
      .bind (composed_onMachine mapping.composed_flush) fun _ => .pure _
  | drop mapping =>
    exact composed_withObject (fun _ _ => rfl) _ fun _ =>
      .bind (composed_dropMapping _) fun _ => .pure _

end MappingStep

namespace CursorStep

theorem composed_onCursor (slot : String) {act : Act (Cursor × Machine) Value} (clear : Composed raw act) :
    Composed raw (onCursor slot act) :=
  composed_withObject (fun _ _ => rfl) slot fun bookmark =>
    .bind (composed_onMachine (.beside bookmark.cursor (.attempt clear))) fun ended =>
      .bind (.resume ended.1) fun _ => .bind (composed_modify (fun _ => rfl) fun _ _ => rfl) fun _ => .pure _

theorem composed_run (step : CursorStep) : Composed raw step.run := by
  cases step with
  | start mapping slot =>
    exact composed_withObject (fun _ _ => rfl) _ fun _ =>
      .bind (composed_modify (fun _ => rfl) fun _ _ => rfl) fun _ =>
        .bind (composed_storeCursor _ _) fun _ => .pure _
  | read cursor size =>
    exact composed_onCursor _ (.bind (Cursor.composed_read size) fun _ => .pure _)
  | write cursor bytes =>
    exact composed_onCursor _ (.bind (Cursor.composed_write bytes) fun _ => .pure _)
  | moveTo cursor position =>
    exact composed_onCursor _ (.bind (.modifyBeside (fun _ => rfl) fun _ _ => rfl) fun _ => .pure _)
  | position cursor => exact composed_onCursor _ (.pure _)
  | drop cursor =>
    exact composed_withObject (fun _ _ => rfl) _ fun _ => .bind (composed_dropCursor _) fun _ => .pure _

end CursorStep

namespace ReaderStep

theorem composed_onReader (slot : String) {act : Act (Reader Holding × Machine) Report}
    (clear : Composed raw act) : Composed raw (onReader slot act) :=
  composed_withObject (fun _ _ => rfl) slot fun _ =>
    .focus clear (fun _ => rfl) (fun _ _ => rfl) (fun _ _ => rfl) fun _ _ _ _ => rfl

theorem composed_run (slot : String) (step : ReaderStep) : Composed raw (step.run slot) := by
  have source : Source.Composed raw Holding := Holding.composed_source
  cases step with
  | start choice capacity =>
    refine .bind (composed_takeDevice choice) fun taken => ?_
    cases taken with
    | none => exact .pure _
    | some holding => exact .bind (composed_storeReader _ _) fun _ => .pure _
  | fill => exact composed_onReader _ (.bind (Reader.composed_available source) fun _ => .pure _)
  | consume amount => exact composed_onReader _ (.bind (Reader.composed_change _) fun _ => .pure _)
  | read size => exact composed_onReader _ (.bind (Reader.composed_read source _) fun _ => .pure _)
  | readExact size =>
    exact composed_onReader _ (.bind (Reader.composed_fillFrom source _ _) fun _ => .pure _)
  | readUntil delimiter bytes =>
    exact composed_onReader _ (.bind (Reader.composed_readUntil source delimiter bytes) fun _ => .pure _)
  | readLine text => exact composed_onReader _ (.bind (Reader.composed_readLine source text) fun _ => .pure _)
  | device => exact composed_withObject (fun _ _ => rfl) _ fun _ => .pure _
  | finish =>
    exact composed_withObject (fun _ _ => rfl) _ fun _ =>
      .bind (composed_modify (fun _ => rfl) fun _ _ => rfl) fun _ =>
        .bind (composed_giveBack _) fun _ => .pure _
  | drop =>
    exact composed_withObject (fun _ _ => rfl) _ fun _ => .bind (composed_dropReader _) fun _ => .pure _

end ReaderStep

namespace WriterStep

theorem composed_onWriter (slot : String) (failure : Errno → Failure)
    {act : Act (Writer Holding × Machine) Unit} (clear : Composed raw act) :
    Composed raw (onWriter slot failure act) :=
  composed_withObject (fun _ _ => rfl) slot fun _ =>
    .focus (.bind (.attempt clear) fun _ => .get_bind (fun _ _ _ => rfl) fun _ => .pure _)
      (fun _ => rfl) (fun _ _ => rfl) (fun _ _ => rfl) fun _ _ _ _ => rfl

theorem composed_run (slot : String) (step : WriterStep) : Composed raw (step.run slot) := by
  have sink : Sink.Composed raw Holding := Holding.composed_sink
  cases step with
  | start choice capacity =>
    refine .bind (composed_takeDevice choice) fun taken => ?_
    cases taken with
    | none => exact .pure _
    | some holding => exact .bind (composed_storeWriter _ _) fun _ => .pure _
  | writeAll bytes => exact composed_onWriter _ _ (Writer.composed_writeAll sink bytes)
  | writeFormat format => exact composed_onWriter _ _ (Writer.composed_writeFormat_go sink format none)
  | writeText text => exact composed_onWriter _ _ (Writer.composed_writeAll sink _)
  | flush => exact composed_onWriter _ _ (Writer.composed_flush sink)
  | device => exact composed_withObject (fun _ _ => rfl) _ fun _ => .pure _
  | finish =>
    refine composed_withObject (fun _ _ => rfl) _ fun writer =>
      .bind (composed_modify (fun _ => rfl) fun _ _ => rfl) fun _ =>
        .bind (composed_onMachine (.beside writer
          (Writer.composed_finish sink Holding.composed_resource))) fun ended => ?_
    obtain ⟨result, writer⟩ := ended
    cases result with
    | ok _ => exact .bind (composed_giveBack _) fun _ => .pure _
    | error fault => exact .bind (composed_settleAfter _ _) fun _ => .fault _
  | drop =>
    exact composed_withObject (fun _ _ => rfl) _ fun _ => .bind (composed_dropWriter _) fun _ => .pure _

end WriterStep

namespace Step

/-- A step of the library is no step on the log and no probe. -/
def isLibrary : Step → Bool
  | .log _ => false
  | .probe => false
  | _ => true

/-- The raw request that a step makes, if it makes one. -/
def rawRequest? : Step → Option Request
  | .call step => step.rawRequest?
  | _ => none

theorem composed_run {step : Step} (library : step.isLibrary = true)
    (allowed : ∀ request, step.rawRequest? = some request → raw request) : Composed raw step.run := by
  cases step with
  | call step => exact .bind (composed_onMachine (step.composed_run allowed)) fun _ => .pure _
  | guard step => exact step.composed_run
  | mapping step => exact step.composed_run
  | cursor step => exact step.composed_run
  | reader slot step => exact step.composed_run slot
  | writer slot step => exact step.composed_run slot
  | log step => contradiction
  | probe => contradiction

theorem transparent_run {step : Step} (library : step.isLibrary = true) : Act.Transparent step.run := by
  have composed : Composed (fun _ => True) step.run := composed_run library fun _ _ => trivial
  exact composed.transparent

end Step

namespace Session

theorem composed_dropEach {drop : String → Act Session Unit} (dropped : ∀ slot, Composed raw (drop slot))
    (slots : List String) : Composed raw (dropEach drop slots) := by
  induction slots with
  | nil => exact .pure _
  | cons slot rest later => exact .bind (.outcome (dropped slot)) fun _ => later

theorem composed_dropAll : Composed raw dropAll :=
  .get_bind (fun _ _ _ => rfl) fun _ => .bind (composed_dropEach composed_dropReader _) fun _ =>
    .get_bind (fun _ _ _ => rfl) fun _ => .bind (composed_dropEach composed_dropWriter _) fun _ =>
    .get_bind (fun _ _ _ => rfl) fun _ => .bind (composed_dropEach composed_dropCursor _) fun _ =>
    .get_bind (fun _ _ _ => rfl) fun _ => .bind (composed_dropEach composed_dropMapping _) fun _ =>
    .get_bind (fun _ _ _ => rfl) fun _ => composed_dropEach composed_dropGuard _

theorem transparent_dropAll : Act.Transparent dropAll := by
  have composed : Composed (fun _ => True) dropAll := composed_dropAll
  exact composed.transparent

end Session

end LinuxCalls
