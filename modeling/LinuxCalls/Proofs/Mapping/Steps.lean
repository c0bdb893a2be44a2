/-
This file keeps the accounts of mappings over the steps on guards, mappings and cursors. A step on a guard
leaves every mapping where it is, a mapping that is made lives in its slot, and a cursor only borrows it.
-/

import LinuxCalls.Proofs.Mapping.Shelving
import LinuxCalls.Proofs.Ownership.Steps

namespace LinuxCalls

open Act (Confined Faithful Traces)

namespace Event

/-- A call that opens descriptors unmaps nothing. -/
theorem keepsMapped_of_isOpening {call : Event} (opens : call.question.isOpening = true) : call.KeepsMapped := by
  rcases asked : call.question with request | ⟨name, registers⟩
  · rw [asked] at opens
    obtain ⟨kind, member, same⟩ := List.any_eq_true.mp opens
    have puts : kind.Puts [] call := by
      refine ⟨request.registers, ?_⟩
      rw [asked, List.nil_append, beq_iff_eq.mp same]
    apply keepsMapped_of_puts puts
    rintro rfl
    revert member
    decide
  · rw [asked] at opens
    contradiction

/-- A call on a descriptor unmaps nothing. -/
theorem Uses.keepsMapped {descriptor : Descriptor} {call : Event} (uses : call.Uses descriptor) :
    call.KeepsMapped := by
  cases uses with
  | on member puts =>
    apply keepsMapped_of_puts puts
    rintro rfl
    revert member
    decide
  | onto puts => exact keepsMapped_of_puts puts (by decide)

end Event

namespace Session

/-- An action spares mappings if apart from guards all objects stay where they are, and nothing is unmapped. -/
def Spares {α : Type} (act : Act Session α) : Prop :=
  ∀ origin : Session, Confined origin.SameObjects Event.KeepsMapped act

/-- What lived and what has come to live is what lives and what was unmapped, unless there is a panic. -/
def Retains {α : Type} (before : Session) (calls : List Event) (outcome : Except Fault α) (next : Session) : Prop :=
  outcome = .error .panic ∨ next.Distinct ∧ Mapping.Leaves before.mapped calls next.mapped

variable {session : Session} {α β : Type}

/-- Nothing is retained at all times. -/
theorem Retains.nothing (distinct : session.Distinct) (outcome : Except Fault α) : session.Retains [] outcome session :=
  .inr ⟨distinct, .all rfl⟩

/-- What is shelved from an empty hand is retained. -/
theorem Shelves.retains {next : Session} {calls : List Event} (shelves : Shelves 0 session calls next)
    (outcome : Except Fault α) : session.Retains calls outcome next := by
  have leaves := shelves.leaves
  rw [add_zero] at leaves
  exact .inr ⟨shelves.distinct, leaves⟩

namespace Spares

theorem pure (value : α) : Spares (Pure.pure value : Act Session α) := fun _ => .pure value

theorem bind {first : Act Session α} {second : α → Act Session β} (spares : Spares first)
    (onwards : ∀ value, Spares (second value)) : Spares (first >>= second) :=
  fun origin => (spares origin).bind fun value => onwards value origin

theorem get_bind {second : Session → Act Session β} (spares : ∀ session, Spares (second session)) :
    Spares (Act.get >>= second) :=
  fun origin session same => .get_bind (spares session origin session same)

/-- An action on the machine spares mappings if its calls unmap nothing. -/
theorem onMachine {act : Sys α} {allowed : Event → Prop} (confined : Confined (fun _ => True) allowed act)
    (keeps : ∀ call, allowed call → call.KeepsMapped) : Spares (onMachine act) := by
  intro origin session same
  apply traces_onMachine
  refine (confined session.machine trivial).mono ?_
  rintro calls outcome next ⟨-, inside⟩
  exact ⟨⟨same.mappings, same.cursors, same.readers, same.writers⟩, fun call member => keeps call (inside call member)⟩

/-- Moving guards spares mappings. -/
theorem moveGuards (change : Slots Guard → Slots Guard) :
    Spares (Act.modify fun session => { session with guards := change session.guards }) :=
  fun _ => .of_still fun _ same => ⟨rfl, same.mappings, same.cursors, same.readers, same.writers⟩

/-- A step on an object that is in its slot spares mappings, and so does a report of an empty slot. -/
theorem withObject {slots : Session → Slots α} {slot : String} {use : α → Act Session Report}
    (spares : ∀ object, Spares (use object)) : Spares (withObject slots slot use) := by
  intro origin session same
  apply Traces.get_bind
  cases (slots session).get? slot with
  | none => exact .pure ⟨same, nofun⟩
  | some object => exact spares object origin session same

/-- A guard that is stored spares mappings, and so does the one that makes way for it. -/
theorem storeGuard (slot : String) (guard : Guard) : Spares (storeGuard slot guard) := by
  rintro origin session ⟨mappings, cursors, readers, writers⟩
  refine (shelves_storeGuard slot guard).mono ?_
  rintro calls outcome next ⟨-, same, keeps⟩
  exact ⟨⟨same.mappings.trans mappings, same.cursors.trans cursors, same.readers.trans readers,
    same.writers.trans writers⟩, keeps⟩

/-- An action that spares mappings retains them. -/
theorem retains {act : Act Session α} (spares : Spares act) (distinct : session.Distinct) :
    act.Traces session (Retains session) := by
  refine (spares session session ⟨rfl, rfl, rfl, rfl⟩).mono ?_
  rintro calls outcome next ⟨same, keeps⟩
  exact (same.shelves distinct (Event.unmaps_eq_nil keeps)).retains outcome

end Spares

end Session

open Session

namespace GuardStep

/-- A guard that is made spares mappings. -/
theorem spares_make {act : Sys Guard} {allowed : Event → Prop} (slot : String)
    (confined : Confined (fun _ => True) allowed act) (keeps : ∀ call, allowed call → call.KeepsMapped) :
    Spares (make act slot) :=
  (Spares.onMachine confined keeps).bind fun guard => (Spares.storeGuard slot guard).bind fun _ => .pure _

/-- A guard that is borrowed spares mappings. -/
theorem spares_borrowing (slot : String) {use : Guard → Sys Value}
    (confined : ∀ guard : Guard, guard.Confines (use guard)) :
    Spares (borrowing slot use) :=
  .withObject fun guard =>
    (Spares.onMachine (confined guard) fun _ borrows => borrows.uses.keepsMapped).bind fun _ => .pure _

/-- A guard that is borrowed for the standard streams spares mappings. -/
theorem spares_borrowingStandard (slot : String) {use : Guard → Sys Value}
    (confined : ∀ guard : Guard, guard.Confines (use guard)) : Spares (borrowingStandard slot use) :=
  .withObject fun guard =>
    (Spares.onMachine (confined guard).attempt fun _ borrows => borrows.uses.keepsMapped).bind fun _ => .pure _

/-- A guard that is used up spares mappings if it makes no call or is closed. -/
theorem spares_consuming (slot : String) {use : Guard → Sys Value}
    (confined : ∀ guard : Guard, Confined (fun _ => True) Event.KeepsMapped (use guard)) :
    Spares (consuming slot use) :=
  .withObject fun guard => (Spares.moveGuards fun guards => guards.erase slot).bind fun _ =>
    (Spares.onMachine (confined guard) fun _ => id).bind fun _ => .pure _

theorem confined_closing {act : Sys Value} {guard : Guard} (closes : ∀ machine, act.Traces machine fun calls _ _ =>
    ∃ word, calls = [(Descriptor.closing guard.descriptor).answered word]) :
    Confined (fun _ => True) Event.KeepsMapped act := by
  intro machine _
  refine (closes machine).mono ?_
  rintro _ outcome next ⟨word, rfl⟩
  refine ⟨trivial, ?_⟩
  simpa using Descriptor.keepsMapped_closing guard.descriptor word

theorem confined_handOver (guard : Guard) : Confined (fun _ => True) Event.KeepsMapped guard.handOver := by
  unfold Guard.handOver
  split
  · exact .fault _
  · exact .pure _

/-- A step on guards spares mappings. -/
theorem spares_run (step : GuardStep) : Spares step.run := by
  have opens (call : Event) (opens : call.question.isOpening = true) : call.KeepsMapped :=
    Event.keepsMapped_of_isOpening opens
  cases step with
  | openFile path flags mode slot => exact spares_make slot (Guard.isCarriedOut_openFile path flags mode).confined opens
  | openAt guard path flags mode slot =>
    exact .withObject fun guard =>
      spares_make slot (guard.isCarriedOut_openAt path flags mode).confined opens
  | memoryFile name flags slot => exact spares_make slot (Guard.isCarriedOut_memoryFile name flags).confined opens
  | secretMemoryFile closeOnExec slot =>
    exact spares_make slot (Guard.isCarriedOut_secretMemoryFile closeOnExec).confined opens
  | ofProcess process flags slot => exact spares_make slot (Guard.isCarriedOut_ofProcess process flags).confined opens
  | ofDescriptor descriptor slot => exact spares_make slot (.pure _) opens
  | duplicate guard slot =>
    exact .withObject fun guard => spares_make slot guard.isCarriedOut_duplicate.confined opens
  | pipe flags input output =>
    exact (Spares.onMachine (Guard.isCarriedOut_pipe flags).confined opens).bind fun ends =>
      (Spares.storeGuard input ends.1).bind fun _ => (Spares.storeGuard output ends.2).bind fun _ => .pure _
  | duplicateOnto guard target =>
    exact .withObject fun target =>
      spares_borrowing guard fun guard => (guard.confines_duplicateOnto target).bind fun _ => .pure _
  | descriptor guard =>
    exact .withObject fun guard => (Spares.onMachine (confined_handOver guard) fun _ => id).bind fun _ => .pure _
  | giveUp guard => exact spares_consuming guard fun _ => .pure _
  | close guard => exact spares_consuming guard fun guard => confined_closing fun _ => traces_close guard
  | drop guard => exact spares_consuming guard fun guard => confined_closing fun _ => traces_drop guard
  | handOver slot =>
    exact .withObject fun guard => (Spares.moveGuards fun guards => guards.erase slot).bind fun _ =>
      (Spares.onMachine (confined_handOver guard) fun _ => id).bind fun owned =>
        (Spares.storeGuard slot ⟨owned⟩).bind fun _ => .pure _
  | read guard size => exact spares_borrowing guard fun guard => confines_reading guard size
  | write guard bytes => exact spares_borrowing guard fun guard => (guard.confines_write bytes).bind fun _ => .pure _
  | writeAll guard bytes =>
    exact spares_borrowing guard fun guard => (guard.confines_writeAll bytes).bind fun _ => .pure _
  | readAt guard size offset =>
    exact spares_borrowing guard fun guard => (guard.confines_readAt size offset).bind fun _ => .ofExcept _
  | writeAt guard bytes offset =>
    exact spares_borrowing guard fun guard => (guard.confines_writeAt bytes offset).bind fun _ => .pure _
  | seek guard offset origin => exact spares_borrowing guard fun guard => (guard.confines_seek offset origin).map _
  | setLength guard length =>
    exact spares_borrowing guard fun guard => (guard.confines_setLength length).bind fun _ => .pure _
  | status guard => exact spares_borrowing guard fun guard => guard.confines_status.map _
  | standardRead guard size => exact spares_borrowingStandard guard fun guard => confines_reading guard size
  | standardWrite guard bytes =>
    exact spares_borrowingStandard guard fun guard => (guard.confines_write bytes).bind fun _ => .pure _
  | standardFlush guard => exact spares_borrowingStandard guard fun _ => .pure _
  | standardSeek guard position =>
    exact spares_borrowingStandard guard fun guard => (guard.confines_seekStandard position).map _

end GuardStep

namespace MappingStep

variable {session : Session}

/-- What a step plans to map, and the slot that the mapping is to go to. -/
def plan? (session : Session) : MappingStep → Option (Mapping.Plan × String)
  | .anonymous length protection slot => some (⟨-1, length, 0, protection, .copied, MapFlags.anonymous⟩, slot)
  | .ofFile (.descriptor descriptor) length offset protection sharing slot =>
    some (⟨descriptor, length, offset, protection, sharing, Flags.empty⟩, slot)
  | .ofFile (.guard guard) length offset protection sharing slot =>
    (session.guards.get? guard).map fun guard =>
      (⟨guard.descriptor, length, offset, protection, sharing, Flags.empty⟩, slot)
  | _ => none

/-- The mapping that a step reports to have made. -/
def made (step : MappingStep) (report : Report) : List Mapping :=
  match step, report.outcome with
  | .anonymous length protection _, .ok (.number address) => [⟨UInt64.ofNat address.toNat, length, protection, .copied⟩]
  | .ofFile _ length _ protection sharing _, .ok (.number address) =>
    [⟨UInt64.ofNat address.toNat, length, protection, sharing⟩]
  | _, _ => []

/-- A step with a plan makes a mapping as planned. -/
theorem run_of_plan? {step : MappingStep} {plan : Mapping.Plan} {slot : String}
    (planned : step.plan? session = some (plan, slot)) : step.run session = make plan.make slot session := by
  cases step with
  | anonymous length protection name =>
    cases planned
    rfl
  | ofFile file length offset protection sharing name =>
    cases file with
    | descriptor descriptor =>
      cases planned
      rfl
    | guard guard =>
      cases found : session.guards.get? guard with
      | none =>
        rw [plan?, found] at planned
        contradiction
      | some held =>
        rw [plan?, found] at planned
        cases planned
        exact withObject_of_some found _
  | _ => contradiction

/-- A step with a plan that reports an address has made the mapping at that address. -/
theorem made_of_plan? {step : MappingStep} {plan : Mapping.Plan} {slot : String}
    (planned : step.plan? session = some (plan, slot)) (address : UInt64) :
    step.made (.ofValue (.ofWord address)) = [plan.placed address] := by
  have same : UInt64.ofNat ((address.toNat : Int)).toNat = address := by simp
  cases step with
  | anonymous length protection name =>
    cases planned
    simp only [made, Report.ofValue, Value.ofWord, same, Mapping.Plan.placed]
  | ofFile file length offset protection sharing name =>
    have kept : plan.length = length ∧ plan.protection = protection ∧ plan.sharing = sharing := by
      cases file with
      | descriptor descriptor =>
        cases planned
        exact ⟨rfl, rfl, rfl⟩
      | guard guard =>
        obtain ⟨held, -, equal⟩ := Option.map_eq_some_iff.mp planned
        cases equal
        exact ⟨rfl, rfl, rfl⟩
    obtain ⟨rfl, rfl, rfl⟩ := kept
    simp only [made, Report.ofValue, Value.ofWord, same, Mapping.Plan.placed]
  | _ => contradiction

/-- What has come of a plan: a mapping in its slot in place of the one that was there, or an error and nothing else. -/
inductive Carried (plan : Mapping.Plan) (slot : String) (before : Session) :
    List Event → Except Fault Report → Session → Prop
  | made {word : UInt64} {mapping : Mapping} {drops : List Event} (machine : Machine)
      (result : plan.result word = .ok mapping) (dropped : drops.map Event.question = before.drops slot) :
      Carried plan slot before (plan.request.answered word :: drops) (.ok (.ofValue (.ofWord mapping.address)))
        { before with mappings := before.mappings.put slot mapping, machine := machine }
  | failed {word : UInt64} {error : Errno} (machine : Machine) (result : plan.result word = .error error) :
      Carried plan slot before [plan.request.answered word] (.error (.errno error)) { before with machine := machine }

/-- An accepted plan is carried out. -/
theorem traces_make {plan : Mapping.Plan} (accepted : ¬ plan.IsRejected) (slot : String) :
    (make plan.make slot).Traces session (Carried plan slot session) := by
  have asks : (onMachine plan.make).Traces session fun calls outcome next => ∃ word machine,
      calls = [plan.request.answered word] ∧ outcome = (plan.result word).mapError .errno ∧
        next = { session with machine := machine } := by
    apply traces_onMachine
    refine (Mapping.Plan.traces_make accepted).mono ?_
    rintro calls outcome next ⟨word, rfl, rfl⟩
    exact ⟨word, next, rfl, rfl, rfl⟩
  apply asks.bind
  · rintro _ mapping _ ⟨word, machine, rfl, ended, rfl⟩
    cases result : plan.result word with
    | error error =>
      rw [result] at ended
      contradiction
    | ok placed =>
      rw [result] at ended
      cases ended
      apply (traces_storeMapping slot mapping).bind_success_pure
      rintro calls _ ⟨asked, last, rfl⟩
      exact .made last result asked
  · rintro _ reason _ ⟨word, machine, rfl, ended, rfl⟩
    cases result : plan.result word with
    | error error =>
      rw [result] at ended
      cases ended
      exact .failed machine result
    | ok placed =>
      rw [result] at ended
      contradiction

end MappingStep

/-- The mappings that a step reports to have made. -/
def Step.made (step : Step) (report : Report) : List Mapping :=
  match step with
  | .mapping step => step.made report
  | _ => []

/--
The accounts of mappings over a step with a report. What lived and what was made is what lives and what was
unmapped, and only valid mappings are made.
-/
structure Step.Tallies (step : Step) (report : Report) (before : Session) (calls : List Event) (next : Session) :
    Prop where
  distinct : next.Distinct
  leaves : Mapping.Leaves (before.mapped + (step.made report : List Mapping)) calls next.mapped
  valid : ∀ mapping ∈ step.made report, mapping.IsValid

/-- A step keeps the accounts of mappings if every report of it is accounted for. -/
def Step.KeepsTally (step : Step) (before : Session) (calls : List Event) (outcome : Except Fault Report)
    (next : Session) : Prop :=
  ∀ report, Session.endingOf outcome = .report report → step.Tallies report before calls next

/-- A step that retains mappings and makes none keeps their accounts. -/
theorem Session.Retains.keepsTally {step : Step} {before next : Session} {calls : List Event}
    {outcome : Except Fault Report} (retains : before.Retains calls outcome next)
    (none : ∀ report, endingOf outcome = .report report → step.made report = []) :
    step.KeepsTally before calls outcome next := by
  intro report reported
  rcases retains with rfl | ⟨distinct, leaves⟩
  · contradiction
  · have nothing := none report reported
    refine ⟨distinct, ?_, ?_⟩
    · rw [nothing, Multiset.coe_nil, add_zero]
      exact leaves
    · rw [nothing]
      exact fun _ => nofun

/-- A step that spares mappings and makes none keeps their accounts. -/
theorem Session.Spares.keepsTally {step : Step} {session : Session} (spares : Spares step.run)
    (distinct : session.Distinct) (none : ∀ report, step.made report = []) :
    step.run.Traces session (step.KeepsTally session) :=
  (spares.retains distinct).mono fun _ _ _ retains => retains.keepsTally fun report _ => none report

namespace MappingStep

variable {session : Session}

/-- A failure makes no mapping. -/
theorem made_ofFailure (step : MappingStep) (failure : Failure) : step.made (.ofFailure failure) = [] := by
  cases step <;> rfl

/-- What has come of an accepted plan is accounted for. -/
theorem Carried.keepsTally {step : MappingStep} {plan : Mapping.Plan} {slot : String} {next : Session}
    {calls : List Event} {outcome : Except Fault Report} (carried : Carried plan slot session calls outcome next)
    (planned : step.plan? session = some (plan, slot)) (accepted : ¬ plan.IsRejected) (distinct : session.Distinct) :
    (Step.mapping step).KeepsTally session calls outcome next := by
  have quiet (word : UInt64) : Event.unmaps [plan.request.answered word] = [] :=
    Event.unmaps_eq_nil (by simpa using Mapping.Plan.keepsMapped_request word)
  cases carried with
  | @made word mapping drops machine result dropped =>
    intro report reported
    cases reported
    obtain ⟨placed, valid⟩ := Mapping.Plan.isValid_of_result accepted result
    have made : (Step.mapping step).made (.ofValue (.ofWord mapping.address)) = [mapping] :=
      (made_of_plan? planned mapping.address).trans (congrArg (fun mapping => [mapping]) placed.symm)
    have shelves := (Shelves.stored distinct mapping dropped machine).after (quiet word)
    refine ⟨shelves.distinct, ?_, ?_⟩
    · rw [made]
      exact shelves.leaves
    · rw [made]
      simpa using valid
  | @failed word error machine result =>
    have same : session.SameObjects { session with machine := machine } := ⟨rfl, rfl, rfl, rfl⟩
    apply ((same.shelves distinct (quiet word)).retains _).keepsTally
    intro report reported
    cases reported
    exact made_ofFailure step _

theorem confined_copyIn (mapping : Mapping) (start : Nat) (bytes : Bytes) :
    Confined (fun _ => True) Event.KeepsMapped (mapping.copyIn start bytes) := by
  unfold Mapping.copyIn
  split
  · exact .fault _
  · split
    · exact .fault _
    · exact fun machine _ => .of_eq rfl (.stored _ (.nothing _)) ⟨trivial, nofun⟩

theorem confined_flush (mapping : Mapping) : Confined (fun _ => True) Event.KeepsMapped mapping.flush := by
  unfold Mapping.flush
  split
  · exact .pure _
  · have faithful : Faithful (fun _ => True) (CallKind.writeBack.Puts []) (fun _ _ => True) (fun _ => none)
        (MappedRange.writeBack mapping.address mapping.length WriteBackFlags.awaited) :=
      CallKind.faithful_run List.nil_prefix
    exact faithful.confined.mono fun _ puts => Event.keepsMapped_of_puts puts (by decide)

/-- A step without a plan makes nothing: its file has no guard, or it is not there to make a mapping. -/
theorem traces_of_plan?_eq_none {step : MappingStep} (planned : step.plan? session = none)
    (distinct : session.Distinct) : step.run.Traces session ((Step.mapping step).KeepsTally session) := by
  cases step with
  | anonymous length protection slot => contradiction
  | ofFile file length offset protection sharing slot =>
    cases file with
    | descriptor descriptor => contradiction
    | guard guard =>
      have missing : session.guards.get? guard = none := Option.map_eq_none_iff.mp planned
      apply traces_withObject
      · apply (Retains.nothing distinct _).keepsTally
        intro report reported
        cases reported
        rfl
      · intro held found
        rw [missing] at found
        contradiction
  | info mapping =>
    have spares : Spares (Step.mapping (.info mapping)).run := .withObject fun _ => .pure _
    exact spares.keepsTally distinct fun _ => rfl
  | slice mapping start length =>
    have spares : Spares (Step.mapping (.slice mapping start length)).run := by
      apply Spares.withObject
      intro mapping
      apply Spares.get_bind
      intro session
      cases mapping.slice session.machine.memory start length <;> exact .pure _
    exact spares.keepsTally distinct fun _ => rfl
  | copyIn mapping start bytes =>
    have spares : Spares (Step.mapping (.copyIn mapping start bytes)).run := .withObject fun mapping =>
      (Spares.onMachine (confined_copyIn mapping start bytes) fun _ => id).bind fun _ => .pure _
    exact spares.keepsTally distinct fun _ => rfl
  | flush mapping =>
    have spares : Spares (Step.mapping (.flush mapping)).run := .withObject fun mapping =>
      (Spares.onMachine (confined_flush mapping) fun _ => id).bind fun _ => .pure _
    exact spares.keepsTally distinct fun _ => rfl
  | drop mapping =>
    apply traces_withObject
    · exact (Retains.nothing distinct _).keepsTally fun _ _ => rfl
    · intro held found
      apply (shelves_dropMapping distinct mapping).bind_success_pure
      intro calls next shelves
      exact (shelves.retains _).keepsTally fun _ _ => rfl

/-- A step on mappings keeps their accounts. -/
theorem traces_run (step : MappingStep) (distinct : session.Distinct) :
    step.run.Traces session ((Step.mapping step).KeepsTally session) := by
  cases planned : step.plan? session with
  | none => exact traces_of_plan?_eq_none planned distinct
  | some entry =>
    obtain ⟨plan, slot⟩ := entry
    apply Traces.congr (run_of_plan? planned)
    by_cases rejected : plan.IsRejected
    · rw [Mapping.Plan.make_of_isRejected rejected]
      apply Traces.of_still rfl
      apply (Retains.nothing distinct _).keepsTally
      intro report reported
      cases reported
      exact made_ofFailure step _
    · exact (traces_make rejected slot).mono fun _ _ _ carried => carried.keepsTally planned rejected distinct

end MappingStep

namespace CursorStep

variable {session : Session}

/-- An action on a cursor is confined if it keeps the mapping and makes no call. -/
abbrev Confines {α : Type} (mapping : Mapping) (act : Act (Cursor × Machine) α) : Prop :=
  Confined (fun state => state.1.mapping = mapping) (fun _ => False) act

theorem confines_read (mapping : Mapping) (size : Nat) : Confines mapping (Cursor.read size) :=
  .of_still fun _ kept => ⟨rfl, kept⟩

theorem confines_write (mapping : Mapping) (bytes : Bytes) : Confines mapping (Cursor.write bytes) := by
  intro state kept
  exact (Cursor.faithful_sink mapping bytes state kept).mono fun _ _ _ done => ⟨done.kept, done.allowed⟩

theorem confines_moveTo (mapping : Mapping) (place : Nat) : Confines mapping
    (Act.modify fun (state : Cursor × Machine) => (state.1.moveTo place, state.2)) :=
  .of_still fun _ kept => ⟨rfl, kept⟩

/-- An action on the cursor in a slot leaves its mapping in it. -/
theorem traces_onCursor (distinct : session.Distinct) (slot : String) {act : Act (Cursor × Machine) Value}
    (confined : ∀ mapping, Confines mapping act) : (onCursor slot act).Traces session (Retains session) := by
  apply traces_withObject (.nothing distinct _)
  intro bookmark found
  apply Traces.beside_bind
  · exact (confined bookmark.cursor.mapping).attempt (bookmark.cursor, session.machine) rfl
  · rintro calls ended last ⟨kept, none⟩
    have silent : calls = [] := List.eq_nil_iff_forall_not_mem.mpr none
    subst silent
    have moved : Distinct { session with machine := last.2 } := distinct.withMachine last.2
    cases ended with
    | error reason =>
      apply Traces.fault
      exact .inr ⟨moved, .all rfl⟩
    | ok result =>
      apply Traces.of_still rfl
      refine .inr ⟨{ moved with cursors := Slots.nodup_names_put distinct.cursors slot _ }, ?_⟩
      have same : mapped { session with cursors := session.cursors.put slot { bookmark with cursor := last.1 } } =
          session.mapped := by
        rw [mapped_eraseCursor distinct slot, found, Option.elim_some, ← kept, mapped_putCursor]
      change Mapping.Leaves _ _
        (mapped { session with cursors := session.cursors.put slot { bookmark with cursor := last.1 } })
      rw [same]
      exact .all rfl
  · intro own middle
    rfl

/-- A step on cursors retains all mappings. -/
theorem traces_run (step : CursorStep) (distinct : session.Distinct) : step.run.Traces session (Retains session) := by
  cases step with
  | start mapping slot =>
    apply traces_withObject (.nothing distinct _)
    intro object found
    have rest : Distinct { session with mappings := session.mappings.erase mapping } :=
      { distinct with mappings := Slots.nodup_names_erase distinct.mappings mapping }
    have taken := mapped_eraseMapping distinct mapping
    rw [found, Option.elim_some] at taken
    apply Traces.modify_bind rfl
    apply (shelves_storeCursor rest slot ⟨Cursor.start object, mapping⟩).bind_success_pure
    intro calls next shelves
    exact .inr ⟨shelves.distinct, taken ▸ shelves.leaves⟩
  | read cursor size =>
    exact traces_onCursor distinct cursor fun mapping => (confines_read mapping size).bind fun _ => .pure _
  | write cursor bytes =>
    exact traces_onCursor distinct cursor fun mapping => (confines_write mapping bytes).bind fun _ => .pure _
  | moveTo cursor place =>
    exact traces_onCursor distinct cursor fun mapping => (confines_moveTo mapping place).bind fun _ => .pure _
  | position cursor => exact traces_onCursor distinct cursor fun _ => .pure _
  | drop cursor =>
    apply traces_withObject (.nothing distinct _)
    intro bookmark found
    apply (shelves_dropCursor distinct cursor).bind_success_pure
    rintro calls next ⟨shelves, -⟩
    exact shelves.retains _

end CursorStep

end LinuxCalls
