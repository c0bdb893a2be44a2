/-
This file keeps the accounts of the steps on guards and on streams over guards. What a step acquires and
gives up is in its report, and the rest of its calls leaves every guard where it is or closes it.
-/

import LinuxCalls.Session.Run
import LinuxCalls.Proofs.Ownership.Acquiring
import LinuxCalls.Proofs.Ownership.Settling

namespace LinuxCalls

open Act (Confined Traces)

/-- The descriptors that a report gives. -/
def Report.descriptors (report : Report) : List Descriptor :=
  match report.outcome with
  | .ok (.number number) => [Int32.ofInt number]
  | .ok (.numbers numbers) => numbers.map Int32.ofInt
  | _ => []

namespace Report

/-- A number that is reported is a descriptor. -/
@[simp] theorem descriptors_ofInt32 (descriptor : Descriptor) :
    (ofValue (.ofInt32 descriptor)).descriptors = [descriptor] := by
  simp [descriptors, ofValue, Value.ofInt32]

/-- Two numbers that are reported are descriptors. -/
@[simp] theorem descriptors_numbers (first second : Descriptor) :
    (ofValue (.numbers [first.toInt, second.toInt])).descriptors = [first, second] := by
  simp [descriptors, ofValue]

/-- A failure gives no descriptor. -/
@[simp] theorem descriptors_ofFailure (failure : Failure) : (ofFailure failure).descriptors = [] := rfl

end Report

namespace GuardStep

/-- The number of descriptors that a step acquires if it succeeds. -/
def count : GuardStep → Nat
  | .openFile .. | .openAt .. | .memoryFile .. | .secretMemoryFile .. | .ofProcess .. | .ofDescriptor ..
  | .duplicate .. | .handOver .. => 1
  | .pipe .. => 2
  | _ => 0

/-- These steps make guards or take a descriptor over. -/
def acquires (step : GuardStep) : Bool := step.count != 0

/-- These steps give a descriptor away. -/
def givesUp : GuardStep → Bool
  | .giveUp .. | .handOver .. => true
  | _ => false

/-- These steps use a guard up. -/
def consumes : GuardStep → Bool
  | .giveUp .. | .handOver .. | .close .. | .drop .. => true
  | _ => false

end GuardStep

namespace Step

/-- A step is on guards, or on a stream that holds a guard. -/
def IsOwning : Step → Prop
  | .guard _ => True
  | .reader _ (.start choice _) | .writer _ (.start choice _) => ∃ slot lent, choice = .guard slot lent
  | .reader _ _ | .writer _ _ => True
  | _ => False

/-- The descriptors that a step has acquired for guards. -/
def acquired (step : Step) (report : Report) : List Descriptor :=
  match step with
  | .guard step => if step.acquires then report.descriptors else []
  | _ => []

/-- The descriptors that a step has given up without closing them. -/
def givenUp (step : Step) (report : Report) : List Descriptor :=
  match step with
  | .guard step => if step.givesUp then report.descriptors else []
  | _ => []

/-- The number of descriptors that a step acquires if it succeeds. -/
def count : Step → Nat
  | .guard step => step.count
  | _ => 0

/-- A step spares all guards if it only borrows them, or if it fails to make one. -/
def Spares (step : Step) (report : Report) : Prop :=
  match step with
  | .guard step =>
    step.acquires = false ∧ step.consumes = false ∨ step.acquires = true ∧ ∃ failure, report.outcome = .error failure
  | _ => False

/-- What a step is to acquire. Only steps on guards acquire descriptors. -/
def acquisition? (step : Step) (session : Session) : Option Acquisition :=
  match step with
  | .guard step => step.acquisition? session
  | _ => none

/-- What a step gains for guards, where the kernel answers as it does in the session. -/
def gained (step : Step) (session : Session) : List Gain :=
  (step.acquisition? session).elim [] (Acquisition.gains session.machine)

/--
The accounts of a step with a report, from the session before its calls to the one after them. What it has
acquired is what it has gained, and it reports the error where there is nothing to acquire.
-/
structure Accounted (step : Step) (report : Report) (before : Session) (calls : List Event) (next : Session) :
    Prop where
  sound : next.Sound
  balance : Balance before.live calls (step.gained before) (step.givenUp report) next.live
  acquired : step.acquired report = (step.gained before).flatMap Gain.descriptors
  refused : ∀ acquisition error, step.acquisition? before = some acquisition →
    acquisition.result before.machine = .error error → report = .ofFailure (.errno error)
  spared : step.Spares report → Event.closes calls = []
  counted : ∀ value, report.outcome = .ok value → (step.acquired report).length = step.count

/-- A step keeps accounts if every report of it is accounted for. -/
def Accounts (step : Step) (before : Session) (calls : List Event) (outcome : Except Fault Report)
    (next : Session) : Prop :=
  ∀ report, Session.endingOf outcome = .report report → step.Accounted report before calls next

end Step

namespace Session

variable {session : Session}

/-- Only the machine has moved, and all calls are harmless. -/
def OnlyUses (before : Session) (calls : List Event) (next : Session) : Prop :=
  (∃ machine, next = { before with machine := machine }) ∧ ∀ call ∈ calls, call.Harmless before.live

/-- Nothing is moved without a call. -/
theorem OnlyUses.nothing (session : Session) : session.OnlyUses [] session := ⟨⟨session.machine, rfl⟩, nofun⟩

/-- Calls that only use guards are accounted for where nothing is acquired and nothing is given up. -/
theorem OnlyUses.accounted {step : Step} {report : Report} {before next : Session} {calls : List Event}
    (uses : before.OnlyUses calls next) (sound : before.Sound) (idle : step.acquisition? before = none)
    (none : step.acquired report = []) (none' : step.givenUp report = [])
    (counted : ∀ value, report.outcome = .ok value → step.count = 0) :
    step.Accounted report before calls next := by
  obtain ⟨⟨machine, rfl⟩, harmless⟩ := uses
  have plain : step.gained before = [] := by rw [Step.gained, idle, Option.elim_none]
  refine ⟨sound.withMachine machine, ?_, ?_, ?_, fun _ => ?_, fun value fine => ?_⟩
  · rw [plain, none']
    exact .of_harmless harmless
  · rw [plain, none]
    rfl
  · rw [idle]
    nofun
  · exact Event.closes_eq_nil fun call member => (harmless call member).closed?
  · rw [none, counted value fine]
    rfl

/-- An action on the machine whose calls are harmless only uses guards. -/
theorem traces_onMachine_confined {α : Type} {act : Sys α} {allowed : Event → Prop}
    (confined : Confined (fun _ => True) allowed act) (harmless : ∀ call, allowed call → call.Harmless session.live) :
    (onMachine act).Traces session fun calls _ next => session.OnlyUses calls next := by
  apply traces_onMachine
  refine (confined session.machine trivial).mono ?_
  rintro calls outcome next ⟨_, inside⟩
  exact ⟨⟨next, rfl⟩, fun call member => harmless call (inside call member)⟩

/-- A step on an object finds it in its slot, or it reports that the slot is empty. -/
theorem traces_withObject {α : Type} {slots : Session → Slots α} {slot : String} {use : α → Act Session Report}
    {spec : List Event → Except Fault Report → Session → Prop}
    (missing : spec [] (.ok (.ofFailure (.emptySlot slot))) session)
    (found : ∀ object, (slots session).get? slot = some object → (use object).Traces session spec) :
    (withObject slots slot use).Traces session spec := by
  apply Traces.get_bind
  cases there : (slots session).get? slot with
  | none => exact .pure missing
  | some object => exact found object there

/-- A step on an object that is in its slot uses that object. -/
theorem withObject_of_some {α : Type} {slots : Session → Slots α} {slot : String} {object : α}
    (found : (slots session).get? slot = some object) (use : α → Act Session Report) :
    withObject slots slot use session = use object session := by
  simp only [withObject, Act.bind_apply, Act.get_apply, found]

/-- A step on an object that is not there reports that its slot is empty. -/
theorem withObject_of_none {α : Type} {slots : Session → Slots α} {slot : String}
    (missing : (slots session).get? slot = none) (use : α → Act Session Report) :
    withObject slots slot use session =
      (pure (.ofFailure (.emptySlot slot)) : Act Session Report) session := by
  simp only [withObject, Act.bind_apply, Act.get_apply, missing]

end Session

namespace GuardStep

open Session

variable {session : Session}

/-- A step that makes guards makes placed calls. -/
theorem isPlaced_calls {step : GuardStep} {acquisition : Acquisition} (sound : session.Sound)
    (planned : step.acquisition? session = some acquisition) :
    ∀ call ∈ acquisition.calls session.machine, call.IsPlaced session.live := by
  intro call member
  cases step with
  | openFile path flags mode slot =>
    cases planned
    exact .inl (Acquisition.opens_openAt call member)
  | openAt guard path flags mode slot =>
    obtain ⟨held, found, rfl⟩ := Option.map_eq_some_iff.mp planned
    exact .inr ⟨held.descriptor, mem_live_of_guard sound found, Acquisition.uses_openAt call member⟩
  | memoryFile name flags slot =>
    cases planned
    exact .inl (Acquisition.opens_memoryFile call member)
  | secretMemoryFile closeOnExec slot | ofProcess process flags slot | pipe flags input output =>
    cases planned
    exact .inl (Acquisition.opens_of_alone (by decide) call member)
  | duplicate guard slot =>
    obtain ⟨held, found, rfl⟩ := Option.map_eq_some_iff.mp planned
    exact .inr ⟨held.descriptor, mem_live_of_guard sound found, Acquisition.uses_duplicate call member⟩
  | ofDescriptor number slot =>
    cases planned
    contradiction
  | handOver guard =>
    obtain ⟨held, found, rfl⟩ := Option.map_eq_some_iff.mp planned
    contradiction
  | _ => contradiction

/-- What a step that makes guards gains comes to live. -/
theorem balance_calls {step : GuardStep} {acquisition : Acquisition} (sound : session.Sound)
    (planned : step.acquisition? session = some acquisition) :
    Balance session.live (acquisition.calls session.machine) ((Step.guard step).gained session) []
      (session.live + acquisition.descriptors session.machine) := by
  have same : (Step.guard step).gained session = acquisition.gains session.machine := by
    change (step.acquisition? session).elim [] _ = _
    rw [planned, Option.elim_some]
  rw [same]
  exact Acquisition.balance (isPlaced_calls sound planned)

/-- The gains of a step that makes guards are the descriptors that it is to acquire. -/
theorem flatMap_gained {step : GuardStep} {acquisition : Acquisition}
    (planned : step.acquisition? session = some acquisition) :
    ((Step.guard step).gained session).flatMap Gain.descriptors = acquisition.descriptors session.machine := by
  change ((step.acquisition? session).elim [] (Acquisition.gains session.machine)).flatMap _ = _
  rw [planned, Option.elim_some, Acquisition.flatMap_gains]

/-- A step that succeeds in acquiring descriptors spares nothing. -/
theorem accounted_of_acquires {step : GuardStep} {acquisition : Acquisition} {descriptors : List Descriptor}
    {value : Value} {next : Session} {calls : List Event} (acquires : step.acquires = true)
    (planned : step.acquisition? session = some acquisition)
    (result : acquisition.result session.machine = .ok descriptors)
    (reports : (Report.ofValue value).descriptors = descriptors) (size : descriptors.length = step.count)
    (sound : next.Sound) (balance : Balance session.live calls ((Step.guard step).gained session)
      ((Step.guard step).givenUp (.ofValue value)) next.live) :
    (Step.guard step).Accounted (.ofValue value) session calls next := by
  have acquired : (Step.guard step).acquired (.ofValue value) = descriptors := by
    simp [Step.acquired, acquires, reports]
  refine ⟨sound, balance, ?_, ?_, ?_, fun _ _ => by rw [acquired, size]; rfl⟩
  · rw [acquired, flatMap_gained planned, Acquisition.descriptors, result]
    rfl
  · intro other error same failed
    rw [show (Step.guard step).acquisition? session = some acquisition from planned] at same
    cases same
    rw [result] at failed
    contradiction
  · rintro (⟨other, -⟩ | ⟨-, failure, failed⟩)
    · rw [acquires] at other
      contradiction
    · contradiction

/-- A step that fails to acquire descriptors is accounted for by its one call at most. -/
theorem accounted_of_refused {step : GuardStep} {acquisition : Acquisition} {error : Errno} (sound : session.Sound)
    (planned : step.acquisition? session = some acquisition)
    (result : acquisition.result session.machine = .error error) (machine : Machine) :
    (Step.guard step).Accounted (.ofFailure (.errno error)) session (acquisition.calls session.machine)
      { session with machine := machine } := by
  have none : acquisition.descriptors session.machine = [] := by rw [Acquisition.descriptors, result]; rfl
  have balance := balance_calls sound planned
  rw [none, Multiset.coe_nil, add_zero] at balance
  refine ⟨sound.withMachine machine, ?_, ?_, ?_, fun _ => ?_, nofun⟩
  · have nothing : (Step.guard step).givenUp (.ofFailure (.errno error)) = [] := by simp [Step.givenUp]
    rw [nothing]
    exact balance
  · rw [flatMap_gained planned, none]
    simp [Step.acquired]
  · intro other error' same failed
    rw [show (Step.guard step).acquisition? session = some acquisition from planned] at same
    cases same
    rw [result] at failed
    cases failed
    rfl
  · exact Event.closes_eq_nil fun call member => (isPlaced_calls sound planned call member).closed?

/-- An acquisition is carried out in a session. -/
theorem traces_onMachine_carried {α : Type} {acquisition : Acquisition} {act : Sys α} {owned : α → List Descriptor}
    (carries : acquisition.IsCarriedOut act owned) :
    (onMachine act).Traces session fun calls outcome next => ∃ result : Except Errno α,
      outcome = result.mapError .errno ∧ calls = acquisition.calls session.machine ∧
        result.map owned = acquisition.result session.machine ∧
        ∃ machine, next = { session with machine := machine } := by
  apply traces_onMachine
  refine (carries session.machine).mono ?_
  rintro calls outcome next ⟨result, ended, made, gives⟩
  exact ⟨result, ended, made, gives, next, rfl⟩

/-- A guard that is made lives in its slot, and one that is not made closes nothing. -/
theorem traces_make {step : GuardStep} {acquisition : Acquisition} {act : Sys Guard} (sound : session.Sound)
    (planned : step.acquisition? session = some acquisition) (one : step.count = 1) (keeps : step.givesUp = false)
    (carries : acquisition.IsCarriedOut act Guard.owned) (slot : String) :
    (make act slot).Traces session ((Step.guard step).Accounts session) := by
  apply (traces_onMachine_carried carries).bind_result
  · rintro _ guard _ ⟨rfl, gives, machine, rfl⟩
    have acquired : acquisition.descriptors session.machine = [guard.descriptor] := by
      rw [Acquisition.descriptors, ← gives]
      rfl
    have balance := balance_calls sound planned
    rw [acquired, Multiset.coe_singleton] at balance
    apply (traces_storeGuard (sound.withMachine machine) slot guard).bind_success_pure
    intro more next settles report reported
    cases reported
    have stored := balance.trans settles.balance
    rw [List.append_nil] at stored
    refine accounted_of_acquires (by simp [acquires, one]) planned gives.symm (Report.descriptors_ofInt32 _) one.symm
      settles.sound ?_
    simpa [Step.givenUp, keeps] using stored
  · rintro _ error _ ⟨rfl, gives, machine, rfl⟩ report reported
    cases reported
    exact accounted_of_refused sound planned gives.symm machine

/-- A step that only borrows guards is accounted for by its harmless calls. -/
theorem accounts_of_uses {step : GuardStep} {before next : Session} {calls : List Event}
    {outcome : Except Fault Report} (uses : before.OnlyUses calls next) (sound : before.Sound)
    (idle : step.acquisition? before = none) (none : step.count = 0) (keeps : step.givesUp = false) :
    (Step.guard step).Accounts before calls outcome next :=
  fun report _ => uses.accounted sound idle (by simp [Step.acquired, acquires, none]) (by simp [Step.givenUp, keeps])
    fun _ _ => none

/-- A step that finds its slot empty is accounted for. -/
theorem accounts_of_missing {step : GuardStep} (idle : step.acquisition? session = none) (sound : session.Sound)
    (slot : String) :
    (Step.guard step).Accounts session [] (.ok (.ofFailure (.emptySlot slot))) session := by
  intro report reported
  cases reported
  exact (OnlyUses.nothing session).accounted sound idle (by simp [Step.acquired]) (by simp [Step.givenUp]) nofun

/-- Calls on a guard in a slot are harmless. -/
theorem harmless_of_borrows (sound : session.Sound) {slot : String} {guard : Guard}
    (found : session.guards.get? slot = some guard) :
    ∀ call, Event.Borrows guard.descriptor call → call.Harmless session.live :=
  fun _ borrows => ⟨guard.descriptor, mem_live_of_guard sound found, borrows⟩

theorem confines_reading (guard : Guard) (size : Nat) : guard.Confines (reading size guard) :=
  (guard.confines_read size).bind fun _ => .ofExcept _

/-- A step is accounted for that only uses guards and then reports. -/
theorem traces_using {α : Type} {step : GuardStep} (idle : step.acquisition? session = none)
    (none : step.count = 0) (keeps : step.givesUp = false) (sound : session.Sound)
    {act : Sys α} {allowed : Event → Prop} (confined : Confined (fun _ => True) allowed act)
    (harmless : ∀ call, allowed call → call.Harmless session.live) (report : α → Report) :
    (onMachine act >>= fun value => pure (report value)).Traces session ((Step.guard step).Accounts session) := by
  apply (traces_onMachine_confined confined harmless).bind
  · intro calls value middle uses
    apply Traces.pure
    rw [List.append_nil]
    exact accounts_of_uses uses sound idle none keeps
  · intro calls reason next uses
    exact accounts_of_uses uses sound idle none keeps

/-- A step that borrows a guard is accounted for. -/
theorem traces_borrowing {step : GuardStep} (idle : step.acquisition? session = none) (none : step.count = 0)
    (keeps : step.givesUp = false) (sound : session.Sound) (slot : String) {use : Guard → Sys Value}
    (confined : ∀ guard : Guard, guard.Confines (use guard)) :
    (borrowing slot use).Traces session ((Step.guard step).Accounts session) := by
  apply traces_withObject (accounts_of_missing idle sound slot)
  intro guard found
  exact traces_using idle none keeps sound (confined guard) (harmless_of_borrows sound found) .ofValue

/-- A step that borrows a guard for the standard streams is accounted for. -/
theorem traces_borrowingStandard {step : GuardStep} (idle : step.acquisition? session = none) (none : step.count = 0)
    (keeps : step.givesUp = false) (sound : session.Sound) (slot : String) {use : Guard → Sys Value}
    (confined : ∀ guard : Guard, guard.Confines (use guard)) :
    (borrowingStandard slot use).Traces session ((Step.guard step).Accounts session) := by
  apply traces_withObject (accounts_of_missing idle sound slot)
  intro guard found
  exact traces_using idle none keeps sound (confined guard).attempt (harmless_of_borrows sound found) _

/-- A guard is gone from its slot when a step has closed it, and the close is the only call. -/
theorem traces_consumed {slot : String} {guard : Guard} (found : session.guards.get? slot = some guard)
    {use : Guard → Sys Value} (closes : (use guard).Traces session.machine fun calls _ _ =>
      ∃ word, calls = [(Descriptor.closing guard.descriptor).answered word]) :
    (consuming slot use).Traces session fun calls _ next => ∃ word machine,
      calls = [(Descriptor.closing guard.descriptor).answered word] ∧
        next = { session with guards := session.guards.erase slot, machine := machine } := by
  apply Traces.congr (withObject_of_some found _)
  apply Traces.modify_bind rfl
  have closed : (onMachine (use guard)).Traces { session with guards := session.guards.erase slot }
      fun calls _ next => ∃ word machine, calls = [(Descriptor.closing guard.descriptor).answered word] ∧
        next = { session with guards := session.guards.erase slot, machine := machine } := by
    apply traces_onMachine
    exact closes.mono fun _ _ next ⟨word, made⟩ => ⟨word, next, made, rfl⟩
  apply closed.bind
  · rintro _ value _ ⟨word, machine, rfl, rfl⟩
    exact .pure ⟨word, machine, rfl, rfl⟩
  · rintro _ reason _ ended
    exact ended

/-- A step that closes the guard that it takes is accounted for, whatever the close answers. -/
theorem traces_consuming {step : GuardStep} (idle : step.acquisition? session = none) (none : step.count = 0)
    (keeps : step.givesUp = false)
    (consumes : step.consumes = true) (sound : session.Sound) (slot : String) {use : Guard → Sys Value}
    (closes : ∀ guard : Guard, (use guard).Traces session.machine fun calls _ _ =>
      ∃ word, calls = [(Descriptor.closing guard.descriptor).answered word]) :
    (consuming slot use).Traces session ((Step.guard step).Accounts session) := by
  cases found : session.guards.get? slot with
  | none =>
    apply traces_withObject (accounts_of_missing idle sound slot)
    intro guard there
    rw [found] at there
    contradiction
  | some guard =>
    refine (traces_consumed found (closes guard)).mono ?_
    rintro _ outcome _ ⟨word, machine, rfl, rfl⟩ report _
    have plain : (Step.guard step).gained session = [] := by
      change (step.acquisition? session).elim [] _ = _
      rw [idle, Option.elim_none]
    refine ⟨(sound.eraseGuard slot).withMachine machine, ?_, ?_, ?_, ?_, ?_⟩
    · simp only [plain, Step.givenUp, keeps]
      exact (balance_taken sound found).closed word
    · simp [plain, Step.acquired, acquires, none]
    · intro acquisition error planned
      rw [show (Step.guard step).acquisition? session = Option.none from idle] at planned
      contradiction
    · simp [Step.Spares, acquires, none, consumes]
    · simp [Step.acquired, acquires, none, Step.count]

/-- What a step that closes a guard asks of it is one close, whatever the answer. -/
theorem traces_close (guard : Guard) {machine : Machine} :
    (guard.close >>= fun _ => pure Value.nothing).Traces machine fun calls _ _ =>
      ∃ word, calls = [(Descriptor.closing guard.descriptor).answered word] := by
  apply (Descriptor.traces_close guard.descriptor).bind_result
  · rintro _ _ middle ⟨word, rfl⟩
    exact .pure ⟨word, rfl⟩
  · rintro _ _ _ ⟨word, rfl⟩
    exact ⟨word, rfl⟩

/-- What a step that drops a guard asks of it is one close, whatever the answer. -/
theorem traces_drop (guard : Guard) {machine : Machine} :
    (guard.drop >>= fun _ => pure Value.nothing).Traces machine fun calls _ _ =>
      ∃ word, calls = [(Descriptor.closing guard.descriptor).answered word] := by
  apply guard.traces_drop.bind
  · rintro _ _ middle ⟨word, rfl, -⟩
    exact .pure ⟨word, rfl⟩
  · rintro _ _ _ ⟨word, rfl, -⟩
    exact ⟨word, rfl⟩

/-- A step that gives a guard up is accounted for, and it makes no call. -/
theorem traces_giveUp (sound : session.Sound) (slot : String) :
    (run (.giveUp slot)).Traces session ((Step.guard (.giveUp slot)).Accounts session) := by
  apply traces_withObject (accounts_of_missing rfl sound slot)
  intro guard found
  apply Traces.modify_bind rfl
  apply Traces.of_still rfl
  intro report reported
  cases reported
  change Step.Accounted _ _ session [] { session with guards := session.guards.erase slot }
  have given : (Step.guard (.giveUp slot)).givenUp (.ofValue (.ofInt32 guard.descriptor)) = [guard.descriptor] :=
    Report.descriptors_ofInt32 _
  refine ⟨sound.eraseGuard slot, ?_, rfl, nofun, fun _ => rfl, fun _ _ => rfl⟩
  rw [given]
  exact (balance_taken sound found).gaveUp

/-- A step that hands a guard over and takes it back is accounted for on both sides. -/
theorem traces_handOver (sound : session.Sound) (slot : String) :
    (run (.handOver slot)).Traces session ((Step.guard (.handOver slot)).Accounts session) := by
  cases found : session.guards.get? slot with
  | none =>
    have idle : acquisition? session (.handOver slot) = none := Option.map_eq_none_iff.mpr found
    apply Traces.congr (withObject_of_none found _)
    exact .pure (accounts_of_missing idle sound slot)
  | some guard =>
    have planned : acquisition? session (.handOver slot) = some (.taken guard.descriptor) :=
      Option.map_eq_some_iff.mpr ⟨guard, found, rfl⟩
    apply Traces.congr (withObject_of_some found _)
    apply Traces.modify_bind rfl
    by_cases missing : guard.descriptor = -1
    · have panics : guard.handOver = Act.panic := if_pos missing
      rw [panics]
      exact .of_still rfl fun report reported => nomatch reported
    · have hands : guard.handOver = pure guard.descriptor := if_neg missing
      rw [hands]
      apply Traces.congr (Act.bind_of_ok _ rfl)
      apply (traces_storeGuard (sound.eraseGuard slot) slot guard).bind_success_pure
      intro calls next settles report reported
      cases reported
      have moved : Balance session.live [] [.taken guard.descriptor] [guard.descriptor]
          (live { session with guards := session.guards.erase slot } + {guard.descriptor}) := by
        rw [add_comm, Multiset.singleton_add]
        exact (balance_taken sound found).gaveUp.acquired guard.descriptor
      have same : (Step.guard (.handOver slot)).gained session = [.taken guard.descriptor] := by
        change (acquisition? session (.handOver slot)).elim [] _ = _
        rw [planned]
        rfl
      refine accounted_of_acquires rfl planned rfl (Report.descriptors_ofInt32 _) rfl settles.sound ?_
      rw [same]
      simpa [Step.givenUp, givesUp] using moved.trans settles.balance

/-- A step that makes a pipe acquires both ends, or nothing has happened. -/
theorem traces_pipe (sound : session.Sound) (flags : OpenFlags) (input output : String) :
    (run (.pipe flags input output)).Traces session ((Step.guard (.pipe flags input output)).Accounts session) := by
  have planned : acquisition? session (.pipe flags input output) = some (.pipe flags) := rfl
  apply (traces_onMachine_carried (Guard.isCarriedOut_pipe flags)).bind_result
  · rintro _ ⟨first, second⟩ _ ⟨rfl, gives, machine, rfl⟩
    have acquired : (Acquisition.pipe flags).descriptors session.machine = [first.descriptor, second.descriptor] := by
      rw [Acquisition.descriptors, ← gives]
      rfl
    -- Both ends are in the hand before the first of them is stored.
    have made := balance_calls sound planned
    have both : (([first.descriptor, second.descriptor] : List Descriptor) : Multiset Descriptor) =
        {first.descriptor} + {second.descriptor} := rfl
    rw [acquired, both, ← add_assoc] at made
    apply (traces_storeGuard (sound.withMachine machine) input first).bind_success
    intro early middle earlier
    apply (traces_storeGuard earlier.sound output second).bind_success_pure
    intro late next later report reported
    cases reported
    have stored := made.trans ((earlier.balance.frame_right {second.descriptor}).trans later.balance)
    rw [List.append_nil] at stored
    exact accounted_of_acquires rfl planned gives.symm (Report.descriptors_numbers _ _) rfl later.sound stored
  · rintro _ error _ ⟨rfl, gives, machine, rfl⟩ report reported
    cases reported
    exact accounted_of_refused sound planned gives.symm machine

variable {slot : String}

/-- A step on guards is accounted for. -/
theorem traces_run (step : GuardStep) (sound : session.Sound) :
    step.run.Traces session ((Step.guard step).Accounts session) := by
  cases step with
  | openFile path flags mode slot =>
    exact traces_make sound rfl rfl rfl (Guard.isCarriedOut_openFile path flags mode) slot
  | openAt guard path flags mode slot =>
    cases found : session.guards.get? guard with
    | none =>
      have idle : acquisition? session (.openAt guard path flags mode slot) = none :=
        Option.map_eq_none_iff.mpr found
      apply Traces.congr (withObject_of_none found _)
      exact .pure (accounts_of_missing idle sound guard)
    | some held =>
      have planned : acquisition? session (.openAt guard path flags mode slot) =
          some (.openAt (.opened held.descriptor) path flags mode) := Option.map_eq_some_iff.mpr ⟨held, found, rfl⟩
      apply Traces.congr (withObject_of_some found _)
      exact traces_make sound planned rfl rfl (held.isCarriedOut_openAt path flags mode) slot
  | memoryFile name flags slot => exact traces_make sound rfl rfl rfl (Guard.isCarriedOut_memoryFile name flags) slot
  | secretMemoryFile closeOnExec slot =>
    exact traces_make sound rfl rfl rfl (Guard.isCarriedOut_secretMemoryFile closeOnExec) slot
  | ofProcess process flags slot =>
    exact traces_make sound rfl rfl rfl (Guard.isCarriedOut_ofProcess process flags) slot
  | ofDescriptor descriptor slot => exact traces_make sound rfl rfl rfl (Guard.isCarriedOut_pure descriptor) slot
  | duplicate guard slot =>
    cases found : session.guards.get? guard with
    | none =>
      have idle : acquisition? session (.duplicate guard slot) = none := Option.map_eq_none_iff.mpr found
      apply Traces.congr (withObject_of_none found _)
      exact .pure (accounts_of_missing idle sound guard)
    | some held =>
      have planned : acquisition? session (.duplicate guard slot) = some (.duplicate held.descriptor) :=
        Option.map_eq_some_iff.mpr ⟨held, found, rfl⟩
      apply Traces.congr (withObject_of_some found _)
      exact traces_make sound planned rfl rfl held.isCarriedOut_duplicate slot
  | pipe flags input output => exact traces_pipe sound flags input output
  | duplicateOnto guard target =>
    apply traces_withObject (accounts_of_missing rfl sound target)
    intro target _
    exact traces_borrowing rfl rfl rfl sound guard fun guard =>
      (guard.confines_duplicateOnto target).bind fun _ => .pure _
  | descriptor guard =>
    apply traces_withObject (accounts_of_missing rfl sound guard)
    intro guard found
    have hands : guard.Confines guard.handOver := by
      unfold Guard.handOver
      split
      · exact .fault _
      · exact .pure _
    exact traces_using rfl rfl rfl sound hands (harmless_of_borrows sound found) _
  | giveUp guard => exact traces_giveUp sound guard
  | close guard => exact traces_consuming rfl rfl rfl rfl sound guard fun guard => traces_close guard
  | drop guard => exact traces_consuming rfl rfl rfl rfl sound guard fun guard => traces_drop guard
  | handOver guard => exact traces_handOver sound guard
  | read guard size => exact traces_borrowing rfl rfl rfl sound guard fun guard => confines_reading guard size
  | write guard bytes =>
    exact traces_borrowing rfl rfl rfl sound guard fun guard => (guard.confines_write bytes).bind fun _ => .pure _
  | writeAll guard bytes =>
    exact traces_borrowing rfl rfl rfl sound guard fun guard => (guard.confines_writeAll bytes).bind fun _ => .pure _
  | readAt guard size offset =>
    exact traces_borrowing rfl rfl rfl sound guard fun guard =>
      (guard.confines_readAt size offset).bind fun _ => .ofExcept _
  | writeAt guard bytes offset =>
    exact traces_borrowing rfl rfl rfl sound guard fun guard =>
      (guard.confines_writeAt bytes offset).bind fun _ => .pure _
  | seek guard offset origin =>
    exact traces_borrowing rfl rfl rfl sound guard fun guard => (guard.confines_seek offset origin).map _
  | setLength guard length =>
    exact traces_borrowing rfl rfl rfl sound guard fun guard => (guard.confines_setLength length).bind fun _ => .pure _
  | status guard => exact traces_borrowing rfl rfl rfl sound guard fun guard => guard.confines_status.map _
  | standardRead guard size =>
    exact traces_borrowingStandard rfl rfl rfl sound guard fun guard => confines_reading guard size
  | standardWrite guard bytes =>
    exact traces_borrowingStandard rfl rfl rfl sound guard fun guard =>
      (guard.confines_write bytes).bind fun _ => .pure _
  | standardFlush guard => exact traces_borrowingStandard rfl rfl rfl sound guard fun _ => .pure _
  | standardSeek guard position =>
    exact traces_borrowingStandard rfl rfl rfl sound guard fun guard => (guard.confines_seekStandard position).map _

end GuardStep

end LinuxCalls
