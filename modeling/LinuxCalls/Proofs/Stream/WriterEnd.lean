/-
This file follows a writer to the end of its life. A drop and a finish write what a flush would write
and nothing more, and they differ in what is said about the bytes left and in who has the sink after.
-/

import LinuxCalls.Proofs.Calls.Devices
import LinuxCalls.Proofs.Log.WholeLine
import LinuxCalls.Proofs.Stream.WriterBalance

namespace LinuxCalls.Writer

variable {δ : Type}

/-- The state after the device of a writer is released. -/
def released [Resource δ] (writer : Writer δ) (machine : Machine) : Writer δ × Machine :=
  (writer, (Resource.release writer.device machine).2)

/-- Releasing the device of a writer leaves the writer alone. -/
theorem releaseDevice_apply [Resource δ] (state : Writer δ × Machine) :
    (drop.releaseDevice : Act (Writer δ × Machine) Unit) state =
      ((Resource.release state.1.device state.2).1, released state.1 state.2) := rfl

variable [Sink δ]

/-- A flush of an empty buffer does nothing. -/
theorem flush_of_empty {state : Writer δ × Machine} (empty : state.1.buffer = []) :
    (flush : Act (Writer δ × Machine) Unit) state = (.ok (), state) := by
  obtain ⟨⟨device, buffer, capacity⟩, machine⟩ := state
  have none : buffer = [] := empty
  subst none
  have drained : (drainFrom [] 0 : Act (δ × Machine) _) (device, machine) = (.ok (0, .ok ()), (device, machine)) := by
    unfold drainFrom
    rfl
  rw [flush_apply, drained]
  rfl

/-- The last flush does what a flush does, and it reports the bytes that are left after a failure. -/
theorem flushAtEnd_apply (state : Writer δ × Machine) :
    (flushAtEnd : Act (Writer δ × Machine) Unit) state = (flush.attempt >>= fun result =>
      match result with
      | .ok _ => pure ()
      | .error error => self >>= fun writer =>
        liftM (Log.tell .warn (lostOnDropText writer.buffer.length error))) state := by
  by_cases empty : state.1.buffer = []
  · have flushed : flush.attempt state = (.ok (.ok ()), state) :=
      (Act.attempt_eq_ok _ _ _ _).mpr (flush_of_empty empty)
    rw [Act.bind_of_ok _ flushed]
    show (if state.1.buffer = [] then pure () else _ : Act (Writer δ × Machine) Unit) state = _
    exact congrFun (if_pos empty) state
  · show (if state.1.buffer = [] then pure () else _ : Act (Writer δ × Machine) Unit) state = _
    exact (congrFun (if_neg empty) state).trans rfl

/--
One warning tells how many bytes are lost. Its text shows the number, its line reads back as this record, and a log
that takes the record writes that line and nothing else.
-/
structure Warned (message : String) (lost : Nat) (machine told : Machine) : Prop where
  logged : Log.tell .warn message machine = (.ok (), told)
  shows : Text.numberIn message = some lost
  line : Log.recordOf (Log.lineBytes .warn message) = some (.warn, message)
  written : machine.threshold.admits .warn = true → machine.recording = false →
    ∃ writes, told.events = machine.events ++ writes.map Log.Written.event ∧
      Log.BringsOut (Log.lineBytes .warn message) writes

/-- A complaint about lost bytes shows how many they are. -/
def Counts (text : Nat → Errno → String) : Prop := ∀ lost error, Text.numberIn (text lost error) = some lost

/-- Both complaints about lost bytes show how many they are. -/
theorem counts_lostText : Counts lostText ∧ Counts lostOnDropText := by
  have plain : ("BufWriter: ".toList.all fun character => !character.isDigit) = true := rfl
  have ends {rest : String} : Text.EndsNumber (" buffered bytes lost" ++ rest).toList := by
    rw [String.toList_append]
    rintro next ⟨⟩
    rfl
  constructor <;> intro lost error
  · have text : lostText lost error = "BufWriter: " ++ lost.repr ++
        (" buffered bytes lost" ++ (": " ++ error.description)) := by
      simp only [lostText, String.append_assoc]
      rfl
    rw [text, Text.numberIn_repr lost (List.all_eq_true.mp plain) ends]
  · have text : lostOnDropText lost error = "BufWriter: " ++ lost.repr ++
        (" buffered bytes lost" ++ (" on drop: " ++ error.description)) := by
      simp only [lostOnDropText, String.append_assoc]
      rfl
    rw [text, Text.numberIn_repr lost (List.all_eq_true.mp plain) ends]

/-- What is said at the end is one warning about the bytes left, unless all were written. -/
def Said (text : Nat → Errno → String) (result : Except Errno Unit) (left : Nat) (machine told : Machine) : Prop :=
  match result with
  | .ok _ => told = machine
  | .error error => Warned (text left error) left machine told

/-- A log that is ready says what there is to say. -/
theorem exists_said {text : Nat → Errno → String} (counts : Counts text) (result : Except Errno Unit) (left : Nat)
    {machine : Machine} (ready : machine.LogReady) :
    ∃ told, Said text result left machine told ∧ machine.Makes [] told := by
  cases result with
  | ok _ => exact ⟨machine, rfl, .nothing machine⟩
  | error error =>
    rcases Log.tell_ends .warn (text left error) machine with ⟨told, said, -⟩ | ⟨-, unready, -⟩
    · refine ⟨told, ⟨said, counts left error, Log.recordOf_lineBytes _ _, fun admitted idle => ?_⟩,
        .told said (.nothing told)⟩
      have brings := Log.tell_bringsOut (text left error) admitted idle
      rw [said] at brings
      exact brings
    · exact absurd ready unready

variable {state flushed : Writer δ × Machine} {result : Except Errno Unit} {told : Machine}

/-- The last flush ends well whatever the result of the flush is. -/
theorem flushAtEnd_of_flushed (ended : flush.attempt state = (.ok result, flushed))
    (said : Said lostOnDropText result flushed.1.buffer.length flushed.2 told) :
    (flushAtEnd : Act (Writer δ × Machine) Unit) state = (.ok (), (flushed.1, told)) := by
  rw [flushAtEnd_apply, Act.bind_of_ok _ ended]
  cases result with
  | ok _ =>
    have same : told = flushed.2 := said
    rw [same]
    rfl
  | error error =>
    exact (Act.lift_apply _ flushed).trans (by rw [said.logged])

variable [Resource δ]

/-- A drop flushes once, says what is lost and releases the device. -/
theorem drop_of_flushed (ended : flush.attempt state = (.ok result, flushed))
    (said : Said lostOnDropText result flushed.1.buffer.length flushed.2 told) :
    (drop : Act (Writer δ × Machine) Unit) state =
      ((Resource.release flushed.1.device told).1, released flushed.1 told) := by
  have flushes := flushAtEnd_of_flushed ended said
  rw [drop, Act.releasing, Act.bind_apply, Act.outcome_apply, flushes]
  change (drop.releaseDevice >>= fun _ => pure ()) (flushed.1, told) = _
  rw [bind_pure_unit]
  rfl

/-- A finish flushes once, and a writer whose flush succeeds is handed over. -/
theorem finish_of_flushed (ended : flush.attempt state = (.ok (.ok ()), flushed)) :
    (finish : Act (Writer δ × Machine) Unit) state = (.ok (), flushed) := by
  have kept : (finish.flushOrLose : Act (Writer δ × Machine) _) state = (.ok (.ok ()), flushed) := by
    rw [finish.flushOrLose, Act.bind_of_ok _ ended]
    rfl
  rw [finish, Act.bind_apply, Act.outcome_apply, kept]
  rfl

/-- A finish whose flush fails says what is lost, forgets it and releases the device. -/
theorem finish_of_lost {error : Errno} (ended : flush.attempt state = (.ok (.error error), flushed))
    (said : Said lostText (.error error) flushed.1.buffer.length flushed.2 told) :
    (finish : Act (Writer δ × Machine) Unit) state =
      ((Resource.release flushed.1.device told).1 >>= fun _ => .error (.errno error),
        released { flushed.1 with buffer := [] } told) := by
  have lost : (finish.flushOrLose : Act (Writer δ × Machine) _) state =
      (.ok (.error error), ({ flushed.1 with buffer := [] }, told)) := by
    rw [finish.flushOrLose, Act.bind_of_ok _ ended]
    have warned : (liftM (Log.tell .warn (lostText flushed.1.buffer.length error)) :
        Act (Writer δ × Machine) Unit) flushed = (.ok (), (flushed.1, told)) :=
      (Act.lift_apply _ flushed).trans (by rw [said.logged])
    exact Act.bind_of_ok _ warned
  rw [finish, Act.bind_apply, Act.outcome_apply, lost]
  change (drop.releaseDevice >>= fun _ => Act.fail error) ({ flushed.1 with buffer := [] }, told) = _
  rw [Act.bind_apply, releaseDevice_apply]
  cases (Resource.release flushed.1.device told).1 <;> rfl

/--
How the life of a writer ends, in the light of what a flush does from its state. The records are the
only difference between a drop and a finish that loses bytes.
-/
structure Ends (start : Writer δ × Machine) (result : Except Errno Unit) (flushed : Writer δ × Machine) :
    Prop where
  ended : flush.attempt start = (.ok result, flushed)
  dropped : ∃ told, Said lostOnDropText result flushed.1.buffer.length flushed.2 told ∧
    drop start = ((Resource.release flushed.1.device told).1, released flushed.1 told)
  handedOver : result = .ok () → finish start = (.ok (), flushed)
  lost : ∀ error, result = .error error →
    ∃ told, Said lostText (.error error) flushed.1.buffer.length flushed.2 told ∧
      finish start = ((Resource.release flushed.1.device told).1 >>= fun _ => .error (.errno error),
        released { flushed.1 with buffer := [] } told)

/-- A writer whose flush ends without a panic ends so, if the log is ready for what is to be said. -/
theorem ends_of_flushed (ended : flush.attempt state = (.ok result, flushed)) (ready : flushed.2.LogReady) :
    Ends state result flushed where
  ended := ended
  dropped := by
    obtain ⟨told, said, -⟩ := exists_said counts_lostText.2 result flushed.1.buffer.length ready
    exact ⟨told, said, drop_of_flushed ended said⟩
  handedOver fine := by
    subst fine
    exact finish_of_flushed ended
  lost error failed := by
    subst failed
    obtain ⟨told, said, -⟩ := exists_said counts_lostText.1 (.error error) flushed.1.buffer.length ready
    exact ⟨told, said, finish_of_lost ended said⟩

/-- How the life of a writer ends that owns a guard: which calls there are besides the log's. -/
structure EndsWithGuard (start : Writer Guard × Machine) (result : Except Errno Unit)
    (flushed : Writer Guard × Machine) (writes : List Event) : Prop where
  made : start.2.Makes writes flushed.2
  puts : ∀ call ∈ writes, CallKind.write.Puts [.ofInt32 start.1.device.descriptor] call
  dropped : ∃ word after, drop start = (.ok (), (flushed.1, after)) ∧
    start.2.Makes (writes ++ [(Descriptor.closing start.1.device.descriptor).answered word]) after
  handedOver : result = .ok () → finish start = (.ok (), flushed)
  lost : ∀ error, result = .error error → ∃ word after,
    finish start = (.error (.errno error), ({ flushed.1 with buffer := [] }, after)) ∧
      start.2.Makes (writes ++ [(Descriptor.closing start.1.device.descriptor).answered word]) after

/-- A guard that is released makes one call, which closes its descriptor. -/
theorem release_guard (guard : Guard) {machine : Machine} (ready : machine.LogReady) :
    ∃ word after, (Resource.release guard : Sys Unit) machine = (.ok (), after) ∧
      machine.Makes [(Descriptor.closing guard.descriptor).answered word] after := by
  obtain ⟨calls, makes, word, rfl, ended⟩ := guard.traces_drop.of_ready ready
  exact ⟨word, _, Prod.ext ended rfl, makes⟩

/-- A writer that owns a guard closes it once after a failed flush and not at all after a finish. -/
theorem endsWithGuard_of_flushed {start flushed : Writer Guard × Machine} {result : Except Errno Unit}
    (ended : flush.attempt start = (.ok result, flushed)) (ready : start.2.LogReady) :
    ∃ writes, EndsWithGuard start result flushed writes := by
  have extending : Extends (CallKind.write.Puts [.ofInt32 start.1.device.descriptor]) RefusedWrite :=
    extends_refusedWrite fun _ writes => .inr writes
  obtain ⟨writes, made, kept, allowed, -⟩ :=
    (faithful_flush (Guard.faithful_sink start.1.device) extending start rfl).of_ready ready
  have last : (flush start).2 = flushed := by rw [← Act.attempt_snd, ended]
  rw [last] at made kept
  have same : flushed.1.device = start.1.device := kept
  have still : flushed.2.LogReady := made.logReady ready
  obtain ⟨-, ⟨told, said, dropped⟩, handedOver, lost⟩ := ends_of_flushed ended still
  -- Whatever is said, the release comes next and closes the descriptor.
  have closes {text : Nat → Errno → String} {told : Machine}
      (said : Said text result flushed.1.buffer.length flushed.2 told) :
      ∃ word after, (Resource.release flushed.1.device : Sys Unit) told = (.ok (), after) ∧
        start.2.Makes (writes ++ [(Descriptor.closing start.1.device.descriptor).answered word]) after := by
    have silent : flushed.2.Makes [] told := by
      cases result with
      | ok _ => exact said ▸ .nothing _
      | error error => exact .told said.logged (.nothing told)
    obtain ⟨word, after, released, closed⟩ := release_guard flushed.1.device (silent.logReady still)
    rw [same] at closed
    exact ⟨word, after, released, made.trans (silent.trans closed)⟩
  refine ⟨writes, made, allowed, ?_, handedOver, fun error failed => ?_⟩
  · obtain ⟨word, after, release, closed⟩ := closes said
    refine ⟨word, after, ?_, closed⟩
    rw [dropped, released, release]
  · obtain ⟨told, said, finished⟩ := lost error failed
    obtain ⟨word, after, release, closed⟩ := closes (failed.symm ▸ said)
    refine ⟨word, after, ?_, closed⟩
    rw [finished, released, release]
    rfl

/--
Every writer over a bounded sink ends with one flush. A drop and a finish make the writes that the
flush makes, which the record shows, and no other ones. Nothing is written from an empty buffer, the
number that the warning shows is that of the bytes which the flush has left, and a finish hands the
sink over exactly after a success. A guard in the writer's hands is closed once after the writes,
unless it is handed over.
-/
theorem ends_with_one_flush {good : δ × Machine → Prop} (bounded : Sink.Bounded δ good)
    (ready : ∀ state, good state → state.2.LogReady) (writer : Writer δ) {machine : Machine}
    (fine : good (writer.device, machine)) :
    let start : Writer (Recorded δ Offer) × Machine := (writer.onto Recorded.start, machine)
    (∃ result flushed, Ends start result flushed ∧
      Ends (writer, machine) result (Prod.map (onto Recorded.device) id flushed) ∧
      flushed.1.device.accepted ++ flushed.1.buffer = writer.buffer ∧
      (result = .ok () ↔ flushed.1.buffer = []) ∧ (writer.buffer = [] → flushed.1.device.record = [])) ∧
    ∀ (owner flushed : Writer Guard × Machine) (result : Except Errno Unit),
      owner.2.LogReady → flush.attempt owner = (.ok result, flushed) →
        ∃ writes, EndsWithGuard owner result flushed writes := by
  intro start
  refine ⟨?_, fun owner flushed result still ended => endsWithGuard_of_flushed ended still⟩
  have begun : Recorded.Accepted good (start.1.device, start.2) [] := ⟨rfl, fine⟩
  obtain ⟨result, flushed, count, ended, inside, whole, left, -, sent, still⟩ :=
    flush_account (Recorded.accounts_accepted bounded) begun
  have bare : flush.attempt (writer, machine) = (.ok result, Prod.map (onto Recorded.device) id flushed) := by
    have same := (standsFor_flush Recorded.standsFor_write).attempt start
    rw [ended] at same
    exact same
  have still' : flushed.2.LogReady := ready _ still
  refine ⟨result, flushed, ends_of_flushed ended still', ends_of_flushed bare still', ?_, ?_, fun empty => ?_⟩
  · rw [← sent, left]
    exact List.take_append_drop count writer.buffer
  · rw [whole, left, List.drop_eq_nil_iff]
    have bound : count ≤ writer.buffer.length := inside
    change count = writer.buffer.length ↔ writer.buffer.length ≤ count
    omega
  · have nothing : flush.attempt start = (.ok (.ok ()), start) :=
      (Act.attempt_eq_ok _ _ _ _).mpr (flush_of_empty empty)
    rw [ended] at nothing
    cases nothing
    rfl

/--
A guard whose write is interrupted loses both bytes that its writer holds, which the warning says, and the descriptor
is closed once.
-/
theorem ends_with_one_flush_interrupted_guard :
    let writer : Writer Guard := ⟨⟨5⟩, [104, 105], 8⟩
    let start : Writer (Recorded Guard Offer) × Machine :=
      (writer.onto Recorded.start, Machine.start ⟨[(.call .write, [{ word := some (-4) }])]⟩ (.upTo .warn))
    (∃ flushed, Ends start (.error Errno.interrupted) flushed ∧ flushed.1.buffer = [104, 105] ∧
        ∃ told, Warned (lostOnDropText 2 Errno.interrupted) 2 flushed.2 told) ∧
      ∃ flushed writes, EndsWithGuard (writer, start.2) (.error Errno.interrupted) flushed writes := by
  intro writer start
  have within : Guard.WritesWithin start.2.script := by
    intro answer member word named
    rw [List.mem_singleton.mp member] at named
    cases named
    exact ⟨Errno.interrupted, by decide⟩
  have ready : start.2.LogReady := .inr (.inr fun _ member => absurd member List.not_mem_nil)
  have fine : (Register.ofInt32 writer.device.descriptor).value ≠ 2 ∧ Guard.WritesWithin start.2.script ∧
      start.2.LogReady := ⟨by decide, within, ready⟩
  obtain ⟨⟨result, flushed, ends, bare, -, whole, -⟩, guards⟩ :=
    ends_with_one_flush Guard.bounded_write (fun _ fine => fine.2.2) writer fine
  have failed : (flush.attempt (writer, start.2)).1 = .ok (.error Errno.interrupted) ∧
      (flush.attempt (writer, start.2)).2.1.buffer = [104, 105] := by
    have drained : drainFrom writer.buffer 0 (writer.device, start.2) =
        (.ok (0, .error Errno.interrupted), writer.device, (Descriptor.write 5 writer.buffer start.2).2) := by
      unfold drainFrom
      rfl
    simp only [flush, self, onDevice, setBuffer, Act.attempt, Act.bind_apply, Act.get_apply, Act.pure_apply,
      Act.focus_apply, drained, Act.modify_apply]
    exact ⟨rfl, rfl⟩
  rw [bare.ended] at failed
  obtain ⟨interrupted, left⟩ := failed
  cases Except.ok.inj interrupted
  have lost : flushed.1.buffer = [104, 105] := left
  obtain ⟨told, said, -⟩ := ends.dropped
  rw [lost] at said
  exact ⟨⟨flushed, ends, lost, told, said⟩, _, guards _ _ _ ready bare.ended⟩

end LinuxCalls.Writer
