/-
This file follows the threading runtime's signals through calls on the signal mask. No call blocks one
of them, but a call that replaces the mask unblocks those that were blocked before, because the set that
the kernel sees never has them.
-/

import LinuxCalls.Proofs.Run
import LinuxCalls.Proofs.Calls.Wrappers

namespace LinuxCalls

namespace SignalSet

/-- The signals of two sets. -/
def union (set other : SignalSet) : SignalSet := ⟨set.bits ||| other.bits⟩

/-- The signals of a set that another one does not have. -/
def difference (set other : SignalSet) : SignalSet := ⟨set.bits &&& ~~~other.bits⟩

/-- A set has no bit in common with the bit of a signal that it does not contain. -/
theorem and_bit_of_missing {set : SignalSet} {signal : UInt32} (missing : set.contains signal = false) :
    set.bits &&& bit signal = 0 := by
  rw [contains, Bool.and_eq_false_iff, bne_eq_false_iff_eq, bne_eq_false_iff_eq] at missing
  rcases missing with none | none
  · rw [none, UInt64.and_zero]
  · exact none

/-- A set shares no bit with a signal that it does not contain. -/
theorem getElem_of_missing {set : SignalSet} {signal : UInt32} (missing : set.contains signal = false)
    (index : Nat) (inside : index < 64) :
    (set.bits.toBitVec[index] && (bit signal).toBitVec[index]) = false := by
  have none := congrArg (fun bits => bits.toBitVec[index]) (and_bit_of_missing missing)
  simpa using none

/-- A set that does not contain a signal adds nothing at its bit. -/
theorem contains_union {other : SignalSet} {signal : UInt32} (missing : other.contains signal = false)
    (set : SignalSet) : (set.union other).contains signal = set.contains signal := by
  have bits : (set.bits ||| other.bits) &&& bit signal = set.bits &&& bit signal := by
    apply UInt64.toBitVec_inj.mp
    ext index inside
    have none := getElem_of_missing missing index inside
    simp only [UInt64.toBitVec_and, UInt64.toBitVec_or, BitVec.getElem_and, BitVec.getElem_or]
    grind
  rw [contains, contains, union, bits]

/-- A set that does not contain a signal takes nothing away at its bit. -/
theorem contains_difference {other : SignalSet} {signal : UInt32} (missing : other.contains signal = false)
    (set : SignalSet) : (set.difference other).contains signal = set.contains signal := by
  have bits : set.bits &&& ~~~other.bits &&& bit signal = set.bits &&& bit signal := by
    apply UInt64.toBitVec_inj.mp
    ext index inside
    have none := getElem_of_missing missing index inside
    simp only [UInt64.toBitVec_and, UInt64.toBitVec_not, BitVec.getElem_and, BitVec.getElem_not]
    grind
  rw [contains, contains, difference, bits]

/-- The signals that belong to the threading runtime are in no set that the kernel sees. -/
theorem contains_withoutReserved {signal : UInt32} (mine : signal ∈ [Signal.cancel, Signal.changeUser])
    (set : SignalSet) : set.withoutReserved.contains signal = false := by
  have covered : ~~~reserved.bits &&& bit signal = 0 := by
    rcases List.mem_cons.mp mine with rfl | mine
    · decide
    · rw [List.mem_singleton.mp mine]
      decide
  rw [contains, withoutReserved, UInt64.and_assoc, covered, UInt64.and_zero]
  exact Bool.and_false _

end SignalSet

/-- The mask after a change by a set. -/
def MaskChange.applied (how : MaskChange) (mask set : SignalSet) : SignalSet :=
  match how with
  | .block => mask.union set
  | .unblock => mask.difference set
  | .replace => set

/-- The change that has a number. -/
def MaskChange.ofNumber? (number : UInt64) : Option MaskChange :=
  [MaskChange.block, .unblock, .replace].find? (·.number == number)

/-- Every change is found by its number. -/
theorem MaskChange.ofNumber?_number (how : MaskChange) : ofNumber? how.number = some how := by
  cases how <;> decide

/--
The mask after an event, if the kernel acts on it as it should. A call on the mask that fails, or that
is given no set, leaves it alone, and so does every other event.
-/
def Event.masked (mask : SignalSet) (event : Event) : SignalSet :=
  match event.question, event.word with
  | .kernel ⟨number, .word change :: .signals set :: _⟩, some word =>
    match MaskChange.ofNumber? change, RawReturn.decode word with
    | some how, .ok _ => if number = CallKind.signalMask.number then how.applied mask set else mask
    | _, _ => mask
  | _, _ => mask

/-- The mask of a thread that had another mask before its first event. -/
def Machine.mask (first : SignalSet) (machine : Machine) : SignalSet :=
  machine.events.foldl Event.masked first

namespace SignalMask

/-- A call on the signal mask. -/
inductive Call
  | change (how : MaskChange) (set : SignalSet)
  | current

namespace Call

/-- This action makes a call. -/
def run : Call → Sys SignalSet
  | .change how set => SignalMask.change how set
  | .current => SignalMask.current

/-- The request that a call makes. -/
def request (call : Call) : Request :=
  ⟨CallKind.signalMask.number, CallKind.padded (match call with
    | .change how set => [.word how.number, .signals set.withoutReserved, .room setSize, .ofLength setSize]
    | .current => [.word MaskChange.block.number, .word 0, .room setSize, .ofLength setSize])⟩

/-- A call replaces the mask if it is such a change and the kernel accepts it. -/
def Replaces (call : Call) (result : Except Errno SignalSet) : Prop :=
  (∃ set, call = .change .replace set) ∧ result.isOk = true

end Call

/-- A call is one request, which fails if the answer is an error. -/
theorem Call.traces_run (call : Call) {machine : Machine} :
    call.run.Traces machine fun calls outcome _ => ∃ result : Except Errno SignalSet,
      outcome = result.mapError .errno ∧ ∃ word, result.isOk = (RawReturn.decode word).isOk ∧
        calls = [call.request.answered word] := by
  have stores {registers : List Register} (few : registers.length ≤ CallKind.registerCount) :
      (CallKind.signalMask.collect registers >>= fun bytes => pure (stored bytes)).Traces machine
        fun calls outcome _ => ∃ result : Except Errno SignalSet, outcome = result.mapError .errno ∧
          ∃ word, result.isOk = (RawReturn.decode word).isOk ∧
            calls = [Request.answered ⟨CallKind.signalMask.number, CallKind.padded registers⟩ word] := by
    apply (CallKind.traces_collect_once (by decide) (by decide) few).bind_result
    · rintro _ bytes middle ⟨word, kept, same, rfl⟩
      refine .pure ⟨.ok (stored bytes), rfl, word, ?_, rfl⟩
      cases decoded : RawReturn.decode word with
      | ok _ => rfl
      | error _ => rw [decoded] at same; cases same
    · rintro _ error next ⟨word, kept, same, rfl⟩
      refine ⟨.error error, rfl, word, ?_, rfl⟩
      cases decoded : RawReturn.decode word with
      | ok _ => rw [decoded] at same; cases same
      | error _ => rfl
  cases call with
  | change how set => exact stores (by simp [CallKind.registerCount])
  | current => exact stores (by simp [CallKind.registerCount])

/-- A complaint leaves the mask alone. -/
theorem masked_of_complaint {event : Event} (complains : event.question.isComplaint = true) (mask : SignalSet) :
    event.masked mask = mask := by
  obtain ⟨question, word⟩ := event
  unfold Event.masked
  split
  · rename_i number change set rest answer asked _
    dsimp only at asked
    subst asked
    have writes : number = CallKind.write.number := by
      have both := Bool.and_eq_true_iff.mp complains
      exact beq_iff_eq.mp both.1
    have other : ¬ number = CallKind.signalMask.number := by
      rw [writes]
      decide
    split
    · exact if_neg other
    · rfl
  · rfl

/-- Complaints make no difference to the mask. -/
theorem mask_eq_foldr (first : SignalSet) (machine : Machine) : machine.mask first =
    (Event.withoutComplaints machine.journal).foldr (fun event mask => event.masked mask) first := by
  rw [Machine.mask, Machine.events, List.foldl_reverse, Event.withoutComplaints]
  induction machine.journal with
  | nil => rfl
  | cons event journal step =>
    rw [List.foldr_cons, step, List.filter_cons]
    cases complains : event.question.isComplaint with
    | false => rfl
    | true => exact masked_of_complaint complains _

/-- A call on the mask is no complaint. -/
theorem Call.isComplaint_request (call : Call) : call.request.isComplaint = false := by
  have other : (CallKind.signalMask.number == CallKind.write.number) = false := by decide
  change ((CallKind.signalMask.number == CallKind.write.number) && _) = false
  rw [other, Bool.false_and]

/-- A call on the mask does to it what its event says. -/
theorem mask_of_makes {call : Call} {word : UInt64} {before after : Machine}
    (makes : before.Makes [call.request.answered word] after) (first : SignalSet) :
    after.mask first = (call.request.answered word).masked (before.mask first) := by
  have kept : Event.withoutComplaints [call.request.answered word] = [call.request.answered word] :=
    List.filter_cons_of_pos (by simp [Question.isComplaint, call.isComplaint_request])
  rw [mask_eq_foldr, makes.asked_eq, kept, mask_eq_foldr first before]
  rfl

variable {signal : UInt32}

/-- A call keeps a signal of the runtime as it is, unless it replaces the mask. -/
theorem Call.contains_masked (mine : signal ∈ [Signal.cancel, Signal.changeUser]) (call : Call)
    {result : Except Errno SignalSet} {word : UInt64} (ends : result.isOk = (RawReturn.decode word).isOk)
    (mask : SignalSet) : ((call.request.answered word).masked mask).contains signal = true ↔
      mask.contains signal = true ∧ ¬ call.Replaces result := by
  have missing (set : SignalSet) := SignalSet.contains_withoutReserved mine set
  cases call with
  | current =>
    have still : ¬ Call.current.Replaces result := fun replaces => nomatch replaces.1
    exact (and_iff_left still).symm
  | change how set =>
    have replaces : (Call.change how set).Replaces result ↔ how = .replace ∧ result.isOk = true := by
      simp [Call.Replaces]
    rw [replaces, ends]
    cases decoded : RawReturn.decode word with
    | error error =>
      have kept : ((Call.change how set).request.answered word).masked mask = mask := by
        simp only [Event.masked, Call.request, CallKind.padded, List.cons_append,
          MaskChange.ofNumber?_number, decoded]
      simp [kept, Except.isOk, Except.toBool]
    | ok value =>
      have applied : ((Call.change how set).request.answered word).masked mask =
          how.applied mask set.withoutReserved := by
        simp only [Event.masked, Call.request, CallKind.padded, List.cons_append,
          MaskChange.ofNumber?_number, decoded]
        rfl
      rw [applied]
      cases how with
      | block => simp [MaskChange.applied, SignalSet.contains_union (missing set)]
      | unblock => simp [MaskChange.applied, SignalSet.contains_difference (missing set)]
      | replace => simp [MaskChange.applied, missing set, Except.isOk, Except.toBool]

/--
Calls on the mask in any order never block a signal of the threading runtime, whatever sets they are
given. Such a signal stays blocked exactly if none of the calls replaces the mask.
-/
theorem contains_reserved_iff (mine : signal ∈ [Signal.cancel, Signal.changeUser]) (calls : List Call)
    (first : SignalSet) {machine : Machine} (ready : machine.LogReady) :
    ∃ results after, Act.each Call.run calls machine = (.ok results, after) ∧
      results.length = calls.length ∧
      ((after.mask first).contains signal = true ↔ (machine.mask first).contains signal = true ∧
        ∀ call ∈ calls.zip results, ¬ call.1.Replaces call.2) := by
  induction calls generalizing machine with
  | nil => exact ⟨[], machine, rfl, rfl, by simp⟩
  | cons call calls step =>
    have attempted : call.run.attempt.Traces machine fun made outcome _ => ∃ result word,
        outcome = .ok result ∧ result.isOk = (RawReturn.decode word).isOk ∧
          made = [call.request.answered word] := by
      apply call.traces_run.attempt_result
      rintro made result next ⟨word, ends, requested⟩
      exact ⟨result, word, rfl, ends, requested⟩
    obtain ⟨_, makes, result, word, ended, ends, rfl⟩ := attempted.of_ready ready
    have makes' : machine.Makes [call.request.answered word] (call.run.attempt machine).2 := makes
    obtain ⟨results, after, made, size, kept⟩ := step (makes'.logReady ready)
    refine ⟨result :: results, after, ?_, congrArg Nat.succ size, ?_⟩
    · rw [Act.each, Act.bind_of_ok _ (Prod.ext ended rfl), Act.bind_of_ok _ made]
      rfl
    · rw [kept, mask_of_makes makes', call.contains_masked mine ends, List.zip_cons_cons,
        List.forall_mem_cons, and_assoc]

/-- A mask that is saved and restored loses the runtime's signal that was blocked in it. -/
theorem contains_reserved_iff_restored :
    let mask := SignalSet.ofList [Signal.userOne, Signal.cancel]
    let machine := Machine.start ⟨[(.call .signalMask,
      [{ stored := some (Bytes.ofWord64 mask.bits), times := 2 }])]⟩ .off
    Signal.cancel ∈ [Signal.cancel, Signal.changeUser] ∧ machine.LogReady ∧
      ∃ results after, Act.each Call.run [.current, .change .replace mask] machine = (.ok results, after) ∧
        ((after.mask mask).contains Signal.cancel = true ↔ (machine.mask mask).contains Signal.cancel = true ∧
          ∀ call ∈ [Call.current, .change .replace mask].zip results, ¬ call.1.Replaces call.2) := by
  intro mask machine
  have mine : Signal.cancel ∈ [Signal.cancel, Signal.changeUser] := List.mem_cons_self
  have ready : machine.LogReady := .inl rfl
  obtain ⟨results, after, made, -, kept⟩ :=
    contains_reserved_iff mine [.current, .change .replace mask] mask ready
  exact ⟨mine, ready, results, after, made, kept⟩

/--
A kernel that returns the mask in force lets a program save the mask and restore it. Both calls succeed,
and a signal of the runtime that was blocked before is not blocked any more.
-/
theorem restoring_unblocks_reserved :
    let mask := SignalSet.ofList [Signal.userOne, Signal.cancel]
    let machine := Machine.start ⟨[(.call .signalMask,
      [{ stored := some (Bytes.ofWord64 mask.bits), times := 2 }])]⟩ .off
    ∃ after, Act.each Call.run [.current, .change .replace mask] machine = (.ok [.ok mask, .ok mask], after) ∧
      (machine.mask mask).contains Signal.cancel = true ∧ (after.mask mask).contains Signal.cancel = false := by
  refine ⟨_, Prod.ext (by rfl) rfl, ?_, ?_⟩
  · decide
  · decide

end SignalMask

end LinuxCalls
