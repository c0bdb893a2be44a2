/-
This file follows the line of a record to descriptor 2: through the writes that deliver it, or up to the
first write that is not accepted.
-/

import LinuxCalls.Proofs.Calls.Own
import LinuxCalls.Proofs.Log.Lines

namespace LinuxCalls

namespace Machine

/-- A question goes to the end of the events. -/
@[simp] theorem events_note (machine : Machine) (question : Question) (word : Option UInt64) :
    (machine.note question word).events = machine.events ++ [⟨question, word⟩] :=
  List.reverse_cons

/-- A journal that grows adds events at the end. -/
theorem exists_events_of_suffix {before after : Machine} (grown : before.journal <:+ after.journal) :
    ∃ added, after.events = before.events ++ added := by
  obtain ⟨added, joined⟩ := grown
  exact ⟨added.reverse, by rw [events, events, ← joined, List.reverse_append]⟩

end Machine

namespace Log

/-- The kernel accepts a write if it takes at least one byte and reports no more bytes than it was given. -/
def Accepts (bytes : Bytes) (word : UInt64) : Prop :=
  RawReturn.decode word = .ok word ∧ word ≠ 0 ∧ word.toNat ≤ bytes.length

/-- Accepted writes deliver bytes from the front, each one what the writes before it have left. -/
inductive Delivers : Bytes → List Event → Bytes → Prop
  | nothing (bytes : Bytes) : Delivers bytes [] bytes
  | write {bytes left : Bytes} {word : UInt64} {writes : List Event} (accepted : Accepts bytes word)
      (later : Delivers (bytes.drop word.toNat) writes left) :
      Delivers bytes (⟨.kernel (request bytes), some word⟩ :: writes) left

/-- A delivery breaks at the first write that is not accepted. Anything may follow it. -/
inductive Breaks (bytes : Bytes) : List Event → Prop
  | refused {left : Bytes} {word : UInt64} {writes : List Event} (delivered : Delivers bytes writes left)
      (unfinished : left ≠ []) (refused : ¬ Accepts left word) (later : List Event) :
      Breaks bytes (writes ++ ⟨.kernel (request left), some word⟩ :: later)

theorem Breaks.append {bytes : Bytes} {added : List Event} (breaks : Breaks bytes added) (more : List Event) :
    Breaks bytes (added ++ more) := by
  obtain ⟨delivered, unfinished, refused, later⟩ := breaks
  rw [List.append_assoc, List.cons_append]
  exact .refused delivered unfinished refused (later ++ more)

/-- A delivery may break after accepted writes. -/
theorem Breaks.write {bytes : Bytes} {word : UInt64} {added : List Event} (accepted : Accepts bytes word)
    (breaks : Breaks (bytes.drop word.toNat) added) :
    Breaks bytes (⟨.kernel (request bytes), some word⟩ :: added) := by
  obtain ⟨delivered, unfinished, refused, later⟩ := breaks
  exact .refused (.write accepted delivered) unfinished refused later

/-- A delivery that breaks has asked for a complaint that was not accepted. -/
theorem Breaks.exists_refused {bytes : Bytes} {added : List Event} (breaks : Breaks bytes added) :
    ∃ left word, ⟨.kernel (request left), some word⟩ ∈ added ∧ ¬ Accepts left word := by
  obtain ⟨-, -, refused, -⟩ := breaks
  exact ⟨_, _, List.mem_append_right _ List.mem_cons_self, refused⟩

/-- The writes of a delivery are complaints. -/
theorem Delivers.withoutComplaints {bytes left : Bytes} {writes : List Event}
    (delivers : Delivers bytes writes left) : Event.withoutComplaints writes = [] := by
  induction delivers with
  | nothing => rfl
  | @write bytes left word writes accepted later step =>
    have complains : (request bytes).isComplaint = true := rfl
    rw [Event.withoutComplaints, List.filter_cons_of_neg (by simp [Question.isComplaint, complains])]
    exact step

/-- Descriptor 2 has accepted the bytes that were delivered. -/
theorem Delivers.accepted_append {bytes left : Bytes} {writes : List Event}
    (delivers : Delivers bytes writes left) : writes.flatMap (Event.accepted complaints) ++ left = bytes := by
  induction delivers with
  | nothing => rfl
  | @write bytes left word writes accepted later step =>
    have taken : Event.accepted complaints ⟨.kernel (request bytes), some word⟩ = bytes.take word.toNat :=
      if_pos ⟨rfl, rfl, accepted.2.2⟩
    rw [List.flatMap_cons, taken, List.append_assoc, step, List.take_append_drop]

/-- A request of the log notes itself at the end of the events. -/
theorem events_of_request {bytes : Bytes} {reply : Reply} {loud next : Machine}
    (performed : perform (request bytes) loud = (.ok reply, next)) :
    next.events = loud.events ++ [⟨.kernel (request bytes), some reply.word⟩] := by
  obtain ⟨-, rfl⟩ := eq_of_perform_eq_ok performed
  exact Machine.events_note _ _ _

/-- With enough patience a delivery goes on until the bytes are delivered or a write is not accepted. -/
theorem deliverWithin_adds {patience : Nat} {bytes : Bytes} (enough : bytes.length < patience) (loud : Machine) :
    ∃ added, (deliverWithin patience bytes loud).2.events = loud.events ++ added ∧
      ((deliverWithin patience bytes loud).1 = .ok () ∧ Delivers bytes added [] ∨ Breaks bytes added) := by
  induction patience generalizing bytes loud with
  | zero => contradiction
  | succ patience step =>
    unfold deliverWithin
    by_cases done : bytes = []
    · subst done
      exact ⟨[], by rw [if_pos rfl, List.append_nil]; rfl, .inl ⟨rfl, .nothing []⟩⟩
    · obtain ⟨reply, middle, performed, -⟩ := perform_request bytes loud
      have noted := events_of_request performed
      rw [if_neg done, Act.bind_of_ok _ (attempt_writeQuietly performed)]
      -- After a write that is not accepted it does not matter what is done.
      have broken {act : Sys Unit} (refused : ¬ Accepts bytes reply.word)
          (grown : middle.journal <:+ (act middle).2.journal) : ∃ added,
          (act middle).2.events = loud.events ++ added ∧
            ((act middle).1 = .ok () ∧ Delivers bytes added [] ∨ Breaks bytes added) := by
        obtain ⟨later, joined⟩ := Machine.exists_events_of_suffix grown
        refine ⟨_ :: later, ?_, .inr (.refused (.nothing bytes) done refused later)⟩
        rw [joined, noted, List.append_assoc, List.singleton_append]
      cases decoded : RawReturn.decode reply.word with
      | ok count =>
        obtain ⟨rfl, -⟩ := RawReturn.eq_of_decode_eq_ok decoded
        dsimp only
        by_cases refused : reply.word = 0
        · rw [if_pos refused]
          exact broken (fun accepted => accepted.2.1 refused) (List.suffix_refl _)
        · rw [if_neg refused]
          by_cases beyond : bytes.length < reply.word.toNat
          · rw [if_pos beyond]
            exact broken (fun accepted => Nat.not_lt.mpr accepted.2.2 beyond) (List.suffix_refl _)
          · have accepted : Accepts bytes reply.word := ⟨decoded, refused, Nat.not_lt.mp beyond⟩
            have shorter : (bytes.drop reply.word.toNat).length < patience := by
              have positive : 0 < reply.word.toNat := Nat.pos_of_ne_zero fun none => refused (UInt64.toNat_inj.mp none)
              rw [List.length_drop]
              omega
            obtain ⟨added, joined, ended⟩ := step shorter middle
            rw [if_neg beyond]
            refine ⟨_ :: added, ?_, ended.imp (fun whole => ⟨whole.1, .write accepted whole.2⟩)
              fun breaks => breaks.write accepted⟩
            rw [joined, noted, List.append_assoc, List.singleton_append]
      | error error =>
        have refused : ¬ Accepts bytes reply.word := fun accepted => by
          have value := accepted.1
          rw [decoded] at value
          contradiction
        dsimp only
        split
        · obtain ⟨outcome, next, delivered, complains, -⟩ := deliverWithin_complains patience bytes middle
          refine broken refused ?_
          rw [delivered]
          exact complains.grown
        · exact broken refused (List.suffix_refl _)

/-- A record that is taken is delivered and leaves the log idle again, or its delivery breaks. -/
theorem tell_adds {level : Level} (message : String) {loud : Machine}
    (admitted : loud.threshold.admits level = true) (idle : loud.recording = false) :
    ∃ added, (tell level message loud).2.events = loud.events ++ added ∧
      ((∃ next, tell level message loud = (.ok (), next) ∧ next.recording = false ∧
          next.threshold = loud.threshold ∧ Delivers (lineBytes level message) added []) ∨
        Breaks (lineBytes level message) added) := by
  let raised : Machine := { loud with recording := true }
  let patience := (lineBytes level message).length + raised.script.uses .complaints + 1
  have enough : (lineBytes level message).length < patience := by omega
  obtain ⟨added, joined, ended⟩ := deliverWithin_adds enough raised
  obtain ⟨outcome, next, delivered, complains, -⟩ := deliverWithin_complains patience (lineBytes level message) raised
  have delivered' : deliver (lineBytes level message) raised = (outcome, next) := delivered
  have told : tell level message loud = (deliver (lineBytes level message) >>= fun _ =>
      Act.modify fun machine => { machine with recording := false }) raised :=
    tell_of_admitted message admitted idle
  rw [delivered] at joined ended
  cases outcome with
  | ok _ =>
    rw [Act.bind_of_ok _ delivered', Act.modify_apply] at told
    rw [told]
    exact ⟨added, joined, ended.imp_left fun whole => ⟨_, rfl, rfl, complains.threshold, whole.2⟩⟩
  | error fault =>
    rw [Act.bind_of_fault _ delivered'] at told
    rw [told]
    exact ⟨added, joined, ended.imp_left fun whole => nomatch whole.1⟩

end Log

end LinuxCalls
