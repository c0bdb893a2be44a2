/-
This file follows the offers that a loop of writes makes. Each offer is all that the ones before it have left,
so what a sink has accepted and what is left are always the bytes in order.
-/

import LinuxCalls.Proofs.Stream.WriterBalance

namespace LinuxCalls

variable {δ : Type}

/-- What an attempt does not turn into a value is no reported error. -/
theorem Act.attempt_ne_errno {σ α : Type} (act : Act σ α) (state : σ) (error : Errno) :
    (act.attempt state).1 ≠ .error (.errno error) := by
  unfold Act.attempt
  rcases act state with ⟨fault | value, after⟩
  · cases fault <;> simp
  · simp

namespace Offer

/-- The bytes that a sink has not accepted of an offer. -/
def left (offer : Offer) : Bytes :=
  match offer.answer with
  | .ok count => offer.offered.drop count
  | .error _ => offer.offered

/-- A sink accepts bytes at the front of an offer. -/
@[simp] theorem accepted_append_left (offer : Offer) : offer.accepted ++ offer.left = offer.offered := by
  unfold accepted left
  cases offer.answer <;> simp

/-- The answer to an offer counts no more bytes than were offered. -/
def IsWithin (offer : Offer) : Prop := ∀ count, offer.answer = .ok count → count ≤ offer.offered.length

end Offer

/-- Offers push bytes if each one is all that the offers before it have left, and if none of them is empty. -/
inductive Pushes : Bytes → List Offer → Bytes → Prop
  | nothing (bytes : Bytes) : Pushes bytes [] bytes
  | offer {bytes left : Bytes} {answer : Except Errno Nat} {offers : List Offer} (some : bytes ≠ [])
      (later : Pushes (Offer.left ⟨bytes, answer⟩) offers left) : Pushes bytes (⟨bytes, answer⟩ :: offers) left

namespace Pushes

variable {bytes left : Bytes} {offers earlier later : List Offer}

/-- What is accepted and what is left are all bytes in order. -/
theorem accepted_append (pushes : Pushes bytes offers left) : offers.flatMap Offer.accepted ++ left = bytes := by
  induction pushes with
  | nothing => rfl
  | @offer bytes left answer offers some later step =>
    calc (Offer.mk bytes answer :: offers).flatMap Offer.accepted ++ left
        = Offer.accepted ⟨bytes, answer⟩ ++ (offers.flatMap Offer.accepted ++ left) := by simp
      _ = Offer.accepted ⟨bytes, answer⟩ ++ Offer.left ⟨bytes, answer⟩ := by rw [step]
      _ = bytes := Offer.accepted_append_left _

/-- Nothing is offered of no bytes. -/
theorem eq_nil (pushes : Pushes [] offers left) : offers = [] := by
  cases pushes with
  | nothing => rfl
  | offer some => exact absurd rfl some

/-- Offers in two parts push the bytes one after the other. -/
theorem split (pushes : Pushes bytes (earlier ++ later) left) :
    ∃ middle, Pushes bytes earlier middle ∧ Pushes middle later left := by
  induction earlier generalizing bytes with
  | nil => exact ⟨bytes, .nothing bytes, pushes⟩
  | cons first earlier step =>
    cases pushes with
    | offer some rest =>
      obtain ⟨middle, front, back⟩ := step rest
      exact ⟨middle, .offer some front, back⟩

/-- Every offer is what the bytes accepted before it leave of all bytes. -/
theorem offered_eq {offer : Offer} (pushes : Pushes bytes (earlier ++ offer :: later) left) :
    offer.offered = bytes.drop (earlier.flatMap Offer.accepted).length ∧ offer.offered ≠ [] := by
  obtain ⟨middle, front, back⟩ := pushes.split
  have whole := front.accepted_append
  cases back with
  | offer some => exact ⟨by simp [← whole], some⟩

end Pushes

namespace Writer

section Loops

variable [Sink δ]

/-- A drain that reports its ending as its own result is a write of the bytes that it starts with. -/
theorem drainFrom_bind_ending (bytes : Bytes) {written : Nat} (inside : written ≤ bytes.length) :
    (drainFrom bytes written >>= fun drained => Act.ofExcept drained.2 : Act (δ × Machine) Unit) =
      writeThrough (bytes.drop written) := by
  funext state
  induction left : bytes.length - written using Nat.strongRecOn generalizing written state with
  | ind size step =>
    subst left
    rw [writeThrough]
    unfold drainFrom
    by_cases finished : written = bytes.length
    · simp [finished, Act.ofExcept]
    · have some : bytes.drop written ≠ [] := by simp; omega
      have notBeyond : ¬ bytes.length < written := by omega
      rw [if_neg finished, dif_neg notBeyond, if_neg some, bind_assoc, Act.bind_apply, Act.bind_apply, Act.attempt]
      rcases Sink.write (bytes.drop written) state with ⟨fault | count, next⟩
      · cases fault <;> rfl
      · dsimp only
        by_cases none : count = 0
        · rw [dif_pos none, dif_pos none]
          rfl
        · rw [dif_neg none, dif_neg none]
          by_cases beyond : (bytes.drop written).length < count
          · have outside : bytes.length < written + count := by simp at beyond; omega
            have unfinished : ¬ written + count = bytes.length := by omega
            rw [dif_pos beyond, drainFrom, if_neg unfinished, dif_pos outside]
            rfl
          · have fits : written + count ≤ bytes.length := by simp at beyond; omega
            rw [dif_neg beyond, step _ (by omega) fits next rfl, List.drop_drop]

end Loops

/--
How a drain of a recorded sink ends, in the light of what it has offered and of what that has left. An answer
beyond the bytes offered is a panic.
-/
inductive Drained (bytes : Bytes) (offers : List Offer) (left : Bytes) :
    Except Fault (Nat × Except Errno Unit) → Prop
  | reached {reached : Nat} {ending : Except Errno Unit} (same : left = bytes.drop reached)
      (whole : ending = .ok () → left = []) (within : ∀ offer ∈ offers, offer.IsWithin) :
      Drained bytes offers left (.ok (reached, ending))
  | broken {fault : Fault} (stuck : ∀ error, fault ≠ .errno error)
      (within : fault ≠ .panic → ∀ offer ∈ offers, offer.IsWithin) : Drained bytes offers left (.error fault)

/-- A drain goes on as it would have begun after the first offer. -/
theorem Drained.cons {bytes left : Bytes} {offer : Offer} {offers : List Offer}
    {outcome : Except Fault (Nat × Except Errno Unit)} (first : offer.IsWithin)
    (drained : Drained bytes offers left outcome) : Drained bytes (offer :: offers) left outcome := by
  cases drained with
  | reached same whole within => exact .reached same whole (List.forall_mem_cons.mpr ⟨first, within⟩)
  | broken stuck within => exact .broken stuck fun other => List.forall_mem_cons.mpr ⟨first, within other⟩

variable [Sink δ]

/-- A drain of a recorded sink pushes the bytes that it starts with. -/
theorem drainFrom_pushes (bytes : Bytes) {written : Nat} (inside : written ≤ bytes.length)
    (state : Recorded δ Offer × Machine) : ∃ offers left,
      (drainFrom bytes written state).2.1.record = state.1.record ++ offers ∧
      Pushes (bytes.drop written) offers left ∧ Drained bytes offers left (drainFrom bytes written state).1 := by
  -- Each round that goes on offers what is left behind it.
  induction left : bytes.length - written using Nat.strongRecOn generalizing written state with
  | ind size step =>
    subst left
    unfold drainFrom
    by_cases finished : written = bytes.length
    · have done : bytes.drop written = [] := by simp [finished]
      exact ⟨[], bytes.drop written, by simp [finished], .nothing _, by simp [finished, Drained.reached]⟩
    · have some : bytes.drop written ≠ [] := by simp; omega
      have notBeyond : ¬ bytes.length < written := by omega
      rw [if_neg finished, dif_neg notBeyond, Act.bind_apply, Recorded.attempt_write]
      rcases asked : (Sink.write (bytes.drop written)).attempt (state.1.device, state.2) with ⟨fault | answer, next⟩
      · refine ⟨[], _, by simp, .nothing _, .broken ?_ fun _ _ member => absurd member List.not_mem_nil⟩
        rintro error rfl
        exact Act.attempt_ne_errno _ _ error (congrArg Prod.fst asked)
      · cases answer with
        | error error =>
          refine ⟨[⟨bytes.drop written, .error error⟩], _, rfl, .offer some (.nothing _), .reached rfl nofun ?_⟩
          simp [Offer.IsWithin]
        | ok count =>
          dsimp only
          by_cases none : count = 0
          · subst none
            refine ⟨[⟨bytes.drop written, .ok 0⟩], _, rfl, .offer some (.nothing _), .reached rfl nofun ?_⟩
            simp [Offer.IsWithin]
          · by_cases beyond : bytes.length < written + count
            · have unfinished : ¬ written + count = bytes.length := by omega
              rw [dif_neg none, drainFrom, if_neg unfinished, dif_pos beyond]
              exact ⟨[⟨bytes.drop written, .ok count⟩], _, rfl, .offer some (.nothing _), .broken nofun (absurd rfl)⟩
            · obtain ⟨offers, left, noted, pushes, drained⟩ := step _ (by omega) (Nat.not_lt.mp beyond)
                (⟨next.1, state.1.record ++ [⟨bytes.drop written, .ok count⟩]⟩, next.2) rfl
              have first : Offer.IsWithin ⟨bytes.drop written, .ok count⟩ := by
                rintro _ ⟨⟩
                simp
                omega
              rw [dif_neg none]
              refine ⟨⟨bytes.drop written, .ok count⟩ :: offers, left, by simp [noted], .offer some ?_,
                drained.cons first⟩
              simpa [Offer.left] using pushes

/-- The bytes that a flush keeps: those that are left, but all of them if the sink has not come back. -/
def kept (bytes left : Bytes) : Except Fault Unit → Bytes
  | .ok _ | .error (.errno _) => left
  | .error _ => bytes

/-- How a loop of writes ends: with nothing left, or otherwise, and with a panic if an answer goes too far. -/
structure Stops (offers : List Offer) (left : Bytes) (outcome : Except Fault Unit) : Prop where
  whole : outcome = .ok () → left = []
  within : outcome ≠ .error .panic → ∀ offer ∈ offers, offer.IsWithin

/--
A flush of a recorded sink does to the sink what a write of the buffered bytes does, and both push these bytes.
They differ in the buffer only.
-/
theorem flush_pushes (state : Writer (Recorded δ Offer) × Machine) : ∃ outcome device machine offers left,
    writeThrough state.1.buffer (state.1.device, state.2) = (outcome, (device, machine)) ∧
    flush state = (outcome, (⟨device, kept state.1.buffer left outcome, state.1.capacity⟩, machine)) ∧
    device.record = state.1.device.record ++ offers ∧ Pushes state.1.buffer offers left ∧
    Stops offers left outcome := by
  obtain ⟨offers, left, noted, pushes, drained⟩ :=
    drainFrom_pushes state.1.buffer (Nat.zero_le _) (state.1.device, state.2)
  have through := congrFun (drainFrom_bind_ending state.1.buffer (Nat.zero_le _)) (state.1.device, state.2)
  rw [List.drop_zero] at pushes through
  rw [← through, Act.bind_apply, flush_apply]
  generalize drainFrom state.1.buffer 0 (state.1.device, state.2) = drain at noted drained ⊢
  obtain ⟨outcome, device, machine⟩ := drain
  cases drained with
  | @reached reached ending same whole within =>
    cases ending with
    | ok _ =>
      refine ⟨.ok (), device, machine, offers, left, rfl, ?_, noted, pushes, fun _ => whole rfl, fun _ => within⟩
      rw [kept, same]
      rfl
    | error error =>
      refine ⟨.error (.errno error), device, machine, offers, left, rfl, ?_, noted, pushes, nofun, fun _ => within⟩
      rw [kept, same]
      rfl
  | @broken fault stuck within =>
    refine ⟨.error fault, device, machine, offers, left, rfl, ?_, noted, pushes, nofun, fun other => within ?_⟩
    · cases fault with
      | errno error => exact absurd rfl (stuck error)
      | panic => rfl
      | exit status => rfl
    · rintro rfl
      exact other rfl

/-- A write past the buffer pushes its bytes to a recorded sink. -/
theorem writeThrough_pushes (bytes : Bytes) (state : Recorded δ Offer × Machine) : ∃ offers left,
    (writeThrough bytes state).2.1.record = state.1.record ++ offers ∧ Pushes bytes offers left ∧
      Stops offers left (writeThrough bytes state).1 := by
  obtain ⟨outcome, device, machine, offers, left, through, -, noted, pushes, stops⟩ :=
    flush_pushes (⟨state.1, bytes, 0⟩, state.2)
  rw [show writeThrough bytes state = _ from through]
  exact ⟨offers, left, noted, pushes, stops⟩

end Writer

end LinuxCalls
