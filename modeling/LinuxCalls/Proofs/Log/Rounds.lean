/-
This file follows a delivery of the log write by write. It ends for a reason of its own: all bytes are accepted, or an
answer is neither a count nor an interruption.
-/

import Mathlib.Algebra.Group.Nat.Defs
import LinuxCalls.Proofs.Calls.ReturnWords
import LinuxCalls.Proofs.Log.Delivery
import LinuxCalls.Proofs.Stream.Pushing

namespace LinuxCalls

/-- A word that is not negative as a signed number is a value. -/
theorem RawReturn.decode_of_small {word : UInt64} (small : word.toNat < 2 ^ 63) : decode word = .ok word :=
  (decode_eq_ok_iff word).mpr (by omega)

/-- A channel without a use left has no answer left. -/
theorem Script.queue_eq_nil {script : Script} {channel : Channel} (used : script.uses channel = 0) :
    script.queue channel = [] := by
  unfold uses at used
  have positive := @times_pos_of_mem_queue script channel
  generalize script.queue channel = answers at used positive ⊢
  cases answers with
  | nil => rfl
  | cons answer rest =>
    have some := positive List.mem_cons_self
    simp only [usesOf, List.foldr_cons] at used
    omega

namespace Machine

/-- A machine that serves a request uses up the next answer of the request's channel. -/
theorem script_serve (machine : Machine) (request : Request) :
    (machine.serve request).2.script = (machine.script.next (Channel.ofRequest request)).2 := rfl

/-- The reply to a request is made from the first answer left on its channel. -/
theorem reply_serve (machine : Machine) (request : Request) :
    (machine.serve request).1 =
      replyOf (Channel.ofRequest request) request (machine.script.queue (Channel.ofRequest request)).head? := rfl

end Machine

namespace Log

/-- A write of the log offers bytes, and a word comes back. -/
structure Written where
  offered : Bytes
  word : UInt64

namespace Written

/-- The event that a write leaves in the journal. -/
def event (write : Written) : Event := ⟨.kernel (request write.offered), some write.word⟩

/-- The offer that a write is, with its word read as an answer. -/
def offer (write : Written) : Offer := ⟨write.offered, (RawReturn.decode write.word).map UInt64.toNat⟩

/-- The bytes that descriptor 2 has accepted of a write. -/
def accepted (write : Written) : Bytes := write.event.accepted complaints

/-- The answer to a write counts no more bytes than were offered. -/
def Fits (write : Written) : Prop := write.offer.IsWithin

/-- The answer to a write is neither zero nor an error other than an interruption. -/
def GoesOn (write : Written) : Prop :=
  match write.offer.answer with
  | .ok count => count ≠ 0
  | .error error => error = Errno.interrupted

/-- A word that is a value is an answer with that count. -/
theorem offer_of_ok {bytes : Bytes} {word count : UInt64} (decoded : RawReturn.decode word = .ok count) :
    offer ⟨bytes, word⟩ = ⟨bytes, .ok count.toNat⟩ := by
  rw [offer, decoded]
  rfl

/-- A word that is an error is an answer with that error. -/
theorem offer_of_error {bytes : Bytes} {word : UInt64} {error : Errno}
    (decoded : RawReturn.decode word = .error error) : offer ⟨bytes, word⟩ = ⟨bytes, .error error⟩ := by
  rw [offer, decoded]
  rfl

/-- A write leaves no more bytes than it offers. -/
theorem length_left_le (write : Written) : write.offer.left.length ≤ write.offered.length := by
  have whole := congrArg List.length (Offer.accepted_append_left write.offer)
  rw [List.length_append] at whole
  exact Nat.le_of_add_left_le (Nat.le_of_eq whole)

/-- What the journal shows as accepted is what the answer says. -/
theorem accepted_eq {bytes : Bytes} {word : UInt64} (short : bytes.length < 2 ^ 63) (fits : Fits ⟨bytes, word⟩) :
    accepted ⟨bytes, word⟩ = (offer ⟨bytes, word⟩).accepted := by
  have journal : accepted ⟨bytes, word⟩ = if word.toNat ≤ bytes.length then bytes.take word.toNat else [] := by
    simp [accepted, event, request, CallKind.padded, Event.accepted]
  cases decoded : RawReturn.decode word with
  | ok count =>
    obtain ⟨rfl, -⟩ := RawReturn.eq_of_decode_eq_ok decoded
    have within : count.toNat ≤ bytes.length := by simpa [Fits, Offer.IsWithin, offer_of_ok decoded] using fits
    rw [journal, if_pos within, offer_of_ok decoded]
    rfl
  | error error =>
    -- A word that is an error is larger than every count.
    have large : ¬ word.toNat ≤ bytes.length := fun within => by
      have value := RawReturn.decode_of_small (Nat.lt_of_le_of_lt within short)
      rw [decoded] at value
      contradiction
    rw [journal, if_neg large, offer_of_error decoded]
    rfl

end Written

/--
The writes that deliver some bytes, and how the delivery ends. Each write is of what the ones before it have left,
and another one follows only if the answer goes on.
-/
inductive Rounds : Bytes → List Written → Except Fault Unit → Prop
  | finished : Rounds [] [] (.ok ())
  | stopped {bytes : Bytes} {word : UInt64} (some : bytes ≠ []) (stops : ¬ Written.GoesOn ⟨bytes, word⟩) :
      Rounds bytes [⟨bytes, word⟩] (.ok ())
  | overrun {bytes : Bytes} {word : UInt64} (some : bytes ≠ []) (beyond : ¬ Written.Fits ⟨bytes, word⟩) :
      Rounds bytes [⟨bytes, word⟩] (.error .panic)
  | onwards {bytes : Bytes} {word : UInt64} {writes : List Written} {outcome : Except Fault Unit}
      (some : bytes ≠ []) (fits : Written.Fits ⟨bytes, word⟩) (goesOn : Written.GoesOn ⟨bytes, word⟩)
      (later : Rounds (Written.offer ⟨bytes, word⟩).left writes outcome) :
      Rounds bytes (⟨bytes, word⟩ :: writes) outcome

namespace Rounds

variable {bytes : Bytes} {writes : List Written} {outcome : Except Fault Unit}

/-- The writes push the bytes, and nothing is left unless an answer stops them or exceeds what was offered. -/
theorem pushes (rounds : Rounds bytes writes outcome) :
    ∃ left, Pushes bytes (writes.map Written.offer) left ∧
      ((∀ write ∈ writes, write.Fits) → (∀ write ∈ writes, write.GoesOn) → left = []) := by
  induction rounds with
  | finished => exact ⟨[], .nothing [], fun _ _ => rfl⟩
  | stopped some stops => exact ⟨_, .offer some (.nothing _), fun _ going => absurd (going _ (by simp)) stops⟩
  | overrun some beyond => exact ⟨_, .offer some (.nothing _), fun fit _ => absurd (fit _ (by simp)) beyond⟩
  | onwards some fits goesOn later step =>
    obtain ⟨left, pushed, whole⟩ := step
    refine ⟨left, .offer some pushed, fun fit going => ?_⟩
    exact whole (fun write member => fit write (by simp [member])) fun write member => going write (by simp [member])

/-- A write that another one follows goes on. -/
theorem followed (rounds : Rounds bytes writes outcome) : writes.Pairwise fun write _ => write.GoesOn := by
  induction rounds with
  | finished => exact .nil
  | stopped => simp
  | overrun => simp
  | onwards some fits goesOn later step => exact .cons (fun _ _ => goesOn) step

/-- Answers that do not exceed what was offered cause no panic. -/
theorem outcome_eq (rounds : Rounds bytes writes outcome) (fit : ∀ write ∈ writes, write.Fits) :
    outcome = .ok () := by
  induction rounds with
  | finished => rfl
  | stopped => rfl
  | overrun some beyond => exact absurd (fit _ (by simp)) beyond
  | onwards some fits goesOn later step => exact step fun write member => fit write (by simp [member])

end Rounds

/-- A request of the log takes a use from the answers to complaints, if there is one. -/
theorem uses_of_request {bytes : Bytes} {reply : Reply} {loud next : Machine}
    (performed : perform (request bytes) loud = (.ok reply, next)) :
    next.script.uses .complaints = loud.script.uses .complaints - 1 := by
  obtain ⟨-, rfl⟩ := eq_of_perform_eq_ok performed
  rw [Machine.note, Machine.script_serve, ofRequest_request, Script.uses_next_self]

/-- A request of the log is a complaint and nothing else. -/
theorem complains_of_request {bytes : Bytes} {reply : Reply} {loud next : Machine}
    (performed : perform (request bytes) loud = (.ok reply, next)) : loud.OnlyComplains next := by
  obtain ⟨_, _, performed', complains, -⟩ := perform_request bytes loud
  obtain ⟨-, rfl⟩ := Prod.mk.inj (performed.symm.trans performed')
  exact complains

/-- A lawful answer to a request of the log does not exceed what is offered. -/
theorem fits_of_request {bytes : Bytes} {reply : Reply} {loud next : Machine}
    (performed : perform (request bytes) loud = (.ok reply, next)) (lawful : loud.script.Lawful) :
    Written.Fits ⟨bytes, reply.word⟩ := by
  obtain ⟨_, _, performed', -, -, bounded⟩ := perform_request bytes loud
  obtain ⟨⟨⟩, -⟩ := Prod.mk.inj (performed.symm.trans performed')
  intro count answer
  cases decoded : RawReturn.decode reply.word with
  | ok word =>
    have same : word.toNat = count := by simpa [Written.offer_of_ok decoded] using answer
    exact same ▸ bounded lawful word decoded
  | error error => simp [Written.offer_of_error decoded] at answer

/-- Only an answer of the script is an error. Without one, all bytes are accepted. -/
theorem uses_pos_of_error {bytes : Bytes} {reply : Reply} {loud next : Machine} {error : Errno}
    (short : bytes.length < 2 ^ 63) (performed : perform (request bytes) loud = (.ok reply, next))
    (failed : RawReturn.decode reply.word = .error error) : 0 < loud.script.uses .complaints := by
  refine Nat.pos_of_ne_zero fun used => ?_
  obtain ⟨rfl, -⟩ := eq_of_perform_eq_ok performed
  have answered : (loud.serve (request bytes)).1.word = UInt64.ofNat bytes.length := by
    rw [Machine.reply_serve, ofRequest_request, Script.queue_eq_nil used]
    rfl
  have small : (UInt64.ofNat bytes.length).toNat < 2 ^ 63 := by
    rw [UInt64.toNat_ofNat']
    exact Nat.lt_of_le_of_lt (Nat.mod_le _ _) short
  rw [answered, RawReturn.decode_of_small small] at failed
  contradiction

/-- A round is one write, and only an answer that goes on brings another round, of what the write has left. -/
theorem deliverWithin_succ {bytes : Bytes} {reply : Reply} {machine middle : Machine} (patience : Nat)
    (some : bytes ≠ []) (performed : perform (request bytes) machine = (.ok reply, middle)) :
    let write : Written := ⟨bytes, reply.word⟩
    ¬ write.Fits ∧ deliverWithin (patience + 1) bytes machine = (.error .panic, middle) ∨
      ¬ write.GoesOn ∧ deliverWithin (patience + 1) bytes machine = (.ok (), middle) ∨
      write.Fits ∧ write.GoesOn ∧
        deliverWithin (patience + 1) bytes machine = deliverWithin patience write.offer.left middle := by
  intro write
  rw [deliverWithin, if_neg some, Act.bind_of_ok _ (attempt_writeQuietly performed)]
  cases decoded : RawReturn.decode reply.word with
  | ok count =>
    have answer : write.offer = ⟨bytes, .ok count.toNat⟩ := Written.offer_of_ok decoded
    dsimp only
    by_cases refused : count = 0
    · rw [if_pos refused]
      exact .inr (.inl ⟨by simp [Written.GoesOn, answer, refused], rfl⟩)
    · rw [if_neg refused]
      by_cases beyond : bytes.length < count.toNat
      · rw [if_pos beyond]
        exact .inl ⟨by simpa [Written.Fits, Offer.IsWithin, answer] using beyond, rfl⟩
      · have positive : count.toNat ≠ 0 := fun none => refused (UInt64.toNat_inj.mp none)
        have fits : write.Fits := by simpa [Written.Fits, Offer.IsWithin, answer] using beyond
        rw [if_neg beyond]
        exact .inr (.inr ⟨fits, by simp [Written.GoesOn, answer, positive], by simp [Offer.left, answer]⟩)
  | error error =>
    have answer : write.offer = ⟨bytes, .error error⟩ := Written.offer_of_error decoded
    dsimp only
    by_cases interrupted : error = Errno.interrupted
    · have fits : write.Fits := by simp [Written.Fits, Offer.IsWithin, answer]
      rw [if_pos interrupted]
      exact .inr (.inr ⟨fits, by simp [Written.GoesOn, answer, interrupted], by simp [Offer.left, answer]⟩)
    · rw [if_neg interrupted]
      exact .inr (.inl ⟨by simp [Written.GoesOn, answer, interrupted], rfl⟩)

/-- A round that goes on takes a byte from those that are left, or a use from the answers that are left. -/
theorem lt_of_goesOn {bytes : Bytes} {reply : Reply} {machine middle : Machine} (some : bytes ≠ [])
    (short : bytes.length < 2 ^ 63) (performed : perform (request bytes) machine = (.ok reply, middle))
    (goesOn : Written.GoesOn ⟨bytes, reply.word⟩) :
    (Written.offer ⟨bytes, reply.word⟩).left.length + middle.script.uses .complaints <
      bytes.length + machine.script.uses .complaints := by
  have used := uses_of_request performed
  have length := List.length_pos_iff.mpr some
  cases decoded : RawReturn.decode reply.word with
  | ok count =>
    have positive : count.toNat ≠ 0 := by simpa [Written.GoesOn, Written.offer_of_ok decoded] using goesOn
    simp only [Written.offer_of_ok decoded, Offer.left, List.length_drop]
    omega
  | error error =>
    have available := uses_pos_of_error short performed decoded
    simp only [Written.offer_of_error decoded, Offer.left]
    omega

/--
With a round for each byte and for each answer left, a delivery ends for a reason of its own. Lawful answers do not
exceed what is offered.
-/
theorem deliverWithin_rounds {patience : Nat} {bytes : Bytes} {machine : Machine} (short : bytes.length < 2 ^ 63)
    (enough : bytes.length + machine.script.uses .complaints < patience) :
    ∃ writes, (deliverWithin patience bytes machine).2.events = machine.events ++ writes.map Written.event ∧
      Rounds bytes writes (deliverWithin patience bytes machine).1 ∧
      (machine.script.Lawful → ∀ write ∈ writes, write.Fits) := by
  induction patience generalizing bytes machine with
  | zero => contradiction
  | succ patience step =>
    by_cases done : bytes = []
    · subst done
      exact ⟨[], by simp [deliverWithin], .finished, by simp⟩
    · obtain ⟨reply, middle, performed, complains, -⟩ := perform_request bytes machine
      have noted : middle.events = machine.events ++ [Written.event ⟨bytes, reply.word⟩] :=
        events_of_request performed
      have fits (lawful : machine.script.Lawful) : Written.Fits ⟨bytes, reply.word⟩ :=
        fits_of_request performed lawful
      obtain ⟨beyond, ended⟩ | ⟨stops, ended⟩ | ⟨within, goesOn, ended⟩ :=
        deliverWithin_succ patience done performed
      · rw [ended]
        exact ⟨[⟨bytes, reply.word⟩], noted, .overrun done beyond, by simpa using fits⟩
      · rw [ended]
        exact ⟨[⟨bytes, reply.word⟩], noted, .stopped done stops, by simpa using fits⟩
      · have less := lt_of_goesOn done short performed goesOn
        have fewer : (Written.offer ⟨bytes, reply.word⟩).left.length ≤ bytes.length :=
          Written.length_left_le ⟨bytes, reply.word⟩
        have enough' : (Written.offer ⟨bytes, reply.word⟩).left.length + middle.script.uses .complaints < patience := by
          omega
        obtain ⟨writes, joined, rounds, later⟩ := step (Nat.lt_of_le_of_lt fewer short) enough'
        rw [ended]
        refine ⟨⟨bytes, reply.word⟩ :: writes, by simp [joined, noted], .onwards done within goesOn rounds, ?_⟩
        intro lawful
        exact List.forall_mem_cons.mpr ⟨fits lawful, later (complains.lawful lawful)⟩

/-- The patience of a delivery is enough. -/
theorem deliver_rounds {bytes : Bytes} (short : bytes.length < 2 ^ 63) (machine : Machine) :
    ∃ writes, (deliver bytes machine).2.events = machine.events ++ writes.map Written.event ∧
      Rounds bytes writes (deliver bytes machine).1 ∧
      (machine.script.Lawful → ∀ write ∈ writes, write.Fits) :=
  deliverWithin_rounds short (Nat.lt_succ_self _)

end Log

end LinuxCalls
