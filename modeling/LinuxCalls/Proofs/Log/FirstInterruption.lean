/-
This file cuts a delivery of the log off at its first interruption. The cut depends on the line and on the answers
alone, and it has the front of the line accepted.
-/

import Mathlib.Data.List.Infix
import LinuxCalls.Proofs.Log.WholeLine

namespace LinuxCalls

namespace Log

/-- A write that was interrupted. -/
def Written.isInterrupted (write : Written) : Bool :=
  match write.offer.answer with
  | .ok _ => false
  | .error error => error == Errno.interrupted

/-- The first writes of a delivery, up to and including the first one that was interrupted. -/
def upToInterruption : List Written → List Written
  | [] => []
  | write :: writes => if write.isInterrupted then [write] else write :: upToInterruption writes

/-- An interrupted write ends what is up to an interruption. -/
theorem upToInterruption_of_interrupted {write : Written} (interrupted : write.isInterrupted = true)
    (writes : List Written) : upToInterruption (write :: writes) = [write] := if_pos interrupted

/-- Any other write goes on to the next one. -/
theorem upToInterruption_of_heard {write : Written} (heard : write.isInterrupted = false) (writes : List Written) :
    upToInterruption (write :: writes) = write :: upToInterruption writes :=
  if_neg (Bool.eq_false_iff.mp heard)

/-- A single write is up to the first interruption, whatever its answer. -/
@[simp] theorem upToInterruption_singleton (write : Written) : upToInterruption [write] = [write] := by
  simp [upToInterruption]

/-- What is up to an interruption comes first. -/
theorem upToInterruption_prefix (writes : List Written) : upToInterruption writes <+: writes := by
  induction writes with
  | nil => exact List.prefix_refl _
  | cons write writes step =>
    cases interrupted : write.isInterrupted with
    | true =>
      rw [upToInterruption_of_interrupted interrupted]
      exact ⟨writes, rfl⟩
    | false =>
      rw [upToInterruption_of_heard interrupted]
      exact (List.prefix_cons_inj write).mpr step

/-- Without an interruption there is no other write. -/
theorem upToInterruption_eq_self {writes : List Written}
    (heard : ∀ write ∈ upToInterruption writes, write.isInterrupted = false) : upToInterruption writes = writes := by
  induction writes with
  | nil => rfl
  | cons write writes step =>
    cases interrupted : write.isInterrupted with
    | true =>
      rw [upToInterruption_of_interrupted interrupted] at heard
      rw [heard write List.mem_cons_self] at interrupted
      contradiction
    | false =>
      rw [upToInterruption_of_heard interrupted] at heard ⊢
      rw [step fun write member => heard write (List.mem_cons_of_mem _ member)]

namespace Written

/-- An interrupted write fits, goes on and leaves all bytes. -/
theorem of_interrupted {write : Written} (interrupted : write.isInterrupted = true) :
    write.Fits ∧ write.GoesOn ∧ write.offer.left = write.offered := by
  unfold isInterrupted at interrupted
  cases answer : write.offer.answer with
  | ok count => simp [answer] at interrupted
  | error error =>
    rw [answer] at interrupted
    refine ⟨fun count same => ?_, ?_, ?_⟩
    · rw [answer] at same
      cases same
    · unfold GoesOn
      rw [answer]
      exact beq_iff_eq.mp interrupted
    · unfold Offer.left
      rw [answer]
      rfl

/-- An answer that stops a delivery counts no bytes at all. -/
theorem fits_of_stops {write : Written} (stops : ¬ write.GoesOn) : write.Fits := by
  intro count answer
  unfold GoesOn at stops
  rw [answer] at stops
  rw [not_ne_iff.mp stops]
  exact Nat.zero_le _

/-- What is accepted of a write comes first in what is offered, also beyond what was offered. -/
theorem accepted_prefix (write : Written) : write.accepted <+: write.offered := by
  have journal : write.accepted =
      if write.word.toNat ≤ write.offered.length then write.offered.take write.word.toNat else [] := by
    simp [accepted, event, request, CallKind.padded, Event.accepted]
  rw [journal]
  split
  · exact List.take_prefix _ _
  · exact List.nil_prefix

/-- What is accepted of a write and what it leaves is what it offers. -/
theorem accepted_append_left {bytes : Bytes} {word : UInt64} (short : bytes.length < 2 ^ 63)
    (fits : Fits ⟨bytes, word⟩) : accepted ⟨bytes, word⟩ ++ (offer ⟨bytes, word⟩).left = bytes := by
  rw [accepted_eq short fits]
  exact Offer.accepted_append_left _

/-- A write that stops or is interrupted has nothing accepted. -/
theorem accepted_eq_nil {bytes : Bytes} {word : UInt64} (short : bytes.length < 2 ^ 63)
    (unheard : ¬ (GoesOn ⟨bytes, word⟩ ∧ isInterrupted ⟨bytes, word⟩ = false)) (fits : Fits ⟨bytes, word⟩) :
    accepted ⟨bytes, word⟩ = [] := by
  rw [accepted_eq short fits]
  unfold GoesOn isInterrupted at unheard
  unfold Offer.accepted
  cases answer : (offer ⟨bytes, word⟩).answer with
  | ok count =>
    rw [answer] at unheard
    have none : count = 0 := by simpa using unheard
    rw [none]
    rfl
  | error error => rfl

/-- A write that goes on without an interruption has accepted some bytes. -/
theorem length_left_lt {write : Written} (some : write.offered ≠ []) (goesOn : write.GoesOn)
    (heard : write.isInterrupted = false) : write.offer.left.length < write.offered.length := by
  have length := List.length_pos_iff.mpr some
  unfold GoesOn at goesOn
  unfold isInterrupted at heard
  unfold Offer.left
  cases answer : write.offer.answer with
  | ok count =>
    rw [answer] at goesOn
    dsimp only
    rw [List.length_drop]
    change write.offered.length - count < write.offered.length
    have positive : 0 < count := Nat.pos_of_ne_zero goesOn
    omega
  | error error =>
    rw [answer] at goesOn heard
    exact absurd goesOn (by simpa using heard)

end Written

/-- Two lists of writes have the same answers as far as both of them go. -/
def SameAnswers (writes others : List Written) : Prop :=
  writes.map Written.word <+: others.map Written.word ∨ others.map Written.word <+: writes.map Written.word

/-- Lists of writes with the same answers begin with the same one. -/
theorem SameAnswers.word_eq {bytes : Bytes} {word word' : UInt64} {writes others : List Written}
    (same : SameAnswers (⟨bytes, word⟩ :: writes) (⟨bytes, word'⟩ :: others)) :
    word' = word ∧ SameAnswers writes others := by
  rcases same with before | after
  · rw [List.map_cons, List.map_cons, List.cons_prefix_cons] at before
    exact ⟨before.1.symm, .inl before.2⟩
  · rw [List.map_cons, List.map_cons, List.cons_prefix_cons] at after
    exact ⟨after.1, .inr after.2⟩

/-- A delivery of some bytes begins with a write of them, and it goes on only if the answer fits and goes on. -/
theorem Rounds.uncons {bytes : Bytes} {writes : List Written} {outcome : Except Fault Unit}
    (rounds : Rounds bytes writes outcome) (some : bytes ≠ []) : ∃ word rest, writes = ⟨bytes, word⟩ :: rest ∧
      ((Written.Fits ⟨bytes, word⟩ ∧ Written.GoesOn ⟨bytes, word⟩) ∧
          Rounds (Written.offer ⟨bytes, word⟩).left rest outcome ∨
        ¬ (Written.Fits ⟨bytes, word⟩ ∧ Written.GoesOn ⟨bytes, word⟩) ∧ rest = []) := by
  cases rounds with
  | finished => exact absurd rfl some
  | stopped _ stops => exact ⟨_, [], rfl, .inr ⟨fun both => stops both.2, rfl⟩⟩
  | overrun _ beyond => exact ⟨_, [], rfl, .inr ⟨fun both => beyond both.1, rfl⟩⟩
  | onwards _ fits goesOn later => exact ⟨_, _, rfl, .inl ⟨⟨fits, goesOn⟩, later⟩⟩

/--
Two deliveries of the same bytes with the same answers make the same writes up to the first interruption, as far as
the answers are known of one of them.
-/
theorem Rounds.upToInterruption_eq {bytes : Bytes} {writes others : List Written}
    {outcome outcome' : Except Fault Unit} (rounds : Rounds bytes writes outcome)
    (rounds' : Rounds bytes others outcome') (same : SameAnswers (upToInterruption writes) others) :
    upToInterruption others = upToInterruption writes := by
  -- A delivery that ends after its first write is followed by nothing in the other one either.
  have ending {bytes : Bytes} {word : UInt64} {others : List Written} {outcome' : Except Fault Unit}
      (some : bytes ≠ []) (ends : ¬ (Written.Fits ⟨bytes, word⟩ ∧ Written.GoesOn ⟨bytes, word⟩))
      (rounds' : Rounds bytes others outcome') (same : SameAnswers [⟨bytes, word⟩] others) :
      upToInterruption others = [⟨bytes, word⟩] := by
    obtain ⟨word', rest, rfl, how⟩ := rounds'.uncons some
    obtain ⟨rfl, -⟩ := same.word_eq
    rcases how with ⟨both, -⟩ | ⟨-, rfl⟩
    · exact absurd both ends
    · exact upToInterruption_singleton _
  induction rounds generalizing others with
  | finished =>
    cases rounds' with
    | finished => rfl
    | stopped some => exact absurd rfl some
    | overrun some => exact absurd rfl some
    | onwards some => exact absurd rfl some
  | stopped some stops =>
    rw [upToInterruption_singleton] at same ⊢
    exact ending some (fun both => stops both.2) rounds' same
  | overrun some beyond =>
    rw [upToInterruption_singleton] at same ⊢
    exact ending some (fun both => beyond both.1) rounds' same
  | @onwards bytes word writes outcome some fits goesOn later step =>
    obtain ⟨word', rest, rfl, how⟩ := rounds'.uncons some
    cases interrupted : Written.isInterrupted ⟨bytes, word⟩ with
    | true =>
      rw [upToInterruption_of_interrupted interrupted] at same ⊢
      obtain ⟨rfl, -⟩ := same.word_eq
      exact upToInterruption_of_interrupted interrupted rest
    | false =>
      rw [upToInterruption_of_heard interrupted] at same ⊢
      obtain ⟨rfl, answers⟩ := same.word_eq
      rcases how with ⟨-, later'⟩ | ⟨ends, -⟩
      · rw [upToInterruption_of_heard interrupted, step later' answers]
      · exact absurd ⟨fits, goesOn⟩ ends

/-- Whatever the answers are, descriptor 2 has accepted the front of a line. -/
theorem Rounds.accepted_prefix {bytes : Bytes} {writes : List Written} {outcome : Except Fault Unit}
    (rounds : Rounds bytes writes outcome) (short : bytes.length < 2 ^ 63) :
    writes.flatMap Written.accepted <+: bytes := by
  induction rounds with
  | finished => exact List.nil_prefix
  | stopped | overrun =>
    rw [List.flatMap_singleton]
    exact Written.accepted_prefix _
  | @onwards bytes word writes outcome some fits goesOn later step =>
    have front := (List.prefix_append_right_inj (Written.accepted ⟨bytes, word⟩)).mpr
      (step (Nat.lt_of_le_of_lt (Written.length_left_le ⟨bytes, word⟩) short))
    rw [Written.accepted_append_left short fits] at front
    exact front

/--
The whole line is accepted up to the first interruption exactly if no write up to there is interrupted or stops the
delivery. An interruption always has bytes left.
-/
theorem Rounds.accepted_eq_iff {bytes : Bytes} {writes : List Written} {outcome : Except Fault Unit}
    (rounds : Rounds bytes writes outcome) (short : bytes.length < 2 ^ 63)
    (fits : ∀ write ∈ upToInterruption writes, write.Fits) :
    (upToInterruption writes).flatMap Written.accepted = bytes ↔
      ∀ write ∈ upToInterruption writes, write.GoesOn ∧ write.isInterrupted = false := by
  -- A line that ends with a write that is not heard is not accepted as a whole.
  have ending {bytes : Bytes} {word : UInt64} (some : bytes ≠ []) (short : bytes.length < 2 ^ 63)
      (fits : Written.Fits ⟨bytes, word⟩)
      (unheard : ¬ (Written.GoesOn ⟨bytes, word⟩ ∧ Written.isInterrupted ⟨bytes, word⟩ = false)) :
      [⟨bytes, word⟩].flatMap Written.accepted = bytes ↔
        ∀ write ∈ [(⟨bytes, word⟩ : Written)], write.GoesOn ∧ write.isInterrupted = false := by
    rw [List.flatMap_singleton, Written.accepted_eq_nil short unheard fits]
    exact ⟨fun none => absurd none.symm some, fun heard => absurd (heard _ List.mem_cons_self) unheard⟩
  induction rounds with
  | finished => simp [upToInterruption]
  | stopped some stops =>
    rw [upToInterruption_singleton] at fits ⊢
    exact ending some short (fits _ List.mem_cons_self) fun heard => stops heard.1
  | overrun some beyond =>
    rw [upToInterruption_singleton] at fits
    exact absurd (fits _ List.mem_cons_self) beyond
  | @onwards bytes word writes outcome some within goesOn later step =>
    cases interrupted : Written.isInterrupted ⟨bytes, word⟩ with
    | true =>
      rw [upToInterruption_of_interrupted interrupted]
      exact ending some short within fun heard => by
        rw [heard.2] at interrupted
        contradiction
    | false =>
      rw [upToInterruption_of_heard interrupted] at fits ⊢
      have rest := step (Nat.lt_of_le_of_lt (Written.length_left_le ⟨bytes, word⟩) short)
        fun write member => fits write (List.mem_cons_of_mem _ member)
      rw [List.flatMap_cons, List.forall_mem_cons]
      constructor
      · intro whole
        have left := whole.trans (Written.accepted_append_left short within).symm
        exact ⟨⟨goesOn, interrupted⟩, rest.mp (List.append_cancel_left left)⟩
      · rintro ⟨-, heard⟩
        rw [rest.mpr heard, Written.accepted_append_left short within]

end Log

end LinuxCalls
