/-
This file shows that a formatted write is a write of its fragments one by one, which ends at the first
fragment that fails. The error of that fragment is the one reported, although the formatted value itself
cannot pass it on.
-/

import LinuxCalls.Proofs.Stream.WriterBalance

namespace LinuxCalls.Writer

variable {δ : Type} [Sink δ]

/-- A value that hands over fragments writes them in turn, whatever errors were seen before. -/
theorem writeFormat_go_ofPieces (fragments : List Bytes) (seen : Option Errno) :
    (writeFormat.go (.ofPieces fragments) seen : Act (Writer δ × Machine) Unit) = forM fragments writeAll := by
  induction fragments with
  | nil => rfl
  | cons fragment fragments step =>
    funext before
    rw [Format.ofPieces, writeFormat.go, List.forM_cons]
    rcases wrote : (writeAll fragment : Act (Writer δ × Machine) Unit) before with ⟨reason | done, middle⟩
    · rw [Act.bind_of_fault _ wrote]
      cases reason with
      | errno error =>
        rw [Act.bind_of_ok _ ((Act.attempt_eq_error _ _ _ _).mpr wrote)]
        rfl
      | panic => simp only [Act.bind_apply, Act.attempt, wrote]
      | exit status => simp only [Act.bind_apply, Act.attempt, wrote]
    · rw [Act.bind_of_ok _ ((Act.attempt_eq_ok _ _ _ _).mpr wrote), Act.bind_of_ok _ wrote, ← step]
      rfl

/-- A formatted write of fragments is a write of each of them in turn, over every sink. -/
theorem writeFormat_ofPieces (fragments : List Bytes) :
    (writeFormat (.ofPieces fragments) : Act (Writer δ × Machine) Unit) = forM fragments writeAll :=
  writeFormat_go_ofPieces fragments none

/--
Fragments are written one by one, up to and including the first one whose write fails. The result is that of
the last write, and nothing happens after it.
-/
inductive WritesUpTo : Writer δ × Machine → List Bytes → Except Errno Unit → Writer δ × Machine → Prop
  | done (state : Writer δ × Machine) : WritesUpTo state [] (.ok ()) state
  | more {fragment : Bytes} {fragments : List Bytes} {result : Except Errno Unit}
      {before middle after : Writer δ × Machine}
      (written : (writeAll fragment).attempt before = (.ok (.ok ()), middle))
      (later : WritesUpTo middle fragments result after) :
      WritesUpTo before (fragment :: fragments) result after
  | failed {fragment : Bytes} {error : Errno} {before after : Writer δ × Machine}
      (refused : (writeAll fragment).attempt before = (.ok (.error error), after)) (untouched : List Bytes) :
      WritesUpTo before (fragment :: untouched) (.error error) after

/-- Writing fragments in turn ends where writing them one by one does. -/
theorem WritesUpTo.attempt_forM {fragments : List Bytes} {result : Except Errno Unit}
    {before after : Writer δ × Machine} (writes : WritesUpTo before fragments result after) :
    (forM fragments writeAll : Act (Writer δ × Machine) Unit).attempt before = (.ok result, after) := by
  induction writes with
  | done => rfl
  | more written _ step =>
    rw [← step]
    apply Act.attempt_congr
    rw [List.forM_cons, Act.bind_of_ok _ ((Act.attempt_eq_ok _ _ _ _).mp written)]
  | failed refused =>
    rw [Act.attempt_eq_error] at refused ⊢
    rw [List.forM_cons, Act.bind_of_fault _ refused]

section Account

variable {accepted : δ × Machine → Bytes → Prop}

/-- A write that succeeds puts its bytes at the end of the stream. -/
theorem exists_account_of_writeAll (account : Sink.Accounts δ accepted) {bytes before : Bytes}
    {state after : Writer δ × Machine} (kept : accepted (state.1.device, state.2) before)
    (written : (writeAll bytes).attempt state = (.ok (.ok ()), after)) :
    ∃ sent, accepted (after.1.device, after.2) sent ∧
      sent ++ after.1.buffer = before ++ state.1.buffer ++ bytes := by
  obtain ⟨result, next, part, wrote, -, adds⟩ := writeAll_account account bytes kept
  obtain ⟨⟨⟩, rfl⟩ := Prod.mk.inj (written.symm.trans wrote)
  cases adds with
  | all kept whole => exact ⟨_, kept, whole⟩

/-- With a sink's account, fragments are written one by one, and all of them are in the stream if none fails. -/
theorem exists_writesUpTo (account : Sink.Accounts δ accepted) (fragments : List Bytes)
    {state : Writer δ × Machine} {before : Bytes} (kept : accepted (state.1.device, state.2) before) :
    ∃ result after, WritesUpTo state fragments result after ∧
      (result = .ok () → ∃ sent, accepted (after.1.device, after.2) sent ∧
        sent ++ after.1.buffer = before ++ state.1.buffer ++ fragments.flatten) := by
  induction fragments generalizing state before with
  | nil => exact ⟨.ok (), state, .done state, fun _ => ⟨before, kept, by simp⟩⟩
  | cons fragment fragments step =>
    obtain ⟨result, middle, part, wrote, -, -⟩ := writeAll_account account fragment kept
    cases result with
    | error error => exact ⟨.error error, middle, .failed wrote fragments, nofun⟩
    | ok done =>
      obtain ⟨sent, kept, whole⟩ := exists_account_of_writeAll account kept wrote
      obtain ⟨result, after, writes, added⟩ := step kept
      refine ⟨result, after, .more wrote writes, fun fine => ?_⟩
      rw [List.flatten_cons, ← List.append_assoc, ← whole]
      exact added fine

end Account

/-- On a recorded writer, a write that succeeds puts its bytes at the end of the stream. -/
theorem stream_of_writeAll {good : δ × Machine → Prop} (bounded : Sink.Bounded δ good) {bytes : Bytes}
    {before after : Writer (Recorded δ Offer) × Machine} (ready : good (before.1.device.device, before.2))
    (written : (writeAll bytes).attempt before = (.ok (.ok ()), after)) :
    after.1.stream = before.1.stream ++ bytes := by
  have kept : Recorded.Accepted good (before.1.device, before.2) before.1.device.accepted := ⟨rfl, ready⟩
  obtain ⟨_, ⟨rfl, -⟩, whole⟩ :=
    exists_account_of_writeAll (Recorded.accounts_accepted bounded) kept written
  exact whole

/--
A formatted write from any state of a writer ends as the writes of its fragments one by one do: with the same
result, the same calls on the sink, and the same bytes in the buffer. An error is the one of the fragment that
failed, and no later fragment is tried. If all fragments are written, the stream is the one that a write of
them in one piece makes. The writer over the bare sink does the same.
-/
theorem writeFormat_keeps_error {good : δ × Machine → Prop} (bounded : Sink.Bounded δ good)
    (fragments : List Bytes) {before : Writer (Recorded δ Offer) × Machine}
    (ready : good (before.1.device.device, before.2)) :
    ∃ result after, WritesUpTo before fragments result after ∧
      (writeFormat (.ofPieces fragments)).attempt before = (.ok result, after) ∧
      (writeFormat (.ofPieces fragments)).attempt (Prod.map (onto Recorded.device) id before) =
        (.ok result, Prod.map (onto Recorded.device) id after) ∧
      (result = .ok () → after.1.stream = before.1.stream ++ fragments.flatten ∧
        ∀ other whole : Writer (Recorded δ Offer) × Machine, good (other.1.device.device, other.2) →
          other.1.stream = before.1.stream →
          (writeAll fragments.flatten).attempt other = (.ok (.ok ()), whole) →
          whole.1.stream = after.1.stream) := by
  have kept : Recorded.Accepted good (before.1.device, before.2) before.1.device.accepted := ⟨rfl, ready⟩
  obtain ⟨result, after, writes, added⟩ :=
    exists_writesUpTo (Recorded.accounts_accepted bounded) fragments kept
  have printed : (writeFormat (.ofPieces fragments)).attempt before = (.ok result, after) := by
    rw [writeFormat_ofPieces]
    exact writes.attempt_forM
  refine ⟨result, after, writes, printed, ?_, fun fine => ?_⟩
  · have same := (standsFor_writeFormat_go Recorded.standsFor_write (.ofPieces fragments) none).attempt before
    exact same.trans (congrArg (fun ended => (ended.1, Prod.map (onto Recorded.device) id ended.2)) printed)
  · obtain ⟨_, ⟨rfl, -⟩, whole⟩ := added fine
    have stream : after.1.stream = before.1.stream ++ fragments.flatten := whole
    refine ⟨stream, fun other last ready' same written => ?_⟩
    rw [stream_of_writeAll bounded ready' written, same, stream]

/-- The third fragment does not find room for all of its bytes in a cursor of three bytes. -/
theorem writeFormat_keeps_error_full_cursor :
    let cursor := Cursor.start ⟨4096, 3, Protection.read.union Protection.write, .copied⟩
    let before : Writer (Recorded Cursor Offer) × Machine :=
      (withCapacity 2 (Recorded.start cursor), Machine.start ⟨[]⟩ .off)
    let fragments : List Bytes := [[1], [], [2, 3, 4], [5]]
    ∃ result after, WritesUpTo before fragments result after ∧
      (writeFormat (.ofPieces fragments)).attempt before = (.ok result, after) ∧
      (writeFormat (.ofPieces fragments)).attempt (Prod.map (onto Recorded.device) id before) =
        (.ok result, Prod.map (onto Recorded.device) id after) ∧
      (result = .ok () → after.1.stream = before.1.stream ++ fragments.flatten ∧
        ∀ other whole : Writer (Recorded Cursor Offer) × Machine, True →
          other.1.stream = before.1.stream →
          (writeAll fragments.flatten).attempt other = (.ok (.ok ()), whole) →
          whole.1.stream = after.1.stream) :=
  writeFormat_keeps_error Cursor.bounded_write [[1], [], [2, 3, 4], [5]] trivial

end LinuxCalls.Writer
