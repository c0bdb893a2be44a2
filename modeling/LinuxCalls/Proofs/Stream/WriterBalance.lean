/-
This file shows that a writer loses, repeats and reorders no byte. Over every run of calls, failed
ones included, what the sink has accepted followed by what is buffered is what the calls have added.
-/

import LinuxCalls.Proofs.Stream.CursorDevice
import LinuxCalls.Proofs.Stream.Recorded
import LinuxCalls.Proofs.Stream.Writing

namespace LinuxCalls

namespace Format

/-- A value that hands nothing over after a piece that is not taken. -/
def Stops : Format → Prop
  | .done => True
  | .refuse => True
  | .piece _ next => (∀ text more, next false ≠ .piece text more) ∧ (next true).Stops

end Format

namespace Writer

variable {δ ζ : Type}

/-- A call on a writer. -/
inductive Call
  | writeAll (bytes : Bytes)
  | writeFormat (format : Format)
  | flush

/-- This action makes a call. -/
def Call.run [Sink δ] : Call → Act (Writer δ × Machine) Unit
  | .writeAll bytes => Writer.writeAll bytes
  | .writeFormat format => Writer.writeFormat format
  | .flush => Writer.flush

/-- A piece that a formatted value has handed over, how its write ended and what that has added. -/
structure Printed where
  text : Bytes
  result : Except Errno Unit
  part : Bytes

section Account

variable [Sink δ] (accepted : δ × Machine → Bytes → Prop)

/--
A formatted value writes its pieces one after the other, and each piece adds to the stream what a
write of it adds.
-/
inductive Prints : Format → Bytes → Writer δ × Machine → List Printed → Writer δ × Machine → Prop
  | done (stream : Bytes) (state : Writer δ × Machine) : Prints .done stream state [] state
  | refuse (stream : Bytes) (state : Writer δ × Machine) : Prints .refuse stream state [] state
  | piece {text stream part : Bytes} {next : Bool → Format} {result : Except Errno Unit}
      {rest : List Printed} {before middle after : Writer δ × Machine}
      (made : (Writer.writeAll text).attempt before = (.ok result, middle))
      (adds : Adds accepted text stream before result middle part)
      (later : Prints (next result.isOk) (stream ++ part) middle rest after) :
      Prints (.piece text next) stream before (⟨text, result, part⟩ :: rest) after

/-- What a call adds to the stream. A value that stops has no failed piece before its last one. -/
inductive Contributes (stream : Bytes) (before : Writer δ × Machine) :
    Call → Except Errno Unit → Writer δ × Machine → Bytes → Prop
  | writeAll {bytes part : Bytes} {result : Except Errno Unit} {after : Writer δ × Machine}
      (adds : Adds accepted bytes stream before result after part) :
      Contributes stream before (.writeAll bytes) result after part
  | writeFormat {format : Format} {result : Except Errno Unit} {printed : List Printed}
      {after : Writer δ × Machine} (prints : Prints accepted format stream before printed after)
      (stops : format.Stops → ∀ piece ∈ printed.dropLast, piece.result = .ok ()) :
      Contributes stream before (.writeFormat format) result after (printed.flatMap Printed.part)
  | flush {result : Except Errno Unit} {after : Writer δ × Machine}
      (empty : result = .ok () → after.1.buffer = []) :
      Contributes stream before .flush result after []

variable {accepted}

/-- A value that has stopped hands nothing over. -/
theorem Prints.eq_nil {format : Format} {stream : Bytes} {before after : Writer δ × Machine}
    {printed : List Printed} (prints : Prints accepted format stream before printed after)
    (stopped : ∀ text more, format ≠ .piece text more) : printed = [] := by
  cases prints with
  | done => rfl
  | refuse => rfl
  | piece => exact absurd rfl (stopped _ _)

/-- Only the last piece of a value that stops can fail. -/
theorem Prints.ok_of_mem_dropLast {format : Format} {stream : Bytes}
    {before after : Writer δ × Machine} {printed : List Printed}
    (prints : Prints accepted format stream before printed after) (stops : format.Stops) :
    ∀ piece ∈ printed.dropLast, piece.result = .ok () := by
  induction prints with
  | done => simp
  | refuse => simp
  | @piece text stream part next result rest before middle after made adds later step =>
    cases result with
    | error error =>
      have nothing := later.eq_nil stops.1
      subst nothing
      simp
    | ok _ =>
      have tail := step stops.2
      cases rest with
      | nil => simp
      | cons following rest =>
        intro piece member
        rcases List.mem_cons.mp member with rfl | member
        · rfl
        · exact tail piece member

/-- What a write adds comes after the stream so far. -/
theorem Adds.exists_account {bytes stream part : Bytes} {result : Except Errno Unit}
    {state next : Writer δ × Machine} (adds : Adds accepted bytes stream state result next part) :
    ∃ sent, accepted (next.1.device, next.2) sent ∧ sent ++ next.1.buffer = stream ++ part := by
  cases adds with
  | @all _ sent kept whole => exact ⟨sent, kept, whole⟩
  | @nothing _ _ sent _ kept whole => exact ⟨sent, kept, by rw [whole, List.append_nil]⟩
  | part short kept empty => exact ⟨_, kept, by rw [empty, List.append_nil]⟩

/-- A formatted write prints the value, whatever errors it has seen before. -/
theorem writeFormat_go_account (account : Sink.Accounts δ accepted) (format : Format)
    (seen : Option Errno) {state : Writer δ × Machine} {before : Bytes}
    (kept : accepted (state.1.device, state.2) before) :
    ∃ result next printed sent, (writeFormat.go format seen).attempt state = (.ok result, next) ∧
      Prints accepted format (before ++ state.1.buffer) state printed next ∧
      accepted (next.1.device, next.2) sent ∧
      sent ++ next.1.buffer = before ++ state.1.buffer ++ printed.flatMap Printed.part := by
  induction format generalizing seen state before with
  | done => exact ⟨.ok (), state, [], before, rfl, .done _ _, kept, by simp⟩
  | refuse => exact ⟨.error _, state, [], before, rfl, .refuse _ _, kept, by simp⟩
  | piece text next step =>
    obtain ⟨result, middle, part, wrote, -, adds⟩ := writeAll_account account text kept
    obtain ⟨sent, kept, whole⟩ := adds.exists_account
    obtain ⟨ending, after, rest, last, printed, prints, kept, whole'⟩ :=
      step result.isOk (match result with
        | .ok _ => seen
        | .error error => some error) kept
    rw [whole] at prints whole'
    refine ⟨ending, after, ⟨text, result, part⟩ :: rest, last, ?_, .piece wrote adds prints, kept,
      by simpa using whole'⟩
    rw [← printed]
    apply Act.attempt_congr
    rw [writeFormat.go, Act.bind_of_ok _ wrote]
    cases result <;> rfl

/-- Every call keeps the account and the buffer together one stream. -/
theorem Call.run_account (account : Sink.Accounts δ accepted) (call : Call)
    {state : Writer δ × Machine} {before : Bytes}
    (kept : accepted (state.1.device, state.2) before) :
    ∃ result next part sent, (call.run : Act (Writer δ × Machine) Unit).attempt state = (.ok result, next) ∧
      Contributes accepted (before ++ state.1.buffer) state call result next part ∧
      accepted (next.1.device, next.2) sent ∧
      sent ++ next.1.buffer = before ++ state.1.buffer ++ part := by
  cases call with
  | writeAll bytes =>
    obtain ⟨result, next, part, wrote, -, adds⟩ := writeAll_account account bytes kept
    obtain ⟨sent, kept, whole⟩ := adds.exists_account
    exact ⟨result, next, part, sent, wrote, .writeAll adds, kept, whole⟩
  | writeFormat format =>
    obtain ⟨result, next, printed, sent, wrote, prints, kept, whole⟩ :=
      writeFormat_go_account account format none kept
    exact ⟨result, next, _, sent, wrote, .writeFormat prints prints.ok_of_mem_dropLast, kept, whole⟩
  | flush =>
    obtain ⟨result, next, count, flushed, inside, whole, left, -, sent⟩ := flush_account account kept
    refine ⟨result, next, [], _, flushed, .flush fun fine => ?_, sent, by rw [left]; simp⟩
    rw [left, whole.mp fine, List.drop_length]

end Account

/-- A writer over another device. -/
def onto (change : δ → ζ) (writer : Writer δ) : Writer ζ :=
  ⟨change writer.device, writer.buffer, writer.capacity⟩

section StandsFor

open Act (StandsFor)

variable {change : δ → ζ}

/-- Looking at the writer itself stands for looking at the other one. -/
theorem standsFor_self_bind {α : Type} {next : Writer δ → Act (Writer δ × Machine) α}
    {other : Writer ζ → Act (Writer ζ × Machine) α}
    (same : ∀ writer, StandsFor (Prod.map (onto change) id) (next writer) (other (writer.onto change))) :
    StandsFor (Prod.map (onto change) id) (self >>= next) (self >>= other) := fun state =>
  same state.1 state

/-- Running on a device stands for running on the other one. -/
theorem standsFor_onDevice {α : Type} {first : Act (δ × Machine) α} {second : Act (ζ × Machine) α}
    (same : StandsFor (Prod.map change id) first second) :
    StandsFor (Prod.map (onto change) id) (onDevice first) (onDevice second) :=
  .focus same (fun _ => rfl) (fun _ _ => rfl)

/-- Replacing the buffered bytes stands for replacing them. -/
theorem standsFor_setBuffer (bytes : Bytes) :
    StandsFor (Prod.map (onto change) id) (setBuffer bytes) (setBuffer bytes) := fun _ => rfl

variable [Sink δ] [Sink ζ]
  (same : ∀ offered, StandsFor (Prod.map change id) (Sink.write offered : Act (δ × Machine) Nat)
    (Sink.write offered : Act (ζ × Machine) Nat))

include same

/-- A drain stands for a drain. -/
theorem standsFor_drainFrom (bytes : Bytes) (written : Nat) :
    StandsFor (Prod.map change id) (drainFrom bytes written : Act (δ × Machine) _)
      (drainFrom bytes written : Act (ζ × Machine) _) := by
  induction left : bytes.length - written using Nat.strongRecOn generalizing written with
  | ind size step =>
    subst left
    unfold drainFrom
    split
    · exact .pure _
    · split
      · exact .fault _
      · refine .bind (.attempt (same _)) fun answer => ?_
        cases answer with
        | error error => exact .pure _
        | ok count =>
          dsimp only
          split
          · exact .pure _
          · exact step _ (by omega) _ rfl

/-- A write past the buffer stands for one. -/
theorem standsFor_writeThrough (bytes : Bytes) :
    StandsFor (Prod.map change id) (writeThrough bytes : Act (δ × Machine) Unit)
      (writeThrough bytes : Act (ζ × Machine) Unit) := by
  induction size : bytes.length using Nat.strongRecOn generalizing bytes with
  | ind size step =>
    subst size
    unfold writeThrough
    split
    · exact .pure _
    · rename_i nonempty
      have positive := List.length_pos_iff.mpr nonempty
      refine .bind (same _) fun count => ?_
      split
      · exact .fault _
      · split
        · exact .fault _
        · exact step _ (by rw [List.length_drop]; omega) _ rfl

/-- A flush stands for a flush. -/
theorem standsFor_flush :
    StandsFor (Prod.map (onto change) id) (flush : Act (Writer δ × Machine) Unit)
      (flush : Act (Writer ζ × Machine) Unit) :=
  standsFor_self_bind fun writer =>
    .bind (standsFor_onDevice (standsFor_drainFrom same writer.buffer 0)) fun _ =>
      .bind (standsFor_setBuffer _) fun _ => .ofExcept _

/-- A write stands for a write. -/
theorem standsFor_writeAll (bytes : Bytes) :
    StandsFor (Prod.map (onto change) id) (writeAll bytes : Act (Writer δ × Machine) Unit)
      (writeAll bytes : Act (Writer ζ × Machine) Unit) := by
  have placed (capacity : Nat) : StandsFor (Prod.map (onto change) id)
      (place capacity bytes : Act (Writer δ × Machine) Unit)
      (place capacity bytes : Act (Writer ζ × Machine) Unit) := by
    unfold place
    split
    · exact standsFor_onDevice (standsFor_writeThrough same bytes)
    · exact standsFor_self_bind fun writer => standsFor_setBuffer _
  intro state
  rw [writeAll_apply, writeAll_apply]
  change (if state.1.capacity < state.1.buffer.length + bytes.length then _ else _) = _
  split
  · exact StandsFor.bind (standsFor_flush same) (fun _ => placed _) state
  · exact placed _ state

/-- A formatted write stands for one. -/
theorem standsFor_writeFormat_go (format : Format) (seen : Option Errno) :
    StandsFor (Prod.map (onto change) id) (writeFormat.go format seen : Act (Writer δ × Machine) Unit)
      (writeFormat.go format seen : Act (Writer ζ × Machine) Unit) := by
  induction format generalizing seen with
  | done => exact .pure _
  | refuse => exact .fault _
  | piece text next step =>
    refine .bind (.attempt (standsFor_writeAll same text)) fun result => ?_
    cases result with
    | ok _ => exact step true seen
    | error error => exact step false (some error)

/-- Every call stands for the same call. -/
theorem standsFor_run (call : Call) :
    StandsFor (Prod.map (onto change) id) (call.run : Act (Writer δ × Machine) Unit)
      (call.run : Act (Writer ζ × Machine) Unit) := by
  cases call with
  | writeAll bytes => exact standsFor_writeAll same bytes
  | writeFormat format => exact standsFor_writeFormat_go same format none
  | flush => exact standsFor_flush same

end StandsFor

/-- The bytes that a recorded sink has accepted, followed by those that are buffered. -/
def stream (writer : Writer (Recorded δ Offer)) : Bytes := writer.device.accepted ++ writer.buffer

/-- A call adds its part to the stream, which then is what all calls so far have added. -/
def Balanced [Sink δ] (good : δ × Machine → Prop) (past : List Bytes) (call : Call)
    (result : Except Errno Unit) (before after : Writer (Recorded δ Offer) × Machine)
    (part : Bytes) : Prop :=
  Contributes (Recorded.Accepted good) before.1.stream before call result after part ∧
    after.1.stream = (past ++ [part]).flatten

/--
Every run of calls on a new writer keeps all bytes in order: after each call, what the sink has
accepted and what is buffered are together what the calls so far have added, whatever the sink
answers within its bounds. The writer over the bare sink gives the same results and ends with the
same buffer.
-/
theorem stream_eq_of_run [Sink δ] {good : δ × Machine → Prop} (bounded : Sink.Bounded δ good)
    (capacity : Nat) {device : δ} {machine : Machine} (ready : good (device, machine))
    (calls : List Call) :
    ∃ results parts after,
      Act.Run Call.run (Balanced good) [] (withCapacity capacity (Recorded.start device), machine)
        calls results parts after ∧
      after.1.stream = parts.flatten ∧
      Act.each Call.run calls (withCapacity capacity device, machine) =
        (.ok results, Prod.map (onto Recorded.device) id after) := by
  have account := Recorded.accounts_accepted bounded
  let start : Writer (Recorded δ Offer) × Machine :=
    (withCapacity capacity (Recorded.start device), machine)
  let Invariant (past : List Bytes) (state : Writer (Recorded δ Offer) × Machine) : Prop :=
    good (state.1.device.device, state.2) ∧ state.1.stream = past.flatten
  have step (call : Call) (past : List Bytes) (before : Writer (Recorded δ Offer) × Machine)
      (holds : Invariant past before) : ∃ result middle part,
        call.run.attempt before = (.ok result, middle) ∧
        Balanced good past call result before middle part ∧ Invariant (past ++ [part]) middle := by
    have kept : Recorded.Accepted good (before.1.device, before.2) before.1.device.accepted :=
      ⟨rfl, holds.1⟩
    obtain ⟨result, middle, part, sent, made, contributes, ⟨rfl, fine⟩, whole⟩ :=
      call.run_account account kept
    have total : middle.1.stream = (past ++ [part]).flatten := by
      rw [List.flatten_append, ← holds.2, List.flatten_singleton]
      exact whole
    exact ⟨result, middle, part, made, ⟨contributes, total⟩, fine, total⟩
  obtain ⟨results, parts, after, run, -, whole⟩ :=
    Act.Run.exists_of_step Invariant step calls [] start ⟨ready, rfl⟩
  refine ⟨results, parts, after, run, whole, ?_⟩
  have same := Act.StandsFor.each (standsFor_run Recorded.standsFor_write) calls start
  rw [run.each_eq] at same
  exact same

/-- A writer over a cursor with room for three bytes keeps all seven bytes in order. -/
theorem stream_eq_of_run_full_cursor :
    let cursor := Cursor.start ⟨4096, 3, Protection.read.union Protection.write, .copied⟩
    let machine := Machine.start ⟨[]⟩ .off
    let calls := [Call.writeAll [1, 2], .writeFormat (.ofPieces [[3], [4, 5, 6]]), .flush, .writeAll [7]]
    ∃ results parts after,
      Act.Run Call.run (Balanced fun _ => True) [] (withCapacity 2 (Recorded.start cursor), machine)
        calls results parts after ∧
      after.1.stream = parts.flatten ∧
      Act.each Call.run calls (withCapacity 2 cursor, machine) =
        (.ok results, Prod.map (onto Recorded.device) id after) :=
  stream_eq_of_run Cursor.bounded_write 2 trivial _

end Writer

end LinuxCalls
