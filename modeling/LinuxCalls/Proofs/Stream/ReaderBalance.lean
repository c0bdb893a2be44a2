/-
This file shows that a reader loses, repeats and reorders no byte. Over every run of calls, failed
ones included, what the source has supplied is what the calls have taken followed by what is unread.
-/

import LinuxCalls.Proofs.Stream.CursorDevice
import LinuxCalls.Proofs.Stream.Recorded
import LinuxCalls.Proofs.Stream.Reading

namespace LinuxCalls.Reader

variable {δ ζ : Type}

/-- A call on a reader. -/
inductive Call
  | fill
  | consume (amount : Nat)
  | read (out : Bytes)
  | readExact (out : Bytes)
  | readUntil (delimiter : UInt8) (out : Bytes)
  | readLine (out : String)

/-- What a call gives back. -/
inductive Answer
  | available (bytes : Bytes)
  | consumed
  | reading (reading : Reading)
  | collected (collected : Collected)
  | appended (appended : Appended Bytes)
  | line (line : Appended String)

/-- This action makes a call. -/
def Call.run [Source δ] : Call → Act (Reader δ × Machine) Answer
  | .fill => return .available (← Reader.available)
  | .consume amount => do
    Reader.consume amount
    return .consumed
  | .read out => return .reading (← Reader.read out)
  | .readExact out => return .collected (← Reader.readExact out)
  | .readUntil delimiter out => return .appended (← Reader.readUntil delimiter out)
  | .readLine out => return .line (← Reader.readLine out)

/--
What a call takes off the front of the stream. Where the source fails, the bytes that the call has not
taken are as unread as before. A read up to a delimiter appends the bytes that it takes and returns their number.
-/
inductive Takes [Source δ] (ended : δ × Machine → Prop) (failed : Errno → δ × Machine → Prop)
    (before : Reader δ × Machine) : Call → Except Errno Answer → Reader δ × Machine → Bytes → Prop
  | fill {after : Reader δ × Machine} (used : before.1.unread <+: after.1.unread) :
      Takes ended failed before .fill (.ok (.available after.1.unread)) after []
  | failedFill {error : Errno} {after : Reader δ × Machine} (same : after.1.unread = before.1.unread)
      (reported : failed error (after.1.device, after.2)) :
      Takes ended failed before .fill (.error error) after []
  | consume {amount : Nat} {after : Reader δ × Machine} :
      Takes ended failed before (.consume amount) (.ok .consumed) after (before.1.unread.take amount)
  | read {out filled : Bytes} {count : Nat} {after : Reader δ × Machine}
      (size : filled.length = out.length) (bounded : count ≤ out.length) :
      Takes ended failed before (.read out) (.ok (.reading ⟨filled, .ok count⟩)) after (filled.take count)
  | failedRead {out filled : Bytes} {error : Errno} {after : Reader δ × Machine}
      (size : filled.length = out.length) (same : after.1.unread = before.1.unread)
      (reported : failed error (after.1.device, after.2)) :
      Takes ended failed before (.read out) (.ok (.reading ⟨filled, .error error⟩)) after []
  | readExact {out part : Bytes} {collected : Collected} {after : Reader δ × Machine}
      (whole : Whole ended failed out before collected after part) :
      Takes ended failed before (.readExact out) (.ok (.collected collected)) after part
  | readUntil {delimiter : UInt8} {out : Bytes} {collected : Collected} {after : Reader δ × Machine}
      (gathered : Gathered failed before collected after) :
      Takes ended failed before (.readUntil delimiter out) (.ok (.appended (collected.onto out))) after collected.bytes
  | readLine {out : String} {line : Collected} {after : Reader δ × Machine}
      (gathered : Gathered failed before line after)
      (drawn : Reader.readUntil lineEnd [] before = (.ok (line.onto []), after)) :
      Takes ended failed before (.readLine out) (.ok (.line (lineOnto out line))) after line.bytes

/-- Every call takes off the front of the stream exactly what it amounts to. -/
theorem Call.run_account [Source δ] {supplied : δ × Machine → Bytes → Prop} {ended : δ × Machine → Prop}
    {failed : Errno → δ × Machine → Prop} (account : Source.Accounts δ supplied ended failed) (call : Call)
    {taken : Bytes} {state : Reader δ × Machine} (kept : Keeps supplied taken state) :
    ∃ result next part, (call.run : Act (Reader δ × Machine) Answer).attempt state = (.ok result, next) ∧
      Keeps supplied (taken ++ part) next ∧ Takes ended failed state call result next part := by
  cases call with
  | fill =>
    obtain ⟨ending, next, filled, still, how⟩ := fill_account account kept
    cases ending with
    | error error =>
      refine ⟨.error error, next, [], ?_, by rwa [List.append_nil], ?_⟩
      · have missed := (Act.attempt_eq_error _ _ _ _).mp (available_of_failed filled)
        rw [Act.attempt_eq_error, run, Act.bind_of_fault _ missed]
      · cases how with
        | failed empty same reported => exact .failedFill (same.trans empty.symm) reported
    | ok _ =>
      refine ⟨_, next, [], ?_, by rwa [List.append_nil], .fill how.unread_prefix⟩
      have had := (Act.attempt_eq_ok _ _ _ _).mp (available_of_fill filled)
      rw [Act.attempt_eq_ok, run, Act.bind_of_ok _ had]
      rfl
  | consume amount => exact ⟨_, _, _, rfl, kept.past amount, .consume⟩
  | read out =>
    obtain ⟨⟨filled, count⟩, next, came, size, still, how⟩ := read_account account out kept
    refine ⟨.ok (.reading ⟨filled, count⟩), next, _, ?_, still, ?_⟩
    · rw [Act.attempt_eq_ok, run, Act.bind_of_ok _ came]
      rfl
    · cases how with
      | count bounded => exact .read size bounded
      | error empty same reported => exact .failedRead size (same.trans empty.symm) reported
  | readExact out =>
    obtain ⟨collected, next, part, made, still, whole⟩ :=
      fillFrom_account account out.length out (Nat.le_refl _) kept
    refine ⟨.ok (.collected collected), next, part, ?_, still, .readExact whole⟩
    rw [Act.attempt_eq_ok, run, Reader.readExact, Act.bind_of_ok _ made]
    rfl
  | readUntil delimiter out =>
    obtain ⟨collected, next, made, still, gathered⟩ := readUntil_account account delimiter kept
    refine ⟨_, next, _, ?_, still, .readUntil gathered⟩
    rw [Act.attempt_eq_ok, run, Act.bind_of_ok _ (made out)]
    rfl
  | readLine out =>
    obtain ⟨line, next, drawn, still, gathered⟩ := readUntil_account account lineEnd kept
    refine ⟨_, next, _, ?_, still, .readLine gathered (drawn [])⟩
    rw [Act.attempt_eq_ok, run, Act.bind_of_ok _ (readLine_of_readUntil out (drawn []))]
    rfl

/-- A reader over another device. -/
def onto (change : δ → ζ) (reader : Reader δ) : Reader ζ :=
  ⟨change reader.device, reader.buffer, reader.position, reader.mark⟩

section StandsFor

open Act (StandsFor)

variable {change : δ → ζ}

/-- Looking at the reader itself stands for looking at the other one. -/
theorem standsFor_self_bind {α : Type} {next : Reader δ → Act (Reader δ × Machine) α}
    {other : Reader ζ → Act (Reader ζ × Machine) α}
    (same : ∀ reader, StandsFor (Prod.map (onto change) id) (next reader) (other (reader.onto change))) :
    StandsFor (Prod.map (onto change) id) (self >>= next) (self >>= other) := fun state =>
  same state.1 state

/-- Running on a device stands for running on the other one. -/
theorem standsFor_onDevice {α : Type} {first : Act (δ × Machine) α} {second : Act (ζ × Machine) α}
    (same : StandsFor (Prod.map change id) first second) :
    StandsFor (Prod.map (onto change) id) (onDevice first) (onDevice second) :=
  .focus same (fun _ => rfl) (fun _ _ => rfl)

/-- Taking bytes stands for taking them. -/
theorem standsFor_consume (amount : Nat) :
    StandsFor (Prod.map (onto change) id) (consume amount) (consume amount) := fun _ => rfl

variable [Source δ] [Source ζ]
  (same : ∀ buffer, StandsFor (Prod.map change id) (Source.read buffer : Act (δ × Machine) Reading)
    (Source.read buffer : Act (ζ × Machine) Reading))

include same

/-- A fill stands for a fill. -/
theorem standsFor_fill :
    StandsFor (Prod.map (onto change) id) (fill : Act (Reader δ × Machine) Unit)
      (fill : Act (Reader ζ × Machine) Unit) := by
  refine standsFor_self_bind fun reader => ?_
  change StandsFor _ (if reader.mark ≤ reader.position then _ else _)
    (if reader.mark ≤ reader.position then _ else _)
  split
  · refine .bind (standsFor_onDevice (same _)) fun reading => .bind (fun _ => rfl) fun _ =>
      .bind (.ofExcept _) fun count => ?_
    change StandsFor _ (if reader.buffer.length < count then _ else _)
      (if reader.buffer.length < count then _ else _)
    split
    · exact .bind (.fault _) fun _ => fun _ => rfl
    · exact fun _ => rfl
  · exact .pure _

/-- Making unread bytes available stands for making them available. -/
theorem standsFor_available :
    StandsFor (Prod.map (onto change) id) (available : Act (Reader δ × Machine) Bytes)
      (available : Act (Reader ζ × Machine) Bytes) :=
  .bind (standsFor_fill same) fun _ => standsFor_self_bind fun _ => .pure _

/-- A single read stands for a single read. -/
theorem standsFor_read (out : Bytes) :
    StandsFor (Prod.map (onto change) id) (read out : Act (Reader δ × Machine) Reading)
      (read out : Act (Reader ζ × Machine) Reading) := by
  refine standsFor_self_bind fun reader => ?_
  change StandsFor _ (if reader.mark ≤ reader.position ∧ reader.buffer.length ≤ out.length then _ else _)
    (if reader.mark ≤ reader.position ∧ reader.buffer.length ≤ out.length then _ else _)
  split
  · exact standsFor_onDevice (same out)
  · refine .bind (.attempt (standsFor_available same)) fun result => ?_
    cases result with
    | error error => exact .pure _
    | ok bytes => exact .bind (standsFor_consume _) fun _ => .pure _

/-- Filling a whole buffer stands for filling it. -/
theorem standsFor_fillFrom (rounds : Nat) (out : Bytes) :
    StandsFor (Prod.map (onto change) id)
      (readExact.fillFrom rounds out : Act (Reader δ × Machine) Collected)
      (readExact.fillFrom rounds out : Act (Reader ζ × Machine) Collected) := by
  induction rounds generalizing out with
  | zero => exact .pure _
  | succ rounds step =>
    unfold readExact.fillFrom
    split
    · exact .pure _
    · refine .bind (standsFor_read same out) fun reading => ?_
      obtain ⟨filled, count⟩ := reading
      cases count with
      | error error => exact .pure _
      | ok count =>
        dsimp only
        split
        · exact .pure _
        · split
          · exact .fault _
          · exact .bind (step _) fun _ => .pure _

/-- Collecting bytes stands for collecting them. -/
theorem standsFor_collect (delimiter : UInt8) (rounds total : Nat) :
    StandsFor (Prod.map (onto change) id)
      (readUntil.collect delimiter rounds total : Act (Reader δ × Machine) (Appended Bytes))
      (readUntil.collect delimiter rounds total : Act (Reader ζ × Machine) (Appended Bytes)) := by
  induction rounds generalizing total with
  | zero => exact .pure _
  | succ rounds step =>
    unfold readUntil.collect
    refine .bind (.attempt (standsFor_available same)) fun result => ?_
    rcases result with error | _ | ⟨first, rest⟩
    · exact .pure _
    · exact .pure _
    · dsimp only
      split
      · exact .bind (standsFor_consume _) fun _ => .pure _
      · exact .bind (standsFor_consume _) fun _ => .bind (step _) fun _ => .pure _

variable (sameReserve : ∀ device machine,
  Source.reserve (change device) machine = Source.reserve device machine)

include sameReserve

/-- A read up to a delimiter stands for one. -/
theorem standsFor_readUntil (delimiter : UInt8) (out : Bytes) :
    StandsFor (Prod.map (onto change) id) (readUntil delimiter out : Act (Reader δ × Machine) (Appended Bytes))
      (readUntil delimiter out : Act (Reader ζ × Machine) (Appended Bytes)) := by
  rintro ⟨reader, machine⟩
  change (readUntil.collect delimiter (Source.reserve (change reader.device) machine + 2) 0 >>= fun appended =>
    pure ⟨out ++ appended.out, appended.count⟩ : Act (Reader ζ × Machine) (Appended Bytes)) _ = _
  rw [sameReserve]
  exact StandsFor.bind (standsFor_collect same delimiter _ 0) (fun _ => .pure _) (reader, machine)

/-- A read of a line stands for one. -/
theorem standsFor_readLine (out : String) :
    StandsFor (Prod.map (onto change) id) (readLine out : Act (Reader δ × Machine) (Appended String))
      (readLine out : Act (Reader ζ × Machine) (Appended String)) := by
  refine .bind (standsFor_readUntil same sameReserve lineEnd []) fun line => ?_
  obtain ⟨bytes, count⟩ := line
  cases count with
  | error error => exact .pure _
  | ok count =>
    dsimp only
    cases Text.ofBytes? bytes <;> exact .pure _

/-- Every call stands for the same call. -/
theorem standsFor_run (call : Call) :
    StandsFor (Prod.map (onto change) id) (call.run : Act (Reader δ × Machine) Answer)
      (call.run : Act (Reader ζ × Machine) Answer) := by
  cases call with
  | fill => exact .bind (standsFor_available same) fun _ => .pure _
  | consume amount => exact .bind (standsFor_consume amount) fun _ => .pure _
  | read out => exact .bind (standsFor_read same out) fun _ => .pure _
  | readExact out => exact .bind (standsFor_fillFrom same _ out) fun _ => .pure _
  | readUntil delimiter out => exact .bind (standsFor_readUntil same sameReserve delimiter out) fun _ => .pure _
  | readLine out => exact .bind (standsFor_readLine same sameReserve out) fun _ => .pure _

end StandsFor

/--
A call takes its part off the front of the stream, leaves the position and the mark inside the buffer,
and then the supply is what all calls so far have taken followed by what is unread.
-/
def Balanced [Source δ] (past : List Bytes) (call : Call) (result : Except Errno Answer)
    (before after : Reader (Recorded δ Reading) × Machine) (part : Bytes) : Prop :=
  Takes (Recorded.AnsweredLast (.ok 0)) (fun error => Recorded.AnsweredLast (.error error))
      before call result after part ∧
    after.1.position ≤ after.1.mark ∧ after.1.mark ≤ after.1.buffer.length ∧
    after.1.device.supplied = (past ++ [part]).flatten ++ after.1.unread

/--
Every run of calls on a new reader keeps all bytes in order: after each call, what the source has
supplied is what the calls so far have taken followed by what is unread, whatever the source answers
within its bounds. The reader over the bare source gives the same results and ends with the same
buffer.
-/
theorem supplied_eq_of_run [Source δ] {good : δ × Machine → Prop} (bounded : Source.Bounded δ good)
    (capacity : Nat) {device : δ} {machine : Machine} (ready : good (device, machine))
    (calls : List Call) :
    ∃ results parts after,
      Act.Run Call.run Balanced [] (withCapacity capacity (Recorded.start device), machine)
        calls results parts after ∧
      after.1.device.supplied = parts.flatten ++ after.1.unread ∧
      Act.each Call.run calls (withCapacity capacity device, machine) =
        (.ok results, Prod.map (onto Recorded.device) id after) := by
  have account := Recorded.accounts_supplied bounded
  let start : Reader (Recorded δ Reading) × Machine :=
    (withCapacity capacity (Recorded.start device), machine)
  let Invariant (past : List Bytes) (state : Reader (Recorded δ Reading) × Machine) : Prop :=
    Keeps (Recorded.Supplied good) past.flatten state
  have step (call : Call) (past : List Bytes) (before : Reader (Recorded δ Reading) × Machine)
      (holds : Invariant past before) : ∃ result middle part,
        call.run.attempt before = (.ok result, middle) ∧
        Balanced past call result before middle part ∧ Invariant (past ++ [part]) middle := by
    obtain ⟨result, middle, part, made, kept, takes⟩ := call.run_account account holds
    rw [← List.flatten_singleton (l := part), ← List.flatten_append] at kept
    exact ⟨result, middle, part, made, ⟨takes, kept.ordered, kept.inside, kept.account.1.symm⟩, kept⟩
  obtain ⟨results, parts, after, run, kept⟩ :=
    Act.Run.exists_of_step Invariant step calls [] start (keeps_withCapacity capacity ⟨rfl, ready⟩)
  refine ⟨results, parts, after, run, kept.account.1.symm, ?_⟩
  have same := Act.StandsFor.each (standsFor_run Recorded.standsFor_read fun _ _ => rfl) calls start
  rw [run.each_eq] at same
  exact same

/-- A reader over a cursor with three bytes keeps them in order past its end. -/
theorem supplied_eq_of_run_short_cursor :
    let cursor := Cursor.start ⟨4096, 3, Protection.read, .copied⟩
    let machine := { Machine.start ⟨[]⟩ .off with memory := Memory.blank.store 4096 [104, 105, 10] }
    let calls := [Call.read [0], .fill, .consume 1, .readUntil 105 [120], .readLine "", .readExact [0, 0, 0]]
    ∃ results parts after,
      Act.Run Call.run Balanced [] (withCapacity 2 (Recorded.start cursor), machine)
        calls results parts after ∧
      after.1.device.supplied = parts.flatten ++ after.1.unread ∧
      Act.each Call.run calls (withCapacity 2 cursor, machine) =
        (.ok results, Prod.map (onto Recorded.device) id after) :=
  supplied_eq_of_run Cursor.handsOut.bounded 2 trivial _

end LinuxCalls.Reader
