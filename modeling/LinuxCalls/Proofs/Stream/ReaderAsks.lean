/-
This file follows what a reader asks of its source. A source is asked only while no byte is unread, for as
many bytes as the buffer holds or, past the buffer, for as many as the caller wants.
-/

import LinuxCalls.Proofs.Stream.ReaderBalance

namespace LinuxCalls

variable {δ : Type}

/-- The number of bytes that a source was asked for. -/
structure Ask where
  size : Nat

instance [Source δ] : Source (Recorded δ Ask) where
  read buffer := do
    Recorded.note ⟨buffer.length⟩
    Recorded.onDevice (Source.read buffer)
  reserve recorded machine := Source.reserve recorded.device machine

/-- A source fills a buffer in place, so that a read leaves the buffer's size alone. -/
def Source.KeepsSize (δ : Type) [Source δ] : Prop :=
  ∀ (buffer : Bytes) (state next : δ × Machine) (reading : Reading),
    Source.read buffer state = (.ok reading, next) → reading.buffer.length = buffer.length

/-- A source that notes what it is asked for otherwise does what the bare source does. -/
theorem Recorded.read_noting [Source δ] (buffer : Bytes) (state : Recorded δ Ask × Machine) :
    (Source.read buffer : Act (Recorded δ Ask × Machine) Reading) state =
      ((Source.read buffer (state.1.device, state.2)).1,
        (⟨(Source.read buffer (state.1.device, state.2)).2.1, state.1.record ++ [⟨buffer.length⟩]⟩,
          (Source.read buffer (state.1.device, state.2)).2.2)) := rfl

/-- A source that notes what it is asked for stands for the bare one. -/
theorem Recorded.standsFor_read_noting [Source δ] (buffer : Bytes) :
    Act.StandsFor (Prod.map Recorded.device id)
      (Source.read buffer : Act (Recorded δ Ask × Machine) Reading) (Source.read buffer) := fun _ => rfl

/-- Noting what it is asked for does not change the sizes that a source leaves alone. -/
theorem Recorded.keepsSize [Source δ] (keeps : Source.KeepsSize δ) : Source.KeepsSize (Recorded δ Ask) := by
  intro buffer state next reading came
  have bare : (Source.read buffer (state.1.device, state.2)).1 = .ok reading := congrArg Prod.fst came
  exact keeps buffer (state.1.device, state.2) _ reading (Prod.ext bare rfl)

namespace Reader

/-- A reader has a buffer of some capacity, and its mark lies inside the buffer. -/
structure Fits (capacity : Nat) (reader : Reader δ) : Prop where
  size : reader.buffer.length = capacity
  inside : reader.mark ≤ reader.buffer.length

/-- A new reader fits its capacity. -/
theorem fits_withCapacity (capacity : Nat) (device : δ) :
    Fits (max capacity 1) (withCapacity capacity device) where
  size := Bytes.length_zeros _
  inside := Nat.zero_le _

/--
What a reader asks of its source in a single call. It asks nothing while bytes are unread. Otherwise it asks
once, for exactly the capacity of its buffer, or for the size of the caller's buffer if that is no smaller.
-/
inductive Asks (capacity : Nat) (reader : Reader δ) : Call → List Ask → Prop
  | consume (amount : Nat) : Asks capacity reader (.consume amount) []
  | noFill (some : reader.unread ≠ []) : Asks capacity reader .fill []
  | refill (none : reader.unread = []) : Asks capacity reader .fill [⟨capacity⟩]
  | buffered {out : Bytes} (some : reader.unread ≠ []) : Asks capacity reader (.read out) []
  | refilled {out : Bytes} (none : reader.unread = []) (small : out.length < capacity) :
      Asks capacity reader (.read out) [⟨capacity⟩]
  | direct {out : Bytes} (none : reader.unread = []) (large : capacity ≤ out.length) :
      Asks capacity reader (.read out) [⟨out.length⟩]

section Single

variable [Source δ]

/-- A fill without unread bytes is one read of the source into the whole buffer. -/
theorem fill_of_empty {state : Reader δ × Machine} (empty : state.1.mark ≤ state.1.position) :
    (fill : Act (Reader δ × Machine) Unit) state =
      match Source.read state.1.buffer (state.1.device, state.2) with
      | (.error fault, next) => (.error fault, ({ state.1 with device := next.1 }, next.2))
      | (.ok ⟨filled, .error error⟩, next) =>
        (.error (.errno error), ({ state.1 with device := next.1, buffer := filled }, next.2))
      | (.ok ⟨filled, .ok count⟩, next) =>
        if state.1.buffer.length < count then
          (.error .panic, ({ state.1 with device := next.1, buffer := filled }, next.2))
        else (.ok (), (⟨next.1, filled, 0, count⟩, next.2)) := by
  simp only [fill, self, onDevice, change, Act.bind_apply, Act.get_apply, Act.pure_apply, if_pos empty,
    Act.focus_apply]
  rcases Source.read state.1.buffer (state.1.device, state.2) with ⟨fault | ⟨filled, error | count⟩, next⟩
  · rfl
  · rfl
  · simp only [Act.modify_apply, Act.ofExcept, Act.pure_apply]
    split <;> rfl

/-- A fill without unread bytes leaves the source as its one read does, and the reader fits as before. -/
theorem fill_snd_of_empty (keeps : Source.KeepsSize δ) {capacity : Nat} {state : Reader δ × Machine}
    (fits : Fits capacity state.1) (empty : state.1.mark ≤ state.1.position) :
    Fits capacity ((fill : Act (Reader δ × Machine) Unit) state).2.1 ∧
      ((fill : Act (Reader δ × Machine) Unit) state).2.1.device =
        (Source.read state.1.buffer (state.1.device, state.2)).2.1 := by
  rw [fill_of_empty empty]
  rcases came : Source.read state.1.buffer (state.1.device, state.2) with ⟨fault | ⟨filled, error | count⟩, next⟩
  · exact ⟨⟨fits.size, fits.inside⟩, rfl⟩
  · have size : filled.length = state.1.buffer.length := keeps _ _ _ _ came
    exact ⟨⟨size.trans fits.size, size ▸ fits.inside⟩, rfl⟩
  · have size : filled.length = state.1.buffer.length := keeps _ _ _ _ came
    dsimp only
    split
    · exact ⟨⟨size.trans fits.size, size ▸ fits.inside⟩, rfl⟩
    · rename_i bounded
      exact ⟨⟨size.trans fits.size, size ▸ Nat.le_of_not_lt bounded⟩, rfl⟩

/-- Making bytes available leaves the state that a fill leaves. -/
theorem available_snd (state : Reader δ × Machine) :
    ((available : Act (Reader δ × Machine) Bytes) state).2 =
      ((fill : Act (Reader δ × Machine) Unit) state).2 := by
  rw [available, Act.bind_apply]
  rcases (fill : Act (Reader δ × Machine) Unit) state with ⟨fault | done, next⟩ <;> rfl

/-- A read through the buffer is a fill, after which the reader may have moved past some bytes. -/
theorem read_snd_of_buffered {out : Bytes} {state : Reader δ × Machine}
    (buffered : ¬ (state.1.mark ≤ state.1.position ∧ state.1.buffer.length ≤ out.length)) :
    (read out state).2 = ((fill : Act (Reader δ × Machine) Unit) state).2 ∨
      ∃ amount, (read out state).2 = (((fill : Act (Reader δ × Machine) Unit) state).2.1.past amount,
        ((fill : Act (Reader δ × Machine) Unit) state).2.2) := by
  have same := available_snd state
  simp only [read, self, Act.bind_apply, Act.get_apply, Act.pure_apply, if_neg buffered, ← same]
  rw [← Act.attempt_snd]
  rcases (available : Act (Reader δ × Machine) Bytes).attempt state with ⟨fault | error | bytes, next⟩
  · exact .inl rfl
  · exact .inl rfl
  · exact .inr ⟨(bytes.take out.length).length, rfl⟩

/-- A fill among the calls leaves the state that a fill leaves. -/
theorem Call.run_fill_snd (state : Reader δ × Machine) :
    (Call.fill.run state).2 = ((Reader.fill : Act (Reader δ × Machine) Unit) state).2 := by
  rw [run, Act.bind_pure_snd, available_snd]

/-- A single read among the calls leaves the state that a single read leaves. -/
theorem Call.run_read_snd (out : Bytes) (state : Reader δ × Machine) :
    ((Call.read out).run state).2 = (Reader.read out state).2 := by
  rw [run, Act.bind_pure_snd]

end Single

variable [Source δ] {capacity : Nat}

/-- A fill asks what it may. -/
theorem fill_asks (keeps : Source.KeepsSize δ) {state : Reader (Recorded δ Ask) × Machine}
    (fits : Fits capacity state.1) :
    ∃ asked, Asks capacity state.1 .fill asked ∧ Fits capacity (fill state).2.1 ∧
      (fill state).2.1.device.record = state.1.device.record ++ asked := by
  by_cases empty : state.1.mark ≤ state.1.position
  · obtain ⟨fits', device⟩ := fill_snd_of_empty (Recorded.keepsSize keeps) fits empty
    refine ⟨_, .refill ((unread_eq_nil_iff fits.inside).mpr empty), fits', ?_⟩
    rw [device, Recorded.read_noting, fits.size]
  · have same := (Act.attempt_eq_ok _ _ _ _).mp (fill_of_unread empty)
    refine ⟨[], .noFill (by rwa [Ne, unread_eq_nil_iff fits.inside]), ?_⟩
    rw [same, List.append_nil]
    exact ⟨fits, rfl⟩

/-- A single read asks what it may. -/
theorem read_asks (keeps : Source.KeepsSize δ) (out : Bytes) {state : Reader (Recorded δ Ask) × Machine}
    (fits : Fits capacity state.1) :
    ∃ asked, Asks capacity state.1 (.read out) asked ∧ Fits capacity (read out state).2.1 ∧
      (read out state).2.1.device.record = state.1.device.record ++ asked := by
  by_cases direct : state.1.mark ≤ state.1.position ∧ state.1.buffer.length ≤ out.length
  · have none := (unread_eq_nil_iff fits.inside).mpr direct.1
    refine ⟨_, .direct none (fits.size ▸ direct.2), ?_⟩
    rw [read_direct direct.1 direct.2]
    exact ⟨⟨fits.size, fits.inside⟩, rfl⟩
  · obtain ⟨asked, asks, fits', noted⟩ := fill_asks keeps fits
    have through : Asks capacity state.1 (.read out) asked := by
      cases asks with
      | noFill some => exact .buffered some
      | refill none =>
        have empty := (unread_eq_nil_iff fits.inside).mp none
        have size := fits.size
        exact .refilled none (by omega)
    refine ⟨asked, through, ?_⟩
    rcases read_snd_of_buffered direct with same | ⟨amount, moved⟩
    · rw [same]
      exact ⟨fits', noted⟩
    · rw [moved]
      exact ⟨⟨fits'.size, fits'.inside⟩, noted⟩

/-- Single calls in a row, each of which asks what it may. -/
inductive Proceeds (capacity : Nat) :
    Reader (Recorded δ Ask) × Machine → List Call → Reader (Recorded δ Ask) × Machine → Prop
  | done (state : Reader (Recorded δ Ask) × Machine) : Proceeds capacity state [] state
  | step {before middle after : Reader (Recorded δ Ask) × Machine} {call : Call} {calls : List Call}
      {asked : List Ask} (asks : Asks capacity before.1 call asked) (made : (call.run before).2 = middle)
      (noted : middle.1.device.record = before.1.device.record ++ asked)
      (later : Proceeds capacity middle calls after) : Proceeds capacity before (call :: calls) after

theorem Proceeds.append {before middle after : Reader (Recorded δ Ask) × Machine} {calls more : List Call}
    (first : Proceeds capacity before calls middle) (second : Proceeds capacity middle more after) :
    Proceeds capacity before (calls ++ more) after := by
  induction first with
  | done => exact second
  | step asks made noted _ step => exact .step asks made noted (step second)

/-- An action that is single calls in a row, all of an allowed kind. -/
def MadeOf {α : Type} (capacity : Nat) (allowed : Call → Prop) (act : Act (Reader (Recorded δ Ask) × Machine) α) :
    Prop :=
  ∀ before, Fits capacity before.1 → Fits capacity (act before).2.1 ∧
    ∃ calls, (∀ call ∈ calls, allowed call) ∧ Proceeds capacity before calls (act before).2

namespace MadeOf

variable {α β : Type} {allowed : Call → Prop} {act : Act (Reader (Recorded δ Ask) × Machine) α}

/-- An action that changes nothing is no call at all. -/
theorem of_still (still : ∀ state, (act state).2 = state) : MadeOf capacity allowed act := by
  intro before fits
  rw [still]
  exact ⟨fits, [], nofun, .done before⟩

/-- An action is one call if it leaves the state that the call leaves. -/
theorem of_call {call : Call} (may : allowed call) (same : ∀ state, (call.run state).2 = (act state).2)
    (asks : ∀ state : Reader (Recorded δ Ask) × Machine, Fits capacity state.1 →
      ∃ asked, Asks capacity state.1 call asked ∧ Fits capacity (act state).2.1 ∧
        (act state).2.1.device.record = state.1.device.record ++ asked) : MadeOf capacity allowed act := by
  intro before fits
  obtain ⟨asked, asks, fits', noted⟩ := asks before fits
  exact ⟨fits', [call], List.forall_mem_singleton.mpr may, .step asks (same before) noted (.done _)⟩

/-- Two actions in a row are the calls of both. The second one only has to deal with what the first one can give. -/
theorem bind {next : α → Act (Reader (Recorded δ Ask) × Machine) β} (head : MadeOf capacity allowed act)
    (tail : ∀ value, (∃ state, (act state).1 = .ok value) → MadeOf capacity allowed (next value)) :
    MadeOf capacity allowed (act >>= next) := by
  intro before fits
  obtain ⟨fits', calls, may, proceeds⟩ := head before fits
  rcases ended : act before with ⟨fault | value, middle⟩ <;> rw [ended] at fits' proceeds
  · rw [Act.bind_of_fault _ ended]
    exact ⟨fits', calls, may, proceeds⟩
  · obtain ⟨fits'', more, may', proceeds'⟩ := tail value ⟨before, by rw [ended]⟩ middle fits'
    rw [Act.bind_of_ok _ ended]
    exact ⟨fits'', calls ++ more, List.forall_mem_append.mpr ⟨may, may'⟩, proceeds.append proceeds'⟩

theorem attempt (made : MadeOf capacity allowed act) : MadeOf capacity allowed act.attempt := by
  intro before fits
  rw [Act.attempt_snd]
  exact made before fits

theorem ofExcept (result : Except Errno α) :
    MadeOf capacity allowed (Act.ofExcept result : Act (Reader (Recorded δ Ask) × Machine) α) :=
  of_still fun _ => by cases result <;> rfl

end MadeOf

/-- A read of at most as many bytes as a buffer holds. -/
def Call.ReadsInto (out : Bytes) (call : Call) : Prop := ∃ part : Bytes, call = .read part ∧ part.length ≤ out.length

/-- A fill or a consumption. -/
def Call.Draws (call : Call) : Prop := call = .fill ∨ ∃ amount, call = .consume amount

/--
The single calls that a call consists of. A read of a whole buffer reads into parts of it, and a read of unknown
length fills and consumes.
-/
inductive Call.Consists : Call → List Call → Prop
  | fill : Consists .fill [.fill]
  | consume (amount : Nat) : Consists (.consume amount) [.consume amount]
  | read (out : Bytes) : Consists (.read out) [.read out]
  | readExact {out : Bytes} {calls : List Call} (parts : ∀ call ∈ calls, call.ReadsInto out) :
      Consists (.readExact out) calls
  | readUntil {delimiter : UInt8} {out : Bytes} {calls : List Call} (draws : ∀ call ∈ calls, call.Draws) :
      Consists (.readUntil delimiter out) calls
  | readLine {out : String} {calls : List Call} (draws : ∀ call ∈ calls, call.Draws) :
      Consists (.readLine out) calls

section Calls

variable {allowed : Call → Prop} (keeps : Source.KeepsSize δ)

include keeps

/-- Making bytes available is a fill. -/
theorem madeOf_available (may : allowed .fill) :
    MadeOf capacity allowed (available : Act (Reader (Recorded δ Ask) × Machine) Bytes) := by
  refine .of_call may (fun state => ?_) fun state fits => ?_
  · rw [Call.run_fill_snd, available_snd]
  · rw [available_snd]
    exact fill_asks keeps fits

omit keeps in
/-- Taking bytes is a consumption. -/
theorem madeOf_consume {amount : Nat} (may : allowed (.consume amount)) :
    MadeOf capacity allowed (consume amount : Act (Reader (Recorded δ Ask) × Machine) Unit) :=
  .of_call may (fun _ => rfl) fun _ fits => ⟨[], .consume amount, ⟨fits.size, fits.inside⟩, (List.append_nil _).symm⟩

/-- A single read is one. -/
theorem madeOf_read {out : Bytes} (may : allowed (.read out)) :
    MadeOf capacity allowed (read out : Act (Reader (Recorded δ Ask) × Machine) Reading) :=
  .of_call may (Call.run_read_snd out) fun _ fits => read_asks keeps out fits

/-- A single read leaves the size of the caller's buffer alone. -/
theorem length_of_read {out : Bytes} {reading : Reading} {state : Reader δ × Machine}
    (came : (read out state).1 = .ok reading) : reading.buffer.length = out.length := by
  by_cases direct : state.1.mark ≤ state.1.position ∧ state.1.buffer.length ≤ out.length
  · rw [read_direct direct.1 direct.2] at came
    exact keeps out (state.1.device, state.2) _ reading (Prod.ext came rfl)
  · revert came
    simp only [read, self, Act.bind_apply, Act.get_apply, Act.pure_apply, if_neg direct]
    rcases (available : Act (Reader δ × Machine) Bytes).attempt state with ⟨fault | error | bytes, next⟩
    · intro failed
      contradiction
    · intro same
      cases same
      rfl
    · intro same
      cases same
      exact Bytes.length_overlay _ _

/-- A read of a whole buffer is single reads into parts of it. -/
theorem madeOf_fillFrom (rounds : Nat) (out : Bytes)
    (may : ∀ part : Bytes, part.length ≤ out.length → allowed (.read part)) : MadeOf capacity allowed
      (readExact.fillFrom rounds out : Act (Reader (Recorded δ Ask) × Machine) Collected) := by
  induction rounds generalizing out with
  | zero => exact .of_still fun _ => rfl
  | succ rounds step =>
    unfold readExact.fillFrom
    split
    · exact .of_still fun _ => rfl
    · refine .bind (madeOf_read keeps (may out (Nat.le_refl _))) fun reading came => ?_
      obtain ⟨state, came⟩ := came
      have size := length_of_read (Recorded.keepsSize keeps) came
      obtain ⟨filled, error | count⟩ := reading
      · exact .of_still fun _ => rfl
      · dsimp only
        split
        · exact .of_still fun _ => rfl
        · split
          · exact .of_still fun _ => rfl
          · refine .bind (step _ fun part small => may part ?_) fun _ _ => .of_still fun _ => rfl
            rw [List.length_drop, size] at small
            omega

/-- A collection of bytes is fills and consumptions. -/
theorem madeOf_collect (delimiter : UInt8) (rounds total : Nat) : MadeOf capacity Call.Draws
    (readUntil.collect delimiter rounds total : Act (Reader (Recorded δ Ask) × Machine) (Appended Bytes)) := by
  have consumes (amount : Nat) : (Call.consume amount).Draws := .inr ⟨amount, rfl⟩
  induction rounds generalizing total with
  | zero => exact .of_still fun _ => rfl
  | succ rounds step =>
    unfold readUntil.collect
    refine .bind (.attempt (madeOf_available keeps (.inl rfl))) fun result _ => ?_
    rcases result with error | _ | ⟨first, rest⟩
    · exact .of_still fun _ => rfl
    · exact .of_still fun _ => rfl
    · dsimp only
      split
      · exact .bind (madeOf_consume (consumes _)) fun _ _ => .of_still fun _ => rfl
      · exact .bind (madeOf_consume (consumes _)) fun _ _ => .bind (step _) fun _ _ =>
          .of_still fun _ => rfl

/-- A read up to a delimiter is fills and consumptions. -/
theorem madeOf_readUntil (delimiter : UInt8) (out : Bytes) : MadeOf capacity Call.Draws
    (readUntil delimiter out : Act (Reader (Recorded δ Ask) × Machine) (Appended Bytes)) :=
  .bind (.of_still fun _ => rfl) fun _ _ =>
    .bind (madeOf_collect keeps delimiter _ 0) fun _ _ => .of_still fun _ => rfl

/-- A call proceeds by the single calls that it consists of, whatever its source does. -/
theorem Call.run_proceeds (call : Call) {before : Reader (Recorded δ Ask) × Machine} (fits : Fits capacity before.1) :
    Fits capacity (call.run before).2.1 ∧
      ∃ calls, call.Consists calls ∧ Proceeds capacity before calls (call.run before).2 := by
  cases call with
  | fill =>
    obtain ⟨asked, asks, fits', noted⟩ := fill_asks keeps fits
    rw [← run_fill_snd] at fits' noted
    exact ⟨fits', [.fill], .fill, .step asks rfl noted (.done _)⟩
  | consume amount =>
    exact ⟨⟨fits.size, fits.inside⟩, [.consume amount], .consume amount,
      .step (.consume amount) rfl (List.append_nil _).symm (.done _)⟩
  | read out =>
    obtain ⟨asked, asks, fits', noted⟩ := read_asks keeps out fits
    rw [← run_read_snd] at fits' noted
    exact ⟨fits', [.read out], .read out, .step asks rfl noted (.done _)⟩
  | readExact out =>
    have made : MadeOf capacity (ReadsInto out)
        (run (.readExact out) : Act (Reader (Recorded δ Ask) × Machine) Answer) :=
      .bind (madeOf_fillFrom keeps _ out fun part small => ⟨part, rfl, small⟩) fun _ _ => .of_still fun _ => rfl
    obtain ⟨fits', calls, parts, proceeds⟩ := made before fits
    exact ⟨fits', calls, .readExact parts, proceeds⟩
  | readUntil delimiter out =>
    have made : MadeOf capacity Draws
        (run (.readUntil delimiter out) : Act (Reader (Recorded δ Ask) × Machine) Answer) :=
      .bind (madeOf_readUntil keeps delimiter out) fun _ _ => .of_still fun _ => rfl
    obtain ⟨fits', calls, draws, proceeds⟩ := made before fits
    exact ⟨fits', calls, .readUntil draws, proceeds⟩
  | readLine out =>
    have made : MadeOf capacity Draws
        (run (.readLine out) : Act (Reader (Recorded δ Ask) × Machine) Answer) := by
      refine .bind (.bind (madeOf_readUntil keeps lineEnd []) fun line _ => ?_) fun _ _ => .of_still fun _ => rfl
      obtain ⟨bytes, error | count⟩ := line
      · exact .of_still fun _ => rfl
      · dsimp only
        cases Text.ofBytes? bytes <;> exact .of_still fun _ => rfl
    obtain ⟨fits', calls, draws, proceeds⟩ := made before fits
    exact ⟨fits', calls, .readLine draws, proceeds⟩

/-- Calls in turn leave a reader that fits as before. -/
theorem fits_each (calls : List Call) {state : Reader (Recorded δ Ask) × Machine} (fits : Fits capacity state.1) :
    Fits capacity (Act.each Call.run calls state).2.1 := by
  induction calls generalizing state with
  | nil => exact fits
  | cons call calls step =>
    have fits' := (call.run_proceeds keeps fits).1
    rw [← Act.attempt_snd] at fits'
    rcases made : call.run.attempt state with ⟨fault | result, middle⟩ <;> rw [made] at fits'
    · rw [Act.each, Act.bind_of_fault _ made]
      exact fits'
    · rw [Act.each, Act.bind_of_ok _ made, Act.bind_pure_snd]
      exact step fits'

end Calls

end Reader

end LinuxCalls
