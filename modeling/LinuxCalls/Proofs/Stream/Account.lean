/-
This file holds accounts of devices. An account of a sink says which bytes the sink has accepted so
far, and an account of a source says which bytes the source has supplied so far. A recorded device
keeps such an account of itself and otherwise does what the bare device does.
-/

import LinuxCalls.Writer
import LinuxCalls.Reader
import LinuxCalls.Proofs.Run

namespace LinuxCalls

variable {δ : Type}

/-- The bytes that a source has supplied by a reading. -/
def Reading.chunk (reading : Reading) : Bytes :=
  match reading.count with
  | .ok count => reading.buffer.take count
  | .error _ => []

namespace Sink

variable [Sink δ]

/-- An answer to a write of the offered bytes, in the light of the bytes accepted before. -/
inductive Answered (accepted : δ × Machine → Bytes → Prop) (offered before : Bytes) :
    Except Errno Nat → δ × Machine → Prop
  /-- A part of the bytes offered is accepted. -/
  | count {count : Nat} {next : δ × Machine} (bounded : count ≤ offered.length)
      (kept : accepted next (before ++ offered.take count)) :
      Answered accepted offered before (.ok count) next
  /-- A failed write accepts nothing. -/
  | error {error : Errno} {next : δ × Machine} (kept : accepted next before) :
      Answered accepted offered before (.error error) next

/-- A sink that reports at most the bytes offered, or an error, keeps an account. -/
def Accounts (δ : Type) [Sink δ] (accepted : δ × Machine → Bytes → Prop) : Prop :=
  ∀ (offered : Bytes) (state : δ × Machine) (before : Bytes), accepted state before →
    ∃ answer next, (Sink.write offered).attempt state = (.ok answer, next) ∧
      Answered accepted offered before answer next

/--
A sink is bounded on some states if every write from them reports at most the bytes offered, or an
error, and leads to such a state again.
-/
def Bounded (δ : Type) [Sink δ] (good : δ × Machine → Prop) : Prop :=
  ∀ (offered : Bytes) (state : δ × Machine), good state →
    ∃ answer next, (Sink.write offered).attempt state = (.ok answer, next) ∧
      (∀ count, answer = .ok count → count ≤ offered.length) ∧ good next

end Sink

namespace Source

variable [Source δ]

/--
An answer to a read into a buffer, in the light of the bytes supplied before. The supply has ended
where a read into a buffer of some size brings nothing.
-/
inductive Answered (supplied : δ × Machine → Bytes → Prop) (ended : δ × Machine → Prop)
    (failed : Errno → δ × Machine → Prop) (buffer before : Bytes) : Reading → δ × Machine → Prop
  /-- The bytes at the buffer's start are supplied. -/
  | count {count : Nat} {filled : Bytes} {next : δ × Machine} (size : filled.length = buffer.length)
      (bounded : count ≤ buffer.length) (kept : supplied next (before ++ filled.take count))
      (last : count = 0 → buffer ≠ [] → ended next) :
      Answered supplied ended failed buffer before ⟨filled, .ok count⟩ next
  /-- A failed read supplies nothing, but it may leave bytes in the buffer. -/
  | error {error : Errno} {filled : Bytes} {next : δ × Machine} (size : filled.length = buffer.length)
      (kept : supplied next before) (reported : failed error next) :
      Answered supplied ended failed buffer before ⟨filled, .error error⟩ next

/-- A source that reports at most the size of the buffer, or an error, keeps an account. -/
def Accounts (δ : Type) [Source δ] (supplied : δ × Machine → Bytes → Prop)
    (ended : δ × Machine → Prop) (failed : Errno → δ × Machine → Prop) : Prop :=
  ∀ (buffer : Bytes) (state : δ × Machine) (before : Bytes), supplied state before →
    ∃ reading next, Source.read buffer state = (.ok reading, next) ∧
      Answered supplied ended failed buffer before reading next

/--
A source is bounded on some states if every read from them leaves the buffer's size alone, reports
at most that size, or an error, and leads to such a state again.
-/
def Bounded (δ : Type) [Source δ] (good : δ × Machine → Prop) : Prop :=
  ∀ (buffer : Bytes) (state : δ × Machine), good state →
    ∃ reading next, Source.read buffer state = (.ok reading, next) ∧
      reading.buffer.length = buffer.length ∧
      (∀ count, reading.count = .ok count → count ≤ buffer.length) ∧ good next

/--
A source hands out its rest on some states if every read from them brings bytes off the rest's front,
and at least one while there are any and the buffer has room. Reads that bring something use up the
reserve.
-/
def HandsOut (δ : Type) [Source δ] (rest : δ × Machine → Bytes) (good : δ × Machine → Prop) : Prop :=
  ∀ (buffer : Bytes) (state : δ × Machine), good state →
    ∃ filled count next, Source.read buffer state = (.ok ⟨filled, .ok count⟩, next) ∧
      filled.length = buffer.length ∧ count ≤ buffer.length ∧
      filled.take count ++ rest next = rest state ∧
      (buffer ≠ [] → rest state ≠ [] → 0 < count) ∧
      (0 < count → Source.reserve next.1 next.2 < Source.reserve state.1 state.2) ∧ good next

/-- A source that hands out its rest is bounded. -/
theorem HandsOut.bounded {rest : δ × Machine → Bytes} {good : δ × Machine → Prop}
    (hands : HandsOut δ rest good) : Bounded δ good := by
  intro buffer state fine
  obtain ⟨filled, count, next, taken, size, within, -, -, -, still⟩ := hands buffer state fine
  exact ⟨⟨filled, .ok count⟩, next, taken, size, fun _ same => Except.ok.inj same ▸ within, still⟩

/-- A source that hands out its rest has supplied what the rest lacks of the whole. -/
theorem HandsOut.accounts {rest : δ × Machine → Bytes} {good : δ × Machine → Prop}
    (hands : HandsOut δ rest good) (whole : Bytes) :
    Accounts δ (fun state bytes => bytes ++ rest state = whole ∧ good state)
      (fun state => rest state = []) (fun _ _ => False) := by
  rintro buffer state before ⟨rfl, fine⟩
  obtain ⟨filled, count, next, taken, size, within, front, brings, -, still⟩ := hands buffer state fine
  refine ⟨_, next, taken, .count size within ⟨by rw [List.append_assoc, front], still⟩ fun none asks => ?_⟩
  subst none
  rw [List.take_zero, List.nil_append] at front
  rw [front]
  exact Decidable.byContradiction fun some => Nat.lt_irrefl 0 (brings asks some)

end Source

end LinuxCalls
