/-
This file holds recorded devices. A recorded device keeps every answer that it gives and otherwise
does what the bare device does, so a stream over it behaves as a stream over the bare device.
-/

import LinuxCalls.Proofs.Stream.Account

namespace LinuxCalls

variable {δ ζ ε : Type}

/-- What a sink was offered and what it answered. -/
structure Offer where
  offered : Bytes
  answer : Except Errno Nat

/-- The bytes that a sink has accepted of an offer. -/
def Offer.accepted (offer : Offer) : Bytes :=
  match offer.answer with
  | .ok count => offer.offered.take count
  | .error _ => []

/-- A device with a record of what it has answered, in order. -/
structure Recorded (δ ε : Type) where
  device : δ
  record : List ε

namespace Recorded

/-- A device whose record begins. -/
def start (device : δ) : Recorded δ ε := ⟨device, []⟩

/-- This action runs on the bare device. -/
def onDevice {α : Type} (act : Act (δ × Machine) α) : Act (Recorded δ ε × Machine) α :=
  Act.focus (fun state => (state.1.device, state.2))
    (fun state next => ({ state.1 with device := next.1 }, next.2)) act

/-- This action puts an answer at the end of the record. -/
def note (answer : ε) : Act (Recorded δ ε × Machine) Unit :=
  Act.modify fun state => ({ state.1 with record := state.1.record ++ [answer] }, state.2)

end Recorded

instance [Sink δ] : Sink (Recorded δ Offer) where
  write offered := do
    let answer ← Recorded.onDevice (Sink.write offered).attempt
    Recorded.note ⟨offered, answer⟩
    Act.ofExcept answer

instance [Source δ] : Source (Recorded δ Reading) where
  read buffer := do
    let reading ← Recorded.onDevice (Source.read buffer)
    Recorded.note reading
    return reading
  reserve recorded machine := Source.reserve recorded.device machine

instance [Resource δ] : Resource (Recorded δ ε) where
  release recorded := Resource.release recorded.device

namespace Recorded

/-- The bytes that a recorded sink has accepted so far. -/
def accepted (recorded : Recorded δ Offer) : Bytes := recorded.record.flatMap Offer.accepted

/-- The bytes that a recorded source has supplied so far. -/
def supplied (recorded : Recorded δ Reading) : Bytes := recorded.record.flatMap Reading.chunk

/-- The account that a record is, as long as the states of the device remain good ones. -/
def Accepted (good : δ × Machine → Prop) (state : Recorded δ Offer × Machine) (bytes : Bytes) : Prop :=
  bytes = state.1.accepted ∧ good (state.1.device, state.2)

/-- A recorded sink notes what it is offered and what it answers, unless the write does not come back. -/
theorem attempt_write [Sink δ] (offered : Bytes) (state : Recorded δ Offer × Machine) :
    (Sink.write offered : Act (Recorded δ Offer × Machine) Nat).attempt state =
      match (Sink.write offered).attempt (state.1.device, state.2) with
      | (.ok answer, next) => (.ok answer, (⟨next.1, state.1.record ++ [⟨offered, answer⟩]⟩, next.2))
      | (.error fault, next) => (.error fault, (⟨next.1, state.1.record⟩, next.2)) := by
  simp only [Sink.write, onDevice, note, Act.attempt, Act.bind_apply, Act.focus_apply]
  rcases Sink.write offered (state.1.device, state.2) with ⟨fault | count, next⟩
  · cases fault <;> rfl
  · rfl

/-- The record of a bounded sink is an account of it. -/
theorem accounts_accepted [Sink δ] {good : δ × Machine → Prop} (bounded : Sink.Bounded δ good) :
    Sink.Accounts (Recorded δ Offer) (Accepted good) := by
  rintro offered ⟨⟨device, record⟩, machine⟩ before ⟨rfl, fine⟩
  obtain ⟨answer, ⟨next, last⟩, written, within, still⟩ := bounded offered (device, machine) fine
  refine ⟨answer, (⟨next, record ++ [⟨offered, answer⟩]⟩, last), ?_, ?_⟩
  · rw [attempt_write, written]
  · cases answer with
    | ok count =>
      exact .count (within count rfl) ⟨by simp [accepted, Offer.accepted], still⟩
    | error error => exact .error ⟨by simp [accepted, Offer.accepted], still⟩

/-- The account that a source's record is, as long as the states of the device remain good ones. -/
def Supplied (good : δ × Machine → Prop) (state : Recorded δ Reading × Machine) (bytes : Bytes) : Prop :=
  bytes = state.1.supplied ∧ good (state.1.device, state.2)

/-- The source has answered last with a count or an error. -/
def AnsweredLast (count : Except Errno Nat) (state : Recorded δ Reading × Machine) : Prop :=
  state.1.record.getLast?.map Reading.count = some count

/-- The record of a bounded source is an account of it. -/
theorem accounts_supplied [Source δ] {good : δ × Machine → Prop} (bounded : Source.Bounded δ good) :
    Source.Accounts (Recorded δ Reading) (Supplied good) (AnsweredLast (.ok 0))
      (fun error => AnsweredLast (.error error)) := by
  rintro buffer ⟨⟨device, record⟩, machine⟩ before ⟨rfl, fine⟩
  obtain ⟨⟨filled, count⟩, ⟨next, last⟩, taken, size, within, still⟩ :=
    bounded buffer (device, machine) fine
  refine ⟨⟨filled, count⟩, (⟨next, record ++ [⟨filled, count⟩]⟩, last), ?_, ?_⟩
  · simp only [Source.read, onDevice, note, Act.bind_apply, Act.focus_apply, taken,
      Act.modify_apply, Act.pure_apply]
  · cases count with
    | ok count =>
      exact .count size (within count rfl) ⟨by simp [supplied, Reading.chunk], still⟩
        fun none _ => by simp [AnsweredLast, none]
    | error error =>
      exact .error size ⟨by simp [supplied, Reading.chunk], still⟩ (by simp [AnsweredLast])

/-- A recorded sink stands for the bare one. -/
theorem standsFor_write [Sink δ] (offered : Bytes) :
    Act.StandsFor (Prod.map Recorded.device id)
      (Sink.write offered : Act (Recorded δ Offer × Machine) Nat) (Sink.write offered) := by
  rintro ⟨⟨device, record⟩, machine⟩
  change Sink.write offered (device, machine) = _
  simp only [Sink.write, onDevice, note, Act.bind_apply, Act.focus_apply, Act.attempt]
  rcases Sink.write offered (device, machine) with ⟨fault | count, next, last⟩
  · cases fault <;> rfl
  · rfl

/-- A recorded source stands for the bare one. -/
theorem standsFor_read [Source δ] (buffer : Bytes) :
    Act.StandsFor (Prod.map Recorded.device id)
      (Source.read buffer : Act (Recorded δ Reading × Machine) Reading) (Source.read buffer) := by
  rintro ⟨⟨device, record⟩, machine⟩
  change Source.read buffer (device, machine) = _
  simp only [Source.read, onDevice, note, Act.bind_apply, Act.focus_apply]
  rcases Source.read buffer (device, machine) with ⟨fault | reading, next, last⟩ <;> rfl

end Recorded

end LinuxCalls
