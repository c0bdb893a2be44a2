/-
This file holds rows of transfers. A stream asks its device for one transfer after the other: each of them passes,
and one that stops the stream is the last of the row.
-/

import LinuxCalls.Proofs.Calls.Devices
import LinuxCalls.Proofs.Stream.FormattedWrites

namespace LinuxCalls

open Act (Still Traces)

/-- Calls in a row pass, or they pass up to one that stops the row, of which an error comes. -/
inductive Row (passes stops : Event → Prop) : List Event → Option Errno → Prop
  | passed {calls : List Event} (passing : ∀ call ∈ calls, passes call) : Row passes stops calls none
  | stopped {calls : List Event} {call : Event} {error : Errno} (passing : ∀ call ∈ calls, passes call)
      (last : stops call) : Row passes stops (calls ++ [call]) (some error)

namespace Row

variable {passes stops : Event → Prop} {calls : List Event}

/-- Without an error all calls pass. -/
theorem passing (row : Row passes stops calls none) : ∀ call ∈ calls, passes call := by
  cases row with
  | passed passing => exact passing

/-- Some call of a row with an error stops it. -/
theorem exists_stops {error : Errno} (row : Row passes stops calls (some error)) : ∃ call ∈ calls, stops call := by
  cases row with
  | stopped _ last => exact ⟨_, List.mem_append_right _ List.mem_cons_self, last⟩

/-- Calls that pass come before the rest of a row. -/
theorem prepend {earlier : List Event} {error? : Option Errno} (passing : ∀ call ∈ earlier, passes call)
    (row : Row passes stops calls error?) : Row passes stops (earlier ++ calls) error? := by
  cases row with
  | passed more => exact .passed fun call member => (List.mem_append.mp member).elim (passing call) (more call)
  | stopped more last =>
    rw [← List.append_assoc]
    exact .stopped (fun call member => (List.mem_append.mp member).elim (passing call) (more call)) last

end Row

namespace Act

variable {σ τ ρ α β : Type}

/-- What an action has done that makes a row of transfers, when it ends. It never exits. -/
structure InRow (keeps : σ → Prop) (passes stops : Event → Prop) (failure : α → Option Errno) (calls : List Event)
    (outcome : Except Fault α) (next : σ) : Prop where
  kept : keeps next
  stays : ∀ status, outcome ≠ .error (.exit status)
  row : Row passes stops calls (reported failure outcome)

/-- An action makes a row of transfers, and the error that it reports comes of the one that stops it. -/
def Rows [HasMachine σ] (keeps : σ → Prop) (passes stops : Event → Prop) (failure : α → Option Errno)
    (act : Act σ α) : Prop :=
  ∀ state, keeps state → act.Traces state (InRow keeps passes stops failure)

namespace Rows

section Control

variable [HasMachine σ] {keeps : σ → Prop} {passes stops : Event → Prop} {failure : α → Option Errno}
  {failure' : β → Option Errno}

/-- An action that changes no machine and gives a value without an error makes no transfer. -/
theorem of_silent {act : Act σ α} (silent : ∀ state, keeps state → ∃ value next, act state = (.ok value, next) ∧
    machine next = machine state ∧ keeps next ∧ failure value = none) : Rows keeps passes stops failure act := by
  intro state kept
  obtain ⟨value, next, ended, same, kept, fine⟩ := silent state kept
  have makes : (machine state).Makes [] (machine next) := by
    rw [same]
    exact .nothing _
  have row : Row passes stops [] (failure value) := by
    rw [fine]
    exact .passed nofun
  exact .of_eq ended makes ⟨kept, nofun, row⟩

theorem pure {value : α} (fine : failure value = none) :
    Rows keeps passes stops failure (Pure.pure value : Act σ α) :=
  of_silent fun state kept => ⟨value, state, rfl, rfl, kept, fine⟩

theorem panic : Rows keeps passes stops failure (Act.panic : Act σ α) := fun _ kept =>
  .fault ⟨kept, nofun, .passed nofun⟩

/-- Transfers go on after transfers that pass, and after one that stops them its error is handed on. -/
theorem bind {first : Act σ α} {second : α → Act σ β} (head : Rows keeps passes stops failure first)
    (onwards : ∀ value, failure value = none → Rows keeps passes stops failure' (second value))
    (failed : ∀ value error, failure value = some error → Still keeps failure' (some error) (second value)) :
    Rows keeps passes stops failure' (first >>= second) := by
  intro state kept
  apply (head state kept).bind
  · intro calls value middle done
    have row : Row passes stops calls (failure value) := done.row
    cases fine : failure value with
    | none =>
      rw [fine] at row
      refine (onwards value fine middle done.kept).mono fun more outcome next rest => ?_
      exact ⟨rest.kept, rest.stays, rest.row.prepend row.passing⟩
    | some error =>
      obtain ⟨same, kept, equal⟩ := failed value error fine middle done.kept
      apply Traces.of_still same
      rw [List.append_nil]
      refine ⟨kept, fun status exits => ?_, equal ▸ fine ▸ row⟩
      rw [exits] at equal
      contradiction
  · rintro calls reason next ⟨kept, stays, row⟩
    refine ⟨kept, fun status exits => stays status ?_, ?_⟩
    · exact congrArg Except.error (Except.error.inj exits)
    · cases reason <;> exact row

theorem bind_pure {first : Act σ α} {change : α → β} (head : Rows keeps passes stops failure first)
    (same : ∀ value, failure' (change value) = failure value) :
    Rows keeps passes stops failure' (first >>= fun value => Pure.pure (change value)) := by
  refine head.bind (fun value fine => pure ((same value).trans fine)) fun value error failed => ?_
  rw [← failed, ← same value]
  exact .pure _

/-- An attempt makes the same transfers, and its value holds the error. -/
theorem attempt {act : Act σ α} (rows : Rows keeps passes stops failure act) :
    Rows keeps passes stops (fun result => reported failure (result.mapError .errno)) act.attempt := by
  intro state kept
  apply (rows state kept).attempt
  · rintro calls value next ⟨kept, -, row⟩
    exact ⟨kept, nofun, row⟩
  · rintro calls error next ⟨kept, -, row⟩
    exact ⟨kept, nofun, row⟩
  · rintro calls next ⟨kept, -, row⟩
    exact ⟨kept, nofun, row⟩
  · rintro calls status next ⟨-, stays, -⟩
    exact absurd rfl (stays status)

theorem get_bind {second : σ → Act σ β} (rows : ∀ state, Rows keeps passes stops failure' (second state)) :
    Rows keeps passes stops failure' (Act.get >>= second) := fun state kept => rows state state kept

/-- Changing what stands beside the machine first makes no transfer. -/
theorem modify_bind {change : σ → σ} {second : Unit → Act σ β}
    (still : ∀ state, machine (change state) = machine state) (remains : ∀ state, keeps state → keeps (change state))
    (rows : Rows keeps passes stops failure' (second ())) :
    Rows keeps passes stops failure' (Act.modify change >>= second) := fun state kept =>
  .modify_bind (still state) (rows (change state) (remains state kept))

end Control

theorem focus [HasMachine σ] [HasMachine τ] {keeps : σ → Prop} {keeps' : τ → Prop} {passes stops : Event → Prop}
    {failure : α → Option Errno} {part : σ → τ} {replace : σ → τ → σ} {act : Act τ α}
    (parts : ∀ state, machine (part state) = machine state)
    (replaced : ∀ state next, machine (replace state next) = machine next)
    (goes : ∀ state, keeps state → keeps' (part state))
    (comes : ∀ state next, keeps' next → keeps (replace state next))
    (rows : Rows keeps' passes stops failure act) : Rows keeps passes stops failure (Act.focus part replace act) := by
  intro state kept
  apply Traces.focus (parts state) (replaced state)
  refine (rows (part state) (goes state kept)).mono ?_
  rintro calls outcome next ⟨kept, stays, row⟩
  exact ⟨comes state next kept, stays, row⟩

end Rows

end Act

open Act (Rows)

variable {δ : Type}

/-- A write that accepts nothing gives up as one with an error does. -/
def declined? (count : Nat) : Option Errno := if count = 0 then some Errno.transferFailed else none

/-- Each write to a sink is a row of transfers. -/
def Sink.Rows (δ : Type) [Sink δ] (keeps : δ × Machine → Prop) (passes stops : Event → Prop) : Prop :=
  ∀ offered, Act.Rows keeps passes stops declined? (Sink.write offered : Act (δ × Machine) Nat)

/-- Each read from a source is a row of transfers. -/
def Source.Rows (δ : Type) [Source δ] (keeps : δ × Machine → Prop) (passes stops : Event → Prop) : Prop :=
  ∀ buffer, Act.Rows keeps passes stops (fun reading => attempted? reading.count)
    (Source.read buffer : Act (δ × Machine) Reading)

variable {keeps : δ × Machine → Prop} {passes stops : Event → Prop}

namespace Writer

variable [Sink δ]

end Writer

namespace Reader

variable [Source δ]

end Reader

namespace Descriptor

variable {descriptor : Descriptor} {call : Event}

/-- Bytes are written to a descriptor, and the answer is decoded to a result. -/
def Wrote (descriptor : Descriptor) (answer : Except Errno UInt64) (call : Event) : Prop :=
  ∃ bytes word, RawReturn.decode word = answer ∧ call = (writing descriptor bytes).answered word

/-- A write to a descriptor accepts some bytes. -/
def Accepts (descriptor : Descriptor) (call : Event) : Prop := ∃ count, count ≠ 0 ∧ Wrote descriptor (.ok count) call

/-- A write to a descriptor has an error, or it accepts nothing. -/
def Declines (descriptor : Descriptor) (call : Event) : Prop :=
  (∃ error, Wrote descriptor (.error error) call) ∨ Wrote descriptor (.ok 0) call

/-- The request to read from a descriptor into some room. -/
def reading (descriptor : Descriptor) (size : Nat) : Request :=
  ⟨CallKind.read.number, CallKind.padded [.ofInt32 descriptor, .room size, .ofLength size]⟩

/-- Bytes are read from a descriptor, and the answer is decoded to a result. -/
def HasRead (descriptor : Descriptor) (answer : Except Errno UInt64) (call : Event) : Prop :=
  ∃ size word, RawReturn.decode word = answer ∧ call = (reading descriptor size).answered word

/-- A read from a descriptor has a count, which is zero at the end of the input. -/
def Delivers (descriptor : Descriptor) (call : Event) : Prop := ∃ count, HasRead descriptor (.ok count) call

/-- A read from a descriptor has an error. -/
def Refuses (descriptor : Descriptor) (call : Event) : Prop := ∃ error, HasRead descriptor (.error error) call

/-- A write does not both accept some bytes and decline them. -/
theorem Accepts.not_declines {other : Descriptor} (accepts : Accepts descriptor call) : ¬ Declines other call := by
  obtain ⟨count, some, _, word, decoded, rfl⟩ := accepts
  rintro (⟨error, _, word', failed, same⟩ | ⟨_, word', none, same⟩) <;>
    have words : word = word' := Option.some.inj (congrArg Event.word same) <;> subst words
  · exact nomatch decoded.symm.trans failed
  · exact some (Except.ok.inj (decoded.symm.trans none))

/-- A read does not both deliver bytes and refuse to. -/
theorem Delivers.not_refuses {other : Descriptor} (delivers : Delivers descriptor call) : ¬ Refuses other call := by
  obtain ⟨count, _, word, decoded, rfl⟩ := delivers
  rintro ⟨error, _, word', failed, same⟩
  have words : word = word' := Option.some.inj (congrArg Event.word same)
  subst words
  exact nomatch decoded.symm.trans failed

/-- A read asks one descriptor. -/
theorem Delivers.unique {other : Descriptor} (delivers : Delivers descriptor call) (again : Delivers other call) :
    descriptor = other := by
  obtain ⟨_, _, _, -, rfl⟩ := delivers
  obtain ⟨_, _, _, -, same⟩ := again
  have registers := congrArg Request.registers (Question.kernel.inj (congrArg Event.question same))
  exact ofInt32_inj.mp (List.cons.inj registers).1

end Descriptor

end LinuxCalls
