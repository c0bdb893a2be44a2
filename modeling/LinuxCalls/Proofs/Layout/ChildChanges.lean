/-
This file shows how a wait reads what the kernel has stored about a child. Five fields decide what it gives, and
the bytes between and behind them make no difference.
-/

import LinuxCalls.Process
import LinuxCalls.Proofs.Calls.Replies
import LinuxCalls.Proofs.Layout.Fields

namespace LinuxCalls

namespace Bytes

/-- A signed 32-bit field is zero exactly if its bytes are. -/
theorem int32_eq_zero_iff {bytes : Bytes} {offset : Nat} (inside : offset + 4 ≤ bytes.length) :
    bytes.int32 offset = 0 ↔ bytes.slice offset 4 = zeros 4 := by
  have zero : ofInt32 0 = zeros 4 := by decide
  rw [← ofInt32_inj, ofInt32_int32 inside, zero]

/-- A signed number is that of a field exactly if it is the number that the bytes of the field stand for. -/
theorem toInt_eq_toSigned_iff {bytes : Bytes} {offset : Nat} (inside : offset + 4 ≤ bytes.length) (value : Int32) :
    value.toInt = toSigned (bytes.slice offset 4) ↔ value = bytes.int32 offset := by
  rw [← toInt_int32 inside, Int32.toInt_inj]

/-- The bytes of a signed 32-bit number stand for that number. -/
theorem toSigned_ofInt32 (value : Int32) : toSigned (ofInt32 value) = value.toInt := by
  rw [toSigned, ofInt32, toNat_ofWord32, length_ofWord32]
  exact (BitVec.toInt_eq_toNat_bmod value.toBitVec).symm

end Bytes

namespace ChildState

/-- A state is found by its code. -/
theorem ofCode?_eq_some_iff (code : Int32) (state : ChildState) : ofCode? code = some state ↔ state.code = code := by
  constructor
  · unfold ofCode?
    grind [ChildState.code]
  · rintro rfl
    cases state <;> decide

/-- The codes of states are those from 1 to 6. -/
theorem ofCode?_eq_none_iff (code : Int32) : ofCode? code = none ↔ code.toInt < 1 ∨ 6 < code.toInt := by
  have named (number : Int32) : code = number ↔ code.toInt = number.toInt := Int32.toInt_inj.symm
  have numbers : (1 : Int32).toInt = 1 ∧ (2 : Int32).toInt = 2 ∧ (3 : Int32).toInt = 3 ∧ (4 : Int32).toInt = 4 ∧
      (5 : Int32).toInt = 5 ∧ (6 : Int32).toInt = 6 := by decide
  simp only [ofCode?, named, numbers]
  grind

end ChildState

namespace WaitStatus

/-- The fields of a change are the numbers that lie at their places in a layout. -/
structure LiesIn (change : WaitStatus) (layout : Bytes) : Prop where
  signal : change.signal.toInt = Bytes.toSigned (layout.slice 0 4)
  state : change.state.code.toInt = Bytes.toSigned (layout.slice 8 4)
  process : change.process.toInt = Bytes.toSigned (layout.slice 16 4)
  user : change.user.toNat = Bytes.toNat (layout.slice 20 4)
  status : change.status.toInt = Bytes.toSigned (layout.slice 24 4)

/-- A layout has no code of a state. -/
def IsUnknown (layout : Bytes) : Prop :=
  Bytes.toSigned (layout.slice 8 4) < 1 ∨ 6 < Bytes.toSigned (layout.slice 8 4)

variable {layout : Bytes}

/-- A code is unknown if no state is found by it. -/
theorem isUnknown_iff (filled : layout.length = layoutSize) :
    IsUnknown layout ↔ ChildState.ofCode? (layout.int32 8) = none := by
  have size : layout.length = 128 := filled
  rw [ChildState.ofCode?_eq_none_iff, Bytes.toInt_int32 (by omega), IsUnknown]

/-- A layout is rejected exactly if there is a process and the code is unknown. -/
theorem decode_eq_error_iff (filled : layout.length = layoutSize) : decode layout = .error Errno.invalidArgument ↔
    layout.slice 16 4 ≠ Bytes.zeros 4 ∧ IsUnknown layout := by
  have size : layout.length = 128 := filled
  rw [isUnknown_iff filled, ne_eq, ← Bytes.int32_eq_zero_iff (by omega), decode]
  by_cases none : layout.int32 16 = 0
  · simp [none]
  · cases ChildState.ofCode? (layout.int32 8) <;> simp [none]

/-- A change lies in a layout if its fields are those of the layout. -/
theorem liesIn_iff (filled : layout.length = layoutSize) (change : WaitStatus) : change.LiesIn layout ↔
    change.signal = layout.int32 0 ∧ ChildState.ofCode? (layout.int32 8) = some change.state ∧
      change.process = layout.int32 16 ∧ change.user = layout.word32 20 ∧ change.status = layout.int32 24 := by
  have size : layout.length = 128 := filled
  rw [ChildState.ofCode?_eq_some_iff, ← UInt32.toNat_inj, Bytes.toNat_word32 (by omega)]
  rw [← Bytes.toInt_eq_toSigned_iff (by omega), ← Bytes.toInt_eq_toSigned_iff (by omega),
    ← Bytes.toInt_eq_toSigned_iff (by omega), ← Bytes.toInt_eq_toSigned_iff (by omega)]
  constructor
  · rintro ⟨signal, state, process, user, status⟩
    exact ⟨signal, state, process, user, status⟩
  · rintro ⟨signal, state, process, user, status⟩
    exact ⟨signal, state, process, user, status⟩

/-- A layout is read as a change exactly if there is a process and the change lies there. -/
theorem decode_eq_some_iff (filled : layout.length = layoutSize) (change : WaitStatus) :
    decode layout = .ok (some change) ↔ layout.slice 16 4 ≠ Bytes.zeros 4 ∧ change.LiesIn layout := by
  have size : layout.length = 128 := filled
  rw [liesIn_iff filled, ne_eq, ← Bytes.int32_eq_zero_iff (by omega), decode]
  by_cases none : layout.int32 16 = 0
  · simp [none]
  · rw [if_neg none, and_iff_right none]
    obtain ⟨process, user, signal, status, state⟩ := change
    cases ChildState.ofCode? (layout.int32 8) with
    | none => simp
    | some found =>
      simp only [Except.ok.injEq, Option.some.injEq, mk.injEq]
      grind

/-- The fields that are laid out lie at their places, and there are as many bytes as the kernel fills. -/
theorem liesIn_encode (change : WaitStatus) : change.encode.length = layoutSize ∧ change.LiesIn change.encode := by
  refine ⟨rfl, ?_, ?_, ?_, ?_, ?_⟩
  · exact (Bytes.toSigned_ofInt32 change.signal).symm
  · exact (Bytes.toSigned_ofInt32 change.state.code).symm
  · exact (Bytes.toSigned_ofInt32 change.process).symm
  · exact (Bytes.toNat_ofWord32 change.user).symm
  · exact (Bytes.toSigned_ofInt32 change.status).symm

/-- A change of a process other than zero is read from its own layout. -/
theorem decode_encode {change : WaitStatus} (some : change.process ≠ 0) :
    decode change.encode = .ok (Option.some change) := by
  obtain ⟨filled, lies⟩ := liesIn_encode change
  refine (decode_eq_some_iff filled change).mpr ⟨fun none => some ?_, lies⟩
  have zero : change.process.toInt = (0 : Int32).toInt := by
    rw [lies.process, none]
    decide
  exact Int32.toInt_inj.mp zero

end WaitStatus

namespace Process

/-- The request that waits for a target. -/
def waiting (target : WaitTarget) (options : WaitOptions) : Request :=
  ⟨CallKind.wait.number, CallKind.padded [.word target.kindNumber, .ofInt32 target.identifier, .room 128,
    .ofUInt32 options.bits, .word 0]⟩

/-- What the kernel leaves in the buffer of a wait, where zeros remain behind the bytes that it stores. -/
def buffer (bytes : Bytes) : Bytes := Bytes.overlay bytes (Bytes.zeros 128)

variable {target : WaitTarget} {options : WaitOptions} {machine : Machine} {word : UInt64} {bytes : Bytes}

/-- A wait is one request, and what it gives is read from its buffer, unless the answer is an error. -/
theorem traces_wait_reply (gives : machine.Gives (waiting target options) word bytes) :
    (wait target options).Traces machine fun calls outcome _ => ∃ result : Except Errno (Option WaitStatus),
      outcome = result.mapError .errno ∧ calls = [(waiting target options).answered word] ∧
      (∀ error, RawReturn.decode word = .error error → result = .error error) ∧
      ∀ value, RawReturn.decode word = .ok value → result = WaitStatus.decode (buffer bytes) := by
  have cut : Bytes.overlay (bytes.take 128) (Bytes.zeros 128) = buffer bytes :=
    Bytes.overlay_take bytes (Bytes.zeros 128)
  rw [← cut]
  exact CallKind.traces_collect_reply (by decide) (by decide) (by decide) (by simp [CallKind.registerCount]) gives
    fun stored => WaitStatus.decode (Bytes.overlay stored (Bytes.zeros WaitStatus.layoutSize))

end Process

end LinuxCalls
