/-
This file shows that what the kernel stores is read without loss. The fields of a layout tile its bytes, so the
value that a call gives lies in exactly the bytes of the buffer that the kernel has filled.
-/

import Mathlib.Logic.Function.Basic
import LinuxCalls.Proofs.Calls.Replies
import LinuxCalls.Proofs.Layout.Fields

namespace LinuxCalls

/-- A layout puts the values of a type into a fixed number of bytes without a gap and without an overlap. -/
structure Layout (α : Type) where
  size : Nat
  encode : α → Bytes
  decode : Bytes → α
  length_encode (value : α) : (encode value).length = size
  encode_inj (first second : α) : encode first = encode second → first = second
  encode_decode (bytes : Bytes) : bytes.length = size → encode (decode bytes) = bytes

namespace Layout

variable {α : Type}

/-- A value is found again in its bytes. -/
theorem decode_encode (layout : Layout α) (value : α) : layout.decode (layout.encode value) = value :=
  layout.encode_inj _ _ (layout.encode_decode _ (layout.length_encode value))

/-- Buffers of the size of a layout and its values stand for each other one to one. -/
theorem bijective (layout : Layout α) :
    Function.Bijective fun buffer : { bytes : Bytes // bytes.length = layout.size } => layout.decode buffer.val := by
  constructor
  · rintro ⟨first, fits⟩ ⟨second, fits'⟩ same
    have laid := congrArg layout.encode same
    dsimp only at laid
    rw [layout.encode_decode first fits, layout.encode_decode second fits'] at laid
    exact Subtype.ext laid
  · intro value
    exact ⟨⟨layout.encode value, layout.length_encode value⟩, layout.decode_encode value⟩

end Layout

namespace FileStatus

/-- Only one status has given bytes. -/
theorem encode_inj (first second : FileStatus) (same : first.encode = second.encode) : first = second := by
  unfold encode at same
  -- The fields are split off from the last one on, because all ends have the width of their field.
  simp (disch := simp only [Bytes.length_ofWord64, Bytes.length_ofInt64, Bytes.length_ofWord32, Bytes.length_ofInt32])
    only [Bytes.append_eq_append_iff_of_length, Bytes.ofWord64_inj, Bytes.ofInt64_inj, Bytes.ofWord32_inj,
      Bytes.ofInt32_inj, and_assoc] at same
  cases first
  cases second
  simpa only [mk.injEq] using same

/-- The fields of a status that is read from a buffer lie in the bytes of that buffer, one after the other. -/
theorem encode_decode (bytes : Bytes) (filled : bytes.length = layoutSize) : (decode bytes).encode = bytes := by
  have size : bytes.length = 144 := filled
  have whole : bytes.slice 0 144 = bytes := Bytes.slice_of_length size
  unfold encode decode
  dsimp only
  simp (disch := omega) only [Bytes.ofWord64_word64, Bytes.ofInt64_int64, Bytes.ofWord32_word32, Bytes.ofInt32_int32,
    Bytes.slice_append, Nat.reduceAdd, whole]

/-- A status has the size of its layout. -/
theorem length_encode (status : FileStatus) : status.encode.length = layoutSize := by
  unfold encode
  simp only [List.length_append, Bytes.length_ofWord64, Bytes.length_ofInt64, Bytes.length_ofWord32,
    Bytes.length_ofInt32]
  rfl

/-- The layout of a status. -/
def layout : Layout FileStatus := ⟨layoutSize, encode, decode, length_encode, encode_inj, encode_decode⟩

end FileStatus

/-- The layout of the two ends of a pipe. -/
def Descriptor.pairLayout : Layout (Descriptor × Descriptor) where
  size := 8
  encode ends := Bytes.ofInt32 ends.1 ++ Bytes.ofInt32 ends.2
  decode bytes := (bytes.int32 0, bytes.int32 4)
  length_encode ends := by rw [List.length_append, Bytes.length_ofInt32, Bytes.length_ofInt32]
  encode_inj first second same := by
    rw [Bytes.append_eq_append_iff_of_length (by rw [Bytes.length_ofInt32, Bytes.length_ofInt32]), Bytes.ofInt32_inj,
      Bytes.ofInt32_inj] at same
    exact Prod.ext same.1 same.2
  encode_decode bytes filled := by
    rw [Bytes.ofInt32_int32 (by omega), Bytes.ofInt32_int32 (by omega), Bytes.slice_append]
    exact Bytes.slice_of_length filled

/-- The layout of a set of signals. -/
def SignalSet.layout : Layout SignalSet where
  size := 8
  encode set := Bytes.ofWord64 set.bits
  decode bytes := ⟨bytes.word64 0⟩
  length_encode set := Bytes.length_ofWord64 set.bits
  encode_inj first second same := congrArg SignalSet.mk (Bytes.ofWord64_inj.mp same)
  encode_decode bytes filled := by
    rw [Bytes.ofWord64_word64 (by omega)]
    exact Bytes.slice_of_length filled

/-- A call whose value the kernel stores into a buffer. -/
inductive Fetch
  | status (descriptor : Descriptor)
  | pipe (flags : OpenFlags)
  | changeMask (how : MaskChange) (set : SignalSet)
  | currentMask

namespace Fetch

/-- The type of what a call gives. -/
def Value : Fetch → Type
  | status _ => FileStatus
  | pipe _ => Descriptor × Descriptor
  | changeMask _ _ | currentMask => SignalSet

/-- This action makes a call. -/
def run : (call : Fetch) → Sys call.Value
  | status descriptor => Descriptor.status descriptor
  | pipe flags => Descriptor.pipe flags
  | changeMask how set => SignalMask.change how set
  | currentMask => SignalMask.current

/-- How a value of a call lies in the buffer. -/
def layout : (call : Fetch) → Layout call.Value
  | status _ => FileStatus.layout
  | pipe _ => Descriptor.pairLayout
  | changeMask _ _ | currentMask => SignalSet.layout

/-- What the buffer holds before a call: two descriptors of -1 for a pipe, and zeros for all other calls. -/
def initial : Fetch → Bytes
  | status _ => Bytes.zeros 144
  | pipe _ => List.replicate 8 255
  | changeMask _ _ | currentMask => Bytes.zeros 8

/-- The kind of a call. -/
def kind : Fetch → CallKind
  | status _ => .status
  | pipe _ => .pipe
  | changeMask _ _ | currentMask => .signalMask

/-- The registers of a call, with the room for its buffer among them. -/
def registers : Fetch → List Register
  | status descriptor => [.ofInt32 descriptor, .room 144]
  | pipe flags => [.room 8, .ofUInt32 flags.bits]
  | changeMask how set => [.word how.number, .signals set.withoutReserved, .room 8, .ofLength 8]
  | currentMask => [.word MaskChange.block.number, .word 0, .room 8, .ofLength 8]

/-- The request of a call. -/
def request (call : Fetch) : Request := ⟨call.kind.number, CallKind.padded call.registers⟩

/-- A call reads its value from what the kernel has laid over the buffer. -/
theorem run_eq (call : Fetch) : call.run = call.kind.collect call.registers >>= fun stored =>
    Act.ofExcept (.ok (call.layout.decode (Bytes.overlay stored call.initial))) := by
  cases call with
  | pipe flags =>
    have initial : Bytes.ofInt32 (-1) ++ Bytes.ofInt32 (-1) = List.replicate 8 255 := by decide
    rw [run, Descriptor.pipe]
    unfold Descriptor.pipeEnds
    rw [initial]
    rfl
  | status | changeMask | currentMask => rfl

/-- The buffer has the size of the layout, and the request has room for as much. -/
theorem length_initial (call : Fetch) :
    call.initial.length = call.layout.size ∧ call.request.room = call.layout.size := by
  cases call <;> exact ⟨rfl, rfl⟩

/-- A call is one request, and what it gives is read from its buffer, unless the answer is an error. -/
theorem traces_run {call : Fetch} {machine : Machine} {word : UInt64} {bytes : Bytes}
    (gives : machine.Gives call.request word bytes) :
    call.run.Traces machine fun calls outcome _ => ∃ result : Except Errno call.Value,
      outcome = result.mapError .errno ∧ calls = [call.request.answered word] ∧
      (∀ error, RawReturn.decode word = .error error → result = .error error) ∧
      ∀ value, RawReturn.decode word = .ok value →
        result = .ok (call.layout.decode (Bytes.overlay bytes call.initial)) := by
  have kinds : call.kind ≠ .exit ∧ call.kind ≠ .duplicateOnto ∧ call.kind ≠ .write ∧
      call.registers.length ≤ CallKind.registerCount := by
    cases call <;> simp [kind, registers, CallKind.registerCount]
  obtain ⟨stays, never, other, few⟩ := kinds
  have cut : Bytes.overlay (bytes.take call.request.room) call.initial = Bytes.overlay bytes call.initial := by
    rw [call.length_initial.2, ← call.length_initial.1, Bytes.overlay_take]
  rw [run_eq, ← cut]
  exact CallKind.traces_collect_reply stays never other few gives _

/--
What the kernel stores is read without loss. A call that fills a buffer makes one request. If the answer is an
error, the call reports that error only, whatever was stored. Otherwise it gives a value that lies in exactly
the bytes of the buffer after the kernel has laid over it what it stores. Values and buffers stand for each other
one to one.
-/
theorem fetches_without_loss (call : Fetch) {machine : Machine} (ready : machine.LogReady) {word : UInt64}
    {bytes : Bytes} (gives : machine.Gives call.request word bytes) :
    (∃ after, machine.Makes [call.request.answered word] after ∧
      (∀ error, RawReturn.decode word = .error error → call.run machine = (.error (.errno error), after)) ∧
      ∀ value, RawReturn.decode word = .ok value → ∃ result, call.run machine = (.ok result, after) ∧
        call.layout.encode result = Bytes.overlay bytes call.initial) ∧
    Function.Bijective fun buffer : { bytes : Bytes // bytes.length = call.layout.size } =>
      call.layout.decode buffer.val := by
  obtain ⟨_, makes, result, ended, rfl, fails, succeeds⟩ := (traces_run gives).of_ready ready
  refine ⟨⟨_, makes, fun error failed => ?_, fun value succeeded => ?_⟩, call.layout.bijective⟩
  · rw [fails error failed] at ended
    exact Prod.ext ended rfl
  · rw [succeeds value succeeded] at ended
    refine ⟨_, Prod.ext ended rfl, call.layout.encode_decode _ ?_⟩
    rw [Bytes.length_overlay, call.length_initial.1]

/-- A kernel that stores six bytes only leaves two bytes of the second descriptor as they were. -/
theorem fetches_without_loss_short_pipe :
    let bytes : Bytes := [5, 0, 0, 0, 6, 0]
    let machine := Machine.start ⟨[(.call .pipe, [{ word := some 0, stored := some bytes }])]⟩ (.upTo .trace)
    let call := pipe OpenFlags.closeOnExec
    machine.LogReady ∧ machine.Gives call.request 0 bytes ∧ ∃ result after, call.run machine = (.ok result, after) ∧
      machine.Makes [call.request.answered 0] after ∧
      call.layout.encode result = [5, 0, 0, 0, 6, 0, 255, 255] := by
  intro bytes machine call
  have ready : machine.LogReady := .inr (.inr (by decide))
  have gives : machine.Gives call.request 0 bytes := by decide
  obtain ⟨after, makes, -, succeeds⟩ := (fetches_without_loss call ready gives).1
  obtain ⟨result, ended, laid⟩ := succeeds 0 (by decide)
  exact ⟨ready, gives, result, after, ended, makes, laid⟩

end Fetch

end LinuxCalls
