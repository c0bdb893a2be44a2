/-
This file relates a field to its bytes in both directions: a number is laid out in bytes that stand for it, and
the field at an offset has the bytes that lie there. Fields that follow one another make up a layout.
-/

import Mathlib.Algebra.Group.Nat.Defs
import Mathlib.Data.List.Basic
import LinuxCalls.Bytes

namespace LinuxCalls

namespace Bytes

/-- The bytes of a number stand for that number as far as they are wide enough. -/
theorem toNat_ofNat (width value : Nat) : toNat (ofNat width value) = value % 256 ^ width := by
  induction width generalizing value with
  | zero => simp [ofNat, toNat, Nat.mod_one]
  | succ width step =>
    have low : (UInt8.ofNat value).toNat = value % 256 := UInt8.toNat_ofNat'
    rw [ofNat, toNat, step, low, Nat.pow_succ', Nat.mod_mul]

/-- Bytes stand for a number that they are wide enough for. -/
theorem toNat_lt (bytes : Bytes) : toNat bytes < 256 ^ bytes.length := by
  induction bytes with
  | nil => exact Nat.one_pos
  | cons byte bytes step =>
    have small := byte.toNat_lt
    rw [toNat, List.length_cons, Nat.pow_succ']
    omega

/-- The number that bytes stand for is laid out in those bytes. -/
theorem ofNat_toNat (bytes : Bytes) : ofNat bytes.length (toNat bytes) = bytes := by
  induction bytes with
  | nil => rfl
  | cons byte bytes step =>
    have small := byte.toNat_lt
    have low : UInt8.ofNat (byte.toNat + 256 * toNat bytes) = byte := by
      apply UInt8.toNat_inj.mp
      rw [UInt8.toNat_ofNat']
      omega
    have high : (byte.toNat + 256 * toNat bytes) / 256 = toNat bytes := by omega
    rw [List.length_cons, toNat, ofNat, low, high, step]

/-- The number that bytes stand for when the most significant bit is a sign. -/
def toSigned (bytes : Bytes) : Int := (toNat bytes : Int).bmod (256 ^ bytes.length)

/-- The bytes of the given number at an offset. -/
def slice (bytes : Bytes) (offset width : Nat) : Bytes := (bytes.drop offset).take width

/-- A slice that lies inside has its width. -/
theorem length_slice {bytes : Bytes} {offset width : Nat} (inside : offset + width ≤ bytes.length) :
    (bytes.slice offset width).length = width := by
  rw [slice, List.length_take, List.length_drop]
  omega

/-- A slice at the start and the slice that follows it make up a slice at the start. -/
theorem slice_append (bytes : Bytes) (middle width : Nat) :
    bytes.slice 0 middle ++ bytes.slice middle width = bytes.slice 0 (middle + width) :=
  List.take_add.symm

/-- The slice at the start that is as wide as the bytes is all of them. -/
theorem slice_of_length {bytes : Bytes} {width : Nat} (filled : bytes.length = width) : bytes.slice 0 width = bytes :=
  List.take_of_length_le (Nat.le_of_eq filled)

/-- Only as many bytes as a buffer has are laid over it. -/
theorem overlay_take (bytes buffer : Bytes) : overlay (bytes.take buffer.length) buffer = overlay bytes buffer := by
  rw [overlay, overlay, List.take_take, Nat.min_self, List.length_take]
  by_cases short : bytes.length ≤ buffer.length
  · rw [Nat.min_eq_right short]
  · rw [Nat.min_eq_left (by omega), List.drop_length, List.drop_of_length_le (by omega)]

/-- Bytes with ends of one length are the same exactly if what is before the ends and the ends are. -/
theorem append_eq_append_iff_of_length {first second tail tail' : Bytes} (same : tail.length = tail'.length) :
    first ++ tail = second ++ tail' ↔ first = second ∧ tail = tail' := by
  refine ⟨fun joined => List.append_inj' joined same, ?_⟩
  rintro ⟨rfl, rfl⟩
  rfl

section Words

variable {bytes : Bytes} {offset : Nat}

/-- An unsigned 32-bit field has four bytes. -/
@[simp] theorem length_ofWord32 (word : UInt32) : (ofWord32 word).length = 4 := length_ofNat _ _

/-- A signed 32-bit field has four bytes. -/
@[simp] theorem length_ofInt32 (value : Int32) : (ofInt32 value).length = 4 := length_ofNat _ _

/-- An unsigned 64-bit field has eight bytes. -/
@[simp] theorem length_ofWord64 (word : UInt64) : (ofWord64 word).length = 8 := length_ofNat _ _

/-- A signed 64-bit field has eight bytes. -/
@[simp] theorem length_ofInt64 (value : Int64) : (ofInt64 value).length = 8 := length_ofNat _ _

/-- The bytes of a 32-bit word stand for that word. -/
theorem toNat_ofWord32 (word : UInt32) : toNat (ofWord32 word) = word.toNat := by
  rw [ofWord32, toNat_ofNat]
  exact Nat.mod_eq_of_lt word.toNat_lt

/-- The bytes of a word stand for that word. -/
theorem toNat_ofWord64 (word : UInt64) : toNat (ofWord64 word) = word.toNat := by
  rw [ofWord64, toNat_ofNat]
  exact Nat.mod_eq_of_lt word.toNat_lt

/-- Only one unsigned 32-bit number has given bytes. -/
theorem ofWord32_inj {first second : UInt32} : ofWord32 first = ofWord32 second ↔ first = second := by
  refine ⟨fun same => ?_, congrArg ofWord32⟩
  rw [← UInt32.toNat_inj, ← toNat_ofWord32, same, toNat_ofWord32]

/-- Only one signed 32-bit number has given bytes. -/
theorem ofInt32_inj {first second : Int32} : ofInt32 first = ofInt32 second ↔ first = second := by
  rw [ofInt32, ofInt32, ofWord32_inj]
  refine ⟨fun same => ?_, congrArg Int32.toUInt32⟩
  rw [← Int32.toInt32_toUInt32 first, same, Int32.toInt32_toUInt32]

/-- Only one unsigned 64-bit number has given bytes. -/
theorem ofWord64_inj {first second : UInt64} : ofWord64 first = ofWord64 second ↔ first = second := by
  refine ⟨fun same => ?_, congrArg ofWord64⟩
  rw [← UInt64.toNat_inj, ← toNat_ofWord64, same, toNat_ofWord64]

/-- Only one signed 64-bit number has given bytes. -/
theorem ofInt64_inj {first second : Int64} : ofInt64 first = ofInt64 second ↔ first = second := by
  rw [ofInt64, ofInt64, ofWord64_inj]
  refine ⟨fun same => ?_, congrArg Int64.toUInt64⟩
  rw [← Int64.toInt64_toUInt64 first, same, Int64.toInt64_toUInt64]

/-- An unsigned 32-bit field inside a layout is the number that its bytes stand for. -/
theorem toNat_word32 (inside : offset + 4 ≤ bytes.length) :
    (bytes.word32 offset).toNat = toNat (bytes.slice offset 4) := by
  have small := toNat_lt (bytes.slice offset 4)
  rw [length_slice inside] at small
  exact Nat.mod_eq_of_lt small

/-- A signed 32-bit field inside a layout is the signed number that its bytes stand for. -/
theorem toInt_int32 (inside : offset + 4 ≤ bytes.length) :
    (bytes.int32 offset).toInt = toSigned (bytes.slice offset 4) := by
  have word : (bytes.int32 offset).toInt = ((bytes.word32 offset).toNat : Int).bmod (2 ^ 32) :=
    BitVec.toInt_eq_toNat_bmod _
  rw [word, toNat_word32 inside, toSigned, length_slice inside]
  rfl

/-- An unsigned 64-bit field inside a layout is the number that its bytes stand for. -/
theorem toNat_word64 (inside : offset + 8 ≤ bytes.length) :
    (bytes.word64 offset).toNat = toNat (bytes.slice offset 8) := by
  have small := toNat_lt (bytes.slice offset 8)
  rw [length_slice inside] at small
  exact Nat.mod_eq_of_lt small

/-- An unsigned 32-bit field inside a layout has the bytes that lie there. -/
theorem ofWord32_word32 (inside : offset + 4 ≤ bytes.length) :
    ofWord32 (bytes.word32 offset) = bytes.slice offset 4 := by
  have laid := ofNat_toNat (bytes.slice offset 4)
  rwa [length_slice inside, ← toNat_word32 inside] at laid

/-- A signed 32-bit field inside a layout has the bytes that lie there. -/
theorem ofInt32_int32 (inside : offset + 4 ≤ bytes.length) : ofInt32 (bytes.int32 offset) = bytes.slice offset 4 := by
  rw [← ofWord32_word32 inside, ofInt32, int32, UInt32.toUInt32_toInt32]

/-- An unsigned 64-bit field inside a layout has the bytes that lie there. -/
theorem ofWord64_word64 (inside : offset + 8 ≤ bytes.length) :
    ofWord64 (bytes.word64 offset) = bytes.slice offset 8 := by
  have laid := ofNat_toNat (bytes.slice offset 8)
  rwa [length_slice inside, ← toNat_word64 inside] at laid

/-- A signed 64-bit field inside a layout has the bytes that lie there. -/
theorem ofInt64_int64 (inside : offset + 8 ≤ bytes.length) : ofInt64 (bytes.int64 offset) = bytes.slice offset 8 := by
  rw [← ofWord64_word64 inside, ofInt64, int64, UInt64.toUInt64_toInt64]

end Words

end Bytes

end LinuxCalls
