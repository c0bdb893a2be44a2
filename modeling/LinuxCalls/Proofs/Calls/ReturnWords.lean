/-
This file shows that words and results stand for each other. Every word is the word of the result that it
stands for, and a result is found again exactly if the kernel can mean it. No arithmetic on the way overflows.
-/

import Mathlib.Algebra.Group.Nat.Defs
import LinuxCalls.RawReturn

namespace LinuxCalls.RawReturn

/-- A result that the kernel can mean: a value below the words for errors, or an error from 1 to 4095. -/
def IsCanonical : Except Errno UInt64 → Prop
  | .ok value => value.toNat < 2 ^ 64 - 4095
  | .error error => 1 ≤ error.raw.toInt ∧ error.raw.toInt ≤ 4095

/-- A word is an error if it is the negation of a number from 1 to 4095. -/
theorem isError_iff (word : UInt64) : (-Errno.largest.toInt64 ≤ word.toInt64 ∧ word.toInt64 < 0) ↔
    -4095 ≤ word.toInt64.toInt ∧ word.toInt64.toInt < 0 := by
  rw [Int64.le_iff_toInt_le, Int64.lt_iff_toInt_lt]
  rfl

/-- The words for errors are the largest ones. -/
theorem isError_iff_toNat (word : UInt64) :
    (-4095 ≤ word.toInt64.toInt ∧ word.toInt64.toInt < 0) ↔ 2 ^ 64 - 4095 ≤ word.toNat := by
  have small := word.toNat_lt
  have signed : word.toInt64.toInt = (word.toNat : Int).bmod (2 ^ 64) := BitVec.toInt_eq_toNat_bmod word.toBitVec
  rw [signed, Int.bmod_def]
  omega

/-- A number from -4095 to -1 is negated to the exact number, and that number fits into 32 bits. -/
theorem toInt_negated {signed : Int64} (least : -4095 ≤ signed.toInt) (negative : signed.toInt < 0) :
    (-signed).toInt = -signed.toInt ∧ (-signed).toInt32.toInt = -signed.toInt := by
  simp only [Int64.toInt_neg, Int64.toInt_toInt32, Int.bmod_def]
  omega

/-- A word stands for an error from 1 to 4095 exactly if it is the negation of that error. -/
theorem decode_eq_error_iff (word : UInt64) (error : Errno) : decode word = .error error ↔
    1 ≤ error.raw.toInt ∧ error.raw.toInt ≤ 4095 ∧ word.toInt64.toInt = -error.raw.toInt := by
  by_cases inside : -4095 ≤ word.toInt64.toInt ∧ word.toInt64.toInt < 0
  · obtain ⟨-, narrow⟩ := toInt_negated inside.1 inside.2
    rw [decode, if_pos ((isError_iff word).mpr inside), Except.error.injEq]
    constructor
    · rintro rfl
      rw [narrow]
      omega
    · rintro ⟨-, -, same⟩
      have raw : (-word.toInt64).toInt32 = error.raw := Int32.toInt_inj.mp (by omega)
      rw [raw]
  · rw [decode, if_neg (mt (isError_iff word).mp inside)]
    constructor
    · intro same
      contradiction
    · rintro ⟨least, most, same⟩
      exact absurd ⟨by omega, by omega⟩ inside

/-- Every word that is no error stands for itself. -/
theorem decode_eq_ok_iff (word : UInt64) : decode word = .ok word ↔ word.toNat < 2 ^ 64 - 4095 := by
  have outside := (isError_iff word).trans (isError_iff_toNat word)
  rw [← Nat.not_le, ← outside, decode]
  split
  · rename_i inside
    refine iff_of_false (fun same => ?_) fun outside => outside inside
    contradiction
  · rename_i outside
    exact iff_of_true rfl outside

/-- The word of an error is its exact negation. -/
theorem toInt_encode (error : Errno) : (encode (.error error)).toInt64.toInt = -error.raw.toInt := by
  have least := error.raw.le_toInt
  have most := error.raw.toInt_lt
  simp only [encode, Int64.toInt64_toUInt64, Int64.toInt_neg, Int32.toInt_toInt64, Int.bmod_def]
  omega

/-- Every word is the word of the result that it stands for. -/
theorem encode_decode (word : UInt64) : encode (decode word) = word := by
  cases decoded : decode word with
  | ok value => exact (eq_of_decode_eq_ok decoded).1
  | error error =>
    obtain ⟨-, -, same⟩ := (decode_eq_error_iff word error).mp decoded
    rw [← toInt_encode, Int64.toInt_inj] at same
    rw [← UInt64.toUInt64_toInt64 word, same, UInt64.toUInt64_toInt64]

/-- A result is found again in its word exactly if the kernel can mean it. -/
theorem decode_encode_iff (result : Except Errno UInt64) : decode (encode result) = result ↔ IsCanonical result := by
  cases result with
  | ok value => exact decode_eq_ok_iff value
  | error error => rw [decode_eq_error_iff, toInt_encode, IsCanonical, ← and_assoc, and_iff_left rfl]

/-- The negation of a number, unless the exact number needs more than 64 bits. -/
def negated? (value : Int64) : Option Int64 := if (-value).toInt = -value.toInt then some (-value) else none

/-- A number in 32 bits, unless the exact number needs more. -/
def narrowed? (value : Int64) : Option Int32 :=
  if value.toInt32.toInt = value.toInt then some value.toInt32 else none

/-- What a word stands for, unless a step on the way there overflows. -/
def decodeChecked (word : UInt64) : Option (Except Errno UInt64) := do
  let least ← negated? Errno.largest.toInt64
  if least ≤ word.toInt64 ∧ word.toInt64 < 0 then
    let negation ← negated? word.toInt64
    let raw ← narrowed? negation
    return .error ⟨raw⟩
  else
    return .ok word

/-- The word of a result, unless a step on the way there overflows. -/
def encodeChecked : Except Errno UInt64 → Option UInt64
  | .ok value => some value
  | .error error => (negated? error.raw.toInt64).map Int64.toUInt64

/-- No word overflows. -/
theorem decodeChecked_eq (word : UInt64) : decodeChecked word = some (decode word) := by
  have least : negated? Errno.largest.toInt64 = some (-Errno.largest.toInt64) := by decide
  rw [decodeChecked, least, Option.bind_eq_bind, Option.bind_some, decode]
  split
  · rename_i inside
    obtain ⟨least, negative⟩ := (isError_iff word).mp inside
    obtain ⟨exact, narrow⟩ := toInt_negated least negative
    rw [negated?, if_pos exact, Option.bind_eq_bind, Option.bind_some, narrowed?, if_pos (narrow.trans exact.symm)]
    rfl
  · rfl

/-- No result overflows. -/
theorem encodeChecked_eq (result : Except Errno UInt64) : encodeChecked result = some (encode result) := by
  cases result with
  | ok value => rfl
  | error error =>
    have same := toInt_encode error
    rw [encode, Int64.toInt64_toUInt64] at same
    rw [encodeChecked, negated?, if_pos (same.trans (by rw [Int32.toInt_toInt64]))]
    rfl

/--
Words and results stand for each other. Every word is the word of its result. It stands for an error from 1 to
4095 exactly if it is the negation of that error, and for itself exactly if it is the negation of none. A
result is found again in its word exactly if it is a value below the words for errors or an error from 1 to
4095. No negation and no conversion on the way overflows.
-/
theorem inverse_on_canonical :
    (∀ word, encode (decode word) = word ∧
      (∀ error, decode word = .error error ↔
        1 ≤ error.raw.toInt ∧ error.raw.toInt ≤ 4095 ∧ word.toInt64.toInt = -error.raw.toInt) ∧
      (decode word = .ok word ↔ ∀ error : Int, 1 ≤ error → error ≤ 4095 → word.toInt64.toInt ≠ -error)) ∧
    (∀ result, decode (encode result) = result ↔ IsCanonical result) ∧
    (∀ word, decodeChecked word = some (decode word)) ∧
    ∀ result, encodeChecked result = some (encode result) := by
  refine ⟨fun word => ⟨encode_decode word, decode_eq_error_iff word, ?_⟩, decode_encode_iff, decodeChecked_eq,
    encodeChecked_eq⟩
  rw [decode_eq_ok_iff, ← Nat.not_le, ← isError_iff_toNat]
  constructor
  · intro outside error least most same
    exact outside ⟨by omega, by omega⟩
  · intro none inside
    exact none (-word.toInt64.toInt) (by omega) (by omega) (by omega)

end LinuxCalls.RawReturn
