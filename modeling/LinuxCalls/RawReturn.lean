/-
This file relates the word that the kernel returns to the value or the error that it stands for.
-/

import LinuxCalls.Errno

namespace LinuxCalls.RawReturn

/-- A word from -4095 to -1, read as a signed number, is an error, and every other word is a value. -/
def decode (word : UInt64) : Except Errno UInt64 :=
  let signed := word.toInt64
  if -Errno.largest.toInt64 ≤ signed ∧ signed < 0 then
    .error ⟨(-signed).toInt32⟩
  else
    .ok word

/-- A word that stands for a value is that value, and as a signed number it is no error. -/
theorem eq_of_decode_eq_ok {word value : UInt64} (decoded : decode word = .ok value) :
    value = word ∧ ¬ (-Errno.largest.toInt64 ≤ word.toInt64 ∧ word.toInt64 < 0) := by
  simp only [decode] at decoded
  split at decoded
  · contradiction
  · rename_i noError
    exact ⟨(Except.ok.inj decoded).symm, noError⟩

/-- The word for a value is the value, and the word for an error is its negated number. -/
def encode : Except Errno UInt64 → UInt64
  | .ok value => value
  | .error error => (-error.raw.toInt64).toUInt64

def longForm : Except Errno UInt64 → String
  | .ok value => "Ok(" ++ toString value.toNat ++ ")"
  | .error error => "Err(" ++ error.longForm ++ ")"

end LinuxCalls.RawReturn
