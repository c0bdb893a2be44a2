/-
This file holds byte strings, the little-endian fields inside them, and the bytes of a text.
-/

namespace LinuxCalls

abbrev Bytes := List UInt8

namespace Bytes

/-- This function lays stored bytes over the start of a buffer and keeps the buffer's length. -/
def overlay (stored buffer : Bytes) : Bytes :=
  stored.take buffer.length ++ buffer.drop stored.length

def zeros (length : Nat) : Bytes := List.replicate length 0

/-- The number that bytes stand for when the least significant one comes first. -/
def toNat : Bytes → Nat
  | [] => 0
  | byte :: rest => byte.toNat + 256 * toNat rest

/-- The given number of bytes of a number, the least significant one first. -/
def ofNat : (width : Nat) → Nat → Bytes
  | 0, _ => []
  | width + 1, value => UInt8.ofNat value :: ofNat width (value / 256)

/-- The number in the field of the given width at an offset. -/
def field (bytes : Bytes) (offset width : Nat) : Nat :=
  toNat ((bytes.drop offset).take width)

def word32 (bytes : Bytes) (offset : Nat) : UInt32 := UInt32.ofNat (bytes.field offset 4)

def int32 (bytes : Bytes) (offset : Nat) : Int32 := (bytes.word32 offset).toInt32

def word64 (bytes : Bytes) (offset : Nat) : UInt64 := UInt64.ofNat (bytes.field offset 8)

def int64 (bytes : Bytes) (offset : Nat) : Int64 := (bytes.word64 offset).toInt64

def ofWord32 (word : UInt32) : Bytes := ofNat 4 word.toNat

def ofInt32 (value : Int32) : Bytes := ofWord32 value.toUInt32

def ofWord64 (word : UInt64) : Bytes := ofNat 8 word.toNat

def ofInt64 (value : Int64) : Bytes := ofWord64 value.toUInt64

/-- The bytes of a text, each character in its one to four bytes. -/
def ofText (text : String) : Bytes := text.toList.flatMap String.utf8EncodeChar

@[simp] theorem length_overlay (stored buffer : Bytes) :
    (overlay stored buffer).length = buffer.length := by
  simp only [overlay, List.length_append, List.length_take, List.length_drop]
  omega

theorem take_overlay {bytes buffer : Bytes} (fits : bytes.length ≤ buffer.length) :
    (overlay bytes buffer).take bytes.length = bytes := by
  rw [overlay, List.take_of_length_le fits, List.take_left]

@[simp] theorem length_zeros (length : Nat) : (zeros length).length = length :=
  List.length_replicate

@[simp] theorem length_ofNat (width value : Nat) : (ofNat width value).length = width := by
  induction width generalizing value with
  | zero => rfl
  | succ width step => simp only [ofNat, List.length_cons, step]

@[simp] theorem ofText_append (first second : String) :
    ofText (first ++ second) = ofText first ++ ofText second := by
  simp only [ofText, String.toList_append, List.flatMap_append]

end Bytes

end LinuxCalls
