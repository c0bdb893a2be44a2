/-
This file holds requests to the kernel as the journal keeps them, with each register's meaning.
-/

import LinuxCalls.Bytes
import LinuxCalls.CallKind
import LinuxCalls.Signal

namespace LinuxCalls

/-- A register of a request holds a number, or the address of something that the caller owns. -/
inductive Register
  /-- A plain number. -/
  | word (value : UInt64)
  /-- The length of an address range that the kernel is to provide. -/
  | extent (length : Nat)
  /-- The address of a buffer that the kernel may fill. -/
  | room (size : Nat)
  /-- The address of bytes that the kernel reads. -/
  | data (bytes : Bytes)
  /-- The address of a terminated string. The terminator is left out. -/
  | text (bytes : Bytes)
  /-- The address of a terminated list of terminated strings. -/
  | texts (strings : List Bytes)
  /-- The address of a set of signals. -/
  | signals (set : SignalSet)
  deriving DecidableEq

namespace Register

/--
The number in a register. No answer depends on where the caller keeps what it passes by address, so
one number stands in for every address.
-/
def value : Register → UInt64
  | .word value => value
  | .extent length => UInt64.ofNat length
  | _ => 0x7ffe00000000

def ofLength (length : Nat) : Register := .word (UInt64.ofNat length)

/-- A register with a descriptor, a process or another signed number, whose sign is extended. -/
def ofInt32 (number : Int32) : Register := .word number.toInt64.toUInt64

def ofInt64 (number : Int64) : Register := .word number.toUInt64

def ofUInt32 (number : UInt32) : Register := .word number.toUInt64

end Register

structure Request where
  number : UInt64
  registers : List Register
  deriving DecidableEq

namespace Request

/-- The number in the register at an index, and zero where a request has no register. -/
def register (request : Request) (index : Nat) : UInt64 :=
  match request.registers[index]? with
  | some register => register.value
  | none => 0

/-- The size of the buffer that the kernel may fill. -/
def room (request : Request) : Nat :=
  request.registers.foldr (fun
    | .room size, rest => size + rest
    | _, rest => rest) 0

/-- The length of the address range that the kernel is to provide, if there is one. -/
def extent? (request : Request) : Option Nat :=
  request.registers.findSome? fun
    | .extent length => some length
    | _ => none

/-- The registers that a call has. Three calls have fewer than the kernel takes. -/
def used (request : Request) : List Register :=
  if request.number = CallKind.execute.number then request.registers.take 3
  else if request.number = CallKind.exit.number then request.registers.take 1
  else if request.number = CallKind.cloneNumber then request.registers.take 5
  else request.registers

end Request

/-- What the library asks for: a request to the kernel or a call of the threading runtime. -/
inductive Question
  | kernel (request : Request)
  | runtime (name : String) (arguments : List Register)
  deriving DecidableEq

/-- The journal keeps what was asked and the word that came back. An exit brings nothing back. -/
structure Event where
  question : Question
  word : Option UInt64
  deriving DecidableEq

namespace Question

/-- Equal questions in a row are counted together. -/
def grouped : List Question → List (Question × Nat)
  | [] => []
  | question :: rest =>
    match grouped rest with
    | (next, count) :: groups =>
      if question = next then (question, count + 1) :: groups
      else (question, 1) :: (next, count) :: groups
    | [] => [(question, 1)]

end Question

namespace Event

/-- The bytes that a write to a descriptor has accepted. Other events accept none. -/
def accepted (descriptor : Int32) (event : Event) : Bytes :=
  match event.question, event.word with
  | .kernel ⟨number, target :: .data bytes :: _⟩, some word =>
    if number = CallKind.write.number ∧ target = .ofInt32 descriptor ∧ word.toNat ≤ bytes.length then
      bytes.take word.toNat
    else []
  | _, _ => []

end Event

end LinuxCalls
