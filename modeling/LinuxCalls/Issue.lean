/-
This file holds the invocation primitive: a call is put to the kernel, its return is read, and the
policy of the call decides whether it is issued again. What happens is told to a listener.
-/

import LinuxCalls.Kernel.Machine
import LinuxCalls.Flags

namespace LinuxCalls

/-- A listener is told of what happens at a level. -/
abbrev Listener := Level → String → Sys Unit

def Listener.silent : Listener := fun _ _ => pure ()

/-- A completed call has the result that its return stands for and the bytes stored on the way. -/
structure Completion where
  result : Except Errno UInt64
  stored : Bytes

def Completion.failedWith (completion : Completion) (error : Errno) : Bool :=
  match completion.result with
  | .ok _ => false
  | .error found => found == error

namespace CallKind

/-- The text that announces a call shows all registers, each on a line of its own. -/
def entryText (kind : CallKind) (registers : List Register) : String :=
  kind.name ++ "([\n" ++
    String.join (registers.map fun register =>
      "    " ++ Flags.hexadecimal register.value.toNat ++ ",\n") ++ "])"

def exitText (kind : CallKind) (result : Except Errno UInt64) : String :=
  kind.name ++ " -> " ++ RawReturn.longForm result

def retryText (kind : CallKind) (attempt : Nat) : String :=
  kind.name ++ ": EBUSY, retrying (attempt " ++ toString attempt ++ ")"

def interruptedText (kind : CallKind) : String :=
  kind.name ++ ": interrupted at cancellation point"

def registerCount : Nat := 6

/-- This function fills the registers that a call does not use with zeros. -/
def padded (registers : List Register) : List Register :=
  registers ++ List.replicate (registerCount - registers.length) (.word 0)

theorem length_padded {registers : List Register} (few : registers.length ≤ registerCount) :
    (padded registers).length = registerCount := by
  rw [padded, List.length_append, List.length_replicate]
  omega

/-- One attempt announces the call, puts it to the kernel and reports its return. -/
def attemptOnce (listener : Listener) (kind : CallKind) (registers : List Register) : Sys Completion := do
  listener .trace (kind.entryText registers)
  let reply ← perform ⟨kind.number, registers⟩
  let result := RawReturn.decode reply.word
  listener .trace (kind.exitText result)
  return ⟨result, reply.stored⟩

/-- This action attempts a call until its policy is satisfied or no attempt is left after this one. -/
def attemptAgain (listener : Listener) (kind : CallKind) (registers : List Register) :
    (left : Nat) → Sys Completion
  | 0 => do
    let completion ← attemptOnce listener kind registers
    settle completion
  | left + 1 => do
    let completion ← attemptOnce listener kind registers
    if completion.failedWith Errno.busy ∧ (Policy.of kind).retry = .whenBusy then
      listener .debug (kind.retryText (Policy.attemptLimit - (left + 1)))
      attemptAgain listener kind registers left
    else
      settle completion
where
  /-- An interruption at a cancellation point is reported before the call completes. -/
  settle (completion : Completion) : Sys Completion := do
    if completion.failedWith Errno.interrupted ∧ (Policy.of kind).cancellation = .trapped then
      listener .debug kind.interruptedText
    return completion

/-- This action issues a call. A call takes at most six registers. -/
def issue (listener : Listener) (kind : CallKind) (registers : List Register) : Sys Completion :=
  if registerCount < registers.length then
    Act.panic
  else
    attemptAgain listener kind (padded registers) (Policy.attemptLimit - 1)

end CallKind

end LinuxCalls
