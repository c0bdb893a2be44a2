/-
This file holds the calls on the signal mask. The threading runtime's signals are taken out of every
set before the kernel sees it, so no caller can block them.
-/

import LinuxCalls.Invoke

namespace LinuxCalls

/-- How a set changes the mask. -/
inductive MaskChange
  /-- The set is added to the mask. -/
  | block
  /-- The set is taken out of the mask. -/
  | unblock
  /-- The set replaces the mask. -/
  | replace
  deriving DecidableEq

def MaskChange.number : MaskChange → UInt64
  | .block => 0
  | .unblock => 1
  | .replace => 2

namespace SignalMask

def setSize : Nat := 8

def stored (bytes : Bytes) : SignalSet := ⟨(Bytes.overlay bytes (Bytes.zeros setSize)).word64 0⟩

/-- This action changes the mask and gives the mask before the change. -/
def change (how : MaskChange) (set : SignalSet) : Sys SignalSet := do
  let bytes ← CallKind.signalMask.collect
    [.word how.number, .signals set.withoutReserved, .room setSize, .ofLength setSize]
  return stored bytes

/-- This action gives the mask and leaves it alone. -/
def current : Sys SignalSet := do
  let bytes ← CallKind.signalMask.collect
    [.word MaskChange.block.number, .word 0, .room setSize, .ofLength setSize]
  return stored bytes

end SignalMask

end LinuxCalls
