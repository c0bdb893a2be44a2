/-
This file holds the logged form of the invocation primitive, which all typed calls are made of.
-/

import LinuxCalls.Log.Backend

namespace LinuxCalls.CallKind

def complete (kind : CallKind) (registers : List Register) : Sys Completion :=
  kind.issue Log.tell registers

def invoke (kind : CallKind) (registers : List Register) : Sys UInt64 := do
  let completion ← kind.complete registers
  Act.ofExcept completion.result

/-- This action issues a call and gives the bytes that the kernel stored, if the call succeeds. -/
def collect (kind : CallKind) (registers : List Register) : Sys Bytes := do
  let completion ← kind.complete registers
  let _ ← Act.ofExcept completion.result
  return completion.stored

/-- This action issues a call whose value does not matter. -/
def run (kind : CallKind) (registers : List Register) : Sys Unit := do
  let _ ← kind.invoke registers

/-- This action issues a call that returns a descriptor, a process or another signed number. -/
def invokeInt32 (kind : CallKind) (registers : List Register) : Sys Int32 := do
  let word ← kind.invoke registers
  return word.toUInt32.toInt32

end LinuxCalls.CallKind
