/-
This file holds cursors, which read and write a mapping in sequence without asking the kernel.
-/

import LinuxCalls.Mapping

namespace LinuxCalls

/-- A mapping with a position in it. -/
structure Cursor where
  mapping : Mapping
  position : Nat
  deriving DecidableEq

namespace Cursor

def start (mapping : Mapping) : Cursor := ⟨mapping, 0⟩

/-- This function moves the position, but never beyond the end. -/
def moveTo (cursor : Cursor) (position : Nat) : Cursor :=
  { cursor with position := min position cursor.mapping.length }

def left (cursor : Cursor) : Nat := cursor.mapping.length - cursor.position

def address (cursor : Cursor) : Nat := cursor.mapping.address.toNat + cursor.position

def read (size : Nat) : Act (Cursor × Machine) Bytes := do
  let (cursor, machine) ← Act.get
  let count := min cursor.left size
  Act.modify fun (cursor, machine) => ({ cursor with position := cursor.position + count }, machine)
  return machine.memory.load cursor.address count

/--
This action writes a part of the bytes and moves past it. It writes as many as fit, and it fails if
the mapping may not be written or if nothing fits.
-/
def write (bytes : Bytes) : Act (Cursor × Machine) Nat := do
  if bytes = [] then return 0
  let (cursor, _) ← Act.get
  if ¬ cursor.mapping.isWritable then Act.fail Errno.accessDenied
  else if cursor.left = 0 then Act.fail Errno.noSpace
  else
    let count := min cursor.left bytes.length
    Act.modify fun (cursor, machine) =>
      ({ cursor with position := cursor.position + count },
        { machine with memory := machine.memory.store cursor.address (bytes.take count) })
    return count

end Cursor

end LinuxCalls
