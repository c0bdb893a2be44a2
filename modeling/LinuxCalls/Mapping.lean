/-
This file holds mappings. A mapping owns a range of memory and unmaps it once, when it is dropped.
-/

import LinuxCalls.MappedRange

namespace LinuxCalls

/-- The owner of a mapped range. -/
structure Mapping where
  address : UInt64
  length : Nat
  protection : Protection
  sharing : Sharing
  deriving DecidableEq

namespace Mapping

/-- An empty range, an unreadable range and an offset inside a page are never mapped. -/
def accepts (length : Nat) (offset : UInt64) (protection : Protection) : Bool :=
  length != 0 && protection.contains Protection.read && offset.toNat % Memory.pageSize == 0

/-- This action maps a range after checking its arguments. No range starts at address zero. -/
def make (descriptor : Descriptor) (length : Nat) (offset : UInt64) (protection : Protection)
    (sharing : Sharing) (flags : MapFlags) : Sys Mapping :=
  if accepts length offset protection then do
    let address ← MappedRange.map 0 length protection sharing flags descriptor offset
    if address = 0 then Act.fail Errno.noMemory
    else return ⟨address, length, protection, sharing⟩
  else Act.fail Errno.invalidArgument

def ofFile (descriptor : Descriptor) (length : Nat) (offset : UInt64) (protection : Protection)
    (sharing : Sharing) : Sys Mapping :=
  make descriptor length offset protection sharing Flags.empty

def anonymous (length : Nat) (protection : Protection) : Sys Mapping :=
  make (-1) length 0 protection .copied MapFlags.anonymous

def isWritable (mapping : Mapping) : Bool := mapping.protection.contains Protection.write

def isEmpty (mapping : Mapping) : Bool := mapping.length == 0

/-- The end of a part. A sum that no word holds stays at the largest word. -/
def partEnd (start length : Nat) : Nat := min (start + length) (UInt64.size - 1)

/-- The bytes in a part of the mapping, which are loaded only if the part lies inside. -/
def slice (mapping : Mapping) (memory : Memory) (start length : Nat) : Option Bytes :=
  if partEnd start length ≤ mapping.length then
    some (memory.load (mapping.address.toNat + start) length)
  else none

def contents (mapping : Mapping) (memory : Memory) : Bytes :=
  memory.load mapping.address.toNat mapping.length

/-- This action copies bytes into the mapping. A copy that does not fit is a panic. -/
def copyIn (mapping : Mapping) (start : Nat) (bytes : Bytes) : Sys Unit :=
  if ¬ mapping.isWritable then Act.fail Errno.accessDenied
  else if mapping.length < start + bytes.length then Act.panic
  else Act.modify fun machine =>
    { machine with memory := machine.memory.store (mapping.address.toNat + start) bytes }

def flush (mapping : Mapping) : Sys Unit :=
  match mapping.sharing with
  | .copied => pure ()
  | .shared => MappedRange.writeBack mapping.address mapping.length WriteBackFlags.awaited

def addressText (mapping : Mapping) : String := Flags.hexadecimal mapping.address.toNat

def dropText (mapping : Mapping) (error : Errno) : String :=
  "munmap(" ++ mapping.addressText ++ ", " ++ toString mapping.length ++ ") on drop failed: " ++
    error.description

/-- This action unmaps the range at the end of the mapping's life and logs a failure. -/
def drop (mapping : Mapping) : Sys Unit := do
  match ← (MappedRange.unmap mapping.address mapping.length).attempt with
  | .ok _ => pure ()
  | .error error => Log.tell .warn (mapping.dropText error)

def longForm (mapping : Mapping) : String :=
  "Mapping \x7b ptr: " ++ mapping.addressText ++ ", len: " ++ toString mapping.length ++
    ", prot: " ++ mapping.protection.longForm ++ ", share: " ++ mapping.sharing.name ++ " \x7d"

end Mapping

end LinuxCalls
