/-
This file holds the calls on descriptors. A descriptor is a plain number here and owns nothing.
-/

import LinuxCalls.Invoke
import LinuxCalls.StringArgument
import LinuxCalls.FileStatus

namespace LinuxCalls

abbrev Descriptor := Int32

/-- The directory in which a relative path is looked up. -/
inductive Directory
  /-- The current directory. -/
  | current
  /-- An open directory. -/
  | opened (descriptor : Descriptor)
  deriving DecidableEq

namespace Directory

def currentDescriptor : Descriptor := -100

def descriptor : Directory → Descriptor
  | .current => currentDescriptor
  | .opened descriptor => descriptor

end Directory

inductive Origin
  | start
  | current
  | fileEnd
  /-- The next data at or after the offset. -/
  | data
  /-- The next hole at or after the offset. -/
  | hole
  deriving DecidableEq

namespace Origin

def number : Origin → UInt64
  | .start => 0
  | .current => 1
  | .fileEnd => 2
  | .data => 3
  | .hole => 4

end Origin

/-- What a read brings: the bytes stored at the buffer's start, and the count or an error. -/
structure Delivery where
  stored : Bytes
  count : Except Errno Nat

namespace Descriptor

def input : Descriptor := 0

def output : Descriptor := 1

def complaints : Descriptor := Log.complaints

/-- This action opens a file in a directory. Offsets past two gibibytes are always allowed. -/
def openAt (directory : Directory) (path : StringArgument) (flags : OpenFlags) (mode : Mode) :
    Sys Descriptor := do
  let path ← path.prepare
  CallKind.openAt.invokeInt32 [.ofInt32 directory.descriptor, path.register,
    .ofUInt32 (flags.union OpenFlags.largeFile).bits, .ofUInt32 mode.bits]

def openFile (path : StringArgument) (flags : OpenFlags) (mode : Mode) : Sys Descriptor :=
  openAt .current path flags mode

def removeDirectory : UInt32 := 0x200

def unlinkAt (directory : Directory) (path : StringArgument) (isDirectory : Bool) : Sys Unit := do
  let path ← path.prepare
  CallKind.unlink.run [.ofInt32 directory.descriptor, path.register,
    .ofUInt32 (if isDirectory then removeDirectory else 0)]

/-- This action closes a descriptor. The kernel has released it even if the call fails. -/
def close (descriptor : Descriptor) : Sys Unit := CallKind.close.run [.ofInt32 descriptor]

/-- This action duplicates a descriptor onto the lowest free one. -/
def duplicate (descriptor : Descriptor) : Sys Descriptor :=
  CallKind.duplicate.invokeInt32 [.ofInt32 descriptor]

def duplicateOnto (descriptor target : Descriptor) : Sys Descriptor :=
  CallKind.duplicateOnto.invokeInt32 [.ofInt32 descriptor, .ofInt32 target]

def seek (descriptor : Descriptor) (offset : Int64) (origin : Origin) : Sys UInt64 :=
  CallKind.seek.invoke [.ofInt32 descriptor, .ofInt64 offset, .word origin.number]

def largestLength : UInt64 := Int64.maxValue.toUInt64

/-- This action sets the length of a file. A length that no offset reaches is rejected at once. -/
def setLength (descriptor : Descriptor) (length : UInt64) : Sys Unit :=
  if largestLength < length then Act.fail Errno.invalidArgument
  else CallKind.setLength.run [.ofInt32 descriptor, .word length]

def delivered (completion : Completion) : Delivery :=
  ⟨completion.stored, completion.result.map UInt64.toNat⟩

def read (descriptor : Descriptor) (size : Nat) : Sys Delivery := do
  let completion ← CallKind.read.complete [.ofInt32 descriptor, .room size, .ofLength size]
  return delivered completion

def write (descriptor : Descriptor) (bytes : Bytes) : Sys Nat := do
  let count ← CallKind.write.invoke [.ofInt32 descriptor, .data bytes, .ofLength bytes.length]
  return count.toNat

def readAt (descriptor : Descriptor) (size : Nat) (offset : UInt64) : Sys Delivery := do
  let completion ← CallKind.readAt.complete
    [.ofInt32 descriptor, .room size, .ofLength size, .word offset]
  return delivered completion

def writeAt (descriptor : Descriptor) (bytes : Bytes) (offset : UInt64) : Sys Nat := do
  let count ← CallKind.writeAt.invoke
    [.ofInt32 descriptor, .data bytes, .ofLength bytes.length, .word offset]
  return count.toNat

/-- The two descriptors of a pipe, which are -1 where the kernel stores nothing. -/
def pipeEnds (stored : Bytes) : Descriptor × Descriptor :=
  let ends := Bytes.overlay stored (Bytes.ofInt32 (-1) ++ Bytes.ofInt32 (-1))
  (ends.int32 0, ends.int32 4)

def pipe (flags : OpenFlags) : Sys (Descriptor × Descriptor) := do
  let stored ← CallKind.pipe.collect [.room 8, .ofUInt32 flags.bits]
  return pipeEnds stored

def status (descriptor : Descriptor) : Sys FileStatus := do
  let stored ← CallKind.status.collect [.ofInt32 descriptor, .room FileStatus.layoutSize]
  return FileStatus.decode (Bytes.overlay stored (Bytes.zeros FileStatus.layoutSize))

def memoryFile (name : StringArgument) (flags : MemoryFileFlags) : Sys Descriptor := do
  let name ← name.prepare
  CallKind.memoryFile.invokeInt32 [name.register, .ofUInt32 flags.bits]

def secretCloseOnExec : UInt32 := OpenFlags.closeOnExec.bits

/-- This action makes a file in memory that no other process can read. -/
def secretMemoryFile (closeOnExec : Bool) : Sys Descriptor :=
  CallKind.secretMemoryFile.invokeInt32 [.ofUInt32 (if closeOnExec then secretCloseOnExec else 0)]

end Descriptor

end LinuxCalls
