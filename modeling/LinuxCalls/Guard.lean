/-
This file holds guards. A guard owns one descriptor and closes it once, when it is dropped or when
its owner asks for the result of the close.
-/

import LinuxCalls.Process

namespace LinuxCalls

/-- The owner of a descriptor. -/
structure Guard where
  descriptor : Descriptor
  deriving DecidableEq

/-- A position in the form that the standard streams use. -/
inductive SeekPosition
  | start (offset : UInt64)
  | current (offset : Int64)
  | fileEnd (offset : Int64)
  deriving DecidableEq

namespace Guard

def openFile (path : StringArgument) (flags : OpenFlags) (mode : Mode) : Sys Guard :=
  Guard.mk <$> Descriptor.openFile path flags mode

def openAt (guard : Guard) (path : StringArgument) (flags : OpenFlags) (mode : Mode) : Sys Guard :=
  Guard.mk <$> Descriptor.openAt (.opened guard.descriptor) path flags mode

def memoryFile (name : StringArgument) (flags : MemoryFileFlags) : Sys Guard :=
  Guard.mk <$> Descriptor.memoryFile name flags

def secretMemoryFile (closeOnExec : Bool) : Sys Guard :=
  Guard.mk <$> Descriptor.secretMemoryFile closeOnExec

def ofProcess (process : ProcessId) (flags : ProcessFileFlags) : Sys Guard :=
  Guard.mk <$> Process.openFile process flags

def pipe (flags : OpenFlags) : Sys (Guard × Guard) := do
  let (input, output) ← Descriptor.pipe flags
  return (⟨input⟩, ⟨output⟩)

def close (guard : Guard) : Sys Unit := Descriptor.close guard.descriptor

def dropText (guard : Guard) (error : Errno) : String :=
  "close(" ++ toString guard.descriptor.toInt ++ ") on drop failed: " ++ error.description

/-- This action closes the descriptor at the end of the guard's life and logs a failure. -/
def drop (guard : Guard) : Sys Unit := do
  match ← guard.close.attempt with
  | .ok _ => pure ()
  | .error error => Log.tell .warn (guard.dropText error)

def duplicate (guard : Guard) : Sys Guard :=
  Guard.mk <$> Descriptor.duplicate guard.descriptor

/-- This action lets another guard's descriptor refer to this one's file. -/
def duplicateOnto (guard target : Guard) : Sys Unit := do
  let _ ← Descriptor.duplicateOnto guard.descriptor target.descriptor

/--
This action hands the descriptor to another owner or a borrower. No file has the number -1, so
handing that number over is a panic.
-/
def handOver (guard : Guard) : Sys Descriptor :=
  if guard.descriptor = -1 then Act.panic else pure guard.descriptor

def read (guard : Guard) (size : Nat) : Sys Delivery := Descriptor.read guard.descriptor size

def write (guard : Guard) (bytes : Bytes) : Sys Nat := Descriptor.write guard.descriptor bytes

def readAt (guard : Guard) (size : Nat) (offset : UInt64) : Sys Delivery :=
  Descriptor.readAt guard.descriptor size offset

def writeAt (guard : Guard) (bytes : Bytes) (offset : UInt64) : Sys Nat :=
  Descriptor.writeAt guard.descriptor bytes offset

/--
This action writes all of the bytes and goes on after a short write. A write that accepts nothing
fails, and a count beyond the bytes offered is a panic.
-/
def writeAll (guard : Guard) (bytes : Bytes) : Sys Unit :=
  if bytes = [] then pure ()
  else do
    let count ← guard.write bytes
    if _ : count = 0 then Act.fail Errno.transferFailed
    else if _ : bytes.length < count then Act.panic
    else guard.writeAll (bytes.drop count)
termination_by bytes.length
decreasing_by
  simp only [List.length_drop]
  omega

def seek (guard : Guard) (offset : Int64) (origin : Origin) : Sys UInt64 :=
  Descriptor.seek guard.descriptor offset origin

/-- This action seeks as the standard streams do. A start beyond all offsets is rejected at once. -/
def seekStandard (guard : Guard) : SeekPosition → Sys UInt64
  | .start offset =>
    if Descriptor.largestLength < offset then Act.fail Errno.invalidArgument
    else guard.seek offset.toInt64 .start
  | .current offset => guard.seek offset .current
  | .fileEnd offset => guard.seek offset .fileEnd

def setLength (guard : Guard) (length : UInt64) : Sys Unit :=
  Descriptor.setLength guard.descriptor length

def status (guard : Guard) : Sys FileStatus := Descriptor.status guard.descriptor

def longForm (guard : Guard) : String :=
  "FdGuard(" ++ toString guard.descriptor.toInt ++ ")"

end Guard

end LinuxCalls
