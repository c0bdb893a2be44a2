/-
This file holds the steps of a session. A step names the objects that it uses by their slots.
-/

import LinuxCalls.Probe
import LinuxCalls.Log.Setting

namespace LinuxCalls

/-- A step that calls the kernel without an owner. -/
inductive CallStep
  | openFile (path : StringArgument) (flags : OpenFlags) (mode : Mode)
  | openAt (directory : Directory) (path : StringArgument) (flags : OpenFlags) (mode : Mode)
  | unlinkAt (directory : Directory) (path : StringArgument) (isDirectory : Bool)
  | close (descriptor : Descriptor)
  | duplicate (descriptor : Descriptor)
  | duplicateOnto (descriptor target : Descriptor)
  | seek (descriptor : Descriptor) (offset : Int64) (origin : Origin)
  | setLength (descriptor : Descriptor) (length : UInt64)
  | read (descriptor : Descriptor) (size : Nat)
  | write (descriptor : Descriptor) (bytes : Bytes)
  | readAt (descriptor : Descriptor) (size : Nat) (offset : UInt64)
  | writeAt (descriptor : Descriptor) (bytes : Bytes) (offset : UInt64)
  | pipe (flags : OpenFlags)
  | status (descriptor : Descriptor)
  | memoryFile (name : StringArgument) (flags : MemoryFileFlags)
  | secretMemoryFile (closeOnExec : Bool)
  | map (address : UInt64) (length : Nat) (protection : Protection) (sharing : Sharing)
      (flags : MapFlags) (descriptor : Descriptor) (offset : UInt64)
  | unmap (address : UInt64) (length : Nat)
  | writeBack (address : UInt64) (length : Nat) (flags : WriteBackFlags)
  | processId
  | openProcess (process : ProcessId) (flags : ProcessFileFlags)
  | sendSignal (descriptor : Descriptor) (signal : UInt32)
  | execute (program : Program)
  | launch (program : Program)
  | launchBorrowing (program : Program)
  | fork
  | wait (target : WaitTarget) (options : WaitOptions)
  | exit (code : Int32)
  | die (context : String) (error : Errno)
  | duplicateOrDie (descriptor : Descriptor)
  | changeMask (how : MaskChange) (set : SignalSet)
  | currentMask
  | invoke (kind : CallKind) (words : List UInt64)
  /-- The request goes to the kernel past the invocation primitive. -/
  | perform (number : UInt64) (words : List UInt64)

/-- A step on a guard. New guards go to the slot that is named last. -/
inductive GuardStep
  | openFile (path : StringArgument) (flags : OpenFlags) (mode : Mode) (slot : String)
  | openAt (guard : String) (path : StringArgument) (flags : OpenFlags) (mode : Mode) (slot : String)
  | memoryFile (name : StringArgument) (flags : MemoryFileFlags) (slot : String)
  | secretMemoryFile (closeOnExec : Bool) (slot : String)
  | ofProcess (process : ProcessId) (flags : ProcessFileFlags) (slot : String)
  | ofDescriptor (descriptor : Descriptor) (slot : String)
  | duplicate (guard : String) (slot : String)
  | pipe (flags : OpenFlags) (input output : String)
  | duplicateOnto (guard target : String)
  | descriptor (guard : String)
  | giveUp (guard : String)
  | close (guard : String)
  | drop (guard : String)
  /-- The descriptor goes to another owner and comes back. -/
  | handOver (guard : String)
  | read (guard : String) (size : Nat)
  | write (guard : String) (bytes : Bytes)
  | writeAll (guard : String) (bytes : Bytes)
  | readAt (guard : String) (size : Nat) (offset : UInt64)
  | writeAt (guard : String) (bytes : Bytes) (offset : UInt64)
  | seek (guard : String) (offset : Int64) (origin : Origin)
  | setLength (guard : String) (length : UInt64)
  | status (guard : String)
  | standardRead (guard : String) (size : Nat)
  | standardWrite (guard : String) (bytes : Bytes)
  | standardFlush (guard : String)
  | standardSeek (guard : String) (position : SeekPosition)

/-- The file behind a mapping is named by its guard or by its descriptor. -/
inductive FileChoice
  | guard (slot : String)
  | descriptor (descriptor : Descriptor)

inductive MappingStep
  | anonymous (length : Nat) (protection : Protection) (slot : String)
  | ofFile (file : FileChoice) (length : Nat) (offset : UInt64) (protection : Protection)
      (sharing : Sharing) (slot : String)
  | info (mapping : String)
  | slice (mapping : String) (start length : Nat)
  | copyIn (mapping : String) (start : Nat) (bytes : Bytes)
  | flush (mapping : String)
  | drop (mapping : String)

/-- A step on a cursor. The mapping's slot is empty while a cursor has it. -/
inductive CursorStep
  | start (mapping : String) (slot : String)
  | read (cursor : String) (size : Nat)
  | write (cursor : String) (bytes : Bytes)
  | moveTo (cursor : String) (position : Nat)
  | position (cursor : String)
  | drop (cursor : String)

/-- The device of a new stream. A lent device goes back to its slot whenever the stream ends. -/
inductive DeviceChoice
  | reference (descriptor : Descriptor)
  | guard (slot : String) (lent : Bool)
  | cursor (slot : String) (lent : Bool)

inductive ReaderStep
  | start (device : DeviceChoice) (capacity : Option Nat)
  | fill
  | consume (amount : Nat)
  | read (size : Nat)
  | readExact (size : Nat)
  /-- The bytes are collected already when the read begins. -/
  | readUntil (delimiter : UInt8) (bytes : Bytes)
  /-- The text is collected already when the read begins. -/
  | readLine (text : String)
  | device
  | finish
  | drop

inductive WriterStep
  | start (device : DeviceChoice) (capacity : Option Nat)
  | writeAll (bytes : Bytes)
  | writeFormat (format : Format)
  | writeText (text : String)
  | flush
  | device
  | finish
  | drop

inductive LogStep
  | threshold (replacement : Option Threshold)
  | record (level : Level) (message : String)
  /-- The outer message logs the inner one while it is made. -/
  | nested (outer inner : String)
  /-- A backend of its own is given a record. -/
  | backend (threshold : Threshold) (level : Level) (target message : String)
  | install

/-- A step of a session. -/
inductive Step
  | call (step : CallStep)
  | guard (step : GuardStep)
  | mapping (step : MappingStep)
  | cursor (step : CursorStep)
  | reader (slot : String) (step : ReaderStep)
  | writer (slot : String) (step : WriterStep)
  | log (step : LogStep)
  | probe

end LinuxCalls
