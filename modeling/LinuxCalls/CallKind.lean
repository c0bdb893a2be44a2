/-
This file holds the calls that the library issues, their numbers and names, and how each call
treats an interruption and a busy resource.
-/

namespace LinuxCalls

/-- A call that is issued through the invocation primitive. -/
inductive CallKind
  | read
  | write
  | readAt
  | writeAt
  | openAt
  | unlink
  | close
  | duplicate
  | duplicateOnto
  | seek
  | setLength
  | status
  | pipe
  | memoryFile
  | secretMemoryFile
  | map
  | unmap
  | writeBack
  | signalMask
  | processId
  | execute
  | exit
  | wait
  | processFile
  | sendSignal
  deriving DecidableEq

namespace CallKind

def number : CallKind → UInt64
  | .read => 0
  | .write => 1
  | .readAt => 17
  | .writeAt => 18
  | .openAt => 257
  | .unlink => 263
  | .close => 3
  | .duplicate => 32
  | .duplicateOnto => 33
  | .seek => 8
  | .setLength => 77
  | .status => 5
  | .pipe => 293
  | .memoryFile => 319
  | .secretMemoryFile => 447
  | .map => 9
  | .unmap => 11
  | .writeBack => 26
  | .signalMask => 14
  | .processId => 39
  | .execute => 59
  | .exit => 231
  | .wait => 247
  | .processFile => 434
  | .sendSignal => 424

def name : CallKind → String
  | .read => "read"
  | .write => "write"
  | .readAt => "pread64"
  | .writeAt => "pwrite64"
  | .openAt => "openat"
  | .unlink => "unlinkat"
  | .close => "close"
  | .duplicate => "dup"
  | .duplicateOnto => "dup2"
  | .seek => "lseek"
  | .setLength => "ftruncate"
  | .status => "fstat"
  | .pipe => "pipe2"
  | .memoryFile => "memfd_create"
  | .secretMemoryFile => "memfd_secret"
  | .map => "mmap"
  | .unmap => "munmap"
  | .writeBack => "msync"
  | .signalMask => "rt_sigprocmask"
  | .processId => "getpid"
  | .execute => "execve"
  | .exit => "exit_group"
  | .wait => "waitid"
  | .processFile => "pidfd_open"
  | .sendSignal => "pidfd_send_signal"

def all : List CallKind := [
  .read, .write, .readAt, .writeAt, .openAt, .unlink, .close, .duplicate, .duplicateOnto, .seek,
  .setLength, .status, .pipe, .memoryFile, .secretMemoryFile, .map, .unmap, .writeBack,
  .signalMask, .processId, .execute, .exit, .wait, .processFile, .sendSignal]

def ofNumber? (number : UInt64) : Option CallKind := all.find? fun kind => kind.number == number

def ofName? (name : String) : Option CallKind := all.find? fun kind => kind.name == name

/-- The number of the call that makes a child process. It bypasses the invocation primitive. -/
def cloneNumber : UInt64 := 56

def symbols : List (String × UInt64) :=
  all.map (fun kind => ("SYS_" ++ kind.name.toUpper, kind.number)) ++ [("SYS_CLONE", cloneNumber)]

end CallKind

/-- How a call treats an interruption. It is reported in either case and never retried. -/
inductive Cancellation
  /-- An interruption is a legitimate cancellation, and the log says so. -/
  | trapped
  /-- An interruption is an error like any other. -/
  | passed
  deriving DecidableEq

/-- The errors after which a call is issued again. -/
inductive Retry
  | never
  /-- A busy resource is tried again a bounded number of times. -/
  | whenBusy
  deriving DecidableEq

structure Policy where
  cancellation : Cancellation
  retry : Retry
  deriving DecidableEq

namespace Policy

def attemptLimit : Nat := 1024

def of : CallKind → Policy
  | .close | .read | .write | .readAt | .writeAt | .openAt | .wait => ⟨.trapped, .never⟩
  | .duplicateOnto => ⟨.passed, .whenBusy⟩
  | _ => ⟨.passed, .never⟩

end Policy

end LinuxCalls
