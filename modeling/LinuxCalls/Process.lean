/-
This file holds the calls on processes: making them, waiting for them, and ending this one.
-/

import LinuxCalls.Descriptor
import LinuxCalls.Text.Quoted

namespace LinuxCalls

abbrev ProcessId := Int32

/-- What became of a child. -/
inductive ChildState
  | exited
  | killed
  | dumped
  | trapped
  | stopped
  | continued
  deriving DecidableEq

namespace ChildState

def ofCode? (code : Int32) : Option ChildState :=
  if code = 1 then some .exited
  else if code = 2 then some .killed
  else if code = 3 then some .dumped
  else if code = 4 then some .trapped
  else if code = 5 then some .stopped
  else if code = 6 then some .continued
  else none

def code : ChildState → Int32
  | .exited => 1
  | .killed => 2
  | .dumped => 3
  | .trapped => 4
  | .stopped => 5
  | .continued => 6

def name : ChildState → String
  | .exited => "Exited"
  | .killed => "Killed"
  | .dumped => "Dumped"
  | .trapped => "Trapped"
  | .stopped => "Stopped"
  | .continued => "Continued"

def symbols : List (String × Int32) := [
  ("CLD_EXITED", 1), ("CLD_KILLED", 2), ("CLD_DUMPED", 3), ("CLD_TRAPPED", 4),
  ("CLD_STOPPED", 5), ("CLD_CONTINUED", 6)]

end ChildState

/-- The children that a wait considers. -/
inductive WaitTarget
  | all
  | process (process : ProcessId)
  | group (process : ProcessId)
  | processFile (descriptor : Descriptor)
  deriving DecidableEq

namespace WaitTarget

def kindNumber : WaitTarget → UInt64
  | .all => 0
  | .process _ => 1
  | .group _ => 2
  | .processFile _ => 3

/-- The number of the target itself. -/
def identifier : WaitTarget → Int32
  | .all => 0
  | .process number => number
  | .group number => number
  | .processFile number => number

end WaitTarget

/-- A change of a child's state. -/
structure WaitStatus where
  process : ProcessId
  user : UInt32
  signal : Int32
  /-- The exit code of a child that exited, and otherwise the number of a signal. -/
  status : Int32
  state : ChildState
  deriving DecidableEq

namespace WaitStatus

def layoutSize : Nat := 128

/--
This function reads the layout. A zero process means that no child has changed its state, and an
unknown code is an invalid argument.
-/
def decode (layout : Bytes) : Except Errno (Option WaitStatus) :=
  if layout.int32 16 = 0 then .ok none
  else
    match ChildState.ofCode? (layout.int32 8) with
    | none => .error Errno.invalidArgument
    | some state => .ok (some
        { process := layout.int32 16
          user := layout.word32 20
          signal := layout.int32 0
          status := layout.int32 24
          state := state })

def encode (status : WaitStatus) : Bytes :=
  Bytes.ofInt32 status.signal ++ Bytes.zeros 4 ++ Bytes.ofInt32 status.state.code ++
  Bytes.zeros 4 ++ Bytes.ofInt32 status.process ++ Bytes.ofWord32 status.user ++
  Bytes.ofInt32 status.status ++ Bytes.zeros 100

end WaitStatus

/-- Which side of a duplication the caller is on. -/
inductive Fork
  | child
  | parent (process : ProcessId)
  deriving DecidableEq

structure Program where
  path : StringArgument
  arguments : List StringArgument
  environment : List StringArgument

/-- A program whose strings the kernel can read. -/
structure PreparedProgram where
  path : TerminatedString
  arguments : StringVector
  environment : StringVector

/-- All strings of a program are terminated, and one rejected string rejects the program. -/
def Program.terminate (program : Program) : Except Errno PreparedProgram := do
  let path ← program.path.terminate
  let arguments ← StringVector.new program.arguments
  let environment ← StringVector.new program.environment
  return ⟨path, arguments, environment⟩

def Program.prepare (program : Program) : Sys PreparedProgram := Act.ofExcept program.terminate

namespace Clone

def shareMemory : UInt64 := 0x100

def suspendParent : UInt64 := 0x4000

def symbols : List (String × UInt64) :=
  [("CLONE_VM", shareMemory), ("CLONE_VFORK", suspendParent)]

/-- The flags of a child that borrows its parent's memory and reports its end by a signal. -/
def borrowing : UInt64 := shareMemory ||| suspendParent ||| Signal.child.toUInt64

end Clone

namespace Process

/-- This action duplicates the process. The runtime reports a failure beside its result of -1. -/
def fork : Sys Fork := do
  let reply ← callRuntime .fork [] (-1)
  if reply.result = -1 then Act.fail ⟨reply.error⟩
  else if reply.result = 0 then return .child
  else return .parent reply.result

def notRunnable : Int32 := 127

/-- This action ends every thread of the process. It is issued without a record in the log. -/
def exit {α : Type} (code : Int32) : Sys α := do
  let _ ← perform ⟨CallKind.exit.number, [.ofInt32 code]⟩
  Act.panic

/--
This action makes a child that borrows the parent's memory and runs a program. The child only puts
two requests to the kernel, to run the program and then to exit, and never returns to the caller.
-/
def launchBorrowing (program : Program) : Sys ProcessId := do
  let prepared ← program.prepare
  let reply ← perform ⟨CallKind.cloneNumber,
    [.word Clone.borrowing, .word 0, .word 0, .word 0, .word 0]⟩
  if reply.word = 0 then
    let _ ← perform ⟨CallKind.execute.number, [prepared.path.register,
      prepared.arguments.register, prepared.environment.register]⟩
    exit notRunnable
  else
    let word ← Act.ofExcept (RawReturn.decode reply.word)
    let process := word.toUInt32.toInt32
    Log.tell .debug
      ("vforked pid " ++ toString process.toInt ++ " for " ++ Text.quoteBytes prepared.path.bytes)
    return process

/-- This action runs a program in a new process through the runtime. -/
def launch (program : Program) : Sys ProcessId := do
  let prepared ← program.prepare
  let reply ← callRuntime .spawn [prepared.path.register, .word 0, .word 0,
    prepared.arguments.register, prepared.environment.register] Errno.notImplemented.raw
  if reply.result ≠ 0 then Act.fail ⟨reply.result⟩
  else
    Log.tell .debug ("spawned pid " ++ toString reply.process.toInt ++ " for " ++
      Text.quoteBytes prepared.path.bytes)
    return reply.process

/-- This action replaces the program. It returns only with an error. -/
def execute {α : Type} (program : Program) : Sys α := do
  let prepared ← program.prepare
  let _ ← CallKind.execute.invoke [prepared.path.register,
    prepared.arguments.register, prepared.environment.register]
  Act.panic

def wait (target : WaitTarget) (options : WaitOptions) : Sys (Option WaitStatus) := do
  let stored ← CallKind.wait.collect [.word target.kindNumber, .ofInt32 target.identifier,
    .room WaitStatus.layoutSize, .ofUInt32 options.bits, .word 0]
  Act.ofExcept (WaitStatus.decode (Bytes.overlay stored (Bytes.zeros WaitStatus.layoutSize)))

/-- This action gives the number of this process. An error counts as zero. -/
def identifier : Sys ProcessId := do
  match ← (CallKind.processId.invokeInt32 []).attempt with
  | .ok process => return process
  | .error _ => return 0

def openFile (process : ProcessId) (flags : ProcessFileFlags) : Sys Descriptor :=
  CallKind.processFile.invokeInt32 [.ofInt32 process, .ofUInt32 flags.bits]

def sendSignal (descriptor : Descriptor) (signal : UInt32) : Sys Unit :=
  CallKind.sendSignal.run [.ofInt32 descriptor, .ofUInt32 signal, .word 0, .word 0]

end Process

end LinuxCalls
