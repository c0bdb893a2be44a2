/-
This file holds the rehearsal of the probe: a script of a kernel on which every step of the probe
succeeds, and the run of the probe on it.
-/

import LinuxCalls.Probe

namespace LinuxCalls.Probe.Rehearsal

def process : ProcessId := 4242

def child : ProcessId := 4243

def address : UInt64 := 0x100000000000

def returning (word : UInt64) : Answer := { word := some word }

def storing (bytes : Bytes) : Answer := { stored := some bytes }

def naming (process : ProcessId) : Answer := returning process.toInt64.toUInt64

/-- The status of the probe's file, which is a regular file of the expected length. -/
def fileStatus : FileStatus :=
  { FileStatus.decode (Bytes.zeros FileStatus.layoutSize) with
    mode := FileStatus.regular
    size := Int64.ofNat fileLength }

/-- The signals blocked while the probe asks for its own, which do not include the reserved ones. -/
def blocked : SignalSet := requested.withoutReserved

/-- What becomes of the child, which exits with code 3. -/
def childStatus : WaitStatus where
  process := child
  user := 0
  signal := Signal.child.toInt32
  status := 3
  state := .exited

/-- The answers to the first step. The greeting comes back as it was written. -/
def memoryAnswers : List (Channel × List Answer) := [
  (.call .memoryFile, [returning 3]),
  (.call .seek, [returning 0]),
  (.call .read, [storing (Bytes.ofText (String.join (greeting process)))])]

/-- The answers to the second step. The mapping shows what was written to the file. -/
def fileAnswers : List (Channel × List Answer) := [
  (.call .processId, [naming process, naming process]),
  (.call .openAt, [returning 4]),
  (.call .setLength, [returning 0]),
  (.call .map, [{ word := some address, stored := some (Bytes.ofText "mapped") }]),
  (.call .status, [storing fileStatus.encode]),
  (.call .unlink, [returning 0])]

/-- The answers to the third step. No signal is blocked at its start. -/
def maskAnswers : List (Channel × List Answer) := [
  (.call .signalMask, [storing (Bytes.ofWord64 SignalSet.empty.bits),
    storing (Bytes.ofWord64 blocked.bits), storing (Bytes.ofWord64 blocked.bits)])]

def childAnswers : List (Channel × List Answer) := [
  (.spawn, [{ process := child }]),
  (.call .processFile, [returning 5]),
  (.call .wait, [storing childStatus.encode])]

/-- The whole script. Calls that it leaves out succeed without an answer of their own. -/
def script : Script := ⟨memoryAnswers ++ fileAnswers ++ maskAnswers ++ childAnswers⟩

def panicStatus : UInt32 := 101

def exitStatus : Except Fault Unit → UInt32
  | .ok _ => 0
  | .error (.exit status) => status.toUInt32
  | .error (.errno _) => 1
  | .error .panic => panicStatus

/-- This function runs the probe on the script and gives its exit status and the machine it leaves. -/
def run (directory : String) (threshold : Threshold) : UInt32 × Machine :=
  let (ended, machine) := Probe.run directory (Machine.start script threshold)
  (exitStatus ended, machine)

end LinuxCalls.Probe.Rehearsal
