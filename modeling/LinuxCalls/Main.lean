/-
This file holds the command line of the probe. The probe rehearses with its file in the directory
given, and it leaves its reports on the standard output and its complaints beside them.
-/

import LinuxCalls.Probe.Rehearsal
import LinuxCalls.Log.Setting

namespace LinuxCalls.Console

def emit (stream : IO.FS.Stream) (bytes : Bytes) : IO Unit := do
  stream.write (ByteArray.mk bytes.toArray)
  stream.flush

/-- This action rehearses in a directory and shows what the descriptors have accepted. -/
def rehearse (directory : String) : IO UInt32 := do
  let setting ← IO.getEnv Log.environmentName
  let (status, machine) :=
    Probe.Rehearsal.run directory (Log.thresholdOf (setting.map Bytes.ofText))
  emit (← IO.getStdout) (machine.accepted Descriptor.output)
  emit (← IO.getStderr) (machine.accepted Descriptor.complaints)
  return status

end LinuxCalls.Console

/-- The first argument names the directory. -/
def main (arguments : List String) : IO UInt32 :=
  LinuxCalls.Console.rehearse (arguments.headD LinuxCalls.Probe.defaultDirectory)
