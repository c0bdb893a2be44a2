/-
This file holds the probe, a program that exercises every part of the library and reports what it
saw on the standard output.
-/

import LinuxCalls.Reader
import LinuxCalls.Writer
import LinuxCalls.SignalMask
import LinuxCalls.Complaint

namespace LinuxCalls.Probe

/-- The probe runs beside what it makes its reports with. -/
abbrev Run (ρ : Type) := Act (ρ × Machine)

variable {ρ α : Type}

/-- This action runs a call and ends the program if the call fails. -/
def must (act : Sys α) (context : String) : Run ρ α := liftM (Complaint.orDie act context)

def onReports (act : Run (Writer DescriptorRef) α) (context : String) : Run (Writer DescriptorRef) α := do
  match ← act.attempt with
  | .ok value => return value
  | .error error => liftM (Complaint.die context error : Sys α)

/-- This action reports texts and writes them out before the next step can fail. -/
def report (texts : List String) : Run (Writer DescriptorRef) Unit := do
  onReports (Writer.writeFormat (Format.ofTexts texts)) "stdout"
  onReports Writer.flush "stdout"

def owning (guard : Guard) (body : Run ρ α) : Run ρ α :=
  Act.releasing (liftM guard.drop) body

def greeting (process : ProcessId) : List String :=
  ["pid ", toString process.toInt, " says hello\n"]

/-- This action writes the greeting through a buffer. -/
def greet (guard : Guard) : Run ρ Unit := do
  let writer := Writer.ofDevice (Borrowed.mk guard)
  let body : Act (Writer (Borrowed Guard) × Machine) Unit := do
    let process ← liftM Process.identifier
    match ← (Writer.writeFormat (Format.ofTexts (greeting process))).attempt with
    | .ok _ => pure ()
    | .error error => liftM (Complaint.die "write memfd" error : Sys Unit)
    match ← Writer.flush.attempt with
    | .ok _ => pure ()
    | .error error => liftM (Complaint.die "flush memfd" error : Sys Unit)
  let (ended, _) ← liftM (Act.beside writer (Act.releasing Writer.drop body) : Sys _)
  Act.resume ended

def readGreeting (guard : Guard) : Run ρ String := do
  let reader := Reader.ofDevice (Borrowed.mk guard)
  must (do
    let (ended, _) ← Act.beside reader (Reader.readLine "")
    let line ← Act.resume ended
    let _ ← Act.ofExcept line.count
    return line.out) "read memfd"

/-- The first step passes a line through a file in memory. -/
def memoryStep (report : List String → Run ρ Unit) (guard : Guard) : Run ρ Unit := do
  greet guard
  let _ ← must (guard.seek 0 .start) "lseek memfd"
  let line ← readGreeting guard
  report ["memfd: ", line]

def filePath (directory : String) (process : ProcessId) : String :=
  directory ++ "/sysprobe-" ++ toString process.toInt ++ ".dat"

def fileLength : Nat := 4096

def fileReport (size : Int64) (head : Bytes) : List String :=
  ["file: ", toString size.toInt, " bytes, mapping starts with ",
    Text.quoteText (Text.ofBytesReplacing head), "\n"]

/-- The second step fills a file and reads it through a mapping. -/
def fileStep (report : List String → Run ρ Unit) (directory : String) : Run ρ Unit := do
  let path := filePath directory (← liftM Process.identifier)
  let argument := StringArgument.ofText path
  let flags := ((OpenFlags.create.union OpenFlags.readWrite).union OpenFlags.emptied).union
    OpenFlags.closeOnExec
  let file ← must (Guard.openFile argument flags (Mode.ofBits 0x1a4)) ("open " ++ path)
  let whileOpen : Run ρ Unit := do
    must (file.setLength (UInt64.ofNat fileLength)) ("ftruncate " ++ path)
    let _ ← must (file.writeAt (Bytes.ofText "mapped") 0) ("pwrite " ++ path)
    let mapping ← must (Mapping.ofFile file.descriptor fileLength 0 Protection.read .shared)
      ("mmap " ++ path)
    Act.releasing (liftM mapping.drop) do
      let status ← must file.status ("fstat " ++ path)
      let (_, machine) ← Act.get
      report (fileReport status.size ((mapping.slice machine.memory 0 6).getD []))
  match ← whileOpen.outcome with
  | .ok _ => pure ()
  | .error (.exit status) => Act.fault (.exit status)
  | .error reason =>
    liftM file.drop
    Act.fault reason
  must file.close ("close " ++ path)
  must (Descriptor.unlinkAt .current argument false) ("unlink " ++ path)

/-- The signals that the probe asks to block, two of which are reserved. -/
def requested : SignalSet := ((SignalSet.empty.insert Signal.userOne).insert 32).insert 33

def maskReport (applied : SignalSet) : List String :=
  ["mask: requested ", requested.longForm, ", applied ", applied.longForm, "\n"]

/-- The third step blocks signals and restores the mask. -/
def maskStep (report : List String → Run ρ Unit) : Run ρ Unit := do
  let before ← must (SignalMask.change .block requested) "sigprocmask"
  let applied ← must SignalMask.current "sigprocmask"
  let _ ← must (SignalMask.change .replace before) "sigprocmask"
  report (maskReport applied)

def childProgram : Program where
  path := .ofText "/bin/sh"
  arguments := [.ofText "sh", .ofText "-c", .ofText "exit 3"]
  environment := []

/-- This action waits for the child by a descriptor, or by its number on a kernel without them. -/
def awaitChild (child : ProcessId) : Sys (Option WaitStatus) := do
  match ← (Guard.ofProcess child Flags.empty).attempt with
  | .ok guard =>
    Act.releasing guard.drop (Process.wait (.processFile guard.descriptor) WaitOptions.exited)
  | .error error =>
    if error = Errno.notImplemented then Process.wait (.process child) WaitOptions.exited
    else Act.fail error

def childReport (child : ProcessId) : Option WaitStatus → List String
  | some status => ["child ", toString status.process.toInt, ": ", status.state.name, " ",
      toString status.status.toInt, "\n"]
  | none => ["child ", toString child.toInt, ": no state change\n"]

/-- The fourth step starts a child and waits for it. -/
def childStep (report : List String → Run ρ Unit) : Run ρ Unit := do
  let child ← must (Process.launch childProgram) "spawn /bin/sh"
  let status ← must (awaitChild child) ("waitid " ++ toString child.toInt)
  report (childReport child status)

def defaultDirectory : String := "/tmp"

/-- This action runs the four steps in turn, each of which makes a report. -/
def steps (report : List String → Run ρ Unit) (directory : String) : Run ρ Unit := do
  let memory ← must (Guard.memoryFile (.ofText "sysprobe") MemoryFileFlags.closeOnExec)
    "memfd_create"
  owning memory do
    memoryStep report memory
    fileStep report directory
    maskStep report
    childStep report
    liftM (Log.tell .info "sysprobe done")

/-- This action runs the probe and releases what it used, unless it exits. -/
def run (directory : String) : Sys Unit := do
  let (ended, _) ← Act.beside (Writer.ofDevice (DescriptorRef.mk Descriptor.output))
    (Act.releasing Writer.drop (steps report directory))
  Act.resume ended

end LinuxCalls.Probe
