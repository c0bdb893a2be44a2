/-
This file holds the log. A record becomes one line on the descriptor for complaints, and a record
that arrives while another one is being written is dropped.
-/

import LinuxCalls.Issue

namespace LinuxCalls.Log

def target : String := "sysbase"

def complaints : Int32 := 2

def line (level : Level) (target message : String) : String :=
  "[" ++ level.name ++ String.ofList (List.replicate (5 - level.name.length) ' ') ++ " " ++ target ++
    "] " ++ message ++ "\n"

/--
This action writes bytes to the descriptor for complaints. The listener is silent because the
records of these calls would arrive while a record is being written.
-/
def writeQuietly (bytes : Bytes) : Sys UInt64 := do
  let completion ← CallKind.issue Listener.silent .write
    [.ofInt32 complaints, .data bytes, .ofLength bytes.length]
  Act.ofExcept completion.result

/--
This action writes all of the bytes. An interrupted write is repeated, a short write is continued,
and a refused or failed write ends the delivery. The patience bounds the number of writes.
-/
def deliverWithin : (patience : Nat) → Bytes → Sys Unit
  | 0, _ => pure ()
  | patience + 1, bytes =>
    if bytes = [] then pure ()
    else do
      match ← (writeQuietly bytes).attempt with
      | .ok count =>
        if count = 0 then pure ()
        else if bytes.length < count.toNat then Act.panic
        else deliverWithin patience (bytes.drop count.toNat)
      | .error error =>
        if error = Errno.interrupted then deliverWithin patience bytes else pure ()

/-- Each write either shortens the bytes or uses up an answer, so this patience always suffices. -/
def deliver (bytes : Bytes) : Sys Unit := do
  let machine ← Act.get
  deliverWithin (bytes.length + machine.script.uses .complaints + 1) bytes

structure Backend where
  threshold : Threshold

/--
This action writes a record. The message is made while the record counts as being written, so what
the message itself logs is dropped.
-/
def Backend.log (backend : Backend) (level : Level) (target : String) (message : Sys String) :
    Sys Unit := do
  if backend.threshold.admits level then
    let machine ← Act.get
    unless machine.recording do
      Act.modify fun machine => { machine with recording := true }
      let text ← message
      deliver (Bytes.ofText (line level target text))
      Act.modify fun machine => { machine with recording := false }

/-- The installed backend leaves the choice of records to the machine's threshold. -/
def installed : Backend := ⟨.upTo .trace⟩

def alreadyInstalled : String :=
  "attempted to set a logger after the logging system was already initialized"

/-- This action hands a record to the installed backend if the threshold admits its level. -/
def record (level : Level) (target : String) (message : Sys String) : Sys Unit := do
  let machine ← Act.get
  if machine.threshold.admits level then
    installed.log level target message

def tell : Listener := fun level message => record level target (pure message)

def setThreshold (threshold : Threshold) : Sys Unit :=
  Act.modify fun machine => { machine with threshold := threshold }

def environmentName : String := "SYSBASE_LOG"

end LinuxCalls.Log
