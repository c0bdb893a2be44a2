/-
This file holds buffered writers. A writer reaches its sink only when bytes do not fit, when it is
flushed, and at the end of its life.
-/

import LinuxCalls.Stream
import LinuxCalls.Format

namespace LinuxCalls

/-- A sink with a buffer. -/
structure Writer (δ : Type) where
  device : δ
  buffer : Bytes
  capacity : Nat

namespace Writer

variable {δ : Type}

/-- A writer with an empty buffer of at least one byte. -/
def withCapacity (capacity : Nat) (device : δ) : Writer δ := ⟨device, [], max capacity 1⟩

def ofDevice (device : δ) : Writer δ := withCapacity defaultCapacity device

def self : Act (Writer δ × Machine) (Writer δ) := do
  let (writer, _) ← Act.get
  return writer

def setBuffer (bytes : Bytes) : Act (Writer δ × Machine) Unit :=
  Act.modify fun (writer, machine) => ({ writer with buffer := bytes }, machine)

def onDevice {α : Type} (act : Act (δ × Machine) α) : Act (Writer δ × Machine) α :=
  Act.focus (fun (writer, machine) => (writer.device, machine))
    (fun (writer, _) (device, machine) => ({ writer with device := device }, machine)) act

variable [Sink δ]

/--
This action writes bytes from an index on and gives the index of the first byte that was not
accepted. A count beyond the bytes offered is a panic, because what is left is sliced from the sum of
the index and the count. The sum is exact here: where it overflows, a build that checks sums panics,
too, and one that does not check them goes on from the wrapped sum, which is excluded.
-/
def drainFrom (bytes : Bytes) (written : Nat) : Act (δ × Machine) (Nat × Except Errno Unit) :=
  if written = bytes.length then return (written, .ok ())
  else if _ : bytes.length < written then Act.panic
  else do
    match ← (Sink.write (bytes.drop written)).attempt with
    | .error error => return (written, .error error)
    | .ok count =>
      if _ : count = 0 then return (written, .error Errno.transferFailed)
      else drainFrom bytes (written + count)
termination_by bytes.length - written

/-- This action writes the buffer out. What was not accepted stays in the buffer. -/
def flush : Act (Writer δ × Machine) Unit := do
  let writer ← self
  let (written, ending) ← onDevice (drainFrom writer.buffer 0)
  setBuffer (writer.buffer.drop written)
  Act.ofExcept ending

/-- This action writes all bytes to the sink and goes on after a short write. -/
def writeThrough (bytes : Bytes) : Act (δ × Machine) Unit :=
  if bytes = [] then pure ()
  else do
    let count ← Sink.write bytes
    if _ : count = 0 then Act.fail Errno.transferFailed
    else if _ : bytes.length < count then Act.panic
    else writeThrough (bytes.drop count)
termination_by bytes.length
decreasing_by
  simp only [List.length_drop]
  omega

/-- This action buffers bytes, or writes them through if the buffer could never hold them. -/
def writeAll (bytes : Bytes) : Act (Writer δ × Machine) Unit := do
  let writer ← self
  if writer.capacity < writer.buffer.length + bytes.length then flush
  if writer.capacity ≤ bytes.length then onDevice (writeThrough bytes)
  else setBuffer ((← self).buffer ++ bytes)

/--
This action writes a formatted value. If the value refuses to go on, the last error of the sink is
reported, and a value that refuses on its own is an invalid argument.
-/
def writeFormat (format : Format) : Act (Writer δ × Machine) Unit := go format none
where
  /-- The error that the value itself cannot pass on is remembered beside it. -/
  go : Format → Option Errno → Act (Writer δ × Machine) Unit
    | .done, _ => pure ()
    | .refuse, seen => Act.fail (seen.getD Errno.invalidArgument)
    | .piece text next, seen => do
      match ← (writeAll text).attempt with
      | .ok _ => go (next true) seen
      | .error error => go (next false) (some error)

def lostText (count : Nat) (error : Errno) : String :=
  "BufWriter: " ++ toString count ++ " buffered bytes lost: " ++ error.description

def lostOnDropText (count : Nat) (error : Errno) : String :=
  "BufWriter: " ++ toString count ++ " buffered bytes lost on drop: " ++ error.description

/-- This action writes the buffer out for the last time and logs what is lost. -/
def flushAtEnd : Act (Writer δ × Machine) Unit := do
  let writer ← self
  unless writer.buffer = [] do
    match ← flush.attempt with
    | .ok _ => pure ()
    | .error error =>
      let left := (← self).buffer
      liftM (Log.tell .warn (lostOnDropText left.length error))

variable [Resource δ]

/-- This action ends the writer's life. The device is released even after a panic. -/
def drop : Act (Writer δ × Machine) Unit :=
  Act.releasing releaseDevice flushAtEnd
where
  /-- The device is released in the state in which the writer leaves it. -/
  releaseDevice : Act (Writer δ × Machine) Unit := do
    liftM (Resource.release (← self).device)

/--
This action flushes the writer for the last time. If that succeeds, the device is the caller's. If
it fails, the bytes left are lost and the device is released. A panic drops the writer.
-/
def finish : Act (Writer δ × Machine) Unit := do
  match ← flushOrLose.outcome with
  | .ok (.ok _) => pure ()
  | .ok (.error error) =>
    drop.releaseDevice
    Act.fail error
  | .error (.exit status) => Act.fault (.exit status)
  | .error reason =>
    drop
    Act.fault reason
where
  /-- The bytes left after a failed flush are reported and discarded. -/
  flushOrLose : Act (Writer δ × Machine) (Except Errno Unit) := do
    match ← flush.attempt with
    | .ok _ => return .ok ()
    | .error error =>
      let left := (← self).buffer
      liftM (Log.tell .warn (lostText left.length error))
      setBuffer []
      return .error error

end Writer

end LinuxCalls
