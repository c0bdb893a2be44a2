/-
This file holds buffered readers. A reader asks its source only when no unread byte is left, and a
large read of an empty buffer goes past the buffer.
-/

import LinuxCalls.Stream
import LinuxCalls.Text.Utf8

namespace LinuxCalls

/-- A source with a buffer. The bytes from the position to the mark are unread. -/
structure Reader (δ : Type) where
  device : δ
  buffer : Bytes
  position : Nat
  mark : Nat

/-- What a caller's buffer holds after a read that must fill it, and how the read ended. -/
structure Collected where
  bytes : Bytes
  ending : Except Errno Unit

/-- What a caller's bytes or text have become after a read that appends to them, and the number that it returns. -/
structure Appended (α : Type) where
  out : α
  count : Except Errno Nat

namespace Reader

variable {δ : Type}

def withCapacity (capacity : Nat) (device : δ) : Reader δ :=
  ⟨device, Bytes.zeros (max capacity 1), 0, 0⟩

def ofDevice (device : δ) : Reader δ := withCapacity defaultCapacity device

/-- The bytes that are read from the source but not yet taken. -/
def unread (reader : Reader δ) : Bytes :=
  (reader.buffer.drop reader.position).take (reader.mark - reader.position)

def self : Act (Reader δ × Machine) (Reader δ) := do
  let (reader, _) ← Act.get
  return reader

def change (update : Reader δ → Reader δ) : Act (Reader δ × Machine) Unit :=
  Act.modify fun (reader, machine) => (update reader, machine)

def onDevice {α : Type} (act : Act (δ × Machine) α) : Act (Reader δ × Machine) α :=
  Act.focus (fun (reader, machine) => (reader.device, machine))
    (fun (reader, _) (device, machine) => ({ reader with device := device }, machine)) act

/--
This action takes bytes off the unread ones, and at most all of them. The sum of the position and
the amount is exact here, so an amount with which it overflows is excluded.
-/
def consume (amount : Nat) : Act (Reader δ × Machine) Unit :=
  change fun reader => { reader with position := min (reader.position + amount) reader.mark }

variable [Source δ]

/--
This action fills the buffer with one read if no unread byte is left. A count beyond the buffer is a
panic.
-/
def fill : Act (Reader δ × Machine) Unit := do
  let reader ← self
  if reader.mark ≤ reader.position then
    let reading ← onDevice (Source.read reader.buffer)
    change fun reader => { reader with buffer := reading.buffer }
    let count ← Act.ofExcept reading.count
    if reader.buffer.length < count then Act.panic
    change fun reader => { reader with position := 0, mark := count }

def available : Act (Reader δ × Machine) Bytes := do
  fill
  return (← self).unread

def read (out : Bytes) : Act (Reader δ × Machine) Reading := do
  let reader ← self
  if reader.mark ≤ reader.position ∧ reader.buffer.length ≤ out.length then
    onDevice (Source.read out)
  else
    match ← available.attempt with
    | .error error => return ⟨out, .error error⟩
    | .ok bytes =>
      let taken := bytes.take out.length
      consume taken.length
      return ⟨Bytes.overlay taken out, .ok taken.length⟩

/--
This action fills a caller's buffer completely. Input that ends before is an error, and a count
beyond the buffer is a panic.
-/
def readExact (out : Bytes) : Act (Reader δ × Machine) Collected :=
  fillFrom out.length out
where
  /-- Every round fills at least one byte, so the number of bytes bounds the rounds. -/
  fillFrom : (rounds : Nat) → Bytes → Act (Reader δ × Machine) Collected
    | 0, out => return ⟨out, .ok ()⟩
    | rounds + 1, out =>
      if out = [] then return ⟨[], .ok ()⟩
      else do
        let reading ← read out
        match reading.count with
        | .error error => return ⟨reading.buffer, .error error⟩
        | .ok count =>
          if count = 0 then return ⟨reading.buffer, .error Errno.noData⟩
          else if out.length < count then Act.panic
          else
            let rest ← fillFrom rounds (reading.buffer.drop count)
            return ⟨reading.buffer.take count ++ rest.bytes, rest.ending⟩

/--
This action appends bytes up to and including a delimiter, or to the end of the input, and returns
their number. What it has appended before an error stays appended.
-/
def readUntil (delimiter : UInt8) (out : Bytes) : Act (Reader δ × Machine) (Appended Bytes) := do
  let (reader, machine) ← Act.get
  let appended ← collect (Source.reserve reader.device machine + 2) 0
  return ⟨out ++ appended.out, appended.count⟩
where
  /--
  The buffer is emptied in every round but the last, so the source's reserve bounds the rounds. The
  total is the number of bytes that the rounds before have appended.
  -/
  collect : (rounds total : Nat) → Act (Reader δ × Machine) (Appended Bytes)
    | 0, total => return ⟨[], .ok total⟩
    | rounds + 1, total => do
      match ← available.attempt with
      | .error error => return ⟨[], .error error⟩
      | .ok [] => return ⟨[], .ok total⟩
      | .ok bytes =>
        match bytes.findIdx? (· == delimiter) with
        | some index =>
          consume (index + 1)
          return ⟨bytes.take (index + 1), .ok (total + index + 1)⟩
        | none =>
          consume bytes.length
          let rest ← collect rounds (total + bytes.length)
          return ⟨bytes ++ rest.out, rest.count⟩

def lineEnd : UInt8 := 10

/--
This action appends a line with its end and returns the number of its bytes. After an error the text
is as it was, and a line that is no text is an error and stays taken.
-/
def readLine (out : String) : Act (Reader δ × Machine) (Appended String) := do
  let line ← readUntil lineEnd []
  match line.count with
  | .error error => return ⟨out, .error error⟩
  | .ok count =>
    match Text.ofBytes? line.out with
    | some text => return ⟨out ++ text, .ok count⟩
    | none => return ⟨out, .error Errno.illegalSequence⟩

/-- This action releases the device at the end of the reader's life. Unread bytes are lost. -/
def drop [Resource δ] (reader : Reader δ) : Sys Unit := Resource.release reader.device

end Reader

end LinuxCalls
