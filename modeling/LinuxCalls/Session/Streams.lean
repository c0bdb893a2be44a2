/-
This file runs the steps on readers and writers.
-/

import LinuxCalls.Session.Mappings

namespace LinuxCalls

open Session

namespace ReaderStep

/-- The byte that fills a caller's buffer before a read that must fill it completely. -/
def filler : UInt8 := 0xaa

/-- This action runs on the reader in a slot, which keeps the state in which the action leaves it. -/
def onReader (slot : String) (act : Act (Reader Holding × Machine) Report) : Act Session Report :=
  withObject Session.readers slot fun reader =>
    Act.focus (fun session => (reader, session.machine))
      (fun session (reader, machine) =>
        { session with readers := session.readers.put slot reader, machine := machine })
      act

def run (slot : String) : ReaderStep → Act Session Report
  | .start choice capacity => do
    match ← takeDevice choice with
    | none => return .ofFailure (.emptySlot (deviceSlot choice))
    | some holding =>
      storeReader slot (match capacity with
        | some capacity => Reader.withCapacity capacity holding
        | none => Reader.ofDevice holding)
      return .ofValue .nothing
  | .fill => onReader slot do
    let bytes ← Reader.available
    return .ofValue (.bytes bytes)
  | .consume amount => onReader slot do
    Reader.consume amount
    return .ofValue .nothing
  | .read size => onReader slot do
    let reading ← Reader.read (Bytes.zeros size)
    return .ofResult (reading.count.map fun count =>
      .reading count (reading.buffer.take (min count size))) []
  | .readExact size => onReader slot do
    let filled ← Reader.readExact (List.replicate size filler)
    return .ofResult (filled.ending.map fun _ => .nothing) [.buffer filled.bytes]
  | .readUntil delimiter bytes => onReader slot do
    let appended ← Reader.readUntil delimiter bytes
    return .ofResult (appended.count.map .number) [.collected appended.out]
  | .readLine text => onReader slot do
    let appended ← Reader.readLine text
    return .ofResult (appended.count.map .number) [.collectedText appended.out]
  | .device =>
    withObject Session.readers slot fun reader => return .ofValue reader.device.shown
  | .finish =>
    withObject Session.readers slot fun reader => do
      Act.modify fun session => { session with readers := session.readers.erase slot }
      giveBack reader.device
      return .ofValue reader.device.shown
  | .drop =>
    withObject Session.readers slot fun _ => do
      dropReader slot
      return .ofValue .nothing

end ReaderStep

namespace WriterStep

/-- This action runs on the writer in a slot and shows what is buffered afterwards. -/
def onWriter (slot : String) (failure : Errno → Failure) (act : Act (Writer Holding × Machine) Unit) :
    Act Session Report :=
  withObject Session.writers slot fun writer =>
    Act.focus (fun session => (writer, session.machine))
      (fun session (writer, machine) =>
        { session with writers := session.writers.put slot writer, machine := machine })
      do
        let result ← act.attempt
        let (writer, _) ← Act.get
        return ⟨(result.map fun _ => .nothing).mapError failure, [.buffered writer.buffer]⟩

def run (slot : String) : WriterStep → Act Session Report
  | .start choice capacity => do
    match ← takeDevice choice with
    | none => return .ofFailure (.emptySlot (deviceSlot choice))
    | some holding =>
      storeWriter slot (match capacity with
        | some capacity => Writer.withCapacity capacity holding
        | none => Writer.ofDevice holding)
      return .ofValue .nothing
  | .writeAll bytes => onWriter slot .errno (Writer.writeAll bytes)
  | .writeFormat format => onWriter slot .errno (Writer.writeFormat format)
  | .writeText text => onWriter slot (fun _ => .format) (Writer.writeAll (Bytes.ofText text))
  | .flush => onWriter slot .errno Writer.flush
  | .device =>
    withObject Session.writers slot fun writer =>
      return ⟨.ok writer.device.shown, [.buffered writer.buffer]⟩
  | .finish =>
    withObject Session.writers slot fun writer => do
      Act.modify fun session => { session with writers := session.writers.erase slot }
      let (ended, writer) ← onMachine (Act.beside writer Writer.finish)
      match ended with
      | .ok _ =>
        giveBack writer.device
        return .ofValue writer.device.shown
      | .error fault =>
        settleAfter ended writer.device
        Act.fault fault
  | .drop =>
    withObject Session.writers slot fun _ => do
      dropWriter slot
      return .ofValue .nothing

end WriterStep

end LinuxCalls
