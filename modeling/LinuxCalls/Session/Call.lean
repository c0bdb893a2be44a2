/-
This file runs the steps that call the kernel without an owner.
-/

import LinuxCalls.Session.State

namespace LinuxCalls

/-- A completed read is shown with the bytes at the start of a buffer that was filled with zeros. -/
def Value.ofDelivery (size : Nat) (delivery : Delivery) : Except Errno Value :=
  delivery.count.map fun count =>
    .reading count ((Bytes.overlay delivery.stored (Bytes.zeros size)).take (min count size))

def Value.ofInt32 (number : Int32) : Value := .number number.toInt

def Value.ofWord (word : UInt64) : Value := .number word.toNat

namespace CallStep

def run : CallStep → Sys Value
  | .openFile path flags mode => Value.ofInt32 <$> Descriptor.openFile path flags mode
  | .openAt directory path flags mode =>
    Value.ofInt32 <$> Descriptor.openAt directory path flags mode
  | .unlinkAt directory path isDirectory => do
    Descriptor.unlinkAt directory path isDirectory
    return .nothing
  | .close descriptor => do
    Descriptor.close descriptor
    return .nothing
  | .duplicate descriptor => Value.ofInt32 <$> Descriptor.duplicate descriptor
  | .duplicateOnto descriptor target =>
    Value.ofInt32 <$> Descriptor.duplicateOnto descriptor target
  | .seek descriptor offset origin => Value.ofWord <$> Descriptor.seek descriptor offset origin
  | .setLength descriptor length => do
    Descriptor.setLength descriptor length
    return .nothing
  | .read descriptor size => do
    let delivery ← Descriptor.read descriptor size
    Act.ofExcept (Value.ofDelivery size delivery)
  | .write descriptor bytes => do
    let count ← Descriptor.write descriptor bytes
    return .number count
  | .readAt descriptor size offset => do
    let delivery ← Descriptor.readAt descriptor size offset
    Act.ofExcept (Value.ofDelivery size delivery)
  | .writeAt descriptor bytes offset => do
    let count ← Descriptor.writeAt descriptor bytes offset
    return .number count
  | .pipe flags => do
    let (input, output) ← Descriptor.pipe flags
    return .numbers [input.toInt, output.toInt]
  | .status descriptor => Value.status <$> Descriptor.status descriptor
  | .memoryFile name flags => Value.ofInt32 <$> Descriptor.memoryFile name flags
  | .secretMemoryFile closeOnExec =>
    Value.ofInt32 <$> Descriptor.secretMemoryFile closeOnExec
  | .map address length protection sharing flags descriptor offset =>
    Value.ofWord <$> MappedRange.map address length protection sharing flags descriptor offset
  | .unmap address length => do
    MappedRange.unmap address length
    return .nothing
  | .writeBack address length flags => do
    MappedRange.writeBack address length flags
    return .nothing
  | .processId => Value.ofInt32 <$> Process.identifier
  | .openProcess process flags => Value.ofInt32 <$> Process.openFile process flags
  | .sendSignal descriptor signal => do
    Process.sendSignal descriptor signal
    return .nothing
  | .execute program => Process.execute program
  | .launch program => Value.ofInt32 <$> Process.launch program
  | .launchBorrowing program => Value.ofInt32 <$> Process.launchBorrowing program
  | .fork => Value.forked <$> Process.fork
  | .wait target options => do
    match ← Process.wait target options with
    | none => return .nothing
    | some found => return .waited found
  | .exit code => Process.exit code
  | .die context error => Complaint.die context error
  | .duplicateOrDie descriptor =>
    Value.ofInt32 <$> Complaint.orDie (Descriptor.duplicate descriptor)
      ("dup " ++ toString descriptor.toInt)
  | .changeMask how set => do
    let before ← SignalMask.change how set
    return .ofWord before.bits
  | .currentMask => do
    let mask ← SignalMask.current
    return .ofWord mask.bits
  | .invoke kind words => Value.ofWord <$> kind.invoke (words.map Register.word)
  | .perform number words => do
    let reply ← LinuxCalls.perform ⟨number, words.map Register.word⟩
    return .word reply.word

end CallStep

end LinuxCalls
