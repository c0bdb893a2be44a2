/-
This file runs the steps on guards.
-/

import LinuxCalls.Session.Call

namespace LinuxCalls

namespace GuardStep

open Session

def make (act : Sys Guard) (slot : String) : Act Session Report := do
  let guard ← onMachine act
  storeGuard slot guard
  return .ofValue (.ofInt32 guard.descriptor)

def borrowing (slot : String) (use : Guard → Sys Value) : Act Session Report :=
  withObject Session.guards slot fun guard => do
    let value ← onMachine (use guard)
    return .ofValue value

/-- This action uses the guard in a slot and reports an error in the form of the standard streams. -/
def borrowingStandard (slot : String) (use : Guard → Sys Value) : Act Session Report :=
  withObject Session.guards slot fun guard => do
    let result ← onMachine (use guard).attempt
    return ⟨result.mapError .standard, []⟩

/-- This action takes the guard out of its slot and uses it up. -/
def consuming (slot : String) (use : Guard → Sys Value) : Act Session Report :=
  withObject Session.guards slot fun guard => do
    Act.modify fun session => { session with guards := session.guards.erase slot }
    let value ← onMachine (use guard)
    return .ofValue value

/-- This action reads from a guard and shows what has arrived. -/
def reading (size : Nat) (guard : Guard) : Sys Value := do
  let delivery ← guard.read size
  Act.ofExcept (Value.ofDelivery size delivery)

def run : GuardStep → Act Session Report
  | .openFile path flags mode slot => make (Guard.openFile path flags mode) slot
  | .openAt guard path flags mode slot =>
    withObject Session.guards guard fun guard => make (guard.openAt path flags mode) slot
  | .memoryFile name flags slot => make (Guard.memoryFile name flags) slot
  | .secretMemoryFile closeOnExec slot => make (Guard.secretMemoryFile closeOnExec) slot
  | .ofProcess process flags slot => make (Guard.ofProcess process flags) slot
  | .ofDescriptor number slot => make (pure ⟨number⟩) slot
  | .duplicate guard slot =>
    withObject Session.guards guard fun guard => make guard.duplicate slot
  | .pipe flags input output => do
    let (first, second) ← onMachine (Guard.pipe flags)
    storeGuard input first
    storeGuard output second
    return .ofValue (.numbers [first.descriptor.toInt, second.descriptor.toInt])
  | .duplicateOnto guard target =>
    withObject Session.guards target fun target =>
      borrowing guard fun guard => do
        guard.duplicateOnto target
        return .nothing
  | .descriptor guard =>
    withObject Session.guards guard fun guard => do
      let shared ← onMachine guard.handOver
      return ⟨.ok (.numbers [guard.descriptor.toInt, guard.descriptor.toInt, shared.toInt]),
        [.longForm guard.longForm]⟩
  | .giveUp guard => consuming guard fun guard => pure (.ofInt32 guard.descriptor)
  | .close guard => consuming guard fun guard => do
    guard.close
    return .nothing
  | .drop guard => consuming guard fun guard => do
    guard.drop
    return .nothing
  | .handOver guard =>
    withObject Session.guards guard fun object => do
      Act.modify fun session => { session with guards := session.guards.erase guard }
      let owned ← onMachine object.handOver
      storeGuard guard ⟨owned⟩
      return .ofValue (.ofInt32 owned)
  | .read guard size => borrowing guard (reading size)
  | .write guard bytes => borrowing guard fun guard => do
    let count ← guard.write bytes
    return .number count
  | .writeAll guard bytes => borrowing guard fun guard => do
    guard.writeAll bytes
    return .nothing
  | .readAt guard size offset => borrowing guard fun guard => do
    let delivery ← guard.readAt size offset
    Act.ofExcept (Value.ofDelivery size delivery)
  | .writeAt guard bytes offset => borrowing guard fun guard => do
    let count ← guard.writeAt bytes offset
    return .number count
  | .seek guard offset origin => borrowing guard fun guard => Value.ofWord <$> guard.seek offset origin
  | .setLength guard length => borrowing guard fun guard => do
    guard.setLength length
    return .nothing
  | .status guard => borrowing guard fun guard => Value.status <$> guard.status
  | .standardRead guard size => borrowingStandard guard (reading size)
  | .standardWrite guard bytes => borrowingStandard guard fun guard => do
    let count ← guard.write bytes
    return .number count
  | .standardFlush guard => borrowingStandard guard fun _ => pure .nothing
  | .standardSeek guard position =>
    borrowingStandard guard fun guard => Value.ofWord <$> guard.seekStandard position

end GuardStep

end LinuxCalls
