/-
This file runs the steps on mappings and cursors.
-/

import LinuxCalls.Session.Guards

namespace LinuxCalls

open Session

namespace MappingStep

def make (act : Sys Mapping) (slot : String) : Act Session Report := do
  let mapping ← onMachine act
  storeMapping slot mapping
  return .ofValue (.ofWord mapping.address)

def run : MappingStep → Act Session Report
  | .anonymous length protection slot => make (Mapping.anonymous length protection) slot
  | .ofFile (.descriptor descriptor) length offset protection sharing slot =>
    make (Mapping.ofFile descriptor length offset protection sharing) slot
  | .ofFile (.guard guard) length offset protection sharing slot =>
    withObject Session.guards guard fun guard =>
      make (Mapping.ofFile guard.descriptor length offset protection sharing) slot
  | .info mapping =>
    withObject Session.mappings mapping fun mapping => return .ofValue (.mapping mapping)
  | .slice mapping start length =>
    withObject Session.mappings mapping fun mapping => do
      let session ← Act.get
      match mapping.slice session.machine.memory start length with
      | some bytes => return .ofValue (.bytes bytes)
      | none => return .ofValue .nothing
  | .copyIn mapping start bytes =>
    withObject Session.mappings mapping fun mapping => do
      onMachine (mapping.copyIn start bytes)
      return .ofValue .nothing
  | .flush mapping =>
    withObject Session.mappings mapping fun mapping => do
      onMachine mapping.flush
      return .ofValue .nothing
  | .drop mapping =>
    withObject Session.mappings mapping fun _ => do
      dropMapping mapping
      return .ofValue .nothing

end MappingStep

namespace CursorStep

/-- This action runs on the cursor in a slot and shows the position afterwards. -/
def onCursor (slot : String) (act : Act (Cursor × Machine) Value) : Act Session Report :=
  withObject Session.cursors slot fun bookmark => do
    let (result, cursor) ← onMachine (Act.beside bookmark.cursor act.attempt)
    let result ← Act.resume result
    Act.modify fun session =>
      { session with cursors := session.cursors.put slot { bookmark with cursor := cursor } }
    return .ofResult result [Detail.position cursor.position]

def run : CursorStep → Act Session Report
  | .start mapping slot =>
    withObject Session.mappings mapping fun object => do
      Act.modify fun session => { session with mappings := session.mappings.erase mapping }
      storeCursor slot ⟨Cursor.start object, mapping⟩
      return .ofValue (.number 0)
  | .read cursor size => onCursor cursor do
    let bytes ← Cursor.read size
    return .reading bytes.length bytes
  | .write cursor bytes => onCursor cursor do
    let count ← Cursor.write bytes
    return .number count
  | .moveTo cursor place => onCursor cursor do
    Act.modify fun (cursor, machine) => (cursor.moveTo place, machine)
    return .nothing
  | .position cursor => onCursor cursor (pure .nothing)
  | .drop cursor =>
    withObject Session.cursors cursor fun _ => do
      dropCursor cursor
      return .ofValue .nothing

end CursorStep

end LinuxCalls
