/-
This file holds what a step of a session reports.
-/

import LinuxCalls.Session.Step

namespace LinuxCalls

inductive Value
  | nothing
  | number (value : Int)
  | numbers (values : List Int)
  | word (value : UInt64)
  | flag (value : Bool)
  | text (value : String)
  | bytes (value : Bytes)
  /-- A count and the bytes at the start of the buffer that it counts. -/
  | reading (count : Nat) (bytes : Bytes)
  | status (status : FileStatus)
  | waited (status : WaitStatus)
  | forked (side : Fork)
  | mapping (mapping : Mapping)

inductive Failure
  | errno (error : Errno)
  /-- The error in the form of the standard streams. -/
  | standard (error : Errno)
  /-- The error of a formatted write, which has no number. -/
  | format
  | alreadyInstalled
  /-- A step names a slot that is empty. -/
  | emptySlot (slot : String)

/-- What a step shows besides its value or error. -/
inductive Detail
  | position (value : Nat)
  | buffer (bytes : Bytes)
  | collected (bytes : Bytes)
  | collectedText (text : String)
  | buffered (bytes : Bytes)
  | longForm (text : String)

/-- The report of a step that neither panics nor exits. -/
structure Report where
  outcome : Except Failure Value
  details : List Detail := []

namespace Report

def ofValue (value : Value) : Report := ⟨.ok value, []⟩

def ofFailure (failure : Failure) : Report := ⟨.error failure, []⟩

def ofResult (result : Except Errno Value) (details : List Detail) : Report :=
  ⟨result.mapError .errno, details⟩

end Report

inductive Ending
  | report (report : Report)
  | panicked
  | exited (status : UInt64)

/-- What a step shows: how it ended and what it asked on the way. -/
structure StepAnswer where
  ending : Ending
  questions : List Question

end LinuxCalls
