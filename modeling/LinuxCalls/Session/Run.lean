/-
This file runs sessions. A session runs its steps until one panics or exits, and unless the process
has exited, it then drops the objects that are left.
-/

import LinuxCalls.Session.Streams

namespace LinuxCalls

open Session

namespace LogStep

def run : LogStep → Sys Report
  | .threshold replacement => do
    match replacement with
    | some chosen => Log.setThreshold chosen
    | none => pure ()
    let machine ← Act.get
    return .ofValue (.text machine.threshold.name)
  | .record level message => do
    Log.tell level message
    return .ofValue .nothing
  | .nested outer inner => do
    Log.record .error Log.target do
      Log.tell .error inner
      return "<" ++ outer ++ ">"
    return .ofValue .nothing
  | .backend bound level target message => do
    let own : Log.Backend := ⟨bound⟩
    own.log level target (pure message)
    return .ofValue (.flag (bound.admits level))
  | .install => return .ofFailure .alreadyInstalled

end LogStep

namespace Step

def run : Step → Act Session Report
  | .call step => do
    let value ← onMachine step.run
    return .ofValue value
  | .guard step => step.run
  | .mapping step => step.run
  | .cursor step => step.run
  | .reader slot step => step.run slot
  | .writer slot step => step.run slot
  | .log step => onMachine step.run
  | .probe => do
    onMachine (Probe.run Probe.defaultDirectory)
    return .ofValue .nothing

end Step

namespace Session

/-- The questions that were asked since an earlier state, in order. -/
def questionsSince (earlier later : Session) : List Question :=
  ((later.machine.journal.take (later.machine.journal.length - earlier.machine.journal.length)).map
    Event.question).reverse

def endingOf : Except Fault Report → Ending
  | .ok report => .report report
  | .error (.errno error) => .report (.ofFailure (.errno error))
  | .error .panic => .panicked
  | .error (.exit status) => .exited status

def runStep (session : Session) (step : Step) : StepAnswer × Session :=
  let (result, next) := step.run session
  (⟨endingOf result, questionsSince session next⟩, next)

/-- This function runs steps up to the first one that does not report. -/
def runSteps (session : Session) : List Step → List StepAnswer × Session
  | [] => ([], session)
  | step :: rest =>
    let (answer, next) := session.runStep step
    match answer.ending with
    | .report _ =>
      let (answers, last) := next.runSteps rest
      (answer :: answers, last)
    | _ => ([answer], next)

/-- This action drops the objects in the given slots and goes on after a panic. -/
def dropEach (drop : String → Act Session Unit) : List String → Act Session Unit
  | [] => pure ()
  | slot :: rest => do
    let _ ← (drop slot).outcome
    dropEach drop rest

/-- This action drops all objects: readers, writers, cursors, mappings and guards in turn. -/
def dropAll : Act Session Unit := do
  dropEach dropReader (← Act.get).readers.names
  dropEach dropWriter (← Act.get).writers.names
  dropEach dropCursor (← Act.get).cursors.names
  dropEach dropMapping (← Act.get).mappings.names
  dropEach dropGuard (← Act.get).guards.names

structure Transcript where
  answers : List StepAnswer
  /-- What was asked when the objects left were dropped. -/
  ending : List Question
  /-- The uses that the script still offers. -/
  unused : List (Channel × Nat)

def hasExited (answers : List StepAnswer) : Bool :=
  match answers.getLast? with
  | some ⟨.exited _, _⟩ => true
  | _ => false

/-- This function ends a session: unless the process has exited, the objects left are dropped. -/
def conclude (answers : List StepAnswer) (session : Session) : Session :=
  if hasExited answers then session else (dropAll session).2

def run (script : Script) (threshold : Threshold) (steps : List Step) : Transcript :=
  let (answers, session) := (start script threshold).runSteps steps
  let last := conclude answers session
  ⟨answers, questionsSince session last, last.machine.script.unused⟩

end Session

end LinuxCalls
