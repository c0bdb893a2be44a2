/-
This file holds the way out of a program that cannot go on: a complaint and an exit.
-/

import LinuxCalls.Process

namespace LinuxCalls.Complaint

def line (context : String) (error : Errno) : String :=
  "error: " ++ context ++ ": " ++ error.description ++ "\n"

/--
This action writes bytes to the descriptor for complaints as long as some of them are accepted. It
goes on after a short write and stops at a failed or refused one.
-/
def push (bytes : Bytes) : Sys Unit := do
  match ← (Descriptor.write Descriptor.complaints bytes).attempt with
  | .error _ => pure ()
  | .ok count =>
    if _ : count = 0 then pure ()
    else if _ : bytes.length < count then Act.panic
    else if bytes.drop count = [] then pure ()
    else push (bytes.drop count)
termination_by bytes.length
decreasing_by
  simp only [List.length_drop]
  omega

/-- This action writes a complaint and exits with code 1. Nothing is released. -/
def die {α : Type} (context : String) (error : Errno) : Sys α := do
  push (Bytes.ofText (line context error))
  Process.exit 1

/-- This action gives the value of another one, or complains about its error and exits. -/
def orDie {α : Type} (act : Sys α) (context : String) : Sys α := do
  match ← act.attempt with
  | .ok value => return value
  | .error error => die context error

end LinuxCalls.Complaint
