/-
This file reads the threshold of the log from a setting in the environment.
-/

import LinuxCalls.Log.Backend
import LinuxCalls.Text.Utf8
import LinuxCalls.Text.CharacterClass

namespace LinuxCalls.Log

def defaultThreshold : Threshold := .upTo .warn

def trim (text : String) : String :=
  String.ofList (((text.toList.dropWhile Text.isBlank).reverse.dropWhile Text.isBlank).reverse)

/-- A setting that is no text or names no threshold counts as missing. -/
def thresholdOf (setting : Option Bytes) : Threshold :=
  match setting.bind Text.ofBytes? with
  | none => defaultThreshold
  | some text => (Threshold.ofName? (trim text)).getD defaultThreshold

/-- This action logs one record at each of the four most urgent levels. -/
def sample : Sys Unit := do
  tell .error "e 1"
  tell .warn "w"
  tell .info "i"
  tell .debug "d"

/-- The lines that the sample records leave behind under a threshold. -/
def sampleLines (threshold : Threshold) : List String :=
  let (_, machine) := sample (Machine.start ⟨[]⟩ threshold)
  ((Text.ofBytesReplacing (machine.accepted complaints)).splitOn "\n").filter (· ≠ "")

end LinuxCalls.Log
