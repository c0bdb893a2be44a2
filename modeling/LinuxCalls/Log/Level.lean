/-
This file holds the levels of log records and the thresholds that select them.
-/

namespace LinuxCalls

/-- The level of a log record, the most urgent first. -/
inductive Level
  | error
  | warn
  | info
  | debug
  | trace
  deriving DecidableEq

namespace Level

def rank : Level → Nat
  | .error => 1
  | .warn => 2
  | .info => 3
  | .debug => 4
  | .trace => 5

def name : Level → String
  | .error => "ERROR"
  | .warn => "WARN"
  | .info => "INFO"
  | .debug => "DEBUG"
  | .trace => "TRACE"

end Level

/-- A threshold takes the records up to a level, or none. -/
inductive Threshold
  | off
  | upTo (level : Level)
  deriving DecidableEq

namespace Threshold

def rank : Threshold → Nat
  | .off => 0
  | .upTo level => level.rank

def admits (threshold : Threshold) (level : Level) : Bool := level.rank ≤ threshold.rank

def name : Threshold → String
  | .off => "OFF"
  | .upTo level => level.name

def all : List Threshold :=
  [.off, .upTo .error, .upTo .warn, .upTo .info, .upTo .debug, .upTo .trace]

/-- The threshold with a name in capitals or small letters. -/
def ofName? (name : String) : Option Threshold :=
  all.find? fun threshold => threshold.name == name.map Char.toUpper

end Threshold

end LinuxCalls
