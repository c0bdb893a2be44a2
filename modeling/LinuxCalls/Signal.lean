/-
This file holds signal numbers and sets of signals as the kernel lays them out.
-/

namespace LinuxCalls

namespace Signal

def highest : UInt32 := 64

def child : UInt32 := 17

def userOne : UInt32 := 10

/-- The signal by which the threading runtime cancels a thread. -/
def cancel : UInt32 := 32

/-- The signal by which the threading runtime changes the user of every thread. -/
def changeUser : UInt32 := 33

def symbols : List (String × UInt32) := [
  ("SIGHUP", 1), ("SIGINT", 2), ("SIGQUIT", 3), ("SIGILL", 4), ("SIGTRAP", 5), ("SIGABRT", 6),
  ("SIGBUS", 7), ("SIGFPE", 8), ("SIGKILL", 9), ("SIGUSR1", userOne), ("SIGSEGV", 11),
  ("SIGUSR2", 12), ("SIGPIPE", 13), ("SIGALRM", 14), ("SIGTERM", 15), ("SIGSTKFLT", 16),
  ("SIGCHLD", child), ("SIGCONT", 18), ("SIGSTOP", 19), ("SIGTSTP", 20), ("SIGTTIN", 21),
  ("SIGTTOU", 22), ("SIGURG", 23), ("SIGXCPU", 24), ("SIGXFSZ", 25), ("SIGVTALRM", 26),
  ("SIGPROF", 27), ("SIGWINCH", 28), ("SIGIO", 29), ("SIGPWR", 30), ("SIGSYS", 31),
  ("SIGCANCEL", cancel), ("SIGSETXID", changeUser), ("NSIG", highest)]

end Signal

/-- A set of signals. The lowest bit stands for signal 1. -/
structure SignalSet where
  bits : UInt64
  deriving DecidableEq

namespace SignalSet

/-- The bit of a signal number. A number that no signal has gets no bit. -/
def bit (signal : UInt32) : UInt64 :=
  if signal = 0 ∨ Signal.highest < signal then 0 else 1 <<< (signal - 1).toUInt64

def empty : SignalSet := ⟨0⟩

def full : SignalSet := ⟨0xffffffffffffffff⟩

/-- A copy of a set with a signal added. -/
def copyWith (set : SignalSet) (signal : UInt32) : SignalSet := ⟨set.bits ||| bit signal⟩

def copyWithout (set : SignalSet) (signal : UInt32) : SignalSet := ⟨set.bits &&& ~~~bit signal⟩

def insert (set : SignalSet) (signal : UInt32) : SignalSet := ⟨set.bits ||| bit signal⟩

def erase (set : SignalSet) (signal : UInt32) : SignalSet := ⟨set.bits &&& ~~~bit signal⟩

/-- A set contains a signal if the signal has a bit and the set has that bit. -/
def contains (set : SignalSet) (signal : UInt32) : Bool :=
  bit signal != 0 && set.bits &&& bit signal != 0

def isEmpty (set : SignalSet) : Bool := set.bits == 0

def ofList (signals : List UInt32) : SignalSet := signals.foldl insert empty

def toList (set : SignalSet) : List UInt32 :=
  ((List.range' 1 64).map UInt32.ofNat).filter set.contains

/-- The signals that belong to the threading runtime. -/
def reserved : SignalSet := (empty.insert Signal.cancel).insert Signal.changeUser

/-- This function takes the threading runtime's signals out of a set. -/
def withoutReserved (set : SignalSet) : SignalSet := ⟨set.bits &&& ~~~reserved.bits⟩

/-- The long form lists the signals in braces. -/
def longForm (set : SignalSet) : String :=
  "\x7b" ++ String.intercalate ", " (set.toList.map fun signal => toString signal.toNat) ++ "\x7d"

end SignalSet

end LinuxCalls
