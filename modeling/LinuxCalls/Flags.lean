/-
This file holds sets of flag bits. A family names some of the bits, and a set may hold others too.
-/

namespace LinuxCalls

/-- A family of flags has a title and named bit patterns in the order of declaration. -/
structure FlagFamily where
  title : String
  named : List (String × UInt32)

/-- A set of flags keeps every bit that it is given, named or not. -/
structure Flags (family : FlagFamily) where
  bits : UInt32
  deriving DecidableEq

namespace Flags

variable {family : FlagFamily}

def all : Flags family := ⟨family.named.foldl (fun bits flag => bits ||| flag.2) 0⟩

def empty : Flags family := ⟨0⟩

/-- This function drops the unnamed bits. -/
def truncate (flags : Flags family) : Flags family := ⟨flags.bits &&& (all : Flags family).bits⟩

def named? (flags : Flags family) : Option (Flags family) :=
  if flags.truncate = flags then some flags else none

def contains (flags other : Flags family) : Bool := flags.bits &&& other.bits == other.bits

def intersects (flags other : Flags family) : Bool := flags.bits &&& other.bits != 0

def union (flags other : Flags family) : Flags family := ⟨flags.bits ||| other.bits⟩

def intersection (flags other : Flags family) : Flags family := ⟨flags.bits &&& other.bits⟩

def difference (flags other : Flags family) : Flags family := ⟨flags.bits &&& ~~~other.bits⟩

def toggle (flags other : Flags family) : Flags family := ⟨flags.bits ^^^ other.bits⟩

def complement (flags : Flags family) : Flags family := truncate ⟨~~~flags.bits⟩

def isEmpty (flags : Flags family) : Bool := flags.bits == 0

def isAll (flags : Flags family) : Bool := flags.contains all

/--
This function takes named flags off a set in the order of declaration. A flag is taken if the set
contains it and some of its bits are left. It returns the flags taken and the bits that remain.
-/
def split (flags : Flags family) : List (String × UInt32) → UInt32 → List (String × UInt32) × UInt32
  | [], remaining => ([], remaining)
  | flag :: rest, remaining =>
    if remaining = 0 then ([], 0)
    else if flags.bits &&& flag.2 = flag.2 ∧ remaining &&& flag.2 ≠ 0 then
      let (taken, left) := split flags rest (remaining &&& ~~~flag.2)
      (flag :: taken, left)
    else split flags rest remaining

def names (flags : Flags family) : List (String × UInt32) :=
  (flags.split family.named flags.bits).1

def hexadecimal (number : Nat) : String := "0x" ++ String.ofList (Nat.toDigits 16 number)

/-- The long form lists the named flags and then the bits without a name. -/
def longForm (flags : Flags family) : String :=
  let (taken, left) := flags.split family.named flags.bits
  let words := taken.map Prod.fst ++ if left = 0 then [] else [hexadecimal left.toNat]
  family.title ++ "(" ++
    (if flags.bits = 0 then hexadecimal 0 else String.intercalate " | " words) ++ ")"

end Flags

namespace FlagFamily

def openFile : FlagFamily := ⟨"OpenFlags", [
  ("RDONLY", 0x0), ("WRONLY", 0x1), ("RDWR", 0x2), ("CREAT", 0x40), ("EXCL", 0x80),
  ("NOCTTY", 0x100), ("TRUNC", 0x200), ("APPEND", 0x400), ("NONBLOCK", 0x800),
  ("DSYNC", 0x1000), ("DIRECT", 0x4000), ("LARGEFILE", 0x8000), ("DIRECTORY", 0x10000),
  ("NOFOLLOW", 0x20000), ("NOATIME", 0x40000), ("CLOEXEC", 0x80000), ("SYNC", 0x101000),
  ("PATH", 0x200000), ("TMPFILE", 0x410000)]⟩

def mode : FlagFamily := ⟨"Mode", [
  ("SUID", 0x800), ("SGID", 0x400), ("SVTX", 0x200), ("RWXU", 0x1c0), ("RUSR", 0x100),
  ("WUSR", 0x80), ("XUSR", 0x40), ("RWXG", 0x38), ("RGRP", 0x20), ("WGRP", 0x10),
  ("XGRP", 0x8), ("RWXO", 0x7), ("ROTH", 0x4), ("WOTH", 0x2), ("XOTH", 0x1)]⟩

def memoryFile : FlagFamily := ⟨"MemfdFlags", [
  ("CLOEXEC", 0x1), ("ALLOW_SEALING", 0x2), ("HUGETLB", 0x4), ("NOEXEC_SEAL", 0x8),
  ("EXEC", 0x10)]⟩

def processFile : FlagFamily := ⟨"PidfdFlags", [("NONBLOCK", 0x800), ("THREAD", 0x80)]⟩

def protection : FlagFamily := ⟨"Prot", [
  ("NONE", 0x0), ("READ", 0x1), ("WRITE", 0x2), ("EXEC", 0x4)]⟩

def map : FlagFamily := ⟨"MapFlags", [
  ("FIXED", 0x10), ("ANONYMOUS", 0x20), ("NORESERVE", 0x4000), ("POPULATE", 0x8000)]⟩

def writeBack : FlagFamily := ⟨"MsyncFlags", [
  ("ASYNC", 0x1), ("INVALIDATE", 0x2), ("SYNC", 0x4)]⟩

def wait : FlagFamily := ⟨"WaitOptions", [
  ("NOHANG", 0x1), ("STOPPED", 0x2), ("EXITED", 0x4), ("CONTINUED", 0x8),
  ("NOWAIT", 0x1000000), ("NOTHREAD", 0x20000000), ("ALL", 0x40000000),
  ("CLONE", 0x80000000)]⟩

def families : List FlagFamily :=
  [openFile, mode, memoryFile, processFile, protection, map, writeBack, wait]

end FlagFamily

abbrev OpenFlags := Flags FlagFamily.openFile

namespace OpenFlags

def readWrite : OpenFlags := ⟨0x2⟩

def create : OpenFlags := ⟨0x40⟩

def emptied : OpenFlags := ⟨0x200⟩

/-- Offsets may pass two gibibytes. -/
def largeFile : OpenFlags := ⟨0x8000⟩

/-- A program that replaces this one does not inherit the descriptor. -/
def closeOnExec : OpenFlags := ⟨0x80000⟩

def accessMode (flags : OpenFlags) : UInt32 := flags.bits &&& 0x3

end OpenFlags

abbrev Mode := Flags FlagFamily.mode

/-- This function takes permission bits from a number and drops all others. -/
def Mode.ofBits (bits : UInt32) : Mode := Flags.truncate ⟨bits⟩

abbrev MemoryFileFlags := Flags FlagFamily.memoryFile

def MemoryFileFlags.closeOnExec : MemoryFileFlags := ⟨0x1⟩

abbrev ProcessFileFlags := Flags FlagFamily.processFile

abbrev Protection := Flags FlagFamily.protection

namespace Protection

def read : Protection := ⟨0x1⟩

def write : Protection := ⟨0x2⟩

end Protection

abbrev MapFlags := Flags FlagFamily.map

def MapFlags.anonymous : MapFlags := ⟨0x20⟩

abbrev WriteBackFlags := Flags FlagFamily.writeBack

def WriteBackFlags.awaited : WriteBackFlags := ⟨0x4⟩

abbrev WaitOptions := Flags FlagFamily.wait

def WaitOptions.exited : WaitOptions := ⟨0x4⟩

end LinuxCalls
