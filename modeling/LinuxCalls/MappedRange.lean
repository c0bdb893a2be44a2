/-
This file holds the calls on mapped address ranges. A range is plain numbers here and owns nothing.
-/

import LinuxCalls.Descriptor

namespace LinuxCalls

/-- Whether the writes to a mapping reach other mappings and the file. -/
inductive Sharing
  | shared
  /-- The writes stay in a copy of this process. -/
  | copied
  deriving DecidableEq

namespace Sharing

def number : Sharing → UInt32
  | .shared => 1
  | .copied => 2

def name : Sharing → String
  | .shared => "Shared"
  | .copied => "Private"

end Sharing

namespace MappedRange

def map (address : UInt64) (length : Nat) (protection : Protection) (sharing : Sharing)
    (flags : MapFlags) (descriptor : Descriptor) (offset : UInt64) : Sys UInt64 :=
  CallKind.map.invoke [.word address, .extent length, .ofUInt32 protection.bits,
    .ofUInt32 (sharing.number ||| flags.bits), .ofInt32 descriptor, .word offset]

def unmap (address : UInt64) (length : Nat) : Sys Unit :=
  CallKind.unmap.run [.word address, .ofLength length]

/-- This action writes the changed pages of a range back to the file. -/
def writeBack (address : UInt64) (length : Nat) (flags : WriteBackFlags) : Sys Unit :=
  CallKind.writeBack.run [.word address, .ofLength length, .ofUInt32 flags.bits]

end MappedRange

end LinuxCalls
