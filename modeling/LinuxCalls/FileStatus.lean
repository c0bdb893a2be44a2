/-
This file holds the status of an open file and its layout in 144 bytes.
-/

import LinuxCalls.Bytes

namespace LinuxCalls

structure FileStatus where
  device : UInt64
  inode : UInt64
  links : UInt64
  mode : UInt32
  user : UInt32
  group : UInt32
  padding : Int32
  specialDevice : UInt64
  size : Int64
  blockSize : Int64
  blocks : Int64
  accessed : Int64
  accessedNanoseconds : Int64
  modified : Int64
  modifiedNanoseconds : Int64
  changed : Int64
  changedNanoseconds : Int64
  unusedFirst : Int64
  unusedSecond : Int64
  unusedThird : Int64
  deriving DecidableEq

namespace FileStatus

def layoutSize : Nat := 144

/-- This function reads the fields, which follow one another without a gap. -/
def decode (bytes : Bytes) : FileStatus where
  device := bytes.word64 0
  inode := bytes.word64 8
  links := bytes.word64 16
  mode := bytes.word32 24
  user := bytes.word32 28
  group := bytes.word32 32
  padding := bytes.int32 36
  specialDevice := bytes.word64 40
  size := bytes.int64 48
  blockSize := bytes.int64 56
  blocks := bytes.int64 64
  accessed := bytes.int64 72
  accessedNanoseconds := bytes.int64 80
  modified := bytes.int64 88
  modifiedNanoseconds := bytes.int64 96
  changed := bytes.int64 104
  changedNanoseconds := bytes.int64 112
  unusedFirst := bytes.int64 120
  unusedSecond := bytes.int64 128
  unusedThird := bytes.int64 136

def encode (status : FileStatus) : Bytes :=
  Bytes.ofWord64 status.device ++ Bytes.ofWord64 status.inode ++ Bytes.ofWord64 status.links ++
  Bytes.ofWord32 status.mode ++ Bytes.ofWord32 status.user ++ Bytes.ofWord32 status.group ++
  Bytes.ofInt32 status.padding ++ Bytes.ofWord64 status.specialDevice ++
  Bytes.ofInt64 status.size ++ Bytes.ofInt64 status.blockSize ++ Bytes.ofInt64 status.blocks ++
  Bytes.ofInt64 status.accessed ++ Bytes.ofInt64 status.accessedNanoseconds ++
  Bytes.ofInt64 status.modified ++ Bytes.ofInt64 status.modifiedNanoseconds ++
  Bytes.ofInt64 status.changed ++ Bytes.ofInt64 status.changedNanoseconds ++
  Bytes.ofInt64 status.unusedFirst ++ Bytes.ofInt64 status.unusedSecond ++
  Bytes.ofInt64 status.unusedThird

/-- The bits of a mode that tell the type of a file. -/
def typeMask : UInt32 := 0xf000

def regular : UInt32 := 0x8000

def directory : UInt32 := 0x4000

def pipe : UInt32 := 0x1000

end FileStatus

end LinuxCalls
