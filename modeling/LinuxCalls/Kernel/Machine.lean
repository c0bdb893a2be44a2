/-
This file holds the machine that the library runs on: a scripted kernel, the memory, the journal of
what was asked, and the state of the log.
-/

import LinuxCalls.Act
import LinuxCalls.RawReturn
import LinuxCalls.Kernel.Script
import LinuxCalls.Kernel.Memory
import LinuxCalls.Log.Level

namespace LinuxCalls

structure Machine where
  script : Script
  memory : Memory
  /-- What was asked so far, the latest first. -/
  journal : List Event
  /-- The log takes records up to this level. -/
  threshold : Threshold
  /-- A record is being written. -/
  recording : Bool

/-- What the kernel answers: the word returned and the bytes stored into the caller's buffer. -/
structure Reply where
  word : UInt64
  stored : Bytes
  deriving DecidableEq

/-- An action of the library. -/
abbrev Sys := Act Machine

namespace Machine

def start (script : Script) (threshold : Threshold) : Machine :=
  ⟨script, Memory.blank, [], threshold, false⟩

def events (machine : Machine) : List Event := machine.journal.reverse

def note (machine : Machine) (question : Question) (word : Option UInt64) : Machine :=
  { machine with journal := ⟨question, word⟩ :: machine.journal }

def accepted (machine : Machine) (descriptor : Int32) : Bytes :=
  machine.events.flatMap (Event.accepted descriptor)

/-- The word with which a channel answers when its answers are used up. -/
def exhaustedWord (channel : Channel) (request : Request) : UInt64 :=
  match channel with
  | .call .read | .call .readAt | .call .close | .call .unmap | .call .writeBack => 0
  | .call .write | .call .writeAt | .complaints => request.register 2
  | _ => RawReturn.encode (.error Errno.notImplemented)

def impliedWord (channel : Channel) (request : Request) (answer : Answer) : UInt64 :=
  match channel with
  | .call .read | .call .readAt =>
    UInt64.ofNat (((answer.stored.getD []).take request.room).length)
  | .call .write | .call .writeAt | .complaints =>
    match answer.most with
    | some most => min (request.register 2) (UInt64.ofNat most)
    | none => request.register 2
  | _ => 0

/-- A write of complaints never reports more bytes than it was given, unless the word is negative. -/
def boundedWord (channel : Channel) (request : Request) (word : UInt64) : UInt64 :=
  if channel = .complaints ∧ 0 ≤ word.toInt64 ∧ request.register 2 < word then request.register 2
  else word

def replyOf (channel : Channel) (request : Request) : Option Answer → Reply
  | none => ⟨exhaustedWord channel request, []⟩
  | some answer =>
    ⟨boundedWord channel request (answer.word.getD (impliedWord channel request answer)),
      (answer.stored.getD []).take request.room⟩

/-- The memory after a reply. Only a request for an address range changes it. -/
def memoryAfter (memory : Memory) (request : Request) (answer : Option Answer) (reply : Reply) : Memory :=
  match request.extent?, answer.bind Answer.stored with
  | some length, some bytes => memory.store reply.word.toNat (bytes.take (Memory.wholePages length))
  | _, _ => memory

def serve (machine : Machine) (request : Request) : Reply × Machine :=
  let channel := Channel.ofRequest request
  let (answer, script) := machine.script.next channel
  let reply := replyOf channel request answer
  (reply, { machine with
    script := script
    memory := memoryAfter machine.memory request answer reply })

end Machine

/-- This action puts a request to the kernel. The request to exit is the only one without a reply. -/
def perform (request : Request) : Sys Reply := fun machine =>
  if request.number = CallKind.exit.number then
    (.error (.exit (request.register 0)), machine.note (.kernel request) none)
  else
    let (reply, machine) := machine.serve request
    (.ok reply, machine.note (.kernel request) (some reply.word))

theorem perform_of_exit {request : Request} (exits : request.number = CallKind.exit.number)
    (machine : Machine) : perform request machine =
      (.error (.exit (request.register 0)), machine.note (.kernel request) none) := if_pos exits

theorem perform_of_ne_exit {request : Request} (stays : request.number ≠ CallKind.exit.number)
    (machine : Machine) : perform request machine = (.ok (machine.serve request).1,
      (machine.serve request).2.note (.kernel request) (some (machine.serve request).1.word)) := if_neg stays

/-- What a function of the threading runtime reports: a result, an error and a process beside it. -/
structure RuntimeReply where
  result : Int32
  error : Int32
  process : Int32
  deriving DecidableEq

/-- The report of a function without an answer is a failure that the caller's channel implies. -/
def RuntimeReply.ofAnswer (exhausted : Int32) : Option Answer → RuntimeReply
  | none => ⟨exhausted, Errno.notImplemented.raw, 0⟩
  | some answer => ⟨(answer.word.getD 0).toUInt32.toInt32, answer.error, answer.process⟩

def callRuntime (channel : Channel) (arguments : List Register) (exhausted : Int32) :
    Sys RuntimeReply := fun machine =>
  let (answer, script) := machine.script.next channel
  let reply := RuntimeReply.ofAnswer exhausted answer
  let machine := { machine with script := script }
  (.ok reply, machine.note (.runtime channel.name arguments)
    (some reply.result.toInt64.toUInt64))

end LinuxCalls
