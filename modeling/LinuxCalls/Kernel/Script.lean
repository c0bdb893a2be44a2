/-
This file holds the script of a kernel: for each channel, the answers that it gives in order.
-/

import LinuxCalls.Kernel.Request

namespace LinuxCalls

/-- Requests draw their answers from channels, and each channel has answers of its own. -/
inductive Channel
  /-- A call that has a kind. -/
  | call (kind : CallKind)
  /-- A write to the descriptor for complaints, which is kept apart from the other writes. -/
  | complaints
  /-- The call that makes a child process. -/
  | clone
  /-- A call of any other number. -/
  | other
  /-- The runtime's function that duplicates the process. -/
  | fork
  /-- The runtime's function that starts a program in a new process. -/
  | spawn
  /-- A channel that no request draws from. -/
  | unused (name : String)
  deriving DecidableEq

namespace Channel

def name : Channel → String
  | .call kind => kind.name
  | .complaints => "stderr"
  | .clone => "clone"
  | .other => "other"
  | .fork => "fork"
  | .spawn => "posix_spawn"
  | .unused name => name

def ofName (name : String) : Channel :=
  match CallKind.ofName? name with
  | some kind => .call kind
  | none =>
    match [complaints, clone, other, fork, spawn].find? fun channel => channel.name == name with
    | some channel => channel
    | none => .unused name

def ofRequest (request : Request) : Channel :=
  if request.number = CallKind.cloneNumber then .clone
  else
    match CallKind.ofNumber? request.number with
    | some .write => if request.register 0 = 2 then .complaints else .call .write
    | some kind => .call kind
    | none => .other

end Channel

/-- An answer that a channel gives a number of times. -/
structure Answer where
  /-- The word returned. Without it the word follows from the request. -/
  word : Option UInt64 := none
  /-- The bytes stored into the caller's buffer. -/
  stored : Option Bytes := none
  /-- The most bytes that a write accepts. -/
  most : Option Nat := none
  /-- The number of uses. An answer without uses is passed over. -/
  times : Nat := 1
  /-- The error that the runtime reports beside its result. -/
  error : Int32 := 0
  /-- The process that the runtime has started. -/
  process : Int32 := 0
  deriving DecidableEq

structure Script where
  queues : List (Channel × List Answer)

namespace Script

def usable (answers : List Answer) : List Answer := answers.filter fun answer => 0 < answer.times

def queue (script : Script) (channel : Channel) : List Answer :=
  usable ((script.queues.lookup channel).getD [])

def replace (script : Script) (channel : Channel) (answers : List Answer) : Script :=
  ⟨script.queues.map fun entry => if entry.1 = channel then (channel, answers) else entry⟩

/-- The answers left after one use of the first one. -/
def spend : List Answer → List Answer
  | [] => []
  | answer :: rest => if answer.times ≤ 1 then rest else { answer with times := answer.times - 1 } :: rest

/-- The next answer of a channel and the script after its use. -/
def next (script : Script) (channel : Channel) : Option Answer × Script :=
  let answers := script.queue channel
  (answers.head?, script.replace channel (spend answers))

def usesOf (answers : List Answer) : Nat :=
  answers.foldr (fun answer rest => answer.times + rest) 0

def uses (script : Script) (channel : Channel) : Nat := usesOf (script.queue channel)

/-- The channels with a use left and the number of uses that they still offer. -/
def unused (script : Script) : List (Channel × Nat) :=
  (script.queues.map fun entry => (entry.1, usesOf entry.2)).filter fun entry => 0 < entry.2

theorem times_pos_of_mem_queue {script : Script} {channel : Channel} {answer : Answer}
    (member : answer ∈ script.queue channel) : 0 < answer.times := by
  simpa using (List.mem_filter.mp member).2

theorem usable_spend_usable (answers : List Answer) :
    usable (spend (usable answers)) = spend (usable answers) := by
  induction answers with
  | nil => rfl
  | cons answer rest step =>
    by_cases used : 0 < answer.times
    · have kept : usable (answer :: rest) = answer :: usable rest := by simp [usable, used]
      have again : usable (usable rest) = usable rest := by simp [usable]
      rw [kept]
      by_cases once : answer.times ≤ 1
      · simp only [spend, if_pos once, again]
      · have more : 0 < answer.times - 1 := by omega
        simp only [spend, if_neg once]
        rw [usable, List.filter_cons_of_pos (by simpa using more)]
        exact congrArg _ again
    · have passed : usable (answer :: rest) = usable rest := by simp [usable, used]
      rw [passed]
      exact step

/-- Replacing the answers of a channel changes what is found under that channel only. -/
theorem lookup_replace (script : Script) (channel asked : Channel) (answers : List Answer) :
    (script.replace channel answers).queues.lookup asked =
      if asked = channel then (script.queues.lookup asked).map fun _ => answers
      else script.queues.lookup asked := by
  rcases script with ⟨queues⟩
  simp only [replace]
  induction queues with
  | nil => simp only [List.map_nil, List.lookup_nil, Option.map_none, ite_self]
  | cons entry rest step =>
    rcases entry with ⟨owner, old⟩
    by_cases replaced : owner = channel
    · subst replaced
      by_cases found : asked = owner
      · subst found
        simp
      · simpa [List.lookup_cons, beq_false_of_ne found, found] using step
    · by_cases found : asked = owner
      · subst found
        simp [replaced]
      · simpa only [List.map_cons, if_neg replaced, List.lookup_cons, beq_false_of_ne found] using step

@[simp] theorem queue_next_self (script : Script) (channel : Channel) :
    (script.next channel).2.queue channel = spend (script.queue channel) := by
  simp only [next, queue, lookup_replace]
  cases script.queues.lookup channel with
  | none => rfl
  | some answers => exact usable_spend_usable answers

theorem queue_next_of_ne (script : Script) {channel asked : Channel} (different : asked ≠ channel) :
    (script.next channel).2.queue asked = script.queue asked := by
  simp only [next, queue, lookup_replace, if_neg different]

theorem uses_next_self (script : Script) (channel : Channel) :
    (script.next channel).2.uses channel = script.uses channel - 1 := by
  simp only [uses, queue_next_self]
  have positive := @times_pos_of_mem_queue script channel
  generalize script.queue channel = answers at positive
  cases answers with
  | nil => rfl
  | cons answer rest =>
    have used := positive List.mem_cons_self
    by_cases once : answer.times ≤ 1
    · simp only [spend, if_pos once, usesOf, List.foldr_cons]
      omega
    · simp only [spend, if_neg once, usesOf, List.foldr_cons]
      omega

end Script

end LinuxCalls
