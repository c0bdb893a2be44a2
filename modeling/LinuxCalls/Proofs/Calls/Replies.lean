/-
This file says which reply a call gets. A call that is never tried again gets the reply that the script has for
its request, whatever the log writes before it, and it hands the word and the bytes of that reply on.
-/

import LinuxCalls.Proofs.Calls.Wrappers

namespace LinuxCalls

/-- A call that is not a write draws its answer from a channel of its own. -/
theorem Channel.ofRequest_number {kind : CallKind} (other : kind ≠ .write) (registers : List Register) :
    ofRequest ⟨kind.number, registers⟩ = .call kind := by
  have logged : kind.number ≠ CallKind.cloneNumber := by cases kind <;> decide
  rw [ofRequest, if_neg logged, CallKind.ofNumber?_number]
  split
  · rename_i same
    exact absurd (Option.some.inj same) other
  · rename_i same
    rw [Option.some.inj same]
  · contradiction

namespace Machine

/-- The reply that the script has for a request. -/
def replyTo (machine : Machine) (request : Request) : Reply :=
  replyOf (Channel.ofRequest request) request (machine.script.queue (Channel.ofRequest request)).head?

/-- The kernel answers a request with a word, and it stores bytes as far as there is room for them. -/
def Gives (machine : Machine) (request : Request) (word : UInt64) (bytes : Bytes) : Prop :=
  machine.replyTo request = ⟨word, bytes.take request.room⟩

instance (machine : Machine) (request : Request) (word : UInt64) (bytes : Bytes) :
    Decidable (machine.Gives request word bytes) :=
  inferInstanceAs (Decidable (_ = _))

/-- Complaints leave the reply to every other request as it is. -/
theorem OnlyComplains.replyTo_eq {before after : Machine} (complains : before.OnlyComplains after)
    {request : Request} (other : Channel.ofRequest request ≠ .complaints) :
    after.replyTo request = before.replyTo request := by
  rw [replyTo, replyTo, complains.agrees _ other]

end Machine

/-- A request that does not end the process is one call, and what follows learns the reply of the script. -/
theorem Act.Traces.perform_bind_reply {α : Type} {machine : Machine} {request : Request}
    (stays : request.number ≠ CallKind.exit.number) {second : Reply → Sys α}
    {spec : List Event → Except Fault α → Machine → Prop}
    (onwards : ∀ next, (second (machine.replyTo request)).Traces next fun more outcome last =>
      spec (request.answered (machine.replyTo request).word :: more) outcome last) :
    (perform request >>= second).Traces machine spec := by
  have answered := perform_of_ne_exit stays machine
  have performed : (perform request).Traces machine fun calls outcome _ =>
      outcome = .ok (machine.replyTo request) ∧ calls = [request.answered (machine.replyTo request).word] :=
    of_eq answered (.asked answered (.nothing _)) ⟨rfl, rfl⟩
  apply performed.bind_success
  rintro _ next rfl
  exact onwards next

namespace CallKind

variable {kind : CallKind} {registers : List Register} {machine : Machine}

/-- A call that is never tried again is completed with the reply of the script. -/
theorem traces_complete_reply (stays : kind ≠ .exit) (never : kind ≠ .duplicateOnto) (other : kind ≠ .write)
    (few : registers.length ≤ registerCount) :
    (kind.complete registers).Traces machine fun calls outcome _ =>
      let request : Request := ⟨kind.number, padded registers⟩
      let reply := machine.replyTo request
      calls = [request.answered reply.word] ∧ outcome = .ok ⟨RawReturn.decode reply.word, reply.stored⟩ := by
  rw [complete, issue, if_neg (Nat.not_lt.mpr few), attemptAgain_of_never never, attemptOnce, bind_assoc]
  apply Act.Traces.tell_bind
  intro middle complains
  have apart : Channel.ofRequest ⟨kind.number, padded registers⟩ ≠ .complaints := by
    rw [Channel.ofRequest_number other]
    exact Channel.noConfusion
  dsimp only
  rw [← complains.replyTo_eq apart, bind_assoc]
  apply Act.Traces.perform_bind_reply (number_inj.not.mpr stays)
  intro next
  rw [bind_assoc]
  apply Act.Traces.tell_bind
  intro last _
  rw [pure_bind]
  refine (traces_settle _).mono ?_
  rintro _ _ _ ⟨rfl, rfl⟩
  exact ⟨rfl, rfl⟩

/--
A call that is never tried again reads its value from the bytes of the reply, unless the word of the reply is an
error. In that case the error is all that it gives.
-/
theorem traces_collect_reply {α : Type} (stays : kind ≠ .exit) (never : kind ≠ .duplicateOnto) (other : kind ≠ .write)
    (few : registers.length ≤ registerCount) {word : UInt64} {bytes : Bytes}
    (gives : machine.Gives ⟨kind.number, padded registers⟩ word bytes) (read : Bytes → Except Errno α) :
    (kind.collect registers >>= fun stored => Act.ofExcept (read stored)).Traces machine fun calls outcome _ =>
      let request : Request := ⟨kind.number, padded registers⟩
      ∃ result : Except Errno α, outcome = result.mapError .errno ∧ calls = [request.answered word] ∧
        (∀ error, RawReturn.decode word = .error error → result = .error error) ∧
        ∀ value, RawReturn.decode word = .ok value → result = read (bytes.take request.room) := by
  rw [collect, bind_assoc]
  apply (traces_complete_reply stays never other few).bind
  · rintro _ completion middle ⟨rfl, same⟩
    rw [gives] at same ⊢
    cases same
    cases decoded : RawReturn.decode word with
    | ok value => exact .ofExcept ⟨_, rfl, rfl, nofun, fun _ _ => rfl⟩
    | error error =>
      refine .fault ⟨.error error, rfl, rfl, fun other same => ?_, nofun⟩
      cases same
      rfl
  · rintro _ _ _ ⟨_, failed⟩
    contradiction

end CallKind

end LinuxCalls
