/-
This file follows a call through the invocation primitive: how often it is put to the kernel, with
which registers, which answers it uses up and which of them it returns.
-/

import Mathlib.Data.ENat.Lattice
import LinuxCalls.Proofs.Calls.ReturnWords
import LinuxCalls.Proofs.Calls.Trace

namespace LinuxCalls

namespace RawReturn

/-- The word of a busy resource. -/
def busyWord : UInt64 := encode (.error Errno.busy)

/-- Only one word stands for a busy resource. -/
theorem decode_eq_busy_iff (word : UInt64) : decode word = .error Errno.busy ↔ word = busyWord := by
  constructor
  · intro decoded
    rw [busyWord, ← decoded, encode_decode]
  · intro same
    rw [same]
    decide

end RawReturn

/-- The event of a request that is answered with a word. -/
abbrev Request.answered (request : Request) (word : UInt64) : Event := ⟨.kernel request, some word⟩

/-- A completion that failed with an error has it as its result. -/
theorem Completion.failedWith_iff (completion : Completion) (error : Errno) :
    completion.failedWith error = true ↔ completion.result = .error error := by
  unfold failedWith
  cases completion.result <;> simp

namespace CallKind

/-- Every call is found by its number. -/
theorem ofNumber?_number (kind : CallKind) : ofNumber? kind.number = some kind := by
  cases kind <;> decide

/-- No two calls have the same number. -/
theorem number_inj {kind other : CallKind} : kind.number = other.number ↔ kind = other := by
  constructor
  · intro same
    have found := ofNumber?_number kind
    rw [same, ofNumber?_number] at found
    exact (Option.some.inj found).symm
  · exact congrArg number

/-- Only one call is issued again when a resource is busy. -/
theorem retry_eq_whenBusy_iff (kind : CallKind) :
    (Policy.of kind).retry = .whenBusy ↔ kind = .duplicateOnto := by
  cases kind <;> decide

/-- A call that is never tried again is attempted once. -/
theorem attemptAgain_of_never {kind : CallKind} (never : kind ≠ .duplicateOnto) {listener : Listener}
    {registers : List Register} (left : Nat) : attemptAgain listener kind registers left =
      attemptOnce listener kind registers >>= attemptAgain.settle listener kind := by
  cases left with
  | zero => rfl
  | succ left =>
    rw [attemptAgain]
    congr
    funext completion
    exact if_neg fun again => never ((retry_eq_whenBusy_iff kind).mp again.2)

/--
The words that a call with a number of attempts left was answered with: the ones that were followed
by another attempt, and the last one.
-/
structure Attempted (kind : CallKind) (left : Nat) (refused : List UInt64) (last : UInt64) : Prop where
  busy : ∀ word ∈ refused, word = RawReturn.busyWord
  retried : refused ≠ [] → kind = .duplicateOnto
  within : refused.length ≤ left
  settled : kind = .duplicateOnto → last = RawReturn.busyWord → refused.length = left

/-- What issuing a call does: it puts one request a number of times and returns the last answer. -/
def Issues (kind : CallKind) (request : Request) (left : Nat) (calls : List Event)
    (outcome : Except Fault Completion) : Prop :=
  ∃ refused last stored, calls = (refused ++ [last]).map request.answered ∧
    outcome = .ok ⟨RawReturn.decode last, stored⟩ ∧ kind.Attempted left refused last

variable {kind : CallKind} {machine : Machine}

/-- One attempt puts the request once. -/
theorem traces_attemptOnce (stays : kind ≠ .exit) (registers : List Register) :
    (attemptOnce Log.tell kind registers).Traces machine fun calls outcome _ =>
      ∃ word stored, calls = [Request.answered ⟨kind.number, registers⟩ word] ∧
        outcome = .ok ⟨RawReturn.decode word, stored⟩ := by
  apply Act.Traces.tell_bind
  intro middle _
  apply Act.Traces.perform_bind (number_inj.not.mpr stays)
  intro reply next
  apply Act.Traces.tell_bind
  intro last _
  exact .pure ⟨reply.word, reply.stored, rfl, rfl⟩

/-- The end of a call is no call. -/
theorem traces_settle (completion : Completion) :
    (attemptAgain.settle Log.tell kind completion).Traces machine fun calls outcome _ =>
      calls = [] ∧ outcome = .ok completion := by
  unfold attemptAgain.settle
  split
  · apply Act.Traces.tell_bind
    intro last _
    exact .pure ⟨rfl, rfl⟩
  · exact .pure ⟨rfl, rfl⟩

/-- Attempts follow each other while the resource is busy and an attempt is left. -/
theorem traces_attemptAgain (stays : kind ≠ .exit) (registers : List Register) (left : Nat) :
    (attemptAgain Log.tell kind registers left).Traces machine fun calls outcome _ =>
      kind.Issues ⟨kind.number, registers⟩ left calls outcome := by
  induction left generalizing machine with
  | zero =>
    refine (traces_attemptOnce stays registers).bind ?_ nofun
    rintro _ _ middle ⟨word, stored, rfl, same⟩
    cases same
    refine (traces_settle _).mono ?_
    rintro _ _ last ⟨rfl, rfl⟩
    exact ⟨[], word, stored, rfl, rfl, nofun, nofun, Nat.le_refl _, fun _ _ => rfl⟩
  | succ left step =>
    refine (traces_attemptOnce stays registers).bind ?_ nofun
    rintro _ _ middle ⟨word, stored, rfl, same⟩
    cases same
    split
    · rename_i again
      obtain ⟨busy, retries⟩ := again
      rw [Completion.failedWith_iff, RawReturn.decode_eq_busy_iff] at busy
      rw [retry_eq_whenBusy_iff] at retries
      apply Act.Traces.tell_bind
      intro next _
      refine step.mono ?_
      rintro _ _ last ⟨refused, final, stored, rfl, rfl, attempted⟩
      have all : ∀ other ∈ word :: refused, other = RawReturn.busyWord := by
        intro other member
        rcases List.mem_cons.mp member with rfl | later
        · exact busy
        · exact attempted.busy other later
      exact ⟨word :: refused, final, stored, rfl, rfl, all, fun _ => retries,
        Nat.succ_le_succ attempted.within, fun same last => congrArg Nat.succ (attempted.settled same last)⟩
    · rename_i done
      rw [Completion.failedWith_iff, RawReturn.decode_eq_busy_iff, retry_eq_whenBusy_iff] at done
      refine (traces_settle _).mono ?_
      rintro _ _ last ⟨rfl, rfl⟩
      exact ⟨[], word, stored, rfl, rfl, nofun, nofun, Nat.zero_le _, fun same busy => absurd ⟨busy, same⟩ done⟩

/-- A call that does not end the process is put to the kernel as its policy says. -/
theorem traces_complete (stays : kind ≠ .exit) {registers : List Register}
    (few : registers.length ≤ registerCount) :
    (kind.complete registers).Traces machine fun calls outcome _ =>
      kind.Issues ⟨kind.number, padded registers⟩ (Policy.attemptLimit - 1) calls outcome := by
  rw [complete, issue, if_neg (Nat.not_lt.mpr few)]
  exact traces_attemptAgain stays _ _

/-- An attempt at ending the process puts the request once, and no answer comes back. -/
theorem traces_attemptOnce_exit (registers : List Register) :
    (attemptOnce Log.tell .exit registers).Traces machine fun calls outcome _ =>
      let request : Request := ⟨CallKind.exit.number, registers⟩
      calls = [⟨.kernel request, none⟩] ∧ outcome = .error (.exit (request.register 0)) := by
  apply Act.Traces.tell_bind
  intro middle _
  exact .perform_bind_of_exit rfl fun next => ⟨rfl, rfl⟩

/-- A call that ends the process is put to the kernel once, and no answer comes back. -/
theorem traces_complete_exit {registers : List Register} (few : registers.length ≤ registerCount) :
    (CallKind.exit.complete registers).Traces machine fun calls outcome _ =>
      let request : Request := ⟨CallKind.exit.number, padded registers⟩
      calls = [⟨.kernel request, none⟩] ∧ outcome = .error (.exit (request.register 0)) := by
  rw [complete, issue, if_neg (Nat.not_lt.mpr few)]
  apply (traces_attemptOnce_exit (padded registers)).bind
  · rintro _ _ _ ⟨-, ended⟩
    contradiction
  · rintro _ reason _ ⟨rfl, ended⟩
    exact ⟨rfl, congrArg Except.error (Except.error.inj ended)⟩

end CallKind

/-- The number of busy answers at the start of an infinite sequence, which may be all of them. -/
noncomputable def leadingBusy (answers : Nat → UInt64) : ℕ∞ :=
  ⨅ (index : Nat) (_ : answers index ≠ RawReturn.busyWord), (index : ℕ∞)

/-- The busy answers before a number of them are all at the start. -/
theorem le_leadingBusy {answers : Nat → UInt64} {count : Nat}
    (busy : ∀ index < count, answers index = RawReturn.busyWord) : (count : ℕ∞) ≤ leadingBusy answers := by
  apply le_iInf₂
  intro index other
  have after : count ≤ index := Nat.le_of_not_lt fun before => other (busy index before)
  exact_mod_cast after

/-- The first answer that is not busy ends the start. -/
theorem leadingBusy_eq {answers : Nat → UInt64} {count : Nat}
    (busy : ∀ index < count, answers index = RawReturn.busyWord)
    (ended : answers count ≠ RawReturn.busyWord) : leadingBusy answers = count :=
  le_antisymm (iInf₂_le count ended) (le_leadingBusy busy)

namespace CallKind

variable {kind : CallKind}

/-- The attempts at a busy resource are as many as the busy answers at the start, and one more. -/
theorem Attempted.length_eq {refused : List UInt64} {last : UInt64}
    (attempted : kind.Attempted (Policy.attemptLimit - 1) refused last) (retries : kind = .duplicateOnto)
    {answers : Nat → UInt64} (given : ∀ index (inside : index < (refused ++ [last]).length),
      (refused ++ [last])[index] = answers index) :
    ((refused ++ [last]).length : ℕ∞) = min (leadingBusy answers + 1) Policy.attemptLimit := by
  have length : (refused ++ [last]).length = refused.length + 1 := by simp
  have busy : ∀ index < refused.length, answers index = RawReturn.busyWord := by
    intro index before
    rw [← given index (by omega), List.getElem_append_left before]
    exact attempted.busy _ (List.getElem_mem before)
  have final : last = answers refused.length := by
    rw [← given refused.length (by omega), List.getElem_append_right (Nat.le_refl _)]
    simp
  have within := attempted.within
  by_cases again : last = RawReturn.busyWord
  · have all : refused.length = Policy.attemptLimit - 1 := attempted.settled retries again
    have enough : (Policy.attemptLimit : ℕ∞) ≤ leadingBusy answers + 1 := by
      have many := le_leadingBusy busy
      rw [all] at many
      exact add_le_add_left many 1
    rw [min_eq_right enough, length, all]
    rfl
  · rw [leadingBusy_eq busy (final ▸ again), length]
    have inside : refused.length + 1 ≤ Policy.attemptLimit := by
      have positive : 0 < Policy.attemptLimit := by decide
      omega
    exact (min_eq_left (by exact_mod_cast inside)).symm

/-- Answers to one request draw from that request's channel only, each of them once. -/
theorem countP_answered (request : Request) (words : List UInt64) (channel : Channel) :
    (words.map request.answered).countP (·.draws channel) =
      if channel = Channel.ofRequest request then words.length else 0 := by
  rw [List.countP_map]
  split
  · rename_i same
    subst same
    exact List.countP_eq_length.mpr fun word _ => by simp [Event.draws]
  · rename_i different
    exact List.countP_eq_zero.mpr fun word _ => by simpa [Event.draws] using Ne.symm different

/--
What the policy makes of a call that was answered with some words. The log has no part in it: its
threshold does not occur, and it only uses up answers to complaints.
-/
structure Obeys (kind : CallKind) (request : Request) (before : Machine) (words : List UInt64)
    (completion : Completion) (after : Machine) : Prop where
  /-- Every attempt puts the same request. -/
  made : before.Makes (words.map request.answered) after
  once : kind ≠ .duplicateOnto → words.length = 1
  bounded : kind = .duplicateOnto → ∀ answers : Nat → UInt64,
    (∀ index (inside : index < words.length), words[index] = answers index) →
      (words.length : ℕ∞) = min (leadingBusy answers + 1) Policy.attemptLimit
  /-- Only a busy resource is tried again. -/
  retried : ∀ word ∈ words.dropLast, kind = .duplicateOnto ∧ word = RawReturn.busyWord
  result : ∃ last, words.getLast? = some last ∧ completion.result = RawReturn.decode last
  /-- The words are the first ones of those that the script has for the request. -/
  answered : Channel.ofRequest request ≠ .complaints →
    ∀ index (inside : index < words.length), words[index] = before.wordAfter request index
  /-- No answer is used up without an attempt. -/
  used : ∀ channel, channel ≠ .complaints → after.script.queue channel =
    if channel = Channel.ofRequest request then
      Script.spend^[words.length] (before.script.queue channel)
    else before.script.queue channel

/-- The words of a call that the primitive has issued obey its policy. -/
theorem Attempted.obeys {request : Request} {before after : Machine} {refused : List UInt64}
    {last : UInt64} {completion : Completion} (attempted : kind.Attempted (Policy.attemptLimit - 1) refused last)
    (made : before.Makes ((refused ++ [last]).map request.answered) after)
    (result : completion.result = RawReturn.decode last) :
    kind.Obeys request before (refused ++ [last]) completion after where
  made := made
  once other := by
    have never : refused = [] := Decidable.byContradiction fun some => other (attempted.retried some)
    rw [never]
    rfl
  bounded retries answers given := attempted.length_eq retries given
  retried word member := by
    rw [List.dropLast_concat] at member
    exact ⟨attempted.retried (List.ne_nil_of_mem member), attempted.busy word member⟩
  result := ⟨last, List.getLast?_concat, result⟩
  answered other index inside := by
    let words := refused ++ [last]
    have split : words = words.take index ++ words[index] :: words.drop (index + 1) := by simp
    have events : words.map request.answered = (words.take index).map request.answered ++
        request.answered words[index] :: (words.drop (index + 1)).map request.answered := by
      rw [← List.map_cons, ← List.map_append, ← split]
    have drawn := made.word_eq events other
    rw [countP_answered, if_pos rfl, List.length_take_of_le (Nat.le_of_lt inside)] at drawn
    exact drawn
  used channel other := by
    rw [made.queue_eq other, countP_answered]
    split <;> rfl

/--
Every call with at most six registers comes to an end. The kernel sees it once, or while a busy
resource is duplicated onto, as often as there are busy answers at the start and once more, and at
most 1024 times. The last answer is the result. The call that ends the process gets no answer.
-/
theorem complete_obeys_policy (kind : CallKind) {registers : List Register}
    (few : registers.length ≤ registerCount) {machine : Machine} (ready : machine.LogReady) :
    let request : Request := ⟨kind.number, padded registers⟩
    request.registers.length = registerCount ∧
      (kind = .exit → ∃ after, kind.complete registers machine = (.error (.exit (request.register 0)), after) ∧
        machine.Makes [⟨.kernel request, none⟩] after) ∧
      (kind ≠ .exit → ∃ words completion after, kind.complete registers machine = (.ok completion, after) ∧
        kind.Obeys request machine words completion after) := by
  refine ⟨length_padded few, fun exits => ?_, fun stays => ?_⟩
  · subst exits
    obtain ⟨calls, makes, rfl, ended⟩ := (traces_complete_exit few).of_ready ready
    exact ⟨_, Prod.ext ended rfl, makes⟩
  · obtain ⟨calls, makes, refused, last, stored, rfl, ended, attempted⟩ :=
      (traces_complete stays few).of_ready ready
    exact ⟨refused ++ [last], _, _, Prod.ext ended rfl, attempted.obeys makes rfl⟩

/-- A descriptor that is busy twice is duplicated onto at the third attempt, while the log takes all. -/
theorem complete_obeys_policy_busy_twice :
    let answers : List Answer := [{ word := some RawReturn.busyWord, times := 2 }, { word := some 7 }]
    let machine := Machine.start ⟨[(.call .duplicateOnto, answers)]⟩ (.upTo .trace)
    let registers : List Register := [.ofInt32 3, .ofInt32 7]
    let request : Request := ⟨CallKind.duplicateOnto.number, padded registers⟩
    registers.length ≤ registerCount ∧ machine.LogReady ∧ ∃ words completion after,
      CallKind.duplicateOnto.complete registers machine = (.ok completion, after) ∧
        CallKind.duplicateOnto.Obeys request machine words completion after := by
  intro answers machine registers request
  have few : registers.length ≤ registerCount := by decide
  have silent : machine.script.queue .complaints = [] := by decide
  have ready : machine.LogReady := by
    right
    right
    intro answer member
    rw [silent] at member
    contradiction
  exact ⟨few, ready, (complete_obeys_policy .duplicateOnto few ready).2.2 (by decide)⟩

end CallKind

end LinuxCalls
