/-
This file keeps the balance of descriptors. Guards acquire descriptors, give them up and close them, and
between these events every call is made on a descriptor that a guard has at that time.
-/

import Mathlib.Algebra.Order.Group.Multiset
import Mathlib.Data.Multiset.AddSub
import Mathlib.Tactic.Abel
import LinuxCalls.Proofs.Calls.Wrappers

namespace LinuxCalls

/-- The descriptor that the kernel is asked to close. -/
def Question.closed? : Question → Option Descriptor
  | .kernel request =>
    if request.number = CallKind.close.number then some (request.register 0).toInt64.toInt32 else none
  | .runtime _ _ => none

/-- The descriptors that calls close, in order. -/
def Event.closes (calls : List Event) : List Descriptor := calls.filterMap fun call => call.question.closed?

/-- The calls that are made on the descriptor in their first register. A close is none of them. -/
def CallKind.onDescriptor : List CallKind :=
  [.read, .write, .readAt, .writeAt, .openAt, .duplicate, .seek, .setLength, .status]

/-- The calls that open a descriptor without another one. -/
def CallKind.openingAlone : List CallKind := [.memoryFile, .secretMemoryFile, .processFile, .pipe]

/-- The calls that open descriptors. -/
def CallKind.opening : List CallKind := .openAt :: .duplicate :: openingAlone

/-- The kernel is asked to open descriptors. -/
def Question.isOpening : Question → Bool
  | .kernel request => CallKind.opening.any fun kind => kind.number == request.number
  | .runtime _ _ => false

/-- The calls that open descriptors, in order. -/
def Event.openings (calls : List Event) : List Event := calls.filter fun call => call.question.isOpening

/--
The descriptors that the kernel gives with its reply to a request that opens some: the word that it returns,
or the two numbers that it stores for the ends of a pipe. An error gives none.
-/
def Reply.given (request : Request) (reply : Reply) : Except Errno (List Descriptor) :=
  (RawReturn.decode reply.word).map fun word =>
    if request.number = CallKind.pipe.number then
      let ends := Bytes.overlay reply.stored (Bytes.ofInt32 (-1) ++ Bytes.ofInt32 (-1))
      [ends.int32 0, ends.int32 4]
    else [word.toUInt32.toInt32]

/-- A call brings the descriptors that the kernel has given with its reply. -/
def Event.Brings (call : Event) (descriptors : List Descriptor) : Prop :=
  ∃ (request : Request) (reply : Reply), call = request.answered reply.word ∧
    descriptors = (reply.given request).toOption.getD []

/-- A call is made on a descriptor and leaves it open. A duplication goes onto a second one. -/
inductive Event.Uses (descriptor : Descriptor) (call : Event) : Prop
  | on {kind : CallKind} (uses : kind ∈ CallKind.onDescriptor) (puts : kind.Puts [.ofInt32 descriptor] call)
  | onto {target : Descriptor} (puts : CallKind.duplicateOnto.Puts [.ofInt32 descriptor, .ofInt32 target] call)

/-- A call on a descriptor opens no other one. -/
structure Event.Borrows (descriptor : Descriptor) (call : Event) : Prop where
  uses : call.Uses descriptor
  plain : call.question.isOpening = false

/-- A call opens a descriptor and is made on none. -/
inductive Event.Opens (call : Event) : Prop
  | inCurrent (puts : CallKind.openAt.Puts [.ofInt32 Directory.currentDescriptor] call)
  | anew {kind : CallKind} (opens : kind ∈ CallKind.openingAlone) (puts : kind.Puts [] call)

/-- A call is harmless if it borrows a descriptor that a guard has. -/
def Event.Harmless (live : Multiset Descriptor) (call : Event) : Prop :=
  ∃ descriptor ∈ live, call.Borrows descriptor

/-- A call is placed if it is made on no descriptor or on one that a guard has. -/
def Event.IsPlaced (live : Multiset Descriptor) (call : Event) : Prop :=
  call.Opens ∨ ∃ descriptor ∈ live, call.Uses descriptor

/-- How guards acquire descriptors: one is taken over, or the kernel opens some with a call. -/
inductive Gain
  | taken (descriptor : Descriptor)
  | opened (call : Event) (descriptors : List Descriptor)

namespace Gain

/-- The descriptors that are acquired. -/
def descriptors : Gain → List Descriptor
  | .taken descriptor => [descriptor]
  | .opened _ descriptors => descriptors

/-- The call that has opened the descriptors. -/
def call? : Gain → Option Event
  | .taken _ => none
  | .opened call _ => some call

/-- The descriptors that a call has opened are those that the kernel gave. -/
def IsGiven : Gain → Prop
  | .taken _ => True
  | .opened call descriptors => call.Brings descriptors

/--
Gains tell where descriptors come from. They hold all calls that open descriptors, in order, with what the
kernel gave, and every other descriptor was taken over.
-/
structure Tells (gained : List Gain) (calls : List Event) (acquired : List Descriptor) : Prop where
  acquired : gained.flatMap descriptors = acquired
  opened : Event.openings calls = gained.filterMap call?
  given : ∀ gain ∈ gained, gain.IsGiven

end Gain

namespace Event

/-- Only calls of one kind close a descriptor. -/
theorem closed?_of_puts {kind : CallKind} {targets : List Register} {call : Event} (puts : kind.Puts targets call)
    (other : kind ≠ .close) : call.question.closed? = none := by
  obtain ⟨rest, same⟩ := puts
  rw [same]
  exact if_neg fun equal => other (CallKind.number_inj.mp equal)

/-- A call that leaves its descriptor open closes none. -/
theorem Uses.closed? {descriptor : Descriptor} {call : Event} (uses : call.Uses descriptor) :
    call.question.closed? = none := by
  cases uses with
  | on member puts =>
    apply closed?_of_puts puts
    rintro rfl
    revert member
    decide
  | onto puts => exact closed?_of_puts puts (by decide)

/-- A call that opens a descriptor closes none. -/
theorem Opens.closed? {call : Event} (opens : call.Opens) : call.question.closed? = none := by
  cases opens with
  | inCurrent puts => exact closed?_of_puts puts (by decide)
  | anew member puts =>
    apply closed?_of_puts puts
    rintro rfl
    revert member
    decide

/-- A harmless call closes no descriptor. -/
theorem Harmless.closed? {live : Multiset Descriptor} {call : Event} (harmless : call.Harmless live) :
    call.question.closed? = none :=
  harmless.elim fun _ borrowed => borrowed.2.uses.closed?

theorem Harmless.mono {live more : Multiset Descriptor} {call : Event} (harmless : call.Harmless live)
    (le : live ≤ more) : call.Harmless more :=
  harmless.imp fun _ borrowed => ⟨Multiset.mem_of_le le borrowed.1, borrowed.2⟩

/-- A placed call closes no descriptor. -/
theorem IsPlaced.closed? {live : Multiset Descriptor} {call : Event} (placed : call.IsPlaced live) :
    call.question.closed? = none :=
  placed.elim Opens.closed? fun ⟨_, _, uses⟩ => uses.closed?

theorem IsPlaced.mono {live more : Multiset Descriptor} {call : Event} (placed : call.IsPlaced live)
    (le : live ≤ more) : call.IsPlaced more :=
  placed.imp_right fun ⟨descriptor, owned, uses⟩ => ⟨descriptor, Multiset.mem_of_le le owned, uses⟩

/-- A call opens descriptors exactly if its kind does. -/
theorem isOpening_of_puts {kind : CallKind} {targets : List Register} {call : Event} (puts : kind.Puts targets call) :
    call.question.isOpening = CallKind.opening.contains kind := by
  obtain ⟨rest, same⟩ := puts
  rw [same]
  cases kind <;> rfl

/-- The request to close a descriptor closes that descriptor. -/
theorem closed?_closing (descriptor : Descriptor) (word : UInt64) :
    ((Descriptor.closing descriptor).answered word).question.closed? = some descriptor := by
  have same : ((Descriptor.closing descriptor).register 0).toInt64.toInt32 = descriptor := by
    change descriptor.toInt64.toUInt64.toInt64.toInt32 = descriptor
    rw [Int64.toInt64_toUInt64, Int32.toInt32_toInt64]
  change (if CallKind.close.number = CallKind.close.number then
    some ((Descriptor.closing descriptor).register 0).toInt64.toInt32 else none) = some descriptor
  rw [if_pos rfl, same]

/-- A call that closes a descriptor closes that one only. -/
theorem closes_closing (descriptor : Descriptor) (word : UInt64) :
    closes [(Descriptor.closing descriptor).answered word] = [descriptor] := by
  have closed : (fun call : Event => call.question.closed?) ((Descriptor.closing descriptor).answered word) =
      some descriptor := closed?_closing descriptor word
  exact List.filterMap_cons_some closed

/-- What calls in a row close. -/
@[simp] theorem closes_append (calls more : List Event) : closes (calls ++ more) = closes calls ++ closes more :=
  List.filterMap_append

/-- Which calls in a row open descriptors. -/
@[simp] theorem openings_append (calls more : List Event) :
    openings (calls ++ more) = openings calls ++ openings more := List.filter_append _ _

/-- One call that opens descriptors. -/
theorem openings_singleton {call : Event} (opens : call.question.isOpening = true) : openings [call] = [call] :=
  List.filter_cons_of_pos opens

/-- One call that opens no descriptor. -/
theorem openings_singleton_of_plain {call : Event} (plain : call.question.isOpening = false) :
    openings [call] = [] := by
  simp [openings, plain]

/-- Calls of which none closes a descriptor close nothing. -/
theorem closes_eq_nil {calls : List Event} (none : ∀ call ∈ calls, call.question.closed? = none) :
    closes calls = [] := List.filterMap_eq_nil_iff.mpr none

/-- One call that closes no descriptor closes nothing. -/
theorem closes_singleton {call : Event} (none : call.question.closed? = none) : closes [call] = [] :=
  closes_eq_nil fun _ member => List.mem_singleton.mp member ▸ none

end Event

/--
From the descriptors that guards have to the ones that they have in the end: the calls that are made,
what is gained and what is given up. A close takes its descriptor away whatever the kernel answers, a call is
made on a descriptor only while a guard has it, and what a call opens is gained.
-/
inductive Balance (live : Multiset Descriptor) :
    List Event → List Gain → List Descriptor → Multiset Descriptor → Prop
  | even : Balance live [] [] [] live
  | acquired {calls : List Event} {gained : List Gain} {lost : List Descriptor} {last : Multiset Descriptor}
      (past : Balance live calls gained lost last) (descriptor : Descriptor) :
      Balance live calls (gained ++ [.taken descriptor]) lost (descriptor ::ₘ last)
  | gaveUp {calls : List Event} {gained : List Gain} {lost : List Descriptor} {descriptor : Descriptor}
      {last : Multiset Descriptor} (past : Balance live calls gained lost (descriptor ::ₘ last)) :
      Balance live calls gained (lost ++ [descriptor]) last
  | closed {calls : List Event} {gained : List Gain} {lost : List Descriptor} {descriptor : Descriptor}
      {last : Multiset Descriptor} (past : Balance live calls gained lost (descriptor ::ₘ last)) (word : UInt64) :
      Balance live (calls ++ [(Descriptor.closing descriptor).answered word]) gained lost last
  | used {calls : List Event} {gained : List Gain} {lost : List Descriptor} {descriptor : Descriptor} {call : Event}
      {last : Multiset Descriptor} (past : Balance live calls gained lost last) (owned : descriptor ∈ last)
      (borrows : call.Borrows descriptor) : Balance live (calls ++ [call]) gained lost last
  | opened {calls : List Event} {gained : List Gain} {lost descriptors : List Descriptor} {call : Event}
      {last : Multiset Descriptor} (past : Balance live calls gained lost last) (placed : call.IsPlaced last)
      (opens : call.question.isOpening = true) (brings : call.Brings descriptors) :
      Balance live (calls ++ [call]) (gained ++ [.opened call descriptors]) lost (last + descriptors)

namespace Balance

variable {live middle last : Multiset Descriptor} {calls more : List Event} {gained gained' : List Gain}
  {lost lost' : List Descriptor}

theorem trans (head : Balance live calls gained lost middle) (tail : Balance middle more gained' lost' last) :
    Balance live (calls ++ more) (gained ++ gained') (lost ++ lost') last := by
  induction tail with
  | even => simpa using head
  | acquired _ descriptor step =>
    rw [← List.append_assoc]
    exact step.acquired descriptor
  | gaveUp _ step =>
    rw [← List.append_assoc]
    exact step.gaveUp
  | closed _ word step =>
    rw [← List.append_assoc]
    exact step.closed word
  | used _ owned borrows step =>
    rw [← List.append_assoc]
    exact step.used owned borrows
  | opened _ placed opens brings step =>
    rw [← List.append_assoc, ← List.append_assoc]
    exact step.opened placed opens brings

/-- Descriptors that others have do not matter. -/
theorem frame_left (balance : Balance live calls gained lost last) (extra : Multiset Descriptor) :
    Balance (extra + live) calls gained lost (extra + last) := by
  induction balance with
  | even => exact .even
  | acquired _ descriptor step =>
    rw [Multiset.add_cons]
    exact step.acquired descriptor
  | gaveUp _ step =>
    rw [Multiset.add_cons] at step
    exact step.gaveUp
  | closed _ word step =>
    rw [Multiset.add_cons] at step
    exact step.closed word
  | used _ owned borrows step => exact step.used (Multiset.mem_add.mpr (.inr owned)) borrows
  | opened _ placed opens brings step =>
    rw [← add_assoc]
    exact step.opened (placed.mono (Multiset.le_add_left _ _)) opens brings

/-- Descriptors that are beside them do not matter. -/
theorem frame_right (balance : Balance live calls gained lost last) (extra : Multiset Descriptor) :
    Balance (live + extra) calls gained lost (last + extra) := by
  rw [add_comm live, add_comm last]
  exact balance.frame_left extra

/-- Harmless calls change nothing by themselves. -/
theorem of_harmless (harmless : ∀ call ∈ calls, call.Harmless live) : Balance live calls [] [] live := by
  induction calls using List.reverseRecOn with
  | nil => exact .even
  | append_singleton calls call step =>
    obtain ⟨descriptor, owned, borrows⟩ := harmless call (List.mem_append_right _ List.mem_cons_self)
    exact (step fun call member => harmless call (List.mem_append_left _ member)).used owned borrows

/-- What is gained holds every call that opens descriptors, in order. -/
theorem openings_eq (balance : Balance live calls gained lost last) :
    Event.openings calls = gained.filterMap Gain.call? := by
  induction balance with
  | even => rfl
  | acquired _ descriptor step => simp [step, Gain.call?]
  | gaveUp _ step => exact step
  | @closed _ _ _ descriptor _ _ word step =>
    have plain : ((Descriptor.closing descriptor).answered word).question.isOpening = false := by rfl
    rw [Event.openings_append, Event.openings_singleton_of_plain plain, List.append_nil, step]
  | used _ _ borrows step =>
    rw [Event.openings_append, Event.openings_singleton_of_plain borrows.plain, List.append_nil, step]
  | opened _ _ opens _ step =>
    rw [Event.openings_append, Event.openings_singleton opens, List.filterMap_append, step]
    rfl

/-- What calls have opened is what the kernel gave. -/
theorem isGiven (balance : Balance live calls gained lost last) : ∀ gain ∈ gained, gain.IsGiven := by
  induction balance with
  | even => nofun
  | acquired _ descriptor step => exact List.forall_mem_append.mpr ⟨step, by simp [Gain.IsGiven]⟩
  | gaveUp _ step => exact step
  | closed _ _ step => exact step
  | used _ _ _ step => exact step
  | opened _ _ _ brings step => exact List.forall_mem_append.mpr ⟨step, by simpa [Gain.IsGiven] using brings⟩

/--
The balance comes out even: what there was and what is gained is what there is in the end, what was
given up and what the calls have closed.
-/
theorem ledger (balance : Balance live calls gained lost last) :
    live + (gained.flatMap Gain.descriptors : List Descriptor) = last + lost + Event.closes calls := by
  induction balance with
  | even => simp [Event.closes]
  | acquired _ descriptor step =>
    rw [List.flatMap_append, ← Multiset.coe_add, ← add_assoc, step]
    simp only [List.flatMap_singleton, Gain.descriptors, Multiset.coe_singleton, ← Multiset.singleton_add]
    abel
  | @gaveUp _ _ _ descriptor _ _ step =>
    rw [step, ← Multiset.coe_add]
    simp only [Multiset.coe_singleton, ← Multiset.singleton_add]
    abel
  | @closed _ _ _ descriptor _ _ word step =>
    rw [step, Event.closes_append, Event.closes_closing, ← Multiset.coe_add]
    simp only [Multiset.coe_singleton, ← Multiset.singleton_add]
    abel
  | used _ _ borrows step =>
    rw [step, Event.closes_append, Event.closes_singleton borrows.uses.closed?, List.append_nil]
  | opened _ placed _ _ step =>
    rw [List.flatMap_append, ← Multiset.coe_add, ← add_assoc, step, Event.closes_append,
      Event.closes_singleton placed.closed?, List.append_nil]
    simp only [List.flatMap_singleton, Gain.descriptors]
    abel

end Balance

end LinuxCalls
