/-
This file follows the calls of a mapping from its making to its end. A mapping is made by one request whose
arguments were checked before, it is written back as a whole, and the request that ends it names the range
that it was made with.
-/

import LinuxCalls.Proofs.Calls.Wrappers

namespace LinuxCalls

/-- The address and the length that the kernel is asked to unmap. -/
def Question.unmapped? : Question → Option (UInt64 × UInt64)
  | .kernel request =>
    if request.number = CallKind.unmap.number then some (request.register 0, request.register 1) else none
  | .runtime _ _ => none

namespace Event

/-- The ranges that calls unmap, in order. -/
def unmaps (calls : List Event) : List (UInt64 × UInt64) := (calls.map question).filterMap Question.unmapped?

/-- A call unmaps nothing. -/
def KeepsMapped (call : Event) : Prop := call.question.unmapped? = none

/-- What calls in a row unmap. -/
@[simp] theorem unmaps_append (calls more : List Event) : unmaps (calls ++ more) = unmaps calls ++ unmaps more := by
  simp [unmaps]

/-- Calls of which none unmaps a range unmap nothing. -/
theorem unmaps_eq_nil {calls : List Event} (keeps : ∀ call ∈ calls, call.KeepsMapped) : unmaps calls = [] := by
  simpa [unmaps, KeepsMapped] using keeps

/-- Only calls of one kind unmap a range. -/
theorem keepsMapped_of_puts {kind : CallKind} {targets : List Register} {call : Event} (puts : kind.Puts targets call)
    (other : kind ≠ .unmap) : call.KeepsMapped := by
  obtain ⟨rest, same⟩ := puts
  rw [KeepsMapped, same]
  exact if_neg fun equal => other (CallKind.number_inj.mp equal)

end Event

namespace Mapping

/-- The range of a mapping: its address and its length. -/
def range (mapping : Mapping) : UInt64 × UInt64 := (mapping.address, UInt64.ofNat mapping.length)

/-- The request that unmaps a mapping. -/
def unmapping (mapping : Mapping) : Request :=
  ⟨CallKind.unmap.number, CallKind.padded [.word mapping.address, .ofLength mapping.length]⟩

/-- The request that writes a mapping back. -/
def writingBack (mapping : Mapping) : Request :=
  ⟨CallKind.writeBack.number, CallKind.padded
    [.word mapping.address, .ofLength mapping.length, .ofUInt32 WriteBackFlags.awaited.bits]⟩

/-- A mapping may be read from its address on: it is not empty, it is readable, and it is not at zero. -/
structure IsValid (mapping : Mapping) : Prop where
  nonempty : 0 < mapping.length
  readable : mapping.protection.contains Protection.read = true
  addressed : mapping.address ≠ 0

/-- What a mapping is to be made with. -/
structure Plan where
  descriptor : Descriptor
  length : Nat
  offset : UInt64
  protection : Protection
  sharing : Sharing
  flags : MapFlags

variable {machine : Machine}

namespace Plan

/-- This action makes a mapping as planned. -/
def make (plan : Plan) : Sys Mapping :=
  Mapping.make plan.descriptor plan.length plan.offset plan.protection plan.sharing plan.flags

/-- The request that maps a range as planned. -/
def request (plan : Plan) : Request :=
  ⟨CallKind.map.number, CallKind.padded [.word 0, .extent plan.length, .ofUInt32 plan.protection.bits,
    .ofUInt32 (plan.sharing.number ||| plan.flags.bits), .ofInt32 plan.descriptor, .word plan.offset]⟩

/-- An empty range, an unreadable range and an offset inside a page are rejected. -/
def IsRejected (plan : Plan) : Prop :=
  plan.length = 0 ∨ plan.protection.contains Protection.read = false ∨ plan.offset.toNat % 4096 ≠ 0

/-- The mapping at an address that is made as planned. -/
def placed (plan : Plan) (address : UInt64) : Mapping := ⟨address, plan.length, plan.protection, plan.sharing⟩

/-- What becomes of a plan by the kernel's answer: no range starts at address zero. -/
def result (plan : Plan) (word : UInt64) : Except Errno Mapping :=
  match RawReturn.decode word with
  | .ok address => if address = 0 then .error Errno.noMemory else .ok (plan.placed address)
  | .error error => .error error

variable {plan : Plan}

/-- A plan is accepted unless it is rejected. -/
theorem accepts_iff : accepts plan.length plan.offset plan.protection = true ↔ ¬ plan.IsRejected := by
  simp [accepts, IsRejected, Memory.pageSize, and_assoc]

/-- A rejected plan fails before any call. -/
theorem make_of_isRejected (rejected : plan.IsRejected) : plan.make = Act.fail Errno.invalidArgument :=
  if_neg fun accepted => accepts_iff.mp accepted rejected

/-- An accepted plan asks for its range once, and the answer says what becomes of it. -/
theorem traces_make (accepted : ¬ plan.IsRejected) : plan.make.Traces machine fun calls outcome _ => ∃ word,
    calls = [plan.request.answered word] ∧ outcome = (plan.result word).mapError .errno := by
  have checked : accepts plan.length plan.offset plan.protection = true := accepts_iff.mpr accepted
  rw [make, Mapping.make, if_pos checked]
  have few : [Register.word 0, .extent plan.length, .ofUInt32 plan.protection.bits,
      .ofUInt32 (plan.sharing.number ||| plan.flags.bits), .ofInt32 plan.descriptor, .word plan.offset].length ≤
      CallKind.registerCount := by simp [CallKind.registerCount]
  apply (CallKind.traces_invoke_once (by decide) (by decide) few).bind_result
  · rintro _ address middle ⟨word, decoded, rfl⟩
    by_cases zero : address = 0
    · rw [if_pos zero]
      exact .fault ⟨word, rfl, by rw [result, ← decoded]; simp [zero, Except.mapError]⟩
    · rw [if_neg zero]
      exact .pure ⟨word, rfl, by rw [result, ← decoded]; simp [zero, placed, Except.mapError]⟩
  · rintro _ error next ⟨word, decoded, rfl⟩
    exact ⟨word, rfl, by rw [result, ← decoded]; rfl⟩

/-- A mapping that is made as planned has the address of the answer, and it is valid. -/
theorem isValid_of_result (accepted : ¬ plan.IsRejected) {word : UInt64} {mapping : Mapping}
    (made : plan.result word = .ok mapping) : mapping = plan.placed mapping.address ∧ mapping.IsValid := by
  rw [result] at made
  split at made
  · split at made
    · contradiction
    · rename_i address _ placed
      obtain rfl := Except.ok.inj made
      simp only [IsRejected, not_or] at accepted
      obtain ⟨some, readable, -⟩ := accepted
      exact ⟨rfl, Nat.pos_of_ne_zero some, Bool.eq_true_of_not_eq_false readable, placed⟩
  · contradiction

/-- The request for a range unmaps nothing. -/
theorem keepsMapped_request (word : UInt64) : (plan.request.answered word).KeepsMapped := by
  have puts : CallKind.map.Puts [] (plan.request.answered word) := ⟨plan.request.registers, rfl⟩
  exact Event.keepsMapped_of_puts puts (by decide)

end Plan

variable (mapping : Mapping)

/-- A mapping that is dropped makes one call, which unmaps its range, whatever the answer is. -/
theorem traces_drop : mapping.drop.Traces machine fun calls outcome _ => ∃ word,
    calls = [mapping.unmapping.answered word] ∧ outcome = .ok () := by
  have few : [Register.word mapping.address, .ofLength mapping.length].length ≤ CallKind.registerCount := by
    simp [CallKind.registerCount]
  have unmaps : (MappedRange.unmap mapping.address mapping.length).attempt.Traces machine fun calls outcome _ =>
      ∃ word result, calls = [mapping.unmapping.answered word] ∧ outcome = .ok result := by
    apply (CallKind.traces_run_once (by decide) (by decide) few).attempt_result
    rintro _ result _ ⟨word, rfl⟩
    exact ⟨word, result, rfl, rfl⟩
  apply unmaps.bind
  · rintro _ result middle ⟨word, _, rfl, -⟩
    cases result with
    | ok _ => exact .pure ⟨word, rfl, rfl⟩
    | error error => exact .tell fun _ _ => ⟨word, rfl, rfl⟩
  · rintro _ _ _ ⟨_, _, -, failed⟩
    contradiction

/-- The requests that write a mapping back: one for a shared mapping, and none for a copied one. -/
def writeBacks : List Question :=
  match mapping.sharing with
  | .shared => [.kernel mapping.writingBack]
  | .copied => []

/-- A mapping that is flushed is written back as a whole if it is shared. -/
theorem traces_flush : mapping.flush.Traces machine fun calls _ _ =>
    calls.map Event.question = mapping.writeBacks := by
  unfold flush writeBacks
  cases mapping.sharing with
  | copied => exact .pure rfl
  | shared =>
    have few : [Register.word mapping.address, .ofLength mapping.length,
        .ofUInt32 WriteBackFlags.awaited.bits].length ≤ CallKind.registerCount := by simp [CallKind.registerCount]
    apply (CallKind.traces_run_once (by decide) (by decide) few).mono
    rintro _ _ _ ⟨_, -, word, rfl⟩
    rfl

end Mapping

end LinuxCalls
