/-
This file shows that the devices of streams are faithful. A descriptor is read and written by one call
each time, a cursor makes no call, and a stream never exchanges its device for another one.
-/

import LinuxCalls.Proofs.Calls.Streams
import LinuxCalls.Proofs.Log.Slots

namespace LinuxCalls

open Act (Faithful Faithfully Still Traces)

variable {δ : Type}

/-- A call transfers bytes from or to a descriptor. -/
def Event.Transfers (descriptor : Descriptor) (call : Event) : Prop :=
  CallKind.read.Puts [.ofInt32 descriptor] call ∨ CallKind.write.Puts [.ofInt32 descriptor] call

/-- A transfer has failed because the last write has accepted nothing. -/
def RefusedWrite (calls : List Event) (error : Errno) : Prop :=
  error = Errno.transferFailed ∧ ∃ (earlier : List Event) (request : Request),
    request.number = CallKind.write.number ∧ calls = earlier ++ [request.answered 0]

/-- No transfer is tried again, and a refused write remains the last one. -/
theorem extends_refusedWrite {allowed : Event → Prop} {descriptor : Descriptor}
    (transfers : ∀ call, allowed call → Event.Transfers descriptor call) : Extends allowed RefusedWrite where
  plain call admitted := by
    rcases transfers call admitted with reads | writes
    · exact reads.not_isBusyDuplicate (by decide)
    · exact writes.not_isBusyDuplicate (by decide)
  later earlier calls error := by
    rintro ⟨same, before, request, number, rfl⟩
    exact ⟨same, earlier ++ before, request, number, (List.append_assoc _ _ _).symm⟩

namespace Descriptor

/-- A register tells descriptors apart. -/
theorem ofInt32_inj {descriptor other : Descriptor} :
    Register.ofInt32 descriptor = .ofInt32 other ↔ descriptor = other := by
  refine ⟨fun same => ?_, congrArg _⟩
  injection same with same
  simpa using congrArg (fun word => word.toInt64.toInt32) same

/-- The request to write bytes to a descriptor. -/
def writing (descriptor : Descriptor) (bytes : Bytes) : Request :=
  ⟨CallKind.write.number, CallKind.padded [.ofInt32 descriptor, .data bytes, .ofLength bytes.length]⟩

/-- A write is one call and gives the count that the kernel reports. -/
theorem traces_write (descriptor : Descriptor) (bytes : Bytes) {machine : Machine} :
    (write descriptor bytes).Traces machine fun calls outcome _ => ∃ result : Except Errno Nat,
      outcome = result.mapError .errno ∧ ∃ word, result = (RawReturn.decode word).map UInt64.toNat ∧
        calls = [(writing descriptor bytes).answered word] := by
  have few : [Register.ofInt32 descriptor, .data bytes, .ofLength bytes.length].length ≤
      CallKind.registerCount := by simp [CallKind.registerCount]
  apply (CallKind.traces_invoke_once (by decide) (by decide) few).bind_result
  · rintro _ count middle ⟨word, decoded, rfl⟩
    exact .pure ⟨.ok count.toNat, rfl, word, by rw [← decoded]; rfl, rfl⟩
  · rintro _ error _ ⟨word, decoded, rfl⟩
    exact ⟨.error error, rfl, word, by rw [← decoded]; rfl, rfl⟩

/-- The length of what is written is a number that the request asks for at most. -/
theorem toNat_register_writing_le (descriptor : Descriptor) (bytes : Bytes) :
    ((writing descriptor bytes).register 2).toNat ≤ bytes.length := by
  change (UInt64.ofNat bytes.length).toNat ≤ bytes.length
  rw [UInt64.toNat_ofNat']
  exact Nat.mod_le _ _

/-- Writing to a descriptor is faithful and leaves the device that has it alone. -/
theorem offered_write (descriptor : Descriptor) (bytes : Bytes) (state : δ × Machine) :
    (liftM (write descriptor bytes) : Act (δ × Machine) Nat).Traces state
      (Sink.Offered (fun next => next.1 = state.1) (CallKind.write.Puts [.ofInt32 descriptor])
        RefusedWrite bytes) := by
  apply Traces.lift
  refine (traces_write descriptor bytes).mono ?_
  rintro calls outcome next ⟨result, rfl, word, rfl, rfl⟩
  have puts : ∀ call ∈ [(writing descriptor bytes).answered word],
      CallKind.write.Puts [.ofInt32 descriptor] call := by
    intro call member
    rw [List.mem_singleton.mp member]
    exact ⟨_, rfl⟩
  cases decoded : RawReturn.decode word with
  | error error =>
    have failed := ((writing descriptor bytes).error?_answered word error).mpr decoded
    have plain := (puts _ List.mem_cons_self).not_isBusyDuplicate (by decide)
    have reports : Reports RefusedWrite ([] ++ [(writing descriptor bytes).answered word]) (some error) :=
      .answered .nil failed fun busy => absurd busy plain
    exact ⟨⟨rfl, puts, reports⟩, nofun, nofun, .error error, rfl⟩
  | ok value =>
    obtain ⟨rfl, -⟩ := RawReturn.eq_of_decode_eq_ok decoded
    have passed : Passed [(writing descriptor bytes).answered value] := by
      apply Passed.of_error?_eq_none
      simp [Event.error?, decoded]
    refine ⟨⟨rfl, puts, .nothing passed⟩, ?_, ?_, .ok value.toNat, rfl⟩
    · intro _ none
      have zero : value = 0 := UInt64.toNat_inj.mp (Except.ok.inj none)
      exact ⟨rfl, [], writing descriptor bytes, rfl, by rw [zero]; rfl⟩
    · intro within count same
      cases same
      have bound := within _ List.mem_cons_self _ value value rfl (.inr rfl) decoded
      exact Nat.le_trans (UInt64.le_iff_toNat_le.mp bound) (toNat_register_writing_le descriptor bytes)

theorem faithful_readInto {cause : List Event → Errno → Prop} (descriptor : Descriptor) (device : δ)
    (buffer : Bytes) :
    Faithful (fun state : δ × Machine => state.1 = device) (CallKind.read.Puts [.ofInt32 descriptor]) cause
      (fun reading : Reading => attempted? reading.count)
      (liftM (read descriptor buffer.length) >>= fun delivery => pure (delivery.into buffer)) := by
  have delivers : Faithful (fun state : δ × Machine => state.1 = device)
      (CallKind.read.Puts [.ofInt32 descriptor]) cause
      (fun delivery : Delivery => attempted? delivery.count) (liftM (read descriptor buffer.length)) :=
    (faithful_read descriptor buffer.length).lift fun _ _ same => same
  exact delivers.followed fun delivery => .pure _

end Descriptor

namespace Guard

/-- A guard is a faithful sink, and all calls are made on its descriptor. -/
theorem faithful_sink (guard : Guard) :
    Sink.Faithful Guard (fun state => state.1 = guard) (CallKind.write.Puts [.ofInt32 guard.descriptor])
      RefusedWrite := by
  rintro offered state rfl
  have same : (Sink.write offered : Act (Guard × Machine) Nat) state =
      (liftM (Descriptor.write state.1.descriptor offered) : Act (Guard × Machine) Nat) state := rfl
  exact .congr same (Descriptor.offered_write state.1.descriptor offered state)

/-- A guard is a faithful source, and all calls are made on its descriptor. -/
theorem faithful_source (cause : List Event → Errno → Prop) (guard : Guard) :
    Source.Faithful Guard (fun state => state.1 = guard) (CallKind.read.Puts [.ofInt32 guard.descriptor])
      cause := by
  rintro buffer state rfl
  have same : (Source.read buffer : Act (Guard × Machine) Reading) state =
      (liftM (Descriptor.read state.1.descriptor buffer.length) >>= fun delivery =>
        pure (delivery.into buffer) : Act (Guard × Machine) Reading) state := rfl
  exact .congr same (Descriptor.faithful_readInto state.1.descriptor state.1 buffer state rfl)

/-- A write draws from the channel for writes unless it is a complaint. -/
theorem ofRequest_writing {descriptor : Descriptor} (other : (Register.ofInt32 descriptor).value ≠ 2)
    (bytes : Bytes) : Channel.ofRequest (Descriptor.writing descriptor bytes) = .call .write := by
  have target : ¬ (Descriptor.writing descriptor bytes).register 0 = 2 := other
  have found : CallKind.ofNumber? (Descriptor.writing descriptor bytes).number = some .write :=
    CallKind.ofNumber?_number .write
  have call : ¬ (Descriptor.writing descriptor bytes).number = CallKind.cloneNumber := by
    change ¬ CallKind.write.number = CallKind.cloneNumber
    decide
  simp only [Channel.ofRequest, if_neg call, found, if_neg target]

/-- The answers to writes name errors only, so that every count follows from a request. -/
def WritesWithin (script : Script) : Prop :=
  ∀ answer ∈ script.queue (.call .write), ∀ word, answer.word = some word →
    ∃ error, RawReturn.decode word = .error error

/-- A count that follows from a request is at most what the request asks for. -/
theorem replyOf_le {request : Request} {answer : Option Answer} {count : UInt64}
    (within : ∀ given ∈ answer, ∀ word, given.word = some word → ∃ error, RawReturn.decode word = .error error)
    (decoded : RawReturn.decode (Machine.replyOf (.call .write) request answer).word = .ok count) :
    count ≤ request.register 2 := by
  obtain ⟨rfl, -⟩ := RawReturn.eq_of_decode_eq_ok decoded
  cases answer with
  | none => exact UInt64.le_refl _
  | some given =>
    have plain (word : UInt64) : Machine.boundedWord (.call .write) request word = word :=
      if_neg fun complaint => nomatch complaint.1
    simp only [Machine.replyOf, plain] at decoded ⊢
    cases named : given.word with
    | some word =>
      obtain ⟨error, failed⟩ := within given rfl word named
      rw [named, Option.getD_some, failed] at decoded
      contradiction
    | none =>
      change Machine.impliedWord (.call .write) request given ≤ request.register 2
      unfold Machine.impliedWord
      cases given.most with
      | none => exact UInt64.le_refl _
      | some most => exact Std.min_le_left

/-- A guard is bounded while the answers to writes name errors only. -/
theorem bounded_write : Sink.Bounded Guard fun state =>
    (Register.ofInt32 state.1.descriptor).value ≠ 2 ∧ WritesWithin state.2.script ∧ state.2.LogReady := by
  rintro offered ⟨guard, machine⟩ ⟨other, within, ready⟩
  have drawn := ofRequest_writing other offered
  obtain ⟨_, makes, result, ended, word, same, rfl⟩ :=
    (Descriptor.traces_write guard.descriptor offered).of_ready ready
  have alone : [(Descriptor.writing guard.descriptor offered).answered word] =
      [] ++ [(Descriptor.writing guard.descriptor offered).answered word] := rfl
  have given : word = machine.wordAfter (Descriptor.writing guard.descriptor offered) 0 :=
    makes.word_eq alone (by rw [drawn]; nofun)
  have wrote : (Sink.write offered : Act (Guard × Machine) Nat) (guard, machine) =
      (result.mapError .errno, (guard, (Descriptor.write guard.descriptor offered machine).2)) :=
    Prod.ext ended rfl
  refine ⟨result, (guard, (Descriptor.write guard.descriptor offered machine).2), ?_, fun count counted => ?_,
    other, fun answer left => ?_, makes.logReady ready⟩
  · cases result with
    | ok count => exact (Act.attempt_eq_ok _ _ _ _).mpr wrote
    | error error => exact (Act.attempt_eq_error _ _ _ _).mpr wrote
  · rw [counted] at same
    cases decoded : RawReturn.decode word with
    | error error => rw [decoded] at same; contradiction
    | ok value =>
      rw [decoded] at same
      rw [given, Machine.wordAfter, drawn] at decoded
      have bound := replyOf_le (fun answer first => within answer (List.mem_of_mem_head? first)) decoded
      rw [Except.ok.inj same]
      exact Nat.le_trans (UInt64.le_iff_toNat_le.mp bound) (Descriptor.toNat_register_writing_le _ _)
  · have writes : Channel.call CallKind.write ≠ .complaints := nofun
    obtain ⟨first, member, unchanged⟩ := makes.exists_of_mem_queue writes left
    exact unchanged ▸ within first member

end Guard

namespace DescriptorRef

/-- A reference is a faithful sink, and all calls are made on its descriptor. -/
theorem faithful_sink (reference : DescriptorRef) : Sink.Faithful DescriptorRef
    (fun state => state.1 = reference) (CallKind.write.Puts [.ofInt32 reference.descriptor]) RefusedWrite := by
  rintro offered state rfl
  have same : (Sink.write offered : Act (DescriptorRef × Machine) Nat) state =
      (liftM (Descriptor.write state.1.descriptor offered) : Act (DescriptorRef × Machine) Nat) state := rfl
  exact .congr same (Descriptor.offered_write state.1.descriptor offered state)

/-- A reference is a faithful source, and all calls are made on its descriptor. -/
theorem faithful_source (cause : List Event → Errno → Prop) (reference : DescriptorRef) :
    Source.Faithful DescriptorRef (fun state => state.1 = reference)
      (CallKind.read.Puts [.ofInt32 reference.descriptor]) cause := by
  rintro buffer state rfl
  have same : (Source.read buffer : Act (DescriptorRef × Machine) Reading) state =
      (liftM (Descriptor.read state.1.descriptor buffer.length) >>= fun delivery =>
        pure (delivery.into buffer) : Act (DescriptorRef × Machine) Reading) state := rfl
  exact .congr same (Descriptor.faithful_readInto state.1.descriptor state.1 buffer state rfl)

end DescriptorRef

namespace Cursor

/-- A write to a cursor has failed because the mapping may not be written or has no room left. -/
def Declined (mapping : Mapping) (error : Errno) : Prop :=
  error = Errno.accessDenied ∧ ¬ mapping.isWritable ∨ error = Errno.noSpace

/-- A cursor makes no calls. -/
theorem extends_declined (mapping : Mapping) :
    Extends (fun _ => False) fun _ error => Declined mapping error where
  plain _ none := none.elim
  later _ _ _ declined := declined

theorem faithful_sink (mapping : Mapping) : Sink.Faithful Cursor
    (fun state => state.1.mapping = mapping) (fun _ => False) fun _ error => Declined mapping error := by
  rintro offered ⟨cursor, machine⟩ rfl
  have wrote := write_apply offered (cursor, machine)
  by_cases nothing : offered = []
  · rw [if_pos nothing] at wrote
    have passed : Reports (fun _ error => Declined cursor.mapping error) [] none :=
      .nothing .nil
    refine .of_eq wrote (.nothing machine) ⟨⟨rfl, nofun, passed⟩, fun some => absurd nothing some, ?_, .ok 0, rfl⟩
    rintro - count same
    exact Except.ok.inj same ▸ Nat.zero_le _
  · rw [if_neg nothing] at wrote
    by_cases locked : ¬ cursor.mapping.isWritable
    · rw [if_pos locked] at wrote
      have reports : Reports (fun _ error => Declined cursor.mapping error) [] (some Errno.accessDenied) :=
        .caused .nil (.inl ⟨rfl, locked⟩)
      exact .of_eq wrote (.nothing machine) ⟨⟨rfl, nofun, reports⟩, nofun, nofun, .error _, rfl⟩
    · rw [if_neg locked] at wrote
      by_cases full : cursor.left = 0
      · rw [if_pos full] at wrote
        have reports : Reports (fun _ error => Declined cursor.mapping error) [] (some Errno.noSpace) :=
          .caused .nil (.inr rfl)
        exact .of_eq wrote (.nothing machine) ⟨⟨rfl, nofun, reports⟩, nofun, nofun, .error _, rfl⟩
      · rw [if_neg full] at wrote
        have passed : Reports (fun _ error => Declined cursor.mapping error) [] none :=
          .nothing .nil
        have positive : 0 < offered.length := List.length_pos_iff.mpr nothing
        refine .of_eq wrote (.stored _ (.nothing _)) ⟨⟨rfl, nofun, passed⟩, fun _ none => ?_, ?_, .ok _, rfl⟩
        · have count : min cursor.left offered.length = 0 := Except.ok.inj none
          omega
        · rintro - count same
          exact Except.ok.inj same ▸ Nat.min_le_right _ _

theorem faithful_source (cause : List Event → Errno → Prop) (mapping : Mapping) :
    Source.Faithful Cursor (fun state => state.1.mapping = mapping) (fun _ => False) cause := by
  intro buffer
  exact .of_still fun state same => ⟨rfl, same, rfl⟩

end Cursor

namespace Device

/-- A device remains the same one although a cursor moves in its mapping. -/
inductive Remains : Device → Device → Prop
  | reference (held : DescriptorRef) : Remains (.reference held) (.reference held)
  | guard (held : Guard) : Remains (.guard held) (.guard held)
  | cursor {before after : Bookmark} (mapping : after.cursor.mapping = before.cursor.mapping)
      (slot : after.mappingSlot = before.mappingSlot) : Remains (.cursor before) (.cursor after)

/-- The calls that are made on a device. -/
def Allows : Device → Event → Prop
  | .reference held => Event.Transfers held.descriptor
  | .guard held => Event.Transfers held.descriptor
  | .cursor _ => fun _ => False

/-- The causes that a device has to fail without a failed call. -/
def Cause : Device → List Event → Errno → Prop
  | .reference _ => RefusedWrite
  | .guard _ => RefusedWrite
  | .cursor held => fun _ error => Cursor.Declined held.cursor.mapping error

/-- No call on a device is tried again, and its causes remain causes. -/
theorem extends_cause (device : Device) : Extends device.Allows device.Cause := by
  cases device with
  | reference held => exact extends_refusedWrite fun _ transfers => transfers
  | guard held => exact extends_refusedWrite fun _ transfers => transfers
  | cursor held => exact Cursor.extends_declined held.cursor.mapping

end Device

namespace Holding

/-- A holding remains the same one, and it comes from the same slot. -/
structure Remains (origin : Holding) (state : Holding × Machine) : Prop where
  device : origin.device.Remains state.1.device
  slot : state.1.slot = origin.slot
  lent : state.1.lent = origin.lent

/-- A holding remains what it is. -/
theorem remains_self (holding : Holding) (machine : Machine) : holding.Remains (holding, machine) := by
  refine ⟨?_, rfl, rfl⟩
  cases holding.device with
  | reference held => exact .reference held
  | guard held => exact .guard held
  | cursor held => exact .cursor rfl rfl

/-- Running on what is held makes the calls that are made on it. -/
theorem traces_dispatch {α : Type} {onReference : Act (DescriptorRef × Machine) α}
    {onGuard : Act (Guard × Machine) α} {onCursor : Act (Cursor × Machine) α} {holding : Holding}
    {machine : Machine} {spec : List Event → Except Fault α → Holding × Machine → Prop}
    (traces : match holding.device with
      | .reference held => onReference.Traces (held, machine) fun calls outcome next =>
        spec calls outcome ({ holding with device := .reference next.1 }, next.2)
      | .guard held => onGuard.Traces (held, machine) fun calls outcome next =>
        spec calls outcome ({ holding with device := .guard next.1 }, next.2)
      | .cursor held => onCursor.Traces (held.cursor, machine) fun calls outcome next =>
        spec calls outcome ({ holding with device := .cursor { held with cursor := next.1 } }, next.2)) :
    (dispatch onReference onGuard onCursor).Traces (holding, machine) spec := by
  obtain ⟨device, slot, lent⟩ := holding
  cases device <;> exact traces

theorem faithful_sink (origin : Holding) :
    Sink.Faithful Holding origin.Remains origin.device.Allows origin.device.Cause := by
  rintro offered ⟨holding, machine⟩ ⟨device, slot, lent⟩
  apply traces_dispatch
  obtain ⟨kind, name, loan⟩ := origin
  obtain ⟨kind', name', loan'⟩ := holding
  cases device with
  | reference held =>
    refine (DescriptorRef.faithful_sink held offered (held, machine) rfl).mono fun calls outcome next done => ?_
    have same : next.1 = held := done.kept
    have allowed : ∀ call ∈ calls, Event.Transfers held.descriptor call := fun call member =>
      .inr (done.allowed call member)
    exact ⟨⟨⟨same ▸ .reference held, slot, lent⟩, allowed, done.reports⟩, done.refused, done.bounded, done.ends⟩
  | guard held =>
    refine (Guard.faithful_sink held offered (held, machine) rfl).mono fun calls outcome next done => ?_
    have same : next.1 = held := done.kept
    have allowed : ∀ call ∈ calls, Event.Transfers held.descriptor call := fun call member =>
      .inr (done.allowed call member)
    exact ⟨⟨⟨same ▸ .guard held, slot, lent⟩, allowed, done.reports⟩, done.refused, done.bounded, done.ends⟩
  | @cursor before after mapping from' =>
    refine (Cursor.faithful_sink before.cursor.mapping offered (after.cursor, machine) mapping).mono
      fun calls outcome next done => ?_
    exact ⟨⟨⟨.cursor done.kept from', slot, lent⟩, done.allowed, done.reports⟩, done.refused, done.bounded, done.ends⟩

theorem faithful_source (cause : List Event → Errno → Prop) (origin : Holding) :
    Source.Faithful Holding origin.Remains origin.device.Allows cause := by
  rintro buffer ⟨holding, machine⟩ ⟨device, slot, lent⟩
  apply traces_dispatch
  obtain ⟨kind, name, loan⟩ := origin
  obtain ⟨kind', name', loan'⟩ := holding
  cases device with
  | reference held =>
    refine (DescriptorRef.faithful_source cause held buffer (held, machine) rfl).mono fun calls outcome next done => ?_
    have same : next.1 = held := done.kept
    exact ⟨⟨same ▸ .reference held, slot, lent⟩, fun call member => .inl (done.allowed call member), done.reports⟩
  | guard held =>
    refine (Guard.faithful_source cause held buffer (held, machine) rfl).mono fun calls outcome next done => ?_
    have same : next.1 = held := done.kept
    exact ⟨⟨same ▸ .guard held, slot, lent⟩, fun call member => .inl (done.allowed call member), done.reports⟩
  | @cursor before after mapping from' =>
    refine (Cursor.faithful_source cause before.cursor.mapping buffer (after.cursor, machine) mapping).mono
      fun calls outcome next done => ?_
    exact ⟨⟨.cursor done.kept from', slot, lent⟩, done.allowed, done.reports⟩

end Holding

end LinuxCalls
