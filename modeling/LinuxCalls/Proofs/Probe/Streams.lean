/-
This file says what streams ensure while the kernel answers fairly. A writer to the standard output shows all
that it was given, a writer elsewhere shows nothing, and so does a reader.
-/

import LinuxCalls.Proofs.Probe.Calls
import LinuxCalls.Proofs.Stream.WriterEnd

namespace LinuxCalls

open Act (Ensures Keeps Settled Succeeds)
open Machine (Shows)

variable {δ : Type}

/--
A sink takes bytes in the light of an account of what it has accepted. A sink that may not fail accepts at
least one byte of every write.
-/
def Sink.Takes (δ : Type) [Sink δ] (accepted : δ × Machine → Bytes → Prop) (mayFail : Prop) : Prop :=
  ∀ offered before, (Sink.write offered : Act (δ × Machine) Nat).Ensures (fun state => accepted state before)
    (Settled
      (fun count next => count ≤ offered.length ∧ (count = 0 → mayFail) ∧
        accepted next (before ++ offered.take count))
      (fun _ next => mayFail ∧ accepted next before)
      fun _ _ => False)

namespace Writer

variable {accepted : δ × Machine → Bytes → Prop} {mayFail : Prop} {capacity : Nat} {stream : Bytes}

/-- A writer carries a stream, which is what its sink has accepted and then what its buffer holds. -/
def Carries (accepted : δ × Machine → Bytes → Prop) (capacity : Nat) (stream : Bytes)
    (state : Writer δ × Machine) : Prop :=
  state.1.capacity = capacity ∧ ∃ sent, accepted (state.1.device, state.2) sent ∧ sent ++ state.1.buffer = stream

/-- A writer that may fail has given up, and its sink still has an account. -/
def GaveUp (accepted : δ × Machine → Bytes → Prop) (mayFail : Prop) (state : Writer δ × Machine) : Prop :=
  mayFail ∧ ∃ sent, accepted (state.1.device, state.2) sent

/-- An action on the device leaves the buffer and the capacity of the writer alone. -/
theorem ensures_onDevice {α : Type} (own : Bytes → Nat → Prop) {act : Act (δ × Machine) α}
    {before : δ × Machine → Prop} {after : Except Fault α → δ × Machine → Prop}
    (ensures : act.Ensures before after) :
    (onDevice act).Ensures
      (fun state => own state.1.buffer state.1.capacity ∧ before (state.1.device, state.2)) fun outcome next =>
        own next.1.buffer next.1.capacity ∧ after outcome (next.1.device, next.2) :=
  ensures.focus (fun _ => rfl) (fun _ _ => rfl) (fun _ holds => holds.2) fun _ _ _ holds meets => ⟨holds.1, meets⟩

/-- Looking at the writer first lets it be known. -/
theorem ensures_self_bind {α : Type} {before : Writer δ × Machine → Prop}
    {next : Writer δ → Act (Writer δ × Machine) α}
    {after : Except Fault α → Writer δ × Machine → Prop}
    (tail : ∀ writer, (next writer).Ensures (fun state => state.1 = writer ∧ before state) after) :
    (self >>= next).Ensures before after := by
  refine Ensures.get_bind fun state => (tail state.1).mono ?_ fun _ _ meets => meets
  rintro other ⟨rfl, holds⟩
  exact ⟨rfl, holds⟩

variable [Sink δ]

/-- A drain that starts inside the bytes sends them all, unless the sink may fail. -/
theorem ensures_drainFrom (takes : Sink.Takes δ accepted mayFail) (bytes before : Bytes) (written : Nat) :
    (drainFrom bytes written : Act (δ × Machine) _).Ensures
      (fun state => written ≤ bytes.length ∧ accepted state (before ++ bytes.take written))
      (Succeeds fun drained next => accepted next (before ++ bytes.take drained.1) ∧
        match drained.2 with
        | .ok _ => drained.1 = bytes.length
        | .error _ => mayFail) := by
  -- Each round that goes on leaves fewer bytes behind it.
  induction left : bytes.length - written using Nat.strongRecOn generalizing written with
  | ind size step =>
    subst left
    unfold drainFrom
    split
    · exact .pure fun _ holds => ⟨holds.2, ‹_›⟩
    · split
      · exact .of_unreachable (fun _ => List.suffix_refl _) fun _ holds => by omega
      · have wrote := Ensures.attempt (takes (bytes.drop written) (before ++ bytes.take written))
        refine (wrote.frame (written ≤ bytes.length)).bind (fun result => ?_) fun reason next settled => ?_
        · cases result with
          | error error => exact .pure fun _ ⟨_, failing, kept⟩ => ⟨kept, failing⟩
          | ok count =>
            dsimp only
            split
            · rename_i none
              subst none
              exact .pure fun _ ⟨_, _, failing, kept⟩ => ⟨by simpa using kept, failing rfl⟩
            · refine (step _ (by omega) (written + count) rfl).assuming ?_
              rintro state ⟨inside, within, -, kept⟩
              rw [List.length_drop] at within
              rw [List.append_assoc, ← List.take_add] at kept
              exact ⟨by omega, kept⟩
        · cases reason <;> exact absurd settled.2 id

/-- A flush sends what the buffer holds, unless the sink may fail. -/
theorem ensures_flush (takes : Sink.Takes δ accepted mayFail) : (flush : Act (Writer δ × Machine) Unit).Ensures
    (Carries accepted capacity stream)
    (Settled (fun _ next => Carries accepted capacity stream next ∧ next.1.buffer = [])
      (fun _ => GaveUp accepted mayFail) fun _ _ => False) := by
  refine ensures_self_bind fun writer => ?_
  -- The drain starts from what the sink has accepted before.
  have flushes (sent : Bytes) : (onDevice (drainFrom writer.buffer 0) >>= fun drained =>
      setBuffer (writer.buffer.drop drained.1) >>= fun _ => Act.ofExcept drained.2).Ensures
        (fun state => (state.1.capacity = capacity ∧ sent ++ writer.buffer = stream) ∧
          0 ≤ writer.buffer.length ∧ accepted (state.1.device, state.2) (sent ++ writer.buffer.take 0))
        (Settled (fun _ next => Carries accepted capacity stream next ∧ next.1.buffer = [])
          (fun _ => GaveUp accepted mayFail) fun _ _ => False) := by
    have drains := ensures_onDevice (fun _ size => size = capacity ∧ sent ++ writer.buffer = stream)
      (ensures_drainFrom takes writer.buffer sent 0)
    refine drains.bind (fun drained => ?_) fun reason next settled => ?_
    · obtain ⟨written, ending⟩ := drained
      cases ending with
      | ok _ =>
        refine .of_still (fun _ => rfl) (fun _ => rfl) ?_
        rintro state ⟨⟨size, rfl⟩, kept, rfl⟩
        rw [List.take_length] at kept
        exact ⟨⟨size, _, kept, by simp⟩, List.drop_length⟩
      | error error =>
        refine .of_still (fun _ => rfl) (fun _ => rfl) ?_
        rintro state ⟨-, kept, failing⟩
        exact ⟨failing, _, kept⟩
    · cases reason <;> exact absurd settled.2 id
  refine (Ensures.of_exists flushes).mono ?_ fun _ _ meets => meets
  rintro state ⟨rfl, size, sent, kept, whole⟩
  exact ⟨sent, ⟨size, whole⟩, Nat.zero_le _, by simpa using kept⟩

/-- A write past the buffer sends all of the bytes, unless the sink may fail. -/
theorem ensures_writeThrough (takes : Sink.Takes δ accepted mayFail) (bytes before : Bytes) :
    (writeThrough bytes : Act (δ × Machine) Unit).Ensures (fun state => accepted state before)
      (Settled (fun _ next => accepted next (before ++ bytes))
        (fun _ next => mayFail ∧ ∃ sent, accepted next sent) fun _ _ => False) := by
  induction size : bytes.length using Nat.strongRecOn generalizing bytes before with
  | ind size step =>
    subst size
    unfold writeThrough
    split
    · rename_i nothing
      subst nothing
      exact .pure fun _ kept => by rwa [List.append_nil]
    · rename_i nonempty
      have positive := List.length_pos_iff.mpr nonempty
      refine ((takes bytes before).settle (fun _ _ _ holds => holds) (fun _ _ _ holds => ⟨holds.1, _, holds.2⟩)
        fun _ _ => id).bind_settled fun count => ?_
      split
      · exact .fault fun _ ⟨_, failing, kept⟩ => ⟨failing ‹_›, _, kept⟩
      · split
        · exact .of_unreachable (fun _ => List.suffix_refl _) fun _ holds => by omega
        · refine (step _ (by rw [List.length_drop]; omega) _ (before ++ bytes.take count) rfl).mono ?_ ?_
          · exact fun _ holds => holds.2.2
          · rw [List.append_assoc, List.take_append_drop]
            exact fun _ _ settled => settled

/-- Bytes are carried behind the older ones, or they go past the buffer if that is empty. -/
theorem ensures_place (takes : Sink.Takes δ accepted mayFail) (bytes : Bytes) :
    (place capacity bytes : Act (Writer δ × Machine) Unit).Ensures
      (fun state => (capacity ≤ bytes.length → state.1.buffer = []) ∧ Carries accepted capacity stream state)
      (Settled (fun _ next => Carries accepted capacity (stream ++ bytes) next)
        (fun _ => GaveUp accepted mayFail) fun _ _ => False) := by
  unfold place
  split
  · rename_i large
    refine (ensures_onDevice (fun buffer size => buffer = [] ∧ size = capacity)
      (ensures_writeThrough takes bytes stream)).mono ?_ ?_
    · rintro state ⟨room, size, sent, kept, whole⟩
      rw [room large, List.append_nil] at whole
      exact ⟨⟨room large, size⟩, whole ▸ kept⟩
    · rintro outcome next ⟨⟨empty, size⟩, settled⟩
      exact settled.mono (fun _ kept => ⟨size, _, kept, by rw [empty, List.append_nil]⟩) (fun _ gaveUp => gaveUp)
        fun _ => id
  · refine ensures_self_bind fun writer => .of_still (fun _ => rfl) (fun _ => rfl) ?_
    rintro state ⟨rfl, -, size, sent, kept, rfl⟩
    exact ⟨size, sent, kept, (List.append_assoc _ _ _).symm⟩

/-- A write carries its bytes behind the older ones, unless the sink may fail. -/
theorem ensures_writeAll (takes : Sink.Takes δ accepted mayFail) (bytes : Bytes) :
    (writeAll bytes : Act (Writer δ × Machine) Unit).Ensures (Carries accepted capacity stream)
      (Settled (fun _ next => Carries accepted capacity (stream ++ bytes) next)
        (fun _ => GaveUp accepted mayFail) fun _ _ => False) := by
  rw [writeAll_eq]
  refine ensures_self_bind fun writer => ?_
  suffices writes : Ensures _ (fun state => state.1 = writer ∧ Carries accepted writer.capacity stream state)
      (Settled (fun _ next => Carries accepted writer.capacity (stream ++ bytes) next)
        (fun _ => GaveUp accepted mayFail) fun _ _ => False) by
    refine (writes.frame (writer.capacity = capacity)).mono ?_ ?_
    · rintro state ⟨rfl, carries⟩
      exact ⟨carries.1, rfl, rfl, carries.2⟩
    · rintro outcome next ⟨rfl, settled⟩
      exact settled
  split
  · refine ((ensures_flush takes).assuming fun _ => And.right).bind_settled fun _ => ?_
    exact (ensures_place takes bytes).assuming fun _ holds => ⟨fun _ => holds.2, holds.1⟩
  · refine (ensures_place takes bytes).assuming ?_
    rintro state ⟨rfl, carries⟩
    exact ⟨fun large => List.eq_nil_of_length_eq_zero (by omega), carries⟩

/-- A formatted write of texts carries them all behind the older bytes, unless the sink may fail. -/
theorem ensures_writeFormat (takes : Sink.Takes δ accepted mayFail) (texts : List String) :
    (writeFormat (Format.ofTexts texts) : Act (Writer δ × Machine) Unit).Ensures (Carries accepted capacity stream)
      (Settled (fun _ next => Carries accepted capacity (stream ++ texts.flatMap Bytes.ofText) next)
        (fun _ => GaveUp accepted mayFail) fun _ _ => False) := by
  suffices goes : ∀ seen, (writeFormat.go (Format.ofTexts texts) seen : Act (Writer δ × Machine) Unit).Ensures _ _
    from goes none
  intro seen
  induction texts generalizing stream with
  | nil => exact .pure fun _ carries => by rwa [List.flatMap_nil, List.append_nil]
  | cons text rest step =>
    refine (Ensures.attempt (ensures_writeAll takes (Bytes.ofText text))).bind (fun result => ?_)
      fun reason _ settled => ?_
    · cases result with
      | ok _ =>
        refine step.mono (fun _ carries => carries) fun _ _ settled => ?_
        rwa [List.append_assoc] at settled
      | error error => exact .fault fun _ gaveUp => gaveUp
    · cases reason <;> exact absurd settled id

variable (withstands : ∀ device sent, Machine.Withstands fun machine => accepted (device, machine) sent)

include withstands

end Writer

namespace Source

/-- A source keeps what holds of the machine if its reads do so and stay within the buffer. -/
def Keeps (δ : Type) [Source δ] (keeps : Machine → Prop) : Prop :=
  ∀ buffer, (Source.read buffer : Act (δ × Machine) Reading).Keeps False (fun state => keeps state.2)
    fun reading => ∀ count, reading.count = .ok count → count ≤ buffer.length

end Source

namespace Reader

variable {keeps : Machine → Prop} {mayFail : Prop}

theorem keeps_onDevice {α : Type} {act : Act (δ × Machine) α} {good : α → Prop}
    (kept : act.Keeps mayFail (fun state => keeps state.2) good) :
    (onDevice act).Keeps mayFail (fun state => keeps state.2) good :=
  Ensures.focus kept (fun _ => rfl) (fun _ _ => rfl) (fun _ holds => holds) fun _ _ _ _ settled =>
    settled.mono (fun _ holds => holds) (fun _ holds => holds) fun _ => id

theorem keeps_change (update : Reader δ → Reader δ) :
    (change update).Keeps mayFail (fun state => keeps state.2) fun _ => True :=
  Ensures.of_still (fun _ => rfl) (fun _ => rfl) fun _ holds => ⟨trivial, holds⟩

theorem keeps_self_bind {α : Type} {next : Reader δ → Act (Reader δ × Machine) α} {good : α → Prop}
    (tail : ∀ reader, (next reader).Keeps mayFail (fun state => keeps state.2) good) :
    (self >>= next).Keeps mayFail (fun state => keeps state.2) good :=
  Ensures.get_bind fun state => Ensures.assuming (tail state.1) fun _ => And.right

variable [Source δ]

theorem keeps_fill (source : Source.Keeps δ keeps) :
    (fill : Act (Reader δ × Machine) Unit).Keeps True (fun state => keeps state.2) fun _ => True := by
  refine keeps_self_bind fun reader => ?_
  split
  · refine (keeps_onDevice (Keeps.of_succeeds (Keeps.succeeds (source _)))).bind_good fun reading => ?_
    refine (Keeps.frame _ (keeps_change _)).bind fun _ => ?_
    cases reading.count with
    | error error => exact .fail error
    | ok count =>
      rw [Act.ofExcept, pure_bind]
      dsimp only
      split
      · exact .of_unreachable (fun _ => List.suffix_refl _) fun _ holds => by
          have within := holds.1 count rfl
          omega
      · exact .frame _ (keeps_change _)
  · exact .pure trivial

theorem keeps_available (source : Source.Keeps δ keeps) :
    (available : Act (Reader δ × Machine) Bytes).Keeps True (fun state => keeps state.2) fun _ => True :=
  (keeps_fill source).bind fun _ => keeps_self_bind fun _ => .pure trivial

theorem keeps_collect (source : Source.Keeps δ keeps) (delimiter : UInt8) (rounds total : Nat) :
    (readUntil.collect delimiter rounds total : Act (Reader δ × Machine) (Appended Bytes)).Keeps False
      (fun state => keeps state.2) fun _ => True := by
  induction rounds generalizing total with
  | zero => exact .pure trivial
  | succ rounds step =>
    unfold readUntil.collect
    refine (keeps_available source).attempt_bind fun result => Keeps.frame _ ?_
    rcases result with error | _ | ⟨first, rest⟩
    · exact .pure trivial
    · exact .pure trivial
    · dsimp only
      split
      · exact (keeps_change _).bind fun _ => .pure trivial
      · exact (keeps_change _).bind fun _ => (step _).bind fun _ => .pure trivial

end Reader

/-- A write by a device that knows its descriptor ensures what a write to that descriptor ensures. -/
theorem ensures_write_of_device (descriptor : δ → Descriptor) (own : δ → Prop) (offered : Bytes) {shown : Bytes}
    {after : Except Fault Nat → δ × Machine → Prop}
    (writes : ∀ device, own device →
      (liftM (Descriptor.write (descriptor device) offered) : Act (δ × Machine) Nat).Ensures
        (fun state => own state.1 ∧ state.2.Shows shown) after) :
    (Act.get >>= fun state : δ × Machine => liftM (Descriptor.write (descriptor state.1) offered)).Ensures
      (fun state => own state.1 ∧ state.2.Shows shown) after where
  grows state := by
    have asks : (Descriptor.write (descriptor state.1) offered).Ensures (Shows shown) _ :=
      Descriptor.ensures_write _ offered
    exact (Ensures.lift (fun _ : δ => True) asks).grows state
  ensures state holds := (writes state.1 holds.1).ensures state holds

/-- A reference to the standard output shows the bytes that it has accepted. -/
def DescriptorRef.Showing (state : DescriptorRef × Machine) (bytes : Bytes) : Prop :=
  state.1 = ⟨Descriptor.output⟩ ∧ state.2.Shows bytes

/-- A reference to the standard output shows all that it takes and never fails. -/
theorem DescriptorRef.takes_showing : Sink.Takes DescriptorRef Showing False := by
  intro offered before
  let standard (reference : DescriptorRef) : Prop := reference = ⟨Descriptor.output⟩
  refine ensures_write_of_device DescriptorRef.descriptor standard offered fun reference same => ?_
  cases same
  refine (Ensures.lift standard (Descriptor.ensures_write_output offered)).settle ?_
    (fun _ _ _ holds => holds.2.elim) fun _ _ holds => holds.2
  rintro count next - ⟨same, some, within, shows⟩
  exact ⟨within, fun none => absurd none (Nat.ne_of_gt some), same, shows⟩

end LinuxCalls
