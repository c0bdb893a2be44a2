/-
This file follows the actions that end an object's life or put another one into its slot. What is dropped
is closed, what is lent is given back, and what is in the caller's hand ends up in a slot.
-/

import LinuxCalls.Proofs.Ownership.Custody

namespace LinuxCalls

open Act (Traces)

/-- What follows an action beside a value of its own makes the other calls, and a panic must remain one. -/
theorem Act.Traces.beside_bind {ρ α β : Type} {own : ρ} {act : Act (ρ × Machine) α}
    {second : Except Fault α × ρ → Act Session β} {session : Session}
    {head : List Event → Except Fault α → ρ × Machine → Prop} {spec : List Event → Except Fault β → Session → Prop}
    (traces : act.Traces (own, session.machine) head)
    (onwards : ∀ calls ended last, head calls ended last → (second (ended, last.1)).Traces
      { session with machine := last.2 } fun more outcome next => spec (calls ++ more) outcome next)
    (panics : ∀ own middle, (second (.error .panic, own) middle).1 = .error .panic) :
    (Session.onMachine (Act.beside own act) >>= second).Traces session spec := by
  have same : (Session.onMachine (Act.beside own act) >>= second) session =
      second ((act (own, session.machine)).1, (act (own, session.machine)).2.1)
        { session with machine := (act (own, session.machine)).2.2 } := rfl
  unfold Traces at traces ⊢
  rw [same]
  generalize act (own, session.machine) = ended at traces ⊢
  obtain ⟨calls, makes, meets⟩ | ⟨panicked, unready⟩ := traces
  · refine (onwards calls ended.1 ended.2 meets).imp ?_ fun ⟨panicked, unready⟩ => ?_
    · rintro ⟨more, later, meets⟩
      exact ⟨calls ++ more, makes.trans later, meets⟩
    · exact ⟨panicked, fun ready => unready (makes.logReady ready)⟩
  · rw [panicked]
    exact .inr ⟨panics _ _, unready⟩

namespace Session

/-- An action on the machine makes its calls in the session, too. -/
theorem traces_onMachine {α : Type} {act : Sys α} {session : Session}
    {spec : List Event → Except Fault α → Session → Prop}
    (traces : act.Traces session.machine fun calls outcome next =>
      spec calls outcome { session with machine := next }) :
    (onMachine act).Traces session spec :=
  .focus rfl (fun _ => rfl) traces

/--
Calls settle what is in the hand: it is closed or it comes to live in the session, which keeps its
streams. The guards that make way for it are closed.
-/
structure Settles (hand : Multiset Descriptor) (before : Session) (calls : List Event) (next : Session) : Prop where
  sound : next.Sound
  balance : Balance (before.live + hand) calls [] [] next.live
  readers : next.readers = before.readers
  writers : next.writers = before.writers

variable {session : Session}

/-- Nothing in the hand is settled without a call. -/
theorem Settles.nothing (sound : session.Sound) : Settles 0 session [] session :=
  ⟨sound, by rw [add_zero]; exact .even, rfl, rfl⟩

/-- What is in the hand when a call is made is settled after the calls that have brought it there. -/
theorem Settles.after {hand before : Multiset Descriptor} {calls more : List Event} {next : Session}
    (balance : Balance before calls [] [] hand) (settles : Settles hand session more next) :
    Settles before session (calls ++ more) next :=
  { settles with balance := (balance.frame_left session.live).trans settles.balance }

/-- A dropped guard is closed, and its slot is empty. -/
theorem traces_dropGuard (sound : session.Sound) (slot : String) :
    (dropGuard slot).Traces session fun calls outcome next =>
      outcome = .ok () ∧ Settles 0 session calls next ∧ next.guards.get? slot = none := by
  apply Traces.get_bind
  apply Traces.modify_bind rfl
  have taken := live_eraseGuard sound slot
  cases found : session.guards.get? slot with
  | none =>
    rw [found, Option.elim_none, add_zero] at taken
    refine .pure ⟨rfl, ⟨sound.eraseGuard slot, ?_, rfl, rfl⟩, Slots.get?_erase_self _ _⟩
    rw [add_zero, taken]
    exact .even
  | some guard =>
    rw [found, Option.elim_some] at taken
    apply traces_onMachine
    refine guard.traces_drop.mono ?_
    rintro _ _ next ⟨word, rfl, rfl⟩
    refine ⟨rfl, ⟨(sound.eraseGuard slot).withMachine next, ?_, rfl, rfl⟩, Slots.get?_erase_self _ _⟩
    rw [add_zero, taken, add_comm, Multiset.singleton_add]
    exact Balance.even.closed word

/-- A guard comes to live in the slot where it is stored. -/
theorem traces_storeGuard (sound : session.Sound) (slot : String) (guard : Guard) :
    (storeGuard slot guard).Traces session fun calls outcome next =>
      outcome = .ok () ∧ Settles {guard.descriptor} session calls next := by
  apply (traces_dropGuard sound slot).bind_success
  rintro calls middle ⟨settles, vacant⟩
  apply Traces.of_still rfl
  rw [List.append_nil]
  refine ⟨rfl, settles.sound.putGuard slot guard, ?_, settles.readers, settles.writers⟩
  have balance := settles.balance.frame_right {guard.descriptor}
  rw [add_zero, ← live_putGuard settles.sound vacant guard] at balance
  exact balance

variable {holding : Holding}

/-- A guard is given back to its slot. -/
theorem traces_giveBack (sound : session.Sound) (has : holding.HasGuard) :
    (giveBack holding).Traces session fun calls outcome next =>
      outcome = .ok () ∧ Settles holding.owned session calls next := by
  obtain ⟨device, slot, lent⟩ := holding
  obtain ⟨guard, same⟩ := has
  have equal : device = .guard guard := same
  subst equal
  exact traces_storeGuard sound slot guard

/-- What is left of a guard after its release is given back. -/
theorem traces_settle (sound : session.Sound) (has : holding.HasGuard) :
    (settle holding).Traces session fun calls outcome next =>
      outcome = .ok () ∧ Settles holding.left session calls next := by
  unfold settle Holding.left
  split
  · exact traces_giveBack sound has
  · obtain ⟨guard, same⟩ := has
    rw [same]
    exact .pure ⟨rfl, .nothing sound⟩

section Readers

/-- A reader that is dropped releases what it holds, and then that is settled. -/
theorem traces_dropReader_of {slot : String} {spec : List Event → Except Fault Unit → Session → Prop}
    (vacant : session.readers.get? slot = none →
      spec [] (.ok ()) { session with readers := session.readers.erase slot })
    (settled : ∀ reader, session.readers.get? slot = some reader → ∀ calls machine, reader.device.Releases calls →
      (settle reader.device).Traces { session with readers := session.readers.erase slot, machine := machine }
        fun more outcome next => spec (calls ++ more) outcome next) :
    (dropReader slot).Traces session spec := by
  apply Traces.get_bind
  apply Traces.modify_bind rfl
  cases found : session.readers.get? slot with
  | none => exact .pure (vacant found)
  | some reader =>
    have released : (onMachine reader.drop).Traces { session with readers := session.readers.erase slot }
        fun calls outcome next => outcome = .ok () ∧ reader.device.Releases calls ∧
          ∃ machine, next = { session with readers := session.readers.erase slot, machine := machine } := by
      apply traces_onMachine
      refine reader.device.traces_release.mono ?_
      rintro calls outcome next ⟨ended, releases⟩
      exact ⟨ended, releases, next, rfl⟩
    apply released.outcome_bind
    · rintro calls _ _ ⟨rfl, releases, machine, rfl⟩
      change (settle reader.device >>= fun _ => pure ()).Traces _ _
      rw [bind_pure_unit]
      exact settled reader found calls machine releases
    · intro middle
      rfl

/-- What a dropped reader holds is settled. -/
theorem traces_dropReader (sound : session.Sound) (slot : String) :
    (dropReader slot).Traces session fun calls outcome next => outcome = .ok () ∧
      Settles ((session.readers.get? slot).elim 0 fun reader => reader.device.owned)
        { session with readers := session.readers.erase slot } calls next := by
  have rest := sound.eraseReader slot
  apply traces_dropReader_of
  · intro vacant
    rw [vacant]
    exact ⟨rfl, .nothing rest⟩
  · intro reader found calls machine releases
    have has := sound.hasGuard_reader found
    rw [found]
    refine (traces_settle (rest.withMachine machine) has).mono ?_
    rintro more outcome next ⟨ended, settles⟩
    exact ⟨ended, { settles with balance := (settles.after (has.balance_of_releases releases)).balance }⟩

/-- What a reader holds comes to live in the slot where the reader is stored. -/
theorem traces_storeReader (sound : session.Sound) (slot : String) {reader : Reader Holding}
    (has : reader.device.HasGuard) :
    (storeReader slot reader).Traces session fun calls outcome next => outcome = .ok () ∧ next.Sound ∧
      Balance (session.live + reader.device.owned) calls [] [] next.live := by
  apply (traces_dropReader sound slot).bind_success
  intro calls middle settles
  apply Traces.of_still rfl
  rw [List.append_nil]
  have vacant : middle.readers.get? slot = none := by
    rw [settles.readers]
    exact Slots.get?_erase_self _ _
  have balance := settles.balance.frame_right reader.device.owned
  rw [← live_eraseReader sound slot, ← live_putReader settles.sound vacant] at balance
  exact ⟨rfl, settles.sound.putReader slot has, balance⟩

end Readers

section Writers

/--
A writer that is dropped makes the writes of its last flush and releases what it holds, and then that is
settled unless the flush has panicked.
-/
theorem traces_dropWriter_of {slot : String} {spec : List Event → Except Fault Unit → Session → Prop}
    (vacant : session.writers.get? slot = none →
      spec [] (.ok ()) { session with writers := session.writers.erase slot })
    (settled : ∀ writer, session.writers.get? slot = some writer → ∀ writes closes holding machine,
      writer.device.Remains (holding, machine) → (∀ call ∈ writes, writer.device.device.Allows call) →
      writer.device.Releases closes →
        (settle holding).Traces { session with writers := session.writers.erase slot, machine := machine }
          fun more outcome next => spec (writes ++ closes ++ more) outcome next)
    (panicked : ∀ calls next, spec calls (.error .panic) next) : (dropWriter slot).Traces session spec := by
  apply Traces.get_bind
  apply Traces.modify_bind rfl
  cases found : session.writers.get? slot with
  | none => exact .pure (vacant found)
  | some writer =>
    have holds : Writer.Holds writer.device (writer, session.machine) := writer.device.remains_self session.machine
    apply Traces.beside_bind
    · exact Writer.traces_drop holds
    · rintro _ ended last ⟨ends, kept, writes, closes, rfl, allowed, releases⟩
      rcases ends with rfl | rfl
      · change (settle last.1.device >>= fun _ => pure ()).Traces _ _
        rw [bind_pure_unit]
        exact settled writer found writes closes last.1.device last.2 kept allowed releases
      · exact .fault (panicked _ _)
    · intro own middle
      rfl

/-- What a dropped writer holds is settled after its last flush, unless the flush panics. -/
theorem traces_dropWriter (sound : session.Sound) (slot : String) :
    (dropWriter slot).Traces session fun calls outcome next => outcome = .error .panic ∨ outcome = .ok () ∧
      Settles ((session.writers.get? slot).elim 0 fun writer => writer.device.owned)
        { session with writers := session.writers.erase slot } calls next := by
  have rest := sound.eraseWriter slot
  apply traces_dropWriter_of
  · intro vacant
    rw [vacant]
    exact .inr ⟨rfl, .nothing rest⟩
  · intro writer found writes closes holding machine kept allowed releases
    have has := sound.hasGuard_writer found
    have same : holding = writer.device := has.eq_of_remains kept
    rw [found, same]
    refine (traces_settle (rest.withMachine machine) has).mono ?_
    rintro more outcome next ⟨ended, settles⟩
    have wrote := Balance.of_harmless fun call member => has.harmless (allowed call member)
    have balance := (settles.after (wrote.trans (has.balance_of_releases releases))).balance
    exact .inr ⟨ended, { settles with balance := balance }⟩
  · exact fun _ _ => .inl rfl

/-- A panic remains one when what a writer holds is released after it. -/
theorem release_panic_fst (holding : Holding) (session : Session) :
    ((onMachine (Resource.release holding) >>= fun _ => Act.fault .panic : Act Session Unit) session).1 =
      .error .panic := by
  rw [Act.bind_apply, onMachine, Act.focus_apply]
  rcases holding.release_fst session.machine with fine | panicked
  · rw [fine]
    rfl
  · rw [panicked]

/-- A panic that goes on after a release makes the calls of the release. -/
theorem traces_release_panic (holding : Holding) (session : Session) :
    (onMachine (Resource.release holding) >>= fun _ => Act.fault .panic : Act Session Unit).Traces session
      fun _ outcome _ => outcome = .error .panic := by
  have released : (onMachine (Resource.release holding)).Traces session fun _ _ _ => True := by
    apply traces_onMachine
    exact holding.traces_release.mono fun _ _ _ _ => trivial
  have ends : (onMachine (Resource.release holding) >>= fun _ => Act.fault .panic :
      Act Session Unit).Traces session fun _ _ _ => True :=
    released.bind (fun _ _ _ _ => .fault trivial) fun _ _ _ _ => trivial
  refine ends.known.mono ?_
  rintro more outcome next ⟨ended, _⟩
  have panicked := release_panic_fst holding session
  rwa [ended] at panicked

/-- A writer is stored once the one that was there is dropped, unless that panics. -/
theorem traces_storeWriter_of {slot : String} {writer : Writer Holding} {head : List Event → Session → Prop}
    {spec : List Event → Except Fault Unit → Session → Prop}
    (dropped : (dropWriter slot).Traces session fun calls outcome next =>
      outcome = .error .panic ∨ outcome = .ok () ∧ head calls next)
    (stored : ∀ calls next, head calls next →
      spec calls (.ok ()) { next with writers := next.writers.put slot writer })
    (panicked : ∀ calls next, spec calls (.error .panic) next) : (storeWriter slot writer).Traces session spec := by
  apply dropped.outcome_bind
  · rintro calls _ middle (rfl | ⟨rfl, headed⟩)
    · refine (traces_release_panic writer.device middle).mono ?_
      rintro more _ next rfl
      exact panicked _ next
    · apply Traces.of_still rfl
      rw [List.append_nil]
      exact stored calls middle headed
  · exact release_panic_fst writer.device

/-- What a writer holds comes to live in the slot where the writer is stored, unless there is a panic. -/
theorem traces_storeWriter (sound : session.Sound) (slot : String) {writer : Writer Holding}
    (has : writer.device.HasGuard) :
    (storeWriter slot writer).Traces session fun calls outcome next => outcome = .error .panic ∨
      outcome = .ok () ∧ next.Sound ∧ Balance (session.live + writer.device.owned) calls [] [] next.live := by
  apply traces_storeWriter_of (traces_dropWriter sound slot)
  · intro calls middle settles
    have vacant : middle.writers.get? slot = none := by
      rw [settles.writers]
      exact Slots.get?_erase_self _ _
    have balance := settles.balance.frame_right writer.device.owned
    rw [← live_eraseWriter sound slot, ← live_putWriter settles.sound vacant] at balance
    exact .inr ⟨rfl, settles.sound.putWriter slot has, balance⟩
  · exact fun _ _ => .inl rfl

end Writers

end Session

end LinuxCalls
