/-
This file follows the bytes through the operations of a writer. For every account of the sink it says
how far the account grows and what stays in the buffer, also when an operation fails half way.
-/

import LinuxCalls.Proofs.Stream.Account

namespace LinuxCalls.Writer

variable {δ : Type} [Sink δ] {accepted : δ × Machine → Bytes → Prop}

/-- A drain goes on from where it stands, and it reports success exactly at the end. -/
theorem drainFrom_account (account : Sink.Accounts δ accepted) (bytes before : Bytes) {written : Nat}
    {state : δ × Machine} (inside : written ≤ bytes.length)
    (kept : accepted state (before ++ bytes.take written)) :
    ∃ reached ending next, drainFrom bytes written state = (.ok (reached, ending), next) ∧
      reached ≤ bytes.length ∧ (ending = .ok () ↔ reached = bytes.length) ∧
      accepted next (before ++ bytes.take reached) := by
  -- Each round that goes on leaves fewer bytes behind it.
  induction left : bytes.length - written using Nat.strongRecOn generalizing written state with
  | ind size step =>
    subst left
    unfold drainFrom
    by_cases finished : written = bytes.length
    · rw [if_pos finished]
      exact ⟨written, .ok (), state, rfl, inside, by simp [finished], kept⟩
    · have notBeyond : ¬ bytes.length < written := by omega
      obtain ⟨answer, next, asked, answered⟩ := account (bytes.drop written) state _ kept
      rw [if_neg finished, dif_neg notBeyond, Act.bind_of_ok _ asked]
      cases answered with
      | error kept =>
        exact ⟨written, _, next, rfl, inside, by simp [finished], kept⟩
      | @count count _ bounded kept =>
        rw [List.length_drop] at bounded
        by_cases none : count = 0
        · subst none
          rw [List.take_zero, List.append_nil] at kept
          exact ⟨written, .error Errno.transferFailed, next, rfl, inside, by simp [finished], kept⟩
        · rw [List.append_assoc, ← List.take_add] at kept
          have fewer : bytes.length - (written + count) < bytes.length - written := by omega
          have continued := step _ fewer (by omega) kept rfl
          simpa only [dif_neg none] using continued

/-- A flush drains the buffer. What it has not reached stays, and everything stays if the drain does not come back. -/
theorem flush_apply (state : Writer δ × Machine) : (flush : Act (Writer δ × Machine) Unit) state =
    match drainFrom state.1.buffer 0 (state.1.device, state.2) with
    | (.ok (reached, ending), next) =>
      Act.ofExcept ending (⟨next.1, state.1.buffer.drop reached, state.1.capacity⟩, next.2)
    | (.error fault, next) => (.error fault, (⟨next.1, state.1.buffer, state.1.capacity⟩, next.2)) := by
  simp only [flush, self, onDevice, setBuffer, Act.bind_apply, Act.get_apply, Act.pure_apply, Act.focus_apply]
  rcases drainFrom state.1.buffer 0 (state.1.device, state.2) with ⟨fault | ⟨reached, ending⟩, next⟩ <;> rfl

/-- A flush sends the bytes at the front of the buffer, and it succeeds exactly if it sends them all. -/
theorem flush_account (account : Sink.Accounts δ accepted) {state : Writer δ × Machine}
    {before : Bytes} (kept : accepted (state.1.device, state.2) before) :
    ∃ result next count, (flush : Act (Writer δ × Machine) Unit).attempt state = (.ok result, next) ∧
      count ≤ state.1.buffer.length ∧ (result = .ok () ↔ count = state.1.buffer.length) ∧
      next.1.buffer = state.1.buffer.drop count ∧ next.1.capacity = state.1.capacity ∧
      accepted (next.1.device, next.2) (before ++ state.1.buffer.take count) := by
  obtain ⟨writer, machine⟩ := state
  have empty : accepted (writer.device, machine) (before ++ writer.buffer.take 0) := by
    rwa [List.take_zero, List.append_nil]
  obtain ⟨count, ending, ⟨device, last⟩, drained, inside, whole, sent⟩ :=
    drainFrom_account account writer.buffer before (Nat.zero_le _) empty
  have flushed : (flush : Act (Writer δ × Machine) Unit) (writer, machine) =
      Act.ofExcept ending (⟨device, writer.buffer.drop count, writer.capacity⟩, last) := by
    rw [flush_apply, drained]
  exact ⟨ending, (⟨device, writer.buffer.drop count, writer.capacity⟩, last), count,
    Act.attempt_of_ofExcept flushed, inside, whole, rfl, rfl, sent⟩

/-- A write past the buffer sends the bytes at the front, and it succeeds exactly if it sends them all. -/
theorem writeThrough_account (account : Sink.Accounts δ accepted) (bytes : Bytes) {before : Bytes}
    {state : δ × Machine} (kept : accepted state before) :
    ∃ result next count, (writeThrough bytes).attempt state = (.ok result, next) ∧
      count ≤ bytes.length ∧ (result = .ok () ↔ count = bytes.length) ∧
      accepted next (before ++ bytes.take count) := by
  induction size : bytes.length using Nat.strongRecOn generalizing bytes before state with
  | ind size step =>
    subst size
    unfold writeThrough
    by_cases nothing : bytes = []
    · subst nothing
      exact ⟨.ok (), state, 0, rfl, Nat.zero_le _, by simp, by rwa [List.take_nil, List.append_nil]⟩
    · rw [if_neg nothing]
      have positive := List.length_pos_iff.mpr nothing
      obtain ⟨answer, next, asked, answered⟩ := account bytes state _ kept
      cases answered with
      | @error error _ kept =>
        have failed := (Act.attempt_eq_error _ _ _ _).mp asked
        refine ⟨.error error, next, 0, ?_, Nat.zero_le _, by simp; omega, by simpa using kept⟩
        rw [Act.attempt_eq_error, Act.bind_of_fault _ failed]
      | @count count _ bounded kept =>
        have wrote := (Act.attempt_eq_ok _ _ _ _).mp asked
        by_cases none : count = 0
        · subst none
          refine ⟨.error Errno.transferFailed, next, 0, ?_, Nat.zero_le _, by simp; omega, by simpa using kept⟩
          rw [Act.attempt_eq_error, Act.bind_of_ok _ wrote]
          rfl
        · have notBeyond : ¬ bytes.length < count := by omega
          have fewer : (bytes.drop count).length < bytes.length := by
            rw [List.length_drop]
            omega
          obtain ⟨result, last, more, rest, inside, whole, sent⟩ := step _ fewer _ kept rfl
          rw [List.length_drop] at inside whole
          rw [List.append_assoc, ← List.take_add] at sent
          refine ⟨result, last, count + more, ?_, by omega, ?_, sent⟩
          · rw [← rest]
            apply Act.attempt_congr
            rw [Act.bind_of_ok _ wrote, dif_neg none, dif_neg notBeyond]
          · rw [whole]
            omega

/--
What a write of some bytes adds to the stream, which is the account followed by the buffer. All of
the bytes are added, or nothing because the older bytes could not be flushed, or what the sink has
accepted of the bytes after all older ones.
-/
inductive Adds (accepted : δ × Machine → Bytes → Prop) (bytes stream : Bytes)
    (state : Writer δ × Machine) : Except Errno Unit → Writer δ × Machine → Bytes → Prop
  | all {next : Writer δ × Machine} {sent : Bytes} (kept : accepted (next.1.device, next.2) sent)
      (whole : sent ++ next.1.buffer = stream ++ bytes) : Adds accepted bytes stream state (.ok ()) next bytes
  | nothing {error : Errno} {next : Writer δ × Machine} {sent : Bytes}
      (flushed : flush.attempt state = (.ok (.error error), next))
      (kept : accepted (next.1.device, next.2) sent) (whole : sent ++ next.1.buffer = stream) :
      Adds accepted bytes stream state (.error error) next []
  | part {error : Errno} {next : Writer δ × Machine} {count : Nat} (short : count < bytes.length)
      (kept : accepted (next.1.device, next.2) (stream ++ bytes.take count))
      (empty : next.1.buffer = []) :
      Adds accepted bytes stream state (.error error) next (bytes.take count)

/-- The second half of a write: bytes that the buffer could never hold go past it. -/
def place (capacity : Nat) (bytes : Bytes) : Act (Writer δ × Machine) Unit :=
  if capacity ≤ bytes.length then onDevice (writeThrough bytes)
  else do setBuffer ((← self).buffer ++ bytes)

/-- A write flushes what does not leave room for it and then places its bytes. -/
theorem writeAll_apply (bytes : Bytes) (state : Writer δ × Machine) :
    (writeAll bytes : Act (Writer δ × Machine) Unit) state =
      if state.1.capacity < state.1.buffer.length + bytes.length then
        (flush >>= fun _ => place state.1.capacity bytes) state
      else (place state.1.capacity bytes : Act (Writer δ × Machine) Unit) state := by
  simp only [writeAll, self, Act.bind_apply, Act.get_apply, Act.pure_apply]
  split <;> rfl

/-- A write looks at the writer and then flushes and places, or only places. -/
theorem writeAll_eq (bytes : Bytes) :
    (writeAll bytes : Act (Writer δ × Machine) Unit) = self >>= fun writer =>
      if writer.capacity < writer.buffer.length + bytes.length then
        flush >>= fun _ => place writer.capacity bytes
      else place writer.capacity bytes := by
  funext state
  rw [writeAll_apply]
  simp only [self, Act.bind_apply, Act.get_apply, Act.pure_apply]
  split <;> rfl

/-- Bytes go past an empty buffer only, and otherwise they wait behind the buffered ones. -/
theorem place_account (account : Sink.Accounts δ accepted) (bytes : Bytes) (capacity : Nat)
    (origin : Writer δ × Machine) {before : Bytes} {state : Writer δ × Machine}
    (kept : accepted (state.1.device, state.2) before)
    (room : capacity ≤ bytes.length → state.1.buffer = []) :
    ∃ result next part, (place capacity bytes).attempt state = (.ok result, next) ∧
      next.1.capacity = state.1.capacity ∧
      Adds accepted bytes (before ++ state.1.buffer) origin result next part := by
  obtain ⟨writer, machine⟩ := state
  by_cases large : capacity ≤ bytes.length
  · obtain ⟨result, ⟨device, last⟩, count, wrote, inside, whole, sent⟩ :=
      writeThrough_account account bytes kept
    have placed : (place capacity bytes).attempt (writer, machine) =
        (.ok result, ({ writer with device := device }, last)) := by
      rw [place, if_pos large, onDevice, Act.attempt_focus, Act.focus_apply, wrote]
    have empty : writer.buffer = [] := room large
    cases result with
    | ok _ =>
      have all := whole.mp rfl
      subst all
      rw [List.take_length] at sent
      exact ⟨.ok (), _, bytes, placed, rfl, .all sent (by simp [empty])⟩
    | error error =>
      have short : count < bytes.length := by
        have notAll : count ≠ bytes.length := fun all => by simpa using whole.mpr all
        omega
      exact ⟨.error error, _, bytes.take count, placed, rfl,
        .part short (by simpa [empty] using sent) empty⟩
  · refine ⟨.ok (), ({ writer with buffer := writer.buffer ++ bytes }, machine), bytes, ?_, rfl,
      .all kept (by simp)⟩
    rw [Act.attempt_eq_ok, place, if_neg large]
    rfl

/-- A write keeps the account and the buffer together one stream. -/
theorem writeAll_account (account : Sink.Accounts δ accepted) (bytes : Bytes)
    {state : Writer δ × Machine} {before : Bytes} (kept : accepted (state.1.device, state.2) before) :
    ∃ result next part, (writeAll bytes).attempt state = (.ok result, next) ∧
      next.1.capacity = state.1.capacity ∧
      Adds accepted bytes (before ++ state.1.buffer) state result next part := by
  by_cases crowded : state.1.capacity < state.1.buffer.length + bytes.length
  · obtain ⟨result, next, count, flushed, inside, whole, left, same, sent⟩ := flush_account account kept
    cases result with
    | error error =>
      refine ⟨.error error, next, [], ?_, same, .nothing flushed sent (by rw [left]; simp)⟩
      rw [Act.attempt_eq_error] at flushed ⊢
      rw [writeAll_apply, if_pos crowded, Act.bind_of_fault _ flushed]
    | ok _ =>
      have all := whole.mp rfl
      rw [all, List.drop_length] at left
      rw [all, List.take_length] at sent
      obtain ⟨result, last, part, placed, same', adds⟩ := place_account account bytes
        state.1.capacity state sent fun _ => left
      rw [left, List.append_nil] at adds
      refine ⟨result, last, part, ?_, same'.trans same, adds⟩
      rw [Act.attempt_eq_ok] at flushed
      rw [← placed]
      apply Act.attempt_congr
      rw [writeAll_apply, if_pos crowded, Act.bind_of_ok _ flushed]
  · have room : state.1.capacity ≤ bytes.length → state.1.buffer = [] := fun large =>
      List.eq_nil_of_length_eq_zero (by omega)
    obtain ⟨result, last, part, placed, same, adds⟩ := place_account account bytes
      state.1.capacity state kept room
    refine ⟨result, last, part, ?_, same, adds⟩
    rw [← placed]
    apply Act.attempt_congr
    rw [writeAll_apply, if_neg crowded]

end LinuxCalls.Writer
