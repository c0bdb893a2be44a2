/-
This file shows what a cursor promises as the device of a stream. A cursor accepts and supplies only
what lies between its position and the end of its mapping.
-/

import LinuxCalls.Proofs.Stream.Account

namespace LinuxCalls.Cursor

/-- A write to a cursor without bytes, without permission or without space changes nothing. -/
theorem write_apply (bytes : Bytes) (state : Cursor × Machine) :
    write bytes state =
      if bytes = [] then (.ok 0, state)
      else if ¬ state.1.mapping.isWritable then (.error (.errno Errno.accessDenied), state)
      else if state.1.left = 0 then (.error (.errno Errno.noSpace), state)
      else
        (.ok (min state.1.left bytes.length),
          { state.1 with position := state.1.position + min state.1.left bytes.length },
          { state.2 with
            memory := state.2.memory.store state.1.address (bytes.take (min state.1.left bytes.length)) }) := by
  rw [write]
  split
  · rfl
  · simp only [Act.bind_apply, Act.get_apply]
    split
    · rfl
    · split <;> rfl

/-- A write to a cursor accepts at most the bytes offered. -/
theorem bounded_write : Sink.Bounded Cursor fun _ => True := by
  intro offered state _
  change ∃ answer next, (write offered).attempt state = (.ok answer, next) ∧
    (∀ count, answer = .ok count → count ≤ offered.length) ∧ True
  have wrote := write_apply offered state
  by_cases nothing : offered = []
  · rw [if_pos nothing] at wrote
    exact ⟨.ok 0, state, (Act.attempt_eq_ok _ _ _ _).mpr wrote,
      fun count same => Except.ok.inj same ▸ Nat.zero_le _, trivial⟩
  · rw [if_neg nothing] at wrote
    by_cases locked : ¬ state.1.mapping.isWritable
    · rw [if_pos locked] at wrote
      exact ⟨.error _, state, (Act.attempt_eq_error _ _ _ _).mpr wrote, nofun, trivial⟩
    · rw [if_neg locked] at wrote
      by_cases full : state.1.left = 0
      · rw [if_pos full] at wrote
        exact ⟨.error _, state, (Act.attempt_eq_error _ _ _ _).mpr wrote, nofun, trivial⟩
      · rw [if_neg full] at wrote
        exact ⟨.ok _, _, (Act.attempt_eq_ok _ _ _ _).mpr wrote,
          fun count same => Except.ok.inj same ▸ Nat.min_le_right _ _, trivial⟩

/-- The bytes from a cursor's position to the end of its mapping. -/
def rest (state : Cursor × Machine) : Bytes := state.2.memory.load state.1.address state.1.left

/-- A cursor hands out the bytes from its position to the end. -/
theorem handsOut : Source.HandsOut Cursor rest fun _ => True := by
  rintro buffer ⟨cursor, machine⟩ -
  let count := min cursor.left buffer.length
  let loaded := machine.memory.load cursor.address count
  let next : Cursor := { cursor with position := cursor.position + count }
  have size : loaded.length = count := Memory.length_load _ _ _
  have fits : loaded.length ≤ buffer.length := size ▸ Nat.min_le_right _ _
  have left : next.left = cursor.left - count := Nat.sub_add_eq _ _ _
  have inside : count ≤ cursor.left := Nat.min_le_left _ _
  refine ⟨Bytes.overlay loaded buffer, count, (next, machine), ?_, Bytes.length_overlay _ _, size ▸ fits,
    ?_, ?_, ?_, trivial⟩
  · change (Except.ok (⟨Bytes.overlay loaded buffer, .ok loaded.length⟩ : Reading), (next, machine)) = _
    rw [size]
  · have address : next.address = cursor.address + count := (Nat.add_assoc _ _ _).symm
    calc (Bytes.overlay loaded buffer).take count ++ rest (next, machine)
      _ = loaded ++ machine.memory.load (cursor.address + count) (cursor.left - count) := by
        rw [← size, Bytes.take_overlay fits, size, rest, left, address]
      _ = machine.memory.load cursor.address (count + (cursor.left - count)) :=
        (Memory.load_add _ _ _ _).symm
      _ = rest (cursor, machine) := by rw [Nat.add_sub_cancel' inside, rest]
  · intro asks some
    have room := List.length_pos_iff.mpr asks
    have more : 0 < cursor.left := by
      have positive := List.length_pos_iff.mpr some
      rwa [rest, Memory.length_load] at positive
    exact Nat.lt_min.mpr ⟨more, room⟩
  · intro some
    change next.left < cursor.left
    omega

end LinuxCalls.Cursor
