/-
This file shows that a cursor over a mapping is a bounded array of bytes with a position. Whatever reads,
writes and moves follow one another, each ends as it does on the array, no index leaves the mapping, and
nothing but the mapping's bytes and the position changes.
-/

import Mathlib.Algebra.Group.Nat.Defs
import LinuxCalls.Proofs.Run
import LinuxCalls.Proofs.Stream.CursorDevice

namespace LinuxCalls

/-- An array of bytes with a position that is never beyond the end. -/
structure BoundedArray where
  bytes : Bytes
  position : Nat
  writable : Bool
  inside : position ≤ bytes.length

namespace Cursor

/-- A call on a cursor. -/
inductive Call
  | read (buffer : Bytes)
  | write (bytes : Bytes)
  | moveTo (position : Nat)

/-- What a call gives: the caller's buffer with a count, a count, or nothing. -/
inductive Answer
  | read (reading : Reading)
  | wrote (count : Nat)
  | moved

end Cursor

namespace BoundedArray

/-- The bytes from the position to the end. -/
def rest (array : BoundedArray) : Bytes := array.bytes.drop array.position

/-- The number of bytes from the position to the end. -/
def left (array : BoundedArray) : Nat := array.bytes.length - array.position

/-- This function moves the position, but never beyond the end. -/
def moveTo (array : BoundedArray) (position : Nat) : BoundedArray :=
  { array with position := min position array.bytes.length, inside := Nat.min_le_right _ _ }

/-- This function moves the position past at most the given number of bytes. -/
def skip (array : BoundedArray) (count : Nat) : BoundedArray :=
  { array with
    position := array.position + min array.left count
    inside := by
      have inside := array.inside
      simp only [left]
      omega }

/-- This function lays bytes over the array from the position on, as far as they fit. -/
def overwrite (array : BoundedArray) (bytes : Bytes) : BoundedArray :=
  let part := bytes.take array.left
  { array with
    bytes := array.bytes.take array.position ++ part ++ array.bytes.drop (array.position + part.length)
    inside := by simp [array.inside] }

/-- What a call gives, and the array after it. A call that fails leaves the array alone. -/
def answer (array : BoundedArray) : Cursor.Call → Except Errno Cursor.Answer × BoundedArray
  | .read buffer =>
    let bytes := array.rest.take buffer.length
    (.ok (.read ⟨Bytes.overlay bytes buffer, .ok (min array.left buffer.length)⟩), array.skip buffer.length)
  | .write bytes =>
    if bytes = [] then (.ok (.wrote 0), array)
    else if ¬ array.writable then (.error Errno.accessDenied, array)
    else if array.position = array.bytes.length then (.error Errno.noSpace, array)
    else (.ok (.wrote (min array.left bytes.length)), (array.overwrite bytes).skip bytes.length)
  | .moveTo position => (.ok .moved, array.moveTo position)

/-- What calls in turn give, and the array after them. -/
def answers (array : BoundedArray) : List Cursor.Call → List (Except Errno Cursor.Answer) × BoundedArray
  | [] => ([], array)
  | call :: calls =>
    let (result, next) := array.answer call
    let (results, last) := next.answers calls
    (result :: results, last)

/-- The bytes of a part, unless the part is not inside. -/
def part (array : BoundedArray) (start length : Nat) : Option Bytes :=
  if start + length ≤ array.bytes.length then some ((array.bytes.drop start).take length) else none

/-- The bytes that are laid over the array fit behind the position. -/
theorem position_add_le (array : BoundedArray) (bytes : Bytes) :
    array.position + (bytes.take array.left).length ≤ array.bytes.length := by
  have inside := array.inside
  simp only [left, List.length_take]
  omega

end BoundedArray

namespace Memory

/-- The front of a load is a shorter load. -/
theorem take_load (memory : Memory) (address length count : Nat) :
    (memory.load address length).take count = memory.load address (min count length) := by
  by_cases within : count ≤ length
  · have split : length = count + (length - count) := by omega
    rw [split, load_add, List.take_left' (length_load _ _ _), ← split, Nat.min_eq_left within]
  · rw [List.take_of_length_le (by simp; omega), Nat.min_eq_right (by omega)]

/-- The rest of a load is a load from further on. -/
theorem drop_load (memory : Memory) (address length count : Nat) :
    (memory.load address length).drop count = memory.load (address + count) (length - count) := by
  by_cases within : count ≤ length
  · have split : length = count + (length - count) := by omega
    rw [split, load_add, List.drop_left' (length_load _ _ _), ← split]
  · rw [List.drop_of_length_le (by simp; omega), Nat.sub_eq_zero_of_le (by omega)]
    rfl

/-- A load of a range whose inside was stored finds the stored bytes between the old ones. -/
theorem load_store_inside (memory : Memory) (address length position : Nat) (bytes : Bytes)
    (inside : position + bytes.length ≤ length) :
    (memory.store (address + position) bytes).load address length =
      (memory.load address length).take position ++ bytes ++
        (memory.load address length).drop (position + bytes.length) := by
  obtain ⟨more, rfl⟩ := Nat.exists_eq_add_of_le inside
  have before : (memory.store (address + position) bytes).load address position =
      memory.load address position :=
    memory.load_store_of_disjoint (.inl (Nat.le_refl _))
  have behind : (memory.store (address + position) bytes).load (address + (position + bytes.length)) more =
      memory.load (address + (position + bytes.length)) more :=
    memory.load_store_of_disjoint (.inr (by omega))
  rw [take_load, drop_load, Nat.min_eq_left (by omega), Nat.add_sub_cancel_left, load_add, load_add, before,
    load_store, behind]

end Memory

/-- The bytes of a part of a byte string. A part that is not inside is a panic. -/
def Bytes.part {σ : Type} (bytes : Bytes) (first last : Nat) : Act σ Bytes :=
  if first ≤ last ∧ last ≤ bytes.length then return (bytes.take last).drop first else Act.panic

/-- The front that a copy lays over another front. Fronts that differ in length are a panic. -/
def Bytes.copyFront {σ : Type} (place source : Bytes) (count : Nat) : Act σ Bytes := do
  let covered ← place.part 0 count
  let copied ← source.part 0 count
  if covered.length = copied.length then return copied else Act.panic

/-- A sum of two lengths. A sum that no word holds is a panic. -/
def lengthSum {σ : Type} (first second : Nat) : Act σ Nat :=
  if first + second < UInt64.size then return first + second else Act.panic

/-- The bytes of a mapping are as many as its length. -/
@[simp] theorem Mapping.length_contents (mapping : Mapping) (memory : Memory) :
    (mapping.contents memory).length = mapping.length := Memory.length_load _ _ _

/-- A part that is inside is given. -/
theorem Bytes.part_of_inside {σ : Type} {bytes : Bytes} {first last : Nat} (ordered : first ≤ last)
    (inside : last ≤ bytes.length) :
    (bytes.part first last : Act σ Bytes) = pure ((bytes.take last).drop first) :=
  if_pos ⟨ordered, inside⟩

/-- A front that both byte strings have is copied. -/
theorem Bytes.copyFront_of_le {σ : Type} {place source : Bytes} {count : Nat}
    (covers : count ≤ place.length) (supplies : count ≤ source.length) :
    (place.copyFront source count : Act σ Bytes) = pure (source.take count) := by
  have same : (place.take count).length = (source.take count).length := by
    simp [Nat.min_eq_left covers, Nat.min_eq_left supplies]
  simp only [copyFront, part_of_inside (Nat.zero_le _) covers, part_of_inside (Nat.zero_le _) supplies,
    List.drop_zero, pure_bind, same, if_true]

/-- A sum that a word holds is given. -/
theorem lengthSum_of_lt {σ : Type} {first second : Nat} (small : first + second < UInt64.size) :
    (lengthSum first second : Act σ Nat) = pure (first + second) := if_pos small

/-- The bytes in a part of the mapping, with every index and every sum checked. -/
def Mapping.checkedSlice (mapping : Mapping) (start length : Nat) : Sys (Option Bytes) := do
  if Mapping.partEnd start length ≤ mapping.length then
    let machine ← Act.get
    let last ← lengthSum start length
    let bytes ← (mapping.contents machine.memory).part start last
    return some bytes
  else return none

namespace Cursor

/-- This action reads into a buffer, with every index and every sum checked. -/
def checkedRead (buffer : Bytes) : Act (Cursor × Machine) Reading := do
  let (cursor, machine) ← Act.get
  let rest ← (cursor.mapping.contents machine.memory).part cursor.position cursor.mapping.length
  let count := min rest.length buffer.length
  let bytes ← buffer.copyFront rest count
  let position ← lengthSum cursor.position count
  Act.modify fun (cursor, machine) => ({ cursor with position := position }, machine)
  return ⟨Bytes.overlay bytes buffer, .ok count⟩

/-- This action writes bytes, with every index and every sum checked. -/
def checkedWrite (bytes : Bytes) : Act (Cursor × Machine) Nat := do
  if bytes = [] then return 0
  let (cursor, machine) ← Act.get
  if ¬ cursor.mapping.isWritable then Act.fail Errno.accessDenied
  else
    let rest ← (cursor.mapping.contents machine.memory).part cursor.position cursor.mapping.length
    if rest = [] then Act.fail Errno.noSpace
    else
      let count := min rest.length bytes.length
      let stored ← rest.copyFront bytes count
      let position ← lengthSum cursor.position count
      Act.modify fun (cursor, machine) =>
        ({ cursor with position := position },
          { machine with memory := machine.memory.store cursor.address stored })
      return count

/-- This action makes a call. -/
def Call.run : Call → Act (Cursor × Machine) Answer
  | .read buffer => return .read (← Source.read buffer)
  | .write bytes => return .wrote (← Sink.write bytes)
  | .moveTo position => do
    Act.modify fun (cursor, machine) => (cursor.moveTo position, machine)
    return .moved

/-- This action makes a call, with every index and every sum checked. -/
def Call.runChecked : Call → Act (Cursor × Machine) Answer
  | .read buffer => return .read (← checkedRead buffer)
  | .write bytes => return .wrote (← checkedWrite bytes)
  | .moveTo position => Call.run (.moveTo position)

/-- As many bytes lie behind the position as are left. -/
@[simp] theorem length_rest (cursor : Cursor) (machine : Machine) :
    (rest (cursor, machine)).length = cursor.left := Memory.length_load _ _ _

section Checked

variable {cursor : Cursor} {machine : Machine} (small : cursor.mapping.length < UInt64.size)
  (inside : cursor.position ≤ cursor.mapping.length)

include inside

/-- The bytes behind a position inside the mapping are a part of it. -/
theorem part_contents {σ : Type} :
    ((cursor.mapping.contents machine.memory).part cursor.position cursor.mapping.length : Act σ Bytes) =
      pure (rest (cursor, machine)) := by
  rw [Bytes.part_of_inside inside (by simp), List.take_of_length_le (by simp), Mapping.contents,
    Memory.drop_load]
  rfl

include small

/-- A position that moves by at most what is left is held by a word. -/
theorem sum_lt (count : Nat) : cursor.position + min cursor.left count < UInt64.size := by
  simp only [left]
  omega

/-- A read inside the mapping meets every check. -/
theorem checkedRead_apply (buffer : Bytes) :
    checkedRead buffer (cursor, machine) = Source.read buffer (cursor, machine) := by
  have supplies : min cursor.left buffer.length ≤ (rest (cursor, machine)).length := by
    rw [length_rest]
    exact Nat.min_le_left _ _
  simp only [checkedRead, Act.bind_apply, Act.get_apply, part_contents inside, Act.pure_apply, length_rest,
    Bytes.copyFront_of_le (Nat.min_le_right _ _) supplies, lengthSum_of_lt (sum_lt small inside _),
    Act.modify_apply, Source.read, read, Memory.length_load]
  rw [rest, Memory.take_load, Nat.min_eq_left (Nat.min_le_left _ _)]

/-- A write inside the mapping meets every check. -/
theorem checkedWrite_apply (bytes : Bytes) :
    checkedWrite bytes (cursor, machine) = write bytes (cursor, machine) := by
  have covers : min cursor.left bytes.length ≤ (rest (cursor, machine)).length := by
    rw [length_rest]
    exact Nat.min_le_left _ _
  have empty : rest (cursor, machine) = [] ↔ cursor.left = 0 := by
    rw [← length_rest cursor machine, List.length_eq_zero_iff]
  rw [checkedWrite, write]
  split
  · rfl
  · simp only [Act.bind_apply, Act.get_apply]
    split
    · rfl
    · simp only [Act.bind_apply, part_contents inside, Act.pure_apply, empty]
      split
      · rfl
      · simp only [Act.bind_apply, length_rest, Bytes.copyFront_of_le covers (Nat.min_le_right _ _),
          Act.pure_apply, lengthSum_of_lt (sum_lt small inside _)]
        rfl

/-- A call on a cursor inside its mapping meets every check. -/
theorem Call.runChecked_apply (call : Call) :
    call.runChecked (cursor, machine) = call.run (cursor, machine) := by
  cases call with
  | read buffer => simp only [runChecked, run, Act.bind_apply, checkedRead_apply small inside]
  | write bytes =>
    simp only [runChecked, run, Act.bind_apply, checkedWrite_apply small inside]
    rfl
  | moveTo position => rfl

end Checked

end Cursor

namespace BoundedArray

/-- The array that a cursor inside its mapping views. -/
def ofCursor (cursor : Cursor) (memory : Memory) (inside : cursor.position ≤ cursor.mapping.length) :
    BoundedArray where
  bytes := cursor.mapping.contents memory
  position := cursor.position
  writable := cursor.mapping.isWritable
  inside := by simpa using inside

/-- A cursor that views an array, in a machine where only the bytes of the mapping have changed. -/
structure IsView (mapping : Mapping) (origin : Machine) (array : BoundedArray) (cursor : Cursor)
    (machine : Machine) : Prop where
  mapping_eq : cursor.mapping = mapping
  contents : mapping.contents machine.memory = array.bytes
  position : cursor.position = array.position
  writable : mapping.isWritable = array.writable
  elsewhere : ∀ place, place < mapping.address.toNat ∨ mapping.address.toNat + mapping.length ≤ place →
    machine.memory.byte place = origin.memory.byte place
  machine_eq : machine = { origin with memory := machine.memory }

/-- A cursor views its own array. -/
theorem isView_ofCursor (cursor : Cursor) (machine : Machine)
    (inside : cursor.position ≤ cursor.mapping.length) :
    IsView cursor.mapping machine (ofCursor cursor machine.memory inside) cursor machine :=
  ⟨rfl, rfl, rfl, rfl, fun _ _ => rfl, rfl⟩

namespace IsView

variable {mapping : Mapping} {origin : Machine} {array : BoundedArray} {cursor : Cursor} {machine : Machine}
  (view : IsView mapping origin array cursor machine)

include view

/-- The mapping is as long as the array. -/
theorem length_eq : cursor.mapping.length = array.bytes.length := by
  rw [← view.contents, Mapping.length_contents, view.mapping_eq]

/-- The cursor is inside its mapping. -/
theorem position_le : cursor.position ≤ cursor.mapping.length := by
  rw [view.length_eq, view.position]
  exact array.inside

/-- The cursor has as many bytes left as the array. -/
theorem left_eq : cursor.left = array.left := by
  rw [Cursor.left, view.length_eq, view.position]
  rfl

/-- The cursor has the same bytes before it as the array. -/
theorem rest_eq : Cursor.rest (cursor, machine) = array.rest := by
  rw [rest, ← view.contents, ← view.position, ← view.mapping_eq, Mapping.contents, Memory.drop_load]
  rfl

/-- A cursor that is moved views the array whose position is moved. -/
theorem moved (position : Nat) :
    IsView mapping origin (array.moveTo position) (cursor.moveTo position) machine :=
  { view with position := by simp only [Cursor.moveTo, moveTo, view.length_eq] }

/-- A cursor that moves past some bytes views the array with the moved position. -/
theorem skipped (count : Nat) :
    IsView mapping origin (array.skip count)
      { cursor with position := cursor.position + min cursor.left count } machine :=
  { view with position := by simp only [skip, view.left_eq, view.position] }

/-- A cursor views the array that bytes were laid over once they are stored. -/
theorem stored (bytes : Bytes) :
    IsView mapping origin (array.overwrite bytes) cursor
      { machine with memory := machine.memory.store cursor.address (bytes.take cursor.left) } := by
  have fits := array.position_add_le bytes
  rw [← view.left_eq, ← view.position, ← view.length_eq, view.mapping_eq] at fits
  have address : cursor.address = mapping.address.toNat + cursor.position := by
    rw [Cursor.address, view.mapping_eq]
  refine { view with contents := ?_, elsewhere := fun place outside => ?_, machine_eq := ?_ }
  · simp only [overwrite, ← view.contents, ← view.position, ← view.left_eq, Mapping.contents, address]
    exact machine.memory.load_store_inside _ _ _ _ fits
  · rw [← view.elsewhere place outside, Memory.byte_store, address]
    split
    · rw [List.getElem?_eq_none (by omega), Option.getD_none]
    · rfl
  · rw [view.machine_eq]

/-- A call on the cursor ends as on the array, and the cursor views the array after it. -/
theorem answered (call : Cursor.Call) : ∃ next,
    call.run.attempt (cursor, machine) = (.ok (array.answer call).1, next) ∧
      IsView mapping origin (array.answer call).2 next.1 next.2 := by
  cases call with
  | read buffer =>
    have read : machine.memory.load cursor.address (min cursor.left buffer.length) =
        array.rest.take buffer.length := by
      rw [← view.rest_eq, Cursor.rest, Memory.take_load, Nat.min_comm]
    refine ⟨({ cursor with position := cursor.position + min cursor.left buffer.length }, machine), ?_,
      view.skipped buffer.length⟩
    rw [answer, ← read, ← view.left_eq]
    change (_, _) = (_, _)
    simp only [Memory.length_load]
  | write bytes =>
    have full : array.position = array.bytes.length ↔ cursor.left = 0 := by
      have inside := array.inside
      rw [view.left_eq, left]
      omega
    have writable : cursor.mapping.isWritable = array.writable := by rw [view.mapping_eq, view.writable]
    simp only [Cursor.Call.run, Sink.write, Act.attempt, Act.bind_apply, Cursor.write_apply, answer,
      ← writable, ← view.left_eq, full]
    by_cases empty : bytes = []
    · simp only [if_pos empty]
      exact ⟨_, rfl, view⟩
    · by_cases locked : ¬ cursor.mapping.isWritable
      · simp only [if_neg empty, if_pos locked]
        exact ⟨_, rfl, view⟩
      · by_cases none : cursor.left = 0
        · simp only [if_neg empty, if_neg locked, if_pos none]
          exact ⟨_, rfl, view⟩
        · simp only [if_neg empty, if_neg locked, if_neg none]
          have whole : bytes.take (min cursor.left bytes.length) = bytes.take cursor.left := by
            rw [← List.take_take, List.take_length]
          rw [whole]
          exact ⟨_, rfl, (view.stored bytes).skipped bytes.length⟩
  | moveTo position => exact ⟨_, rfl, view.moved position⟩

/-- A part of the mapping is the part of the array, even where the end of the part is no word. -/
theorem slice_eq (small : mapping.length < UInt64.size - 1) (start length : Nat) :
    mapping.slice machine.memory start length = array.part start length := by
  have inside : Mapping.partEnd start length ≤ mapping.length ↔ start + length ≤ mapping.length := by
    rw [Mapping.partEnd]
    omega
  have size : mapping.length = array.bytes.length := by rw [← view.mapping_eq, view.length_eq]
  rw [Mapping.slice, part, ← size]
  simp only [inside]
  split
  · rw [← view.contents, Mapping.contents, Memory.drop_load, Memory.take_load, Nat.min_eq_left (by omega)]
  · rfl

/-- A part of the mapping meets every check. -/
theorem checkedSlice_apply (small : mapping.length < UInt64.size - 1) (start length : Nat) :
    mapping.checkedSlice start length machine = (.ok (array.part start length), machine) := by
  rw [← view.slice_eq small, Mapping.checkedSlice, Mapping.slice]
  split
  · rename_i inside
    rw [Mapping.partEnd] at inside
    have sum : start + length < UInt64.size := by omega
    have last : start + length ≤ (mapping.contents machine.memory).length := by
      rw [Mapping.length_contents]
      omega
    simp only [Act.bind_apply, Act.get_apply, lengthSum_of_lt sum, Act.pure_apply,
      Bytes.part_of_inside (Nat.le_add_right _ _) last]
    rw [Mapping.contents, Memory.take_load, Memory.drop_load, Nat.min_eq_left (by omega),
      Nat.add_sub_cancel_left]
  · rfl

/-- Calls in turn end as on the array, and the cursor views the array after them. -/
theorem each_answered (small : mapping.length < UInt64.size) (calls : List Cursor.Call) : ∃ after,
    Act.each Cursor.Call.run calls (cursor, machine) = (.ok (array.answers calls).1, after) ∧
      Act.each Cursor.Call.runChecked calls (cursor, machine) = (.ok (array.answers calls).1, after) ∧
      IsView mapping origin (array.answers calls).2 after.1 after.2 := by
  induction calls generalizing array cursor machine with
  | nil => exact ⟨(cursor, machine), rfl, rfl, view⟩
  | cons call calls step =>
    obtain ⟨middle, called, next⟩ := view.answered call
    obtain ⟨after, each, checked, last⟩ := step next
    have same : call.runChecked (cursor, machine) = call.run (cursor, machine) :=
      Cursor.Call.runChecked_apply (view.mapping_eq.symm ▸ small) view.position_le call
    refine ⟨after, ?_, ?_, last⟩
    · rw [Act.each, Act.bind_of_ok _ called, Act.bind_of_ok _ each]
      rfl
    · rw [Act.each, Act.bind_of_ok _ ((Act.attempt_congr same).trans called), Act.bind_of_ok _ checked]
      rfl

end IsView

end BoundedArray

/--
A cursor answers reads, writes and moves as an array with a position does. No call panics, no index leaves
the mapping, and the position stays inside. Only the bytes of the mapping change in the machine, so no call
asks the kernel. A part of the mapping is given exactly if it is inside, even where its end is no word.
-/
theorem Cursor.each_eq_answers {cursor : Cursor} (small : cursor.mapping.length < 2 ^ 63)
    (inside : cursor.position ≤ cursor.mapping.length) (machine : Machine) (calls : List Cursor.Call) :
    let mapping := cursor.mapping
    let outcome := (BoundedArray.ofCursor cursor machine.memory inside).answers calls
    ∃ after : Cursor × Machine,
      Act.each Call.run calls (cursor, machine) = (.ok outcome.1, after) ∧
      Act.each Call.runChecked calls (cursor, machine) = (.ok outcome.1, after) ∧
      BoundedArray.IsView mapping machine outcome.2 after.1 after.2 ∧
      after.1.position ≤ mapping.length ∧
      ∀ start length, mapping.slice after.2.memory start length = outcome.2.part start length ∧
        mapping.checkedSlice start length after.2 = (.ok (outcome.2.part start length), after.2) := by
  intro mapping outcome
  have view := BoundedArray.isView_ofCursor cursor machine inside
  obtain ⟨after, called, checked, last⟩ := view.each_answered (Nat.lt_trans small (by decide)) calls
  have smaller : mapping.length < UInt64.size - 1 := Nat.lt_trans small (by decide)
  have inside := last.position_le
  rw [last.mapping_eq] at inside
  exact ⟨after, called, checked, last, inside, fun start length =>
    ⟨last.slice_eq smaller start length, last.checkedSlice_apply smaller start length⟩⟩

/-- Three bytes take a write, refuse one at their end and give two bytes from the second one on. -/
theorem Cursor.each_eq_answers_three_bytes :
    let cursor := Cursor.start ⟨4096, 3, Protection.read.union Protection.write, .copied⟩
    let calls : List Call := [.write [7, 8], .write [], .moveTo 9, .write [1], .moveTo 1, .read [5, 5, 5, 5]]
    cursor.mapping.length < 2 ^ 63 ∧ cursor.position ≤ cursor.mapping.length ∧
    ∃ after, Act.each Call.run calls (cursor, Machine.start ⟨[]⟩ .off) =
      (.ok [.ok (.wrote 2), .ok (.wrote 0), .ok .moved, .error Errno.noSpace, .ok .moved,
        .ok (.read ⟨[8, 0, 5, 5], .ok 2⟩)], after) ∧
      after.1.position = 3 ∧ cursor.mapping.slice after.2.memory (2 ^ 64 - 1) 2 = none := by
  intro cursor calls
  have small : cursor.mapping.length < 2 ^ 63 := by decide
  have inside : cursor.position ≤ cursor.mapping.length := by decide
  obtain ⟨after, called, -, view, -, part⟩ := each_eq_answers small inside (Machine.start ⟨[]⟩ .off) calls
  have beyond : cursor.mapping.slice after.2.memory (2 ^ 64 - 1) 2 = none := by
    rw [(part _ _).1, BoundedArray.part, ← view.length_eq, view.mapping_eq]
    rfl
  have ended :
      ((BoundedArray.ofCursor cursor (Machine.start ⟨[]⟩ .off).memory inside).answers calls).2.position = 3 := by
    with_unfolding_all rfl
  exact ⟨small, inside, after, called.trans (by cbv), view.position.trans ended, beyond⟩

end LinuxCalls
