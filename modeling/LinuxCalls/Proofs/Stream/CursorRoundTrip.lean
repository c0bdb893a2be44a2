/-
This file follows bytes through a writer into a mapping and back through a reader. Wherever the end of
the mapping falls, in the buffer, past it or on a boundary, the mapping holds the bytes in their order as
far as they fit, and the first byte too many is an error.
-/

import LinuxCalls.Proofs.Stream.Chunking
import LinuxCalls.Proofs.Stream.WriterEnd

namespace LinuxCalls

namespace Memory

/-- Bytes stored in a row are stored as one. -/
theorem store_append (memory : Memory) (address : Nat) (first second : Bytes) :
    memory.store address (first ++ second) =
      (memory.store address first).store (address + first.length) second := by
  have same (place : Nat) : (memory.store address (first ++ second)).byte place =
      ((memory.store address first).store (address + first.length) second).byte place := by
    rw [byte_store, byte_store, byte_store]
    by_cases before : place < address
    · have outside : ¬ address ≤ place := Nat.not_le.mpr before
      rw [if_neg outside, if_neg outside, if_neg (by omega)]
    · rw [if_pos (Nat.not_lt.mp before), if_pos (Nat.not_lt.mp before)]
      by_cases early : place - address < first.length
      · rw [if_neg (by omega), List.getElem?_append_left early]
      · have shift : place - address - first.length = place - (address + first.length) := by omega
        rw [if_pos (by omega), List.getElem?_append_right (Nat.not_lt.mp early), shift,
          List.getElem?_eq_none (Nat.not_lt.mp early), Option.getD_none]
  exact congrArg Memory.mk (funext same)

/-- Memory that holds bytes from an address on and is elsewhere as before. -/
structure Places (before after : Memory) (address : Nat) (bytes : Bytes) : Prop where
  held : after.load address bytes.length = bytes
  elsewhere : ∀ place, place < address ∨ address + bytes.length ≤ place →
    after.byte place = before.byte place

/-- A store places its bytes. -/
theorem places_store (memory : Memory) (address : Nat) (bytes : Bytes) :
    memory.Places (memory.store address bytes) address bytes where
  held := memory.load_store address bytes
  elsewhere place outside := by
    rw [byte_store]
    split
    · rw [List.getElem?_eq_none (by omega), Option.getD_none]
    · rfl

end Memory

namespace Cursor

/-- The state of a cursor after it has taken the bytes that fit. -/
def taking (bytes : Bytes) (state : Cursor × Machine) : Cursor × Machine :=
  let part := bytes.take state.1.left
  ({ state.1 with position := state.1.position + part.length },
    { state.2 with memory := state.2.memory.store state.1.address part })

/-- What becomes of bytes that a cursor is to take: there is no space if they do not fit. -/
def verdict (cursor : Cursor) (bytes : Bytes) : Except Errno Unit :=
  if bytes.length ≤ cursor.left then .ok () else .error Errno.noSpace

/-- No bytes always fit. -/
theorem verdict_nil (cursor : Cursor) : cursor.verdict [] = .ok () := if_pos (Nat.zero_le _)

/-- No bytes but none fit a full cursor. -/
theorem verdict_of_full {cursor : Cursor} {bytes : Bytes} (some : bytes ≠ []) (full : cursor.left = 0) :
    cursor.verdict bytes = .error Errno.noSpace := by
  have positive := List.length_pos_iff.mpr some
  exact if_neg (by omega)

/-- The cursor stays on its mapping. -/
@[simp] theorem mapping_taking (bytes : Bytes) (state : Cursor × Machine) :
    (taking bytes state).1.mapping = state.1.mapping := rfl

/-- What a cursor takes is not left any more. -/
@[simp] theorem left_taking (bytes : Bytes) (state : Cursor × Machine) :
    (taking bytes state).1.left = state.1.left - bytes.length := by
  change state.1.mapping.length - (state.1.position + (bytes.take state.1.left).length) = _
  rw [List.length_take, left]
  omega

/-- A cursor without space takes nothing. -/
theorem taking_of_full {state : Cursor × Machine} (full : state.1.left = 0) (bytes : Bytes) :
    taking bytes state = state := by
  rw [taking, full, List.take_zero, Memory.store_nil]
  rfl

/-- A cursor that is given no bytes stays as it is. -/
theorem taking_nil (state : Cursor × Machine) : taking [] state = state := by
  rw [taking, List.take_nil, Memory.store_nil]
  rfl

/-- Bytes in a row are taken as one. -/
theorem taking_append (first second : Bytes) (state : Cursor × Machine) :
    taking (first ++ second) state = taking second (taking first state) := by
  have parts : (first ++ second).take state.1.left =
      first.take state.1.left ++ second.take (taking first state).1.left := by
    rw [List.take_append, left_taking]
  have address : (taking first state).1.address = state.1.address + (first.take state.1.left).length :=
    (Nat.add_assoc _ _ _).symm
  rw [taking, parts, Memory.store_append, List.length_append, ← Nat.add_assoc, ← address]
  rfl

/-- A cursor takes of the bytes those that fit. -/
theorem taking_take (bytes : Bytes) (state : Cursor × Machine) :
    taking (bytes.take (min state.1.left bytes.length)) state = taking bytes state := by
  have part : (bytes.take (min state.1.left bytes.length)).take state.1.left = bytes.take state.1.left := by
    rw [List.take_take]
    rw [List.take_eq_take_iff]
    omega
  rw [taking, part, taking]

/-- A write to a writable cursor with space takes what fits. -/
theorem write_of_space {bytes : Bytes} {state : Cursor × Machine} (writable : state.1.mapping.isWritable = true)
    (some : bytes ≠ []) (space : state.1.left ≠ 0) :
    (Sink.write bytes : Act (Cursor × Machine) Nat) state =
      (.ok (min state.1.left bytes.length), taking bytes state) := by
  have least : bytes.take (min state.1.left bytes.length) = bytes.take state.1.left := by
    rw [List.take_eq_take_iff]
    omega
  change write bytes state = _
  rw [write_apply, if_neg some, if_neg (not_not_intro writable), if_neg space, least, taking,
    List.length_take]

/-- A write of bytes to a writable cursor without space reports that there is none. -/
theorem write_of_full {bytes : Bytes} {state : Cursor × Machine} (writable : state.1.mapping.isWritable = true)
    (some : bytes ≠ []) (full : state.1.left = 0) :
    (Sink.write bytes : Act (Cursor × Machine) Nat) state = (.error (.errno Errno.noSpace), state) := by
  change write bytes state = _
  rw [write_apply, if_neg some, if_neg (not_not_intro writable), if_pos full]

/-- The verdict on bytes is that on the ones behind those that a write has taken. -/
theorem verdict_drop {bytes : Bytes} {state : Cursor × Machine} :
    (taking bytes state).1.verdict (bytes.drop (min state.1.left bytes.length)) = state.1.verdict bytes := by
  have same : (bytes.drop (min state.1.left bytes.length)).length ≤ (taking bytes state).1.left ↔
      bytes.length ≤ state.1.left := by
    rw [left_taking, List.length_drop]
    omega
  unfold verdict
  simp only [same]

/-- What a write has left of the bytes changes nothing any more. -/
theorem taking_drop (bytes : Bytes) (state : Cursor × Machine) :
    taking (bytes.drop (min state.1.left bytes.length)) (taking bytes state) = taking bytes state := by
  rw [← taking_take bytes state, ← taking_append, List.take_append_drop, taking_take]

end Cursor

namespace Writer

open Cursor (taking verdict)

/-- A write past the buffer puts into the mapping what fits, and it fails if something is left over. -/
theorem writeThrough_cursor (bytes : Bytes) (state : Cursor × Machine)
    (writable : state.1.mapping.isWritable = true) :
    writeThrough bytes state = Act.ofExcept (state.1.verdict bytes) (taking bytes state) := by
  -- The first round takes all that fits, so the next one has nothing to do or meets a full cursor.
  induction size : bytes.length using Nat.strongRecOn generalizing bytes state with
  | ind size step =>
    subst size
    unfold writeThrough
    by_cases nothing : bytes = []
    · subst nothing
      rw [if_pos rfl, Cursor.taking_nil, Cursor.verdict_nil]
      rfl
    · rw [if_neg nothing]
      have positive := List.length_pos_iff.mpr nothing
      by_cases full : state.1.left = 0
      · rw [Act.bind_of_fault _ (Cursor.write_of_full writable nothing full), Cursor.taking_of_full full,
          Cursor.verdict_of_full nothing full]
        rfl
      · have some : ¬ min state.1.left bytes.length = 0 := by omega
        have inside : ¬ bytes.length < min state.1.left bytes.length := by omega
        have fewer : (bytes.drop (min state.1.left bytes.length)).length < bytes.length := by
          rw [List.length_drop]
          omega
        rw [Act.bind_of_ok _ (Cursor.write_of_space writable nothing full), dif_neg some, dif_neg inside,
          step _ fewer _ _ (by exact writable) rfl, Cursor.verdict_drop, Cursor.taking_drop]

/-- A drain puts into the mapping what fits and says how far it came. -/
theorem drainFrom_cursor (bytes : Bytes) {written : Nat} (inside : written ≤ bytes.length)
    (state : Cursor × Machine) (writable : state.1.mapping.isWritable = true) :
    drainFrom bytes written state =
      (.ok (written + min state.1.left (bytes.length - written), state.1.verdict (bytes.drop written)),
        taking (bytes.drop written) state) := by
  induction left : bytes.length - written using Nat.strongRecOn generalizing written state with
  | ind size step =>
    subst left
    unfold drainFrom
    by_cases finished : written = bytes.length
    · rw [if_pos finished, finished, List.drop_length, Cursor.taking_nil, Cursor.verdict_nil, Nat.sub_self,
        Nat.min_zero]
      rfl
    · have notBeyond : ¬ bytes.length < written := by omega
      have size : (bytes.drop written).length = bytes.length - written := List.length_drop
      have nothing : bytes.drop written ≠ [] := by
        rw [← List.length_pos_iff]
        omega
      rw [if_neg finished, dif_neg notBeyond]
      by_cases full : state.1.left = 0
      · have failed : (Sink.write (bytes.drop written)).attempt state = (.ok (.error Errno.noSpace), state) :=
          (Act.attempt_eq_error _ _ _ _).mpr (Cursor.write_of_full writable nothing full)
        rw [Act.bind_of_ok _ failed, Cursor.taking_of_full full, Cursor.verdict_of_full nothing full, full,
          Nat.zero_min]
        rfl
      · have wrote : (Sink.write (bytes.drop written)).attempt state =
            (.ok (.ok (min state.1.left (bytes.length - written))), taking (bytes.drop written) state) := by
          rw [Act.attempt_eq_ok, ← size]
          exact Cursor.write_of_space writable nothing full
        have some : ¬ min state.1.left (bytes.length - written) = 0 := by omega
        have fewer : bytes.length - (written + min state.1.left (bytes.length - written)) <
            bytes.length - written := by omega
        have onwards := step _ fewer (by omega) (taking (bytes.drop written) state) writable rfl
        rw [← List.drop_drop, ← size, Cursor.verdict_drop, Cursor.taking_drop, Cursor.left_taking,
          size] at onwards
        rw [Act.bind_of_ok _ wrote]
        dsimp only
        rw [dif_neg some, onwards]
        congr 3
        omega

/-- A flush puts into the mapping what fits and keeps the rest. -/
theorem flush_cursor (state : Writer Cursor × Machine)
    (writable : state.1.device.mapping.isWritable = true) :
    flush state = Act.ofExcept (state.1.device.verdict state.1.buffer)
      (⟨(taking state.1.buffer (state.1.device, state.2)).1, state.1.buffer.drop state.1.device.left,
        state.1.capacity⟩, (taking state.1.buffer (state.1.device, state.2)).2) := by
  obtain ⟨writer, machine⟩ := state
  have drained := drainFrom_cursor writer.buffer (Nat.zero_le _) (writer.device, machine) writable
  have rest : writer.buffer.drop (min writer.device.left writer.buffer.length) =
      writer.buffer.drop writer.device.left := by
    by_cases fits : writer.device.left ≤ writer.buffer.length
    · rw [Nat.min_eq_left fits]
    · rw [Nat.min_eq_right (by omega), List.drop_length, List.drop_eq_nil_of_le (by omega)]
  rw [Nat.zero_add, Nat.sub_zero, List.drop_zero] at drained
  simp only [flush_apply, drained, rest]

/-- Nothing is missing of a stream that is partly in the mapping and partly in the writer's buffer. -/
def Intact (origin : Cursor × Machine) (stream : Bytes) (state : Writer Cursor × Machine) : Prop :=
  ∃ sent, (state.1.device, state.2) = taking sent origin ∧ sent.length ≤ origin.1.left ∧
    sent ++ state.1.buffer = stream

/-- The writer's cursor has taken of a stream what fits, and the stream's end if all of it fits. -/
def Settled (origin : Cursor × Machine) (stream : Bytes) (state : Writer Cursor × Machine) : Prop :=
  (state.1.device, state.2) = taking stream origin ∧ (stream.length ≤ origin.1.left → state.1.buffer = [])

/-- A settled stream holds as a whole if it fits. -/
theorem Settled.intact {origin : Cursor × Machine} {stream : Bytes} {state : Writer Cursor × Machine}
    (settled : Settled origin stream state) (fits : stream.length ≤ origin.1.left) :
    Intact origin stream state :=
  ⟨stream, settled.1, fits, by rw [settled.2 fits, List.append_nil]⟩

theorem Settled.append {origin : Cursor × Machine} {stream : Bytes} {state : Writer Cursor × Machine}
    (settled : Settled origin stream state) (excess : ¬ stream.length ≤ origin.1.left) (more : Bytes) :
    Settled origin (stream ++ more) state := by
  have full : (taking stream origin).1.left = 0 := by
    rw [Cursor.left_taking]
    omega
  refine ⟨?_, fun fits => ?_⟩
  · rw [Cursor.taking_append, Cursor.taking_of_full full, settled.1]
  · rw [List.length_append] at fits
    omega

/-- This action writes chunks one after the other and flushes. The first error ends it. -/
def pour {δ : Type} [Sink δ] : List Bytes → Act (Writer δ × Machine) Unit
  | [] => flush
  | chunk :: chunks => do
    writeAll chunk
    pour chunks

section Pouring

variable {origin : Cursor × Machine} (writable : origin.1.mapping.isWritable = true)

include writable

/-- A flush settles the stream, and it succeeds exactly if all of it fits. -/
theorem flush_settles {stream : Bytes} {state : Writer Cursor × Machine} (intact : Intact origin stream state) :
    ∃ next, flush state = Act.ofExcept (origin.1.verdict stream) next ∧ Settled origin stream next := by
  obtain ⟨sent, at', fits, rfl⟩ := intact
  have place : state.1.device = (taking sent origin).1 := congrArg Prod.fst at'
  have left : state.1.device.left = origin.1.left - sent.length := by rw [place, Cursor.left_taking]
  have same : state.1.device.verdict state.1.buffer = origin.1.verdict (sent ++ state.1.buffer) := by
    have fitting : state.1.buffer.length ≤ state.1.device.left ↔
        (sent ++ state.1.buffer).length ≤ origin.1.left := by
      rw [left, List.length_append]
      omega
    unfold verdict
    simp only [fitting]
  have flushed := flush_cursor state (by rw [place]; exact writable)
  rw [same] at flushed
  refine ⟨_, flushed, ?_, fun whole => ?_⟩
  · rw [Cursor.taking_append, ← at']
  · rw [List.length_append] at whole
    exact List.drop_eq_nil_of_le (by omega)

/-- Bytes that are placed behind the stream either hold with it, or the stream with them does not fit. -/
theorem place_intact (capacity : Nat) (bytes : Bytes) {stream : Bytes} {state : Writer Cursor × Machine}
    (intact : Intact origin stream state) (room : capacity ≤ bytes.length → state.1.buffer = []) :
    ∃ next, place capacity bytes state = (.ok (), next) ∧ Intact origin (stream ++ bytes) next ∨
      ¬ (stream ++ bytes).length ≤ origin.1.left ∧
        place capacity bytes state = (.error (.errno Errno.noSpace), next) ∧
        Settled origin (stream ++ bytes) next := by
  obtain ⟨sent, at', fits, rfl⟩ := intact
  by_cases large : capacity ≤ bytes.length
  · have empty := room large
    rw [empty, List.append_nil]
    have wrote := writeThrough_cursor bytes (state.1.device, state.2) (by rw [at']; exact writable)
    have left : state.1.device.left = origin.1.left - sent.length := by
      rw [← Cursor.left_taking, ← at']
    let after := taking bytes (state.1.device, state.2)
    have reached : after = taking (sent ++ bytes) origin := by
      rw [Cursor.taking_append, ← at']
    refine ⟨(⟨after.1, state.1.buffer, state.1.capacity⟩, after.2), ?_⟩
    rw [place, if_pos large, onDevice, Act.focus_apply, wrote, verdict]
    by_cases enough : bytes.length ≤ state.1.device.left
    · rw [if_pos enough]
      refine .inl ⟨rfl, sent ++ bytes, reached, ?_, ?_⟩
      · rw [List.length_append]
        omega
      · change sent ++ bytes ++ state.1.buffer = _
        rw [empty, List.append_nil]
    · have excess : ¬ (sent ++ bytes).length ≤ origin.1.left := by
        rw [List.length_append]
        omega
      rw [if_neg enough]
      exact .inr ⟨excess, rfl, reached, fun whole => absurd whole excess⟩
  · refine ⟨({ state.1 with buffer := state.1.buffer ++ bytes }, state.2), .inl ⟨?_, sent, at', fits, ?_⟩⟩
    · rw [place, if_neg large]
      rfl
    · exact (List.append_assoc _ _ _).symm

/-- A write either adds its bytes to the stream, or the stream with them does not fit. -/
theorem writeAll_intact (bytes : Bytes) {stream : Bytes} {state : Writer Cursor × Machine}
    (intact : Intact origin stream state) :
    ∃ next, writeAll bytes state = (.ok (), next) ∧ Intact origin (stream ++ bytes) next ∨
      ¬ (stream ++ bytes).length ≤ origin.1.left ∧
        writeAll bytes state = (.error (.errno Errno.noSpace), next) ∧
        Settled origin (stream ++ bytes) next := by
  rw [writeAll_apply]
  by_cases crowded : state.1.capacity < state.1.buffer.length + bytes.length
  · rw [if_pos crowded]
    obtain ⟨middle, flushed, settled⟩ := flush_settles writable intact
    unfold verdict at flushed
    by_cases fits : stream.length ≤ origin.1.left
    · rw [if_pos fits] at flushed
      rw [Act.bind_of_ok _ flushed]
      exact place_intact writable state.1.capacity bytes (settled.intact fits) fun _ => settled.2 fits
    · have excess : ¬ (stream ++ bytes).length ≤ origin.1.left := by
        rw [List.length_append]
        omega
      rw [if_neg fits] at flushed
      rw [Act.bind_of_fault _ flushed]
      exact ⟨middle, .inr ⟨excess, rfl, settled.append fits bytes⟩⟩
  · rw [if_neg crowded]
    have room : state.1.capacity ≤ bytes.length → state.1.buffer = [] := fun large =>
      List.eq_nil_of_length_eq_zero (by omega)
    exact place_intact writable state.1.capacity bytes intact room

/-- A run of writes and a flush settles all bytes, and it succeeds exactly if all of them fit. -/
theorem pour_settles (chunks : List Bytes) {stream : Bytes} {state : Writer Cursor × Machine}
    (intact : Intact origin stream state) :
    ∃ next, pour chunks state = Act.ofExcept (origin.1.verdict (stream ++ chunks.flatten)) next ∧
      Settled origin (stream ++ chunks.flatten) next := by
  induction chunks generalizing stream state with
  | nil =>
    obtain ⟨next, flushed, settled⟩ := flush_settles writable intact
    rw [List.flatten_nil, List.append_nil]
    exact ⟨next, flushed, settled⟩
  | cons chunk chunks step =>
    rw [List.flatten_cons, ← List.append_assoc]
    obtain ⟨middle, ⟨wrote, still⟩ | ⟨excess, failed, settled⟩⟩ := writeAll_intact writable chunk intact
    · obtain ⟨next, poured, settled⟩ := step still
      exact ⟨next, by rw [pour, Act.bind_of_ok _ wrote, poured], settled⟩
    · have longer : ¬ (stream ++ chunk ++ chunks.flatten).length ≤ origin.1.left := by
        rw [List.length_append]
        omega
      refine ⟨middle, ?_, settled.append excess _⟩
      rw [pour, Act.bind_of_fault _ failed, Cursor.verdict, if_neg longer]
      rfl

end Pouring

/-- The end of a writer stores nothing more once its stream is settled. -/
theorem memory_drop_of_settled {origin : Cursor × Machine} {stream : Bytes} {state : Writer Cursor × Machine}
    (writable : origin.1.mapping.isWritable = true) (settled : Settled origin stream state) :
    (drop state).2.2.memory = state.2.memory := by
  have place : state.1.device = (taking stream origin).1 := congrArg Prod.fst settled.1
  have still : taking state.1.buffer (state.1.device, state.2) = (state.1.device, state.2) := by
    by_cases fits : stream.length ≤ origin.1.left
    · rw [settled.2 fits, Cursor.taking_nil]
    · have full : state.1.device.left = 0 := by
        rw [place, Cursor.left_taking]
        omega
      exact Cursor.taking_of_full full _
  have flushed := flush_cursor state (by rw [place]; exact writable)
  rw [still] at flushed
  have ended : (flushAtEnd state).2.2.memory = state.2.memory := by
    rw [flushAtEnd_apply, Act.bind_of_ok _ (Act.attempt_of_ofExcept flushed)]
    cases state.1.device.verdict state.1.buffer with
    | ok _ => rfl
    | error error => exact (Log.tell_keeps _ _ _).1
  rw [← ended, drop, Act.releasing, Act.bind_apply, Act.outcome_apply]
  rcases (flushAtEnd state).1 with (_ | _ | _) | _ <;> rfl

end Writer

/-- A reader over a cursor fills a buffer with the bytes from the position on, if there are enough. -/
theorem Reader.readExact_cursor (capacity : Nat) (out : Bytes) (cursor : Cursor) (machine : Machine)
    (enough : out.length ≤ cursor.left) :
    ∃ next, readExact out (withCapacity capacity cursor, machine) =
      (.ok ⟨machine.memory.load cursor.address out.length, .ok ()⟩, next) := by
  let bytes := Cursor.rest (cursor, machine)
  have ahead : Ahead Cursor.rest (fun _ => True) bytes (withCapacity capacity cursor, machine) :=
    ahead_withCapacity capacity trivial
  obtain ⟨result, next, called, met, -⟩ := readExact_ahead Cursor.handsOut out ahead
  have front : bytes.take out.length = machine.memory.load cursor.address out.length := by
    have split : cursor.left = out.length + (cursor.left - out.length) := by omega
    change (machine.memory.load cursor.address cursor.left).take out.length = _
    rw [split, Memory.load_add]
    exact List.take_left' (Memory.length_load _ _ _)
  have whole : out.length ≤ bytes.length := by
    change _ ≤ (machine.memory.load cursor.address cursor.left).length
    rwa [Memory.length_load]
  rw [Demand.expected, if_pos whole, front] at met
  cases met with
  | full =>
    rw [Act.attempt_eq_ok, Demand.call, Call.run, Act.bind_apply] at called
    cases read : readExact out (withCapacity capacity cursor, machine) with
    | mk outcome last =>
      rw [read] at called
      cases outcome with
      | error fault => cases called
      | ok collected =>
        cases called
        exact ⟨next, rfl⟩

/--
Bytes that are written to a mapping through a writer and flushed are in the mapping in their order, and
nothing else in memory changes. If they fit, every call succeeds and a reader gets them back. If they do
not fit, the first error says that there is no space, and the mapping holds those that fit. The end of
the writer makes no difference to any of this.
-/
theorem Writer.pour_roundTrip {mapping : Mapping} (writable : mapping.isWritable = true) {position : Nat}
    (inside : position ≤ mapping.length) (capacity : Nat) (chunks : List Bytes) (machine : Machine) :
    let cursor := (Cursor.start mapping).moveTo position
    let first := mapping.address.toNat + position
    let room := mapping.length - position
    let data := chunks.flatten
    ∃ result after, pour chunks (withCapacity capacity cursor, machine) = (result, after) ∧
      (data.length ≤ room → result = .ok () ∧
        ∀ later ∈ [after.2, (drop after).2.2], machine.memory.Places later.memory first data ∧
          ∀ (size : Nat) (out : Bytes), out.length = data.length → ∃ next,
            Reader.readExact out (Reader.withCapacity size cursor, later) = (.ok ⟨data, .ok ()⟩, next)) ∧
      (room < data.length → result = .error (.errno Errno.noSpace) ∧
        ∀ later ∈ [after.2, (drop after).2.2],
          machine.memory.Places later.memory first (data.take room)) := by
  intro cursor first room data
  have place : cursor.position = position := Nat.min_eq_left inside
  have left : cursor.left = room := by rw [Cursor.left, place]; rfl
  have address : cursor.address = first := by rw [Cursor.address, place]; rfl
  have begun : Intact (cursor, machine) [] (withCapacity capacity cursor, machine) :=
    ⟨[], (Cursor.taking_nil _).symm, Nat.zero_le _, rfl⟩
  have writable' : (cursor, machine).1.mapping.isWritable = true := writable
  obtain ⟨after, poured, settled⟩ := pour_settles writable' chunks begun
  rw [List.nil_append] at poured settled
  -- The end of the writer keeps the memory, so both machines hold the same.
  have stored : ∀ later ∈ [after.2, (drop after).2.2],
      later.memory = machine.memory.store first (data.take room) := by
    have held : after.2.memory = machine.memory.store first (data.take room) := by
      rw [← address, ← left]
      exact congrArg (fun state => state.2.memory) settled.1
    intro later member
    rcases List.mem_cons.mp member with rfl | member
    · exact held
    · rw [List.mem_singleton.mp member, memory_drop_of_settled writable' settled, held]
  refine ⟨_, after, Prod.ext rfl ?_, fun fits => ⟨?_, fun later member => ⟨?_, fun size out same => ?_⟩⟩,
    fun excess => ⟨?_, fun later member => ?_⟩⟩
  · rw [poured]
    cases Cursor.verdict cursor chunks.flatten <;> rfl
  · rw [poured, Cursor.verdict, if_pos (left ▸ fits)]
    rfl
  · rw [stored later member, List.take_of_length_le fits]
    exact Memory.places_store _ _ _
  · obtain ⟨next, read⟩ := Reader.readExact_cursor size out cursor later (by omega)
    refine ⟨next, ?_⟩
    rw [read, stored later member, List.take_of_length_le fits, address, same, Memory.load_store]
  · rw [poured, Cursor.verdict, if_neg (left ▸ Nat.not_le.mpr excess)]
    rfl
  · rw [stored later member]
    exact Memory.places_store _ _ _

/-- Two of three bytes fit behind the first byte of a small mapping, and two bytes are read back. -/
theorem Writer.pour_roundTrip_small_mapping :
    let mapping : Mapping := ⟨4096, 3, Protection.read.union Protection.write, .copied⟩
    let cursor := (Cursor.start mapping).moveTo 1
    let machine := Machine.start ⟨[]⟩ .off
    (∃ after, pour [[7], [8, 9]] (withCapacity 2 cursor, machine) = (.error (.errno Errno.noSpace), after) ∧
      machine.memory.Places (drop after).2.2.memory 4097 [7, 8]) ∧
    ∃ after next, pour [[7], [8]] (withCapacity 2 cursor, machine) = (.ok (), after) ∧
      Reader.readExact [0, 0] (Reader.withCapacity 1 cursor, after.2) = (.ok ⟨[7, 8], .ok ()⟩, next) := by
  intro mapping cursor machine
  have writable : mapping.isWritable = true := by decide
  have inside : 1 ≤ mapping.length := by decide
  constructor
  · obtain ⟨result, after, poured, -, full⟩ := pour_roundTrip writable inside 2 [[7], [8, 9]] machine
    obtain ⟨rfl, held⟩ := full (by decide)
    exact ⟨after, poured, held _ (List.mem_cons_of_mem _ List.mem_cons_self)⟩
  · obtain ⟨result, after, poured, fitting, -⟩ := pour_roundTrip writable inside 2 [[7], [8]] machine
    obtain ⟨rfl, held⟩ := fitting (by decide)
    obtain ⟨next, read⟩ := (held _ List.mem_cons_self).2 1 [0, 0] rfl
    exact ⟨after, next, poured, read⟩

end LinuxCalls
