/-
This file counts the reads of a source that small reads of whole buffers cost. A source that always gives all
it is asked for is asked as often as the bytes delivered fill the reader's buffer, the last time counted in full.
-/

import Mathlib.Algebra.GroupWithZero.Nat
import LinuxCalls.Proofs.Stream.ReaderAsks

namespace LinuxCalls

variable {δ : Type}

namespace Source

variable [Source δ]

/--
A source gives in full on some states if every read from them brings as many bytes off the rest's front as the
buffer holds, or all of the rest if it is shorter, and leads to such a state again.
-/
def GivesInFull (δ : Type) [Source δ] (rest : δ × Machine → Bytes) (good : δ × Machine → Prop) : Prop :=
  ∀ (buffer : Bytes) (state : δ × Machine), good state →
    ∃ filled next, Source.read buffer state =
        (.ok ⟨filled, .ok (min buffer.length (rest state).length)⟩, next) ∧
      filled.length = buffer.length ∧
      filled.take (min buffer.length (rest state).length) ++ rest next = rest state ∧ good next

/-- A source that hands out its rest from every state keeps the size of buffers. -/
theorem HandsOut.keepsSize {rest : δ × Machine → Bytes} (hands : HandsOut δ rest fun _ => True) : KeepsSize δ := by
  intro buffer state next reading came
  obtain ⟨filled, count, after, taken, size, -⟩ := hands buffer state trivial
  rw [taken] at came
  cases came
  exact size

end Source

/-- A cursor gives the bytes up to its end in full. -/
theorem Cursor.givesInFull : Source.GivesInFull Cursor Cursor.rest fun _ => True := by
  intro buffer state fine
  obtain ⟨filled, count, next, taken, size, within, front, -⟩ := handsOut buffer state fine
  have length : (rest state).length = state.1.left := Memory.length_load _ _ _
  have all : count = min buffer.length (rest state).length := by
    have loaded : (Source.read buffer state : Except Fault Reading × _).1 = .ok ⟨Bytes.overlay
        (state.2.memory.load state.1.address (min state.1.left buffer.length)) buffer,
        .ok (state.2.memory.load state.1.address (min state.1.left buffer.length)).length⟩ := rfl
    rw [taken] at loaded
    cases loaded
    rw [Memory.length_load, length, Nat.min_comm]
  subst all
  exact ⟨filled, next, taken, size, front, trivial⟩

/-- The number of bytes that a source was asked for so far. -/
def Recorded.asked (recorded : Recorded δ Ask) : Nat := (recorded.record.map Ask.size).sum

namespace Reader

/--
The account of a source that gives in full: it has supplied what the rest lacks of the whole, and as many bytes as
it was asked for, or all.
-/
def Given (rest : δ × Machine → Bytes) (good : δ × Machine → Prop) (whole : Bytes)
    (state : Recorded δ Ask × Machine) (supplied : Bytes) : Prop :=
  supplied ++ rest (state.1.device, state.2) = whole ∧ supplied.length = min state.1.asked whole.length ∧
    good (state.1.device, state.2)

variable {rest : δ × Machine → Bytes} {good : δ × Machine → Prop} {whole taken : Bytes} {capacity : Nat}

/--
A reader that has asked its source for no more than it needed: always for the capacity of its buffer, and never
before all older bytes were delivered and another one was wanted.
-/
structure Stocked (rest : δ × Machine → Bytes) (good : δ × Machine → Prop) (whole : Bytes) (capacity : Nat)
    (taken : Bytes) (state : Reader (Recorded δ Ask) × Machine) : Prop where
  kept : Keeps (Given rest good whole) taken state
  fits : Fits capacity state.1
  asked : state.1.device.asked = state.1.device.record.length * capacity
  needed : state.1.device.record.length * capacity < taken.length + capacity

/-- A new reader has asked for nothing. -/
theorem stocked_withCapacity (capacity : Nat) {device : δ} {machine : Machine} (fine : good (device, machine)) :
    Stocked rest good (rest (device, machine)) (max capacity 1) []
      (withCapacity capacity (Recorded.start device), machine) where
  kept := keeps_withCapacity capacity ⟨rfl, (Nat.zero_min _).symm, fine⟩
  fits := fits_withCapacity capacity _
  asked := (Nat.zero_mul _).symm
  needed := by
    change 0 * max capacity 1 < 0 + max capacity 1
    omega

/-- The bytes delivered are at most those that were asked for, and they come off the front of the whole. -/
theorem Stocked.delivered {state : Reader (Recorded δ Ask) × Machine}
    (stocked : Stocked rest good whole capacity taken state) :
    taken = whole.take taken.length ∧
      taken.length + state.1.unread.length = min (state.1.device.record.length * capacity) whole.length := by
  obtain ⟨split, given, -⟩ := stocked.kept.account
  rw [List.append_assoc] at split
  rw [← split, List.take_left, ← stocked.asked, split, ← given, List.length_append]
  exact ⟨rfl, rfl⟩

/-- As often as a reader has asked, so often do the bytes delivered fill its buffer, rounded up. -/
theorem Stocked.length_record {state : Reader (Recorded δ Ask) × Machine}
    (stocked : Stocked rest good whole capacity taken state) :
    state.1.device.record.length = (taken.length + capacity - 1) / capacity := by
  have covered := stocked.delivered.2
  have needed := stocked.needed
  refine (Nat.div_eq_of_lt_le ?_ ?_).symm
  · omega
  · rw [Nat.succ_mul]
    omega

variable [Source δ]

/-- A source that gives in full and notes what it is asked for keeps its account. -/
theorem accounts_given (full : Source.GivesInFull δ rest good) (whole : Bytes) :
    Source.Accounts (Recorded δ Ask) (Given rest good whole)
      (fun state => rest (state.1.device, state.2) = []) (fun _ _ => False) := by
  rintro buffer state before ⟨rfl, given, fine⟩
  obtain ⟨filled, next, came, size, front, fine'⟩ := full buffer (state.1.device, state.2) fine
  refine ⟨⟨filled, .ok (min buffer.length (rest (state.1.device, state.2)).length)⟩,
    (⟨next.1, state.1.record ++ [⟨buffer.length⟩]⟩, next.2), ?_,
    .count size (Nat.min_le_left _ _) ⟨?_, ?_, fine'⟩ fun none asks => ?_⟩
  · rw [Recorded.read_noting, came]
  · rw [List.append_assoc, front]
  · have asked : (⟨next.1, state.1.record ++ [⟨buffer.length⟩]⟩ : Recorded δ Ask).asked =
        state.1.asked + buffer.length := by simp [Recorded.asked]
    rw [List.length_append] at given
    rw [asked, List.length_append, List.length_append, List.length_take, size]
    omega
  · have room := List.length_pos_iff.mpr asks
    have ended : rest (state.1.device, state.2) = [] := List.eq_nil_of_length_eq_zero (by omega)
    rw [ended, List.append_eq_nil_iff] at front
    exact front.2

variable (keeps : Source.KeepsSize δ) (full : Source.GivesInFull δ rest good)

include keeps full

/-- A read of some bytes ahead, of fewer than the buffer holds, brings some and asks only if it must. -/
theorem Stocked.read {state : Reader (Recorded δ Ask) × Machine}
    (stocked : Stocked rest good whole capacity taken state) {out : Bytes} (some : out ≠ [])
    (small : out.length < capacity) (enough : taken.length + out.length ≤ whole.length) :
    ∃ filled count next, Reader.read out state = (.ok ⟨filled, .ok count⟩, next) ∧
      filled.length = out.length ∧ 0 < count ∧ count ≤ out.length ∧
      Stocked rest good whole capacity (taken ++ filled.take count) next := by
  obtain ⟨reading, next, came, size, kept, brought⟩ := read_account (accounts_given full whole) out stocked.kept
  obtain ⟨asked, asks, fits, noted⟩ := read_asks keeps out stocked.fits
  rw [came] at fits noted
  have positive := List.length_pos_iff.mpr some
  cases brought with
  | error _ _ never => exact never.elim
  | @count count filled _ bounded _ last =>
    have brings : 0 < count := by
      refine Nat.pos_of_ne_zero fun none => ?_
      obtain ⟨empty, ended⟩ := last none some
      subst none
      have split : taken ++ filled.take 0 ++ next.1.unread ++ rest (next.1.device.device, next.2) = whole :=
        kept.account.1
      rw [empty, ended, List.take_zero, List.append_nil, List.append_nil, List.append_nil] at split
      rw [← split] at enough
      omega
    have delivered : (taken ++ filled.take count).length = taken.length + count := by
      rw [List.length_append, List.length_take, size]
      omega
    have before := stocked.delivered.2
    have sum := stocked.asked
    have needed := stocked.needed
    refine ⟨filled, count, next, came, size, brings, bounded, kept, fits, ?_, ?_⟩
    · cases asks with
      | buffered => rw [Recorded.asked, noted, List.append_nil]; exact sum
      | refilled =>
        rw [Recorded.asked, noted, List.map_append, List.sum_append, List.length_append, Nat.add_mul]
        rw [Recorded.asked] at sum
        simp [sum]
      | direct _ large => omega
    · rw [delivered]
      cases asks with
      | buffered => rw [noted, List.append_nil]; omega
      | refilled none =>
        rw [none, List.length_nil] at before
        rw [noted, List.length_append, List.length_singleton, Nat.succ_mul]
        omega
      | direct _ large => omega

/-- A read of a whole buffer that is smaller than the reader's delivers its bytes and asks only if it must. -/
theorem Stocked.fillFrom (rounds : Nat) {state : Reader (Recorded δ Ask) × Machine}
    (stocked : Stocked rest good whole capacity taken state) {out : Bytes} (inside : out.length ≤ rounds)
    (small : out.length < capacity) (enough : taken.length + out.length ≤ whole.length) :
    ∃ bytes next, readExact.fillFrom rounds out state = (.ok ⟨bytes, .ok ()⟩, next) ∧
      bytes.length = out.length ∧ Stocked rest good whole capacity (taken ++ bytes) next := by
  induction rounds generalizing out taken state with
  | zero =>
    have nothing : out = [] := List.eq_nil_of_length_eq_zero (by omega)
    subst nothing
    exact ⟨[], state, rfl, rfl, by rwa [List.append_nil]⟩
  | succ rounds step =>
    by_cases nothing : out = []
    · subst nothing
      exact ⟨[], state, rfl, rfl, by rwa [List.append_nil]⟩
    · obtain ⟨filled, count, middle, came, size, brings, bounded, stocked'⟩ :=
        stocked.read keeps full nothing small enough
      have front : (filled.take count).length = count := by
        rw [List.length_take, size]
        omega
      have left : (filled.drop count).length = out.length - count := by rw [List.length_drop, size]
      have inside' : (filled.drop count).length ≤ rounds := by omega
      obtain ⟨bytes, after, made, size', stocked''⟩ := step stocked' inside' (by omega)
        (by rw [List.length_append]; omega)
      refine ⟨filled.take count ++ bytes, after, ?_, ?_, by rwa [← List.append_assoc]⟩
      · have some : count ≠ 0 := by omega
        have notBeyond : ¬ out.length < count := by omega
        rw [readExact.fillFrom, if_neg nothing, Act.bind_of_ok _ came]
        dsimp only
        rw [if_neg some, if_neg notBeyond, Act.bind_of_ok _ made]
        rfl
      · rw [List.length_append, front, size', left]
        omega

/-- Reads of whole buffers in turn deliver their bytes and ask only if they must. -/
theorem Stocked.each {state : Reader (Recorded δ Ask) × Machine}
    (stocked : Stocked rest good whole capacity taken state) (outs : List Bytes)
    (small : ∀ out ∈ outs, out.length < capacity)
    (enough : taken.length + (outs.map List.length).sum ≤ whole.length) :
    ∃ (parts : List Bytes) (after : _), Act.each Call.run (outs.map .readExact) state =
        (.ok (parts.map fun bytes => .ok (.collected ⟨bytes, .ok ()⟩)), after) ∧
      parts.map List.length = outs.map List.length ∧
      Stocked rest good whole capacity (taken ++ parts.flatten) after := by
  induction outs generalizing taken state with
  | nil => exact ⟨[], state, rfl, rfl, by rwa [List.flatten_nil, List.append_nil]⟩
  | cons out outs step =>
    rw [List.forall_mem_cons] at small
    rw [List.map_cons, List.sum_cons] at enough
    obtain ⟨bytes, middle, made, size, stocked'⟩ :=
      stocked.fillFrom keeps full out.length (Nat.le_refl _) small.1 (by omega)
    obtain ⟨parts, after, run, sizes, stocked''⟩ := step stocked' small.2 (by rw [List.length_append]; omega)
    have called : (Call.run (.readExact out) : Act (Reader (Recorded δ Ask) × Machine) Answer).attempt state =
        (.ok (.ok (.collected ⟨bytes, .ok ()⟩)), middle) := by
      rw [Act.attempt_eq_ok, Call.run, readExact, Act.bind_of_ok _ made]
      rfl
    refine ⟨bytes :: parts, after, ?_, ?_, ?_⟩
    · rw [List.map_cons, Act.each, Act.bind_of_ok _ called, Act.bind_of_ok _ run]
      rfl
    · rw [List.map_cons, List.map_cons, size, sizes]
    · rwa [List.flatten_cons, ← List.append_assoc]

omit keeps full

/--
A reader is sparing with its source. In every call after any calls, also after failed ones, each read of the source
is issued while no byte is unread, at most one by each fill and each single read, and it asks for exactly the
capacity of the buffer or goes past the buffer for no fewer bytes. Therefore a source that gives in full is asked
by reads of whole buffers, each smaller than the reader's, exactly as often as the bytes that they deliver fill the
reader's buffer, rounded up. The reader over the bare source does the same.
-/
theorem asks_sparingly (keeps : Source.KeepsSize δ) (capacity : Nat) (device : δ) (machine : Machine) :
    let start : Reader (Recorded δ Ask) × Machine := (withCapacity capacity (Recorded.start device), machine)
    (∀ (calls : List Call) (call : Call), ∃ steps, call.Consists steps ∧
      Proceeds (max capacity 1) (Act.each Call.run calls start).2 steps
        (call.run (Act.each Call.run calls start).2).2) ∧
    (∀ (rest : δ × Machine → Bytes) (good : δ × Machine → Prop), Source.GivesInFull δ rest good →
      good (device, machine) → ∀ outs : List Bytes, (∀ out ∈ outs, out.length < max capacity 1) →
      (outs.map List.length).sum ≤ (rest (device, machine)).length →
      ∃ (parts : List Bytes) (after : _), Act.each Call.run (outs.map .readExact) start =
          (.ok (parts.map fun bytes => .ok (.collected ⟨bytes, .ok ()⟩)), after) ∧
        parts.map List.length = outs.map List.length ∧
        parts.flatten = (rest (device, machine)).take (outs.map List.length).sum ∧
        after.1.device.record.length =
          ((outs.map List.length).sum + max capacity 1 - 1) / max capacity 1) ∧
    ∀ calls : List Call, Act.each Call.run calls (withCapacity capacity device, machine) =
      ((Act.each Call.run calls start).1, Prod.map (onto Recorded.device) id (Act.each Call.run calls start).2) := by
  intro start
  refine ⟨fun calls call => ?_, fun rest good full fine outs small enough => ?_, fun calls => ?_⟩
  · have fits : Fits (max capacity 1) start.1 := fits_withCapacity capacity _
    exact (call.run_proceeds keeps (fits_each keeps calls fits)).2
  · obtain ⟨parts, after, run, sizes, stocked⟩ := (stocked_withCapacity capacity fine).each keeps full outs small
      (by rwa [List.length_nil, Nat.zero_add])
    rw [List.nil_append] at stocked
    have total : parts.flatten.length = (outs.map List.length).sum := by rw [List.length_flatten, sizes]
    refine ⟨parts, after, run, sizes, ?_, ?_⟩
    · rw [← total]
      exact stocked.delivered.1
    · rw [← total]
      exact stocked.length_record
  · exact Act.StandsFor.each (standsFor_run Recorded.standsFor_read_noting fun _ _ => rfl) calls start

/-- A reader of four bytes over a cursor with five asks it twice for reads of two, of no and of three bytes. -/
theorem asks_sparingly_cursor :
    let cursor := Cursor.start ⟨4096, 5, Protection.read, .copied⟩
    let machine := { Machine.start ⟨[]⟩ .off with memory := Memory.blank.store 4096 [1, 2, 3, 4, 5] }
    let start : Reader (Recorded Cursor Ask) × Machine := (withCapacity 4 (Recorded.start cursor), machine)
    let outs : List Bytes := [[0, 0], [], [0, 0, 0]]
    Source.KeepsSize Cursor ∧ (Source.GivesInFull Cursor Cursor.rest fun _ => True) ∧
      (∀ out ∈ outs, out.length < max 4 1) ∧ (outs.map List.length).sum ≤ (Cursor.rest (cursor, machine)).length ∧
      (∀ (calls : List Call) (call : Call), ∃ steps, call.Consists steps ∧
        Proceeds (max 4 1) (Act.each Call.run calls start).2 steps
          (call.run (Act.each Call.run calls start).2).2) ∧
      ∃ (parts : List Bytes) (after : _), Act.each Call.run (outs.map .readExact) start =
          (.ok (parts.map fun bytes => .ok (.collected ⟨bytes, .ok ()⟩)), after) ∧
        parts.flatten = [1, 2, 3, 4, 5] ∧ after.1.device.record.length = 2 := by
  intro cursor machine start outs
  have keeps : Source.KeepsSize Cursor := Cursor.handsOut.keepsSize
  have small : ∀ out ∈ outs, out.length < max 4 1 := by decide
  have enough : (outs.map List.length).sum ≤ (Cursor.rest (cursor, machine)).length := by decide
  obtain ⟨sparing, counted, -⟩ := asks_sparingly keeps 4 cursor machine
  obtain ⟨parts, after, run, -, delivered, count⟩ :=
    counted Cursor.rest (fun _ => True) Cursor.givesInFull trivial outs small enough
  exact ⟨keeps, Cursor.givesInFull, small, enough, sparing, parts, after, run, delivered.trans (by decide),
    count.trans (by decide)⟩

end Reader

end LinuxCalls
