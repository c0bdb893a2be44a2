/-
This file stores strings and lists of strings in the caller's memory and reads them as the kernel does, through
a pointer. The kernel takes a string up to its first zero byte and an array of pointers up to the first zero.
-/

import Mathlib.Data.List.Pairwise
import LinuxCalls.Proofs.Layout.Fields
import LinuxCalls.StringArgument

namespace LinuxCalls

namespace Memory

/-- The bytes from an address on before the first zero byte, if one comes within the limit. -/
def stringAt (memory : Memory) : (limit address : Nat) → Option Bytes
  | 0, _ => none
  | limit + 1, address =>
    if memory.byte address = 0 then some []
    else (memory.stringAt limit (address + 1)).map (memory.byte address :: ·)

/-- The size of a pointer. -/
def pointerSize : Nat := 8

/-- The pointer at an address. -/
def pointerAt (memory : Memory) (address : Nat) : Nat := Bytes.toNat (memory.load address pointerSize)

/-- The strings behind the pointers from an address on before the first zero pointer, within the limit. -/
def stringsAt (memory : Memory) (limit : Nat) : (count address : Nat) → Option (List Bytes)
  | 0, _ => none
  | count + 1, address =>
    if memory.pointerAt address = 0 then some []
    else do
      let string ← memory.stringAt limit (memory.pointerAt address)
      let rest ← memory.stringsAt limit count (address + pointerSize)
      return string :: rest

/-- The bytes of a string and its terminator lie at an address. -/
def HoldsString (memory : Memory) (address : Nat) (bytes : Bytes) : Prop :=
  memory.load address (bytes.length + 1) = bytes ++ [0]

/-- Pointers to strings and the zero pointer behind them lie at an address. -/
def HoldsStrings (memory : Memory) : (address : Nat) → List Bytes → Prop
  | address, [] => memory.load address pointerSize = Bytes.ofWord64 0
  | address, string :: strings => ∃ pointer : UInt64, pointer ≠ 0 ∧
    memory.load address pointerSize = Bytes.ofWord64 pointer ∧ memory.HoldsString pointer.toNat string ∧
    memory.HoldsStrings (address + pointerSize) strings

variable {memory : Memory} {address limit : Nat}

/-- A load of at least one byte starts with the byte at its address. -/
theorem load_succ (memory : Memory) (address length : Nat) :
    memory.load address (length + 1) = memory.byte address :: memory.load (address + 1) length := rfl

/-- A string that holds no zero is read as it is. -/
theorem stringAt_of_holdsString {bytes : Bytes} (zeroFree : 0 ∉ bytes) (holds : memory.HoldsString address bytes)
    (enough : bytes.length < limit) : memory.stringAt limit address = some bytes := by
  induction bytes generalizing address limit with
  | nil =>
    obtain ⟨more, rfl⟩ := Nat.exists_eq_add_one_of_ne_zero (Nat.ne_zero_of_lt enough)
    have ended : memory.byte address = 0 := List.head_eq_of_cons_eq holds
    rw [stringAt, if_pos ended]
  | cons byte bytes step =>
    obtain ⟨more, rfl⟩ := Nat.exists_eq_add_one_of_ne_zero (Nat.ne_zero_of_lt enough)
    rw [HoldsString, List.length_cons, load_succ, List.cons_append] at holds
    obtain ⟨first, rest⟩ := List.cons.inj holds
    have goesOn : memory.byte address ≠ 0 := by
      rw [first]
      exact fun zero => zeroFree (zero ▸ List.mem_cons_self)
    have later := step (fun member => zeroFree (List.mem_cons_of_mem _ member)) rest (Nat.lt_of_succ_lt_succ enough)
    rw [stringAt, if_neg goesOn, later, first]
    rfl

/-- A pointer in memory is read as it is. -/
theorem pointerAt_of_load {pointer : UInt64} (lies : memory.load address pointerSize = Bytes.ofWord64 pointer) :
    memory.pointerAt address = pointer.toNat := by
  rw [pointerAt, lies, Bytes.toNat_ofWord64]

/-- A list of strings that hold no zero is read as it is. -/
theorem stringsAt_of_holdsStrings {strings : List Bytes} {count : Nat} (zeroFree : ∀ string ∈ strings, 0 ∉ string)
    (holds : memory.HoldsStrings address strings) (short : ∀ string ∈ strings, string.length < limit)
    (few : strings.length < count) : memory.stringsAt limit count address = some strings := by
  induction strings generalizing address count with
  | nil =>
    obtain ⟨more, rfl⟩ := Nat.exists_eq_add_one_of_ne_zero (Nat.ne_zero_of_lt few)
    rw [stringsAt, pointerAt_of_load holds]
    rfl
  | cons string strings step =>
    obtain ⟨more, rfl⟩ := Nat.exists_eq_add_one_of_ne_zero (Nat.ne_zero_of_lt few)
    obtain ⟨pointer, some, lies, first, rest⟩ := holds
    have goesOn : pointer.toNat ≠ 0 := fun zero => some (UInt64.toNat_inj.mp zero)
    have head := stringAt_of_holdsString (zeroFree string List.mem_cons_self) first (short string List.mem_cons_self)
    have tail := step (fun other member => zeroFree other (List.mem_cons_of_mem _ member)) rest
      (fun other member => short other (List.mem_cons_of_mem _ member)) (Nat.lt_of_succ_lt_succ few)
    rw [stringsAt, pointerAt_of_load lies, if_neg goesOn, head, tail]
    rfl

/-- Pointers in a row with a zero pointer behind them are an array of what they point to. -/
theorem holdsStrings_of_pointers (pointer : Nat → UInt64) {strings : List Bytes} (first : Nat)
    (lies : memory.load address (pointerSize * (strings.length + 1)) =
      ((List.range' first strings.length).map pointer ++ [0]).flatMap Bytes.ofWord64)
    (points : ∀ index string, strings[index]? = some string →
      pointer (first + index) ≠ 0 ∧ memory.HoldsString (pointer (first + index)).toNat string) :
    memory.HoldsStrings address strings := by
  induction strings generalizing address first with
  | nil => exact lies
  | cons string strings step =>
    have split : pointerSize * ((string :: strings).length + 1) = pointerSize + pointerSize * (strings.length + 1) := by
      rw [List.length_cons, Nat.mul_add_one, Nat.add_comm]
    rw [split, load_add, List.length_cons, List.range'_succ, List.map_cons, List.cons_append, List.flatMap_cons] at lies
    obtain ⟨head, tail⟩ := List.append_inj lies (by simp [pointerSize, Bytes.ofWord64])
    obtain ⟨some, holds⟩ := points 0 string rfl
    refine ⟨pointer first, some, head, holds, step (first + 1) tail fun index other found => ?_⟩
    rw [Nat.add_assoc, Nat.add_comm 1]
    exact points (index + 1) other found

/-- Pointers in a row take up their size each. -/
theorem length_flatMap_ofWord64 (pointers : List UInt64) :
    (pointers.flatMap Bytes.ofWord64).length = pointerSize * pointers.length := by
  induction pointers with
  | nil => rfl
  | cons pointer pointers step =>
    rw [List.flatMap_cons, List.length_append, step, Bytes.length_ofWord64, List.length_cons,
      Nat.mul_add_one, Nat.add_comm, pointerSize]

/-- Blocks of bytes at their addresses. -/
abbrev Blocks := List (Nat × Bytes)

/-- This function stores blocks, so that the first one lies over the others. -/
def storeAll (memory : Memory) : Blocks → Memory
  | [] => memory
  | (address, bytes) :: blocks => (memory.storeAll blocks).store address bytes

/-- Blocks agree if they have the same byte wherever two of them overlap. -/
def Blocks.Agree (blocks : Blocks) : Prop :=
  ∀ block ∈ blocks, ∀ other ∈ blocks, ∀ offset byte place value, block.2[offset]? = some byte →
    other.2[place]? = some value → block.1 + offset = other.1 + place → byte = value

/-- Two blocks lie apart if one of them ends before the other begins. -/
def Apart (block other : Nat × Bytes) : Prop :=
  block.1 + block.2.length ≤ other.1 ∨ other.1 + other.2.length ≤ block.1

instance (block other : Nat × Bytes) : Decidable (Apart block other) := inferInstanceAs (Decidable (_ ∨ _))

instance : Std.Symm Apart := ⟨fun _ _ => Or.symm⟩

/-- Blocks that lie apart agree. -/
theorem Blocks.agree_of_apart {blocks : Blocks} (apart : blocks.Pairwise Apart) : blocks.Agree := by
  intro block among other with' offset byte place value found here same
  by_cases one : block = other
  · subst one
    rw [Nat.add_left_cancel same, here] at found
    exact (Option.some.inj found).symm
  · have inside : offset < block.2.length := (List.getElem?_eq_some_iff.mp found).1
    have within : place < other.2.length := (List.getElem?_eq_some_iff.mp here).1
    rcases apart.forall among with' one with before | behind <;> omega

/-- Every byte of blocks that agree is found at its address. -/
theorem byte_storeAll {blocks : Blocks} (agree : blocks.Agree) {block : Nat × Bytes} (member : block ∈ blocks)
    {offset : Nat} {byte : UInt8} (found : block.2[offset]? = some byte) (memory : Memory) :
    (memory.storeAll blocks).byte (block.1 + offset) = byte := by
  induction blocks with
  | nil => cases member
  | cons first blocks step =>
    obtain ⟨start, bytes⟩ := first
    rw [storeAll, byte_store]
    have later (outside : block ≠ (start, bytes)) :
        (memory.storeAll blocks).byte (block.1 + offset) = byte :=
      step (fun one among other with' => agree one (List.mem_cons_of_mem _ among) other (List.mem_cons_of_mem _ with'))
        ((List.mem_cons.mp member).resolve_left outside)
    split
    · rename_i behind
      cases here : bytes[block.1 + offset - start]? with
      | some value =>
        have one : block.1 + offset = start + (block.1 + offset - start) := by omega
        exact (agree block member (start, bytes) List.mem_cons_self offset byte _ value found here one).symm
      | none =>
        refine later fun same => ?_
        subst same
        rw [Nat.add_sub_cancel_left] at here
        rw [here] at found
        cases found
    · refine later fun same => ?_
      subst same
      omega

/-- Every one of several blocks that agree is loaded as it is. -/
theorem load_storeAll {blocks : Blocks} (agree : blocks.Agree) {block : Nat × Bytes} (member : block ∈ blocks)
    (memory : Memory) : (memory.storeAll blocks).load block.1 block.2.length = block.2 := by
  apply List.ext_getElem
  · rw [length_load]
  · intro index _ inside
    simp only [load, List.getElem_map, List.getElem_range', Nat.one_mul]
    exact byte_storeAll agree member (List.getElem?_eq_getElem inside) memory

end Memory

/-- A terminated string that is stored anywhere is held there. -/
theorem TerminatedString.holdsString_store (string : TerminatedString) (memory : Memory) (address : Nat) :
    (memory.store address string.inMemory).HoldsString address string.bytes := by
  have loaded := memory.load_store address string.inMemory
  rwa [inMemory, List.length_append] at loaded

/-- The kernel reads a string where it is stored. -/
theorem TerminatedString.stringAt_store (string : TerminatedString) (memory : Memory) (address : Nat) :
    ∃ enough, ∀ limit, enough ≤ limit →
      (memory.store address string.inMemory).stringAt limit address = some string.bytes :=
  ⟨string.bytes.length + 1, fun _ enough =>
    Memory.stringAt_of_holdsString string.zeroFree (string.holdsString_store memory address) enough⟩

/-- Where the strings of a list and the array of pointers to them lie. -/
structure Placement where
  string : Nat → UInt64
  array : Nat

namespace Placement

/-- The number of a pointer. The null pointer is zero. -/
def pointer (placement : Placement) : Option Nat → UInt64
  | none => 0
  | some index => placement.string index

/-- The strings of a list at their addresses. -/
def blocks (placement : Placement) (vector : StringVector) : Memory.Blocks :=
  vector.strings.zipIdx.map fun (string, index) => ((placement.string index).toNat, string.inMemory)

/-- The bytes of the array of pointers. -/
def written (placement : Placement) (vector : StringVector) : Bytes :=
  vector.pointers.flatMap fun pointer => Bytes.ofWord64 (placement.pointer pointer)

/--
A placement is sound if no string lies at address zero, the strings may be told from each other or share their
bytes, and the array has memory of its own.
-/
structure Sound (placement : Placement) (vector : StringVector) : Prop where
  nowhere : ∀ index < vector.strings.length, placement.string index ≠ 0
  agree : (placement.blocks vector).Agree
  apart : ∀ block ∈ placement.blocks vector,
    Memory.Apart block (placement.array, placement.written vector)

end Placement

namespace StringVector

/-- This function stores the strings of a list and then the array of pointers to them. -/
def storedIn (vector : StringVector) (placement : Placement) (memory : Memory) : Memory :=
  (memory.storeAll (placement.blocks vector)).store placement.array (placement.written vector)

/-- Wherever a list of strings is stored, the array holds them in order. -/
theorem holdsStrings_storedIn {strings : List TerminatedString} {placement : Placement}
    (sound : placement.Sound (ofStrings strings)) (memory : Memory) :
    ((ofStrings strings).storedIn placement memory).HoldsStrings placement.array
      (strings.map TerminatedString.bytes) := by
  have listed : placement.written (ofStrings strings) =
      ((List.range' 0 strings.length).map placement.string ++ [0]).flatMap Bytes.ofWord64 := by
    simp only [Placement.written, ofStrings, ← List.range_eq_range', List.flatMap_append, List.flatMap_map]
    rfl
  have kept {block : Nat × Bytes} (member : block ∈ placement.blocks (ofStrings strings)) :
      ((ofStrings strings).storedIn placement memory).load block.1 block.2.length = block.2 := by
    rw [storedIn, Memory.load_store_of_disjoint _ (sound.apart block member),
      Memory.load_storeAll sound.agree member]
  apply Memory.holdsStrings_of_pointers placement.string 0
  · have size : (placement.written (ofStrings strings)).length = Memory.pointerSize * (strings.length + 1) := by
      rw [listed, Memory.length_flatMap_ofWord64]
      simp
    rw [List.length_map, ← size, ← listed]
    exact Memory.load_store _ _ _
  · intro index bytes found
    rw [List.getElem?_map, Option.map_eq_some_iff] at found
    obtain ⟨string, here, rfl⟩ := found
    have inside : index < strings.length := (List.getElem?_eq_some_iff.mp here).1
    have member : ((placement.string index).toNat, string.inMemory) ∈ placement.blocks (ofStrings strings) :=
      List.mem_map.mpr ⟨(string, index), List.mem_zipIdx_iff_getElem?.mpr here, rfl⟩
    have loaded := kept member
    rw [TerminatedString.inMemory, List.length_append] at loaded
    rw [Nat.zero_add]
    exact ⟨sound.nowhere index inside, loaded⟩

/-- The kernel reads a list of strings through the array wherever they are stored. -/
theorem stringsAt_storedIn {strings : List TerminatedString} {placement : Placement}
    (sound : placement.Sound (ofStrings strings)) (memory : Memory) :
    ∃ enough, ∀ limit, enough ≤ limit →
      ((ofStrings strings).storedIn placement memory).stringsAt limit limit placement.array =
        some (strings.map TerminatedString.bytes) := by
  let bytes := strings.map TerminatedString.bytes
  refine ⟨bytes.length + bytes.flatten.length + 1, fun limit enough => ?_⟩
  apply Memory.stringsAt_of_holdsStrings _ (holdsStrings_storedIn sound memory)
  · intro string member
    have part := (List.sublist_flatten_of_mem member).length_le
    change string.length ≤ bytes.flatten.length at part
    omega
  · change bytes.length < limit
    omega
  · intro string member
    obtain ⟨terminated, -, rfl⟩ := List.mem_map.mp member
    exact terminated.zeroFree

end StringVector

end LinuxCalls
