/-
This file holds the memory that mappings share. A byte that nobody has stored is zero.
-/

import LinuxCalls.Bytes

namespace LinuxCalls

/-- Memory gives a byte for every address. -/
structure Memory where
  byte : Nat → UInt8

namespace Memory

def blank : Memory := ⟨fun _ => 0⟩

def load (memory : Memory) (address length : Nat) : Bytes :=
  (List.range' address length).map memory.byte

def store (memory : Memory) (address : Nat) (bytes : Bytes) : Memory :=
  let stored := bytes.toArray
  ⟨fun place =>
    if address ≤ place then
      match stored[place - address]? with
      | some byte => byte
      | none => memory.byte place
    else memory.byte place⟩

def pageSize : Nat := 4096

def wholePages (length : Nat) : Nat := (length + pageSize - 1) / pageSize * pageSize

@[simp] theorem length_load (memory : Memory) (address length : Nat) :
    (memory.load address length).length = length := by
  simp only [load, List.length_map, List.length_range']

theorem load_add (memory : Memory) (address first second : Nat) :
    memory.load address (first + second) =
      memory.load address first ++ memory.load (address + first) second := by
  rw [load, load, load, ← List.map_append, ← List.range'_append, Nat.one_mul]

/-- A stored byte is found at its own address, and every other address keeps its byte. -/
theorem byte_store (memory : Memory) (address : Nat) (bytes : Bytes) (place : Nat) :
    (memory.store address bytes).byte place =
      if address ≤ place then (bytes[place - address]?).getD (memory.byte place)
      else memory.byte place := by
  simp only [store, List.getElem?_toArray]
  split
  · cases bytes[place - address]? <;> rfl
  · rfl

@[simp] theorem load_store (memory : Memory) (address : Nat) (bytes : Bytes) :
    (memory.store address bytes).load address bytes.length = bytes := by
  apply List.ext_getElem
  · simp only [length_load]
  · intro index _ inside
    simp [load, byte_store, inside]

/-- A load of a range that a store does not touch is as before. -/
theorem load_store_of_disjoint (memory : Memory) {address start length : Nat} {bytes : Bytes}
    (disjoint : start + length ≤ address ∨ address + bytes.length ≤ start) :
    (memory.store address bytes).load start length = memory.load start length := by
  apply List.map_congr_left
  intro place inside
  have bounds := List.mem_range'_1.mp inside
  rw [byte_store]
  split
  · have outside : bytes[place - address]? = none := List.getElem?_eq_none (by omega)
    rw [outside]
    rfl
  · rfl

@[simp] theorem store_nil (memory : Memory) (address : Nat) : memory.store address [] = memory := by
  simp [store]

end Memory

end LinuxCalls
