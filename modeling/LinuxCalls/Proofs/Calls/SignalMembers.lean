/-
This file shows that a word of signals is a faithful set of signal numbers. Its members are read off its
bits, every operation on the word is the same operation on the members, and whatever a program asks of
the word tells of the members.
-/

import Mathlib.Data.Set.Insert
import LinuxCalls.Signal

namespace LinuxCalls

/-- The numbers that signals have. -/
def Signal.numbers : Set UInt32 := {signal | 1 ≤ signal ∧ signal ≤ highest}

/-- A signal number as a natural number. -/
theorem Signal.mem_numbers_iff (signal : UInt32) : signal ∈ numbers ↔ 1 ≤ signal.toNat ∧ signal.toNat ≤ 64 := by
  rw [numbers, Set.mem_ofPred_eq, UInt32.le_iff_toNat_le, UInt32.le_iff_toNat_le]
  rfl

/-- The place of a signal's bit in a word. The lowest bit is that of signal 1. -/
def Signal.place (signal : UInt32) : Nat := signal.toNat - 1

/-- The place of a signal is in the word. -/
theorem Signal.place_lt {signal : UInt32} (valid : signal ∈ numbers) : place signal < 64 := by
  rw [mem_numbers_iff] at valid
  unfold place
  omega

/-- Signals with the same place are the same. -/
theorem Signal.eq_of_place {signal other : UInt32} (valid : signal ∈ numbers) (valid' : other ∈ numbers)
    (same : place signal = place other) : signal = other := by
  rw [mem_numbers_iff] at valid valid'
  apply UInt32.toNat_inj.mp
  unfold place at same
  omega

/-- A place in a word is that of a signal. -/
theorem Signal.exists_place {index : Nat} (inside : index < 64) : ∃ signal ∈ numbers, place signal = index := by
  refine ⟨UInt32.ofNat (index + 1), ?_, ?_⟩
  · rw [mem_numbers_iff, UInt32.toNat_ofNat_of_lt' (by simp [UInt32.size]; omega)]
    omega
  · rw [place, UInt32.toNat_ofNat_of_lt' (by simp [UInt32.size]; omega)]
    omega

namespace SignalSet

/-- The signals that have their bit in a word. -/
def members (set : SignalSet) : Set UInt32 :=
  {signal ∈ Signal.numbers | set.bits.toBitVec.getLsbD (Signal.place signal) = true}

/-- A number that no signal has gets no bit. -/
theorem bit_of_invalid {signal : UInt32} (invalid : signal ∉ Signal.numbers) : bit signal = 0 := by
  rw [Signal.mem_numbers_iff] at invalid
  refine if_pos ?_
  rw [← UInt32.toNat_inj, UInt32.lt_iff_toNat_lt]
  change signal.toNat = 0 ∨ 64 < signal.toNat
  omega

/-- A signal gets the bit at its place. -/
theorem bit_of_valid {signal : UInt32} (valid : signal ∈ Signal.numbers) :
    (bit signal).toBitVec = BitVec.twoPow 64 (Signal.place signal) := by
  rw [Signal.mem_numbers_iff] at valid
  have inside : ¬ (signal = 0 ∨ Signal.highest < signal) := by
    rw [← UInt32.toNat_inj, UInt32.lt_iff_toNat_lt]
    change ¬ (signal.toNat = 0 ∨ 64 < signal.toNat)
    omega
  have shift : (signal - 1).toUInt64.toBitVec % 64 = BitVec.ofNat 64 (Signal.place signal) := by
    have place : (signal - 1).toNat = signal.toNat - 1 :=
      UInt32.toNat_sub_of_le _ _ (UInt32.le_iff_toNat_le.mpr valid.1)
    apply BitVec.eq_of_toNat_eq
    rw [BitVec.toNat_umod, UInt64.toNat_toBitVec, UInt32.toNat_toUInt64, place, BitVec.toNat_ofNat, Signal.place]
    change (signal.toNat - 1) % 64 = _
    omega
  have small : Signal.place signal % 2 ^ 64 = Signal.place signal := Nat.mod_eq_of_lt (by unfold Signal.place; omega)
  rw [bit, if_neg inside, UInt64.toBitVec_shiftLeft, shift, BitVec.twoPow_eq, BitVec.shiftLeft_eq',
    BitVec.toNat_ofNat, small]
  rfl

/-- The only bit that a number gets is the one at its place. -/
theorem getLsbD_bit (signal : UInt32) (index : Nat) :
    (bit signal).toBitVec.getLsbD index = true ↔ signal ∈ Signal.numbers ∧ Signal.place signal = index := by
  by_cases valid : signal ∈ Signal.numbers
  · rw [bit_of_valid valid, BitVec.getLsbD_twoPow]
    simp [Signal.place_lt valid, valid]
  · simp [bit_of_invalid valid, valid]

/-- The bit of another number is missing at the place of a signal. -/
theorem getLsbD_bit_place {other : UInt32} (valid : other ∈ Signal.numbers) (signal : UInt32) :
    (bit signal).toBitVec.getLsbD (Signal.place other) = true ↔ other = signal := by
  rw [getLsbD_bit]
  constructor
  · intro both
    exact Signal.eq_of_place valid both.1 both.2.symm
  · rintro rfl
    exact ⟨valid, rfl⟩

/-- A member is a signal that has its bit. -/
theorem mem_members_iff (set : SignalSet) (signal : UInt32) : signal ∈ set.members ↔
    signal ∈ Signal.numbers ∧ set.bits.toBitVec.getLsbD (Signal.place signal) = true := Iff.rfl

/-- Only signals are members. -/
theorem members_subset (set : SignalSet) : set.members ⊆ Signal.numbers := Set.sep_subset _ _

/-- Words with the same members are the same. -/
theorem members_injective : Function.Injective members := by
  intro set other same
  suffices bits : set.bits.toBitVec = other.bits.toBitVec by
    cases set
    cases other
    exact congrArg _ (UInt64.toBitVec_inj.mp bits)
  apply BitVec.eq_of_getLsbD_eq
  intro index inside
  obtain ⟨signal, valid, rfl⟩ := Signal.exists_place inside
  have here := Set.ext_iff.mp same signal
  rw [mem_members_iff, mem_members_iff, and_iff_right valid, and_iff_right valid] at here
  exact Bool.eq_iff_iff.mpr here

/-- The empty word has no members. -/
@[simp] theorem members_empty : empty.members = ∅ := by
  ext signal
  simp [members, empty]

/-- The full word has all signals as members. -/
@[simp] theorem members_full : full.members = Signal.numbers := by
  ext signal
  have ones : full.bits.toBitVec = BitVec.allOnes 64 := rfl
  rw [mem_members_iff, ones, BitVec.getLsbD_allOnes, decide_eq_true_eq, and_iff_left_iff_imp]
  exact Signal.place_lt

/-- A signal is added to the members, and a number that no signal has is ignored. -/
@[simp] theorem members_insert (set : SignalSet) (signal : UInt32) :
    (set.insert signal).members = Insert.insert signal set.members ∩ Signal.numbers := by
  ext other
  by_cases valid : other ∈ Signal.numbers
  · simp [mem_members_iff, insert, valid, getLsbD_bit_place valid, or_comm]
  · simp [mem_members_iff, valid]

/-- A number is taken out of the members. -/
@[simp] theorem members_erase (set : SignalSet) (signal : UInt32) :
    (set.erase signal).members = set.members \ {signal} := by
  ext other
  by_cases valid : other ∈ Signal.numbers
  · simp [mem_members_iff, erase, valid, Signal.place_lt valid, ← getLsbD_bit_place valid signal]
  · simp [mem_members_iff, valid]

/-- The two reserved signals are taken out of the members. -/
@[simp] theorem members_withoutReserved (set : SignalSet) :
    set.withoutReserved.members = set.members \ {Signal.cancel, Signal.changeUser} := by
  have one_by_one : set.withoutReserved = (set.erase Signal.cancel).erase Signal.changeUser := by
    have bits : ~~~reserved.bits = ~~~bit Signal.cancel &&& ~~~bit Signal.changeUser := by decide
    rw [withoutReserved, erase, erase, bits, UInt64.and_assoc]
  ext signal
  simp [one_by_one, and_assoc]

/-- A word contains exactly its members. -/
theorem contains_iff_mem_members (set : SignalSet) (signal : UInt32) :
    set.contains signal = true ↔ signal ∈ set.members := by
  by_cases valid : signal ∈ Signal.numbers
  · have own := (getLsbD_bit_place valid signal).mpr rfl
    have nonzero (bits : UInt64) (here : bits.toBitVec.getLsbD (Signal.place signal) = true) : bits ≠ 0 := by
      rintro rfl
      simp at here
    have alone (index : Nat) : (bit signal).toBitVec.getLsbD index = true → index = Signal.place signal :=
      fun here => ((getLsbD_bit signal index).mp here).2.symm
    rw [contains, Bool.and_eq_true, bne_iff_ne, bne_iff_ne, mem_members_iff]
    constructor
    · rintro ⟨-, shared⟩
      refine ⟨valid, ?_⟩
      -- A bit that the word and the signal share is at the place of the signal.
      by_contra missing
      apply shared
      apply UInt64.toBitVec_inj.mp
      apply BitVec.eq_of_getLsbD_eq
      intro index inside
      rw [UInt64.toBitVec_and, BitVec.getLsbD_and]
      cases here : (bit signal).toBitVec.getLsbD index with
      | false => simp
      | true =>
        rw [alone index here, Bool.eq_false_of_not_eq_true missing]
        simp
    · rintro ⟨-, here⟩
      refine ⟨nonzero _ own, nonzero _ ?_⟩
      rw [UInt64.toBitVec_and, BitVec.getLsbD_and, here, own]
      rfl
  · simp [contains, bit_of_invalid valid, mem_members_iff, valid]

/-- A word is empty if it has no members. -/
theorem isEmpty_iff_members (set : SignalSet) : set.isEmpty = true ↔ set.members = ∅ := by
  rw [isEmpty, beq_iff_eq, ← members_empty, members_injective.eq_iff]
  cases set
  simp [empty]

/-- The list of a word holds exactly its members. -/
theorem mem_toList_iff (set : SignalSet) (signal : UInt32) : signal ∈ set.toList ↔ signal ∈ set.members := by
  rw [toList, List.mem_filter, contains_iff_mem_members, and_iff_right_iff_imp]
  intro member
  have inside := (Signal.mem_numbers_iff signal).mp (set.members_subset member)
  refine List.mem_map.mpr ⟨signal.toNat, ?_, UInt32.ofNat_toNat⟩
  rw [List.mem_range'_1]
  omega

/-- The list of a word is in strictly ascending order. -/
theorem ascending_toList (set : SignalSet) : set.toList.Pairwise (· < ·) := by
  have small (number : Nat) (listed : number ∈ List.range' 1 64) : (UInt32.ofNat number).toNat = number := by
    rw [List.mem_range'_1] at listed
    exact UInt32.toNat_ofNat_of_lt' (by simp [UInt32.size]; omega)
  apply List.Pairwise.filter
  rw [List.pairwise_map]
  apply List.Pairwise.imp_of_mem _ List.pairwise_lt_range'
  intro first second listed listed' less
  rw [UInt32.lt_iff_toNat_lt, small first listed, small second listed']
  exact less

/-- The members of the word of a list are the signals in it. -/
@[simp] theorem members_ofList (signals : List UInt32) :
    (ofList signals).members = {signal ∈ Signal.numbers | signal ∈ signals} := by
  suffices from_any : ∀ set : SignalSet, (signals.foldl insert set).members =
      set.members ∪ {signal ∈ Signal.numbers | signal ∈ signals} by
    rw [ofList, from_any, members_empty, Set.empty_union]
  induction signals with
  | nil => simp
  | cons signal signals step =>
    intro set
    have within := set.members_subset
    ext other
    simp only [List.foldl_cons, step, members_insert, Set.mem_union, Set.mem_inter_iff, Set.mem_insert_iff,
      Set.mem_sep_iff, List.mem_cons]
    grind

/-- A word is the word of its list. -/
theorem ofList_toList (set : SignalSet) : ofList set.toList = set := by
  apply members_injective
  ext signal
  simp only [members_ofList, Set.mem_sep_iff, mem_toList_iff, and_iff_right_iff_imp]
  exact fun member => set.members_subset member

/-- An operation that makes a word of signals or changes one. -/
inductive Operation
  | empty
  | full
  | ofBits (bits : UInt64)
  | ofList (signals : List UInt32)
  | copyWith (signal : UInt32)
  | copyWithout (signal : UInt32)
  | insert (signal : UInt32)
  | erase (signal : UInt32)
  | withoutReserved

namespace Operation

/-- What an operation makes of a word. -/
def run (set : SignalSet) : Operation → SignalSet
  | .empty => .empty
  | .full => .full
  | .ofBits bits => ⟨bits⟩
  | .ofList signals => .ofList signals
  | .copyWith signal => set.copyWith signal
  | .copyWithout signal => set.copyWithout signal
  | .insert signal => set.insert signal
  | .erase signal => set.erase signal
  | .withoutReserved => set.withoutReserved

/-- What an operation makes of a set of signals. Numbers that no signal has are left out of it. -/
def meaning (signals : Set UInt32) : Operation → Set UInt32
  | .empty => ∅
  | .full => Signal.numbers
  | .ofBits bits => {signal ∈ Signal.numbers | bits.toNat.testBit (signal.toNat - 1) = true}
  | .ofList listed => {signal ∈ Signal.numbers | signal ∈ listed}
  | .copyWith signal | .insert signal => Insert.insert signal signals ∩ Signal.numbers
  | .copyWithout signal | .erase signal => signals \ {signal}
  | .withoutReserved => signals \ {32, 33}

/-- The operation that does the same to a copy. -/
def copying : Operation → Operation
  | .insert signal => .copyWith signal
  | .erase signal => .copyWithout signal
  | operation => operation

/-- An operation does to the members what it means. -/
theorem members_run (operation : Operation) (set : SignalSet) :
    (operation.run set).members = operation.meaning set.members := by
  cases operation with
  | empty => exact members_empty
  | full => exact members_full
  | ofBits bits => rfl
  | ofList signals => exact members_ofList signals
  | copyWith signal => exact members_insert set signal
  | copyWithout signal => exact members_erase set signal
  | insert signal => exact members_insert set signal
  | erase signal => exact members_erase set signal
  | withoutReserved => exact members_withoutReserved set

/-- An operation does to a copy what it does in place. -/
theorem run_copying (operation : Operation) (set : SignalSet) :
    operation.copying.run set = operation.run set := by
  cases operation <;> rfl

end Operation

/-- The word that operations in a row make. -/
def built (operations : List Operation) : SignalSet := operations.foldl (fun set operation => operation.run set) empty

/-- The set of signals that operations in a row mean. -/
def meant (operations : List Operation) : Set UInt32 :=
  operations.foldl (fun signals operation => operation.meaning signals) ∅

/-- Operations in a row do to the members what they mean. -/
theorem members_built (operations : List Operation) : (built operations).members = meant operations := by
  rw [built, meant, ← members_empty]
  generalize empty = set
  induction operations generalizing set with
  | nil => rfl
  | cons operation operations step => rw [List.foldl_cons, List.foldl_cons, step, operation.members_run]

/-- A word represents a set of signals if everything that a program can ask of the word tells of that set. -/
structure Represents (set : SignalSet) (signals : Set UInt32) : Prop where
  /-- Only signals are in the set. -/
  subset_numbers : signals ⊆ Signal.numbers
  /-- The word contains exactly the signals in the set. -/
  contains_iff (signal : UInt32) : set.contains signal = true ↔ signal ∈ signals
  /-- The word is empty exactly if the set is. -/
  isEmpty_iff : set.isEmpty = true ↔ signals = ∅
  /-- The list of the word has exactly the signals in the set. -/
  mem_toList (signal : UInt32) : signal ∈ set.toList ↔ signal ∈ signals
  /-- The list is in strictly ascending order, so that no signal is in it twice. -/
  ascending : set.toList.Pairwise (· < ·)
  /-- The list gives the word back. -/
  collected : ofList set.toList = set
  /-- Another word is equal to this one exactly if it contains the same signals. -/
  eq_iff (other : SignalSet) : other = set ↔ ∀ signal, other.contains signal = true ↔ signal ∈ signals

/-- A word represents its members. -/
theorem represents_members (set : SignalSet) : set.Represents set.members where
  subset_numbers := set.members_subset
  contains_iff := set.contains_iff_mem_members
  isEmpty_iff := set.isEmpty_iff_members
  mem_toList := set.mem_toList_iff
  ascending := set.ascending_toList
  collected := set.ofList_toList
  eq_iff other := by
    simp only [contains_iff_mem_members, ← Set.ext_iff, members_injective.eq_iff]

/--
Whatever operations make a word, it represents the set of signals that the operations mean, and it makes
no difference whether they work in place or on copies.
-/
theorem built_represents_meant (operations : List Operation) :
    (built operations).Represents (meant operations) ∧
      built (operations.map Operation.copying) = built operations := by
  constructor
  · rw [← members_built]
    exact represents_members _
  · rw [built, List.foldl_map]
    simp only [Operation.run_copying]
    rfl

/-- The signals at both ends have a bit, and the numbers beside them do not. -/
example : (built [.ofList [0, 1, 64, 65], .insert 33, .withoutReserved]).toList = [1, 64] := by decide

end SignalSet

end LinuxCalls
