/-
This file holds named slots for objects of one kind.
-/

namespace LinuxCalls

/-- Objects under their names, the names in ascending order. -/
structure Slots (α : Type) where
  entries : List (String × α)

namespace Slots

variable {α : Type}

def empty : Slots α := ⟨[]⟩

def names (slots : Slots α) : List String := slots.entries.map Prod.fst

def objects (slots : Slots α) : List α := slots.entries.map Prod.snd

def get? (slots : Slots α) (name : String) : Option α := slots.entries.lookup name

def erase (slots : Slots α) (name : String) : Slots α :=
  ⟨slots.entries.filter fun entry => entry.1 ≠ name⟩

/-- This function puts an object into a slot in place of what was there. -/
def put (slots : Slots α) (name : String) (object : α) : Slots α :=
  let others := (slots.erase name).entries
  ⟨others.filter (fun entry => entry.1 < name) ++ (name, object) ::
    others.filter fun entry => name < entry.1⟩

/-- A filter that a name passes does not change what is found under it. -/
theorem lookup_filter (entries : List (String × α)) (name : String) (keep : String → Bool)
    (kept : keep name = true) :
    (entries.filter fun entry => keep entry.1).lookup name = entries.lookup name := by
  induction entries with
  | nil => rfl
  | cons entry rest step =>
    obtain ⟨first, object⟩ := entry
    by_cases same : name = first
    · subst same
      simp [kept]
    · have differs : (name == first) = false := beq_false_of_ne same
      by_cases passed : keep first = true
      · simp [passed, List.lookup_cons, differs, step]
      · simp [passed, List.lookup_cons, differs, step]

/-- A filter that a name does not pass leaves nothing to be found under it. -/
theorem lookup_filter_eq_none (entries : List (String × α)) (name : String) (keep : String → Bool)
    (dropped : keep name = false) :
    (entries.filter fun entry => keep entry.1).lookup name = none := by
  rw [List.lookup_eq_none_iff]
  intro entry found
  have passed := (List.mem_filter.mp found).2
  have different : name ≠ entry.1 := by
    intro same
    rw [← same, dropped] at passed
    contradiction
  exact bne_iff_ne.mpr different

@[simp] theorem get?_erase_self (slots : Slots α) (name : String) :
    (slots.erase name).get? name = none :=
  lookup_filter_eq_none slots.entries name (fun other => other ≠ name) (by simp)

theorem get?_erase_of_ne (slots : Slots α) {name other : String} (different : other ≠ name) :
    (slots.erase name).get? other = slots.get? other :=
  lookup_filter slots.entries other (fun kept => kept ≠ name) (by simpa using different)

@[simp] theorem get?_put_self (slots : Slots α) (name : String) (object : α) :
    (slots.put name object).get? name = some object := by
  have absent := lookup_filter_eq_none (slots.erase name).entries name (fun other => other < name)
    (by simp)
  simp only [get?, put, List.lookup_append, absent, List.lookup_cons_self, Option.none_or]

theorem get?_put_of_ne (slots : Slots α) {name other : String} (object : α)
    (different : other ≠ name) : (slots.put name object).get? other = slots.get? other := by
  have differs : (other == name) = false := beq_false_of_ne different
  rw [← get?_erase_of_ne slots different]
  simp only [get?, put, List.lookup_append, List.lookup_cons, differs]
  by_cases before : other < name
  · have after : ¬ name < other := String.lt_asymm before
    have first := lookup_filter (slots.erase name).entries other (fun kept => kept < name)
      (decide_eq_true before)
    have last := lookup_filter_eq_none (slots.erase name).entries other (fun kept => name < kept)
      (decide_eq_false after)
    rw [first, last, Option.or_none]
  · have after : name < other := String.not_le.mp fun below =>
      different (String.le_antisymm below (String.not_lt.mp before))
    have first := lookup_filter_eq_none (slots.erase name).entries other (fun kept => kept < name)
      (decide_eq_false before)
    have last := lookup_filter (slots.erase name).entries other (fun kept => name < kept)
      (decide_eq_true after)
    rw [first, last, Option.none_or]

end Slots

end LinuxCalls
