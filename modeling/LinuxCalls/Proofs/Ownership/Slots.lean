/-
This file counts what the objects in slots have. Filling a slot and emptying one change the count by
what the one object has that comes or goes.
-/

import Mathlib.Algebra.BigOperators.Group.List.Basic
import Mathlib.Data.List.Nodup
import LinuxCalls.Session.Slots

namespace LinuxCalls.Slots

variable {α M : Type} [AddCommMonoid M] {slots : Slots α} {name : String} {object : α} {count : α → M}

/-- What the objects in all slots have together. -/
def total (count : α → M) (slots : Slots α) : M := (slots.objects.map count).sum

/-- An object that is put into a slot counts beside the objects in the other slots. -/
theorem total_put (slots : Slots α) (name : String) (object : α) (count : α → M) :
    (slots.put name object).total count = count object + (slots.erase name).total count := by
  have others : ∀ entry ∈ (slots.erase name).entries, name < entry.1 ↔ ¬ entry.1 < name := by
    intro entry member
    have different : entry.1 ≠ name := by simpa using (List.mem_filter.mp member).2
    exact ⟨String.lt_asymm, fun above => String.not_le.mp fun below =>
      different (String.le_antisymm below (String.not_lt.mp above))⟩
  have after : (slots.erase name).entries.filter (fun entry => name < entry.1) =
      (slots.erase name).entries.filter (fun entry => !decide (entry.1 < name)) := by
    apply List.filter_congr
    intro entry member
    rw [← decide_not]
    exact decide_eq_decide.mpr (others entry member)
  -- The new object stands between the others, which are split by their names.
  have split : (slots.put name object).entries.Perm ((name, object) :: (slots.erase name).entries) := by
    simp only [put]
    rw [after]
    exact List.perm_middle.trans ((List.filter_append_perm _ _).cons _)
  unfold total objects
  rw [((split.map Prod.snd).map count).sum_eq]
  simp

/-- A filter leaves a sum as it is if it drops nothing that counts. -/
private theorem total_filter_of_absent (entries : List (String × α)) (name : String) (count : α → M)
    (absent : name ∉ entries.map Prod.fst) :
    total count ⟨entries.filter fun entry => entry.1 ≠ name⟩ = total count ⟨entries⟩ := by
  have kept : entries.filter (fun entry => entry.1 ≠ name) = entries := by
    rw [List.filter_eq_self]
    intro entry member
    have different : entry.1 ≠ name := fun same => absent (same ▸ List.mem_map_of_mem member)
    exact decide_eq_true different
  rw [kept]

/-- Emptying a slot before filling it makes no difference. -/
theorem put_erase (slots : Slots α) (name : String) (object : α) :
    (slots.erase name).put name object = slots.put name object := by
  have twice : (slots.erase name).erase name = slots.erase name := by simp [erase, List.filter_filter]
  rw [put, put, twice]

/-- What is in a slot counts no longer when the slot is emptied. -/
theorem total_erase (distinct : slots.names.Nodup) (name : String) (count : α → M) :
    slots.total count = (slots.erase name).total count + (slots.get? name).elim 0 count := by
  obtain ⟨entries⟩ := slots
  induction entries with
  | nil => simp [total, objects, erase, get?]
  | cons entry rest step =>
    obtain ⟨first, held⟩ := entry
    obtain ⟨new, distinct⟩ := List.nodup_cons.mp distinct
    by_cases same : name = first
    · subst same
      have dropped : (erase ⟨(name, held) :: rest⟩ name : Slots α) =
          ⟨rest.filter fun entry => entry.1 ≠ name⟩ := by
        simp [erase]
      have found : (⟨(name, held) :: rest⟩ : Slots α).get? name = some held := by
        simp [get?]
      rw [dropped, found, total_filter_of_absent rest name count new]
      exact add_comm _ _
    · have kept : (erase ⟨(first, held) :: rest⟩ name : Slots α) =
          ⟨(first, held) :: rest.filter fun entry => entry.1 ≠ name⟩ := by
        simp [erase, Ne.symm same]
      have found : (⟨(first, held) :: rest⟩ : Slots α).get? name = (⟨rest⟩ : Slots α).get? name := by
        simp [get?, List.lookup_cons, beq_false_of_ne same]
      rw [kept, found]
      change count held + total count ⟨rest⟩ = (count held + total count (erase ⟨rest⟩ name)) + _
      rw [step distinct, add_assoc]

/-- An object that is put into an empty slot counts beside all the others. -/
theorem total_put_of_none (distinct : slots.names.Nodup) (vacant : slots.get? name = none) (object : α)
    (count : α → M) : (slots.put name object).total count = slots.total count + count object := by
  rw [total_put, total_erase distinct name, vacant, Option.elim_none, add_zero, add_comm]

/-- Emptying a slot leaves the names distinct. -/
theorem nodup_names_erase (distinct : slots.names.Nodup) (name : String) : (slots.erase name).names.Nodup :=
  distinct.sublist (List.filter_sublist.map Prod.fst)

/-- Filling a slot leaves the names distinct. -/
theorem nodup_names_put (distinct : slots.names.Nodup) (name : String) (object : α) :
    (slots.put name object).names.Nodup := by
  have others := nodup_names_erase distinct name
  have part (keep : String × α → Bool) : ((slots.erase name).entries.filter keep).map Prod.fst |>.Nodup :=
    others.sublist (List.filter_sublist.map Prod.fst)
  unfold names put
  rw [List.map_append, List.map_cons, List.nodup_append, List.nodup_cons]
  refine ⟨part _, ⟨fun taken => ?_, part _⟩, fun before early after late same => ?_⟩
  · obtain ⟨entry, member, same⟩ := List.mem_map.mp taken
    have above : name < entry.1 := by simpa using (List.mem_filter.mp member).2
    exact String.lt_irrefl _ (same ▸ above)
  · obtain ⟨entry, member, rfl⟩ := List.mem_map.mp early
    have below : entry.1 < name := by simpa using (List.mem_filter.mp member).2
    subst same
    rcases List.mem_cons.mp late with own | above
    · exact String.lt_irrefl _ (own ▸ below)
    · obtain ⟨other, member, same⟩ := List.mem_map.mp above
      have above : name < other.1 := by simpa using (List.mem_filter.mp member).2
      exact String.lt_asymm below (same ▸ above)

/-- What is found in a slot is one of the objects. -/
theorem mem_objects_of_get? (found : slots.get? name = some object) : object ∈ slots.objects := by
  obtain ⟨before, after, same, -⟩ := List.lookup_eq_some_iff.mp found
  exact List.mem_map.mpr ⟨(name, object), by simp [same], rfl⟩

/-- The objects that are left when a slot is emptied were there before. -/
theorem mem_objects_of_erase (left : object ∈ (slots.erase name).objects) : object ∈ slots.objects :=
  (List.filter_sublist.map Prod.snd).subset left

/-- The objects after a slot is filled are the new one and some that were there before. -/
theorem mem_objects_of_put {new : α} (there : object ∈ (slots.put name new).objects) :
    object = new ∨ object ∈ slots.objects := by
  simp only [objects, put, List.map_append, List.map_cons, List.mem_append, List.mem_cons] at there
  have kept (keep : String × α → Bool) (left : object ∈ ((slots.erase name).entries.filter keep).map Prod.snd) :
      object ∈ slots.objects :=
    mem_objects_of_erase ((List.filter_sublist.map Prod.snd).subset left)
  rcases there with before | same | after
  · exact .inr (kept _ before)
  · exact .inl same
  · exact .inr (kept _ after)

end LinuxCalls.Slots
