import Mathlib

/-!
# Dictionaries in the order of insertion

The entries of a dictionary with one entry for each key, the newest last.
-/

namespace MncsForge.Foundation

variable {κ α : Type*}

structure OrderedDict (κ α : Type*) where
  entries : List (κ × α)
  nodup : (entries.map Prod.fst).Nodup

namespace OrderedDict

theorem ext_entries {d e : OrderedDict κ α} (h : d.entries = e.entries) : d = e := by
  cases d
  cases e
  cases h
  rfl

def empty : OrderedDict κ α := ⟨[], List.nodup_nil⟩

def keys (d : OrderedDict κ α) : List κ := d.entries.map Prod.fst

def length (d : OrderedDict κ α) : Nat := d.entries.length

variable [DecidableEq κ]

/-- `pop(key, None)` -/
def pop (d : OrderedDict κ α) (key : κ) : OrderedDict κ α where
  entries := d.entries.filter fun entry => entry.1 ≠ key
  nodup := d.nodup.sublist (List.filter_sublist.map Prod.fst)

/-- The entry of the key is written at the end, wherever it was before. -/
def setLast (d : OrderedDict κ α) (key : κ) (value : α) : OrderedDict κ α where
  entries := (d.pop key).entries ++ [(key, value)]
  nodup := by
    rw [List.map_append, List.nodup_append]
    refine ⟨(d.pop key).nodup, by simp, ?_⟩
    intro other found last member
    obtain ⟨entry, kept, rfl⟩ := List.mem_map.mp found
    have apart := (List.mem_filter.mp kept).2
    rw [List.map_singleton, List.mem_singleton] at member
    subst member
    simpa using apart

def popAll (d : OrderedDict κ α) (keys : List κ) : OrderedDict κ α := keys.foldl pop d

variable {d : OrderedDict κ α} {key other : κ} {value : α}

@[simp] theorem mem_keys_pop : other ∈ (d.pop key).keys ↔ other ∈ d.keys ∧ other ≠ key := by
  simp only [keys, pop, List.mem_map, List.mem_filter, decide_eq_true_eq]
  constructor
  · rintro ⟨entry, ⟨member, apart⟩, rfl⟩
    exact ⟨⟨entry, member, rfl⟩, apart⟩
  · rintro ⟨⟨entry, member, rfl⟩, apart⟩
    exact ⟨entry, ⟨member, apart⟩, rfl⟩

@[simp] theorem mem_keys_setLast :
    other ∈ (d.setLast key value).keys ↔ other ∈ d.keys ∨ other = key := by
  have split : (d.setLast key value).keys = (d.pop key).keys ++ [key] := by
    simp [keys, setLast]
  rw [split, List.mem_append, mem_keys_pop, List.mem_singleton]
  by_cases h : other = key <;> simp [h]

theorem pop_of_notMem (h : key ∉ d.keys) : d.pop key = d := by
  apply ext_entries
  refine List.filter_eq_self.mpr fun entry member => ?_
  have apart : entry.1 ≠ key := by
    rintro rfl
    exact h (List.mem_map_of_mem member)
  simpa using apart

theorem entries_setLast_of_notMem (h : key ∉ d.keys) :
    (d.setLast key value).entries = d.entries ++ [(key, value)] := by
  have split : (d.setLast key value).entries = (d.pop key).entries ++ [(key, value)] := rfl
  rw [split, pop_of_notMem h]

theorem length_pop_le : (d.pop key).length ≤ d.length :=
  List.length_filter_le _ _

theorem length_pop_lt (h : key ∈ d.keys) : (d.pop key).length < d.length := by
  obtain ⟨entry, member, rfl⟩ := List.mem_map.mp h
  exact List.length_filter_lt_length_iff_exists.mpr ⟨entry, member, by simp⟩

theorem length_setLast : (d.setLast key value).length = (d.pop key).length + 1 := by
  simp [length, setLast]

theorem forall_mem_pop {p : κ × α → Prop} (h : ∀ entry ∈ d.entries, p entry) :
    ∀ entry ∈ (d.pop key).entries, p entry :=
  fun entry member => h entry (List.mem_of_mem_filter member)

theorem forall_mem_setLast {p : κ × α → Prop} (h : ∀ entry ∈ d.entries, p entry)
    (last : p (key, value)) : ∀ entry ∈ (d.setLast key value).entries, p entry := by
  intro entry member
  rcases List.mem_append.mp member with kept | new
  · exact forall_mem_pop h entry kept
  · rw [List.mem_singleton.mp new]
    exact last

theorem mem_keys_popAll {removed : List κ} :
    other ∈ (d.popAll removed).keys ↔ other ∈ d.keys ∧ other ∉ removed := by
  induction removed generalizing d with
  | nil => simp [popAll]
  | cons first removed ih =>
      have step : d.popAll (first :: removed) = (d.pop first).popAll removed := rfl
      rw [step, ih, mem_keys_pop, List.mem_cons, not_or, and_assoc]

theorem length_popAll_le {removed : List κ} : (d.popAll removed).length ≤ d.length := by
  induction removed generalizing d with
  | nil => exact le_rfl
  | cons first removed ih => exact ih.trans length_pop_le

theorem forall_mem_popAll {removed : List κ} {p : κ × α → Prop}
    (h : ∀ entry ∈ d.entries, p entry) : ∀ entry ∈ (d.popAll removed).entries, p entry := by
  induction removed generalizing d with
  | nil => exact h
  | cons first removed ih => exact ih (forall_mem_pop h)

end OrderedDict

end MncsForge.Foundation
