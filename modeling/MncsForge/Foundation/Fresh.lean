import Mathlib.Data.List.Basic
import Mathlib.Data.List.Perm.Basic
import Mathlib.Data.List.Sort

/-!
# Appending what is not held

An append-only collection keeps one element for each key and numbers its
elements from one on.  Of a batch it takes the elements whose key it does not
hold, the first one of each key, and gives them the next numbers.
-/

namespace MncsForge.Foundation

variable {α β κ : Type*} [DecidableEq κ]

/-- The elements whose key is neither held nor taken by an element before. -/
def fresh (key : α → κ) (held : List κ) : List α → List α
  | [] => []
  | x :: xs => if key x ∈ held then fresh key held xs else x :: fresh key (key x :: held) xs

theorem fresh_map (f : α → β) (key : β → κ) (held : List κ) (xs : List α) :
    fresh key held (xs.map f) = (fresh (fun x => key (f x)) held xs).map f := by
  induction xs generalizing held with
  | nil => rfl
  | cons x xs ih =>
      simp only [List.map_cons, fresh]
      split_ifs
      · exact ih held
      · rw [List.map_cons, ih]

theorem fresh_sublist (key : α → κ) (held : List κ) (xs : List α) :
    (fresh key held xs).Sublist xs := by
  induction xs generalizing held with
  | nil => exact List.Sublist.slnil
  | cons x xs ih =>
      simp only [fresh]
      split_ifs
      · exact (ih held).cons x
      · exact (ih _).cons_cons x

/-- Nothing is fresh when every key is held. -/
theorem fresh_eq_nil {key : α → κ} {held : List κ} {xs : List α}
    (h : ∀ x ∈ xs, key x ∈ held) : fresh key held xs = [] := by
  induction xs with
  | nil => rfl
  | cons x xs ih =>
      obtain ⟨first, rest⟩ := List.forall_mem_cons.mp h
      rw [fresh, if_pos first, ih rest]

/-! ## Numbers without gaps -/

/-- `range(start, start + count)`. -/
def countFrom (start count : Nat) : List Int :=
  (List.range' start count).map fun n : Nat => (n : Int)

theorem length_countFrom (start count : Nat) : (countFrom start count).length = count := by
  simp [countFrom]

theorem countFrom_succ (start count : Nat) :
    countFrom start (count + 1) = (start : Int) :: countFrom (start + 1) count := by
  simp [countFrom, List.range'_succ]

theorem countFrom_append (start first second : Nat) :
    countFrom start first ++ countFrom (start + first) second =
      countFrom start (first + second) := by
  rw [countFrom, countFrom, countFrom, ← List.map_append, List.range'_append_1]

theorem countFrom_pairwise (start count : Nat) : (countFrom start count).Pairwise (· ≤ ·) :=
  List.pairwise_map.mpr ((List.pairwise_le_range' 1).imp fun low => Int.ofNat_le.mpr low)

/-- A sorted list counts from one exactly when what was sorted has these numbers. -/
theorem sorted_eq_countFrom_iff {numbers sorted : List Int} (perm : sorted.Perm numbers)
    (ordered : sorted.Pairwise (· ≤ ·)) :
    sorted = countFrom 1 sorted.length ↔ numbers.Perm (countFrom 1 numbers.length) := by
  rw [perm.length_eq]
  constructor
  · intro h
    exact perm.symm.trans (List.Perm.of_eq h)
  · intro h
    exact (perm.trans h).eq_of_pairwise' ordered (countFrom_pairwise 1 _)

/-- The next numbers leave no gap exactly when there was none. -/
theorem append_countFrom_perm_iff {numbers : List Int} {count : Nat} :
    (numbers ++ countFrom (numbers.length + 1) count).Perm
        (countFrom 1 (numbers.length + count)) ↔
      numbers.Perm (countFrom 1 numbers.length) := by
  rw [← countFrom_append, Nat.add_comm 1]
  exact List.perm_append_right_iff _

end MncsForge.Foundation
