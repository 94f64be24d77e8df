import Mathlib

/-!
# Entries by position

A sorted list of positions, counted from 1, picks entries of a list.  Picking
matching entries is filtering exactly when no matching position is left out.
-/

namespace MncsForge.Foundation.Positions

variable {α : Type*}

/-- The entries at these positions; a position that holds nothing is skipped. -/
def pick (xs : List α) (positions : List Nat) : List α :=
  positions.filterMap fun position => xs[position - 1]?

theorem pick_cons {xs : List α} {n : Nat} {positions : List Nat} {x : α}
    (found : xs[n - 1]? = some x) : pick xs (n :: positions) = x :: pick xs positions := by
  simp [pick, found]

theorem mem_pick {xs : List α} {positions : List Nat} {x : α} :
    x ∈ pick xs positions ↔ ∃ n ∈ positions, xs[n - 1]? = some x :=
  List.mem_filterMap

/-- The positions of the entries that match, where the first one is `start`. -/
def matching (p : α → Bool) (start : Nat) : List α → List Nat
  | [] => []
  | x :: xs => if p x then start :: matching p (start + 1) xs else matching p (start + 1) xs

theorem mem_matching {p : α → Bool} {start n : Nat} {xs : List α} :
    n ∈ matching p start xs ↔ start ≤ n ∧ ∃ x, xs[n - start]? = some x ∧ p x = true := by
  induction xs generalizing start with
  | nil => simp [matching]
  | cons x xs ih =>
      have rest : n ∈ matching p (start + 1) xs ↔
          start < n ∧ ∃ y, (x :: xs)[n - start]? = some y ∧ p y = true := by
        rw [ih, Nat.succ_le_iff]
        refine and_congr_right fun later => ?_
        rw [show n - start = n - (start + 1) + 1 by omega, List.getElem?_cons_succ]
      rw [matching]
      split_ifs with hx
      · rw [List.mem_cons, rest]
        constructor
        · rintro (rfl | ⟨later, found⟩)
          · exact ⟨le_rfl, x, by simp, hx⟩
          · exact ⟨later.le, found⟩
        · rintro ⟨low, found⟩
          rcases low.eq_or_lt with rfl | later
          · exact Or.inl rfl
          · exact Or.inr ⟨later, found⟩
      · rw [rest]
        refine ⟨fun ⟨later, found⟩ => ⟨later.le, found⟩, ?_⟩
        rintro ⟨low, y, found, hy⟩
        rcases low.eq_or_lt with rfl | later
        · simp only [Nat.sub_self, List.getElem?_cons_zero, Option.some.injEq] at found
          exact absurd (found ▸ hy) hx
        · exact ⟨later, y, found, hy⟩

theorem matching_pairwise (p : α → Bool) (start : Nat) (xs : List α) :
    (matching p start xs).Pairwise (· < ·) := by
  induction xs generalizing start with
  | nil => exact List.Pairwise.nil
  | cons x xs ih =>
      rw [matching]
      split_ifs
      · exact List.pairwise_cons.mpr ⟨fun n hn => (mem_matching.mp hn).1, ih _⟩
      · exact ih _

theorem length_matching (p : α → Bool) (start : Nat) (xs : List α) :
    (matching p start xs).length = (xs.filter p).length := by
  induction xs generalizing start with
  | nil => rfl
  | cons x xs ih =>
      rw [matching, List.filter_cons]
      split_ifs <;> simp [ih]

private theorem pick_append_matching (p : α → Bool) (before xs : List α) :
    pick (before ++ xs) (matching p (before.length + 1) xs) = xs.filter p := by
  induction xs generalizing before with
  | nil => rfl
  | cons x xs ih =>
      have rest := ih (before ++ [x])
      rw [List.append_assoc, List.singleton_append, List.length_append, List.length_singleton]
        at rest
      have here : (before ++ x :: xs)[before.length + 1 - 1]? = some x := by simp
      rw [matching, List.filter_cons]
      split_ifs with hx
      · rw [pick_cons here, rest]
      · exact rest

theorem pick_matching (p : α → Bool) (xs : List α) :
    pick xs (matching p 1 xs) = xs.filter p :=
  pick_append_matching p [] xs

/-- Every position holds a matching entry. -/
def Sound (p : α → Bool) (xs : List α) (positions : List Nat) : Prop :=
  ∀ n ∈ positions, n ∈ matching p 1 xs

section Sound

variable {p : α → Bool} {xs : List α} {positions : List Nat}

theorem length_pick (sound : Sound p xs positions) :
    (pick xs positions).length = positions.length := by
  induction positions with
  | nil => rfl
  | cons n positions ih =>
      obtain ⟨_, x, found, _⟩ := mem_matching.mp (sound n List.mem_cons_self)
      have rest := ih fun m hm => sound m (List.mem_cons_of_mem _ hm)
      rw [pick_cons found, List.length_cons, List.length_cons, rest]

/-- Sorted sound positions are among all matching ones, in order. -/
theorem sublist_matching (sorted : positions.Pairwise (· < ·)) (sound : Sound p xs positions) :
    positions.Sublist (matching p 1 xs) :=
  List.sublist_of_subperm_of_pairwise (List.subperm_of_subset sorted.nodup sound) sorted
    (matching_pairwise p 1 xs)

/-- What is picked is part of what a filter keeps, in order. -/
theorem pick_sublist (sorted : positions.Pairwise (· < ·)) (sound : Sound p xs positions) :
    (pick xs positions).Sublist (xs.filter p) := by
  rw [← pick_matching]
  exact (sublist_matching sorted sound).filterMap _

/-- Nothing is lost exactly when no matching position is left out. -/
theorem length_filter_le_iff (sorted : positions.Pairwise (· < ·))
    (sound : Sound p xs positions) :
    (xs.filter p).length ≤ (pick xs positions).length ↔
      ∀ n ∈ matching p 1 xs, n ∈ positions := by
  have part := sublist_matching sorted sound
  rw [length_pick sound, ← length_matching p 1 xs]
  constructor
  · intro long n hn
    rwa [part.eq_of_length_le long]
  · intro complete
    exact ((matching_pairwise p 1 xs).nodup.subperm complete).length_le

theorem pick_eq_filter (sorted : positions.Pairwise (· < ·)) (sound : Sound p xs positions)
    (complete : ∀ n ∈ matching p 1 xs, n ∈ positions) : pick xs positions = xs.filter p :=
  (pick_sublist sorted sound).eq_of_length_le ((length_filter_le_iff sorted sound).mpr complete)

end Sound

end MncsForge.Foundation.Positions
