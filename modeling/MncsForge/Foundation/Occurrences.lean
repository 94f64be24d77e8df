import Mathlib

/-!
# Occurrences of a word in a text

Words are lists over any alphabet.  A scan counts occurrences that do not
overlap, from the left; the first occurrence can be replaced.
-/

namespace MncsForge.Foundation.Occurrences

variable {α : Type*}

/-- The word stands in the text from this position on. -/
def OccursAt (word text : List α) (i : Nat) : Prop := word <+: text.drop i

theorem OccursAt.lt_length {word text : List α} {i : Nat} (nonempty : word ≠ [])
    (h : OccursAt word text i) : i < text.length := by
  by_contra beyond
  rw [OccursAt, List.drop_eq_nil_of_le (by omega), List.prefix_nil] at h
  exact nonempty h

@[simp] theorem occursAt_zero {word text : List α} : OccursAt word text 0 ↔ word <+: text :=
  Iff.rfl

@[simp] theorem occursAt_succ {word text : List α} {c : α} {i : Nat} :
    OccursAt word (c :: text) (i + 1) ↔ OccursAt word text i :=
  Iff.rfl

/-- An occurrence cuts the text in three. -/
theorem occursAt_iff_split {word text : List α} {i : Nat} :
    OccursAt word text i ↔
      text = text.take i ++ word ++ text.drop (i + word.length) := by
  constructor
  · rintro ⟨rest, hrest⟩
    have after : text.drop (i + word.length) = rest := by
      rw [← List.drop_drop, ← hrest, List.drop_left]
    rw [after, List.append_assoc, hrest, List.take_append_drop]
  · intro split
    refine ⟨text.drop (i + word.length), ?_⟩
    have whole : text.take i ++ text.drop i = text.take i ++ (word ++ text.drop (i + word.length)) := by
      rw [List.take_append_drop, ← List.append_assoc]
      exact split
    exact (List.append_cancel_left whole).symm

variable [DecidableEq α]

/-- Occurrences found from the left, each after the end of the one before; the
first `skip` letters belong to an occurrence that is already counted. -/
def count (word : List α) : Nat → List α → Nat
  | _, [] => 0
  | skip + 1, _ :: rest => count word skip rest
  | 0, c :: rest =>
      if word <+: c :: rest then count word (word.length - 1) rest + 1 else count word 0 rest

/-- Replace the first occurrence. -/
def replaceFirst (word replacement : List α) : List α → List α
  | [] => []
  | c :: rest =>
      if word <+: c :: rest then replacement ++ (c :: rest).drop word.length
      else c :: replaceFirst word replacement rest

/-! ## Counting -/

theorem count_eq_zero_iff {word : List α} (nonempty : word ≠ []) {skip : Nat} {text : List α} :
    count word skip text = 0 ↔ ∀ i, skip ≤ i → ¬OccursAt word text i := by
  induction text generalizing skip with
  | nil =>
      simp only [count, true_iff]
      intro i _ h
      simpa using h.lt_length nonempty
  | cons c rest ih =>
      cases skip with
      | succ skip =>
          rw [count, ih]
          constructor
          · intro none i hi h
            cases i with
            | zero => omega
            | succ i => exact none i (by omega) (occursAt_succ.mp h)
          · intro none i hi h
            exact none (i + 1) (by omega) (occursAt_succ.mpr h)
      | zero =>
          by_cases here : word <+: c :: rest
          · simp only [count, here, if_true]
            refine iff_of_false (by omega) fun none => ?_
            exact none 0 le_rfl here
          · simp only [count, here, if_false, ih]
            constructor
            · intro none i _ h
              cases i with
              | zero => exact here h
              | succ i => exact none i (by omega) (occursAt_succ.mp h)
            · intro none i _ h
              exact none (i + 1) (by omega) (occursAt_succ.mpr h)

/-- One occurrence is counted when every other one starts inside the first. -/
theorem count_eq_one_iff {word : List α} (nonempty : word ≠ []) {skip : Nat} {text : List α} :
    count word skip text = 1 ↔ ∃ i, skip ≤ i ∧ OccursAt word text i ∧
      ∀ j, skip ≤ j → OccursAt word text j → i ≤ j ∧ j < i + word.length := by
  have length_pos : 0 < word.length := List.length_pos_iff.mpr nonempty
  induction text generalizing skip with
  | nil =>
      simp only [count, zero_ne_one, false_iff]
      rintro ⟨i, _, h, _⟩
      simpa using h.lt_length nonempty
  | cons c rest ih =>
      have shift : ∀ {s : Nat}, (∃ i, s ≤ i ∧ OccursAt word rest i ∧
          ∀ j, s ≤ j → OccursAt word rest j → i ≤ j ∧ j < i + word.length) ↔
          ∃ i, s + 1 ≤ i ∧ OccursAt word (c :: rest) i ∧
            ∀ j, s + 1 ≤ j → OccursAt word (c :: rest) j → i ≤ j ∧ j < i + word.length := by
        intro s
        constructor
        · rintro ⟨i, hi, h, others⟩
          refine ⟨i + 1, by omega, occursAt_succ.mpr h, fun j hj hj' => ?_⟩
          obtain ⟨j, rfl⟩ : ∃ k, j = k + 1 := ⟨j - 1, by omega⟩
          have := others j (by omega) (occursAt_succ.mp hj')
          omega
        · rintro ⟨i, hi, h, others⟩
          obtain ⟨i, rfl⟩ : ∃ k, i = k + 1 := ⟨i - 1, by omega⟩
          refine ⟨i, by omega, occursAt_succ.mp h, fun j hj hj' => ?_⟩
          have := others (j + 1) (by omega) (occursAt_succ.mpr hj')
          omega
      cases skip with
      | succ skip =>
          rw [count]
          exact ih.trans shift
      | zero =>
          by_cases here : word <+: c :: rest
          · simp only [count, here, if_true, Nat.add_eq_right, count_eq_zero_iff nonempty]
            constructor
            · intro none
              refine ⟨0, le_rfl, here, fun j _ hj => ⟨Nat.zero_le j, ?_⟩⟩
              by_contra far
              obtain ⟨j, rfl⟩ : ∃ k, j = k + 1 := ⟨j - 1, by omega⟩
              exact none j (by omega) (occursAt_succ.mp hj)
            · rintro ⟨i, _, _, others⟩ j hj h
              have first := others 0 le_rfl here
              have later := others (j + 1) (by omega) (occursAt_succ.mpr h)
              omega
          · simp only [count, here, if_false]
            refine (ih.trans shift).trans ?_
            constructor
            · rintro ⟨i, hi, h, others⟩
              refine ⟨i, by omega, h, fun j _ hj => others j ?_ hj⟩
              cases j with
              | zero => exact absurd hj here
              | succ j => omega
            · rintro ⟨i, _, h, others⟩
              refine ⟨i, ?_, h, fun j _ hj => others j (by omega) hj⟩
              cases i with
              | zero => exact absurd h here
              | succ i => omega

/-! ## Replacing -/

theorem replaceFirst_eq {word replacement text : List α} {i : Nat} (nonempty : word ≠ [])
    (h : OccursAt word text i) (first : ∀ j, OccursAt word text j → i ≤ j) :
    replaceFirst word replacement text =
      text.take i ++ replacement ++ text.drop (i + word.length) := by
  induction text generalizing i with
  | nil =>
      have := h.lt_length nonempty
      simp at this
  | cons c rest ih =>
      cases i with
      | zero =>
          have here : word <+: c :: rest := h
          simp [replaceFirst, here]
      | succ i =>
          have elsewhere : ¬word <+: c :: rest := by
            intro here
            have := first 0 here
            omega
          have tail := ih (occursAt_succ.mp h) fun j hj => by
            have := first (j + 1) (occursAt_succ.mpr hj)
            omega
          rw [replaceFirst, if_neg elsewhere, tail, Nat.add_right_comm]
          simp

/-- A text in which the word is counted once is cut by its first occurrence, which is the
one replaced. -/
theorem replaceFirst_of_count_eq_one {word replacement text : List α} (nonempty : word ≠ [])
    (h : count word 0 text = 1) : ∃ before after, text = before ++ word ++ after ∧
      replaceFirst word replacement text = before ++ replacement ++ after := by
  obtain ⟨i, _, here, others⟩ := (count_eq_one_iff nonempty).mp h
  refine ⟨text.take i, text.drop (i + word.length), ?_, ?_⟩
  · exact occursAt_iff_split.mp here
  · exact replaceFirst_eq nonempty here fun j hj => (others j (Nat.zero_le j) hj).1

/-- No occurrence starts inside another one. -/
def Apart (word text : List α) : Prop :=
  ∀ i j, OccursAt word text i → OccursAt word text j → i < j → i + word.length ≤ j

/-- A word that is counted once stands at one position exactly when no occurrences overlap. -/
theorem existsUnique_occursAt_iff {word text : List α} (nonempty : word ≠ [])
    (h : count word 0 text = 1) : (∃! i, OccursAt word text i) ↔ Apart word text := by
  have length_pos : 0 < word.length := List.length_pos_iff.mpr nonempty
  constructor
  · rintro ⟨k, _, only⟩ i j hi hj
    have := only i hi
    have := only j hj
    omega
  · intro apart
    obtain ⟨i, _, here, others⟩ := (count_eq_one_iff nonempty).mp h
    refine ⟨i, here, fun j hj => ?_⟩
    have near := others j (Nat.zero_le j) hj
    by_contra different
    have := apart i j here hj (by omega)
    omega

end MncsForge.Foundation.Occurrences
