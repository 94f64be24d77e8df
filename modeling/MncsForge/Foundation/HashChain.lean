import Mathlib.Data.List.Induction

/-!
# Hash chains

A chain is a list of entries, each linked to the digest of the one before it.
The head of a chain is the digest of its last entry.  When an entry can only be
linked to one predecessor and its digest identifies it, the head determines the
whole chain.
-/

namespace MncsForge.Foundation.HashChain

variable {ε δ : Type*} (hash : ε → δ) (Linked : ℕ → δ → ε → Prop)

/-- Every entry is linked at its own position to the digest before it. -/
def Valid : ℕ → δ → List ε → Prop
  | _, _, [] => True
  | index, previous, entry :: entries =>
      Linked index previous entry ∧ Valid (index + 1) (hash entry) entries

def head (previous : δ) (entries : List ε) : δ :=
  entries.foldl (fun _ entry => hash entry) previous

@[simp] theorem head_nil (previous : δ) : head hash previous [] = previous := rfl

@[simp] theorem head_append_singleton (previous : δ) (entries : List ε) (entry : ε) :
    head hash previous (entries ++ [entry]) = hash entry := by
  simp [head]

theorem valid_append {index : ℕ} {previous : δ} {entries more : List ε} :
    Valid hash Linked index previous (entries ++ more) ↔
      Valid hash Linked index previous entries ∧
        Valid hash Linked (index + entries.length) (head hash previous entries) more := by
  induction entries generalizing index previous with
  | nil => simp [Valid]
  | cons entry entries ih =>
      have hpos : index + 1 + entries.length = index + (entries.length + 1) := by omega
      simp only [List.cons_append, Valid, ih, List.length_cons, hpos, and_assoc]
      rfl

theorem valid_append_singleton {index : ℕ} {previous : δ} {entries : List ε} {entry : ε} :
    Valid hash Linked index previous (entries ++ [entry]) ↔
      Valid hash Linked index previous entries ∧
        Linked (index + entries.length) (head hash previous entries) entry := by
  simp [valid_append, Valid]

/-- Equal heads come from equal chains. -/
theorem eq_of_head_eq
    (unique : ∀ {i p e j q e'}, Linked i p e → Linked j q e' → hash e = hash e' → e = e')
    (parent : ∀ {i p j q e}, Linked i p e → Linked j q e → p = q)
    {index : ℕ} {genesis : δ} (fresh : ∀ e, hash e ≠ genesis)
    {xs ys : List ε} (hx : Valid hash Linked index genesis xs)
    (hy : Valid hash Linked index genesis ys)
    (heads : head hash genesis xs = head hash genesis ys) : xs = ys := by
  induction xs using List.reverseRecOn generalizing ys with
  | nil =>
      induction ys using List.reverseRecOn with
      | nil => rfl
      | append_singleton ys y _ =>
          rw [head_nil, head_append_singleton] at heads
          exact absurd heads.symm (fresh y)
  | append_singleton xs x ih =>
      induction ys using List.reverseRecOn with
      | nil =>
          rw [head_nil, head_append_singleton] at heads
          exact absurd heads (fresh x)
      | append_singleton ys y _ =>
          rw [head_append_singleton, head_append_singleton] at heads
          obtain ⟨hxs, linkx⟩ := (valid_append_singleton hash Linked).mp hx
          obtain ⟨hys, linky⟩ := (valid_append_singleton hash Linked).mp hy
          obtain rfl := unique linkx linky heads
          rw [ih hxs hys (parent linkx linky)]

end MncsForge.Foundation.HashChain
