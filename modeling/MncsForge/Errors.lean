import Mathlib.Data.List.Forall2

/-!
# Domain errors

A failed operation carries a stable code and a message.
-/

namespace MncsForge

structure ForgeError where
  code : String
  message : String
  deriving DecidableEq, Repr

variable {α β : Type}

/-- A sequence succeeds exactly when both parts do. -/
theorem bind_eq_ok {x : Except ForgeError α} {f : α → Except ForgeError β} {b : β} :
    (x >>= f) = .ok b ↔ ∃ a, x = .ok a ∧ f a = .ok b := by
  cases x with
  | ok a => simp [bind, Except.bind]
  | error e => simp [bind, Except.bind]

theorem exists_eq_ok {x : Except ForgeError α} (h : x.toOption.isSome = true) :
    ∃ a, x = .ok a := by
  cases x with
  | ok a => exact ⟨a, rfl⟩
  | error e => cases h

/-- `raise` behind a test: the sequence goes on when the test is false. -/
def refuseIf (test : Prop) [Decidable test] (code message : String) :
    Except ForgeError Unit :=
  if test then .error ⟨code, message⟩ else .ok ()

@[simp] theorem refuseIf_eq_ok {test : Prop} [Decidable test] {code message : String}
    {u : Unit} : refuseIf test code message = .ok u ↔ ¬ test := by
  unfold refuseIf
  by_cases h : test <;> simp [h]

theorem refuseIf_bind_eq_ok {test : Prop} [Decidable test] {code message : String}
    {f : Unit → Except ForgeError β} {b : β} :
    (refuseIf test code message >>= f) = .ok b ↔ ¬ test ∧ f () = .ok b := by
  rw [bind_eq_ok]
  constructor
  · rintro ⟨⟨⟩, hguard, hrest⟩
    exact ⟨refuseIf_eq_ok.mp hguard, hrest⟩
  · rintro ⟨hguard, hrest⟩
    exact ⟨(), refuseIf_eq_ok.mpr hguard, hrest⟩

/-- A mapped list has the result of each element, in order. -/
theorem mapM_eq_ok_iff {f : α → Except ForgeError β} {xs : List α} {ys : List β} :
    xs.mapM f = .ok ys ↔ List.Forall₂ (fun x y => f x = .ok y) xs ys := by
  induction xs generalizing ys with
  | nil => simp [pure, Except.pure, eq_comm]
  | cons x xs ih =>
      rw [List.mapM_cons, List.forall₂_cons_left_iff]
      simp only [bind_eq_ok, pure, Except.pure, Except.ok.injEq, ih]
      constructor
      · rintro ⟨y, first, rest, others, rfl⟩
        exact ⟨y, rest, first, others, rfl⟩
      · rintro ⟨y, rest, first, others, rfl⟩
        exact ⟨y, first, rest, others, rfl⟩

theorem mapM_length {f : α → Except ForgeError β} {xs : List α} {ys : List β}
    (h : xs.mapM f = .ok ys) : xs.length = ys.length :=
  (mapM_eq_ok_iff.mp h).length_eq

/-- Lists related element by element: an element has a related one. -/
theorem exists_related {R : α → β → Prop} {xs : List α} {ys : List β}
    (h : List.Forall₂ R xs ys) {x : α} (hx : x ∈ xs) : ∃ y ∈ ys, R x y := by
  induction h with
  | nil => cases hx
  | cons first _ ih =>
      rcases List.mem_cons.mp hx with rfl | hx
      · exact ⟨_, List.mem_cons_self, first⟩
      · obtain ⟨y, hy, related⟩ := ih hx
        exact ⟨y, List.mem_cons_of_mem _ hy, related⟩

theorem exists_mem_of_mapM_eq_ok {f : α → Except ForgeError β} {xs : List α} {ys : List β}
    (h : xs.mapM f = .ok ys) {x : α} (hx : x ∈ xs) : ∃ y ∈ ys, f x = .ok y :=
  exists_related (mapM_eq_ok_iff.mp h) hx

theorem mem_of_mapM_eq_ok {f : α → Except ForgeError β} {xs : List α} {ys : List β}
    (h : xs.mapM f = .ok ys) {y : β} (hy : y ∈ ys) : ∃ x ∈ xs, f x = .ok y :=
  exists_related (List.Forall₂.flip (R := fun y x => f x = .ok y) (mapM_eq_ok_iff.mp h)) hy

/-- A mapped list has a result exactly when every element has one. -/
theorem exists_mapM_eq_ok {f : α → Except ForgeError β} {xs : List α} :
    (∃ ys, xs.mapM f = .ok ys) ↔ ∀ x ∈ xs, ∃ y, f x = .ok y := by
  induction xs with
  | nil => simp [pure, Except.pure]
  | cons x xs ih =>
      rw [List.forall_mem_cons, ← ih]
      simp only [List.mapM_cons, bind_eq_ok, pure, Except.pure, Except.ok.injEq]
      constructor
      · rintro ⟨_, y, hy, ys, hys, _⟩
        exact ⟨⟨y, hy⟩, ys, hys⟩
      · rintro ⟨⟨y, hy⟩, ys, hys⟩
        exact ⟨y :: ys, y, hy, ys, hys, rfl⟩

/-- A mapped list succeeds when every element does. -/
theorem mapM_eq_ok {f : α → Except ForgeError β} {p : α → Prop} {g : α → β} {xs : List α}
    {ys : List β} (h : ∀ x ∈ xs, ∀ y, f x = .ok y ↔ p x ∧ y = g x) :
    xs.mapM f = .ok ys ↔ (∀ x ∈ xs, p x) ∧ ys = xs.map g := by
  induction xs generalizing ys with
  | nil => simp [pure, Except.pure, eq_comm]
  | cons x xs ih =>
      have first := h x List.mem_cons_self
      have rest : ∀ y : List β, xs.mapM f = .ok y ↔ (∀ x ∈ xs, p x) ∧ y = xs.map g :=
        fun _ => ih fun z hz => h z (List.mem_cons_of_mem _ hz)
      rw [List.mapM_cons, bind_eq_ok, List.forall_mem_cons, List.map_cons]
      simp only [first, bind_eq_ok, rest, pure, Except.pure, Except.ok.injEq]
      constructor
      · rintro ⟨_, ⟨hx, rfl⟩, _, ⟨hxs, rfl⟩, rfl⟩
        exact ⟨⟨hx, hxs⟩, rfl⟩
      · rintro ⟨⟨hx, hxs⟩, rfl⟩
        exact ⟨g x, ⟨hx, rfl⟩, xs.map g, ⟨hxs, rfl⟩, rfl⟩

/-! ## The errors of a computation -/

/-- Every error the computation raises satisfies the property. -/
def RaisesOnly (p : ForgeError → Prop) (x : Except ForgeError α) : Prop :=
  ∀ e, x = .error e → p e

section RaisesOnly

variable {p : ForgeError → Prop}

@[simp] theorem raisesOnly_ok {a : α} : RaisesOnly p (.ok a : Except ForgeError α) := by
  intro e h
  cases h

@[simp] theorem raisesOnly_error {e : ForgeError} :
    RaisesOnly p (.error e : Except ForgeError α) ↔ p e := by
  constructor
  · intro h
    exact h e rfl
  · intro h _ heq
    cases heq
    exact h

@[simp] theorem raisesOnly_refuseIf {test : Prop} [Decidable test] {code message : String} :
    RaisesOnly p (refuseIf test code message) ↔ (test → p ⟨code, message⟩) := by
  unfold refuseIf
  by_cases h : test <;> simp [h]

theorem RaisesOnly.bind {x : Except ForgeError α} {f : α → Except ForgeError β}
    (first : RaisesOnly p x) (rest : ∀ a, x = .ok a → RaisesOnly p (f a)) :
    RaisesOnly p (x >>= f) := by
  cases x with
  | ok a => exact rest a rfl
  | error e =>
      intro _ h
      cases h
      exact first e rfl

theorem RaisesOnly.mono {q : ForgeError → Prop} {x : Except ForgeError α}
    (h : RaisesOnly p x) (weaker : ∀ e, p e → q e) : RaisesOnly q x :=
  fun e he => weaker e (h e he)

theorem RaisesOnly.mapM {f : α → Except ForgeError β} {xs : List α}
    (each : ∀ x ∈ xs, RaisesOnly p (f x)) : RaisesOnly p (xs.mapM f) := by
  induction xs with
  | nil => simp [pure, Except.pure]
  | cons x xs ih =>
      rw [List.mapM_cons]
      refine (each x List.mem_cons_self).bind fun y _ => ?_
      refine (ih fun x hx => each x (List.mem_cons_of_mem _ hx)).bind fun ys _ => ?_
      exact raisesOnly_ok

end RaisesOnly

end MncsForge
