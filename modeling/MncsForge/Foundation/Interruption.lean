import Mathlib

/-!
# Programs that can stop

A program looks at a state, changes it in atomic steps and ends with a value or an
error.  It can stop before every step and where it ends.  The weakest precondition
speaks of both: of every state the program can stop in, and of the state it ends in
with a value.
-/

namespace MncsForge.Foundation

inductive Script (σ ε α : Type) where
  | done (result : Except ε α)
  | look (next : σ → Script σ ε α)
  | step (change : σ → σ) (next : Script σ ε α)

namespace Script

variable {σ ε α β : Type}

protected def bind : Script σ ε α → (α → Script σ ε β) → Script σ ε β
  | .done (.ok a), f => f a
  | .done (.error e), _ => .done (.error e)
  | .look next, f => .look fun s => (next s).bind f
  | .step change next, f => .step change (next.bind f)

instance : Monad (Script σ ε) where
  pure a := .done (.ok a)
  bind := Script.bind

/-- A computation that does not touch the state. -/
def lift (x : Except ε α) : Script σ ε α := .done x

def get : Script σ ε σ := .look fun s => .done (.ok s)

/-- One atomic step. -/
def modify (change : σ → σ) : Script σ ε Unit := .step change (.done (.ok ()))

/-! ## Runs -/

def run : Script σ ε α → σ → Except ε α × σ
  | .done result, s => (result, s)
  | .look next, s => (next s).run s
  | .step change next, s => next.run (change s)

/-- The states the program can stop in. -/
def stops : Script σ ε α → σ → List σ
  | .done _, s => [s]
  | .look next, s => (next s).stops s
  | .step change next, s => s :: next.stops (change s)

@[simp] theorem run_pure (a : α) (s : σ) : (pure a : Script σ ε α).run s = (.ok a, s) := rfl

@[simp] theorem run_lift (x : Except ε α) (s : σ) : (lift x : Script σ ε α).run s = (x, s) := rfl

@[simp] theorem stops_pure (a : α) (s : σ) : (pure a : Script σ ε α).stops s = [s] := rfl

@[simp] theorem stops_lift (x : Except ε α) (s : σ) :
    (lift x : Script σ ε α).stops s = [s] := rfl

theorem start_mem_stops (program : Script σ ε α) (s : σ) : s ∈ program.stops s := by
  induction program generalizing s with
  | done result => exact List.mem_singleton_self s
  | look next ih => exact ih s s
  | step change next ih => exact List.mem_cons_self

theorem end_mem_stops (program : Script σ ε α) (s : σ) : (program.run s).2 ∈ program.stops s := by
  induction program generalizing s with
  | done result => exact List.mem_singleton_self s
  | look next ih => exact ih s s
  | step change next ih => exact List.mem_cons_of_mem _ (ih _)

theorem run_bind_of_ok {program : Script σ ε α} {f : α → Script σ ε β} {s t : σ} {a : α}
    (h : program.run s = (.ok a, t)) : (program >>= f).run s = (f a).run t := by
  induction program generalizing s with
  | done result =>
      obtain ⟨rfl, rfl⟩ := Prod.mk.inj h
      rfl
  | look next ih => exact ih s h
  | step change next ih => exact ih h

theorem run_bind_of_error {program : Script σ ε α} {f : α → Script σ ε β} {s t : σ} {e : ε}
    (h : program.run s = (.error e, t)) : (program >>= f).run s = (.error e, t) := by
  induction program generalizing s with
  | done result =>
      obtain ⟨rfl, rfl⟩ := Prod.mk.inj h
      rfl
  | look next ih => exact ih s h
  | step change next ih => exact ih h

/-- A sequence ends with a value where both of its parts do. -/
theorem run_bind_eq_ok {program : Script σ ε α} {f : α → Script σ ε β} {s u : σ} {b : β} :
    (program >>= f).run s = (.ok b, u) ↔
      ∃ a t, program.run s = (.ok a, t) ∧ (f a).run t = (.ok b, u) := by
  constructor
  · intro h
    cases ended : program.run s with
    | mk result t =>
        cases result with
        | ok a =>
            rw [run_bind_of_ok ended] at h
            exact ⟨a, t, rfl, h⟩
        | error e =>
            rw [run_bind_of_error ended] at h
            cases h
  · rintro ⟨a, t, first, rest⟩
    rw [run_bind_of_ok first, rest]

/-- A sequence stops in its first part, or in its second one after the first has ended. -/
theorem mem_stops_bind {program : Script σ ε α} {f : α → Script σ ε β} {s u : σ} :
    u ∈ (program >>= f).stops s ↔
      u ∈ program.stops s ∨ ∃ a t, program.run s = (.ok a, t) ∧ u ∈ (f a).stops t := by
  induction program generalizing s with
  | done result =>
      cases result with
      | ok a =>
          show u ∈ (f a).stops s ↔ u ∈ [s] ∨ _
          constructor
          · intro h
            exact Or.inr ⟨a, s, rfl, h⟩
          · rintro (h | ⟨_, _, ended, h⟩)
            · obtain rfl := List.mem_singleton.mp h
              exact start_mem_stops _ _
            · obtain ⟨same, rfl⟩ := Prod.mk.inj ended
              obtain rfl := Except.ok.inj same
              exact h
      | error e =>
          show u ∈ [s] ↔ u ∈ [s] ∨ _
          constructor
          · exact Or.inl
          · rintro (h | ⟨_, _, ended, _⟩)
            · exact h
            · cases ended
  | look next ih => exact ih s
  | step change next ih =>
      show u ∈ s :: (next >>= f).stops (change s) ↔ u ∈ s :: next.stops (change s) ∨ _
      rw [List.mem_cons, List.mem_cons, ih, or_assoc]
      rfl

theorem mem_stops_lift_bind {x : Except ε α} {f : α → Script σ ε β} {s u : σ}
    (h : u ∈ (lift x >>= f).stops s) : u = s ∨ ∃ a, x = .ok a ∧ u ∈ (f a).stops s := by
  rcases mem_stops_bind.mp h with h | ⟨a, t, ended, h⟩
  · exact Or.inl (List.mem_singleton.mp h)
  · obtain ⟨same, rfl⟩ := Prod.mk.inj ended
    exact Or.inr ⟨a, same, h⟩

theorem mem_stops_get_bind {f : σ → Script σ ε β} {s u : σ} :
    u ∈ (get >>= f).stops s ↔ u ∈ (f s).stops s :=
  Iff.rfl

/-! ## Weakest preconditions -/

/-- The program only stops in states of `crash`, and ends with a value only in a state of
`post`. -/
def wp (program : Script σ ε α) (post : α → σ → Prop) (crash : σ → Prop) (s : σ) : Prop :=
  (∀ t ∈ program.stops s, crash t) ∧ ∀ a t, program.run s = (.ok a, t) → post a t

section Rules

variable {post : α → σ → Prop} {crash : σ → Prop} {s : σ}

theorem wp.start {program : Script σ ε α} (h : program.wp post crash s) : crash s :=
  h.1 s (start_mem_stops program s)

@[simp] theorem wp_pure {a : α} :
    (pure a : Script σ ε α).wp post crash s ↔ crash s ∧ post a s := by
  constructor
  · intro h
    exact ⟨h.start, h.2 a s rfl⟩
  · rintro ⟨start, ended⟩
    refine ⟨fun t h => ?_, fun b t h => ?_⟩
    · obtain rfl := List.mem_singleton.mp h
      exact start
    · obtain ⟨same, rfl⟩ := Prod.mk.inj h
      obtain rfl := Except.ok.inj same
      exact ended

@[simp] theorem wp_lift {x : Except ε α} :
    (lift x : Script σ ε α).wp post crash s ↔ crash s ∧ ∀ a, x = .ok a → post a s := by
  constructor
  · intro h
    exact ⟨h.start, fun a same => h.2 a s (by rw [run_lift, same])⟩
  · rintro ⟨start, ended⟩
    refine ⟨fun t h => ?_, fun b t h => ?_⟩
    · obtain rfl := List.mem_singleton.mp h
      exact start
    · obtain ⟨same, rfl⟩ := Prod.mk.inj h
      exact ended b same

@[simp] theorem wp_get {post : σ → σ → Prop} :
    (get : Script σ ε σ).wp post crash s ↔ crash s ∧ post s s := by
  constructor
  · intro h
    exact ⟨h.start, h.2 s s rfl⟩
  · rintro ⟨start, ended⟩
    refine ⟨fun t h => ?_, fun b t h => ?_⟩
    · obtain rfl := List.mem_singleton.mp h
      exact start
    · obtain ⟨same, rfl⟩ := Prod.mk.inj h
      obtain rfl := Except.ok.inj same
      exact ended

@[simp] theorem wp_modify {post : Unit → σ → Prop} {change : σ → σ} :
    (modify change : Script σ ε Unit).wp post crash s ↔
      crash s ∧ crash (change s) ∧ post () (change s) := by
  constructor
  · intro h
    exact ⟨h.start, h.1 _ (by simp [modify, stops]), h.2 () _ rfl⟩
  · rintro ⟨start, changed, ended⟩
    refine ⟨fun t h => ?_, fun b t h => ?_⟩
    · rcases List.mem_cons.mp h with rfl | h
      · exact start
      · obtain rfl := List.mem_singleton.mp h
        exact changed
    · obtain ⟨_, rfl⟩ := Prod.mk.inj h
      exact ended

theorem wp_bind {program : Script σ ε α} {f : α → Script σ ε β} {post : β → σ → Prop} :
    (program >>= f).wp post crash s ↔
      program.wp (fun a t => (f a).wp post crash t) crash s := by
  constructor
  · rintro ⟨stopped, ended⟩
    refine ⟨fun t h => stopped t (mem_stops_bind.mpr (Or.inl h)), fun a t first => ⟨?_, ?_⟩⟩
    · intro u h
      exact stopped u (mem_stops_bind.mpr (Or.inr ⟨a, t, first, h⟩))
    · intro b u rest
      exact ended b u (run_bind_eq_ok.mpr ⟨a, t, first, rest⟩)
  · rintro ⟨stopped, ended⟩
    refine ⟨fun u h => ?_, fun b u h => ?_⟩
    · rcases mem_stops_bind.mp h with h | ⟨a, t, first, h⟩
      · exact stopped u h
      · exact (ended a t first).1 u h
    · obtain ⟨a, t, first, rest⟩ := run_bind_eq_ok.mp h
      exact (ended a t first).2 b u rest

theorem wp_lift_bind {x : Except ε α} {f : α → Script σ ε β} {post : β → σ → Prop} :
    (lift x >>= f).wp post crash s ↔ crash s ∧ ∀ a, x = .ok a → (f a).wp post crash s := by
  rw [wp_bind, wp_lift]

theorem wp_get_bind {f : σ → Script σ ε β} {post : β → σ → Prop} :
    (get >>= f).wp post crash s ↔ (f s).wp post crash s := by
  rw [wp_bind, wp_get]
  exact ⟨And.right, fun h => ⟨h.start, h⟩⟩

theorem wp_modify_bind {change : σ → σ} {f : Unit → Script σ ε β} {post : β → σ → Prop} :
    (modify change >>= f).wp post crash s ↔ crash s ∧ (f ()).wp post crash (change s) := by
  rw [wp_bind, wp_modify]
  exact ⟨fun h => ⟨h.1, h.2.2⟩, fun h => ⟨h.1, h.2.start, h.2⟩⟩

theorem wp.mono {program : Script σ ε α} {post' : α → σ → Prop} {crash' : σ → Prop}
    (h : program.wp post crash s) (hpost : ∀ a t, post a t → post' a t)
    (hcrash : ∀ t, crash t → crash' t) : program.wp post' crash' s :=
  ⟨fun t stopped => hcrash t (h.1 t stopped), fun a t ended => hpost a t (h.2 a t ended)⟩

/-- Where a program ends with a value, it has ended with that value. -/
theorem wp.and_run {program : Script σ ε α} (h : program.wp post crash s) :
    program.wp (fun a t => post a t ∧ program.run s = (.ok a, t)) crash s :=
  ⟨h.1, fun a t ended => ⟨h.2 a t ended, ended⟩⟩

end Rules

/-! ## Programs that end -/

/-- The program ends with a value, in a state of `post`. -/
def ends (program : Script σ ε α) (post : α → σ → Prop) (s : σ) : Prop :=
  ∃ a t, program.run s = (.ok a, t) ∧ post a t

section Ends

variable {post : α → σ → Prop} {s : σ}

theorem ends_pure {a : α} (h : post a s) : (pure a : Script σ ε α).ends post s :=
  ⟨a, s, rfl, h⟩

theorem ends_modify {post : Unit → σ → Prop} {change : σ → σ} (h : post () (change s)) :
    (modify change : Script σ ε Unit).ends post s :=
  ⟨(), change s, rfl, h⟩

theorem ends_bind {program : Script σ ε α} {f : α → Script σ ε β} {post : β → σ → Prop} :
    (program >>= f).ends post s ↔ program.ends (fun a t => (f a).ends post t) s := by
  constructor
  · rintro ⟨b, u, ended, h⟩
    obtain ⟨a, t, first, rest⟩ := run_bind_eq_ok.mp ended
    exact ⟨a, t, first, b, u, rest, h⟩
  · rintro ⟨a, t, first, b, u, rest, h⟩
    exact ⟨b, u, run_bind_eq_ok.mpr ⟨a, t, first, rest⟩, h⟩

theorem ends_lift_bind {x : Except ε α} {a : α} {f : α → Script σ ε β} {post : β → σ → Prop}
    (given : x = .ok a) (h : (f a).ends post s) : (lift x >>= f).ends post s :=
  ends_bind.mpr ⟨a, s, by rw [run_lift, given], h⟩

theorem ends_get_bind {f : σ → Script σ ε β} {post : β → σ → Prop} (h : (f s).ends post s) :
    (get >>= f).ends post s :=
  ends_bind.mpr ⟨s, s, rfl, h⟩

theorem ends_modify_bind {change : σ → σ} {f : Unit → Script σ ε β} {post : β → σ → Prop}
    (h : (f ()).ends post (change s)) : (modify change >>= f).ends post s :=
  ends_bind.mpr ⟨(), change s, rfl, h⟩

theorem ends.mono {program : Script σ ε α} {post' : α → σ → Prop} (h : program.ends post s)
    (hpost : ∀ a t, post a t → post' a t) : program.ends post' s := by
  obtain ⟨a, t, ended, h⟩ := h
  exact ⟨a, t, ended, hpost a t h⟩

/-- What holds wherever a program ends with a value holds where it does end. -/
theorem ends.and_wp {program : Script σ ε α} {post' : α → σ → Prop} {crash : σ → Prop}
    (h : program.ends post s) (keeps : program.wp post' crash s) :
    program.ends (fun a t => post a t ∧ post' a t) s := by
  obtain ⟨a, t, ended, h⟩ := h
  exact ⟨a, t, ended, h, keeps.2 a t ended⟩

end Ends

/-! ## Programs that are started again -/

/-- The program was started and stopped, any number of times. -/
def Restarts (program : Script σ ε α) : σ → σ → Prop :=
  Relation.ReflTransGen fun s t => t ∈ program.stops s

/-- What a program keeps wherever it stops, it keeps when it is started again. -/
theorem Restarts.invariant {program : Script σ ε α} {inv : σ → Prop} {s t : σ}
    (h : program.Restarts s t) (keeps : ∀ s, inv s → ∀ t ∈ program.stops s, inv t)
    (start : inv s) : inv t := by
  induction h with
  | refl => exact start
  | tail _ stopped ih => exact keeps _ ih _ stopped

end Script

end MncsForge.Foundation
