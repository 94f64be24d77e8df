import Mathlib

/-!
# Runs of a partial step function

A system is a step function from a state and an event to the next state, if the
event can happen there.  `Reaches` collects the states of all runs whose events
are allowed in the states they happen in.
-/

namespace MncsForge.Foundation

variable {σ ε : Type*} {step : σ → ε → Option σ} {allowed : σ → ε → Prop} {start : σ}

inductive Reaches (step : σ → ε → Option σ) (allowed : σ → ε → Prop) (start : σ) : σ → Prop where
  | refl : Reaches step allowed start start
  | next {state after : σ} {event : ε} :
      Reaches step allowed start state →
      allowed state event →
      step state event = some after →
      Reaches step allowed start after

/-- What every allowed event preserves holds along every run. -/
theorem Reaches.invariant {inv : σ → Prop} (initial : inv start)
    (preserved : ∀ state event after, inv state → allowed state event →
      step state event = some after → inv after)
    {state : σ} (run : Reaches step allowed start state) : inv state := by
  induction run with
  | refl => exact initial
  | next _ hallowed hstep ih => exact preserved _ _ _ ih hallowed hstep

theorem Reaches.trans {middle state : σ} (first : Reaches step allowed start middle)
    (rest : Reaches step allowed middle state) : Reaches step allowed start state := by
  induction rest with
  | refl => exact first
  | next _ hallowed hstep ih => exact ih.next hallowed hstep

/-- The state after a list of events. -/
def runEvents (step : σ → ε → Option σ) (state : σ) : List ε → Option σ
  | [] => some state
  | event :: events => (step state event).bind fun after => runEvents step after events

/-- The step function where the event is allowed. -/
def guarded (step : σ → ε → Option σ) (allowed : σ → ε → Prop)
    [∀ state event, Decidable (allowed state event)] (state : σ) (event : ε) : Option σ :=
  if allowed state event then step state event else none

/-- A list of events, each allowed where it happens, is a run. -/
theorem reaches_of_runEvents [∀ state event, Decidable (allowed state event)] {final : σ}
    {events : List ε} (h : runEvents (guarded step allowed) start events = some final) :
    Reaches step allowed start final := by
  induction events generalizing start with
  | nil =>
      obtain rfl := Option.some.inj h
      exact .refl
  | cons event events ih =>
      obtain ⟨after, hafter, h⟩ := Option.bind_eq_some_iff.mp h
      rw [guarded] at hafter
      split_ifs at hafter with hallowed
      exact (Reaches.refl.next hallowed hafter).trans (ih h)

end MncsForge.Foundation
