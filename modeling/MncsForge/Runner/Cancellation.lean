import Mathlib
import MncsForge.Foundation.Runs

/-!
# Cancelling generations

`cancel_generation` and the launches of the local runner hand a process over to
each other through sets that a lock protects.  A launch lists its generation as
launching before the process is started and owns the process afterwards; a
cancellation remembers the generation, lists itself as a waiter and waits for a
launch that is under way, but not for ever.
-/

namespace MncsForge.Runner

open MncsForge.Foundation

/-! ## Launches and cancellations -/

/-- An owned process: whether it is terminal, and whether `cancel` was requested
on its handle. -/
structure OwnedProcess where
  terminal : Bool := false
  requested : Bool := false
  deriving DecidableEq, Repr

/-- `_run_process_effect` for a generation, between its critical sections. -/
inductive Launch where
  | idle
  | checked (generation : Int)
  | launching (generation : Int)
  | failing (generation : Int)
  | started (generation : Int) (process : OwnedProcess)
  | requesting (generation : Int) (process : OwnedProcess)
  | polling (generation : Int) (process : OwnedProcess)
  | ended (generation : Int) (process : Option OwnedProcess)
  deriving DecidableEq, Repr

namespace Launch

/-- The process that was started, with its generation. -/
def process : Launch → Option (Int × OwnedProcess)
  | idle | checked _ | launching _ | failing _ | ended _ none => none
  | started generation process | requesting generation process | polling generation process
  | ended generation (some process) => some (generation, process)

/-- The generation under which the process is registered. -/
def owner : Launch → Option Int
  | requesting generation _ | polling generation _ => some generation
  | idle | checked _ | launching _ | failing _ | started _ _ | ended _ _ => none

def mapProcess (f : OwnedProcess → OwnedProcess) : Launch → Launch
  | started generation process => started generation (f process)
  | requesting generation process => requesting generation (f process)
  | polling generation process => polling generation (f process)
  | ended generation process => ended generation (process.map f)
  | idle => idle
  | checked generation => checked generation
  | launching generation => launching generation
  | failing generation => failing generation

@[simp] theorem mapProcess_owner (f : OwnedProcess → OwnedProcess) (launch : Launch) :
    (launch.mapProcess f).owner = launch.owner := by
  cases launch <;> rfl

end Launch

/-- What `cancel_generation` returns: a launch under way, nothing to cancel, or a
process with whether its cancellation was seen to be complete. -/
inductive CancellationReport where
  | pending
  | nothing
  | reaped (complete : Bool)
  deriving DecidableEq, Repr

/-- `cancel_generation`, between its critical sections. -/
inductive Cancellation where
  | idle
  | waiting (generation : Int)
  | missed (generation : Int) (launching : Bool)
  | found (generation : Int) (launch : Nat)
  | requested (generation : Int) (launch : Nat)
  | done (generation : Int) (report : CancellationReport)
  deriving DecidableEq, Repr

def Cancellation.generation : Cancellation → Option Int
  | idle => none
  | waiting generation | missed generation _ | found generation _ | requested generation _
  | done generation _ => some generation

/-- The sets under the lock, and the threads; a process goes by its launch. -/
structure RunnerState where
  launching : List Int := []
  cancelled : List Int := []
  waiters : List Int := []
  owned : Int → Option Nat := fun _ => none
  launches : Nat → Launch := fun _ => .idle
  cancellations : Nat → Cancellation := fun _ => .idle

inductive LaunchMove where
  | begin (generation : Int)
  | refuse
  | mark
  | start
  | fail
  | register
  | request
  | release

inductive CancelMove where
  | enter (generation : Int)
  | wake
  | request
  | forget (complete : Bool)

inductive RunnerEvent where
  | launch (i : Nat) (move : LaunchMove)
  | cancel (j : Nat) (move : CancelMove)
  | terminate (i : Nat)

namespace RunnerState

def become (s : RunnerState) (i : Nat) (launch : Launch) : RunnerState :=
  { s with launches := Function.update s.launches i launch }

def turn (s : RunnerState) (j : Nat) (cancellation : Cancellation) : RunnerState :=
  { s with cancellations := Function.update s.cancellations j cancellation }

/-- The generation moves to the end; beyond 64 the oldest are forgotten. -/
def remember (cancelled : List Int) (generation : Int) : List Int :=
  let moved := cancelled.filter (· ≠ generation) ++ [generation]
  moved.drop (moved.length - 64)

def launchMove (s : RunnerState) (i : Nat) : LaunchMove → Option RunnerState
  | .begin generation =>
      match s.launches i with
      | .idle =>
          some (s.become i
            (if generation ∈ s.cancelled then .ended generation none else .checked generation))
      | _ => none
  | .refuse =>
      -- the resource envelope is unavailable
      match s.launches i with
      | .checked generation => some (s.become i (.ended generation none))
      | _ => none
  | .mark =>
      match s.launches i with
      | .checked generation =>
          if generation ∈ s.cancelled then some (s.become i (.ended generation none))
          else some { s.become i (.launching generation) with
            launching := s.launching.insert generation }
      | _ => none
  | .start =>
      match s.launches i with
      | .launching generation => some (s.become i (.started generation {}))
      | _ => none
  | .fail =>
      match s.launches i with
      | .launching generation => some (s.become i (.failing generation))
      | _ => none
  | .register =>
      match s.launches i with
      | .started generation process =>
          let cancelledDuringStart :=
            generation ∈ s.cancelled ∧ generation ∉ s.waiters
          some
            { s.become i (if cancelledDuringStart then .requesting generation process
                else .polling generation process) with
              owned := Function.update s.owned generation (some i)
              launching := s.launching.filter (· ≠ generation) }
      | _ => none
  | .request =>
      match s.launches i with
      | .requesting generation process =>
          some (s.become i (.polling generation { process with requested := true }))
      | _ => none
  | .release =>
      -- also where a call of the process capability fails
      match s.launches i with
      | .failing generation =>
          some
            { s.become i (.ended generation none) with
              owned := Function.update s.owned generation none
              launching := s.launching.filter (· ≠ generation) }
      | .polling generation process =>
          some
            { s.become i (.ended generation (some process)) with
              owned := Function.update s.owned generation none
              launching := s.launching.filter (· ≠ generation) }
      | _ => none

def cancelMove (s : RunnerState) (j : Nat) : CancelMove → Option RunnerState
  | .enter generation =>
      match s.cancellations j with
      | .idle =>
          let entered :=
            { s with
              cancelled := remember s.cancelled generation
              waiters := s.waiters.insert generation }
          some (entered.turn j
            (match s.owned generation with
            | some i => .found generation i
            | none =>
                if generation ∈ s.launching then .waiting generation
                else .missed generation false))
      | _ => none
  | .wake =>
      -- the predicate holds, or the wait timed out
      match s.cancellations j with
      | .waiting generation =>
          some (s.turn j
            (match s.owned generation with
            | some i => .found generation i
            | none => .missed generation (decide (generation ∈ s.launching))))
      | _ => none
  | .request =>
      match s.cancellations j with
      | .found generation i =>
          some ((s.become i ((s.launches i).mapProcess fun process =>
            { process with requested := true })).turn j (.requested generation i))
      | _ => none
  | .forget complete =>
      match s.cancellations j with
      | .missed generation launching =>
          some ({ s with waiters := s.waiters.filter (· ≠ generation) }.turn j
            (.done generation (if launching then .pending else .nothing)))
      | .requested generation _ =>
          some ({ s with waiters := s.waiters.filter (· ≠ generation) }.turn j
            (.done generation (.reaped complete)))
      | _ => none

/-- A thread moves, or a process becomes terminal. -/
def step (s : RunnerState) : RunnerEvent → Option RunnerState
  | .launch i move => s.launchMove i move
  | .cancel j move => s.cancelMove j move
  | .terminate i =>
      match (s.launches i).process with
      | some _ =>
          some (s.become i ((s.launches i).mapProcess fun process =>
            { process with terminal := true }))
      | none => none

/-- `cancel_generation` has been called for the generation. -/
def Called (s : RunnerState) (generation : Int) : Prop :=
  ∃ j, (s.cancellations j).generation = some generation

/-- Somebody has yet to take the step that requests the cancellation, or has it
requested: the launch that decides when it registers the process, or that has
decided to; a cancellation that is going to find the process, or has found it. -/
def Pending (s : RunnerState) (generation : Int) (i : Nat) : Prop :=
  (∃ process, s.launches i = .started generation process ∨
    s.launches i = .requesting generation process) ∨
  (∃ j, s.cancellations j = .waiting generation) ∧ s.owned generation = some i ∨
  ∃ j, s.cancellations j = .found generation i

/-- No cancellation is lost. -/
def Answered (s : RunnerState) : Prop :=
  ∀ i generation process, (s.launches i).process = some (generation, process) →
    s.Called generation →
      process.terminal = true ∨ process.requested = true ∨ s.Pending generation i

/-- When a process is registered its generation has no other, and if the
generation was cancelled it is either still remembered and no cancellation is
listed for it, or one is still waiting.  What a launch releases is its own
terminal process. -/
def HandsOver (s : RunnerState) : RunnerEvent → Prop
  | .launch i .register =>
      match s.launches i with
      | .started generation _ =>
          s.owned generation = none ∧
            (s.Called generation →
              generation ∈ s.cancelled ∧ generation ∉ s.waiters ∨
              ∃ j, s.cancellations j = .waiting generation)
      | _ => True
  | .launch i .release =>
      match s.launches i with
      | .failing generation => s.owned generation = none
      | .polling _ process => process.terminal = true
      | _ => True
  | _ => True

/-! ## What a run keeps -/

@[simp] theorem become_launches_self (s : RunnerState) (i : Nat) (launch : Launch) :
    (s.become i launch).launches i = launch := Function.update_self ..

@[simp] theorem become_launches_ne (s : RunnerState) {i i' : Nat} (launch : Launch)
    (h : i' ≠ i) : (s.become i launch).launches i' = s.launches i' :=
  Function.update_of_ne h ..

@[simp] theorem turn_cancellations_self (s : RunnerState) (j : Nat)
    (cancellation : Cancellation) :
    (s.turn j cancellation).cancellations j = cancellation := Function.update_self ..

@[simp] theorem turn_cancellations_ne (s : RunnerState) {j j' : Nat}
    (cancellation : Cancellation) (h : j' ≠ j) :
    (s.turn j cancellation).cancellations j' = s.cancellations j' :=
  Function.update_of_ne h ..

/-- A cancellation answers for the registered process of a launch. -/
def AnsweredFor (s : RunnerState) (generation : Int) (i : Nat) : Prop :=
  (∃ j, s.cancellations j = .waiting generation) ∨
    ∃ j, s.cancellations j = .found generation i

structure Inv (s : RunnerState) : Prop where
  owned : ∀ generation i,
    s.owned generation = some i ↔ (s.launches i).owner = some generation
  ended : ∀ i generation process, s.launches i = .ended generation (some process) →
    process.terminal = true
  answered : ∀ i generation process, s.launches i = .polling generation process →
    s.Called generation →
      process.terminal = true ∨ process.requested = true ∨ s.AnsweredFor generation i

theorem Inv.answers {s : RunnerState} (inv : Inv s) : s.Answered := by
  intro i generation process hprocess called
  cases hlaunch : s.launches i with
  | idle => simp [hlaunch, Launch.process] at hprocess
  | checked _ => simp [hlaunch, Launch.process] at hprocess
  | launching _ => simp [hlaunch, Launch.process] at hprocess
  | failing _ => simp [hlaunch, Launch.process] at hprocess
  | started other started =>
      simp only [hlaunch, Launch.process, Option.some.injEq, Prod.mk.injEq] at hprocess
      obtain ⟨rfl, rfl⟩ := hprocess
      exact Or.inr (Or.inr (Or.inl ⟨_, Or.inl hlaunch⟩))
  | requesting other started =>
      simp only [hlaunch, Launch.process, Option.some.injEq, Prod.mk.injEq] at hprocess
      obtain ⟨rfl, rfl⟩ := hprocess
      exact Or.inr (Or.inr (Or.inl ⟨_, Or.inr hlaunch⟩))
  | polling other started =>
      simp only [hlaunch, Launch.process, Option.some.injEq, Prod.mk.injEq] at hprocess
      obtain ⟨rfl, rfl⟩ := hprocess
      have owner : s.owned other = some i := by
        rw [inv.owned, hlaunch]
        rfl
      rcases inv.answered i _ _ hlaunch called with terminal | requested | waiting | found
      · exact Or.inl terminal
      · exact Or.inr (Or.inl requested)
      · exact Or.inr (Or.inr (Or.inr (Or.inl ⟨waiting, owner⟩)))
      · exact Or.inr (Or.inr (Or.inr (Or.inr found)))
  | ended other process' =>
      cases process' with
      | none => simp [hlaunch, Launch.process] at hprocess
      | some started =>
          simp only [hlaunch, Launch.process, Option.some.injEq, Prod.mk.injEq] at hprocess
          obtain ⟨rfl, rfl⟩ := hprocess
          exact Or.inl (inv.ended i _ _ hlaunch)

section Steps

variable {s t : RunnerState} {i j : Nat} {generation : Int} {launch : Launch}

/-- A launch that owns no process goes on without one. -/
theorem Inv.become_unowned (inv : Inv s) (before : (s.launches i).owner = none)
    (owner : launch.owner = none)
    (ended : ∀ generation process, launch = .ended generation (some process) →
      process.terminal = true) : Inv (s.become i launch) := by
  constructor
  · intro other i'
    by_cases same : i' = i
    · subst same
      rw [become_launches_self, owner]
      have := inv.owned other i'
      rw [before] at this
      exact this
    · rw [become_launches_ne _ _ same]
      exact inv.owned other i'
  · intro i' other process hended
    by_cases same : i' = i
    · subst same
      rw [become_launches_self] at hended
      exact ended other process hended
    · rw [become_launches_ne _ _ same] at hended
      exact inv.ended i' other process hended
  · intro i' other process hpolling called
    by_cases same : i' = i
    · subst same
      rw [become_launches_self] at hpolling
      rw [hpolling] at owner
      cases owner
    · rw [become_launches_ne _ _ same] at hpolling
      exact inv.answered i' other process hpolling called

/-- A process changes hands within its launch, or its flags are raised. -/
theorem Inv.become_owned (inv : Inv s) (owner : launch.owner = (s.launches i).owner)
    (ended : ∀ generation process, launch = .ended generation (some process) →
      process.terminal = true)
    (answered : ∀ generation process, launch = .polling generation process →
      process.terminal = true ∨ process.requested = true ∨ ∃ before,
        s.launches i = .polling generation before ∧
          (before.terminal = true → process.terminal = true) ∧
          (before.requested = true → process.requested = true)) :
    Inv (s.become i launch) := by
  constructor
  · intro other i'
    by_cases same : i' = i
    · subst same
      rw [become_launches_self, owner]
      exact inv.owned other i'
    · rw [become_launches_ne _ _ same]
      exact inv.owned other i'
  · intro i' other process hended
    by_cases same : i' = i
    · subst same
      rw [become_launches_self] at hended
      exact ended other process hended
    · rw [become_launches_ne _ _ same] at hended
      exact inv.ended i' other process hended
  · intro i' other process hpolling called
    by_cases same : i' = i
    · subst same
      rw [become_launches_self] at hpolling
      rcases answered other process hpolling with terminal | requested | ⟨before, h, ht, hr⟩
      · exact Or.inl terminal
      · exact Or.inr (Or.inl requested)
      · rcases inv.answered i' other before h called with terminal | requested | answers
        · exact Or.inl (ht terminal)
        · exact Or.inr (Or.inl (hr requested))
        · exact Or.inr (Or.inr answers)
    · rw [become_launches_ne _ _ same] at hpolling
      exact inv.answered i' other process hpolling called

/-- A registered process whose launch has not decided to cancel it is answered for. -/
theorem Inv.register (inv : Inv s) {process : OwnedProcess}
    (started : s.launches i = .started generation process)
    (free : s.owned generation = none)
    (launched : launch = .requesting generation process ∨
      launch = .polling generation process ∧
        (s.Called generation → ∃ j, s.cancellations j = .waiting generation))
    (launching : List Int) :
    Inv { s.become i launch with
      owned := Function.update s.owned generation (some i)
      launching := launching } := by
  have owner : launch.owner = some generation := by
    rcases launched with rfl | ⟨rfl, _⟩ <;> rfl
  have unowned : (s.launches i).owner = none := by rw [started]; rfl
  constructor
  · intro other i'
    by_cases hother : other = generation
    · subst hother
      by_cases same : i' = i
      · subst same
        simp [owner]
      · have := inv.owned other i'
        simp only [free, reduceCtorEq, false_iff] at this
        simp [same, Ne.symm same, this]
    · by_cases same : i' = i
      · subst same
        have := inv.owned other i'
        simp only [unowned, reduceCtorEq, iff_false] at this
        simp [hother, owner, Ne.symm hother, this]
      · have := inv.owned other i'
        simp [hother, same, this]
  · intro i' other ended hended
    by_cases same : i' = i
    · subst same
      simp only [become_launches_self] at hended
      rw [hended] at owner
      cases owner
    · simp only [become_launches_ne _ _ same] at hended
      exact inv.ended i' other ended hended
  · intro i' other polled hpolling called
    by_cases same : i' = i
    · subst same
      simp only [become_launches_self] at hpolling
      rcases launched with rfl | ⟨rfl, waiting⟩
      · cases hpolling
      · obtain ⟨rfl, rfl⟩ := Launch.polling.inj hpolling
        exact Or.inr (Or.inr (Or.inl (waiting called)))
    · simp only [become_launches_ne _ _ same] at hpolling
      exact inv.answered i' other polled hpolling called

/-- A launch releases what it owns, or nothing is owned. -/
theorem Inv.release (inv : Inv s) {process : Option OwnedProcess}
    (owner : s.owned generation = none ∨ s.owned generation = some i)
    (before : ∀ other, (s.launches i).owner = some other → other = generation)
    (terminal : ∀ ended, process = some ended → ended.terminal = true) (launching : List Int) :
    Inv { s.become i (.ended generation process) with
      owned := Function.update s.owned generation none
      launching := launching } := by
  constructor
  · intro other i'
    have was := inv.owned other i'
    by_cases same : i' = i
    · subst same
      simp only [become_launches_self]
      by_cases hother : other = generation
      · simp [hother, Launch.owner]
      · simp only [Function.update_of_ne hother, Launch.owner, reduceCtorEq, iff_false]
        exact fun h => hother (before other (was.mp h))
    · simp only [become_launches_ne _ _ same]
      by_cases hother : other = generation
      · subst hother
        simp only [Function.update_self, reduceCtorEq, false_iff]
        intro h
        rcases owner with none | some
        · rw [was.mpr h] at none
          cases none
        · rw [was.mpr h] at some
          exact same (Option.some.inj some)
      · simpa [hother] using was
  · intro i' other ended hended
    by_cases same : i' = i
    · subst same
      simp only [become_launches_self] at hended
      obtain ⟨_, rfl⟩ := Launch.ended.inj hended
      exact terminal ended rfl
    · simp only [become_launches_ne _ _ same] at hended
      exact inv.ended i' other ended hended
  · intro i' other polled hpolling called
    by_cases same : i' = i
    · subst same
      simp only [become_launches_self] at hpolling
      cases hpolling
    · simp only [become_launches_ne _ _ same] at hpolling
      exact inv.answered i' other polled hpolling called

/-- A cancellation goes on: what it answered for it answers for still, or the
cancellation has been requested, and a new generation has its process found. -/
theorem Inv.turn (inv : Inv s) {cancellation : Cancellation}
    (waiting : ∀ other, s.cancellations j = .waiting other →
      ∀ i, s.owned other = some i → cancellation = .found other i)
    (found : ∀ other i, s.cancellations j = .found other i →
      ∀ generation process, s.launches i = .polling generation process →
        process.terminal = true ∨ process.requested = true)
    (called : ∀ other, cancellation.generation = some other →
      (s.cancellations j).generation = some other ∨
        ∀ i, s.owned other = some i → cancellation = .found other i) :
    Inv (s.turn j cancellation) := by
  refine ⟨inv.owned, inv.ended, ?_⟩
  intro i other process hpolling hcalled
  have owner : s.owned other = some i := by
    rw [inv.owned, show s.launches i = .polling other process from hpolling]
    rfl
  have taken : cancellation = .found other i →
      (s.turn j cancellation).AnsweredFor other i := by
    intro h
    exact Or.inr ⟨j, by rw [turn_cancellations_self, h]⟩
  by_cases was : s.Called other
  · rcases inv.answered i other process hpolling was with terminal | requested | ⟨j', h⟩ | ⟨j', h⟩
    · exact Or.inl terminal
    · exact Or.inr (Or.inl requested)
    · by_cases same : j' = j
      · subst same
        exact Or.inr (Or.inr (taken (waiting other h i owner)))
      · exact Or.inr (Or.inr (Or.inl ⟨j', by rw [turn_cancellations_ne _ _ same, h]⟩))
    · by_cases same : j' = j
      · subst same
        exact (found other i h other process hpolling).imp_right Or.inl
      · exact Or.inr (Or.inr (Or.inr ⟨j', by rw [turn_cancellations_ne _ _ same, h]⟩))
  · obtain ⟨j', h⟩ := hcalled
    by_cases same : j' = j
    · subst same
      rw [turn_cancellations_self] at h
      rcases called other h with before | new
      · exact absurd ⟨j', before⟩ was
      · exact Or.inr (Or.inr (taken (new i owner)))
    · rw [turn_cancellations_ne _ _ same] at h
      exact absurd ⟨j', h⟩ was

theorem Inv.sets (inv : Inv s) (launching cancelled waiters : List Int) :
    Inv { s with launching := launching, cancelled := cancelled, waiters := waiters } :=
  ⟨inv.owned, inv.ended, inv.answered⟩

theorem Inv.launchMove (inv : Inv s) {move : LaunchMove}
    (allowed : s.HandsOver (.launch i move)) (h : s.launchMove i move = some t) : Inv t := by
  cases hlaunch : s.launches i with
  | idle =>
      cases move <;> simp only [RunnerState.launchMove, hlaunch, reduceCtorEq] at h
      obtain rfl := Option.some.inj h
      refine inv.become_unowned (by rw [hlaunch]; rfl) (by split_ifs <;> rfl) ?_
      intro _ _ hended
      split_ifs at hended
      cases hended
  | checked generation =>
      cases move <;> simp only [RunnerState.launchMove, hlaunch, reduceCtorEq] at h
      case refuse =>
        obtain rfl := Option.some.inj h
        exact inv.become_unowned (by rw [hlaunch]; rfl) rfl (fun _ _ hended => by cases hended)
      case mark =>
        split_ifs at h
        · obtain rfl := Option.some.inj h
          exact inv.become_unowned (by rw [hlaunch]; rfl) rfl (fun _ _ hended => by cases hended)
        · obtain rfl := Option.some.inj h
          have marked : Inv (s.become i (.launching generation)) :=
            inv.become_unowned (by rw [hlaunch]; rfl) rfl (fun _ _ hended => by cases hended)
          exact marked.sets _ _ _
  | launching generation =>
      cases move <;> simp only [RunnerState.launchMove, hlaunch, reduceCtorEq] at h
      all_goals
        obtain rfl := Option.some.inj h
        exact inv.become_unowned (by rw [hlaunch]; rfl) rfl (fun _ _ hended => by cases hended)
  | failing generation =>
      cases move <;> simp only [RunnerState.launchMove, hlaunch, reduceCtorEq] at h
      obtain rfl := Option.some.inj h
      simp only [HandsOver, hlaunch] at allowed
      refine inv.release (Or.inl allowed) ?_ (fun _ hended => by cases hended) _
      intro other howner
      rw [hlaunch] at howner
      cases howner
  | started generation process =>
      cases move <;> simp only [RunnerState.launchMove, hlaunch, reduceCtorEq] at h
      obtain rfl := Option.some.inj h
      simp only [HandsOver, hlaunch] at allowed
      refine inv.register hlaunch allowed.1 ?_ _
      by_cases decided : generation ∈ s.cancelled ∧ generation ∉ s.waiters
      · exact Or.inl (if_pos decided)
      · exact Or.inr ⟨if_neg decided, fun called => (allowed.2 called).resolve_left decided⟩
  | requesting generation process =>
      cases move <;> simp only [RunnerState.launchMove, hlaunch, reduceCtorEq] at h
      obtain rfl := Option.some.inj h
      refine inv.become_owned (by rw [hlaunch]; rfl) (fun _ _ hended => by cases hended) ?_
      intro _ _ hpolling
      obtain ⟨rfl, rfl⟩ := Launch.polling.inj hpolling
      exact Or.inr (Or.inl rfl)
  | polling generation process =>
      cases move <;> simp only [RunnerState.launchMove, hlaunch, reduceCtorEq] at h
      obtain rfl := Option.some.inj h
      simp only [HandsOver, hlaunch] at allowed
      have owner : (s.launches i).owner = some generation := by rw [hlaunch]; rfl
      refine inv.release (Or.inr ((inv.owned generation i).mpr owner)) ?_ ?_ _
      · intro other howner
        exact Option.some.inj (howner.symm.trans owner)
      · intro ended hended
        rw [← Option.some.inj hended]
        exact allowed
  | ended generation process =>
      cases move <;> simp only [RunnerState.launchMove, hlaunch, reduceCtorEq] at h

/-- A flag of a process is raised. -/
theorem Inv.mapProcess (inv : Inv s) {f : OwnedProcess → OwnedProcess}
    (terminal : ∀ process, process.terminal = true → (f process).terminal = true)
    (requested : ∀ process, process.requested = true → (f process).requested = true) :
    Inv (s.become i ((s.launches i).mapProcess f)) := by
  refine inv.become_owned (Launch.mapProcess_owner ..) ?_ ?_
  · intro generation process hended
    cases hlaunch : s.launches i with
    | ended other before =>
        rw [hlaunch] at hended
        obtain ⟨rfl, hbefore⟩ := Launch.ended.inj hended
        obtain ⟨ended, rfl, rfl⟩ := Option.map_eq_some_iff.mp hbefore
        exact terminal ended (inv.ended i other ended hlaunch)
    | _ =>
        rw [hlaunch] at hended
        cases hended
  · intro generation process hpolling
    cases hlaunch : s.launches i with
    | polling other before =>
        rw [hlaunch] at hpolling
        obtain ⟨rfl, rfl⟩ := Launch.polling.inj hpolling
        exact Or.inr (Or.inr ⟨before, rfl, terminal before, requested before⟩)
    | _ =>
        rw [hlaunch] at hpolling
        cases hpolling

theorem Inv.cancelMove (inv : Inv s) {move : CancelMove}
    (h : s.cancelMove j move = some t) : Inv t := by
  cases hcancel : s.cancellations j with
  | idle =>
      cases move <;> simp only [RunnerState.cancelMove, hcancel, reduceCtorEq] at h
      case enter generation =>
        obtain rfl := Option.some.inj h
        refine (inv.sets _ _ _).turn ?_ ?_ ?_
        · intro other hother
          exact absurd (hcancel.symm.trans hother) (by simp)
        · intro other i hother
          exact absurd (hcancel.symm.trans hother) (by simp)
        · intro other hother
          refine Or.inr fun i howned => ?_
          have same : other = generation := by
            split at hother
            · simpa [Cancellation.generation] using hother.symm
            · split_ifs at hother <;> simpa [Cancellation.generation] using hother.symm
          subst same
          simp only at howned
          rw [howned]
  | waiting generation =>
      cases move <;> simp only [RunnerState.cancelMove, hcancel, reduceCtorEq] at h
      obtain rfl := Option.some.inj h
      refine inv.turn ?_ ?_ ?_
      · intro other hother i howned
        obtain rfl := Cancellation.waiting.inj (hcancel.symm.trans hother)
        rw [howned]
      · intro other i hother
        exact absurd (hcancel.symm.trans hother) (by simp)
      · intro other hother
        refine Or.inl ?_
        rw [hcancel]
        split at hother <;> exact hother
  | missed generation launching =>
      cases move <;> simp only [RunnerState.cancelMove, hcancel, reduceCtorEq] at h
      obtain rfl := Option.some.inj h
      refine (inv.sets _ _ _).turn ?_ ?_ ?_
      · intro other hother
        exact absurd (hcancel.symm.trans hother) (by simp)
      · intro other i hother
        exact absurd (hcancel.symm.trans hother) (by simp)
      · intro other hother
        exact Or.inl ((congrArg Cancellation.generation hcancel).trans hother)
  | found generation i =>
      cases move <;> simp only [RunnerState.cancelMove, hcancel, reduceCtorEq] at h
      obtain rfl := Option.some.inj h
      have raised := inv.mapProcess (i := i)
        (f := fun process => { process with requested := true })
        (fun _ terminal => terminal) (fun _ _ => rfl)
      refine raised.turn ?_ ?_ ?_
      · intro other hother
        exact absurd (hcancel.symm.trans hother) (by simp)
      · intro other i' hother _ process hpolling
        obtain ⟨_, rfl⟩ := Cancellation.found.inj (hcancel.symm.trans hother)
        right
        rw [become_launches_self] at hpolling
        cases hlaunch : s.launches i with
        | polling _ before =>
            rw [hlaunch] at hpolling
            obtain ⟨_, rfl⟩ := Launch.polling.inj hpolling
            rfl
        | _ =>
            rw [hlaunch] at hpolling
            cases hpolling
      · intro other hother
        exact Or.inl ((congrArg Cancellation.generation hcancel).trans hother)
  | requested generation i =>
      cases move <;> simp only [RunnerState.cancelMove, hcancel, reduceCtorEq] at h
      obtain rfl := Option.some.inj h
      refine (inv.sets _ _ _).turn ?_ ?_ ?_
      · intro other hother
        exact absurd (hcancel.symm.trans hother) (by simp)
      · intro other i hother
        exact absurd (hcancel.symm.trans hother) (by simp)
      · intro other hother
        exact Or.inl ((congrArg Cancellation.generation hcancel).trans hother)
  | done generation report =>
      cases move <;> simp only [RunnerState.cancelMove, hcancel, reduceCtorEq] at h

theorem Inv.step (inv : Inv s) {event : RunnerEvent} (allowed : s.HandsOver event)
    (h : s.step event = some t) : Inv t := by
  cases event with
  | launch i move => exact inv.launchMove allowed h
  | cancel j move => exact inv.cancelMove h
  | terminate i =>
      simp only [RunnerState.step] at h
      cases hprocess : (s.launches i).process with
      | none => simp [hprocess] at h
      | some started =>
          rw [hprocess] at h
          obtain rfl := Option.some.inj h
          exact inv.mapProcess (fun _ _ => rfl) (fun _ requested => requested)

end Steps

theorem Inv.initial : Inv {} := by
  refine ⟨?_, ?_, ?_⟩
  · intro generation i
    simp [Launch.owner]
  · intro i generation process h
    cases h
  · intro i generation process h
    cases h

theorem inv_of_reaches {s : RunnerState}
    (run : Reaches RunnerState.step RunnerState.HandsOver {} s) : Inv s :=
  run.invariant Inv.initial fun _ _ _ inv allowed h => inv.step allowed h

end RunnerState

end MncsForge.Runner
