import Mathlib

/-!
# Resource transitions of continuous verification

`verification_resource_transition` of the native core decides what happens to a
verification obligation.  A generation is an `i64` of the source.
-/

namespace MncsForge.Native.Continuous

inductive ResourceOutcomeStatus where
  | pass
  | fail
  | resourceLimit
  | resourcePressure
  | timeout
  | outputLimit
  | unknown
  | cleanupFailure
  | cancelled
  | stale
  deriving DecidableEq, Repr

inductive VerificationEvidenceStatus where
  | notRun
  | pass
  | fail
  | unknown
  deriving DecidableEq, Repr

inductive VerificationDisposition where
  | run
  | defer
  | remainPending
  | deferRemaining
  | remainPendingAndDeferRemaining
  | resolve
  | cancelStale
  | discardStale
  | escalateUnknown
  deriving DecidableEq, Repr

structure ContinuousResourceState where
  currentGeneration : Int
  workGeneration : Int
  sourceIdentityMatches : Bool
  verificationRequired : Bool
  inFlight : Bool
  hasOutcome : Bool
  resourceOutcomeObserved : Bool
  outcome : ResourceOutcomeStatus
  evidenceStatus : VerificationEvidenceStatus
  pendingExists : Bool
  pendingCount : Int
  pendingCapacity : Int
  queueRemaining : Int
  resourceGateClosed : Bool

structure VerificationResourceTransition where
  disposition : VerificationDisposition
  evidenceStatus : VerificationEvidenceStatus
  retainCurrentPending : Bool
  deferRemaining : Bool
  cancelOwnedWork : Bool
  cleanupRequired : Bool
  deriving DecidableEq, Repr

def verificationTransition (disposition : VerificationDisposition)
    (status : VerificationEvidenceStatus) (retainPending deferRemaining cancelOwnedWork : Bool) :
    VerificationResourceTransition where
  disposition := disposition
  evidenceStatus := status
  retainCurrentPending := retainPending
  deferRemaining := deferRemaining
  cancelOwnedWork := cancelOwnedWork
  cleanupRequired := cancelOwnedWork

def verificationStatusResolved : VerificationEvidenceStatus → Bool
  | .notRun => false
  | .pass => true
  | .fail => true
  | .unknown => false

def verificationStatusUnknown : VerificationEvidenceStatus → Bool
  | .notRun => false
  | .pass => false
  | .fail => false
  | .unknown => true

def verificationResourceOutcomeResolved : ResourceOutcomeStatus → Bool
  | .pass => true
  | .fail => true
  | .resourceLimit | .resourcePressure | .timeout | .outputLimit | .unknown
  | .cleanupFailure | .cancelled | .stale => false

def verificationResourceOutcomeRequiresPending : ResourceOutcomeStatus → Bool
  | .pass => false
  | .fail => false
  | .resourceLimit | .resourcePressure | .timeout | .outputLimit | .unknown
  | .cleanupFailure => true
  | .cancelled => false
  | .stale => false

def verificationResourceTransition (state : ContinuousResourceState) :
    VerificationResourceTransition :=
  let canRetain := state.pendingExists || decide (state.pendingCount < state.pendingCapacity)
  let shouldRetain := verificationResourceOutcomeRequiresPending state.outcome ||
    verificationStatusUnknown state.evidenceStatus
  if state.workGeneration < state.currentGeneration ∨ state.sourceIdentityMatches = false then
    if state.inFlight then
      verificationTransition .cancelStale .unknown false false true
    else
      verificationTransition .discardStale .unknown false false false
  else if state.workGeneration > state.currentGeneration then
    verificationTransition .escalateUnknown .unknown false false false
  else if state.verificationRequired = false then
    verificationTransition .resolve state.evidenceStatus false false false
  else if state.resourceGateClosed = true ∧ state.hasOutcome = false then
    if canRetain = false then
      verificationTransition .escalateUnknown .unknown false (state.queueRemaining > 0) false
    else if state.queueRemaining > 0 then
      verificationTransition .remainPendingAndDeferRemaining .unknown true true false
    else
      verificationTransition .remainPending .unknown true false false
  else if state.hasOutcome = false then
    verificationTransition .run .notRun false false false
  else if verificationStatusResolved state.evidenceStatus = true ∧
      (state.resourceOutcomeObserved = false ∨
        verificationResourceOutcomeResolved state.outcome = true) then
    verificationTransition .resolve state.evidenceStatus false false false
  else if state.pendingCount < 0 ∨ state.pendingCapacity < 0 ∨ state.queueRemaining < 0 then
    verificationTransition .escalateUnknown .unknown false false false
  else if canRetain = false then
    verificationTransition .escalateUnknown .unknown false (state.queueRemaining > 0) false
  else if shouldRetain = true ∧ state.queueRemaining > 0 then
    verificationTransition .remainPendingAndDeferRemaining .unknown true true false
  else if shouldRetain then
    verificationTransition .remainPending .unknown true false false
  else
    verificationTransition .resolve state.evidenceStatus false false false

/-- Owned work is cancelled when it is in flight and stale. -/
theorem verificationResourceTransition_cancelOwnedWork (state : ContinuousResourceState) :
    (verificationResourceTransition state).cancelOwnedWork = true ↔
      state.inFlight = true ∧
        (state.workGeneration < state.currentGeneration ∨
          state.sourceIdentityMatches = false) := by
  by_cases stale : state.workGeneration < state.currentGeneration ∨
      state.sourceIdentityMatches = false
  · cases inFlight : state.inFlight <;>
      simp [verificationResourceTransition, verificationTransition, stale, inFlight]
  · rw [verificationResourceTransition, if_neg stale]
    refine iff_of_false ?_ fun h => stale h.2
    repeat' split
    all_goals exact Bool.false_ne_true

/-- What is retained finds a place. -/
theorem canRetain_of_retain {state : ContinuousResourceState}
    (h : (verificationResourceTransition state).retainCurrentPending = true) :
    state.pendingExists = true ∨ state.pendingCount < state.pendingCapacity := by
  by_contra full
  have refused : (state.pendingExists || decide (state.pendingCount < state.pendingCapacity)) =
      false := by simpa using full
  simp only [verificationResourceTransition, refused, if_true] at h
  repeat' split at h
  all_goals simp [verificationTransition] at h

/-- A deferred obligation that is not stale is retained or escalated. -/
theorem deferred_disposition {state : ContinuousResourceState}
    (fresh : state.currentGeneration ≤ state.workGeneration)
    (same : state.sourceIdentityMatches = true) (required : state.verificationRequired = true)
    (gate : state.resourceGateClosed = true) (unanswered : state.hasOutcome = false) :
    (verificationResourceTransition state).retainCurrentPending = true ∨
      (verificationResourceTransition state).disposition = .escalateUnknown := by
  have current : ¬(state.workGeneration < state.currentGeneration ∨
      state.sourceIdentityMatches = false) := by
    simp [same, fresh]
  simp only [verificationResourceTransition, if_neg current, required, gate, unanswered]
  repeat' split
  all_goals simp_all [verificationTransition]

/-- Nothing that is up to date is discarded. -/
theorem stale_of_discard {state : ContinuousResourceState}
    (h : (verificationResourceTransition state).disposition = .discardStale ∨
      (verificationResourceTransition state).disposition = .cancelStale) :
    state.workGeneration < state.currentGeneration ∨ state.sourceIdentityMatches = false := by
  by_contra current
  simp only [verificationResourceTransition, if_neg current] at h
  repeat' split at h
  all_goals simp [verificationTransition] at h

/-! ## What becomes of an obligation -/

/-- The work is of an older generation or of another source. -/
def ContinuousResourceState.Superseded (state : ContinuousResourceState) : Prop :=
  state.workGeneration < state.currentGeneration ∨ state.sourceIdentityMatches = false

/-- Room for one more pending obligation. -/
def ContinuousResourceState.CanRetain (state : ContinuousResourceState) : Prop :=
  state.pendingExists = true ∨ state.pendingCount < state.pendingCapacity

/-- An answered obligation without evidence gets past each early return. -/
structure ContinuousResourceState.FallsThrough (state : ContinuousResourceState) : Prop where
  generation : state.workGeneration = state.currentGeneration
  source : state.sourceIdentityMatches = true
  required : state.verificationRequired = true
  answered : state.hasOutcome = true
  unseen : state.evidenceStatus = .notRun
  outcome : verificationResourceOutcomeRequiresPending state.outcome = false
  count : 0 ≤ state.pendingCount
  capacity : 0 ≤ state.pendingCapacity
  remaining : 0 ≤ state.queueRemaining
  room : state.CanRetain

/-- The obligation is dropped. -/
def VerificationResourceTransition.Drops (transition : VerificationResourceTransition) : Prop :=
  transition.disposition = .resolve ∧ transition.retainCurrentPending = false

/-- The obligation is run, retained pending or escalated as unknown. -/
inductive VerificationResourceTransition.Keeps (transition : VerificationResourceTransition) :
    Prop where
  | run (disposition : transition.disposition = .run)
  | alone (disposition : transition.disposition = .remainPending)
      (retained : transition.retainCurrentPending = true)
  | withRest (disposition : transition.disposition = .remainPendingAndDeferRemaining)
      (retained : transition.retainCurrentPending = true)
      (rest : transition.deferRemaining = true)
  | escalated (disposition : transition.disposition = .escalateUnknown)
      (status : transition.evidenceStatus = .unknown)

/-- The transition accounts for the obligation of a state. -/
structure AccountsForObligation (state : ContinuousResourceState) : Prop where
  drops : (verificationResourceTransition state).Drops →
    state.verificationRequired = false ∨
      state.evidenceStatus = .pass ∨ state.evidenceStatus = .fail
  keeps : ¬state.Superseded → state.verificationRequired = true →
    verificationStatusResolved state.evidenceStatus = false →
      (verificationResourceTransition state).Keeps
  stale : (verificationResourceTransition state).disposition = .cancelStale ∨
    (verificationResourceTransition state).disposition = .discardStale ↔ state.Superseded
  room : (verificationResourceTransition state).retainCurrentPending = true → state.CanRetain

theorem verificationStatusResolved_iff {status : VerificationEvidenceStatus} :
    verificationStatusResolved status = true ↔ status = .pass ∨ status = .fail := by
  cases status <;> simp [verificationStatusResolved]

/-- What is superseded is cancelled or discarded, and nothing else is. -/
theorem stale_iff (state : ContinuousResourceState) :
    ((verificationResourceTransition state).disposition = .cancelStale ∨
      (verificationResourceTransition state).disposition = .discardStale) ↔
        state.Superseded := by
  refine ⟨fun h => stale_of_discard h.symm, fun superseded => ?_⟩
  unfold ContinuousResourceState.Superseded at superseded
  rw [verificationResourceTransition, if_pos superseded]
  cases state.inFlight
  · exact Or.inr rfl
  · exact Or.inl rfl

/-- A state that falls through is resolved with the evidence it does not have. -/
theorem transition_of_fallsThrough {state : ContinuousResourceState}
    (falls : state.FallsThrough) :
    verificationResourceTransition state =
      verificationTransition .resolve .notRun false false false := by
  have current : ¬(state.workGeneration < state.currentGeneration ∨
      state.sourceIdentityMatches = false) := by
    simp [falls.generation, falls.source]
  have room : (state.pendingExists || decide (state.pendingCount < state.pendingCapacity)) =
      true := by
    simpa [ContinuousResourceState.CanRetain] using falls.room
  have counts : ¬(state.pendingCount < 0 ∨ state.pendingCapacity < 0 ∨
      state.queueRemaining < 0) := by
    have := falls.count
    have := falls.capacity
    have := falls.remaining
    omega
  rw [verificationResourceTransition, if_neg current]
  simp [falls.generation, falls.required, falls.answered, falls.unseen, falls.outcome, room,
    counts, verificationStatusResolved, verificationStatusUnknown]

/-- Each other required obligation without a resolved evidence is kept. -/
theorem keeps_of_not_fallsThrough {state : ContinuousResourceState}
    (through : ¬state.FallsThrough) (current : ¬state.Superseded)
    (required : state.verificationRequired = true)
    (unresolved : verificationStatusResolved state.evidenceStatus = false) :
    (verificationResourceTransition state).Keeps := by
  unfold ContinuousResourceState.Superseded at current
  rw [verificationResourceTransition, if_neg current]
  by_cases newer : state.workGeneration > state.currentGeneration
  · rw [if_pos newer]
    exact .escalated rfl rfl
  · rw [if_neg newer, if_neg (by simp [required])]
    cases answered : state.hasOutcome with
    | false =>
        cases closed : state.resourceGateClosed with
        | false => exact .run rfl
        | true =>
            simp only [and_self, if_true]
            split_ifs
            · exact .escalated rfl rfl
            · exact .withRest rfl rfl rfl
            · exact .alone rfl rfl
    | true =>
        simp only [unresolved, Bool.true_eq_false, Bool.false_eq_true, and_false, false_and,
          if_false]
        split_ifs with counts full both retained
        · exact .escalated rfl rfl
        · exact .escalated rfl rfl
        · exact .withRest rfl rfl rfl
        · exact .alone rfl rfl
        · -- what is left has a resolved outcome and no evidence
          exfalso
          obtain ⟨source, generation⟩ : state.sourceIdentityMatches = true ∧
              ¬state.workGeneration < state.currentGeneration := by
            simpa [and_comm] using current
          have passed : verificationResourceOutcomeRequiresPending state.outcome = false ∧
              verificationStatusUnknown state.evidenceStatus = false := by
            simpa using retained
          have room : state.CanRetain := by
            simpa [ContinuousResourceState.CanRetain, or_iff_not_imp_left] using full
          refine through ⟨by omega, source, required, answered, ?_, passed.1, by omega,
            by omega, by omega, room⟩
          cases evidence : state.evidenceStatus <;>
            simp_all [verificationStatusResolved, verificationStatusUnknown]

/-- The transition accounts for the obligation of each state but those that fall
through. -/
theorem accountsForObligation_iff (state : ContinuousResourceState) :
    AccountsForObligation state ↔ ¬state.FallsThrough := by
  constructor
  · intro accounts falls
    have dropped : (verificationResourceTransition state).Drops := by
      rw [transition_of_fallsThrough falls]
      exact ⟨rfl, rfl⟩
    rcases accounts.drops dropped with free | pass | fail
    · simp [falls.required] at free
    · simp [falls.unseen] at pass
    · simp [falls.unseen] at fail
  · intro through
    refine ⟨fun dropped => ?_, keeps_of_not_fallsThrough through, stale_iff state,
      canRetain_of_retain⟩
    by_contra owed
    obtain ⟨required, unresolved⟩ : state.verificationRequired = true ∧
        ¬(state.evidenceStatus = .pass ∨ state.evidenceStatus = .fail) := by
      simpa using owed
    have current : ¬state.Superseded := fun superseded => by
      rcases (stale_iff state).mpr superseded with h | h <;> simp [dropped.1] at h
    have pending : verificationStatusResolved state.evidenceStatus = false := by
      simpa using fun resolved => unresolved (verificationStatusResolved_iff.mp resolved)
    cases keeps_of_not_fallsThrough through current required pending with
    | run h => simp [dropped.1] at h
    | alone h => simp [dropped.1] at h
    | withRest h => simp [dropped.1] at h
    | escalated h => simp [dropped.1] at h

/-- An observed outcome is resolved although no verifier has run. -/
def passWithoutEvidence : ContinuousResourceState where
  currentGeneration := 7
  workGeneration := 7
  sourceIdentityMatches := true
  verificationRequired := true
  inFlight := false
  hasOutcome := true
  resourceOutcomeObserved := true
  outcome := .pass
  evidenceStatus := .notRun
  pendingExists := false
  pendingCount := 0
  pendingCapacity := 64
  queueRemaining := 0
  resourceGateClosed := false

theorem passWithoutEvidence_unaccounted :
    ¬AccountsForObligation passWithoutEvidence := by
  intro accounts
  have dropped : (verificationResourceTransition passWithoutEvidence).Drops := by
    constructor <;> decide
  rcases accounts.drops dropped with h | h | h <;> simp [passWithoutEvidence] at h

end MncsForge.Native.Continuous
