import Mathlib
import MncsForge.Native.Core

/-!
# The native lifecycle kernel

`lifecycle.mncs`: the transition kernel behind the preflight, and the projection
of a bounded event history.  Counters are natural numbers; a history has at most
32 events, so they never wrap.
-/

namespace MncsForge.Native.Lifecycle

inductive Stage where
  | noEpoch
  | epochActive
  | candidateRegistered
  | evidenceIncomplete
  | candidateReady
  | candidateSelected
  | candidateRejected
  | candidateFrozen
  | evaluationComplete
  | ambiguousHistory
  | bundleComplete
  deriving DecidableEq, Repr

inductive Operation where
  | beginEpoch
  | registerCandidate
  | addEvidence
  | selectCandidate
  | rejectCandidate
  | freezeCandidate
  | recordEvaluation
  deriving DecidableEq, Repr

inductive EventKind where
  | empty
  | epochStarted
  | candidateRegistered
  | evidenceObserved
  | candidateSelected
  | candidateRejected
  | candidateFrozen
  | evaluationRecorded
  deriving DecidableEq, Repr

inductive Disposition where
  | undisposed
  | selected
  | rejected
  | conflict
  deriving DecidableEq, Repr

inductive Freshness where
  | notApplicable
  | current
  | stale
  | unknown
  deriving DecidableEq, Repr

structure HistoryEvent where
  kind : EventKind
  epoch : Digest32
  parentEpoch : Digest32
  candidate : Digest32
  parentCandidate : Digest32
  status : Status
  deriving DecidableEq

structure ProjectionInput where
  events : List HistoryEvent
  eventCount : Nat
  currentCandidate : Digest32
  requiredEvidence : Nat
  bundlePresent : Bool

structure LifecycleState where
  stage : Stage
  epoch : Digest32
  candidate : Digest32
  evidence : Status

structure TransitionRequest where
  operation : Operation
  epoch : Digest32
  candidate : Digest32
  evidence : Status

structure TransitionResult where
  state : LifecycleState
  status : Status
  reason : Nat

structure ProjectionState where
  stage : Stage
  activeEpoch : Digest32
  parentEpoch : Digest32
  currentCandidate : Digest32
  parentCandidate : Digest32
  evidence : Status
  disposition : Disposition
  freshness : Freshness
  lineageOk : Bool
  epochCount : Nat
  candidateCount : Nat
  evidenceCount : Nat
  frozen : Bool
  evaluated : Bool
  deriving DecidableEq

structure ProjectionResult where
  projection : ProjectionState
  status : Status
  reason : Nat
  deriving DecidableEq

section Kernel

variable (core : CoreLibrary)

/-! ## Transitions -/

def rejected (current : LifecycleState) (reason : Nat) : TransitionResult :=
  ⟨current, .fail, reason⟩

def beginEpoch (current : LifecycleState) (input : TransitionRequest) : TransitionResult :=
  if current.stage ≠ .noEpoch then rejected current 2
  else if core.isZero input.epoch then rejected current 1
  else ⟨⟨.epochActive, input.epoch, core.zero, .unknown⟩, .pass, 0⟩

def registerCandidate (current : LifecycleState) (input : TransitionRequest) :
    TransitionResult :=
  if current.stage ≠ .epochActive then rejected current 4
  else if core.isZero input.candidate then rejected current 3
  else ⟨⟨.candidateRegistered, current.epoch, input.candidate, .unknown⟩, .unknown, 0⟩

def addEvidence (current : LifecycleState) (input : TransitionRequest) : TransitionResult :=
  if current.stage ≠ .candidateRegistered ∧ current.stage ≠ .evidenceIncomplete then
    rejected current 7
  else
    match core.dominate current.evidence input.evidence with
    | .fail => ⟨⟨.candidateRejected, current.epoch, current.candidate, .fail⟩, .fail, 5⟩
    | .unknown =>
        ⟨⟨.evidenceIncomplete, current.epoch, current.candidate, .unknown⟩, .unknown, 6⟩
    | .pass => ⟨⟨.candidateReady, current.epoch, current.candidate, .pass⟩, .pass, 0⟩

def selectCandidate (current : LifecycleState) : TransitionResult :=
  if current.stage ≠ .candidateReady ∨ current.evidence ≠ .pass then rejected current 8
  else ⟨⟨.candidateSelected, current.epoch, current.candidate, .pass⟩, .pass, 0⟩

def rejectCandidate (current : LifecycleState) : TransitionResult :=
  if current.stage ≠ .candidateRegistered ∧ current.stage ≠ .evidenceIncomplete ∧
      current.stage ≠ .candidateReady then
    rejected current 10
  else ⟨⟨.candidateRejected, current.epoch, current.candidate, .fail⟩, .fail, 9⟩

def freezeCandidate (current : LifecycleState) : TransitionResult :=
  if current.stage ≠ .candidateSelected then rejected current 11
  else ⟨⟨.candidateFrozen, current.epoch, current.candidate, .pass⟩, .pass, 0⟩

def recordEvaluation (current : LifecycleState) (input : TransitionRequest) :
    TransitionResult :=
  if current.stage ≠ .candidateFrozen then rejected current 12
  else
    let combined := core.dominate current.evidence input.evidence
    ⟨⟨.evaluationComplete, current.epoch, current.candidate, combined⟩, combined, 0⟩

def apply (current : LifecycleState) (input : TransitionRequest) : TransitionResult :=
  if current.stage = .ambiguousHistory then rejected current 90
  else if input.operation ≠ .beginEpoch ∧ core.equal current.epoch input.epoch = false then
    rejected current 91
  else
    match input.operation with
    | .beginEpoch => beginEpoch core current input
    | .registerCandidate => registerCandidate core current input
    | .addEvidence => addEvidence core current input
    | .selectCandidate => selectCandidate current
    | .rejectCandidate => rejectCandidate current
    | .freezeCandidate => freezeCandidate current
    | .recordEvaluation => recordEvaluation core current input

/-! ## The history projection -/

def projectionInitial : ProjectionState where
  stage := .noEpoch
  activeEpoch := core.zero
  parentEpoch := core.zero
  currentCandidate := core.zero
  parentCandidate := core.zero
  evidence := .unknown
  disposition := .undisposed
  freshness := .notApplicable
  lineageOk := true
  epochCount := 0
  candidateCount := 0
  evidenceCount := 0
  frozen := false
  evaluated := false

def invalidProjection (current : ProjectionState) : ProjectionState :=
  { current with stage := .ambiguousHistory, freshness := .unknown, lineageOk := false }

def projectEpoch (current : ProjectionState) (event : HistoryEvent) : ProjectionState :=
  if core.isZero event.epoch then invalidProjection current
  else if core.validRootOrSuccessor event.parentEpoch current.activeEpoch = false then
    invalidProjection current
  else
    { stage := .epochActive
      activeEpoch := event.epoch
      parentEpoch := event.parentEpoch
      currentCandidate := core.zero
      parentCandidate := core.zero
      evidence := .unknown
      disposition := .undisposed
      freshness := .notApplicable
      lineageOk := current.lineageOk
      epochCount := current.epochCount + 1
      candidateCount := current.candidateCount
      evidenceCount := 0
      frozen := false
      evaluated := false }

def projectCandidate (current : ProjectionState) (event : HistoryEvent) : ProjectionState :=
  if core.isZero current.activeEpoch ∨ core.equal event.epoch current.activeEpoch = false then
    invalidProjection current
  else if core.isZero event.candidate then invalidProjection current
  else if core.equal event.parentCandidate event.candidate then invalidProjection current
  else if core.validRootOrSuccessor event.parentCandidate current.currentCandidate = false then
    invalidProjection current
  else
    { stage := .candidateRegistered
      activeEpoch := current.activeEpoch
      parentEpoch := current.parentEpoch
      currentCandidate := event.candidate
      parentCandidate := event.parentCandidate
      evidence := .unknown
      disposition := .undisposed
      freshness := .unknown
      lineageOk := current.lineageOk
      epochCount := current.epochCount
      candidateCount := current.candidateCount + 1
      evidenceCount := 0
      frozen := false
      evaluated := false }

def joinEvidence (current : ProjectionState) (observed : Status) : Status :=
  if current.evidenceCount = 0 then observed else core.dominate current.evidence observed

def projectEvidence (current : ProjectionState) (event : HistoryEvent) : ProjectionState :=
  if core.isZero current.currentCandidate then invalidProjection current
  else if core.equal event.candidate current.currentCandidate = false then
    invalidProjection current
  else if current.frozen then invalidProjection current
  else if current.evaluated then invalidProjection current
  else
    { current with
      stage := .evidenceIncomplete
      evidence := joinEvidence core current event.status
      evidenceCount := current.evidenceCount + 1 }

def projectSelected (current : ProjectionState) (event : HistoryEvent) : ProjectionState :=
  if core.equal event.candidate current.currentCandidate = false then
    invalidProjection current
  else if current.disposition ≠ .undisposed then invalidProjection current
  else { current with stage := .candidateSelected, disposition := .selected }

def projectRejected (current : ProjectionState) (event : HistoryEvent) : ProjectionState :=
  if core.equal event.candidate current.currentCandidate = false then
    invalidProjection current
  else if current.disposition ≠ .undisposed then invalidProjection current
  else
    { current with
      stage := .candidateRejected, evidence := .fail, disposition := .rejected }

def projectFrozen (current : ProjectionState) (event : HistoryEvent) : ProjectionState :=
  if core.equal event.candidate current.currentCandidate = false then
    invalidProjection current
  else if current.disposition ≠ .selected then invalidProjection current
  else if current.frozen then invalidProjection current
  else { current with stage := .candidateFrozen, frozen := true }

def projectEvaluation (current : ProjectionState) (event : HistoryEvent) : ProjectionState :=
  if core.equal event.candidate current.currentCandidate = false then
    invalidProjection current
  else if current.disposition ≠ .selected then invalidProjection current
  else if current.frozen = false then invalidProjection current
  else if current.evaluated then invalidProjection current
  else
    { current with
      stage := .evaluationComplete
      evidence := joinEvidence core current event.status
      evaluated := true }

def projectEvent (current : ProjectionState) (event : HistoryEvent) : ProjectionState :=
  match event.kind with
  | .empty => current
  | .epochStarted => projectEpoch core current event
  | .candidateRegistered => projectCandidate core current event
  | .evidenceObserved => projectEvidence core current event
  | .candidateSelected => projectSelected core current event
  | .candidateRejected => projectRejected core current event
  | .candidateFrozen => projectFrozen core current event
  | .evaluationRecorded => projectEvaluation core current event

def undisposedStage (current : ProjectionState) (requiredEvidence : Nat) : Stage :=
  if current.evidenceCount = 0 then .candidateRegistered
  else if current.evidence = .pass ∧ requiredEvidence ≤ current.evidenceCount then
    .candidateReady
  else .evidenceIncomplete

def projectStage (current : ProjectionState) (requiredEvidence : Nat)
    (bundlePresent : Bool) : Stage :=
  if current.lineageOk = false then .ambiguousHistory
  else if core.isZero current.activeEpoch then .noEpoch
  else if core.isZero current.currentCandidate then .epochActive
  else if bundlePresent then .bundleComplete
  else if current.evaluated then .evaluationComplete
  else if current.frozen then .candidateFrozen
  else
    match current.disposition with
    | .selected => .candidateSelected
    | .rejected => .candidateRejected
    | .conflict => .ambiguousHistory
    | .undisposed => undisposedStage current requiredEvidence

def selectedStatus (evidence : Status) : Status :=
  if evidence = .pass then .pass else .unknown

def projectStatus (stage : Stage) (evidence : Status) : Status :=
  match stage with
  | .noEpoch | .epochActive | .candidateRegistered | .ambiguousHistory => .unknown
  | .candidateRejected => .fail
  | .candidateReady => .pass
  | .evidenceIncomplete | .evaluationComplete => evidence
  | .candidateSelected | .candidateFrozen | .bundleComplete => selectedStatus evidence

def projectEvents (input : ProjectionInput) (initial : ProjectionState) : ProjectionState :=
  if 32 < input.eventCount then invalidProjection initial
  else foldActive (projectEvent core) input.eventCount input.events initial

def projectFreshness (current : ProjectionState) (input : ProjectionInput) : Freshness :=
  if core.isZero current.currentCandidate then .notApplicable
  else if core.equal current.currentCandidate input.currentCandidate then .current
  else .stale

def projectReason (current : ProjectionState) (input : ProjectionInput) : Nat :=
  if 32 < input.eventCount then 91
  else if current.lineageOk = false then 90
  else 0

def project (input : ProjectionInput) : ProjectionResult :=
  let projected := projectEvents core input (projectionInitial core)
  let stage := projectStage core projected input.requiredEvidence input.bundlePresent
  { projection :=
      { projected with
        stage := stage, freshness := projectFreshness core projected input }
    status := projectStatus stage projected.evidence
    reason := projectReason projected input }

/-! ## The typed preflight -/

/-- The synthetic identities of the preflight. -/
def probe (first : UInt8) : Digest32 := ⟨first :: List.replicate 31 0, rfl⟩

/-- `lifecycle_preflight` of the core module. -/
def preflight (stage : Stage) (operation : Operation) (evidence : Status) :
    TransitionResult :=
  apply core ⟨stage, probe 1, probe 2, evidence⟩ ⟨operation, probe 1, probe 2, evidence⟩

end Kernel

end MncsForge.Native.Lifecycle
