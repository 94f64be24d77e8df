import Mathlib
import MncsForge.Native.Lifecycle

/-!
# The native readiness kernel

`readiness.mncs`: each requirement is classified from its observed statuses and
its comparison flags, and the classifications are counted.  Arrays have 16
requirements of 8 statuses; counters never wrap below that.
-/

namespace MncsForge.Native.Readiness

open Lifecycle (Freshness)

inductive RequirementClass where
  | present
  | missing
  | failed
  | unknown
  | stale
  | nonComparable
  deriving DecidableEq, Repr

inductive ReadinessReason where
  | ready
  | policyInvalid
  | noCandidate
  | failed
  | missing
  | unknown
  | stale
  | nonComparable
  | invalid
  deriving DecidableEq, Repr

structure RequirementInput where
  identity : Digest32
  statuses : List Status
  count : Nat
  freshness : Freshness
  comparable : Bool
  environmentMatch : Bool
  policyMatch : Bool
  authorityMatch : Bool

structure RequirementProjection where
  identity : Digest32
  classification : RequirementClass
  passCount : Nat
  failCount : Nat
  unknownCount : Nat
  observedCount : Nat
  stale : Bool
  noncomparable : Bool
  valid : Bool
  deriving DecidableEq

structure ReadinessInput where
  requirements : List RequirementInput
  requirementCount : Nat
  candidatePresent : Bool
  policyValid : Bool

structure ReadinessState where
  requirements : List RequirementProjection
  requirementCount : Nat
  activeRequirementCount : Nat
  presentCount : Nat
  missingCount : Nat
  failedCount : Nat
  unknownCount : Nat
  staleCount : Nat
  noncomparableCount : Nat
  ready : Bool
  status : Status
  valid : Bool

structure ReadinessResult where
  state : ReadinessState
  status : Status
  reason : ReadinessReason

def freshnessIsStale : Freshness → Bool
  | .stale => true
  | _ => false

def freshnessIsUnknown : Freshness → Bool
  | .notApplicable | .unknown => true
  | _ => false

def readinessStatus (ready : Bool) (failedCount : Nat) : Status :=
  if ready then .pass
  else if 0 < failedCount then .fail
  else .unknown

section Kernel

variable (core : CoreLibrary)

def classifyRequirement (summary : StatusSummary) (identity : Digest32)
    (stale noncomparable : Bool) : RequirementClass :=
  if core.boolNot summary.valid || core.isZero identity then .nonComparable
  else if summary.observedCount = 0 then .missing
  else if 0 < summary.failCount then .failed
  else if 0 < summary.unknownCount then .unknown
  else if stale then .stale
  else if noncomparable then .nonComparable
  else .present

def readinessReason (policyValid candidatePresent ready : Bool)
    (failedCount missingCount unknownCount staleCount : Nat) : ReadinessReason :=
  if core.boolNot policyValid then .policyInvalid
  else if core.boolNot candidatePresent then .noCandidate
  else if ready then .ready
  else if 0 < failedCount then .failed
  else if 0 < missingCount then .missing
  else if 0 < unknownCount then .unknown
  else if 0 < staleCount then .stale
  else .nonComparable

def requirement (input : RequirementInput) : RequirementProjection :=
  let summary := core.summarizePrefix input.statuses input.count
  let stale := freshnessIsStale input.freshness
  let noncomparable :=
    freshnessIsUnknown input.freshness || core.boolNot input.comparable ||
      core.boolNot input.environmentMatch || core.boolNot input.policyMatch ||
      core.boolNot input.authorityMatch
  { identity := input.identity
    classification := classifyRequirement core summary input.identity stale noncomparable
    passCount := summary.passCount
    failCount := summary.failCount
    unknownCount := summary.unknownCount
    observedCount := summary.observedCount
    stale := stale
    noncomparable := noncomparable
    valid := summary.valid && core.boolNot (core.isZero input.identity) }

def emptyRequirement : RequirementProjection where
  identity := core.zero
  classification := .missing
  passCount := 0
  failCount := 0
  unknownCount := 0
  observedCount := 0
  stale := false
  noncomparable := false
  valid := true

def initial : ReadinessState where
  requirements := List.replicate 16 (emptyRequirement core)
  requirementCount := 0
  activeRequirementCount := 0
  presentCount := 0
  missingCount := 0
  failedCount := 0
  unknownCount := 0
  staleCount := 0
  noncomparableCount := 0
  ready := false
  status := .pass
  valid := true

def addRequirement (current : ReadinessState) (input : RequirementInput) : ReadinessState :=
  let projected := requirement core input
  { current with
    requirements := current.requirements.set current.requirementCount projected
    requirementCount := current.requirementCount + 1
    activeRequirementCount := current.activeRequirementCount + 1
    presentCount := current.presentCount + (decide (0 < projected.observedCount)).toNat
    missingCount :=
      current.missingCount + (decide (projected.classification = .missing)).toNat
    failedCount := current.failedCount + (decide (projected.classification = .failed)).toNat
    unknownCount :=
      current.unknownCount + (decide (projected.classification = .unknown)).toNat
    staleCount := current.staleCount + projected.stale.toNat
    noncomparableCount := current.noncomparableCount + projected.noncomparable.toNat
    valid := current.valid && projected.valid }

/-- Whether the fold meets the declared count. -/
def reached (input : ReadinessInput) : Bool :=
  decide (input.requirementCount = 0) ||
    input.requirements.zipIdx.any fun slot => slot.2 + 1 = input.requirementCount

def project (input : ReadinessInput) : ReadinessResult :=
  let state :=
    foldActive (addRequirement core) input.requirementCount input.requirements (initial core)
  if core.boolNot (state.valid && reached input) then
    { state := { state with ready := false, status := .unknown, valid := false }
      status := .unknown
      reason := .invalid }
  else
    let ready :=
      input.candidatePresent && input.policyValid && decide (state.failedCount = 0) &&
        decide (state.missingCount = 0) && decide (state.unknownCount = 0) &&
        decide (state.staleCount = 0) && decide (state.noncomparableCount = 0)
    let status := readinessStatus ready state.failedCount
    { state := { state with ready := ready, status := status, valid := true }
      status := status
      reason :=
        readinessReason core input.policyValid input.candidatePresent ready
          state.failedCount state.missingCount state.unknownCount state.staleCount }

/-! ## The counted state -/

/-- The state the fold reaches over a list of projected requirements. -/
def tally (projected : List RequirementProjection) : ReadinessState where
  requirements :=
    projected ++ List.replicate (16 - projected.length) (emptyRequirement core)
  requirementCount := projected.length
  activeRequirementCount := projected.length
  presentCount := projected.countP fun item => decide (0 < item.observedCount)
  missingCount := projected.countP fun item => decide (item.classification = .missing)
  failedCount := projected.countP fun item => decide (item.classification = .failed)
  unknownCount := projected.countP fun item => decide (item.classification = .unknown)
  staleCount := projected.countP fun item => item.stale
  noncomparableCount := projected.countP fun item => item.noncomparable
  ready := false
  status := .pass
  valid := projected.all fun item => item.valid

theorem foldl_addRequirement (inputs : List RequirementInput) (h : inputs.length ≤ 16) :
    inputs.foldl (addRequirement core) (initial core) =
      tally core (inputs.map (requirement core)) := by
  induction inputs using List.reverseRecOn with
  | nil => rfl
  | append_singleton inputs input ih =>
      rw [List.length_append, List.length_singleton] at h
      rw [List.foldl_append, ih (by omega), List.map_append]
      have slots : 16 - inputs.length = (16 - (inputs.length + 1)) + 1 := by omega
      simp only [List.foldl_cons, List.foldl_nil, addRequirement, tally, List.map_cons,
        List.map_nil, countP_snoc, List.length_append, List.length_map, List.length_cons,
        List.length_nil, List.all_append, List.all_cons, List.all_nil, Bool.and_true,
        List.append_assoc, ReadinessState.mk.injEq, and_true]
      rw [List.set_append_right _ _ (by simp), List.length_map, Nat.sub_self, slots,
        List.replicate_succ, List.set_cons_zero, List.singleton_append]

end Kernel

end MncsForge.Native.Readiness
