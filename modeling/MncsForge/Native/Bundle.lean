import Mathlib
import MncsForge.Native.Core

/-!
# The native bundle kernel

`bundle.mncs`: whether the host may attempt a declared bundle workflow, decided
from projected observations.
-/

namespace MncsForge.Native.Bundle

inductive BundleMode where
  | development
  | evaluator
  deriving DecidableEq, Repr

inductive BundleReason where
  | ready
  | invalidRequest
  | noCandidate
  | candidateMismatch
  | candidateStale
  | freezeMissing
  | freezeStale
  | selectionMissing
  | invalid
  deriving DecidableEq, Repr

structure BundleInput where
  requestedCandidate : Digest32
  currentCandidate : Digest32
  candidatePresent : Bool
  candidateMatches : Bool
  candidateCurrent : Bool
  selected : Bool
  frozen : Bool
  freezeCurrent : Bool
  mode : BundleMode
  requestValid : Bool
  evidenceStatus : Status
  evidenceReady : Bool

structure BundleState where
  ready : Bool
  status : Status
  reason : BundleReason
  valid : Bool
  evidenceStatus : Status
  evidenceReady : Bool

structure BundleResult where
  state : BundleState
  status : Status
  reason : BundleReason

def output (input : BundleInput) (ready : Bool) (statusValue : Status)
    (reasonValue : BundleReason) (valid : Bool) : BundleResult where
  state :=
    { ready := ready
      status := statusValue
      reason := reasonValue
      valid := valid
      evidenceStatus := input.evidenceStatus
      evidenceReady := input.evidenceReady }
  status := statusValue
  reason := reasonValue

section Kernel

variable (core : CoreLibrary)

def project (input : BundleInput) : BundleResult :=
  let identitiesValid :=
    input.candidatePresent && core.boolNot (core.isZero input.currentCandidate) &&
      core.boolNot (core.isZero input.requestedCandidate)
  if core.boolNot input.requestValid then output input false .fail .invalidRequest true
  else if core.boolNot input.candidatePresent || core.boolNot identitiesValid then
    output input false .unknown .noCandidate true
  else
    let identityMatches :=
      input.candidateMatches && core.equal input.currentCandidate input.requestedCandidate
    match input.mode with
    | .evaluator =>
        if core.boolNot input.frozen then output input false .unknown .freezeMissing true
        else if core.boolNot identityMatches then
          output input false .fail .candidateMismatch true
        else if core.boolNot input.candidateCurrent then
          output input false .unknown .candidateStale true
        else if core.boolNot input.selected then
          output input false .unknown .selectionMissing true
        else if core.boolNot input.freezeCurrent then
          output input false .unknown .freezeStale true
        else output input true .pass .ready true
    | .development =>
        if core.boolNot identityMatches then
          output input false .fail .candidateMismatch true
        else if core.boolNot input.candidateCurrent then
          output input false .unknown .candidateStale true
        else output input true .pass .ready true

end Kernel

end MncsForge.Native.Bundle
