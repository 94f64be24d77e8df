import Mathlib
import MncsForge.Records.Record
import MncsForge.Native.Readiness
import MncsForge.Native.Bundle

/-!
# The native adapter

The host side of the native kernels: it turns records and identity texts into
kernel inputs and checks what comes back.  The language runtime is taken to run
the kernels; SHA-256 and the core library are parameters.
-/

namespace MncsForge.Native

open MncsForge.Foundation MncsForge.Records

structure NativeForgeAdapter where
  core : CoreLibrary
  sha256 : List UInt8 → Digest32

/-! ## Values -/

/-- `_digest_value` and `_identity_digest`, which agree on texts and `None`. -/
def digestValue (value : Json) (context : String) : Except ForgeError Digest32 :=
  match value with
  | .null => .ok Digest32.zero
  | .str text =>
      if text = "" then .ok Digest32.zero
      else
        match fromHex? (afterLastColon text) with
        | none =>
            .error ⟨"NATIVE_LIFECYCLE_UNKNOWN", s!"{context} is not a digest identity"⟩
        | some bytes =>
            match Digest32.ofBytes? bytes with
            | none =>
                .error ⟨"NATIVE_LIFECYCLE_UNKNOWN", s!"{context} is not a 32-byte digest"⟩
            | some digest => .ok digest
  | _ => .error ⟨"NATIVE_LIFECYCLE_UNKNOWN", s!"{context} is not a digest identity"⟩

@[simp] theorem digestValue_null (context : String) :
    digestValue .null context = .ok Digest32.zero := rfl

/-- The digest a value stands for, whatever it is read as. -/
def valueDigest? : Json → Option Digest32
  | .null => some Digest32.zero
  | .str text => if text = "" then some Digest32.zero else identityDigest? text
  | _ => none

theorem digestValue_eq_ok {value : Json} {context : String} {d : Digest32} :
    digestValue value context = .ok d ↔ valueDigest? value = some d := by
  cases value with
  | str text =>
      by_cases hempty : text = ""
      · simp [digestValue, valueDigest?, hempty]
      · simp only [digestValue, valueDigest?, if_neg hempty, identityDigest?]
        cases fromHex? (afterLastColon text) with
        | none => simp
        | some bytes =>
            cases hbytes : Digest32.ofBytes? bytes <;> simp [hbytes]
  | _ => simp [digestValue, valueDigest?]

theorem valueDigest?_digestIdentity (label : String) (d : Digest32) :
    valueDigest? (.str (digestIdentity label d)) = some d := by
  have value := identityDigest?_digestIdentity label d
  have nonempty : digestIdentity label d ≠ "" := by
    intro h
    rw [h] at value
    cases value
  rw [valueDigest?, if_neg nonempty, value]

/-! ## Lifecycle history -/

/-- A reduced history record; identities that a kind does not have are `None`. -/
structure HostEvent where
  kind : Lifecycle.EventKind
  epoch : Json := .null
  parentEpoch : Json := .null
  candidate : Json := .null
  parentCandidate : Json := .null
  status : String := "UNKNOWN"
  deriving DecidableEq

def historyEventValue (event : HostEvent) : Except ForgeError Lifecycle.HistoryEvent := do
  let status ← match Status.ofString? event.status with
    | some status => .ok status
    | none =>
        .error ⟨"NATIVE_LIFECYCLE_UNKNOWN", s!"unknown native event status: {event.status}"⟩
  let candidate ← digestValue event.candidate "history candidate"
  let epoch ← digestValue event.epoch "history epoch"
  let parentCandidate ← digestValue event.parentCandidate "history parent candidate"
  let parentEpoch ← digestValue event.parentEpoch "history parent epoch"
  .ok
    { kind := event.kind
      epoch := epoch
      parentEpoch := parentEpoch
      candidate := candidate
      parentCandidate := parentCandidate
      status := status }

/-- `_history_event_value({})`, the padding of the event array. -/
def emptyEvent : Lifecycle.HistoryEvent :=
  ⟨.empty, Digest32.zero, Digest32.zero, Digest32.zero, Digest32.zero, .unknown⟩

/-! ## Readiness -/

/-- The comparison envelope of a requirement.  The host's freshness text is one
of the kernel's variants in upper case. -/
structure NormalizedReadiness where
  records : List ForgeRecord
  freshness : Lifecycle.Freshness
  comparable : Bool
  environmentMatch : Bool
  policyMatch : Bool
  authorityMatch : Bool

structure NativeReadinessProjection where
  requirements : List Readiness.RequirementProjection
  status : Status
  reason : Readiness.ReadinessReason
  presentCount : Nat
  missingCount : Nat
  failedCount : Nat
  unknownCount : Nat
  staleCount : Nat
  noncomparableCount : Nat
  ready : Bool
  valid : Bool

def requirementStatus (record : ForgeRecord) : Option Status :=
  (record.get "status").asStr?.bind Status.ofString?

def requirementStatuses (requirement : String) :
    List ForgeRecord → Except ForgeError (List Status)
  | [] => .ok []
  | record :: records =>
      match requirementStatus record with
      | none =>
          .error ⟨"NATIVE_READINESS_UNKNOWN",
            s!"native readiness status is invalid for requirement {requirement}"⟩
      | some status => do
          let statuses ← requirementStatuses requirement records
          .ok (status :: statuses)

def expectedNoncomparable (normalized : NormalizedReadiness) : Bool :=
  Readiness.freshnessIsUnknown normalized.freshness || !normalized.comparable ||
    !normalized.environmentMatch || !normalized.policyMatch || !normalized.authorityMatch

namespace NativeForgeAdapter

variable (native : NativeForgeAdapter)

/-- `lifecycle_preflight`; the texts are variants already. -/
def lifecyclePreflight (stage : Lifecycle.Stage) (operation : Lifecycle.Operation)
    (evidence : Status) : Lifecycle.TransitionResult :=
  Lifecycle.preflight native.core stage operation evidence

def lifecycleProjection (events : List HostEvent) (currentCandidate : String)
    (requiredEvidence : Nat) (bundlePresent : Bool) :
    Except ForgeError Lifecycle.ProjectionResult := do
  refuseIf (32 < events.length) "NATIVE_LIFECYCLE_UNKNOWN"
    "native history exceeds the 32-event bound"
  refuseIf (255 < requiredEvidence) "NATIVE_LIFECYCLE_UNKNOWN"
    "native evidence bound is outside byte range"
  let values ← events.mapM historyEventValue
  let current ← digestValue (.str currentCandidate) "current candidate"
  .ok (Lifecycle.project native.core
    { events := values ++ List.replicate (32 - values.length) emptyEvent
      eventCount := values.length
      currentCandidate := current
      requiredEvidence := requiredEvidence
      bundlePresent := bundlePresent })

/-! ### The readiness request -/

/-- `text.encode("utf-8")`. -/
def utf8 (text : String) : List UInt8 :=
  text.toList.flatMap String.utf8EncodeChar

/-- `b"mncs-forge.readiness.requirement.v1\0"`. -/
def requirementTag : List UInt8 :=
  [109, 110, 99, 115, 45, 102, 111, 114, 103, 101, 46, 114, 101, 97, 100, 105, 110, 101,
   115, 115, 46, 114, 101, 113, 117, 105, 114, 101, 109, 101, 110, 116, 46, 118, 49, 0]

example : requirementTag = utf8 "mncs-forge.readiness.requirement.v1\x00" := by
  decide +kernel

def requirementDigest (requirement : String) : Digest32 :=
  native.sha256 (requirementTag ++ utf8 requirement)

def readinessRequirementIdentity (requirement : String) : Except ForgeError Digest32 := do
  refuseIf (requirement = "") "NATIVE_READINESS_UNKNOWN" "evidence requirement is malformed"
  .ok (native.requirementDigest requirement)

def readinessRequirementValue (requirement : String) (normalized : NormalizedReadiness) :
    Except ForgeError Readiness.RequirementInput := do
  refuseIf (8 < normalized.records.length) "NATIVE_READINESS_UNKNOWN"
    s!"native readiness exceeds the eight-record bound for requirement {requirement}"
  let statuses ← requirementStatuses requirement normalized.records
  let identity ← native.readinessRequirementIdentity requirement
  .ok
    { identity := identity
      statuses := statuses ++ List.replicate (8 - statuses.length) .unknown
      count := normalized.records.length
      freshness := normalized.freshness
      comparable := normalized.comparable
      environmentMatch := normalized.environmentMatch
      policyMatch := normalized.policyMatch
      authorityMatch := normalized.authorityMatch }

def readinessRequirementValues : List (String × NormalizedReadiness) →
    Except ForgeError (List Readiness.RequirementInput)
  | [] => .ok []
  | (requirement, normalized) :: rest => do
      let value ← native.readinessRequirementValue requirement normalized
      let values ← readinessRequirementValues rest
      .ok (value :: values)

/-- The padding of the requirement array. -/
def unusedRequirement : Readiness.RequirementInput where
  identity := native.requirementDigest "__unused__"
  statuses := List.replicate 8 .unknown
  count := 0
  freshness := .notApplicable
  comparable := true
  environmentMatch := true
  policyMatch := true
  authorityMatch := true

/-! ### The readiness response -/

/-- The checks on one of the 16 returned requirements. -/
def acceptRequirement (ordered : List (String × NormalizedReadiness))
    (accepted : List Readiness.RequirementProjection)
    (slot : Readiness.RequirementProjection × Nat) :
    Except ForgeError (List Readiness.RequirementProjection) :=
  let item := slot.1
  if ordered.length ≤ slot.2 then do
    refuseIf (item.identity ≠ Digest32.zero) "NATIVE_READINESS_MISMATCH"
      "native readiness padding contains an unexpected identity"
    .ok accepted
  else do
    refuseIf (item.identity = Digest32.zero) "NATIVE_READINESS_MISMATCH"
      "native readiness active requirement has a zero identity"
    match ordered.find? fun entry => native.requirementDigest entry.1 = item.identity with
    | none =>
        .error ⟨"NATIVE_READINESS_MISMATCH",
          "native readiness returned an unknown requirement identity"⟩
    | some (requirement, normalized) => do
        refuseIf (item.identity ∈ accepted.map (·.identity)) "NATIVE_READINESS_MISMATCH"
          "native readiness returned a duplicate requirement identity"
        let statuses := normalized.records.map fun record => record.get "status"
        refuseIf
          (item.passCount ≠ statuses.count (.str "PASS") ∨
            item.failCount ≠ statuses.count (.str "FAIL") ∨
            item.unknownCount ≠ statuses.count (.str "UNKNOWN") ∨
            item.observedCount ≠ statuses.length)
          "NATIVE_READINESS_MISMATCH"
          s!"native readiness status counts disagree for requirement {requirement}"
        refuseIf
          (item.stale ≠ Readiness.freshnessIsStale normalized.freshness ∨
            item.noncomparable ≠ expectedNoncomparable normalized)
          "NATIVE_READINESS_MISMATCH"
          s!"native readiness comparison flags disagree for requirement {requirement}"
        .ok (accepted ++ [item])

/-- The accepted projections in the order of the requirements. -/
def orderedProjections (accepted : List Readiness.RequirementProjection) :
    List (String × NormalizedReadiness) →
    Except ForgeError (List Readiness.RequirementProjection)
  | [] => .ok []
  | (requirement, _) :: rest =>
      match accepted.find? fun item => item.identity = native.requirementDigest requirement with
      | none => .error ⟨"KeyError", requirement⟩
      | some item => do
          let items ← orderedProjections accepted rest
          .ok (item :: items)

def acceptReadiness (ordered : List (String × NormalizedReadiness))
    (result : Readiness.ReadinessResult) : Except ForgeError NativeReadinessProjection := do
  let state := result.state
  refuseIf (state.requirementCount ≠ ordered.length ∨ 16 < state.requirementCount)
    "NATIVE_READINESS_UNKNOWN" "readiness requirement count disagrees with the request"
  refuseIf (state.valid = false ∨ result.reason = .invalid ∨ state.status ≠ result.status)
    "NATIVE_READINESS_UNKNOWN"
    "language-owned readiness reported an invalid bounded projection"
  refuseIf (¬ (ordered.map fun entry => native.requirementDigest entry.1).Nodup)
    "NATIVE_READINESS_UNKNOWN" "host readiness requirements have duplicate identities"
  let accepted ← state.requirements.zipIdx.foldlM (native.acceptRequirement ordered) []
  refuseIf (accepted.length ≠ state.requirementCount) "NATIVE_READINESS_MISMATCH"
    "native readiness returned missing requirement identities"
  let projected ← native.orderedProjections accepted ordered
  refuseIf (∃ item ∈ projected, item.valid = false) "NATIVE_READINESS_UNKNOWN"
    "native readiness contains an invalid requirement projection"
  refuseIf
    (state.presentCount ≠ projected.countP (fun item => decide (0 < item.observedCount)) ∨
      state.missingCount ≠
        projected.countP (fun item => decide (item.classification = .missing)) ∨
      state.failedCount ≠
        projected.countP (fun item => decide (item.classification = .failed)) ∨
      state.unknownCount ≠
        projected.countP (fun item => decide (item.classification = .unknown)) ∨
      state.staleCount ≠ projected.countP (fun item => item.stale) ∨
      state.noncomparableCount ≠ projected.countP (fun item => item.noncomparable))
    "NATIVE_READINESS_MISMATCH" "native readiness aggregate counts are inconsistent"
  .ok
    { requirements := projected
      status := result.status
      reason := result.reason
      presentCount := state.presentCount
      missingCount := state.missingCount
      failedCount := state.failedCount
      unknownCount := state.unknownCount
      staleCount := state.staleCount
      noncomparableCount := state.noncomparableCount
      ready := state.ready
      valid := state.valid }

def readinessProjection (requirements : List (String × NormalizedReadiness))
    (candidatePresent policyValid : Bool) : Except ForgeError NativeReadinessProjection := do
  let ordered := Dict.update [] requirements
  refuseIf (16 < ordered.length) "NATIVE_READINESS_UNKNOWN"
    "native readiness exceeds the 16-requirement bound"
  let values ← native.readinessRequirementValues ordered
  native.acceptReadiness ordered
    (Readiness.project native.core
      { requirements :=
          values ++ List.replicate (16 - values.length) native.unusedRequirement
        requirementCount := ordered.length
        candidatePresent := candidatePresent
        policyValid := policyValid })

/-! ### The bundle request -/

def bundlePreconditionProjection (requestedCandidate currentCandidate : Option String)
    (candidatePresent candidateMatches candidateCurrent selected frozen freezeCurrent : Bool)
    (mode : Bundle.BundleMode) (requestValid : Bool) (evidenceStatus : Status)
    (evidenceReady : Bool) : Except ForgeError Bundle.BundleResult := do
  let requestIdentity := requestedCandidate.or currentCandidate
  let current ← digestValue (.ofText currentCandidate) "bundle current candidate"
  let requested ← digestValue (.ofText requestIdentity) "bundle requested candidate"
  let result := Bundle.project native.core
    { requestedCandidate := requested
      currentCandidate := current
      candidatePresent := candidatePresent
      candidateMatches := candidateMatches
      candidateCurrent := candidateCurrent
      selected := selected
      frozen := frozen
      freezeCurrent := freezeCurrent
      mode := mode
      requestValid := requestValid
      evidenceStatus := evidenceStatus
      evidenceReady := evidenceReady }
  refuseIf
    (result.state.valid = false ∨ result.state.status ≠ result.status ∨
      result.state.reason ≠ result.reason ∨
      result.state.ready ≠ decide (result.status = .pass ∧ result.reason = .ready) ∨
      result.state.evidenceStatus ≠ evidenceStatus ∨
      result.state.evidenceReady ≠ evidenceReady)
    "NATIVE_BUNDLE_UNKNOWN"
    "language-owned bundle precondition projection is inconsistent"
  .ok result

end NativeForgeAdapter

end MncsForge.Native
