import Mathlib
import MncsForge.Lifecycle.History

/-!
# Evidence readiness

Whether the required evidence of a candidate is there, passes, is fresh and is
comparable: once by the plain accumulation of the state machine, once through
the native readiness kernel.
-/

namespace MncsForge.Lifecycle

open MncsForge.Foundation MncsForge.Records MncsForge.Native

structure EvidenceReadiness where
  required : List String
  present : List String
  missing : List String
  unknown : List String
  failed : List String
  stale : List String
  noncomparable : List String
  records : List (String × List String)
  ready : Bool
  status : Status
  policyIdentity : String
  policyError : Option String
  deriving DecidableEq

def EvidenceReadiness.blocker (evidence : EvidenceReadiness) : Option TransitionBlocker :=
  match evidence.policyError with
  | some message => some ⟨"EVIDENCE_PLAN_INVALID", message⟩
  | none =>
      if evidence.failed ≠ [] then
        some ⟨"EVIDENCE_FAILED",
          "required candidate evidence is FAIL: " ++ joined evidence.failed⟩
      else if evidence.missing ≠ [] then
        some ⟨"EVIDENCE_INCOMPLETE",
          "required candidate evidence is missing: " ++ joined evidence.missing⟩
      else if evidence.unknown ≠ [] then
        some ⟨"EVIDENCE_UNKNOWN",
          "required candidate evidence is UNKNOWN: " ++ joined evidence.unknown⟩
      else if evidence.stale ≠ [] then
        some ⟨"EVIDENCE_STALE",
          "required candidate evidence is stale: " ++ joined evidence.stale⟩
      else if evidence.noncomparable ≠ [] then
        some ⟨"EVIDENCE_NOT_COMPARABLE",
          "required candidate evidence is not comparable: " ++ joined evidence.noncomparable⟩
      else none

/-! ## The evidence of a candidate -/

section Observations

variable (w : World) (history : History)

def workflowEvidence (candidateId : String) : List ForgeRecord :=
  (typed .workflowResult history).filter fun record =>
    record.get "candidate_identity" = .str candidateId ∧
      record.get "subject_type" ≠ .str "project"

def verifierEvidence (candidateId : String) : List ForgeRecord :=
  (typed .verifierResult history).filter fun record =>
    record.get "candidate_identity" = .str candidateId ∧
      record.get "mode" = .str "development"

/-- The records that speak for a requirement: workflow results, then local
verifier results. -/
def evidenceFor (candidateId requirement : String) : List ForgeRecord :=
  (workflowEvidence history candidateId).filter
      (fun record => textOf record "workflow" = requirement) ++
    (verifierEvidence history candidateId).filter
      (fun record => textOf record "verifier_id" = requirement)

def verifierCandidateCurrent (record : ForgeRecord) : Bool :=
  record.recordType = .verifierResult &&
    match record.get "input_identities" with
    | .obj identities =>
        field identities "candidate_identity" = .str w.currentCandidateIdentity
    | _ => false

def observedFreshness (candidateId : String) (record : ForgeRecord) : String :=
  (Dict.get? w.evidenceFreshness (identityOf record)).getD
    (if candidateId = w.currentCandidateIdentity ∧
        (record.recordType = .workflowResult ∨ verifierCandidateCurrent w record) then
      "CURRENT"
    else "UNKNOWN")

def isComparable (record : ForgeRecord) : Bool :=
  (Dict.get? w.evidenceComparability (identityOf record)).getD (some true) = some true

/-- `allowlisted_keys` of the recorded environment, as sorted texts. -/
def recordedKeys (record : ForgeRecord) : Option (List String) :=
  match record.get "environment" with
  | .obj environment =>
      match field environment "allowlisted_keys" with
      | .arr keys => some (sortedTexts (keys.map Json.display))
      | _ => none
  | _ => none

def environmentMatches (requirement : String) (record : ForgeRecord) : Bool :=
  if record.recordType = .workflowResult then
    match Dict.get? w.evidenceEnvironmentKeys requirement with
    | none => true
    | some keys => recordedKeys record = some (sortedTexts keys)
  else if record.recordType = .verifierResult then
    match Dict.get? w.evidenceEnvironmentIdentities requirement with
    | none => true
    | some identity => record.get "environment_identity" = .str identity
  else true

def policyMatches (requirement : String) (record : ForgeRecord) : Bool :=
  if record.recordType = .verifierResult then
    match Dict.get? w.evidencePolicyIdentities requirement with
    | none => true
    | some identity => record.get "policy_identity" = .str identity
  else true

def candidateEpoch (candidate : ForgeRecord) : Option ForgeRecord :=
  (typed .epoch history).reverse.find? fun record =>
    record.get "epoch_id" = candidate.get "source_epoch"

/-- Whether the authority of the candidate's epoch is the current one, as far as
both are known. -/
def authorityMatches (candidate : Option ForgeRecord) : Bool :=
  match candidate.bind (candidateEpoch history) with
  | none => true
  | some epoch =>
      w.currentAuthorityIdentities.isEmpty || w.authorityIs (epoch.get "authority_identities")

end Observations

/-! ## The plain readiness -/

section Compat

variable (w : World) (history : History)

/-- `str(item.status or "UNKNOWN")`. -/
def statusText (record : ForgeRecord) : String :=
  match record.status with
  | none | some "" => "UNKNOWN"
  | some status => status

/-- A record that makes its requirement incomparable. -/
def marksNoncomparable (candidateId requirement : String) (record : ForgeRecord) : Bool :=
  (observedFreshness w candidateId record ≠ "STALE" &&
      observedFreshness w candidateId record ≠ "CURRENT") ||
    !isComparable w record || !environmentMatches w requirement record ||
    !policyMatches w requirement record

/-- `_compat_evidence_readiness` of a candidate for distinct requirements. -/
def compatReadiness (requirements : List String) (policyError : Option String)
    (candidate : ForgeRecord) : EvidenceReadiness :=
  let candidateId := textOf candidate "candidate_id"
  let evidence := evidenceFor history candidateId
  let statuses requirement := (evidence requirement).map statusText
  let present := requirements.filter fun requirement => evidence requirement ≠ []
  let missing :=
    Dict.sortedSet (requirements.filter fun requirement => evidence requirement = [])
  let failed :=
    Dict.sortedSet (requirements.filter fun requirement => "FAIL" ∈ statuses requirement)
  let unknown :=
    Dict.sortedSet (requirements.filter fun requirement =>
      "FAIL" ∉ statuses requirement ∧ "UNKNOWN" ∈ statuses requirement)
  let stale :=
    Dict.sortedSet (requirements.filter fun requirement =>
      (evidence requirement).any fun record =>
        observedFreshness w candidateId record = "STALE")
  let noncomparable :=
    Dict.sortedSet
      (requirements.filter (fun requirement =>
          (evidence requirement).any (marksNoncomparable w candidateId requirement)) ++
        if authorityMatches w history (some candidate) then [] else present)
  let ready :=
    (policyError = none || policyError = some "") && missing = [] && unknown = [] &&
      failed = [] && stale = [] && noncomparable = []
  { required := requirements
    present := Dict.sortedSet present
    missing := missing
    unknown := unknown
    failed := failed
    stale := stale
    noncomparable := noncomparable
    records := requirements.map fun requirement =>
      (requirement, (evidence requirement).map identityOf)
    ready := ready
    status := if failed ≠ [] then .fail else if ready then .pass else .unknown
    policyIdentity := w.selectionPolicyIdentity
    policyError := policyError }

/-- The requirements and the policy error a readiness is about: those of the
world, or an explicit list of requirements. -/
def readinessSubject (required : Option (List String)) : List String × Option String :=
  match required with
  | none => (w.requirements, w.selectionPolicyError)
  | some required => (fromKeys required, none)

/-- `_compat_evidence_readiness`. -/
def compatEvidenceReadiness (candidate : Option ForgeRecord)
    (required : Option (List String)) : EvidenceReadiness :=
  let (requirements, policyError) := readinessSubject w required
  match candidate with
  | none =>
      { required := requirements
        present := []
        missing := requirements
        unknown := []
        failed := []
        stale := []
        noncomparable := []
        records := []
        ready := false
        status := .unknown
        policyIdentity := w.selectionPolicyIdentity
        policyError := policyError }
  | some candidate => compatReadiness w history requirements policyError candidate

end Compat

/-! ## The native readiness -/

section Native

variable (w : World) (history : History)

/-- How one record moves the freshness of its requirement. -/
def joinFreshness (freshness : Lifecycle.Freshness) (observed : String) :
    Lifecycle.Freshness :=
  if observed = "STALE" then .stale
  else if observed ≠ "CURRENT" ∧ freshness ≠ .stale then .unknown
  else freshness

def normalizedReadiness (candidate : Option ForgeRecord) (requirement : String) :
    NormalizedReadiness :=
  let records :=
    match candidate with
    | none => []
    | some candidate => evidenceFor history (textOf candidate "candidate_id") requirement
  let candidateId := candidate.elim "" fun candidate => textOf candidate "candidate_id"
  { records := records
    freshness :=
      records.foldl
        (fun freshness record =>
          joinFreshness freshness (observedFreshness w candidateId record)) .current
    comparable := records.all (isComparable w)
    environmentMatch := records.all (environmentMatches w requirement)
    policyMatch := records.all (policyMatches w requirement)
    authorityMatch := authorityMatches w history candidate }

/-- The projected requirement of each requirement. -/
def projectedRequirements (native : NativeForgeAdapter)
    (projected : List Readiness.RequirementProjection) :
    List String → Except ForgeError (List (String × Readiness.RequirementProjection))
  | [] => .ok []
  | requirement :: rest => do
      let identity ← native.readinessRequirementIdentity requirement
      match projected.find? fun item => item.identity = identity with
      | none =>
          .error ⟨"NATIVE_READINESS_MISMATCH",
            s!"native readiness omitted requirement {requirement}"⟩
      | some item => do
          let items ← projectedRequirements native projected rest
          .ok ((requirement, item) :: items)

/-- `_evidence_readiness` through the native kernel. -/
def nativeEvidenceReadiness (native : NativeForgeAdapter) (candidate : Option ForgeRecord)
    (required : Option (List String)) : Except ForgeError EvidenceReadiness := do
  let (requirements, policyError) := readinessSubject w required
  let normalized := requirements.map fun requirement =>
    (requirement, normalizedReadiness w history candidate requirement)
  let result ← native.readinessProjection normalized candidate.isSome policyError.isNone
  refuseIf (result.valid = false ∨ result.requirements.length ≠ requirements.length)
    "NATIVE_READINESS_UNKNOWN" "native readiness projection is invalid"
  refuseIf (¬ (result.requirements.map fun item => item.identity).Nodup)
    "NATIVE_READINESS_MISMATCH"
    "native readiness returned duplicate requirement identities"
  let projected ← projectedRequirements native result.requirements requirements
  let listed (p : Readiness.RequirementProjection → Bool) :=
    Dict.sortedSet ((projected.filter fun entry => p entry.2).map Prod.fst)
  .ok
    { required := requirements
      present := listed fun item => 0 < item.observedCount
      missing := listed fun item => item.classification = .missing
      unknown := listed fun item => item.classification = .unknown
      failed := listed fun item => item.classification = .failed
      stale := listed fun item => item.classification = .stale || item.stale
      noncomparable :=
        listed fun item => item.classification = .nonComparable || item.noncomparable
      records :=
        if candidate.isSome then
          normalized.map fun entry => (entry.1, entry.2.records.map identityOf)
        else []
      ready := result.ready
      status := result.status
      policyIdentity := w.selectionPolicyIdentity
      policyError := policyError }

/-- `_evidence_readiness`. -/
def evidenceReadiness (candidate : Option ForgeRecord) (required : Option (List String)) :
    Except ForgeError EvidenceReadiness :=
  match w.native with
  | none => .ok (compatEvidenceReadiness w history candidate required)
  | some native => nativeEvidenceReadiness w history native candidate required

end Native

end MncsForge.Lifecycle
