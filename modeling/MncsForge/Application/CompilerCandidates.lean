import Mathlib
import MncsForge.Foundation.Runs
import MncsForge.Application.ExecutionReceipts

/-!
# Compiler candidates

Search registers candidates, and validations and benchmarks are attached to
them.  An attachment changes no record: it commits a successor under an identity
of its own, and whether an identity is accepted is read off its own record.
-/

namespace MncsForge.Application

open MncsForge.Foundation MncsForge.Records
open Lifecycle (History typed textOf sortedTexts mem_typed typed_append typed_eq_filter)

def searchOnlyInterpretation : String := "search_observation_not_language_correctness"

def explicitPolicy : String := "explicit-protected-property-policy"

structure CandidateRegistration where
  baselineArtifactIdentity : String
  candidateArtifactIdentity : String
  generatorIdentity : String
  declaredTransformation : String
  claimedRelation : String
  expectedBenefit : String
  protectedProperties : List String
  targetEnvelope : String
  requiredValidation : String

structure CandidateValidation where
  validatorIdentity : String
  judgement : String
  claimedRelation : String
  counterexample : Json := .null
  limitations : List String := []
  stale : Bool := false
  expectedArtifactIdentity : Option String := none

/-! ## What is read off a record -/

def declaredFreshness (validation : Dict String Json) : String :=
  let declared := field validation "freshness"
  if declared.truthy ∧ declared.display = "stale" then "stale" else "current"

/-- `_validation_freshness`, without the notes. -/
def validationFreshness (record : ForgeRecord) : String :=
  match record.get "validation" with
  | .obj validation =>
      let bound := field validation "validated_artifact_identity"
      if bound ≠ .null ∧ bound.display ≠ textOf record "candidate_artifact_identity" then
        "stale-artifact-mismatch"
      else declaredFreshness validation
  | _ => "unvalidated"

def effectiveSemanticStatus (record : ForgeRecord) : String :=
  if validationFreshness record = "stale" ∨
      validationFreshness record = "stale-artifact-mismatch" then "UNKNOWN"
  else textOf record "semantic_status"

/-- `_disposition`. -/
def candidateDisposition (semanticStatus requiredValidation : String) : String :=
  if semanticStatus = "FAIL" then "reject"
  else if semanticStatus = "PASS" ∧
      requiredValidation ∈ ["translation-validation", "bounded-agreement", "none"] then
    "accept"
  else "retain_unresolved"

/-- The disposition a record gets when it is looked at. -/
def effectiveDisposition (record : ForgeRecord) : String :=
  candidateDisposition (effectiveSemanticStatus record) (textOf record "required_validation")

structure CandidateSummary where
  candidateId : String
  policyDisposition : String
  effectiveSemanticStatus : String
  validationFreshness : String
  deriving DecidableEq

def candidateSummary (record : ForgeRecord) : CandidateSummary where
  candidateId := textOf record "candidate_id"
  policyDisposition := effectiveDisposition record
  effectiveSemanticStatus := effectiveSemanticStatus record
  validationFreshness := validationFreshness record

structure Tournament where
  accepted : List CandidateSummary
  rejected : List CandidateSummary
  unresolved : List CandidateSummary
  deriving DecidableEq

/-! ## The service -/

structure CompilerCandidateService where
  hashing : Hashing
  commit : RecordCommitter

namespace CompilerCandidateService

/-- `_get`: the last record under the identity. -/
def get (history : History) (candidateId : String) : Except ForgeError ForgeRecord :=
  match ((typed .compilerCandidate history).filter fun record =>
      record.get "candidate_id" = .str candidateId).getLast? with
  | none =>
      .error ⟨"COMPILER_CANDIDATE_NOT_FOUND", s!"unknown compiler candidate: {candidateId}"⟩
  | some record => .ok record

variable (service : CompilerCandidateService)

/-- The fields of a candidate record, as the source lists them. -/
def candidateFields (baseline artifact generator transformation relation benefit properties
    target required : Json) (semanticStatus : String) (benchmarkObservation validation : Json)
    (policyDisposition recordedAt : String) : List (String × Json) :=
  [("baseline_artifact_identity", baseline),
   ("candidate_artifact_identity", artifact),
   ("generator_identity", generator),
   ("declared_transformation", transformation),
   ("claimed_relation", relation),
   ("expected_benefit", benefit),
   ("protected_properties", properties),
   ("target_envelope", target),
   ("required_validation", required),
   ("semantic_status", .str semanticStatus),
   ("benchmark_observation", benchmarkObservation),
   ("validation", validation),
   ("policy_disposition", .str policyDisposition),
   ("isolated", .bool true),
   ("generator_certified", .bool false),
   ("interpretation", .str searchOnlyInterpretation),
   ("assurance_status", .null),
   ("conformance_status", .null),
   ("recorded_at", .str recordedAt)]

def commitCandidate (record : ForgeRecord) (history : History) :
    Except ForgeError (ForgeRecord × History) := do
  let history ← service.commit history "compiler-candidates" "compiler_candidate" record
  .ok (record, history)

/-- A registration of what is already registered returns it. -/
def register (request : CandidateRegistration) (recordedAt : String) (history : History) :
    Except ForgeError (ForgeRecord × History) := do
  refuseIf (request.baselineArtifactIdentity = request.candidateArtifactIdentity)
    "COMPILER_CANDIDATE_NOT_ISOLATED"
    "a compiler candidate cannot share the trusted baseline artifact identity"
  let record ← newRecord service.hashing .compilerCandidate
    (Dict.update []
      (candidateFields (.str request.baselineArtifactIdentity)
        (.str request.candidateArtifactIdentity) (.str request.generatorIdentity)
        (.str request.declaredTransformation) (.str request.claimedRelation)
        (.str request.expectedBenefit) (texts (sortedTexts request.protectedProperties))
        (.str request.targetEnvelope) (.str request.requiredValidation) "UNVALIDATED" .null
        .null "retain_unresolved" recordedAt))
  match (typed .compilerCandidate history).find? fun known =>
      known.get "candidate_id" = record.get "candidate_id" with
  | some known => .ok (known, history)
  | none => service.commitCandidate record history

/-- `_string_list`. -/
def stringList : Json → Json
  | .arr items => texts (items.map Json.display)
  | _ => .arr []

/-- `_successor`. -/
def successor (current : ForgeRecord) (semanticStatus : String)
    (benchmarkObservation validation : Json) (policyDisposition recordedAt : String) :
    Except ForgeError ForgeRecord :=
  newRecord service.hashing .compilerCandidate
    (Dict.update []
      (candidateFields (current.get "baseline_artifact_identity")
        (current.get "candidate_artifact_identity") (current.get "generator_identity")
        (current.get "declared_transformation") (current.get "claimed_relation")
        (current.get "expected_benefit") (stringList (current.get "protected_properties"))
        (current.get "target_envelope") (current.get "required_validation") semanticStatus
        benchmarkObservation validation policyDisposition recordedAt))

def judgements : List String := ["PASS", "FAIL", "UNKNOWN"]

/-- What is written down of a validation.  A stale one says nothing. -/
def validationDocument (request : CandidateValidation) (boundArtifact : String) : Json :=
  document
    [("validator_identity", .str request.validatorIdentity),
     ("judgement", .str (if request.stale then "UNKNOWN" else request.judgement)),
     ("claimed_relation", .str request.claimedRelation),
     ("counterexample", request.counterexample),
     ("limitations", texts request.limitations),
     ("freshness", .str (if request.stale then "stale" else "current")),
     ("validated_artifact_identity", .str boundArtifact),
     ("independent_of_generator", .bool true)]

def attachValidation (candidateId : String) (request : CandidateValidation)
    (recordedAt : String) (history : History) : Except ForgeError (ForgeRecord × History) := do
  refuseIf (request.judgement ∉ judgements) "COMPILER_VALIDATION_STATUS"
    "compiler candidate validation must be PASS, FAIL, or UNKNOWN"
  let current ← get history candidateId
  refuseIf (current.get "generator_certified" ≠ .bool false) "RECORD_AUTHORITY"
    "a generator cannot certify its own compiler candidate"
  let boundArtifact := textOf current "candidate_artifact_identity"
  refuseIf (∃ expected ∈ request.expectedArtifactIdentity, expected ≠ boundArtifact)
    "COMPILER_VALIDATION_ARTIFACT_MISMATCH"
    ("validation was declared for a different candidate artifact identity; " ++
      s!"candidate {candidateId} carries {boundArtifact}")
  let semanticStatus := if request.stale then "UNKNOWN" else request.judgement
  let record ← service.successor current semanticStatus
    (current.get "benchmark_observation") (validationDocument request boundArtifact)
    (candidateDisposition semanticStatus (textOf current "required_validation")) recordedAt
  service.commitCandidate record history

def attachBenchmark (candidateId : String) (observation : Dict String Json)
    (recordedAt : String) (history : History) : Except ForgeError (ForgeRecord × History) := do
  let current ← get history candidateId
  let record ← service.successor current (effectiveSemanticStatus current) (.obj observation)
    (current.get "validation") (effectiveDisposition current) recordedAt
  service.commitCandidate record history

def tournament (history : History) (candidateIds : List String) :
    Except ForgeError Tournament := do
  let ranked ← candidateIds.mapM (get history)
  let summaries := ranked.map candidateSummary
  .ok
    { accepted := summaries.filter fun summary => summary.policyDisposition = "accept"
      rejected := summaries.filter fun summary => summary.policyDisposition = "reject"
      unresolved := summaries.filter fun summary =>
        summary.policyDisposition ≠ "accept" ∧ summary.policyDisposition ≠ "reject" }

structure Selection where
  candidateId : String
  policyDisposition : String
  semanticStatus : String
  validationFreshness : String
  deriving DecidableEq

def select (history : History) (candidateId policy : String) :
    Except ForgeError Selection := do
  let record ← get history candidateId
  refuseIf (policy ≠ explicitPolicy) "COMPILER_CANDIDATE_POLICY"
    "compiler candidate selection requires an explicit protected-property policy"
  refuseIf (effectiveDisposition record ≠ "accept") "COMPILER_CANDIDATE_NOT_SELECTABLE"
    s!"compiler candidate remains {effectiveDisposition record}; search cannot promote it"
  .ok
    { candidateId := candidateId
      policyDisposition := effectiveDisposition record
      semanticStatus := effectiveSemanticStatus record
      validationFreshness := validationFreshness record }

end CompilerCandidateService

/-! ## Runs of calls -/

/-- A validation or a benchmark that was attached: the record it was attached
to and the successor it made. -/
structure Attachment where
  current : ForgeRecord
  validation : Option CandidateValidation
  successor : ForgeRecord

inductive SearchCall where
  | register (request : CandidateRegistration) (recordedAt : String)
  | attachValidation (candidateId : String) (request : CandidateValidation)
      (recordedAt : String)
  | attachBenchmark (candidateId : String) (observation : Dict String Json)
      (recordedAt : String)

/-- The history, and the attachments that were made to get there. -/
structure SearchState where
  history : History
  attachments : List Attachment

namespace CompilerCandidateService

variable (service : CompilerCandidateService)

def call (state : SearchState) : SearchCall → Except ForgeError SearchState
  | .register request recordedAt => do
      let result ← service.register request recordedAt state.history
      .ok { state with history := result.2 }
  | .attachValidation candidateId request recordedAt => do
      let current ← get state.history candidateId
      let result ← service.attachValidation candidateId request recordedAt state.history
      .ok ⟨result.2, state.attachments ++ [⟨current, some request, result.1⟩]⟩
  | .attachBenchmark candidateId observation recordedAt => do
      let current ← get state.history candidateId
      let result ← service.attachBenchmark candidateId observation recordedAt state.history
      .ok ⟨result.2, state.attachments ++ [⟨current, none, result.1⟩]⟩

/-- A refused call changes nothing. -/
def step (state : SearchState) (event : SearchCall) : Option SearchState :=
  (service.call state event).toOption

/-- Histories in which nothing has been registered yet. -/
def Initial (state : SearchState) : Prop :=
  typed .compilerCandidate state.history = [] ∧ state.attachments = []

end CompilerCandidateService

/-- What a record store promises of a commit: the record is in the history, at
its end if it was not there, and no other carries its identity. -/
structure Lawful (commit : RecordCommitter) : Prop where
  appended : ∀ history group kind record after,
    commit history group kind record = .ok after →
      after = history ++ [record] ∨ after = history ∧ record ∈ history
  sole : ∀ history group kind record after,
    commit history group kind record = .ok after →
      ∀ other ∈ after, other.recordType = record.recordType →
        other.identity = record.identity → other = record

/-- From a record to another, by benchmarks alone. -/
inductive Benchmarked (attachments : List Attachment) (record : ForgeRecord) :
    ForgeRecord → Prop where
  | self : Benchmarked attachments record record
  | next {attachment : Attachment} :
      Benchmarked attachments record attachment.current →
      attachment ∈ attachments → attachment.validation = none →
      Benchmarked attachments record attachment.successor

/-- A validation that can promote. -/
def Passes (request : CandidateValidation) : Prop :=
  request.judgement = "PASS" ∧ request.stale = false

/-- The record was validated, with nothing but benchmarks since on its own line
of descent. -/
def Validated (attachments : List Attachment) (record : ForgeRecord) : Prop :=
  ∃ attachment ∈ attachments, ∃ request, attachment.validation = some request ∧
    Passes request ∧
    textOf attachment.current "candidate_artifact_identity" =
      textOf record "candidate_artifact_identity" ∧
    Benchmarked attachments attachment.successor record

section Runs

variable {service : CompilerCandidateService} {attachments : List Attachment}
  {record current : ForgeRecord} {history after : History}

private theorem Benchmarked.mono (h : Benchmarked attachments current record)
    (more : List Attachment) : Benchmarked (attachments ++ more) current record := by
  induction h with
  | self => exact .self
  | next _ member plain ih => exact ih.next (List.mem_append_left _ member) plain

private theorem Validated.mono (h : Validated attachments record) (more : List Attachment) :
    Validated (attachments ++ more) record := by
  obtain ⟨attachment, member, request, hrequest, passes, same, benchmarked⟩ := h
  exact ⟨attachment, List.mem_append_left _ member, request, hrequest, passes, same,
    benchmarked.mono more⟩

section Fields

variable {baseline artifact generator transformation relation benefit properties target
  required : Json} {semanticStatus : String} {benchmarkObservation validation : Json}
  {policyDisposition recordedAt : String}

/-- What a candidate record shows of what it was made from. -/
private theorem newCandidate_reads (h : newRecord service.hashing .compilerCandidate
      (Dict.update []
        (CompilerCandidateService.candidateFields baseline artifact generator transformation
          relation benefit properties target required semanticStatus benchmarkObservation
          validation policyDisposition recordedAt)) = .ok record) {name : String}
    (htype : name ≠ "record_type") (hversion : name ≠ "schema_version")
    (hother : name ≠ "candidate_id") :
    record.get name =
      field (CompilerCandidateService.candidateFields baseline artifact generator
        transformation relation benefit properties target required semanticStatus
        benchmarkObservation validation policyDisposition recordedAt) name := by
  rw [(newRecord_get h).2 name htype hversion (fun same => hother (Option.some.inj same).symm),
    field_update (by simp [CompilerCandidateService.candidateFields])]

private theorem newCandidate_get (h : newRecord service.hashing .compilerCandidate
      (Dict.update []
        (CompilerCandidateService.candidateFields baseline artifact generator transformation
          relation benefit properties target required semanticStatus benchmarkObservation
          validation policyDisposition recordedAt)) = .ok record) :
    record.recordType = .compilerCandidate ∧
      record.get "semantic_status" = .str semanticStatus ∧
      record.get "validation" = validation ∧
      record.get "candidate_artifact_identity" = artifact ∧
      record.get "required_validation" = required := by
  refine ⟨(newRecord_get h).1, ?_⟩
  rw [newCandidate_reads h (by decide) (by decide) (by decide),
    newCandidate_reads h (by decide) (by decide) (by decide),
    newCandidate_reads h (by decide) (by decide) (by decide),
    newCandidate_reads h (by decide) (by decide) (by decide)]
  simp [CompilerCandidateService.candidateFields, field, Dict.get?_cons]

/-- A successor is made of what its candidate was made of. -/
private theorem successor_eq {values : List String} (h : newRecord service.hashing
      .compilerCandidate (Dict.update []
        (CompilerCandidateService.candidateFields baseline artifact generator transformation
          relation benefit (texts values) target required semanticStatus benchmarkObservation
          validation policyDisposition recordedAt)) = .ok record)
    (newStatus : String) (newObservation newValidation : Json)
    (newDisposition newRecordedAt : String) :
    service.successor record newStatus newObservation newValidation newDisposition
        newRecordedAt =
      newRecord service.hashing .compilerCandidate (Dict.update []
        (CompilerCandidateService.candidateFields baseline artifact generator transformation
          relation benefit (texts values) target required newStatus newObservation newValidation
          newDisposition newRecordedAt)) := by
  have listed : CompilerCandidateService.stringList (texts values) = texts values := by
    simp [CompilerCandidateService.stringList, texts, Json.display]
  rw [CompilerCandidateService.successor,
    newCandidate_reads h (by decide) (by decide) (by decide),
    newCandidate_reads h (by decide) (by decide) (by decide),
    newCandidate_reads h (by decide) (by decide) (by decide),
    newCandidate_reads h (by decide) (by decide) (by decide),
    newCandidate_reads h (by decide) (by decide) (by decide),
    newCandidate_reads h (by decide) (by decide) (by decide),
    newCandidate_reads h (by decide) (by decide) (by decide),
    newCandidate_reads h (by decide) (by decide) (by decide),
    newCandidate_reads h (by decide) (by decide) (by decide)]
  simp [CompilerCandidateService.candidateFields, field, Dict.get?_cons, listed]

end Fields

private theorem commitCandidate_ok (lawful : Lawful service.commit)
    {result : ForgeRecord × History}
    (h : service.commitCandidate record history = .ok result) :
    result.1 = record ∧
      (result.2 = history ++ [record] ∨ result.2 = history ∧ record ∈ history) ∧
      ∀ other ∈ result.2, other.recordType = record.recordType →
        other.identity = record.identity → other = record := by
  obtain ⟨after, hafter, h⟩ := bind_eq_ok.mp h
  rw [← Except.ok.inj h]
  exact ⟨rfl, lawful.appended _ _ _ _ _ hafter, lawful.sole _ _ _ _ _ hafter⟩

/-- Of the candidate records after a commit, one is new. -/
private theorem mem_after (extended : after = history ++ [record] ∨
      after = history ∧ record ∈ history) {other : ForgeRecord}
    (h : other ∈ typed .compilerCandidate after) :
    other ∈ typed .compilerCandidate history ∨ other = record := by
  rcases extended with rfl | ⟨rfl, _⟩
  · rw [mem_typed, List.mem_append, List.mem_singleton] at h
    rcases h with ⟨h | h, htype⟩
    · exact Or.inl (mem_typed.mpr ⟨h, htype⟩)
    · exact Or.inr h
  · exact Or.inl h

private theorem get_mem {candidateId : String}
    (h : CompilerCandidateService.get history candidateId = .ok record) :
    record ∈ typed .compilerCandidate history ∧
      record.get "candidate_id" = .str candidateId := by
  unfold CompilerCandidateService.get at h
  split at h
  · cases h
  · rename_i found hfound
    obtain rfl := Except.ok.inj h
    have member := List.mem_of_getLast? hfound
    simpa using member

/-- A benchmark keeps what a record is worth. -/
private theorem successor_benchmark {observation : Dict String Json} {recordedAt : String}
    (h : service.successor current (effectiveSemanticStatus current) (.obj observation)
      (current.get "validation") (effectiveDisposition current) recordedAt = .ok record) :
    effectiveSemanticStatus record = effectiveSemanticStatus current ∧
      effectiveDisposition record = effectiveDisposition current := by
  obtain ⟨_, status, validation, artifact, required⟩ := newCandidate_get h
  have freshness : validationFreshness record = validationFreshness current := by
    unfold validationFreshness textOf
    rw [validation, artifact]
  have effective : effectiveSemanticStatus record = effectiveSemanticStatus current := by
    rw [effectiveSemanticStatus, freshness, textOf, status]
    change (if _ then _ else effectiveSemanticStatus current) = _
    rw [effectiveSemanticStatus]
    split_ifs <;> rfl
  refine ⟨effective, ?_⟩
  rw [effectiveDisposition, effectiveDisposition, effective, textOf, textOf, required]

/-- What is read back of a validation. -/
private theorem validationDocument_get (request : CandidateValidation) (boundArtifact : String) :
    ∃ fields, CompilerCandidateService.validationDocument request boundArtifact = .obj fields ∧
      field fields "freshness" = .str (if request.stale then "stale" else "current") ∧
      field fields "validated_artifact_identity" = .str boundArtifact := by
  refine ⟨_, rfl, ?_, ?_⟩
  · rw [field_update (by simp)]
    simp [field, Dict.get?_cons]
  · rw [field_update (by simp)]
    simp [field, Dict.get?_cons]

/-- A validation makes a record that passes when it does. -/
private theorem successor_validation {request : CandidateValidation}
    {disposition recordedAt : String}
    (h : service.successor current (if request.stale then "UNKNOWN" else request.judgement)
      (current.get "benchmark_observation")
      (CompilerCandidateService.validationDocument request
        (textOf current "candidate_artifact_identity")) disposition recordedAt = .ok record) :
    (effectiveSemanticStatus record = "PASS" ↔ Passes request) ∧
      textOf record "candidate_artifact_identity" =
        textOf current "candidate_artifact_identity" := by
  obtain ⟨_, status, validation, artifact, _⟩ := newCandidate_get h
  have same : textOf record "candidate_artifact_identity" =
      textOf current "candidate_artifact_identity" := by rw [textOf, artifact, textOf]
  refine ⟨?_, same⟩
  obtain ⟨fields, hfields, fresh, bound⟩ :=
    validationDocument_get request (textOf current "candidate_artifact_identity")
  have freshness : validationFreshness record =
      if request.stale then "stale" else "current" := by
    unfold validationFreshness
    rw [validation, hfields]
    simp only [bound, same, Json.display, ne_eq, not_true_eq_false, and_false, if_false,
      declaredFreshness, fresh]
    cases request.stale <;> decide
  rw [effectiveSemanticStatus, freshness, textOf, status, Passes]
  cases request.stale <;> simp [Json.display]

/-! ### Acceptance -/

open CompilerCandidateService (get tournament select)

/-- A tournament lists the identity as accepted, or a selection returns for it. -/
def Accepted (history : History) (candidateId : String) : Prop :=
  (∃ candidateIds result, tournament history candidateIds = .ok result ∧
    ∃ summary ∈ result.accepted, summary.candidateId = candidateId) ∨
  ∃ policy selection, select history candidateId policy = .ok selection

theorem accepted_iff {candidateId : String} :
    Accepted history candidateId ↔
      ∃ record, get history candidateId = .ok record ∧
        effectiveDisposition record = "accept" := by
  constructor
  · rintro (⟨candidateIds, result, hresult, summary, hsummary, rfl⟩ | ⟨policy, selection, h⟩)
    · obtain ⟨ranked, hranked, h⟩ := bind_eq_ok.mp hresult
      rw [← Except.ok.inj h] at hsummary
      simp only [List.mem_filter, List.mem_map, decide_eq_true_eq] at hsummary
      obtain ⟨⟨record, hrecord, rfl⟩, accepted⟩ := hsummary
      obtain ⟨candidateId, _, hget⟩ := mem_of_mapM_eq_ok hranked hrecord
      refine ⟨record, ?_, accepted⟩
      rw [candidateSummary, textOf, (get_mem hget).2]
      exact hget
    · obtain ⟨record, hrecord, h⟩ := bind_eq_ok.mp h
      rw [refuseIf_bind_eq_ok, refuseIf_bind_eq_ok, not_not, not_not] at h
      exact ⟨record, hrecord, h.2.1⟩
  · rintro ⟨record, hrecord, accepted⟩
    let selection : CompilerCandidateService.Selection :=
      { candidateId := candidateId
        policyDisposition := effectiveDisposition record
        semanticStatus := effectiveSemanticStatus record
        validationFreshness := validationFreshness record }
    refine Or.inr ⟨explicitPolicy, selection, bind_eq_ok.mpr ⟨record, hrecord, ?_⟩⟩
    rw [refuseIf_bind_eq_ok, refuseIf_bind_eq_ok, not_not, not_not]
    exact ⟨rfl, accepted, rfl⟩

/-- Only a passing record is accepted. -/
private theorem pass_of_accept (h : effectiveDisposition record = "accept") :
    effectiveSemanticStatus record = "PASS" := by
  unfold effectiveDisposition candidateDisposition at h
  split_ifs at h with _ hpass
  · exact absurd h (by decide)
  · exact hpass.1
  · exact absurd h (by decide)

/-! ### What a call preserves -/

/-- Every record that passes was validated, and the validations made the records
they were worth. -/
structure Sound (state : SearchState) : Prop where
  validated : ∀ record ∈ typed .compilerCandidate state.history,
    effectiveSemanticStatus record = "PASS" → Validated state.attachments record
  judged : ∀ attachment ∈ state.attachments, ∀ request,
    attachment.validation = some request →
      (effectiveSemanticStatus attachment.successor = "PASS" ↔ Passes request)

/-- What an accepted validation comes down to. -/
private theorem attachValidation_made {candidateId : String} {request : CandidateValidation}
    {recordedAt : String} {result : ForgeRecord × History}
    (h : service.attachValidation candidateId request recordedAt history = .ok result)
    (hcurrent : get history candidateId = .ok current) :
    ∃ made, service.successor current
        (if request.stale then "UNKNOWN" else request.judgement)
        (current.get "benchmark_observation")
        (CompilerCandidateService.validationDocument request
          (textOf current "candidate_artifact_identity"))
        (candidateDisposition (if request.stale then "UNKNOWN" else request.judgement)
          (textOf current "required_validation")) recordedAt = .ok made ∧
      service.commitCandidate made history = .ok result := by
  rw [CompilerCandidateService.attachValidation, refuseIf_bind_eq_ok] at h
  obtain ⟨_, h⟩ := h
  obtain ⟨found, hfound, h⟩ := bind_eq_ok.mp h
  obtain rfl := Except.ok.inj (hcurrent.symm.trans hfound)
  rw [refuseIf_bind_eq_ok, refuseIf_bind_eq_ok] at h
  obtain ⟨_, _, h⟩ := h
  exact bind_eq_ok.mp h

private theorem attachBenchmark_made {candidateId : String} {observation : Dict String Json}
    {recordedAt : String} {result : ForgeRecord × History}
    (h : service.attachBenchmark candidateId observation recordedAt history = .ok result)
    (hcurrent : get history candidateId = .ok current) :
    ∃ made, service.successor current (effectiveSemanticStatus current) (.obj observation)
        (current.get "validation") (effectiveDisposition current) recordedAt = .ok made ∧
      service.commitCandidate made history = .ok result := by
  rw [CompilerCandidateService.attachBenchmark] at h
  obtain ⟨found, hfound, h⟩ := bind_eq_ok.mp h
  obtain rfl := Except.ok.inj (hcurrent.symm.trans hfound)
  exact bind_eq_ok.mp h

private theorem register_sound {state : SearchState} (lawful : Lawful service.commit)
    (sound : Sound state) {request : CandidateRegistration} {recordedAt : String}
    {result : ForgeRecord × History}
    (h : service.register request recordedAt state.history = .ok result) :
    Sound { state with history := result.2 } := by
  refine ⟨fun record hrecord pass => ?_, sound.judged⟩
  rw [CompilerCandidateService.register, refuseIf_bind_eq_ok] at h
  obtain ⟨_, made, hmade, h⟩ := And.imp_right bind_eq_ok.mp h
  split at h
  · obtain rfl := Except.ok.inj h
    exact sound.validated record hrecord pass
  · obtain ⟨_, extended, _⟩ := commitCandidate_ok lawful h
    rcases mem_after extended hrecord with old | rfl
    · exact sound.validated record old pass
    · obtain ⟨_, status, validation, _⟩ := newCandidate_get hmade
      have freshness : validationFreshness record = "unvalidated" := by
        unfold validationFreshness
        rw [validation]
      rw [effectiveSemanticStatus, freshness, textOf, status] at pass
      exact absurd pass (by decide)

private theorem attachValidation_sound {state : SearchState} (lawful : Lawful service.commit)
    (sound : Sound state) {candidateId : String} {request : CandidateValidation}
    {recordedAt : String} {result : ForgeRecord × History}
    (hcurrent : get state.history candidateId = .ok current)
    (h : service.attachValidation candidateId request recordedAt state.history = .ok result) :
    Sound ⟨result.2, state.attachments ++ [⟨current, some request, result.1⟩]⟩ := by
  obtain ⟨made, hmade, h⟩ := attachValidation_made h hcurrent
  obtain ⟨hresult, extended, _⟩ := commitCandidate_ok lawful h
  obtain ⟨passes, artifact⟩ := successor_validation hmade
  constructor
  · intro record hrecord pass
    rcases mem_after extended hrecord with old | rfl
    · exact (sound.validated record old pass).mono _
    · refine ⟨_, List.mem_append_right _ List.mem_cons_self, request, rfl, passes.mp pass,
        artifact.symm, ?_⟩
      rw [hresult]
      exact .self
  · intro attachment member other hother
    rcases List.mem_append.mp member with old | new
    · exact sound.judged attachment old other hother
    · obtain rfl := List.mem_singleton.mp new
      obtain rfl := Option.some.inj hother
      rw [← passes, hresult]

private theorem attachBenchmark_sound {state : SearchState} (lawful : Lawful service.commit)
    (sound : Sound state) {candidateId : String} {observation : Dict String Json}
    {recordedAt : String} {result : ForgeRecord × History}
    (hcurrent : get state.history candidateId = .ok current)
    (h : service.attachBenchmark candidateId observation recordedAt state.history =
      .ok result) :
    Sound ⟨result.2, state.attachments ++ [⟨current, none, result.1⟩]⟩ := by
  obtain ⟨made, hmade, h⟩ := attachBenchmark_made h hcurrent
  obtain ⟨hresult, extended, _⟩ := commitCandidate_ok lawful h
  obtain ⟨_, _, _, artifact, _⟩ := newCandidate_get hmade
  constructor
  · intro record hrecord pass
    rcases mem_after extended hrecord with old | rfl
    · exact (sound.validated record old pass).mono _
    · rw [(successor_benchmark hmade).1] at pass
      obtain ⟨attachment, member, request, hrequest, passes, same, benchmarked⟩ :=
        (sound.validated current (get_mem hcurrent).1 pass).mono [⟨current, none, result.1⟩]
      refine ⟨attachment, member, request, hrequest, passes, ?_, ?_⟩
      · rw [same, textOf, textOf, artifact]
      · rw [← hresult]
        exact benchmarked.next (List.mem_append_right _ List.mem_cons_self) rfl
  · intro attachment member other hother
    rcases List.mem_append.mp member with old | new
    · exact sound.judged attachment old other hother
    · obtain rfl := List.mem_singleton.mp new
      cases hother

private theorem step_eq_some {state after : SearchState} {event : SearchCall} :
    service.step state event = some after ↔ service.call state event = .ok after := by
  rw [CompilerCandidateService.step]
  cases service.call state event <;> simp [Except.toOption]

private theorem step_sound {state after : SearchState} {event : SearchCall}
    (lawful : Lawful service.commit) (sound : Sound state)
    (h : service.step state event = some after) : Sound after := by
  rw [step_eq_some] at h
  cases event with
  | register request recordedAt =>
      obtain ⟨result, hresult, h⟩ := bind_eq_ok.mp h
      rw [← Except.ok.inj h]
      exact register_sound lawful sound hresult
  | attachValidation candidateId request recordedAt =>
      obtain ⟨current, hcurrent, h⟩ := bind_eq_ok.mp h
      obtain ⟨result, hresult, h⟩ := bind_eq_ok.mp h
      rw [← Except.ok.inj h]
      exact attachValidation_sound lawful sound hcurrent hresult
  | attachBenchmark candidateId observation recordedAt =>
      obtain ⟨current, hcurrent, h⟩ := bind_eq_ok.mp h
      obtain ⟨result, hresult, h⟩ := bind_eq_ok.mp h
      rw [← Except.ok.inj h]
      exact attachBenchmark_sound lawful sound hcurrent hresult

/-! ### What a call leaves as it was -/

private theorem identity_of_get {candidateId : String}
    (htype : record.recordType = .compilerCandidate)
    (h : record.get "candidate_id" = .str candidateId) : record.identity = some candidateId := by
  rw [ForgeRecord.get_eq_field (by decide) (by decide), field] at h
  simp only [ForgeRecord.identity, ForgeRecord.textField, htype]
  change (Dict.get? record.fields "candidate_id").bind Json.asStr? = some candidateId
  cases hfound : Dict.get? record.fields "candidate_id" with
  | none =>
      rw [hfound] at h
      cases h
  | some value =>
      rw [hfound] at h
      obtain rfl : value = .str candidateId := h
      rfl

private theorem newCandidate_id {fields : Dict String Json}
    (h : newRecord service.hashing .compilerCandidate fields = .ok record) :
    record.get "candidate_id" = .str (textOf record "candidate_id") := by
  have htype := (newRecord_get h).1
  obtain ⟨candidateId, _, hid⟩ := (newRecord_valid h).text "candidate_id" (by rw [htype]; decide)
  rw [textOf, hid]
  rfl

/-- The identity of the only record under it stands for that record. -/
private theorem get_sole {candidateId : String}
    (member : record ∈ typed .compilerCandidate history)
    (hid : record.get "candidate_id" = .str candidateId)
    (sole : ∀ other ∈ typed .compilerCandidate history,
      other.get "candidate_id" = .str candidateId → other = record) :
    get history candidateId = .ok record := by
  unfold CompilerCandidateService.get
  cases hlast : ((typed .compilerCandidate history).filter fun other =>
      other.get "candidate_id" = .str candidateId).getLast? with
  | none =>
      rw [List.getLast?_eq_none_iff, List.filter_eq_nil_iff] at hlast
      exact absurd (decide_eq_true hid) (hlast record member)
  | some last =>
      have found := List.mem_of_getLast? hlast
      rw [List.mem_filter, decide_eq_true_eq] at found
      rw [sole last found.1 found.2]

/-- After a commit, the new identity stands for the new record, and an identity
that stood for a record still does. -/
private theorem get_after {fields : Dict String Json}
    (h : newRecord service.hashing .compilerCandidate fields = .ok record)
    (extended : after = history ++ [record] ∨ after = history ∧ record ∈ history)
    (sole : ∀ other ∈ after, other.recordType = record.recordType →
      other.identity = record.identity → other = record) :
    get after (textOf record "candidate_id") = .ok record ∧
      ∀ candidateId known, get history candidateId = .ok known →
        get after candidateId = .ok known := by
  have htype := (newRecord_get h).1
  have hid := newCandidate_id h
  have alone : ∀ other ∈ typed .compilerCandidate after,
      other.get "candidate_id" = record.get "candidate_id" → other = record := by
    intro other hother same
    obtain ⟨member, hother⟩ := mem_typed.mp hother
    rw [hid] at same
    exact sole other member (hother.trans htype.symm)
      ((identity_of_get hother same).trans (identity_of_get htype hid).symm)
  have member : record ∈ typed .compilerCandidate after := by
    rcases extended with rfl | ⟨rfl, old⟩
    · exact mem_typed.mpr ⟨List.mem_append_right _ List.mem_cons_self, htype⟩
    · exact mem_typed.mpr ⟨old, htype⟩
  refine ⟨get_sole member hid fun other hother same => alone other hother (same.trans hid.symm),
    fun candidateId known hknown => ?_⟩
  by_cases same : record.get "candidate_id" = .str candidateId
  · obtain ⟨hmember, hknownId⟩ := get_mem hknown
    have kept : known ∈ typed .compilerCandidate after := by
      rcases extended with rfl | ⟨rfl, _⟩
      · rw [typed_append]
        exact List.mem_append_left _ hmember
      · exact hmember
    obtain rfl := alone known kept (hknownId.trans same.symm)
    exact get_sole kept hknownId fun other hother hsame => alone other hother
      (hsame.trans same.symm)
  · rcases extended with rfl | ⟨rfl, _⟩
    · have others : (typed .compilerCandidate (history ++ [record])).filter
          (fun other => other.get "candidate_id" = .str candidateId) =
          (typed .compilerCandidate history).filter
            fun other => other.get "candidate_id" = .str candidateId := by
        rw [typed_append, List.filter_append, typed_eq_filter .compilerCandidate [record]]
        simp [htype, same]
      unfold CompilerCandidateService.get at hknown ⊢
      rw [others]
      exact hknown
    · exact hknown

private theorem accepted_after (kept : ∀ candidateId known,
      get history candidateId = .ok known → get after candidateId = .ok known)
    {candidateId : String} {known : ForgeRecord} (h : get history candidateId = .ok known) :
    Accepted after candidateId ↔ Accepted history candidateId := by
  rw [accepted_iff, accepted_iff, kept candidateId known h, h]

/-- A call keeps what every identity known before it stands for. -/
private theorem step_kept {state next : SearchState} {event : SearchCall}
    (lawful : Lawful service.commit) (h : service.step state event = some next) :
    ∀ candidateId known, get state.history candidateId = .ok known →
      get next.history candidateId = .ok known := by
  rw [step_eq_some] at h
  cases event with
  | register request recordedAt =>
      obtain ⟨result, hresult, h⟩ := bind_eq_ok.mp h
      obtain rfl := Except.ok.inj h
      rw [CompilerCandidateService.register, refuseIf_bind_eq_ok] at hresult
      obtain ⟨_, made, hmade, hresult⟩ := And.imp_right bind_eq_ok.mp hresult
      split at hresult
      · obtain rfl := Except.ok.inj hresult
        exact fun _ _ hknown => hknown
      · obtain ⟨_, extended, sole⟩ := commitCandidate_ok lawful hresult
        exact (get_after hmade extended sole).2
  | attachValidation candidateId request recordedAt =>
      obtain ⟨current, hcurrent, h⟩ := bind_eq_ok.mp h
      obtain ⟨result, hresult, h⟩ := bind_eq_ok.mp h
      obtain rfl := Except.ok.inj h
      obtain ⟨made, hmade, hresult⟩ := attachValidation_made hresult hcurrent
      obtain ⟨_, extended, sole⟩ := commitCandidate_ok lawful hresult
      exact (get_after hmade extended sole).2
  | attachBenchmark candidateId observation recordedAt =>
      obtain ⟨current, hcurrent, h⟩ := bind_eq_ok.mp h
      obtain ⟨result, hresult, h⟩ := bind_eq_ok.mp h
      obtain rfl := Except.ok.inj h
      obtain ⟨made, hmade, hresult⟩ := attachBenchmark_made hresult hcurrent
      obtain ⟨_, extended, sole⟩ := commitCandidate_ok lawful hresult
      exact (get_after hmade extended sole).2

/-- A benchmark's successor is accepted when what it was attached to is. -/
private theorem benchmark_accepted (lawful : Lawful service.commit) {candidateId : String}
    {observation : Dict String Json} {recordedAt : String} {result : ForgeRecord × History}
    (h : service.attachBenchmark candidateId observation recordedAt history = .ok result) :
    Accepted result.2 (textOf result.1 "candidate_id") ↔ Accepted history candidateId := by
  obtain ⟨current, hcurrent, _⟩ := bind_eq_ok.mp h
  obtain ⟨made, hmade, h⟩ := attachBenchmark_made h hcurrent
  obtain ⟨hresult, extended, sole⟩ := commitCandidate_ok lawful h
  rw [hresult, accepted_iff, accepted_iff, (get_after hmade extended sole).1, hcurrent]
  simp only [Except.ok.injEq, exists_eq_left', (successor_benchmark hmade).2]

end Runs

open CompilerCandidateService (get) in
/-- Whatever the calls: what is accepted was validated, with nothing but
benchmarks on its line of descent since; a validation that fails or is stale
makes a successor that is not accepted; no call changes whether an identity
known before it is accepted, and a benchmark's successor is what the benchmark
was attached to. -/
theorem accepted_validated {service : CompilerCandidateService} {start state : SearchState}
    (lawful : Lawful service.commit) (initial : CompilerCandidateService.Initial start)
    (run : Reaches service.step (fun _ _ => True) start state) :
    (∀ candidateId, Accepted state.history candidateId →
      ∃ record, get state.history candidateId = .ok record ∧
        Validated state.attachments record) ∧
    (∀ attachment ∈ state.attachments, ∀ request, attachment.validation = some request →
      request.judgement = "FAIL" ∨ request.stale = true →
        effectiveDisposition attachment.successor ≠ "accept") ∧
    (∀ event after, service.step state event = some after →
      ∀ candidateId known, get state.history candidateId = .ok known →
        (Accepted after.history candidateId ↔ Accepted state.history candidateId)) ∧
    ∀ candidateId observation recordedAt result,
      service.attachBenchmark candidateId observation recordedAt state.history = .ok result →
        (Accepted result.2 (textOf result.1 "candidate_id") ↔
          Accepted state.history candidateId) := by
  have sound : Sound state := by
    refine Reaches.invariant ⟨?_, ?_⟩ (fun _ _ _ inv _ h => step_sound lawful inv h) run
    · rw [initial.1]
      simp
    · rw [initial.2]
      simp
  refine ⟨fun candidateId h => ?_, fun attachment member request hrequest unfit h => ?_,
    fun event after h candidateId known hknown => accepted_after (step_kept lawful h) hknown,
    fun candidateId observation recordedAt result h => benchmark_accepted lawful h⟩
  · obtain ⟨record, hrecord, accepted⟩ := accepted_iff.mp h
    exact ⟨record, hrecord,
      sound.validated record (get_mem hrecord).1 (pass_of_accept accepted)⟩
  · obtain ⟨judgement, stale⟩ :=
      (sound.judged attachment member request hrequest).mp (pass_of_accept h)
    rcases unfit with hfail | hstale
    · rw [judgement] at hfail
      exact absurd hfail (by decide)
    · rw [stale] at hstale
      cases hstale

/-! ## Sample calls -/

/-- A store that takes every identity once. -/
def commitOnce (history : History) (_ _ : String) (record : ForgeRecord) :
    Except ForgeError History := do
  refuseIf (∃ other ∈ history, other.recordType = record.recordType ∧
      other.identity = record.identity)
    "STORE_DUPLICATE" "a record with this identity is already stored"
  .ok (history ++ [record])

theorem commitOnce_lawful : Lawful commitOnce := by
  constructor
  · intro history group kind record after h
    rw [commitOnce, refuseIf_bind_eq_ok] at h
    exact Or.inl (Except.ok.inj h.2).symm
  · intro history group kind record after h other hother htype hidentity
    rw [commitOnce, refuseIf_bind_eq_ok] at h
    obtain ⟨fresh, h⟩ := h
    obtain rfl := Except.ok.inj h
    rcases List.mem_append.mp hother with old | new
    · exact absurd ⟨other, old, htype, hidentity⟩ fresh
    · exact List.mem_singleton.mp new

def sampleSearch : CompilerCandidateService where
  hashing := ⟨Digest.verbatim, fun value => .ok value.canonicalBytes⟩
  commit := commitOnce

def sampleRegistration : CandidateRegistration where
  baselineArtifactIdentity := "a"
  candidateArtifactIdentity := "b"
  generatorIdentity := "g"
  declaredTransformation := "t"
  claimedRelation := "r"
  expectedBenefit := "e"
  protectedProperties := []
  targetEnvelope := "x"
  requiredValidation := "none"

def sampleJudgement (judgement : String) : CandidateValidation where
  validatorIdentity := "v"
  judgement := judgement
  claimedRelation := "r"

/-- The fields of the sample's record in the states it goes through. -/
def sampleFields (semanticStatus : String) (validation : Json)
    (policyDisposition recordedAt : String) : Dict String Json :=
  Dict.update []
    (CompilerCandidateService.candidateFields (.str "a") (.str "b") (.str "g") (.str "t")
      (.str "r") (.str "e") (texts []) (.str "x") (.str "none") semanticStatus .null validation
      policyDisposition recordedAt)

def sampleValidated (judgement : String) : Json :=
  CompilerCandidateService.validationDocument (sampleJudgement judgement) "b"

section Sample

variable {fields : Dict String Json} {record current made : ForgeRecord} {history : History}
  {semanticStatus policyDisposition recordedAt : String} {validation : Json}

private theorem sample_made
    (h : (newRecord sampleSearch.hashing .compilerCandidate fields).toOption.isSome = true) :
    ∃ record, newRecord sampleSearch.hashing .compilerCandidate fields = .ok record := by
  cases hmade : newRecord sampleSearch.hashing .compilerCandidate fields with
  | ok record => exact ⟨record, rfl⟩
  | error e =>
      rw [hmade] at h
      cases h

private theorem sample_commit (fresh : ∀ other ∈ history, other.identity ≠ record.identity) :
    sampleSearch.commitCandidate record history = .ok (record, history ++ [record]) := by
  refine bind_eq_ok.mpr ⟨history ++ [record], ?_, rfl⟩
  change commitOnce history "compiler-candidates" "compiler_candidate" record = _
  rw [commitOnce, refuseIf_bind_eq_ok]
  exact ⟨fun ⟨other, hother, _, same⟩ => fresh other hother same, rfl⟩

/-- Different statuses, different identities. -/
private theorem sample_fresh {fields' : Dict String Json} {status status' : String}
    (keyed : (Json.obj fields).Keyed) (keyed' : (Json.obj fields').Keyed)
    (h : newRecord sampleSearch.hashing .compilerCandidate fields = .ok record)
    (h' : newRecord sampleSearch.hashing .compilerCandidate fields' = .ok made)
    (hstatus : record.get "semantic_status" = .str status)
    (hstatus' : made.get "semantic_status" = .str status') (differ : status ≠ status') :
    record.identity ≠ made.identity := by
  intro same
  have agree := newRecord_agree Digest.verbatim_collisionFree keyed' keyed h' h same
    (show TakesPart .compilerCandidate "semantic_status" from ⟨by decide, by decide⟩)
  rw [hstatus, hstatus'] at agree
  exact differ (Json.str.inj agree)

/-- A validation of a record of the sample makes the next one. -/
private theorem sample_attach {judgement candidateId newRecordedAt : String}
    (hcurrent : CompilerCandidateService.get history candidateId = .ok current)
    (h : newRecord sampleSearch.hashing .compilerCandidate
      (sampleFields semanticStatus validation policyDisposition recordedAt) = .ok current)
    (member : judgement ∈ CompilerCandidateService.judgements)
    (h' : newRecord sampleSearch.hashing .compilerCandidate
      (sampleFields judgement (sampleValidated judgement) (candidateDisposition judgement "none")
        newRecordedAt) = .ok made)
    (fresh : ∀ other ∈ history, other.identity ≠ made.identity) :
    sampleSearch.attachValidation candidateId (sampleJudgement judgement) newRecordedAt history =
      .ok (made, history ++ [made]) := by
  obtain ⟨_, _, _, artifact, required⟩ := newCandidate_get h
  have certified : current.get "generator_certified" = .bool false := by
    rw [newCandidate_reads h (by decide) (by decide) (by decide)]
    simp [CompilerCandidateService.candidateFields, field, Dict.get?_cons]
  have observation : current.get "benchmark_observation" = .null := by
    rw [newCandidate_reads h (by decide) (by decide) (by decide)]
    simp [CompilerCandidateService.candidateFields, field, Dict.get?_cons]
  rw [CompilerCandidateService.attachValidation, refuseIf_bind_eq_ok]
  refine ⟨not_not.mpr member, bind_eq_ok.mpr ⟨current, hcurrent, ?_⟩⟩
  rw [refuseIf_bind_eq_ok, refuseIf_bind_eq_ok]
  refine ⟨not_not.mpr certified, by simp [sampleJudgement], bind_eq_ok.mpr ⟨made, ?_,
    sample_commit fresh⟩⟩
  rw [successor_eq h, observation, textOf, artifact, textOf, required]
  exact h'

end Sample

/-- A candidate is registered and passes; then the record that passed fails. -/
private theorem sampleCalls_reach :
    ∃ passed failed state, Reaches sampleSearch.step (fun _ _ => True) ⟨[], []⟩ state ∧
      state.attachments = [passed, failed] ∧
      failed.current = passed.successor ∧
      failed.validation = some (sampleJudgement "FAIL") ∧
      Accepted state.history (textOf passed.successor "candidate_id") := by
  obtain ⟨first, hfirst⟩ := sample_made
    (show (newRecord sampleSearch.hashing .compilerCandidate
      (sampleFields "UNVALIDATED" .null "retain_unresolved" "1")).toOption.isSome = true by
        decide +kernel)
  obtain ⟨passed, hpassed⟩ := sample_made
    (show (newRecord sampleSearch.hashing .compilerCandidate
      (sampleFields "PASS" (sampleValidated "PASS") "accept" "2")).toOption.isSome = true by
        decide +kernel)
  obtain ⟨failed, hfailed⟩ := sample_made
    (show (newRecord sampleSearch.hashing .compilerCandidate
      (sampleFields "FAIL" (sampleValidated "FAIL") "reject" "3")).toOption.isSome = true by
        decide +kernel)
  have first_status := (newCandidate_get hfirst).2.1
  obtain ⟨_, passed_status, passed_validation, passed_artifact, passed_required⟩ :=
    newCandidate_get hpassed
  have failed_status := (newCandidate_get hfailed).2.1
  have first_keyed : (Json.obj (sampleFields "UNVALIDATED" .null "retain_unresolved" "1")).Keyed :=
    Json.WellFormed.keyed (by decide +kernel)
  have passed_keyed : (Json.obj (sampleFields "PASS" (sampleValidated "PASS") "accept"
    "2")).Keyed := Json.WellFormed.keyed (by decide +kernel)
  have failed_keyed : (Json.obj (sampleFields "FAIL" (sampleValidated "FAIL") "reject"
    "3")).Keyed := Json.WellFormed.keyed (by decide +kernel)
  have alone : ∀ other ∈ ([] : History), other.identity ≠ first.identity := by simp
  have fresh : ∀ other ∈ [first], other.identity ≠ passed.identity := by
    intro other hother
    obtain rfl := List.mem_singleton.mp hother
    exact sample_fresh first_keyed passed_keyed hfirst hpassed first_status passed_status
      (by decide)
  have fresh' : ∀ other ∈ [first, passed], other.identity ≠ failed.identity := by
    intro other hother
    rcases List.mem_pair.mp hother with rfl | rfl
    · exact sample_fresh first_keyed failed_keyed hfirst hfailed first_status failed_status
        (by decide)
    · exact sample_fresh passed_keyed failed_keyed hpassed hfailed passed_status failed_status
        (by decide)
  have registered := (get_after hfirst (Or.inl rfl)
    (commitCandidate_ok commitOnce_lawful (sample_commit alone)).2.2).1
  have validated := (get_after hpassed (Or.inl rfl)
    (commitCandidate_ok commitOnce_lawful (sample_commit fresh)).2.2).1
  have kept := (get_after hfailed (Or.inl rfl)
    (commitCandidate_ok commitOnce_lawful (sample_commit fresh')).2.2).2 _ _ validated
  have registering : sampleSearch.register sampleRegistration "1" [] = .ok (first, [first]) := by
    have nothing : sortedTexts sampleRegistration.protectedProperties = [] := by decide +kernel
    rw [CompilerCandidateService.register, refuseIf_bind_eq_ok, nothing]
    exact ⟨by decide, bind_eq_ok.mpr ⟨first, hfirst, sample_commit alone⟩⟩
  let before : SearchState :=
    ⟨[first, passed], [⟨first, some (sampleJudgement "PASS"), passed⟩]⟩
  let state : SearchState :=
    ⟨[first, passed, failed], before.attachments ++
      [⟨passed, some (sampleJudgement "FAIL"), failed⟩]⟩
  refine ⟨_, _, state, ?_, rfl, rfl, rfl, accepted_iff.mpr ⟨passed, kept, ?_⟩⟩
  · have one : sampleSearch.step ⟨[], []⟩ (.register sampleRegistration "1") =
        some ⟨[first], []⟩ :=
      step_eq_some.mpr (bind_eq_ok.mpr ⟨_, registering, rfl⟩)
    have two : sampleSearch.step ⟨[first], []⟩
        (.attachValidation (textOf first "candidate_id") (sampleJudgement "PASS") "2") =
        some before :=
      step_eq_some.mpr (bind_eq_ok.mpr ⟨first, registered, bind_eq_ok.mpr
        ⟨_, sample_attach registered hfirst (by decide) hpassed fresh, rfl⟩⟩)
    have three : sampleSearch.step before
        (.attachValidation (textOf passed "candidate_id") (sampleJudgement "FAIL") "3") =
        some state :=
      step_eq_some.mpr (bind_eq_ok.mpr ⟨passed, validated, bind_eq_ok.mpr
        ⟨_, sample_attach validated hpassed (by decide) hfailed fresh', rfl⟩⟩)
    exact ((Reaches.refl.next trivial one).next trivial two).next trivial three
  · have freshness : validationFreshness passed = "current" := by
      unfold validationFreshness textOf
      rw [passed_validation, passed_artifact]
      decide +kernel
    rw [effectiveDisposition, effectiveSemanticStatus, freshness, textOf, textOf, passed_status,
      passed_required]
    decide

/-- In the sample run, what is accepted was validated. -/
theorem accepted_validated_sample :
    ∃ candidateId state record, Reaches sampleSearch.step (fun _ _ => True) ⟨[], []⟩ state ∧
      CompilerCandidateService.get state.history candidateId = .ok record ∧
      Validated state.attachments record := by
  obtain ⟨passed, _, state, run, _, _, _, accepted⟩ := sampleCalls_reach
  obtain ⟨record, hrecord, validated⟩ :=
    (accepted_validated commitOnce_lawful ⟨rfl, rfl⟩ run).1 _ accepted
  exact ⟨_, state, record, run, hrecord, validated⟩

/-- The record that passed stays accepted when a validation that is attached to
it afterwards fails: the failure is on a successor. -/
theorem accepted_after_fail :
    ∃ passed failed state, Reaches sampleSearch.step (fun _ _ => True) ⟨[], []⟩ state ∧
      state.attachments = [passed, failed] ∧
      failed.current = passed.successor ∧
      failed.validation.map CandidateValidation.judgement = some "FAIL" ∧
      Accepted state.history (textOf failed.current "candidate_id") := by
  obtain ⟨passed, failed, state, run, attachments, same, validation, accepted⟩ :=
    sampleCalls_reach
  refine ⟨passed, failed, state, run, attachments, same, ?_, ?_⟩
  · rw [validation]
    rfl
  · rw [same]
    exact accepted

end MncsForge.Application
