import Mathlib.Data.List.Basic

/-!
# Record schemas

The tables of `records.py`: which fields a record type requires and allows,
which field carries its identity, and where the store keeps it.  Field lists are
written in sorted order, the order in which the messages name fields.
-/

namespace MncsForge.Records

def currentSchemaVersion : String := "1"
def legacySchemaVersion : String := "0.1-unversioned"

/-- The record types that have a schema.  `ledger_entry` names the envelope of a
ledger line and is never a payload. -/
inductive RecordType where
  | epoch
  | candidate
  | providerProbe
  | workflowAction
  | executionReceiptBinding
  | executionAssurance
  | workflowResult
  | verifierAction
  | verifierResult
  | candidateDisposition
  | freeze
  | finalEvaluation
  | reconciliation
  | bundle
  | compilerExperiment
  | compilerCandidate
  | conceptEvaluation
  deriving DecidableEq, Repr

namespace RecordType

def value : RecordType → String
  | .epoch => "epoch"
  | .candidate => "candidate"
  | .providerProbe => "provider_probe"
  | .workflowAction => "workflow_action"
  | .executionReceiptBinding => "execution_receipt_binding"
  | .executionAssurance => "execution_assurance"
  | .workflowResult => "workflow_result"
  | .verifierAction => "verifier_action"
  | .verifierResult => "verifier_result"
  | .candidateDisposition => "candidate_disposition"
  | .freeze => "freeze"
  | .finalEvaluation => "final_evaluation"
  | .reconciliation => "reconciliation"
  | .bundle => "bundle"
  | .compilerExperiment => "compiler_experiment"
  | .compilerCandidate => "compiler_candidate"
  | .conceptEvaluation => "concept_evaluation"

def all : List RecordType :=
  [.epoch, .candidate, .providerProbe, .workflowAction, .executionReceiptBinding,
   .executionAssurance, .workflowResult, .verifierAction, .verifierResult,
   .candidateDisposition, .freeze, .finalEvaluation, .reconciliation, .bundle,
   .compilerExperiment, .compilerCandidate, .conceptEvaluation]

theorem mem_all (recordType : RecordType) : recordType ∈ all := by
  cases recordType <;> decide

end RecordType

def ledgerEntryType : String := "ledger_entry"

structure RecordSpec where
  required : List String
  optional : List String := ["extensions"]
  identityField : Option String := none
  identityPrefix : Option String := none
  identityExclusions : List String := []
  statusField : Option String := none

def RecordSpec.allowed (spec : RecordSpec) : List String :=
  spec.required ++ spec.optional

def workflowResultFields : List String :=
  ["candidate_identity", "category", "duration_seconds", "environment", "limitations",
   "method", "output_identity", "protocol_request_identity",
   "provider_or_evaluator_identity", "recorded_at", "returncode", "scope", "status",
   "stderr_diagnostic", "subject_type", "unsupported_constructs",
   "witnesses_or_counterexamples", "workflow"]

/-- The types whose records were candidate-scoped before `subject_type`. -/
def legacyCandidateSubjectRecords : List RecordType :=
  [.workflowResult, .finalEvaluation, .bundle]

def recordSpecs : RecordType → RecordSpec
  | .epoch =>
      { required :=
          ["authority_identities", "baseline_identity", "contract_identity", "created_at",
           "declared_authority_overlap", "epoch_id", "evaluator_identity",
           "generator_identity", "objective_identity", "parent_epoch",
           "visible_partition_identities"]
        identityField := some "epoch_id"
        identityPrefix := some "epoch:" }
  | .candidate =>
      { required :=
          ["candidate_id", "changed_files", "current_file_identities",
           "declared_hypothesis", "generator_configuration_identity",
           "generator_identity", "objective_identity", "parent_candidate",
           "registered_at", "source_epoch", "supersedes", "useful_benefit_objective"] }
  | .providerProbe =>
      { required :=
          ["availability", "command", "declared_capabilities", "declared_identity",
           "declared_version", "descriptor", "executable", "executable_identity",
           "expected_executable_identity", "limitations", "name", "output_identity",
           "probe_kind", "probed_capabilities", "provider_id", "provider_identity",
           "recorded_at", "required", "status", "supported_constructs", "transport",
           "unsupported_constructs"]
        optional :=
          ["cancellation", "duration_seconds", "error_code", "extensions",
           "health_checks", "protocol_statuses", "returncode", "stderr_diagnostic"]
        identityField := some "output_identity"
        identityPrefix := some "forge-json-sha256-v1:"
        statusField := some "status" }
  | .workflowAction =>
      { required :=
          ["action_id", "candidate_identity", "mode", "protocol_request_identity",
           "requested_at", "workflow"]
        identityField := some "action_id"
        identityPrefix := some "workflow-action:" }
  | .executionReceiptBinding =>
      { required :=
          ["action_identity", "action_kind", "architecture", "binding_id",
           "candidate_identity", "environment_identity", "epoch_identity",
           "established_properties", "executable_identity", "execution_scope",
           "host_identity", "image_identity", "mncs_receipt", "os_family",
           "project_identity", "receipt_completeness", "receipt_identity",
           "receipt_schema_version", "recorded_at", "request_identity", "result_identity",
           "runner_identity", "runner_kind", "runner_version", "status",
           "termination_category", "worker_identity", "workflow_or_verifier"]
        identityField := some "binding_id"
        identityPrefix := some "execution-receipt-binding:"
        statusField := some "status"
        identityExclusions := ["mncs_receipt"] }
  | .workflowResult =>
      { required :=
          workflowResultFields
        identityField := some "output_identity"
        identityPrefix := some "forge-json-sha256-v1:"
        statusField := some "status" }
  | .verifierAction =>
      { required :=
          ["action_id", "candidate_identity", "candidate_parent_identity",
           "changed_paths", "configuration_identity", "environment_identity",
           "epoch_identity", "freeze_identity", "input_identities", "method", "mode",
           "policy_identity", "protocol_request_identity",
           "provider_configuration_identity", "provider_id", "requested_at", "scope",
           "source_region", "supersedes_output_identity", "verifier_id",
           "verifier_identity", "verifier_version"]
        identityField := some "action_id"
        identityPrefix := some "verifier-action:"
        identityExclusions := ["protocol_request_identity"] }
  | .verifierResult =>
      { required :=
          ["action_id", "assumptions", "candidate_identity", "candidate_parent_identity",
           "category", "claim", "configuration_identity", "dependency_envelope",
           "disclosure", "duration_seconds", "environment_identity", "epoch_identity",
           "evidence_class", "freeze_identity", "independent_evaluation",
           "input_identities", "iterative_development_overlap", "limitations", "method",
           "mode", "operational_error", "output_identity", "policy_identity",
           "provider_configuration_identity", "provider_executable_identity",
           "provider_id", "provider_identity", "provider_response_identity",
           "recorded_at", "returncode", "status", "stderr_diagnostic", "summary",
           "supersedes_output_identity", "unsupported_constructs", "verifier_id",
           "verifier_identity", "verifier_version", "witnesses"]
        identityField := some "output_identity"
        identityPrefix := some "forge-json-sha256-v1:"
        statusField := some "status" }
  | .candidateDisposition =>
      { required :=
          ["candidate_identity", "disposition", "disposition_id", "evidence_status",
           "reason", "recorded_at", "selection_policy_identity", "selection_rule"]
        identityField := some "disposition_id"
        identityPrefix := some "disposition:"
        statusField := some "evidence_status" }
  | .freeze =>
      { required :=
          ["acceptance_policy_identity", "candidate_identity", "contract_identity",
           "environment", "evaluator_identity", "freeze_id", "frozen_at",
           "frozen_path_sets", "protected_identity", "reference_identity",
           "required_evidence_plan", "required_evidence_plan_identity",
           "selection_record"]
        identityField := some "freeze_id"
        identityPrefix := some "freeze:" }
  | .finalEvaluation =>
      { required :=
          workflowResultFields
        identityField := some "output_identity"
        identityPrefix := some "forge-json-sha256-v1:"
        statusField := some "status" }
  | .reconciliation =>
      { required :=
          ["candidate_identity", "categories", "claim_limitations",
           "conflicting_evidence", "dominance", "normative_logic_delegated",
           "required_gate_aggregation", "stale_identities", "unresolved_blockers"]
        statusField := some "required_gate_aggregation" }
  | .bundle =>
      { required :=
          workflowResultFields
        identityField := some "output_identity"
        identityPrefix := some "forge-json-sha256-v1:"
        statusField := some "status" }
  | .compilerExperiment =>
      { required :=
          ["assurance_status", "compilation_status", "compiler_identity",
           "conformance_status", "experiment_id", "interpretation",
           "language_contract_id", "language_record", "language_record_identity",
           "observation", "pipeline_identity", "recorded_at", "run_identity"]
        identityField := some "experiment_id"
        identityPrefix := some "compiler-experiment:"
        identityExclusions := ["recorded_at"] }
  | .compilerCandidate =>
      { required :=
          ["assurance_status", "baseline_artifact_identity", "benchmark_observation",
           "candidate_artifact_identity", "candidate_id", "claimed_relation",
           "conformance_status", "declared_transformation", "expected_benefit",
           "generator_certified", "generator_identity", "interpretation", "isolated",
           "policy_disposition", "protected_properties", "recorded_at",
           "required_validation", "semantic_status", "target_envelope", "validation"]
        identityField := some "candidate_id"
        identityPrefix := some "compiler-candidate:"
        identityExclusions := ["recorded_at"] }
  | .conceptEvaluation =>
      { required :=
          ["assurance_status", "backend_identity", "candidate_identity",
           "compiler_identity", "concept_experiment_id", "conformance_status",
           "content_digest", "evaluation_id", "evaluation_material",
           "evaluator_policy_identity", "evidence_identities", "execution_identities",
           "generator_certified", "generator_identity", "interpretation",
           "language_profile", "obligation", "recorded_at", "stable_id", "status",
           "unresolved_obligations", "verifier_identity", "verifier_version"]
        identityField := some "evaluation_id"
        identityPrefix := some "concept-evaluation:"
        identityExclusions := ["recorded_at"] }
  | .executionAssurance =>
      { required :=
          ["action_identity", "action_kind", "assessed_at", "assessment_id",
           "assurance_status", "binding_identity", "candidate_identity",
           "policy_identity", "project_identity", "reasons", "requested_properties",
           "unmet_properties"]
        identityField := some "assessment_id"
        identityPrefix := some "execution-assurance:"
        statusField := some "assurance_status" }

def requiredStringFields : RecordType → List String
  | .epoch =>
      ["baseline_identity", "contract_identity", "created_at", "epoch_id",
       "evaluator_identity", "generator_identity", "objective_identity"]
  | .candidate =>
      ["candidate_id", "declared_hypothesis", "generator_configuration_identity",
       "generator_identity", "objective_identity", "registered_at", "source_epoch",
       "useful_benefit_objective"]
  | .providerProbe =>
      ["availability", "name", "output_identity", "probe_kind", "provider_id",
       "recorded_at", "status", "transport"]
  | .workflowAction =>
      ["action_id", "candidate_identity", "mode", "requested_at", "workflow"]
  | .executionReceiptBinding =>
      ["action_identity", "action_kind", "architecture", "binding_id",
       "candidate_identity", "environment_identity", "execution_scope", "os_family",
       "project_identity", "receipt_completeness", "recorded_at", "runner_identity",
       "runner_kind", "runner_version", "status", "termination_category",
       "workflow_or_verifier"]
  | .executionAssurance =>
      ["action_identity", "action_kind", "assessed_at", "assessment_id",
       "assurance_status", "binding_identity", "candidate_identity", "project_identity"]
  | .workflowResult =>
      ["candidate_identity", "category", "method", "output_identity", "recorded_at",
       "scope", "status", "subject_type", "workflow"]
  | .verifierAction =>
      ["action_id", "candidate_identity", "configuration_identity",
       "environment_identity", "epoch_identity", "method", "mode", "policy_identity",
       "protocol_request_identity", "provider_configuration_identity", "provider_id",
       "requested_at", "scope", "verifier_id", "verifier_identity", "verifier_version"]
  | .verifierResult =>
      ["action_id", "candidate_identity", "category", "claim", "configuration_identity",
       "disclosure", "environment_identity", "epoch_identity", "evidence_class", "method",
       "mode", "output_identity", "policy_identity", "provider_configuration_identity",
       "provider_id", "recorded_at", "status", "summary", "verifier_id",
       "verifier_identity", "verifier_version"]
  | .candidateDisposition =>
      ["candidate_identity", "disposition", "disposition_id", "evidence_status", "reason",
       "recorded_at", "selection_policy_identity", "selection_rule"]
  | .freeze =>
      ["acceptance_policy_identity", "candidate_identity", "contract_identity",
       "environment", "evaluator_identity", "freeze_id", "frozen_at",
       "protected_identity", "reference_identity", "required_evidence_plan",
       "required_evidence_plan_identity", "selection_record"]
  | .finalEvaluation =>
      ["candidate_identity", "category", "method", "output_identity", "recorded_at",
       "scope", "status", "subject_type", "workflow"]
  | .reconciliation =>
      ["dominance", "normative_logic_delegated", "required_gate_aggregation"]
  | .bundle =>
      ["candidate_identity", "category", "method", "output_identity", "recorded_at",
       "scope", "status", "subject_type", "workflow"]
  | .compilerExperiment =>
      ["compilation_status", "compiler_identity", "experiment_id", "interpretation",
       "language_contract_id", "language_record_identity", "pipeline_identity",
       "recorded_at", "run_identity"]
  | .conceptEvaluation =>
      ["backend_identity", "candidate_identity", "compiler_identity",
       "concept_experiment_id", "content_digest", "evaluation_id", "interpretation",
       "language_profile", "obligation", "recorded_at", "stable_id", "verifier_identity",
       "verifier_version"]
  | .compilerCandidate =>
      ["baseline_artifact_identity", "candidate_artifact_identity", "candidate_id",
       "claimed_relation", "declared_transformation", "expected_benefit",
       "generator_identity", "interpretation", "policy_disposition", "recorded_at",
       "required_validation", "semantic_status", "target_envelope"]

def requiredObjectFields : RecordType → List String
  | .epoch =>
      ["authority_identities", "visible_partition_identities"]
  | .candidate =>
      ["current_file_identities"]
  | .executionReceiptBinding =>
      ["established_properties"]
  | .workflowResult =>
      ["environment"]
  | .verifierAction =>
      ["input_identities"]
  | .verifierResult =>
      ["dependency_envelope", "input_identities"]
  | .freeze =>
      ["frozen_path_sets"]
  | .finalEvaluation =>
      ["environment"]
  | .reconciliation =>
      ["categories"]
  | .bundle =>
      ["environment"]
  | .compilerExperiment =>
      ["language_record", "observation"]
  | .conceptEvaluation =>
      ["evaluation_material"]
  | _ => []

/-! ## Storage contexts -/

def ledgerKindTypes : List (String × RecordType) :=
  [("epoch", .epoch),
   ("candidate", .candidate),
   ("provider_probe", .providerProbe),
   ("workflow_action", .workflowAction),
   ("execution_receipt_binding", .executionReceiptBinding),
   ("execution_assurance", .executionAssurance),
   ("result", .workflowResult),
   ("verifier_action", .verifierAction),
   ("verifier_result", .verifierResult),
   ("disposition", .candidateDisposition),
   ("freeze", .freeze),
   ("evaluation", .finalEvaluation),
   ("bundle", .bundle),
   ("compiler_experiment", .compilerExperiment),
   ("compiler_candidate", .compilerCandidate),
   ("concept_evaluation", .conceptEvaluation)]

def recordGroupTypes : List (String × RecordType) :=
  [("epochs", .epoch),
   ("candidates", .candidate),
   ("provider-probes", .providerProbe),
   ("workflow-actions", .workflowAction),
   ("execution-receipt-bindings", .executionReceiptBinding),
   ("assessments", .executionAssurance),
   ("results", .workflowResult),
   ("verifier-actions", .verifierAction),
   ("verifier-results", .verifierResult),
   ("dispositions", .candidateDisposition),
   ("freezes", .freeze),
   ("evaluations", .finalEvaluation),
   ("bundles", .bundle),
   ("compiler-experiments", .compilerExperiment),
   ("concept-evaluations", .conceptEvaluation),
   ("compiler-candidates", .compilerCandidate)]

/-- Trusted storage context for a ledger-backed immutable record. -/
structure PersistedRecordContext where
  group : String
  ledgerKind : String
  recordType : RecordType
  identityField : String
  deriving DecidableEq

def persistedRecordContexts : List PersistedRecordContext :=
  [⟨"epochs", "epoch", .epoch, "epoch_id"⟩,
   ⟨"candidates", "candidate", .candidate, "candidate_id"⟩,
   ⟨"provider-probes", "provider_probe", .providerProbe, "output_identity"⟩,
   ⟨"workflow-actions", "workflow_action", .workflowAction, "action_id"⟩,
   ⟨"execution-receipt-bindings", "execution_receipt_binding", .executionReceiptBinding, "binding_id"⟩,
   ⟨"assessments", "execution_assurance", .executionAssurance, "assessment_id"⟩,
   ⟨"results", "result", .workflowResult, "output_identity"⟩,
   ⟨"verifier-actions", "verifier_action", .verifierAction, "action_id"⟩,
   ⟨"verifier-results", "verifier_result", .verifierResult, "output_identity"⟩,
   ⟨"dispositions", "disposition", .candidateDisposition, "disposition_id"⟩,
   ⟨"freezes", "freeze", .freeze, "freeze_id"⟩,
   ⟨"evaluations", "evaluation", .finalEvaluation, "output_identity"⟩,
   ⟨"bundles", "bundle", .bundle, "output_identity"⟩,
   ⟨"compiler-experiments", "compiler_experiment", .compilerExperiment, "experiment_id"⟩,
   ⟨"compiler-candidates", "compiler_candidate", .compilerCandidate, "candidate_id"⟩,
   ⟨"concept-evaluations", "concept_evaluation", .conceptEvaluation, "evaluation_id"⟩]

def recordContext? (kind : String) : Option PersistedRecordContext :=
  persistedRecordContexts.find? fun context => context.ledgerKind == kind

end MncsForge.Records
