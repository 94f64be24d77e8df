import Mathlib
import MncsForge.Records.Construction
import MncsForge.Lifecycle.History

/-!
# Execution receipts

A runner reports what it observed of an execution apart from what the command
said.  The receipt binds that observation to the identities of the workflow, and
a binding record ties the receipt to the action and to its result.
-/

namespace MncsForge.Application

open MncsForge.Foundation MncsForge.Records
open Lifecycle (History typed textOf)

/-! ## Observations -/

inductive ExecutionTermination where
  | completed
  | nonzeroExit
  | timeout
  | signal
  | crash
  | resourceLimit
  | outputLimit
  | policyRejected
  | cancelled
  | internalRunnerError
  deriving DecidableEq, Repr

def ExecutionTermination.value : ExecutionTermination → String
  | .completed => "completed"
  | .nonzeroExit => "nonzero-exit"
  | .timeout => "timeout"
  | .signal => "signal"
  | .crash => "crash"
  | .resourceLimit => "resource-limit"
  | .outputLimit => "output-limit"
  | .policyRejected => "policy-rejected"
  | .cancelled => "cancelled"
  | .internalRunnerError => "internal-runner-error"

inductive RunnerCapability where
  | enforced
  | notProvided
  | unknown
  deriving DecidableEq, Repr

def RunnerCapability.value : RunnerCapability → String
  | .enforced => "enforced"
  | .notProvided => "not-provided"
  | .unknown => "unknown"

structure RunnerCapabilities where
  runnerKind : String
  runnerVersion : String
  osFamily : String
  architecture : String
  executionScope : String
  shellExecution : String
  timeoutEnforcement : RunnerCapability
  stdoutLimit : RunnerCapability
  stderrLimit : RunnerCapability
  processGroupTermination : RunnerCapability
  sandboxIsolation : RunnerCapability
  networkIsolation : RunnerCapability
  filesystemIsolation : RunnerCapability
  memoryLimit : RunnerCapability := .unknown
  processCountLimit : RunnerCapability := .unknown
  aggregateConcurrencyLimit : RunnerCapability := .unknown
  deriving DecidableEq

structure StreamObservation where
  totalBytes : Option Nat
  retainedBytes : Nat
  retainedSha256 : Option String
  completeSha256 : Option String
  truncated : Option Bool
  limitHit : Bool
  limitBytes : Option Nat
  deriving DecidableEq

structure AggregateOutputObservation where
  totalBytes : Option Nat
  retainedBytes : Nat
  limitHit : Bool
  limitBytes : Option Nat
  deriving DecidableEq

/-- Seconds are carried by their decimal text. -/
structure ExecutionObservation where
  commandIdentity : String
  cwdIdentity : String
  environmentIdentity : String
  stdinIdentity : String
  timeoutSeconds : String
  stdoutLimit : Nat
  stderrLimit : Nat
  startedAt : Option String
  endedAt : Option String
  durationSeconds : Option String
  returncode : Option Int
  signal : Option Int
  terminationCategory : ExecutionTermination
  stdout : StreamObservation
  stderr : StreamObservation
  aggregateOutput : AggregateOutputObservation
  capabilities : RunnerCapabilities
  runnerIdentity : String
  runnerVersion : String
  executableIdentity : Option String
  runtimeIdentity : Option String
  errorCode : Option String
  workerIdentity : Option String
  hostIdentity : Option String
  imageIdentity : Option String
  placementIdentity : Option String
  filesystemPolicy : String
  networkPolicy : String
  sameOperator : Option Bool
  resourceEnvelope : Dict String Json
  resourceObservations : Dict String Json
  deriving DecidableEq

structure ExecutionResult where
  returncode : Int
  durationSeconds : String
  deriving DecidableEq

structure ExecutionSession where
  observation : ExecutionObservation
  stdout : List UInt8
  stderr : List UInt8
  result : Option ExecutionResult
  errorCode : Option String
  errorMessage : Option String
  deriving DecidableEq

/-! ## Configuration -/

structure Workflow where
  name : String
  category : String
  mode : String
  command : List String
  providerProtocol : Bool
  providerId : Option String
  disclosure : String
  subject : String
  deriving DecidableEq

structure ForgeConfig where
  projectIdentity : String
  workflows : Dict String Workflow
  /-- `sorted(config.environment(workflow))`. -/
  environmentKeys : Workflow → List String
  timeout : String
  outputCap : Nat

/-- The date arithmetic of receipts, on timestamps as they are written. -/
structure Calendar where
  /-- `_iso(_parse_timestamp(text))`. -/
  iso : String → String
  /-- The same, a timeout and one second later. -/
  expiry : String → String → String
  /-- Microseconds as a decimal text of seconds. -/
  seconds : Int → String

/-- A literal dictionary of the source. -/
def document (members : List (String × Json)) : Json :=
  .obj (Dict.update [] members)

def texts (values : List String) : Json := .arr (values.map .str)

def ofNat? : Option Nat → Json
  | none => .null
  | some value => .int value

/-! ## Identifiers -/

/-- `^[A-Za-z0-9][A-Za-z0-9._:-]{0,127}$`. -/
def isBoundedId (text : String) : Bool :=
  match text.toList with
  | [] => false
  | first :: rest =>
      first.isAlphanum && rest.length ≤ 127 &&
        rest.all fun c => c.isAlphanum || c == '.' || c == '_' || c == ':' || c == '-'

/-- `^[0-9a-f]{64}$`. -/
def isSha256 (text : String) : Bool :=
  text.toList.length = 64 && text.toList.all fun c => c.isDigit || ('a' ≤ c && c ≤ 'f')

/-- The digest after the last colon, or the whole text when it is one. -/
def sha256Digest (value : String) : Option String :=
  if isSha256 value then some value
  else
    let tail := String.ofList (value.toList.reverse.takeWhile (· ≠ ':')).reverse
    if ':' ∈ value.toList ∧ isSha256 tail = true then some tail else none

variable (hashing : Hashing)

def canonicalSha256 (value : Json) : Except ForgeError String := do
  let encoded ← hashing.jcs value
  .ok (hashing.hexdigest encoded)

def contentDigest (part : Json) : Except ForgeError String :=
  canonicalSha256 hashing (.arr [part])

def textDigest (value : String) : String :=
  hashing.hexdigest value.toUTF8.data.toList

def boundedId (label value : String) : Except ForgeError String := do
  let identifier := label ++ String.ofList ((textDigest hashing value).toList.take 40)
  refuseIf (isBoundedId identifier = false) "RECEIPT_CONTEXT"
    "constructed receipt identifier is invalid"
  .ok identifier

def subjectDigest (candidateIdentity : String) : String :=
  (sha256Digest candidateIdentity).getD (textDigest hashing candidateIdentity)

/-! ## The envelope -/

/-- What a runner cannot know of its execution.  The members every caller leaves
at one constant are written where the receipt states them. -/
structure ReceiptContext where
  recordId : String
  subjectRecordId : String
  subjectCanonicalSha256 : String
  candidateId : Option String
  testBundleIdentity : String
  harnessIdentity : String
  executionPolicyIdentity : String
  placementPolicyIdentity : Option String
  challengeNonce : String
  challengeIssuedAt : String
  challengeExpiresAt : String
  observedAt : String
  deriving DecidableEq

def resultSemantics : String :=
  "Forge records execution provenance only; workflow exit zero is not evidence PASS, " ++
    "and this receipt does not establish sandbox, independence, or custody."

def requireId (value fieldName : String) : Except ForgeError Unit :=
  refuseIf (isBoundedId value = false) "RECEIPT_CONTEXT"
    s!"{fieldName} must be a bounded MNCS identifier"

def requireSha256 (value fieldName : String) : Except ForgeError Unit :=
  refuseIf (isSha256 value = false) "RECEIPT_CONTEXT"
    s!"{fieldName} must be a lowercase SHA-256 identity"

def optionally (check : String → String → Except ForgeError Unit) (value : Option String)
    (fieldName : String) : Except ForgeError Unit :=
  match value with
  | none => .ok ()
  | some value => check value fieldName

def requireStream (value : StreamObservation) (fieldName : String) : Except ForgeError Unit :=
  refuseIf (value.totalBytes = none ∨ value.truncated = none) "RECEIPT_OBSERVATION"
    s!"{fieldName} does not establish a complete total byte count"

/-- Everything the envelope refuses, in the order it is looked at. -/
def requireReceipt (observation : ExecutionObservation) (context : ReceiptContext) :
    Except ForgeError Unit := do
  requireId context.recordId "record_id"
  requireId context.subjectRecordId "subject_record_id"
  requireSha256 context.subjectCanonicalSha256 "subject_canonical_sha256"
  requireSha256 context.testBundleIdentity "test_bundle_identity"
  requireSha256 context.executionPolicyIdentity "execution_policy_identity"
  requireSha256 context.harnessIdentity "harness_identity"
  optionally requireSha256 context.placementPolicyIdentity "placement_policy_identity"
  optionally requireId context.candidateId "candidate_id"
  refuseIf (context.challengeNonce = "") "RECEIPT_CONTEXT" "challenge_nonce is required"
  refuseIf (observation.startedAt = none ∨ observation.endedAt = none) "RECEIPT_OBSERVATION"
    "execution lifecycle timestamps are incomplete"
  refuseIf (observation.durationSeconds = none) "RECEIPT_OBSERVATION"
    "execution duration is unavailable"
  requireStream observation.stdout "stdout"
  requireStream observation.stderr "stderr"
  refuseIf (observation.aggregateOutput.totalBytes = none) "RECEIPT_OBSERVATION"
    "aggregate output total is unavailable"
  refuseIf
    (observation.resourceEnvelope ≠ [] ∧
      Dict.get? observation.resourceEnvelope "memory_max_bytes" = none)
    "KeyError" "memory_max_bytes"
  refuseIf
    (observation.resourceEnvelope ≠ [] ∧
      Dict.get? observation.resourceEnvelope "concurrency_max" = none)
    "KeyError" "concurrency_max"
  requireId observation.runnerIdentity "runner_identity"
  optionally requireSha256 observation.executableIdentity "executable_identity"
  optionally requireId observation.runtimeIdentity "runtime_identity"
  requireSha256 observation.commandIdentity "command_identity"
  requireId observation.environmentIdentity "environment_identity"

def capabilityState : RunnerCapability → String
  | .enforced => "enforced"
  | .notProvided => "not-enforced"
  | .unknown => "unknown"

def resourceLimitState (capabilities : RunnerCapabilities) : String :=
  let values := [capabilities.timeoutEnforcement, capabilities.stdoutLimit,
    capabilities.stderrLimit, capabilities.memoryLimit, capabilities.processCountLimit,
    capabilities.aggregateConcurrencyLimit]
  if values.all (· = .enforced) then "enforced"
  else if values.any (· = .unknown) then "unknown"
  else "not-enforced"

def streamDocument (value : StreamObservation) : Json :=
  document
    [("total_bytes", ofNat? value.totalBytes), ("retained_bytes", .int value.retainedBytes),
     ("retained_sha256", .ofText value.retainedSha256),
     ("complete_sha256", .ofText value.completeSha256),
     ("truncated", (value.truncated.map Json.bool).getD .null),
     ("limit_hit", .bool value.limitHit), ("limit_bytes", ofNat? value.limitBytes)]

def capabilitiesDocument (value : RunnerCapabilities) : Json :=
  document
    [("runner_kind", .str value.runnerKind), ("runner_version", .str value.runnerVersion),
     ("os_family", .str value.osFamily), ("architecture", .str value.architecture),
     ("execution_scope", .str value.executionScope),
     ("shell_execution", .str value.shellExecution),
     ("timeout_enforcement", .str value.timeoutEnforcement.value),
     ("stdout_limit", .str value.stdoutLimit.value),
     ("stderr_limit", .str value.stderrLimit.value),
     ("process_group_termination", .str value.processGroupTermination.value),
     ("sandbox_isolation", .str value.sandboxIsolation.value),
     ("network_isolation", .str value.networkIsolation.value),
     ("filesystem_isolation", .str value.filesystemIsolation.value),
     ("memory_limit", .str value.memoryLimit.value),
     ("process_count_limit", .str value.processCountLimit.value),
     ("aggregate_concurrency_limit", .str value.aggregateConcurrencyLimit.value)]

def resourceDocument (metric : String) (value : Json) (unit source : String) : Json :=
  document
    [("metric", .str metric), ("value", value), ("unit", .str unit),
     ("source_identity", .str source), ("phase", .str "whole-execution")]

/-- The measured resources among the observed ones; only integers count. -/
def measuredResources (calendar : Calendar) (observation : ExecutionObservation) : List Json :=
  match Dict.get? observation.resourceObservations "resource_observations" with
  | some (.obj facts) =>
      let peak :=
        if "cgroup_memory_peak_bytes" ∈ Dict.keys facts then "cgroup_memory_peak_bytes"
        else "process_rss_peak_bytes"
      let source :=
        ((Dict.get? observation.resourceEnvelope "identity").getD
          (.str "forge:cgroup-v2")).display
      [("host-memory-peak", peak, "bytes"), ("process-count", "process_count_peak", "count"),
        ("cpu-time", "cpu_time_microseconds", "seconds")].filterMap fun entry =>
          match Dict.get? facts entry.2.1 with
          | some (.int value) =>
              let measured :=
                if entry.1 = "cpu-time" then Json.float (calendar.seconds value)
                else .int value
              some (resourceDocument entry.1 measured entry.2.2 source)
          | _ => none
  | _ => []

def limitDocument (resource : String) (value : Json) (unit : String) : Json :=
  document [("resource", .str resource), ("value", value), ("unit", .str unit)]

/-- The receipt before it is given its identity. -/
def receiptDocument (calendar : Calendar) (observation : ExecutionObservation)
    (context : ReceiptContext) : List (String × Json) :=
  [("schema_version", .str "0.1-experimental"),
   ("record_type", .str "mncs-execution-receipt"),
   ("record_id", .str context.recordId),
   ("subject", document
     [("family", .str "MNCS"), ("kind", .str "development-record"),
      ("record_id", .str context.subjectRecordId),
      ("canonical_sha256", .str context.subjectCanonicalSha256),
      ("candidate_id", .ofText context.candidateId)]),
   ("bundle", document
     [("test_bundle_identity", .str context.testBundleIdentity),
      ("harness_identity", .str context.harnessIdentity),
      ("input_snapshot_identity", .null)]),
   ("policy", document
     [("execution_policy_identity", .str context.executionPolicyIdentity),
      ("placement_policy_identity", .ofText context.placementPolicyIdentity),
      ("requested_limits", .arr
        ([limitDocument "timeout" (.float observation.timeoutSeconds) "seconds",
          limitDocument "output" (.int (max observation.stdoutLimit observation.stderrLimit))
            "bytes"] ++
          if observation.resourceEnvelope = [] then []
          else
            [limitDocument "host-memory"
              ((Dict.get? observation.resourceEnvelope "memory_max_bytes").getD .null) "bytes",
             limitDocument "concurrency"
              ((Dict.get? observation.resourceEnvelope "concurrency_max").getD .null)
              "count"])),
      ("result_semantics", .str resultSemantics)]),
   ("runner", document
     [("runner_identity", .str observation.runnerIdentity),
      ("runner_version", .str observation.runnerVersion),
      ("executable_identity", .ofText observation.executableIdentity),
      ("runtime_identity", .ofText observation.runtimeIdentity),
      ("command_identity", .str observation.commandIdentity)]),
   ("environment", document [("environment_identity", .str observation.environmentIdentity)]),
   ("challenge", document
     [("nonce", .str context.challengeNonce), ("issued_at", .str context.challengeIssuedAt),
      ("expires_at", .str context.challengeExpiresAt)]),
   ("request", document
     [("status", .str "accepted"), ("observed_at", .str context.observedAt)]),
   ("lifecycle", document
     [("started_at", .ofText observation.startedAt), ("ended_at", .ofText observation.endedAt),
      ("duration_seconds", (observation.durationSeconds.map Json.float).getD .null),
      ("termination_category", .str observation.terminationCategory.value)]),
   ("process", document
     [("exit_code", (observation.returncode.map Json.int).getD .null),
      ("signal", (observation.signal.map Json.int).getD .null),
      ("harness_status", .str "UNKNOWN"), ("result_identity", .null)]),
   ("termination_observations", document
     [("timeout_seconds",
        if observation.terminationCategory = .timeout then .float observation.timeoutSeconds
        else .null),
      ("resource_name", .null)]),
   ("streams", document
     [("stdout", streamDocument observation.stdout),
      ("stderr", streamDocument observation.stderr)]),
   ("aggregate_output", document
     [("total_bytes", ofNat? observation.aggregateOutput.totalBytes),
      ("retained_bytes", .int observation.aggregateOutput.retainedBytes),
      ("limit_bytes", ofNat? observation.aggregateOutput.limitBytes),
      ("limit_hit", .bool observation.aggregateOutput.limitHit)]),
   ("artifacts", .arr []),
   ("resources", .arr
     (resourceDocument "wall-duration"
        ((observation.durationSeconds.map Json.float).getD .null) "seconds"
        "forge:wall-clock-v1" :: measuredResources calendar observation)),
   ("enforcement", document
     [("command_binding", .str "enforced"), ("environment_binding", .str "enforced"),
      ("filesystem_restriction",
        .str (capabilityState observation.capabilities.filesystemIsolation)),
      ("network_restriction",
        .str (capabilityState observation.capabilities.networkIsolation)),
      ("process_restriction",
        .str (capabilityState observation.capabilities.processCountLimit)),
      ("resource_limits", .str (resourceLimitState observation.capabilities)),
      ("test_bundle_integrity", .str "unknown"), ("result_integrity", .str "unknown")]),
   ("placement", document [("execution_placement_reference", .null)]),
   ("claim_boundary", document
     (["conformance", "correctness", "security", "sandbox", "independence",
        "protected_custody", "promotion"].map fun claim => (claim, .str "not-asserted"))),
   ("extensions", document
     [("forge:local-process", document
        [("cwd_identity", .str observation.cwdIdentity),
         ("stdin_identity", .str observation.stdinIdentity),
         ("stdout_limit_bytes", .int observation.stdoutLimit),
         ("stderr_limit_bytes", .int observation.stderrLimit),
         ("capabilities", capabilitiesDocument observation.capabilities),
         ("termination_error_code", .ofText observation.errorCode),
         ("resource_envelope", .obj observation.resourceEnvelope),
         ("resource_observations", .obj observation.resourceObservations)])])]

/-! ## The binding -/

structure WorkflowExecution where
  action : ForgeRecord
  result : Option ForgeRecord
  session : ExecutionSession
  workflow : Workflow
  epochIdentity : Option String
  error : Option ForgeError

def property (established : Option Bool) (unknown : Bool) : Json :=
  match unknown, established with
  | true, _ | _, none => .str "unknown"
  | _, some established => .str (if established then "established" else "not-established")

def establishedProperties (observation : ExecutionObservation) : List (String × Json) :=
  let completed : Bool :=
    observation.terminationCategory = .completed ∨
      observation.terminationCategory = .nonzeroExit ∨
      observation.terminationCategory = .signal
  let isolation := observation.capabilities
  [("execution_completed", property (some completed) (!completed)),
   ("local_result_validity", .str "unknown"),
   ("runner_capability", property
     (some (isolation.timeoutEnforcement = .enforced ∧ isolation.stdoutLimit = .enforced ∧
       isolation.stderrLimit = .enforced)) false),
   ("filesystem_isolation", property (some (isolation.filesystemIsolation = .enforced))
     (isolation.filesystemIsolation = .unknown)),
   ("network_isolation", property (some (isolation.networkIsolation = .enforced))
     (isolation.networkIsolation = .unknown)),
   ("containerization", property (some observation.imageIdentity.isSome) false),
   ("same_operator_execution", property (some (observation.sameOperator = some true))
     observation.sameOperator.isNone),
   ("external_anchoring", .str "not-established"),
   ("witnessing", .str "not-established"),
   ("protected_custody", .str "not-established"),
   ("evaluator_independence", .str "not-established"),
   ("governance_certification", .str "not-established")]

def incompleteTermination : ExecutionTermination → Bool
  | .timeout | .outputLimit | .crash | .cancelled | .internalRunnerError | .policyRejected
  | .resourceLimit => true
  | _ => false

/-- `_completeness`, before the envelope is built. -/
def observedComplete (observation : ExecutionObservation) : Bool :=
  !incompleteTermination observation.terminationCategory &&
    observation.startedAt.isSome && observation.endedAt.isSome &&
    observation.durationSeconds.isSome &&
    observation.stdout.totalBytes.isSome && observation.stderr.totalBytes.isSome &&
    observation.aggregateOutput.totalBytes.isSome &&
    observation.stdout.truncated.isSome && observation.stderr.truncated.isSome

variable (calendar : Calendar) (config : ForgeConfig)

/-- `_receipt_context`; `now` is the time that stands for a missing end. -/
def receiptContext (workflow : Workflow) (action : ForgeRecord)
    (observation : ExecutionObservation) (now : String) : Except ForgeError ReceiptContext := do
  let requestedAt := textOf action "requested_at"
  let actionIdentity := textOf action "action_id"
  let candidateIdentity := textOf action "candidate_identity"
  let bundleIdentity ← contentDigest hashing (document
    [("kind", .str "forge-declared-workflow"),
     ("project_identity", .str config.projectIdentity), ("workflow", .str workflow.name),
     ("command", texts workflow.command), ("category", .str workflow.category),
     ("subject", .str workflow.subject)])
  let policyIdentity ← contentDigest hashing (document
    [("timeout_seconds", .float observation.timeoutSeconds),
     ("stdout_limit", .int observation.stdoutLimit),
     ("stderr_limit", .int observation.stderrLimit), ("shell", .bool false),
     ("environment_keys", texts (config.environmentKeys workflow)),
     ("filesystem_policy", .str observation.filesystemPolicy),
     ("network_policy", .str observation.networkPolicy)])
  let harnessIdentity ← contentDigest hashing (document
    [("runner_identity", .str observation.runnerIdentity),
     ("runner_version", .str observation.runnerVersion),
     ("runner_kind", .str observation.capabilities.runnerKind)])
  let recordId ← boundedId hashing "receipt." actionIdentity
  let subjectRecordId ← boundedId hashing "subject." actionIdentity
  let challengeNonce ← boundedId hashing "challenge." actionIdentity
  .ok
    { recordId := recordId
      subjectRecordId := subjectRecordId
      subjectCanonicalSha256 := subjectDigest hashing candidateIdentity
      candidateId := if isBoundedId candidateIdentity then some candidateIdentity else none
      testBundleIdentity := bundleIdentity
      harnessIdentity := harnessIdentity
      executionPolicyIdentity := policyIdentity
      placementPolicyIdentity := observation.placementIdentity.bind sha256Digest
      challengeNonce := challengeNonce
      challengeIssuedAt := calendar.iso requestedAt
      challengeExpiresAt := calendar.expiry requestedAt observation.timeoutSeconds
      observedAt := observation.endedAt.getD (calendar.iso now) }

structure Envelope where
  receipt : Option Json
  identity : Option String
  schemaVersion : Option String
  completeness : String
  deriving DecidableEq

/-- An envelope without a receipt, for the reason given. -/
def Envelope.withoutReceipt (completeness : String) : Envelope :=
  ⟨none, none, none, completeness⟩

/-- `_envelope`.  A refusal of the receipt is its own completeness; an encoding
failure is none and passes through. -/
def envelope (observation : ExecutionObservation) (context : ReceiptContext) :
    Except ForgeError Envelope :=
  if observedComplete observation = false then .ok (.withoutReceipt "incomplete")
  else
    match requireReceipt observation context with
    | .error e =>
        if e.code = "RECEIPT_CONTEXT" then .ok (.withoutReceipt "malformed")
        else if e.code = "RECEIPT_OBSERVATION" then .ok (.withoutReceipt "incomplete")
        else .error e
    | .ok () => do
        let body := receiptDocument calendar observation context
        let identity ← canonicalSha256 hashing (document body)
        if isSha256 identity then
          .ok
            { receipt := some (document (("receipt_identity", .str identity) :: body))
              identity := some identity
              schemaVersion := some "0.1-experimental"
              completeness := "complete" }
        else .ok (.withoutReceipt "malformed")

/-- The fields of a binding record, as the source lists them. -/
def bindingFields (epochIdentity : Option String) (action : ForgeRecord)
    (workflowName : String) (resultIdentity : Option String)
    (observation : ExecutionObservation) (built : Envelope) (recordedAt : String) :
    List (String × Json) :=
  [("project_identity", .str config.projectIdentity),
   ("epoch_identity", .ofText epochIdentity),
   ("candidate_identity", action.get "candidate_identity"),
   ("action_kind", .str "workflow_action"),
   ("action_identity", .str (textOf action "action_id")),
   ("result_identity", .ofText resultIdentity),
   ("request_identity", .ofText (action.get "protocol_request_identity").asStr?),
   ("workflow_or_verifier", .str workflowName),
   ("runner_identity", .str observation.runnerIdentity),
   ("runner_kind", .str observation.capabilities.runnerKind),
   ("runner_version", .str observation.runnerVersion),
   ("worker_identity", .ofText observation.workerIdentity),
   ("host_identity", .ofText observation.hostIdentity),
   ("os_family", .str observation.capabilities.osFamily),
   ("architecture", .str observation.capabilities.architecture),
   ("executable_identity", .ofText observation.executableIdentity),
   ("image_identity", .ofText observation.imageIdentity),
   ("environment_identity", .str observation.environmentIdentity),
   ("execution_scope", .str observation.capabilities.executionScope),
   ("termination_category", .str observation.terminationCategory.value),
   ("receipt_schema_version", .ofText built.schemaVersion),
   ("receipt_identity", .ofText built.identity),
   ("receipt_completeness", .str built.completeness),
   ("status", .str "UNKNOWN"),
   ("established_properties", document (establishedProperties observation)),
   ("mncs_receipt", built.receipt.getD .null),
   ("recorded_at", .str recordedAt)]

/-- `bind_workflow_execution`. -/
def bindWorkflowExecution (execution : WorkflowExecution) (recordedAt : String) :
    Except ForgeError ForgeRecord := do
  let observation := execution.session.observation
  let context ← receiptContext hashing calendar config execution.workflow execution.action
    observation recordedAt
  let built ← envelope hashing calendar observation context
  newRecord hashing .executionReceiptBinding
    (Dict.update []
      (bindingFields config execution.epochIdentity execution.action execution.workflow.name
        (execution.result.bind fun result => (result.get "output_identity").asStr?)
        observation built recordedAt))

/-- The injected record store: a commit extends the history or is refused. -/
abbrev RecordCommitter := History → String → String → ForgeRecord → Except ForgeError History

def bindingForAction (history : History) (actionIdentity : String) : Option ForgeRecord :=
  (typed .executionReceiptBinding history).find? fun record =>
    record.get "action_identity" = .str actionIdentity

def resultCommitContext : RecordType → Option (String × String)
  | .workflowResult => some ("results", "result")
  | .finalEvaluation => some ("evaluations", "evaluation")
  | .bundle => some ("bundles", "bundle")
  | _ => none

/-- `persist_workflow_execution`: the action, its binding and its result. -/
def persistWorkflowExecution (commit : RecordCommitter) (history : History)
    (execution : WorkflowExecution) (recordedAt : String) :
    Except ForgeError (ForgeRecord × History) := do
  let actionIdentity := textOf execution.action "action_id"
  refuseIf ((bindingForAction history actionIdentity).isSome = true) "RECEIPT_DUPLICATE"
    s!"execution receipt binding already exists for {actionIdentity}"
  let history ← commit history "workflow-actions" "workflow_action" execution.action
  let binding ← bindWorkflowExecution hashing calendar config execution recordedAt
  let history ← commit history "execution-receipt-bindings" "execution_receipt_binding" binding
  match execution.result with
  | none => .ok (binding, history)
  | some result =>
      match resultCommitContext result.recordType with
      | none => .error ⟨"INTERNAL_RECORD", "unsupported workflow result type"⟩
      | some (group, kind) => do
          let history ← commit history group kind result
          .ok (binding, history)

structure BindingSummary where
  bindingId : Json
  actionIdentity : Json
  resultIdentity : Json
  receiptIdentity : Json
  receiptCompleteness : Json
  status : Json
  terminationCategory : Json
  runnerKind : Json
  executionScope : Json
  establishedProperties : Json
  deriving DecidableEq

def summarizeBinding (record : ForgeRecord) : BindingSummary where
  bindingId := record.get "binding_id"
  actionIdentity := record.get "action_identity"
  resultIdentity := record.get "result_identity"
  receiptIdentity := record.get "receipt_identity"
  receiptCompleteness := record.get "receipt_completeness"
  status := record.get "status"
  terminationCategory := record.get "termination_category"
  runnerKind := record.get "runner_kind"
  executionScope := record.get "execution_scope"
  establishedProperties := record.get "established_properties"

/-! ## What a binding discloses -/

/-- The stream apart from what was written to it. -/
def StreamObservation.facts (stream : StreamObservation) : StreamObservation where
  totalBytes := stream.totalBytes.map fun _ => 0
  retainedBytes := 0
  retainedSha256 := none
  completeSha256 := none
  truncated := stream.truncated.map fun _ => false
  limitHit := false
  limitBytes := none

/-- The observation apart from the streams, the workspace, the return code, the
resources used and the times. -/
def ExecutionObservation.facts (observation : ExecutionObservation) : ExecutionObservation :=
  { observation with
    cwdIdentity := ""
    stdinIdentity := ""
    startedAt := observation.startedAt.map fun _ => ""
    endedAt := observation.endedAt.map fun _ => ""
    durationSeconds := observation.durationSeconds.map fun _ => ""
    returncode := none
    signal := none
    stdout := observation.stdout.facts
    stderr := observation.stderr.facts
    aggregateOutput :=
      { totalBytes := observation.aggregateOutput.totalBytes.map fun _ => 0
        retainedBytes := 0
        limitHit := false
        limitBytes := none }
    resourceObservations := [] }

/-- The summary apart from the identities of records and receipts. -/
def BindingSummary.disclosed (summary : BindingSummary) : BindingSummary :=
  { summary with
    bindingId := .null
    actionIdentity := .null
    resultIdentity := .null
    receiptIdentity := .null }

/-- The context apart from what names the action and the times. -/
def ReceiptContext.facts (context : ReceiptContext) : ReceiptContext :=
  { context with
    recordId := ""
    subjectRecordId := ""
    challengeNonce := ""
    challengeIssuedAt := ""
    challengeExpiresAt := ""
    observedAt := "" }

/-- The names of the action are well formed. -/
structure ReceiptContext.Named (context : ReceiptContext) : Prop where
  record : isBoundedId context.recordId = true
  subject : isBoundedId context.subjectRecordId = true
  nonce : context.challengeNonce ≠ ""

section Disclosed

variable {hashing calendar config}

private theorem observedComplete_facts (observation : ExecutionObservation) :
    observedComplete observation.facts = observedComplete observation := by
  simp [observedComplete, ExecutionObservation.facts, StreamObservation.facts]

private theorem establishedProperties_facts (observation : ExecutionObservation) :
    establishedProperties observation.facts = establishedProperties observation :=
  rfl

private theorem requireStream_facts (stream : StreamObservation) (fieldName : String) :
    requireStream stream.facts fieldName = requireStream stream fieldName := by
  simp [requireStream, StreamObservation.facts]

private theorem requireReceipt_facts (observation : ExecutionObservation)
    (context : ReceiptContext) :
    requireReceipt observation.facts context = requireReceipt observation context := by
  have stdout := requireStream_facts observation.stdout
  have stderr := requireStream_facts observation.stderr
  simp only [requireReceipt, ExecutionObservation.facts, stdout, stderr, Option.map_eq_none_iff]
  congr!

private theorem requireReceipt_context {observation : ExecutionObservation}
    {context context' : ReceiptContext} (same : context.facts = context'.facts)
    (named : context.Named) (named' : context'.Named) :
    requireReceipt observation context = requireReceipt observation context' := by
  have subject := congrArg ReceiptContext.subjectCanonicalSha256 same
  have candidate := congrArg ReceiptContext.candidateId same
  have bundle := congrArg ReceiptContext.testBundleIdentity same
  have harness := congrArg ReceiptContext.harnessIdentity same
  have policy := congrArg ReceiptContext.executionPolicyIdentity same
  have placement := congrArg ReceiptContext.placementPolicyIdentity same
  simp only [ReceiptContext.facts] at subject candidate bundle harness policy placement
  simp only [requireReceipt, requireId, named.record, named'.record, named.subject,
    named'.subject, named.nonce, named'.nonce, subject, candidate, bundle, harness, policy,
    placement]

private theorem boundedId_eq_ok {label value identifier : String}
    (h : boundedId hashing label value = .ok identifier) : isBoundedId identifier = true := by
  simp only [boundedId, refuseIf_bind_eq_ok, Bool.not_eq_false, Except.ok.injEq] at h
  rw [← h.2]
  exact h.1

/-- The contexts of two executions of one workflow on one candidate. -/
private theorem receiptContext_facts {workflow : Workflow} {action action' : ForgeRecord}
    {first second : ExecutionObservation} {now now' : String} {context context' : ReceiptContext}
    (same : first.facts = second.facts)
    (candidate : textOf action "candidate_identity" = textOf action' "candidate_identity")
    (h : receiptContext hashing calendar config workflow action first now = .ok context)
    (h' : receiptContext hashing calendar config workflow action' second now' = .ok context') :
    context.facts = context'.facts ∧ context.Named ∧ context'.Named := by
  have timeout := congrArg ExecutionObservation.timeoutSeconds same
  have stdoutLimit := congrArg ExecutionObservation.stdoutLimit same
  have stderrLimit := congrArg ExecutionObservation.stderrLimit same
  have filesystem := congrArg ExecutionObservation.filesystemPolicy same
  have network := congrArg ExecutionObservation.networkPolicy same
  have runner := congrArg ExecutionObservation.runnerIdentity same
  have version := congrArg ExecutionObservation.runnerVersion same
  have capabilities := congrArg ExecutionObservation.capabilities same
  have placement := congrArg ExecutionObservation.placementIdentity same
  simp only [ExecutionObservation.facts] at timeout stdoutLimit stderrLimit filesystem network
  simp only [ExecutionObservation.facts] at runner version capabilities placement
  simp only [receiptContext, timeout, stdoutLimit, stderrLimit, filesystem, network, runner,
    version, capabilities, placement, candidate, bind_eq_ok] at h h'
  obtain ⟨_, bundle, _, policy, _, harness, _, record, _, subject, _, nonce, h⟩ := h
  obtain ⟨_, bundle', _, policy', _, harness', _, record', _, subject', _, nonce', h'⟩ := h'
  obtain rfl := Except.ok.inj (bundle.symm.trans bundle')
  obtain rfl := Except.ok.inj (policy.symm.trans policy')
  obtain rfl := Except.ok.inj (harness.symm.trans harness')
  obtain rfl := Except.ok.inj h
  obtain rfl := Except.ok.inj h'
  have nonempty : ∀ text : String, isBoundedId text = true → text ≠ "" := by
    rintro _ bounded rfl
    exact absurd bounded (by decide)
  exact ⟨rfl,
    ⟨boundedId_eq_ok record, boundedId_eq_ok subject, nonempty _ (boundedId_eq_ok nonce)⟩,
    ⟨boundedId_eq_ok record', boundedId_eq_ok subject', nonempty _ (boundedId_eq_ok nonce')⟩⟩

/-- The digests are digests of SHA-256. -/
def Hexadecimal (hashing : Hashing) : Prop :=
  ∀ bytes, isSha256 (hashing.hexdigest bytes) = true

/-- Whether a receipt is complete is decided by the facts. -/
private theorem envelope_completeness (hexadecimal : Hexadecimal hashing)
    {first second : ExecutionObservation} {context context' : ReceiptContext}
    {built built' : Envelope} (same : first.facts = second.facts)
    (required : requireReceipt first context = requireReceipt second context')
    (h : envelope hashing calendar first context = .ok built)
    (h' : envelope hashing calendar second context' = .ok built') :
    built.completeness = built'.completeness := by
  have complete : observedComplete first = observedComplete second := by
    rw [← observedComplete_facts first, same, observedComplete_facts]
  have sealed : ∀ value identity, canonicalSha256 hashing value = .ok identity →
      isSha256 identity = true := by
    intro value identity hidentity
    obtain ⟨encoded, _, hidentity⟩ := bind_eq_ok.mp hidentity
    rw [← Except.ok.inj hidentity]
    exact hexadecimal encoded
  simp only [envelope, complete, required] at h h'
  split_ifs at h h' with hcomplete
  · rw [← Except.ok.inj h, ← Except.ok.inj h']
  · cases hrequired : requireReceipt second context' with
    | error e =>
        simp only [hrequired] at h h'
        split_ifs at h h'
        · rw [← Except.ok.inj h, ← Except.ok.inj h']
        · rw [← Except.ok.inj h, ← Except.ok.inj h']
    | ok =>
        simp only [hrequired, bind_eq_ok] at h h'
        obtain ⟨identity, hidentity, h⟩ := h
        obtain ⟨identity', hidentity', h'⟩ := h'
        rw [if_pos (sealed _ _ hidentity)] at h
        rw [if_pos (sealed _ _ hidentity')] at h'
        rw [← Except.ok.inj h, ← Except.ok.inj h']

theorem field_update {members : List (String × Json)}
    (distinct : (Dict.keys members).Nodup) (name : String) :
    field (Dict.update [] members) name = field members name := by
  rw [field, field, Dict.get?_update_of_nodup distinct, Dict.get?_nil, Option.or_none]

private theorem bindingFields_nodup (epochIdentity : Option String) (action : ForgeRecord)
    (workflowName : String) (resultIdentity : Option String)
    (observation : ExecutionObservation) (built : Envelope) (recordedAt : String) :
    (Dict.keys (bindingFields config epochIdentity action workflowName resultIdentity
      observation built recordedAt)).Nodup := by
  simp [bindingFields]

/-- What the summary of a binding shows, identities apart. -/
private theorem summarizeBinding_disclosed {epochIdentity : Option String} {action : ForgeRecord}
    {workflowName : String} {resultIdentity : Option String}
    {observation : ExecutionObservation} {built : Envelope} {recordedAt : String}
    {binding : ForgeRecord}
    (h : newRecord hashing .executionReceiptBinding
      (Dict.update []
        (bindingFields config epochIdentity action workflowName resultIdentity observation built
          recordedAt)) = .ok binding) :
    (summarizeBinding binding).disclosed =
      { bindingId := .null
        actionIdentity := .null
        resultIdentity := .null
        receiptIdentity := .null
        receiptCompleteness := .str built.completeness
        status := .str "UNKNOWN"
        terminationCategory := .str observation.terminationCategory.value
        runnerKind := .str observation.capabilities.runnerKind
        executionScope := .str observation.capabilities.executionScope
        establishedProperties := document (establishedProperties observation) } := by
  have reads : ∀ name, name ≠ "record_type" → name ≠ "schema_version" → name ≠ "binding_id" →
      binding.get name = field (bindingFields config epochIdentity action workflowName
        resultIdentity observation built recordedAt) name := by
    intro name htype hversion hother
    rw [(newRecord_get h).2 name htype hversion (fun same => hother (Option.some.inj same).symm),
      field_update (bindingFields_nodup _ _ _ _ _ _ _)]
  simp only [summarizeBinding, BindingSummary.disclosed,
    reads "receipt_completeness" (by decide) (by decide) (by decide),
    reads "status" (by decide) (by decide) (by decide),
    reads "termination_category" (by decide) (by decide) (by decide),
    reads "runner_kind" (by decide) (by decide) (by decide),
    reads "execution_scope" (by decide) (by decide) (by decide),
    reads "established_properties" (by decide) (by decide) (by decide)]
  simp [bindingFields, field, Dict.get?_cons]

/-- Two executions of one workflow on one candidate disclose the same when the
runner observed the same facts. -/
theorem bindWorkflowExecution_disclosed (hexadecimal : Hexadecimal hashing)
    {first second : WorkflowExecution} {now now' : String} {binding binding' : ForgeRecord}
    (workflow : first.workflow = second.workflow)
    (candidate : first.action.get "candidate_identity" = second.action.get "candidate_identity")
    (same : first.session.observation.facts = second.session.observation.facts)
    (h : bindWorkflowExecution hashing calendar config first now = .ok binding)
    (h' : bindWorkflowExecution hashing calendar config second now' = .ok binding') :
    (summarizeBinding binding).disclosed = (summarizeBinding binding').disclosed := by
  simp only [bindWorkflowExecution, bind_eq_ok] at h h'
  obtain ⟨context, hcontext, built, hbuilt, h⟩ := h
  obtain ⟨context', hcontext', built', hbuilt', h'⟩ := h'
  rw [← workflow] at hcontext'
  obtain ⟨facts, named, named'⟩ :=
    receiptContext_facts same (congrArg Json.display candidate) hcontext hcontext'
  have required : requireReceipt first.session.observation context =
      requireReceipt second.session.observation context' := by
    rw [← requireReceipt_facts, same, requireReceipt_facts,
      requireReceipt_context facts named named']
  have completeness := envelope_completeness hexadecimal same required hbuilt hbuilt'
  have termination := congrArg ExecutionObservation.terminationCategory same
  have capabilities := congrArg ExecutionObservation.capabilities same
  have properties := congrArg establishedProperties same
  simp only [ExecutionObservation.facts] at termination capabilities
  rw [establishedProperties_facts, establishedProperties_facts] at properties
  rw [summarizeBinding_disclosed h, summarizeBinding_disclosed h', completeness, termination,
    capabilities, properties]

end Disclosed

end MncsForge.Application
