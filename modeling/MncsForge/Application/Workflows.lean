import Mathlib
import MncsForge.Application.ExecutionReceipts

/-!
# Workflow execution

A declared workflow runs a command and its output becomes a record.  A provider
answers in one JSON line and states its own status; of any other command the
return code and a structured result decide it.
-/

namespace MncsForge.Application

open MncsForge.Foundation MncsForge.Records
open Lifecycle (textOf Mode)

/-- The readers of a command's output: text and JSON decoding, and the
replacement of secrets in a text. -/
structure Decoders where
  utf8 : List UInt8 → Option String
  /-- Decoding with replacement of what is not UTF-8. -/
  replacing : List UInt8 → String
  /-- `json.loads` of a text; the message of a malformed one. -/
  loads : String → Except String Json
  /-- `json.loads` of bytes, nothing for the errors that are passed over. -/
  loadsBytes : List UInt8 → Option Json
  /-- `SECRET_PATTERN.sub`. -/
  withoutSecrets : String → String

/-! ## Provider output -/

def isLineBreak (c : Char) : Bool :=
  c.toNat ∈ [0x0a, 0x0b, 0x0c, 0x0d, 0x1c, 0x1d, 0x1e, 0x85, 0x2028, 0x2029]

def splitlinesFrom (line : List Char) : List Char → List String
  | [] => if line = [] then [] else [String.ofList line.reverse]
  | '\r' :: '\n' :: rest => String.ofList line.reverse :: splitlinesFrom [] rest
  | c :: rest =>
      if isLineBreak c then String.ofList line.reverse :: splitlinesFrom [] rest
      else splitlinesFrom (c :: line) rest

def splitlines (text : String) : List String :=
  splitlinesFrom [] text.toList

def responseTypes : List String :=
  ["analysis_response", "capabilities", "health_response", "error", "cancelled"]

/-- A list or an object cannot be looked up in a set. -/
def hashable : Json → Bool
  | .arr _ | .obj _ => false
  | _ => true

def parseProviderResponse (decoders : Decoders) (stdout : List UInt8) :
    Except ForgeError (Dict String Json) := do
  let text ← match decoders.utf8 stdout with
    | some text => .ok text
    | none => .error ⟨"PROVIDER_FRAMING", "provider stdout is not UTF-8"⟩
  let line := (splitlines text).head?.getD ""
  refuseIf ((splitlines text).length ≠ 1 ∨ line = "") "PROVIDER_FRAMING"
    "provider must emit exactly one non-empty JSON Lines response"
  let value ← match decoders.loads line with
    | .ok value => .ok value
    | .error message => .error ⟨"PROVIDER_MALFORMED", s!"invalid provider JSON: {message}"⟩
  let value ← match value with
    | .obj value => .ok value
    | _ => .error ⟨"PROVIDER_MALFORMED", "provider response must be an object"⟩
  refuseIf (field value "protocol_version" ≠ .str "0.1") "PROVIDER_UNSUPPORTED"
    "only Provider Protocol 0.1 is supported"
  refuseIf (hashable (field value "type") = false) "TypeError" "unhashable type"
  refuseIf (oneOf (field value "type") responseTypes = false) "PROVIDER_MALFORMED"
    "provider response type is invalid"
  refuseIf (isObject (field value "provider") = false) "PROVIDER_MALFORMED"
    "provider identity must be an object"
  refuseIf (isObject (field value "extensions") = false) "PROVIDER_MALFORMED"
    "provider extensions must be an object"
  refuseIf
    (field value "type" = .str "analysis_response" ∧
      oneOf (field value "status") statuses = false)
    "PROVIDER_MALFORMED" "analysis result status must be PASS/FAIL/UNKNOWN"
  .ok value

/-- `list(value)`. -/
def listOf : Json → Except ForgeError (List Json)
  | .arr items => .ok items
  | .str text => .ok (text.toList.map fun c => .str (String.singleton c))
  | .obj fields => .ok ((Dict.keys fields).map .str)
  | _ => .error ⟨"TypeError", "object is not iterable"⟩

/-- `list(fields.get(name, []))`. -/
def listField (fields : Dict String Json) (name : String) : Except ForgeError (List Json) :=
  listOf ((Dict.get? fields name).getD (.arr []))

/-- What is read out of a command's output. -/
structure Report where
  status : String
  method : String
  provider : Json
  witnesses : List Json
  limitations : List Json
  unsupported : List Json
  deriving DecidableEq

def protocolReport (protocol : Dict String Json) : Except ForgeError Report := do
  let witnesses ← listField protocol "witnesses"
  let limitations ← listField protocol "limitations"
  let unsupported ← listField ((field protocol "extensions").asObj?.getD []) "unsupported"
  .ok
    { status := ((Dict.get? protocol "status").getD (.str "UNKNOWN")).display
      method := (field protocol "type").display
      provider := field protocol "provider"
      witnesses := witnesses
      limitations := limitations
      unsupported := unsupported }

/-- `compatibility_execution_result_status`. -/
def compatibilityExecutionResultStatus (exitStatus : Option Int)
    (reportedStatus : Option String) : String :=
  match exitStatus with
  | none => "UNKNOWN"
  | some code =>
      if code ≠ 0 then "FAIL"
      else
        match reportedStatus with
        | some status => if status ∈ statuses then status else "UNKNOWN"
        | none => "UNKNOWN"

/-- The injected parts of `WorkflowExecutor`. -/
structure WorkflowExecutor where
  hashing : Hashing
  decoders : Decoders
  config : ForgeConfig
  mode : Mode
  executionResultClassifier : Option Int → Option String → Except ForgeError String

namespace WorkflowExecutor

variable (executor : WorkflowExecutor)

def workflow (name : String) (expectedMode : String) : Except ForgeError Workflow :=
  match Dict.get? executor.config.workflows name with
  | none => .error ⟨"UNDECLARED_COMMAND", s!"workflow is not declared: {name}"⟩
  | some workflow => do
      refuseIf (workflow.mode ≠ expectedMode ∧ workflow.mode ≠ "both") "WORKFLOW_MODE"
        s!"workflow {name} is not declared for {expectedMode} mode"
      .ok workflow

/-- `redact`. -/
def redact (text : String) : String :=
  executor.decoders.withoutSecrets (String.ofList (text.toList.take 4096))

/-- The result a plain command wrote, when it states a status. -/
def structuredResult (stdout : List UInt8) : Option (Dict String Json) :=
  if stdout = [] then none
  else
    match executor.decoders.loadsBytes stdout with
    | some (.obj value) => if oneOf (field value "status") statuses then some value else none
    | _ => none

def commandReport (workflow : Workflow) (returncode : Int) (stdout : List UInt8) :
    Except ForgeError Report := do
  let structured := executor.structuredResult stdout
  let status ← executor.executionResultClassifier (some returncode)
    (structured.bind fun value => (field value "status").asStr?)
  let provider := document
    [("id", .str ((workflow.providerId.filter (· ≠ "")).getD workflow.name)),
     ("kind", .str "declared-workflow")]
  let plain : Report :=
    { status := status
      method := "declared-command"
      provider := provider
      witnesses := []
      limitations :=
        [.str ("command completion is not evidence PASS; " ++
          "no validated structured result was emitted")]
      unsupported := [] }
  if returncode ≠ 0 then
    .ok { plain with
      witnesses := [document [("exit_code", .int returncode)]], limitations := [] }
  else
    match structured with
    | none => .ok plain
    | some value => do
        let witnesses ← listField value "witnesses"
        let limitations ← listField value "limitations"
        let unsupported ← listField value "unsupported_constructs"
        .ok { plain with
          witnesses := witnesses, limitations := limitations, unsupported := unsupported }

/-- What a finished command reports.  The outer refusal is raised at once, the
inner one is kept with the execution. -/
def report (workflow : Workflow) (session : ExecutionSession) (result : ExecutionResult) :
    Except ForgeError (Except ForgeError Report) :=
  if workflow.providerProtocol then
    if result.returncode ≠ 0 then
      .ok (.error ⟨"PROVIDER_EXIT",
        s!"provider exited {result.returncode}: " ++
          executor.redact (executor.decoders.replacing session.stderr)⟩)
    else
      match parseProviderResponse executor.decoders session.stdout with
      | .error e => if e.code = "TypeError" then .error e else .ok (.error e)
      | .ok protocol => do
          let reported ← protocolReport protocol
          .ok (.ok reported)
  else do
    let reported ← executor.commandReport workflow result.returncode session.stdout
    .ok (.ok reported)

/-- The request a provider reads from its standard input. -/
def request (workflow : Workflow) (candidate : ForgeRecord) (now : String) : Json :=
  let identity := localJsonDigest executor.hashing (document
    [("candidate", candidate.get "candidate_id"), ("workflow", .str workflow.name),
     ("at", .str now)])
  document
    [("protocol_version", .str "0.1"), ("type", .str "analysis_request"),
     ("request_id", .str ("forge-" ++ String.ofList (identity.toList.take 24))),
     ("analysis", .str workflow.category),
     ("component", document
       [("candidate_identity", candidate.get "candidate_id"),
        ("source_epoch", candidate.get "source_epoch")]),
     ("limits", document
       [("timeout_seconds", .float executor.config.timeout),
        ("output_bytes", .int executor.config.outputCap)]),
     ("extensions", document
       [("mncs_forge", document [("mode", .str executor.mode.value)])])]

def action (workflow : Workflow) (candidate : ForgeRecord) (requestedAt : String)
    (now : String) : Except ForgeError ForgeRecord :=
  newRecord executor.hashing .workflowAction
    (Dict.update []
      [("workflow", .str workflow.name),
       ("candidate_identity", candidate.get "candidate_id"),
       ("mode", .str executor.mode.value),
       ("protocol_request_identity",
         if workflow.providerProtocol then
           .str ("forge-json-sha256-v1:" ++
             localJsonDigest executor.hashing (executor.request workflow candidate now))
         else .null),
       ("requested_at", .str requestedAt)])

/-- The report with what a status-only evaluator withholds taken out. -/
def disclose (workflow : Workflow) (evaluator : Bool) (reported : Report) : Report :=
  if evaluator ∧ workflow.disclosure = "status-only" then { reported with witnesses := [] }
  else reported

/-- The fields of a result record, as the source lists them. -/
def resultFields (workflow : Workflow) (candidate action : ForgeRecord)
    (session : ExecutionSession) (result : ExecutionResult) (reported : Report)
    (recordedAt : String) : List (String × Json) :=
  [("candidate_identity", candidate.get "candidate_id"),
   ("subject_type", .str workflow.subject),
   ("provider_or_evaluator_identity", reported.provider),
   ("method", .str reported.method),
   ("workflow", .str workflow.name),
   ("category", .str workflow.category),
   ("scope", .str "declared configuration paths"),
   ("environment", document
     [("allowlisted_keys", texts (executor.config.environmentKeys workflow)),
      ("values_disclosed", .bool false)]),
   ("duration_seconds", .float result.durationSeconds),
   ("status", .str reported.status),
   ("witnesses_or_counterexamples", .arr (reported.witnesses.take 20)),
   ("limitations", .arr (reported.limitations.take 20)),
   ("unsupported_constructs", .arr (reported.unsupported.take 20)),
   ("stderr_diagnostic", .str (executor.redact (executor.decoders.replacing session.stderr))),
   ("returncode", .int result.returncode),
   ("recorded_at", .str recordedAt),
   ("protocol_request_identity", action.get "protocol_request_identity")]

/-- The times an execution reads. -/
structure Times where
  requestAt : String
  requestedAt : String
  recordedAt : String
  boundAt : String

/-- `execute`, with what the runner answered. -/
def execute (workflow : Workflow) (candidate : ForgeRecord) (evaluator : Bool)
    (recordType : RecordType) (times : Times) (session : ExecutionSession) :
    Except ForgeError WorkflowExecution := do
  let action ← executor.action workflow candidate times.requestedAt times.requestAt
  let finished : Option ForgeRecord → Option ForgeError → WorkflowExecution := fun result error =>
    { action := action
      result := result
      session := session
      workflow := workflow
      epochIdentity := (candidate.get "source_epoch").asStr?
      error := error }
  match session.errorCode, session.result with
  | some code, _ =>
      .ok (finished none
        (some ⟨code, (session.errorMessage.filter (· ≠ "")).getD code⟩))
  | none, none =>
      .ok (finished none (some ⟨"COMMAND_START", "runner produced no execution result"⟩))
  | none, some result => do
      let outcome ← executor.report workflow session result
      match outcome with
      | .error e => .ok (finished none (some e))
      | .ok reported => do
          let record ← newRecord executor.hashing recordType
            (Dict.update []
              (executor.resultFields workflow candidate action session result
                (disclose workflow evaluator reported) times.recordedAt))
          refuseIf (record.recordType ∉ [.workflowResult, .finalEvaluation, .bundle])
            "INTERNAL_RECORD" "workflow produced an invalid record model"
          .ok (finished (some record) none)

end WorkflowExecutor

end MncsForge.Application
