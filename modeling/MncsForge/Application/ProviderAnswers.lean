import Mathlib
import MncsForge.Paths
import MncsForge.Application.Evaluation

/-!
# Answers of providers

A declared workflow and a verifier both read one answer of a Provider Protocol
message.  They share the parser of the envelope; what they take for an answer
differs.
-/

namespace MncsForge.Application

open MncsForge.Foundation MncsForge.Records
open Lifecycle (Mode sortedTexts)
open Paths (validateRelativePath isWithin)

/-! ## Verifiers -/

/-- What `_execute` reads of a verifier and its provider. -/
structure VerifierProvider where
  providerId : String
  identity : Option String
  version : Option String
  assumptions : List String
  limitations : List String

/-- What a verifier takes from a response. -/
structure ProviderAnswer where
  status : String
  summary : String
  witnesses : List Json
  assumptions : List String
  limitations : List String
  unsupported : List String
  dependencyEnvelope : Json
  providerIdentity : Json
  responseIdentity : String

/-- The injected parts of `MicroVerifierService` that reading a response uses. -/
structure MicroVerifierService where
  hashing : Hashing
  decoders : Decoders
  mode : Mode
  witnessBytes : Nat
  maxChangedPaths : Nat
  /-- `path_values.get(key, [])`. -/
  pathValues : String → List String
  /-- `resolve_contained` and `content_identity`, which look at the files. -/
  resolveContained : String → Except ForgeError String
  contentIdentity : String → Except ForgeError String

/-- `_string_list` with its default limit. -/
def stringItems : Json → List String
  | .arr items =>
      ((items.filterMap Json.asStr?).filter (· ≠ "")).map
        (fun text => String.ofList (text.toList.take 1024)) |>.take 20
  | _ => []

mutual

/-- `_validate_json_value`. -/
def validateJsonValue (depth : Nat) : Json → Except ForgeError Unit
  | .null | .bool _ | .int _ =>
      refuseIf (5 < depth) "VERIFIER_PARAMETER_LIMIT" "question parameters are too deep"
  | .str text => do
      refuseIf (5 < depth) "VERIFIER_PARAMETER_LIMIT" "question parameters are too deep"
      refuseIf (4096 < text.length) "VERIFIER_PARAMETER_LIMIT"
        "question parameter string is too long"
  | .float text => do
      refuseIf (5 < depth) "VERIFIER_PARAMETER_LIMIT" "question parameters are too deep"
      refuseIf (Json.isFiniteText text = false) "VERIFIER_PARAMETER"
        "question parameter numbers must be finite"
  | .arr items => do
      refuseIf (5 < depth) "VERIFIER_PARAMETER_LIMIT" "question parameters are too deep"
      refuseIf (128 < items.length) "VERIFIER_PARAMETER_LIMIT"
        "question parameter list is too long"
      validateJsonItems (depth + 1) items
  | .obj fields => do
      refuseIf (5 < depth) "VERIFIER_PARAMETER_LIMIT" "question parameters are too deep"
      refuseIf
        (128 < fields.length ∨ ¬∀ key ∈ fields.map Prod.fst, 0 < key.length ∧ key.length ≤ 128)
        "VERIFIER_PARAMETER_LIMIT" "question parameter object is invalid"
      validateJsonFields (depth + 1) fields

def validateJsonItems (depth : Nat) : List Json → Except ForgeError Unit
  | [] => .ok ()
  | item :: items => do
      validateJsonValue depth item
      validateJsonItems depth items

def validateJsonFields (depth : Nat) : List (String × Json) → Except ForgeError Unit
  | [] => .ok ()
  | (_, value) :: fields => do
      validateJsonValue depth value
      validateJsonFields depth fields

end

namespace MicroVerifierService

variable (service : MicroVerifierService)

/-- The loop of `_bounded_witnesses`. -/
def boundedFrom : Nat → List Json → List Json → Except ForgeError (List Json)
  | _, result, [] => .ok result
  | size, result, item :: items => do
      validateJsonValue 0 item
      let encoded := item.canonicalBytes.length
      if service.witnessBytes < size + encoded + 1 ∨ 20 ≤ result.length then .ok result
      else boundedFrom (size + encoded + 1) (result ++ [item]) items

def boundedWitnesses : Json → Except ForgeError (List Json)
  | .arr items => service.boundedFrom 2 [] (items.take 100)
  | _ => .ok []

def visibleKeys : List String :=
  ["candidates", "generated", "contracts", "references", "development_evidence", "evaluators",
   "acceptance_policies"] ++ if service.mode = .evaluator then ["protected"] else []

def relativeScopes (keys : List String) : Except ForgeError (List (List String)) :=
  (keys.flatMap service.pathValues).mapM fun value => validateRelativePath value false

/-- The paths a dependency envelope names, with the identities of their contents. -/
def pathIdentities (visible protectedScopes : List (List String)) (paths : List String) :
    Except ForgeError (List (String × Json)) :=
  paths.mapM fun path => do
    let relative ← validateRelativePath path false
    refuseIf (isWithin relative visible = false) "PROVIDER_MALFORMED"
      s!"dependency path is outside declared visible scopes: {path}"
    refuseIf (service.mode = .development ∧ isWithin relative protectedScopes = true)
      "PROTECTED_PATH" "development verifier dependency envelope selected protected data"
    let resolved ← service.resolveContained path
    let identity ← service.contentIdentity resolved
    .ok (path, .str identity)

def dependencyEnvelope : Json → Except ForgeError Json
  | .null =>
      .ok (document
        [("paths", .arr []), ("path_identities", .obj []), ("additional_identities", .obj []),
         ("complete", .bool false), ("identity", .null)])
  | .obj value => do
      refuseIf (∃ key ∈ Dict.keys value, key ∉ ["paths", "identities", "complete"])
        "PROVIDER_MALFORMED" "dependency envelope is malformed"
      let paths := (Dict.get? value "paths").getD (.arr [])
      let identities := (Dict.get? value "identities").getD (.obj [])
      let complete := (Dict.get? value "complete").getD (.bool false)
      match paths, identities, complete with
      | .arr paths, .obj identities, .bool complete => do
          refuseIf
            (¬(∀ path ∈ paths, path.asStr?.isSome = true) ∨
              ¬∀ identity ∈ identities, identity.2.asStr?.isSome = true)
            "PROVIDER_MALFORMED" "dependency envelope fields are invalid"
          refuseIf (service.maxChangedPaths < paths.length) "PROVIDER_MALFORMED"
            "dependency envelope has too many paths"
          let visible ← service.relativeScopes service.visibleKeys
          let protectedScopes ← service.relativeScopes ["protected"]
          let named := sortedTexts (paths.filterMap Json.asStr?).dedup
          let identified ← service.pathIdentities visible protectedScopes named
          let envelope :=
            [("paths", texts named), ("path_identities", document identified),
             ("additional_identities", document identities), ("complete", .bool complete)]
          .ok (document (envelope ++
            [("identity", .str ("forge-json-sha256-v1:" ++
              localJsonDigest service.hashing (document envelope)))]))
      | _, _, _ =>
          .error ⟨"PROVIDER_MALFORMED", "dependency envelope fields are invalid"⟩
  | _ => .error ⟨"PROVIDER_MALFORMED", "dependency envelope is malformed"⟩

def forgeExtensions (extensions : Dict String Json) : Except ForgeError (Dict String Json) :=
  match (Dict.get? extensions "mncs_forge").getD (.obj []) with
  | .obj forgeExtensions => .ok forgeExtensions
  | _ => .error ⟨"PROVIDER_MALFORMED", "mncs_forge provider extension must be an object"⟩

/-- The rest of a response whose type and request identity are right. -/
def readAnswer (provider : VerifierProvider) (response : Dict String Json) :
    Except ForgeError ProviderAnswer := do
  let witnesses ← service.boundedWitnesses ((Dict.get? response "witnesses").getD (.arr []))
  let extensions := (field response "extensions").asObj?.getD []
  let forgeExtensions ← forgeExtensions extensions
  let envelope ← service.dependencyEnvelope (field forgeExtensions "dependency_envelope")
  .ok
    { status := (field response "status").display
      summary :=
        String.ofList
          (((Dict.get? response "summary").getD (.str "")).display.toList.take 2048)
      witnesses := witnesses
      assumptions := provider.assumptions ++ stringItems (field forgeExtensions "assumptions")
      limitations := provider.limitations ++ stringItems (field response "limitations")
      unsupported :=
        stringItems ((Dict.get? extensions "unsupported_constructs").getD
          ((Dict.get? extensions "unsupported").getD (.arr [])))
      dependencyEnvelope := envelope
      providerIdentity := field response "provider"
      responseIdentity :=
        "forge-json-sha256-v1:" ++ localJsonDigest service.hashing (.obj response) }

/-- The message of a response that says the provider did not analyse. -/
def operationalMessage (response : Dict String Json) : String :=
  if (field response "summary").truthy then (field response "summary").display
  else if (field response "message").truthy then (field response "message").display
  else (field response "type").display

/-- `_execute`, from the end of the execution to the answer; without one the
verifier result is unknown. -/
def answer (provider : VerifierProvider) (requestId : Json) (result : ExecutionResult)
    (stdout : List UInt8) : Except ForgeError ProviderAnswer := do
  refuseIf (result.returncode ≠ 0) "PROVIDER_EXIT"
    s!"provider exited {result.returncode}; exit status is not evidence"
  let response ← parseProviderResponse service.decoders stdout
  refuseIf (oneOf (field response "type") ["error", "cancelled"] = true) "PROVIDER_OPERATIONAL"
    (operationalMessage response)
  refuseIf (field response "type" ≠ .str "analysis_response") "PROVIDER_MALFORMED"
    "verifier run requires an analysis_response"
  refuseIf (field response "request_id" ≠ requestId) "PROVIDER_MALFORMED"
    "provider response request identity mismatched"
  let identity := (field response "provider").asObj?.getD []
  refuseIf
    ((∃ pinned ∈ provider.identity, field identity "identity" ≠ .str pinned) ∨
      ∃ pinned ∈ provider.version, field identity "version" ≠ .str pinned)
    "PROVIDER_IDENTITY_DRIFT" s!"provider {provider.providerId} response identity drifted"
  service.readAnswer provider response

end MicroVerifierService

/-! ## What becomes evidence -/

/-- The identity of the request a workflow sends. -/
def WorkflowExecutor.requestId (executor : WorkflowExecutor) (workflow : Workflow)
    (candidate : ForgeRecord) (now : String) : Json :=
  field ((executor.request workflow candidate now).asObj?.getD []) "request_id"

/-- The status text a workflow reads of a response, whatever its type. -/
def statusText (response : Dict String Json) : String :=
  ((Dict.get? response "status").getD (.str "UNKNOWN")).display

/-- A status that is evidence. -/
def Judged (status : String) : Prop := status = "PASS" ∨ status = "FAIL"

/-- The response answers the request, and a verifier can read the rest of it. -/
structure Answers (service : MicroVerifierService) (provider : VerifierProvider)
    (requestId : Json) (response : Dict String Json) : Prop where
  type : field response "type" = .str "analysis_response"
  request : field response "request_id" = requestId
  readable : ∃ answer, service.readAnswer provider response = .ok answer

section Evidence

variable {executor : WorkflowExecutor} {service : MicroVerifierService}
  {provider : VerifierProvider} {workflow : Workflow} {candidate : ForgeRecord}
  {evaluator : Bool} {recordType : RecordType} {times : WorkflowExecutor.Times}
  {session : ExecutionSession} {execution : WorkflowExecution} {result : ExecutionResult}
  {requestId : Json} {response : Dict String Json}

theorem answer_iff (unpinned : provider.identity = none ∧ provider.version = none)
    {answer : ProviderAnswer} {stdout : List UInt8} :
    service.answer provider requestId result stdout = .ok answer ↔
      result.returncode = 0 ∧ ∃ response,
        parseProviderResponse service.decoders stdout = .ok response ∧
        field response "type" = .str "analysis_response" ∧
        field response "request_id" = requestId ∧
        service.readAnswer provider response = .ok answer := by
  obtain ⟨identity, version⟩ := unpinned
  simp only [MicroVerifierService.answer, refuseIf_bind_eq_ok, not_not, identity, version]
  constructor
  · rintro ⟨exited, h⟩
    obtain ⟨response, hresponse, h⟩ := bind_eq_ok.mp h
    simp only [refuseIf_bind_eq_ok, not_not] at h
    obtain ⟨_, type, request, _, hanswer⟩ := h
    exact ⟨exited, response, hresponse, type, request, hanswer⟩
  · rintro ⟨exited, response, hresponse, type, request, hanswer⟩
    refine ⟨exited, bind_eq_ok.mpr ⟨response, hresponse, ?_⟩⟩
    simp only [refuseIf_bind_eq_ok, not_not]
    refine ⟨?_, type, request, by simp, hanswer⟩
    rw [type]
    simp [oneOf]

theorem readAnswer_status {answer : ProviderAnswer}
    (h : service.readAnswer provider response = .ok answer) :
    answer.status = (field response "status").display := by
  obtain ⟨witnesses, _, h⟩ := bind_eq_ok.mp h
  obtain ⟨extensions, _, h⟩ := bind_eq_ok.mp h
  obtain ⟨envelope, _, h⟩ := bind_eq_ok.mp h
  rw [← Except.ok.inj h]

/-- The status of a parsed analysis is one of the three. -/
theorem statusText_of_analysis {decoders : Decoders} {stdout : List UInt8}
    (h : parseProviderResponse decoders stdout = .ok response)
    (type : field response "type" = .str "analysis_response") :
    field response "status" = .str (statusText response) := by
  unfold parseProviderResponse at h
  dsimp only at h
  split at h
  case h_2 => cases (bind_eq_ok.mp h).choose_spec.1
  obtain ⟨text, _, h⟩ := bind_eq_ok.mp h
  rw [refuseIf_bind_eq_ok] at h
  obtain ⟨_, h⟩ := h
  split at h
  case h_2 => cases (bind_eq_ok.mp h).choose_spec.1
  obtain ⟨value, _, h⟩ := bind_eq_ok.mp h
  split at h
  case h_2 => cases (bind_eq_ok.mp h).choose_spec.1
  obtain ⟨value, _, h⟩ := bind_eq_ok.mp h
  simp only [refuseIf_bind_eq_ok] at h
  obtain ⟨_, _, _, _, _, hstatus, h⟩ := h
  obtain rfl := Except.ok.inj h
  rw [not_and, Bool.not_eq_false] at hstatus
  have known := hstatus type
  unfold statusText field at *
  cases hget : Dict.get? value "status" with
  | none =>
      rw [hget] at known
      cases known
  | some status =>
      rw [hget, Option.getD_some] at known
      cases status with
      | str text => rfl
      | _ => cases known

theorem protocolReport_status {reported : Report} (h : protocolReport response = .ok reported) :
    reported.status = statusText response := by
  obtain ⟨witnesses, _, h⟩ := bind_eq_ok.mp h
  obtain ⟨limitations, _, h⟩ := bind_eq_ok.mp h
  obtain ⟨unsupported, _, h⟩ := bind_eq_ok.mp h
  rw [← Except.ok.inj h]
  rfl

/-- What a provider reports is a parsed response of a command that exited with
zero. -/
theorem report_protocol (protocol : workflow.providerProtocol = true)
    {outcome : Except ForgeError Report}
    (h : executor.report workflow session result = .ok outcome) {status : String} :
    (∃ reported, outcome = .ok reported ∧ reported.status = status) ↔
      result.returncode = 0 ∧ ∃ response,
        parseProviderResponse executor.decoders session.stdout = .ok response ∧
        statusText response = status := by
  rw [WorkflowExecutor.report, if_pos protocol] at h
  by_cases exited : result.returncode = 0
  · rw [if_neg (not_not.mpr exited)] at h
    cases hparse : parseProviderResponse executor.decoders session.stdout with
    | error e =>
        simp only [hparse] at h
        split_ifs at h
        obtain rfl := Except.ok.inj h
        simp
    | ok response =>
        simp only [hparse] at h
        obtain ⟨reported, hreported, h⟩ := bind_eq_ok.mp h
        obtain rfl := Except.ok.inj h
        simp [exited, protocolReport_status hreported]
  · rw [if_pos exited] at h
    obtain rfl := Except.ok.inj h
    simp [exited]

/-- A result record shows the reported status. -/
private theorem resultRecord_status {action record : ForgeRecord} {reported : Report}
    (known : ¬record.recordType ∉ [RecordType.workflowResult, .finalEvaluation, .bundle])
    (h : newRecord executor.hashing recordType
      (Dict.update []
        (executor.resultFields workflow candidate action session result
          (WorkflowExecutor.disclose workflow evaluator reported) times.recordedAt)) =
        .ok record) :
    record.get "status" = .str reported.status := by
  obtain ⟨htype, reads⟩ := newRecord_get h
  have unidentified : (recordSpecs recordType).identityField ≠ some "status" := by
    rw [not_not, htype] at known
    revert known
    cases recordType <;> decide
  have kept : (WorkflowExecutor.disclose workflow evaluator reported).status =
      reported.status := by
    unfold WorkflowExecutor.disclose
    split_ifs <;> rfl
  rw [reads "status" (by decide) (by decide) unidentified,
    field_update (by simp [WorkflowExecutor.resultFields])]
  simp [WorkflowExecutor.resultFields, field, Dict.get?_cons, kept]

/-- A result record of a Provider Protocol workflow has the status of the parsed
response. -/
theorem execute_protocol (protocol : workflow.providerProtocol = true)
    (h : executor.execute workflow candidate evaluator recordType times session =
      .ok execution) {status : String} :
    (∃ record, execution.result = some record ∧ record.get "status" = .str status) ↔
      session.errorCode = none ∧ ∃ result response, session.result = some result ∧
        result.returncode = 0 ∧
        parseProviderResponse executor.decoders session.stdout = .ok response ∧
        statusText response = status := by
  rw [WorkflowExecutor.execute, bind_eq_ok] at h
  obtain ⟨action, _, h⟩ := h
  cases herror : session.errorCode with
  | some code =>
      rw [herror] at h
      obtain rfl := Except.ok.inj h
      simp
  | none =>
      cases hfinished : session.result with
      | none =>
          rw [herror, hfinished] at h
          obtain rfl := Except.ok.inj h
          simp
      | some result =>
          simp only [herror, hfinished, bind_eq_ok] at h
          obtain ⟨outcome, houtcome, h⟩ := h
          have reports := @report_protocol _ _ _ _ protocol _ houtcome status
          cases outcome with
          | error e =>
              obtain rfl := Except.ok.inj h
              simpa using reports
          | ok reported =>
              simp only [bind_eq_ok] at h
              obtain ⟨made, hmade, _, known, h⟩ := h
              obtain rfl := Except.ok.inj h
              have shown := resultRecord_status (refuseIf_eq_ok.mp known) hmade
              simpa [shown] using reports

end Evidence

/-- A message that says it passed. -/
def sampleMessage (type : String) : Dict String Json :=
  [("extensions", .obj []), ("protocol_version", .str "0.1"), ("provider", .obj []),
   ("request_id", .str "forge-0"), ("status", .str "PASS"), ("type", .str type)]

/-- The readers know one message, and every digest is one text. -/
def messageDecoders (message : Dict String Json) : Decoders where
  utf8 bytes :=
    if bytes = (Json.obj message).canonicalBytes then some (Json.obj message).canonicalText
    else none
  replacing _ := ""
  loads line :=
    if line = (Json.obj message).canonicalText then .ok (.obj message)
    else .error "Expecting value"
  loadsBytes _ := none
  withoutSecrets text := text

def messageHashing : Hashing where
  hexdigest _ := "0"
  jcs value := .ok value.canonicalBytes

def messageExecutor (message : Dict String Json) : WorkflowExecutor where
  hashing := messageHashing
  decoders := messageDecoders message
  config :=
    { projectIdentity := "project:sample"
      workflows := []
      environmentKeys := fun _ => []
      timeout := "30.0"
      outputCap := 65536 }
  mode := .development
  executionResultClassifier exitStatus reportedStatus :=
    .ok (compatibilityExecutionResultStatus exitStatus reportedStatus)

def messageService (message : Dict String Json) : MicroVerifierService where
  hashing := messageHashing
  decoders := messageDecoders message
  mode := .development
  witnessBytes := 32768
  maxChangedPaths := 64
  pathValues _ := []
  resolveContained path := .ok path
  contentIdentity _ := .ok "00"

def messageWorkflow : Workflow where
  name := "analyse"
  category := "MNCS"
  mode := "development"
  command := ["provider"]
  providerProtocol := true
  providerId := none
  disclosure := "compact"
  subject := "candidate"

def messageSession (message : Dict String Json) : ExecutionSession where
  observation := sampleObservation 0
  stdout := (Json.obj message).canonicalBytes
  stderr := []
  result := some ⟨0, "0.5"⟩
  errorCode := none
  errorMessage := none

def messageTimes : WorkflowExecutor.Times := ⟨"2024", "2024", "2024", "2024"⟩

def messageExecution (message : Dict String Json) : Except ForgeError WorkflowExecution :=
  (messageExecutor message).execute messageWorkflow Lifecycle.sampleCandidate false
    .workflowResult messageTimes (messageSession message)

def sampleAnalyst : VerifierProvider := ⟨"provider", none, none, [], []⟩

private theorem message_judged {type : String}
    (parsed : parseProviderResponse (messageDecoders (sampleMessage type))
      (messageSession (sampleMessage type)).stdout = .ok (sampleMessage type))
    (ran : (messageExecution (sampleMessage type)).toOption.isSome = true) :
    ∃ execution, messageExecution (sampleMessage type) = .ok execution ∧
      ∃ record, execution.result = some record ∧ record.get "status" = .str "PASS" := by
  obtain ⟨execution, hexecution⟩ := exists_eq_ok ran
  have status : statusText (sampleMessage type) = "PASS" := by
    simp [statusText, sampleMessage, Dict.get?_cons, Json.display]
  exact ⟨execution, hexecution, (execute_protocol rfl hexecution).mpr
    ⟨rfl, ⟨0, "0.5"⟩, sampleMessage type, rfl, rfl, parsed, status⟩⟩

end MncsForge.Application
