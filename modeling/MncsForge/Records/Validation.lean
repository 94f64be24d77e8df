import Mathlib
import MncsForge.Foundation.CanonicalJson
import MncsForge.Records.Record

/-!
# Field validation

Every record type shares one schema check; a few types add checks of their own.
A value that cannot be hashed fails a membership test with a Python error
instead of the domain error written here; it is refused either way.
-/

namespace MncsForge.Records

open MncsForge.Foundation

/-- What the record layer takes from outside: SHA-256 as hexadecimal text, and
the RFC 8785 encoder of receipts. -/
structure Hashing where
  hexdigest : List UInt8 → String
  jcs : Json → Except ForgeError (List UInt8)

/-- `dict.get`, with `None` for a key that is not there. -/
def field (fields : Dict String Json) (name : String) : Json :=
  (Dict.get? fields name).getD .null

def joined (names : List String) : String :=
  String.intercalate ", " names

def isText (value : Json) : Bool :=
  match value with
  | .str text => text ≠ ""
  | _ => false

def isObject (value : Json) : Bool :=
  value.asObj?.isSome

def oneOf (value : Json) (choices : List String) : Bool :=
  match value with
  | .str text => text ∈ choices
  | _ => false

def statuses : List String := ["PASS", "FAIL", "UNKNOWN"]

def statusIsValid (recordType : RecordType) (fields : Dict String Json) :
    Except ForgeError Unit :=
  match (recordSpecs recordType).statusField with
  | none => .ok ()
  | some statusField =>
      refuseIf (oneOf (field fields statusField) statuses = false) "RECORD_STATUS"
        s!"{recordType.value}.{statusField} must be PASS, FAIL, or UNKNOWN"

/-! ## Execution records -/

def receiptCompleteness : List String :=
  ["complete", "incomplete", "malformed", "unsupported", "unavailable"]

def receiptActionKinds : List String := ["workflow_action", "verifier_action"]

def establishedPropertyStates : List String := ["established", "not-established", "unknown"]

def establishedPropertyKeys : List String :=
  ["execution_completed", "local_result_validity", "runner_capability",
   "filesystem_isolation", "network_isolation", "containerization",
   "same_operator_execution", "external_anchoring", "witnessing", "protected_custody",
   "evaluator_independence", "governance_certification"]

def assuranceRequestProperties : List String :=
  ["runner_capability", "filesystem_isolation", "network_isolation", "containerization",
   "same_operator_execution"]

/-- The items of a list of texts. -/
def texts? : Json → Option (List String)
  | .arr items => items.mapM Json.asStr?
  | _ => none

def validateExecutionAssurance (fields : Dict String Json) : Except ForgeError Unit := do
  refuseIf (oneOf (field fields "action_kind") receiptActionKinds = false)
    "RECORD_MALFORMED" "execution assurance action_kind is invalid"
  let requested := (texts? (field fields "requested_properties")).getD []
  refuseIf (requested = [] ∨ "" ∈ requested ∨ ¬ requested.Nodup) "RECORD_MALFORMED"
    "execution assurance requires unique non-empty requested properties"
  let outside := Dict.sortedSet (requested.filter (· ∉ assuranceRequestProperties))
  refuseIf (outside ≠ []) "RECORD_AUTHORITY"
    ("requested execution-assurance properties are outside the declared vocabulary: "
      ++ joined outside)
  let unmet ← match texts? (field fields "unmet_properties") with
    | some unmet => .ok unmet
    | none =>
        .error ⟨"RECORD_MALFORMED", "execution assurance unmet properties are invalid"⟩
  refuseIf (∃ name ∈ unmet, name ∉ requested) "RECORD_MALFORMED"
    "unmet execution-assurance properties must be a subset of requested properties"
  let reasons ← match texts? (field fields "reasons") with
    | some reasons =>
        if "" ∈ reasons then
          .error ⟨"RECORD_MALFORMED", "execution assurance reasons must be text"⟩
        else .ok reasons
    | none => .error ⟨"RECORD_MALFORMED", "execution assurance reasons must be text"⟩
  refuseIf (field fields "assurance_status" = .str "PASS" ∧ (unmet ≠ [] ∨ reasons ≠ []))
    "RECORD_AUTHORITY" "execution assurance PASS cannot carry unmet properties or reasons"
  refuseIf (field fields "assurance_status" = .str "FAIL" ∧ reasons = [])
    "RECORD_MALFORMED" "execution assurance FAIL requires recorded reasons"

/-- The checks on a complete receipt: the envelope is there and hashes to the
identity recorded twice. -/
def validateCompleteReceipt (hashing : Hashing) (fields : Dict String Json) :
    Except ForgeError Unit := do
  let receipt ← match field fields "mncs_receipt" with
    | .obj receipt => .ok receipt
    | _ =>
        .error ⟨"RECORD_MALFORMED", "complete execution receipt bindings require mncs_receipt"⟩
  let receiptIdentity := field fields "receipt_identity"
  refuseIf (isText receiptIdentity = false) "RECORD_MALFORMED"
    "complete execution receipt bindings require receipt_identity"
  let encoded ← hashing.jcs (.obj (Dict.erase receipt "receipt_identity"))
  refuseIf
    (field receipt "receipt_identity" ≠ receiptIdentity ∨
      .str (hashing.hexdigest encoded) ≠ receiptIdentity)
    "RECORD_IDENTITY" "receipt_identity does not match the stored MNCS receipt envelope"
  refuseIf (field receipt "record_type" ≠ .str "mncs-execution-receipt") "RECORD_MALFORMED"
    "mncs_receipt must be an MNCS execution receipt"
  refuseIf
    (Json.sameValue (field fields "receipt_schema_version")
      (field receipt "schema_version") = false)
    "RECORD_MALFORMED"
    "receipt_schema_version does not match the stored MNCS receipt envelope"

def validateExecutionReceiptBinding (hashing : Hashing) (fields : Dict String Json) :
    Except ForgeError Unit := do
  refuseIf (oneOf (field fields "action_kind") receiptActionKinds = false)
    "RECORD_MALFORMED" "execution receipt action_kind is invalid"
  let completeness := field fields "receipt_completeness"
  refuseIf (oneOf completeness receiptCompleteness = false) "RECORD_MALFORMED"
    "execution receipt completeness is invalid"
  let properties ← match field fields "established_properties" with
    | .obj properties =>
        if Dict.keys properties = Dict.sortedSet establishedPropertyKeys then .ok properties
        else .error ⟨"RECORD_MALFORMED",
          "execution receipt established_properties must declare every authority dimension"⟩
    | _ => .error ⟨"RECORD_MALFORMED",
        "execution receipt established_properties must declare every authority dimension"⟩
  let invalidStates :=
    Dict.keys (properties.filter fun entry => !oneOf entry.2 establishedPropertyStates)
  refuseIf (invalidStates ≠ []) "RECORD_MALFORMED"
    ("execution receipt established_properties have invalid states: "
      ++ joined invalidStates)
  refuseIf (field fields "status" = .str "PASS") "RECORD_AUTHORITY"
    "execution receipt bindings cannot claim evidence PASS"
  if completeness = .str "complete" then validateCompleteReceipt hashing fields
  else do
    let withoutEnvelope := oneOf completeness ["incomplete", "unavailable"]
    refuseIf (withoutEnvelope = true ∧ field fields "mncs_receipt" ≠ .null)
      "RECORD_MALFORMED"
      s!"{completeness.display} execution receipt bindings cannot embed an MNCS envelope"
    refuseIf (withoutEnvelope = true ∧ field fields "receipt_identity" ≠ .null)
      "RECORD_MALFORMED"
      s!"{completeness.display} execution receipt bindings cannot claim a receipt identity"

/-! ## Compiler and concept records -/

def claimsAuthority (fields : Dict String Json) : Bool :=
  field fields "assurance_status" ≠ .null || field fields "conformance_status" ≠ .null

def validateCompilerExperiment (fields : Dict String Json) : Except ForgeError Unit := do
  refuseIf
    (oneOf (field fields "language_contract_id")
      ["mncs:language:compilation-study-result:0.1",
       "mncs:language:experiment-result:0.1"] = false)
    "RECORD_CONTRACT" "compiler experiment record uses an unsupported language contract"
  refuseIf
    (field fields "interpretation" ≠ .str "observation_only_not_assurance_or_conformance")
    "RECORD_AUTHORITY" "compiler experiment records must remain observation-only"
  refuseIf (claimsAuthority fields = true) "RECORD_AUTHORITY"
    "compiler experiment records cannot claim assurance or conformance"

def validateCompilerCandidate (fields : Dict String Json) : Except ForgeError Unit := do
  refuseIf
    (field fields "interpretation" ≠ .str "search_observation_not_language_correctness")
    "RECORD_AUTHORITY" "compiler candidate records must remain search observations"
  refuseIf (claimsAuthority fields = true) "RECORD_AUTHORITY"
    "compiler candidate records cannot claim assurance or conformance"
  refuseIf
    (field fields "isolated" ≠ .bool true ∨
      field fields "generator_certified" ≠ .bool false)
    "RECORD_AUTHORITY"
    "compiler candidates must stay isolated and uncertified by their generator"
  refuseIf
    (field fields "baseline_artifact_identity" = field fields "candidate_artifact_identity")
    "COMPILER_CANDIDATE_NOT_ISOLATED"
    "a compiler candidate cannot share the trusted baseline artifact identity"
  refuseIf
    (oneOf (field fields "semantic_status") ["UNVALIDATED", "PASS", "FAIL", "UNKNOWN"] = false)
    "RECORD_STATUS"
    "compiler candidate semantic_status must be UNVALIDATED, PASS, FAIL, or UNKNOWN"
  refuseIf
    (oneOf (field fields "policy_disposition")
      ["accept", "reject", "retain_unresolved"] = false)
    "RECORD_MALFORMED" "compiler candidate policy_disposition is invalid"

def conceptEvaluationInterpretation : String :=
  "bounded_forge_evaluation_not_mncs_conformance"

def validateConceptEvaluation (fields : Dict String Json) : Except ForgeError Unit := do
  let material ← match field fields "evaluation_material" with
    | .obj material => .ok material
    | _ => .error ⟨"RECORD_MALFORMED",
        "concept evaluation evaluation_material must be an object"⟩
  refuseIf (field material "schema_version" ≠ .str "mncs-forge.concept-evaluation.v0.1")
    "RECORD_CONTRACT" "concept evaluation records use an unsupported evaluation contract"
  refuseIf (oneOf (field fields "status") statuses = false) "RECORD_STATUS"
    "concept evaluation status must be PASS, FAIL, or UNKNOWN"
  refuseIf
    (field fields "interpretation" ≠ .str conceptEvaluationInterpretation ∨
      claimsAuthority fields = true)
    "RECORD_AUTHORITY"
    "concept evaluations cannot claim assurance, conformance, or universal truth"
  refuseIf (field fields "generator_certified" ≠ .bool false) "RECORD_AUTHORITY"
    "concept evaluations must stay uncertified by their generator"
  let digest := ((field fields "content_digest").asStr?.getD "").toList
  refuseIf ("sha256:".toList.isPrefixOf digest = false ∨ digest.length ≠ 71)
    "RECORD_IDENTITY" "concept evaluation content_digest must be a sha256 identity"
  refuseIf
    (field fields "stable_id" ≠
      .str ("mncs-forge://evaluation/" ++ String.ofList (digest.drop 7)))
    "RECORD_IDENTITY" "concept evaluation stable id must match its content digest"

/-! ## The schema check -/

/-- The checks that only some record types add. -/
def validateType (hashing : Hashing) (recordType : RecordType)
    (fields : Dict String Json) : Except ForgeError Unit :=
  match recordType with
  | .candidateDisposition =>
      refuseIf (oneOf (field fields "disposition") ["selected", "rejected"] = false)
        "RECORD_MALFORMED" "candidate disposition is invalid"
  | .verifierResult =>
      refuseIf (field fields "independent_evaluation" ≠ .bool false) "RECORD_AUTHORITY"
        "local verifier records cannot claim independent evaluation"
  | .executionReceiptBinding => validateExecutionReceiptBinding hashing fields
  | .executionAssurance => validateExecutionAssurance fields
  | .compilerExperiment => validateCompilerExperiment fields
  | .compilerCandidate => validateCompilerCandidate fields
  | .conceptEvaluation => validateConceptEvaluation fields
  | _ => .ok ()

def validateFields (hashing : Hashing) (recordType : RecordType)
    (fields : Dict String Json) : Except ForgeError Unit := do
  let spec := recordSpecs recordType
  let missing := spec.required.filter (· ∉ Dict.keys fields)
  refuseIf (missing ≠ []) "RECORD_MISSING_FIELD"
    s!"{recordType.value} is missing required fields: {joined missing}"
  let unknown := (Dict.keys fields).filter (· ∉ spec.allowed)
  refuseIf (unknown ≠ []) "RECORD_UNKNOWN_FIELD"
    s!"{recordType.value} has unexpected fields: {joined unknown}"
  let extensions := field fields "extensions"
  refuseIf (extensions ≠ .null ∧ isObject extensions = false) "RECORD_MALFORMED"
    "record extensions must be an object"
  let invalidStrings :=
    (requiredStringFields recordType).filter fun name => !isText (field fields name)
  refuseIf (invalidStrings ≠ []) "RECORD_MALFORMED"
    s!"{recordType.value} requires non-empty text fields: {joined invalidStrings}"
  let invalidObjects :=
    (requiredObjectFields recordType).filter fun name => !isObject (field fields name)
  refuseIf (invalidObjects ≠ []) "RECORD_MALFORMED"
    s!"{recordType.value} requires object fields: {joined invalidObjects}"
  let mode := field fields "mode"
  refuseIf (mode ≠ .null ∧ oneOf mode ["development", "evaluator"] = false)
    "RECORD_MALFORMED" s!"{recordType.value} mode is invalid"
  statusIsValid recordType fields
  validateType hashing recordType fields

/-- Accepted fields are all declared by the schema. -/
theorem keys_allowed_of_validateFields {hashing : Hashing} {recordType : RecordType}
    {fields : Dict String Json} (h : validateFields hashing recordType fields = .ok ()) :
    ∀ name ∈ Dict.keys fields, name ∈ (recordSpecs recordType).allowed := by
  simp only [validateFields, refuseIf_bind_eq_ok] at h
  obtain ⟨_, hunknown, _⟩ := h
  intro name hname
  have accepted := List.filter_eq_nil_iff.mp (not_ne_iff.mp hunknown) name hname
  simpa using accepted

/-- Accepted fields include every required one. -/
theorem required_mem_of_validateFields {hashing : Hashing} {recordType : RecordType}
    {fields : Dict String Json} (h : validateFields hashing recordType fields = .ok ()) :
    ∀ name ∈ (recordSpecs recordType).required, name ∈ Dict.keys fields := by
  simp only [validateFields, refuseIf_bind_eq_ok] at h
  intro name hname
  have present := List.filter_eq_nil_iff.mp (not_ne_iff.mp h.1) name hname
  simpa using present

/-! ## Valid records -/

/-- The fields pass the check of the record's type, as they do for every record the
store returns. -/
def ForgeRecord.Valid (hashing : Hashing) (record : ForgeRecord) : Prop :=
  validateFields hashing record.recordType record.fields = .ok ()

theorem ForgeRecord.get_eq_field {record : ForgeRecord} {name : String}
    (htype : name ≠ "record_type") (hversion : name ≠ "schema_version") :
    record.get name = field record.fields name := by
  rw [get, if_neg htype, if_neg hversion, field]

private theorem requiredString_metadata (recordType : RecordType) :
    ∀ name ∈ requiredStringFields recordType,
      name ≠ "record_type" ∧ name ≠ "schema_version" := by
  cases recordType <;> decide

/-- The required text fields of a valid record hold texts. -/
theorem ForgeRecord.Valid.text {hashing : Hashing} {record : ForgeRecord}
    (valid : record.Valid hashing) (name : String)
    (required : name ∈ requiredStringFields record.recordType) :
    ∃ text, text ≠ "" ∧ record.get name = .str text := by
  obtain ⟨htype, hversion⟩ := requiredString_metadata record.recordType name required
  rw [get_eq_field htype hversion]
  simp only [Valid, validateFields, refuseIf_bind_eq_ok] at valid
  obtain ⟨_, _, _, hstrings, _⟩ := valid
  have accepted := List.filter_eq_nil_iff.mp (not_ne_iff.mp hstrings) name required
  cases hvalue : field record.fields name with
  | str text =>
      rw [hvalue] at accepted
      exact ⟨text, by simpa [isText] using accepted, rfl⟩
  | _ =>
      rw [hvalue] at accepted
      simp [isText] at accepted

private theorem ForgeRecord.Valid.checks {hashing : Hashing} {record : ForgeRecord}
    (valid : record.Valid hashing) :
    statusIsValid record.recordType record.fields = .ok () ∧
      validateType hashing record.recordType record.fields = .ok () := by
  simp only [Valid, validateFields, refuseIf_bind_eq_ok] at valid
  obtain ⟨_, _, _, _, _, _, hrest⟩ := valid
  obtain ⟨_, hstatus, hchecks⟩ := bind_eq_ok.mp hrest
  exact ⟨hstatus, hchecks⟩

/-- The status field of a valid record is one of the three statuses. -/
theorem ForgeRecord.Valid.status {hashing : Hashing} {record : ForgeRecord}
    (valid : record.Valid hashing) {name : String}
    (hname : (recordSpecs record.recordType).statusField = some name) :
    ∃ text ∈ statuses, field record.fields name = .str text := by
  obtain ⟨hstatus, _⟩ := valid.checks
  rw [statusIsValid, hname] at hstatus
  have accepted := refuseIf_eq_ok.mp hstatus
  cases hvalue : field record.fields name with
  | str text =>
      rw [hvalue] at accepted
      exact ⟨text, by simpa [oneOf] using accepted, rfl⟩
  | _ =>
      rw [hvalue] at accepted
      simp [oneOf] at accepted

/-- A valid disposition selects or rejects. -/
theorem ForgeRecord.Valid.disposition {hashing : Hashing} {record : ForgeRecord}
    (valid : record.Valid hashing) (htype : record.recordType = .candidateDisposition) :
    record.get "disposition" = .str "selected" ∨ record.get "disposition" = .str "rejected" := by
  rw [get_eq_field (by decide) (by decide)]
  obtain ⟨_, hchecks⟩ := valid.checks
  rw [htype, validateType] at hchecks
  have accepted := refuseIf_eq_ok.mp hchecks
  cases hvalue : field record.fields "disposition" with
  | str text =>
      rw [hvalue] at accepted
      have : text = "selected" ∨ text = "rejected" := by
        simpa [oneOf, or_iff_not_imp_left] using accepted
      simpa using this
  | _ =>
      rw [hvalue] at accepted
      simp [oneOf] at accepted

end MncsForge.Records
