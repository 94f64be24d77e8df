import Mathlib
import MncsForge.Native.ExecutionAssurance
import MncsForge.Application.ExecutionReceipts

/-!
# Execution assurance

An assessment weighs the properties a request names against the binding of an
execution receipt.  The policy gives the verdict, and the host lists what is unmet
and the reasons; the record that is built must pass the check of its type.
-/

namespace MncsForge.Application

open MncsForge.Foundation MncsForge.Records
open Native (Status)
open Native.ExecutionAssurance (AssuranceProperty ExecutionAssuranceDecision
  ExecutionAssuranceInput ExecutionAssuranceRequestDecision ExecutionAssuranceRequestStatus
  ExecutionPropertyFinding ExecutionPropertyState IsolationConflict SequenceLibrary)

/-! ## Reading a binding -/

/-- `_binding`: the last binding with the identity. -/
def receiptBinding (bindings : List ForgeRecord) (bindingId : String) :
    Except ForgeError ForgeRecord :=
  match bindings.reverse.find? fun record => record.get "binding_id" = .str bindingId with
  | some record => .ok record
  | none => .error ⟨"RECORD_NOT_FOUND", s!"no execution receipt binding for {bindingId}"⟩

/-- `_property_map`. -/
def propertyMap (binding : ForgeRecord) : Option (Dict String Json) :=
  (binding.get "established_properties").asObj?

/-- `_native_property_state`; the checked states are texts. -/
def nativePropertyState : Option Json → ExecutionPropertyState
  | some (.str "established") => .established
  | some (.str "not-established") => .notEstablished
  | some (.str "unknown") => .unknown
  | _ => .unreadable

def missingKeys (properties : Dict String Json) : List String :=
  Dict.sortedSet (establishedPropertyKeys.filter (· ∉ Dict.keys properties))

/-- The facts of a binding as the policy is given them. -/
def assuranceInput (request : ExecutionAssuranceRequestDecision) (binding : ForgeRecord)
    (properties : Dict String Json) : ExecutionAssuranceInput :=
  let completeReceipt := decide (binding.get "receipt_completeness" = .str "complete")
  { localProcessRunner := decide (binding.get "runner_kind" = .str "local-process")
    propertyMapComplete := (missingKeys properties).isEmpty
    completeReceiptMissing := completeReceipt && !isObject (binding.get "mncs_receipt")
    receiptComplete := completeReceipt
    requested := request.requested
    state := fun property => nativePropertyState (Dict.get? properties property.name) }

/-! ## Reasons -/

def conflictKey : IsolationConflict → Option String
  | .none => none
  | .filesystemIsolation => some "filesystem_isolation"
  | .networkIsolation => some "network_isolation"
  | .containerization => some "containerization"

def findingMessage : ExecutionPropertyFinding → Option String
  | .notEstablished => some "requested property was not established by the runner"
  | .unknown => some "requested property could not be observed"
  | .unreadable => some "requested property has an unreadable state"
  | .notRequested | .satisfied => none

/-- The finding of a named property; an accepted request names no other. -/
def findingNamed (decision : ExecutionAssuranceDecision) (key : String) :
    ExecutionPropertyFinding :=
  ((AssuranceProperty.all.find? fun property => property.name = key).map decision.finding).getD
    .notRequested

/-- The reasons that concern the binding as a whole. -/
def bindingReasons (decision : ExecutionAssuranceDecision) (binding : ForgeRecord)
    (missing : List String) : List String :=
  (if decision.propertyMapIncomplete then
    [s!"binding property map is incomplete: {joined missing}"] else []) ++
  (if decision.completeReceiptMissing then
    ["complete binding is missing its MNCS execution-receipt envelope"] else []) ++
  ((conflictKey decision.isolationConflict).map fun key =>
    let runnerKind := (binding.get "runner_kind").display
    s!"{key} is claimed established by a {runnerKind} runner, which cannot enforce it").toList

/-- A requested property that is not met, and its reason. -/
def findingReason (decision : ExecutionAssuranceDecision) (key : String) :
    Except ForgeError (Option (String × String)) := do
  refuseIf (findingNamed decision key = .notRequested) "NATIVE_ABI_MISMATCH"
    "native assurance omitted a requested property"
  .ok ((findingMessage (findingNamed decision key)).map fun message =>
    (key, s!"{message}: {key}"))

def incompleteReason : String :=
  "the bound execution is incomplete, so no assurance property can be confirmed"

def unmetProperties (decision : ExecutionAssuranceDecision) (requested : List String)
    (findings : List (String × String)) : List String :=
  let unmet := findings.map Prod.fst
  if decision.receiptIncomplete then unmet ++ requested.filter (· ∉ unmet) else unmet

def assuranceReasons (decision : ExecutionAssuranceDecision) (binding : ForgeRecord)
    (missing : List String) (findings : List (String × String)) : List String :=
  bindingReasons decision binding missing ++ findings.map Prod.snd ++
    if decision.receiptIncomplete then [incompleteReason] else []

def verdictText : Status → String
  | .pass => "PASS"
  | .fail => "FAIL"
  | .unknown => "UNKNOWN"

/-! ## The assessment -/

/-- The collaborators of an assessment.  The bindings are in the order of the history. -/
structure AssuranceService where
  hashing : Hashing
  sequences : SequenceLibrary
  projectIdentity : String
  bindings : List ForgeRecord
  now : String
  commit : String → String → ForgeRecord → Except ForgeError Unit

namespace AssuranceService

variable (service : AssuranceService)

def requestMessage : ExecutionAssuranceRequestStatus → Option String
  | .empty => some "requested execution-assurance properties cannot be empty"
  | .duplicate => some "requested execution-assurance properties must be unique"
  | .unknownProperty => some "requested properties are outside the declared vocabulary"
  | .valid => none

/-- The request, which the policy must accept. -/
def acceptedRequest (requested : List String) :
    Except ForgeError ExecutionAssuranceRequestDecision :=
  match Native.ExecutionAssurance.executionAssuranceRequestValidate service.sequences
      requested with
  | .error error =>
      .error (if error.code = "NATIVE_ASSURANCE_INPUT" then ⟨"ASSURANCE_REQUEST", error.message⟩
        else error)
  | .ok request =>
      if request.valid then .ok request
      else
        match requestMessage request.status with
        | some message => .error ⟨"ASSURANCE_REQUEST", message⟩
        | none => .error ⟨"NATIVE_ABI_MISMATCH",
            "native assurance returned an unknown request disposition"⟩

/-- The fields of an assessment, as the source lists them. -/
def assessmentFields (binding : ForgeRecord) (bindingId : String)
    (requested unmet reasons : List String) (status : Status)
    (policyIdentity : Option String) : List (String × Json) :=
  [("project_identity", .str service.projectIdentity),
   ("candidate_identity", binding.get "candidate_identity"),
   ("binding_identity", .str bindingId),
   ("action_kind", binding.get "action_kind"),
   ("action_identity", binding.get "action_identity"),
   ("requested_properties", texts requested),
   ("unmet_properties", texts unmet),
   ("reasons", texts reasons),
   ("assurance_status", .str (verdictText status)),
   ("policy_identity", .ofText policyIdentity),
   ("assessed_at", .str service.now)]

/-- The record of an assessment that was decided. -/
def assessmentRecord (binding : ForgeRecord) (bindingId : String) (requested : List String)
    (policyIdentity : Option String) (decision : ExecutionAssuranceDecision)
    (missing : List String) : Except ForgeError ForgeRecord := do
  refuseIf (decision.valid = false) "NATIVE_ASSURANCE_UNKNOWN"
    "native execution assurance rejected the request"
  let findings ← requested.mapM (findingReason decision)
  let findings := findings.filterMap id
  newRecord service.hashing .executionAssurance
    (Dict.update []
      (service.assessmentFields binding bindingId requested
        (unmetProperties decision requested findings)
        (assuranceReasons decision binding missing findings) decision.status policyIdentity))

/-- `assess_execution_receipt`, up to the commit. -/
def assess (bindingId : String) (requested : List String) (policyIdentity : Option String) :
    Except ForgeError ForgeRecord := do
  let request ← service.acceptedRequest requested
  let binding ← receiptBinding service.bindings bindingId
  refuseIf (binding.get "project_identity" ≠ .str service.projectIdentity) "RECORD_MISMATCH"
    "execution receipt binding belongs to a different project"
  match propertyMap binding with
  | none => .error ⟨"RECORD_MALFORMED", "execution receipt binding has no property map"⟩
  | some properties =>
      service.assessmentRecord binding bindingId requested policyIdentity
        (Native.ExecutionAssurance.assess (assuranceInput request binding properties))
        (missingKeys properties)

/-- `summarize_assessment`. -/
def summarizeAssessment (record : ForgeRecord) : List (String × Json) :=
  [("assessment_id", record.get "assessment_id"),
   ("binding_identity", record.get "binding_identity"),
   ("candidate_identity", record.get "candidate_identity"),
   ("action_kind", record.get "action_kind"),
   ("requested_properties", record.get "requested_properties"),
   ("unmet_properties", record.get "unmet_properties"),
   ("assurance_status", record.get "assurance_status"),
   ("reasons", record.get "reasons"),
   ("policy_identity", record.get "policy_identity"),
   ("assessed_at", record.get "assessed_at"),
   ("dominance", .str "FAIL > UNKNOWN > PASS"),
   ("note", .str ("Execution assurance is separate from the functional result. A PASS result " ++
     "never implies assurance PASS, and an unmet requested property remains UNKNOWN."))]

/-- `assess_execution_receipt`. -/
def assessExecutionReceipt (bindingId : String) (requested : List String)
    (policyIdentity : Option String) : Except ForgeError (List (String × Json)) := do
  let record ← service.assess bindingId requested policyIdentity
  service.commit "assessments" "execution_assurance" record
  .ok (summarizeAssessment record)

end AssuranceService

/-! ## The plain policy -/

/-- What the binding says of a property. -/
def propertyState (binding : ForgeRecord) (key : String) : Option Json :=
  (propertyMap binding).bind fun properties => Dict.get? properties key

/-- A local process cannot establish any isolation. -/
def IsolationConflicted (binding : ForgeRecord) : Prop :=
  binding.get "runner_kind" = .str "local-process" ∧
    ∃ key ∈ ["filesystem_isolation", "network_isolation", "containerization"],
      propertyState binding key = some (.str "established")

/-- The receipt is complete with its envelope, and everything requested is established. -/
structure AssurancePasses (binding : ForgeRecord) (requested : List String) : Prop where
  complete : binding.get "receipt_completeness" = .str "complete"
  envelope : isObject (binding.get "mncs_receipt") = true
  covered : ∀ key ∈ establishedPropertyKeys, (propertyState binding key).isSome = true
  unconflicted : ¬IsolationConflicted binding
  established : ∀ key ∈ requested, propertyState binding key = some (.str "established")

section Verdict

variable {binding : ForgeRecord} {properties : Dict String Json}
  {request : ExecutionAssuranceRequestDecision} {requested : List String}

theorem nativePropertyState_eq_established {state : Option Json} :
    nativePropertyState state = .established ↔ state = some (.str "established") := by
  unfold nativePropertyState
  split
  · simp
  · simp
  · simp
  · rename_i other _ _
    simpa using other

theorem missingKeys_eq_nil :
    missingKeys properties = [] ↔
      ∀ key ∈ establishedPropertyKeys, (Dict.get? properties key).isSome = true := by
  simp only [missingKeys, Dict.sortedSet_eq_nil, List.filter_eq_nil_iff, decide_eq_true_eq,
    not_not, Dict.get?_isSome_iff]

theorem conflict_iff (hmap : propertyMap binding = some properties) :
    Native.ExecutionAssurance.hasIsolationConflict
        (Native.ExecutionAssurance.assess
          (assuranceInput request binding properties)).isolationConflict = true ↔
      IsolationConflicted binding := by
  rw [Native.ExecutionAssurance.hasIsolationConflict_iff, IsolationConflicted]
  simp only [assuranceInput, decide_eq_true_eq, nativePropertyState_eq_established, propertyState,
    hmap, Option.bind_some, List.mem_cons, List.not_mem_nil, or_false, exists_eq_or_imp,
    exists_eq_left, AssuranceProperty.name]

/-- The verdict of the policy on a request that it accepts. -/
theorem assess_passes (hmap : propertyMap binding = some properties)
    (named : ∀ property, request.requested property = true ↔ property.name ∈ requested)
    (known : ∀ text ∈ requested, ∃ property : AssuranceProperty, text = property.name)
    (valid : (Native.ExecutionAssurance.assess
      (assuranceInput request binding properties)).valid = true) :
    (Native.ExecutionAssurance.assess (assuranceInput request binding properties)).status =
      .pass ↔ AssurancePasses binding requested := by
  rw [Native.ExecutionAssurance.assess_pass, ← Bool.not_eq_true, conflict_iff hmap]
  simp only [assuranceInput, decide_eq_true_eq, nativePropertyState_eq_established, named,
    List.isEmpty_iff, missingKeys_eq_nil, Bool.and_eq_false_iff, decide_eq_false_iff_not]
  have states : ∀ key, propertyState binding key = Dict.get? properties key := fun key => by
    rw [propertyState, hmap, Option.bind_some]
  constructor
  · rintro ⟨_, unconflicted, covered, envelope, complete, established⟩
    refine ⟨complete, by simpa [complete] using envelope, ?_, unconflicted, ?_⟩
    · simpa only [states] using covered
    · intro key member
      obtain ⟨property, rfl⟩ := known key member
      rw [states]
      exact established property member
  · rintro ⟨complete, envelope, covered, unconflicted, established⟩
    refine ⟨valid, unconflicted, ?_, Or.inr (by simp [envelope]), complete, ?_⟩
    · simpa only [states] using covered
    · intro property member
      rw [← states]
      exact established property.name member

end Verdict

/-! ## The host lists what the policy decides -/

section Reasons

variable {input : ExecutionAssuranceInput} {binding : ForgeRecord} {missing : List String}
  {requested : List String}

theorem findingNamed_name (decision : ExecutionAssuranceDecision)
    (property : AssuranceProperty) :
    findingNamed decision property.name = decision.finding property := by
  cases property <;> rfl

theorem conflictKey_eq_none {conflict : IsolationConflict} :
    conflictKey conflict = none ↔
      Native.ExecutionAssurance.hasIsolationConflict conflict = false := by
  cases conflict <;> decide

theorem findingMessage_eq_none {flag : Bool} {state : ExecutionPropertyState} (h : flag = true) :
    findingMessage (Native.ExecutionAssurance.executionPropertyFinding flag state) = none ↔
      state = .established := by
  subst h
  cases state <;> decide

/-- The unmet properties with their reasons, in the order of the request. -/
def requestFindings (decision : ExecutionAssuranceDecision) (requested : List String) :
    List (String × String) :=
  requested.filterMap fun key =>
    (findingMessage (findingNamed decision key)).map fun message => (key, s!"{message}: {key}")

/-- Every requested property has a finding. -/
theorem findingReasons_eq (decision : ExecutionAssuranceDecision)
    (found : ∀ key ∈ requested, findingNamed decision key ≠ .notRequested) :
    ∃ findings, requested.mapM (findingReason decision) = .ok findings ∧
      findings.filterMap id = requestFindings decision requested := by
  refine ⟨requested.map fun key => (findingMessage (findingNamed decision key)).map
    fun message => (key, s!"{message}: {key}"), (mapM_eq_ok fun key _ result => ?_).mpr
      ⟨found, rfl⟩, ?_⟩
  · rw [findingReason, refuseIf_bind_eq_ok, Except.ok.injEq, eq_comm (a := result)]
  · rw [requestFindings, List.filterMap_map]
    rfl

theorem unmetProperties_subset (decision : ExecutionAssuranceDecision) :
    ∀ key ∈ unmetProperties decision requested (requestFindings decision requested),
      key ∈ requested := by
  have listed : ∀ key ∈ (requestFindings decision requested).map Prod.fst, key ∈ requested := by
    intro key member
    obtain ⟨finding, hfinding, rfl⟩ := List.mem_map.mp member
    obtain ⟨key, hkey, h⟩ := List.mem_filterMap.mp hfinding
    obtain ⟨message, _, rfl⟩ := Option.map_eq_some_iff.mp h
    exact hkey
  intro key member
  unfold unmetProperties at member
  split_ifs at member
  · rcases List.mem_append.mp member with met | rest
    · exact listed key met
    · exact (List.mem_filter.mp rest).1
  · exact listed key member

/-- Reasons are sentences. -/
theorem assuranceReasons_nonempty (decision : ExecutionAssuranceDecision) :
    "" ∉ assuranceReasons decision binding missing (requestFindings decision requested) := by
  unfold assuranceReasons bindingReasons
  simp only [List.mem_append, not_or]
  refine ⟨⟨⟨⟨?_, ?_⟩, ?_⟩, ?_⟩, ?_⟩
  · split_ifs <;> simp [toString]
  · split_ifs <;> simp
  · cases conflictKey decision.isolationConflict <;> simp [toString]
  · intro member
    obtain ⟨finding, hfinding, hempty⟩ := List.mem_map.mp member
    obtain ⟨key, _, h⟩ := List.mem_filterMap.mp hfinding
    obtain ⟨message, _, rfl⟩ := Option.map_eq_some_iff.mp h
    simp [toString] at hempty
  · split_ifs <;> simp [incompleteReason]

theorem bindingReasons_eq_nil {decision : ExecutionAssuranceDecision} :
    bindingReasons decision binding missing = [] ↔
      decision.propertyMapIncomplete = false ∧ decision.completeReceiptMissing = false ∧
        Native.ExecutionAssurance.hasIsolationConflict decision.isolationConflict = false := by
  rw [bindingReasons, ← conflictKey_eq_none]
  cases decision.propertyMapIncomplete <;> cases decision.completeReceiptMissing <;>
    cases conflictKey decision.isolationConflict <;> simp

/-- No finding is left exactly when everything requested is established. -/
theorem requestFindings_eq_nil
    (named : ∀ property, input.requested property = true ↔ property.name ∈ requested)
    (known : ∀ text ∈ requested, ∃ property : AssuranceProperty, text = property.name) :
    requestFindings (Native.ExecutionAssurance.assess input) requested = [] ↔
      ∀ property, input.requested property = true → input.state property = .established := by
  rw [requestFindings, List.filterMap_eq_nil_iff]
  simp only [Option.map_eq_none_iff]
  constructor
  · intro met property hrequested
    have message := met property.name ((named property).mp hrequested)
    rw [findingNamed_name] at message
    exact (findingMessage_eq_none hrequested).mp message
  · intro established key member
    obtain ⟨property, rfl⟩ := known key member
    have hrequested := (named property).mpr member
    rw [findingNamed_name]
    exact (findingMessage_eq_none hrequested).mpr (established property hrequested)

/-- The host has no reason exactly when the policy passes. -/
theorem assuranceReasons_eq_nil
    (named : ∀ property, input.requested property = true ↔ property.name ∈ requested)
    (known : ∀ text ∈ requested, ∃ property : AssuranceProperty, text = property.name)
    (valid : (Native.ExecutionAssurance.assess input).valid = true) :
    assuranceReasons (Native.ExecutionAssurance.assess input) binding missing
        (requestFindings (Native.ExecutionAssurance.assess input) requested) = [] ↔
      (Native.ExecutionAssurance.assess input).status = .pass := by
  rw [Native.ExecutionAssurance.assess_pass, ← requestFindings_eq_nil named known,
    assuranceReasons, List.append_eq_nil_iff, List.append_eq_nil_iff, bindingReasons_eq_nil,
    List.map_eq_nil_iff]
  have complete : (if (Native.ExecutionAssurance.assess input).receiptIncomplete = true then
      [incompleteReason] else []) = [] ↔ input.receiptComplete = true := by
    show (if (!input.receiptComplete) = true then [incompleteReason] else []) = [] ↔ _
    cases input.receiptComplete <;> simp
  have covered : (Native.ExecutionAssurance.assess input).propertyMapIncomplete = false ↔
      input.propertyMapComplete = true := by
    show (!input.propertyMapComplete) = false ↔ _
    simp
  have envelope : (Native.ExecutionAssurance.assess input).completeReceiptMissing =
      input.completeReceiptMissing := rfl
  rw [complete, covered, envelope]
  constructor
  · rintro ⟨⟨⟨hcovered, henvelope, hconflict⟩, hfindings⟩, hcomplete⟩
    exact ⟨valid, hconflict, hcovered, henvelope, hcomplete, hfindings⟩
  · rintro ⟨_, hconflict, hcovered, henvelope, hcomplete, hfindings⟩
    exact ⟨⟨⟨hcovered, henvelope, hconflict⟩, hfindings⟩, hcomplete⟩

/-- A passing policy leaves nothing unmet. -/
theorem unmetProperties_of_pass
    (named : ∀ property, input.requested property = true ↔ property.name ∈ requested)
    (known : ∀ text ∈ requested, ∃ property : AssuranceProperty, text = property.name)
    (pass : (Native.ExecutionAssurance.assess input).status = .pass) :
    unmetProperties (Native.ExecutionAssurance.assess input) requested
      (requestFindings (Native.ExecutionAssurance.assess input) requested) = [] := by
  obtain ⟨_, _, _, _, complete, established⟩ := Native.ExecutionAssurance.assess_pass.mp pass
  rw [(requestFindings_eq_nil named known).mpr established, unmetProperties, if_neg]
  · rfl
  · show ¬(!input.receiptComplete) = true
    simp [complete]

end Reasons

/-! ## The record -/

theorem newRecord_returns {hashing : Hashing} {recordType : RecordType}
    {fields : Dict String Json} {name label : String}
    (hname : (recordSpecs recordType).identityField = some name)
    (hlabel : (recordSpecs recordType).identityPrefix = some label) (labelled : label ≠ "")
    (unclaimed : "record_type" ∉ Dict.keys fields ∧ "schema_version" ∉ Dict.keys fields)
    (acceptable : Acceptable fields) (absent : field fields name = .null)
    (valid : ∀ text, text ≠ "" →
      validateFields hashing recordType (Dict.set fields name (.str text)) = .ok ()) :
    ∃ record, newRecord hashing recordType fields = .ok record := by
  have derived : deriveRecordIdentity hashing recordType fields = _ :=
    deriveRecordIdentity_eq hname hlabel acceptable
  have identified : withIdentity hashing recordType fields = .ok (Dict.set fields name
      (.str (label ++ localJsonDigest hashing (.obj (currentProjection recordType fields))))) := by
    rw [withIdentity, hname]
    dsimp only
    rw [derived, absent]
    rfl
  have identity : label ++ localJsonDigest hashing (.obj (currentProjection recordType fields)) ≠
      "" := fun empty => labelled (String.append_eq_empty_iff.mp empty).1
  refine ⟨model recordType (Dict.set fields name (.str (label ++ localJsonDigest hashing
    (.obj (currentProjection recordType fields))))) currentSchemaVersion, ?_⟩
  rw [newRecord, refuseIf_bind_eq_ok]
  exact ⟨not_or.mpr unclaimed, bind_eq_ok.mpr
    ⟨fields, (jsonObject_eq_ok acceptable.1.keyed).mpr ⟨rfl, acceptable⟩, bind_eq_ok.mpr
      ⟨_, identified, bind_eq_ok.mpr ⟨(), valid _ identity, rfl⟩⟩⟩⟩

theorem texts?_texts (values : List String) : texts? (texts values) = some values := by
  show (values.map Json.str).mapM Json.asStr? = some values
  induction values with
  | nil => rfl
  | cons value values ih =>
      rw [List.map_cons, List.mapM_cons, ih]
      rfl

theorem texts_plain (values : List String) :
    (texts values).WellFormed ∧ (texts values).height ≤ 1 := by
  show Json.WellFormedItems (values.map .str) ∧ Json.heightItems (values.map .str) ≤ 1
  induction values with
  | nil => exact ⟨trivial, by simp [Json.heightItems]⟩
  | cons value values ih =>
      refine ⟨⟨trivial, ih.1⟩, ?_⟩
      have := ih.2
      simp only [List.map_cons, Json.heightItems, Json.height]
      omega

section Record

variable {service : AssuranceService} {binding : ForgeRecord} {bindingId : String}
  {requested unmet reasons : List String} {status : Status} {policyIdentity : Option String}

private theorem assessmentFields_keys :
    Dict.keys (service.assessmentFields binding bindingId requested unmet reasons status
        policyIdentity) =
      ["project_identity", "candidate_identity", "binding_identity", "action_kind",
        "action_identity", "requested_properties", "unmet_properties", "reasons",
        "assurance_status", "policy_identity", "assessed_at"] := rfl

private theorem assessmentFields_nodup :
    (Dict.keys (service.assessmentFields binding bindingId requested unmet reasons status
      policyIdentity)).Nodup := by
  rw [assessmentFields_keys]
  decide

/-- What the fields of an assessment are built from. -/
structure Assessable (service : AssuranceService) (binding : ForgeRecord) (bindingId : String)
    (requested unmet reasons : List String) (status : Status) : Prop where
  project : service.projectIdentity ≠ ""
  candidate : isText (binding.get "candidate_identity") = true
  identity : bindingId ≠ ""
  kind : oneOf (binding.get "action_kind") receiptActionKinds = true
  action : isText (binding.get "action_identity") = true
  timed : service.now ≠ ""
  named : requested ≠ [] ∧ requested.Nodup
  known : ∀ text ∈ requested, ∃ property : AssuranceProperty, text = property.name
  within : ∀ key ∈ unmet, key ∈ requested
  sentences : "" ∉ reasons
  pass : status = .pass → unmet = [] ∧ reasons = []
  fail : status = .fail → reasons ≠ []

theorem name_requestable (property : AssuranceProperty) :
    property.name ≠ "" ∧ property.name ∈ assuranceRequestProperties := by
  cases property <;> decide

/-- A field of the record that is built. -/
private theorem reads {value : Json} {name : String} (h : name ≠ "assessment_id") :
    field (Dict.set (Dict.update [] (service.assessmentFields binding bindingId requested unmet
        reasons status policyIdentity)) "assessment_id" value) name =
      field (service.assessmentFields binding bindingId requested unmet reasons status
        policyIdentity) name := by
  rw [field, Dict.get?_set, if_neg h, ← field, field_update assessmentFields_nodup]

private theorem verdictText_inj {first second : Status} (h : verdictText first = verdictText second) :
    first = second := by
  cases first <;> cases second <;> first | rfl | exact absurd h (by decide)

/-- The check of execution assurances accepts what is built. -/
private theorem assurance_accepted {fields : Dict String Json}
    (h : Assessable service binding bindingId requested unmet reasons status)
    (kind : field fields "action_kind" = binding.get "action_kind")
    (hrequested : field fields "requested_properties" = texts requested)
    (hunmet : field fields "unmet_properties" = texts unmet)
    (hreasons : field fields "reasons" = texts reasons)
    (hstatus : field fields "assurance_status" = .str (verdictText status)) :
    validateExecutionAssurance fields = .ok () := by
  have outside : Dict.sortedSet (requested.filter (· ∉ assuranceRequestProperties)) = [] := by
    rw [Dict.sortedSet_eq_nil, List.filter_eq_nil_iff]
    intro text member
    obtain ⟨property, rfl⟩ := h.known text member
    simpa using (name_requestable property).2
  have blank : "" ∉ requested := by
    intro member
    obtain ⟨property, same⟩ := h.known "" member
    exact (name_requestable property).1 same.symm
  rw [validateExecutionAssurance, kind, hrequested, hunmet, hreasons, hstatus]
  simp only [texts?_texts, Option.getD_some, refuseIf_bind_eq_ok, outside]
  refine ⟨by simp [h.kind], not_or.mpr ⟨h.named.1, not_or.mpr ⟨blank, not_not.mpr h.named.2⟩⟩,
    by simp, bind_eq_ok.mpr ⟨unmet, rfl, ?_⟩⟩
  rw [refuseIf_bind_eq_ok, if_neg h.sentences]
  refine ⟨?_, bind_eq_ok.mpr ⟨reasons, rfl, ?_⟩⟩
  · rintro ⟨key, member, outside⟩
    exact outside (h.within key member)
  · rw [refuseIf_bind_eq_ok, refuseIf_eq_ok]
    constructor
    · rintro ⟨pass, carried⟩
      obtain ⟨met, silent⟩ := h.pass (verdictText_inj (Json.str.inj pass))
      rcases carried with left | left
      · exact left met
      · exact left silent
    · rintro ⟨fail, silent⟩
      exact h.fail (verdictText_inj (Json.str.inj fail)) silent

private theorem isText_of_oneOf {value : Json} {choices : List String} (blank : "" ∉ choices)
    (h : oneOf value choices = true) : isText value = true := by
  cases value with
  | str text =>
      simp only [oneOf, decide_eq_true_eq] at h
      simp only [isText, ne_eq, decide_eq_true_eq]
      rintro rfl
      exact blank h
  | _ => cases h

theorem assessment_valid
    (h : Assessable service binding bindingId requested unmet reasons status) {text : String}
    (identity : text ≠ "") :
    validateFields service.hashing .executionAssurance
      (Dict.set (Dict.update [] (service.assessmentFields binding bindingId requested unmet
        reasons status policyIdentity)) "assessment_id" (.str text)) = .ok () := by
  have keys : ∀ name, name ∈ Dict.keys (Dict.set (Dict.update []
      (service.assessmentFields binding bindingId requested unmet reasons status
        policyIdentity)) "assessment_id" (.str text)) ↔
      name = "assessment_id" ∨ name ∈ ["project_identity", "candidate_identity",
        "binding_identity", "action_kind", "action_identity", "requested_properties",
        "unmet_properties", "reasons", "assurance_status", "policy_identity",
        "assessed_at"] := by
    intro name
    rw [Dict.mem_keys_set, Dict.mem_keys_update, assessmentFields_keys]
    simp
  have identified : field (Dict.set (Dict.update [] (service.assessmentFields binding bindingId
      requested unmet reasons status policyIdentity)) "assessment_id" (.str text))
      "assessment_id" = .str text := by
    rw [field, Dict.get?_set, if_pos rfl]
    rfl
  have silent : ∀ name ∈ ["extensions", "mode"],
      field (service.assessmentFields binding bindingId requested unmet reasons status
        policyIdentity) name = .null := by
    intro name member
    simp only [List.mem_cons, List.not_mem_nil, or_false] at member
    rcases member with rfl | rfl <;> rfl
  have texts : ∀ name ∈ requiredStringFields .executionAssurance,
      isText (field (Dict.set (Dict.update [] (service.assessmentFields binding bindingId
        requested unmet reasons status policyIdentity)) "assessment_id" (.str text)) name) =
        true := by
    have solid : ∀ {value : String}, value ≠ "" → isText (.str value) = true := fun h => by
      simpa [isText] using h
    intro name member
    simp only [requiredStringFields, List.mem_cons, List.not_mem_nil, or_false] at member
    rcases member with rfl | rfl | rfl | rfl | rfl | rfl | rfl | rfl
    · rw [reads (by decide)]
      exact h.action
    · rw [reads (by decide)]
      exact isText_of_oneOf (by decide) h.kind
    · rw [reads (by decide)]
      exact solid h.timed
    · rw [identified]
      exact solid identity
    · rw [reads (by decide)]
      exact solid (by cases status <;> decide)
    · rw [reads (by decide)]
      exact solid h.identity
    · rw [reads (by decide)]
      exact h.candidate
    · rw [reads (by decide)]
      exact solid h.project
  simp only [validateFields, refuseIf_bind_eq_ok]
  refine ⟨?_, ?_, ?_, ?_, not_not.mpr rfl, ?_, bind_eq_ok.mpr ⟨(), ?_, ?_⟩⟩
  · rw [not_ne_iff, List.filter_eq_nil_iff]
    simp only [keys, decide_not, Bool.not_eq_true', decide_eq_false_iff_not, not_not]
    decide
  · have declared : ∀ name ∈ ["assessment_id", "project_identity", "candidate_identity",
        "binding_identity", "action_kind", "action_identity", "requested_properties",
        "unmet_properties", "reasons", "assurance_status", "policy_identity", "assessed_at"],
        name ∈ (recordSpecs .executionAssurance).allowed := by decide
    rw [not_ne_iff, List.filter_eq_nil_iff]
    intro name member
    rw [keys, ← List.mem_cons] at member
    simpa using declared name member
  · rw [reads (by decide), silent _ (by decide)]
    exact fun given => given.1 rfl
  · rw [not_ne_iff, List.filter_eq_nil_iff]
    intro name member
    simp [texts name member]
  · rw [reads (by decide), silent _ (by decide)]
    exact fun given => given.1 rfl
  · refine refuseIf_eq_ok.mpr ?_
    rw [reads (by decide)]
    show ¬oneOf (.str (verdictText status)) statuses = false
    cases status <;> decide
  · exact assurance_accepted h (reads (by decide)) (reads (by decide)) (reads (by decide))
      (reads (by decide)) (reads (by decide))

private theorem plain_of_isText {value : Json} (h : isText value = true) :
    value.WellFormed ∧ value.height ≤ 63 := by
  cases value with
  | str text => exact ⟨trivial, by simp [Json.height]⟩
  | _ => cases h

private theorem assessment_acceptable
    (h : Assessable service binding bindingId requested unmet reasons status) :
    Acceptable (Dict.update [] (service.assessmentFields binding bindingId requested unmet
      reasons status policyIdentity)) := by
  have text : ∀ value : String, (Json.str value).WellFormed ∧ (Json.str value).height ≤ 63 :=
    fun value => ⟨trivial, by simp [Json.height]⟩
  have list : ∀ values : List String, (texts values).WellFormed ∧ (texts values).height ≤ 63 :=
    fun values => ⟨(texts_plain values).1, (texts_plain values).2.trans (by decide)⟩
  refine acceptable_iff.mpr ⟨Dict.ordered_nil.update _, fun key value hget => ?_⟩
  rw [Dict.get?_update_of_nodup assessmentFields_nodup, Dict.get?_nil, Option.or_none] at hget
  have member := Dict.mem_of_get?_eq_some hget
  simp only [AssuranceService.assessmentFields, List.mem_cons, Prod.mk.injEq, List.not_mem_nil,
    or_false] at member
  rcases member with ⟨_, rfl⟩ | ⟨_, rfl⟩ | ⟨_, rfl⟩ | ⟨_, rfl⟩ | ⟨_, rfl⟩ | ⟨_, rfl⟩ | ⟨_, rfl⟩ |
    ⟨_, rfl⟩ | ⟨_, rfl⟩ | ⟨_, rfl⟩ | ⟨_, rfl⟩
  · exact text _
  · exact plain_of_isText h.candidate
  · exact text _
  · exact plain_of_isText (isText_of_oneOf (by decide) h.kind)
  · exact plain_of_isText h.action
  · exact list _
  · exact list _
  · exact list _
  · exact text _
  · cases policyIdentity with
    | none => exact ⟨trivial, by simp [Json.ofText, Json.height]⟩
    | some policy => exact text policy
  · exact text _

/-- The record of an assessment can be built. -/
theorem newAssessment_returns (policyIdentity : Option String)
    (h : Assessable service binding bindingId requested unmet reasons status) :
    ∃ record, newRecord service.hashing .executionAssurance
      (Dict.update [] (service.assessmentFields binding bindingId requested unmet reasons status
        policyIdentity)) = .ok record := by
  have keys : ∀ name, name ∈ Dict.keys (Dict.update [] (service.assessmentFields binding
      bindingId requested unmet reasons status policyIdentity)) ↔
      name ∈ ["project_identity", "candidate_identity", "binding_identity", "action_kind",
        "action_identity", "requested_properties", "unmet_properties", "reasons",
        "assurance_status", "policy_identity", "assessed_at"] := by
    intro name
    rw [Dict.mem_keys_update, assessmentFields_keys]
    simp
  refine newRecord_returns rfl rfl (by decide) ⟨?_, ?_⟩ (assessment_acceptable h) ?_
    fun text identity => assessment_valid h identity
  · rw [keys]
    decide
  · rw [keys]
    decide
  · rw [field_update assessmentFields_nodup]
    rfl

end Record

/-! ## What an accepted request is answered with -/

/-- The record says of the binding what the plain policy says. -/
structure Assessed (binding : ForgeRecord) (requested : List String) (record : ForgeRecord)
    (unmet reasons : List String) : Prop where
  asked : record.get "requested_properties" = texts requested
  lacking : record.get "unmet_properties" = texts unmet
  stated : record.get "reasons" = texts reasons
  within : ∀ key ∈ unmet, key ∈ requested
  pass : record.get "assurance_status" = .str "PASS" ↔ AssurancePasses binding requested
  fail : record.get "assurance_status" = .str "FAIL" ↔ IsolationConflicted binding
  unknown : record.get "assurance_status" = .str "UNKNOWN" ↔
    ¬AssurancePasses binding requested ∧ ¬IsolationConflicted binding
  listed : record.get "assurance_status" = .str "PASS" ↔ unmet = [] ∧ reasons = []
  explained : record.get "assurance_status" = .str "FAIL" → reasons ≠ []

section Assess

variable {service : AssuranceService} {binding : ForgeRecord} {bindingId : String}
  {requested : List String} {policyIdentity : Option String}

/-- What an assessment needs of a binding, its check has established. -/
private theorem binding_checked (htype : binding.recordType = .executionReceiptBinding)
    (valid : binding.Valid service.hashing) :
    oneOf (binding.get "action_kind") receiptActionKinds = true ∧
      ∃ properties, propertyMap binding = some properties := by
  rw [propertyMap, ForgeRecord.get_eq_field (by decide) (by decide),
    ForgeRecord.get_eq_field (by decide) (by decide)]
  simp only [ForgeRecord.Valid, validateFields, refuseIf_bind_eq_ok, htype] at valid
  obtain ⟨_, _, _, _, objects, _, valid⟩ := valid
  obtain ⟨_, _, checked⟩ := bind_eq_ok.mp valid
  rw [validateType, validateExecutionReceiptBinding, refuseIf_bind_eq_ok] at checked
  refine ⟨by simpa using checked.1, ?_⟩
  have object : isObject (field binding.fields "established_properties") = true := by
    simpa using List.filter_eq_nil_iff.mp (not_ne_iff.mp objects) "established_properties"
      (by decide)
  exact Option.isSome_iff_exists.mp object

private theorem receiptBinding_eq_ok {bindings : List ForgeRecord}
    (h : receiptBinding bindings bindingId = .ok binding) :
    binding ∈ bindings ∧ binding.get "binding_id" = .str bindingId := by
  unfold receiptBinding at h
  split at h
  · rename_i record found
    obtain rfl := Except.ok.inj h
    exact ⟨List.mem_reverse.mp (List.mem_of_find?_eq_some found),
      by simpa using List.find?_some found⟩
  · cases h

private theorem isText_of_valid {record : ForgeRecord} {name : String}
    (valid : record.Valid service.hashing)
    (required : name ∈ requiredStringFields record.recordType) :
    isText (record.get name) = true := by
  obtain ⟨text, solid, same⟩ := valid.text name required
  rw [same]
  simpa [isText] using solid

private theorem acceptedRequest_eq_ok {request : ExecutionAssuranceRequestDecision}
    (h : service.acceptedRequest requested = .ok request) :
    Native.ExecutionAssurance.executionAssuranceRequestValidate service.sequences requested =
      .ok request ∧ request.valid = true := by
  unfold AssuranceService.acceptedRequest at h
  split at h
  · cases h
  · rename_i validated run
    by_cases valid : validated.valid = true
    · rw [if_pos valid] at h
      obtain rfl := Except.ok.inj h
      exact ⟨run, valid⟩
    · rw [if_neg valid] at h
      split at h <;> cases h

private theorem newAssessment_get {unmet reasons : List String} {status : Status}
    {record : ForgeRecord}
    (h : newRecord service.hashing .executionAssurance
      (Dict.update [] (service.assessmentFields binding bindingId requested unmet reasons status
        policyIdentity)) = .ok record) :
    record.get "requested_properties" = texts requested ∧
      record.get "unmet_properties" = texts unmet ∧ record.get "reasons" = texts reasons ∧
      record.get "assurance_status" = .str (verdictText status) := by
  have fields : ∀ name, name ≠ "record_type" → name ≠ "schema_version" →
      name ≠ "assessment_id" → record.get name = field (service.assessmentFields binding bindingId
        requested unmet reasons status policyIdentity) name := by
    intro name hrecord hversion hother
    rw [(newRecord_get h).2 name hrecord hversion
      (fun same => hother (Option.some.inj same).symm), field_update assessmentFields_nodup]
  exact ⟨fields _ (by decide) (by decide) (by decide), fields _ (by decide) (by decide) (by decide),
    fields _ (by decide) (by decide) (by decide), fields _ (by decide) (by decide) (by decide)⟩

/-- What is decided on a binding of the project can be recorded. -/
private theorem assessable_of_binding (input : ExecutionAssuranceInput) (missing : List String)
    (stored : binding.recordType = .executionReceiptBinding)
    (valid : binding.Valid service.hashing) (timed : service.now ≠ "")
    (identified : binding.get "binding_id" = .str bindingId)
    (owned : binding.get "project_identity" = .str service.projectIdentity)
    (some : requested ≠ [] ∧ requested.Nodup)
    (known : ∀ text ∈ requested, ∃ property : AssuranceProperty, text = property.name)
    (named : ∀ property, input.requested property = true ↔ property.name ∈ requested)
    (decided : (Native.ExecutionAssurance.assess input).valid = true) :
    Assessable service binding bindingId requested
      (unmetProperties (Native.ExecutionAssurance.assess input) requested
        (requestFindings (Native.ExecutionAssurance.assess input) requested))
      (assuranceReasons (Native.ExecutionAssurance.assess input) binding missing
        (requestFindings (Native.ExecutionAssurance.assess input) requested))
      (Native.ExecutionAssurance.assess input).status := by
  have solid : ∀ name ∈ requiredStringFields .executionReceiptBinding,
      isText (binding.get name) = true := by
    rw [← stored]
    exact fun name required => isText_of_valid valid required
  exact
    { project := by
        have := solid "project_identity" (by decide)
        rw [owned] at this
        simpa [isText] using this
      candidate := solid "candidate_identity" (by decide)
      identity := by
        have := solid "binding_id" (by decide)
        rw [identified] at this
        simpa [isText] using this
      kind := (binding_checked stored valid).1
      action := solid "action_identity" (by decide)
      timed := timed
      named := some
      known := known
      within := unmetProperties_subset _
      sentences := assuranceReasons_nonempty _
      pass := fun pass => ⟨unmetProperties_of_pass named known pass,
        (assuranceReasons_eq_nil named known decided).mpr pass⟩
      fail := fun fail nothing => by
        have pass := (assuranceReasons_eq_nil named known decided).mp nothing
        rw [fail] at pass
        cases pass }

private theorem findingNamed_requested (input : ExecutionAssuranceInput)
    (known : ∀ text ∈ requested, ∃ property : AssuranceProperty, text = property.name)
    (named : ∀ property, input.requested property = true ↔ property.name ∈ requested) :
    ∀ key ∈ requested,
      findingNamed (Native.ExecutionAssurance.assess input) key ≠ .notRequested := by
  intro key member
  obtain ⟨property, rfl⟩ := known key member
  rw [findingNamed_name]
  show Native.ExecutionAssurance.executionPropertyFinding (input.requested property)
    (input.state property) ≠ .notRequested
  rw [(named property).mpr member]
  cases input.state property <;> decide

/-- The record that is built says what the plain policy says. -/
private theorem assessed_of_built {properties : Dict String Json}
    {request : ExecutionAssuranceRequestDecision} {missing : List String} {record : ForgeRecord}
    (hmap : propertyMap binding = some properties)
    (known : ∀ text ∈ requested, ∃ property : AssuranceProperty, text = property.name)
    (named : ∀ property, request.requested property = true ↔ property.name ∈ requested)
    {decision : ExecutionAssuranceDecision}
    (made : decision = Native.ExecutionAssurance.assess (assuranceInput request binding properties))
    (decided : decision.valid = true)
    (built : newRecord service.hashing .executionAssurance
      (Dict.update [] (service.assessmentFields binding bindingId requested
        (unmetProperties decision requested (requestFindings decision requested))
        (assuranceReasons decision binding missing (requestFindings decision requested))
        decision.status policyIdentity)) = .ok record) :
    Assessed binding requested record
      (unmetProperties decision requested (requestFindings decision requested))
      (assuranceReasons decision binding missing (requestFindings decision requested)) := by
  obtain ⟨asked, lacking, stated, status⟩ := newAssessment_get built
  have spoken : ∀ verdict, record.get "assurance_status" = .str (verdictText verdict) ↔
      decision.status = verdict := by
    intro verdict
    rw [status, Json.str.injEq]
    exact ⟨verdictText_inj, fun same => by rw [same]⟩
  have plain : decision.status = .pass ↔ AssurancePasses binding requested := by
    subst made
    exact assess_passes hmap named known decided
  have conflicted : decision.status = .fail ↔ IsolationConflicted binding := by
    subst made
    rw [Native.ExecutionAssurance.assess_fail, conflict_iff hmap]
    exact and_iff_right decided
  have silent : assuranceReasons decision binding missing (requestFindings decision requested) =
      [] ↔ decision.status = .pass := by
    subst made
    exact assuranceReasons_eq_nil named known decided
  exact
    { asked := asked
      lacking := lacking
      stated := stated
      within := unmetProperties_subset _
      pass := (spoken .pass).trans plain
      fail := (spoken .fail).trans conflicted
      unknown := by
        rw [← plain, ← conflicted]
        refine (spoken .unknown).trans ?_
        cases decision.status <;> simp
      listed := by
        refine (spoken .pass).trans ⟨fun pass => ⟨?_, silent.mpr pass⟩, fun nothing =>
          silent.mp nothing.2⟩
        subst made
        exact unmetProperties_of_pass named known pass
      explained := by
        intro fail nothing
        have pass := silent.mp nothing
        rw [(spoken .fail).mp fail] at pass
        cases pass }

/-- An accepted request on a stored binding of the project is answered with a valid
record, and its verdict is the one of the plain policy. -/
theorem assess_plain (service : AssuranceService) (documented : service.sequences.Documented)
    (stored : ∀ record ∈ service.bindings,
      record.recordType = .executionReceiptBinding ∧ record.Valid service.hashing)
    (timed : service.now ≠ "") (bindingId : String) (requested : List String)
    (policyIdentity : Option String) {request : ExecutionAssuranceRequestDecision}
    (accepted : service.acceptedRequest requested = .ok request) {binding : ForgeRecord}
    (found : receiptBinding service.bindings bindingId = .ok binding)
    (owned : binding.get "project_identity" = .str service.projectIdentity) :
    ∃ record unmet reasons, service.assess bindingId requested policyIdentity = .ok record ∧
      record.recordType = .executionAssurance ∧ record.Valid service.hashing ∧
      Assessed binding requested record unmet reasons := by
  obtain ⟨run, valid⟩ := acceptedRequest_eq_ok accepted
  obtain ⟨some, distinct, known, named⟩ :=
    Native.ExecutionAssurance.executionAssuranceRequestValidate_accepted documented run valid
  obtain ⟨member, identified⟩ := receiptBinding_eq_ok found
  obtain ⟨htype, hvalid⟩ := stored binding member
  obtain ⟨_, properties, hmap⟩ := binding_checked htype hvalid
  have decided : (Native.ExecutionAssurance.assess
      (assuranceInput request binding properties)).valid = true := by
    obtain ⟨text, rest, rfl⟩ := List.exists_cons_of_ne_nil some
    obtain ⟨property, same⟩ := known text List.mem_cons_self
    refine Native.ExecutionAssurance.assess_valid.mpr ⟨property, (named property).mpr ?_⟩
    rw [← same]
    exact List.mem_cons_self
  have assessable := assessable_of_binding (assuranceInput request binding properties)
    (missingKeys properties) htype hvalid timed identified owned ⟨some, distinct⟩ known named decided
  obtain ⟨record, built⟩ := newAssessment_returns policyIdentity assessable
  obtain ⟨findings, hfindings, settled⟩ :=
    findingReasons_eq _
      (findingNamed_requested (assuranceInput request binding properties) known named)
  refine ⟨record, _, _, ?_, (newRecord_get built).1, newRecord_valid built,
    assessed_of_built hmap known named rfl decided built⟩
  refine bind_eq_ok.mpr ⟨request, accepted, bind_eq_ok.mpr ⟨binding, found, ?_⟩⟩
  rw [refuseIf_bind_eq_ok, not_not, hmap]
  refine ⟨owned, ?_⟩
  show service.assessmentRecord binding bindingId requested policyIdentity _ _ = .ok record
  rw [AssuranceService.assessmentRecord, refuseIf_bind_eq_ok]
  refine ⟨by simp [decided], bind_eq_ok.mpr ⟨findings, hfindings, ?_⟩⟩
  rw [settled]
  exact built

end Assess

private def receiptHashing : Hashing where
  hexdigest _ := "9f86d081884c7d659a2feaa0c55ad015a3bf4f1b2b0b822cd15d6c15b0f00a08"
  jcs _ := .ok []

private def completeBinding : ForgeRecord where
  recordType := .executionReceiptBinding
  schemaVersion := currentSchemaVersion
  fields :=
    [("action_identity", .str "action:1"), ("action_kind", .str "workflow_action"),
     ("architecture", .str "x86_64"), ("binding_id", .str "execution-receipt-binding:1"),
     ("candidate_identity", .str "candidate:1"), ("environment_identity", .str "environment:1"),
     ("epoch_identity", .null), ("established_properties",
       .obj [("containerization", .str "not-established"),
         ("evaluator_independence", .str "not-established"),
         ("execution_completed", .str "established"),
         ("external_anchoring", .str "not-established"),
         ("filesystem_isolation", .str "not-established"),
         ("governance_certification", .str "not-established"),
         ("local_result_validity", .str "established"),
         ("network_isolation", .str "not-established"),
         ("protected_custody", .str "not-established"),
         ("runner_capability", .str "established"),
         ("same_operator_execution", .str "unknown"), ("witnessing", .str "not-established")]),
     ("executable_identity", .null), ("execution_scope", .str "local"), ("host_identity", .null),
     ("image_identity", .null),
     ("mncs_receipt", .obj [("receipt_identity", .str
       "9f86d081884c7d659a2feaa0c55ad015a3bf4f1b2b0b822cd15d6c15b0f00a08"),
       ("record_type", .str "mncs-execution-receipt"),
       ("schema_version", .str "0.1-experimental")]),
     ("os_family", .str "linux"), ("project_identity", .str "project:1"),
     ("receipt_completeness", .str "complete"), ("receipt_identity", .str
       "9f86d081884c7d659a2feaa0c55ad015a3bf4f1b2b0b822cd15d6c15b0f00a08"),
     ("receipt_schema_version", .str "0.1-experimental"),
     ("recorded_at", .str "2026-01-01T00:00:00Z"), ("request_identity", .null),
     ("result_identity", .null), ("runner_identity", .str "runner:1"),
     ("runner_kind", .str "local-process"), ("runner_version", .str "1"),
     ("status", .str "UNKNOWN"), ("termination_category", .str "completed"),
     ("worker_identity", .null), ("workflow_or_verifier", .str "unit")]
  sourceSchemaVersion := currentSchemaVersion

private def assuranceService : AssuranceService where
  hashing := receiptHashing
  sequences := Native.ExecutionAssurance.referenceSequences
  projectIdentity := "project:1"
  bindings := [completeBinding]
  now := "2026-01-02T00:00:00Z"
  commit _ _ _ := .ok ()

/-- The runner established its capability, and of the operator nothing is known. -/
theorem assess_plain_sample :
    (∃ record unmet reasons,
      assuranceService.assess "execution-receipt-binding:1" ["runner_capability"] none =
        .ok record ∧ record.recordType = .executionAssurance ∧ record.Valid receiptHashing ∧
      Assessed completeBinding ["runner_capability"] record unmet reasons) ∧
    (assuranceService.assess "execution-receipt-binding:1" ["runner_capability"] none).toOption.map
      (·.get "assurance_status") = some (.str "PASS") ∧
    (assuranceService.assess "execution-receipt-binding:1" ["same_operator_execution"]
      none).toOption.map (·.get "assurance_status") = some (.str "UNKNOWN") := by
  obtain ⟨request, accepted⟩ := exists_eq_ok
    (show (assuranceService.acceptedRequest ["runner_capability"]).toOption.isSome = true by
      decide +kernel)
  refine ⟨assess_plain assuranceService Native.ExecutionAssurance.referenceSequences_documented ?_
    (by decide) _ _ _ accepted rfl rfl, by decide +kernel, by decide +kernel⟩
  intro record member
  obtain rfl := List.mem_singleton.mp member
  exact ⟨rfl, by unfold ForgeRecord.Valid; decide +kernel⟩

end MncsForge.Application
