import Mathlib
import MncsForge.Application.Assurance
import MncsForge.Application.EvaluationDrift
import MncsForge.Application.ProviderAnswers
import MncsForge.Application.ProviderFraming

/-!
# Outcomes of executed commands

Once its command has run, a workflow is to be answered with a result or with an
error that is kept, so that its action can be committed.  What it reads of the
output may raise instead: a limit of the JSON reader, a value that is no list, or a
result that is no valid record.
-/

namespace MncsForge.Application

open MncsForge.Foundation MncsForge.Records
open MncsForge.Foundation.Text (decodeUtf8?)
open Lifecycle (History textOf)
open Kept

/-! ## Execution with a reader -/

/-- The readers of a command's output on one interpreter. -/
structure OutputReader where
  interpreter : Interpreter
  /-- `bytes.decode(json.detect_encoding(bytes))`, with nothing for bytes it cannot read. -/
  decodeDetected : List UInt8 → Option String

namespace OutputReader

variable (reader : OutputReader)

def loads (text : String) : Except JsonText.LoadError Json :=
  JsonText.loads reader.interpreter.dialect text.toList

/-- The other readers are those of the workflow. -/
def decoders (other : Decoders) : Decoders :=
  { reader.interpreter.decoders other with
    loadsBytes := fun bytes =>
      (reader.decodeDetected bytes).bind fun text => (reader.loads text).toOption }

/-- What `json.loads` raises for bytes, apart from the errors that are passed over. -/
def checkLimits (bytes : List UInt8) : Except ForgeError Unit :=
  if bytes = [] then .ok ()
  else
    match (reader.decodeDetected bytes).map reader.loads with
    | some (.error .tooManyDigits) =>
        .error ⟨"ValueError", "Exceeds the limit (4300 digits) for integer string conversion"⟩
    | some (.error .tooDeep) => .error ⟨"RecursionError", "maximum recursion depth exceeded"⟩
    | _ => .ok ()

/-- What a finished command reports; only a `ForgeError` of the parser is kept. -/
def report (executor : WorkflowExecutor) (workflow : Workflow) (session : ExecutionSession)
    (result : ExecutionResult) : Except ForgeError (Except ForgeError Report) :=
  if workflow.providerProtocol then
    if result.returncode ≠ 0 then
      .ok (.error ⟨"PROVIDER_EXIT",
        s!"provider exited {result.returncode}: " ++
          executor.redact (executor.decoders.replacing session.stderr)⟩)
    else
      match reader.interpreter.parseProviderResponse session.stdout with
      | .error e => if IsProviderError e then .ok (.error e) else .error e
      | .ok protocol => do
          let reported ← protocolReport protocol
          .ok (.ok reported)
  else do
    reader.checkLimits session.stdout
    let reported ← { executor with decoders := reader.decoders executor.decoders }.commandReport
      workflow result.returncode session.stdout
    .ok (.ok reported)

end OutputReader

namespace WorkflowExecutor

variable (executor : WorkflowExecutor)

/-- `execute`, with what is made of the command's output as a parameter. -/
def executeWith
    (report : ExecutionResult → Except ForgeError (Except ForgeError Report))
    (workflow : Workflow) (candidate : ForgeRecord) (evaluator : Bool) (recordType : RecordType)
    (times : Times) (session : ExecutionSession) : Except ForgeError WorkflowExecution := do
  let action ← executor.action workflow candidate times.requestedAt times.requestAt
  let finished : Option ForgeRecord → Option ForgeError → WorkflowExecution := fun result error =>
    { action := action
      result := result
      session := session
      workflow := workflow
      epochIdentity := (candidate.get "source_epoch").asStr?
      error := error }
  match session.errorCode, session.result with
  | some code, _ =>
      .ok (finished none
        (some ⟨code, (session.errorMessage.filter (· ≠ "")).getD code⟩))
  | none, none =>
      .ok (finished none (some ⟨"COMMAND_START", "runner produced no execution result"⟩))
  | none, some result => do
      let outcome ← report result
      match outcome with
      | .error e => .ok (finished none (some e))
      | .ok reported => do
          let record ← newRecord executor.hashing recordType
            (Dict.update []
              (executor.resultFields workflow candidate action session result
                (disclose workflow evaluator reported) times.recordedAt))
          refuseIf (record.recordType ∉ [.workflowResult, .finalEvaluation, .bundle])
            "INTERNAL_RECORD" "workflow produced an invalid record model"
          .ok (finished (some record) none)

theorem execute_eq_executeWith (workflow : Workflow) (candidate : ForgeRecord)
    (evaluator : Bool) (recordType : RecordType) (times : Times) (session : ExecutionSession) :
    executor.execute workflow candidate evaluator recordType times session =
      executor.executeWith (executor.report workflow session) workflow candidate evaluator
        recordType times session := rfl

/-- `execute`, reading as the interpreter does. -/
def executeReading (reader : OutputReader) (workflow : Workflow) (candidate : ForgeRecord)
    (evaluator : Bool) (recordType : RecordType) (times : Times) (session : ExecutionSession) :
    Except ForgeError WorkflowExecution :=
  executor.executeWith (reader.report executor workflow session) workflow candidate evaluator
    recordType times session

end WorkflowExecutor

/-! ## What is to be so -/

/-- The execution carries a valid result or an error. -/
def Settled (hashing : Hashing) (execution : WorkflowExecution) : Prop :=
  (∃ record, execution.result = some record ∧ record.Valid hashing ∧ execution.error = none) ∨
    ∃ e, execution.error = some e ∧ execution.result = none

/-- The history after a step, whether it raised or not. -/
def left {α : Type} : Kept (α × History) → History
  | .ok (_, history) => history
  | .error (_, history) => history

/-! ## Results that are valid records -/

/-- A value that fits into a record. -/
structure Storable (value : Json) : Prop where
  wellFormed : value.WellFormed
  shallow : value.height ≤ 63

@[simp] theorem storable_null : Storable .null := ⟨trivial, by simp [Json.height]⟩

@[simp] theorem storable_bool (value : Bool) : Storable (.bool value) :=
  ⟨trivial, by simp [Json.height]⟩

@[simp] theorem storable_int (value : Int) : Storable (.int value) :=
  ⟨trivial, by simp [Json.height]⟩

@[simp] theorem storable_str (value : String) : Storable (.str value) :=
  ⟨trivial, by simp [Json.height]⟩

theorem storable_float {text : String} (finite : Json.isFiniteText text = true) :
    Storable (.float text) :=
  ⟨finite, by simp [Json.height]⟩

theorem storable_texts (values : List String) : Storable (texts values) :=
  ⟨(texts_plain values).1, (texts_plain values).2.trans (by decide)⟩

theorem mem_update_nil {members : List (String × Json)} (distinct : (Dict.keys members).Nodup)
    {entry : String × Json} : entry ∈ Dict.update [] members ↔ entry ∈ members :=
  (Dict.update_nil_perm distinct).mem_iff

theorem storable_document {members : List (String × Json)}
    (distinct : (Dict.keys members).Nodup)
    (h : ∀ entry ∈ members, entry.2.WellFormed ∧ entry.2.height ≤ 62) :
    Storable (document members) := by
  constructor
  · refine ⟨Dict.ordered_nil.update _, Json.wellFormedFields_iff.mpr fun entry member => ?_⟩
    exact (h entry ((mem_update_nil distinct).mp member)).1
  · rw [document, Json.height, Json.heightFields_le_iff]
    intro entry member
    have := (h entry ((mem_update_nil distinct).mp member)).2
    omega

theorem acceptable_update_iff {members : List (String × Json)}
    (distinct : (Dict.keys members).Nodup) :
    Acceptable (Dict.update [] members) ↔ ∀ entry ∈ members, Storable entry.2 := by
  have ordered : Dict.Ordered (Dict.update [] members) := Dict.ordered_nil.update _
  rw [acceptable_iff, ← Dict.forall_mem_iff ordered
    (p := fun _ value => value.WellFormed ∧ value.height ≤ 63)]
  simp only [mem_update_nil distinct]
  constructor
  · intro h entry member
    exact ⟨(h.2 entry member).1, (h.2 entry member).2⟩
  · intro h
    exact ⟨ordered, fun entry member => ⟨(h entry member).wellFormed, (h entry member).shallow⟩⟩

theorem keyed_update {members : List (String × Json)} (distinct : (Dict.keys members).Nodup)
    (keyed : ∀ entry ∈ members, entry.2.Keyed) : (Json.obj (Dict.update [] members)).Keyed := by
  rw [Json.keyed_obj_iff]
  exact ⟨Dict.ordered_nil.update _, fun entry member =>
    keyed entry ((mem_update_nil distinct).mp member)⟩

def resultTypes : List RecordType := [.workflowResult, .finalEvaluation, .bundle]

/-- What `load_config` has checked of a declared workflow. -/
structure Declared (workflow : Workflow) : Prop where
  category : workflow.category ≠ ""
  subject : workflow.subject ≠ ""

/-- A report whose values have their keys in order, as all values that are read. -/
structure KeyedReport (reported : Report) : Prop where
  provider : reported.provider.Keyed
  witnesses : ∀ item ∈ reported.witnesses, item.Keyed
  limitations : ∀ item ∈ reported.limitations, item.Keyed
  unsupported : ∀ item ∈ reported.unsupported, item.Keyed

/-- A report that makes a valid record. -/
structure Recordable (reported : Report) : Prop where
  status : reported.status ∈ statuses
  method : reported.method ≠ ""
  provider : Storable reported.provider
  witnesses : Storable (.arr (reported.witnesses.take 20))
  limitations : Storable (.arr (reported.limitations.take 20))
  unsupported : Storable (.arr (reported.unsupported.take 20))

section Results

variable {executor : WorkflowExecutor} {workflow : Workflow} {candidate action : ForgeRecord}
  {recordType : RecordType} {requestedAt requestAt recordedAt : String}
  {session : ExecutionSession} {result : ExecutionResult} {reported : Report}

theorem resultFields_distinct :
    (Dict.keys (executor.resultFields workflow candidate action session result reported
      recordedAt)).Nodup := by
  simp [WorkflowExecutor.resultFields]

/-- What the action of the command shows of its candidate and its request. -/
structure Acted (executor : WorkflowExecutor) (workflow : Workflow)
    (candidate action : ForgeRecord) : Prop where
  named : workflow.name ≠ ""
  candidate : ∃ text, text ≠ "" ∧ candidate.get "candidate_id" = .str text
  request : action.get "protocol_request_identity" = .null ∨
    ∃ text, action.get "protocol_request_identity" = .str text

theorem acted_of_action
    (h : executor.action workflow candidate requestedAt requestAt = .ok action) :
    Acted executor workflow candidate action := by
  rw [WorkflowExecutor.action] at h
  obtain ⟨htype, reads⟩ := newRecord_get h
  have valid := newRecord_valid h
  have text (name : String) (required : name ∈ requiredStringFields .workflowAction) :
      ∃ text, text ≠ "" ∧ action.get name = .str text :=
    valid.text name (by rw [htype]; exact required)
  have shown (name : String) (h : name ∈ ["workflow", "candidate_identity",
      "protocol_request_identity"]) : action.get name = field
        [("workflow", .str workflow.name), ("candidate_identity", candidate.get "candidate_id"),
         ("mode", .str executor.mode.value),
         ("protocol_request_identity",
           if workflow.providerProtocol then
             .str ("forge-json-sha256-v1:" ++
               localJsonDigest executor.hashing (executor.request workflow candidate requestAt))
           else .null),
         ("requested_at", .str requestedAt)] name := by
    simp only [List.mem_cons, List.not_mem_nil, or_false] at h
    rw [reads name (by rcases h with rfl | rfl | rfl <;> decide)
      (by rcases h with rfl | rfl | rfl <;> decide)
      (by rcases h with rfl | rfl | rfl <;> decide), field_update (by simp)]
  refine ⟨?_, ?_, ?_⟩
  · obtain ⟨name, nonempty, hname⟩ := text "workflow" (by decide)
    rw [shown "workflow" (by decide)] at hname
    obtain rfl := Json.str.inj hname
    exact nonempty
  · obtain ⟨identity, nonempty, hidentity⟩ := text "candidate_identity" (by decide)
    rw [shown "candidate_identity" (by decide)] at hidentity
    exact ⟨identity, nonempty, hidentity⟩
  · rw [shown "protocol_request_identity" (by decide)]
    by_cases protocol : workflow.providerProtocol = true
    · exact Or.inr ⟨_, by simp [field, Dict.get?_cons, protocol]; rfl⟩
    · exact Or.inl (by simp [field, Dict.get?_cons, protocol])

theorem resultFields_keys :
    Dict.keys (executor.resultFields workflow candidate action session result reported
      recordedAt) =
      ["candidate_identity", "subject_type", "provider_or_evaluator_identity", "method",
        "workflow", "category", "scope", "environment", "duration_seconds", "status",
        "witnesses_or_counterexamples", "limitations", "unsupported_constructs",
        "stderr_diagnostic", "returncode", "recorded_at", "protocol_request_identity"] := rfl

theorem storable_environment :
    Storable (document [("allowlisted_keys", texts (executor.config.environmentKeys workflow)),
      ("values_disclosed", .bool false)]) := by
  obtain ⟨wellFormed, height⟩ := texts_plain (executor.config.environmentKeys workflow)
  refine storable_document (by simp) ?_
  simp only [List.mem_cons, List.not_mem_nil, or_false, forall_eq_or_imp, forall_eq]
  exact ⟨⟨wellFormed, height.trans (by decide)⟩, trivial, by simp [Json.height]⟩

/-- Everything but the report fits into the record in any case. -/
theorem resultFields_storable_iff (acted : Acted executor workflow candidate action)
    (finite : Json.isFiniteText result.durationSeconds = true) :
    (∀ entry ∈ executor.resultFields workflow candidate action session result reported
      recordedAt, Storable entry.2) ↔
      Storable reported.provider ∧ Storable (.arr (reported.witnesses.take 20)) ∧
        Storable (.arr (reported.limitations.take 20)) ∧
        Storable (.arr (reported.unsupported.take 20)) := by
  obtain ⟨identity, -, hcandidate⟩ := acted.candidate
  have request : Storable (action.get "protocol_request_identity") := by
    obtain same | ⟨text, same⟩ := acted.request <;> rw [same] <;> simp
  simp [WorkflowExecutor.resultFields, hcandidate, request, storable_environment,
    storable_float finite]

theorem resultFields_keyed (acted : Acted executor workflow candidate action)
    (keyed : KeyedReport reported) :
    ∀ entry ∈ executor.resultFields workflow candidate action session result reported
      recordedAt, entry.2.Keyed := by
  obtain ⟨identity, -, hcandidate⟩ := acted.candidate
  have request : (action.get "protocol_request_identity").Keyed := by
    obtain same | ⟨text, same⟩ := acted.request <;> rw [same] <;> trivial
  have list : ∀ {items : List Json}, (∀ item ∈ items, item.Keyed) →
      (Json.arr (items.take 20)).Keyed := fun h =>
    JsonText.keyedItems_iff.mpr fun item member => h item (List.mem_of_mem_take member)
  have environment := (@storable_environment executor workflow).wellFormed.keyed
  simp only [WorkflowExecutor.resultFields, hcandidate, List.forall_mem_cons]
  exact ⟨trivial, trivial, keyed.provider, trivial, trivial, trivial, trivial, environment,
    trivial, trivial, list keyed.witnesses, list keyed.limitations, list keyed.unsupported,
    trivial, trivial, trivial, request, List.forall_mem_nil _⟩

private theorem resultTypes_alike (listed : recordType ∈ resultTypes) :
    (recordSpecs recordType).required = workflowResultFields ∧
      (recordSpecs recordType).optional = ["extensions"] ∧
      (recordSpecs recordType).identityField = some "output_identity" ∧
      (recordSpecs recordType).identityPrefix = some "forge-json-sha256-v1:" ∧
      (recordSpecs recordType).statusField = some "status" ∧
      requiredStringFields recordType = ["candidate_identity", "category", "method",
        "output_identity", "recorded_at", "scope", "status", "subject_type", "workflow"] ∧
      requiredObjectFields recordType = ["environment"] := by
  simp only [resultTypes, List.mem_cons, List.not_mem_nil, or_false] at listed
  rcases listed with rfl | rfl | rfl <;> exact ⟨rfl, rfl, rfl, rfl, rfl, rfl, rfl⟩

private theorem resultTypes_unchecked (listed : recordType ∈ resultTypes) (hashing : Hashing)
    (fields : Dict String Json) : validateType hashing recordType fields = .ok () := by
  simp only [resultTypes, List.mem_cons, List.not_mem_nil, or_false] at listed
  rcases listed with rfl | rfl | rfl <;> rfl

private theorem mem_workflowResultFields {name : String} :
    name = "output_identity" ∨ name ∈ Dict.keys (executor.resultFields workflow candidate action
      session result reported recordedAt) ↔ name ∈ workflowResultFields := by
  rw [resultFields_keys, ← List.mem_cons]
  exact List.Perm.mem_iff (by decide)

/-- With an identity the fields of a result pass the check of their type. -/
theorem resultFields_valid (acted : Acted executor workflow candidate action)
    (declared : Declared workflow) (listed : recordType ∈ resultTypes)
    (timed : recordedAt ≠ "") (known : reported.status ∈ statuses)
    (named : reported.method ≠ "") {text : String} (identity : text ≠ "") :
    validateFields executor.hashing recordType
      (Dict.set (Dict.update [] (executor.resultFields workflow candidate action session result
        reported recordedAt)) "output_identity" (.str text)) = .ok () := by
  obtain ⟨required, optional, -, -, status, strings, objects⟩ := resultTypes_alike listed
  obtain ⟨candidateIdentity, identified, hcandidate⟩ := acted.candidate
  have keys : ∀ name, name ∈ Dict.keys (Dict.set (Dict.update []
      (executor.resultFields workflow candidate action session result reported recordedAt))
      "output_identity" (.str text)) ↔ name ∈ workflowResultFields := by
    intro name
    rw [Dict.mem_keys_set, Dict.mem_keys_update, Dict.keys_nil, List.mem_nil_iff, or_false,
      mem_workflowResultFields]
  have reads : ∀ name, name ≠ "output_identity" →
      field (Dict.set (Dict.update [] (executor.resultFields workflow candidate action session
        result reported recordedAt)) "output_identity" (.str text)) name =
        field (executor.resultFields workflow candidate action session result reported
          recordedAt) name := by
    intro name other
    rw [field, Dict.get?_set, if_neg other, ← field, field_update resultFields_distinct]
  have solid : ∀ {value : String}, value ≠ "" → isText (.str value) = true := fun h => by
    simpa [isText] using h
  simp only [validateFields, refuseIf_bind_eq_ok, required, RecordSpec.allowed, optional,
    strings, objects]
  refine ⟨?_, ?_, ?_, ?_, ?_, ?_, bind_eq_ok.mpr ⟨(), ?_, resultTypes_unchecked listed _ _⟩⟩
  · rw [not_ne_iff, List.filter_eq_nil_iff]
    intro name member
    simpa using (keys name).mpr member
  · rw [not_ne_iff, List.filter_eq_nil_iff]
    intro name member
    simp [(keys name).mp member]
  · rw [reads "extensions" (by decide)]
    exact fun given => given.1 rfl
  · rw [not_ne_iff, List.filter_eq_nil_iff]
    intro name member
    have full : isText (field (Dict.set (Dict.update [] (executor.resultFields workflow candidate
        action session result reported recordedAt)) "output_identity" (.str text)) name) =
          true := by
      simp only [List.mem_cons, List.not_mem_nil, or_false] at member
      rcases member with rfl | rfl | rfl | rfl | rfl | rfl | rfl | rfl | rfl
      · rw [reads _ (by decide)]
        show isText (candidate.get "candidate_id") = true
        rw [hcandidate]
        exact solid identified
      · rw [reads _ (by decide)]
        exact solid declared.category
      · rw [reads _ (by decide)]
        exact solid named
      · rw [field, Dict.get?_set, if_pos rfl]
        exact solid identity
      · rw [reads _ (by decide)]
        exact solid timed
      · rw [reads _ (by decide)]
        exact solid (by decide)
      · rw [reads _ (by decide)]
        refine solid fun empty => ?_
        rw [empty] at known
        exact absurd known (by decide)
      · rw [reads _ (by decide)]
        exact solid declared.subject
      · rw [reads _ (by decide)]
        exact solid acted.named
    simp [full]
  · rw [not_ne_iff, List.filter_eq_nil_iff]
    intro name member
    obtain rfl := List.mem_singleton.mp member
    rw [reads _ (by decide)]
    show ¬(!isObject (document _)) = true
    simp [isObject, document, Json.asObj?]
  · rw [reads "mode" (by decide)]
    exact fun given => given.1 rfl
  · rw [statusIsValid, status]
    refine refuseIf_eq_ok.mpr ?_
    rw [reads _ (by decide)]
    show ¬oneOf (.str reported.status) statuses = false
    simp [oneOf, known]

/-- The record of a report can be built exactly when the report fits into it. -/
theorem newResult_iff (acted : Acted executor workflow candidate action)
    (declared : Declared workflow) (listed : recordType ∈ resultTypes)
    (timed : recordedAt ≠ "") (finite : Json.isFiniteText result.durationSeconds = true)
    (keyed : KeyedReport reported) :
    (∃ record, newRecord executor.hashing recordType
      (Dict.update [] (executor.resultFields workflow candidate action session result reported
        recordedAt)) = .ok record) ↔ Recordable reported := by
  obtain ⟨-, -, identityField, identityPrefix, statusField, strings, -⟩ :=
    resultTypes_alike listed
  have stored := (acceptable_update_iff resultFields_distinct).trans
    (@resultFields_storable_iff executor workflow candidate action recordedAt session result
      reported acted finite)
  constructor
  · rintro ⟨record, h⟩
    obtain ⟨htype, reads⟩ := newRecord_get h
    have valid := newRecord_valid h
    have read : ∀ name, name ≠ "record_type" → name ≠ "schema_version" →
        name ≠ "output_identity" → record.get name = field (executor.resultFields workflow
          candidate action session result reported recordedAt) name := by
      intro name notType notVersion other
      rw [reads name notType notVersion
        (fun same => other (Option.some.inj (identityField.symm.trans same)).symm),
        field_update resultFields_distinct]
    obtain ⟨status, known, hstatus⟩ := valid.status (by rw [htype]; exact statusField)
    obtain ⟨method, named, hmethod⟩ := valid.text "method" (by rw [htype, strings]; decide)
    rw [← ForgeRecord.get_eq_field (by decide) (by decide),
      read "status" (by decide) (by decide) (by decide)] at hstatus
    rw [read "method" (by decide) (by decide) (by decide)] at hmethod
    obtain rfl := Json.str.inj hstatus
    obtain rfl := Json.str.inj hmethod
    rw [newRecord, refuseIf_bind_eq_ok, bind_eq_ok] at h
    obtain ⟨-, _, hobject, -⟩ := h
    obtain ⟨-, acceptable⟩ := (jsonObject_eq_ok (keyed_update resultFields_distinct
      (resultFields_keyed acted keyed))).mp hobject
    obtain ⟨provider, witnesses, limitations, unsupported⟩ := stored.mp acceptable
    exact ⟨known, named, provider, witnesses, limitations, unsupported⟩
  · intro fits
    have acceptable := stored.mpr
      ⟨fits.provider, fits.witnesses, fits.limitations, fits.unsupported⟩
    refine newRecord_returns identityField identityPrefix (by decide) ⟨?_, ?_⟩ acceptable ?_
      fun text identity =>
        resultFields_valid acted declared listed timed fits.status fits.method identity
    · rw [Dict.mem_keys_update, resultFields_keys]
      decide
    · rw [Dict.mem_keys_update, resultFields_keys]
      decide
    · rw [field_update resultFields_distinct]
      rfl

end Results

/-! ## What may be reported -/

/-- `list` takes the value. -/
def Iterable : Json → Prop
  | .arr _ | .str _ | .obj _ => True
  | _ => False

/-- A record takes the first twenty items of the value; characters and keys are texts. -/
def Listed : Json → Prop
  | .arr items => Storable (.arr (items.take 20))
  | .str _ | .obj _ => True
  | _ => False

/-- The member that `list` is called on. -/
def listed (fields : Dict String Json) (name : String) : Json :=
  (Dict.get? fields name).getD (.arr [])

theorem iterable_iff {value : Json} : Iterable value ↔ ∃ items, listOf value = .ok items := by
  cases value <;> simp [Iterable, listOf]

theorem listed_iff {value : Json} :
    Listed value ↔ ∃ items, listOf value = .ok items ∧ Storable (.arr (items.take 20)) := by
  cases value with
  | arr items => simp [Listed, listOf]
  | str text =>
      have stored := storable_texts ((text.toList.map String.singleton).take 20)
      rw [texts, ← List.map_take, List.map_map] at stored
      simpa [Listed, listOf, Function.comp_def] using stored
  | obj fields =>
      have stored := storable_texts ((Dict.keys fields).take 20)
      rw [texts, List.map_take] at stored
      simpa [Listed, listOf] using stored
  | _ => simp [Listed, listOf]

/-- The lists of a report can be taken over; of withheld witnesses no item is. -/
structure ListsFit (withheld : Prop) (witnesses limitations unsupported : Json) : Prop where
  iterable : Iterable witnesses
  witnesses : ¬withheld → Listed witnesses
  limitations : Listed limitations
  unsupported : Listed unsupported

/-- A status-only evaluator discloses no witnesses. -/
def Withholds (workflow : Workflow) (evaluator : Bool) : Prop :=
  evaluator = true ∧ workflow.disclosure = "status-only"

theorem listsFit_iff {withheld : Prop} {first second third : Json} :
    ListsFit withheld first second third ↔
      ∃ witnesses limitations unsupported, listOf first = .ok witnesses ∧
        listOf second = .ok limitations ∧ listOf third = .ok unsupported ∧
        (¬withheld → Storable (.arr (witnesses.take 20))) ∧
        Storable (.arr (limitations.take 20)) ∧ Storable (.arr (unsupported.take 20)) := by
  constructor
  · rintro ⟨iterable, shown, hlimitations, hunsupported⟩
    obtain ⟨witnesses, taken⟩ := iterable_iff.mp iterable
    obtain ⟨limitations, taken', fits⟩ := listed_iff.mp hlimitations
    obtain ⟨unsupported, taken'', fits'⟩ := listed_iff.mp hunsupported
    refine ⟨witnesses, limitations, unsupported, taken, taken', taken'', ?_, fits, fits'⟩
    intro disclosed
    obtain ⟨items, same, stored⟩ := listed_iff.mp (shown disclosed)
    obtain rfl := Except.ok.inj (taken.symm.trans same)
    exact stored
  · rintro ⟨witnesses, limitations, unsupported, taken, taken', taken'', shown, fits, fits'⟩
    exact ⟨iterable_iff.mpr ⟨_, taken⟩, fun disclosed => listed_iff.mpr ⟨_, taken, shown disclosed⟩,
      listed_iff.mpr ⟨_, taken', fits⟩, listed_iff.mpr ⟨_, taken'', fits'⟩⟩

theorem recordable_disclose_iff {workflow : Workflow} {evaluator : Bool} {reported : Report} :
    Recordable (WorkflowExecutor.disclose workflow evaluator reported) ↔
      reported.status ∈ statuses ∧ reported.method ≠ "" ∧ Storable reported.provider ∧
        (¬Withholds workflow evaluator → Storable (.arr (reported.witnesses.take 20))) ∧
        Storable (.arr (reported.limitations.take 20)) ∧
        Storable (.arr (reported.unsupported.take 20)) := by
  by_cases withheld : evaluator = true ∧ workflow.disclosure = "status-only"
  · rw [WorkflowExecutor.disclose, if_pos withheld]
    have nothing : Storable (.arr []) := storable_texts []
    constructor
    · intro fits
      exact ⟨fits.status, fits.method, fits.provider, fun disclosed => absurd withheld disclosed,
        fits.limitations, fits.unsupported⟩
    · rintro ⟨status, method, provider, -, limitations, unsupported⟩
      exact ⟨status, method, provider, nothing, limitations, unsupported⟩
  · rw [WorkflowExecutor.disclose, if_neg withheld]
    constructor
    · intro fits
      exact ⟨fits.status, fits.method, fits.provider, fun _ => fits.witnesses,
        fits.limitations, fits.unsupported⟩
    · rintro ⟨status, method, provider, witnesses, limitations, unsupported⟩
      exact ⟨status, method, provider, witnesses withheld, limitations, unsupported⟩

/-- A response of the protocol that a record can be made of. -/
structure ResponseFits (withheld : Prop) (response : Dict String Json) : Prop where
  status : statusText response ∈ statuses
  provider : Storable (field response "provider")
  lists : ListsFit withheld (listed response "witnesses") (listed response "limitations")
    (listed ((field response "extensions").asObj?.getD []) "unsupported")

theorem protocolReport_fits {workflow : Workflow} {evaluator : Bool}
    {response : Dict String Json} (envelope : ResponseEnvelope response) :
    (∃ reported, protocolReport response = .ok reported ∧
      Recordable (WorkflowExecutor.disclose workflow evaluator reported)) ↔
      ResponseFits (Withholds workflow evaluator) response := by
  obtain ⟨type, known, htype⟩ := envelope.type
  have named : (field response "type").display ≠ "" := by
    rw [htype]
    rintro rfl
    exact absurd known (by decide)
  simp only [protocolReport, listField, bind_eq_ok, Except.ok.injEq]
  constructor
  · rintro ⟨reported, ⟨witnesses, taken, limitations, taken', unsupported, taken'', rfl⟩, fits⟩
    obtain ⟨status, -, provider, shown, fits, fits'⟩ := recordable_disclose_iff.mp fits
    exact ⟨status, provider, listsFit_iff.mpr
      ⟨witnesses, limitations, unsupported, taken, taken', taken'', shown, fits, fits'⟩⟩
  · rintro ⟨status, provider, lists⟩
    obtain ⟨witnesses, limitations, unsupported, taken, taken', taken'', shown, fits, fits'⟩ :=
      listsFit_iff.mp lists
    exact ⟨_, ⟨witnesses, taken, limitations, taken', unsupported, taken'', rfl⟩,
      recordable_disclose_iff.mpr ⟨status, named, provider, shown, fits, fits'⟩⟩

namespace OutputReader

variable (reader : OutputReader)

/-- The output is an object that states a status. -/
def Emits (stdout : List UInt8) (value : Dict String Json) : Prop :=
  stdout ≠ [] ∧ ∃ text, reader.decodeDetected stdout = some text ∧
    reader.loads text = .ok (.obj value) ∧
    ∃ status ∈ statuses, field value "status" = .str status

/-- The status the classifier is given of the output. -/
def States (stdout : List UInt8) : Option String → Prop
  | none => ∀ value, ¬reader.Emits stdout value
  | some status => ∃ value, reader.Emits stdout value ∧ field value "status" = .str status

/-- The output of a plain command that a record can be made of. -/
structure CommandFits (executor : WorkflowExecutor) (withheld : Prop) (returncode : Int)
    (stdout : List UInt8) : Prop where
  bounded : stdout ≠ [] → ∀ text, reader.decodeDetected stdout = some text →
    ¬reader.interpreter.Exceeds text
  classified : ∀ reported, reader.States stdout reported →
    ∃ status ∈ statuses,
      executor.executionResultClassifier (some returncode) reported = .ok status
  lists : returncode = 0 → ∀ value, reader.Emits stdout value →
    ListsFit withheld (listed value "witnesses") (listed value "limitations")
      (listed value "unsupported_constructs")

/-- The output of a provider that a record can be made of, or that is refused as the
provider's fault. -/
def ProviderFits (withheld : Prop) (stdout : List UInt8) : Prop :=
  ∀ text line, decodeUtf8? stdout = some text → splitlines text = [line] → line ≠ "" →
    ¬reader.interpreter.Exceeds line ∧
      ∀ response, reader.loads line = .ok (.obj response) →
        ¬HasUnhashableType response ∧
          (ResponseEnvelope response → ResponseFits withheld response)

variable {reader} {executor : WorkflowExecutor} {workflow : Workflow} {evaluator : Bool}
  {stdout : List UInt8} {returncode : Int}

theorem checkLimits_iff :
    reader.checkLimits stdout = .ok () ↔ (stdout ≠ [] →
      ∀ text, reader.decodeDetected stdout = some text →
        ¬reader.interpreter.Exceeds text) := by
  unfold checkLimits Interpreter.Exceeds
  by_cases silent : stdout = []
  · simp [silent]
  · rw [if_neg silent]
    cases decoded : reader.decodeDetected stdout with
    | none => simp
    | some text =>
        simp only [Option.map_some, loads, Option.some.injEq]
        cases loaded : JsonText.loads reader.interpreter.dialect text.toList with
        | ok value => simp [silent, loaded]
        | error e => cases e <;> simp [silent, loaded]

theorem structuredResult_eq_some {other : Decoders} {value : Dict String Json} :
    { executor with decoders := reader.decoders other }.structuredResult stdout = some value ↔
      reader.Emits stdout value := by
  unfold WorkflowExecutor.structuredResult Emits
  by_cases silent : stdout = []
  · simp [silent]
  · simp only [if_neg silent, decoders]
    cases decoded : reader.decodeDetected stdout with
    | none => simp
    | some text =>
        cases loaded : reader.loads text with
        | error e => simp [Except.toOption, loaded]
        | ok value =>
            cases value with
            | obj fields =>
                simp only [Option.bind_some, loaded, Except.toOption]
                by_cases stated : oneOf (field fields "status") statuses = true
                · have known := oneOf_iff.mp stated
                  simp only [stated, if_true, Option.some.injEq]
                  constructor
                  · rintro rfl
                    exact ⟨silent, text, rfl, loaded, known⟩
                  · rintro ⟨-, text, rfl, same, -⟩
                    exact Json.obj.inj (Except.ok.inj (loaded.symm.trans same))
                · simp only [stated, if_false, reduceCtorEq, false_iff]
                  rintro ⟨-, _, found, same, known⟩
                  obtain rfl := Option.some.inj found
                  obtain rfl := Json.obj.inj (Except.ok.inj (loaded.symm.trans same))
                  exact stated (oneOf_iff.mpr known)
            | _ => simp [Except.toOption, loaded]

/-- The one status that the output states. -/
theorem exists_states (reader : OutputReader) (executor : WorkflowExecutor)
    (stdout : List UInt8) :
    ∀ reported, reader.States stdout reported ↔
      reported = ({ executor with decoders := reader.decoders executor.decoders
        }.structuredResult stdout).bind fun value => (field value "status").asStr? := by
  intro reported
  cases found : { executor with decoders := reader.decoders executor.decoders
    }.structuredResult stdout with
  | none =>
      have silent : ∀ value, ¬reader.Emits stdout value := fun value emitted => by
        rw [structuredResult_eq_some.mpr emitted] at found
        cases found
      cases reported with
      | none => simpa [States] using silent
      | some status => simp [States, silent]
  | some value =>
      have emitted := structuredResult_eq_some.mp found
      obtain ⟨-, _, -, -, status, -, hstatus⟩ := id emitted
      have only : ∀ other, reader.Emits stdout other → other = value := fun other h => by
        rw [structuredResult_eq_some.mpr h] at found
        exact Option.some.inj found
      rw [Option.bind_some, hstatus]
      cases reported with
      | none => simpa [States, Json.asStr?] using ⟨value, emitted⟩
      | some stated =>
          simp only [States, Json.asStr?, Option.some.injEq]
          constructor
          · rintro ⟨other, h, same⟩
            obtain rfl := only other h
            exact Json.str.inj (same.symm.trans hstatus)
          · rintro rfl
            exact ⟨value, emitted, hstatus⟩

theorem storable_declared {workflow : Workflow} :
    Storable (document
      [("id", .str ((workflow.providerId.filter (· ≠ "")).getD workflow.name)),
       ("kind", .str "declared-workflow")]) := by
  refine storable_document (by simp) ?_
  simp only [List.mem_cons, List.not_mem_nil, or_false, forall_eq_or_imp, forall_eq]
  exact ⟨⟨trivial, by simp [Json.height]⟩, trivial, by simp [Json.height]⟩

theorem storable_exitCode :
    Storable (.arr [document [("exit_code", .int returncode)]]) := by
  constructor
  · exact ⟨⟨List.pairwise_singleton _ _, trivial, trivial⟩, trivial⟩
  · show Json.height (.arr [.obj [("exit_code", .int returncode)]]) ≤ 63
    simp [Json.height, Json.heightItems, Json.heightFields]

theorem commandReport_fits :
    (∃ reported, { executor with decoders := reader.decoders executor.decoders }.commandReport
        workflow returncode stdout = .ok reported ∧
      Recordable (WorkflowExecutor.disclose workflow evaluator reported)) ↔
      (∀ reported, reader.States stdout reported → ∃ status ∈ statuses,
        executor.executionResultClassifier (some returncode) reported = .ok status) ∧
      (returncode = 0 → ∀ value, reader.Emits stdout value →
        ListsFit (Withholds workflow evaluator) (listed value "witnesses")
          (listed value "limitations") (listed value "unsupported_constructs")) := by
  have nothing : Storable (.arr []) := storable_texts []
  have named : "declared-command" ≠ "" := by decide
  simp only [exists_states reader executor, forall_eq, WorkflowExecutor.commandReport, bind_eq_ok,
    ← @structuredResult_eq_some reader executor stdout executor.decoders]
  by_cases done : returncode = 0
  · cases { executor with decoders := reader.decoders executor.decoders
      }.structuredResult stdout with
    | none =>
        simp only [done, ne_eq, not_true_eq_false, if_false, Except.ok.injEq, reduceCtorEq,
          false_implies, implies_true, and_true, Option.bind_none]
        constructor
        · rintro ⟨reported, ⟨status, classified, rfl⟩, fits⟩
          exact ⟨status, (recordable_disclose_iff.mp fits).1, classified⟩
        · rintro ⟨status, known, classified⟩
          exact ⟨_, ⟨status, classified, rfl⟩, recordable_disclose_iff.mpr
            ⟨known, named, storable_declared, fun _ => nothing, storable_texts [_], nothing⟩⟩
    | some value =>
        simp only [done, ne_eq, not_true_eq_false, if_false, Option.some.injEq, forall_eq',
          true_implies, Option.bind_some, listField, bind_eq_ok, Except.ok.injEq]
        constructor
        · rintro ⟨reported, ⟨status, classified, witnesses, taken, limitations, taken',
            unsupported, taken'', rfl⟩, fits⟩
          obtain ⟨known, -, -, shown, fits, fits'⟩ := recordable_disclose_iff.mp fits
          exact ⟨⟨status, known, classified⟩, listsFit_iff.mpr
            ⟨witnesses, limitations, unsupported, taken, taken', taken'', shown, fits, fits'⟩⟩
        · rintro ⟨⟨status, known, classified⟩, lists⟩
          obtain ⟨witnesses, limitations, unsupported, taken, taken', taken'', shown, fits,
            fits'⟩ := listsFit_iff.mp lists
          exact ⟨_, ⟨status, classified, witnesses, taken, limitations, taken', unsupported,
            taken'', rfl⟩, recordable_disclose_iff.mpr
              ⟨known, named, storable_declared, shown, fits, fits'⟩⟩
  · simp only [done, ne_eq, not_false_eq_true, if_true, Except.ok.injEq, false_implies, and_true]
    constructor
    · rintro ⟨reported, ⟨status, classified, rfl⟩, fits⟩
      exact ⟨status, (recordable_disclose_iff.mp fits).1, classified⟩
    · rintro ⟨status, known, classified⟩
      exact ⟨_, ⟨status, classified, rfl⟩, recordable_disclose_iff.mpr
        ⟨known, named, storable_declared, fun _ => storable_exitCode, nothing, nothing⟩⟩

/-- The output of a finished command that a record can be made of, or that is refused
as the fault of its author. -/
def OutputFits (reader : OutputReader) (executor : WorkflowExecutor) (workflow : Workflow)
    (evaluator : Bool) (returncode : Int) (stdout : List UInt8) : Prop :=
  if workflow.providerProtocol then
    returncode = 0 → reader.ProviderFits (Withholds workflow evaluator) stdout
  else reader.CommandFits executor (Withholds workflow evaluator) returncode stdout

/-- The response of a provider is reported or refused. -/
theorem readLine_fits {line : String} :
    ((∀ e, reader.interpreter.readLine line = .error e → IsProviderError e) ∧
      ∀ response, reader.interpreter.readLine line = .ok response →
        ∃ reported, protocolReport response = .ok reported ∧
          Recordable (WorkflowExecutor.disclose workflow evaluator reported)) ↔
      ¬reader.interpreter.Exceeds line ∧
        ∀ response, reader.loads line = .ok (.obj response) → ¬HasUnhashableType response ∧
          (ResponseEnvelope response → ResponseFits (Withholds workflow evaluator) response) := by
  simp only [Interpreter.readLine_errors, Interpreter.readLine_eq_ok, Interpreter.Admits]
  constructor
  · rintro ⟨⟨bounded, hashed⟩, fits⟩
    exact ⟨bounded, fun response loaded => ⟨hashed response loaded, fun envelope =>
      (protocolReport_fits envelope).mp (fits response ⟨loaded, envelope⟩)⟩⟩
  · rintro ⟨bounded, answered⟩
    refine ⟨⟨bounded, fun response loaded => (answered response loaded).1⟩, ?_⟩
    rintro response ⟨loaded, envelope⟩
    exact (protocolReport_fits envelope).mpr ((answered response loaded).2 envelope)

/-- A finished command is reported or refused, and what is reported fits into a record. -/
def Reports (evaluator : Bool) (workflow : Workflow)
    (outcome : Except ForgeError (Except ForgeError Report)) : Prop :=
  ∃ kept, outcome = .ok kept ∧ ∀ reported, kept = .ok reported →
    Recordable (WorkflowExecutor.disclose workflow evaluator reported)

/-- A refused output is reported as its author's fault. -/
theorem providerFits_of_refused {stdout : List UInt8} {withheld : Prop}
    (refused : ∀ text line, decodeUtf8? stdout = some text → splitlines text = [line] →
      line = "") : reader.ProviderFits withheld stdout :=
  fun text line decoded single filled => absurd (refused text line decoded single) filled

theorem parse_fits {stdout : List UInt8} :
    ((∀ e, reader.interpreter.parseProviderResponse stdout = .error e → IsProviderError e) ∧
      ∀ response, reader.interpreter.parseProviderResponse stdout = .ok response →
        ∃ reported, protocolReport response = .ok reported ∧
          Recordable (WorkflowExecutor.disclose workflow evaluator reported)) ↔
      reader.ProviderFits (Withholds workflow evaluator) stdout := by
  cases decoded : decodeUtf8? stdout with
  | none =>
      have refused : reader.interpreter.parseProviderResponse stdout =
          .error ⟨"PROVIDER_FRAMING", "provider stdout is not UTF-8"⟩ := by
        simp [Interpreter.parseProviderResponse, decoded]
      refine iff_of_true ?_ (providerFits_of_refused (by simp [decoded]))
      simp [refused, IsProviderError]
  | some text =>
      by_cases unframed : (splitlines text).length ≠ 1 ∨ (splitlines text).head?.getD "" = ""
      · have refused := reader.interpreter.parseProviderResponse_of_unframed decoded unframed
        refine iff_of_true (by simp [refused, IsProviderError]) (providerFits_of_refused ?_)
        intro other line found single
        obtain rfl := Option.some.inj (decoded.symm.trans found)
        simpa [single] using unframed
      · rw [not_or, not_not] at unframed
        obtain ⟨line, single⟩ := List.length_eq_one_iff.mp unframed.1
        have filled : line ≠ "" := by simpa [single] using unframed.2
        rw [reader.interpreter.parseProviderResponse_of_line decoded single filled, readLine_fits]
        constructor
        · intro fits other same found alone _
          obtain rfl := Option.some.inj (decoded.symm.trans found)
          obtain rfl := List.singleton_inj.mp (single.symm.trans alone)
          exact fits
        · intro fits
          exact fits text line decoded single filled

theorem report_fits {session : ExecutionSession} {result : ExecutionResult} :
    Reports evaluator workflow (reader.report executor workflow session result) ↔
      reader.OutputFits executor workflow evaluator result.returncode session.stdout := by
  unfold report OutputFits Reports
  by_cases protocol : workflow.providerProtocol = true
  · rw [if_pos protocol, if_pos protocol]
    by_cases done : result.returncode = 0
    · simp only [done, ne_eq, not_true_eq_false, if_false, true_implies, ← parse_fits]
      cases parsed : reader.interpreter.parseProviderResponse session.stdout with
      | error e =>
          by_cases refused : IsProviderError e <;> simp [refused]
      | ok response =>
          simp only [bind_eq_ok, Except.ok.injEq, reduceCtorEq, false_implies, implies_true,
            true_and, forall_eq']
          constructor
          · rintro ⟨_, ⟨reported, hreported, rfl⟩, fits⟩
            exact ⟨reported, hreported, fits reported rfl⟩
          · rintro ⟨reported, hreported, fits⟩
            refine ⟨_, ⟨reported, hreported, rfl⟩, ?_⟩
            rintro _ ⟨⟩
            exact fits
    · simp [done]
  · rw [if_neg protocol, if_neg protocol]
    constructor
    · rintro ⟨kept, h, fits⟩
      obtain ⟨_, bounded, h⟩ := bind_eq_ok.mp h
      obtain ⟨reported, hreported, h⟩ := bind_eq_ok.mp h
      obtain ⟨classified, lists⟩ := commandReport_fits.mp
        ⟨reported, hreported, fits reported (Except.ok.inj h).symm⟩
      exact ⟨checkLimits_iff.mp bounded, classified, lists⟩
    · rintro ⟨bounded, classified, lists⟩
      obtain ⟨reported, hreported, fits⟩ := commandReport_fits.mpr ⟨classified, lists⟩
      refine ⟨.ok reported, bind_eq_ok.mpr ⟨(), checkLimits_iff.mpr bounded, bind_eq_ok.mpr
        ⟨reported, hreported, rfl⟩⟩, ?_⟩
      rintro _ ⟨⟩
      exact fits

end OutputReader

/-! ## What is read keeps its keys in order -/

theorem member_keyed {fields : Dict String Json} (h : (Json.obj fields).Keyed) {name : String}
    {default : Json} (hdefault : default.Keyed) :
    ((Dict.get? fields name).getD default).Keyed := by
  cases found : Dict.get? fields name with
  | none => exact hdefault
  | some value => exact (Json.keyed_obj_iff.mp h).2 _ (Dict.mem_of_get?_eq_some found)

theorem listField_keyed {fields : Dict String Json} (h : (Json.obj fields).Keyed) {name : String}
    {items : List Json} (taken : listField fields name = .ok items) :
    ∀ item ∈ items, item.Keyed := by
  have keyed : (listed fields name).Keyed := member_keyed h trivial
  rw [listField, ← listed] at taken
  cases value : listed fields name with
  | arr values =>
      rw [value] at taken keyed
      obtain rfl := Except.ok.inj taken
      exact JsonText.keyedItems_iff.mp keyed
  | str text =>
      rw [value] at taken
      obtain rfl := Except.ok.inj taken
      intro item member
      obtain ⟨_, -, rfl⟩ := List.mem_map.mp member
      trivial
  | obj members =>
      rw [value] at taken
      obtain rfl := Except.ok.inj taken
      intro item member
      obtain ⟨_, -, rfl⟩ := List.mem_map.mp member
      trivial
  | _ =>
      rw [value] at taken
      cases taken

theorem protocolReport_keyed {response : Dict String Json} (h : (Json.obj response).Keyed)
    {reported : Report} (hreported : protocolReport response = .ok reported) :
    KeyedReport reported := by
  have extensions : (Json.obj ((field response "extensions").asObj?.getD [])).Keyed := by
    have keyed : (field response "extensions").Keyed := member_keyed h trivial
    cases value : field response "extensions" with
    | obj members =>
        rw [value] at keyed
        exact keyed
    | _ => exact JsonText.keyed_nil
  simp only [protocolReport, bind_eq_ok, Except.ok.injEq] at hreported
  obtain ⟨witnesses, taken, limitations, taken', unsupported, taken'', rfl⟩ := hreported
  exact ⟨member_keyed h trivial, listField_keyed h taken, listField_keyed h taken',
    listField_keyed extensions taken''⟩

namespace OutputReader

variable {reader : OutputReader} {executor : WorkflowExecutor} {workflow : Workflow}
  (floats : ∀ text, (reader.interpreter.float text).Keyed)
include floats

theorem loads_keyed {text : String} {value : Json} (h : reader.loads text = .ok value) :
    value.Keyed :=
  @JsonText.loads_keyed reader.interpreter.dialect floats text.toList value h

theorem commandReport_keyed {returncode : Int} {stdout : List UInt8} {reported : Report}
    (h : { executor with decoders := reader.decoders executor.decoders }.commandReport
      workflow returncode stdout = .ok reported) : KeyedReport reported := by
  obtain ⟨status, -, h⟩ := bind_eq_ok.mp h
  have declared := (@storable_declared workflow).wellFormed.keyed
  have nothing : ∀ item ∈ ([] : List Json), item.Keyed := List.forall_mem_nil _
  by_cases done : returncode = 0
  · rw [if_neg (not_not.mpr done)] at h
    cases found : { executor with decoders := reader.decoders executor.decoders
      }.structuredResult stdout with
    | none =>
        rw [found] at h
        obtain rfl := Except.ok.inj h
        refine ⟨declared, nothing, ?_, nothing⟩
        simp only [List.mem_singleton, forall_eq]
        trivial
    | some value =>
        rw [found] at h
        obtain ⟨-, text, -, loaded, -⟩ := structuredResult_eq_some.mp found
        have keyed := loads_keyed floats loaded
        simp only [bind_eq_ok, Except.ok.injEq] at h
        obtain ⟨witnesses, taken, limitations, taken', unsupported, taken'', rfl⟩ := h
        exact ⟨declared, listField_keyed keyed taken, listField_keyed keyed taken',
          listField_keyed keyed taken''⟩
  · rw [if_pos done] at h
    obtain rfl := Except.ok.inj h
    refine ⟨declared, ?_, nothing, nothing⟩
    have exited := (@storable_exitCode returncode).wellFormed.keyed
    exact JsonText.keyedItems_iff.mp exited

theorem parsed_keyed {stdout : List UInt8} {response : Dict String Json}
    (h : reader.interpreter.parseProviderResponse stdout = .ok response) :
    (Json.obj response).Keyed := by
  unfold Interpreter.parseProviderResponse at h
  split at h
  · cases h
  · rw [refuseIf_bind_eq_ok, Interpreter.readLine_eq_ok] at h
    exact loads_keyed floats h.2.1

theorem report_keyed {session : ExecutionSession} {result : ExecutionResult} {reported : Report}
    (h : reader.report executor workflow session result = .ok (.ok reported)) :
    KeyedReport reported := by
  unfold report at h
  by_cases protocol : workflow.providerProtocol = true
  · rw [if_pos protocol] at h
    by_cases done : result.returncode = 0
    · rw [if_neg (not_not.mpr done)] at h
      cases parsed : reader.interpreter.parseProviderResponse session.stdout with
      | error e =>
          rw [parsed] at h
          by_cases refused : IsProviderError e <;> simp [refused] at h
      | ok response =>
          rw [parsed] at h
          obtain ⟨_, hreported, same⟩ := bind_eq_ok.mp h
          obtain rfl := Except.ok.inj (Except.ok.inj same)
          exact protocolReport_keyed (parsed_keyed floats parsed) hreported
    · rw [if_pos done] at h
      cases Except.ok.inj h
  · rw [if_neg protocol] at h
    obtain ⟨_, -, h⟩ := bind_eq_ok.mp h
    obtain ⟨_, hreported, same⟩ := bind_eq_ok.mp h
    obtain rfl := Except.ok.inj (Except.ok.inj same)
    exact commandReport_keyed floats hreported

end OutputReader

/-! ## Executions -/

/-- The output of the session, when there is one, fits. -/
def Answerable (reader : OutputReader) (executor : WorkflowExecutor) (workflow : Workflow)
    (evaluator : Bool) (session : ExecutionSession) : Prop :=
  session.errorCode = none → ∀ result, session.result = some result →
    reader.OutputFits executor workflow evaluator result.returncode session.stdout

/-- A record store that takes every record and keeps what it has. -/
structure TakesRecords (commit : RecordCommitter) : Prop where
  takes : ∀ history group kind record, ∃ after, commit history group kind record = .ok after
  publishes : EvaluationService.Publishes commit
  keeps : ∀ history group kind record after, commit history group kind record = .ok after →
    ∀ other ∈ history, other ∈ after

section Settling

variable {reader : OutputReader} {executor : WorkflowExecutor} {workflow : Workflow}
  {candidate action : ForgeRecord} {evaluator : Bool} {recordType : RecordType}
  {times : WorkflowExecutor.Times} {session : ExecutionSession}

theorem disclose_keyed {reported : Report} (keyed : KeyedReport reported) :
    KeyedReport (WorkflowExecutor.disclose workflow evaluator reported) := by
  unfold WorkflowExecutor.disclose
  split_ifs
  · exact ⟨keyed.provider, List.forall_mem_nil _, keyed.limitations, keyed.unsupported⟩
  · exact keyed

/-- An execution is settled when its output fits, and raises when it does not. -/
theorem answerable_settles (floats : ∀ text, (reader.interpreter.float text).Keyed)
    (acts : executor.action workflow candidate times.requestedAt times.requestAt = .ok action)
    (declared : Declared workflow) (listed : recordType ∈ resultTypes)
    (timed : times.recordedAt ≠ "")
    (finite : ∀ result, session.result = some result →
      Json.isFiniteText result.durationSeconds = true) :
    ((∃ execution, executor.executeReading reader workflow candidate evaluator recordType times
        session = .ok execution) →
      Answerable reader executor workflow evaluator session) ∧
    (Answerable reader executor workflow evaluator session →
      ∃ execution, executor.executeReading reader workflow candidate evaluator recordType times
        session = .ok execution ∧ execution.action = action ∧
        Settled executor.hashing execution) := by
  have acted := acted_of_action acts
  simp only [WorkflowExecutor.executeReading, WorkflowExecutor.executeWith, acts, Answerable]
  cases failed : session.errorCode with
  | some code =>
      exact ⟨by simp, fun _ => ⟨_, rfl, rfl, Or.inr ⟨_, rfl, rfl⟩⟩⟩
  | none =>
      cases finished : session.result with
      | none =>
          exact ⟨by simp, fun _ => ⟨_, rfl, rfl, Or.inr ⟨_, rfl, rfl⟩⟩⟩
      | some result =>
          have makes : ∀ reported,
              reader.report executor workflow session result = .ok (.ok reported) →
              ((∃ record, newRecord executor.hashing recordType
                (Dict.update [] (executor.resultFields workflow candidate action session result
                  (WorkflowExecutor.disclose workflow evaluator reported) times.recordedAt)) =
                    .ok record) ↔
                Recordable (WorkflowExecutor.disclose workflow evaluator reported)) :=
            fun reported hreported => newResult_iff acted declared listed timed
              (finite result finished)
              (disclose_keyed (OutputReader.report_keyed floats hreported))
          simp only [true_implies, Option.some.injEq, forall_eq', ← OutputReader.report_fits]
          constructor
          · rintro ⟨execution, h⟩
            obtain ⟨_, same, h⟩ := bind_eq_ok.mp h
            obtain rfl := Except.ok.inj same
            obtain ⟨kept, hkept, h⟩ := bind_eq_ok.mp h
            refine ⟨kept, hkept, ?_⟩
            rintro reported rfl
            obtain ⟨record, made, -⟩ := bind_eq_ok.mp h
            exact (makes reported hkept).mp ⟨record, made⟩
          · rintro ⟨kept, hkept, fits⟩
            cases kept with
            | error e => exact ⟨_, by rw [hkept]; rfl, rfl, Or.inr ⟨e, rfl, rfl⟩⟩
            | ok reported =>
                obtain ⟨record, made⟩ := (makes reported hkept).mpr (fits reported rfl)
                have typed : refuseIf (record.recordType ∉ [.workflowResult, .finalEvaluation,
                    .bundle]) "INTERNAL_RECORD" "workflow produced an invalid record model" =
                      .ok () := by
                  rw [refuseIf_eq_ok, not_not, (newRecord_get made).1]
                  exact listed
                refine ⟨{ action := action, result := some record, session := session,
                          workflow := workflow, error := none
                          epochIdentity := (candidate.get "source_epoch").asStr? }, ?_, rfl,
                  Or.inl ⟨record, rfl, newRecord_valid made, rfl⟩⟩
                rw [hkept]
                simp only [bind, Except.bind, made, typed]

/-- A store that takes records is left with the action of an execution and its binding. -/
theorem mem_left_persistKept {hashing : Hashing} {calendar : Calendar} {config : ForgeConfig}
    {commit : RecordCommitter} (store : TakesRecords commit) {history : History}
    {execution : WorkflowExecution} {recordedAt : String}
    (unbound : bindingForAction history (textOf execution.action "action_id") = none) :
    execution.action ∈
        left (persistKept hashing calendar config commit history execution recordedAt) ∧
      ∀ binding, bindWorkflowExecution hashing calendar config execution recordedAt =
        .ok binding →
          binding ∈ left (persistKept hashing calendar config commit history execution
            recordedAt) := by
  obtain ⟨acted, hacted⟩ := store.takes history "workflow-actions" "workflow_action"
    execution.action
  have kept := store.publishes _ _ _ _ _ hacted
  have free : ∀ message, refuseIf ((bindingForAction history (textOf execution.action
      "action_id")).isSome = true) "RECEIPT_DUPLICATE" message = .ok () := by
    intro message
    rw [refuseIf_eq_ok, unbound]
    simp
  rw [persistKept, bind_of_ok (keeping_eq_ok.mpr (free _)),
    bind_of_ok (keeping_eq_ok.mpr hacted)]
  cases hbinding : bindWorkflowExecution hashing calendar config execution recordedAt with
  | error e => exact ⟨kept, by simp⟩
  | ok binding =>
      obtain ⟨bound, hbound⟩ := store.takes acted "execution-receipt-bindings"
        "execution_receipt_binding" binding
      have kept' := store.keeps _ _ _ _ _ hbound _ kept
      have made := store.publishes _ _ _ _ _ hbound
      rw [bind_of_ok (keeping_eq_ok.mpr rfl), bind_of_ok (keeping_eq_ok.mpr hbound)]
      have known : ∀ other, (.ok binding : Except ForgeError ForgeRecord) = .ok other →
          other ∈ bound := by
        intro other same
        obtain rfl := Except.ok.inj same
        exact made
      cases execution.result with
      | none => exact ⟨kept', known⟩
      | some result =>
          dsimp only
          cases resultCommitContext result.recordType with
          | none => exact ⟨kept', known⟩
          | some context =>
              obtain ⟨after, hafter⟩ := store.takes bound context.1 context.2 result
              have later := store.keeps _ _ _ _ _ hafter
              dsimp only
              rw [bind_of_ok (keeping_eq_ok.mpr hafter)]
              exact ⟨later _ kept', fun other same => later _ (known other same)⟩

/-- The history that an execution leaves, persisted or raised. -/
def historyAfter (reader : OutputReader) (executor : WorkflowExecutor) (calendar : Calendar)
    (commit : RecordCommitter) (workflow : Workflow) (candidate : ForgeRecord) (evaluator : Bool)
    (recordType : RecordType) (times : WorkflowExecutor.Times) (session : ExecutionSession)
    (history : History) : History :=
  left (keeping history (executor.executeReading reader workflow candidate evaluator recordType
    times session) >>= fun execution =>
      persistKept executor.hashing calendar executor.config commit history execution
        times.boundAt)

/-- Any store that takes records is left with the action and with its binding. -/
def Recorded (reader : OutputReader) (executor : WorkflowExecutor) (workflow : Workflow)
    (candidate : ForgeRecord) (evaluator : Bool) (recordType : RecordType)
    (times : WorkflowExecutor.Times) (session : ExecutionSession) (action : ForgeRecord) : Prop :=
  ∀ calendar commit history, TakesRecords commit →
    bindingForAction history (textOf action "action_id") = none →
    action ∈ historyAfter reader executor calendar commit workflow candidate evaluator recordType
        times session history ∧
      ∀ execution binding,
        executor.executeReading reader workflow candidate evaluator recordType times session =
          .ok execution →
        bindWorkflowExecution executor.hashing calendar executor.config execution times.boundAt =
          .ok binding →
        binding ∈ historyAfter reader executor calendar commit workflow candidate evaluator
          recordType times session history

end Settling

def sampleReader : OutputReader where
  interpreter := sampleInterpreter
  decodeDetected := decodeUtf8?

def sampleMaker : WorkflowExecutor := messageExecutor []

/-- The provider finished with the exit status and the output. -/
def finishedSession (returncode : Int) (stdout : List UInt8) : ExecutionSession where
  observation := sampleObservation 0
  stdout := stdout
  stderr := []
  result := some ⟨returncode, "0.5"⟩
  errorCode := none
  errorMessage := none

private theorem sample_acts : ∃ action, sampleMaker.action messageWorkflow
    Lifecycle.sampleCandidate messageTimes.requestedAt messageTimes.requestAt = .ok action :=
  exists_eq_ok (by decide +kernel)

private theorem sample_declared : Declared messageWorkflow := ⟨by decide, by decide⟩

private theorem sample_finite {returncode : Int} {stdout : List UInt8} :
    ∀ result, (finishedSession returncode stdout).result = some result →
      Json.isFiniteText result.durationSeconds = true := by
  rintro _ ⟨⟩
  show Json.isFiniteText "0.5" = true
  decide

private theorem sample_floats (text : String) :
    (sampleReader.interpreter.float text).Keyed := trivial

def nullWitnessResponse : Dict String Json :=
  [("extensions", .obj []), ("protocol_version", .str "0.1"), ("provider", .obj []),
   ("status", .str "UNKNOWN"), ("type", .str "analysis_response"), ("witnesses", .null)]

def nullWitnessText : String := (Json.obj nullWitnessResponse).canonicalText

end MncsForge.Application
