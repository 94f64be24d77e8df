import Mathlib
import MncsForge.Application.Evidence
import MncsForge.Application.Workflows
import MncsForge.Lifecycle.Runs

/-!
# Evaluator runs

A frozen candidate is evaluated workflow by workflow, and the caller is handed a
summary: for each workflow its status, and the receipts of the executions.  Two
runs that meet the same project and the same statuses are compared here, for
what the summary discloses of the providers' output beyond the status.
-/

namespace MncsForge.Application

open MncsForge.Foundation MncsForge.Records
open Lifecycle (History World ForgeStateMachine textOf sampleWorld sampleHistory)

/-- The injected parts of `EvaluationService`. -/
structure EvaluationService where
  workflows : WorkflowExecutor
  calendar : Calendar
  commit : RecordCommitter
  nativeStatusAggregate : Option (List String → Except ForgeError String)

/-- What the providers and the clock answer in one run, execution by execution. -/
structure Surroundings where
  session : Nat → ExecutionSession
  times : Nat → WorkflowExecutor.Times

structure EvaluationResult where
  workflow : Json
  status : Json
  limitations : Json
  outputIdentity : Json
  deriving DecidableEq

structure EvaluationSummary where
  freezeId : Json
  candidateIdentity : Json
  results : List EvaluationResult
  executionReceipts : List BindingSummary
  aggregateStatus : String
  repairFeedbackWithheld : Bool := true
  dominance : String := "FAIL > UNKNOWN > PASS"
  deriving DecidableEq

/-- `aggregate_status`. -/
def statusAggregate (native : Option (List String → Except ForgeError String))
    (values : List String) : Except ForgeError String :=
  let values := values.filter (· ∈ statuses)
  if values = [] then .ok "UNKNOWN"
  else
    match native with
    | some aggregate => do
        let result ← aggregate values
        refuseIf (result ∉ statuses) "NATIVE_STATUS_UNKNOWN"
          "native status aggregate is not recognized"
        .ok result
    | none => .ok (aggregateStatus values).value

def evaluationResult (record : ForgeRecord) : EvaluationResult where
  workflow := record.get "workflow"
  status := record.get "status"
  limitations := record.get "limitations"
  outputIdentity := record.get "output_identity"

namespace EvaluationService

variable (service : EvaluationService) (observed : Nat → Except ForgeError World)
  (surroundings : Surroundings)

/-- `lifecycle.machine(...).authorize_evaluator_entry()` at a look at the project. -/
def evaluatorEntry (look : Nat) (history : History) :
    Except ForgeError (ForgeRecord × ForgeRecord) := do
  let world ← observed look
  let machine ← ForgeStateMachine.build world history
  machine.authorizeEvaluatorEntry none

def verifyFreeze (look : Nat) (history : History) (freeze : ForgeRecord) :
    Except ForgeError Unit := do
  let entry ← evaluatorEntry observed look history
  refuseIf (entry.1.get "freeze_id" ≠ freeze.get "freeze_id") "FREEZE_SUPERSEDED"
    "freeze is not the current lifecycle freeze"

/-- One turn of the loop of `run`; the project is looked at five times in it. -/
def evaluate (freeze candidate : ForgeRecord) (index : Nat) (history : History)
    (name : String) : Except ForgeError ((ForgeRecord × ForgeRecord) × History) := do
  let workflow ← service.workflows.workflow name "evaluator"
  let before ← observed (5 * index + 1)
  let candidateBefore ← observed (5 * index + 2)
  let execution ← service.workflows.execute workflow candidate true .finalEvaluation
    (surroundings.times index) (surroundings.session index)
  let persisted ← persistWorkflowExecution service.workflows.hashing service.calendar
    service.workflows.config service.commit history execution
    (surroundings.times index).boundAt
  match execution.error, execution.result with
  | some e, _ => .error e
  | none, none =>
      .error ⟨"INTERNAL_RECORD", "evaluation produced an invalid record model"⟩
  | none, some result => do
      refuseIf (result.recordType ≠ .finalEvaluation) "INTERNAL_RECORD"
        "evaluation produced an invalid record model"
      let after ← observed (5 * index + 3)
      refuseIf (before.currentAuthorityIdentities ≠ after.currentAuthorityIdentities)
        "EVALUATION_DRIFT" "authority files changed during evaluation"
      let candidateAfter ← observed (5 * index + 4)
      refuseIf
        (candidateBefore.currentCandidateIdentity ≠ candidateAfter.currentCandidateIdentity)
        "EVALUATION_DRIFT" "candidate changed during evaluation"
      verifyFreeze observed (5 * index + 5) persisted.2 freeze
      .ok ((result, persisted.1), persisted.2)

/-- The loop of `run`: the results with their bindings. -/
def evaluateAll (freeze candidate : ForgeRecord) :
    Nat → History → List String → Except ForgeError (List (ForgeRecord × ForgeRecord))
  | _, _, [] => .ok []
  | index, history, name :: names => do
      let evaluated ← evaluate service observed surroundings freeze candidate index history name
      let rest ← evaluateAll freeze candidate (index + 1) evaluated.2 names
      .ok (evaluated.1 :: rest)

def run (history : History) (names : List String) : Except ForgeError EvaluationSummary := do
  let entry ← evaluatorEntry observed 0 history
  let results ← evaluateAll service observed surroundings entry.1 entry.2 0 history names
  let aggregate ← statusAggregate service.nativeStatusAggregate
    (results.map fun result => textOf result.1 "status")
  .ok
    { freezeId := entry.1.get "freeze_id"
      candidateIdentity := entry.1.get "candidate_identity"
      results := results.map fun result => evaluationResult result.1
      executionReceipts := results.map fun result => summarizeBinding result.2
      aggregateStatus := aggregate }

end EvaluationService

/-! ## What a summary discloses -/

/-- The result apart from its record identity. -/
def EvaluationResult.disclosed (result : EvaluationResult) : EvaluationResult :=
  { result with outputIdentity := .null }

/-- The summary apart from the identities of records and receipts. -/
def EvaluationSummary.disclosed (summary : EvaluationSummary) : EvaluationSummary :=
  { summary with
    results := summary.results.map EvaluationResult.disclosed
    executionReceipts := summary.executionReceipts.map BindingSummary.disclosed }

namespace EvaluationService

variable (service : EvaluationService)

/-- What is read out of the output of the provider that answers a turn. -/
def reported (surroundings : Surroundings) (index : Nat) (name : String) : Option Report :=
  match service.workflows.workflow name "evaluator", (surroundings.session index).result with
  | .ok workflow, some result =>
      match service.workflows.report workflow (surroundings.session index) result with
      | .ok (.ok reported) => some reported
      | _ => none
  | _, _ => none

/-- The limitations among it, as far as a record keeps them. -/
def statedLimitations (surroundings : Surroundings) (index : Nat) (name : String) :
    Option (List Json) :=
  (service.reported surroundings index name).map fun reported => reported.limitations.take 20

/-- In the turn, the runner observed the same facts and the providers returned
the same status. -/
structure SameStatus (first second : Surroundings) (index : Nat) (name : String) : Prop where
  facts : (first.session index).observation.facts = (second.session index).observation.facts
  status : (service.reported first index name).map Report.status =
    (service.reported second index name).map Report.status

section Disclosed

variable {service} {observed : Nat → Except ForgeError World}
  {first second : Surroundings} {freeze candidate : ForgeRecord} {index : Nat} {name : String}
  {history history' : History}

private theorem resultFields_nodup (executor : WorkflowExecutor) (workflow : Workflow)
    (candidate action : ForgeRecord) (session : ExecutionSession) (result : ExecutionResult)
    (reported : Report) (recordedAt : String) :
    (Dict.keys (executor.resultFields workflow candidate action session result reported
      recordedAt)).Nodup := by
  simp [WorkflowExecutor.resultFields]

/-- An execution with a result: what was reported and what the record shows of it. -/
theorem execute_result {executor : WorkflowExecutor} {workflow : Workflow}
    {times : WorkflowExecutor.Times} {session : ExecutionSession}
    {execution : WorkflowExecution} {record : ForgeRecord}
    (h : executor.execute workflow candidate true .finalEvaluation times session = .ok execution)
    (hresult : execution.result = some record) :
    execution.workflow = workflow ∧ execution.session = session ∧
      execution.action.get "candidate_identity" = candidate.get "candidate_id" ∧
      ∃ result reported, session.result = some result ∧
        executor.report workflow session result = .ok (.ok reported) ∧
        (evaluationResult record).disclosed =
          { workflow := .str workflow.name
            status := .str reported.status
            limitations := .arr (reported.limitations.take 20)
            outputIdentity := .null } := by
  rw [WorkflowExecutor.execute, bind_eq_ok] at h
  obtain ⟨action, haction, h⟩ := h
  have subject : action.get "candidate_identity" = candidate.get "candidate_id" := by
    rw [(newRecord_get haction).2 "candidate_identity" (by decide) (by decide) (by decide),
      field_update (by simp)]
    simp [field, Dict.get?_cons]
  cases herror : session.errorCode with
  | some code =>
      rw [herror] at h
      obtain rfl := Except.ok.inj h
      cases hresult
  | none =>
      cases hfinished : session.result with
      | none =>
          rw [herror, hfinished] at h
          obtain rfl := Except.ok.inj h
          cases hresult
      | some result =>
          simp only [herror, hfinished, bind_eq_ok] at h
          obtain ⟨outcome, houtcome, h⟩ := h
          cases outcome with
          | error e =>
              obtain rfl := Except.ok.inj h
              cases hresult
          | ok reported =>
              simp only [bind_eq_ok] at h
              obtain ⟨made, hmade, _, _, h⟩ := h
              obtain rfl := Except.ok.inj h
              obtain rfl := Option.some.inj hresult
              refine ⟨rfl, rfl, subject, result, reported, rfl, houtcome, ?_⟩
              have reads : ∀ key, key ≠ "record_type" → key ≠ "schema_version" →
                  key ≠ "output_identity" → made.get key =
                    field (executor.resultFields workflow candidate action session result
                      (WorkflowExecutor.disclose workflow true reported) times.recordedAt) key := by
                intro key htype hversion hother
                rw [(newRecord_get hmade).2 key htype hversion
                    (fun same => hother (Option.some.inj same).symm),
                  field_update (resultFields_nodup _ _ _ _ _ _ _ _)]
              have kept : (WorkflowExecutor.disclose workflow true reported).status =
                  reported.status ∧
                (WorkflowExecutor.disclose workflow true reported).limitations =
                  reported.limitations := by
                unfold WorkflowExecutor.disclose
                split_ifs <;> exact ⟨rfl, rfl⟩
              simp only [evaluationResult, EvaluationResult.disclosed,
                reads "workflow" (by decide) (by decide) (by decide),
                reads "status" (by decide) (by decide) (by decide),
                reads "limitations" (by decide) (by decide) (by decide)]
              simp [WorkflowExecutor.resultFields, field, Dict.get?_cons, kept]

/-- One turn: what was reported, what the record shows of it, and the binding. -/
theorem evaluate_turn {surroundings : Surroundings}
    {evaluated : (ForgeRecord × ForgeRecord) × History}
    (h : evaluate service observed surroundings freeze candidate index history name =
      .ok evaluated) :
    ∃ workflow reported execution, service.workflows.workflow name "evaluator" = .ok workflow ∧
      service.reported surroundings index name = some reported ∧
      (evaluationResult evaluated.1.1).disclosed =
        { workflow := .str workflow.name
          status := .str reported.status
          limitations := .arr (reported.limitations.take 20)
          outputIdentity := .null } ∧
      execution.workflow = workflow ∧ execution.session = surroundings.session index ∧
      execution.action.get "candidate_identity" = candidate.get "candidate_id" ∧
      bindWorkflowExecution service.workflows.hashing service.calendar service.workflows.config
        execution (surroundings.times index).boundAt = .ok evaluated.1.2 := by
  simp only [evaluate, bind_eq_ok] at h
  obtain ⟨workflow, hworkflow, _, _, _, _, execution, hexecution, persisted, hpersisted, h⟩ := h
  rw [persistWorkflowExecution, refuseIf_bind_eq_ok] at hpersisted
  simp only [bind_eq_ok] at hpersisted
  obtain ⟨_, _, _, binding, hbinding, _, _, hpersisted⟩ := hpersisted
  have bound : persisted.1 = binding := by
    split at hpersisted
    · rw [← Except.ok.inj hpersisted]
    · split at hpersisted
      · cases hpersisted
      · obtain ⟨_, _, hpersisted⟩ := bind_eq_ok.mp hpersisted
        rw [← Except.ok.inj hpersisted]
  split at h
  · cases h
  · cases h
  · rename_i record herror hrecord
    rw [refuseIf_bind_eq_ok] at h
    simp only [bind_eq_ok] at h
    obtain ⟨_, _, _, _, _, _, _, _, _, _, _, h⟩ := h
    obtain rfl := Except.ok.inj h
    obtain ⟨hsame, hsession, hsubject, result, reported, hresult, hreported, hshown⟩ :=
      execute_result hexecution hrecord
    refine ⟨workflow, reported, execution, hworkflow, ?_, hshown, hsame, hsession, hsubject, ?_⟩
    · simp only [EvaluationService.reported, hworkflow, hresult, hreported]
    · rw [bound]
      exact hbinding

/-- Two turns of one workflow on one candidate: the receipts and the statuses
agree, and the results do when the limitations are the same. -/
theorem evaluate_disclosed (hexadecimal : Hexadecimal service.workflows.hashing)
    {evaluated evaluated' : (ForgeRecord × ForgeRecord) × History}
    (same : service.SameStatus first second index name)
    (h : evaluate service observed first freeze candidate index history name = .ok evaluated)
    (h' : evaluate service observed second freeze candidate index history' name =
      .ok evaluated') :
    (summarizeBinding evaluated.1.2).disclosed = (summarizeBinding evaluated'.1.2).disclosed ∧
      textOf evaluated.1.1 "status" = textOf evaluated'.1.1 "status" ∧
      ((evaluationResult evaluated.1.1).disclosed = (evaluationResult evaluated'.1.1).disclosed ↔
        service.statedLimitations first index name =
          service.statedLimitations second index name) := by
  obtain ⟨workflow, reported, execution, hworkflow, hreported, hshown, hsame, hsession,
    hsubject, hbinding⟩ := evaluate_turn h
  obtain ⟨workflow', reported', execution', hworkflow', hreported', hshown', hsame', hsession',
    hsubject', hbinding'⟩ := evaluate_turn h'
  obtain rfl := Except.ok.inj (hworkflow.symm.trans hworkflow')
  have status : reported.status = reported'.status := by
    have := same.status
    rw [hreported, hreported'] at this
    exact Option.some.inj this
  refine ⟨?_, ?_, ?_⟩
  · refine bindWorkflowExecution_disclosed hexadecimal (hsame.trans hsame'.symm)
      (hsubject.trans hsubject'.symm) ?_ hbinding hbinding'
    rw [hsession, hsession']
    exact same.facts
  · have shown := congrArg EvaluationResult.status hshown
    have shown' := congrArg EvaluationResult.status hshown'
    exact congrArg Json.display (shown.trans ((congrArg Json.str status).trans shown'.symm))
  · rw [hshown, hshown', statedLimitations, statedLimitations, hreported, hreported', status]
    simp

/-- The same for the loop, turn by turn. -/
theorem evaluateAll_disclosed (hexadecimal : Hexadecimal service.workflows.hashing)
    {names : List String} {results results' : List (ForgeRecord × ForgeRecord)}
    (same : ∀ turn ∈ names.zipIdx index, service.SameStatus first second turn.2 turn.1)
    (h : evaluateAll service observed first freeze candidate index history names = .ok results)
    (h' : evaluateAll service observed second freeze candidate index history' names =
      .ok results') :
    results.map (fun result => (summarizeBinding result.2).disclosed) =
        results'.map (fun result => (summarizeBinding result.2).disclosed) ∧
      results.map (fun result => textOf result.1 "status") =
        results'.map (fun result => textOf result.1 "status") ∧
      (results.map (fun result => (evaluationResult result.1).disclosed) =
          results'.map (fun result => (evaluationResult result.1).disclosed) ↔
        ∀ turn ∈ names.zipIdx index,
          service.statedLimitations first turn.2 turn.1 =
            service.statedLimitations second turn.2 turn.1) := by
  induction names generalizing index history history' results results' with
  | nil =>
      obtain rfl := Except.ok.inj h
      obtain rfl := Except.ok.inj h'
      simp
  | cons name names ih =>
      simp only [evaluateAll, bind_eq_ok] at h h'
      obtain ⟨evaluated, hevaluated, rest, hrest, h⟩ := h
      obtain ⟨evaluated', hevaluated', rest', hrest', h'⟩ := h'
      obtain rfl := Except.ok.inj h
      obtain rfl := Except.ok.inj h'
      rw [List.zipIdx_cons, List.forall_mem_cons] at same
      obtain ⟨receipt, status, limitations⟩ :=
        evaluate_disclosed hexadecimal same.1 hevaluated hevaluated'
      obtain ⟨receipts, statuses, rests⟩ := ih same.2 hrest hrest'
      simp only [List.map_cons, receipt, receipts, status, statuses, List.cons.injEq,
        limitations, rests, List.zipIdx_cons, List.forall_mem_cons, and_self]

/-- The results of a run whose turns disclose the same statuses. -/
theorem run_disclosed {names : List String} {summary summary' : EvaluationSummary}
    (hexadecimal : Hexadecimal service.workflows.hashing)
    (same : ∀ turn ∈ names.zipIdx, service.SameStatus first second turn.2 turn.1)
    (h : run service observed first history names = .ok summary)
    (h' : run service observed second history names = .ok summary') :
    summary'.disclosed = { summary.disclosed with results := summary'.disclosed.results } ∧
      (summary.disclosed.results = summary'.disclosed.results ↔
        ∀ turn ∈ names.zipIdx,
          service.statedLimitations first turn.2 turn.1 =
            service.statedLimitations second turn.2 turn.1) := by
  simp only [run, bind_eq_ok] at h h'
  obtain ⟨entry, hentry, results, hresults, aggregate, haggregate, h⟩ := h
  obtain ⟨entry', hentry', results', hresults', aggregate', haggregate', h'⟩ := h'
  obtain rfl := Except.ok.inj (hentry.symm.trans hentry')
  obtain ⟨receipts, statuses, limitations⟩ :=
    evaluateAll_disclosed hexadecimal same hresults hresults'
  rw [statuses] at haggregate
  obtain rfl := Except.ok.inj (haggregate.symm.trans haggregate')
  obtain rfl := Except.ok.inj h
  obtain rfl := Except.ok.inj h'
  rw [← limitations]
  simp only [EvaluationSummary.disclosed, List.map_map, Function.comp_def, receipts, and_self]

end Disclosed

/-- Two runs over the same history and project in which the providers return the
same statuses disclose the same, exactly when the providers also state the same
limitations. -/
theorem run_discloses_iff {observed : Nat → Except ForgeError World}
    {first second : Surroundings} {history : History} {names : List String}
    {summary summary' : EvaluationSummary}
    (hexadecimal : Hexadecimal service.workflows.hashing)
    (same : ∀ turn ∈ names.zipIdx, service.SameStatus first second turn.2 turn.1)
    (h : run service observed first history names = .ok summary)
    (h' : run service observed second history names = .ok summary') :
    summary.disclosed = summary'.disclosed ↔
      ∀ turn ∈ names.zipIdx,
        service.statedLimitations first turn.2 turn.1 =
          service.statedLimitations second turn.2 turn.1 := by
  obtain ⟨rest, results⟩ := run_disclosed hexadecimal same h h'
  rw [← results]
  constructor
  · exact congrArg EvaluationSummary.results
  · intro hresults
    rw [rest, ← hresults]

end EvaluationService

/-! ## Sample runs -/

/-- The readers know three outputs, and every digest is one text. -/
def sampleDigest (_ : List UInt8) : String :=
  String.ofList (List.replicate 64 '0')

/-- What a command writes that fails the candidate. -/
def sampleOutput (details : List (String × Json)) : Json :=
  document (("status", .str "FAIL") :: details)

def sampleTerse : Json := sampleOutput []

def sampleWitnessed : Json := sampleOutput [("witnesses", .arr [.str "case 7"])]

def sampleLimited : Json := sampleOutput [("limitations", .arr [.str "fails on case 7"])]

def sampleDecoders : Decoders where
  utf8 _ := none
  replacing _ := ""
  loads _ := .error "Expecting value"
  loadsBytes bytes :=
    [sampleTerse, sampleWitnessed, sampleLimited].find? fun output =>
      output.canonicalBytes = bytes
  withoutSecrets text := text

def sampleWorkflow : Workflow where
  name := "holdout"
  category := "MNCS"
  mode := "evaluator"
  command := ["holdout"]
  providerProtocol := false
  providerId := none
  disclosure := "status-only"
  subject := "candidate"

def sampleConfig : ForgeConfig where
  projectIdentity := "project:sample"
  workflows := [("holdout", sampleWorkflow)]
  environmentKeys _ := []
  timeout := "30.0"
  outputCap := 65536

def sampleEvaluationService : EvaluationService where
  workflows :=
    { hashing := ⟨sampleDigest, fun value => .ok value.canonicalBytes⟩
      decoders := sampleDecoders
      config := sampleConfig
      mode := .evaluator
      executionResultClassifier := fun exitStatus reportedStatus =>
        .ok (compatibilityExecutionResultStatus exitStatus reportedStatus) }
  calendar := ⟨fun text => text, fun text _ => text, fun _ => "0.5"⟩
  commit history _ _ record := .ok (history ++ [record])
  nativeStatusAggregate := none

def sampleStream (size : Nat) : StreamObservation :=
  ⟨some size, size, none, none, some false, false, none⟩

def sampleObservation (size : Nat) : ExecutionObservation where
  commandIdentity := sampleDigest [1]
  cwdIdentity := sampleDigest [2]
  environmentIdentity := sampleDigest [3]
  stdinIdentity := sampleDigest [4]
  timeoutSeconds := "30.0"
  stdoutLimit := 65536
  stderrLimit := 65536
  startedAt := some "2024"
  endedAt := some "2024"
  durationSeconds := some "0.5"
  returncode := some 0
  signal := none
  terminationCategory := .completed
  stdout := sampleStream size
  stderr := sampleStream 0
  aggregateOutput := ⟨some size, size, false, none⟩
  capabilities :=
    { runnerKind := "local-process", runnerVersion := "1", osFamily := "posix"
      architecture := "x86_64", executionScope := "local", shellExecution := "disabled"
      timeoutEnforcement := .enforced, stdoutLimit := .enforced, stderrLimit := .enforced
      processGroupTermination := .enforced, sandboxIsolation := .notProvided
      networkIsolation := .notProvided, filesystemIsolation := .notProvided }
  runnerIdentity := "forge.local-process"
  runnerVersion := "1"
  executableIdentity := none
  runtimeIdentity := some "runtime.python-3.12"
  errorCode := none
  workerIdentity := none
  hostIdentity := none
  imageIdentity := none
  placementIdentity := none
  filesystemPolicy := "unrestricted-process-workspace"
  networkPolicy := "ambient-process-network"
  sameOperator := some true
  resourceEnvelope := []
  resourceObservations := []

/-- A run whose command writes one output. -/
def sampleSurroundings (output : Json) : Surroundings where
  session _ :=
    { observation := sampleObservation output.canonicalBytes.length
      stdout := output.canonicalBytes
      stderr := []
      result := some ⟨0, "0.5"⟩
      errorCode := none
      errorMessage := none }
  times _ := ⟨"2024", "2024", "2024", "2024"⟩

def sampleRun (output : Json) : Except ForgeError EvaluationSummary :=
  EvaluationService.run sampleEvaluationService (fun _ => .ok (sampleWorld .evaluator none))
    (sampleSurroundings output) sampleHistory ["holdout"]


private theorem sample_summary {output : Json}
    (h : (sampleRun output).toOption.isSome = true) :
    ∃ summary, sampleRun output = .ok summary := by
  cases hrun : sampleRun output with
  | ok summary => exact ⟨summary, rfl⟩
  | error e =>
      rw [hrun] at h
      cases h

private theorem sampleObservation_facts (size size' : Nat) :
    (sampleObservation size).facts = (sampleObservation size').facts := rfl

private theorem sample_sameStatus {first second : Json}
    (status : ((sampleEvaluationService.reported (sampleSurroundings first) 0 "holdout").map
        Report.status) =
      (sampleEvaluationService.reported (sampleSurroundings second) 0 "holdout").map
        Report.status) :
    ∀ turn ∈ ["holdout"].zipIdx, sampleEvaluationService.SameStatus
      (sampleSurroundings first) (sampleSurroundings second) turn.2 turn.1 := by
  intro turn hturn
  obtain rfl : turn = ("holdout", 0) := by simpa using hturn
  exact ⟨sampleObservation_facts _ _, status⟩

private theorem sampleTerse_summary : ∃ summary, sampleRun sampleTerse = .ok summary :=
  sample_summary (by decide +kernel)

private theorem sample_hexadecimal : Hexadecimal sampleEvaluationService.workflows.hashing :=
  fun _ => show isSha256 (String.ofList (List.replicate 64 '0')) = true by decide +kernel

theorem run_discloses_iff_sample :
    ∃ summary summary', sampleRun sampleTerse = .ok summary ∧
      sampleRun sampleWitnessed = .ok summary' ∧ summary.disclosed = summary'.disclosed := by
  obtain ⟨summary, h⟩ := sampleTerse_summary
  obtain ⟨summary', h'⟩ := sample_summary
    (show (sampleRun sampleWitnessed).toOption.isSome = true by decide +kernel)
  have same := sample_sameStatus
    (show (sampleEvaluationService.reported (sampleSurroundings sampleTerse) 0 "holdout").map
        Report.status =
      (sampleEvaluationService.reported (sampleSurroundings sampleWitnessed) 0 "holdout").map
        Report.status by decide +kernel)
  refine ⟨summary, summary', h, h',
    (sampleEvaluationService.run_discloses_iff sample_hexadecimal same h h').mpr ?_⟩
  intro turn hturn
  obtain rfl : turn = ("holdout", 0) := by simpa using hturn
  decide +kernel

/-- The limitations of a status-only evaluator reach the caller. -/
theorem run_discloses_limitations :
    sampleWorkflow.disclosure = "status-only" ∧
      (∀ turn ∈ ["holdout"].zipIdx, sampleEvaluationService.SameStatus
        (sampleSurroundings sampleTerse) (sampleSurroundings sampleLimited) turn.2 turn.1) ∧
      ∃ summary summary', sampleRun sampleTerse = .ok summary ∧
        sampleRun sampleLimited = .ok summary' ∧ summary.disclosed ≠ summary'.disclosed := by
  obtain ⟨summary, h⟩ := sampleTerse_summary
  obtain ⟨summary', h'⟩ := sample_summary
    (show (sampleRun sampleLimited).toOption.isSome = true by decide +kernel)
  have same := sample_sameStatus
    (show (sampleEvaluationService.reported (sampleSurroundings sampleTerse) 0 "holdout").map
        Report.status =
      (sampleEvaluationService.reported (sampleSurroundings sampleLimited) 0 "holdout").map
        Report.status by decide +kernel)
  refine ⟨rfl, same, summary, summary', h, h', fun hsame => ?_⟩
  have limitations := (EvaluationService.run_disclosed sample_hexadecimal same h h').2.mp
    (congrArg EvaluationSummary.results hsame) ("holdout", 0) (by simp)
  exact absurd limitations (by decide +kernel)

end MncsForge.Application
