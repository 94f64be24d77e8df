import Mathlib
import MncsForge.Application.Evaluation

/-!
# Evaluations that drift

A turn of an evaluator run executes a workflow, commits its action, its binding
and its result, and only then looks whether the authority files and the candidate
are still those of before.  A run that raises there is followed here with the
history it leaves behind.
-/

namespace MncsForge.Application

open MncsForge.Foundation MncsForge.Records
open Lifecycle (History World typed textOf recordsAbout sampleWorld sampleHistory)

/-! ## Raises that leave a history -/

/-- A result, or an error with the history at the raise. -/
abbrev Kept (α : Type) := Except (ForgeError × History) α

namespace Kept

variable {α β : Type}

/-- A step that commits nothing. -/
def keeping (history : History) (x : Except ForgeError α) : Kept α :=
  x.mapError fun error => (error, history)

/-- The step without the history. -/
def forget (x : Kept α) : Except ForgeError α :=
  x.mapError Prod.fst

@[simp] theorem forget_keeping (history : History) (x : Except ForgeError α) :
    forget (keeping history x) = x := by
  cases x <;> rfl

@[simp] theorem forget_bind (x : Kept α) (f : α → Kept β) :
    forget (x >>= f) = forget x >>= fun a => forget (f a) := by
  cases x <;> rfl

@[simp] theorem forget_ok (a : α) : forget (.ok a) = .ok a := rfl

theorem keeping_eq_ok {history : History} {x : Except ForgeError α} {a : α} :
    keeping history x = .ok a ↔ x = .ok a := by
  cases x <;> simp [keeping, Except.mapError]

theorem forget_eq_ok {x : Kept α} {a : α} : forget x = .ok a ↔ x = .ok a := by
  cases x <;> simp [forget, Except.mapError]

theorem bind_of_ok {x : Kept α} {a : α} (h : x = .ok a) (f : α → Kept β) :
    (x >>= f) = f a := by
  rw [h]
  rfl

theorem bind_of_error {x : Kept α} {raised : ForgeError × History} (h : x = .error raised)
    (f : α → Kept β) : (x >>= f) = .error raised := by
  rw [h]
  rfl

end Kept

open Kept

/-! ## The run with its history -/

section Persisting

variable (hashing : Hashing) (calendar : Calendar) (config : ForgeConfig)

/-- `persist_workflow_execution`, with what was committed before a raise. -/
def persistKept (commit : RecordCommitter) (history : History)
    (execution : WorkflowExecution) (recordedAt : String) : Kept (ForgeRecord × History) := do
  let actionIdentity := textOf execution.action "action_id"
  keeping history
    (refuseIf ((bindingForAction history actionIdentity).isSome = true) "RECEIPT_DUPLICATE"
      s!"execution receipt binding already exists for {actionIdentity}")
  let acted ←
    keeping history (commit history "workflow-actions" "workflow_action" execution.action)
  let binding ←
    keeping acted (bindWorkflowExecution hashing calendar config execution recordedAt)
  let bound ← keeping acted
    (commit acted "execution-receipt-bindings" "execution_receipt_binding" binding)
  match execution.result with
  | none => .ok (binding, bound)
  | some result =>
      match resultCommitContext result.recordType with
      | none => .error (⟨"INTERNAL_RECORD", "unsupported workflow result type"⟩, bound)
      | some (group, kind) => do
          let after ← keeping bound (commit bound group kind result)
          .ok (binding, after)

theorem forget_persistKept (commit : RecordCommitter) (history : History)
    (execution : WorkflowExecution) (recordedAt : String) :
    forget (persistKept hashing calendar config commit history execution recordedAt) =
      persistWorkflowExecution hashing calendar config commit history execution recordedAt := by
  simp only [persistKept, persistWorkflowExecution, forget_bind, forget_keeping]
  refine bind_congr fun _ => ?_
  refine bind_congr fun acted => ?_
  refine bind_congr fun binding => ?_
  refine bind_congr fun bound => ?_
  cases execution.result with
  | none => rfl
  | some result =>
      dsimp only
      cases resultCommitContext result.recordType with
      | none => rfl
      | some context => simp only [forget_bind, forget_keeping, forget_ok]

end Persisting

namespace EvaluationService

variable (service : EvaluationService) (observed : Nat → Except ForgeError World)
  (surroundings : Surroundings)

/-- The checks of a turn on a persisted execution. -/
def checkTurn (freeze : ForgeRecord) (index : Nat) (before candidateBefore : World)
    (result : ForgeRecord) (persisted : ForgeRecord × History) :
    Except ForgeError ((ForgeRecord × ForgeRecord) × History) := do
  refuseIf (result.recordType ≠ .finalEvaluation) "INTERNAL_RECORD"
    "evaluation produced an invalid record model"
  let after ← observed (5 * index + 3)
  refuseIf (before.currentAuthorityIdentities ≠ after.currentAuthorityIdentities)
    "EVALUATION_DRIFT" "authority files changed during evaluation"
  let candidateAfter ← observed (5 * index + 4)
  refuseIf (candidateBefore.currentCandidateIdentity ≠ candidateAfter.currentCandidateIdentity)
    "EVALUATION_DRIFT" "candidate changed during evaluation"
  verifyFreeze observed (5 * index + 5) persisted.2 freeze
  .ok ((result, persisted.1), persisted.2)

def evaluateKept (freeze candidate : ForgeRecord) (index : Nat) (history : History)
    (name : String) : Kept ((ForgeRecord × ForgeRecord) × History) := do
  let workflow ← keeping history (service.workflows.workflow name "evaluator")
  let before ← keeping history (observed (5 * index + 1))
  let candidateBefore ← keeping history (observed (5 * index + 2))
  let execution ← keeping history
    (service.workflows.execute workflow candidate true .finalEvaluation
      (surroundings.times index) (surroundings.session index))
  let persisted ← persistKept service.workflows.hashing service.calendar
    service.workflows.config service.commit history execution
    (surroundings.times index).boundAt
  match execution.error, execution.result with
  | some e, _ => .error (e, persisted.2)
  | none, none =>
      .error (⟨"INTERNAL_RECORD", "evaluation produced an invalid record model"⟩, persisted.2)
  | none, some result =>
      keeping persisted.2
        (checkTurn observed freeze index before candidateBefore result persisted)

def evaluateAllKept (freeze candidate : ForgeRecord) :
    Nat → History → List String → Kept (List (ForgeRecord × ForgeRecord) × History)
  | _, history, [] => .ok ([], history)
  | index, history, name :: names => do
      let evaluated ←
        evaluateKept service observed surroundings freeze candidate index history name
      let rest ← evaluateAllKept freeze candidate (index + 1) evaluated.2 names
      .ok (evaluated.1 :: rest.1, rest.2)

def runKept (history : History) (names : List String) : Kept (EvaluationSummary × History) := do
  let entry ← keeping history (evaluatorEntry observed 0 history)
  let results ←
    evaluateAllKept service observed surroundings entry.1 entry.2 0 history names
  let aggregate ← keeping results.2
    (statusAggregate service.nativeStatusAggregate
      (results.1.map fun result => textOf result.1 "status"))
  .ok
    ({ freezeId := entry.1.get "freeze_id"
       candidateIdentity := entry.1.get "candidate_identity"
       results := results.1.map fun result => evaluationResult result.1
       executionReceipts := results.1.map fun result => summarizeBinding result.2
       aggregateStatus := aggregate }, results.2)

/-! ### It is the run -/

variable {service observed surroundings}

theorem forget_evaluateKept {freeze candidate : ForgeRecord} {index : Nat} {history : History}
    {name : String} :
    forget (evaluateKept service observed surroundings freeze candidate index history name) =
      evaluate service observed surroundings freeze candidate index history name := by
  simp only [evaluateKept, evaluate, forget_bind, forget_keeping, forget_persistKept]
  refine bind_congr fun workflow => ?_
  refine bind_congr fun before => ?_
  refine bind_congr fun candidateBefore => ?_
  refine bind_congr fun execution => ?_
  refine bind_congr fun persisted => ?_
  cases execution.error with
  | some e => rfl
  | none =>
      cases execution.result with
      | none => rfl
      | some result => simp only [forget_keeping, checkTurn]

theorem forget_evaluateAllKept {freeze candidate : ForgeRecord} {index : Nat}
    {history : History} {names : List String} :
    (forget (evaluateAllKept service observed surroundings freeze candidate index history
        names)).map Prod.fst =
      evaluateAll service observed surroundings freeze candidate index history names := by
  induction names generalizing index history with
  | nil => rfl
  | cons name names ih =>
      simp only [evaluateAllKept, evaluateAll, forget_bind, forget_evaluateKept, ← ih]
      cases evaluate service observed surroundings freeze candidate index history name with
      | error e => rfl
      | ok evaluated =>
          simp only [bind, Except.bind]
          cases evaluateAllKept service observed surroundings freeze candidate (index + 1)
            evaluated.2 names <;> rfl

/-- Without the histories the run is the one of the service. -/
theorem forget_runKept {history : History} {names : List String} :
    (forget (runKept service observed surroundings history names)).map Prod.fst =
      run service observed surroundings history names := by
  simp only [runKept, run, forget_bind, forget_keeping, ← forget_evaluateAllKept]
  cases evaluatorEntry observed 0 history with
  | error e => rfl
  | ok entry =>
      simp only [bind, Except.bind]
      cases evaluateAllKept service observed surroundings entry.1 entry.2 0 history names with
      | error e => rfl
      | ok results =>
          simp only [forget_ok, Except.map]
          cases statusAggregate service.nativeStatusAggregate
            (results.1.map fun result => textOf result.1 "status") <;> rfl

/-! ## Drifts -/

variable (service observed surroundings)

/-- A turn up to the checks: the readings before the execution, the result it
persists and the history then. -/
def Persists (candidate : ForgeRecord) (index : Nat) (history : History) (name : String)
    (before candidateBefore : World) (record : ForgeRecord) (after : History) : Prop :=
  ∃ workflow execution binding,
    service.workflows.workflow name "evaluator" = .ok workflow ∧
    observed (5 * index + 1) = .ok before ∧
    observed (5 * index + 2) = .ok candidateBefore ∧
    service.workflows.execute workflow candidate true .finalEvaluation
      (surroundings.times index) (surroundings.session index) = .ok execution ∧
    persistKept service.workflows.hashing service.calendar service.workflows.config
      service.commit history execution (surroundings.times index).boundAt =
        .ok (binding, after) ∧
    execution.error = none ∧ execution.result = some record

/-- The identities that changed across the execution of a turn, by the message
they are reported with. -/
inductive Drifts (candidate : ForgeRecord) (index : Nat) (history : History) (name : String)
    (record : ForgeRecord) (after : History) : String → Prop where
  | authority {before candidateBefore world : World}
      (persists : Persists service observed surroundings candidate index history name before
        candidateBefore record after)
      (look : observed (5 * index + 3) = .ok world)
      (changed : before.currentAuthorityIdentities ≠ world.currentAuthorityIdentities) :
      Drifts candidate index history name record after
        "authority files changed during evaluation"
  | candidate {before candidateBefore world later : World}
      (persists : Persists service observed surroundings candidate index history name before
        candidateBefore record after)
      (look : observed (5 * index + 3) = .ok world)
      (same : before.currentAuthorityIdentities = world.currentAuthorityIdentities)
      (look' : observed (5 * index + 4) = .ok later)
      (changed : candidateBefore.currentCandidateIdentity ≠ later.currentCandidateIdentity) :
      Drifts candidate index history name record after "candidate changed during evaluation"

/-- The turns a loop gets to, with the history at their start. -/
inductive Reaches (freeze candidate : ForgeRecord) :
    Nat → History → List String → Nat → History → String → Prop where
  | here {index : Nat} {history : History} {name : String} {names : List String} :
      Reaches freeze candidate index history (name :: names) index history name
  | later {index : Nat} {history : History} {name : String} {names : List String}
      {evaluated : (ForgeRecord × ForgeRecord) × History} {turn : Nat} {start : History}
      {workflow : String}
      (done : evaluateKept service observed surroundings freeze candidate index history name =
        .ok evaluated)
      (rest : Reaches freeze candidate (index + 1) evaluated.2 names turn start workflow) :
      Reaches freeze candidate index history (name :: names) turn start workflow

/-- The run gets to a turn whose execution the identities change across. -/
def RaisesDrift (history : History) (names : List String) (record : ForgeRecord)
    (after : History) : Prop :=
  ∃ entry turn start name message, evaluatorEntry observed 0 history = .ok entry ∧
    Reaches service observed surroundings entry.1 entry.2 0 history names turn start name ∧
    Drifts service observed surroundings entry.2 turn start name record after message

/-- The observer reads the same identities around each execution that the run
persists a result of. -/
def SteadyReadings (history : History) (names : List String) : Prop :=
  ∀ entry turn start name before candidateBefore record after world,
    evaluatorEntry observed 0 history = .ok entry →
    Reaches service observed surroundings entry.1 entry.2 0 history names turn start name →
    Persists service observed surroundings entry.2 turn start name before candidateBefore
      record after →
    observed (5 * turn + 3) = .ok world →
      before.currentAuthorityIdentities = world.currentAuthorityIdentities ∧
        ∀ later, observed (5 * turn + 4) = .ok later →
          candidateBefore.currentCandidateIdentity = later.currentCandidateIdentity

variable {service observed surroundings}

theorem Drifts.persists {candidate : ForgeRecord} {index : Nat} {history : History}
    {name : String} {record : ForgeRecord} {after : History} {message : String}
    (drift : Drifts service observed surroundings candidate index history name record after
      message) :
    ∃ before candidateBefore, Persists service observed surroundings candidate index history
      name before candidateBefore record after := by
  cases drift with
  | authority persists => exact ⟨_, _, persists⟩
  | candidate persists => exact ⟨_, _, persists⟩

theorem steadyReadings_iff {history : History} {names : List String} :
    SteadyReadings service observed surroundings history names ↔
      ∀ record after, ¬RaisesDrift service observed surroundings history names record after := by
  constructor
  · rintro steady record after ⟨entry, turn, start, name, message, entered, reached, drift⟩
    cases drift with
    | authority persists look changed =>
        exact changed (steady _ _ _ _ _ _ _ _ _ entered reached persists look).1
    | candidate persists look _ look' changed =>
        exact changed ((steady _ _ _ _ _ _ _ _ _ entered reached persists look).2 _ look')
  · intro quiet entry turn start name before candidateBefore record after world entered reached
      persists look
    have same : before.currentAuthorityIdentities = world.currentAuthorityIdentities := by
      by_contra changed
      exact quiet record after
        ⟨entry, turn, start, name, _, entered, reached, .authority persists look changed⟩
    refine ⟨same, fun later look' => ?_⟩
    by_contra changed
    exact quiet record after
      ⟨entry, turn, start, name, _, entered, reached,
        .candidate persists look same look' changed⟩

/-! ### What a drifting turn leaves -/

/-- A result that is executed for an evaluator is a final evaluation of the
candidate. -/
theorem execute_final {executor : WorkflowExecutor} {workflow : Workflow}
    {candidate record : ForgeRecord} {times : WorkflowExecutor.Times}
    {session : ExecutionSession} {execution : WorkflowExecution}
    (h : executor.execute workflow candidate true .finalEvaluation times session = .ok execution)
    (hresult : execution.result = some record) :
    record.recordType = .finalEvaluation ∧
      record.get "candidate_identity" = candidate.get "candidate_id" := by
  rw [WorkflowExecutor.execute, bind_eq_ok] at h
  obtain ⟨action, _, h⟩ := h
  split at h
  · obtain rfl := Except.ok.inj h
    cases hresult
  · obtain rfl := Except.ok.inj h
    cases hresult
  · obtain ⟨outcome, _, h⟩ := bind_eq_ok.mp h
    cases outcome with
    | error e =>
        obtain rfl := Except.ok.inj h
        cases hresult
    | ok reported =>
        simp only [bind_eq_ok] at h
        obtain ⟨made, hmade, _, _, h⟩ := h
        obtain rfl := Except.ok.inj h
        obtain rfl := Option.some.inj hresult
        obtain ⟨recordType, reads⟩ := newRecord_get hmade
        refine ⟨recordType, ?_⟩
        rw [reads "candidate_identity" (by decide) (by decide) (by decide),
          field_update (by simp [WorkflowExecutor.resultFields])]
        simp [WorkflowExecutor.resultFields, field, Dict.get?_cons]

/-- What a record store promises: a committed record is in the history. -/
def Publishes (commit : RecordCommitter) : Prop :=
  ∀ history group kind record after, commit history group kind record = .ok after →
    record ∈ after

theorem persistKept_publishes {hashing : Hashing} {calendar : Calendar} {config : ForgeConfig}
    {commit : RecordCommitter} (publishes : Publishes commit) {history : History}
    {execution : WorkflowExecution} {recordedAt : String} {binding record : ForgeRecord}
    {after : History}
    (h : persistKept hashing calendar config commit history execution recordedAt =
      .ok (binding, after))
    (hresult : execution.result = some record) : record ∈ after := by
  have persisted := congrArg forget h
  rw [forget_persistKept, forget_ok, persistWorkflowExecution, refuseIf_bind_eq_ok] at persisted
  simp only [bind_eq_ok, hresult] at persisted
  obtain ⟨_, _, _, _, _, bound, _, persisted⟩ := persisted
  split at persisted
  · cases persisted
  · obtain ⟨final, committed, same⟩ := bind_eq_ok.mp persisted
    obtain ⟨_, rfl⟩ := Prod.mk.inj (Except.ok.inj same)
    exact publishes _ _ _ _ _ committed

/-- The turn raises, and leaves the history its commits made. -/
theorem evaluateKept_of_drifts {freeze candidate : ForgeRecord} {index : Nat}
    {history : History} {name : String} {record : ForgeRecord} {after : History}
    {message : String}
    (drift : Drifts service observed surroundings candidate index history name record after
      message) :
    evaluateKept service observed surroundings freeze candidate index history name =
      .error (⟨"EVALUATION_DRIFT", message⟩, after) := by
  have turn : ∀ {before candidateBefore : World}, Persists service observed surroundings
      candidate index history name before candidateBefore record after →
      (∀ binding, checkTurn observed freeze index before candidateBefore record
        (binding, after) = .error ⟨"EVALUATION_DRIFT", message⟩) →
      evaluateKept service observed surroundings freeze candidate index history name =
        .error (⟨"EVALUATION_DRIFT", message⟩, after) := by
    rintro before candidateBefore
      ⟨workflow, execution, binding, found, look, look', executed, persisted, clean, result⟩
      checked
    rw [evaluateKept, bind_of_ok (keeping_eq_ok.mpr found),
      bind_of_ok (keeping_eq_ok.mpr look), bind_of_ok (keeping_eq_ok.mpr look'),
      bind_of_ok (keeping_eq_ok.mpr executed), bind_of_ok persisted]
    simp only [clean, result, checked]
    rfl
  have typed : ∀ {before candidateBefore : World}, Persists service observed surroundings
      candidate index history name before candidateBefore record after →
      record.recordType = .finalEvaluation := by
    rintro _ _ ⟨_, _, _, _, _, _, executed, _, _, result⟩
    exact (execute_final executed result).1
  cases drift with
  | authority persists look changed =>
      refine turn persists fun binding => ?_
      simp only [checkTurn, typed persists, ne_eq, not_true_eq_false, look]
      simp [refuseIf, bind, Except.bind, changed]
  | candidate persists look same look' changed =>
      refine turn persists fun binding => ?_
      simp only [checkTurn, typed persists, ne_eq, not_true_eq_false, look, look', same]
      simp [refuseIf, bind, Except.bind, changed]

theorem evaluateAllKept_of_reaches {freeze candidate : ForgeRecord} {index turn : Nat}
    {history start : History} {names : List String} {name : String}
    {raised : ForgeError × History}
    (reached : Reaches service observed surroundings freeze candidate index history names turn
      start name)
    (h : evaluateKept service observed surroundings freeze candidate turn start name =
      .error raised) :
    evaluateAllKept service observed surroundings freeze candidate index history names =
      .error raised := by
  induction reached with
  | here => rw [evaluateAllKept, bind_of_error h]
  | later done _ ih => rw [evaluateAllKept, bind_of_ok done, bind_of_error (ih h)]

/-- A run with a drift raises it; the evaluation it raises about is on record then,
among those a projection counts for the candidate. -/
theorem recorded_of_raisesDrift (publishes : Publishes service.commit) {history : History}
    {names : List String} {record : ForgeRecord} {after : History}
    (drift : RaisesDrift service observed surroundings history names record after) :
    (∃ message, runKept service observed surroundings history names =
      .error (⟨"EVALUATION_DRIFT", message⟩, after)) ∧
    record ∈ after ∧
    ∃ entry, evaluatorEntry observed 0 history = .ok entry ∧
      ∀ candidateId, entry.2.get "candidate_id" = .str candidateId →
        record ∈ recordsAbout .finalEvaluation after (some candidateId) := by
  obtain ⟨entry, turn, start, name, message, entered, reached, drifts⟩ := drift
  obtain ⟨_, _, workflow, execution, binding, _, _, _, executed, persisted, _, result⟩ :=
    drifts.persists
  obtain ⟨recordType, subject⟩ := execute_final executed result
  have member := persistKept_publishes publishes persisted result
  refine ⟨⟨message, ?_⟩, member, entry, entered, fun candidateId identified => ?_⟩
  · rw [runKept, bind_of_ok (keeping_eq_ok.mpr entered),
      bind_of_error (evaluateAllKept_of_reaches reached (evaluateKept_of_drifts drifts))]
  · have counted : record ∈ typed .finalEvaluation after :=
      Lifecycle.mem_typed.mpr ⟨member, recordType⟩
    refine List.mem_filter.mpr ⟨counted, ?_⟩
    rw [subject, identified]
    exact decide_eq_true rfl

/-- No evaluation that drifted is on record exactly when none drifts: each drift
that a run raises leaves its evaluation on record and counted. -/
theorem driftedAbsent_iff (publishes : Publishes service.commit) (history : History)
    (names : List String) :
    ((∀ record after, RaisesDrift service observed surroundings history names record after →
        record ∉ after) ↔
      SteadyReadings service observed surroundings history names) ∧
    ∀ record after, RaisesDrift service observed surroundings history names record after →
      (∃ message, runKept service observed surroundings history names =
        .error (⟨"EVALUATION_DRIFT", message⟩, after)) ∧
      record ∈ after ∧
      ∃ entry, evaluatorEntry observed 0 history = .ok entry ∧
        ∀ candidateId, entry.2.get "candidate_id" = .str candidateId →
          record ∈ recordsAbout .finalEvaluation after (some candidateId) := by
  refine ⟨?_, fun record after => recorded_of_raisesDrift publishes⟩
  rw [steadyReadings_iff]
  constructor
  · intro absent record after drift
    exact absent record after drift (recorded_of_raisesDrift publishes drift).2.1
  · intro quiet record after drift
    exact absurd drift (quiet record after)

end EvaluationService

/-! ### A sample run -/

/-- The project at each look; the authority files may change during the execution. -/
private def sampleLooks (changed : Bool) (look : Nat) : Except ForgeError World :=
  .ok (if changed = true ∧ look = 3 then
      { sampleWorld .evaluator none with
        currentAuthorityIdentities := [("protected", "changed")] }
    else sampleWorld .evaluator none)

private theorem sample_publishes :
    EvaluationService.Publishes sampleEvaluationService.commit := by
  intro history group kind record after h
  obtain rfl := Except.ok.inj h
  exact List.mem_append_right _ (List.mem_singleton_self _)

theorem driftedAbsent_iff_sample :
    EvaluationService.SteadyReadings sampleEvaluationService (sampleLooks false)
      (sampleSurroundings sampleTerse) sampleHistory ["holdout"] ∧
    ∀ record after, EvaluationService.RaisesDrift sampleEvaluationService (sampleLooks false)
      (sampleSurroundings sampleTerse) sampleHistory ["holdout"] record after →
        record ∉ after := by
  have steady : EvaluationService.SteadyReadings sampleEvaluationService (sampleLooks false)
      (sampleSurroundings sampleTerse) sampleHistory ["holdout"] := by
    rintro entry turn start name before candidateBefore record after world _ _
      ⟨_, _, _, _, look, look', _⟩ look''
    have still : ∀ n, sampleLooks false n = .ok (sampleWorld .evaluator none) := fun _ => rfl
    rw [still] at look look' look''
    obtain rfl := Except.ok.inj look
    obtain rfl := Except.ok.inj look'
    obtain rfl := Except.ok.inj look''
    refine ⟨rfl, fun later look => ?_⟩
    rw [still] at look
    rw [← Except.ok.inj look]
  exact ⟨steady, (@EvaluationService.driftedAbsent_iff sampleEvaluationService
    (sampleLooks false) (sampleSurroundings sampleTerse) sample_publishes sampleHistory
    ["holdout"]).1.mpr steady⟩

/-- The first turn of the run, up to the checks. -/
private def sampleTurn : Except ForgeError
    ((ForgeRecord × ForgeRecord) × WorkflowExecution × ForgeRecord × History) := do
  let entry ← EvaluationService.evaluatorEntry (sampleLooks true) 0 sampleHistory
  let workflow ← sampleEvaluationService.workflows.workflow "holdout" "evaluator"
  let execution ← sampleEvaluationService.workflows.execute workflow entry.2 true
    .finalEvaluation ((sampleSurroundings sampleTerse).times 0)
    ((sampleSurroundings sampleTerse).session 0)
  let persisted ← forget (persistKept sampleEvaluationService.workflows.hashing
    sampleEvaluationService.calendar sampleEvaluationService.workflows.config
    sampleEvaluationService.commit sampleHistory execution
    ((sampleSurroundings sampleTerse).times 0).boundAt)
  refuseIf (execution.error.isSome ∨ execution.result.isNone) "NO_RESULT" "no result"
  .ok (entry, execution, persisted)

/-- The authority files change while the holdout runs, and its result is on record
when the drift is raised. -/
theorem drifted_recorded :
    ¬∀ record after, EvaluationService.RaisesDrift sampleEvaluationService (sampleLooks true)
      (sampleSurroundings sampleTerse) sampleHistory ["holdout"] record after →
        record ∉ after := by
  intro absent
  obtain ⟨turn, h⟩ : ∃ turn, sampleTurn = .ok turn := exists_eq_ok (by decide +kernel)
  obtain ⟨entry, entered, h⟩ := bind_eq_ok.mp h
  obtain ⟨workflow, found, h⟩ := bind_eq_ok.mp h
  obtain ⟨execution, executed, h⟩ := bind_eq_ok.mp h
  obtain ⟨⟨binding, after⟩, persisted, h⟩ := bind_eq_ok.mp h
  obtain ⟨finished, _⟩ := refuseIf_bind_eq_ok.mp h
  obtain ⟨clean, produced⟩ := not_or.mp finished
  obtain ⟨record, result⟩ : ∃ record, execution.result = some record :=
    Option.isSome_iff_exists.mp (by simpa [Option.isSome_iff_ne_none] using produced)
  have persists : EvaluationService.Persists sampleEvaluationService (sampleLooks true)
      (sampleSurroundings sampleTerse) entry.2 0 sampleHistory "holdout"
      (sampleWorld .evaluator none) (sampleWorld .evaluator none) record after :=
    ⟨workflow, execution, binding, found, rfl, rfl, executed, forget_eq_ok.mp persisted,
      by simpa using clean, result⟩
  refine absent record after ⟨entry, 0, sampleHistory, "holdout", _, entered, .here,
    .authority persists rfl (by decide)⟩
    (EvaluationService.persistKept_publishes sample_publishes (forget_eq_ok.mp persisted) result)

end MncsForge.Application
