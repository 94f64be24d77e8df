import Mathlib
import MncsForge.Errors
import MncsForge.Records.Validation

/-!
# Compiler observations

Forge reads the compiler study records of the MNCS Language and compares two of
them: the fingerprints of the stages in the order of the compiler, and the status
of each pass.  A pass may be executed several times in one study.
-/

namespace MncsForge.CompilerEvolution

open MncsForge.Foundation MncsForge.Records

/-! ## Language records -/

def studyContract : String := "mncs:language:compilation-study-result:0.1"

def experimentContract : String := "mncs:language:experiment-result:0.1"

def experimentInterpretation : String :=
  "bounded_language_observation_not_universal_equivalence_or_conformance"

def observationOnly : String := "observation_only_not_assurance_or_conformance"

def stageOrder : List String :=
  ["source", "lexical_tokens", "concrete_syntax_tree", "abstract_syntax_tree", "semantic",
   "semantic_graph", "identity_map", "validation", "hir", "ssa", "selected_ssa",
   "target_lowering_plan", "backend_artifact"]

def malformed (message : String) : ForgeError := ⟨"COMPILER_OBSERVATION_MALFORMED", message⟩

def text (record : Dict String Json) (name : String) : Except ForgeError String :=
  match field record name with
  | .str value =>
      if value = "" then
        .error (malformed s!"MNCS Language compiler observation requires non-empty {name}")
      else .ok value
  | _ => .error (malformed s!"MNCS Language compiler observation requires non-empty {name}")

def optionalText (record : Dict String Json) (name : String) :
    Except ForgeError (Option String) :=
  match field record name with
  | .null => .ok none
  | .str value =>
      if value = "" then
        .error (malformed
          s!"MNCS Language compiler observation {name} must be null or non-empty text")
      else .ok (some value)
  | _ =>
      .error (malformed
        s!"MNCS Language compiler observation {name} must be null or non-empty text")

def mapping (record : Dict String Json) (name : String) :
    Except ForgeError (Dict String Json) :=
  match field record name with
  | .obj fields => .ok fields
  | _ => .error (malformed s!"MNCS Language compiler observation requires object {name}")

def sequence (record : Dict String Json) (name : String) : Except ForgeError (List Json) :=
  match field record name with
  | .arr items => .ok items
  | _ => .error (malformed s!"MNCS Language compiler observation requires array {name}")

structure CompilerPassObservation where
  edgeIdentity : String
  passIdentity : String
  passId : String
  inputArtifact : String
  outputArtifact : String
  status : String
  deriving DecidableEq, Repr

def passFromLanguageRecord (record : Dict String Json) :
    Except ForgeError CompilerPassObservation := do
  let status ← text record "status"
  if status ∉ ["PASS", "FAIL", "UNKNOWN"] then
    .error (malformed "compiler pass observation status must be PASS, FAIL, or UNKNOWN")
  else do
    let edgeIdentity ← text record "edge_identity"
    let passIdentity ← text record "pass_identity"
    let passId ← text record "pass_id"
    let inputArtifact ← text record "input_artifact"
    let outputArtifact ← text record "output_artifact"
    .ok ⟨edgeIdentity, passIdentity, passId, inputArtifact, outputArtifact, status⟩

structure CompilerExperimentObservation where
  contractId : String
  schemaVersion : String
  languageRecordIdentity : String
  runIdentity : String
  compilerIdentity : String
  pipelineIdentity : String
  compilerHostIdentity : String
  buildHostIdentity : String
  targetIdentity : Option String
  compilationStatus : String
  stageFingerprints : List (String × String)
  passExecutions : List CompilerPassObservation
  unresolvedObligations : List String
  interpretation : String
  backendIdentity : Option String := none
  realizationRequestIdentity : Option String := none
  realizationPlanIdentity : Option String := none
  backendArtifactIdentity : Option String := none
  backendArtifactKind : Option String := none
  experimentStatus : Option String := none
  validationJudgements : List String := []
  deriving DecidableEq, Repr

/-- The study of a record, and the experiment around it if it has one. -/
def studyOf (record : Dict String Json) :
    Except ForgeError (Dict String Json × Option (Dict String Json)) := do
  let contractId ← text record "contract_id"
  if contractId = experimentContract then do
    let interpretation ← text record "interpretation"
    refuseIf (interpretation ≠ experimentInterpretation) "COMPILER_CONTRACT_MISMATCH"
      "language experiment did not preserve its bounded-observation boundary"
    let study ← mapping record "compiler_study"
    .ok (study, some record)
  else do
    refuseIf (contractId ≠ studyContract) "COMPILER_CONTRACT_MISMATCH"
      s!"unsupported MNCS Language compiler contract: {contractId}"
    .ok (record, none)

def checkStudy (study : Dict String Json) : Except ForgeError String := do
  let contract ← text study "contract_id"
  refuseIf (contract ≠ studyContract) "COMPILER_CONTRACT_MISMATCH"
    "language experiment does not contain the supported compiler study contract"
  let interpretation ← text study "interpretation"
  refuseIf (interpretation ≠ observationOnly) "COMPILER_CONTRACT_MISMATCH"
    "compiler study contract did not preserve the observation-only boundary"
  let compilationStatus ← text study "compilation_status"
  if compilationStatus ∉ ["completed", "completed_with_unresolved_obligations", "failed"] then
    .error (malformed s!"unsupported compiler completion status: {compilationStatus}")
  else .ok compilationStatus

def fingerprintOf (entry : String × Json) : Except ForgeError (String × String) :=
  match entry.2 with
  | .str fingerprint =>
      if fingerprint = "" then
        .error (malformed s!"compiler stage fingerprint {entry.1} must be non-empty text")
      else .ok (entry.1, fingerprint)
  | _ => .error (malformed s!"compiler stage fingerprint {entry.1} must be non-empty text")

def passOf : Json → Except ForgeError CompilerPassObservation
  | .obj fields => passFromLanguageRecord fields
  | _ => .error (malformed "compiler pass execution must be an object")

def obligationOf : Json → Except ForgeError String
  | .str identity =>
      if identity = "" then
        .error (malformed "unresolved compiler obligation identities must be non-empty text")
      else .ok identity
  | _ => .error (malformed "unresolved compiler obligation identities must be non-empty text")

def judgementOf : Json → Except ForgeError String
  | .obj fields => do
      let judgement ← text fields "judgement"
      if judgement ∉ ["PASS", "FAIL", "UNKNOWN"] then
        .error (malformed "translation validation judgement must be PASS, FAIL, or UNKNOWN")
      else .ok judgement
  | _ => .error (malformed "translation validation must be an object")

/-- What an experiment adds to the observation of its study. -/
structure ExperimentPart where
  backendIdentity : String
  realizationRequestIdentity : String
  realizationPlanIdentity : String
  backendArtifactIdentity : String
  backendArtifactKind : String
  experimentStatus : String
  validationJudgements : List String

def experimentPart (experiment : Dict String Json) : Except ForgeError ExperimentPart := do
  let backend ← mapping experiment "backend"
  let backendIdentity ← text backend "identity"
  let definition ← mapping experiment "definition"
  let realization ← mapping definition "realization"
  let realizationRequestIdentity ← text realization "identity"
  let plan ← mapping experiment "realization_plan"
  let realizationPlanIdentity ← text plan "identity"
  let artifact ← mapping experiment "artifact"
  let backendArtifactIdentity ← text artifact "identity"
  let backendArtifactKind ← text artifact "artifact_kind"
  let experimentStatus ← text experiment "status"
  if experimentStatus ∉ ["PASS", "FAIL", "UNKNOWN"] then
    .error (malformed "language experiment status must be PASS, FAIL, or UNKNOWN")
  else do
    let validations ← sequence experiment "translation_validations"
    let judgements ← validations.mapM judgementOf
    .ok ⟨backendIdentity, realizationRequestIdentity, realizationPlanIdentity,
      backendArtifactIdentity, backendArtifactKind, experimentStatus, judgements⟩

def experimentPart? : Option (Dict String Json) → Except ForgeError (Option ExperimentPart)
  | none => .ok none
  | some experiment => (experimentPart experiment).map some

/-- `CompilerExperimentObservation.from_language_record` -/
def fromLanguageRecord (record : Dict String Json) :
    Except ForgeError CompilerExperimentObservation := do
  let contractId ← text record "contract_id"
  let (study, experiment) ← studyOf record
  let compilationStatus ← checkStudy study
  let rawFingerprints ← mapping study "stage_fingerprints"
  let stageFingerprints ← rawFingerprints.mapM fingerprintOf
  let executions ← sequence study "pass_executions"
  let passExecutions ← executions.mapM passOf
  let obligations ← sequence study "unresolved_obligations"
  let unresolved ← obligations.mapM obligationOf
  let part ← experimentPart? experiment
  let schemaVersion ← text record "schema_version"
  let languageRecordIdentity ← text record "identity"
  let runIdentity ← text study "run_identity"
  let compilerIdentity ← text study "compiler_identity"
  let pipelineIdentity ← text study "pipeline_identity"
  let compilerHostIdentity ← text study "compiler_host_identity"
  let buildHostIdentity ← text study "build_host_identity"
  let targetIdentity ← optionalText study "target_identity"
  .ok
    { contractId := contractId
      schemaVersion := schemaVersion
      languageRecordIdentity := languageRecordIdentity
      runIdentity := runIdentity
      compilerIdentity := compilerIdentity
      pipelineIdentity := pipelineIdentity
      compilerHostIdentity := compilerHostIdentity
      buildHostIdentity := buildHostIdentity
      targetIdentity := targetIdentity
      compilationStatus := compilationStatus
      -- the members of an object are sorted and each of them is there once
      stageFingerprints := Dict.update [] stageFingerprints
      passExecutions := passExecutions
      unresolvedObligations := Dict.sortedSet unresolved
      interpretation := observationOnly
      backendIdentity := part.map ExperimentPart.backendIdentity
      realizationRequestIdentity := part.map ExperimentPart.realizationRequestIdentity
      realizationPlanIdentity := part.map ExperimentPart.realizationPlanIdentity
      backendArtifactIdentity := part.map ExperimentPart.backendArtifactIdentity
      backendArtifactKind := part.map ExperimentPart.backendArtifactKind
      experimentStatus := part.map ExperimentPart.experimentStatus
      validationJudgements := (part.map ExperimentPart.validationJudgements).getD [] }

/-! ## Comparison -/

inductive StageOutcome where
  | notEmitted
  | missing
  | equal
  | different
  deriving DecidableEq, Repr

structure StageFingerprintComparison where
  stage : String
  left : Option String
  right : Option String
  outcome : StageOutcome
  deriving DecidableEq, Repr

structure CompilerExperimentComparison where
  leftRecordIdentity : String
  rightRecordIdentity : String
  stages : List StageFingerprintComparison
  earliestObservedDifference : Option String
  passStatusChanges : List (String × Option String × Option String)
  sameRealizationRequest : Option Bool
  sameBackend : Option Bool
  sameBackendArtifact : Option Bool
  validationStatuses : List String × List String
  interpretation : String
  deriving DecidableEq, Repr

def CompilerExperimentObservation.fingerprintMap (observation : CompilerExperimentObservation) :
    Dict String String :=
  Dict.update [] observation.stageFingerprints

def stageOutcome : Option String → Option String → StageOutcome
  | none, none => .notEmitted
  | some left, some right => if left = right then .equal else .different
  | _, _ => .missing

def compareStage (left right : Dict String String) (stage : String) :
    StageFingerprintComparison where
  stage := stage
  left := Dict.get? left stage
  right := Dict.get? right stage
  outcome := stageOutcome (Dict.get? left stage) (Dict.get? right stage)

/-- The stages of the compiler in their order, then the others in order of their names. -/
def comparedStages (left right : Dict String String) : List String :=
  stageOrder ++ (Dict.sortedSet (Dict.keys left ++ Dict.keys right)).filter (· ∉ stageOrder)

def isDifference (comparison : StageFingerprintComparison) : Bool :=
  comparison.outcome ≠ .equal && comparison.outcome ≠ .notEmitted

/-- `{item.pass_identity: item.status for item in pass_executions}` -/
def passStatuses (observation : CompilerExperimentObservation) : Dict String String :=
  Dict.update [] (observation.passExecutions.map fun item => (item.passIdentity, item.status))

def passChanges (left right : Dict String String) :
    List (String × Option String × Option String) :=
  ((Dict.sortedSet (Dict.keys left ++ Dict.keys right)).filter fun identity =>
    Dict.get? left identity ≠ Dict.get? right identity).map fun identity =>
      (identity, Dict.get? left identity, Dict.get? right identity)

def optionalEqual : Option String → Option String → Option Bool
  | none, none => none
  | left, right => some (decide (left = right))

def compareCompilerExperiments (left right : CompilerExperimentObservation) :
    CompilerExperimentComparison :=
  let stages := (comparedStages left.fingerprintMap right.fingerprintMap).map
    (compareStage left.fingerprintMap right.fingerprintMap)
  { leftRecordIdentity := left.languageRecordIdentity
    rightRecordIdentity := right.languageRecordIdentity
    stages := stages
    earliestObservedDifference :=
      (stages.find? isDifference).map StageFingerprintComparison.stage
    passStatusChanges := passChanges (passStatuses left) (passStatuses right)
    sameRealizationRequest :=
      optionalEqual left.realizationRequestIdentity right.realizationRequestIdentity
    sameBackend := optionalEqual left.backendIdentity right.backendIdentity
    sameBackendArtifact :=
      optionalEqual left.backendArtifactIdentity right.backendArtifactIdentity
    validationStatuses := (left.validationJudgements, right.validationJudgements)
    interpretation := observationOnly }

/-! ## The mirror image -/

def StageFingerprintComparison.mirror (comparison : StageFingerprintComparison) :
    StageFingerprintComparison :=
  { comparison with left := comparison.right, right := comparison.left }

/-- The comparison with its sides swapped. -/
def CompilerExperimentComparison.mirror (comparison : CompilerExperimentComparison) :
    CompilerExperimentComparison where
  leftRecordIdentity := comparison.rightRecordIdentity
  rightRecordIdentity := comparison.leftRecordIdentity
  stages := comparison.stages.map StageFingerprintComparison.mirror
  earliestObservedDifference := comparison.earliestObservedDifference
  passStatusChanges := comparison.passStatusChanges.map fun change =>
    (change.1, change.2.2, change.2.1)
  sameRealizationRequest := comparison.sameRealizationRequest
  sameBackend := comparison.sameBackend
  sameBackendArtifact := comparison.sameBackendArtifact
  validationStatuses := (comparison.validationStatuses.2, comparison.validationStatuses.1)
  interpretation := comparison.interpretation

variable {left right : CompilerExperimentObservation}

theorem stageOutcome_comm (first second : Option String) :
    stageOutcome second first = stageOutcome first second := by
  cases first with
  | none => cases second <;> rfl
  | some first =>
      cases second with
      | none => rfl
      | some second =>
          rw [stageOutcome, stageOutcome]
          by_cases same : first = second
          · rw [if_pos same, if_pos same.symm]
          · rw [if_neg same, if_neg fun h => same h.symm]

theorem optionalEqual_comm (first second : Option String) :
    optionalEqual second first = optionalEqual first second := by
  cases first <;> cases second <;> simp [optionalEqual, eq_comm]

theorem compareStage_mirror (first second : Dict String String) (stage : String) :
    compareStage second first stage = (compareStage first second stage).mirror := by
  rw [compareStage, compareStage, StageFingerprintComparison.mirror, stageOutcome_comm]

theorem sortedSet_append_comm (first second : List String) :
    Dict.sortedSet (second ++ first) = Dict.sortedSet (first ++ second) :=
  Dict.sortedSet_congr fun _ => by rw [List.mem_append, List.mem_append, or_comm]

theorem comparedStages_comm (first second : Dict String String) :
    comparedStages second first = comparedStages first second := by
  rw [comparedStages, comparedStages, sortedSet_append_comm]

theorem passChanges_mirror (first second : Dict String String) :
    passChanges second first =
      (passChanges first second).map fun change => (change.1, change.2.2, change.2.1) := by
  have selected : (fun identity => decide (Dict.get? second identity ≠ Dict.get? first identity)) =
      fun identity => decide (Dict.get? first identity ≠ Dict.get? second identity) := by
    funext identity
    exact decide_eq_decide.mpr ne_comm
  rw [passChanges, passChanges, sortedSet_append_comm, selected, List.map_map]
  rfl

theorem find?_mirror (stages : List StageFingerprintComparison) :
    ((stages.map StageFingerprintComparison.mirror).find? isDifference).map
        StageFingerprintComparison.stage =
      (stages.find? isDifference).map StageFingerprintComparison.stage := by
  rw [List.find?_map]
  have same : isDifference ∘ StageFingerprintComparison.mirror = isDifference := rfl
  rw [same, Option.map_map]
  rfl

/-- Comparing the other way round gives the mirror image. -/
theorem compareCompilerExperiments_mirror :
    compareCompilerExperiments right left = (compareCompilerExperiments left right).mirror := by
  have stages : (comparedStages right.fingerprintMap left.fingerprintMap).map
      (compareStage right.fingerprintMap left.fingerprintMap) =
      ((comparedStages left.fingerprintMap right.fingerprintMap).map
        (compareStage left.fingerprintMap right.fingerprintMap)).map
          StageFingerprintComparison.mirror := by
    rw [comparedStages_comm, List.map_map]
    exact List.map_congr_left fun stage _ => compareStage_mirror _ _ stage
  simp only [compareCompilerExperiments, CompilerExperimentComparison.mirror, stages,
    find?_mirror, passChanges_mirror (passStatuses left), optionalEqual_comm left.backendIdentity,
    optionalEqual_comm left.realizationRequestIdentity,
    optionalEqual_comm left.backendArtifactIdentity]

/-! ## What a comparison without differences says -/

/-- No stage is different or missing and no pass changed its status. -/
def ShowsNoDifference (comparison : CompilerExperimentComparison) : Prop :=
  (∀ stage ∈ comparison.stages, stage.outcome ≠ .different ∧ stage.outcome ≠ .missing) ∧
    comparison.passStatusChanges = []

/-- The statuses of the executions of a pass, in their order. -/
def executionStatuses (observation : CompilerExperimentObservation) (identity : String) :
    List String :=
  (observation.passExecutions.filter fun item => item.passIdentity = identity).map
    CompilerPassObservation.status

/-- The fingerprints and every sequence of pass statuses are equal. -/
def SameExecution (left right : CompilerExperimentObservation) : Prop :=
  left.fingerprintMap = right.fingerprintMap ∧
    ∀ identity, executionStatuses left identity = executionStatuses right identity

theorem fingerprintMap_ordered : Dict.Ordered left.fingerprintMap :=
  Dict.Ordered.update Dict.ordered_nil _

/-- Of several entries under a key a dictionary keeps the last one. -/
theorem get?_update_eq_getLast? {α : Type} (entries : List (String × α)) (key : String) :
    Dict.get? (Dict.update [] entries) key =
      ((entries.filter fun entry => entry.1 = key).map Prod.snd).getLast? := by
  induction entries using List.reverseRecOn with
  | nil => rfl
  | append_singleton entries entry ih =>
      have step : Dict.update [] (entries ++ [entry]) =
          Dict.set (Dict.update [] entries) entry.1 entry.2 := by
        simp [Dict.update]
      rw [step, Dict.get?_set, List.filter_append, List.map_append]
      by_cases same : entry.1 = key
      · simp [same]
      · rw [if_neg fun h => same h.symm, ih]
        simp [same]

theorem get?_passStatuses (observation : CompilerExperimentObservation) (identity : String) :
    Dict.get? (passStatuses observation) identity =
      (executionStatuses observation identity).getLast? := by
  rw [passStatuses, get?_update_eq_getLast?, List.filter_map, List.map_map, executionStatuses]
  rfl

theorem mem_keys_iff_get? {d : Dict String String} {key : String} :
    key ∈ Dict.keys d ↔ Dict.get? d key ≠ none := by
  rw [← Dict.get?_isSome_iff, Option.isSome_iff_ne_none]

theorem stageOutcome_eq {first second : Option String} :
    (stageOutcome first second ≠ .different ∧ stageOutcome first second ≠ .missing) ↔
      first = second := by
  cases first with
  | none => cases second <;> simp [stageOutcome]
  | some first =>
      cases second with
      | none => simp [stageOutcome]
      | some second => by_cases same : first = second <;> simp [stageOutcome, same]

theorem mem_comparedStages {first second : Dict String String} {stage : String}
    (h : Dict.get? first stage ≠ none ∨ Dict.get? second stage ≠ none) :
    stage ∈ comparedStages first second := by
  rw [comparedStages, List.mem_append]
  by_cases known : stage ∈ stageOrder
  · exact Or.inl known
  · refine Or.inr (List.mem_filter.mpr ⟨?_, by simpa using known⟩)
    rw [Dict.mem_sortedSet, List.mem_append, mem_keys_iff_get?, mem_keys_iff_get?]
    exact h

theorem passChanges_eq_nil {first second : Dict String String} :
    passChanges first second = [] ↔
      ∀ identity, Dict.get? first identity = Dict.get? second identity := by
  rw [passChanges, List.map_eq_nil_iff, List.filter_eq_nil_iff]
  constructor
  · intro unchanged identity
    by_cases absent : Dict.get? first identity = none ∧ Dict.get? second identity = none
    · rw [absent.1, absent.2]
    · have member : identity ∈ Dict.sortedSet (Dict.keys first ++ Dict.keys second) := by
        rw [Dict.mem_sortedSet, List.mem_append, mem_keys_iff_get?, mem_keys_iff_get?]
        tauto
      simpa using unchanged identity member
  · intro same identity _
    simp [same identity]

/-- A comparison shows what differs in the fingerprints and in the last executions. -/
theorem showsNoDifference_iff :
    ShowsNoDifference (compareCompilerExperiments left right) ↔
      left.fingerprintMap = right.fingerprintMap ∧
        ∀ identity, (executionStatuses left identity).getLast? =
          (executionStatuses right identity).getLast? := by
  have stages : (∀ stage ∈ (compareCompilerExperiments left right).stages,
      stage.outcome ≠ .different ∧ stage.outcome ≠ .missing) ↔
        left.fingerprintMap = right.fingerprintMap := by
    rw [compareCompilerExperiments, List.forall_mem_map]
    constructor
    · intro equal
      refine Dict.Ordered.ext fingerprintMap_ordered fingerprintMap_ordered fun stage => ?_
      by_cases emitted : Dict.get? left.fingerprintMap stage ≠ none ∨
          Dict.get? right.fingerprintMap stage ≠ none
      · exact stageOutcome_eq.mp (equal stage (mem_comparedStages emitted))
      · rw [not_or, not_not, not_not] at emitted
        rw [emitted.1, emitted.2]
    · intro same stage _
      exact stageOutcome_eq.mpr (by rw [same])
  rw [ShowsNoDifference, stages, compareCompilerExperiments, passChanges_eq_nil]
  simp only [get?_passStatuses]

/-! ## Repeated passes -/

/-- Some pass was executed several times, and the two studies differ only before its
last execution. -/
def DifferOnlyEarlier (left right : CompilerExperimentObservation) : Prop :=
  left.fingerprintMap = right.fingerprintMap ∧
    (∀ identity, (executionStatuses left identity).getLast? =
      (executionStatuses right identity).getLast?) ∧
    ∃ identity, (executionStatuses left identity).dropLast ≠
      (executionStatuses right identity).dropLast

theorem eq_iff_dropLast {first second : List String} (last : first.getLast? = second.getLast?) :
    first = second ↔ first.dropLast = second.dropLast := by
  constructor
  · rintro rfl
    rfl
  · intro earlier
    cases found : first.getLast? with
    | none =>
        rw [found] at last
        rw [List.getLast?_eq_none_iff.mp found, List.getLast?_eq_none_iff.mp last.symm]
    | some status =>
        rw [found] at last
        rw [← List.dropLast_append_getLast? status found, earlier,
          List.dropLast_append_getLast? status last.symm]

/-- Comparisons are mirror images and miss nothing, except where the earlier executions of
a pass differ and nothing else does. -/
theorem compareCompilerExperiments_complete_iff {leftRecord rightRecord : Dict String Json}
    (_ : fromLanguageRecord leftRecord = .ok left)
    (_ : fromLanguageRecord rightRecord = .ok right) :
    (compareCompilerExperiments right left = (compareCompilerExperiments left right).mirror ∧
      (ShowsNoDifference (compareCompilerExperiments left right) → SameExecution left right)) ↔
        ¬DifferOnlyEarlier left right := by
  rw [and_iff_right compareCompilerExperiments_mirror, showsNoDifference_iff]
  constructor
  · rintro complete ⟨fingerprints, last, identity, earlier⟩
    exact earlier ((eq_iff_dropLast (last identity)).mp
      ((complete ⟨fingerprints, last⟩).2 identity))
  · rintro visible ⟨fingerprints, last⟩
    refine ⟨fingerprints, fun identity => (eq_iff_dropLast (last identity)).mpr ?_⟩
    by_contra earlier
    exact visible ⟨fingerprints, last, identity, earlier⟩

/-- A study whose one pass was executed with the given statuses. -/
private def studyRecord (statuses : List String) : Dict String Json :=
  [("build_host_identity", .str "b"), ("compilation_status", .str "completed"),
   ("compiler_host_identity", .str "h"), ("compiler_identity", .str "c"),
   ("contract_id", .str studyContract), ("identity", .str "i"),
   ("interpretation", .str observationOnly),
   ("pass_executions", .arr (statuses.map fun status => .obj
     [("edge_identity", .str "e"), ("input_artifact", .str "x"), ("output_artifact", .str "y"),
      ("pass_id", .str "lower"), ("pass_identity", .str "p"), ("status", .str status)])),
   ("pipeline_identity", .str "l"), ("run_identity", .str "r"), ("schema_version", .str "0.1"),
   ("stage_fingerprints", .obj []), ("unresolved_obligations", .arr [])]

private def studyObservation (statuses : List String) : CompilerExperimentObservation where
  contractId := studyContract
  schemaVersion := "0.1"
  languageRecordIdentity := "i"
  runIdentity := "r"
  compilerIdentity := "c"
  pipelineIdentity := "l"
  compilerHostIdentity := "h"
  buildHostIdentity := "b"
  targetIdentity := none
  compilationStatus := "completed"
  stageFingerprints := []
  passExecutions := statuses.map fun status => ⟨"e", "p", "lower", "x", "y", status⟩
  unresolvedObligations := []
  interpretation := observationOnly

theorem compareCompilerExperiments_complete_iff_single :
    (compareCompilerExperiments (studyObservation ["PASS"]) (studyObservation ["FAIL"]) =
        (compareCompilerExperiments (studyObservation ["FAIL"])
          (studyObservation ["PASS"])).mirror ∧
      (ShowsNoDifference (compareCompilerExperiments (studyObservation ["FAIL"])
          (studyObservation ["PASS"])) →
        SameExecution (studyObservation ["FAIL"]) (studyObservation ["PASS"]))) ↔
      ¬DifferOnlyEarlier (studyObservation ["FAIL"]) (studyObservation ["PASS"]) :=
  @compareCompilerExperiments_complete_iff _ _ (studyRecord ["FAIL"]) (studyRecord ["PASS"])
    (by decide +kernel) (by decide +kernel)

/-- A pass that failed first and one that did not are not told apart. -/
theorem compareCompilerExperiments_hides_failure :
    fromLanguageRecord (studyRecord ["FAIL", "PASS"]) =
        .ok (studyObservation ["FAIL", "PASS"]) ∧
      fromLanguageRecord (studyRecord ["PASS", "PASS"]) =
        .ok (studyObservation ["PASS", "PASS"]) ∧
      ShowsNoDifference (compareCompilerExperiments (studyObservation ["FAIL", "PASS"])
        (studyObservation ["PASS", "PASS"])) ∧
      executionStatuses (studyObservation ["FAIL", "PASS"]) "p" ≠
        executionStatuses (studyObservation ["PASS", "PASS"]) "p" := by
  refine ⟨by decide +kernel, by decide +kernel, ?_, by decide +kernel⟩
  rw [showsNoDifference_iff]
  refine ⟨rfl, fun identity => ?_⟩
  by_cases same : "p" = identity <;> simp [executionStatuses, studyObservation, same]

end MncsForge.CompilerEvolution
