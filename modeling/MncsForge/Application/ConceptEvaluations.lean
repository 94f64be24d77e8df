import Mathlib
import MncsForge.Application.ExecutionReceipts
import MncsForge.Foundation.WhiteSpace
import MncsForge.Records.Construction

/-!
# Concept evaluations

An evaluation is an object that carries the digest of its other fields.  The builder
strips and bounds its texts and keeps a generator from being its own verifier; the
verifier derives the digest again, and what it accepts can be recorded.
-/

namespace MncsForge.Application.ConceptExperiments

open MncsForge.Foundation MncsForge.Foundation.Text MncsForge.Records
open Lifecycle (History typed)

/-! ## Building -/

def conceptEvaluationSchema : String := "mncs-forge.concept-evaluation.v0.1"

def claimBoundary : String :=
  "Forge evaluator scope only; candidate generation, Language semantics, Fabric " ++
    "execution, scientific interpretation, and MNCS conformance remain separate"

/-- `_text` -/
def boundedText (value name : String) (maximum : Nat) : Except ForgeError String := do
  refuseIf (strip value = "" ∨ maximum < value.length ∨ '\x00' ∈ value.toList)
    "CONCEPT_EVALUATION_INVALID" s!"{name} must be bounded text"
  .ok (strip value)

/-- The sorted set of the texts. -/
def boundedTexts (values : List String) (name : String) : Except ForgeError (List String) := do
  let values ← values.mapM fun value => boundedText value name 4096
  .ok (Dict.sortedSet values)

structure EvaluationArguments where
  conceptExperimentId : String
  candidateIdentity : String
  languageProfile : String
  compilerIdentity : String
  backendIdentity : String
  executionIdentities : List String
  verifierIdentity : String
  verifierVersion : String
  obligation : String
  evidenceIdentities : List String
  status : String
  unresolvedObligations : List String := []
  generatorIdentity : Option String := none
  evaluatorPolicyIdentity : Option String := none
  deriving DecidableEq

/-- The arguments as the builder takes them up. -/
def takeUp (given : EvaluationArguments) : Except ForgeError EvaluationArguments := do
  refuseIf (given.status ∉ statuses) "CONCEPT_EVALUATION_STATUS"
    "status must preserve PASS, FAIL, or UNKNOWN"
  let verifierIdentity ← boundedText given.verifierIdentity "verifier_identity" 4096
  refuseIf (given.generatorIdentity = some verifierIdentity)
    "CONCEPT_EVALUATION_SELF_CERTIFICATION"
    "candidate generator and evaluator identities must be distinct"
  let conceptExperimentId ←
    boundedText given.conceptExperimentId "concept_experiment_id" 256
  let candidateIdentity ← boundedText given.candidateIdentity "candidate_identity" 4096
  let languageProfile ← boundedText given.languageProfile "language_profile" 4096
  let compilerIdentity ← boundedText given.compilerIdentity "compiler_identity" 4096
  let backendIdentity ← boundedText given.backendIdentity "backend_identity" 4096
  let executionIdentities ← boundedTexts given.executionIdentities "execution_identities[]"
  let verifierVersion ← boundedText given.verifierVersion "verifier_version" 256
  let obligation ← boundedText given.obligation "obligation" 4096
  let evidenceIdentities ← boundedTexts given.evidenceIdentities "evidence_identities[]"
  let unresolvedObligations ←
    boundedTexts given.unresolvedObligations "unresolved_obligations[]"
  .ok
    { given with
      conceptExperimentId, candidateIdentity, languageProfile, compilerIdentity,
      backendIdentity, executionIdentities, verifierIdentity, verifierVersion, obligation,
      evidenceIdentities, unresolvedObligations }

/-- The material of an evaluation, in key order. -/
def materialOf (given : EvaluationArguments) : Dict String Json :=
  [("backend_identity", .str given.backendIdentity),
   ("candidate_identity", .str given.candidateIdentity),
   ("claim_boundary", .str claimBoundary),
   ("compiler_identity", .str given.compilerIdentity),
   ("concept_experiment_id", .str given.conceptExperimentId),
   ("evaluator_policy_identity", .ofText given.evaluatorPolicyIdentity),
   ("evidence_identities", texts given.evidenceIdentities),
   ("execution_identities", texts given.executionIdentities),
   ("generator_certified", .bool false),
   ("generator_identity", .ofText given.generatorIdentity),
   ("interpretation", .str conceptEvaluationInterpretation),
   ("language_profile", .str given.languageProfile),
   ("obligation", .str given.obligation),
   ("producer", .str "mncs-forge"),
   ("schema_version", .str conceptEvaluationSchema),
   ("status", .str given.status),
   ("unresolved_obligations", texts given.unresolvedObligations),
   ("verifier_identity", .str given.verifierIdentity),
   ("verifier_version", .str given.verifierVersion)]

section Evaluation

variable (hashing : Hashing)

/-- `_digest` -/
def evaluationDigest (material : Dict String Json) : String :=
  "sha256:" ++ localJsonDigest hashing (.obj material)

/-- `f"mncs-forge://evaluation/\x7bcontent_digest[7:]\x7d"` -/
def stableId (contentDigest : String) : String :=
  "mncs-forge://evaluation/" ++ String.ofList (contentDigest.toList.drop 7)

/-- The material with the two fields that are derived from it. -/
def sealed (material : Dict String Json) : Dict String Json :=
  let contentDigest := evaluationDigest hashing material
  Dict.update material
    [("content_digest", .str contentDigest), ("stable_id", .str (stableId contentDigest))]

def buildConceptEvaluation (given : EvaluationArguments) :
    Except ForgeError (Dict String Json) := do
  let given ← takeUp given
  .ok (sealed hashing (materialOf given))

/-! ## Verifying -/

def evaluationKeys : List String :=
  ["backend_identity", "candidate_identity", "claim_boundary", "compiler_identity",
   "concept_experiment_id", "content_digest", "evaluator_policy_identity",
   "evidence_identities", "execution_identities", "generator_certified",
   "generator_identity", "interpretation", "language_profile", "obligation", "producer",
   "schema_version", "stable_id", "status", "unresolved_obligations", "verifier_identity",
   "verifier_version"]

/-- The evaluation without its derived fields. -/
def evaluationMaterial (evaluation : Dict String Json) : Dict String Json :=
  Dict.erase (Dict.erase evaluation "stable_id") "content_digest"

def verifyConceptEvaluation (evaluation : Dict String Json) :
    Except ForgeError (Dict String Json) := do
  refuseIf (field evaluation "schema_version" ≠ .str conceptEvaluationSchema)
    "CONCEPT_EVALUATION_INVALID" "unsupported evaluation schema version"
  let unknown := (Dict.keys evaluation).filter (· ∉ evaluationKeys)
  refuseIf (unknown ≠ []) "CONCEPT_EVALUATION_INVALID"
    s!"evaluation has unknown fields: {joined unknown}"
  refuseIf ("stable_id" ∉ Dict.keys evaluation ∨ "content_digest" ∉ Dict.keys evaluation)
    "CONCEPT_EVALUATION_INVALID"
    "evaluation must carry derived stable_id and content_digest fields"
  let material := evaluationMaterial evaluation
  let expectedDigest := evaluationDigest hashing material
  refuseIf (field evaluation "content_digest" ≠ .str expectedDigest) "RECORD_IDENTITY"
    "concept evaluation content digest does not reproduce from its material"
  refuseIf (field evaluation "stable_id" ≠ .str (stableId expectedDigest)) "RECORD_IDENTITY"
    "concept evaluation stable id does not reproduce from its material"
  refuseIf (field material "generator_certified" ≠ .bool false)
    "CONCEPT_EVALUATION_SELF_CERTIFICATION"
    "concept evaluations must record generator_certified as false"
  refuseIf (field material "interpretation" ≠ .str conceptEvaluationInterpretation)
    "CONCEPT_EVALUATION_INVALID"
    "concept evaluations must keep the bounded Forge interpretation"
  .ok material

/-! ## Recording -/

/-- `material[name]` -/
def materialItem (material : Dict String Json) (name : String) : Except ForgeError Json :=
  match Dict.get? material name with
  | some value => .ok value
  | none => .error ⟨"KeyError", name⟩

/-- The fields that are read from the material, as the source lists them. -/
def recordedNames : List String :=
  ["concept_experiment_id", "candidate_identity", "language_profile", "compiler_identity",
   "backend_identity", "execution_identities", "verifier_identity", "verifier_version",
   "obligation", "evidence_identities", "status", "unresolved_obligations",
   "generator_identity", "evaluator_policy_identity"]

def evaluationRecord (evaluation material : Dict String Json) (recordedAt : String) :
    Except ForgeError ForgeRecord := do
  let items ← recordedNames.mapM (materialItem material)
  newRecord hashing .conceptEvaluation
    (Dict.update []
      (recordedNames.zip items ++
        [("generator_certified", .bool false),
         ("evaluation_material", .obj evaluation),
         ("stable_id", field evaluation "stable_id"),
         ("content_digest", .str (field evaluation "content_digest").display),
         ("interpretation", .str conceptEvaluationInterpretation),
         ("assurance_status", .null),
         ("conformance_status", .null),
         ("recorded_at", .str recordedAt)]))

/-- `ConceptEvaluationService.record` -/
def recordConceptEvaluation (commit : RecordCommitter) (evaluation : Dict String Json)
    (recordedAt : String) (history : History) :
    Except ForgeError (Dict String Json × History) := do
  let material ← verifyConceptEvaluation hashing evaluation
  let digest := (field evaluation "content_digest").display
  let record ← evaluationRecord hashing evaluation material recordedAt
  match (typed .conceptEvaluation history).find? fun known =>
      known.get "content_digest" = .str digest with
  | some known => .ok (known.toJson, history)
  | none => do
      let history ← commit history "concept-evaluations" "concept_evaluation" record
      .ok (record.toJson, history)

end Evaluation

/-! ## Arguments that are taken up unchanged -/

/-- A text the builder leaves as it is. -/
structure Bounded (maximum : Nat) (text : String) : Prop where
  stripped : strip text = text
  nonempty : text ≠ ""
  short : text.length ≤ maximum
  plain : '\x00' ∉ text.toList

/-- A list the builder leaves as it is. -/
structure BoundedSet (values : List String) : Prop where
  increasing : values.Pairwise (· < ·)
  bounded : ∀ value ∈ values, Bounded 4096 value

theorem boundedText_bounded {value name text : String} {maximum : Nat}
    (h : boundedText value name maximum = .ok text) : Bounded maximum text := by
  rw [boundedText, refuseIf_bind_eq_ok] at h
  obtain ⟨accepted, taken⟩ := h
  obtain rfl := Except.ok.inj taken
  push Not at accepted
  obtain ⟨nonempty, short, plain⟩ := accepted
  exact
    { stripped := strip_strip value
      nonempty := nonempty
      short := (length_strip_le value).trans short
      plain := fun member => plain (mem_of_mem_strip member) }

theorem Bounded.boundedText_eq {text name : String} {maximum : Nat}
    (h : Bounded maximum text) : boundedText text name maximum = .ok text := by
  rw [boundedText, refuseIf_bind_eq_ok, h.stripped]
  refine ⟨?_, rfl⟩
  rintro (empty | long | marked)
  · exact h.nonempty empty
  · exact absurd h.short (by omega)
  · exact h.plain marked

theorem boundedTexts_bounded {values taken : List String} {name : String}
    (h : boundedTexts values name = .ok taken) : BoundedSet taken := by
  rw [boundedTexts, bind_eq_ok] at h
  obtain ⟨stripped, each, sorted⟩ := h
  obtain rfl := Except.ok.inj sorted
  refine ⟨Dict.sortedSet_pairwise stripped, fun value member => ?_⟩
  obtain ⟨_, _, bounded⟩ := mem_of_mapM_eq_ok each (Dict.mem_sortedSet.mp member)
  exact boundedText_bounded bounded

theorem BoundedSet.boundedTexts_eq {values : List String} {name : String}
    (h : BoundedSet values) : boundedTexts values name = .ok values := by
  have each : (values.mapM fun value => boundedText value name 4096) = .ok values :=
    mapM_eq_ok_iff.mpr (List.forall₂_same.mpr fun value member =>
      (h.bounded value member).boundedText_eq)
  have same : Dict.sortedSet values = values :=
    (Dict.sortedSet_pairwise values).eq_of_mem_iff h.increasing fun _ => Dict.mem_sortedSet
  rw [boundedTexts, each]
  exact congrArg Except.ok same

/-- Arguments the builder takes up unchanged. -/
structure Normal (given : EvaluationArguments) : Prop where
  status : given.status ∈ statuses
  verifierIdentity : Bounded 4096 given.verifierIdentity
  apart : given.generatorIdentity ≠ some given.verifierIdentity
  conceptExperimentId : Bounded 256 given.conceptExperimentId
  candidateIdentity : Bounded 4096 given.candidateIdentity
  languageProfile : Bounded 4096 given.languageProfile
  compilerIdentity : Bounded 4096 given.compilerIdentity
  backendIdentity : Bounded 4096 given.backendIdentity
  executionIdentities : BoundedSet given.executionIdentities
  verifierVersion : Bounded 256 given.verifierVersion
  obligation : Bounded 4096 given.obligation
  evidenceIdentities : BoundedSet given.evidenceIdentities
  unresolvedObligations : BoundedSet given.unresolvedObligations

theorem takeUp_normal {given taken : EvaluationArguments} (h : takeUp given = .ok taken) :
    Normal taken := by
  simp only [takeUp, bind_eq_ok, refuseIf_eq_ok, Except.ok.injEq] at h
  obtain ⟨_, status, verifier, hverifier, _, apart, experiment, hexperiment, candidate, hcandidate,
    profile, hprofile, compiler, hcompiler, backend, hbackend, executions, hexecutions,
    version, hversion, obligation, hobligation, evidence, hevidence, unresolved, hunresolved,
    rfl⟩ := h
  exact
    { status := not_not.mp status
      verifierIdentity := boundedText_bounded hverifier
      apart := apart
      conceptExperimentId := boundedText_bounded hexperiment
      candidateIdentity := boundedText_bounded hcandidate
      languageProfile := boundedText_bounded hprofile
      compilerIdentity := boundedText_bounded hcompiler
      backendIdentity := boundedText_bounded hbackend
      executionIdentities := boundedTexts_bounded hexecutions
      verifierVersion := boundedText_bounded hversion
      obligation := boundedText_bounded hobligation
      evidenceIdentities := boundedTexts_bounded hevidence
      unresolvedObligations := boundedTexts_bounded hunresolved }

theorem Normal.takeUp_eq {given : EvaluationArguments} (h : Normal given) :
    takeUp given = .ok given := by
  simp only [takeUp, bind_eq_ok, refuseIf_eq_ok, Except.ok.injEq]
  exact ⟨(), not_not.mpr h.status, _, h.verifierIdentity.boundedText_eq, (), h.apart,
    _, h.conceptExperimentId.boundedText_eq, _, h.candidateIdentity.boundedText_eq,
    _, h.languageProfile.boundedText_eq, _, h.compilerIdentity.boundedText_eq,
    _, h.backendIdentity.boundedText_eq, _, h.executionIdentities.boundedTexts_eq,
    _, h.verifierVersion.boundedText_eq, _, h.obligation.boundedText_eq,
    _, h.evidenceIdentities.boundedTexts_eq, _, h.unresolvedObligations.boundedTexts_eq, rfl⟩

section Verified

variable {hashing : Hashing} {evaluation : Dict String Json}

/-- The evaluation is what the builder makes of some arguments. -/
def Built (hashing : Hashing) (evaluation : Dict String Json) : Prop :=
  ∃ given, buildConceptEvaluation hashing given = .ok evaluation

theorem built_iff_normal :
    Built hashing evaluation ↔
      ∃ given, Normal given ∧ evaluation = sealed hashing (materialOf given) := by
  constructor
  · rintro ⟨given, built⟩
    obtain ⟨taken, htaken, rest⟩ := bind_eq_ok.mp built
    exact ⟨taken, takeUp_normal htaken, (Except.ok.inj rest).symm⟩
  · rintro ⟨given, normal, rfl⟩
    exact ⟨given, bind_eq_ok.mpr ⟨given, normal.takeUp_eq, rfl⟩⟩

/-! ## What the verifier asks -/

/-- The evaluation carries the digest of its material, and of the rest what the verifier
looks at. -/
structure Reproduces (hashing : Hashing) (evaluation : Dict String Json) : Prop where
  schema : Dict.get? evaluation "schema_version" = some (.str conceptEvaluationSchema)
  known : ∀ key ∈ Dict.keys evaluation, key ∈ evaluationKeys
  digest : Dict.get? evaluation "content_digest" =
    some (.str (evaluationDigest hashing (evaluationMaterial evaluation)))
  stable : Dict.get? evaluation "stable_id" =
    some (.str (stableId (evaluationDigest hashing (evaluationMaterial evaluation))))
  uncertified : Dict.get? evaluation "generator_certified" = some (.bool false)
  interpretation : Dict.get? evaluation "interpretation" =
    some (.str conceptEvaluationInterpretation)

theorem field_eq_iff {fields : Dict String Json} {name : String} {value : Json}
    (present : value ≠ .null) :
    field fields name = value ↔ Dict.get? fields name = some value := by
  unfold field
  cases h : Dict.get? fields name with
  | none =>
      constructor
      · exact fun absent => absurd absent.symm present
      · exact fun absent => by cases absent
  | some found => simp

theorem get?_evaluationMaterial (evaluation : Dict String Json) (key : String) :
    Dict.get? (evaluationMaterial evaluation) key =
      if key ∈ ["content_digest", "stable_id"] then none else Dict.get? evaluation key := by
  simp only [evaluationMaterial, Dict.get?_erase, List.mem_cons, List.not_mem_nil, or_false]
  split_ifs with digest stable derived derived derived <;> simp_all

theorem verifyConceptEvaluation_eq_ok {material : Dict String Json} :
    verifyConceptEvaluation hashing evaluation = .ok material ↔
      Reproduces hashing evaluation ∧ material = evaluationMaterial evaluation := by
  have derived (name : String) (h : name ∉ ["content_digest", "stable_id"]) :
      field (evaluationMaterial evaluation) name = field evaluation name := by
    rw [field, get?_evaluationMaterial, if_neg h, field]
  have texts (name text : String) :=
    @field_eq_iff evaluation name (.str text) (by simp)
  have flags (name : String) (flag : Bool) :=
    @field_eq_iff evaluation name (.bool flag) (by simp)
  simp only [verifyConceptEvaluation, refuseIf_bind_eq_ok, Except.ok.injEq, not_not,
    derived "generator_certified" (by decide), derived "interpretation" (by decide),
    texts, flags]
  constructor
  · rintro ⟨schema, known, _, digest, stable, uncertified, interpretation, rfl⟩
    refine ⟨⟨schema, fun key member => ?_, digest, stable, uncertified, interpretation⟩, rfl⟩
    simpa using List.filter_eq_nil_iff.mp known key member
  · rintro ⟨h, rfl⟩
    refine ⟨h.schema, List.filter_eq_nil_iff.mpr fun key member => ?_, ?_, h.digest, h.stable,
      h.uncertified, h.interpretation, rfl⟩
    · simpa using h.known key member
    · rw [← Dict.get?_isSome_iff, ← Dict.get?_isSome_iff, h.digest, h.stable]
      simp

/-! ## What the builder writes -/

/-- The texts of an evaluation, with their longest length. -/
def boundedNames : List (String × Nat) :=
  [("backend_identity", 4096), ("candidate_identity", 4096), ("compiler_identity", 4096),
   ("concept_experiment_id", 256), ("language_profile", 4096), ("obligation", 4096),
   ("verifier_identity", 4096), ("verifier_version", 256)]

def boundedSetNames : List String :=
  ["evidence_identities", "execution_identities", "unresolved_obligations"]

def optionalNames : List String := ["evaluator_policy_identity", "generator_identity"]

/-- Every field is there and of the builder's form. -/
structure BuilderForm (evaluation : Dict String Json) : Prop where
  bounded : ∀ entry ∈ boundedNames, ∃ text,
    Dict.get? evaluation entry.1 = some (.str text) ∧ Bounded entry.2 text
  sets : ∀ name ∈ boundedSetNames, ∃ values,
    Dict.get? evaluation name = some (texts values) ∧ BoundedSet values
  optional : ∀ name ∈ optionalNames, ∃ text, Dict.get? evaluation name = some (.ofText text)
  status : ∃ status ∈ statuses, Dict.get? evaluation "status" = some (.str status)
  producer : Dict.get? evaluation "producer" = some (.str "mncs-forge")
  boundary : Dict.get? evaluation "claim_boundary" = some (.str claimBoundary)

/-- The verifier and the generator are not the same text. -/
def Distinct (evaluation : Dict String Json) : Prop :=
  ∀ verifier, Dict.get? evaluation "verifier_identity" = some (.str verifier) →
    Dict.get? evaluation "generator_identity" ≠ some (.str verifier)

/-- The verifier and the generator are not the same up to surrounding white space. -/
def Independent (evaluation : Dict String Json) : Prop :=
  ∀ verifier generator, Dict.get? evaluation "verifier_identity" = some (.str verifier) →
    Dict.get? evaluation "generator_identity" = some (.str generator) →
    strip verifier ≠ strip generator

theorem Independent.distinct (h : Independent evaluation) : Distinct evaluation :=
  fun verifier hverifier hgenerator => h verifier verifier hverifier hgenerator rfl

theorem materialOf_ordered (given : EvaluationArguments) :
    Dict.Ordered (materialOf given) := by
  show List.Pairwise (· < ·)
    ["backend_identity", "candidate_identity", "claim_boundary", "compiler_identity",
     "concept_experiment_id", "evaluator_policy_identity", "evidence_identities",
     "execution_identities", "generator_certified", "generator_identity", "interpretation",
     "language_profile", "obligation", "producer", "schema_version", "status",
     "unresolved_obligations", "verifier_identity", "verifier_version"]
  decide

theorem get?_sealed (material : Dict String Json) (key : String) :
    Dict.get? (sealed hashing material) key =
      if key = "content_digest" then some (.str (evaluationDigest hashing material))
      else if key = "stable_id" then some (.str (stableId (evaluationDigest hashing material)))
      else Dict.get? material key := by
  have ordered : Dict.Ordered
      [("content_digest", Json.str (evaluationDigest hashing material)),
       ("stable_id", Json.str (stableId (evaluationDigest hashing material)))] := by
    show List.Pairwise (· < ·) ["content_digest", "stable_id"]
    decide
  rw [sealed, Dict.get?_update ordered, Dict.get?_cons, Dict.get?_cons]
  split_ifs <;> simp

theorem sealed_ordered {material : Dict String Json} (ordered : Dict.Ordered material) :
    Dict.Ordered (sealed hashing material) :=
  ordered.update _

theorem get?_materialOf_derived (given : EvaluationArguments) {key : String}
    (h : key ∈ ["content_digest", "stable_id"]) : Dict.get? (materialOf given) key = none := by
  simp only [List.mem_cons, List.not_mem_nil, or_false] at h
  rcases h with rfl | rfl <;> rfl

theorem evaluationMaterial_sealed (given : EvaluationArguments) :
    evaluationMaterial (sealed hashing (materialOf given)) = materialOf given := by
  have ordered : Dict.Ordered (sealed hashing (materialOf given)) :=
    sealed_ordered (materialOf_ordered given)
  refine ((ordered.erase _).erase _).ext (materialOf_ordered given) fun key => ?_
  rw [← evaluationMaterial, get?_evaluationMaterial, get?_sealed]
  by_cases derived : key ∈ ["content_digest", "stable_id"]
  · rw [if_pos derived, get?_materialOf_derived given derived]
  · simp only [List.mem_cons, List.not_mem_nil, or_false, not_or] at derived
    simp [derived]

/-- Sealed material reproduces, whatever the arguments are. -/
theorem sealed_reproduces (given : EvaluationArguments) :
    Reproduces hashing (sealed hashing (materialOf given)) where
  schema := by rw [get?_sealed]; rfl
  known := by
    intro key member
    rw [← Dict.get?_isSome_iff, get?_sealed] at member
    by_contra unknown
    simp only [evaluationKeys, List.mem_cons, List.not_mem_nil, or_false, not_or] at unknown
    simp [materialOf, Dict.get?_cons, unknown] at member
  digest := by rw [evaluationMaterial_sealed, get?_sealed]; rfl
  stable := by rw [evaluationMaterial_sealed, get?_sealed]; rfl
  uncertified := by rw [get?_sealed]; rfl
  interpretation := by rw [get?_sealed]; rfl

theorem sealed_keys (given : EvaluationArguments) :
    ∀ name ∈ evaluationKeys, name ∈ Dict.keys (sealed hashing (materialOf given)) := by
  simp [evaluationKeys, ← Dict.get?_isSome_iff, get?_sealed, materialOf, Dict.get?_cons]

theorem Normal.builderForm {given : EvaluationArguments} (h : Normal given) :
    BuilderForm (sealed hashing (materialOf given)) where
  bounded := by
    simp only [boundedNames, List.forall_mem_cons, get?_sealed]
    exact ⟨⟨_, rfl, h.backendIdentity⟩, ⟨_, rfl, h.candidateIdentity⟩,
      ⟨_, rfl, h.compilerIdentity⟩, ⟨_, rfl, h.conceptExperimentId⟩,
      ⟨_, rfl, h.languageProfile⟩, ⟨_, rfl, h.obligation⟩, ⟨_, rfl, h.verifierIdentity⟩,
      ⟨_, rfl, h.verifierVersion⟩, by simp⟩
  sets := by
    simp only [boundedSetNames, List.forall_mem_cons, get?_sealed]
    exact ⟨⟨_, rfl, h.evidenceIdentities⟩, ⟨_, rfl, h.executionIdentities⟩,
      ⟨_, rfl, h.unresolvedObligations⟩, by simp⟩
  optional := by
    simp only [optionalNames, List.forall_mem_cons, get?_sealed]
    exact ⟨⟨_, rfl⟩, ⟨_, rfl⟩, by simp⟩
  status := ⟨_, h.status, by rw [get?_sealed]; rfl⟩
  producer := by rw [get?_sealed]; rfl
  boundary := by rw [get?_sealed]; rfl

theorem Normal.distinct {given : EvaluationArguments} (h : Normal given) :
    Distinct (sealed hashing (materialOf given)) := by
  intro verifier hverifier hgenerator
  rw [get?_sealed] at hverifier hgenerator
  have same : given.verifierIdentity = verifier := by
    simpa [materialOf, Dict.get?_cons] using hverifier
  apply h.apart
  rw [same]
  cases hnamed : given.generatorIdentity with
  | none => simp [materialOf, Dict.get?_cons, hnamed, Json.ofText] at hgenerator
  | some generator => simpa [materialOf, Dict.get?_cons, hnamed, Json.ofText] using hgenerator

/-- An evaluation that reproduces and has the builder's form was made by the builder:
its own fields are the arguments. -/
theorem BuilderForm.exists_normal (form : BuilderForm evaluation)
    (ordered : Dict.Ordered evaluation) (reproduces : Reproduces hashing evaluation)
    (distinct : Distinct evaluation) :
    ∃ given, Normal given ∧ evaluation = sealed hashing (materialOf given) := by
  have bounded := form.bounded
  have sets := form.sets
  have optional := form.optional
  simp only [boundedNames, List.forall_mem_cons] at bounded
  simp only [boundedSetNames, List.forall_mem_cons] at sets
  simp only [optionalNames, List.forall_mem_cons] at optional
  obtain ⟨⟨backend, hbackend, nbackend⟩, ⟨candidate, hcandidate, ncandidate⟩,
    ⟨compiler, hcompiler, ncompiler⟩, ⟨experiment, hexperiment, nexperiment⟩,
    ⟨profile, hprofile, nprofile⟩, ⟨obligation, hobligation, nobligation⟩,
    ⟨verifier, hverifier, nverifier⟩, ⟨version, hversion, nversion⟩, _⟩ := bounded
  obtain ⟨⟨evidence, hevidence, nevidence⟩, ⟨executions, hexecutions, nexecutions⟩,
    ⟨unresolved, hunresolved, nunresolved⟩, _⟩ := sets
  obtain ⟨⟨policy, hpolicy⟩, ⟨generator, hgenerator⟩, _⟩ := optional
  obtain ⟨status, nstatus, hstatus⟩ := form.status
  let given : EvaluationArguments :=
    { conceptExperimentId := experiment
      candidateIdentity := candidate
      languageProfile := profile
      compilerIdentity := compiler
      backendIdentity := backend
      executionIdentities := executions
      verifierIdentity := verifier
      verifierVersion := version
      obligation := obligation
      evidenceIdentities := evidence
      status := status
      unresolvedObligations := unresolved
      generatorIdentity := generator
      evaluatorPolicyIdentity := policy }
  have apart : generator ≠ some verifier := by
    rintro rfl
    exact distinct verifier hverifier hgenerator
  have normal : Normal given :=
    { status := nstatus
      verifierIdentity := nverifier
      apart := apart
      conceptExperimentId := nexperiment
      candidateIdentity := ncandidate
      languageProfile := nprofile
      compilerIdentity := ncompiler
      backendIdentity := nbackend
      executionIdentities := nexecutions
      verifierVersion := nversion
      obligation := nobligation
      evidenceIdentities := nevidence
      unresolvedObligations := nunresolved }
  have material : evaluationMaterial evaluation = materialOf given := by
    refine ((ordered.erase _).erase _).ext (materialOf_ordered given) fun key => ?_
    rw [← evaluationMaterial, get?_evaluationMaterial]
    by_cases derived : key ∈ ["content_digest", "stable_id"]
    · rw [if_pos derived, get?_materialOf_derived given derived]
    rw [if_neg derived]
    by_cases known : key ∈ evaluationKeys
    · simp only [evaluationKeys, List.mem_cons, List.not_mem_nil, or_false] at known derived
      -- the nineteen fields of the material
      rcases known with rfl | rfl | rfl | rfl | rfl | rfl | rfl | rfl | rfl | rfl | rfl | rfl |
        rfl | rfl | rfl | rfl | rfl | rfl | rfl | rfl | rfl
      · exact hbackend
      · exact hcandidate
      · exact form.boundary
      · exact hcompiler
      · exact hexperiment
      · simp at derived
      · exact hpolicy
      · exact hevidence
      · exact hexecutions
      · exact reproduces.uncertified
      · exact hgenerator
      · exact reproduces.interpretation
      · exact hprofile
      · exact hobligation
      · exact form.producer
      · exact reproduces.schema
      · simp at derived
      · exact hstatus
      · exact hunresolved
      · exact hverifier
      · exact hversion
    · rw [Dict.get?_eq_none_iff.mpr fun member => known (reproduces.known key member)]
      simp only [evaluationKeys, List.mem_cons, List.not_mem_nil, or_false, not_or] at known
      simp [materialOf, Dict.get?_cons, known]
  refine ⟨given, normal, ordered.ext (sealed_ordered (materialOf_ordered given)) fun key => ?_⟩
  rw [get?_sealed, ← material]
  split_ifs with digest stable
  · rw [digest, reproduces.digest]
  · rw [stable, reproduces.stable]
  · rw [get?_evaluationMaterial, if_neg (by simp [digest, stable])]

theorem built_iff (ordered : Dict.Ordered evaluation) :
    Built hashing evaluation ↔
      Reproduces hashing evaluation ∧ BuilderForm evaluation ∧ Distinct evaluation := by
  rw [built_iff_normal]
  constructor
  · rintro ⟨given, normal, rfl⟩
    exact ⟨sealed_reproduces given, normal.builderForm, normal.distinct⟩
  · rintro ⟨reproduces, form, distinct⟩
    exact form.exists_normal ordered reproduces distinct

/-! ## What is recorded -/

/-- The verifier accepts the evaluation. -/
def Accepted (hashing : Hashing) (evaluation : Dict String Json) : Prop :=
  ∃ material, verifyConceptEvaluation hashing evaluation = .ok material

theorem accepted_iff : Accepted hashing evaluation ↔ Reproduces hashing evaluation := by
  constructor
  · rintro ⟨material, accepted⟩
    exact (verifyConceptEvaluation_eq_ok.mp accepted).1
  · intro reproduces
    exact ⟨_, verifyConceptEvaluation_eq_ok.mpr ⟨reproduces, rfl⟩⟩

/-- The generator is named as its own verifier, the status is none or a field is not
there. -/
def Unfit (evaluation : Dict String Json) : Prop :=
  ¬ Independent evaluation ∨
    (∀ status ∈ statuses, Dict.get? evaluation "status" ≠ some (.str status)) ∨
    ∃ name ∈ evaluationKeys, name ∉ Dict.keys evaluation

/-- Recording the evaluation is refused, whatever was recorded before. -/
def NeverRecorded (hashing : Hashing) (evaluation : Dict String Json) : Prop :=
  ∀ commit recordedAt history result,
    recordConceptEvaluation hashing commit evaluation recordedAt history ≠ .ok result

theorem neverRecorded_of_not_accepted (h : ¬ Accepted hashing evaluation) :
    NeverRecorded hashing evaluation := by
  intro commit recordedAt history result recorded
  obtain ⟨material, accepted, _⟩ := bind_eq_ok.mp recorded
  exact h ⟨material, accepted⟩

/-- The verifier accepts what the builder makes, what the builder makes is independent,
and what is unfit is never recorded: for an evaluation, this is so exactly when it does not
reproduce its digest or has the builder's form with an independent verifier. -/
theorem verified_iff_built_iff (ordered : Dict.Ordered evaluation) :
    ((Accepted hashing evaluation ↔ Built hashing evaluation) ∧
        (Built hashing evaluation → Independent evaluation) ∧
        (Unfit evaluation → NeverRecorded hashing evaluation)) ↔
      (Reproduces hashing evaluation → BuilderForm evaluation ∧ Independent evaluation) := by
  constructor
  · rintro ⟨agree, independent, _⟩ reproduces
    have built := agree.mp (accepted_iff.mpr reproduces)
    exact ⟨((built_iff ordered).mp built).2.1, independent built⟩
  · intro kept
    refine ⟨⟨fun accepted => ?_, fun built => ?_⟩, fun built => ?_, fun unfit => ?_⟩
    · have reproduces := accepted_iff.mp accepted
      obtain ⟨form, independent⟩ := kept reproduces
      exact (built_iff ordered).mpr ⟨reproduces, form, independent.distinct⟩
    · exact accepted_iff.mpr ((built_iff ordered).mp built).1
    · exact (kept ((built_iff ordered).mp built).1).2
    · refine neverRecorded_of_not_accepted fun accepted => ?_
      have reproduces := accepted_iff.mp accepted
      obtain ⟨form, independent⟩ := kept reproduces
      rcases unfit with dependent | invalid | ⟨name, expected, missing⟩
      · exact dependent independent
      · obtain ⟨status, valid, hstatus⟩ := form.status
        exact invalid status valid hstatus
      · obtain ⟨given, _, rfl⟩ := form.exists_normal ordered reproduces independent.distinct
        exact missing (sealed_keys given name expected)

end Verified

/-! ## A generator that verifies itself -/

def zeroHashing : Hashing := ⟨fun _ => "00", fun _ => .ok []⟩

def plainArguments (verifier : String) (generator : Option String) : EvaluationArguments where
  conceptExperimentId := "cre-a"
  candidateIdentity := "candidate:a"
  languageProfile := "language:a"
  compilerIdentity := "compiler:a"
  backendIdentity := "backend:a"
  executionIdentities := []
  verifierIdentity := verifier
  verifierVersion := "0.1"
  obligation := "obligation:a"
  evidenceIdentities := []
  status := "UNKNOWN"
  generatorIdentity := generator

def plainEvaluation : Dict String Json :=
  sealed zeroHashing (materialOf (plainArguments "verifier" (some "generator")))

theorem verified_iff_built_iff_plain :
    ((Accepted zeroHashing plainEvaluation ↔ Built zeroHashing plainEvaluation) ∧
        (Built zeroHashing plainEvaluation → Independent plainEvaluation) ∧
        (Unfit plainEvaluation → NeverRecorded zeroHashing plainEvaluation)) ↔
      (Reproduces zeroHashing plainEvaluation →
        BuilderForm plainEvaluation ∧ Independent plainEvaluation) :=
  verified_iff_built_iff (sealed_ordered (materialOf_ordered _))

/-- An evaluation whose generator is its own verifier is accepted though the builder does
not make it, and the builder makes one that names them apart by a blank. -/
theorem own_verifier_accepted :
    (Accepted zeroHashing
        (sealed zeroHashing (materialOf (plainArguments "same" (some "same")))) ∧
      ¬ Built zeroHashing
        (sealed zeroHashing (materialOf (plainArguments "same" (some "same"))))) ∧
      Built zeroHashing
        (sealed zeroHashing (materialOf (plainArguments "same" (some "same ")))) ∧
      ¬ Independent
        (sealed zeroHashing (materialOf (plainArguments "same" (some "same ")))) := by
  refine ⟨⟨accepted_iff.mpr (sealed_reproduces _), fun built => ?_⟩, ?_, fun independent => ?_⟩
  · have ordered : Dict.Ordered
        (sealed zeroHashing (materialOf (plainArguments "same" (some "same")))) :=
      sealed_ordered (materialOf_ordered _)
    refine ((built_iff ordered).mp built).2.2 "same" ?_ ?_
    · rw [get?_sealed]
      rfl
    · rw [get?_sealed]
      rfl
  · exact ⟨plainArguments "same" (some "same "), by decide +kernel⟩
  · refine independent "same" "same " ?_ ?_ (by decide +kernel)
    · rw [get?_sealed]
      rfl
    · rw [get?_sealed]
      rfl

end MncsForge.Application.ConceptExperiments
