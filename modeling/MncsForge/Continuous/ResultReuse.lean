import Mathlib
import MncsForge.Application.ExecutionReceipts
import MncsForge.Records.Reread
import MncsForge.Continuous.EpochReplay

/-!
# Reuse of verifier results

`ContinuousSupervisor._reusable_result` looks from the newest verifier result to the
oldest for one that answers the same question and is still fresh.  While it looks the
configuration and the files stand still.
-/

namespace MncsForge.Continuous

open MncsForge.Foundation MncsForge.Records
open MncsForge.Application (document texts)
open Lifecycle (History Mode typed sortedTexts)

/-! ## Declarations -/

structure ProviderDeclaration where
  providerId : String
  name : String
  identity : Option String
  version : Option String
  command : List String
  capabilities : List String
  executableIdentity : Option String
  descriptor : Option String

structure WorkflowDeclaration where
  name : String
  category : String
  mode : String
  command : List String
  providerProtocol : Bool
  providerId : Option String
  environment : List (String × String)
  disclosure : String
  subject : String

structure VerifierDeclaration where
  verifierId : String
  version : String
  workflow : String
  providerId : String
  method : String
  claim : String
  category : String
  modes : List String
  languages : List String
  artifactTypes : List String
  scopes : List String
  inputKinds : List String
  limitations : List String
  assumptions : List String
  timeoutSeconds : String
  cost : String
  uncertaintyClasses : List String
  parameterKeys : List String
  disclosure : String

inductive FreshnessState where
  | current
  | stale
  | unknown
  deriving DecidableEq, Repr

structure Freshness where
  state : FreshnessState
  reason : String
  changedIdentities : List String := []
  changedPaths : List String := []
  limitation : Option String := none
  deriving DecidableEq

/-- What the supervisor hands back of an earlier result. -/
structure ReusedResult where
  status : Json
  outputIdentity : Json
  freshness : Freshness
  deriving DecidableEq

structure MaterialIdentities where
  configuration : String
  providerConfiguration : String
  verifier : String
  policy : String
  environment : String

def MaterialIdentities.items (identities : MaterialIdentities) : List (String × String) :=
  [("configuration_identity", identities.configuration),
   ("provider_configuration_identity", identities.providerConfiguration),
   ("verifier_identity", identities.verifier),
   ("policy_identity", identities.policy),
   ("environment_identity", identities.environment)]

/-- The verifier service and the project it sees. -/
structure VerifierService where
  hashing : Hashing
  mode : Mode
  /-- `config.raw` -/
  raw : Dict String Json
  providers : Dict String ProviderDeclaration
  workflows : Dict String WorkflowDeclaration
  verifiers : Dict String VerifierDeclaration
  /-- `config.path_values["acceptance_policies"]` -/
  acceptancePolicies : List String
  /-- `config.environment` -/
  environment : WorkflowDeclaration → Except ForgeError (List (String × String))
  /-- `resolve_contained` and `content_identity`, which look at the files. -/
  resolveContained : String → Except ForgeError String
  contentIdentity : List String → Except ForgeError String
  currentCandidateIdentity : Except ForgeError String
  /-- `_source_path` below the root of the project. -/
  sourcePath : String → Except ForgeError String

namespace VerifierService

variable (service : VerifierService)

def localJsonIdentity (value : Json) : String :=
  "forge-json-sha256-v1:" ++ localJsonDigest service.hashing value

/-! ## Material identities -/

def providerConfiguration (provider : ProviderDeclaration) : Json :=
  document
    [("provider_id", .str provider.providerId), ("name", .str provider.name),
     ("identity", .ofText provider.identity), ("version", .ofText provider.version),
     ("command", texts provider.command), ("capabilities", texts provider.capabilities),
     ("executable_identity", .ofText provider.executableIdentity),
     ("descriptor", .ofText provider.descriptor)]

def workflowConfiguration (workflow : WorkflowDeclaration) : Json :=
  document
    [("name", .str workflow.name), ("category", .str workflow.category),
     ("subject", .str workflow.subject), ("mode", .str workflow.mode),
     ("command", texts workflow.command),
     ("provider_protocol", .bool workflow.providerProtocol),
     ("provider_id", .ofText workflow.providerId),
     ("environment", document (workflow.environment.map fun item => (item.1, .str item.2))),
     ("disclosure", .str workflow.disclosure)]

/-- `_public` -/
def publicFields (verifier : VerifierDeclaration) (provider : ProviderDeclaration) :
    List (String × Json) :=
  [("verifier_id", .str verifier.verifierId), ("version", .str verifier.version),
   ("claim", .str verifier.claim), ("category", .str verifier.category),
   ("modes", texts verifier.modes), ("languages", texts verifier.languages),
   ("artifact_types", texts verifier.artifactTypes), ("scopes", texts verifier.scopes),
   ("input_kinds", texts verifier.inputKinds),
   ("uncertainty_classes", texts verifier.uncertaintyClasses), ("cost", .str verifier.cost),
   ("limitations", texts verifier.limitations), ("provider_id", .str verifier.providerId),
   ("provider_identity", .ofText provider.identity),
   ("provider_version", .ofText provider.version), ("method", .str verifier.method)]

def verifierConfiguration (verifier : VerifierDeclaration) (provider : ProviderDeclaration)
    (workflow : WorkflowDeclaration) : Json :=
  document (publicFields verifier provider ++
    [("workflow", .str verifier.workflow), ("assumptions", texts verifier.assumptions),
     ("parameter_keys", texts verifier.parameterKeys),
     ("timeout_seconds", .float verifier.timeoutSeconds),
     ("disclosure", .str verifier.disclosure),
     ("provider_configuration_identity",
       .str (service.localJsonIdentity (providerConfiguration provider))),
     ("workflow_configuration_identity",
       .str (service.localJsonIdentity (workflowConfiguration workflow)))])

/-- `str(config.raw["policies"][name])` -/
def policyPath (name : String) : Except ForgeError String :=
  match Dict.get? service.raw "policies" with
  | some (.obj policies) =>
      match Dict.get? policies name with
      | some path => .ok path.display
      | none => .error ⟨"KeyError", name⟩
  | some _ => .error ⟨"TypeError", "policies is no mapping"⟩
  | none => .error ⟨"KeyError", "policies"⟩

def materialIdentities (verifier : VerifierDeclaration) (provider : ProviderDeclaration)
    (workflow : WorkflowDeclaration) (environment : List (String × String)) :
    Except ForgeError MaterialIdentities := do
  let accepted ← service.acceptancePolicies.mapM service.resolveContained
  let selection ← service.policyPath "selection"
  let selected ← service.resolveContained selection
  let objective ← service.policyPath "useful_benefit_objective"
  let useful ← service.resolveContained objective
  let policy ← service.contentIdentity (accepted ++ [selected, useful])
  .ok
    { configuration := service.localJsonIdentity (.obj service.raw)
      providerConfiguration := service.localJsonIdentity (providerConfiguration provider)
      verifier := service.localJsonIdentity
        (service.verifierConfiguration verifier provider workflow)
      policy := policy
      environment := service.localJsonIdentity
        (document (environment.map fun item => (item.1, .str item.2))) }

/-! ## Freshness -/

/-- The names whose recorded identities are others now. -/
def changedMaterial (identities : MaterialIdentities) (result : Dict String Json) :
    List String :=
  ((identities.items.filter fun item => field result item.1 ≠ .str item.2).map Prod.fst) ++
    if field result "mode" ≠ .str service.mode.value then ["mode"] else []

/-- The paths whose contents are others now; nothing when a path has no recorded identity. -/
def stalePaths (recorded : Dict String Json) : List Json → Except ForgeError (Option (List String))
  | [] => .ok (some [])
  | .str path :: paths =>
      match Dict.get? recorded path with
      | none => .ok none
      | some identity => do
          let resolved ← service.resolveContained path
          let current ← service.contentIdentity [resolved]
          let rest ← stalePaths recorded paths
          .ok (rest.map fun stale => if identity ≠ .str current then path :: stale else stale)
  | _ :: _ => .ok none

/-- What the dependency envelope of a result with unchanged materials says. -/
def envelopeFreshness (result envelope : Dict String Json) : Except ForgeError Freshness :=
  match (Dict.get? envelope "paths").getD (.arr []),
      (Dict.get? envelope "path_identities").getD (.obj []) with
  | .arr paths, .obj recorded => do
      match ← service.stalePaths recorded paths with
      | none =>
          .ok { state := .unknown, reason := "dependency impact cannot be established" }
      | some (path :: stale) =>
          .ok
            { state := .stale
              reason := "a declared dependency-envelope identity changed"
              changedPaths := path :: stale }
      | some [] =>
          let current ← service.currentCandidateIdentity
          if field result "candidate_identity" = .str current then
            .ok
              { state := .current
                reason := "all material and candidate identities still match" }
          else if field envelope "complete" = .bool true then
            .ok
              { state := .current
                reason := "candidate changed outside an unchanged provider-declared complete " ++
                  "dependency envelope"
                limitation := some ("path separation alone is not semantic independence; " ++
                  "this conclusion depends on the provider's declared complete envelope") }
          else
            .ok
              { state := .unknown
                reason := "candidate changed and the provider did not declare a complete " ++
                  "dependency envelope" }
  | _, _ =>
      .ok { state := .unknown, reason := "dependency freshness details are not disclosable" }

/-- `_freshness` with `allow_protected`. -/
def freshness (result : Dict String Json) : Except ForgeError Freshness :=
  match Dict.get? service.verifiers (field result "verifier_id").display with
  | none => .ok { state := .stale, reason := "verifier declaration is no longer present" }
  | some verifier =>
      match Dict.get? service.providers verifier.providerId,
          Dict.get? service.workflows verifier.workflow with
      | some provider, some workflow => do
          let environment ← service.environment workflow
          let identities ← service.materialIdentities verifier provider workflow environment
          let changed := service.changedMaterial identities result
          if changed ≠ [] then
            .ok
              { state := .stale
                reason := "material verifier identities changed"
                changedIdentities := sortedTexts changed }
          else
            match field result "dependency_envelope" with
            | .obj envelope => service.envelopeFreshness result envelope
            | _ =>
                .ok { state := .unknown, reason := "result has no valid dependency envelope" }
      | _, _ =>
          .ok
            { state := .stale
              reason := "referenced provider or workflow declaration is missing" }

/-- With nothing else changed the dependency envelope decides. -/
theorem freshness_of_unchanged {result envelope : Dict String Json}
    {verifier : VerifierDeclaration} {provider : ProviderDeclaration}
    {workflow : WorkflowDeclaration} {environment : List (String × String)}
    {identities : MaterialIdentities}
    (declared : Dict.get? service.verifiers (field result "verifier_id").display = some verifier)
    (provided : Dict.get? service.providers verifier.providerId = some provider)
    (run : Dict.get? service.workflows verifier.workflow = some workflow)
    (environs : service.environment workflow = .ok environment)
    (materials : service.materialIdentities verifier provider workflow environment =
      .ok identities)
    (unchanged : service.changedMaterial identities result = [])
    (enveloped : field result "dependency_envelope" = .obj envelope) :
    service.freshness result = service.envelopeFreshness result envelope := by
  simp [freshness, declared, provided, run, environs, materials, unchanged, enveloped, bind,
    Except.bind]

/-! ## The search -/

def recordedInputs (payload : Dict String Json) : Dict String Json :=
  mapping (field payload "input_identities")

/-- The inputs of a run with no contract, slice, prior artifact or parameters. -/
def defaultInputs : List (String × Json) :=
  [("contract_identity", .null), ("dependency_slice_identities", .obj []),
   ("prior_artifact_identity", .null),
   ("question_parameters_identity", .str (service.localJsonIdentity (.obj [])))]

def dependencyEnvelope (payload : Dict String Json) : Dict String Json :=
  mapping (field payload "dependency_envelope")

/-- What an earlier result has to have answered. -/
structure Question where
  verifierId : String
  candidate : String
  identities : MaterialIdentities

/-- The question of a trigger, unless nothing can be reused for it. -/
def question (candidate : Json) (uri : String) (verifierId : String) :
    Except ForgeError (Option Question) :=
  match candidate with
  | .str candidate =>
      if candidate = "" then .ok none
      else
        match Dict.get? service.verifiers verifierId with
        | none => .ok none
        | some verifier =>
            match Dict.get? service.providers verifier.providerId,
                Dict.get? service.workflows verifier.workflow with
            | none, _ => .error ⟨"KeyError", verifier.providerId⟩
            | some _, none => .error ⟨"KeyError", verifier.workflow⟩
            | some provider, some workflow => do
                let environment ← service.environment workflow
                let identities ←
                  service.materialIdentities verifier provider workflow environment
                match service.sourcePath uri with
                | .error _ => .ok none
                | .ok _ => .ok (some ⟨verifierId, candidate, identities⟩)
  | _ => .ok none

def reused (payload : Dict String Json) (freshness : Freshness) : ReusedResult where
  status := (Dict.get? payload "status").getD (.str "UNKNOWN")
  outputIdentity := field payload "output_identity"
  freshness := freshness

/-- The loop of `_reusable_result`, newest result first. -/
def firstReusable (q : Question) :
    List (Dict String Json) → Except ForgeError (Option ReusedResult)
  | [] => .ok none
  | payload :: older =>
      if field payload "verifier_id" ≠ .str q.verifierId ∨
          field payload "mode" ≠ .str service.mode.value then
        firstReusable q older
      else if field payload "candidate_identity" ≠ .str q.candidate then firstReusable q older
      else if ∃ item ∈ q.identities.items, field payload item.1 ≠ .str item.2 then
        firstReusable q older
      else if field (recordedInputs payload) "candidate_identity" ≠ .str q.candidate then
        firstReusable q older
      else if ∃ input ∈ service.defaultInputs,
          field (recordedInputs payload) input.1 ≠ input.2 then
        firstReusable q older
      else if field (dependencyEnvelope payload) "complete" ≠ .bool true then
        firstReusable q older
      else do
        let freshness ← service.freshness payload
        if freshness.state ≠ .current then firstReusable q older
        else .ok (some (reused payload freshness))

/-- The payloads of the verifier results, newest first. -/
def newestFirst (ledger : History) : List (Dict String Json) :=
  (typed .verifierResult ledger).reverse.map ForgeRecord.toJson

/-- `_reusable_result`, for the candidate of the settings and the source of the event. -/
def reusableResult (candidate : Json) (uri : String) (verifierId : String) (ledger : History) :
    Except ForgeError (Option ReusedResult) := do
  match ← service.question candidate uri verifierId with
  | none => .ok none
  | some q => service.firstReusable q (newestFirst ledger)

/-! ## What the loop passes over -/

structure SameQuestion (q : Question) (payload : Dict String Json) : Prop where
  verifier : field payload "verifier_id" = .str q.verifierId
  mode : field payload "mode" = .str service.mode.value
  candidate : field payload "candidate_identity" = .str q.candidate
  identities : ∀ item ∈ q.identities.items, field payload item.1 = .str item.2
  inputCandidate : field (recordedInputs payload) "candidate_identity" = .str q.candidate
  defaults : ∀ input ∈ service.defaultInputs, field (recordedInputs payload) input.1 = input.2

def IsComplete (payload : Dict String Json) : Prop :=
  field (dependencyEnvelope payload) "complete" = .bool true

def HasFreshness (payload : Dict String Json) (state : FreshnessState) : Prop :=
  ∃ freshness, service.freshness payload = .ok freshness ∧ freshness.state = state

/-- The result is handed back when the loop comes to it. -/
structure Reusable (q : Question) (payload : Dict String Json) : Prop where
  same : service.SameQuestion q payload
  complete : IsComplete payload
  current : service.HasFreshness payload .current

/-- The loop goes on to the results before it. -/
def PassedOver (q : Question) (payload : Dict String Json) : Prop :=
  service.SameQuestion q payload → IsComplete payload →
    service.HasFreshness payload .stale ∨ service.HasFreshness payload .unknown

theorem firstReusable_of_not_asked {q : Question} {payload : Dict String Json}
    {older : List (Dict String Json)}
    (h : ¬ (service.SameQuestion q payload ∧ IsComplete payload)) :
    service.firstReusable q (payload :: older) = service.firstReusable q older := by
  rw [firstReusable]
  split_ifs with identified candidate materials inputCandidate inputs complete
  case neg =>
    refine absurd ⟨?_, not_not.mp complete⟩ h
    push Not at identified candidate materials inputCandidate inputs
    exact ⟨identified.1, identified.2, candidate, materials, inputCandidate, inputs⟩
  all_goals rfl

theorem firstReusable_of_asked {q : Question} {payload : Dict String Json}
    {older : List (Dict String Json)} (same : service.SameQuestion q payload)
    (complete : IsComplete payload) :
    service.firstReusable q (payload :: older) = (do
      let freshness ← service.freshness payload
      if freshness.state ≠ .current then service.firstReusable q older
      else .ok (some (reused payload freshness))) := by
  have materials : ¬ ∃ item ∈ q.identities.items, field payload item.1 ≠ .str item.2 := by
    push Not
    exact same.identities
  have inputs : ¬ ∃ input ∈ service.defaultInputs,
      field (recordedInputs payload) input.1 ≠ input.2 := by
    push Not
    exact same.defaults
  rw [IsComplete] at complete
  rw [firstReusable, if_neg (by simp [same.verifier, same.mode]), if_neg (by simp [same.candidate]),
    if_neg materials, if_neg (by simp [same.inputCandidate]), if_neg inputs,
    if_neg (by simp [complete])]

theorem firstReusable_of_passedOver {q : Question} {payload : Dict String Json}
    {older : List (Dict String Json)} (h : service.PassedOver q payload) :
    service.firstReusable q (payload :: older) = service.firstReusable q older := by
  by_cases asked : service.SameQuestion q payload ∧ IsComplete payload
  · rw [service.firstReusable_of_asked asked.1 asked.2]
    obtain ⟨freshness, known, state⟩ | ⟨freshness, known, state⟩ := h asked.1 asked.2 <;>
      simp [known, state, bind, Except.bind]
  · exact service.firstReusable_of_not_asked asked

theorem firstReusable_of_reusable {q : Question} {payload : Dict String Json}
    {older : List (Dict String Json)} {freshness : Freshness}
    (h : service.Reusable q payload) (known : service.freshness payload = .ok freshness) :
    service.firstReusable q (payload :: older) = .ok (some (reused payload freshness)) := by
  obtain ⟨_, found, current⟩ := h.current
  obtain rfl := Except.ok.inj (known.symm.trans found)
  rw [service.firstReusable_of_asked h.same h.complete]
  simp [known, current, bind, Except.bind]

theorem reusable_of_stop {q : Question} {payload : Dict String Json}
    {older : List (Dict String Json)} {result : ReusedResult}
    (h : service.firstReusable q (payload :: older) = .ok (some result))
    (stops : ¬ service.PassedOver q payload) :
    ∃ freshness, service.Reusable q payload ∧ service.freshness payload = .ok freshness := by
  simp only [PassedOver, Classical.not_imp] at stops
  obtain ⟨same, complete, fresh⟩ := stops
  rw [service.firstReusable_of_asked same complete] at h
  obtain ⟨freshness, known, -⟩ := bind_eq_ok.mp h
  refine ⟨freshness, ⟨same, complete, freshness, known, ?_⟩, known⟩
  cases state : freshness.state with
  | current => rfl
  | stale => exact absurd (.inl ⟨freshness, known, state⟩) fresh
  | unknown => exact absurd (.inr ⟨freshness, known, state⟩) fresh

/-- The loop hands back the newest reusable result, if it passes over all that are newer. -/
theorem firstReusable_eq_some {q : Question} {payloads : List (Dict String Json)}
    {result : ReusedResult} :
    service.firstReusable q payloads = .ok (some result) ↔
      ∃ newer payload older freshness, payloads = newer ++ payload :: older ∧
        (∀ passed ∈ newer, service.PassedOver q passed) ∧ service.Reusable q payload ∧
        service.freshness payload = .ok freshness ∧ result = reused payload freshness := by
  constructor
  · intro h
    induction payloads with
    | nil => cases h
    | cons payload older ih =>
        by_cases passed : service.PassedOver q payload
        · rw [service.firstReusable_of_passedOver passed] at h
          obtain ⟨newer, found, rest, freshness, rfl, skipped, reusable, known, same⟩ := ih h
          exact ⟨payload :: newer, found, rest, freshness, rfl,
            List.forall_mem_cons.mpr ⟨passed, skipped⟩, reusable, known, same⟩
        · obtain ⟨freshness, reusable, known⟩ := service.reusable_of_stop h passed
          rw [service.firstReusable_of_reusable reusable known] at h
          cases h
          exact ⟨[], payload, older, freshness, rfl, by simp, reusable, known, rfl⟩
  · rintro ⟨newer, payload, older, freshness, rfl, skipped, reusable, known, rfl⟩
    induction newer with
    | nil => exact service.firstReusable_of_reusable reusable known
    | cons passed newer ih =>
        rw [List.forall_mem_cons] at skipped
        rw [List.cons_append, service.firstReusable_of_passedOver skipped.1]
        exact ih skipped.2

/-! ## Contradictions -/

/-- A failure of the same question that is not out of date. -/
structure Contradicts (q : Question) (payload : Dict String Json) : Prop where
  same : service.SameQuestion q payload
  failed : field payload "status" = .str "FAIL"
  fresh : service.HasFreshness payload .current ∨ service.HasFreshness payload .unknown

/-- A failure that the loop passes over: its envelope is incomplete or its freshness unknown. -/
structure Overlooked (q : Question) (payload : Dict String Json) : Prop where
  same : service.SameQuestion q payload
  failed : field payload "status" = .str "FAIL"
  unusable : service.HasFreshness payload .unknown ∨
    service.HasFreshness payload .current ∧ ¬ IsComplete payload

variable {service} {q : Question} {payload : Dict String Json}

theorem HasFreshness.unique {first second : FreshnessState}
    (one : service.HasFreshness payload first) (other : service.HasFreshness payload second) :
    first = second := by
  obtain ⟨freshness, known, rfl⟩ := one
  obtain ⟨found, same, rfl⟩ := other
  rw [Except.ok.inj (known.symm.trans same)]

theorem Reusable.not_passedOver (h : service.Reusable q payload) :
    ¬ service.PassedOver q payload := by
  intro passed
  obtain stale | unknown := passed h.same h.complete
  · cases h.current.unique stale
  · cases h.current.unique unknown

theorem Overlooked.contradicts (h : service.Overlooked q payload) :
    service.Contradicts q payload :=
  ⟨h.same, h.failed, h.unusable.symm.imp_left And.left⟩

theorem Contradicts.overlooked (h : service.Contradicts q payload)
    (passed : service.PassedOver q payload) : service.Overlooked q payload := by
  refine ⟨h.same, h.failed, ?_⟩
  obtain current | unknown := h.fresh
  · refine .inr ⟨current, fun complete => ?_⟩
    exact Reusable.not_passedOver ⟨h.same, complete, current⟩ passed
  · exact .inl unknown

variable (service)

/-- The result is that of a record that no newer one contradicts. -/
def Standing (q : Question) (ledger : History) (result : ReusedResult) : Prop :=
  ∃ newer payload older freshness, newestFirst ledger = newer ++ payload :: older ∧
    service.Reusable q payload ∧ service.freshness payload = .ok freshness ∧
    result = reused payload freshness ∧ ∀ other ∈ newer, ¬ service.Contradicts q other

/-- A failure is never skipped in favour of an older success. -/
def KeepsContradictions (candidate : Json) (uri : String) (verifierId : String)
    (ledger : History) : Prop :=
  ∀ q result, service.question candidate uri verifierId = .ok (some q) →
    service.reusableResult candidate uri verifierId ledger = .ok (some result) →
    result.status = .str "PASS" → service.Standing q ledger result

/-- No failure with an incomplete envelope or of unknown freshness is newer than a
success that is the newest reusable result. -/
def OverlooksNone (q : Question) (ledger : History) : Prop :=
  ∀ newer payload older, newestFirst ledger = newer ++ payload :: older →
    (∀ passed ∈ newer, service.PassedOver q passed) → service.Reusable q payload →
    field payload "status" = .str "PASS" → ∀ other ∈ newer, ¬ service.Overlooked q other

theorem reused_status_eq_pass {freshness : Freshness} :
    (reused payload freshness).status = .str "PASS" ↔ field payload "status" = .str "PASS" := by
  simp only [reused, field]
  cases Dict.get? payload "status" <;> simp

theorem keepsContradictions_iff (candidate : Json) (uri : String) (verifierId : String)
    (ledger : History) :
    service.KeepsContradictions candidate uri verifierId ledger ↔
      ∀ q, service.question candidate uri verifierId = .ok (some q) →
        service.OverlooksNone q ledger := by
  constructor
  · intro keeps q asked newer payload older split passed reusable success other member overlooked
    obtain ⟨freshness, known, -⟩ := reusable.current
    have found : service.reusableResult candidate uri verifierId ledger =
        .ok (some (reused payload freshness)) := by
      rw [reusableResult, asked]
      exact service.firstReusable_eq_some.mpr
        ⟨newer, payload, older, freshness, split, passed, reusable, known, rfl⟩
    obtain ⟨newer', payload', older', _, split', reusable', -, -, free⟩ :=
      keeps q _ asked found (reused_status_eq_pass.mpr success)
    -- the record that stands is not among those the loop passes over
    have covered : newer ⊆ newer' := by
      obtain ⟨between, rfl, -⟩ | ⟨between, rfl, rest⟩ :=
        List.append_eq_append_iff.mp (split.symm.trans split')
      · exact List.subset_append_left _ _
      · cases between with
        | nil => simp
        | cons first between =>
            obtain ⟨rfl, -⟩ := List.cons.inj rest
            exact absurd (passed _ (by simp)) reusable'.not_passedOver
    exact free other (covered member) overlooked.contradicts
  · intro none q result asked found success
    rw [reusableResult, asked] at found
    obtain ⟨newer, payload, older, freshness, split, passed, reusable, known, rfl⟩ :=
      service.firstReusable_eq_some.mp found
    refine ⟨newer, payload, older, freshness, split, reusable, known, rfl, ?_⟩
    intro other member contradicts
    exact none q asked newer payload older split passed reusable
      (reused_status_eq_pass.mp success) other member
      (contradicts.overlooked (passed other member))

/-- A failure with an incomplete envelope after a success that can be reused. -/
theorem skips_failure {candidate : Json} {uri verifierId : String} {ledger : History}
    {q : Question} {failed passed : Dict String Json}
    (asked : service.question candidate uri verifierId = .ok (some q))
    (order : newestFirst ledger = [failed, passed]) (reusable : service.Reusable q passed)
    (success : field passed "status" = .str "PASS") (contradicts : service.Contradicts q failed)
    (incomplete : ¬ IsComplete failed) :
    ∃ result, service.reusableResult candidate uri verifierId ledger = .ok (some result) ∧
      result.status = .str "PASS" ∧
      ¬ service.KeepsContradictions candidate uri verifierId ledger := by
  obtain ⟨freshness, known, -⟩ := reusable.current
  have found : service.reusableResult candidate uri verifierId ledger =
      .ok (some (reused passed freshness)) := by
    rw [reusableResult, asked]
    refine service.firstReusable_eq_some.mpr
      ⟨[failed], passed, [], freshness, order, ?_, reusable, known, rfl⟩
    intro other member same complete
    rw [List.mem_singleton.mp member] at complete
    exact absurd complete incomplete
  have status : (reused passed freshness).status = .str "PASS" :=
    reused_status_eq_pass.mpr success
  refine ⟨_, found, status, fun keeps => ?_⟩
  obtain ⟨newer, payload, older, _, split, stands, -, -, free⟩ := keeps q _ asked found status
  rw [order] at split
  cases newer with
  | nil =>
      obtain ⟨rfl, -⟩ := List.cons.inj split
      exact incomplete stands.complete
  | cons first newer =>
      obtain ⟨rfl, -⟩ := List.cons.inj split
      exact free _ List.mem_cons_self contradicts

end VerifierService

/-! ## A failure without an envelope -/

def lintProvider : ProviderDeclaration where
  providerId := "local"
  name := "Local"
  identity := none
  version := none
  command := ["lint"]
  capabilities := ["lint"]
  executableIdentity := none
  descriptor := none

def lintWorkflow : WorkflowDeclaration where
  name := "lint"
  category := "unit"
  mode := "development"
  command := ["lint"]
  providerProtocol := true
  providerId := some "local"
  environment := []
  disclosure := "summary"
  subject := "candidate"

def lintVerifier : VerifierDeclaration where
  verifierId := "lint"
  version := "1"
  workflow := "lint"
  providerId := "local"
  method := "lint"
  claim := "no lint"
  category := "unit"
  modes := ["development"]
  languages := []
  artifactTypes := []
  scopes := []
  inputKinds := []
  limitations := []
  assumptions := []
  timeoutSeconds := "5.0"
  cost := "low"
  uncertaintyClasses := []
  parameterKeys := []
  disclosure := "summary"

private def lintService : VerifierService where
  hashing := ⟨Digest.verbatim, fun value => .ok value.canonicalBytes⟩
  mode := .development
  raw := [("policies", .obj [("selection", .str "s"), ("useful_benefit_objective", .str "u")])]
  providers := [("local", lintProvider)]
  workflows := [("lint", lintWorkflow)]
  verifiers := [("lint", lintVerifier)]
  acceptancePolicies := []
  environment _ := .ok []
  resolveContained := .ok
  contentIdentity _ := .ok "forge-tree-sha256-v1:00"
  currentCandidateIdentity := .ok "forge-tree-sha256-v1:01"
  sourcePath := .ok

private def lintIdentities : MaterialIdentities where
  configuration := lintService.localJsonIdentity (.obj lintService.raw)
  providerConfiguration :=
    lintService.localJsonIdentity (VerifierService.providerConfiguration lintProvider)
  verifier := lintService.localJsonIdentity
    (lintService.verifierConfiguration lintVerifier lintProvider lintWorkflow)
  policy := "forge-tree-sha256-v1:00"
  environment := lintService.localJsonIdentity (.obj [])

private def lintResultFields (action status : String) (complete : Bool) : Dict String Json :=
  [("action_id", .str action), ("assumptions", .arr []),
   ("candidate_identity", .str "forge-tree-sha256-v1:01"), ("candidate_parent_identity", .null),
   ("category", .str "unit"), ("claim", .str "no lint"),
   ("configuration_identity", .str lintIdentities.configuration),
   ("dependency_envelope", .obj [("complete", .bool complete)]), ("disclosure", .str "summary"),
   ("duration_seconds", .int 0), ("environment_identity", .str lintIdentities.environment),
   ("epoch_identity", .str "e:3"), ("evidence_class", .str "check"), ("freeze_identity", .null),
   ("independent_evaluation", .bool false),
   ("input_identities", .obj
     [("candidate_identity", .str "forge-tree-sha256-v1:01"),
      ("dependency_slice_identities", .obj []),
      ("question_parameters_identity", .str (lintService.localJsonIdentity (.obj [])))]),
   ("iterative_development_overlap", .bool true), ("limitations", .arr []),
   ("method", .str "lint"), ("mode", .str "development"), ("operational_error", .null),
   ("policy_identity", .str lintIdentities.policy),
   ("provider_configuration_identity", .str lintIdentities.providerConfiguration),
   ("provider_executable_identity", .null), ("provider_id", .str "local"),
   ("provider_identity", .null), ("provider_response_identity", .null),
   ("recorded_at", .str "2024"), ("returncode", .int 0), ("status", .str status),
   ("stderr_diagnostic", .null), ("summary", .str "ok"), ("supersedes_output_identity", .null),
   ("unsupported_constructs", .arr []), ("verifier_id", .str "lint"),
   ("verifier_identity", .str lintIdentities.verifier), ("verifier_version", .str "1"),
   ("witnesses", .arr [])]

private def lintResult (action status : String) (complete : Bool) : ForgeRecord :=
  model .verifierResult
    (Dict.set (lintResultFields action status complete) "output_identity"
      (.str ("forge-json-sha256-v1:" ++ localJsonDigest lintService.hashing
        (.obj (currentProjection .verifierResult (lintResultFields action status complete))))))
    currentSchemaVersion

section Lint

variable (action status : String) (complete : Bool)

private theorem lint_field {name : String}
    (own : name ∉ ["record_type", "schema_version", "output_identity"]) :
    field (lintResult action status complete).toJson name =
      field (lintResultFields action status complete) name := by
  simp only [List.mem_cons, List.not_mem_nil, or_false, not_or] at own
  have ordered : Dict.Ordered (lintResultFields action status complete) := by
    have closed : Dict.Ordered (lintResultFields "" "" true) := by decide +kernel
    exact closed
  have kept : Dict.Ordered (lintResult action status complete).fields := by
    show Dict.Ordered (Dict.set _ _ _)
    exact ordered.set _ _
  rw [field, get?_toJson kept, if_neg own.1, if_neg own.2.1, Option.or_none]
  show (Dict.get? (Dict.set _ _ _) name).getD _ = _
  rw [Dict.get?_set, if_neg own.2.2, field]

private def lintQuestion : VerifierService.Question :=
  ⟨"lint", "forge-tree-sha256-v1:01", lintIdentities⟩

private theorem lint_question :
    lintService.question (.str "forge-tree-sha256-v1:01") "src/a.py" "lint" =
      .ok (some lintQuestion) := rfl

private theorem lint_materials :
    lintService.materialIdentities lintVerifier lintProvider lintWorkflow [] =
      .ok lintIdentities := rfl

private theorem lint_same :
    lintService.SameQuestion lintQuestion (lintResult action status complete).toJson where
  verifier := (lint_field _ _ _ (by decide)).trans rfl
  mode := (lint_field _ _ _ (by decide)).trans rfl
  candidate := (lint_field _ _ _ (by decide)).trans rfl
  identities := by
    intro item member
    simp only [MaterialIdentities.items, List.mem_cons, List.not_mem_nil, or_false] at member
    obtain rfl | rfl | rfl | rfl | rfl := member <;>
      exact (lint_field _ _ _ (by decide)).trans rfl
  inputCandidate := by
    rw [VerifierService.recordedInputs, lint_field _ _ _ (by decide)]
    rfl
  defaults := by
    rw [VerifierService.recordedInputs, lint_field _ _ _ (by decide)]
    intro input member
    simp only [VerifierService.defaultInputs, List.mem_cons, List.not_mem_nil, or_false] at member
    obtain rfl | rfl | rfl | rfl := member <;> rfl

private theorem lint_current :
    lintService.HasFreshness (lintResult action status complete).toJson .current := by
  have unchanged : lintService.changedMaterial lintIdentities
      (lintResult action status complete).toJson = [] := by
    have same := lint_same action status complete
    have materials : ∀ item ∈ lintIdentities.items,
        field (lintResult action status complete).toJson item.1 = .str item.2 := same.identities
    simp only [VerifierService.changedMaterial, same.mode, ne_eq, not_true_eq_false, if_false,
      List.append_nil, List.map_eq_nil_iff, List.filter_eq_nil_iff, decide_eq_true_eq, not_not]
    exact materials
  have envelope : field (lintResult action status complete).toJson "dependency_envelope" =
      .obj [("complete", .bool complete)] := (lint_field _ _ _ (by decide)).trans rfl
  have fresh : lintService.freshness (lintResult action status complete).toJson = .ok
      ⟨.current, "all material and candidate identities still match", [], [], none⟩ := by
    refine (lintService.freshness_of_unchanged ?_ rfl rfl rfl lint_materials unchanged
      envelope).trans ?_
    · rw [(lint_same action status complete).verifier]
      rfl
    · have candidate := (lint_same action status complete).candidate
      have observed : lintService.currentCandidateIdentity = .ok lintQuestion.candidate := rfl
      simp [VerifierService.envelopeFreshness, VerifierService.stalePaths, Dict.get?_cons, observed,
        candidate, bind, Except.bind]
  exact ⟨_, fresh, rfl⟩

private theorem lint_complete :
    VerifierService.IsComplete (lintResult action status complete).toJson ↔ complete = true := by
  rw [VerifierService.IsComplete, VerifierService.dependencyEnvelope, lint_field _ _ _ (by decide)]
  show Json.bool complete = .bool true ↔ _
  rw [Json.bool.injEq]

private theorem lint_status : field (lintResult action status complete).toJson "status" =
    .str status :=
  (lint_field _ _ _ (by decide)).trans rfl

end Lint

/-- A failure without a complete envelope is passed over for the success before it. -/
theorem reusableResult_skips_failure :
    ∃ passed failed result,
      field passed.toJson "status" = .str "PASS" ∧ field failed.toJson "status" = .str "FAIL" ∧
      lintService.reusableResult (.str "forge-tree-sha256-v1:01") "src/a.py" "lint"
        [passed, failed] = .ok (some result) ∧ result.status = .str "PASS" ∧
      ¬ lintService.KeepsContradictions (.str "forge-tree-sha256-v1:01") "src/a.py" "lint"
        [passed, failed] := by
  have order : VerifierService.newestFirst
      [lintResult "verifier-action:0" "PASS" true, lintResult "verifier-action:1" "FAIL" false] =
        [(lintResult "verifier-action:1" "FAIL" false).toJson,
          (lintResult "verifier-action:0" "PASS" true).toJson] := rfl
  obtain ⟨result, found, success, skipped⟩ := lintService.skips_failure lint_question order
    ⟨lint_same .., (lint_complete ..).mpr rfl, lint_current ..⟩ (lint_status ..)
    ⟨lint_same .., lint_status .., .inl (lint_current ..)⟩
    (fun complete => absurd ((lint_complete ..).mp complete) (by decide))
  exact ⟨_, _, result, lint_status .., lint_status .., found, success, skipped⟩

end MncsForge.Continuous
