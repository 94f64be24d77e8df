import Mathlib
import MncsForge.Lifecycle.Projection

/-!
# The state machine

A machine is a history together with its projection in a world.  Its authorizers
decide prospective transitions from the projection alone and write nothing.
-/

namespace MncsForge.Lifecycle

open MncsForge.Foundation MncsForge.Records MncsForge.Native

structure ForgeStateMachine where
  world : World
  history : History
  projection : LifecycleProjection
  projected : project world history = .ok projection
  /-- Switched off while operations are only inspected. -/
  nativePreflight : Bool := true

namespace ForgeStateMachine

/-- `ForgeStateMachine(...)`. -/
def build (w : World) (history : History) : Except ForgeError ForgeStateMachine :=
  match h : project w history with
  | .ok projection => .ok { world := w, history := history, projection := projection, projected := h }
  | .error e => .error e

theorem build_eq_ok {w : World} {history : History} {m : ForgeStateMachine}
    (h : build w history = .ok m) : m.world = w ∧ m.history = history := by
  unfold build at h
  split at h
  case h_1 =>
    obtain rfl := Except.ok.inj h
    exact ⟨rfl, rfl⟩
  case h_2 => cases h

variable (m : ForgeStateMachine)

/-! ## Shared guards -/

def requireMode (expected : Mode) : Except ForgeError Unit :=
  refuseIf (m.world.mode ≠ expected) "MODE_FORBIDDEN"
    s!"operation requires {expected.value} mode; current mode is {m.world.mode.value}"

/-- The first limitation stands for the conflict. -/
def requireUnambiguous : Except ForgeError Unit :=
  if m.projection.stage = .ambiguousHistory then
    match m.projection.limitations.head? with
    | some blocker => .error blocker.error
    | none => .error ⟨"IndexError", "list index out of range"⟩
  else .ok ()

def requireCandidate (candidateId : Option String) : Except ForgeError ForgeRecord :=
  match m.projection.currentCandidate with
  | none => .error ⟨"NO_CANDIDATE", "no candidate exists in the active epoch"⟩
  | some candidate =>
      match candidateId with
      | some id =>
          if candidate.get "candidate_id" ≠ .str id then
            if (candidateRecord m.history id).isSome then
              .error ⟨"CANDIDATE_NOT_CURRENT",
                "candidate is superseded within the active development lineage"⟩
            else .error ⟨"RECORD_NOT_FOUND", s!"no candidate record for {id}"⟩
          else if m.projection.candidateFreshness ≠ "CURRENT" then
            .error ⟨"STALE_CANDIDATE", "candidate no longer matches current content"⟩
          else .ok candidate
      | none =>
          if m.projection.candidateFreshness ≠ "CURRENT" then
            .error ⟨"STALE_CANDIDATE", "candidate no longer matches current content"⟩
          else .ok candidate

/-- `raise` for a blocker. -/
def requireUnblocked (evidence : EvidenceReadiness) : Except ForgeError Unit :=
  match evidence.blocker with
  | some blocker => .error blocker.error
  | none => .ok ()

def nativeStage? : LifecycleStage → Option Native.Lifecycle.Stage
  | .noEpoch => some .noEpoch
  | .epochActive => some .epochActive
  | .candidateRegistered => some .candidateRegistered
  | .evidenceIncomplete => some .evidenceIncomplete
  | .candidateReady => some .candidateReady
  | .candidateSelected => some .candidateSelected
  | .candidateRejected => some .candidateRejected
  | .candidateFrozen => some .candidateFrozen
  | .evaluationComplete => some .evaluationComplete
  | .ambiguousHistory => some .ambiguousHistory
  | .bundleComplete => none

/-- `_native_transition`: the kernel must agree with the transition. -/
def nativeTransition (operation : Native.Lifecycle.Operation)
    (nextStage : Native.Lifecycle.Stage) (status : Status) (reason : Nat)
    (evidence : Status) : Except ForgeError Unit :=
  if m.nativePreflight = false then .ok ()
  else
    match m.world.native, nativeStage? m.projection.stage with
    | some native, some stage =>
        let observed := native.lifecyclePreflight stage operation evidence
        refuseIf
          (observed.state.stage ≠ nextStage ∨ observed.status ≠ status ∨
            observed.reason ≠ reason)
          "NATIVE_LIFECYCLE_MISMATCH"
          "MNCS lifecycle preflight disagrees with the Forge transition"
    | _, _ => .ok ()

/-! ## Authorizers -/

def authorizeEpochBegin (parentEpoch : Option String) : Except ForgeError Unit := do
  m.requireMode .development
  m.requireUnambiguous
  match m.projection.activeEpoch with
  | none => do
      refuseIf (parentEpoch ≠ none) "EPOCH_PARENT_INVALID"
        "the first epoch cannot name a parent"
      m.nativeTransition .beginEpoch .epochActive .pass 0 .unknown
  | some active =>
      match parentEpoch with
      | none =>
          .error ⟨"EPOCH_PARENT_REQUIRED",
            "a successor epoch must name the active epoch as parent"⟩
      | some parent => do
          refuseIf (parent ∈ m.projection.supersededEpochs) "EPOCH_SUPERSEDED"
            "parent epoch has already been superseded"
          refuseIf (parent ≠ textOf active "epoch_id") "EPOCH_PARENT_INVALID"
            "parent epoch is not the active epoch"

/-- The parent a new candidate must name. -/
def requireParentCandidate (parentCandidate : Option String) (proposedIdentity : String) :
    Except ForgeError Unit :=
  match m.projection.currentCandidate, parentCandidate with
  | none, none =>
      m.nativeTransition .registerCandidate .candidateRegistered .unknown 0 .unknown
  | none, some parent =>
      if (candidateRecord m.history parent).isNone then
        .error ⟨"CANDIDATE_PARENT_INVALID", "parent candidate does not exist"⟩
      else
        .error ⟨"CANDIDATE_LINEAGE_CONFLICT",
          "first candidate in an epoch cannot inherit from another epoch"⟩
  | some _, none =>
      .error ⟨"CANDIDATE_PARENT_REQUIRED",
        "a successor candidate must name the current candidate as parent"⟩
  | some current, some parent =>
      if parent = proposedIdentity then
        .error ⟨"CANDIDATE_PARENT_INVALID", "candidate cannot name itself as parent"⟩
      else if parent ≠ textOf current "candidate_id" then
        if (candidateRecord m.history parent).isNone then
          .error ⟨"CANDIDATE_PARENT_INVALID", "parent candidate does not exist"⟩
        else
          .error ⟨"CANDIDATE_LINEAGE_CONFLICT",
            "parent candidate is not current in the active epoch lineage"⟩
      else .ok ()

def authorizeCandidateRegister (parentCandidate : Option String) (proposedIdentity : String)
    (epochIdentity : Option String) : Except ForgeError ForgeRecord := do
  m.requireMode .development
  m.requireUnambiguous
  match m.projection.activeEpoch with
  | none => .error ⟨"NO_ACTIVE_EPOCH", "begin an epoch before registering a candidate"⟩
  | some epoch => do
      refuseIf (∃ id ∈ epochIdentity, id ∈ m.projection.supersededEpochs)
        "EPOCH_SUPERSEDED" "candidate epoch has been superseded"
      refuseIf (∃ id ∈ epochIdentity, id ≠ textOf epoch "epoch_id")
        "EPOCH_PARENT_INVALID" "candidate epoch is not the active epoch"
      let authority := epoch.get "authority_identities"
      refuseIf (isObject authority = false) "EPOCH_LINEAGE_CONFLICT"
        "epoch authority identities are malformed"
      refuseIf (m.world.authorityIs authority = false) "STALE_BASELINE"
        "protected authority drifted since the epoch began"
      refuseIf (m.projection.freeze ≠ none) "EPOCH_FROZEN"
        "begin a successor epoch after candidate freeze"
      m.requireParentCandidate parentCandidate proposedIdentity
      .ok epoch

def authorizeDevelopmentWork (candidateId : Option String) (projectScoped : Bool) :
    Except ForgeError (Option ForgeRecord) := do
  m.requireMode .development
  if projectScoped then do
    refuseIf (candidateId ≠ none) "WORKFLOW_SUBJECT"
      "project workflow does not accept a candidate"
    .ok none
  else do
    m.requireUnambiguous
    refuseIf (m.projection.freeze ≠ none) "EPOCH_FROZEN"
      "candidate-scoped development work cannot continue after freeze"
    let candidate ← m.requireCandidate candidateId
    .ok (some candidate)

def authorizeCandidateDisposition (candidateId disposition : String) :
    Except ForgeError (ForgeRecord × EvidenceReadiness) := do
  m.requireMode .development
  m.requireUnambiguous
  refuseIf (disposition ≠ "selected" ∧ disposition ≠ "rejected") "INVALID_DISPOSITION"
    "disposition must be selected or rejected"
  let candidate ← m.requireCandidate (some candidateId)
  refuseIf (m.projection.dispositionStatus ≠ "undisposed") "CANDIDATE_ALREADY_DISPOSED"
    s!"candidate already has terminal disposition {m.projection.dispositionStatus}"
  if disposition = "selected" then do
    requireUnblocked m.projection.evidence
    m.nativeTransition .selectCandidate .candidateSelected .pass 0 .pass
  else
    m.nativeTransition .rejectCandidate .candidateRejected .fail 9
      m.projection.evidence.status
  .ok (candidate, m.projection.evidence)

/-- The checks of a freeze on the selection it rests on. -/
def requireSelection : Except ForgeError ForgeRecord := do
  refuseIf (m.projection.dispositionStatus = "rejected") "CANDIDATE_REJECTED"
    "a rejected candidate cannot be frozen"
  match m.projection.disposition with
  | none => .error ⟨"FREEZE_NOT_SELECTED", "candidate is not currently selected"⟩
  | some disposition => do
      refuseIf (m.projection.dispositionStatus ≠ "selected") "FREEZE_NOT_SELECTED"
        "candidate is not currently selected"
      refuseIf (m.projection.freeze ≠ none) "FREEZE_ALREADY_EXISTS"
        "candidate already has a freeze record"
      requireUnblocked m.projection.evidence
      refuseIf
        (disposition.get "selection_policy_identity" ≠ .str m.world.selectionPolicyIdentity)
        "FREEZE_SELECTION_STALE" "selection policy changed after candidate selection"
      refuseIf (disposition.get "evidence_status" ≠ .str "PASS") "FREEZE_SELECTION_STALE"
        "selection does not bind PASS evidence"
      .ok disposition

def authorizeCandidateFreeze (candidateId : String)
    (evidencePlanRequirements : Option (List String)) :
    Except ForgeError (ForgeRecord × ForgeRecord) := do
  m.requireMode .development
  m.requireUnambiguous
  let candidate ← m.requireCandidate (some candidateId)
  match m.projection.activeEpoch with
  | none => .error ⟨"NO_ACTIVE_EPOCH", "freeze requires an active epoch"⟩
  | some epoch => do
      refuseIf (m.world.authorityIs (epoch.get "authority_identities") = false)
        "FREEZE_AUTHORITY_STALE"
        "protected authority differs from the active epoch at freeze time"
      let disposition ← m.requireSelection
      refuseIf (evidencePlanRequirements.getD [] = []) "FREEZE_EVIDENCE_PLAN_INVALID"
        "required evidence plan is missing or malformed"
      let plan ← evidenceReadiness m.world m.history (some candidate) evidencePlanRequirements
      requireUnblocked plan
      m.nativeTransition .freezeCandidate .candidateFrozen .pass 0 .pass
      .ok (candidate, disposition)

def authorizeEvaluatorEntry (candidateId : Option String) :
    Except ForgeError (ForgeRecord × ForgeRecord) := do
  m.requireMode .evaluator
  m.requireUnambiguous
  match m.projection.freeze with
  | none => .error ⟨"NO_FREEZE", "evaluator mode requires a frozen candidate"⟩
  | some freeze => do
      refuseIf (∃ id ∈ candidateId, Json.str id ≠ freeze.get "candidate_identity")
        "EVALUATOR_CANDIDATE_MISMATCH"
        "evaluator candidate differs from the frozen candidate"
      let drift := freezeDrift m.world freeze
      refuseIf (drift ≠ []) "FREEZE_DRIFT" ("frozen identities drifted: " ++ joined drift)
      let candidate ← m.requireCandidate (some (textOf freeze "candidate_identity"))
      match m.projection.disposition with
      | none =>
          .error ⟨"FREEZE_NOT_SELECTED", "freeze no longer belongs to a selected candidate"⟩
      | some disposition => do
          refuseIf (m.projection.dispositionStatus ≠ "selected") "FREEZE_NOT_SELECTED"
            "freeze no longer belongs to a selected candidate"
          refuseIf (freeze.get "selection_record" ≠ disposition.get "disposition_id")
            "FREEZE_SELECTION_STALE" "freeze does not bind the current selection record"
          .ok (freeze, candidate)

/-! ## Bundles -/

/-- The authorization without a native adapter. -/
def authorizeBundlePlain (candidateId : Option String) : Except ForgeError ForgeRecord :=
  match m.world.mode with
  | .evaluator => do
      let (_, candidate) ← m.authorizeEvaluatorEntry candidateId
      .ok candidate
  | .development => m.requireCandidate candidateId

def bundleMode : Mode → Bundle.BundleMode
  | .development => .development
  | .evaluator => .evaluator

/-- What a refused bundle precondition is reported as. -/
def bundleRefusal (candidateId : Option String) (reason : Bundle.BundleReason) :
    ForgeError :=
  match reason with
  | .invalidRequest =>
      ⟨"WORKFLOW_CATEGORY", "bundle requires an MNCS or MNCDS workflow"⟩
  | .noCandidate => ⟨"NO_CANDIDATE", "no candidate exists in the active epoch"⟩
  | .candidateMismatch =>
      if m.world.mode = .evaluator then
        ⟨"EVALUATOR_CANDIDATE_MISMATCH",
          "evaluator candidate differs from the frozen candidate"⟩
      else if candidateId.all fun id => (candidateRecord m.history id).isSome then
        ⟨"CANDIDATE_NOT_CURRENT",
          "candidate is superseded within the active development lineage"⟩
      else
        ⟨"RECORD_NOT_FOUND", s!"no candidate record for {(Json.ofText candidateId).display}"⟩
  | .candidateStale =>
      ⟨"STALE_CANDIDATE", "candidate no longer matches current content"⟩
  | .freezeMissing => ⟨"NO_FREEZE", "evaluator mode requires a frozen candidate"⟩
  | .selectionMissing =>
      ⟨"FREEZE_NOT_SELECTED", "freeze no longer belongs to a selected candidate"⟩
  | .freezeStale => ⟨"FREEZE_DRIFT", "frozen identities drifted"⟩
  | .ready | .invalid =>
      ⟨"NATIVE_BUNDLE_UNKNOWN",
        "native bundle precondition rejected with unknown reason"⟩

/-- `_authorize_bundle_native`. -/
def authorizeBundleNative (native : NativeForgeAdapter) (candidateId : Option String)
    (requestValid : Bool) : Except ForgeError ForgeRecord := do
  let candidate := m.projection.currentCandidate
  let currentIdentity := candidate.map fun candidate => textOf candidate "candidate_id"
  let result ← native.bundlePreconditionProjection candidateId currentIdentity
    candidate.isSome
    (candidateId = none || candidateId = currentIdentity)
    (candidate.isSome && m.projection.candidateFreshness = "CURRENT")
    (m.projection.disposition.isSome && m.projection.dispositionStatus = "selected")
    m.projection.freeze.isSome
    (m.projection.freezeStatus = "current")
    (bundleMode m.world.mode)
    requestValid m.projection.evidence.status m.projection.evidence.ready
  refuseIf (result.state.valid = false) "NATIVE_BUNDLE_UNKNOWN"
    "native bundle precondition projection is invalid"
  if result.state.ready then
    match candidate with
    | none =>
        .error ⟨"NATIVE_BUNDLE_UNKNOWN", "native bundle returned ready without candidate"⟩
    | some candidate => .ok candidate
  else .error (m.bundleRefusal candidateId result.reason)

def authorizeBundle (candidateId : Option String) (requestValid : Bool) :
    Except ForgeError ForgeRecord := do
  m.requireUnambiguous
  match m.world.native with
  | some native => m.authorizeBundleNative native candidateId requestValid
  | none => m.authorizeBundlePlain candidateId

/-! ## What the guards ask -/

variable {m}

theorem requireMode_eq_ok {expected : Mode} {u : Unit} :
    m.requireMode expected = .ok u ↔ m.world.mode = expected := by
  rw [requireMode, refuseIf_eq_ok, not_ne_iff]

theorem requireUnambiguous_eq_ok {u : Unit} :
    m.requireUnambiguous = .ok u ↔ m.projection.stage ≠ .ambiguousHistory := by
  unfold requireUnambiguous
  split
  case isTrue h =>
    simp only [h, ne_eq, not_true_eq_false, iff_false]
    split <;> simp
  case isFalse h => simpa using h

theorem requireCandidate_eq_ok {candidateId : Option String} {candidate : ForgeRecord} :
    m.requireCandidate candidateId = .ok candidate ↔
      m.projection.currentCandidate = some candidate ∧
        m.projection.candidateFreshness = "CURRENT" ∧
        ∀ id ∈ candidateId, candidate.get "candidate_id" = .str id := by
  unfold requireCandidate
  cases m.projection.currentCandidate with
  | none => simp
  | some current =>
      cases candidateId with
      | none => by_cases hfresh : m.projection.candidateFreshness = "CURRENT" <;> simp [hfresh]
      | some id =>
          by_cases hid : current.get "candidate_id" = .str id
          · by_cases hfresh : m.projection.candidateFreshness = "CURRENT"
            · simp only [hid, hfresh, ne_eq, not_true_eq_false, if_false, Except.ok.injEq,
                Option.some.injEq, true_and, Option.mem_def, forall_eq']
              constructor
              · rintro rfl
                exact ⟨rfl, hid⟩
              · exact fun h => h.1
            · simp [hid, hfresh]
          · simp only [hid, ne_eq, not_false_eq_true, if_true, Option.some.injEq,
              Option.mem_def, forall_eq']
            constructor
            · split <;> exact fun h => nomatch h
            · rintro ⟨rfl, _, h⟩
              exact absurd h hid

theorem authorizeEpochBegin_ok {parentEpoch : Option String}
    (h : m.authorizeEpochBegin parentEpoch = .ok ()) :
    m.world.mode = .development ∧ m.projection.stage ≠ .ambiguousHistory ∧
      parentEpoch = m.projection.activeEpoch.map fun epoch => textOf epoch "epoch_id" := by
  obtain ⟨_, hmode, h⟩ := bind_eq_ok.mp h
  obtain ⟨_, hstage, h⟩ := bind_eq_ok.mp h
  refine ⟨requireMode_eq_ok.mp hmode, requireUnambiguous_eq_ok.mp hstage, ?_⟩
  cases hactive : m.projection.activeEpoch with
  | none =>
      simp only [hactive, refuseIf_bind_eq_ok, not_ne_iff] at h
      exact h.1
  | some active =>
      cases parentEpoch with
      | none =>
          rw [hactive] at h
          cases h
      | some parent =>
          simp only [hactive, refuseIf_bind_eq_ok, refuseIf_eq_ok, not_ne_iff] at h
          rw [h.2, Option.map_some]

theorem authorizeCandidateRegister_ok {parentCandidate epochIdentity : Option String}
    {proposedIdentity : String} {epoch : ForgeRecord}
    (h : m.authorizeCandidateRegister parentCandidate proposedIdentity epochIdentity =
      .ok epoch) :
    m.world.mode = .development ∧ m.projection.stage ≠ .ambiguousHistory ∧
      m.projection.activeEpoch = some epoch ∧ m.projection.freeze = none ∧
      parentCandidate =
        m.projection.currentCandidate.map fun candidate => textOf candidate "candidate_id" := by
  obtain ⟨_, hmode, h⟩ := bind_eq_ok.mp h
  obtain ⟨_, hstage, h⟩ := bind_eq_ok.mp h
  refine ⟨requireMode_eq_ok.mp hmode, requireUnambiguous_eq_ok.mp hstage, ?_⟩
  cases hactive : m.projection.activeEpoch with
  | none =>
      rw [hactive] at h
      cases h
  | some active =>
      simp only [hactive, refuseIf_bind_eq_ok, not_ne_iff] at h
      obtain ⟨_, _, _, _, hfreeze, h⟩ := h
      obtain ⟨_, hparent, hepoch⟩ := bind_eq_ok.mp h
      refine ⟨congrArg some (Except.ok.inj hepoch), hfreeze, ?_⟩
      unfold requireParentCandidate at hparent
      cases hcurrent : m.projection.currentCandidate with
      | none =>
          cases parentCandidate with
          | none => rfl
          | some parent =>
              simp only [hcurrent] at hparent
              split at hparent <;> cases hparent
      | some current =>
          cases parentCandidate with
          | none =>
              rw [hcurrent] at hparent
              cases hparent
          | some parent =>
              simp only [hcurrent] at hparent
              split at hparent
              case isTrue => cases hparent
              case isFalse =>
                split at hparent
                case isTrue => split at hparent <;> cases hparent
                case isFalse hsame =>
                  rw [not_ne_iff.mp hsame]
                  rfl

theorem authorizeDevelopmentWork_ok {candidateId : Option String} {projectScoped : Bool}
    {candidate : ForgeRecord}
    (h : m.authorizeDevelopmentWork candidateId projectScoped = .ok (some candidate)) :
    m.projection.stage ≠ .ambiguousHistory ∧ m.projection.freeze = none ∧
      m.projection.currentCandidate = some candidate := by
  obtain ⟨_, _, h⟩ := bind_eq_ok.mp h
  cases projectScoped with
  | true =>
      simp only [if_true, refuseIf_bind_eq_ok] at h
      cases h.2
  | false =>
      simp only [Bool.false_eq_true, if_false] at h
      obtain ⟨_, hstage, h⟩ := bind_eq_ok.mp h
      obtain ⟨hfreeze, h⟩ := refuseIf_bind_eq_ok.mp h
      obtain ⟨current, hcurrent, h⟩ := bind_eq_ok.mp h
      obtain rfl := Option.some.inj (Except.ok.inj h)
      exact ⟨requireUnambiguous_eq_ok.mp hstage, not_ne_iff.mp hfreeze,
        (requireCandidate_eq_ok.mp hcurrent).1⟩

theorem authorizeCandidateDisposition_ok {candidateId disposition : String}
    {result : ForgeRecord × EvidenceReadiness}
    (h : m.authorizeCandidateDisposition candidateId disposition = .ok result) :
    m.projection.stage ≠ .ambiguousHistory ∧
      (disposition = "selected" ∨ disposition = "rejected") ∧
      m.projection.currentCandidate = some result.1 ∧
      result.1.get "candidate_id" = .str candidateId ∧
      m.projection.dispositionStatus = "undisposed" := by
  obtain ⟨_, _, h⟩ := bind_eq_ok.mp h
  obtain ⟨_, hstage, h⟩ := bind_eq_ok.mp h
  obtain ⟨hdisposition, h⟩ := refuseIf_bind_eq_ok.mp h
  obtain ⟨candidate, hcandidate, h⟩ := bind_eq_ok.mp h
  obtain ⟨hstatus, h⟩ := refuseIf_bind_eq_ok.mp h
  obtain ⟨hcurrent, _, hid⟩ := requireCandidate_eq_ok.mp hcandidate
  have hresult : result = (candidate, m.projection.evidence) := by
    by_cases hselected : disposition = "selected"
    · rw [if_pos hselected] at h
      obtain ⟨_, _, h⟩ := bind_eq_ok.mp h
      obtain ⟨_, _, h⟩ := bind_eq_ok.mp h
      exact (Except.ok.inj h).symm
    · rw [if_neg hselected] at h
      obtain ⟨_, _, h⟩ := bind_eq_ok.mp h
      exact (Except.ok.inj h).symm
  rw [hresult]
  refine ⟨requireUnambiguous_eq_ok.mp hstage, ?_, hcurrent, hid _ rfl, not_ne_iff.mp hstatus⟩
  tauto

theorem requireSelection_ok {disposition : ForgeRecord}
    (h : m.requireSelection = .ok disposition) :
    m.projection.disposition = some disposition ∧
      m.projection.dispositionStatus = "selected" ∧ m.projection.freeze = none := by
  obtain ⟨_, h⟩ := refuseIf_bind_eq_ok.mp h
  cases hdisposition : m.projection.disposition with
  | none =>
      rw [hdisposition] at h
      cases h
  | some selection =>
      simp only [hdisposition] at h
      obtain ⟨hstatus, h⟩ := refuseIf_bind_eq_ok.mp h
      obtain ⟨hfreeze, h⟩ := refuseIf_bind_eq_ok.mp h
      obtain ⟨_, _, h⟩ := bind_eq_ok.mp h
      obtain ⟨_, h⟩ := refuseIf_bind_eq_ok.mp h
      obtain ⟨_, h⟩ := refuseIf_bind_eq_ok.mp h
      obtain rfl := Except.ok.inj h
      exact ⟨rfl, not_ne_iff.mp hstatus, not_ne_iff.mp hfreeze⟩

theorem authorizeCandidateFreeze_ok {candidateId : String}
    {evidencePlanRequirements : Option (List String)} {candidate selection : ForgeRecord}
    (h : m.authorizeCandidateFreeze candidateId evidencePlanRequirements =
      .ok (candidate, selection)) :
    m.projection.stage ≠ .ambiguousHistory ∧
      m.projection.currentCandidate = some candidate ∧
      m.projection.disposition = some selection ∧
      m.projection.dispositionStatus = "selected" ∧ m.projection.freeze = none := by
  obtain ⟨_, _, h⟩ := bind_eq_ok.mp h
  obtain ⟨_, hstage, h⟩ := bind_eq_ok.mp h
  obtain ⟨current, hcandidate, h⟩ := bind_eq_ok.mp h
  cases hactive : m.projection.activeEpoch with
  | none =>
      rw [hactive] at h
      cases h
  | some epoch =>
      simp only [hactive] at h
      obtain ⟨_, h⟩ := refuseIf_bind_eq_ok.mp h
      obtain ⟨disposition, hselection, h⟩ := bind_eq_ok.mp h
      obtain ⟨_, h⟩ := refuseIf_bind_eq_ok.mp h
      obtain ⟨_, _, h⟩ := bind_eq_ok.mp h
      obtain ⟨_, _, h⟩ := bind_eq_ok.mp h
      obtain ⟨_, _, h⟩ := bind_eq_ok.mp h
      obtain ⟨rfl, rfl⟩ := Prod.mk.inj (Except.ok.inj h)
      exact ⟨requireUnambiguous_eq_ok.mp hstage, (requireCandidate_eq_ok.mp hcandidate).1,
        requireSelection_ok hselection⟩

theorem authorizeEvaluatorEntry_eq_ok {candidateId : Option String}
    {freeze candidate : ForgeRecord} :
    m.authorizeEvaluatorEntry candidateId = .ok (freeze, candidate) ↔
      m.world.mode = .evaluator ∧ m.projection.stage ≠ .ambiguousHistory ∧
        m.projection.freeze = some freeze ∧
        (∀ id ∈ candidateId, Json.str id = freeze.get "candidate_identity") ∧
        freezeDrift m.world freeze = [] ∧
        m.projection.currentCandidate = some candidate ∧
        m.projection.candidateFreshness = "CURRENT" ∧
        candidate.get "candidate_id" = .str (textOf freeze "candidate_identity") ∧
        ∃ disposition, m.projection.disposition = some disposition ∧
          m.projection.dispositionStatus = "selected" ∧
          freeze.get "selection_record" = disposition.get "disposition_id" := by
  unfold authorizeEvaluatorEntry
  rw [bind_eq_ok]
  simp only [requireMode_eq_ok]
  rw [exists_and_left, exists_const, bind_eq_ok]
  simp only [requireUnambiguous_eq_ok]
  rw [exists_and_left, exists_const]
  refine and_congr_right fun _ => and_congr_right fun _ => ?_
  cases m.projection.freeze with
  | none => simp
  | some recorded =>
      simp only [refuseIf_bind_eq_ok, Option.some.injEq, not_exists, not_and, not_not, ne_eq]
      simp only [bind_eq_ok, requireCandidate_eq_ok]
      cases m.projection.disposition with
      | none => simp
      | some disposition =>
          simp only [refuseIf_bind_eq_ok, not_not, Except.ok.injEq, Prod.mk.injEq,
            Option.some.injEq, Option.mem_def, forall_eq', exists_eq_left']
          constructor
          · rintro ⟨hid, hdrift, current, ⟨hcurrent, hfresh, hmatch⟩, hstatus, hselection,
              rfl, rfl⟩
            exact ⟨rfl, hid, hdrift, hcurrent, hfresh, hmatch, hstatus, hselection⟩
          · rintro ⟨rfl, hid, hdrift, hcurrent, hfresh, hmatch, hstatus, hselection⟩
            exact ⟨hid, hdrift, candidate, ⟨hcurrent, hfresh, hmatch⟩, hstatus, hselection,
              rfl, rfl⟩

end ForgeStateMachine

end MncsForge.Lifecycle
