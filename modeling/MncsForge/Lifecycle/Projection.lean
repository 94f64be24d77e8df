import Mathlib
import MncsForge.Lifecycle.Evidence

/-!
# The lifecycle projection

One coherent view of a history: the active epoch, the current candidate, what
was decided about it, and the stage these add up to.  Conflicts of the recorded
lineage are kept as limitations and make the stage ambiguous.
-/

namespace MncsForge.Lifecycle

open MncsForge.Foundation MncsForge.Records MncsForge.Native

structure LifecycleProjection where
  stage : LifecycleStage
  activeEpoch : Option ForgeRecord
  epochStatus : String
  supersededEpochs : List String
  currentCandidate : Option ForgeRecord
  candidateStatus : String
  candidateFreshness : String
  candidateLineage : List String
  evidence : EvidenceReadiness
  disposition : Option ForgeRecord
  dispositionStatus : String
  freeze : Option ForgeRecord
  freezeStatus : String
  evaluations : List ForgeRecord
  evaluationStatus : String
  reconciliationStatus : String
  bundles : List ForgeRecord
  bundleStatus : String
  limitations : List TransitionBlocker

/-! ## Epochs -/

/-- The loop over epoch records, with the previous identity and the known ones. -/
def epochsCoherent (previous : Option String) (known : List String) :
    List ForgeRecord → Bool
  | [] => true
  | epoch :: rest =>
      let epochId := textOf epoch "epoch_id"
      decide (epochId ∉ known) && decide (epoch.get "parent_epoch" = .ofText previous) &&
        epochsCoherent (some epochId) (epochId :: known) rest

def epochLineageConflict : TransitionBlocker :=
  ⟨"EPOCH_LINEAGE_CONFLICT",
    "historical epoch records do not form one unbranched parent lineage"⟩

structure EpochProjection where
  active : Option ForgeRecord
  status : String
  superseded : List String
  limitations : List TransitionBlocker

def epochProjection (history : History) : EpochProjection :=
  let epochs := typed .epoch history
  if epochs = [] then ⟨none, "absent", [], []⟩
  else
    let coherent := epochsCoherent none [] epochs
    { active := epochs.getLast?
      status := if coherent then "active" else "ambiguous"
      superseded := epochs.dropLast.map fun epoch => textOf epoch "epoch_id"
      limitations := if coherent then [] else [epochLineageConflict] }

/-! ## Candidates -/

def epochSuperseded : TransitionBlocker :=
  ⟨"EPOCH_SUPERSEDED", "historical candidate was recorded against a superseded epoch"⟩

def candidateLineageConflict : TransitionBlocker :=
  ⟨"CANDIDATE_LINEAGE_CONFLICT",
    "historical candidates do not form one active-epoch lineage"⟩

def candidateCycle : TransitionBlocker :=
  ⟨"CANDIDATE_LINEAGE_CONFLICT", "historical candidate parentage contains a cycle"⟩

/-- The last candidate record under an identity text. -/
def knownCandidate (history : History) (candidateId : String) : Option ForgeRecord :=
  (typed .candidate history).reverse.find? fun record =>
    textOf record "candidate_id" = candidateId

def parentOf (history : History) (candidate : ForgeRecord) : Option ForgeRecord :=
  if candidate.get "parent_candidate" = .null then none
  else knownCandidate history (textOf candidate "parent_candidate")

/-- The loop over the candidates of the active epoch. -/
def candidatesCoherent (history : History) (epochId : String) (previous : Option String) :
    List ForgeRecord → Bool
  | [] => true
  | candidate :: rest =>
      let candidateId := textOf candidate "candidate_id"
      let parent := candidate.get "parent_candidate"
      decide (parent ≠ .str candidateId) && decide (parent = .ofText previous) &&
        (decide (parent = .null) ||
          match parentOf history candidate with
          | none => false
          | some record => decide (record.get "source_epoch" = .str epochId)) &&
        candidatesCoherent history epochId (some candidateId) rest

/-- The walk from a candidate to its oldest ancestor: the identities it meets,
newest first, and whether it met one twice. -/
def lineageWalk (history : History) :
    Nat → List String → Option ForgeRecord → List String × Bool
  | _, lineage, none => (lineage, false)
  | 0, lineage, some _ => (lineage, false)
  | fuel + 1, lineage, some cursor =>
      let candidateId := textOf cursor "candidate_id"
      if candidateId ∈ lineage then (lineage, true)
      else lineageWalk history fuel (lineage ++ [candidateId]) (parentOf history cursor)

/-- The walk meets every candidate identity at most once, so this much is enough. -/
def lineageFuel (history : History) : Nat :=
  (typed .candidate history).length + 1

structure CandidateProjection where
  current : Option ForgeRecord
  status : String
  freshness : String
  lineage : List String
  limitations : List TransitionBlocker

/-- The position of the active epoch: the first record under its identity. -/
def epochIndex (history : History) (epochId : String) : Nat :=
  ((recordsOf .epoch history).find? fun entry =>
    entry.1.get "epoch_id" = .str epochId).elim history.length Prod.snd

/-- The candidates of an epoch. -/
def candidatesOfEpoch (history : History) (epochId : String) : List ForgeRecord :=
  (typed .candidate history).filter fun record => record.get "source_epoch" = .str epochId

def candidateProjection (w : World) (history : History) (activeEpoch : Option ForgeRecord) :
    CandidateProjection :=
  match activeEpoch with
  | none => ⟨none, "absent", "UNKNOWN", [], []⟩
  | some epoch =>
      let epochId := textOf epoch "epoch_id"
      let outdated :=
        (recordsOf .candidate history).any fun entry =>
          epochIndex history epochId < entry.2 && entry.1.get "source_epoch" ≠ .str epochId
      let candidates := candidatesOfEpoch history epochId
      let coherent := candidatesCoherent history epochId none candidates
      let limitations :=
        (if outdated then [epochSuperseded] else []) ++
          if coherent then [] else [candidateLineageConflict]
      match candidates.getLast? with
      | none => ⟨none, "absent", "UNKNOWN", [], limitations⟩
      | some current =>
          let walk := lineageWalk history (lineageFuel history) [] (some current)
          { current := some current
            status := if coherent && !walk.2 then "current" else "ambiguous"
            freshness :=
              if current.get "candidate_id" = .str w.currentCandidateIdentity then "CURRENT"
              else "STALE"
            lineage := walk.1.reverse
            limitations := limitations ++ if walk.2 then [candidateCycle] else [] }

/-! ## Decisions about the current candidate -/

/-- The records of a type about a candidate, or about none when there is none. -/
def recordsAbout (recordType : RecordType) (history : History)
    (candidateId : Option String) : List ForgeRecord :=
  (typed recordType history).filter fun record =>
    record.get "candidate_identity" = .ofText candidateId

/-- The only record of a list. -/
def sole? : List ForgeRecord → Option ForgeRecord
  | [record] => some record
  | _ => none

/-- `_freeze_drift`. -/
def freezeDrift (w : World) (freeze : ForgeRecord) : List String :=
  Dict.sortedSet (Dict.keys
    (w.currentFreezeBindings.filter fun entry => freeze.get entry.1 ≠ .str entry.2))

def dispositionConflict : TransitionBlocker :=
  ⟨"CANDIDATE_DISPOSITION_CONFLICT",
    "historical candidate has multiple terminal dispositions"⟩

def freezeConflict : TransitionBlocker :=
  ⟨"FREEZE_CONFLICT", "historical candidate has multiple freeze records"⟩

def comparabilityLimited : TransitionBlocker :=
  ⟨"EVIDENCE_COMPARABILITY_LIMITED",
    "workflow evidence compares recorded candidate, workflow, and environment-key " ++
      "bindings; environment values are not disclosed"⟩

def lineageConflictCodes : List String :=
  ["EPOCH_LINEAGE_CONFLICT", "EPOCH_SUPERSEDED", "CANDIDATE_LINEAGE_CONFLICT",
   "CANDIDATE_DISPOSITION_CONFLICT", "FREEZE_CONFLICT"]

def dispositionStatusOf (dispositions : List ForgeRecord) : String :=
  if 1 < dispositions.length then "conflict"
  else
    match sole? dispositions with
    | none => "undisposed"
    | some disposition => textOf disposition "disposition"

def freezeStatusOf (w : World) (freezes : List ForgeRecord) : String :=
  if 1 < freezes.length then "conflict"
  else
    match sole? freezes with
    | none => "absent"
    | some freeze => if freezeDrift w freeze = [] then "current" else "drifted"

/-- The candidate projection on top of the epoch projection. -/
def projectCandidate (w : World) (history : History) : CandidateProjection :=
  candidateProjection w history (epochProjection history).active

/-- `_project` up to the native step, for the evidence of the current candidate. -/
def projectWith (w : World) (history : History) (evidence : EvidenceReadiness) :
    LifecycleProjection :=
  let epochs := epochProjection history
  let candidates := projectCandidate w history
  let candidateId := candidates.current.map fun candidate => textOf candidate "candidate_id"
  let dispositions := recordsAbout .candidateDisposition history candidateId
  let freezes := recordsAbout .freeze history candidateId
  let evaluations := recordsAbout .finalEvaluation history candidateId
  let bundles := recordsAbout .bundle history candidateId
  let limitations :=
    epochs.limitations ++ candidates.limitations ++
      (if evidence.present ≠ [] then [comparabilityLimited] else []) ++
      (if 1 < dispositions.length then [dispositionConflict] else []) ++
      if 1 < freezes.length then [freezeConflict] else []
  let dispositionStatus := dispositionStatusOf dispositions
  let stage : LifecycleStage :=
    if limitations.any fun blocker => blocker.code ∈ lineageConflictCodes then
      .ambiguousHistory
    else if epochs.active = none then .noEpoch
    else if candidates.current = none then .epochActive
    else if bundles ≠ [] then .bundleComplete
    else if evaluations ≠ [] then .evaluationComplete
    else if sole? freezes ≠ none then .candidateFrozen
    else if dispositionStatus = "selected" then .candidateSelected
    else if dispositionStatus = "rejected" then .candidateRejected
    else if evidence.ready then .candidateReady
    else if evidence.present ≠ [] then .evidenceIncomplete
    else .candidateRegistered
  { stage := stage
    activeEpoch := epochs.active
    epochStatus := epochs.status
    supersededEpochs := epochs.superseded
    currentCandidate := candidates.current
    candidateStatus := candidates.status
    candidateFreshness := candidates.freshness
    candidateLineage := candidates.lineage
    evidence := evidence
    disposition := sole? dispositions
    dispositionStatus := dispositionStatus
    freeze := sole? freezes
    freezeStatus := freezeStatusOf w freezes
    evaluations := evaluations
    evaluationStatus := if evaluations ≠ [] then "complete" else "not_started"
    reconciliationStatus :=
      if stage = .ambiguousHistory then "unknown" else "derived_on_request"
    bundles := bundles
    bundleStatus := if bundles ≠ [] then "complete" else "not_started"
    limitations := limitations }

/-! ## The native step -/

/-- `str(record.get("status") or "UNKNOWN")`. -/
def eventStatus (record : ForgeRecord) : String :=
  if (record.get "status").truthy then (record.get "status").display else "UNKNOWN"

/-- The event a record is reduced to, if any. -/
def nativeEvent? (requirements : List String) (record : ForgeRecord) : Option HostEvent :=
  let observed (subject : String) : Option HostEvent :=
    if record.get "candidate_identity" ≠ .null ∧
        (record.get subject).asStr?.any (· ∈ requirements) then
      some
        { kind := .evidenceObserved
          candidate := .str (textOf record "candidate_identity")
          status := eventStatus record }
    else none
  match record.recordType with
  | .epoch =>
      some
        { kind := .epochStarted
          epoch := .str (textOf record "epoch_id")
          parentEpoch := record.get "parent_epoch" }
  | .candidate =>
      some
        { kind := .candidateRegistered
          epoch := .str (textOf record "source_epoch")
          candidate := .str (textOf record "candidate_id")
          parentCandidate := record.get "parent_candidate" }
  | .workflowResult =>
      if record.get "subject_type" ≠ .str "project" then observed "workflow" else none
  | .verifierResult =>
      if record.get "mode" = .str "development" then observed "verifier_id" else none
  | .candidateDisposition =>
      if textOf record "disposition" = "selected" then
        some
          { kind := .candidateSelected
            candidate := .str (textOf record "candidate_identity") }
      else if textOf record "disposition" = "rejected" then
        some
          { kind := .candidateRejected
            candidate := .str (textOf record "candidate_identity") }
      else none
  | .freeze =>
      some
        { kind := .candidateFrozen
          candidate := .str (textOf record "candidate_identity") }
  | .finalEvaluation =>
      if record.get "candidate_identity" ≠ .null then
        some
          { kind := .evaluationRecorded
            candidate := .str (textOf record "candidate_identity")
            status := eventStatus record }
      else none
  | _ => none

/-- `_native_history_events`. -/
def nativeHistoryEvents (w : World) (history : History) : List HostEvent :=
  history.filterMap (nativeEvent? w.requirements)

def stageOfNative : Native.Lifecycle.Stage → LifecycleStage
  | .noEpoch => .noEpoch
  | .epochActive => .epochActive
  | .candidateRegistered => .candidateRegistered
  | .evidenceIncomplete => .evidenceIncomplete
  | .candidateReady => .candidateReady
  | .candidateSelected => .candidateSelected
  | .candidateRejected => .candidateRejected
  | .candidateFrozen => .candidateFrozen
  | .evaluationComplete => .evaluationComplete
  | .ambiguousHistory => .ambiguousHistory
  | .bundleComplete => .bundleComplete

def freshnessText : Native.Lifecycle.Freshness → String
  | .notApplicable => "NOT_APPLICABLE"
  | .current => "CURRENT"
  | .stale => "STALE"
  | .unknown => "UNKNOWN"

/-- `native.freshness.upper()`. -/
def upperFreshness : Native.Lifecycle.Freshness → String
  | .notApplicable => "NOTAPPLICABLE"
  | .current => "CURRENT"
  | .stale => "STALE"
  | .unknown => "UNKNOWN"

def dispositionText : Native.Lifecycle.Disposition → String
  | .undisposed => "undisposed"
  | .selected => "selected"
  | .rejected => "rejected"
  | .conflict => "conflict"

def nativeLineageConflict : TransitionBlocker :=
  ⟨"NATIVE_LINEAGE_CONFLICT",
    "MNCS lifecycle projection found an invalid parent relationship"⟩

/-- The native identity must be the digest of the recorded one, when there is one. -/
def requireDigest (identity : Option Json) (digest : Digest32) (context message : String) :
    Except ForgeError Unit :=
  match identity with
  | none => .ok ()
  | some identity => do
      let expected ← digestValue identity context
      refuseIf (digest ≠ expected) "NATIVE_LIFECYCLE_MISMATCH" message

/-- A parent is compared only when the native projection has one. -/
def requireParentDigest (identity : Option Json) (digest : Digest32)
    (context message : String) : Except ForgeError Unit :=
  if digest ≠ Digest32.zero then requireDigest identity digest context message else .ok ()

/-- What the native projection overrides once the identities agree. -/
def overrideNative (projection : LifecycleProjection)
    (native : Native.Lifecycle.ProjectionState) : LifecycleProjection :=
  if native.lineageOk = false then
    { projection with
      stage := .ambiguousHistory
      candidateStatus := "ambiguous"
      candidateFreshness := upperFreshness native.freshness
      limitations :=
        if projection.limitations.any fun blocker =>
            blocker.code = "NATIVE_LINEAGE_CONFLICT" then
          projection.limitations
        else projection.limitations ++ [nativeLineageConflict]
      reconciliationStatus := "unknown" }
  else
    let stage := stageOfNative native.stage
    { projection with
      stage := stage
      candidateStatus :=
        if stage ≠ .ambiguousHistory then projection.candidateStatus else "ambiguous"
      candidateFreshness := freshnessText native.freshness
      dispositionStatus := dispositionText native.disposition
      reconciliationStatus :=
        if stage = .ambiguousHistory then "unknown" else projection.reconciliationStatus }

/-- `_apply_native_projection`. -/
def applyNative (w : World) (history : History) (projection : LifecycleProjection) :
    Except ForgeError LifecycleProjection :=
  match w.native with
  | none => .ok projection
  | some adapter => do
      let result ← adapter.lifecycleProjection (nativeHistoryEvents w history)
        w.currentCandidateIdentity w.requirements.length (!projection.bundles.isEmpty)
      let native := result.projection
      requireDigest
        (projection.activeEpoch.map fun epoch => .str (textOf epoch "epoch_id"))
        native.activeEpoch "native active epoch"
        "native lifecycle projection disagrees with the active epoch identity"
      requireDigest
        (projection.currentCandidate.map fun candidate => .str (textOf candidate "candidate_id"))
        native.currentCandidate "native current candidate"
        "native lifecycle projection disagrees with the current candidate identity"
      requireParentDigest (projection.activeEpoch.map fun epoch => epoch.get "parent_epoch")
        native.parentEpoch "native parent epoch"
        "native lifecycle projection disagrees with epoch parentage"
      requireParentDigest
        (projection.currentCandidate.map fun candidate => candidate.get "parent_candidate")
        native.parentCandidate "native parent candidate"
        "native lifecycle projection disagrees with candidate parentage"
      .ok (overrideNative projection native)

/-- `_project`. -/
def project (w : World) (history : History) : Except ForgeError LifecycleProjection := do
  let evidence ← evidenceReadiness w history (projectCandidate w history).current none
  applyNative w history (projectWith w history evidence)

/-! ## The walk has enough fuel -/

section Fuel

variable {history : History}

private theorem parentOf_mem {candidate parent : ForgeRecord}
    (h : parentOf history candidate = some parent) : parent ∈ typed .candidate history := by
  unfold parentOf at h
  split at h
  · cases h
  · exact List.mem_reverse.mp (List.mem_of_find?_eq_some h)

private theorem lineageWalk_extra (fuel : Nat) (lineage : List String)
    (cursor : Option ForgeRecord) (extra : Nat)
    (known : ∀ record, cursor = some record → record ∈ typed .candidate history)
    (nodup : lineage.Nodup)
    (seen : ∀ id ∈ lineage,
      id ∈ (typed .candidate history).map fun record => textOf record "candidate_id")
    (enough : (typed .candidate history).length < fuel + lineage.length) :
    lineageWalk history (fuel + extra) lineage cursor =
      lineageWalk history fuel lineage cursor := by
  induction fuel generalizing lineage cursor with
  | zero =>
      -- more distinct identities than candidates
      have bound := (List.subperm_of_subset nodup seen).length_le
      rw [List.length_map] at bound
      omega
  | succ fuel ih =>
      cases cursor with
      | none => simp [lineageWalk]
      | some record =>
          rw [Nat.succ_add_eq_add_succ, Nat.add_succ]
          by_cases hseen : textOf record "candidate_id" ∈ lineage
          · simp only [lineageWalk, if_pos hseen]
          · simp only [lineageWalk, if_neg hseen]
            refine ih _ _ (fun parent hparent => parentOf_mem hparent) ?_ ?_ ?_
            · refine List.nodup_append.mpr ⟨nodup, List.nodup_singleton _, ?_⟩
              rintro a ha b hb rfl
              rw [List.mem_singleton.mp hb] at ha
              exact hseen ha
            · intro id hid
              rcases List.mem_append.mp hid with hid | hid
              · exact seen id hid
              · rw [List.mem_singleton.mp hid]
                exact List.mem_map_of_mem (known record rfl)
            · rw [List.length_append, List.length_singleton]
              omega

/-- More fuel changes nothing. -/
theorem lineageWalk_fuel {candidate : ForgeRecord} (extra : Nat)
    (h : candidate ∈ typed .candidate history) :
    lineageWalk history (lineageFuel history + extra) [] (some candidate) =
      lineageWalk history (lineageFuel history) [] (some candidate) := by
  refine lineageWalk_extra _ _ _ extra ?_ List.nodup_nil ?_ ?_
  · rintro record ⟨⟩
    exact h
  · intro id hid
    cases hid
  · rw [lineageFuel, List.length_nil]
    omega

end Fuel

end MncsForge.Lifecycle
