import Mathlib
import MncsForge.Lifecycle.Preflight

/-!
# Coverage of the required evidence

Before a candidate is decided on, its stage says how far the required evidence has
come.  The plain projection asks for a record of each requirement; the native one
folds the statuses and counts them.  The two stages agree on the coherent histories
in which no check is repeated in the place of one that is missing.
-/

namespace MncsForge.Lifecycle

open MncsForge.Foundation MncsForge.Records MncsForge.Native
open MncsForge.Native.Lifecycle (ProjectionState projectStage undisposedStage projectEvent
  projectionInitial)

section Coverage

variable (w : World) (history : History) (candidate : ForgeRecord)

/-- The evidence of a requirement of the candidate. -/
def evidenceOf (requirement : String) : List ForgeRecord :=
  evidenceFor history (textOf candidate "candidate_id") requirement

def allPass (requirement : String) : Bool :=
  (evidenceOf history candidate requirement).all fun record =>
    record.get "status" = .str "PASS"

/-- The stage by coverage: every requirement has records and they all pass, none has
any, or something in between. -/
def coverageStage : LifecycleStage :=
  if ∀ requirement ∈ w.requirements, evidenceOf history candidate requirement ≠ [] ∧
      allPass history candidate requirement = true then
    .candidateReady
  else if ∀ requirement ∈ w.requirements, evidenceOf history candidate requirement = [] then
    .candidateRegistered
  else .evidenceIncomplete

/-- Nothing has been decided about the candidate. -/
structure Undecided : Prop where
  disposition :
    recordsAbout .candidateDisposition history (some (textOf candidate "candidate_id")) = []
  freeze : recordsAbout .freeze history (some (textOf candidate "candidate_id")) = []
  evaluation :
    recordsAbout .finalEvaluation history (some (textOf candidate "candidate_id")) = []
  bundle : recordsAbout .bundle history (some (textOf candidate "candidate_id")) = []

/-- All evidence is current and comparable. -/
structure EvidenceCurrent : Prop where
  authority : authorityMatches w history (some candidate) = true
  fresh : ∀ requirement ∈ w.requirements, ∀ record ∈ evidenceOf history candidate requirement,
    observedFreshness w (textOf candidate "candidate_id") record = "CURRENT"
  comparable : ∀ requirement ∈ w.requirements,
    ∀ record ∈ evidenceOf history candidate requirement,
      isComparable w record = true ∧ environmentMatches w requirement record = true ∧
        policyMatches w requirement record = true

/-- A policy that could be read declares its requirements. -/
structure PolicyDeclared (w : World) : Prop where
  required : w.requirements ≠ []
  noError : w.selectionPolicyError = none

/-- As many passing records as requirements are records of all the requirements. -/
def CoversAll : Prop :=
  (∀ requirement ∈ w.requirements, allPass history candidate requirement = true) →
    w.requirements.length ≤
        (w.requirements.map fun requirement =>
          (evidenceOf history candidate requirement).length).sum →
      ∀ requirement ∈ w.requirements, evidenceOf history candidate requirement ≠ []

end Coverage

/-- The projection with the plain readiness and without the native step. -/
def plainProjection (w : World) (history : History) : LifecycleProjection :=
  projectWith w history
    (compatEvidenceReadiness w history (projectCandidate w history).current none)

/-- The native stage is the plain one, which is the stage by coverage. -/
def StageAgrees (native : NativeForgeAdapter) (w : World) (history : History)
    (candidate : ForgeRecord) : Prop :=
  ∃ result,
    native.lifecycleProjection (nativeHistoryEvents w history) w.currentCandidateIdentity
        w.requirements.length (!(plainProjection w history).bundles.isEmpty) = .ok result ∧
      stageOfNative result.projection.stage = (plainProjection w history).stage ∧
      (plainProjection w history).stage = coverageStage w history candidate

/-! ## The plain stage -/

section Plain

variable {hashing : Hashing} {w : World} {history : History} {candidate : ForgeRecord}
  {events : List (LineageEvent String)}

theorem evidenceOf_type {requirement : String} {record : ForgeRecord}
    (hrecord : record ∈ evidenceOf history candidate requirement) :
    (recordSpecs record.recordType).statusField = some "status" := by
  rcases List.mem_append.mp hrecord with h | h
  · have typed := (mem_typed.mp (List.mem_filter.mp (List.mem_filter.mp h).1).1).2
    rw [typed]
    rfl
  · have typed := (mem_typed.mp (List.mem_filter.mp (List.mem_filter.mp h).1).1).2
    rw [typed]
    rfl

/-- The text of a status is its value. -/
theorem statusText_eq {record : ForgeRecord} {status : Status}
    (spec : (recordSpecs record.recordType).statusField = some "status")
    (hstatus : record.get "status" = .str status.value) : statusText record = status.value := by
  have text : record.status = some status.value := by
    rw [ForgeRecord.get_eq_field (by decide) (by decide), field] at hstatus
    rw [ForgeRecord.status, spec, ForgeRecord.textField, Option.bind_some]
    cases hget : Dict.get? record.fields "status" with
    | none =>
        rw [hget] at hstatus
        cases hstatus
    | some value =>
        rw [hget, Option.getD_some] at hstatus
        rw [hstatus]
        rfl
  rw [statusText, text]
  cases status <;> rfl

/-- The status of a record of evidence, as both readings see it. -/
theorem evidence_status (valid : ∀ record ∈ history, record.Valid hashing)
    {requirement : String} {record : ForgeRecord}
    (hrecord : record ∈ evidenceOf history candidate requirement) :
    ∃ status : Status, record.get "status" = .str status.value ∧
      statusText record = status.value ∧ requirementStatus record = some status := by
  have hmem := (List.mem_filter.mp ((evidenceFor_perm valid).mem_iff.mp hrecord)).1
  have spec := evidenceOf_type hrecord
  obtain ⟨status, hstatus⟩ := status_of_valid (valid record hmem) spec
  exact ⟨status, hstatus, statusText_eq spec hstatus, requirementStatus_eq_some.mpr hstatus⟩

/-- The records of a requirement that has no failed and no unknown one all pass. -/
theorem allPass_iff (valid : ∀ record ∈ history, record.Valid hashing) {requirement : String} :
    allPass history candidate requirement = true ↔
      ∀ record ∈ evidenceOf history candidate requirement,
        requirementStatus record = some .pass := by
  rw [allPass, List.all_eq_true]
  refine forall₂_congr fun record hrecord => ?_
  obtain ⟨status, hstatus, _, hread⟩ := evidence_status valid hrecord
  rw [decide_eq_true_eq, hstatus, hread]
  cases status <;> decide

/-- With current and comparable evidence the plain readiness is coverage. -/
theorem ready_iff (valid : ∀ record ∈ history, record.Valid hashing)
    (policy : PolicyDeclared w) (current : EvidenceCurrent w history candidate) :
    (compatReadiness w history w.requirements w.selectionPolicyError candidate).ready = true ↔
      ∀ requirement ∈ w.requirements, evidenceOf history candidate requirement ≠ [] ∧
        allPass history candidate requirement = true := by
  have stale : ∀ requirement ∈ w.requirements,
      (evidenceOf history candidate requirement).any (fun record =>
        decide (observedFreshness w (textOf candidate "candidate_id") record = "STALE")) =
          false := by
    intro requirement hrequirement
    refine List.any_eq_false.mpr fun record hrecord => ?_
    rw [current.fresh requirement hrequirement record hrecord]
    decide
  have comparable : ∀ requirement ∈ w.requirements,
      (evidenceOf history candidate requirement).any
        (marksNoncomparable w (textOf candidate "candidate_id") requirement) = false := by
    intro requirement hrequirement
    refine List.any_eq_false.mpr fun record hrecord => ?_
    obtain ⟨comparable, environment, policy⟩ :=
      current.comparable requirement hrequirement record hrecord
    rw [marksNoncomparable, current.fresh requirement hrequirement record hrecord, comparable,
      environment, policy]
    decide
  have passes : ∀ requirement,
      allPass history candidate requirement = true ↔
        "FAIL" ∉ (evidenceOf history candidate requirement).map statusText ∧
          "UNKNOWN" ∉ (evidenceOf history candidate requirement).map statusText := by
    intro requirement
    rw [allPass_iff valid, List.mem_map, List.mem_map]
    constructor
    · intro pass
      constructor <;>
      · rintro ⟨record, hrecord, htext⟩
        obtain ⟨status, _, text, hread⟩ := evidence_status valid hrecord
        rw [pass record hrecord] at hread
        obtain rfl := Option.some.inj hread
        rw [text] at htext
        exact absurd htext (by decide)
    · rintro ⟨noFail, noUnknown⟩ record hrecord
      obtain ⟨status, _, text, hread⟩ := evidence_status valid hrecord
      cases status with
      | pass => exact hread
      | fail => exact absurd ⟨record, hrecord, text⟩ noFail
      | unknown => exact absurd ⟨record, hrecord, text⟩ noUnknown
  simp only [compatReadiness, policy.noError, decide_true, Bool.true_or, Bool.true_and,
    Bool.and_eq_true, decide_eq_true_eq, Dict.sortedSet_eq_nil, current.authority, if_true,
    List.append_nil, List.filter_eq_nil_iff]
  constructor
  · rintro ⟨⟨⟨⟨missing, unknown⟩, failed⟩, _⟩, _⟩ requirement hrequirement
    have noFail := failed requirement hrequirement
    exact ⟨missing requirement hrequirement, (passes requirement).mpr
      ⟨noFail, fun h => unknown requirement hrequirement ⟨noFail, h⟩⟩⟩
  · intro covered
    have noFail requirement hrequirement :=
      ((passes requirement).mp (covered requirement hrequirement).2).1
    have noUnknown requirement hrequirement :=
      ((passes requirement).mp (covered requirement hrequirement).2).2
    exact ⟨⟨⟨⟨fun requirement h => (covered requirement h).1, fun requirement h hunknown =>
      noUnknown requirement h hunknown.2⟩, noFail⟩,
      fun requirement h held => Bool.false_ne_true ((stale requirement h).symm.trans held)⟩,
      fun requirement h held => Bool.false_ne_true ((comparable requirement h).symm.trans held)⟩

/-- The lineage of a history whose current candidate is undecided. -/
theorem undecided_lineage (h : Traces history events) (coherent : Lineage.Coherent events)
    (hcandidate : (projectCandidate w history).current = some candidate)
    (undecided : Undecided history candidate) :
    (Lineage.run events).chain.head? = some (textOf candidate "candidate_id") ∧
      (Lineage.run events).disposition = none := by
  have reads := projectWith_reads h coherent.traced w
    (compatEvidenceReadiness w history (some candidate) none)
  have status := reads.dispositionStatus
  simp only [projectWith, hcandidate, Option.map_some, undecided.disposition] at status
  refine ⟨?_, ?_⟩
  · rw [← reads.candidate]
    simp only [projectWith, hcandidate, Option.map_some]
  · cases hdisposition : (Lineage.run events).disposition with
    | none => rfl
    | some settled =>
        obtain ⟨_, selected⟩ := settled
        rw [hdisposition] at status
        cases selected with
        | true => exact absurd (show "undisposed" = "selected" from status) (by decide)
        | false => exact absurd (show "undisposed" = "rejected" from status) (by decide)

/-- The stage of an undecided candidate rests on its evidence alone. -/
theorem undecided_stage {evidence : EvidenceReadiness}
    (unambiguous : (projectWith w history evidence).stage ≠ .ambiguousHistory)
    (hcandidate : (projectCandidate w history).current = some candidate)
    (undecided : Undecided history candidate) :
    (projectWith w history evidence).stage =
      if evidence.ready then .candidateReady
      else if evidence.present ≠ [] then .evidenceIncomplete
      else .candidateRegistered := by
  have active : (epochProjection history).active ≠ none := by
    intro none
    rw [projectCandidate, none] at hcandidate
    cases hcandidate
  simp only [projectWith, hcandidate, Option.map_some, undecided.disposition, undecided.freeze,
    undecided.evaluation, undecided.bundle] at unambiguous ⊢
  generalize List.any _ _ = conflict at unambiguous ⊢
  cases conflict with
  | true => exact absurd (if_pos rfl) unambiguous
  | false =>
      rw [if_neg Bool.false_ne_true, if_neg active, if_neg (Option.some_ne_none _),
        if_neg (not_not.mpr rfl), if_neg (not_not.mpr rfl),
        if_neg (show ¬ sole? ([] : List ForgeRecord) ≠ none from not_not.mpr rfl),
        if_neg (show ¬ dispositionStatusOf [] = "selected" by decide),
        if_neg (show ¬ dispositionStatusOf [] = "rejected" by decide)]

/-- The plain stage of an undecided candidate is its coverage. -/
theorem plain_stage (h : Traces history events) (coherent : Lineage.Coherent events)
    (valid : ∀ record ∈ history, record.Valid hashing)
    (hcandidate : (projectCandidate w history).current = some candidate)
    (undecided : Undecided history candidate) (policy : PolicyDeclared w)
    (current : EvidenceCurrent w history candidate) :
    (plainProjection w history).stage = coverageStage w history candidate := by
  have unambiguous := (projectWith_reads h coherent.traced w
    (compatEvidenceReadiness w history (some candidate) none)).unambiguous
  have evidence : compatEvidenceReadiness w history (some candidate) none =
      compatReadiness w history w.requirements w.selectionPolicyError candidate := rfl
  have present : (compatReadiness w history w.requirements w.selectionPolicyError
      candidate).present ≠ [] ↔
        ¬ ∀ requirement ∈ w.requirements, evidenceOf history candidate requirement = [] := by
    refine not_congr ?_
    simp only [compatReadiness, Dict.sortedSet_eq_nil, List.filter_eq_nil_iff,
      decide_eq_true_eq, not_not, ne_eq]
    exact Iff.rfl
  rw [plainProjection, hcandidate, undecided_stage unambiguous hcandidate undecided, evidence,
    coverageStage]
  simp only [ready_iff valid policy current, present, ite_not]

end Plain

/-! ## The native stage -/

section Native

variable {hashing : Hashing} {native : NativeForgeAdapter} {w : World} {history : History}
  {candidate : ForgeRecord} {events : List (LineageEvent String)} {s : ProjectionState}

theorem observed_eq_nil_iff (valid : ∀ record ∈ history, record.Valid hashing) :
    observedStatuses w.requirements history (textOf candidate "candidate_id") = [] ↔
      ∀ requirement ∈ w.requirements, evidenceOf history candidate requirement = [] := by
  have distinct : w.requirements.Nodup := fromKeys_nodup _
  rw [← List.length_eq_zero_iff, observedStatuses_length valid distinct, List.sum_eq_zero_iff]
  simp only [List.mem_map, forall_exists_index, and_imp, forall_apply_eq_imp_iff₂,
    List.length_eq_zero_iff]
  exact Iff.rfl

theorem joined_eq_pass_iff (valid : ∀ record ∈ history, record.Valid hashing) :
    joinedStatus (observedStatuses w.requirements history (textOf candidate "candidate_id")) =
        .pass ↔
      (¬ ∀ requirement ∈ w.requirements, evidenceOf history candidate requirement = []) ∧
        ∀ requirement ∈ w.requirements, allPass history candidate requirement = true := by
  have other : (∀ requirement ∈ w.requirements, allPass history candidate requirement = true) ↔
      .fail ∉ observedStatuses w.requirements history (textOf candidate "candidate_id") ∧
        .unknown ∉ observedStatuses w.requirements history (textOf candidate "candidate_id") := by
    simp only [mem_observedStatuses valid, allPass_iff valid]
    constructor
    · intro pass
      constructor <;>
      · rintro ⟨requirement, hrequirement, record, hrecord, hstatus⟩
        rw [pass requirement hrequirement record hrecord] at hstatus
        cases hstatus
    · rintro ⟨noFail, noUnknown⟩ requirement hrequirement record hrecord
      obtain ⟨status, _, _, hread⟩ := evidence_status valid hrecord
      cases status with
      | pass => exact hread
      | fail => exact absurd ⟨requirement, hrequirement, record, hrecord, hread⟩ noFail
      | unknown => exact absurd ⟨requirement, hrequirement, record, hrecord, hread⟩ noUnknown
  rw [joinedStatus_eq, other, ← observed_eq_nil_iff valid]
  split_ifs with fail unknown
  · simp [fail]
  · rcases unknown with unknown | unknown <;> simp [unknown]
  · simpa [fail] using unknown

/-- The counted stage is the coverage exactly when no repeated check stands for a missing one. -/
theorem undisposedStage_iff (valid : ∀ record ∈ history, record.Valid hashing)
    (policy : PolicyDeclared w)
    (count : s.evidenceCount =
      (observedStatuses w.requirements history (textOf candidate "candidate_id")).length)
    (evidence : s.evidence =
      joinedStatus (observedStatuses w.requirements history (textOf candidate "candidate_id"))) :
    stageOfNative (undisposedStage s w.requirements.length) = coverageStage w history candidate ↔
      CoversAll w history candidate := by
  have distinct : w.requirements.Nodup := fromKeys_nodup _
  have total : (observedStatuses w.requirements history (textOf candidate "candidate_id")).length =
      (w.requirements.map fun requirement =>
        (evidenceOf history candidate requirement).length).sum :=
    observedStatuses_length valid distinct
  have nonempty := List.length_pos_of_ne_nil policy.required
  have empty : (w.requirements.map fun requirement =>
      (evidenceOf history candidate requirement).length).sum = 0 ↔
        ∀ requirement ∈ w.requirements, evidenceOf history candidate requirement = [] := by
    rw [← total, List.length_eq_zero_iff, observed_eq_nil_iff valid]
  simp only [undisposedStage, count, evidence, joined_eq_pass_iff valid, total]
  rw [coverageStage, CoversAll]
  by_cases absent : ∀ requirement ∈ w.requirements, evidenceOf history candidate requirement = []
  · obtain ⟨requirement, hrequirement⟩ := List.exists_mem_of_ne_nil _ policy.required
    have uncovered : ¬ ∀ requirement ∈ w.requirements,
        evidenceOf history candidate requirement ≠ [] ∧
          allPass history candidate requirement = true := fun covered =>
      (covered requirement hrequirement).1 (absent requirement hrequirement)
    rw [if_pos (empty.mpr absent), if_neg uncovered, if_pos absent, empty.mpr absent]
    exact iff_of_true rfl fun _ few => absurd few (by omega)
  · rw [if_neg fun none => absent (empty.mp none), if_neg absent]
    have enough : (∀ requirement ∈ w.requirements,
        evidenceOf history candidate requirement ≠ []) → w.requirements.length ≤
          (w.requirements.map fun requirement =>
            (evidenceOf history candidate requirement).length).sum := fun covered =>
      length_le_sum fun requirement h => List.length_pos_of_ne_nil (covered requirement h)
    by_cases pass : ∀ requirement ∈ w.requirements, allPass history candidate requirement = true
    · by_cases covered : ∀ requirement ∈ w.requirements,
          evidenceOf history candidate requirement ≠ []
      · rw [if_pos ⟨⟨absent, pass⟩, enough covered⟩,
          if_pos fun requirement h => ⟨covered requirement h, pass requirement h⟩]
        exact iff_of_true rfl fun _ _ => covered
      · rw [if_neg fun both : ∀ requirement ∈ w.requirements, _ ∧ _ =>
          covered fun requirement h => (both requirement h).1]
        by_cases few : w.requirements.length ≤ (w.requirements.map fun requirement =>
            (evidenceOf history candidate requirement).length).sum
        · rw [if_pos ⟨⟨absent, pass⟩, few⟩]
          exact iff_of_false (by decide) fun covers => covered (covers pass few)
        · rw [if_neg fun both => few both.2]
          exact iff_of_true rfl fun _ enough => absurd enough few
    · rw [if_neg fun both => pass both.1.2,
        if_neg fun both : ∀ requirement ∈ w.requirements, _ ∧ _ =>
          pass fun requirement h => (both requirement h).2]
      exact iff_of_true rfl fun all => absurd all pass

/-- The native stage of an undecided candidate is the plain one exactly when no candidate
was evaluated twice and no repeated check stands for a missing one. -/
theorem native_stage_agrees_iff (hcore : native.core.Documented) (h : Traces history events)
    (coherent : Lineage.Coherent events) (valid : ∀ record ∈ history, record.Valid hashing)
    (identified : ∀ record ∈ history, Identified record)
    (hcandidate : (projectCandidate w history).current = some candidate)
    (undecided : Undecided history candidate) (policy : PolicyDeclared w)
    (current : EvidenceCurrent w history candidate)
    (events_le : (nativeHistoryEvents w history).length ≤ 32)
    (requirements_le : w.requirements.length ≤ 255)
    (decodable : (valueDigest? (.str w.currentCandidateIdentity)).isSome) :
    StageAgrees native w history candidate ↔
      Lineage.StrictlyCoherent events ∧ CoversAll w history candidate := by
  have plain := plain_stage h coherent valid hcandidate undecided policy current
  have bundles : (!(plainProjection w history).bundles.isEmpty) = false := by
    simp only [plainProjection, projectWith, hcandidate, Option.map_some, undecided.bundle]
    rfl
  obtain ⟨chain, disposition⟩ := undecided_lineage h coherent hcandidate undecided
  have unambiguous : (plainProjection w history).stage ≠ .ambiguousHistory :=
    (projectWith_reads h coherent.traced w _).unambiguous
  -- what a strictly coherent history folds to
  have strictStage : ∀ values, (nativeHistoryEvents w history).mapM historyEventValue = .ok values →
      Lineage.StrictlyCoherent events →
        (stageOfNative (projectStage native.core
            (values.foldl (projectEvent native.core) (projectionInitial native.core))
            w.requirements.length false) = coverageStage w history candidate ↔
          CoversAll w history candidate) := by
    intro values hvalues strict
    obtain ⟨values', hvalues', shows'⟩ :=
      native_shows hcore h strict valid identified w.requirements
    obtain rfl : values' = values := Except.ok.inj (hvalues'.symm.trans hvalues)
    obtain ⟨count, evidence⟩ := shows'.observed _ chain disposition
    have present : (Lineage.run events).chain ≠ [] := by
      intro none
      rw [none] at chain
      cases chain
    rw [shows'.stage_undisposed hcore (named_of_identified h coherent identified)
      coherent.traced present disposition, if_neg Bool.false_ne_true]
    exact undisposedStage_iff valid policy count evidence
  rw [StageAgrees, bundles, plain]
  constructor
  · rintro ⟨result, hresult, stage, _⟩
    obtain ⟨_, _, values, observed, hvalues, _, rfl⟩ := lifecycleProjection_eq_ok.mp hresult
    rw [project_projection _ _ _ ((mapM_length hvalues).symm.trans_le events_le)] at stage
    have strict : Lineage.StrictlyCoherent events := by
      refine strict_of_lineageOk hcore h coherent valid identified hvalues ?_
      by_contra lost
      rw [projectStage, if_pos (Bool.not_eq_true _ ▸ lost), ← plain] at stage
      exact unambiguous stage.symm
    exact ⟨strict, (strictStage values hvalues strict).mp stage⟩
  · rintro ⟨strict, covers⟩
    obtain ⟨values, hvalues, _⟩ := native_shows hcore h strict valid identified w.requirements
    obtain ⟨observed, hobserved⟩ := Option.isSome_iff_exists.mp decodable
    refine ⟨_, lifecycleProjection_eq_ok.mpr
      ⟨events_le, requirements_le, values, observed, hvalues, hobserved, rfl⟩, ?_, rfl⟩
    rw [project_projection _ _ _ ((mapM_length hvalues).symm.trans_le events_le)]
    exact (strictStage values hvalues strict).mpr covers

end Native

/-! ## A repeated check -/

/-- A second result of the sample check. -/
def repeatedResult : ForgeRecord :=
  filledRecord .workflowResult
    [("candidate_identity", .str sampleCandidateId), ("output_identity", .str "output:2"),
     ("status", .str "PASS"), ("subject_type", .str "candidate"), ("workflow", .str "check")]

def repeatedHistory : History :=
  [sampleEpoch, sampleCandidate, sampleResult, repeatedResult]

def repeatedEvents : List (LineageEvent String) :=
  [.epoch sampleEpochId none, .candidate sampleCandidateId sampleEpochId none,
   .observation sampleCandidateId, .observation sampleCandidateId]

def coverageWorld (requiredEvidence : List String) : World :=
  { sampleWorld .development (some sampleNative) with requiredEvidence := requiredEvidence }

theorem repeatedHistory_traces : Traces repeatedHistory repeatedEvents := by
  unfold Traces
  decide +kernel

theorem repeatedEvents_coherent : Lineage.StrictlyCoherent repeatedEvents := by
  have once {l : Lineage String} {event : LineageEvent String} (admits : l.Admits event)
      (other : ∀ candidate, event ≠ .evaluation candidate) : l.AdmitsOnce event :=
    ⟨admits, fun candidate h => absurd h (other candidate)⟩
  refine (((Lineage.Built.nil.snoc (once ?_ ?_)).snoc (once ?_ ?_)).snoc
    (once ?_ ?_)).snoc (once ?_ ?_)
  all_goals first
    | (intro candidate h; cases h; done)
    | simp [Lineage.Admits, Lineage.run, Lineage.apply]

theorem repeatedHistory_valid : ∀ record ∈ repeatedHistory, record.Valid sampleHashing := by
  unfold ForgeRecord.Valid
  decide +kernel

theorem repeatedHistory_identified : ∀ record ∈ repeatedHistory, Identified record := by
  have epoch : Identified sampleEpoch :=
    ⟨fun _ => ⟨sampleEpochId, ⟨_, by decide, rfl⟩, rfl⟩, fun h => nomatch h⟩
  have candidate : Identified sampleCandidate :=
    ⟨fun h => (nomatch h), fun _ => ⟨sampleCandidateId, ⟨_, by decide, rfl⟩, rfl⟩⟩
  have result (given : Dict String Json) : Identified (filledRecord .workflowResult given) :=
    .of_other (show RecordType.workflowResult ≠ .epoch by decide)
      (show RecordType.workflowResult ≠ .candidate by decide)
  simpa [repeatedHistory] using ⟨epoch, candidate, result _, result _⟩

theorem repeatedHistory_undecided : Undecided repeatedHistory sampleCandidate where
  disposition := by decide +kernel
  freeze := by decide +kernel
  evaluation := by decide +kernel
  bundle := by decide +kernel

theorem native_stage_agrees_iff_sample :
    StageAgrees sampleNative (coverageWorld ["check"]) repeatedHistory sampleCandidate ↔
      Lineage.StrictlyCoherent repeatedEvents ∧
        CoversAll (coverageWorld ["check"]) repeatedHistory sampleCandidate :=
  native_stage_agrees_iff referenceCore_documented repeatedHistory_traces
    repeatedEvents_coherent.coherent repeatedHistory_valid repeatedHistory_identified
    (by decide +kernel) repeatedHistory_undecided ⟨by decide +kernel, rfl⟩
    ⟨by decide +kernel, by decide +kernel, by decide +kernel⟩ (by decide +kernel)
    (by decide +kernel) (by decide +kernel)

/-- Two results of one check stand for two required checks in the native count. -/
theorem native_stage_miscounts :
    Traces repeatedHistory repeatedEvents ∧ Lineage.StrictlyCoherent repeatedEvents ∧
      (nativeHistoryEvents (coverageWorld ["check", "lint"]) repeatedHistory).length ≤ 32 ∧
      (projectCandidate (coverageWorld ["check", "lint"]) repeatedHistory).current =
        some sampleCandidate ∧
      Undecided repeatedHistory sampleCandidate ∧
      EvidenceCurrent (coverageWorld ["check", "lint"]) repeatedHistory sampleCandidate ∧
      (∃ result, sampleNative.lifecycleProjection
          (nativeHistoryEvents (coverageWorld ["check", "lint"]) repeatedHistory)
          sampleCandidateId 2 false = .ok result ∧
        result.projection.stage = .candidateReady) ∧
      (plainProjection (coverageWorld ["check", "lint"]) repeatedHistory).stage =
        .evidenceIncomplete := by
  refine ⟨repeatedHistory_traces, repeatedEvents_coherent, by decide +kernel,
    by decide +kernel, repeatedHistory_undecided,
    ⟨by decide +kernel, by decide +kernel, by decide +kernel⟩, ?_, by decide +kernel⟩
  obtain ⟨result, hresult, hstage⟩ := bind_eq_ok.mp
    (show (do
      let result ← sampleNative.lifecycleProjection
        (nativeHistoryEvents (coverageWorld ["check", "lint"]) repeatedHistory)
        sampleCandidateId 2 false
      .ok result.projection.stage) = .ok Native.Lifecycle.Stage.candidateReady by
        decide +kernel)
  exact ⟨result, hresult, Except.ok.inj hstage⟩

end MncsForge.Lifecycle
