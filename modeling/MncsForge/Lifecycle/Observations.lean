import Mathlib
import MncsForge.Native.ReadinessExchange
import MncsForge.Lifecycle.NativeHistory

/-!
# Observations of the required evidence

The plain readiness collects the records of each requirement by name, the native
projection folds the statuses of all of them.  Both come from the same records.
-/

namespace MncsForge.Lifecycle

open MncsForge.Foundation MncsForge.Records MncsForge.Native

/-- The check a record speaks for as evidence of a candidate. -/
def evidenceSubject? (candidateId : String) (record : ForgeRecord) : Option String :=
  match record.recordType with
  | .workflowResult =>
      if record.get "candidate_identity" = .str candidateId ∧
          record.get "subject_type" ≠ .str "project" then
        (record.get "workflow").asStr?
      else none
  | .verifierResult =>
      if record.get "candidate_identity" = .str candidateId ∧
          record.get "mode" = .str "development" then
        (record.get "verifier_id").asStr?
      else none
  | _ => none

section Observations

variable {hashing : Hashing} {history : History} {candidateId requirement : String}
  {requirements : List String} {record : ForgeRecord}

private theorem workflow_subject (valid : record.Valid hashing)
    (htype : record.recordType = .workflowResult) :
    evidenceSubject? candidateId record = some requirement ↔
      (record.get "candidate_identity" = .str candidateId ∧
        record.get "subject_type" ≠ .str "project") ∧
        textOf record "workflow" = requirement := by
  obtain ⟨name, _, hname⟩ := valid.text "workflow" (by rw [htype]; decide)
  simp only [evidenceSubject?, htype, hname, Json.asStr?, textOf_of_get hname,
    Option.ite_none_right_eq_some, Option.some.injEq]

private theorem verifier_subject (valid : record.Valid hashing)
    (htype : record.recordType = .verifierResult) :
    evidenceSubject? candidateId record = some requirement ↔
      (record.get "candidate_identity" = .str candidateId ∧
        record.get "mode" = .str "development") ∧
        textOf record "verifier_id" = requirement := by
  obtain ⟨name, _, hname⟩ := valid.text "verifier_id" (by rw [htype]; decide)
  simp only [evidenceSubject?, htype, hname, Json.asStr?, textOf_of_get hname,
    Option.ite_none_right_eq_some, Option.some.injEq]

/-- Only workflow and verifier results speak for a check. -/
theorem subject_type (h : evidenceSubject? candidateId record = some requirement) :
    record.recordType = .workflowResult ∨ record.recordType = .verifierResult := by
  unfold evidenceSubject? at h
  split at h
  · exact Or.inl ‹_›
  · exact Or.inr ‹_›
  · cases h

/-- The records of a requirement are those that speak for it. -/
theorem evidenceFor_perm (valid : ∀ record ∈ history, record.Valid hashing) :
    (evidenceFor history candidateId requirement).Perm
      (history.filter fun record => evidenceSubject? candidateId record = some requirement) := by
  have workflows :
      (workflowEvidence history candidateId).filter
          (fun record => textOf record "workflow" = requirement) =
        (history.filter fun record =>
          evidenceSubject? candidateId record = some requirement).filter
            fun record => decide (record.recordType = .workflowResult) := by
    rw [workflowEvidence, typed_eq_filter, List.filter_filter, List.filter_filter,
      List.filter_filter]
    refine List.filter_congr fun record hrecord => ?_
    by_cases htype : record.recordType = .workflowResult
    · have subject : evidenceSubject? candidateId record = some requirement ↔ _ :=
        workflow_subject (valid record hrecord) htype
      rw [Bool.eq_iff_iff]
      simp only [htype, subject, Bool.and_eq_true, decide_eq_true_eq, and_true, true_and]
      exact and_comm
    · simp [htype]
  have verifiers :
      (verifierEvidence history candidateId).filter
          (fun record => textOf record "verifier_id" = requirement) =
        (history.filter fun record =>
          evidenceSubject? candidateId record = some requirement).filter
            fun record => !decide (record.recordType = .workflowResult) := by
    rw [verifierEvidence, typed_eq_filter, List.filter_filter, List.filter_filter,
      List.filter_filter]
    refine List.filter_congr fun record hrecord => ?_
    by_cases htype : record.recordType = .verifierResult
    · have subject : evidenceSubject? candidateId record = some requirement ↔ _ :=
        verifier_subject (valid record hrecord) htype
      rw [Bool.eq_iff_iff]
      simp only [htype, subject, Bool.and_eq_true, decide_eq_true_eq, and_true, true_and,
        Bool.not_eq_true', decide_eq_false_iff_not, reduceCtorEq, not_false_eq_true]
      exact and_comm
    · have other : record.recordType ≠ .workflowResult →
          evidenceSubject? candidateId record ≠ some requirement := fun hworkflow hsubject =>
        (subject_type hsubject).elim hworkflow htype
      rw [Bool.eq_iff_iff]
      simp only [htype, Bool.and_eq_true, decide_eq_true_eq, and_false, false_iff,
        Bool.not_eq_true', decide_eq_false_iff_not]
      exact fun h => other h.1 h.2
  rw [evidenceFor, workflows, verifiers]
  exact List.filter_append_perm _ _

/-- A record that speaks for a declared check. -/
def speaksFor (requirements : List String) (candidateId : String) (record : ForgeRecord) : Bool :=
  (evidenceSubject? candidateId record).any (· ∈ requirements)

private theorem observes (valid : record.Valid hashing) :
    (nativeEvent? requirements record).bind (observedStatus? candidateId) =
      if speaksFor requirements candidateId record then requirementStatus record else none := by
  cases htype : record.recordType with
  | workflowResult =>
      obtain ⟨name, _, hname⟩ := valid.text "workflow" (by rw [htype]; decide)
      obtain ⟨id, _, hid⟩ := valid.text "candidate_identity" (by rw [htype]; decide)
      obtain ⟨status, hstatus⟩ := status_of_valid valid (by rw [htype]; rfl)
      have event := eventStatus_of_get hstatus
      by_cases hproject : record.get "subject_type" = .str "project"
      · simp [nativeEvent?, speaksFor, evidenceSubject?, htype, hproject]
      · by_cases hmem : name ∈ requirements <;> by_cases hcandidate : id = candidateId <;>
          simp [nativeEvent?, speaksFor, evidenceSubject?, htype, hproject, hname, hid, hmem,
            hcandidate, Json.asStr?, observedStatus?, event, textOf_of_get hid,
            requirementStatus_eq_some.mpr hstatus]
  | verifierResult =>
      obtain ⟨name, _, hname⟩ := valid.text "verifier_id" (by rw [htype]; decide)
      obtain ⟨id, _, hid⟩ := valid.text "candidate_identity" (by rw [htype]; decide)
      obtain ⟨status, hstatus⟩ := status_of_valid valid (by rw [htype]; rfl)
      have event := eventStatus_of_get hstatus
      by_cases hmode : record.get "mode" = .str "development"
      · by_cases hmem : name ∈ requirements <;> by_cases hcandidate : id = candidateId <;>
          simp [nativeEvent?, speaksFor, evidenceSubject?, htype, hmode, hname, hid, hmem,
            hcandidate, Json.asStr?, observedStatus?, event, textOf_of_get hid,
            requirementStatus_eq_some.mpr hstatus]
      · simp [nativeEvent?, speaksFor, evidenceSubject?, htype, hmode]
  | candidateDisposition =>
      simp only [nativeEvent?, speaksFor, evidenceSubject?, htype]
      split_ifs <;> simp_all [observedStatus?]
  | finalEvaluation =>
      simp only [nativeEvent?, speaksFor, evidenceSubject?, htype]
      split_ifs <;> simp_all [observedStatus?]
  | _ => simp [nativeEvent?, speaksFor, evidenceSubject?, htype, observedStatus?]

/-- The native statuses are those of the records that speak for a declared check. -/
theorem observedStatuses_eq (valid : ∀ record ∈ history, record.Valid hashing) :
    observedStatuses requirements history candidateId =
      recordStatuses (history.filter (speaksFor requirements candidateId)) := by
  rw [observedStatuses, List.filterMap_filterMap, recordStatuses, List.filterMap_filter]
  exact List.filterMap_congr fun record hrecord => observes (valid record hrecord)

theorem speaking_readable (valid : ∀ record ∈ history, record.Valid hashing) :
    ∀ record ∈ history.filter (speaksFor requirements candidateId),
      (requirementStatus record).isSome := by
  intro record hrecord
  obtain ⟨hmem, hspeaks⟩ := List.mem_filter.mp hrecord
  obtain ⟨name, hname, _⟩ := (Option.any_eq_true _ _).mp hspeaks
  obtain ⟨status, hstatus⟩ := status_of_valid (valid record hmem) (by
    rcases subject_type hname with htype | htype <;> rw [htype] <;> rfl)
  rw [requirementStatus_eq_some.mpr hstatus]
  rfl

/-- A status is observed when a record of a requirement has it. -/
theorem mem_observedStatuses (valid : ∀ record ∈ history, record.Valid hashing)
    {status : Status} :
    status ∈ observedStatuses requirements history candidateId ↔
      ∃ requirement ∈ requirements, ∃ record ∈ evidenceFor history candidateId requirement,
        requirementStatus record = some status := by
  rw [observedStatuses_eq valid, recordStatuses, List.mem_filterMap]
  constructor
  · rintro ⟨record, hrecord, hstatus⟩
    obtain ⟨hmem, hspeaks⟩ := List.mem_filter.mp hrecord
    obtain ⟨requirement, hsubject, hdeclared⟩ := (Option.any_eq_true _ _).mp hspeaks
    refine ⟨requirement, of_decide_eq_true hdeclared, record, ?_, hstatus⟩
    exact (evidenceFor_perm valid).mem_iff.mpr
      (List.mem_filter.mpr ⟨hmem, decide_eq_true hsubject⟩)
  · rintro ⟨requirement, hdeclared, record, hrecord, hstatus⟩
    obtain ⟨hmem, hsubject⟩ := List.mem_filter.mp ((evidenceFor_perm valid).mem_iff.mp hrecord)
    refine ⟨record, List.mem_filter.mpr ⟨hmem, ?_⟩, hstatus⟩
    exact (Option.any_eq_true _ _).mpr ⟨requirement, of_decide_eq_true hsubject, decide_eq_true hdeclared⟩

/-- Counted by label, each item once. -/
theorem countP_any_mem {α β : Type*} [DecidableEq β] (label : α → Option β) {labels : List β}
    (distinct : labels.Nodup) (xs : List α) :
    xs.countP (fun x => (label x).any (· ∈ labels)) =
      (labels.map fun l => xs.countP fun x => label x = some l).sum := by
  induction labels with
  | nil => simp
  | cons l labels ih =>
      obtain ⟨fresh, distinct⟩ := List.nodup_cons.mp distinct
      rw [List.map_cons, List.sum_cons, ← ih distinct,
        List.countP_eq_countP_filter_add xs _ fun x => decide (label x = some l),
        List.countP_filter, List.countP_filter]
      congr 1
      · refine List.countP_congr fun x _ => ?_
        simp +contextual
      · refine List.countP_congr fun x _ => ?_
        cases hx : label x with
        | none => simp
        | some other =>
            have apart : other ∈ labels → other ≠ l := by
              rintro hmem rfl
              exact fresh hmem
            by_cases hmem : other ∈ labels <;> simp [hmem, apart]

/-- As many statuses are observed as the requirements have records. -/
theorem observedStatuses_length (valid : ∀ record ∈ history, record.Valid hashing)
    (distinct : requirements.Nodup) :
    (observedStatuses requirements history candidateId).length =
      (requirements.map fun requirement =>
        (evidenceFor history candidateId requirement).length).sum := by
  rw [observedStatuses_eq valid, recordStatuses_length (speaking_readable valid),
    ← List.countP_eq_length_filter]
  have sizes : ∀ requirement,
      (evidenceFor history candidateId requirement).length =
        history.countP fun record => evidenceSubject? candidateId record = some requirement := by
    intro requirement
    rw [(evidenceFor_perm valid).length_eq, List.countP_eq_length_filter]
  simp only [sizes]
  exact countP_any_mem (evidenceSubject? candidateId) distinct history

end Observations

end MncsForge.Lifecycle
