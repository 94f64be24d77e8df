import Mathlib
import MncsForge.Lifecycle.NativeRuns

/-!
# Coherent histories under the native projection

The native fold never recovers from an invalid event.  A projection that keeps its
lineage therefore shows a history without a second evaluation, and every other
projection is ambiguous.  So authorized runs stay coherent whatever adapters are
used between the steps.
-/

namespace MncsForge.Lifecycle

open MncsForge.Foundation MncsForge.Records MncsForge.Native
open MncsForge.Native.Lifecycle (ProjectionState HistoryEvent projectEvent projectionInitial)

/-! ## Lost lineages -/

section Lost

variable {core : CoreLibrary} {s : ProjectionState}

theorem projectEvent_lost (event : HistoryEvent) (lost : s.lineageOk = false) :
    (projectEvent core s event).lineageOk = false := by
  unfold projectEvent
  cases event.kind with
  | empty => exact lost
  | epochStarted =>
      simp only [Native.Lifecycle.projectEpoch]
      split_ifs <;> first | rfl | exact lost
  | candidateRegistered =>
      simp only [Native.Lifecycle.projectCandidate]
      split_ifs <;> first | rfl | exact lost
  | evidenceObserved =>
      simp only [Native.Lifecycle.projectEvidence]
      split_ifs <;> first | rfl | exact lost
  | candidateSelected =>
      simp only [Native.Lifecycle.projectSelected]
      split_ifs <;> first | rfl | exact lost
  | candidateRejected =>
      simp only [Native.Lifecycle.projectRejected]
      split_ifs <;> first | rfl | exact lost
  | candidateFrozen =>
      simp only [Native.Lifecycle.projectFrozen]
      split_ifs <;> first | rfl | exact lost
  | evaluationRecorded =>
      simp only [Native.Lifecycle.projectEvaluation]
      split_ifs <;> first | rfl | exact lost

theorem foldl_lost (values : List HistoryEvent) (lost : s.lineageOk = false) :
    (values.foldl (projectEvent core) s).lineageOk = false := by
  induction values generalizing s with
  | nil => exact lost
  | cons value values ih => exact ih (projectEvent_lost value lost)

end Lost

section Strict

variable {core : CoreLibrary} {history : History} {events : List (LineageEvent String)}
  {hashing : Hashing} {requirements : List String}

private theorem historyEventValue_kind {host : HostEvent} {value : HistoryEvent}
    (h : historyEventValue host = .ok value) : value.kind = host.kind := by
  unfold historyEventValue at h
  cases hstatus : Status.ofString? host.status with
  | none =>
      simp only [hstatus] at h
      cases h
  | some status =>
      simp only [hstatus] at h
      obtain ⟨_, _, h⟩ := bind_eq_ok.mp h
      obtain ⟨_, _, h⟩ := bind_eq_ok.mp h
      obtain ⟨_, _, h⟩ := bind_eq_ok.mp h
      obtain ⟨_, _, h⟩ := bind_eq_ok.mp h
      obtain ⟨_, _, h⟩ := bind_eq_ok.mp h
      rw [← Except.ok.inj h]

private theorem mapM_singleton {host : HostEvent} {values : List HistoryEvent}
    (h : [host].mapM historyEventValue = .ok values) :
    ∃ value, historyEventValue host = .ok value ∧ values = [value] := by
  rw [List.mapM_cons] at h
  obtain ⟨value, hvalue, h⟩ := bind_eq_ok.mp h
  exact ⟨value, hvalue, (Except.ok.inj h).symm⟩

/-- A second evaluation loses the lineage. -/
private theorem evaluation_lost {l : Lineage String} {s : ProjectionState}
    {values : List HistoryEvent} {record : ForgeRecord} {candidate : String}
    (again : l.evaluations ≠ 0)
    (hhost : ReducesTo (.evaluation candidate) (nativeEvent? requirements record))
    (hvalues : (nativeEvent? requirements record).toList.mapM historyEventValue = .ok values)
    (shows' : Shows requirements history l s) :
    (values.foldl (projectEvent core) s).lineageOk = false := by
  obtain ⟨status, hhost⟩ := hhost
  have evaluated : s.evaluated = true := by
    rw [shows'.evaluated]
    exact decide_eq_true again
  rw [hhost, Option.toList_some] at hvalues
  obtain ⟨value, hvalue, rfl⟩ := mapM_singleton hvalues
  have kind := historyEventValue_kind hvalue
  simp only [List.foldl_cons, List.foldl_nil, projectEvent, kind,
    Native.Lifecycle.projectEvaluation]
  split_ifs
  all_goals rfl

/-- A fold that keeps its lineage saw no second evaluation. -/
theorem strict_of_lineageOk (hcore : core.Documented) (h : Traces history events)
    (coherent : Lineage.Coherent events) (valid : ∀ record ∈ history, record.Valid hashing)
    (identified : ∀ record ∈ history, Identified record) {values : List HistoryEvent}
    (hvalues : (history.filterMap (nativeEvent? requirements)).mapM historyEventValue =
      .ok values)
    (kept : (values.foldl (projectEvent core) (projectionInitial core)).lineageOk = true) :
    Lineage.StrictlyCoherent events := by
  induction coherent generalizing history values with
  | nil => exact .nil
  | @snoc events event coherent admits ih =>
      obtain ⟨older, record, rfl, holder, hrecord⟩ := h.snoc_inv
      have before : ∀ r ∈ older, r ∈ older ++ [record] := fun r => List.mem_append_left _
      have last : record ∈ older ++ [record] := by simp
      rw [List.filterMap_append, filterMap_singleton, List.mapM_append] at hvalues
      obtain ⟨first, hfirst, hvalues⟩ := bind_eq_ok.mp hvalues
      obtain ⟨more, hmore, hvalues⟩ := bind_eq_ok.mp hvalues
      obtain rfl := Except.ok.inj hvalues
      rw [List.foldl_append] at kept
      have keptFirst : (first.foldl (projectEvent core) (projectionInitial core)).lineageOk =
          true := by
        by_contra lost
        rw [foldl_lost more (Bool.not_eq_true _ ▸ lost)] at kept
        cases kept
      have strict := ih holder (fun r hr => valid r (before r hr))
        (fun r hr => identified r (before r hr)) hfirst keptFirst
      refine strict.snoc ⟨admits, ?_⟩
      rintro candidate rfl
      by_contra again
      obtain ⟨values, hvalues, shows'⟩ := native_shows hcore holder strict
        (fun r hr => valid r (before r hr)) (fun r hr => identified r (before r hr))
        requirements
      obtain rfl : values = first := Except.ok.inj (hvalues.symm.trans hfirst)
      rw [evaluation_lost again (reducesTo requirements hrecord (valid record last)) hmore
        shows'] at kept
      cases kept

end Strict

/-! ## What a projection shows -/

section Projection

variable {hashing : Hashing} {history : History} {events : List (LineageEvent String)}
  {w : World}

/-- A projection of a coherent history reads its lineage or is ambiguous. -/
theorem project_reads_or_ambiguous (documented : w.DocumentedNative)
    (h : Traces history events) (coherent : Lineage.Coherent events)
    (valid : ∀ record ∈ history, record.Valid hashing)
    (identified : ∀ record ∈ history, Identified record) {projection : LifecycleProjection}
    (hproject : project w history = .ok projection) :
    Reads (Lineage.run events) projection ∨ projection.stage = .ambiguousHistory := by
  obtain ⟨evidence, _, happly⟩ := bind_eq_ok.mp hproject
  cases hnative : w.native with
  | none =>
      simp only [applyNative, hnative] at happly
      rw [← Except.ok.inj happly]
      exact Or.inl (projectWith_reads h coherent.traced w evidence)
  | some native =>
      have hcore := documented native hnative
      obtain ⟨values, freshness, hvalues, hprojection⟩ := applyNative_eq_ok hnative happly
      cases kept : (values.foldl (projectEvent native.core)
          (projectionInitial native.core)).lineageOk with
      | true =>
          have strict := strict_of_lineageOk hcore h coherent valid identified hvalues kept
          exact Or.inl (applyNative_reads hnative hcore h strict valid identified happly)
      | false =>
          refine Or.inr ?_
          rw [hprojection, overrideNative, if_pos kept]

/-- On an ambiguous projection only records outside the lineage are authorized. -/
theorem Authorized.of_ambiguous {m : ForgeStateMachine} {record : ForgeRecord}
    (ambiguous : m.projection.stage = .ambiguousHistory) (authorized : Authorized m record) :
    lineageEvent? record = some .other := by
  cases authorized with
  | epoch accepted =>
      exact absurd ambiguous (ForgeStateMachine.authorizeEpochBegin_ok accepted).2.1
  | candidate accepted =>
      exact absurd ambiguous (ForgeStateMachine.authorizeCandidateRegister_ok accepted).2.1
  | candidateWork accepted =>
      exact absurd ambiguous (ForgeStateMachine.authorizeDevelopmentWork_ok accepted).1
  | projectWork _ htype hsubject => simp [lineageEvent?, htype, hsubject]
  | disposition accepted =>
      exact absurd ambiguous (ForgeStateMachine.authorizeCandidateDisposition_ok accepted).1
  | freeze accepted =>
      exact absurd ambiguous (ForgeStateMachine.authorizeCandidateFreeze_ok accepted).1
  | evaluation accepted =>
      exact absurd ambiguous (ForgeStateMachine.authorizeEvaluatorEntry_eq_ok.mp accepted).2.1
  | bundle _ htype => simp [lineageEvent?, htype]
  | bystander hbystander => exact bystander_event hbystander

theorem coherent_of_native_run (run : Run hashing NativeStep history) :
    ∃ events, Traces history events ∧ Lineage.Coherent events ∧
      (∀ record ∈ history, record.Valid hashing) ∧ ∀ record ∈ history, Identified record := by
  induction run with
  | start => exact ⟨[], traces_nil, .nil, List.forall_mem_nil _, List.forall_mem_nil _⟩
  | @append m record _ allowed authorized valid fresh ih =>
      obtain ⟨events, h, coherent, allValid, allIdentified⟩ := ih
      obtain ⟨event, hevent, admits⟩ : ∃ event, lineageEvent? record = some event ∧
          (Lineage.run events).Admits event := by
        rcases project_reads_or_ambiguous allowed.documented h coherent allValid allIdentified
          m.projected with reads | ambiguous
        · exact authorized.admits h coherent.traced reads valid fresh
        · exact ⟨.other, authorized.of_ambiguous ambiguous, trivial⟩
      refine ⟨events ++ [event], h.snoc hevent, coherent.snoc admits,
        forall_mem_snoc allValid valid, forall_mem_snoc allIdentified allowed.identified⟩

end Projection

end MncsForge.Lifecycle
