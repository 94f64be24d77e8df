import Mathlib
import MncsForge.Lifecycle.NativeReadiness
import MncsForge.Lifecycle.Observations
import MncsForge.Lifecycle.NativeCoherence

/-!
# The native preflight

After the rules of the machine have accepted an operation, the transition kernel is
asked about the projected stage.  On every history that authorized runs build, the
kernel then takes the transition that the machine expects.
-/

namespace MncsForge.Lifecycle

open MncsForge.Foundation MncsForge.Records MncsForge.Native
open MncsForge.Native.Lifecycle (ProjectionState projectStage undisposedStage projectEvent
  projectionInitial)

/-! ## The stages of a lineage -/

section Stages

variable {core : CoreLibrary} {requirements : List String} {history : History}
  {events : List (LineageEvent String)} {l : Lineage String} {s : ProjectionState}

theorem Shows.stage_noEpoch (shows' : Shows requirements history l s) (hcore : core.Documented)
    (absent : l.epochs = []) (required : Nat) (bundle : Bool) :
    projectStage core s required bundle = .noEpoch := by
  have zero : s.activeEpoch = Digest32.zero := by
    rw [shows'.activeEpoch, absent]
    rfl
  simp [projectStage, shows'.lineageOk, hcore.isZero_eq, zero]

private theorem Shows.epoch_present (shows' : Shows requirements history l s)
    (named : NamedLineage l) (active : l.epochs ≠ []) : s.activeEpoch ≠ Digest32.zero := by
  rw [shows'.activeEpoch]
  exact fun zero => active (headDigest_eq_zero named.epochs zero)

theorem Shows.stage_epochActive (shows' : Shows requirements history l s)
    (hcore : core.Documented) (named : NamedLineage l) (active : l.epochs ≠ [])
    (absent : l.chain = []) (required : Nat) (bundle : Bool) :
    projectStage core s required bundle = .epochActive := by
  have epoch := shows'.epoch_present named active
  have zero : s.currentCandidate = Digest32.zero := by
    rw [shows'.currentCandidate, absent]
    rfl
  simp [projectStage, shows'.lineageOk, hcore.isZero_eq, epoch, zero]

private theorem Shows.candidate_present (shows' : Shows requirements history l s)
    (named : NamedLineage l) (t : Lineage.Traced events l) (current : l.chain ≠ []) :
    s.activeEpoch ≠ Digest32.zero ∧ s.currentCandidate ≠ Digest32.zero := by
  refine ⟨shows'.epoch_present named fun absent => current (t.chain_empty absent), ?_⟩
  rw [shows'.currentCandidate]
  have chain : ∀ id ∈ l.chain, Names candidateLabel id := fun id hid =>
    named.candidates id (t.chain_registered id hid)
  exact fun zero => current (headDigest_eq_zero chain zero)

/-- A candidate that is not frozen has no evaluation. -/
private theorem Shows.unevaluated (shows' : Shows requirements history l s)
    (t : Lineage.Traced events l) (unfrozen : l.frozen = false) :
    s.frozen = false ∧ s.evaluated = false := by
  have none : l.evaluations = 0 := by
    by_contra some
    rw [(t.evaluated some).1] at unfrozen
    cases unfrozen
  refine ⟨shows'.frozen.trans unfrozen, ?_⟩
  rw [shows'.evaluated, none]
  rfl

theorem Shows.stage_undisposed (shows' : Shows requirements history l s)
    (hcore : core.Documented) (named : NamedLineage l) (t : Lineage.Traced events l)
    (current : l.chain ≠ []) (undecided : l.disposition = none) (required : Nat)
    (bundle : Bool) :
    projectStage core s required bundle =
      if bundle then .bundleComplete else undisposedStage s required := by
  obtain ⟨epoch, candidate⟩ := shows'.candidate_present named t current
  have unfrozen : l.frozen = false := by
    by_contra frozen
    obtain ⟨id, selected⟩ := t.frozen_selected (Bool.not_eq_false _ ▸ frozen)
    rw [undecided] at selected
    cases selected
  obtain ⟨frozen, evaluated⟩ := shows'.unevaluated t unfrozen
  have disposition : s.disposition = .undisposed := by
    rw [shows'.disposition, undecided]
    rfl
  simp [projectStage, shows'.lineageOk, hcore.isZero_eq, epoch, candidate, frozen, evaluated,
    disposition]

theorem Shows.stage_selected (shows' : Shows requirements history l s)
    (hcore : core.Documented) (named : NamedLineage l) (t : Lineage.Traced events l)
    (current : l.chain ≠ []) {selection : String} (selected : l.disposition = some (selection, true))
    (unfrozen : l.frozen = false) (required : Nat) (bundle : Bool) :
    projectStage core s required bundle =
      if bundle then .bundleComplete else .candidateSelected := by
  obtain ⟨epoch, candidate⟩ := shows'.candidate_present named t current
  obtain ⟨frozen, evaluated⟩ := shows'.unevaluated t unfrozen
  have disposition : s.disposition = .selected := by
    rw [shows'.disposition, selected]
    rfl
  simp [projectStage, shows'.lineageOk, hcore.isZero_eq, epoch, candidate, frozen, evaluated,
    disposition]

end Stages

/-! ## Required evidence that is there -/

section Unblocked

variable {w : World} {history : History} {native : NativeForgeAdapter} {candidate : ForgeRecord}

/-- The statuses of the records of a requirement. -/
def requirementRecords (history : History) (candidate : ForgeRecord) (requirement : String) :
    List Status :=
  recordStatuses (evidenceFor history (textOf candidate "candidate_id") requirement)

theorem blocker_eq_none {evidence : EvidenceReadiness} (h : evidence.blocker = none) :
    evidence.policyError = none ∧ evidence.failed = [] ∧ evidence.missing = [] ∧
      evidence.unknown = [] := by
  unfold EvidenceReadiness.blocker at h
  split at h
  · cases h
  · split_ifs at h with failed missing unknown
    exact ⟨‹_›, not_not.mp failed, not_not.mp missing, not_not.mp unknown⟩

private theorem observedWhere_eq_nil {subject : Option ForgeRecord} {requirements : List String}
    {p : Readiness.RequirementProjection → Bool}
    (h : observedWhere w history native subject requirements p = []) :
    ∀ requirement ∈ requirements, p (observedOf w history native subject requirement) ≠ true :=
  List.filter_eq_nil_iff.mp (Dict.sortedSet_eq_nil.mp h)

/-- Every requirement of an unblocked candidate has records, and they all pass. -/
theorem passing_of_unblocked
    (h : (exchangedReadiness w history native (some candidate) none).blocker = none) :
    w.selectionPolicyError = none ∧
      ∀ requirement ∈ w.requirements, requirementRecords history candidate requirement ≠ [] ∧
        .fail ∉ requirementRecords history candidate requirement ∧
        .unknown ∉ requirementRecords history candidate requirement := by
  obtain ⟨policy, failed, missing, unknown⟩ := blocker_eq_none h
  simp only [exchangedReadiness, readinessSubject] at policy failed missing unknown
  refine ⟨policy, fun requirement hrequirement => ?_⟩
  have failed := observedWhere_eq_nil failed requirement hrequirement
  have missing := observedWhere_eq_nil missing requirement hrequirement
  have unknown := observedWhere_eq_nil unknown requirement hrequirement
  simp only [observedOf, NativeForgeAdapter.observedRequirement, normalizedReadiness,
    ne_eq, decide_eq_true_eq, Readiness.classOf_failed, Readiness.classOf_missing,
    Readiness.classOf_unknown, not_and] at failed missing unknown
  exact ⟨missing, failed, unknown failed⟩

theorem length_le_sum {requirements : List String} {size : String → Nat}
    (positive : ∀ requirement ∈ requirements, 1 ≤ size requirement) :
    requirements.length ≤ (requirements.map size).sum := by
  have := List.card_nsmul_le_sum (requirements.map size) 1 (by simpa using positive)
  simpa using this

/-- The native fold then counts enough passing observations. -/
theorem undisposedStage_ready {hashing : Hashing} {l : Lineage String}
    {s : ProjectionState} (shows' : Shows w.requirements history l s)
    (valid : ∀ record ∈ history, record.Valid hashing)
    (current : l.chain.head? = some (textOf candidate "candidate_id"))
    (undecided : l.disposition = none) (declared : w.requirements ≠ [])
    (passing : ∀ requirement ∈ w.requirements,
      requirementRecords history candidate requirement ≠ [] ∧
        .fail ∉ requirementRecords history candidate requirement ∧
        .unknown ∉ requirementRecords history candidate requirement) :
    undisposedStage s w.requirements.length = .candidateReady := by
  obtain ⟨count, evidence⟩ := shows'.observed _ current undecided
  have nonempty : ∀ requirement ∈ w.requirements,
      1 ≤ (evidenceFor history (textOf candidate "candidate_id") requirement).length := by
    intro requirement hrequirement
    refine List.length_pos_of_ne_nil fun none => (passing requirement hrequirement).1 ?_
    rw [requirementRecords, none]
    rfl
  have enough : w.requirements.length ≤ s.evidenceCount := by
    have distinct : w.requirements.Nodup := fromKeys_nodup _
    rw [count, observedStatuses_length valid distinct]
    exact length_le_sum nonempty
  have positive : s.evidenceCount ≠ 0 := by
    have := List.length_pos_of_ne_nil declared
    omega
  have absent : ∀ status : Status,
      (∀ requirement ∈ w.requirements,
        status ∉ requirementRecords history candidate requirement) →
      status ∉ observedStatuses w.requirements history (textOf candidate "candidate_id") := by
    intro status none observed
    obtain ⟨requirement, hrequirement, record, hrecord, hstatus⟩ :=
      (mem_observedStatuses valid).mp observed
    exact none requirement hrequirement (List.mem_filterMap.mpr ⟨record, hrecord, hstatus⟩)
  have noFail := absent .fail fun requirement h => (passing requirement h).2.1
  have noUnknown := absent .unknown fun requirement h => (passing requirement h).2.2
  have some : observedStatuses w.requirements history (textOf candidate "candidate_id") ≠ [] := by
    intro none
    rw [count, none] at positive
    exact positive rfl
  have pass : s.evidence = .pass := by
    rw [evidence, joinedStatus_eq, if_neg noFail, if_neg (not_or.mpr ⟨some, noUnknown⟩)]
  rw [undisposedStage, if_neg positive, if_pos ⟨pass, enough⟩]

end Unblocked

/-! ## Machines on authorized histories -/

/-- A selection policy declares a requirement or is in error. -/
def World.PolicyObserved (w : World) : Prop :=
  w.requiredEvidence = [] → w.selectionPolicyError ≠ none

namespace ForgeStateMachine

theorem nativeStage?_stageOfNative (stage : Native.Lifecycle.Stage) :
    nativeStage? (stageOfNative stage) =
      if stage = .bundleComplete then none else some stage := by
  cases stage <;> rfl

/-- The machine with the rules alone. -/
def rulesOnly (m : ForgeStateMachine) : ForgeStateMachine :=
  { m with nativePreflight := false }

/-- The transition kernel answers as expected at the projected stage. -/
def PreflightReturns (m : ForgeStateMachine) (operation : Native.Lifecycle.Operation)
    (nextStage : Native.Lifecycle.Stage) (status : Status) (reason : Nat) (evidence : Status) :
    Prop :=
  ∀ native ∈ m.world.native, ∀ stage ∈ nativeStage? m.projection.stage,
    let observed := native.lifecyclePreflight stage operation evidence
    observed.state.stage = nextStage ∧ observed.status = status ∧ observed.reason = reason

/-- What a machine with a native adapter shows of an authorized history. -/
structure ShowsHistory (m : ForgeStateMachine) (native : NativeForgeAdapter)
    (l : Lineage String) (s : ProjectionState) : Prop where
  named : NamedLineage l
  traced : ∃ events, Lineage.Traced events l
  reads : Reads l m.projection
  shows : Shows m.world.requirements m.history l s
  stage : m.projection.stage = stageOfNative
    (projectStage native.core s m.world.requirements.length (!m.projection.bundles.isEmpty))
  evidence : evidenceReadiness m.world m.history m.projection.currentCandidate none =
    .ok m.projection.evidence

section Machine

variable {m : ForgeStateMachine} {native : NativeForgeAdapter} {hashing : Hashing}

theorem shows_of_run (run : Run hashing NativeStep m.history)
    (documented : m.world.DocumentedNative) (hnative : m.world.native = some native)
    (unambiguous : m.projection.stage ≠ .ambiguousHistory) :
    ∃ l s, m.ShowsHistory native l s := by
  obtain ⟨events, h, coherent, valid, identified⟩ := coherent_of_native_run run
  have hcore := documented native hnative
  obtain ⟨evidence, hevidence, happly⟩ := bind_eq_ok.mp m.projected
  obtain ⟨values, freshness, hvalues, hprojection⟩ := applyNative_eq_ok hnative happly
  have kept : (values.foldl (projectEvent native.core)
      (projectionInitial native.core)).lineageOk = true := by
    by_contra lost
    rw [hprojection, overrideNative, if_pos (Bool.not_eq_true _ ▸ lost)] at unambiguous
    exact unambiguous rfl
  have strict := strict_of_lineageOk hcore h coherent valid identified hvalues kept
  have reads := applyNative_reads hnative hcore h strict valid identified happly
  obtain ⟨values', hvalues', shows'⟩ :=
    native_shows hcore h strict valid identified m.world.requirements
  obtain rfl : values' = values := Except.ok.inj (hvalues'.symm.trans hvalues)
  have override : m.projection = _ := hprojection
  rw [overrideNative, if_neg (by rw [kept]; decide)] at override
  refine ⟨_, _, named_of_identified h coherent identified, ⟨events, coherent.traced⟩, reads,
    shows', ?_, ?_⟩
  · rw [override]
  · rw [override]
    exact hevidence

/-! ### What the kernel answers -/

section Answers

variable {core : CoreLibrary} (hcore : core.Documented)

include hcore

private theorem preflight_beginEpoch :
    (Native.Lifecycle.preflight core .noEpoch .beginEpoch .unknown).state.stage = .epochActive ∧
      (Native.Lifecycle.preflight core .noEpoch .beginEpoch .unknown).status = .pass ∧
      (Native.Lifecycle.preflight core .noEpoch .beginEpoch .unknown).reason = 0 := by
  have present : Native.Lifecycle.probe 1 ≠ Digest32.zero := by decide
  simp [Native.Lifecycle.preflight, Native.Lifecycle.apply, Native.Lifecycle.beginEpoch,
    hcore.isZero_eq, present]

private theorem preflight_registerCandidate :
    (Native.Lifecycle.preflight core .epochActive .registerCandidate .unknown).state.stage =
        .candidateRegistered ∧
      (Native.Lifecycle.preflight core .epochActive .registerCandidate .unknown).status =
        .unknown ∧
      (Native.Lifecycle.preflight core .epochActive .registerCandidate .unknown).reason = 0 := by
  have present : Native.Lifecycle.probe 2 ≠ Digest32.zero := by decide
  simp [Native.Lifecycle.preflight, Native.Lifecycle.apply, Native.Lifecycle.registerCandidate,
    hcore.isZero_eq, hcore.equal_eq, present]

private theorem preflight_selectCandidate :
    (Native.Lifecycle.preflight core .candidateReady .selectCandidate .pass).state.stage =
        .candidateSelected ∧
      (Native.Lifecycle.preflight core .candidateReady .selectCandidate .pass).status = .pass ∧
      (Native.Lifecycle.preflight core .candidateReady .selectCandidate .pass).reason = 0 := by
  simp [Native.Lifecycle.preflight, Native.Lifecycle.apply, Native.Lifecycle.selectCandidate,
    hcore.equal_eq]

private theorem preflight_rejectCandidate {stage : Native.Lifecycle.Stage}
    (undisposed : stage = .candidateRegistered ∨ stage = .evidenceIncomplete ∨
      stage = .candidateReady) (evidence : Status) :
    (Native.Lifecycle.preflight core stage .rejectCandidate evidence).state.stage =
        .candidateRejected ∧
      (Native.Lifecycle.preflight core stage .rejectCandidate evidence).status = .fail ∧
      (Native.Lifecycle.preflight core stage .rejectCandidate evidence).reason = 9 := by
  rcases undisposed with rfl | rfl | rfl <;>
    simp [Native.Lifecycle.preflight, Native.Lifecycle.apply, Native.Lifecycle.rejectCandidate,
      hcore.equal_eq]

private theorem preflight_freezeCandidate :
    (Native.Lifecycle.preflight core .candidateSelected .freezeCandidate .pass).state.stage =
        .candidateFrozen ∧
      (Native.Lifecycle.preflight core .candidateSelected .freezeCandidate .pass).status =
        .pass ∧
      (Native.Lifecycle.preflight core .candidateSelected .freezeCandidate .pass).reason = 0 := by
  simp [Native.Lifecycle.preflight, Native.Lifecycle.apply, Native.Lifecycle.freezeCandidate,
    hcore.equal_eq]

end Answers

/-! ### The stage an accepted operation finds -/

section Accepted

variable {l : Lineage String} {s : ProjectionState}

private theorem undisposedStage_cases (s : ProjectionState) (required : Nat) :
    undisposedStage s required = .candidateRegistered ∨
      undisposedStage s required = .evidenceIncomplete ∨
      undisposedStage s required = .candidateReady := by
  unfold undisposedStage
  split_ifs
  · exact Or.inl rfl
  · exact Or.inr (Or.inr rfl)
  · exact Or.inr (Or.inl rfl)

/-- A projected stage other than that of a bundle is the kernel's stage. -/
private theorem ShowsHistory.kernelStage (shows' : m.ShowsHistory native l s)
    {stage : Native.Lifecycle.Stage} (hstage : stage ∈ nativeStage? m.projection.stage) :
    stage ≠ .bundleComplete ∧
      projectStage native.core s m.world.requirements.length (!m.projection.bundles.isEmpty) =
        stage := by
  rw [shows'.stage, nativeStage?_stageOfNative] at hstage
  split_ifs at hstage with bundle
  · cases hstage
  · obtain rfl := Option.some.inj hstage
    exact ⟨bundle, rfl⟩

private theorem ShowsHistory.stage_of_bundle (shows' : m.ShowsHistory native l s)
    {stage other : Native.Lifecycle.Stage} (hstage : stage ∈ nativeStage? m.projection.stage)
    (h : projectStage native.core s m.world.requirements.length
        (!m.projection.bundles.isEmpty) =
      if !m.projection.bundles.isEmpty then .bundleComplete else other) : stage = other := by
  obtain ⟨noBundle, same⟩ := shows'.kernelStage hstage
  rw [h] at same
  split_ifs at same
  · exact absurd same.symm noBundle
  · exact same.symm

theorem returns_beginEpoch (run : Run hashing NativeStep m.history)
    (documented : m.world.DocumentedNative)
    (unambiguous : m.projection.stage ≠ .ambiguousHistory)
    (absent : m.projection.activeEpoch = none) :
    m.PreflightReturns .beginEpoch .epochActive .pass 0 .unknown := by
  intro native hnative stage hstage
  obtain ⟨l, s, shows'⟩ := shows_of_run run documented hnative unambiguous
  have none : l.epochs = [] := by
    have head := shows'.reads.epoch
    rw [absent] at head
    exact List.head?_eq_none_iff.mp head.symm
  obtain ⟨_, same⟩ := shows'.kernelStage hstage
  rw [shows'.shows.stage_noEpoch (documented native hnative) none] at same
  rw [← same]
  exact preflight_beginEpoch (documented native hnative)

private theorem ShowsHistory.active (shows' : m.ShowsHistory native l s) {epoch : ForgeRecord}
    (active : m.projection.activeEpoch = some epoch) : l.epochs ≠ [] := by
  intro none
  have head := shows'.reads.epoch
  rw [active, none] at head
  cases head

private theorem ShowsHistory.current (shows' : m.ShowsHistory native l s)
    {candidate : ForgeRecord} (current : m.projection.currentCandidate = some candidate) :
    l.chain.head? = some (textOf candidate "candidate_id") := by
  have head := shows'.reads.candidate
  rw [current] at head
  exact head.symm

theorem returns_registerCandidate (run : Run hashing NativeStep m.history)
    (documented : m.world.DocumentedNative)
    (unambiguous : m.projection.stage ≠ .ambiguousHistory) {epoch : ForgeRecord}
    (active : m.projection.activeEpoch = some epoch)
    (absent : m.projection.currentCandidate = none) :
    m.PreflightReturns .registerCandidate .candidateRegistered .unknown 0 .unknown := by
  intro native hnative stage hstage
  obtain ⟨l, s, shows'⟩ := shows_of_run run documented hnative unambiguous
  have none : l.chain = [] := by
    have head := shows'.reads.candidate
    rw [absent] at head
    exact List.head?_eq_none_iff.mp head.symm
  obtain ⟨_, same⟩ := shows'.kernelStage hstage
  rw [shows'.shows.stage_epochActive (documented native hnative) shows'.named
    (shows'.active active) none] at same
  rw [← same]
  exact preflight_registerCandidate (documented native hnative)

private theorem ShowsHistory.undecided (shows' : m.ShowsHistory native l s)
    (undisposed : m.projection.dispositionStatus = "undisposed") : l.disposition = none := by
  rw [shows'.reads.dispositionStatus] at undisposed
  match hdisposition : l.disposition with
  | none => rfl
  | some (_, true) => simp [hdisposition, dispositionStatusText] at undisposed
  | some (_, false) => simp [hdisposition, dispositionStatusText] at undisposed

private theorem chain_of_head {id : String} (h : l.chain.head? = some id) : l.chain ≠ [] := by
  rintro none
  rw [none] at h
  cases h

theorem returns_rejectCandidate (run : Run hashing NativeStep m.history)
    (documented : m.world.DocumentedNative)
    (unambiguous : m.projection.stage ≠ .ambiguousHistory) {candidate : ForgeRecord}
    (current : m.projection.currentCandidate = some candidate)
    (undisposed : m.projection.dispositionStatus = "undisposed") (evidence : Status) :
    m.PreflightReturns .rejectCandidate .candidateRejected .fail 9 evidence := by
  intro native hnative stage hstage
  obtain ⟨l, s, shows'⟩ := shows_of_run run documented hnative unambiguous
  obtain ⟨_, traced⟩ := shows'.traced
  have hcore := documented native hnative
  have same := shows'.stage_of_bundle hstage
    (shows'.shows.stage_undisposed hcore shows'.named traced
      (chain_of_head (shows'.current current)) (shows'.undecided undisposed) _ _)
  rw [same]
  exact preflight_rejectCandidate hcore (undisposedStage_cases s _) evidence

theorem returns_selectCandidate (run : Run hashing NativeStep m.history)
    (documented : m.world.DocumentedNative) (policy : m.world.PolicyObserved)
    (unambiguous : m.projection.stage ≠ .ambiguousHistory) {candidate : ForgeRecord}
    (current : m.projection.currentCandidate = some candidate)
    (undisposed : m.projection.dispositionStatus = "undisposed")
    (unblocked : m.projection.evidence.blocker = none) :
    m.PreflightReturns .selectCandidate .candidateSelected .pass 0 .pass := by
  intro native hnative stage hstage
  obtain ⟨l, s, shows'⟩ := shows_of_run run documented hnative unambiguous
  obtain ⟨_, traced⟩ := shows'.traced
  obtain ⟨_, _, _, valid, _⟩ := coherent_of_native_run run
  have hcore := documented native hnative
  have head := shows'.current current
  have adapter : m.world.native = some native := hnative
  have evidence := shows'.evidence
  simp only [evidenceReadiness, adapter, current] at evidence
  rw [((nativeEvidenceReadiness_eq_ok hcore).mp evidence).2] at unblocked
  obtain ⟨noError, passing⟩ := passing_of_unblocked unblocked
  have declared : m.world.requirements ≠ [] := by
    intro none
    refine policy (List.eq_nil_iff_forall_not_mem.mpr fun name hname => ?_) noError
    rw [← mem_fromKeys, ← World.requirements, none] at hname
    cases hname
  have same := shows'.stage_of_bundle hstage
    (shows'.shows.stage_undisposed hcore shows'.named traced (chain_of_head head)
      (shows'.undecided undisposed) _ _)
  rw [same, undisposedStage_ready shows'.shows valid head (shows'.undecided undisposed) declared
    passing]
  exact preflight_selectCandidate hcore

theorem returns_freezeCandidate (run : Run hashing NativeStep m.history)
    (documented : m.world.DocumentedNative)
    (unambiguous : m.projection.stage ≠ .ambiguousHistory) {candidate : ForgeRecord}
    (current : m.projection.currentCandidate = some candidate)
    (selected : m.projection.dispositionStatus = "selected")
    (unfrozen : m.projection.freeze = none) :
    m.PreflightReturns .freezeCandidate .candidateFrozen .pass 0 .pass := by
  intro native hnative stage hstage
  obtain ⟨l, s, shows'⟩ := shows_of_run run documented hnative unambiguous
  obtain ⟨_, traced⟩ := shows'.traced
  have hcore := documented native hnative
  obtain ⟨selection, hselection⟩ : ∃ selection, l.disposition = some (selection, true) := by
    rw [shows'.reads.dispositionStatus] at selected
    match hdisposition : l.disposition with
    | none => simp [hdisposition, dispositionStatusText] at selected
    | some (selection, true) => exact ⟨selection, rfl⟩
    | some (_, false) => simp [hdisposition, dispositionStatusText] at selected
  have frozen : l.frozen = false := by
    rw [← shows'.reads.freeze, unfrozen]
    rfl
  have same := shows'.stage_of_bundle hstage
    (shows'.shows.stage_selected hcore shows'.named traced
      (chain_of_head (shows'.current current)) hselection frozen _ _)
  rw [same]
  exact preflight_freezeCandidate hcore

end Accepted

/-! ### The authorizers with and without the preflight -/

section Authorizers

theorem nativeTransition_ok {operation : Native.Lifecycle.Operation}
    {nextStage : Native.Lifecycle.Stage} {status evidence : Status} {reason : Nat}
    (returns : m.PreflightReturns operation nextStage status reason evidence) :
    m.nativeTransition operation nextStage status reason evidence = .ok () := by
  rw [nativeTransition]
  split_ifs
  · rfl
  · cases hnative : m.world.native with
    | none => rfl
    | some native =>
        cases hstage : nativeStage? m.projection.stage with
        | none => rfl
        | some stage =>
            obtain ⟨next, status, reason⟩ := returns native hnative stage hstage
            exact refuseIf_eq_ok.mpr (by simp only [next, status, reason, ne_eq,
              not_true_eq_false, or_self, not_false_eq_true])

theorem authorizeEpochBegin_eq {parentEpoch : Option String}
    (returns : m.projection.activeEpoch = none →
      m.PreflightReturns .beginEpoch .epochActive .pass 0 .unknown) :
    m.authorizeEpochBegin parentEpoch = m.rulesOnly.authorizeEpochBegin parentEpoch := by
  have same : m.rulesOnly.projection = m.projection := rfl
  rw [authorizeEpochBegin, authorizeEpochBegin, same]
  cases hactive : m.projection.activeEpoch with
  | none =>
      simp only [nativeTransition_ok (returns hactive)]
      rfl
  | some epoch => rfl

theorem authorizeCandidateRegister_eq {parentCandidate epochIdentity : Option String}
    {proposedIdentity : String}
    (returns : ∀ epoch, m.projection.activeEpoch = some epoch →
      m.projection.currentCandidate = none →
      m.PreflightReturns .registerCandidate .candidateRegistered .unknown 0 .unknown) :
    m.authorizeCandidateRegister parentCandidate proposedIdentity epochIdentity =
      m.rulesOnly.authorizeCandidateRegister parentCandidate proposedIdentity epochIdentity := by
  have same : m.rulesOnly.projection = m.projection := rfl
  rw [authorizeCandidateRegister, authorizeCandidateRegister, same]
  cases hactive : m.projection.activeEpoch with
  | none => rfl
  | some epoch =>
      have parent : m.requireParentCandidate parentCandidate proposedIdentity =
          m.rulesOnly.requireParentCandidate parentCandidate proposedIdentity := by
        unfold requireParentCandidate
        rw [same]
        cases hcurrent : m.projection.currentCandidate with
        | none =>
            cases parentCandidate with
            | none =>
                simp only [nativeTransition_ok (returns epoch hactive hcurrent)]
                rfl
            | some parent => rfl
        | some current => cases parentCandidate <;> rfl
      simp only [parent]
      rfl

theorem authorizeCandidateDisposition_eq {candidateId disposition : String}
    (select : disposition = "selected" →
      m.PreflightReturns .selectCandidate .candidateSelected .pass 0 .pass)
    (reject : disposition ≠ "selected" →
      m.PreflightReturns .rejectCandidate .candidateRejected .fail 9
        m.projection.evidence.status) :
    m.authorizeCandidateDisposition candidateId disposition =
      m.rulesOnly.authorizeCandidateDisposition candidateId disposition := by
  rw [authorizeCandidateDisposition, authorizeCandidateDisposition]
  by_cases selected : disposition = "selected"
  · simp only [if_pos selected, nativeTransition_ok (select selected)]
    rfl
  · simp only [if_neg selected, nativeTransition_ok (reject selected)]
    rfl

theorem requireUnblocked_eq_ok {evidence : EvidenceReadiness} {u : Unit} :
    requireUnblocked evidence = .ok u ↔ evidence.blocker = none := by
  unfold requireUnblocked
  cases evidence.blocker <;> simp

theorem unblocked_of_selected {candidateId : String} {result : ForgeRecord × EvidenceReadiness}
    (h : m.authorizeCandidateDisposition candidateId "selected" = .ok result) :
    m.projection.evidence.blocker = none := by
  obtain ⟨_, _, h⟩ := bind_eq_ok.mp h
  obtain ⟨_, _, h⟩ := bind_eq_ok.mp h
  obtain ⟨_, h⟩ := refuseIf_bind_eq_ok.mp h
  obtain ⟨_, _, h⟩ := bind_eq_ok.mp h
  obtain ⟨_, h⟩ := refuseIf_bind_eq_ok.mp h
  rw [if_pos rfl] at h
  obtain ⟨_, hunblocked, _⟩ := bind_eq_ok.mp h
  exact requireUnblocked_eq_ok.mp hunblocked

theorem authorizeCandidateFreeze_eq {candidateId : String} {plan : Option (List String)}
    (returns : m.PreflightReturns .freezeCandidate .candidateFrozen .pass 0 .pass) :
    m.authorizeCandidateFreeze candidateId plan =
      m.rulesOnly.authorizeCandidateFreeze candidateId plan := by
  simp only [authorizeCandidateFreeze, nativeTransition_ok returns]
  rfl

end Authorizers

end Machine

/-! ### A selection that is confirmed -/

private theorem run_dropLast {hashing : Hashing}
    {allowed : ForgeStateMachine → ForgeRecord → Prop} {history whole : History}
    {record : ForgeRecord} (run : Run hashing allowed whole)
    (hwhole : whole = history ++ [record]) : Run hashing allowed history := by
  cases run with
  | start => exact absurd hwhole.symm (List.append_ne_nil_of_right_ne_nil _ (List.cons_ne_nil _ _))
  | append run _ _ _ _ =>
      obtain ⟨same, _⟩ := List.append_inj' hwhole rfl
      rwa [← same]

end ForgeStateMachine

end MncsForge.Lifecycle
