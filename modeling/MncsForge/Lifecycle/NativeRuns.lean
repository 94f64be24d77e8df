import Mathlib
import MncsForge.Lifecycle.NativeHistory

/-!
# Authorized runs under the native projection

The native lifecycle projection refuses a second evaluation of a candidate, which
the evaluator entry allows.  In runs without one it never marks the history.
-/

namespace MncsForge.Lifecycle

open MncsForge.Foundation MncsForge.Records MncsForge.Native

/-! ## The adapter's projection -/

section Projection

variable {native : NativeForgeAdapter} {hosts : List HostEvent}
  {values : List Native.Lifecycle.HistoryEvent} {candidate : String} {required : Nat}
  {bundle : Bool}

/-- The request the adapter sends for a list of event values. -/
def projectionRequest (values : List Native.Lifecycle.HistoryEvent) (current : Digest32)
    (required : Nat) (bundle : Bool) : Native.Lifecycle.ProjectionInput where
  events := values ++ List.replicate (32 - values.length) emptyEvent
  eventCount := values.length
  currentCandidate := current
  requiredEvidence := required
  bundlePresent := bundle

theorem lifecycleProjection_eq_ok {result : Native.Lifecycle.ProjectionResult} :
    native.lifecycleProjection hosts candidate required bundle = .ok result ↔
      hosts.length ≤ 32 ∧ required ≤ 255 ∧ ∃ values current,
        hosts.mapM historyEventValue = .ok values ∧
        valueDigest? (.str candidate) = some current ∧
        result =
          Native.Lifecycle.project native.core
            (projectionRequest values current required bundle) := by
  simp only [NativeForgeAdapter.lifecycleProjection, refuseIf_bind_eq_ok, not_lt]
  simp only [bind_eq_ok, digestValue_eq_ok, Except.ok.injEq]
  refine and_congr_right fun _ => and_congr_right fun _ => ?_
  constructor
  · rintro ⟨values, hvalues, current, hcurrent, rfl⟩
    exact ⟨values, current, hvalues, hcurrent, rfl⟩
  · rintro ⟨values, current, hvalues, hcurrent, rfl⟩
    exact ⟨values, hvalues, current, hcurrent, rfl⟩

/-- The projected state is the fold, but for its stage and freshness. -/
theorem project_projection (core : CoreLibrary) (required : Nat) (bundle : Bool)
    (bound : values.length ≤ 32)
    (current : Digest32) :
    let s := values.foldl (Native.Lifecycle.projectEvent core)
      (Native.Lifecycle.projectionInitial core)
    (Native.Lifecycle.project core (projectionRequest values current required bundle)).projection =
      { s with
        stage := Native.Lifecycle.projectStage core s required bundle
        freshness :=
          Native.Lifecycle.projectFreshness core s
            (projectionRequest values current required bundle) } := by
  intro s
  have fold : Native.Lifecycle.projectEvents core
      (projectionRequest values current required bundle)
      (Native.Lifecycle.projectionInitial core) = s := by
    rw [Native.Lifecycle.projectEvents, projectionRequest, if_neg (not_lt.mpr bound)]
    exact foldActive_append _ _ _ _
  rw [Native.Lifecycle.project, fold]
  rfl

end Projection

/-! ## The native step on a coherent history -/

section Native

variable {core : CoreLibrary} {requirements : List String} {history : History}
  {events : List (LineageEvent String)} {l : Lineage String}
  {s : Native.Lifecycle.ProjectionState}

/-- A state that shows a lineage is never staged as ambiguous. -/
theorem Shows.stage (shows' : Shows requirements history l s) (required : Nat)
    (bundle : Bool) :
    Native.Lifecycle.projectStage core s required bundle ≠ .ambiguousHistory := by
  have noConflict : s.disposition ≠ .conflict := by
    rw [shows'.disposition]
    match l.disposition with
    | none => exact fun h => nomatch h
    | some (_, true) => exact fun h => nomatch h
    | some (_, false) => exact fun h => nomatch h
  unfold Native.Lifecycle.projectStage
  rw [if_neg (by rw [shows'.lineageOk]; exact fun h => nomatch h)]
  split; · exact fun h => nomatch h
  split; · exact fun h => nomatch h
  split; · exact fun h => nomatch h
  split; · exact fun h => nomatch h
  split; · exact fun h => nomatch h
  cases hdisposition : s.disposition with
  | conflict => exact absurd hdisposition noConflict
  | selected => exact fun h => nomatch h
  | rejected => exact fun h => nomatch h
  | undisposed =>
      simp only [Native.Lifecycle.undisposedStage]
      split; · exact fun h => nomatch h
      split <;> exact fun h => nomatch h

/-- The overridden projection still reads the lineage. -/
theorem overrideNative_reads {p : LifecycleProjection} (reads : Reads l p)
    (shows' : Shows requirements history l s) {state : Native.Lifecycle.ProjectionState}
    {required : Nat} {bundle : Bool} {freshness : Native.Lifecycle.Freshness}
    (hstate : state =
      { s with
        stage := Native.Lifecycle.projectStage core s required bundle
        freshness := freshness }) :
    Reads l (overrideNative p state) := by
  have ok : state.lineageOk = true := by
    rw [hstate]
    exact shows'.lineageOk
  have stage : stageOfNative state.stage ≠ .ambiguousHistory := by
    have : Native.Lifecycle.projectStage core s required bundle ≠ .ambiguousHistory :=
      shows'.stage required bundle
    rw [hstate]
    cases hstage : Native.Lifecycle.projectStage core s required bundle <;>
      first
        | exact absurd hstage this
        | exact fun h => nomatch h
  have disposition : dispositionText state.disposition = dispositionStatusText l.disposition := by
    rw [hstate]
    show dispositionText s.disposition = _
    rw [shows'.disposition]
    match l.disposition with
    | none => rfl
    | some (_, true) => rfl
    | some (_, false) => rfl
  rw [overrideNative, if_neg (by rw [ok]; exact fun h => nomatch h)]
  exact
    { unambiguous := stage
      epoch := reads.epoch
      candidate := reads.candidate
      epoch_text := reads.epoch_text
      epoch_parent := reads.epoch_parent
      candidate_parent := reads.candidate_parent
      candidate_text := reads.candidate_text
      dispositionStatus := disposition
      disposition := reads.disposition
      disposition_text := reads.disposition_text
      freeze := reads.freeze
      freeze_candidate := reads.freeze_candidate }

variable {hashing : Hashing} {w : World} {native : NativeForgeAdapter}

/-- The native step overrides with the fold of the reduced events. -/
theorem applyNative_eq_ok (hnative : w.native = some native)
    {before projection : LifecycleProjection}
    (happly : applyNative w history before = .ok projection) :
    ∃ values freshness,
      (nativeHistoryEvents w history).mapM historyEventValue = .ok values ∧
      let s := values.foldl (Native.Lifecycle.projectEvent native.core)
        (Native.Lifecycle.projectionInitial native.core)
      projection = overrideNative before
        { s with
          stage := Native.Lifecycle.projectStage native.core s w.requirements.length
            (!before.bundles.isEmpty)
          freshness := freshness } := by
  simp only [applyNative, hnative] at happly
  obtain ⟨result, hresult, happly⟩ := bind_eq_ok.mp happly
  obtain ⟨_, _, happly⟩ := bind_eq_ok.mp happly
  obtain ⟨_, _, happly⟩ := bind_eq_ok.mp happly
  obtain ⟨_, _, happly⟩ := bind_eq_ok.mp happly
  obtain ⟨_, _, happly⟩ := bind_eq_ok.mp happly
  obtain ⟨bound, _, values, current, hvalues, _, rfl⟩ := lifecycleProjection_eq_ok.mp hresult
  have state := project_projection native.core w.requirements.length
    (!before.bundles.isEmpty) ((mapM_length hvalues).symm.trans_le bound) current
  rw [state] at happly
  exact ⟨values, _, hvalues, (Except.ok.inj happly).symm⟩

theorem applyNative_reads (hnative : w.native = some native)
    (hcore : native.core.Documented) (h : Traces history events)
    (strict : Lineage.StrictlyCoherent events)
    (valid : ∀ record ∈ history, record.Valid hashing)
    (identified : ∀ record ∈ history, Identified record) {evidence : EvidenceReadiness}
    {projection : LifecycleProjection}
    (happly : applyNative w history (projectWith w history evidence) = .ok projection) :
    Reads (Lineage.run events) projection := by
  have coherent := Lineage.StrictlyCoherent.coherent strict
  have reads := projectWith_reads h coherent.traced w evidence
  obtain ⟨values, hvalues, shows'⟩ :=
    native_shows hcore h strict valid identified w.requirements
  obtain ⟨values', freshness, hvalues', rfl⟩ := applyNative_eq_ok hnative happly
  obtain rfl : values = values' := Except.ok.inj (hvalues.symm.trans hvalues')
  exact overrideNative_reads reads shows' rfl

/-- A digest agrees with the identity it was made from. -/
private theorem requireDigest_ok {identity : Option Json} {digest : Digest32}
    (h : ∀ value ∈ identity, valueDigest? value = some digest) (context message : String) :
    requireDigest identity digest context message = .ok () := by
  cases identity with
  | none => rfl
  | some value =>
      rw [requireDigest, digestValue_eq_ok.mpr (h value rfl)]
      exact refuseIf_eq_ok.mpr (not_not.mpr rfl)

private theorem requireParentDigest_ok {identity : Option Json} {digest : Digest32}
    (h : ∀ value ∈ identity, valueDigest? value = some digest) (context message : String) :
    requireParentDigest identity digest context message = .ok () := by
  rw [requireParentDigest, requireDigest_ok h, ite_self]

/-- On a coherent history without a second evaluation the native step succeeds. -/
theorem applyNative_ok (hnative : w.native = some native) (hcore : native.core.Documented)
    (h : Traces history events) (strict : Lineage.StrictlyCoherent events)
    (valid : ∀ record ∈ history, record.Valid hashing)
    (identified : ∀ record ∈ history, Identified record)
    (bound : (nativeHistoryEvents w history).length ≤ 32)
    (requirements : w.requirements.length ≤ 255)
    (current : (valueDigest? (.str w.currentCandidateIdentity)).isSome)
    (evidence : EvidenceReadiness) :
    ∃ projection, applyNative w history (projectWith w history evidence) = .ok projection := by
  have coherent := Lineage.StrictlyCoherent.coherent strict
  have reads := projectWith_reads h coherent.traced w evidence
  have named := named_of_identified h coherent identified
  obtain ⟨values, hvalues, shows'⟩ :=
    native_shows hcore h strict valid identified w.requirements
  obtain ⟨digest, hdigest⟩ := Option.isSome_iff_exists.mp current
  have length : values.length ≤ 32 := by
    rw [← mapM_length hvalues]
    exact bound
  have chainNamed : ∀ id ∈ (Lineage.run events).chain, Names candidateLabel id :=
    fun id hid => named.candidates id (coherent.traced.chain_registered id hid)
  have result : native.lifecycleProjection (nativeHistoryEvents w history)
      w.currentCandidateIdentity w.requirements.length
      (!(projectWith w history evidence).bundles.isEmpty) = .ok _ :=
    lifecycleProjection_eq_ok.mpr
      ⟨bound, requirements, values, digest, hvalues, hdigest, rfl⟩
  simp only [applyNative, hnative, result]
  rw [show ∀ f : Native.Lifecycle.ProjectionResult → Except ForgeError LifecycleProjection,
    ((Except.ok _ : Except ForgeError Native.Lifecycle.ProjectionResult) >>= f) = f _ from
      fun f => rfl]
  rw [project_projection _ _ _ length]
  generalize hp : projectWith w history evidence = p at reads
  have epoch : requireDigest (p.activeEpoch.map fun record => .str (textOf record "epoch_id"))
      (headDigest (Lineage.run events).epochs) "native active epoch"
      "native lifecycle projection disagrees with the active epoch identity" = .ok () := by
    refine requireDigest_ok (fun value hvalue => ?_) _ _
    obtain ⟨record, hrecord, rfl⟩ := Option.map_eq_some_iff.mp hvalue
    have head := reads.epoch
    rw [hrecord] at head
    rw [headDigest, ← head]
    exact (named.epochs _ (List.mem_of_head? head.symm)).valueDigest.1
  have candidate : requireDigest
      (p.currentCandidate.map fun record => .str (textOf record "candidate_id"))
      (headDigest (Lineage.run events).chain) "native current candidate"
      "native lifecycle projection disagrees with the current candidate identity" = .ok () := by
    refine requireDigest_ok (fun value hvalue => ?_) _ _
    obtain ⟨record, hrecord, rfl⟩ := Option.map_eq_some_iff.mp hvalue
    have head := reads.candidate
    rw [hrecord] at head
    rw [headDigest, ← head]
    exact (chainNamed _ (List.mem_of_head? head.symm)).valueDigest.1
  have epochParent : requireParentDigest (p.activeEpoch.map fun record => record.get "parent_epoch")
      (headDigest (Lineage.run events).epochs.tail) "native parent epoch"
      "native lifecycle projection disagrees with epoch parentage" = .ok () := by
    refine requireParentDigest_ok (fun value hvalue => ?_) _ _
    obtain ⟨record, hrecord, rfl⟩ := Option.map_eq_some_iff.mp hvalue
    rw [reads.epoch_parent record hrecord]
    exact valueDigest_ofText fun id hid =>
      named.epochs id (List.mem_of_mem_tail (List.mem_of_head? hid))
  have candidateParent : requireParentDigest
      (p.currentCandidate.map fun record => record.get "parent_candidate")
      (headDigest (Lineage.run events).chain.tail) "native parent candidate"
      "native lifecycle projection disagrees with candidate parentage" = .ok () := by
    refine requireParentDigest_ok (fun value hvalue => ?_) _ _
    obtain ⟨record, hrecord, rfl⟩ := Option.map_eq_some_iff.mp hvalue
    rw [reads.candidate_parent record hrecord]
    exact valueDigest_ofText fun id hid =>
      chainNamed id (List.mem_of_mem_tail (List.mem_of_head? hid))
  simp only [shows'.activeEpoch, shows'.currentCandidate, shows'.parentEpoch,
    shows'.parentCandidate, epoch, candidate, epochParent, candidateParent]
  exact ⟨_, rfl⟩

end Native

/-! ## Runs without a second evaluation -/

/-- The candidate of a final evaluation has not been evaluated before. -/
def NotReevaluated (history : History) (record : ForgeRecord) : Prop :=
  record.recordType = .finalEvaluation →
    ∀ older ∈ typed .finalEvaluation history,
      older.get "candidate_identity" ≠ record.get "candidate_identity"

/-- Adapters, where there are any, rest on a documented core. -/
def World.DocumentedNative (w : World) : Prop :=
  ∀ native, w.native = some native → native.core.Documented

structure NativeStep (m : ForgeStateMachine) (record : ForgeRecord) : Prop where
  documented : m.world.DocumentedNative
  identified : Identified record

structure SingleEvaluationStep (m : ForgeStateMachine) (record : ForgeRecord) : Prop
    extends NativeStep m record where
  notReevaluated : NotReevaluated m.history record

section Runs

variable {hashing : Hashing} {history : History} {events : List (LineageEvent String)}

theorem project_reads {w : World} (documented : w.DocumentedNative) (h : Traces history events)
    (strict : Lineage.StrictlyCoherent events)
    (valid : ∀ record ∈ history, record.Valid hashing)
    (identified : ∀ record ∈ history, Identified record) {projection : LifecycleProjection}
    (hproject : project w history = .ok projection) :
    Reads (Lineage.run events) projection := by
  obtain ⟨evidence, _, happly⟩ := bind_eq_ok.mp hproject
  cases hnative : w.native with
  | none =>
      simp only [applyNative, hnative] at happly
      rw [← Except.ok.inj happly]
      exact projectWith_reads h (Lineage.StrictlyCoherent.coherent strict).traced w evidence
  | some native =>
      exact applyNative_reads hnative (documented native hnative) h strict valid identified happly

/-- A candidate evaluated for the first time has no evaluation in its lineage. -/
private theorem evaluatesOnce {record : ForgeRecord} {candidate : String}
    (h : Traces history events) (t : Lineage.Traced events (Lineage.run events))
    (hrecord : lineageEvent? record = some (.evaluation candidate))
    (admits : (Lineage.run events).Admits (.evaluation candidate))
    (once : NotReevaluated history record) : (Lineage.run events).evaluations = 0 := by
  by_contra hevaluated
  obtain ⟨_, evaluated, hhead, hmem⟩ := t.evaluated hevaluated
  rw [admits.1] at hhead
  obtain rfl := Option.some.inj hhead
  obtain ⟨older, holder, hevent⟩ := h.record hmem
  obtain ⟨htype, hcandidate⟩ := evaluation_record hevent
  obtain ⟨htype', hcandidate'⟩ := evaluation_record hrecord
  exact once htype' older (mem_typed.mpr ⟨holder, htype⟩) (hcandidate.trans hcandidate'.symm)

theorem forall_mem_snoc {p : ForgeRecord → Prop} {record : ForgeRecord}
    (all : ∀ r ∈ history, p r) (last : p record) : ∀ r ∈ history ++ [record], p r := by
  intro r hr
  rcases List.mem_append.mp hr with hr | hr
  · exact all r hr
  · rw [List.mem_singleton.mp hr]
    exact last

theorem strict_of_run (run : Run hashing SingleEvaluationStep history) :
    ∃ events, Traces history events ∧ Lineage.StrictlyCoherent events ∧
      (∀ record ∈ history, record.Valid hashing) ∧ ∀ record ∈ history, Identified record := by
  induction run with
  | start => exact ⟨[], traces_nil, .nil, List.forall_mem_nil _, List.forall_mem_nil _⟩
  | @append m record _ allowed authorized valid fresh ih =>
      obtain ⟨events, h, strict, allValid, allIdentified⟩ := ih
      have traced := (Lineage.StrictlyCoherent.coherent strict).traced
      have reads : Reads (Lineage.run events) m.projection :=
        project_reads allowed.documented h strict allValid allIdentified m.projected
      obtain ⟨event, hevent, admits⟩ := authorized.admits h traced reads valid fresh
      refine ⟨events ++ [event], h.snoc hevent, strict.snoc ⟨admits, ?_⟩,
        forall_mem_snoc allValid valid, forall_mem_snoc allIdentified allowed.identified⟩
      rintro candidate rfl
      exact evaluatesOnce h traced hevent admits allowed.notReevaluated

end Runs

/-- In a run without a second evaluation of a candidate the native projection keeps its
lineage and marks no history as ambiguous.  It is there whenever the request fits. -/
theorem native_lineage_kept {hashing : Hashing} {history : History}
    (run : Run hashing SingleEvaluationStep history) {w : World} {native : NativeForgeAdapter}
    (hnative : w.native = some native) (hcore : native.core.Documented) :
    (∀ bundle result,
      native.lifecycleProjection (nativeHistoryEvents w history) w.currentCandidateIdentity
        w.requirements.length bundle = .ok result → result.projection.lineageOk = true) ∧
    (∀ evidence projection,
      applyNative w history (projectWith w history evidence) = .ok projection →
        projection.stage ≠ .ambiguousHistory) ∧
    ((nativeHistoryEvents w history).length ≤ 32 → w.requirements.length ≤ 255 →
      (valueDigest? (.str w.currentCandidateIdentity)).isSome →
        ∀ evidence, ∃ projection,
          applyNative w history (projectWith w history evidence) = .ok projection) := by
  obtain ⟨events, h, strict, valid, identified⟩ := strict_of_run run
  refine ⟨fun bundle result hresult => ?_, fun evidence projection happly => ?_,
    applyNative_ok hnative hcore h strict valid identified⟩
  · obtain ⟨bound, _, values, current, hvalues, _, rfl⟩ := lifecycleProjection_eq_ok.mp hresult
    obtain ⟨values', hvalues', shows'⟩ :=
      native_shows hcore h strict valid identified w.requirements
    obtain rfl : values' = values := Except.ok.inj (hvalues'.symm.trans hvalues)
    rw [project_projection _ _ _ ((mapM_length hvalues).symm.trans_le bound)]
    exact shows'.lineageOk
  · exact (applyNative_reads hnative hcore h strict valid identified happly).unambiguous

theorem sampleNative_documented (mode : Mode) :
    (sampleWorld mode (some sampleNative)).DocumentedNative := by
  rintro native ⟨⟩
  exact referenceCore_documented

theorem sampleHistory_identified : ∀ record ∈ sampleHistory, Identified record := by
  intro record hrecord
  simp only [sampleHistory, List.mem_cons, List.not_mem_nil, or_false] at hrecord
  rcases hrecord with rfl | rfl | rfl | rfl | rfl
  · refine ⟨fun _ => ⟨_, ⟨_, by decide, rfl⟩, rfl⟩, fun h => ?_⟩
    cases h
  · refine ⟨fun h => ?_, fun _ => ⟨_, ⟨_, by decide, rfl⟩, rfl⟩⟩
    cases h
  all_goals exact .of_other (by decide) (by decide)

theorem sampleHistory_nativeRun {allowed : ForgeStateMachine → ForgeRecord → Prop}
    (hallowed : ∀ m record, NativeStep m record → record.recordType ≠ .finalEvaluation →
      allowed m record) : Run sampleHashing allowed sampleHistory := by
  refine sampleHistory_run (Or.inr (rfl : some sampleNative = _)) fun m hw record hrecord => ?_
  refine hallowed m record ⟨?_, sampleHistory_identified record hrecord⟩ ?_
  · rw [hw]
    exact sampleNative_documented .development
  · revert record
    decide +kernel

theorem native_lineage_kept_sample :
    (∀ bundle result,
      sampleNative.lifecycleProjection
        (nativeHistoryEvents (sampleWorld .evaluator (some sampleNative)) sampleHistory)
        sampleCandidateId 1 bundle = .ok result → result.projection.lineageOk = true) ∧
    (∀ evidence projection,
      applyNative (sampleWorld .evaluator (some sampleNative)) sampleHistory
          (projectWith (sampleWorld .evaluator (some sampleNative)) sampleHistory evidence) =
        .ok projection → projection.stage ≠ .ambiguousHistory) ∧
    ∀ evidence, ∃ projection,
      applyNative (sampleWorld .evaluator (some sampleNative)) sampleHistory
          (projectWith (sampleWorld .evaluator (some sampleNative)) sampleHistory evidence) =
        .ok projection := by
  obtain ⟨kept, unmarked, defined⟩ := native_lineage_kept
    (sampleHistory_nativeRun fun _ _ step type => ⟨step, fun h => absurd h type⟩)
    (w := sampleWorld .evaluator (some sampleNative)) rfl referenceCore_documented
  refine ⟨kept, unmarked, defined (by decide +kernel) (by decide) ?_⟩
  exact (Option.isSome_iff_exists.mpr ⟨_, valueDigest?_digestIdentity _ _⟩)

/-! ## A second evaluation -/

def reevaluatedHistory : History :=
  sampleHistory ++ [sampleEvaluation "output:1"] ++ [sampleEvaluation "output:2"]

theorem reevaluatedHistory_run : Run sampleHashing NativeStep reevaluatedHistory := by
  have run : Run sampleHashing NativeStep sampleHistory :=
    sampleHistory_nativeRun fun _ _ step _ => step
  have identified : ∀ outputIdentity, Identified (sampleEvaluation outputIdentity) :=
    fun _ => .of_other (show RecordType.finalEvaluation ≠ .epoch by decide)
      (show RecordType.finalEvaluation ≠ .candidate by decide)
  have run : Run sampleHashing NativeStep (sampleHistory ++ [sampleEvaluation "output:1"]) := by
    obtain ⟨m, hw, hm, accepted⟩ := exists_machine
      (sampleWorld .evaluator (some sampleNative)) (sampleHistory)
      (fun m => m.authorizeEvaluatorEntry none)
      ((sampleFreeze, sampleCandidate)) (by decide +kernel)
    refine run.extend hm ⟨?_, identified _⟩ (.evaluation accepted rfl rfl)
      (by unfold ForgeRecord.Valid; decide +kernel) (by unfold Fresh; decide +kernel)
    rw [hw]
    exact sampleNative_documented .evaluator
  obtain ⟨m, hw, hm, accepted⟩ := exists_machine
    (sampleWorld .evaluator (some sampleNative))
    (sampleHistory ++ [sampleEvaluation "output:1"])
    (fun m => m.authorizeEvaluatorEntry none)
    ((sampleFreeze, sampleCandidate)) (by decide +kernel)
  refine run.extend hm ⟨?_, identified _⟩ (.evaluation accepted rfl rfl)
    (by unfold ForgeRecord.Valid; decide +kernel) (by unfold Fresh; decide +kernel)
  rw [hw]
  exact sampleNative_documented .evaluator

/-- The evaluator entry accepts a second evaluation of the sample candidate, and the
native projection then marks the history as ambiguous. -/
theorem native_lineage_lost :
    Run sampleHashing NativeStep reevaluatedHistory ∧
    (nativeHistoryEvents (sampleWorld .evaluator (some sampleNative))
      reevaluatedHistory).length ≤ 32 ∧
    (∃ result,
      sampleNative.lifecycleProjection
        (nativeHistoryEvents (sampleWorld .evaluator (some sampleNative)) reevaluatedHistory)
        sampleCandidateId 1 false = .ok result ∧ result.projection.lineageOk = false) ∧
    ∃ projection,
      project (sampleWorld .evaluator (some sampleNative)) reevaluatedHistory =
        .ok projection ∧ projection.stage = .ambiguousHistory := by
  refine ⟨reevaluatedHistory_run, by decide +kernel, ?_, ?_⟩
  · obtain ⟨result, hresult, hlost⟩ := bind_eq_ok.mp
      (show (do
        let result ← sampleNative.lifecycleProjection
          (nativeHistoryEvents (sampleWorld .evaluator (some sampleNative)) reevaluatedHistory)
          sampleCandidateId 1 false
        .ok result.projection.lineageOk) = .ok false by decide +kernel)
    exact ⟨result, hresult, Except.ok.inj hlost⟩
  · obtain ⟨projection, hprojection, hstage⟩ := bind_eq_ok.mp
      (show (do
        let projection ←
          project (sampleWorld .evaluator (some sampleNative)) reevaluatedHistory
        .ok projection.stage) = .ok LifecycleStage.ambiguousHistory by decide +kernel)
    exact ⟨projection, hprojection, Except.ok.inj hstage⟩

end MncsForge.Lifecycle
