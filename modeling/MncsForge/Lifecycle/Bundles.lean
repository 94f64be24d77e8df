import Mathlib
import MncsForge.Lifecycle.Runs
import MncsForge.Lifecycle.NativeRuns

/-!
# Bundle authorization

The plain path to a bundle is a chain of checks, the native one a decision over
projected observations.  They agree unless a freeze that is otherwise in order
names another selection record: only the plain path compares the two.
-/

namespace MncsForge.Native

open MncsForge.Foundation

/-! ## The kernel -/

namespace Bundle

/-- What the kernel asks before a bundle. -/
structure Permits (input : BundleInput) : Prop where
  requestValid : input.requestValid
  candidatePresent : input.candidatePresent
  nonzero : input.currentCandidate ≠ Digest32.zero
  matched : input.candidateMatches
  requested : input.currentCandidate = input.requestedCandidate
  current : input.candidateCurrent
  entered : input.mode = .evaluator → input.frozen ∧ input.selected ∧ input.freezeCurrent

/-- Every answer carries its evidence and is ready exactly when it says so. -/
theorem project_output (core : CoreLibrary) (input : BundleInput) :
    ∃ ready status reason, project core input = output input ready status reason true ∧
      ready = decide (status = .pass ∧ reason = .ready) := by
  unfold project
  dsimp only
  split; · exact ⟨_, _, _, rfl, rfl⟩
  split; · exact ⟨_, _, _, rfl, rfl⟩
  cases input.mode <;> dsimp only
  case evaluator =>
    split; · exact ⟨_, _, _, rfl, rfl⟩
    split; · exact ⟨_, _, _, rfl, rfl⟩
    split; · exact ⟨_, _, _, rfl, rfl⟩
    split; · exact ⟨_, _, _, rfl, rfl⟩
    split <;> exact ⟨_, _, _, rfl, rfl⟩
  case development =>
    split; · exact ⟨_, _, _, rfl, rfl⟩
    split <;> exact ⟨_, _, _, rfl, rfl⟩

theorem permits_iff {input : BundleInput} :
    Permits input ↔ input.requestValid ∧ input.candidatePresent ∧
      input.currentCandidate ≠ Digest32.zero ∧ input.candidateMatches ∧
      input.currentCandidate = input.requestedCandidate ∧ input.candidateCurrent ∧
      (input.mode = .evaluator → input.frozen ∧ input.selected ∧ input.freezeCurrent) :=
  ⟨fun h => ⟨h.1, h.2, h.3, h.4, h.5, h.6, h.7⟩,
    fun ⟨h1, h2, h3, h4, h5, h6, h7⟩ => ⟨h1, h2, h3, h4, h5, h6, h7⟩⟩

theorem project_ready {core : CoreLibrary} (hcore : core.Documented) (input : BundleInput) :
    (project core input).state.ready = true ↔ Permits input := by
  obtain ⟨requested, current, present, matched, fresh, selected, frozen, freezeCurrent, mode,
    valid, status, ready⟩ := input
  rw [permits_iff]
  simp only [project, hcore.boolNot_eq, hcore.isZero_eq, hcore.equal_eq, output]
  by_cases zero : current = Digest32.zero
  · cases valid <;> cases present <;> simp [zero]
  · have nonzero : current = requested → requested ≠ Digest32.zero := by
      rintro rfl
      exact zero
    cases mode with
    | development =>
        simp only [apply_ite BundleResult.state, apply_ite BundleState.ready]
        simp [zero]
        tauto
    | evaluator =>
        simp only [apply_ite BundleResult.state, apply_ite BundleState.ready]
        simp [zero]
        tauto

end Bundle

theorem NativeForgeAdapter.bundlePreconditionProjection_eq_ok {native : NativeForgeAdapter}
    {requestedCandidate currentCandidate : Option String}
    {present matched fresh selected frozen freezeCurrent : Bool} {mode : Bundle.BundleMode}
    {valid : Bool} {status : Status} {ready : Bool} {result : Bundle.BundleResult} :
    native.bundlePreconditionProjection requestedCandidate currentCandidate present matched
        fresh selected frozen freezeCurrent mode valid status ready = .ok result ↔
      ∃ current requested, valueDigest? (.ofText currentCandidate) = some current ∧
        valueDigest? (.ofText (requestedCandidate.or currentCandidate)) = some requested ∧
        result = Bundle.project native.core
          ⟨requested, current, present, matched, fresh, selected, frozen, freezeCurrent, mode,
            valid, status, ready⟩ := by
  simp only [bundlePreconditionProjection]
  simp only [bind_eq_ok, digestValue_eq_ok, refuseIf_eq_ok, Except.ok.injEq]
  constructor
  · rintro ⟨current, hcurrent, requested, hrequested, _, _, rfl⟩
    exact ⟨current, requested, hcurrent, hrequested, rfl⟩
  · rintro ⟨current, requested, hcurrent, hrequested, rfl⟩
    refine ⟨current, hcurrent, requested, hrequested, (), ?_, rfl⟩
    obtain ⟨accepted, verdict, reason, hproject, haccepted⟩ := Bundle.project_output native.core
      ⟨requested, current, present, matched, fresh, selected, frozen, freezeCurrent, mode,
        valid, status, ready⟩
    rw [hproject]
    simp [Bundle.output, haccepted]

end MncsForge.Native

namespace MncsForge.Lifecycle

open MncsForge.Foundation MncsForge.Records MncsForge.Native

/-! ## What the native override keeps -/

section Override

variable (p : LifecycleProjection) (native : Native.Lifecycle.ProjectionState)

@[simp] theorem overrideNative_currentCandidate :
    (overrideNative p native).currentCandidate = p.currentCandidate := by
  unfold overrideNative
  split <;> rfl

@[simp] theorem overrideNative_freeze : (overrideNative p native).freeze = p.freeze := by
  unfold overrideNative
  split <;> rfl

@[simp] theorem overrideNative_freezeStatus :
    (overrideNative p native).freezeStatus = p.freezeStatus := by
  unfold overrideNative
  split <;> rfl

variable {p native}

/-- An unambiguous current candidate is current for the kernel. -/
theorem freshness_of_overrideNative
    (unambiguous : (overrideNative p native).stage ≠ .ambiguousHistory)
    (fresh : (overrideNative p native).candidateFreshness = "CURRENT") :
    native.freshness = .current := by
  unfold overrideNative at unambiguous fresh
  split at unambiguous
  case isTrue => exact absurd rfl unambiguous
  case isFalse lineage =>
    rw [if_neg lineage] at fresh
    have fresh : freshnessText native.freshness = "CURRENT" := fresh
    cases hfreshness : native.freshness with
    | current => rfl
    | _ =>
        rw [hfreshness] at fresh
        exact absurd fresh (by decide)

end Override

/-! ## The projection a native machine decides on -/

section Projection

variable {w : World} {history : History} {native : NativeForgeAdapter}
  {before projection : LifecycleProjection}

theorem applyNative_override (happly : applyNative w history before = .ok projection) :
    projection = before ∨ ∃ state, projection = overrideNative before state := by
  cases hnative : w.native with
  | none =>
      simp only [applyNative, hnative] at happly
      exact Or.inl (Except.ok.inj happly).symm
  | some native =>
      obtain ⟨_, _, _, h⟩ := applyNative_eq_ok hnative happly
      exact Or.inr ⟨_, h⟩

/-- What a native adapter calls current has a digest other than zero. -/
theorem applyNative_digest (hnative : w.native = some native)
    (hcore : native.core.Documented) (happly : applyNative w history before = .ok projection)
    (unambiguous : projection.stage ≠ .ambiguousHistory)
    (fresh : projection.candidateFreshness = "CURRENT") {candidate : ForgeRecord}
    (hcandidate : before.currentCandidate = some candidate) :
    ∃ d, d ≠ Digest32.zero ∧ valueDigest? (.str (textOf candidate "candidate_id")) = some d := by
  simp only [applyNative, hnative] at happly
  obtain ⟨result, hresult, happly⟩ := bind_eq_ok.mp happly
  obtain ⟨_, _, happly⟩ := bind_eq_ok.mp happly
  obtain ⟨_, identity, happly⟩ := bind_eq_ok.mp happly
  obtain ⟨_, _, happly⟩ := bind_eq_ok.mp happly
  obtain ⟨_, _, happly⟩ := bind_eq_ok.mp happly
  obtain rfl := Except.ok.inj happly
  have current := freshness_of_overrideNative unambiguous fresh
  rw [hcandidate, Option.map_some, requireDigest] at identity
  obtain ⟨digest, hdigest, same⟩ := bind_eq_ok.mp identity
  have same : result.projection.currentCandidate = digest :=
    not_ne_iff.mp (refuseIf_eq_ok.mp same)
  refine ⟨digest, ?_, digestValue_eq_ok.mp hdigest⟩
  rintro rfl
  obtain ⟨_, _, values, observed, _, _, rfl⟩ := lifecycleProjection_eq_ok.mp hresult
  simp only [Native.Lifecycle.project, Native.Lifecycle.projectFreshness] at current same
  simp [hcore.isZero_eq, same] at current

end Projection

namespace ForgeStateMachine

/-- The path to a bundle without the native kernel, on the same projection. -/
def plainBundle (m : ForgeStateMachine) (candidateId : Option String) :
    Except ForgeError ForgeRecord := do
  m.requireUnambiguous
  m.authorizeBundlePlain candidateId

section Machine

variable {m : ForgeStateMachine} {hashing : Hashing} {native : NativeForgeAdapter}

/-- A machine's candidate and freeze are those of its history. -/
theorem observed (m : ForgeStateMachine) : ∃ evidence,
    m.projection.currentCandidate = (projectWith m.world m.history evidence).currentCandidate ∧
      m.projection.freeze = (projectWith m.world m.history evidence).freeze ∧
      m.projection.freezeStatus = (projectWith m.world m.history evidence).freezeStatus := by
  obtain ⟨evidence, _, happly⟩ := bind_eq_ok.mp m.projected
  refine ⟨evidence, ?_⟩
  rcases applyNative_override happly with h | ⟨state, h⟩
  · rw [h]
    exact ⟨rfl, rfl, rfl⟩
  · rw [h]
    simp

theorem currentCandidate_mem {candidate : ForgeRecord}
    (h : m.projection.currentCandidate = some candidate) :
    candidate ∈ typed .candidate m.history := by
  obtain ⟨evidence, hcandidate, _⟩ := m.observed
  rw [h] at hcandidate
  exact projectCandidate_mem hcandidate.symm

/-- The identity of the current candidate of valid records is a text. -/
theorem candidate_text (valid : ∀ record ∈ m.history, record.Valid hashing)
    {candidate : ForgeRecord} (h : m.projection.currentCandidate = some candidate) :
    candidate.get "candidate_id" = .str (textOf candidate "candidate_id") := by
  obtain ⟨hmem, htype⟩ := mem_typed.mp (currentCandidate_mem h)
  obtain ⟨text, _, htext⟩ := (valid _ hmem).text "candidate_id" (by rw [htype]; decide)
  rw [textOf, htext]
  rfl

/-- The freeze of a machine is about its candidate, and is current when nothing drifted. -/
theorem freeze_about {freeze : ForgeRecord} (h : m.projection.freeze = some freeze) :
    freeze.get "candidate_identity" =
        .ofText (m.projection.currentCandidate.map fun c => textOf c "candidate_id") ∧
      (m.projection.freezeStatus = "current" ↔ freezeDrift m.world freeze = []) := by
  obtain ⟨evidence, hcandidate, hfreeze, hstatus⟩ := m.observed
  rw [h] at hfreeze
  rw [hcandidate, hstatus]
  have sole : sole? (recordsAbout .freeze m.history
      ((projectCandidate m.world m.history).current.map fun c => textOf c "candidate_id")) =
        some freeze := hfreeze.symm
  refine ⟨(recordsAbout_mem.mp (sole?_mem sole)).2, ?_⟩
  show freezeStatusOf m.world (recordsAbout .freeze m.history
      ((projectCandidate m.world m.history).current.map fun c => textOf c "candidate_id")) =
        "current" ↔ _
  generalize recordsAbout .freeze m.history
    ((projectCandidate m.world m.history).current.map fun c => textOf c "candidate_id") =
      freezes at sole
  match freezes, sole with
  | [_], rfl =>
      rw [freezeStatusOf, if_neg (by simp)]
      show (if freezeDrift m.world freeze = [] then "current" else "drifted") = "current" ↔ _
      by_cases drift : freezeDrift m.world freeze = [] <;> simp [drift]

/-! ### Both paths -/

/-- What both paths ask of the machine in every mode. -/
structure Bundles (m : ForgeStateMachine) (candidateId : Option String)
    (candidate : ForgeRecord) : Prop where
  unambiguous : m.projection.stage ≠ .ambiguousHistory
  current : m.projection.currentCandidate = some candidate
  fresh : m.projection.candidateFreshness = "CURRENT"
  requested : ∀ id ∈ candidateId, id = textOf candidate "candidate_id"

/-- What both paths ask of the machine in evaluator mode. -/
structure Entered (m : ForgeStateMachine) (freeze disposition : ForgeRecord) : Prop where
  frozen : m.projection.freeze = some freeze
  undrifted : freezeDrift m.world freeze = []
  disposition : m.projection.disposition = some disposition
  selected : m.projection.dispositionStatus = "selected"

/-- A freeze that lets the evaluator in names the selection it rests on. -/
def BindsSelection (m : ForgeStateMachine) (candidateId : Option String) : Prop :=
  m.world.mode = .evaluator → ∀ candidate freeze disposition,
    m.Bundles candidateId candidate → m.Entered freeze disposition →
      freeze.get "selection_record" = disposition.get "disposition_id"

theorem plainBundle_eq_ok (valid : ∀ record ∈ m.history, record.Valid hashing)
    {candidateId : Option String} {candidate : ForgeRecord} :
    m.plainBundle candidateId = .ok candidate ↔
      m.Bundles candidateId candidate ∧ (m.world.mode = .evaluator →
        ∃ freeze disposition, m.Entered freeze disposition ∧
          freeze.get "selection_record" = disposition.get "disposition_id") := by
  rw [plainBundle, bind_eq_ok]
  simp only [requireUnambiguous_eq_ok]
  rw [exists_and_left, exists_const]
  cases hmode : m.world.mode with
  | development =>
      simp only [authorizeBundlePlain, hmode, requireCandidate_eq_ok, reduceCtorEq,
        false_implies, and_true]
      constructor
      · rintro ⟨unambiguous, current, fresh, requested⟩
        refine ⟨unambiguous, current, fresh, fun id hid => ?_⟩
        exact (textOf_of_get (requested id hid)).symm
      · rintro ⟨unambiguous, current, fresh, requested⟩
        refine ⟨unambiguous, current, fresh, fun id hid => ?_⟩
        rw [candidate_text valid current, requested id hid]
  | evaluator =>
      simp only [authorizeBundlePlain, hmode, bind_eq_ok, authorizeEvaluatorEntry_eq_ok,
        Except.ok.injEq, Prod.exists, true_implies]
      constructor
      · rintro ⟨unambiguous, freeze, _, ⟨_, _, hfreeze, requested, undrifted, current, fresh,
          _, disposition, hdisposition, selected, binds⟩, rfl⟩
        have about := (freeze_about hfreeze).1
        rw [current, Option.map_some] at about
        refine ⟨⟨unambiguous, current, fresh, fun id hid => ?_⟩, freeze, disposition,
          ⟨hfreeze, undrifted, hdisposition, selected⟩, binds⟩
        exact Json.str.inj ((requested id hid).trans about)
      · rintro ⟨⟨unambiguous, current, fresh, requested⟩, freeze, disposition,
          ⟨hfreeze, undrifted, hdisposition, selected⟩, binds⟩
        have about := (freeze_about hfreeze).1
        rw [current, Option.map_some] at about
        refine ⟨unambiguous, freeze, candidate, ⟨trivial, unambiguous, hfreeze, fun id hid => ?_,
          undrifted, current, fresh, ?_, disposition, hdisposition, selected, binds⟩, rfl⟩
        · rw [requested id hid]
          exact about.symm
        · rw [candidate_text valid current, textOf_of_get about]

theorem nativeBundle_eq_ok (hnative : m.world.native = some native)
    (hcore : native.core.Documented) {candidateId : Option String} {candidate : ForgeRecord} :
    m.authorizeBundle candidateId true = .ok candidate ↔
      m.Bundles candidateId candidate ∧ (m.world.mode = .evaluator →
        ∃ freeze disposition, m.Entered freeze disposition) := by
  rw [authorizeBundle, bind_eq_ok]
  simp only [requireUnambiguous_eq_ok, hnative]
  rw [exists_and_left, exists_const, authorizeBundleNative]
  simp only [bind_eq_ok, NativeForgeAdapter.bundlePreconditionProjection_eq_ok]
  constructor
  · rintro ⟨unambiguous, result, ⟨current, requested, hcurrent, hrequested, rfl⟩, _, _, h⟩
    split at h
    case isFalse => cases h
    case isTrue ready =>
      have permits := (Bundle.project_ready hcore _).mp ready
      cases hcandidate : m.projection.currentCandidate with
      | none =>
          rw [hcandidate] at h
          cases h
      | some found =>
          rw [hcandidate] at h
          obtain rfl := Except.ok.inj h
          have fresh := permits.current
          have matched := permits.matched
          have entered := permits.entered
          simp only [hcandidate, Option.isSome_some, Bool.true_and, Option.map_some,
            Bool.or_eq_true, decide_eq_true_eq] at fresh matched
          refine ⟨⟨unambiguous, hcandidate, fresh, fun id hid => ?_⟩, fun evaluator => ?_⟩
          · rcases matched with h | h
            · rw [h] at hid
              cases hid
            · rw [h] at hid
              exact (Option.some.inj hid).symm
          · obtain ⟨frozen, selected, current⟩ := entered (by rw [evaluator]; rfl)
            simp only [Bool.and_eq_true, decide_eq_true_eq] at selected current
            obtain ⟨freeze, hfreeze⟩ := Option.isSome_iff_exists.mp frozen
            obtain ⟨disposition, hdisposition⟩ := Option.isSome_iff_exists.mp selected.1
            exact ⟨freeze, disposition, hfreeze, (freeze_about hfreeze).2.mp current,
              hdisposition, selected.2⟩
  · rintro ⟨⟨unambiguous, hcandidate, fresh, requested⟩, entered⟩
    obtain ⟨evidence, _, happly⟩ := bind_eq_ok.mp m.projected
    have before : (projectWith m.world m.history evidence).currentCandidate = some candidate := by
      rcases applyNative_override happly with h | ⟨state, h⟩
      · rw [← h, hcandidate]
      · rw [← overrideNative_currentCandidate _ state, ← h, hcandidate]
    obtain ⟨digest, nonzero, hdigest⟩ :=
      applyNative_digest hnative hcore happly unambiguous fresh before
    have matched : candidateId = none ∨ candidateId = some (textOf candidate "candidate_id") := by
      cases candidateId with
      | none => exact Or.inl rfl
      | some id => exact Or.inr (congrArg some (requested id rfl))
    have hrequested : candidateId.or (some (textOf candidate "candidate_id")) =
        some (textOf candidate "candidate_id") := by
      rcases matched with h | h <;> rw [h] <;> rfl
    refine ⟨unambiguous, _, ⟨digest, digest, ?_, ?_, rfl⟩, (), ?_, ?_⟩
    · rw [hcandidate]
      exact hdigest
    · rw [hcandidate, Option.map_some, hrequested]
      exact hdigest
    · obtain ⟨_, _, _, houtput, _⟩ := Bundle.project_output native.core
        ⟨digest, digest, _, _, _, _, _, _, _, _, _, _⟩
      rw [houtput]
      exact refuseIf_eq_ok.mpr (by simp [Bundle.output])
    · rw [if_pos ((Bundle.project_ready hcore _).mpr ?_), hcandidate]
      refine ⟨rfl, by simp [hcandidate], nonzero, ?_, rfl, by simp [hcandidate, fresh], ?_⟩
      · simpa [hcandidate] using matched
      · intro evaluator
        have evaluator : m.world.mode = .evaluator := by
          cases hmode : m.world.mode with
          | evaluator => rfl
          | development =>
              rw [hmode] at evaluator
              cases evaluator
        obtain ⟨freeze, disposition, hfreeze, undrifted, hdisposition, selected⟩ :=
          entered evaluator
        simp [hfreeze, hdisposition, selected, (freeze_about hfreeze).2.mpr undrifted]

/-- With a valid request both paths accept the same bundles exactly when an entered
freeze binds its selection. -/
theorem bundle_paths_agree_iff (hnative : m.world.native = some native)
    (hcore : native.core.Documented) (valid : ∀ record ∈ m.history, record.Valid hashing)
    (candidateId : Option String) :
    (∀ candidate, m.authorizeBundle candidateId true = .ok candidate ↔
        m.plainBundle candidateId = .ok candidate) ↔
      m.BindsSelection candidateId := by
  simp only [nativeBundle_eq_ok hnative hcore, plainBundle_eq_ok valid]
  constructor
  · intro agree evaluator candidate freeze disposition bundles entered
    obtain ⟨_, binds⟩ := (agree candidate).mp ⟨bundles, fun _ => ⟨freeze, disposition, entered⟩⟩
    obtain ⟨freeze', disposition', entered', same⟩ := binds evaluator
    obtain rfl := Option.some.inj (entered.frozen.symm.trans entered'.frozen)
    obtain rfl := Option.some.inj (entered.disposition.symm.trans entered'.disposition)
    exact same
  · intro binds candidate
    refine and_congr_right fun bundles => forall_congr' fun evaluator => ?_
    constructor
    · rintro ⟨freeze, disposition, entered⟩
      exact ⟨freeze, disposition, entered,
        binds evaluator candidate freeze disposition bundles entered⟩
    · rintro ⟨freeze, disposition, entered, _⟩
      exact ⟨freeze, disposition, entered⟩

end Machine

end ForgeStateMachine

/-! ## Sample machines -/

/-- A freeze of the sample candidate that names another selection record. -/
def unboundFreeze : ForgeRecord :=
  filledRecord .freeze
    [("candidate_identity", .str sampleCandidateId),
     ("selection_record", .str "disposition:2")]

def unboundHistory : History :=
  [sampleEpoch, sampleCandidate, sampleResult, sampleDisposition, unboundFreeze]

theorem bundle_paths_agree_iff_sample : ∃ m : ForgeStateMachine,
    m.world = sampleWorld .evaluator (some sampleNative) ∧ m.history = sampleHistory ∧
      m.authorizeBundle none true = .ok sampleCandidate ∧
      ((∀ candidate, m.authorizeBundle none true = .ok candidate ↔
        m.plainBundle none = .ok candidate) ↔ m.BindsSelection none) := by
  obtain ⟨m, hworld, hhistory, accepted⟩ := exists_machine
    (sampleWorld .evaluator (some sampleNative)) sampleHistory
    (fun m => m.authorizeBundle none true) sampleCandidate (by decide +kernel)
  refine ⟨m, hworld, hhistory, accepted, ?_⟩
  have valid : ∀ record ∈ sampleHistory, record.Valid sampleHashing := by
    unfold ForgeRecord.Valid
    decide +kernel
  exact ForgeStateMachine.bundle_paths_agree_iff (by rw [hworld]; rfl) referenceCore_documented
    (by rw [hhistory]; exact valid) none

/-- The native path takes a freeze that names another selection. -/
theorem native_bundle_unbound : ∃ m : ForgeStateMachine,
    m.world = sampleWorld .evaluator (some sampleNative) ∧ m.history = unboundHistory ∧
      sampleNative.core.Documented ∧
      (∀ record ∈ m.history, record.Valid sampleHashing) ∧
      m.authorizeBundle none true = .ok sampleCandidate ∧
      m.plainBundle none = .error
        ⟨"FREEZE_SELECTION_STALE", "freeze does not bind the current selection record"⟩ := by
  obtain ⟨m, hworld, hhistory, computed⟩ := exists_machine
    (sampleWorld .evaluator (some sampleNative)) unboundHistory
    (fun m => .ok (m.authorizeBundle none true, m.plainBundle none))
    (.ok sampleCandidate, .error
      ⟨"FREEZE_SELECTION_STALE", "freeze does not bind the current selection record"⟩)
    (by decide +kernel)
  have valid : ∀ record ∈ unboundHistory, record.Valid sampleHashing := by
    unfold ForgeRecord.Valid
    decide +kernel
  obtain ⟨accepted, refused⟩ := Prod.mk.inj (Except.ok.inj computed)
  exact ⟨m, hworld, hhistory, referenceCore_documented, by rw [hhistory]; exact valid,
    accepted, refused⟩

end MncsForge.Lifecycle
