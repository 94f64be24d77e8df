import Mathlib
import MncsForge.Lifecycle.Runs

/-!
# What an ambiguous history is refused with

Each authorizer that needs an unambiguous history is refused with the first
limitation of the projection.  The limitations also carry a remark that is no
conflict, and the remark comes before the conflicts of decisions and of the
native lineage.
-/

namespace MncsForge.Lifecycle

open MncsForge.Foundation MncsForge.Records MncsForge.Native

namespace ForgeStateMachine

/-! ## The authorizers that ask -/

def authorizeReconciliation (m : ForgeStateMachine) (candidateId : Option String) :
    Except ForgeError (Option String) := do
  m.requireUnambiguous
  match candidateId with
  | some id => do
      refuseIf ((candidateRecord m.history id).isNone) "RECORD_NOT_FOUND"
        s!"no candidate record for {id}"
      .ok (some id)
  | none =>
      .ok (m.projection.currentCandidate.map fun candidate => textOf candidate "candidate_id")

/-- The loop over the compared candidates. -/
def requireCompared (m : ForgeStateMachine) (activeId : String) :
    List String → Except ForgeError Unit
  | [] => .ok ()
  | id :: rest =>
      match candidateRecord m.history id with
      | none => .error ⟨"RECORD_NOT_FOUND", s!"no candidate record for {id}"⟩
      | some candidate => do
          refuseIf (candidate.get "source_epoch" ≠ .str activeId) "CANDIDATE_LINEAGE_CONFLICT"
            "compared candidates must belong to the active epoch lineage"
          m.requireCompared activeId rest

def authorizeCandidateComparison (m : ForgeStateMachine) (candidateIds : List String) :
    Except ForgeError Unit := do
  m.requireMode .development
  m.requireUnambiguous
  match m.projection.activeEpoch with
  | none => .error ⟨"NO_ACTIVE_EPOCH", "candidate comparison requires an active epoch"⟩
  | some active => m.requireCompared (textOf active "epoch_id") candidateIds

/-- A call of an authorizer that needs an unambiguous history. -/
inductive Authorization where
  | epochBegin (parentEpoch : Option String)
  | candidateRegister (parentCandidate : Option String) (proposedIdentity : String)
      (epochIdentity : Option String)
  | developmentWork (candidateId : Option String)
  | candidateComparison (candidateIds : List String)
  | candidateDisposition (candidateId disposition : String)
  | candidateFreeze (candidateId : String) (evidencePlanRequirements : Option (List String))
  | evaluatorEntry (candidateId : Option String)
  | reconciliation (candidateId : Option String)
  | bundle (candidateId : Option String) (requestValid : Bool)

namespace Authorization

/-- The mode that is asked for before the history is. -/
def mode? : Authorization → Option Mode
  | epochBegin _ | candidateRegister _ _ _ | developmentWork _ | candidateComparison _
  | candidateDisposition _ _ | candidateFreeze _ _ => some .development
  | evaluatorEntry _ => some .evaluator
  | reconciliation _ | bundle _ _ => none

def run (m : ForgeStateMachine) : Authorization → Except ForgeError Unit
  | epochBegin parentEpoch => m.authorizeEpochBegin parentEpoch
  | candidateRegister parentCandidate proposedIdentity epochIdentity =>
      (m.authorizeCandidateRegister parentCandidate proposedIdentity epochIdentity).map
        fun _ => ()
  | developmentWork candidateId => (m.authorizeDevelopmentWork candidateId false).map fun _ => ()
  | candidateComparison candidateIds => m.authorizeCandidateComparison candidateIds
  | candidateDisposition candidateId disposition =>
      (m.authorizeCandidateDisposition candidateId disposition).map fun _ => ()
  | candidateFreeze candidateId evidencePlanRequirements =>
      (m.authorizeCandidateFreeze candidateId evidencePlanRequirements).map fun _ => ()
  | evaluatorEntry candidateId => (m.authorizeEvaluatorEntry candidateId).map fun _ => ()
  | reconciliation candidateId => (m.authorizeReconciliation candidateId).map fun _ => ()
  | bundle candidateId requestValid => (m.authorizeBundle candidateId requestValid).map fun _ => ()

/-- The mode is the one asked for, so that the history is what decides. -/
def Asks (m : ForgeStateMachine) (call : Authorization) : Prop :=
  ∀ mode, call.mode? = some mode → m.world.mode = mode

/-- A call that asks is refused with what the history is refused with. -/
theorem run_eq_error {m : ForgeStateMachine} {call : Authorization} (asks : call.Asks m)
    {error : ForgeError} (refused : m.requireUnambiguous = .error error) :
    call.run m = .error error := by
  have passed : ∀ mode, call.mode? = some mode → m.requireMode mode = .ok () :=
    fun mode h => requireMode_eq_ok.mpr (asks mode h)
  cases call with
  | epochBegin =>
      simp only [run, authorizeEpochBegin, passed _ rfl, refused]
      rfl
  | candidateRegister =>
      simp only [run, authorizeCandidateRegister, passed _ rfl, refused]
      rfl
  | developmentWork =>
      simp only [run, authorizeDevelopmentWork, passed _ rfl, refused]
      rfl
  | candidateComparison =>
      simp only [run, authorizeCandidateComparison, passed _ rfl, refused]
      rfl
  | candidateDisposition =>
      simp only [run, authorizeCandidateDisposition, passed _ rfl, refused]
      rfl
  | candidateFreeze =>
      simp only [run, authorizeCandidateFreeze, passed _ rfl, refused]
      rfl
  | evaluatorEntry =>
      simp only [run, authorizeEvaluatorEntry, passed _ rfl, refused]
      rfl
  | reconciliation =>
      simp only [run, authorizeReconciliation, refused]
      rfl
  | bundle =>
      simp only [run, authorizeBundle, refused]
      rfl

end Authorization

end ForgeStateMachine

/-! ## Conflicts of a history -/

/-- The codes of what makes a history ambiguous. -/
def conflictCodes : List String :=
  lineageConflictCodes ++ ["NATIVE_LINEAGE_CONFLICT"]

/-- A candidate was recorded after the epoch, against another one. -/
def epochOutdated (history : History) (epochId : String) : Bool :=
  (recordsOf .candidate history).any fun entry =>
    epochIndex history epochId < entry.2 && entry.1.get "source_epoch" ≠ .str epochId

/-- The epochs or the candidates of the active epoch form no lineage. -/
inductive LineageConflict (history : History) : Prop where
  | epochs (broken : epochsCoherent none [] (typed .epoch history) = false)
  | superseded {epoch : ForgeRecord} (active : (typed .epoch history).getLast? = some epoch)
      (outdated : epochOutdated history (textOf epoch "epoch_id") = true)
  | candidates {epoch : ForgeRecord} (active : (typed .epoch history).getLast? = some epoch)
      (broken : candidatesCoherent history (textOf epoch "epoch_id") none
        (candidatesOfEpoch history (textOf epoch "epoch_id")) = false)
  | cycle {epoch current : ForgeRecord}
      (active : (typed .epoch history).getLast? = some epoch)
      (latest : (candidatesOfEpoch history (textOf epoch "epoch_id")).getLast? = some current)
      (met : (lineageWalk history (lineageFuel history) [] (some current)).2 = true)

section History

variable (w : World) (history : History)

def currentCandidateId : Option String :=
  (projectCandidate w history).current.map fun candidate => textOf candidate "candidate_id"

/-- Workflow evidence of the current candidate is on record. -/
def EvidencePresent : Prop :=
  ∃ evidence, evidenceReadiness w history (projectCandidate w history).current none =
    .ok evidence ∧ evidence.present ≠ []

def SeveralDispositions : Prop :=
  1 < (recordsAbout .candidateDisposition history (currentCandidateId w history)).length

def SeveralFreezes : Prop :=
  1 < (recordsAbout .freeze history (currentCandidateId w history)).length

/-- The native adapter finds a broken parent relationship. -/
def NativeConflict : Prop :=
  ∃ adapter result, w.native = some adapter ∧
    adapter.lifecycleProjection (nativeHistoryEvents w history) w.currentCandidateIdentity
      w.requirements.length
      (!(recordsAbout .bundle history (currentCandidateId w history)).isEmpty) = .ok result ∧
    result.projection.lineageOk = false

end History

/-! ## The order of the limitations -/

section Order

variable {w : World} {history : History}

theorem epochProjection_limitations_eq :
    (epochProjection history).limitations =
      if epochsCoherent none [] (typed .epoch history) = false then [epochLineageConflict]
      else [] := by
  unfold epochProjection
  by_cases empty : typed .epoch history = []
  · simp [empty, epochsCoherent]
  · simp only [if_neg empty]
    cases epochsCoherent none [] (typed .epoch history) <;> rfl

theorem epochProjection_active_eq :
    (epochProjection history).active = (typed .epoch history).getLast? := by
  unfold epochProjection
  by_cases empty : typed .epoch history = []
  · simp [empty]
  · simp only [if_neg empty]

/-- The first two parts of the limitations. -/
def lineageLimitations (w : World) (history : History) : List TransitionBlocker :=
  (epochProjection history).limitations ++ (projectCandidate w history).limitations

theorem lineageLimitations_ne_nil :
    lineageLimitations w history ≠ [] ↔ LineageConflict history := by
  have epochs : (epochProjection history).limitations ≠ [] ↔
      epochsCoherent none [] (typed .epoch history) = false := by
    rw [epochProjection_limitations_eq]
    split_ifs <;> simp_all
  rw [lineageLimitations, Ne, List.append_eq_nil_iff, not_and_or, ← Ne, ← Ne, epochs,
    projectCandidate, epochProjection_active_eq]
  constructor
  · rintro (broken | found)
    · exact .epochs broken
    · unfold candidateProjection at found
      split at found
      · exact absurd rfl found
      · rename_i epoch active
        by_contra none
        have fresh : epochOutdated history (textOf epoch "epoch_id") = false := by
          rw [← Bool.not_eq_true]
          exact fun outdated => none (.superseded active outdated)
        have coherent : candidatesCoherent history (textOf epoch "epoch_id") .none
            (candidatesOfEpoch history (textOf epoch "epoch_id")) = true := by
          rw [← Bool.not_eq_false]
          exact fun broken => none (.candidates active broken)
        unfold epochOutdated at fresh
        simp only [fresh, coherent, Bool.false_eq_true, if_false, if_true,
          List.append_nil] at found
        split at found
        · exact found rfl
        · rename_i current latest
          have walked : (lineageWalk history (lineageFuel history) [] (some current)).2 =
              false := by
            rw [← Bool.not_eq_true]
            exact fun met => none (.cycle active latest met)
          simp [walked] at found
  · rintro (broken | @⟨epoch, active, outdated⟩ | @⟨epoch, active, broken⟩ |
      @⟨epoch, current, active, latest, met⟩)
    · exact Or.inl broken
    · right
      unfold epochOutdated at outdated
      simp only [active, candidateProjection, outdated, if_true]
      split <;> simp
    · right
      simp only [active, candidateProjection, broken]
      split <;> simp
    · right
      simp [active, candidateProjection, latest, met]

/-- The lineage limitations are conflicts. -/
theorem code_of_lineageLimitations {blocker : TransitionBlocker}
    (h : blocker ∈ lineageLimitations w history) : blocker.code ∈ lineageConflictCodes := by
  have epochs : ∀ blocker ∈ (epochProjection history).limitations,
      blocker = epochLineageConflict := by
    intro blocker member
    rw [epochProjection_limitations_eq] at member
    split_ifs at member
    · exact List.mem_singleton.mp member
    · cases member
  have candidates : ∀ blocker ∈ (projectCandidate w history).limitations,
      blocker = epochSuperseded ∨ blocker = candidateLineageConflict ∨
        blocker = candidateCycle := by
    intro blocker member
    unfold projectCandidate candidateProjection at member
    split at member
    · cases member
    · dsimp only at member
      split at member
      all_goals
        split_ifs at member <;> simp_all <;> tauto
  rcases List.mem_append.mp h with member | member
  · rw [epochs blocker member]
    decide
  · rcases candidates blocker member with rfl | rfl | rfl <;> decide

/-- The limitations of the plain projection after the lineage ones. -/
def laterLimitations (w : World) (history : History) (evidence : EvidenceReadiness) :
    List TransitionBlocker :=
  (if evidence.present ≠ [] then [comparabilityLimited] else []) ++
    (if 1 < (recordsAbout .candidateDisposition history (currentCandidateId w history)).length
      then [dispositionConflict] else []) ++
    if 1 < (recordsAbout .freeze history (currentCandidateId w history)).length
      then [freezeConflict] else []

theorem projectWith_limitations (evidence : EvidenceReadiness) :
    (projectWith w history evidence).limitations =
      lineageLimitations w history ++ laterLimitations w history evidence := by
  simp only [projectWith, lineageLimitations, laterLimitations, currentCandidateId,
    List.append_assoc]
  rfl

theorem not_native_of_projectWith {evidence : EvidenceReadiness} {blocker : TransitionBlocker}
    (h : blocker ∈ (projectWith w history evidence).limitations) :
    blocker.code ≠ "NATIVE_LINEAGE_CONFLICT" := by
  rw [projectWith_limitations] at h
  rcases List.mem_append.mp h with lineage | later
  · intro native
    have := code_of_lineageLimitations lineage
    rw [native] at this
    revert this
    decide
  · unfold laterLimitations at later
    have : blocker = comparabilityLimited ∨ blocker = dispositionConflict ∨
        blocker = freezeConflict := by
      split_ifs at later <;> simp_all <;> tauto
    rcases this with rfl | rfl | rfl <;> decide

/-- What is appended when the native adapter finds a conflict. -/
theorem overrideNative_limitations {projection : LifecycleProjection}
    {native : Native.Lifecycle.ProjectionState}
    (h : ∀ blocker ∈ projection.limitations, blocker.code ≠ "NATIVE_LINEAGE_CONFLICT") :
    (overrideNative projection native).limitations =
      projection.limitations ++
        if native.lineageOk = false then [nativeLineageConflict] else [] := by
  unfold overrideNative
  split_ifs with broken named
  · obtain ⟨blocker, member, code⟩ := List.any_eq_true.mp named
    exact absurd (of_decide_eq_true code) (h blocker member)
  · rfl
  · exact (List.append_nil _).symm

/-- The five steps of a projection append to the limitations in this order. -/
theorem project_limitations {projection : LifecycleProjection}
    (h : project w history = .ok projection) :
    ∃ evidence own,
      evidenceReadiness w history (projectCandidate w history).current none = .ok evidence ∧
      projection.limitations =
        lineageLimitations w history ++ laterLimitations w history evidence ++ own ∧
      (own = [nativeLineageConflict] ∧ NativeConflict w history ∨
        own = [] ∧ ¬NativeConflict w history) := by
  obtain ⟨evidence, ready, applied⟩ := bind_eq_ok.mp h
  cases adapted : w.native with
  | none =>
      simp only [applyNative, adapted, Except.ok.injEq] at applied
      refine ⟨evidence, [], ready, ?_, Or.inr ⟨rfl, ?_⟩⟩
      · rw [← applied, projectWith_limitations, List.append_nil]
      · rintro ⟨adapter, _, found, _⟩
        simp [adapted] at found
  | some adapter =>
      simp only [applyNative, adapted] at applied
      obtain ⟨result, projected, applied⟩ := bind_eq_ok.mp applied
      obtain ⟨_, _, applied⟩ := bind_eq_ok.mp applied
      obtain ⟨_, _, applied⟩ := bind_eq_ok.mp applied
      obtain ⟨_, _, applied⟩ := bind_eq_ok.mp applied
      obtain ⟨_, _, applied⟩ := bind_eq_ok.mp applied
      obtain rfl := Except.ok.inj applied
      refine ⟨evidence, if result.projection.lineageOk = false then [nativeLineageConflict]
        else [], ready, ?_, ?_⟩
      · rw [overrideNative_limitations fun _ => not_native_of_projectWith,
          projectWith_limitations]
      · have only : NativeConflict w history ↔ result.projection.lineageOk = false := by
          constructor
          · rintro ⟨adapter', result', found, projected', broken⟩
            obtain rfl := Option.some.inj (found.symm.trans adapted)
            obtain rfl := Except.ok.inj (projected'.symm.trans projected)
            exact broken
          · exact fun broken => ⟨adapter, result, adapted, projected, broken⟩
        rw [only]
        split_ifs with broken
        · exact Or.inl ⟨rfl, broken⟩
        · exact Or.inr ⟨rfl, broken⟩

end Order

/-! ## Which conflict is named -/

/-- A conflict comes first: one of the lineage, or one of the later ones with
nothing before it. -/
def ConflictFirst (w : World) (history : History) : Prop :=
  LineageConflict history ∨
    (¬EvidencePresent w history ∧
      (SeveralDispositions w history ∨ SeveralFreezes w history ∨ NativeConflict w history))

theorem head_limitations_iff {w : World} {history : History} {projection : LifecycleProjection}
    (h : project w history = .ok projection) :
    (∃ blocker, projection.limitations.head? = some blocker ∧
      blocker.code ∈ conflictCodes) ↔ ConflictFirst w history := by
  obtain ⟨evidence, native, ready, limitations, appended⟩ := project_limitations h
  have present : EvidencePresent w history ↔ evidence.present ≠ [] := by
    constructor
    · rintro ⟨evidence', ready', some⟩
      obtain rfl := Except.ok.inj (ready'.symm.trans ready)
      exact some
    · exact fun some => ⟨evidence, ready, some⟩
  rw [limitations, ConflictFirst, ← lineageLimitations_ne_nil (w := w), present,
    SeveralDispositions, SeveralFreezes]
  cases lineage : lineageLimitations w history with
  | cons blocker rest =>
      refine iff_of_true ⟨blocker, rfl, ?_⟩ (Or.inl (List.cons_ne_nil _ _))
      have member : blocker ∈ lineageLimitations w history := by
        rw [lineage]
        exact List.mem_cons_self
      exact List.mem_append_left _ (code_of_lineageLimitations member)
  | nil =>
      unfold laterLimitations
      by_cases noted : evidence.present ≠ []
      · -- the remark comes first
        refine iff_of_false ?_ (by simp [noted])
        rintro ⟨blocker, first, code⟩
        simp only [noted, ne_eq, not_false_eq_true, if_true, List.nil_append, List.cons_append,
          List.head?_cons, Option.some.injEq] at first
        rw [← first] at code
        revert code
        decide
      · have dispositionCode : dispositionConflict.code ∈ conflictCodes := by decide
        have freezeCode : freezeConflict.code ∈ conflictCodes := by decide
        have nativeCode : nativeLineageConflict.code ∈ conflictCodes := by decide
        rw [if_neg noted]
        by_cases several :
            1 < (recordsAbout .candidateDisposition history (currentCandidateId w history)).length
        · simp [several, noted, dispositionCode]
        · rw [if_neg several]
          by_cases frozen :
              1 < (recordsAbout .freeze history (currentCandidateId w history)).length
          · simp [several, frozen, noted, freezeCode]
          · rcases appended with ⟨rfl, broken⟩ | ⟨rfl, sound⟩
            · simp [several, frozen, broken, noted, nativeCode]
            · simp [several, frozen, sound]

namespace ForgeStateMachine

/-- Each authorizer that asks is refused with a conflict of the projection. -/
def NamesConflict (m : ForgeStateMachine) : Prop :=
  ∀ call : Authorization, call.Asks m → ∃ error, call.run m = .error error ∧
    error.code ∈ conflictCodes ∧
      ∃ blocker ∈ m.projection.limitations, blocker.code = error.code

/-- An ambiguous history is refused with one of its conflicts exactly when a
conflict comes first. -/
theorem namesConflict_iff (m : ForgeStateMachine)
    (ambiguous : m.projection.stage = .ambiguousHistory) :
    m.NamesConflict ↔ ConflictFirst m.world m.history := by
  rw [← head_limitations_iff m.projected]
  constructor
  · intro names
    obtain ⟨error, refused, code, _⟩ :=
      names (.reconciliation none) fun mode h => by cases h
    cases first : m.projection.limitations.head? with
    | none =>
        have index : m.requireUnambiguous =
            .error ⟨"IndexError", "list index out of range"⟩ := by
          rw [requireUnambiguous, if_pos ambiguous, first]
        have asks : (Authorization.reconciliation none).Asks m := fun mode h => by cases h
        have same := Except.error.inj
          (refused.symm.trans (Authorization.run_eq_error asks index))
        rw [same] at code
        revert code
        decide
    | some blocker =>
        have named : m.requireUnambiguous = .error blocker.error := by
          rw [requireUnambiguous, if_pos ambiguous, first]
        have asks : (Authorization.reconciliation none).Asks m := fun mode h => by cases h
        have same := Except.error.inj
          (refused.symm.trans (Authorization.run_eq_error asks named))
        rw [same] at code
        exact ⟨blocker, rfl, code⟩
  · rintro ⟨blocker, first, code⟩ call asks
    have named : m.requireUnambiguous = .error blocker.error := by
      rw [requireUnambiguous, if_pos ambiguous, first]
    exact ⟨blocker.error, Authorization.run_eq_error asks named, code, blocker,
      List.mem_of_head? first, rfl⟩

end ForgeStateMachine

/-! ### Samples -/

/-- What an ambiguous machine refuses a reconciliation with. -/
private def refusal (m : ForgeStateMachine) : Except ForgeError ForgeError :=
  if m.projection.stage = .ambiguousHistory then
    match m.authorizeReconciliation none with
    | .error error => .ok error
    | .ok _ => .error ⟨"", ""⟩
  else .error ⟨"", ""⟩

private theorem of_refusal {m : ForgeStateMachine} {error : ForgeError}
    (h : refusal m = .ok error) :
    m.projection.stage = .ambiguousHistory ∧
      (ForgeStateMachine.Authorization.reconciliation none).run m = .error error := by
  unfold refusal at h
  split_ifs at h with stage
  split at h
  · rename_i refused answered
    obtain rfl := Except.ok.inj h
    exact ⟨stage, by simp [ForgeStateMachine.Authorization.run, answered, Except.map]⟩
  · cases h

/-- The same epoch twice. -/
theorem namesConflict_iff_sample :
    ∃ m : ForgeStateMachine, m.history = [sampleEpoch, sampleEpoch] ∧ m.NamesConflict := by
  obtain ⟨m, _, history, refused⟩ := exists_machine (sampleWorld .development none)
    [sampleEpoch, sampleEpoch] refusal epochLineageConflict.error (by decide +kernel)
  refine ⟨m, history, (m.namesConflict_iff (of_refusal refused).1).mpr (Or.inl (.epochs ?_))⟩
  rw [history]
  decide +kernel

/-- Two dispositions of a candidate with evidence are refused with the remark on
that evidence. -/
theorem namesConflict_remark :
    ∃ m : ForgeStateMachine, m.projection.stage = .ambiguousHistory ∧ ¬m.NamesConflict := by
  obtain ⟨m, _, _, refused⟩ := exists_machine (sampleWorld .development none)
    [sampleEpoch, sampleCandidate, sampleResult, sampleDisposition, sampleDisposition] refusal
    comparabilityLimited.error (by decide +kernel)
  obtain ⟨stage, answered⟩ := of_refusal refused
  refine ⟨m, stage, fun names => ?_⟩
  obtain ⟨error, again, code, _⟩ := names (.reconciliation none) fun mode h => by cases h
  rw [answered] at again
  obtain rfl := Except.error.inj again
  revert code
  decide

end MncsForge.Lifecycle
