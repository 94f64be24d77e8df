import Mathlib
import MncsForge.Native.Core

/-!
# The native assurance kernel

`assurance.mncs` composes normalized provider facts into one bounded decision of the
development loop.  The envelope around it is a string of twenty-four bytes, one for
each fact.
-/

namespace MncsForge.Native.Assurance

/-! ## Facts and decisions -/

inductive LoopPhase where
  | initialVerification
  | afterRepair
  deriving DecidableEq, Repr

inductive LoopDecision where
  | stopPass
  | stopFail
  | stopUnknown
  | requestDiagnosis
  | requestRepair
  | requireReboundPlan
  | runSelectedVerification
  | requireFamilyProof
  | finalize
  deriving DecidableEq, Repr

inductive NextAction where
  | none
  | diagnose
  | repair
  | reboundPlan
  | selectedVerification
  | familyProof
  deriving DecidableEq, Repr

inductive StopReason where
  | none
  | initialPass
  | initialFail
  | initialEvidenceMissing
  | failingExecutionMissing
  | diagnosisMissing
  | diagnosisInsufficient
  | repairNotRequested
  | repairArgumentsIncomplete
  | repairInadmissible
  | planStale
  | sourceChangeMissing
  | reboundPlanMissing
  | reboundPlanStale
  | postRepairVerificationMissing
  | postRepairVerificationFail
  | postRepairVerificationUnknown
  | familyProofMissing
  | familyProofFail
  | familyProofUnknown
  | familyProofInsufficient
  | identityBindingInvalid
  | evidenceStale
  | providerEvidenceMissing
  | assuranceComplete
  | invalidInput
  deriving DecidableEq, Repr

structure ForgeEvidenceState where
  testStatus : Status
  postRepairTestStatus : Status
  debugStatus : Status
  familyProofStatus : Status
  testPresent : Bool
  failingExecutionPresent : Bool
  postRepairTestPresent : Bool
  familyProofPresent : Bool
  planPresent : Bool
  planCurrent : Bool
  repairRequested : Bool
  repairArgumentsComplete : Bool
  repairAdmissible : Bool
  sourceChanged : Bool
  reboundPlanPresent : Bool
  reboundPlanCurrent : Bool
  proofRequired : Bool
  proofSufficient : Bool
  identityBindingValid : Bool
  evidenceFresh : Bool
  providerEvidencePresent : Bool
  deriving DecidableEq, Repr

structure ForgeLoopInput where
  phase : LoopPhase
  evidence : ForgeEvidenceState
  valid : Bool
  deriving DecidableEq, Repr

structure ForgeLoopState where
  phase : LoopPhase
  status : Status
  decision : LoopDecision
  nextAction : NextAction
  stopReason : StopReason
  deriving DecidableEq, Repr

structure ForgeLoopDecision where
  state : ForgeLoopState
  status : Status
  decision : LoopDecision
  nextAction : NextAction
  stopReason : StopReason
  terminal : Bool
  valid : Bool
  deriving DecidableEq, Repr

/-! ## The status library -/

/-- The core library with the fourfold join of statuses. -/
structure AssuranceLibrary extends CoreLibrary where
  dominate4 (first second third fourth : Status) : Status

structure AssuranceLibrary.Documented (lib : AssuranceLibrary) : Prop where
  core : lib.toCoreLibrary.Documented
  dominate4_eq : ∀ s t u v,
    lib.dominate4 s t u v = dominant (dominant s t) (dominant u v)

def referenceLibrary : AssuranceLibrary where
  toCoreLibrary := referenceCore
  dominate4 s t u v := dominant (dominant s t) (dominant u v)

theorem referenceLibrary_documented : referenceLibrary.Documented where
  core := referenceCore_documented
  dominate4_eq _ _ _ _ := rfl

theorem dominant_eq_pass {s t : Status} : dominant s t = .pass ↔ s = .pass ∧ t = .pass := by
  cases s <;> cases t <;> decide

/-! ## The evidence status -/

def statusFromCode (value : UInt8) : Status :=
  if value = 0 then .pass
  else if value = 1 then .fail
  else .unknown

def statusCode : Status → UInt8
  | .pass => 0
  | .fail => 1
  | .unknown => 2

def boolFromCode (value : UInt8) : Bool :=
  value == 1

def statusCodeValid (value : UInt8) : Bool :=
  value ≤ 2

def boolCodeValid (value : UInt8) : Bool :=
  value ≤ 1

def phaseIsAfter : LoopPhase → Bool
  | .initialVerification => false
  | .afterRepair => true

section Decision

variable (lib : AssuranceLibrary)

def evidenceStatus (input : ForgeLoopInput) : Status :=
  let evidence := input.evidence
  let initial := lib.dominate evidence.testStatus
    (if evidence.testPresent then .pass else .unknown)
  let identity := if evidence.identityBindingValid then Status.pass else .unknown
  let freshness := if evidence.evidenceFresh then Status.pass else .unknown
  let provider := if evidence.providerEvidencePresent then Status.pass else .unknown
  let postStatus :=
    if lib.boolNot (phaseIsAfter input.phase) then Status.pass
    else if evidence.postRepairTestPresent then evidence.postRepairTestStatus
    else .unknown
  let planStatus :=
    if evidence.planPresent && lib.boolNot evidence.planCurrent then Status.unknown else .pass
  let reboundStatus :=
    if phaseIsAfter input.phase && evidence.planPresent &&
        lib.boolNot evidence.reboundPlanPresent then
      Status.unknown
    else if phaseIsAfter input.phase && evidence.planPresent &&
        lib.boolNot evidence.reboundPlanCurrent then
      .unknown
    else .pass
  let proof :=
    if lib.boolNot evidence.proofRequired then Status.pass
    else if evidence.familyProofPresent then evidence.familyProofStatus
    else .unknown
  lib.dominate4 (lib.dominate4 initial identity freshness provider) postStatus
    (lib.dominate proof planStatus) reboundStatus

/-! ## Decisions -/

def terminal (phase : LoopPhase) (status : Status) (decision : LoopDecision)
    (reason : StopReason) : ForgeLoopDecision where
  state := ⟨phase, status, decision, .none, reason⟩
  status := status
  decision := decision
  nextAction := .none
  stopReason := reason
  terminal := true
  valid := true

def action (phase : LoopPhase) (status : Status) (decision : LoopDecision)
    (nextAction : NextAction) (reason : StopReason) : ForgeLoopDecision where
  state := ⟨phase, status, decision, nextAction, reason⟩
  status := status
  decision := decision
  nextAction := nextAction
  stopReason := reason
  terminal := false
  valid := true

def invalid (input : ForgeLoopInput) : ForgeLoopDecision :=
  terminal input.phase .unknown .stopUnknown .invalidInput

/-- The branch of `initial_decision` for a failing test. -/
def failingDecision (input : ForgeLoopInput) : ForgeLoopDecision :=
  let evidence := input.evidence
  let status := evidenceStatus lib input
  if lib.boolNot evidence.failingExecutionPresent then
    terminal input.phase status .stopFail .failingExecutionMissing
  else if statusCode evidence.debugStatus ≠ 0 then
    action input.phase status .requestDiagnosis .diagnose
      (if statusCode evidence.debugStatus = 2 then .diagnosisMissing else .diagnosisInsufficient)
  else if lib.boolNot evidence.repairRequested then
    terminal input.phase status .stopFail .repairNotRequested
  else if lib.boolNot evidence.repairArgumentsComplete then
    terminal input.phase status .stopFail .repairArgumentsIncomplete
  else if lib.boolNot evidence.repairAdmissible then
    terminal input.phase status .stopFail .repairInadmissible
  else if lib.boolNot evidence.sourceChanged then
    action input.phase status .requestRepair .repair .none
  else terminal input.phase status .stopUnknown .sourceChangeMissing

/-- The family-proof branch that both phases end with. -/
def proofDecision (input : ForgeLoopInput) (established : ForgeLoopDecision) :
    ForgeLoopDecision :=
  let evidence := input.evidence
  let status := evidenceStatus lib input
  if evidence.proofRequired then
    if lib.boolNot evidence.familyProofPresent then
      action input.phase status .requireFamilyProof .familyProof .familyProofMissing
    else if statusCode evidence.familyProofStatus = 1 then
      terminal input.phase status .stopFail .familyProofFail
    else if statusCode evidence.familyProofStatus ≠ 0 || lib.boolNot evidence.proofSufficient then
      terminal input.phase status .stopUnknown
        (if statusCode evidence.familyProofStatus = 0 then .familyProofInsufficient
        else .familyProofUnknown)
    else established
  else established

def initialDecision (input : ForgeLoopInput) : ForgeLoopDecision :=
  let evidence := input.evidence
  let status := evidenceStatus lib input
  if lib.boolNot evidence.identityBindingValid then
    terminal input.phase status .stopUnknown .identityBindingInvalid
  else if lib.boolNot evidence.evidenceFresh then
    terminal input.phase status .stopUnknown .evidenceStale
  else if lib.boolNot evidence.providerEvidencePresent || lib.boolNot evidence.testPresent then
    terminal input.phase status .stopUnknown .providerEvidenceMissing
  else if statusCode evidence.testStatus = 1 then failingDecision lib input
  else if statusCode evidence.testStatus = 2 then
    terminal input.phase status .stopUnknown .initialEvidenceMissing
  else if evidence.planPresent && lib.boolNot evidence.planCurrent then
    terminal input.phase status .stopUnknown .planStale
  else proofDecision lib input (terminal input.phase status .stopPass .initialPass)

def afterRepairDecision (input : ForgeLoopInput) : ForgeLoopDecision :=
  let evidence := input.evidence
  let status := evidenceStatus lib input
  if lib.boolNot evidence.identityBindingValid then
    terminal input.phase status .stopUnknown .identityBindingInvalid
  else if lib.boolNot evidence.evidenceFresh then
    terminal input.phase status .stopUnknown .evidenceStale
  else if lib.boolNot evidence.sourceChanged then
    terminal input.phase status .stopUnknown .sourceChangeMissing
  else if evidence.planPresent && lib.boolNot evidence.reboundPlanPresent then
    action input.phase status .requireReboundPlan .reboundPlan .reboundPlanMissing
  else if evidence.planPresent && lib.boolNot evidence.reboundPlanCurrent then
    terminal input.phase status .stopUnknown .reboundPlanStale
  else if lib.boolNot evidence.postRepairTestPresent then
    action input.phase status .runSelectedVerification .selectedVerification
      .postRepairVerificationMissing
  else if statusCode evidence.postRepairTestStatus = 1 then
    terminal input.phase status .stopFail .postRepairVerificationFail
  else if statusCode evidence.postRepairTestStatus = 2 then
    terminal input.phase status .stopUnknown .postRepairVerificationUnknown
  -- here the status is PASS whatever `evidenceStatus` says
  else proofDecision lib input (terminal input.phase .pass .finalize .assuranceComplete)

/-- `decide` of `assurance.mncs`. -/
def ForgeLoopInput.decide (input : ForgeLoopInput) : ForgeLoopDecision :=
  if lib.boolNot input.valid then invalid input
  else
    match input.phase with
    | .initialVerification => initialDecision lib input
    | .afterRepair => afterRepairDecision lib input

end Decision

/-! ## The wire envelope -/

structure WireEnvelope where
  input : ForgeLoopInput
  valid : Bool

def phaseFromCode (value : UInt8) : LoopPhase :=
  if value = 1 then .afterRepair else .initialVerification

/-- A byte of an envelope of the right length. -/
def byteAt (data : List UInt8) (index : Nat) (default : UInt8) : UInt8 :=
  if data.length = 24 then data.getD index 0 else default

/-- The 24-byte envelope whose schema, phase, status and flag bytes are in range. -/
def envelopeValid (data : List UInt8) : Bool :=
  data.length == 24 &&
    (data.getD 0 0 == 70 && data.getD 1 0 == 1 && decide (data.getD 2 0 ≤ 1)) &&
    ((List.range 4).all fun index => statusCodeValid (data.getD (3 + index) 0)) &&
    ((List.range 17).all fun index => boolCodeValid (data.getD (7 + index) 0))

def decodeWire (data : List UInt8) : WireEnvelope :=
  let status (index : Nat) := statusFromCode (byteAt data index 2)
  let flag (index : Nat) := boolFromCode (byteAt data index 0)
  let evidence : ForgeEvidenceState :=
    { testStatus := status 3
      postRepairTestStatus := status 4
      debugStatus := status 5
      familyProofStatus := status 6
      testPresent := flag 7
      failingExecutionPresent := flag 8
      postRepairTestPresent := flag 9
      familyProofPresent := flag 10
      planPresent := flag 11
      planCurrent := flag 12
      repairRequested := flag 13
      repairArgumentsComplete := flag 14
      repairAdmissible := flag 15
      sourceChanged := flag 16
      reboundPlanPresent := flag 17
      reboundPlanCurrent := flag 18
      proofRequired := flag 19
      proofSufficient := flag 20
      identityBindingValid := flag 21
      evidenceFresh := flag 22
      providerEvidencePresent := flag 23 }
  let input : ForgeLoopInput :=
    ⟨phaseFromCode (byteAt data 2 0), evidence, envelopeValid data⟩
  ⟨input, envelopeValid data⟩

def decisionCode : LoopDecision → UInt8
  | .stopPass => 0
  | .stopFail => 1
  | .stopUnknown => 2
  | .requestDiagnosis => 3
  | .requestRepair => 4
  | .requireReboundPlan => 5
  | .runSelectedVerification => 6
  | .requireFamilyProof => 7
  | .finalize => 8

def nextActionCode : NextAction → UInt8
  | .none => 0
  | .diagnose => 1
  | .repair => 2
  | .reboundPlan => 3
  | .selectedVerification => 4
  | .familyProof => 5

def reasonCode : StopReason → UInt8
  | .none => 0
  | .initialPass => 1
  | .initialFail => 2
  | .initialEvidenceMissing => 3
  | .failingExecutionMissing => 4
  | .diagnosisMissing => 5
  | .diagnosisInsufficient => 6
  | .repairNotRequested => 7
  | .repairArgumentsIncomplete => 8
  | .repairInadmissible => 9
  | .planStale => 10
  | .sourceChangeMissing => 11
  | .reboundPlanMissing => 12
  | .reboundPlanStale => 13
  | .postRepairVerificationMissing => 14
  | .postRepairVerificationFail => 15
  | .postRepairVerificationUnknown => 16
  | .familyProofMissing => 17
  | .familyProofFail => 18
  | .familyProofUnknown => 19
  | .familyProofInsufficient => 20
  | .identityBindingInvalid => 21
  | .evidenceStale => 22
  | .providerEvidenceMissing => 23
  | .assuranceComplete => 24
  | .invalidInput => 25

def phaseCode : LoopPhase → UInt8
  | .initialVerification => 0
  | .afterRepair => 1

/-- Schema, status, decision, next action, stop reason and phase. -/
def encodeDecision (value : ForgeLoopDecision) : List UInt8 :=
  [1, statusCode value.status, decisionCode value.decision, nextActionCode value.nextAction,
    reasonCode value.stopReason, phaseCode value.state.phase]

def wireDecision (lib : AssuranceLibrary) (data : List UInt8) : List UInt8 :=
  encodeDecision ((decodeWire data).input.decide lib)

/-! ## What a PASS rests on -/

section Pass

variable {lib : AssuranceLibrary} {input : ForgeLoopInput}

@[simp] theorem statusCode_eq_zero {status : Status} : statusCode status = 0 ↔ status = .pass := by
  cases status <;> decide

@[simp] theorem statusCode_eq_one {status : Status} : statusCode status = 1 ↔ status = .fail := by
  cases status <;> decide

@[simp] theorem statusCode_eq_two {status : Status} :
    statusCode status = 2 ↔ status = .unknown := by
  cases status <;> decide

/-- A family proof, where one is required, is there with a PASS. -/
abbrev ProofPasses (evidence : ForgeEvidenceState) : Prop :=
  evidence.proofRequired = true →
    evidence.familyProofPresent = true ∧ evidence.familyProofStatus = .pass

/-- A plan, where there is one, was rebound to the repaired source. -/
abbrev PlanRebound (evidence : ForgeEvidenceState) : Prop :=
  evidence.planPresent = true →
    evidence.reboundPlanPresent = true ∧ evidence.reboundPlanCurrent = true

abbrev PostRepairPasses (evidence : ForgeEvidenceState) : Prop :=
  evidence.postRepairTestPresent = true ∧ evidence.postRepairTestStatus = .pass

/-- The facts whose join is the evidence status. -/
structure EvidencePasses (input : ForgeLoopInput) : Prop where
  test : input.evidence.testStatus = .pass ∧ input.evidence.testPresent = true
  identity : input.evidence.identityBindingValid = true
  fresh : input.evidence.evidenceFresh = true
  provider : input.evidence.providerEvidencePresent = true
  post : input.phase = .afterRepair → PostRepairPasses input.evidence
  plan : input.evidence.planPresent = true → input.evidence.planCurrent = true
  rebound : input.phase = .afterRepair → PlanRebound input.evidence
  proof : ProofPasses input.evidence

theorem phaseIsAfter_eq_true {phase : LoopPhase} :
    phaseIsAfter phase = true ↔ phase = .afterRepair := by
  cases phase <;> decide

theorem present_pass {present : Prop} [Decidable present] {status : Status} :
    (if present then status else .unknown) = .pass ↔ present ∧ status = .pass := by
  by_cases h : present <;> simp [h]

theorem absent_pass {absent : Prop} [Decidable absent] {status : Status} :
    (if absent then .unknown else status) = .pass ↔ ¬ absent ∧ status = .pass := by
  by_cases h : absent <;> simp [h]

theorem exempt_pass {exempt : Prop} [Decidable exempt] {status : Status} :
    (if exempt then .pass else status) = .pass ↔ (¬ exempt → status = .pass) := by
  by_cases h : exempt <;> simp [h]

theorem evidenceStatus_eq_pass (hlib : lib.Documented) :
    evidenceStatus lib input = .pass ↔ EvidencePasses input := by
  simp only [evidenceStatus, hlib.dominate4_eq, hlib.core.dominate_eq, hlib.core.boolNot_eq,
    dominant_eq_pass, present_pass, absent_pass, exempt_pass, Bool.and_eq_true,
    Bool.not_eq_true', phaseIsAfter_eq_true, ← Bool.not_eq_true, and_true, not_not]
  constructor
  · rintro ⟨⟨⟨⟨test, identity⟩, fresh, provider⟩, post⟩, ⟨proof, plan⟩, missing, outdated⟩
    refine ⟨test, identity, fresh, provider, post, fun h => ?_, fun hafter hplan => ?_, proof⟩
    · by_contra hcurrent
      exact plan ⟨h, hcurrent⟩
    · constructor <;> by_contra hrebound
      · exact missing ⟨⟨hafter, hplan⟩, hrebound⟩
      · exact outdated ⟨⟨hafter, hplan⟩, hrebound⟩
  · rintro ⟨test, identity, fresh, provider, post, plan, rebound, proof⟩
    refine ⟨⟨⟨⟨test, identity⟩, fresh, provider⟩, post⟩, ⟨proof, ?_⟩, ?_, ?_⟩
    · exact fun h => h.2 (plan h.1)
    · exact fun h => h.2 (rebound h.1.1 h.1.2).1
    · exact fun h => h.2 (rebound h.1.1 h.1.2).2

@[simp] theorem terminal_status {phase : LoopPhase} {status : Status}
    {decision : LoopDecision} {reason : StopReason} :
    (terminal phase status decision reason).status = status := rfl

@[simp] theorem action_status {phase : LoopPhase} {status : Status} {decision : LoopDecision}
    {nextAction : NextAction} {reason : StopReason} :
    (action phase status decision nextAction reason).status = status := rfl

theorem failingDecision_status :
    (failingDecision lib input).status = evidenceStatus lib input := by
  unfold failingDecision
  simp only
  split_ifs <;> rfl

theorem proofDecision_status_of_eq {established : ForgeLoopDecision}
    (h : established.status = evidenceStatus lib input) :
    (proofDecision lib input established).status = evidenceStatus lib input := by
  unfold proofDecision
  simp only
  split_ifs <;> first | exact h | rfl

/-- In the initial phase every branch reports the evidence status. -/
theorem initialDecision_status :
    (initialDecision lib input).status = evidenceStatus lib input := by
  unfold initialDecision
  simp only
  split_ifs
  all_goals first
    | exact failingDecision_status
    | exact proofDecision_status_of_eq rfl
    | rfl

/-- Everything the chain after a repair looks at is in order. -/
structure RepairChainPasses (evidence : ForgeEvidenceState) : Prop where
  identity : evidence.identityBindingValid = true
  fresh : evidence.evidenceFresh = true
  source : evidence.sourceChanged = true
  rebound : PlanRebound evidence
  post : PostRepairPasses evidence
  proof : ProofPasses evidence
  sufficient : evidence.proofRequired = true → evidence.proofSufficient = true

/-- The proof is accepted, or the evidence status is reported. -/
theorem proofDecision_status (hlib : lib.Documented) {established : ForgeLoopDecision} :
    (proofDecision lib input established).status =
      if ProofPasses input.evidence ∧
          (input.evidence.proofRequired = true → input.evidence.proofSufficient = true) then
        established.status
      else evidenceStatus lib input := by
  unfold proofDecision ProofPasses
  simp only [hlib.core.boolNot_eq, Bool.not_eq_true', statusCode_eq_one, statusCode_eq_zero,
    ne_eq, Bool.or_eq_true, decide_eq_true_eq]
  by_cases required : input.evidence.proofRequired = true
  · by_cases present : input.evidence.familyProofPresent = true
    · by_cases passed : input.evidence.familyProofStatus = .pass
      · by_cases sufficient : input.evidence.proofSufficient = true
        · simp [required, present, passed, sufficient]
        · simp [required, present, passed, sufficient]
      · simp only [required, present, passed]
        simp only [if_true, if_false, Bool.true_eq_false, not_false_eq_true, true_or, and_false,
          false_and, forall_const]
        split_ifs <;> rfl
    · simp [required, present]
  · simp [required]

/-- After a repair PASS is reported when the chain is in order, whatever the evidence
status is, and when the evidence status is PASS, wherever the chain stops. -/
theorem afterRepairDecision_status (hlib : lib.Documented) :
    (afterRepairDecision lib input).status = .pass ↔
      RepairChainPasses input.evidence ∨ evidenceStatus lib input = .pass := by
  unfold afterRepairDecision
  simp only [hlib.core.boolNot_eq, Bool.not_eq_true', Bool.and_eq_true, statusCode_eq_one,
    statusCode_eq_two]
  split_ifs with identity fresh source missing outdated post failed unknown
  · exact (or_iff_right fun h => by simp [h.identity] at identity).symm
  · exact (or_iff_right fun h => by simp [h.fresh] at fresh).symm
  · exact (or_iff_right fun h => by simp [h.source] at source).symm
  · exact (or_iff_right fun h => by simp [(h.rebound missing.1).1] at missing).symm
  · exact (or_iff_right fun h => by simp [(h.rebound outdated.1).2] at outdated).symm
  · exact (or_iff_right fun h => by simp [h.post.1] at post).symm
  · exact (or_iff_right fun h => by simp [h.post.2] at failed).symm
  · exact (or_iff_right fun h => by simp [h.post.2] at unknown).symm
  · have passed : input.evidence.postRepairTestStatus = .pass := by
      cases hstatus : input.evidence.postRepairTestStatus with
      | pass => rfl
      | fail => exact absurd hstatus failed
      | unknown => exact absurd hstatus unknown
    rw [Bool.not_eq_false] at identity fresh source post
    have rebound : PlanRebound input.evidence := fun h =>
      ⟨Bool.not_eq_false _ ▸ fun hr => missing ⟨h, hr⟩,
        Bool.not_eq_false _ ▸ fun hr => outdated ⟨h, hr⟩⟩
    rw [proofDecision_status hlib]
    split_ifs with proof
    · exact iff_of_true rfl
        (Or.inl ⟨identity, fresh, source, rebound, ⟨post, passed⟩, proof.1, proof.2⟩)
    · exact (or_iff_right fun h => proof ⟨h.proof, h.sufficient⟩).symm

/-! ### The claim of a PASS -/

/-- What a reported PASS is to stand for. -/
structure Substantiated (input : ForgeLoopInput) : Prop where
  identity : input.evidence.identityBindingValid = true
  fresh : input.evidence.evidenceFresh = true
  provider : input.evidence.providerEvidencePresent = true
  test : input.phase = .initialVerification →
    input.evidence.testPresent = true ∧ input.evidence.testStatus = .pass
  post : input.phase = .afterRepair → PostRepairPasses input.evidence
  plan : input.phase = .initialVerification →
    input.evidence.planPresent = true → input.evidence.planCurrent = true
  rebound : input.phase = .afterRepair → PlanRebound input.evidence
  proof : ProofPasses input.evidence
  sufficient : input.evidence.proofRequired = true → input.evidence.proofSufficient = true

/-- A well-formed envelope: twenty-four bytes, each in the range of its field. -/
structure WellFormedEnvelope (data : List UInt8) : Prop where
  length : data.length = 24
  schema : data.getD 0 0 = 70 ∧ data.getD 1 0 = 1
  phase : data.getD 2 0 ≤ 1
  statuses : ∀ index, 3 ≤ index → index < 7 → data.getD index 0 ≤ 2
  flags : ∀ index, 7 ≤ index → index < 24 → data.getD index 0 ≤ 1

theorem envelopeValid_iff {data : List UInt8} :
    envelopeValid data = true ↔ WellFormedEnvelope data := by
  simp only [envelopeValid, Bool.and_eq_true, beq_iff_eq, decide_eq_true_eq, List.all_eq_true,
    List.mem_range, statusCodeValid, boolCodeValid]
  constructor
  · rintro ⟨⟨⟨length, ⟨schema, version⟩, phase⟩, statuses⟩, flags⟩
    refine ⟨length, ⟨schema, version⟩, phase, fun index low high => ?_, fun index low high => ?_⟩
    · have := statuses (index - 3) (by omega)
      rwa [Nat.add_sub_cancel' low] at this
    · have := flags (index - 7) (by omega)
      rwa [Nat.add_sub_cancel' low] at this
  · rintro ⟨length, ⟨schema, version⟩, phase, statuses, flags⟩
    exact ⟨⟨⟨length, ⟨schema, version⟩, phase⟩, fun index h => statuses _ (by omega) (by omega)⟩,
      fun index h => flags _ (by omega) (by omega)⟩

/-- Every other fact passes, and the required family proof passes but is insufficient. -/
def InsufficientProof (input : ForgeLoopInput) : Prop :=
  EvidencePasses input ∧ input.evidence.proofRequired = true ∧
    input.evidence.proofSufficient = false

/-- After a repair, the chain is in order but no provider evidence is there. -/
def UnsupportedRepair (input : ForgeLoopInput) : Prop :=
  input.phase = .afterRepair ∧ RepairChainPasses input.evidence ∧
    input.evidence.providerEvidencePresent = false

theorem decide_status (hlib : lib.Documented) :
    (input.decide lib).status = .pass ↔
      input.valid = true ∧ (EvidencePasses input ∨
        (input.phase = .afterRepair ∧ RepairChainPasses input.evidence)) := by
  unfold ForgeLoopInput.decide
  rw [hlib.core.boolNot_eq]
  cases hvalid : input.valid with
  | false => simp [invalid]
  | true =>
      cases hphase : input.phase with
      | initialVerification =>
          simp [initialDecision_status, evidenceStatus_eq_pass hlib]
      | afterRepair =>
          simp [afterRepairDecision_status hlib, evidenceStatus_eq_pass hlib, or_comm]

theorem substantiated_of_evidence (h : EvidencePasses input)
    (sufficient : input.evidence.proofRequired = true → input.evidence.proofSufficient = true) :
    Substantiated input where
  identity := h.identity
  fresh := h.fresh
  provider := h.provider
  test := fun _ => h.test.symm
  post := h.post
  plan := fun _ => h.plan
  rebound := h.rebound
  proof := h.proof
  sufficient := sufficient

theorem substantiated_of_repair (hphase : input.phase = .afterRepair)
    (h : RepairChainPasses input.evidence)
    (provider : input.evidence.providerEvidencePresent = true) : Substantiated input where
  identity := h.identity
  fresh := h.fresh
  provider := provider
  test := fun hinitial => by rw [hphase] at hinitial; cases hinitial
  post := fun _ => h.post
  plan := fun hinitial => by rw [hphase] at hinitial; cases hinitial
  rebound := fun _ => h.rebound
  proof := h.proof
  sufficient := h.sufficient

/-- A reported PASS stands for a well-formed and substantiated envelope except for an
insufficient family proof, and for a repair without provider evidence. -/
theorem wireDecision_pass_substantiated (hlib : lib.Documented) (data : List UInt8) :
    ((wireDecision lib data).getD 1 0 = 0 →
        WellFormedEnvelope data ∧ Substantiated (decodeWire data).input) ↔
      (WellFormedEnvelope data →
        ¬ InsufficientProof (decodeWire data).input ∧
          ¬ UnsupportedRepair (decodeWire data).input) := by
  have status : (wireDecision lib data).getD 1 0 = 0 ↔
      WellFormedEnvelope data ∧ (EvidencePasses (decodeWire data).input ∨
        ((decodeWire data).input.phase = .afterRepair ∧
          RepairChainPasses (decodeWire data).input.evidence)) := by
    rw [← envelopeValid_iff]
    exact statusCode_eq_zero.trans (decide_status hlib)
  rw [status]
  constructor
  · intro promised formed
    constructor
    · rintro ⟨evidence, required, insufficient⟩
      have := (promised ⟨formed, Or.inl evidence⟩).2.sufficient required
      rw [insufficient] at this
      cases this
    · rintro ⟨phase, chain, unsupported⟩
      have := (promised ⟨formed, Or.inr ⟨phase, chain⟩⟩).2.provider
      rw [unsupported] at this
      cases this
  · rintro kept ⟨formed, hpass⟩
    obtain ⟨sufficient, supported⟩ := kept formed
    refine ⟨formed, ?_⟩
    rcases hpass with evidence | ⟨phase, chain⟩
    · refine substantiated_of_evidence evidence fun required => ?_
      by_contra insufficient
      exact sufficient ⟨evidence, required, Bool.not_eq_true _ ▸ insufficient⟩
    · refine substantiated_of_repair phase chain ?_
      by_contra unsupported
      exact supported ⟨phase, chain, Bool.not_eq_true _ ▸ unsupported⟩

/-- A passing test with a sufficient family proof, before any repair. -/
def provedEnvelope : List UInt8 :=
  [70, 1, 0, 0, 2, 2, 0, 1, 0, 0, 1, 1, 1, 0, 0, 0, 0, 0, 0, 1, 1, 1, 1, 1]

theorem wireDecision_pass_substantiated_proved :
    (wireDecision referenceLibrary provedEnvelope).getD 1 0 = 0 ∧
      WellFormedEnvelope provedEnvelope ∧ Substantiated (decodeWire provedEnvelope).input := by
  have passes : (wireDecision referenceLibrary provedEnvelope).getD 1 0 = 0 := by decide
  refine ⟨passes, (wireDecision_pass_substantiated referenceLibrary_documented
    provedEnvelope).mpr (fun _ => ⟨?_, ?_⟩) passes⟩
  · exact fun h => absurd h.2.2 (by decide)
  · exact fun h => absurd h.1 (by decide)

/-- A repair whose selected test passes, with no provider evidence. -/
def unsupportedEnvelope : List UInt8 :=
  [70, 1, 1, 1, 0, 0, 2, 1, 1, 1, 0, 0, 0, 1, 1, 1, 1, 0, 0, 0, 0, 1, 1, 0]

/-- A passing test whose required family proof is not sufficient. -/
def insufficientEnvelope : List UInt8 :=
  [70, 1, 0, 0, 2, 2, 0, 1, 0, 0, 1, 0, 0, 0, 0, 0, 0, 0, 0, 1, 0, 1, 1, 1]

/-- Both envelopes are reported as PASS. -/
theorem wireDecision_pass_unsubstantiated :
    ((wireDecision referenceLibrary unsupportedEnvelope).getD 1 0 = 0 ∧
      WellFormedEnvelope unsupportedEnvelope ∧
      ¬ Substantiated (decodeWire unsupportedEnvelope).input) ∧
    ((wireDecision referenceLibrary insufficientEnvelope).getD 1 0 = 0 ∧
      WellFormedEnvelope insufficientEnvelope ∧
      ¬ Substantiated (decodeWire insufficientEnvelope).input) := by
  refine ⟨⟨by decide, envelopeValid_iff.mp (by decide), fun h => ?_⟩,
    by decide, envelopeValid_iff.mp (by decide), fun h => ?_⟩
  · exact absurd h.provider (by decide)
  · exact absurd (h.sufficient (by decide)) (by decide)

end Pass

end MncsForge.Native.Assurance
