import Mathlib
import MncsForge.Errors
import MncsForge.Native.Adapter
import MncsForge.Native.Continuous
import MncsForge.Native.ResourceOutcome

/-!
# Verification sets of the native core

How many verifiers of one trigger are admitted, which cost tiers are admitted,
and what the statuses of one bounded verification set come to, in the core and
behind the checks of the adapter.
-/

namespace MncsForge.Native.Continuous

open MncsForge.Native.Resources (IsI64)

structure VerificationQueueDecision where
  selectedCount : Int
  deferredCount : Int
  valid : Bool
  deriving DecidableEq, Repr

def verificationQueueAdmit (totalCount : Int) : VerificationQueueDecision :=
  if totalCount < 0 then ⟨0, 0, false⟩
  else
    let selected := min totalCount 16
    ⟨selected, totalCount - selected, true⟩

/-- Cost tiers are low=0, medium=1 and high=2. -/
def verificationCostAdmit (verifierTier maximumTier : Int) : Bool :=
  if verifierTier < 0 ∨ verifierTier > 2 then false
  else if maximumTier < 0 ∨ maximumTier > 2 then false
  else decide (verifierTier ≤ maximumTier)

structure VerificationStatusSet where
  statuses : List Status
  statusCount : Nat
  unresolvedCount : Int

structure VerificationStatusDecision where
  status : Status
  staleObserved : Bool
  escalationRequired : Bool
  deriving DecidableEq, Repr

def verificationStatusIsPass : Status → Bool
  | .unknown => false
  | .pass => true
  | .fail => false

theorem verificationStatusIsPass_iff {status : Status} :
    verificationStatusIsPass status = true ↔ status = .pass := by
  cases status <;> simp [verificationStatusIsPass]

section Kernel

variable (core : CoreLibrary)

def verificationStatusAggregate (input : VerificationStatusSet) : Status :=
  if input.unresolvedCount < 0 then .unknown
  else
    let summary := core.summarizePrefix input.statuses input.statusCount
    if !summary.valid then .unknown
    else if input.unresolvedCount > 0 then core.dominate summary.status .unknown
    else summary.status

def verificationStatusDecide (input : VerificationStatusSet)
    (staleObserved verificationRequired : Bool) : VerificationStatusDecision :=
  let aggregate := verificationStatusAggregate core input
  let nonempty := decide (input.statusCount > 0) || decide (input.unresolvedCount > 0)
  if verificationRequired && !nonempty then ⟨.unknown, staleObserved, true⟩
  else if staleObserved && verificationStatusIsPass aggregate then ⟨.unknown, true, true⟩
  else if !verificationRequired && !nonempty then ⟨.pass, false, false⟩
  else ⟨aggregate, staleObserved, !verificationStatusIsPass aggregate⟩

variable {core}

/-- Nothing but passes makes a nonempty set pass. -/
theorem verificationStatusAggregate_pass (documented : core.Documented)
    {active : List Status} {padding : List Status} {unresolved : Int}
    (nonempty : active ≠ [] ∨ 0 < unresolved) :
    verificationStatusAggregate core ⟨active ++ padding, active.length, unresolved⟩ = .pass ↔
      unresolved = 0 ∧ ∀ status ∈ active, status = .pass := by
  have counts := documented.summarizePrefix_counts (active ++ padding) active.length
  have valid : (core.summarizePrefix (active ++ padding) active.length).valid = true := by
    have := congrArg StatusCounts.valid counts
    simpa [prefixSummary] using this
  simp only [verificationStatusAggregate, valid, Bool.not_true, Bool.false_eq_true, if_false]
  by_cases negative : unresolved < 0
  · rw [if_pos negative]
    simp [negative.ne]
  · rw [if_neg negative]
    by_cases positive : unresolved > 0
    · rw [if_pos positive, documented.dominate_eq]
      have never : dominant (core.summarizePrefix (active ++ padding) active.length).status
          .unknown ≠ .pass := by
        generalize (core.summarizePrefix (active ++ padding) active.length).status = status
        cases status <;> simp [dominant]
      simp [never, positive.ne']
    · rw [if_neg positive]
      have zero : unresolved = 0 := by omega
      have some : active ≠ [] := nonempty.resolve_right (by omega)
      rw [documented.summarizePrefix_status _ _ (List.length_pos_iff.mpr some) (by simp),
        List.take_left, joinedStatus_eq]
      simp only [zero, true_and]
      by_cases failing : .fail ∈ active
      · rw [if_pos failing]
        exact iff_of_false (by simp) fun all => by simpa using all _ failing
      · rw [if_neg failing]
        by_cases missing : active = [] ∨ .unknown ∈ active
        · rw [if_pos missing]
          refine iff_of_false (by simp) fun all => ?_
          simpa using all _ (missing.resolve_left some)
        · rw [if_neg missing]
          refine iff_of_true rfl fun status member => ?_
          cases status with
          | pass => rfl
          | fail => exact absurd member failing
          | unknown => exact absurd (Or.inr member) missing

/-- What the decision does not pass has to be escalated. -/
theorem verificationStatusDecide_escalation (input : VerificationStatusSet)
    (staleObserved verificationRequired : Bool) :
    (verificationStatusDecide core input staleObserved verificationRequired).escalationRequired =
      !verificationStatusIsPass
        (verificationStatusDecide core input staleObserved verificationRequired).status := by
  simp only [verificationStatusDecide]
  split_ifs <;> rfl

/-- A set passes when nothing is required of it and it is empty, or when each of
its statuses passes, nothing is unresolved and nothing was stale. -/
theorem verificationStatusDecide_pass (documented : core.Documented)
    {active padding : List Status} {unresolved : Int} {staleObserved verificationRequired : Bool}
    (stale : staleObserved = true → active ≠ []) :
    (verificationStatusDecide core ⟨active ++ padding, active.length, unresolved⟩ staleObserved
      verificationRequired).status = .pass ↔
        (active = [] ∧ unresolved ≤ 0 ∧ verificationRequired = false) ∨
          (active ≠ [] ∧ unresolved = 0 ∧ staleObserved = false ∧
            ∀ status ∈ active, status = .pass) := by
  by_cases nonempty : active ≠ [] ∨ 0 < unresolved
  · have aggregate :=
      @verificationStatusAggregate_pass core documented active padding unresolved nonempty
    have counted : (decide (active.length > 0) || decide (unresolved > 0)) = true := by
      rcases nonempty with some | positive
      · simp [List.length_pos_iff.mpr some]
      · simp [positive]
    simp only [verificationStatusDecide, counted, Bool.not_true, Bool.and_false,
      Bool.false_eq_true, if_false]
    rcases nonempty with some | positive
    · cases staleObserved with
      | false => simp [aggregate, some]
      | true =>
          by_cases passes : verificationStatusAggregate core
              ⟨active ++ padding, active.length, unresolved⟩ = .pass
          · simp [passes, verificationStatusIsPass, some]
          · have : verificationStatusIsPass (verificationStatusAggregate core
                ⟨active ++ padding, active.length, unresolved⟩) = false := by
              rw [← Bool.not_eq_true, verificationStatusIsPass_iff]
              exact passes
            simp [this, passes, some]
    · have never : verificationStatusAggregate core
          ⟨active ++ padding, active.length, unresolved⟩ ≠ .pass := by
        rw [Ne, aggregate]
        omega
      have : verificationStatusIsPass (verificationStatusAggregate core
          ⟨active ++ padding, active.length, unresolved⟩) = false := by
        rw [← Bool.not_eq_true, verificationStatusIsPass_iff]
        exact never
      simp [this, never, positive.ne', not_le.mpr positive]
  · obtain ⟨empty, low⟩ := not_or.mp nonempty
    have empty := not_not.mp empty
    subst empty
    have fresh : staleObserved = false := by
      rw [← Bool.not_eq_true]
      exact fun h => stale h rfl
    cases verificationRequired <;>
      simp [verificationStatusDecide, fresh, not_lt.mp low]

/-! ### What a decision may not promise -/

/-- Both counts of the set can be read. -/
def VerificationStatusSet.Valid (core : CoreLibrary) (input : VerificationStatusSet) : Prop :=
  0 ≤ input.unresolvedCount ∧
    (core.summarizePrefix input.statuses input.statusCount).valid = true

/-- Nothing stale, unresolved or unreadable passes, a stale flag stays, and what
does not pass is escalated. -/
structure SafeDecision (core : CoreLibrary) (input : VerificationStatusSet)
    (staleObserved verificationRequired : Bool) : Prop where
  fresh : (verificationStatusDecide core input staleObserved verificationRequired).status =
    .pass → staleObserved = false
  resolved : (verificationStatusDecide core input staleObserved verificationRequired).status =
    .pass → input.unresolvedCount = 0
  valid : (verificationStatusDecide core input staleObserved verificationRequired).status =
    .pass → input.Valid core
  flag : staleObserved = true →
    (verificationStatusDecide core input staleObserved verificationRequired).staleObserved = true
  escalated :
    (verificationStatusDecide core input staleObserved verificationRequired).escalationRequired =
      true ↔
    (verificationStatusDecide core input staleObserved verificationRequired).status ≠ .pass

/-- Only a readable set without unresolved obligations aggregates to a pass. -/
theorem valid_of_aggregate_pass (documented : core.Documented) {input : VerificationStatusSet}
    (h : verificationStatusAggregate core input = .pass) :
    input.Valid core ∧ input.unresolvedCount = 0 := by
  unfold verificationStatusAggregate at h
  by_cases negative : input.unresolvedCount < 0
  · simp [negative] at h
  · rw [if_neg negative] at h
    cases valid : (core.summarizePrefix input.statuses input.statusCount).valid with
    | false => simp [valid] at h
    | true =>
        refine ⟨⟨by omega, valid⟩, ?_⟩
        by_contra nonzero
        have positive : input.unresolvedCount > 0 := by omega
        simp only [valid, positive, documented.dominate_eq, Bool.not_true, Bool.false_eq_true,
          if_false, if_true] at h
        revert h
        cases (core.summarizePrefix input.statuses input.statusCount).status <;>
          simp [dominant]

/-- An empty set does not aggregate to a pass. -/
theorem aggregate_empty
    (empty : ∀ statuses, (core.summarizePrefix statuses 0).status = .unknown)
    (documented : core.Documented) {input : VerificationStatusSet}
    (count : input.statusCount = 0) : verificationStatusAggregate core input ≠ .pass := by
  intro h
  obtain ⟨⟨low, valid⟩, zero⟩ := valid_of_aggregate_pass documented h
  simp only [verificationStatusAggregate, count, zero] at h valid
  simp [valid, empty] at h

/-- The branch of the empty set that nothing is required of. -/
theorem verificationStatusDecide_empty
    (empty : ∀ statuses, (core.summarizePrefix statuses 0).status = .unknown)
    (documented : core.Documented) {input : VerificationStatusSet} (staleObserved : Bool)
    (count : input.statusCount = 0) (unresolved : input.unresolvedCount ≤ 0) :
    verificationStatusDecide core input staleObserved false = ⟨.pass, false, false⟩ := by
  have never : verificationStatusIsPass (verificationStatusAggregate core input) = false := by
    rw [← Bool.not_eq_true, verificationStatusIsPass_iff]
    exact aggregate_empty empty documented count
  simp [verificationStatusDecide, never, count, not_lt.mpr unresolved]

/-- A decision is safe unless nothing is required of an empty set that has a
stale flag or a negative count. -/
theorem safeDecision_iff
    (empty : ∀ statuses, (core.summarizePrefix statuses 0).status = .unknown)
    (documented : core.Documented) (input : VerificationStatusSet)
    (staleObserved verificationRequired : Bool) :
    SafeDecision core input staleObserved verificationRequired ↔
      ¬(verificationRequired = false ∧ input.statusCount = 0 ∧
        (input.unresolvedCount < 0 ∨ input.unresolvedCount = 0 ∧ staleObserved = true)) := by
  constructor
  · rintro safe ⟨rfl, count, odd⟩
    have decided := @verificationStatusDecide_empty core empty documented input staleObserved
      count (by omega)
    have passes : (verificationStatusDecide core input staleObserved false).status = .pass := by
      rw [decided]
    rcases odd with negative | ⟨_, stale⟩
    · have := safe.resolved passes
      omega
    · simp [safe.fresh passes] at stale
  · intro plain
    have escalated : (verificationStatusDecide core input staleObserved
          verificationRequired).escalationRequired = true ↔
        (verificationStatusDecide core input staleObserved verificationRequired).status ≠
          .pass := by
      rw [verificationStatusDecide_escalation, Bool.not_eq_true', ← Bool.not_eq_true,
        verificationStatusIsPass_iff]
    suffices h : ((verificationStatusDecide core input staleObserved
          verificationRequired).status = .pass →
        staleObserved = false ∧ input.unresolvedCount = 0 ∧ input.Valid core) ∧
        (staleObserved = true → (verificationStatusDecide core input staleObserved
          verificationRequired).staleObserved = true) from
      ⟨fun pass => (h.1 pass).1, fun pass => (h.1 pass).2.1, fun pass => (h.1 pass).2.2, h.2,
        escalated⟩
    simp only [verificationStatusDecide]
    split_ifs with required stale free
    · simp
    · simp
    · -- an empty set that nothing is required of is neither stale nor negative
      obtain ⟨optional, count, unresolved⟩ : verificationRequired = false ∧
          input.statusCount = 0 ∧ input.unresolvedCount ≤ 0 := by
        simpa [and_assoc] using free
      have quiet : ¬(input.unresolvedCount < 0 ∨
          input.unresolvedCount = 0 ∧ staleObserved = true) :=
        fun odd => plain ⟨optional, count, odd⟩
      have zero : input.unresolvedCount = 0 := by omega
      have fresh : staleObserved = false := by
        rw [← Bool.not_eq_true]
        exact fun stale => quiet (Or.inr ⟨zero, stale⟩)
      have valid : (core.summarizePrefix input.statuses input.statusCount).valid = true := by
        have := congrArg StatusCounts.valid
          (documented.summarizePrefix_counts input.statuses input.statusCount)
        simpa [prefixSummary, count] using this
      exact ⟨fun _ => ⟨fresh, zero, zero.ge, valid⟩, by simp [fresh]⟩
    · refine ⟨fun passes => ?_, id⟩
      obtain ⟨valid, zero⟩ := valid_of_aggregate_pass documented passes
      refine ⟨?_, zero, valid⟩
      simpa [verificationStatusIsPass_iff.mpr passes] using stale

end Kernel

theorem safeDecision_sample :
    SafeDecision referenceCore ⟨List.replicate 16 .pass, 0, 0⟩ false false :=
  (safeDecision_iff (fun _ => rfl) referenceCore_documented
    ⟨List.replicate 16 .pass, 0, 0⟩ false false).mpr (by decide)

/-- The flag of an empty set is cleared, and the set passes. -/
theorem stale_flag_cleared :
    ¬SafeDecision referenceCore ⟨List.replicate 16 .pass, 0, 0⟩ true false := by
  intro safe
  have := safe.fresh (by decide)
  contradiction

end MncsForge.Native.Continuous

namespace MncsForge.Native.NativeForgeAdapter

open MncsForge.Native.Continuous
open MncsForge.Native.Resources (IsI64 IsCounter)

/-! ## Behind the adapter -/

/-- The names of the tiers; anything else is sent as -1. -/
def verificationCostTier (cost : String) : Int :=
  if cost = "low" then 0 else if cost = "medium" then 1 else if cost = "high" then 2 else -1

def verificationCostAdmit (verifierCost : Option String) (maximumCost : String) : Bool :=
  Continuous.verificationCostAdmit ((verifierCost.map verificationCostTier).getD (-1))
    (verificationCostTier maximumCost)

def verificationQueueAdmit (totalCount : Int) : Except ForgeError (Int × Int) := do
  refuseIf (¬IsI64 totalCount) "NATIVE_CONTINUOUS_INPUT"
    "verifier count is outside the i64 ABI"
  let decision := Continuous.verificationQueueAdmit totalCount
  refuseIf (decision.valid = false) "NATIVE_CONTINUOUS_INPUT"
    "native queue admission rejected the count"
  refuseIf
    (decision.selectedCount < 0 ∨ decision.deferredCount < 0 ∨
      decision.selectedCount + decision.deferredCount ≠ totalCount)
    "NATIVE_ABI_MISMATCH" "native queue admission counts do not balance"
  .ok (decision.selectedCount, decision.deferredCount)

/-- A resource outcome by the name of its variant. -/
def resourceOutcomeStatus? (name : String) : Option ResourceOutcomeStatus :=
  if name = "Pass" then some .pass
  else if name = "Fail" then some .fail
  else if name = "ResourceLimit" then some .resourceLimit
  else if name = "ResourcePressure" then some .resourcePressure
  else if name = "Timeout" then some .timeout
  else if name = "OutputLimit" then some .outputLimit
  else if name = "Unknown" then some .unknown
  else if name = "CleanupFailure" then some .cleanupFailure
  else if name = "Cancelled" then some .cancelled
  else if name = "Stale" then some .stale
  else none

def integerValue (key : String) (value : Int) : Except ForgeError Unit :=
  refuseIf (¬IsI64 value) "NATIVE_CONTINUOUS_INPUT" s!"{key} must be an i64"

def resourceOutcomeValue (name : String) : Except ForgeError ResourceOutcomeStatus :=
  match resourceOutcomeStatus? name with
  | some status => .ok status
  | none => .error ⟨"NATIVE_ABI_UNKNOWN", s!"outcome variant '{name}' is absent"⟩

/-- The outcome comes by name and takes its place in the state. -/
def verificationResourceTransition (state : ContinuousResourceState) (outcome : String) :
    Except ForgeError VerificationResourceTransition := do
  integerValue "current_generation" state.currentGeneration
  integerValue "work_generation" state.workGeneration
  let outcome ← resourceOutcomeValue outcome
  integerValue "pending_count" state.pendingCount
  integerValue "pending_capacity" state.pendingCapacity
  integerValue "queue_remaining" state.queueRemaining
  .ok (Continuous.verificationResourceTransition { state with outcome := outcome })

def normalizedVerificationStatus (status : String) : Except ForgeError Status :=
  if status = "STALE" then .ok .unknown
  else
    match Status.ofString? status with
    | some status => .ok status
    | none => .error ⟨"NATIVE_CONTINUOUS_INPUT", "status set contains an invalid status"⟩

def verificationStatusDecide (native : NativeForgeAdapter) (statuses : List String)
    (verificationRequired : Bool) (unresolvedCount : Int) :
    Except ForgeError VerificationStatusDecision := do
  refuseIf (16 < statuses.length) "NATIVE_CONTINUOUS_INPUT"
    "status set exceeds the 16-result bound"
  refuseIf (¬IsCounter unresolvedCount) "NATIVE_CONTINUOUS_INPUT"
    "unresolved obligation count is outside the i64 bound"
  let normalized ← statuses.mapM normalizedVerificationStatus
  .ok
    (Continuous.verificationStatusDecide native.core
      ⟨normalized ++ List.replicate (16 - normalized.length) .pass, normalized.length,
        unresolvedCount⟩
      (decide ("STALE" ∈ statuses)) verificationRequired)

theorem verificationResourceTransition_eq_ok {state : ContinuousResourceState} {outcome : String}
    {transition : VerificationResourceTransition}
    (h : verificationResourceTransition state outcome = .ok transition) :
    ∃ status, resourceOutcomeValue outcome = .ok status ∧
      transition = Continuous.verificationResourceTransition { state with outcome := status } := by
  obtain ⟨_, _, h⟩ := bind_eq_ok.mp h
  obtain ⟨_, _, h⟩ := bind_eq_ok.mp h
  obtain ⟨status, found, h⟩ := bind_eq_ok.mp h
  obtain ⟨_, _, h⟩ := bind_eq_ok.mp h
  obtain ⟨_, _, h⟩ := bind_eq_ok.mp h
  obtain ⟨_, _, h⟩ := bind_eq_ok.mp h
  exact ⟨status, found, (Except.ok.inj h).symm⟩

theorem verificationResourceTransition_of_bounds {state : ContinuousResourceState}
    {outcome : String} {status : ResourceOutcomeStatus}
    (current : IsI64 state.currentGeneration) (work : IsI64 state.workGeneration)
    (named : resourceOutcomeValue outcome = .ok status) (count : IsI64 state.pendingCount)
    (capacity : IsI64 state.pendingCapacity) (remaining : IsI64 state.queueRemaining) :
    verificationResourceTransition state outcome =
      .ok (Continuous.verificationResourceTransition { state with outcome := status }) := by
  have bound : ∀ {key : String} {value : Int}, IsI64 value → integerValue key value = .ok () :=
    fun h => refuseIf_eq_ok.mpr (not_not.mpr h)
  rw [verificationResourceTransition, bound current, bound work, named, bound count,
    bound capacity, bound remaining]
  rfl

theorem verificationQueueAdmit_eq_ok {total : Int} {selected deferred : Int}
    (h : verificationQueueAdmit total = .ok (selected, deferred)) :
    0 ≤ selected ∧ 0 ≤ deferred ∧ selected + deferred = total := by
  obtain ⟨_, h⟩ := refuseIf_bind_eq_ok.mp h
  obtain ⟨_, h⟩ := refuseIf_bind_eq_ok.mp h
  obtain ⟨balanced, h⟩ := refuseIf_bind_eq_ok.mp h
  obtain ⟨rfl, rfl⟩ := Prod.mk.inj (Except.ok.inj h)
  omega

theorem normalizedVerificationStatus_eq_ok {text : String} {status : Status} :
    normalizedVerificationStatus text = .ok status ↔
      (text = "STALE" ∧ status = .unknown) ∨ text = status.value := by
  unfold normalizedVerificationStatus
  by_cases stale : text = "STALE"
  · subst stale
    cases status <;> simp [Status.value]
  · rw [if_neg stale]
    cases named : Status.ofString? text with
    | none =>
        simp only [reduceCtorEq, stale, false_and, false_or, false_iff]
        rintro rfl
        simp at named
    | some found =>
        have value := Status.eq_value_of_ofString? named
        subst value
        simp only [Except.ok.injEq, stale, false_and, false_or]
        exact Status.value_injective.eq_iff.symm

theorem mapM_normalized_eq_ok {statuses : List String} {normalized : List Status}
    (h : statuses.mapM normalizedVerificationStatus = .ok normalized) :
    normalized.length = statuses.length ∧
      ((∀ status ∈ normalized, status = .pass) ↔ ∀ status ∈ statuses, status = "PASS") := by
  induction statuses generalizing normalized with
  | nil =>
      obtain rfl := Except.ok.inj h
      simp
  | cons text statuses ih =>
      rw [List.mapM_cons] at h
      obtain ⟨status, first, h⟩ := bind_eq_ok.mp h
      obtain ⟨rest, others, h⟩ := bind_eq_ok.mp h
      obtain rfl := Except.ok.inj h
      obtain ⟨length, passes⟩ := ih others
      have here : status = .pass ↔ text = "PASS" := by
        rcases normalizedVerificationStatus_eq_ok.mp first with ⟨rfl, rfl⟩ | rfl
        · simp
        · cases status <;> simp [Status.value]
      simp [length, here, passes]

theorem mapM_normalized_of_pass {statuses : List String}
    (h : ∀ status ∈ statuses, status = "PASS") :
    statuses.mapM normalizedVerificationStatus =
      .ok (List.replicate statuses.length Status.pass) := by
  induction statuses with
  | nil => rfl
  | cons text statuses ih =>
      obtain ⟨rfl, rest⟩ := List.forall_mem_cons.mp h
      rw [List.mapM_cons, ih rest]
      rfl

/-- Passing statuses are decided, as long as they fit. -/
theorem verificationStatusDecide_of_pass (native : NativeForgeAdapter) {statuses : List String}
    (room : statuses.length ≤ 16) (h : ∀ status ∈ statuses, status = "PASS")
    (verificationRequired : Bool) :
    ∃ decision, native.verificationStatusDecide statuses verificationRequired 0 =
      .ok decision := by
  have fits : ¬16 < statuses.length := by omega
  have counter : ¬¬IsCounter 0 := by decide
  rw [verificationStatusDecide, refuseIf, if_neg fits, refuseIf, if_neg counter,
    mapM_normalized_of_pass h]
  exact ⟨_, rfl⟩

/-- What a decided set that passes consists of. -/
theorem verificationStatusDecide_eq_ok {native : NativeForgeAdapter}
    (documented : native.core.Documented) {statuses : List String} {verificationRequired : Bool}
    {unresolvedCount : Int} {decision : VerificationStatusDecision}
    (h : native.verificationStatusDecide statuses verificationRequired unresolvedCount =
      .ok decision) :
    decision.escalationRequired = !verificationStatusIsPass decision.status ∧
      (decision.status = .pass ↔
        unresolvedCount = 0 ∧ (statuses = [] → verificationRequired = false) ∧
          ∀ status ∈ statuses, status = "PASS") := by
  obtain ⟨_, h⟩ := refuseIf_bind_eq_ok.mp h
  obtain ⟨counter, h⟩ := refuseIf_bind_eq_ok.mp h
  obtain ⟨normalized, hnormalized, h⟩ := bind_eq_ok.mp h
  obtain ⟨length, passes⟩ := mapM_normalized_eq_ok hnormalized
  have low : 0 ≤ unresolvedCount := (not_not.mp counter).1
  have empty : normalized = [] ↔ statuses = [] := by
    rw [← List.length_eq_zero_iff, ← List.length_eq_zero_iff, length]
  obtain rfl := (Except.ok.inj h).symm
  refine ⟨verificationStatusDecide_escalation .., ?_⟩
  rw [verificationStatusDecide_pass documented]
  · rw [passes]
    by_cases none : statuses = []
    · subst none
      simp [empty.mpr rfl, le_antisymm_iff, low]
    · simp only [empty, none, false_and, ne_eq, not_false_eq_true, true_and, false_or,
        decide_eq_false_iff_not, false_implies]
      refine and_congr_right fun _ => and_iff_right_of_imp ?_
      intro all stale
      have := all _ stale
      simp at this
  · intro stale none
    rw [empty.mp none] at stale
    simp at stale

end MncsForge.Native.NativeForgeAdapter
