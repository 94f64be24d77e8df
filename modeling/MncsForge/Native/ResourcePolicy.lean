import Mathlib
import MncsForge.Errors
import MncsForge.Native.ResourceOutcome

/-!
# Resource budgets and admission

A budget is selected from the observed memory and the configured policy, and each
execution is admitted against it.  An `f64` of the source is a rational number
here, and an `i64` is an integer in its range.
-/

namespace MncsForge.Native.Resources

/-- A value of the source's type `i64`. -/
abbrev I64 := { value : Int // IsI64 value }

inductive ResourceBudgetStatus where
  | selected
  | unavailable
  | invalidPolicy
  deriving DecidableEq, Repr

structure ResourceObservation where
  hasHostMemoryTotal : Bool
  hostMemoryTotalBytes : I64
  hasCgroupMemoryMax : Bool
  cgroupMemoryMaxBytes : I64

structure ResourcePolicy where
  fieldsValid : Bool
  hasMemoryFraction : Bool
  memoryFraction : ℚ
  hasMemoryCap : Bool
  memoryCapBytes : I64
  hasMemoryMax : Bool
  memoryMaxBytes : I64
  hasTasksMax : Bool
  tasksMax : I64
  hasConcurrencyMax : Bool
  concurrencyMax : I64
  hasRuntimeMax : Bool
  runtimeMaxSeconds : ℚ

structure ResourceBudgetDecision where
  status : ResourceBudgetStatus
  memoryHighBytes : Int
  memoryMaxBytes : Int
  memorySwapMaxBytes : Int
  tasksMax : Int
  concurrencyMax : Int
  runtimeMaxSeconds : ℚ
  effectiveHostMemoryBytes : Int
  deriving DecidableEq

/-! ## The budget -/

/-- The cast of an `f64` to `i64`, which drops the fraction. -/
def truncated (value : ℚ) : Int :=
  if 0 ≤ value then ⌊value⌋ else ⌈value⌉

def resourceCapacitySelect (hasHostMemory : Bool) (hostMemory : Int) (hasCgroupMemory : Bool)
    (cgroupMemory : Int) : Int :=
  if hasHostMemory && hasCgroupMemory then min hostMemory cgroupMemory
  else if hasHostMemory then hostMemory
  else cgroupMemory

def resourceBudgetEmpty (status : ResourceBudgetStatus) : ResourceBudgetDecision where
  status := status
  memoryHighBytes := 0
  memoryMaxBytes := 0
  memorySwapMaxBytes := 0
  tasksMax := 0
  concurrencyMax := 0
  runtimeMaxSeconds := 0
  effectiveHostMemoryBytes := 0

namespace ResourcePolicy

/-- The settings of a policy, each with its default. -/
def fraction (policy : ResourcePolicy) : ℚ :=
  if policy.hasMemoryFraction then policy.memoryFraction else 15 / 100

def cap (policy : ResourcePolicy) : Int :=
  if policy.hasMemoryCap then policy.memoryCapBytes else 4294967296

def tasks (policy : ResourcePolicy) : Int :=
  if policy.hasTasksMax then policy.tasksMax else 64

def concurrency (policy : ResourcePolicy) : Int :=
  if policy.hasConcurrencyMax then policy.concurrencyMax else 1

def runtime (policy : ResourcePolicy) : ℚ :=
  if policy.hasRuntimeMax then policy.runtimeMaxSeconds else 600

end ResourcePolicy

/-- The capacity that a budget is a part of. -/
def ResourceObservation.capacity (observation : ResourceObservation) : Int :=
  resourceCapacitySelect observation.hasHostMemoryTotal
    (if observation.hasHostMemoryTotal then observation.hostMemoryTotalBytes else 0)
    observation.hasCgroupMemoryMax
    (if observation.hasCgroupMemoryMax then observation.cgroupMemoryMaxBytes else 0)

def resourceBudgetSelect (observation : ResourceObservation) (policy : ResourcePolicy) :
    ResourceBudgetDecision :=
  if policy.fieldsValid = false then resourceBudgetEmpty .invalidPolicy
  else if policy.fraction < 5 / 100 ∨ policy.fraction > 25 / 100 then
    resourceBudgetEmpty .invalidPolicy
  else if policy.cap < 134217728 then resourceBudgetEmpty .invalidPolicy
  else if policy.tasks < 1 ∨ policy.tasks > 4096 ∨ policy.concurrency ≠ 1 then
    resourceBudgetEmpty .invalidPolicy
  else if policy.runtime < 1 ∨ policy.runtime > 600 then resourceBudgetEmpty .invalidPolicy
  else if observation.hasHostMemoryTotal = false ∧ observation.hasCgroupMemoryMax = false then
    resourceBudgetEmpty .unavailable
  else
    let capacity := observation.capacity
    if capacity < 268435456 then resourceBudgetEmpty .unavailable
    else
      let derivedMemoryMax := min (truncated (capacity * policy.fraction)) policy.cap
      let requestedMemoryMax : Int :=
        if policy.hasMemoryMax then policy.memoryMaxBytes else derivedMemoryMax
      let memoryMaxBytes := min requestedMemoryMax derivedMemoryMax
      if memoryMaxBytes < 134217728 then resourceBudgetEmpty .unavailable
      else
        { status := .selected
          memoryHighBytes := min (max 67108864 (memoryMaxBytes / 2)) (memoryMaxBytes - 1)
          memoryMaxBytes := memoryMaxBytes
          memorySwapMaxBytes := 0
          tasksMax := policy.tasks
          concurrencyMax := policy.concurrency
          runtimeMaxSeconds := policy.runtime
          effectiveHostMemoryBytes := capacity }

/-! ## The admission -/

inductive ResourceAdmissionStatus where
  | accepted
  | uncontained
  | defer
  | unavailable
  | invalidInput
  deriving DecidableEq, Repr

inductive ResourceAdmissionReason where
  | none
  | containmentUnavailable
  | budgetUnavailable
  | processCountUnknown
  | activeProcessTree
  | executionSlotOccupied
  | lowHostHeadroom
  | invalidRuntime
  deriving DecidableEq, Repr

structure ResourceAdmissionObservation where
  containmentAvailable : Bool
  hasBudget : Bool
  hasAvailableMemory : Bool
  availableMemoryBytes : I64
  hasHostAvailableMemory : Bool
  hostAvailableMemoryBytes : I64
  hasCgroupAvailableMemory : Bool
  cgroupAvailableMemoryBytes : I64
  activeTasksKnown : Bool
  activeTasks : I64
  executionSlotAvailable : Bool
  requestedRuntimeSeconds : ℚ

structure ResourceAdmissionPolicy where
  containmentRequired : Bool
  memoryMaxBytes : I64
  concurrencyMax : I64
  runtimeMaxSeconds : ℚ

structure ResourceAdmissionDecision where
  status : ResourceAdmissionStatus
  reason : ResourceAdmissionReason
  deferred : Bool
  requiredHeadroomBytes : Int
  runtimeSeconds : ℚ
  deriving DecidableEq

def resourceAdmissionRuntimeCeiling (runtime : ℚ) : ℚ :=
  if runtime > 0 then runtime else 600

def resourceAdmissionEffectiveMemory (observation : ResourceAdmissionObservation) : Int :=
  let fallback : Int :=
    if observation.hasHostAvailableMemory then observation.hostAvailableMemoryBytes
    else if observation.hasCgroupAvailableMemory then observation.cgroupAvailableMemoryBytes
    else observation.availableMemoryBytes
  if observation.hasHostAvailableMemory && observation.hasCgroupAvailableMemory then
    min (observation.hostAvailableMemoryBytes : Int) observation.cgroupAvailableMemoryBytes
  else fallback

def resourceAdmissionDecision (status : ResourceAdmissionStatus)
    (reason : ResourceAdmissionReason) (headroom : Int) (runtime : ℚ) :
    ResourceAdmissionDecision where
  status := status
  reason := reason
  deferred :=
    match status with
    | .defer | .unavailable => true
    | .accepted | .uncontained | .invalidInput => false
  requiredHeadroomBytes := headroom
  runtimeSeconds := runtime

/-- A product of `i64` values; nothing where it is no `i64`. -/
def timesI64 (first second : Int) : Option Int :=
  if IsI64 (first * second) then some (first * second) else none

/-- The end of `resource_admission`, once the headroom is known. -/
def headroomAdmission (observation : ResourceAdmissionObservation)
    (policy : ResourceAdmissionPolicy) (requiredHeadroom : Int) : ResourceAdmissionDecision :=
  let hasAvailableMemory := observation.hasAvailableMemory ||
    observation.hasHostAvailableMemory || observation.hasCgroupAvailableMemory
  if hasAvailableMemory = true ∧
      resourceAdmissionEffectiveMemory observation < requiredHeadroom then
    resourceAdmissionDecision .defer .lowHostHeadroom requiredHeadroom 0
  else
    resourceAdmissionDecision .accepted .none requiredHeadroom
      (min observation.requestedRuntimeSeconds policy.runtimeMaxSeconds)

/-- Without a value where the arithmetic leaves `i64`.  The variant `Admit` is
`accepted`. -/
def resourceAdmission (observation : ResourceAdmissionObservation)
    (policy : ResourceAdmissionPolicy) : Option ResourceAdmissionDecision :=
  if observation.requestedRuntimeSeconds ≤ 0 then
    some (resourceAdmissionDecision .invalidInput .invalidRuntime 0 0)
  else if observation.containmentAvailable = false then
    if policy.containmentRequired then
      some (resourceAdmissionDecision .unavailable .containmentUnavailable 0 0)
    else
      some (resourceAdmissionDecision .uncontained .none 0
        (min observation.requestedRuntimeSeconds
          (resourceAdmissionRuntimeCeiling policy.runtimeMaxSeconds)))
  else if observation.hasBudget = false then
    if policy.containmentRequired = false then
      some (resourceAdmissionDecision .uncontained .none 0
        (min observation.requestedRuntimeSeconds
          (resourceAdmissionRuntimeCeiling policy.runtimeMaxSeconds)))
    else some (resourceAdmissionDecision .unavailable .budgetUnavailable 0 0)
  else if policy.runtimeMaxSeconds ≤ 0 then
    some (resourceAdmissionDecision .invalidInput .invalidRuntime 0 0)
  else if (policy.memoryMaxBytes : Int) ≤ 0 ∨ (policy.concurrencyMax : Int) < 1 then
    some (resourceAdmissionDecision .invalidInput .none 0 0)
  else if observation.executionSlotAvailable = false then
    some (resourceAdmissionDecision .defer .executionSlotOccupied 0 0)
  else if observation.activeTasksKnown = false then
    some (resourceAdmissionDecision .unavailable .processCountUnknown 0 0)
  else if (observation.activeTasks : Int) < 0 then
    some (resourceAdmissionDecision .invalidInput .none 0 0)
  else if (observation.activeTasks : Int) ≥ policy.concurrencyMax then
    some (resourceAdmissionDecision .defer .activeProcessTree 0 0)
  else
    (timesI64 policy.memoryMaxBytes 2).map fun doubledMemory =>
      headroomAdmission observation policy (max 536870912 doubledMemory)

/-! ## The bounds of a budget -/

section Bounds

variable {observation : ResourceObservation} {policy : ResourcePolicy}

/-- What a selected budget promises. -/
structure SelectedBounds (observation : ResourceObservation) (policy : ResourcePolicy)
    (budget : ResourceBudgetDecision) : Prop where
  minimum : 134217728 ≤ budget.memoryMaxBytes
  cap : budget.memoryMaxBytes ≤ policy.cap
  fraction : (budget.memoryMaxBytes : ℚ) ≤ policy.fraction * observation.capacity
  quarter : 4 * budget.memoryMaxBytes ≤ observation.capacity
  high : 67108864 ≤ budget.memoryHighBytes ∧ budget.memoryHighBytes < budget.memoryMaxBytes
  runtime : 1 ≤ budget.runtimeMaxSeconds ∧ budget.runtimeMaxSeconds ≤ 600
  concurrency : budget.concurrencyMax = 1
  effective : budget.effectiveHostMemoryBytes = observation.capacity
  host : observation.hasHostMemoryTotal = true →
    observation.capacity ≤ observation.hostMemoryTotalBytes
  cgroup : observation.hasCgroupMemoryMax = true →
    observation.capacity ≤ observation.cgroupMemoryMaxBytes

theorem truncated_le {value : ℚ} (h : 0 ≤ value) : (truncated value : ℚ) ≤ value := by
  rw [truncated, if_pos h]
  exact Int.floor_le value

theorem capacity_inI64 (observation : ResourceObservation) : IsI64 observation.capacity := by
  have host := observation.hostMemoryTotalBytes.property
  have cgroup := observation.cgroupMemoryMaxBytes.property
  unfold ResourceObservation.capacity resourceCapacitySelect
  unfold IsI64 at *
  split_ifs <;> omega

/-- A capacity is no more than any memory that was observed. -/
theorem capacity_le (observation : ResourceObservation) :
    (observation.hasHostMemoryTotal = true →
        observation.capacity ≤ observation.hostMemoryTotalBytes) ∧
      (observation.hasCgroupMemoryMax = true →
        observation.capacity ≤ observation.cgroupMemoryMaxBytes) := by
  constructor
  · intro host
    cases cgroup : observation.hasCgroupMemoryMax <;>
      simp [ResourceObservation.capacity, resourceCapacitySelect, host, cgroup]
  · intro cgroup
    cases host : observation.hasHostMemoryTotal <;>
      simp [ResourceObservation.capacity, resourceCapacitySelect, host, cgroup]

private theorem selected_ite {condition : Prop} [Decidable condition]
    {refused : ResourceBudgetStatus} {rest : ResourceBudgetDecision}
    (unselected : refused ≠ .selected) :
    (if condition then resourceBudgetEmpty refused else rest).status = .selected ↔
      ¬condition ∧ rest.status = .selected := by
  by_cases h : condition
  · simp [h, resourceBudgetEmpty, unselected]
  · simp [h]

/-- The quarter comes from the highest fraction that a policy may have. -/
private theorem derived_bounds {fraction : ℚ} {capacity : Int} (low : 5 / 100 ≤ fraction)
    (high : fraction ≤ 25 / 100) (positive : 0 ≤ capacity) :
    (truncated (capacity * fraction) : ℚ) ≤ fraction * capacity ∧
      4 * truncated (capacity * fraction) ≤ capacity := by
  have size : (0 : ℚ) ≤ capacity := by exact_mod_cast positive
  have below : (truncated (capacity * fraction) : ℚ) ≤ capacity * fraction :=
    truncated_le (mul_nonneg size (by linarith))
  have quarter : (capacity : ℚ) * fraction ≤ capacity * (25 / 100) :=
    mul_le_mul_of_nonneg_left high size
  refine ⟨by rw [mul_comm fraction]; exact below, ?_⟩
  have bound : (4 * truncated (capacity * fraction) : ℚ) ≤ capacity := by linarith
  exact_mod_cast bound

theorem resourceBudgetSelect_bounds
    (selected : (resourceBudgetSelect observation policy).status = .selected) :
    SelectedBounds observation policy (resourceBudgetSelect observation policy) := by
  have run := selected
  rw [resourceBudgetSelect, selected_ite (by decide), selected_ite (by decide),
    selected_ite (by decide), selected_ite (by decide), selected_ite (by decide),
    selected_ite (by decide), selected_ite (by decide), selected_ite (by decide)] at run
  obtain ⟨valid, fraction, cap, tasks, runtime, observed, capacity, memory, _⟩ := run
  obtain ⟨low, high⟩ := not_or.mp fraction
  obtain ⟨short, long⟩ := not_or.mp runtime
  obtain ⟨part, quarter⟩ := derived_bounds (not_lt.mp low) (not_lt.mp high)
    (show 0 ≤ observation.capacity by omega)
  rw [resourceBudgetSelect, if_neg valid, if_neg fraction, if_neg cap, if_neg tasks,
    if_neg runtime, if_neg observed, if_neg capacity, if_neg memory]
  generalize truncated (observation.capacity * policy.fraction) = derived at *
  generalize (if policy.hasMemoryMax then (policy.memoryMaxBytes : Int)
    else min derived policy.cap) = requested at *
  have below : ((min requested (min derived policy.cap) : Int) : ℚ) ≤ derived := by
    have : min requested (min derived policy.cap) ≤ derived := by omega
    exact_mod_cast this
  exact
    { minimum := by dsimp only; omega
      cap := by dsimp only; omega
      fraction := below.trans part
      quarter := by dsimp only; omega
      high := by dsimp only; omega
      runtime := ⟨not_lt.mp short, not_lt.mp long⟩
      concurrency := not_not.mp (not_or.mp (not_or.mp tasks).2).2
      effective := rfl
      host := (capacity_le observation).1
      cgroup := (capacity_le observation).2 }

/-- Twice the memory of a budget is half of an `i64`. -/
theorem SelectedBounds.doubled {budget : ResourceBudgetDecision}
    (bounds : SelectedBounds observation policy budget) : IsI64 (2 * budget.memoryMaxBytes) := by
  have inside := capacity_inI64 observation
  have minimum := bounds.minimum
  have quarter := bounds.quarter
  unfold IsI64 at *
  omega

end Bounds

/-! ## What an admission grants -/

/-- What was asked for and observed, and the decision that grants it. -/
structure Granted (hostAvailable cgroupAvailable activeTasks : Option Int) (slot : Bool)
    (memoryMax concurrencyMax : Int) (requested ceiling : ℚ)
    (decision : ResourceAdmissionDecision) : Prop where
  slot : slot = true
  tasks : ∃ active ∈ activeTasks, active < concurrencyMax
  host : ∀ available ∈ hostAvailable, max 536870912 (2 * memoryMax) ≤ available
  cgroup : ∀ available ∈ cgroupAvailable, max 536870912 (2 * memoryMax) ≤ available
  headroom : decision.requiredHeadroomBytes = max 536870912 (2 * memoryMax)
  runtime : decision.runtimeSeconds ≤ requested ∧ decision.runtimeSeconds ≤ ceiling

namespace ResourceAdmissionObservation

/-- The optional facts of an observation. -/
def hostAvailable (observation : ResourceAdmissionObservation) : Option Int :=
  if observation.hasHostAvailableMemory then some observation.hostAvailableMemoryBytes else none

def cgroupAvailable (observation : ResourceAdmissionObservation) : Option Int :=
  if observation.hasCgroupAvailableMemory then some observation.cgroupAvailableMemoryBytes
  else none

def active (observation : ResourceAdmissionObservation) : Option Int :=
  if observation.activeTasksKnown then some observation.activeTasks else none

end ResourceAdmissionObservation

section Admission

variable {observation : ResourceAdmissionObservation} {policy : ResourceAdmissionPolicy}
  {decision : ResourceAdmissionDecision}

private theorem some_ite {condition : Prop} [Decidable condition]
    {early : ResourceAdmissionDecision} {rest : Option ResourceAdmissionDecision}
    (h : ∃ decision, rest = some decision) :
    ∃ decision, (if condition then some early else rest) = some decision := by
  by_cases hcondition : condition
  · exact ⟨early, if_pos hcondition⟩
  · rwa [if_neg hcondition]

/-- The headroom is within `i64` for every memory limit of at most half its range. -/
theorem resourceAdmission_isSome (observation : ResourceAdmissionObservation)
    (policy : ResourceAdmissionPolicy) (half : IsI64 (2 * (policy.memoryMaxBytes : Int))) :
    ∃ decision, resourceAdmission observation policy = some decision := by
  have doubled : timesI64 policy.memoryMaxBytes 2 =
      some ((policy.memoryMaxBytes : Int) * 2) := if_pos (by rwa [mul_comm])
  rw [resourceAdmission, doubled, ← apply_ite some, ← apply_ite some]
  exact some_ite <| some_ite <| some_ite <| some_ite <| some_ite <| some_ite <| some_ite <|
    some_ite <| some_ite ⟨_, rfl⟩

private theorem accepted_ite {condition : Prop} [Decidable condition]
    {refused : ResourceAdmissionDecision} {rest : Option ResourceAdmissionDecision}
    (accepted : decision.status = .accepted) (unaccepted : refused.status ≠ .accepted) :
    (if condition then some refused else rest) = some decision ↔
      ¬condition ∧ rest = some decision := by
  by_cases h : condition
  · simp only [h, if_true, not_true, false_and, iff_false, Option.some.injEq]
    rintro rfl
    exact unaccepted accepted
  · simp [h]

/-- An observed memory is no less than the effective one. -/
theorem effectiveMemory_le :
    (∀ available ∈ observation.hostAvailable,
        resourceAdmissionEffectiveMemory observation ≤ available) ∧
      (∀ available ∈ observation.cgroupAvailable,
        resourceAdmissionEffectiveMemory observation ≤ available) := by
  unfold ResourceAdmissionObservation.hostAvailable ResourceAdmissionObservation.cgroupAvailable
    resourceAdmissionEffectiveMemory
  cases observation.hasHostAvailableMemory <;> cases observation.hasCgroupAvailableMemory <;>
    simp

/-- Every memory that was observed covers the headroom of an accepted execution. -/
theorem headroomAdmission_accepted {headroom : Int}
    (accepted : (headroomAdmission observation policy headroom).status = .accepted) :
    (∀ available ∈ observation.hostAvailable, headroom ≤ available) ∧
      (∀ available ∈ observation.cgroupAvailable, headroom ≤ available) ∧
      headroomAdmission observation policy headroom =
        resourceAdmissionDecision .accepted .none headroom
          (min observation.requestedRuntimeSeconds policy.runtimeMaxSeconds) := by
  unfold headroomAdmission at accepted ⊢
  dsimp only at accepted ⊢
  by_cases low : (observation.hasAvailableMemory || observation.hasHostAvailableMemory ||
      observation.hasCgroupAvailableMemory) = true ∧
      resourceAdmissionEffectiveMemory observation < headroom
  · rw [if_pos low] at accepted
    cases accepted
  · rw [if_neg low]
    obtain ⟨host, cgroup⟩ := @effectiveMemory_le observation
    refine ⟨fun available seen => ?_, fun available seen => ?_, rfl⟩
    · have observed : observation.hasHostAvailableMemory = true := by
        by_contra unseen
        rw [ResourceAdmissionObservation.hostAvailable, if_neg unseen] at seen
        cases seen
      have enough := not_lt.mp fun short => low ⟨by simp [observed], short⟩
      exact enough.trans (host available seen)
    · have observed : observation.hasCgroupAvailableMemory = true := by
        by_contra unseen
        rw [ResourceAdmissionObservation.cgroupAvailable, if_neg unseen] at seen
        cases seen
      have enough := not_lt.mp fun short => low ⟨by simp [observed], short⟩
      exact enough.trans (cgroup available seen)

theorem resourceAdmission_granted (h : resourceAdmission observation policy = some decision)
    (accepted : decision.status = .accepted) :
    Granted observation.hostAvailable observation.cgroupAvailable observation.active
      observation.executionSlotAvailable policy.memoryMaxBytes policy.concurrencyMax
      observation.requestedRuntimeSeconds policy.runtimeMaxSeconds decision := by
  rw [resourceAdmission, accepted_ite accepted (by decide), ← apply_ite some, ← apply_ite some,
    accepted_ite accepted (by split_ifs <;> nofun),
    accepted_ite accepted (by split_ifs <;> nofun), accepted_ite accepted (by decide),
    accepted_ite accepted (by decide),
    accepted_ite accepted (by decide), accepted_ite accepted (by decide),
    accepted_ite accepted (by decide), accepted_ite accepted (by decide)] at h
  obtain ⟨_, _, _, _, _, slot, known, _, below, h⟩ := h
  rw [timesI64] at h
  split_ifs at h with inside
  · obtain rfl := Option.some.inj h
    dsimp only at accepted ⊢
    obtain ⟨host, cgroup, decided⟩ := headroomAdmission_accepted accepted
    rw [mul_comm] at host cgroup decided
    rw [mul_comm, decided]
    exact
      { slot := by simpa using slot
        tasks := ⟨observation.activeTasks, by
          simp [ResourceAdmissionObservation.active, known], not_le.mp below⟩
        host := host
        cgroup := cgroup
        headroom := rfl
        runtime := ⟨min_le_left _ _, min_le_right _ _⟩ }
  · cases h

end Admission

/-! ## The host side -/

/-- The mappings that `resource_admission` of the adapter is given. -/
structure ResourceAdmissionFacts where
  containmentAvailable : Bool
  hasBudget : Bool
  availableMemoryBytes : Option Int := none
  hostAvailableMemoryBytes : Option Int
  cgroupAvailableMemoryBytes : Option Int
  activeTasks : Option Int
  executionSlotAvailable : Bool
  requestedRuntimeSeconds : ℚ

structure ResourceAdmissionLimits where
  containmentRequired : Bool
  memoryMaxBytes : Int
  concurrencyMax : Int
  runtimeMaxSeconds : ℚ

def integerValue (key : String) (value : Int) : Except ForgeError I64 :=
  if h : IsI64 value then .ok ⟨value, h⟩
  else .error ⟨"NATIVE_RESOURCE_INPUT", s!"{key} is outside the i64 ABI"⟩

/-- Whether the value is there, and the value or zero. -/
def optionalIntegerValue (key : String) : Option Int → Except ForgeError (Bool × I64)
  | none => .ok (false, ⟨0, by decide⟩)
  | some value => (integerValue key value).map fun value => (true, value)

/-- The language runtime is taken to run the core. -/
def runResourceAdmission (observation : ResourceAdmissionObservation)
    (policy : ResourceAdmissionPolicy) : Except ForgeError ResourceAdmissionDecision :=
  match resourceAdmission observation policy with
  | some decision => .ok decision
  | none => .error ⟨"NATIVE_RESOURCE_UNKNOWN", "native resource admission did not return"⟩

namespace ResourceAdmissionFacts

/-- `resource_admission` of the adapter. -/
def resourceAdmission (facts : ResourceAdmissionFacts) (limits : ResourceAdmissionLimits) :
    Except ForgeError ResourceAdmissionDecision := do
  let available ← optionalIntegerValue "available_memory_bytes" facts.availableMemoryBytes
  let host ← optionalIntegerValue "host_available_memory_bytes" facts.hostAvailableMemoryBytes
  let cgroup ←
    optionalIntegerValue "cgroup_available_memory_bytes" facts.cgroupAvailableMemoryBytes
  let active ← optionalIntegerValue "active_tasks" facts.activeTasks
  let memoryMax ← integerValue "memory_max_bytes" limits.memoryMaxBytes
  let concurrencyMax ← integerValue "concurrency_max" limits.concurrencyMax
  runResourceAdmission
    { containmentAvailable := facts.containmentAvailable
      hasBudget := facts.hasBudget
      hasAvailableMemory := available.1
      availableMemoryBytes := available.2
      hasHostAvailableMemory := host.1
      hostAvailableMemoryBytes := host.2
      hasCgroupAvailableMemory := cgroup.1
      cgroupAvailableMemoryBytes := cgroup.2
      activeTasksKnown := active.1
      activeTasks := active.2
      executionSlotAvailable := facts.executionSlotAvailable
      requestedRuntimeSeconds := facts.requestedRuntimeSeconds }
    { containmentRequired := limits.containmentRequired
      memoryMaxBytes := memoryMax
      concurrencyMax := concurrencyMax
      runtimeMaxSeconds := limits.runtimeMaxSeconds }

end ResourceAdmissionFacts

/-- The parts of a `ResourceEnvelope` that an admission reads. -/
structure ResourceEnvelope where
  available : Bool
  budget : Option ResourceBudgetDecision
  required : Bool

/-- `_admission`. -/
def ResourceEnvelope.admission (envelope : ResourceEnvelope)
    (hostAvailableMemory cgroupAvailableMemory activeTasks : Option Int)
    (executionSlotAvailable : Bool) (requestedRuntime : ℚ) :
    Except ForgeError ResourceAdmissionDecision :=
  ResourceAdmissionFacts.resourceAdmission
    { containmentAvailable := envelope.available
      hasBudget := envelope.budget.isSome
      hostAvailableMemoryBytes := hostAvailableMemory
      cgroupAvailableMemoryBytes := cgroupAvailableMemory
      activeTasks := activeTasks
      executionSlotAvailable := executionSlotAvailable
      requestedRuntimeSeconds := requestedRuntime }
    { containmentRequired := envelope.required
      memoryMaxBytes := (envelope.budget.map (·.memoryMaxBytes)).getD 0
      concurrencyMax := (envelope.budget.map (·.concurrencyMax)).getD 1
      runtimeMaxSeconds := (envelope.budget.map (·.runtimeMaxSeconds)).getD 0 }

section Host

variable {key : String}

theorem integerValue_eq_ok {value : Int} {checked : I64} :
    integerValue key value = .ok checked ↔ checked.val = value := by
  unfold integerValue
  by_cases h : IsI64 value
  · rw [dif_pos h, Except.ok.injEq, eq_comm, Subtype.ext_iff]
  · rw [dif_neg h]
    constructor
    · rintro ⟨⟩
    · rintro rfl
      exact absurd checked.property h

/-- The pair stands for the optional value. -/
theorem optionalIntegerValue_eq_ok {value : Option Int} {checked : Bool × I64}
    (h : optionalIntegerValue key value = .ok checked) :
    (if checked.1 then some checked.2.val else none) = value := by
  cases value with
  | none =>
      obtain rfl := Except.ok.inj h
      rfl
  | some value =>
      rw [optionalIntegerValue] at h
      cases hvalue : integerValue key value with
      | error refused =>
          rw [hvalue] at h
          cases h
      | ok inside =>
          rw [hvalue] at h
          obtain rfl := Except.ok.inj h
          exact congrArg some (integerValue_eq_ok.mp hvalue)

theorem optionalIntegerValue_isOk {value : Option Int} (h : ∀ n ∈ value, IsI64 n) :
    ∃ checked, optionalIntegerValue key value = .ok checked := by
  cases value with
  | none => exact ⟨_, rfl⟩
  | some value =>
      have inside := (integerValue_eq_ok : integerValue key value = _ ↔ _).mpr
        (show (⟨value, h value rfl⟩ : I64).val = value from rfl)
      exact ⟨_, by rw [optionalIntegerValue, inside]; rfl⟩

variable {facts : ResourceAdmissionFacts} {limits : ResourceAdmissionLimits}
  {decision : ResourceAdmissionDecision}

theorem runResourceAdmission_eq_ok {observation : ResourceAdmissionObservation}
    {policy : ResourceAdmissionPolicy} :
    runResourceAdmission observation policy = .ok decision ↔
      resourceAdmission observation policy = some decision := by
  unfold runResourceAdmission
  cases resourceAdmission observation policy <;> simp

/-- An accepted execution of the adapter is granted by what the host observed. -/
theorem ResourceAdmissionFacts.resourceAdmission_granted
    (h : facts.resourceAdmission limits = .ok decision) (accepted : decision.status = .accepted) :
    Granted facts.hostAvailableMemoryBytes facts.cgroupAvailableMemoryBytes facts.activeTasks
      facts.executionSlotAvailable limits.memoryMaxBytes limits.concurrencyMax
      facts.requestedRuntimeSeconds limits.runtimeMaxSeconds decision := by
  simp only [ResourceAdmissionFacts.resourceAdmission, bind_eq_ok] at h
  obtain ⟨available, _, host, hhost, cgroup, hcgroup, active, hactive, memoryMax, hmemory,
    concurrencyMax, hconcurrency, h⟩ := h
  have granted := Resources.resourceAdmission_granted (runResourceAdmission_eq_ok.mp h) accepted
  rw [← optionalIntegerValue_eq_ok hhost, ← optionalIntegerValue_eq_ok hcgroup,
    ← optionalIntegerValue_eq_ok hactive, ← integerValue_eq_ok.mp hmemory,
    ← integerValue_eq_ok.mp hconcurrency]
  exact granted

/-- Facts of the binary interface have a decision. -/
theorem ResourceAdmissionFacts.resourceAdmission_returns
    (available : ∀ n ∈ facts.availableMemoryBytes, IsI64 n)
    (host : ∀ n ∈ facts.hostAvailableMemoryBytes, IsI64 n)
    (cgroup : ∀ n ∈ facts.cgroupAvailableMemoryBytes, IsI64 n)
    (active : ∀ n ∈ facts.activeTasks, IsI64 n) (memory : IsI64 limits.memoryMaxBytes)
    (concurrency : IsI64 limits.concurrencyMax) (doubled : IsI64 (2 * limits.memoryMaxBytes)) :
    ∃ decision, facts.resourceAdmission limits = .ok decision := by
  simp only [ResourceAdmissionFacts.resourceAdmission, bind_eq_ok]
  obtain ⟨available, havailable⟩ := optionalIntegerValue_isOk available
  obtain ⟨host, hhost⟩ := optionalIntegerValue_isOk host
  obtain ⟨cgroup, hcgroup⟩ := optionalIntegerValue_isOk cgroup
  obtain ⟨active, hactive⟩ := optionalIntegerValue_isOk active
  obtain ⟨decision, run⟩ := resourceAdmission_isSome
    { containmentAvailable := facts.containmentAvailable
      hasBudget := facts.hasBudget
      hasAvailableMemory := available.1
      availableMemoryBytes := available.2
      hasHostAvailableMemory := host.1
      hostAvailableMemoryBytes := host.2
      hasCgroupAvailableMemory := cgroup.1
      cgroupAvailableMemoryBytes := cgroup.2
      activeTasksKnown := active.1
      activeTasks := active.2
      executionSlotAvailable := facts.executionSlotAvailable
      requestedRuntimeSeconds := facts.requestedRuntimeSeconds }
    { containmentRequired := limits.containmentRequired
      memoryMaxBytes := ⟨limits.memoryMaxBytes, memory⟩
      concurrencyMax := ⟨limits.concurrencyMax, concurrency⟩
      runtimeMaxSeconds := limits.runtimeMaxSeconds } doubled
  exact ⟨decision, available, havailable, host, hhost, cgroup, hcgroup, active, hactive, _,
    integerValue_eq_ok.mpr rfl, _, integerValue_eq_ok.mpr rfl,
    runResourceAdmission_eq_ok.mpr run⟩

/-- The bounds of a selected budget carry through the admission of its executions. -/
theorem resourceAdmission_of_selected (observation : ResourceObservation)
    (policy : ResourcePolicy) (budget : ResourceBudgetDecision)
    (made : resourceBudgetSelect observation policy = budget)
    (selected : budget.status = .selected) :
    SelectedBounds observation policy budget ∧ IsI64 (2 * budget.memoryMaxBytes) ∧
      (∀ (facts : ResourceAdmissionObservation) (limits : ResourceAdmissionPolicy),
        (limits.memoryMaxBytes : Int) = budget.memoryMaxBytes →
        ∃ decision, resourceAdmission facts limits = some decision ∧
          (decision.status = .accepted →
            Granted facts.hostAvailable facts.cgroupAvailable facts.active
              facts.executionSlotAvailable budget.memoryMaxBytes limits.concurrencyMax
              facts.requestedRuntimeSeconds limits.runtimeMaxSeconds decision)) ∧
      (∀ (envelope : ResourceEnvelope) (host cgroup active : Option Int) (slot : Bool)
          (requested : ℚ), envelope.budget = some budget →
        ((∀ n ∈ host, IsI64 n) → (∀ n ∈ cgroup, IsI64 n) → (∀ n ∈ active, IsI64 n) →
          ∃ decision, envelope.admission host cgroup active slot requested = .ok decision) ∧
        (∀ decision, envelope.admission host cgroup active slot requested = .ok decision →
          decision.status = .accepted →
          Granted host cgroup active slot budget.memoryMaxBytes budget.concurrencyMax requested
            budget.runtimeMaxSeconds decision)) := by
  subst made
  have bounds := resourceBudgetSelect_bounds selected
  have doubled := bounds.doubled
  refine ⟨bounds, doubled, ?_, ?_⟩
  · intro facts limits same
    rw [← same] at doubled ⊢
    obtain ⟨decision, run⟩ := resourceAdmission_isSome facts limits doubled
    exact ⟨decision, run, resourceAdmission_granted run⟩
  · intro envelope host cgroup active slot requested hbudget
    unfold ResourceEnvelope.admission
    rw [hbudget]
    refine ⟨fun hhost hcgroup hactive => ?_, fun decision run accepted => ?_⟩
    · have minimum := bounds.minimum
      have concurrency := bounds.concurrency
      refine ResourceAdmissionFacts.resourceAdmission_returns nofun hhost hcgroup hactive ?_ ?_
        doubled
      · show IsI64 (resourceBudgetSelect observation policy).memoryMaxBytes
        unfold IsI64 at *
        omega
      · show IsI64 (resourceBudgetSelect observation policy).concurrencyMax
        rw [concurrency]
        decide
    · exact ResourceAdmissionFacts.resourceAdmission_granted run accepted

end Host

private def sampleHost : ResourceObservation where
  hasHostMemoryTotal := true
  hostMemoryTotalBytes := ⟨8589934592, by decide⟩
  hasCgroupMemoryMax := true
  cgroupMemoryMaxBytes := ⟨4294967296, by decide⟩

private def sampleSettings : ResourcePolicy where
  fieldsValid := true
  hasMemoryFraction := false
  memoryFraction := 0
  hasMemoryCap := false
  memoryCapBytes := ⟨0, by decide⟩
  hasMemoryMax := false
  memoryMaxBytes := ⟨0, by decide⟩
  hasTasksMax := false
  tasksMax := ⟨0, by decide⟩
  hasConcurrencyMax := false
  concurrencyMax := ⟨0, by decide⟩
  hasRuntimeMax := true
  runtimeMaxSeconds := 120

private def sampleEnvelope : ResourceEnvelope where
  available := true
  budget := some (resourceBudgetSelect sampleHost sampleSettings)
  required := true

theorem resourceAdmission_of_selected_sample :
    (resourceBudgetSelect sampleHost sampleSettings).memoryMaxBytes = 644245094 ∧
      SelectedBounds sampleHost sampleSettings (resourceBudgetSelect sampleHost sampleSettings) ∧
      ∃ decision, sampleEnvelope.admission (some 2147483648) none (some 0) true 300 =
          .ok decision ∧
        Granted (some 2147483648) none (some 0) true 644245094 1 300 120 decision := by
  obtain ⟨bounds, _, _, admitted⟩ := resourceAdmission_of_selected sampleHost sampleSettings _ rfl
    (by decide +kernel)
  obtain ⟨_, granted⟩ := admitted sampleEnvelope (some 2147483648) none (some 0) true 300 rfl
  have run : (sampleEnvelope.admission (some 2147483648) none (some 0) true 300).toOption =
      some ⟨.accepted, .none, false, 1288490188, 120⟩ := by decide +kernel
  cases hrun : sampleEnvelope.admission (some 2147483648) none (some 0) true 300 with
  | error refused =>
      rw [hrun] at run
      cases run
  | ok decision =>
      rw [hrun] at run
      obtain rfl := Option.some.inj run
      have values : (resourceBudgetSelect sampleHost sampleSettings).memoryMaxBytes = 644245094 ∧
          (resourceBudgetSelect sampleHost sampleSettings).concurrencyMax = 1 ∧
          (resourceBudgetSelect sampleHost sampleSettings).runtimeMaxSeconds = 120 := by
        decide +kernel
      refine ⟨values.1, bounds, _, rfl, ?_⟩
      have := granted _ hrun rfl
      rwa [values.1, values.2.1, values.2.2] at this

end MncsForge.Native.Resources
