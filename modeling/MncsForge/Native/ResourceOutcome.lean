import Mathlib
import MncsForge.Errors
import MncsForge.Native.Continuous

/-!
# Resource outcomes

`resource_outcome` of the native core classifies the seventeen raw facts of an
execution.  Only two of the statuses establish an execution exit status.
-/

namespace MncsForge.Native.Resources

open MncsForge.Native.Continuous (ResourceOutcomeStatus)

inductive ResourceSystemdResult where
  | success
  | exitCode
  | oomKill
  | outOfMemory
  | timeout
  | failed
  | unknown
  deriving DecidableEq, Repr

inductive ResourceOutcomeMetric where
  | none
  | memory
  | processCount
  | wallTime
  | output
  deriving DecidableEq, Repr

/-- Integers are `i64` values of the source. -/
structure ResourceOutcomeObservation where
  hasExitStatus : Bool
  exitStatus : Int
  hasWrapperExitStatus : Bool
  wrapperExitStatus : Int
  systemdResult : ResourceSystemdResult
  timedOut : Bool
  outputLimited : Bool
  memoryHighEvents : Int
  memoryMaxEvents : Int
  memoryOomEvents : Int
  memoryOomKillEvents : Int
  memoryOomGroupKillEvents : Int
  processLimitEvents : Int
  cleanupKnown : Bool
  cleanupSucceeded : Bool
  cancellationRequested : Bool
  superseded : Bool

structure ResourceOutcomeDecision where
  status : ResourceOutcomeStatus
  metric : ResourceOutcomeMetric
  resourceExhausted : Bool
  deferred : Bool
  cancellationRequested : Bool
  superseded : Bool
  deriving DecidableEq, Repr

structure ResourceOutcomeResult extends ResourceOutcomeDecision where
  hasExecutionExitStatus : Bool
  executionExitStatus : Int
  deriving DecidableEq, Repr

def resourceOutcomeStatusHasExecutionExit : ResourceOutcomeStatus → Bool
  | .pass => true
  | .fail => true
  | .resourceLimit | .resourcePressure | .timeout | .outputLimit | .unknown
  | .cleanupFailure | .cancelled | .stale => false

def resourceOutcomeStatusIsPass : ResourceOutcomeStatus → Bool
  | .pass => true
  | .fail | .resourceLimit | .resourcePressure | .timeout | .outputLimit | .unknown
  | .cleanupFailure | .cancelled | .stale => false

def resourceOutcomeResult (decision : ResourceOutcomeDecision) (hasExecutionExitStatus : Bool)
    (executionExitStatus : Int) : ResourceOutcomeResult where
  toResourceOutcomeDecision := decision
  hasExecutionExitStatus := hasExecutionExitStatus
  executionExitStatus := executionExitStatus

def resourceSystemdTimedOut : ResourceSystemdResult → Bool
  | .timeout => true
  | .success | .exitCode | .oomKill | .outOfMemory | .failed | .unknown => false

def resourceSystemdMemoryLimited : ResourceSystemdResult → Bool
  | .oomKill => true
  | .outOfMemory => true
  | .success | .exitCode | .timeout | .failed | .unknown => false

def resourceSystemdUnknown : ResourceSystemdResult → Bool
  | .failed => true
  | .success | .exitCode | .oomKill | .outOfMemory | .timeout | .unknown => false

/-- The facts that say memory ran out. -/
def memoryLimited (observation : ResourceOutcomeObservation) : Bool :=
  observation.memoryMaxEvents > 0 || observation.memoryOomEvents > 0 ||
    observation.memoryOomKillEvents > 0 || observation.memoryOomGroupKillEvents > 0 ||
    resourceSystemdMemoryLimited observation.systemdResult

def resourceOutcomeClassify (observation : ResourceOutcomeObservation) :
    ResourceOutcomeDecision :=
  if observation.cleanupKnown && !observation.cleanupSucceeded then
    ⟨.cleanupFailure, .none, false, true, observation.cancellationRequested,
      observation.superseded⟩
  else if observation.superseded then
    ⟨.stale, .none, false, false, observation.cancellationRequested, true⟩
  else if observation.cancellationRequested then
    ⟨.cancelled, .none, false, false, true, false⟩
  else if observation.timedOut || resourceSystemdTimedOut observation.systemdResult then
    ⟨.timeout, .wallTime, true, true, false, false⟩
  else if memoryLimited observation then
    ⟨.resourceLimit, .memory, true, true, false, false⟩
  else if observation.processLimitEvents > 0 then
    ⟨.resourceLimit, .processCount, true, true, false, false⟩
  else if observation.outputLimited then
    ⟨.outputLimit, .output, true, true, false, false⟩
  else if observation.memoryHighEvents > 0 then
    ⟨.resourcePressure, .memory, false, true, false, false⟩
  else if observation.hasExitStatus && observation.hasWrapperExitStatus &&
      observation.exitStatus ≠ observation.wrapperExitStatus then
    ⟨.unknown, .none, false, true, false, false⟩
  else if resourceSystemdUnknown observation.systemdResult then
    ⟨.unknown, .none, false, true, false, false⟩
  else if !observation.hasExitStatus && !observation.hasWrapperExitStatus then
    ⟨.unknown, .none, false, true, false, false⟩
  else if !observation.hasExitStatus then
    if observation.wrapperExitStatus = 0 then ⟨.pass, .none, false, false, false, false⟩
    else ⟨.unknown, .none, false, true, false, false⟩
  else if observation.exitStatus = 0 then ⟨.pass, .none, false, false, false, false⟩
  else ⟨.fail, .none, false, false, false, false⟩

def resourceOutcome (observation : ResourceOutcomeObservation) : ResourceOutcomeResult :=
  let decision := resourceOutcomeClassify observation
  if resourceOutcomeStatusHasExecutionExit decision.status then
    if observation.hasExitStatus then
      resourceOutcomeResult decision true observation.exitStatus
    else if resourceOutcomeStatusIsPass decision.status && observation.hasWrapperExitStatus &&
        observation.wrapperExitStatus = 0 then
      resourceOutcomeResult decision true 0
    else resourceOutcomeResult decision false 0
  else resourceOutcomeResult decision false 0

/-! ## What establishes an exit status -/

section Established

variable {observation : ResourceOutcomeObservation}

/-- Nothing interfered with the execution, and its exit was observed. -/
structure Undisturbed (observation : ResourceOutcomeObservation) : Prop where
  cleanup : observation.cleanupKnown = true → observation.cleanupSucceeded = true
  current : observation.superseded = false
  uncancelled : observation.cancellationRequested = false
  inTime : observation.timedOut = false ∧ resourceSystemdTimedOut observation.systemdResult = false
  inMemory : memoryLimited observation = false
  processes : observation.processLimitEvents ≤ 0
  output : observation.outputLimited = false
  pressure : observation.memoryHighEvents ≤ 0
  agreed : observation.hasExitStatus = true → observation.hasWrapperExitStatus = true →
    observation.exitStatus = observation.wrapperExitStatus
  known : resourceSystemdUnknown observation.systemdResult = false
  exited : observation.hasExitStatus = true ∨
    observation.hasWrapperExitStatus = true ∧ observation.wrapperExitStatus = 0

private theorem hasExit_ite {condition : Prop} [Decidable condition]
    {refused rest : ResourceOutcomeDecision}
    (h : resourceOutcomeStatusHasExecutionExit refused.status = false) :
    resourceOutcomeStatusHasExecutionExit (if condition then refused else rest).status = true ↔
      ¬condition ∧ resourceOutcomeStatusHasExecutionExit rest.status = true := by
  split_ifs with hcondition
  · simp [h, hcondition]
  · simp [hcondition]

private theorem undisturbed_of_classify
    (h : resourceOutcomeStatusHasExecutionExit
      (resourceOutcomeClassify observation).status = true) : Undisturbed observation := by
  rw [resourceOutcomeClassify, hasExit_ite rfl, hasExit_ite rfl, hasExit_ite rfl,
    hasExit_ite rfl, hasExit_ite rfl, hasExit_ite rfl, hasExit_ite rfl, hasExit_ite rfl,
    hasExit_ite rfl, hasExit_ite rfl, hasExit_ite rfl] at h
  obtain ⟨cleanup, stale, cancelled, timed, memory, processes, output, pressure, differ, failed,
    unread, h⟩ := h
  refine
    { cleanup := by simpa using cleanup
      current := by simpa using stale
      uncancelled := by simpa using cancelled
      inTime := by simpa using timed
      inMemory := by simpa using memory
      processes := by omega
      output := by simpa using output
      pressure := by omega
      agreed := by simpa using differ
      known := by simpa using failed
      exited := ?_ }
  by_cases seen : observation.hasExitStatus = true
  · exact Or.inl seen
  · have wrapped : observation.hasWrapperExitStatus = true := by simpa [seen] using unread
    rw [if_pos (by simpa using seen)] at h
    split_ifs at h with zero
    · exact Or.inr ⟨wrapped, zero⟩
    · cases h

private theorem classify_of_undisturbed (h : Undisturbed observation) :
    resourceOutcomeClassify observation =
      ⟨if observation.hasExitStatus = true ∧ observation.exitStatus ≠ 0 then .fail else .pass,
        .none, false, false, false, false⟩ := by
  have cleanup := h.cleanup
  have processes := h.processes
  have pressure := h.pressure
  have agreed := h.agreed
  unfold resourceOutcomeClassify
  rw [if_neg (by simpa using cleanup), if_neg (by simp [h.current]),
    if_neg (by simp [h.uncancelled]), if_neg (by simp [h.inTime]),
    if_neg (by simp [h.inMemory]), if_neg (by omega), if_neg (by simp [h.output]),
    if_neg (by omega), if_neg (by simpa using agreed), if_neg (by simp [h.known])]
  rcases h.exited with seen | ⟨wrapped, zero⟩
  · rw [if_neg (by simp [seen]), if_neg (by simp [seen])]
    by_cases hzero : observation.exitStatus = 0
    · rw [if_pos hzero, if_neg (by simp [hzero])]
    · rw [if_neg hzero, if_pos ⟨seen, hzero⟩]
  · rw [if_neg (by simp [wrapped])]
    cases hseen : observation.hasExitStatus with
    | false => simp [zero]
    | true =>
        have := agreed hseen wrapped
        simp [this, zero]

/-- The outcome has an exit status exactly for undisturbed executions. -/
theorem resourceOutcome_established_iff :
    (resourceOutcome observation).hasExecutionExitStatus = true ↔ Undisturbed observation := by
  constructor
  · intro h
    refine undisturbed_of_classify ?_
    unfold resourceOutcome at h
    by_contra refused
    rw [if_neg refused] at h
    cases h
  · intro h
    have classified := classify_of_undisturbed h
    unfold resourceOutcome
    rw [if_pos (by rw [classified]; dsimp only; split_ifs <;> rfl)]
    split_ifs with seen wrapped
    · rfl
    · rfl
    · obtain ⟨hwrapped, hzero⟩ := h.exited.resolve_left seen
      refine absurd ?_ wrapped
      rw [classified]
      simp [resourceOutcomeStatusIsPass, hwrapped, hzero, seen]

theorem resourceOutcome_unexhausted (h : Undisturbed observation) :
    (resourceOutcome observation).resourceExhausted = false := by
  have decided : (resourceOutcome observation).toResourceOutcomeDecision =
      resourceOutcomeClassify observation := by
    simp only [resourceOutcome]
    split_ifs <;> rfl
  rw [decided, classify_of_undisturbed h]

/-- An exit status that was observed is the established one. -/
theorem resourceOutcome_exitStatus (h : Undisturbed observation)
    (seen : observation.hasExitStatus = true) :
    (resourceOutcome observation).executionExitStatus = observation.exitStatus := by
  unfold resourceOutcome
  rw [if_pos (by rw [classify_of_undisturbed h]; dsimp only; split_ifs <;> rfl), if_pos seen]
  rfl

/-- The outcome of an undisturbed execution. -/
theorem resourceOutcome_of_undisturbed (h : Undisturbed observation) :
    (resourceOutcome observation).status =
        (if observation.hasExitStatus = true ∧ observation.exitStatus ≠ 0 then .fail else .pass) ∧
      (resourceOutcome observation).executionExitStatus =
        (if observation.hasExitStatus then observation.exitStatus else 0) := by
  have classified := classify_of_undisturbed h
  have decided : (resourceOutcome observation).toResourceOutcomeDecision =
      resourceOutcomeClassify observation := by
    simp only [resourceOutcome]
    split_ifs <;> rfl
  refine ⟨by rw [decided, classified], ?_⟩
  by_cases seen : observation.hasExitStatus = true
  · rw [resourceOutcome_exitStatus h seen, if_pos seen]
  · rw [if_neg seen]
    unfold resourceOutcome
    rw [if_pos (by rw [classified]; dsimp only; split_ifs <;> rfl), if_neg seen]
    split_ifs <;> rfl

/-- Every exit status that was observed is the established one. -/
theorem resourceOutcome_observed (h : Undisturbed observation) :
    (observation.hasExitStatus = true →
        observation.exitStatus = (resourceOutcome observation).executionExitStatus) ∧
      (observation.hasWrapperExitStatus = true →
        observation.wrapperExitStatus = (resourceOutcome observation).executionExitStatus) := by
  rw [(resourceOutcome_of_undisturbed h).2]
  by_cases seen : observation.hasExitStatus = true
  · rw [if_pos seen]
    exact ⟨fun _ => rfl, fun wrapped => (h.agreed seen wrapped).symm⟩
  · rw [if_neg seen]
    exact ⟨fun found => absurd found seen, fun _ => (h.exited.resolve_left seen).2⟩

/-- An outcome passes exactly when the established status is zero. -/
theorem resourceOutcome_pass_iff :
    (resourceOutcome observation).status = .pass ↔
      (resourceOutcome observation).hasExecutionExitStatus = true ∧
        (resourceOutcome observation).executionExitStatus = 0 := by
  have decided : (resourceOutcome observation).toResourceOutcomeDecision =
      resourceOutcomeClassify observation := by
    simp only [resourceOutcome]
    split_ifs <;> rfl
  constructor
  · intro pass
    have undisturbed : Undisturbed observation := by
      refine undisturbed_of_classify ?_
      rw [← decided, pass]
      rfl
    obtain ⟨status, exit⟩ := resourceOutcome_of_undisturbed undisturbed
    refine ⟨resourceOutcome_established_iff.mpr undisturbed, ?_⟩
    rw [exit]
    rw [pass] at status
    by_contra nonzero
    by_cases seen : observation.hasExitStatus = true
    · rw [if_pos seen] at nonzero
      rw [if_pos ⟨seen, nonzero⟩] at status
      cases status
    · rw [if_neg seen] at nonzero
      exact nonzero rfl
  · rintro ⟨established, zero⟩
    obtain ⟨status, exit⟩ :=
      resourceOutcome_of_undisturbed (resourceOutcome_established_iff.mp established)
    rw [status, if_neg]
    rintro ⟨seen, nonzero⟩
    rw [exit, if_pos seen] at zero
    exact nonzero zero

end Established

/-! ## More adverse observations -/

/-- How much a systemd result speaks against an execution. -/
def ResourceSystemdResult.severity : ResourceSystemdResult → Nat
  | .success | .unknown => 0
  | .exitCode => 1
  | .oomKill | .outOfMemory | .timeout | .failed => 2

/-- An exit status of zero is the best, and no status is better than another one. -/
def exitSeverity (seen : Bool) (status : Int) : Nat :=
  if seen then if status = 0 then 0 else 2 else 1

/-- The second observation is in nothing better than the first. -/
structure NoLessAdverse (first second : ResourceOutcomeObservation) : Prop where
  exitStatus : exitSeverity first.hasExitStatus first.exitStatus ≤
    exitSeverity second.hasExitStatus second.exitStatus
  wrapperExitStatus : exitSeverity first.hasWrapperExitStatus first.wrapperExitStatus ≤
    exitSeverity second.hasWrapperExitStatus second.wrapperExitStatus
  systemdResult : first.systemdResult.severity ≤ second.systemdResult.severity
  timedOut : first.timedOut = true → second.timedOut = true
  outputLimited : first.outputLimited = true → second.outputLimited = true
  memoryHighEvents : first.memoryHighEvents ≤ second.memoryHighEvents
  memoryMaxEvents : first.memoryMaxEvents ≤ second.memoryMaxEvents
  memoryOomEvents : first.memoryOomEvents ≤ second.memoryOomEvents
  memoryOomKillEvents : first.memoryOomKillEvents ≤ second.memoryOomKillEvents
  memoryOomGroupKillEvents : first.memoryOomGroupKillEvents ≤ second.memoryOomGroupKillEvents
  processLimitEvents : first.processLimitEvents ≤ second.processLimitEvents
  cleanup : first.cleanupKnown = true → first.cleanupSucceeded = false →
    second.cleanupKnown = true ∧ second.cleanupSucceeded = false
  cancellationRequested :
    first.cancellationRequested = true → second.cancellationRequested = true
  superseded : first.superseded = true → second.superseded = true

/-- The systemd results that withhold an exit status are the worst ones. -/
theorem severity_lt_two {result : ResourceSystemdResult} :
    result.severity < 2 ↔ resourceSystemdTimedOut result = false ∧
      resourceSystemdMemoryLimited result = false ∧ resourceSystemdUnknown result = false := by
  cases result <;> decide

theorem exitSeverity_lt_two {seen : Bool} {status : Int} :
    exitSeverity seen status < 2 ↔ (seen = true → status = 0) := by
  cases seen <;> by_cases zero : status = 0 <;> simp [exitSeverity, zero]

theorem exitSeverity_eq_zero {seen : Bool} {status : Int} :
    exitSeverity seen status = 0 ↔ seen = true ∧ status = 0 := by
  cases seen <;> by_cases zero : status = 0 <;> simp [exitSeverity, zero]

theorem memoryLimited_eq_false {observation : ResourceOutcomeObservation} :
    memoryLimited observation = false ↔
      observation.memoryMaxEvents ≤ 0 ∧ observation.memoryOomEvents ≤ 0 ∧
        observation.memoryOomKillEvents ≤ 0 ∧ observation.memoryOomGroupKillEvents ≤ 0 ∧
        resourceSystemdMemoryLimited observation.systemdResult = false := by
  simp [memoryLimited, and_assoc]

/-- An execution passes exactly when nothing disturbed it and no status is nonzero. -/
theorem pass_iff_undisturbed {observation : ResourceOutcomeObservation} :
    (resourceOutcome observation).status = .pass ↔
      Undisturbed observation ∧
        exitSeverity observation.hasExitStatus observation.exitStatus < 2 := by
  rw [resourceOutcome_pass_iff, resourceOutcome_established_iff, exitSeverity_lt_two]
  refine and_congr_right fun undisturbed => ?_
  rw [(resourceOutcome_of_undisturbed undisturbed).2]
  cases observation.hasExitStatus <;> simp

private theorem eq_false_of_imp {first second : Bool} (h : first = true → second = true)
    (clear : second = false) : first = false := by
  cases first
  · rfl
  · exact absurd (h rfl) (by simp [clear])

/-- Nothing more adverse turns an outcome into a pass. -/
theorem resourceOutcome_pass_of_adverse {first second : ResourceOutcomeObservation}
    (h : NoLessAdverse first second) (pass : (resourceOutcome second).status = .pass) :
    (resourceOutcome first).status = .pass := by
  obtain ⟨clean, status⟩ := pass_iff_undisturbed.mp pass
  obtain ⟨max, oom, kill, group, limited⟩ := memoryLimited_eq_false.mp clean.inMemory
  obtain ⟨timed, unlimited, known⟩ := severity_lt_two.mp
    (h.systemdResult.trans_lt (severity_lt_two.mpr ⟨clean.inTime.2, limited, clean.known⟩))
  have wrapper : exitSeverity second.hasWrapperExitStatus second.wrapperExitStatus < 2 := by
    refine exitSeverity_lt_two.mpr fun wrapped => ?_
    rcases clean.exited with seen | ⟨_, zero⟩
    · rw [← clean.agreed seen wrapped]
      exact exitSeverity_lt_two.mp status seen
    · exact zero
  have exitZero := exitSeverity_lt_two.mp (h.exitStatus.trans_lt status)
  have wrapperZero := exitSeverity_lt_two.mp (h.wrapperExitStatus.trans_lt wrapper)
  refine pass_iff_undisturbed.mpr ⟨?_, h.exitStatus.trans_lt status⟩
  have exited : first.hasExitStatus = true ∨
      first.hasWrapperExitStatus = true ∧ first.wrapperExitStatus = 0 := by
    rcases clean.exited with seen | wrapped
    · have best := h.exitStatus
      rw [exitSeverity_eq_zero.mpr ⟨seen, exitSeverity_lt_two.mp status seen⟩] at best
      exact Or.inl (exitSeverity_eq_zero.mp (Nat.le_zero.mp best)).1
    · have best := h.wrapperExitStatus
      rw [exitSeverity_eq_zero.mpr wrapped] at best
      exact Or.inr (exitSeverity_eq_zero.mp (Nat.le_zero.mp best))
  exact
    { cleanup := by
        intro hknown
        by_contra failed
        obtain ⟨knownSecond, failedSecond⟩ := h.cleanup hknown (Bool.eq_false_iff.mpr failed)
        rw [clean.cleanup knownSecond] at failedSecond
        cases failedSecond
      current := eq_false_of_imp h.superseded clean.current
      uncancelled := eq_false_of_imp h.cancellationRequested clean.uncancelled
      inTime := ⟨eq_false_of_imp h.timedOut clean.inTime.1, timed⟩
      inMemory := memoryLimited_eq_false.mpr
        ⟨h.memoryMaxEvents.trans max, h.memoryOomEvents.trans oom,
          h.memoryOomKillEvents.trans kill, h.memoryOomGroupKillEvents.trans group, unlimited⟩
      processes := h.processLimitEvents.trans clean.processes
      output := eq_false_of_imp h.outputLimited clean.output
      pressure := h.memoryHighEvents.trans clean.pressure
      agreed := fun seen wrapped => by rw [exitZero seen, wrapperZero wrapped]
      known := known
      exited := exited }

/-! ## The host side -/

/-- The mapping `resource_outcome` of the adapter is given, with its defaults. -/
structure ResourceFacts where
  exitStatus : Option Int
  wrapperReturncode : Option Int := none
  systemdResult : String := "unknown"
  timedOut : Bool
  outputLimited : Bool
  memoryHighEvents : Int
  memoryMaxEvents : Int
  memoryOomEvents : Int
  memoryOomKillEvents : Int
  memoryOomGroupKillEvents : Int
  processLimitEvents : Int
  cleanupKnown : Bool := true
  cleanupSucceeded : Bool := true
  cancellationRequested : Bool
  superseded : Bool

def IsI64 (value : Int) : Prop := -(2 ^ 63) ≤ value ∧ value < 2 ^ 63

instance (value : Int) : Decidable (IsI64 value) := inferInstanceAs (Decidable (_ ∧ _))

def IsCounter (value : Int) : Prop := 0 ≤ value ∧ value < 2 ^ 63

instance (value : Int) : Decidable (IsCounter value) := inferInstanceAs (Decidable (_ ∧ _))

def systemdResultOf (name : String) : ResourceSystemdResult :=
  if name = "success" then .success
  else if name = "exit-code" then .exitCode
  else if name = "oom-kill" then .oomKill
  else if name = "out-of-memory" then .outOfMemory
  else if name = "timeout" then .timeout
  else if name = "failed" then .failed
  else .unknown

namespace ResourceFacts

def counterValue (key : String) (value : Int) : Except ForgeError Unit :=
  refuseIf (¬IsCounter value) "NATIVE_RESOURCE_INPUT" s!"{key} must be a nonnegative i64"

def observation (facts : ResourceFacts) : ResourceOutcomeObservation where
  hasExitStatus := facts.exitStatus.isSome
  exitStatus := facts.exitStatus.getD 0
  hasWrapperExitStatus := facts.wrapperReturncode.isSome
  wrapperExitStatus := facts.wrapperReturncode.getD 0
  systemdResult := systemdResultOf facts.systemdResult
  timedOut := facts.timedOut
  outputLimited := facts.outputLimited
  memoryHighEvents := facts.memoryHighEvents
  memoryMaxEvents := facts.memoryMaxEvents
  memoryOomEvents := facts.memoryOomEvents
  memoryOomKillEvents := facts.memoryOomKillEvents
  memoryOomGroupKillEvents := facts.memoryOomGroupKillEvents
  processLimitEvents := facts.processLimitEvents
  cleanupKnown := facts.cleanupKnown
  cleanupSucceeded := facts.cleanupSucceeded
  cancellationRequested := facts.cancellationRequested
  superseded := facts.superseded

/-- `resource_outcome` of the adapter; the language runtime is taken to run the core. -/
def resourceOutcome (facts : ResourceFacts) : Except ForgeError ResourceOutcomeResult := do
  refuseIf (∃ status ∈ facts.exitStatus, ¬IsI64 status) "NATIVE_RESOURCE_INPUT"
    "process exit status is outside the i64 ABI"
  refuseIf (∃ status ∈ facts.wrapperReturncode, ¬IsI64 status) "NATIVE_RESOURCE_INPUT"
    "wrapper exit status is outside the i64 ABI"
  counterValue "memory_high_events" facts.memoryHighEvents
  counterValue "memory_max_events" facts.memoryMaxEvents
  counterValue "memory_oom_events" facts.memoryOomEvents
  counterValue "memory_oom_kill_events" facts.memoryOomKillEvents
  counterValue "memory_oom_group_kill_events" facts.memoryOomGroupKillEvents
  counterValue "process_limit_events" facts.processLimitEvents
  .ok (Resources.resourceOutcome facts.observation)

/-- The facts fit the binary interface of the core. -/
structure InAbi (facts : ResourceFacts) : Prop where
  exitStatus : ∀ status ∈ facts.exitStatus, IsI64 status
  wrapperReturncode : ∀ status ∈ facts.wrapperReturncode, IsI64 status
  memoryHighEvents : IsCounter facts.memoryHighEvents
  memoryMaxEvents : IsCounter facts.memoryMaxEvents
  memoryOomEvents : IsCounter facts.memoryOomEvents
  memoryOomKillEvents : IsCounter facts.memoryOomKillEvents
  memoryOomGroupKillEvents : IsCounter facts.memoryOomGroupKillEvents
  processLimitEvents : IsCounter facts.processLimitEvents

theorem resourceOutcome_eq_ok {facts : ResourceFacts} {outcome : ResourceOutcomeResult} :
    facts.resourceOutcome = .ok outcome ↔
      facts.InAbi ∧ outcome = Resources.resourceOutcome facts.observation := by
  simp only [resourceOutcome, counterValue, refuseIf_bind_eq_ok, Except.ok.injEq, not_not,
    not_exists, not_and]
  constructor
  · rintro ⟨exit, wrapper, high, max, oom, kill, group, limit, h⟩
    exact ⟨⟨exit, wrapper, high, max, oom, kill, group, limit⟩, h.symm⟩
  · rintro ⟨abi, h⟩
    exact ⟨abi.exitStatus, abi.wrapperReturncode, abi.memoryHighEvents, abi.memoryMaxEvents,
      abi.memoryOomEvents, abi.memoryOomKillEvents, abi.memoryOomGroupKillEvents,
      abi.processLimitEvents, h.symm⟩

end ResourceFacts

end MncsForge.Native.Resources
