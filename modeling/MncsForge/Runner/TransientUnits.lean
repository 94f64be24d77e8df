import Mathlib
import MncsForge.Runner.ProcessEffect

/-!
# Transient units

Under an envelope a command runs in a transient unit of systemd.  Its counters
are sampled while it runs and read once more before the unit is cleaned up, and
the outcome is classified from the merged values.
-/

namespace MncsForge.Runner

open MncsForge.Foundation MncsForge.Application
open Native.Resources (ResourceSystemdResult ResourceOutcomeObservation ResourceOutcomeMetric
  NoLessAdverse Undisturbed resourceOutcome systemdResultOf)

/-! ## What is read of a unit -/

/-- What `systemctl show` lists of a unit.  A number is there where Python's `int`
reads one. -/
structure UnitProperties where
  controlGroup : Option String
  result : Option String
  activeState : Option String
  subState : Option String
  loadState : Option String
  execMainCode : Option Int
  execMainStatus : Option Int
  memoryPeak : Option Int
  tasksCurrent : Option Int
  cpuUsageNSec : Option Int

/-- The files of a cgroup that could be read as numbers. -/
structure CgroupReading where
  memoryCurrent : Option Int
  memoryPeak : Option Int
  pidsCurrent : Option Int
  pidsPeak : Option Int
  memoryEvents : Option (Dict String Int)
  pidsEvents : Option (Dict String Int)
  cpuStat : Option (Dict String Int)

abbrev Observations := Dict String Int

def presentValues (entries : List (String × Option Int)) : Observations :=
  Dict.update [] (entries.filterMap fun entry => entry.2.map fun value => (entry.1, value))

/-- `_systemd_observations`. -/
def UnitProperties.systemdObservations (properties : UnitProperties) : Observations :=
  presentValues
    [("cgroup_memory_peak_bytes", properties.memoryPeak),
      ("process_count_current", properties.tasksCurrent),
      ("cpu_time_microseconds", properties.cpuUsageNSec.map (· / 1000))]

def eventCount (event : String) (events : Dict String Int) : Int :=
  (events.get? event).getD 0

/-- `_cgroup_values`. -/
def CgroupReading.cgroupValues (reading : CgroupReading) : Observations :=
  presentValues
    [("memory_current_bytes", reading.memoryCurrent),
      ("cgroup_memory_peak_bytes", reading.memoryPeak),
      ("process_count_current", reading.pidsCurrent),
      ("process_count_peak", reading.pidsPeak),
      ("memory_oom_events", reading.memoryEvents.map (eventCount "oom")),
      ("memory_oom_kill_events", reading.memoryEvents.map (eventCount "oom_kill")),
      ("memory_oom_group_kill_events", reading.memoryEvents.map (eventCount "oom_group_kill")),
      ("memory_high_events", reading.memoryEvents.map (eventCount "high")),
      ("memory_max_events", reading.memoryEvents.map (eventCount "max")),
      ("process_limit_events", reading.pidsEvents.map (eventCount "max")),
      ("cpu_time_microseconds", reading.cpuStat.map (eventCount "usage_usec"))]

/-! ## Merging what was sampled -/

def keepsMaximum (key : String) : Bool :=
  key.endsWith "_peak" || key.endsWith "_events" ||
    ["cgroup_memory_peak_bytes", "cpu_time_nanoseconds", "process_count_peak",
      "memory_max_events", "memory_oom_events", "memory_oom_kill_events",
      "memory_oom_group_kill_events", "memory_high_events", "process_limit_events"].contains key

/-- `values.get(key, 0)`. -/
def Observations.count (values : Observations) (key : String) : Int :=
  (values.get? key).getD 0

def retain (retained : Observations) (entry : String × Int) : Observations :=
  retained.set entry.1
    (if keepsMaximum entry.1 then max (Observations.count retained entry.1) entry.2 else entry.2)

/-- `_merge_observations`. -/
def mergeObservations (previous incoming : Observations) : Observations :=
  incoming.foldl retain previous

/-- The observations that `observe_execution` has gathered from all it sampled. -/
def sampledObservations (samples : List Observations) : Observations :=
  samples.foldl mergeObservations []

section Merge

variable {key : String} {retained incoming : Observations}

theorem count_retain_le (keeps : keepsMaximum key = true) (entry : String × Int) :
    Observations.count retained key ≤ Observations.count (retain retained entry) key := by
  unfold Observations.count retain
  rw [Dict.get?_set]
  by_cases same : key = entry.1
  · subst same
    rw [if_pos rfl, if_pos keeps]
    exact le_max_left _ _
  · rw [if_neg same]

theorem le_count_retain (keeps : keepsMaximum key = true) {value : Int} :
    value ≤ Observations.count (retain retained (key, value)) key := by
  unfold Observations.count retain
  rw [Dict.get?_set, if_pos rfl, if_pos keeps]
  exact le_max_right _ _

/-- A maximum that was retained is never lowered. -/
theorem count_merge_le (keeps : keepsMaximum key = true) :
    Observations.count retained key ≤
      Observations.count (mergeObservations retained incoming) key := by
  induction incoming generalizing retained with
  | nil => exact le_refl _
  | cons entry incoming ih => exact (count_retain_le keeps entry).trans ih

theorem le_count_merge (keeps : keepsMaximum key = true) {value : Int}
    (read : (key, value) ∈ incoming) :
    value ≤ Observations.count (mergeObservations retained incoming) key := by
  induction incoming generalizing retained with
  | nil => cases read
  | cons entry incoming ih =>
      rcases List.mem_cons.mp read with rfl | later
      · exact (le_count_retain keeps).trans (count_merge_le keeps)
      · exact ih later

/-- The run of the samples: a count of any of them is retained to the end. -/
theorem le_count_samples (keeps : keepsMaximum key = true) {value : Int}
    {samples : List Observations} {sample : Observations} (sampled : sample ∈ samples)
    (read : (key, value) ∈ sample) (start : Observations) :
    value ≤ Observations.count (samples.foldl mergeObservations start) key := by
  have kept : ∀ (later : List Observations) (values : Observations),
      Observations.count values key ≤
        Observations.count (later.foldl mergeObservations values) key := by
    intro later
    induction later with
    | nil => exact fun _ => le_refl _
    | cons incoming later ih => exact fun values => (count_merge_le keeps).trans (ih _)
  induction samples generalizing start with
  | nil => cases sampled
  | cons incoming samples ih =>
      rcases List.mem_cons.mp sampled with rfl | later
      · exact (le_count_merge keeps read).trans (kept _ _)
      · exact ih later _

end Merge

/-! ## The end of a unit -/

/-- What `_cleanup_unit` finds after it has told the unit to stop. -/
structure UnitCleanup where
  hasSystemctl : Bool
  after : UnitProperties
  groupExists : String → Bool
  groupProcesses : String → Option Int
  /-- The return code of `reset-failed`, when that ran. -/
  resetFailed : Option Int

/-- `_cleanup_unit`. -/
def UnitCleanup.cleanupUnit (cleanup : UnitCleanup) (group : String) : Bool :=
  let inactive := cleanup.after.activeState ∈ [some "inactive", some "failed"]
  let dead := cleanup.after.subState ∈ [some "dead", some "failed"]
  let observedGroup := cleanup.after.controlGroup.getD ""
  let cgroupGroup := if observedGroup = "" then group else observedGroup
  let noLiveGroup := observedGroup = "" ∧ cgroupGroup = ""
  let emptyLiveGroup := cgroupGroup ≠ "" ∧
    (cleanup.groupExists cgroupGroup = false ∨ cleanup.groupProcesses cgroupGroup = some 0)
  if cleanup.hasSystemctl = false then false
  else if ¬inactive ∨ ¬dead ∨ ¬(noLiveGroup ∨ emptyLiveGroup) then false
  else if cleanup.after.loadState = some "not-found" then true
  else cleanup.resetFailed = some 0

/-- What `finish_execution` reads and is told. -/
structure FinishReadings where
  properties : UnitProperties
  live : CgroupReading
  cleanup : UnitCleanup
  environmentFileRemoved : Bool
  memoryMaxBytes : Int
  tasksMax : Int
  elapsed : Json
  timeoutSeconds : Json
  outputObserved : Json
  outputBound : Json

namespace FinishReadings

/-- The return code of the command: the status of an exit, or a negated signal. -/
def commandReturncode (readings : FinishReadings) : Option Int :=
  match readings.properties.execMainCode, readings.properties.execMainStatus with
  | some code, some status =>
      if code = 1 then some status
      else if code = 2 ∨ code = 3 then some (-status)
      else none
  | _, _ => none

def group (readings : FinishReadings) : String :=
  readings.properties.controlGroup.getD ""

def liveValues (readings : FinishReadings) : Observations :=
  if readings.group = "" then [] else readings.live.cgroupValues

def values (readings : FinishReadings) (samples : List Observations) : Observations :=
  mergeObservations
    (mergeObservations (sampledObservations samples) readings.properties.systemdObservations)
    readings.liveValues

def cleanupSucceeded (readings : FinishReadings) : Bool :=
  readings.cleanup.cleanupUnit readings.group && readings.environmentFileRemoved

/-- `finish_execution`; the metrics are those of an exhausted envelope. -/
def finishExecution (readings : FinishReadings) (samples : List Observations) :
    UnitObservations where
  commandReturncode := readings.commandReturncode
  systemdResult := readings.properties.result.getD "unknown"
  memoryHighEvents := Observations.count (readings.values samples) "memory_high_events"
  memoryMaxEvents := Observations.count (readings.values samples) "memory_max_events"
  memoryOomEvents := Observations.count (readings.values samples) "memory_oom_events"
  memoryOomKillEvents := Observations.count (readings.values samples) "memory_oom_kill_events"
  memoryOomGroupKillEvents :=
    Observations.count (readings.values samples) "memory_oom_group_kill_events"
  processLimitEvents := Observations.count (readings.values samples) "process_limit_events"
  cleanupSucceeded := readings.cleanupSucceeded
  observed
    | .memory => ((readings.values samples).get? "cgroup_memory_peak_bytes").elim .null .int
    | .processCount => ((readings.values samples).get? "process_count_peak").elim .null .int
    | .wallTime => readings.elapsed
    | .output => readings.outputObserved
    | .none => .null
  bound
    | .memory => .int readings.memoryMaxBytes
    | .processCount => .int readings.tasksMax
    | .wallTime => readings.timeoutSeconds
    | .output => readings.outputBound
    | .none => .null

end FinishReadings

/-! ## Clean executions -/

/-- The events that speak against an execution. -/
def adverseEvents : List String :=
  ["memory_high_events", "memory_max_events", "memory_oom_events", "memory_oom_kill_events",
    "memory_oom_group_kill_events", "process_limit_events"]

/-- Nothing that was read of the execution speaks against it. -/
structure CleanExecution (samples : List Observations) (readings : FinishReadings)
    (execution : Except ForgeError ExecutionResult) : Prop where
  wrapper : ∃ result, execution = .ok result ∧ result.returncode = 0
  command : ∀ status ∈ readings.commandReturncode, status = 0
  cleanup : readings.cleanup.cleanupUnit readings.group = true ∧
    readings.environmentFileRemoved = true
  systemd : ∀ result ∈ readings.properties.result,
    result ∉ ["timeout", "oom-kill", "out-of-memory", "failed"]
  events : ∀ sample ∈ readings.liveValues :: samples, ∀ event ∈ adverseEvents,
    ∀ count, (event, count) ∈ sample → count ≤ 0

section Clean

variable {samples : List Observations} {readings : FinishReadings}

theorem keepsMaximum_adverse {event : String} (h : event ∈ adverseEvents) :
    keepsMaximum event = true := by
  have listed : ∀ event ∈ adverseEvents,
      ["cgroup_memory_peak_bytes", "cpu_time_nanoseconds", "process_count_peak",
        "memory_max_events", "memory_oom_events", "memory_oom_kill_events",
        "memory_oom_group_kill_events", "memory_high_events",
        "process_limit_events"].contains event = true := by
    decide
  rw [keepsMaximum, listed event h, Bool.or_true]

/-- The classified count of an event is at least every count that was read. -/
theorem FinishReadings.le_count {event : String} (h : event ∈ adverseEvents)
    {sample : Observations} (sampled : sample ∈ readings.liveValues :: samples) {count : Int}
    (read : (event, count) ∈ sample) :
    count ≤ Observations.count (readings.values samples) event := by
  have keeps := keepsMaximum_adverse h
  unfold FinishReadings.values
  rcases List.mem_cons.mp sampled with rfl | earlier
  · exact le_count_merge keeps read
  · calc
      count ≤ Observations.count (sampledObservations samples) event :=
        le_count_samples keeps earlier read []
      _ ≤ Observations.count (mergeObservations (sampledObservations samples)
            readings.properties.systemdObservations) event := count_merge_le keeps
      _ ≤ _ := count_merge_le keeps

/-- No classified count of an undisturbed unit is positive. -/
theorem FinishReadings.count_nonpos {execution : Except ForgeError ExecutionResult}
    (h : Undisturbed ((readings.finishExecution samples).resourceFacts execution).observation)
    {event : String} (adverse : event ∈ adverseEvents) :
    Observations.count (readings.values samples) event ≤ 0 := by
  obtain ⟨max, oom, kill, group, _⟩ :=
    Native.Resources.memoryLimited_eq_false.mp h.inMemory
  have high := h.pressure
  have processes := h.processes
  simp only [adverseEvents, List.mem_cons, List.not_mem_nil, or_false] at adverse
  rcases adverse with rfl | rfl | rfl | rfl | rfl | rfl
  · exact high
  · exact max
  · exact oom
  · exact kill
  · exact group
  · exact processes

private theorem systemd_undisturbed {name : String}
    (timed : Native.Resources.resourceSystemdTimedOut (systemdResultOf name) = false)
    (limited : Native.Resources.resourceSystemdMemoryLimited (systemdResultOf name) = false)
    (known : Native.Resources.resourceSystemdUnknown (systemdResultOf name) = false) :
    name ∉ ["timeout", "oom-kill", "out-of-memory", "failed"] := by
  intro failing
  simp only [List.mem_cons, List.not_mem_nil, or_false] at failing
  rcases failing with rfl | rfl | rfl | rfl
  · cases timed
  · cases limited
  · cases limited
  · cases known

/-- A zero under an envelope stands for a clean execution. -/
theorem runBounded_clean {execution : Except ForgeError ExecutionResult}
    {accepted : ExecutionResult}
    (h : runBounded (readings.finishExecution samples) execution = .ok accepted)
    (zero : accepted.returncode = 0) : CleanExecution samples readings execution := by
  cases execution with
  | error refused =>
      obtain ⟨outcome, _, h⟩ := bind_eq_ok.mp h
      cases h
  | ok result =>
      obtain ⟨outcome, houtcome, h⟩ := bind_eq_ok.mp h
      obtain ⟨_, rfl⟩ := Native.Resources.ResourceFacts.resourceOutcome_eq_ok.mp houtcome
      simp only [acceptOutcome, refuseIf_bind_eq_ok, Bool.not_eq_false, Except.ok.injEq] at h
      obtain ⟨_, established, rfl⟩ := h
      have undisturbed := Native.Resources.resourceOutcome_established_iff.mp established
      obtain ⟨command, wrapper⟩ := Native.Resources.resourceOutcome_observed undisturbed
      have returned : ((readings.finishExecution samples).resourceFacts
          (.ok result)).observation.wrapperExitStatus = 0 := (wrapper rfl).trans zero
      exact
        { wrapper := ⟨result, rfl, returned⟩
          command := by
            intro status seen
            have seen : readings.commandReturncode = some status := seen
            have exit : ((readings.finishExecution samples).resourceFacts
                (.ok result)).observation.exitStatus = 0 := by
              refine (command ?_).trans zero
              show readings.commandReturncode.isSome = true
              rw [seen]
              rfl
            have : readings.commandReturncode.getD 0 = 0 := exit
            rwa [seen] at this
          cleanup := Bool.and_eq_true_iff.mp (undisturbed.cleanup rfl)
          systemd := by
            intro name found
            have found : readings.properties.result = some name := found
            have read : ((readings.finishExecution samples).resourceFacts
                (.ok result)).observation.systemdResult = systemdResultOf name := by
              show systemdResultOf (readings.properties.result.getD "unknown") = _
              rw [found]
              rfl
            refine systemd_undisturbed ?_ ?_ ?_
            · rw [← read]
              exact undisturbed.inTime.2
            · rw [← read]
              exact (Native.Resources.memoryLimited_eq_false.mp undisturbed.inMemory).2.2.2.2
            · rw [← read]
              exact undisturbed.known
          events := fun sample sampled event adverse count read =>
            (FinishReadings.le_count adverse sampled read).trans
              (FinishReadings.count_nonpos undisturbed adverse) }

/-- An exit status is reported for undisturbed work only, passes when it is zero,
and under an envelope a zero stands for a clean execution. -/
theorem resourceOutcome_reports :
    (∀ observation : ResourceOutcomeObservation,
      (resourceOutcome observation).hasExecutionExitStatus = true →
        Undisturbed observation ∧
        observation.systemdResult ∉
          [ResourceSystemdResult.timeout, .oomKill, .outOfMemory, .failed] ∧
        (observation.hasExitStatus = true →
          observation.exitStatus = (resourceOutcome observation).executionExitStatus) ∧
        (observation.hasWrapperExitStatus = true →
          observation.wrapperExitStatus = (resourceOutcome observation).executionExitStatus)) ∧
    (∀ observation : ResourceOutcomeObservation,
      (resourceOutcome observation).status = .pass ↔
        (resourceOutcome observation).hasExecutionExitStatus = true ∧
          (resourceOutcome observation).executionExitStatus = 0) ∧
    (∀ first second : ResourceOutcomeObservation, NoLessAdverse first second →
      (resourceOutcome first).status ≠ .pass → (resourceOutcome second).status ≠ .pass) ∧
    (∀ (samples : List Observations) (readings : FinishReadings)
        (execution : Except ForgeError ExecutionResult) (accepted : ExecutionResult),
      runBounded (readings.finishExecution samples) execution = .ok accepted →
        accepted.returncode = 0 → CleanExecution samples readings execution) := by
  refine ⟨?_, ?_, ?_, ?_⟩
  · intro observation established
    have undisturbed := Native.Resources.resourceOutcome_established_iff.mp established
    refine ⟨undisturbed, ?_, Native.Resources.resourceOutcome_observed undisturbed⟩
    have timed := undisturbed.inTime.2
    have limited := (Native.Resources.memoryLimited_eq_false.mp undisturbed.inMemory).2.2.2.2
    have known := undisturbed.known
    intro failing
    simp only [List.mem_cons, List.not_mem_nil, or_false] at failing
    rcases failing with failing | failing | failing | failing
    · rw [failing] at timed
      cases timed
    · rw [failing] at limited
      cases limited
    · rw [failing] at limited
      cases limited
    · rw [failing] at known
      cases known
  · exact fun observation => Native.Resources.resourceOutcome_pass_iff
  · exact fun first second worse fails pass =>
      fails (Native.Resources.resourceOutcome_pass_of_adverse worse pass)
  · exact fun samples readings execution accepted => runBounded_clean

end Clean

private def stoppedUnit : UnitProperties where
  controlGroup := some "/forge.slice/job.service"
  result := some "success"
  activeState := some "inactive"
  subState := some "dead"
  loadState := some "not-found"
  execMainCode := some 1
  execMainStatus := some 0
  memoryPeak := some 4096
  tasksCurrent := none
  cpuUsageNSec := some 2500

private def quietGroup : CgroupReading where
  memoryCurrent := some 0
  memoryPeak := some 8192
  pidsCurrent := some 0
  pidsPeak := some 2
  memoryEvents := some [("high", 0), ("max", 0), ("oom", 0)]
  pidsEvents := some [("max", 0)]
  cpuStat := none

private def quietReadings : FinishReadings where
  properties := stoppedUnit
  live := quietGroup
  cleanup :=
    { hasSystemctl := true
      after := stoppedUnit
      groupExists := fun _ => false
      groupProcesses := fun _ => none
      resetFailed := none }
  environmentFileRemoved := true
  memoryMaxBytes := 134217728
  tasksMax := 64
  elapsed := .null
  timeoutSeconds := .null
  outputObserved := .null
  outputBound := .null

private def earlierSample : Observations :=
  [("memory_high_events", 0), ("process_count_peak", 2)]

theorem resourceOutcome_reports_sample :
    CleanExecution [earlierSample] quietReadings (.ok ⟨0, "0.1"⟩) := by
  have run : ((runBounded (quietReadings.finishExecution [earlierSample])
      (.ok ⟨0, "0.1"⟩)).toOption.map (·.returncode)) = some 0 := by decide +kernel
  cases hrun : runBounded (quietReadings.finishExecution [earlierSample]) (.ok ⟨0, "0.1"⟩) with
  | error refused =>
      rw [hrun] at run
      cases run
  | ok accepted =>
      rw [hrun] at run
      exact resourceOutcome_reports.2.2.2 _ _ _ accepted hrun (Option.some.inj run)

/-- A command that exits with a status of its own. -/
private def exitedWithFive : ResourceOutcomeObservation where
  hasExitStatus := true
  exitStatus := 5
  hasWrapperExitStatus := false
  wrapperExitStatus := 0
  systemdResult := .exitCode
  timedOut := false
  outputLimited := false
  memoryHighEvents := 0
  memoryMaxEvents := 0
  memoryOomEvents := 0
  memoryOomKillEvents := 0
  memoryOomGroupKillEvents := 0
  processLimitEvents := 0
  cleanupKnown := true
  cleanupSucceeded := true
  cancellationRequested := false
  superseded := false

/-- Systemd calls such a command failed, and its status is reported all the same. -/
theorem resourceOutcome_reports_exitCode :
    ¬∀ observation : ResourceOutcomeObservation,
      (resourceOutcome observation).hasExecutionExitStatus = true →
        observation.systemdResult ∉
          [ResourceSystemdResult.exitCode, .timeout, .oomKill, .outOfMemory, .failed] := by
  intro h
  exact absurd (h exitedWithFive (by decide)) (by decide)

end MncsForge.Runner
