import Mathlib
import MncsForge.Native.ResourceOutcome
import MncsForge.Application.ExecutionReceipts

/-!
# The local runner

A declared command runs either as an owned process of the native process
capability or, under a resource envelope, inside a transient unit.  Both paths
have the native core classify the facts they end with; only the second one asks
the classification whether there is an exit status.
-/

namespace MncsForge.Runner

open MncsForge.Foundation MncsForge.Records MncsForge.Application
open Native.Resources (ResourceFacts ResourceOutcomeResult ResourceOutcomeMetric)
open Native.Continuous (ResourceOutcomeStatus)

/-! ## Observing an execution -/

/-- `_StreamCapture`; digests are computed when they are read. -/
structure StreamCapture where
  limitBytes : Nat
  observed : List UInt8 := []
  limitHit : Bool := false

namespace StreamCapture

def feed (capture : StreamCapture) (data : List UInt8) : StreamCapture where
  limitBytes := capture.limitBytes
  observed := capture.observed ++ data
  limitHit := capture.limitHit || capture.limitBytes < (capture.observed ++ data).length

def markLimit (capture : StreamCapture) : StreamCapture :=
  { capture with limitHit := true }

def retained (capture : StreamCapture) : List UInt8 :=
  capture.observed.take capture.limitBytes

def snapshot (sha256 : List UInt8 → String) (capture : StreamCapture) (complete : Bool) :
    StreamObservation :=
  let size := capture.observed.length
  let whole := complete && !capture.limitHit
  { totalBytes := if whole then some size else none
    retainedBytes := capture.retained.length
    retainedSha256 := if capture.retained = [] then none else some (sha256 capture.retained)
    completeSha256 := if whole ∧ size ≠ 0 then some (sha256 capture.observed) else none
    truncated := if whole then some false else if capture.limitHit then some true else none
    limitHit := capture.limitHit
    limitBytes := some capture.limitBytes }

end StreamCapture

/-- `ExecutionObservationBuilder`: what is known before the execution, with the
two captured streams. -/
structure ExecutionObservationBuilder where
  sha256 : List UInt8 → String
  before : ExecutionObservation
  stdout : StreamCapture
  stderr : StreamCapture
  startedAt : String
  endedAt : String
  elapsed : String

namespace ExecutionObservationBuilder

def termination (returncode : Int) : ExecutionTermination × Option Int :=
  if returncode = 0 then (.completed, none)
  else if returncode < 0 then (.signal, some (-returncode))
  else (.nonzeroExit, none)

def failureTermination (code : String) : ExecutionTermination :=
  if code = "TIMEOUT" then .timeout
  else if code = "OUTPUT_LIMIT" then .outputLimit
  else if code = "RESOURCE_LIMIT" ∨ code = "RESOURCE_PRESSURE" then .resourceLimit
  else if code = "RESOURCE_ENVELOPE_UNAVAILABLE" ∨ code = "RESOURCE_CONCURRENCY_LIMIT" then
    .policyRejected
  else .internalRunnerError

def aggregate (stdout stderr : StreamObservation) (complete : Bool) :
    AggregateOutputObservation where
  totalBytes :=
    match complete, stdout.totalBytes, stderr.totalBytes with
    | true, some out, some err => some (out + err)
    | _, _, _ => none
  retainedBytes := stdout.retainedBytes + stderr.retainedBytes
  limitHit := stdout.limitHit || stderr.limitHit
  limitBytes := none

def processStarted (builder : ExecutionObservationBuilder) : ExecutionObservationBuilder :=
  { builder with before := { builder.before with startedAt := some builder.startedAt } }

def resourceStarted (builder : ExecutionObservationBuilder) (envelope : Dict String Json) :
    ExecutionObservationBuilder :=
  { builder with before := { builder.before with resourceEnvelope := envelope } }

def resourceFinished (builder : ExecutionObservationBuilder)
    (observations : Dict String Json) : ExecutionObservationBuilder :=
  { builder with before := { builder.before with resourceObservations := observations } }

def observed (builder : ExecutionObservationBuilder) (complete : Bool) :
    ExecutionObservation :=
  let stdout := builder.stdout.snapshot builder.sha256 complete
  let stderr := builder.stderr.snapshot builder.sha256 complete
  { builder.before with
    endedAt := some builder.endedAt
    stdout := stdout
    stderr := stderr
    aggregateOutput := aggregate stdout stderr complete }

/-- `completed`, then `session`. -/
def completed (builder : ExecutionObservationBuilder) (result : ExecutionResult)
    (stdout stderr : List UInt8) : ExecutionSession where
  observation :=
    { builder.observed true with
      durationSeconds := some result.durationSeconds
      returncode := some result.returncode
      signal := (termination result.returncode).2
      terminationCategory := (termination result.returncode).1
      errorCode := none }
  stdout := stdout
  stderr := stderr
  result := some result
  errorCode := none
  errorMessage := none

/-- `failed`, then `session`. -/
def failed (builder : ExecutionObservationBuilder) (error : ForgeError) : ExecutionSession where
  observation :=
    { builder.observed false with
      durationSeconds := some builder.elapsed
      returncode := none
      signal := none
      terminationCategory := failureTermination error.code
      errorCode := some error.code }
  stdout := builder.stdout.retained
  stderr := builder.stderr.retained
  result := none
  errorCode := some error.code
  errorMessage := some error.message

@[simp] theorem completed_result (builder : ExecutionObservationBuilder)
    (result : ExecutionResult) (stdout stderr : List UInt8) :
    (builder.completed result stdout stderr).result = some result := rfl

@[simp] theorem failed_result (builder : ExecutionObservationBuilder) (error : ForgeError) :
    (builder.failed error).result = none := rfl

end ExecutionObservationBuilder

/-! ## Owned processes -/

inductive ProcessStatus where
  | running
  | exited
  | cancelled
  | timedOut
  | resourceExhausted
  | outputExhausted
  | unsupported
  | unknown
  deriving DecidableEq, Repr

def ProcessStatus.value : ProcessStatus → String
  | .running => "Running"
  | .exited => "Exited"
  | .cancelled => "Cancelled"
  | .timedOut => "TimedOut"
  | .resourceExhausted => "ResourceExhausted"
  | .outputExhausted => "OutputExhausted"
  | .unsupported => "Unsupported"
  | .unknown => "Unknown"

/-- A decoded observation of the process capability, whose record types the
fields. -/
structure ProcessObservation where
  status : ProcessStatus
  stdout : List UInt8
  stderr : List UInt8
  hasExitCode : Bool
  exitCode : Int
  stdoutTruncated : Bool
  stderrTruncated : Bool
  cancellationRequested : Bool
  cancellationComplete : Bool
  treeEmpty : Bool
  launcherReaped : Bool
  cleanupComplete : Bool
  hasCleanupResult : Bool
  observationComplete : Bool
  durationMs : Int
  memoryHighEvents : Int
  memoryMaxEvents : Int
  oomEvents : Int
  oomKillEvents : Int
  processLimitEvents : Int

/-- What `_native_resource_observations` has classified. -/
def ProcessObservation.resourceFacts (observation : ProcessObservation) : ResourceFacts where
  exitStatus := if observation.hasExitCode then some observation.exitCode else none
  timedOut := observation.status = .timedOut
  outputLimited := observation.status = .outputExhausted
  memoryHighEvents := observation.memoryHighEvents
  memoryMaxEvents := observation.memoryMaxEvents
  memoryOomEvents := observation.oomEvents
  memoryOomKillEvents := observation.oomKillEvents
  memoryOomGroupKillEvents := 0
  processLimitEvents := observation.processLimitEvents
  cleanupKnown := observation.hasCleanupResult
  cleanupSucceeded := observation.cleanupComplete
  cancellationRequested := observation.cancellationRequested
  superseded := false

def outcomeName : ResourceOutcomeStatus → String
  | .pass => "Pass"
  | .fail => "Fail"
  | .resourceLimit => "ResourceLimit"
  | .resourcePressure => "ResourcePressure"
  | .timeout => "Timeout"
  | .outputLimit => "OutputLimit"
  | .unknown => "Unknown"
  | .cleanupFailure => "CleanupFailure"
  | .cancelled => "Cancelled"
  | .stale => "Stale"

def metricName : ResourceOutcomeMetric → String
  | .none => "None"
  | .memory => "Memory"
  | .processCount => "ProcessCount"
  | .wallTime => "WallTime"
  | .output => "Output"

/-- The process capability during one launch: what each of its calls answers.
Observations are counted from the start. -/
structure ProcessEffectClient where
  start : Except ForgeError ProcessObservation
  observe : Nat → Except ForgeError ProcessObservation
  reap : Except ForgeError ProcessObservation

namespace ProcessEffectClient

variable (client : ProcessEffectClient)

/-- The polling loop, for as many rounds. -/
def awaitTerminal : Nat → Nat → ProcessObservation → Option (Except ForgeError ProcessObservation)
  | 0, _, _ => none
  | rounds + 1, count, observation =>
      if observation.status = .running then
        match client.observe count with
        | .error error => some (.error error)
        | .ok next => awaitTerminal rounds (count + 1) next
      else some (.ok observation)

/-- What the loop ends with is reaped unless it is cleaned up already. -/
def terminal (rounds : Nat) (started : ProcessObservation) :
    Option (Except ForgeError ProcessObservation) :=
  (client.awaitTerminal rounds 0 started).map fun ended => do
    let observation ← ended
    if observation.cleanupComplete then .ok observation else client.reap

end ProcessEffectClient

/-- The resource envelope of a runner: its budget as a mapping, and what refuses
executions while it is unavailable. -/
structure ResourceEnvelope where
  budget : Dict String Json
  limitation : Option String

/-- A runner with the native adapter as its process capability; `seconds` turns
milliseconds into the text of the seconds. -/
structure LocalProcessRunner where
  generation : Option Int
  cancelledGenerations : List Int
  envelope : Option ResourceEnvelope
  timeout : String
  seconds : Int → String

namespace LocalProcessRunner

variable (runner : LocalProcessRunner)

/-- The refusals before a process is started. -/
def launchRefusal : Except ForgeError Unit := do
  refuseIf (∃ generation ∈ runner.generation, generation ∈ runner.cancelledGenerations)
    "EXECUTION_CANCELLED"
    "the semantic owner cancelled this generation before process launch"
  match runner.envelope.bind ResourceEnvelope.limitation with
  | some limitation => .error ⟨"RESOURCE_ENVELOPE_UNAVAILABLE", limitation⟩
  | none => .ok ()

/-- `_native_resource_observations`; `handleIdentity` is the type identity of the
process handle. -/
def nativeResourceObservations (handleIdentity : Json) (observation : ProcessObservation) :
    Except ForgeError (Dict String Json) := do
  let facts := observation.resourceFacts
  let outcome ← facts.resourceOutcome
  let raw := document
    [("exit_status", match facts.exitStatus with
      | none => .null
      | some status => .int status),
     ("timed_out", .bool facts.timedOut),
     ("output_limited", .bool facts.outputLimited),
     ("memory_high_events", .int facts.memoryHighEvents),
     ("memory_max_events", .int facts.memoryMaxEvents),
     ("memory_oom_events", .int facts.memoryOomEvents),
     ("memory_oom_kill_events", .int facts.memoryOomKillEvents),
     ("memory_oom_group_kill_events", .int facts.memoryOomGroupKillEvents),
     ("process_limit_events", .int facts.processLimitEvents),
     ("cleanup_known", .bool facts.cleanupKnown),
     ("cleanup_succeeded", .bool facts.cleanupSucceeded),
     ("cancellation_requested", .bool facts.cancellationRequested),
     ("superseded", .bool facts.superseded)]
  .ok (Dict.update []
    [("process_status", .str observation.status.value),
     ("process_observation_complete", .bool observation.observationComplete),
     ("tree_empty", .bool observation.treeEmpty),
     ("launcher_reaped", .bool observation.launcherReaped),
     ("cleanup_complete", .bool observation.cleanupComplete),
     ("cancellation_requested", .bool observation.cancellationRequested),
     ("cancellation_complete", .bool observation.cancellationComplete),
     ("resource_observations", raw),
     ("execution_handle_identity", handleIdentity),
     ("resource_outcome", .str (outcomeName outcome.status)),
     ("resource_exhausted", .bool outcome.resourceExhausted),
     ("verification_deferred", .bool outcome.deferred),
     ("native_execution_returncode_available", .bool outcome.hasExecutionExitStatus),
     ("native_execution_returncode", .int outcome.executionExitStatus),
     ("resource_metric", .str (metricName outcome.metric)),
     ("resource_bound",
       if outcome.metric = .wallTime then .float runner.timeout else .null),
     ("resource_observed",
       if outcome.metric = .wallTime then .float (runner.seconds observation.durationMs)
       else if outcome.metric = .output then
         .int (max observation.stdout.length observation.stderr.length : Nat)
       else .null)])

def lifecycleError (status : ProcessStatus) : ForgeError where
  code :=
    match status with
    | .cancelled => "EXECUTION_CANCELLED"
    | .timedOut => "TIMEOUT"
    | .resourceExhausted => "RESOURCE_LIMIT"
    | .outputExhausted => "OUTPUT_LIMIT"
    | .running | .exited | .unsupported | .unknown => "PROCESS_CLEANUP_UNKNOWN"
  message := s!"MNCS process lifecycle ended as {status.value}; " ++
    "cleanup must be established before accepting a result"

/-- The end of `_run_process_effect`: the session for a terminal observation. -/
def settle (handleIdentity : Json) (builder : ExecutionObservationBuilder)
    (observation : ProcessObservation) : ExecutionSession :=
  match runner.nativeResourceObservations handleIdentity observation with
  | .error error => builder.failed error
  | .ok resourceObservations =>
      let builder := builder.resourceFinished resourceObservations
      if observation.status = .exited ∧ observation.cleanupComplete then
        if observation.hasExitCode then
          let stdout := builder.stdout.feed observation.stdout
          let stderr := builder.stderr.feed observation.stderr
          let builder :=
            { builder with
              stdout := if observation.stdoutTruncated then stdout.markLimit else stdout
              stderr := if observation.stderrTruncated then stderr.markLimit else stderr }
          builder.completed ⟨observation.exitCode, runner.seconds observation.durationMs⟩
            observation.stdout observation.stderr
        else builder.failed
          ⟨"PROCESS_CLEANUP_UNKNOWN", "MNCS process exited without an established exit status"⟩
      else builder.failed (lifecycleError observation.status)

def started (builder : ExecutionObservationBuilder) : ExecutionObservationBuilder :=
  match runner.envelope with
  | none => builder.processStarted
  | some envelope => builder.processStarted.resourceStarted envelope.budget

/-- `_run_process_effect`: nothing while the process runs on. -/
def runProcessEffect (client : ProcessEffectClient) (handleIdentity : Json)
    (builder : ExecutionObservationBuilder) (rounds : Nat) : Option ExecutionSession :=
  match runner.launchRefusal, client.start with
  | .error error, _ => some (builder.failed error)
  | .ok (), .error error => some (builder.failed error)
  | .ok (), .ok started =>
      (client.terminal rounds started).map fun
        | .error error => (runner.started builder).failed error
        | .ok observation => runner.settle handleIdentity (runner.started builder) observation

/-- The observation a launch ends with, if it gets that far. -/
def terminalObservation (client : ProcessEffectClient) (rounds : Nat) :
    Option ProcessObservation :=
  match runner.launchRefusal, client.start with
  | .ok (), .ok started => (client.terminal rounds started).bind Except.toOption
  | _, _ => none

end LocalProcessRunner

/-! ## Transient units -/

/-- What `finish_execution` finds out about a transient unit. -/
structure UnitObservations where
  commandReturncode : Option Int
  systemdResult : String
  memoryHighEvents : Int
  memoryMaxEvents : Int
  memoryOomEvents : Int
  memoryOomKillEvents : Int
  memoryOomGroupKillEvents : Int
  processLimitEvents : Int
  cleanupSucceeded : Bool
  observed : ResourceOutcomeMetric → Json
  bound : ResourceOutcomeMetric → Json

/-- The facts `finish_execution` has classified after a bounded process. -/
def UnitObservations.resourceFacts (unit : UnitObservations)
    (execution : Except ForgeError ExecutionResult) : ResourceFacts where
  exitStatus := unit.commandReturncode
  wrapperReturncode :=
    match execution with
    | .ok result => some result.returncode
    | .error _ => none
  systemdResult := unit.systemdResult
  timedOut :=
    match execution with
    | .ok _ => false
    | .error error => error.code = "TIMEOUT"
  outputLimited :=
    match execution with
    | .ok _ => false
    | .error error => error.code = "OUTPUT_LIMIT"
  memoryHighEvents := unit.memoryHighEvents
  memoryMaxEvents := unit.memoryMaxEvents
  memoryOomEvents := unit.memoryOomEvents
  memoryOomKillEvents := unit.memoryOomKillEvents
  memoryOomGroupKillEvents := unit.memoryOomGroupKillEvents
  processLimitEvents := unit.processLimitEvents
  cleanupKnown := true
  cleanupSucceeded := unit.cleanupSucceeded
  cancellationRequested := false
  superseded := false

/-- The metric as the evidence of an exhausted envelope names it. -/
def envelopeMetric : ResourceOutcomeMetric → String
  | .none => "declared-limit"
  | .memory => "host-memory-peak"
  | .processCount => "process-count"
  | .wallTime => "wall-duration"
  | .output => "output-bytes"

/-- What `run_bounded` makes of a classified execution. -/
def acceptOutcome (unit : UnitObservations) (outcome : ResourceOutcomeResult)
    (execution : Except ForgeError ExecutionResult) : Except ForgeError ExecutionResult :=
  match execution with
  | .error error => .error error
  | .ok result => do
      refuseIf (outcome.resourceExhausted = true) "RESOURCE_LIMIT"
        (s!"verifier exceeded its {envelopeMetric outcome.metric} envelope " ++
          s!"(observed={(unit.observed outcome.metric).display}, " ++
          s!"bound={(unit.bound outcome.metric).display})")
      refuseIf (outcome.hasExecutionExitStatus = false) "RESOURCE_EXECUTION_UNKNOWN"
        "MNCS resource outcome did not establish an execution exit status"
      .ok ⟨outcome.executionExitStatus, result.durationSeconds⟩

/-- `run_bounded` under an envelope, after the bounded process. -/
def runBounded (unit : UnitObservations) (execution : Except ForgeError ExecutionResult) :
    Except ForgeError ExecutionResult := do
  let outcome ← (unit.resourceFacts execution).resourceOutcome
  acceptOutcome unit outcome execution

/-! ## Which executions become evidence -/

/-- The classification of the observation establishes the exit status of the
result. -/
def Establishes (observation : ProcessObservation) (result : ExecutionResult) : Prop :=
  ∃ outcome, observation.resourceFacts.resourceOutcome = .ok outcome ∧
    outcome.hasExecutionExitStatus = true ∧ result.returncode = outcome.executionExitStatus

/-- The bounded path accepts the result on the same classification. -/
def BoundedAccepts (unit : UnitObservations) (observation : ProcessObservation)
    (result : ExecutionResult) : Prop :=
  ∃ outcome, observation.resourceFacts.resourceOutcome = .ok outcome ∧
    acceptOutcome unit outcome (.ok result) = .ok result

/-- The process has exited with an exit code and is cleaned up. -/
structure Settled (observation : ProcessObservation) : Prop where
  exited : observation.status = .exited
  cleaned : observation.cleanupComplete = true
  coded : observation.hasExitCode = true
  abi : observation.resourceFacts.InAbi

/-- Nobody asked to cancel, and no limit was touched. -/
structure Untouched (observation : ProcessObservation) : Prop where
  uncancelled : observation.cancellationRequested = false
  high : observation.memoryHighEvents = 0
  max : observation.memoryMaxEvents = 0
  oom : observation.oomEvents = 0
  oomKill : observation.oomKillEvents = 0
  processes : observation.processLimitEvents = 0

section Evidence

variable {runner : LocalProcessRunner} {observation : ProcessObservation} {handleIdentity : Json}
  {builder : ExecutionObservationBuilder} {result : ExecutionResult}

/-- The evidence is read off the facts whenever they fit the core. -/
private theorem nativeResourceObservations_ok :
    (∃ evidence, runner.nativeResourceObservations handleIdentity observation = .ok evidence) ↔
      observation.resourceFacts.InAbi := by
  constructor
  · rintro ⟨evidence, h⟩
    obtain ⟨outcome, houtcome, _⟩ := bind_eq_ok.mp h
    exact (ResourceFacts.resourceOutcome_eq_ok.mp houtcome).1
  · intro abi
    exact ⟨_, bind_eq_ok.mpr ⟨_, ResourceFacts.resourceOutcome_eq_ok.mpr ⟨abi, rfl⟩, rfl⟩⟩

theorem settle_result_iff :
    (runner.settle handleIdentity builder observation).result = some result ↔
      Settled observation ∧
        result = ⟨observation.exitCode, runner.seconds observation.durationMs⟩ := by
  have known : (∃ evidence,
      runner.nativeResourceObservations handleIdentity observation = .ok evidence) ↔
        observation.resourceFacts.InAbi := nativeResourceObservations_ok
  unfold LocalProcessRunner.settle
  cases hevidence : runner.nativeResourceObservations handleIdentity observation with
  | error error =>
      simp only [ExecutionObservationBuilder.failed_result, reduceCtorEq, false_iff]
      rintro ⟨settled, _⟩
      obtain ⟨evidence, h⟩ := known.mpr settled.abi
      rw [hevidence] at h
      cases h
  | ok evidence =>
      have abi := known.mp ⟨evidence, hevidence⟩
      by_cases ended : observation.status = .exited ∧ observation.cleanupComplete = true
      · by_cases coded : observation.hasExitCode = true
        · simp only [if_pos ended, if_pos coded, ExecutionObservationBuilder.completed_result,
            Option.some.injEq]
          exact ⟨fun same => ⟨⟨ended.1, ended.2, coded, abi⟩, same.symm⟩, fun h => h.2.symm⟩
        · simp only [if_pos ended, if_neg coded, ExecutionObservationBuilder.failed_result,
            reduceCtorEq, false_iff]
          exact fun h => coded h.1.coded
      · simp only [if_neg ended, ExecutionObservationBuilder.failed_result, reduceCtorEq,
          false_iff]
        exact fun h => ended ⟨h.1.exited, h.1.cleaned⟩

/-- For a settled process, what interferes with its exit status is a request to
cancel it or a limit it touched. -/
theorem undisturbed_iff (settled : Settled observation) :
    Native.Resources.Undisturbed observation.resourceFacts.observation ↔
      Untouched observation := by
  have coded := settled.coded
  have high := settled.abi.memoryHighEvents
  have max := settled.abi.memoryMaxEvents
  have oom := settled.abi.memoryOomEvents
  have kill := settled.abi.memoryOomKillEvents
  have processes := settled.abi.processLimitEvents
  simp only [ProcessObservation.resourceFacts, Native.Resources.IsCounter]
    at high max oom kill processes
  constructor
  · intro h
    have hhigh := h.pressure
    have hmemory := h.inMemory
    have hprocesses := h.processes
    simp only [ResourceFacts.observation, ProcessObservation.resourceFacts,
      Native.Resources.memoryLimited, Bool.or_eq_false_iff, decide_eq_false_iff_not, not_lt,
      gt_iff_lt] at hhigh hmemory hprocesses
    exact ⟨h.uncancelled, by omega, by omega, by omega, by omega, by omega⟩
  · intro h
    exact
      { cleanup := fun _ => settled.cleaned
        current := rfl
        uncancelled := h.uncancelled
        inTime := by
          simp [ResourceFacts.observation, ProcessObservation.resourceFacts, settled.exited,
            Native.Resources.systemdResultOf, Native.Resources.resourceSystemdTimedOut]
        inMemory := by
          simp [ResourceFacts.observation, ProcessObservation.resourceFacts,
            Native.Resources.memoryLimited, Native.Resources.systemdResultOf,
            Native.Resources.resourceSystemdMemoryLimited, h.max, h.oom, h.oomKill]
        processes := h.processes.le
        output := by
          simp [ResourceFacts.observation, ProcessObservation.resourceFacts, settled.exited]
        pressure := h.high.le
        agreed := fun _ wrapped => by cases wrapped
        known := by
          simp [ResourceFacts.observation, ProcessObservation.resourceFacts,
            Native.Resources.systemdResultOf, Native.Resources.resourceSystemdUnknown]
        exited := Or.inl (by
          simp [ResourceFacts.observation, ProcessObservation.resourceFacts, coded]) }

theorem acceptOutcome_iff {unit : UnitObservations} {outcome : ResourceOutcomeResult} :
    acceptOutcome unit outcome (.ok result) = .ok result ↔
      outcome.resourceExhausted = false ∧ outcome.hasExecutionExitStatus = true ∧
        result.returncode = outcome.executionExitStatus := by
  obtain ⟨returncode, duration⟩ := result
  simp only [acceptOutcome, refuseIf_bind_eq_ok, Except.ok.injEq, ExecutionResult.mk.injEq,
    and_true, Bool.not_eq_true, Bool.not_eq_false]
  rw [eq_comm (a := outcome.executionExitStatus)]

/-- Under an envelope exactly the undisturbed executions are accepted. -/
theorem runBounded_accepts_iff {unit : UnitObservations} :
    (∃ accepted, runBounded unit (.ok result) = .ok accepted) ↔
      (unit.resourceFacts (.ok result)).InAbi ∧
        Native.Resources.Undisturbed (unit.resourceFacts (.ok result)).observation := by
  constructor
  · rintro ⟨accepted, h⟩
    obtain ⟨outcome, houtcome, h⟩ := bind_eq_ok.mp h
    obtain ⟨abi, rfl⟩ := ResourceFacts.resourceOutcome_eq_ok.mp houtcome
    simp only [acceptOutcome, refuseIf_bind_eq_ok, Bool.not_eq_false] at h
    exact ⟨abi, Native.Resources.resourceOutcome_established_iff.mp h.2.1⟩
  · rintro ⟨abi, undisturbed⟩
    let outcome := Native.Resources.resourceOutcome (unit.resourceFacts (.ok result)).observation
    refine ⟨⟨outcome.executionExitStatus, result.durationSeconds⟩,
      bind_eq_ok.mpr ⟨outcome, ResourceFacts.resourceOutcome_eq_ok.mpr ⟨abi, rfl⟩, ?_⟩⟩
    simp only [acceptOutcome, refuseIf_bind_eq_ok]
    have unexhausted : outcome.resourceExhausted = false :=
      Native.Resources.resourceOutcome_unexhausted undisturbed
    have established : outcome.hasExecutionExitStatus = true :=
      Native.Resources.resourceOutcome_established_iff.mpr undisturbed
    simp [unexhausted, established]

theorem boundedAccepts_iff {unit : UnitObservations} :
    BoundedAccepts unit observation result ↔ Establishes observation result := by
  constructor
  · rintro ⟨outcome, houtcome, accepted⟩
    exact ⟨outcome, houtcome, (acceptOutcome_iff.mp accepted).2⟩
  · rintro ⟨outcome, houtcome, established, same⟩
    refine ⟨outcome, houtcome, acceptOutcome_iff.mpr ⟨?_, established, same⟩⟩
    obtain ⟨_, rfl⟩ := ResourceFacts.resourceOutcome_eq_ok.mp houtcome
    exact Native.Resources.resourceOutcome_unexhausted
      (Native.Resources.resourceOutcome_established_iff.mp established)

/-- The facts of an observation have no wrapper, so an exit status is the exit
code. -/
theorem establishes_iff :
    Establishes observation result ↔
      observation.resourceFacts.InAbi ∧
        Native.Resources.Undisturbed observation.resourceFacts.observation ∧
        observation.hasExitCode = true ∧ result.returncode = observation.exitCode := by
  have coded : ∀ h : Native.Resources.Undisturbed observation.resourceFacts.observation,
      observation.resourceFacts.observation.hasExitStatus = true := fun h =>
    h.exited.resolve_right fun wrapped => by cases wrapped.1
  have status : observation.hasExitCode = true →
      observation.resourceFacts.observation.exitStatus = observation.exitCode := fun h => by
    simp [ResourceFacts.observation, ProcessObservation.resourceFacts, h]
  have seen : observation.resourceFacts.observation.hasExitStatus = observation.hasExitCode := by
    cases h : observation.hasExitCode <;>
      simp [ResourceFacts.observation, ProcessObservation.resourceFacts, h]
  constructor
  · rintro ⟨outcome, houtcome, established, same⟩
    obtain ⟨abi, rfl⟩ := ResourceFacts.resourceOutcome_eq_ok.mp houtcome
    have undisturbed := Native.Resources.resourceOutcome_established_iff.mp established
    have hcoded := coded undisturbed
    refine ⟨abi, undisturbed, seen ▸ hcoded, ?_⟩
    rw [same, Native.Resources.resourceOutcome_exitStatus undisturbed hcoded,
      status (seen ▸ hcoded)]
  · rintro ⟨abi, undisturbed, hcoded, same⟩
    refine ⟨_, ResourceFacts.resourceOutcome_eq_ok.mpr ⟨abi, rfl⟩,
      Native.Resources.resourceOutcome_established_iff.mpr undisturbed, ?_⟩
    rw [same, Native.Resources.resourceOutcome_exitStatus undisturbed (coded undisturbed),
      status hcoded]

/-! ### Runs of the process effect -/

variable {client : ProcessEffectClient} {rounds : Nat} {session : ExecutionSession}

/-- A session has a result when it was settled with one. -/
private theorem session_result_iff
    (h : runner.runProcessEffect client handleIdentity builder rounds = some session) :
    session.result = some result ↔
      ∃ observation, runner.terminalObservation client rounds = some observation ∧
        Settled observation ∧
        result = ⟨observation.exitCode, runner.seconds observation.durationMs⟩ := by
  unfold LocalProcessRunner.runProcessEffect at h
  unfold LocalProcessRunner.terminalObservation
  cases hlaunch : runner.launchRefusal with
  | error error =>
      rw [hlaunch] at h
      obtain rfl := Option.some.inj h
      simp
  | ok allowed =>
      cases hstart : client.start with
      | error error =>
          rw [hlaunch, hstart] at h
          obtain rfl := Option.some.inj h
          simp
      | ok started =>
          rw [hlaunch, hstart] at h
          obtain ⟨ended, hended, h⟩ := Option.map_eq_some_iff.mp h
          cases ended with
          | error error =>
              obtain rfl := h
              simp [hended, Except.toOption]
          | ok observation =>
              obtain rfl := h
              simp only [hended, Option.bind_some, Except.toOption, Option.some.injEq,
                exists_eq_left']
              exact settle_result_iff

end Evidence

/-- A session of the process effect has a result only for an exit status the
classification establishes, and for processes that exited and are cleaned up the
bounded path accepts the same executions, exactly when no settled process was
asked to cancel or had touched a limit. -/
theorem LocalProcessRunner.runProcessEffect_established_iff (runner : LocalProcessRunner)
    (client : ProcessEffectClient) (handleIdentity : Json)
    (builder : ExecutionObservationBuilder) (rounds : Nat) (unit : UnitObservations)
    {session : ExecutionSession}
    (h : runner.runProcessEffect client handleIdentity builder rounds = some session) :
    ((∀ result, session.result = some result →
        ∃ observation, runner.terminalObservation client rounds = some observation ∧
          Establishes observation result ∧ BoundedAccepts unit observation result) ∧
      ∀ observation, runner.terminalObservation client rounds = some observation →
        observation.status = .exited → observation.cleanupComplete = true →
          ((∃ result, session.result = some result) ↔
            ∃ result, BoundedAccepts unit observation result)) ↔
    ∀ observation, runner.terminalObservation client rounds = some observation →
      Settled observation → Untouched observation := by
  constructor
  · rintro ⟨established, _⟩ observation hobservation settled
    obtain ⟨other, hother, establishes, _⟩ := established _
      ((session_result_iff h).mpr ⟨observation, hobservation, settled, rfl⟩)
    obtain rfl := Option.some.inj (hobservation.symm.trans hother)
    exact (undisturbed_iff settled).mp (establishes_iff.mp establishes).2.1
  · intro untouched
    have establishes : ∀ observation,
        runner.terminalObservation client rounds = some observation → Settled observation →
          ∀ result : ExecutionResult, result.returncode = observation.exitCode →
            Establishes observation result := by
      intro observation hobservation settled result same
      exact establishes_iff.mpr ⟨settled.abi,
        (undisturbed_iff settled).mpr (untouched observation hobservation settled),
        settled.coded, same⟩
    constructor
    · intro result hresult
      obtain ⟨observation, hobservation, settled, rfl⟩ := (session_result_iff h).mp hresult
      have := establishes observation hobservation settled
        ⟨observation.exitCode, runner.seconds observation.durationMs⟩ rfl
      exact ⟨observation, hobservation, this, boundedAccepts_iff.mpr this⟩
    · intro observation hobservation exited cleaned
      constructor
      · rintro ⟨result, hresult⟩
        obtain ⟨other, hother, settled, rfl⟩ := (session_result_iff h).mp hresult
        obtain rfl := Option.some.inj (hobservation.symm.trans hother)
        exact ⟨_, boundedAccepts_iff.mpr (establishes observation hobservation settled
          ⟨observation.exitCode, runner.seconds observation.durationMs⟩ rfl)⟩
      · rintro ⟨result, accepted⟩
        obtain ⟨abi, _, coded, _⟩ := establishes_iff.mp (boundedAccepts_iff.mp accepted)
        exact ⟨_, (session_result_iff h).mpr
          ⟨observation, hobservation, ⟨exited, cleaned, coded, abi⟩, rfl⟩⟩

/-! ## Sample executions -/

/-- A process that exited with zero and was cleaned up. -/
def sampleExit (oomKillEvents : Int) : ProcessObservation where
  status := .exited
  stdout := []
  stderr := []
  hasExitCode := true
  exitCode := 0
  stdoutTruncated := false
  stderrTruncated := false
  cancellationRequested := false
  cancellationComplete := false
  treeEmpty := true
  launcherReaped := true
  cleanupComplete := true
  hasCleanupResult := true
  observationComplete := true
  durationMs := 10
  memoryHighEvents := 0
  memoryMaxEvents := 0
  oomEvents := 0
  oomKillEvents := oomKillEvents
  processLimitEvents := 0

def sampleClient (oomKillEvents : Int) : ProcessEffectClient where
  start := .ok { sampleExit oomKillEvents with status := .running, cleanupComplete := false }
  observe _ := .ok (sampleExit oomKillEvents)
  reap := .ok (sampleExit oomKillEvents)

def sampleRunner : LocalProcessRunner where
  generation := none
  cancelledGenerations := []
  envelope := none
  timeout := "30.0"
  seconds _ := "0.01"

def sampleUnit : UnitObservations where
  commandReturncode := some 0
  systemdResult := "success"
  memoryHighEvents := 0
  memoryMaxEvents := 0
  memoryOomEvents := 0
  memoryOomKillEvents := 0
  memoryOomGroupKillEvents := 0
  processLimitEvents := 0
  cleanupSucceeded := true
  observed _ := .null
  bound _ := .null

def sampleBuilder : ExecutionObservationBuilder where
  sha256 _ := "00"
  before :=
    { commandIdentity := "01"
      cwdIdentity := "02"
      environmentIdentity := "03"
      stdinIdentity := "04"
      timeoutSeconds := "30.0"
      stdoutLimit := 1024
      stderrLimit := 1024
      startedAt := none
      endedAt := none
      durationSeconds := none
      returncode := none
      signal := none
      terminationCategory := .internalRunnerError
      stdout := ⟨none, 0, none, none, none, false, some 1024⟩
      stderr := ⟨none, 0, none, none, none, false, some 1024⟩
      aggregateOutput := ⟨none, 0, false, none⟩
      capabilities :=
        { runnerKind := "local-process", runnerVersion := "1", osFamily := "linux"
          architecture := "x86_64", executionScope := "local", shellExecution := "disabled"
          timeoutEnforcement := .enforced, stdoutLimit := .enforced, stderrLimit := .enforced
          processGroupTermination := .enforced, sandboxIsolation := .notProvided
          networkIsolation := .notProvided, filesystemIsolation := .notProvided }
      runnerIdentity := "runner.local-process-v1"
      runnerVersion := "1"
      executableIdentity := none
      runtimeIdentity := none
      errorCode := none
      workerIdentity := none
      hostIdentity := none
      imageIdentity := none
      placementIdentity := none
      filesystemPolicy := "unrestricted-process-workspace"
      networkPolicy := "ambient-process-network"
      sameOperator := some true
      resourceEnvelope := []
      resourceObservations := [] }
  stdout := ⟨1024, [], false⟩
  stderr := ⟨1024, [], false⟩
  startedAt := "2024"
  endedAt := "2024"
  elapsed := "0.01"

def sampleSession (oomKillEvents : Int) : Option ExecutionSession :=
  sampleRunner.runProcessEffect (sampleClient oomKillEvents) .null sampleBuilder 2

private theorem sample_terminal (oomKillEvents : Int) :
    sampleRunner.terminalObservation (sampleClient oomKillEvents) 2 =
      some (sampleExit oomKillEvents) := rfl

private theorem sample_settled {oomKillEvents : Int}
    (counter : Native.Resources.IsCounter oomKillEvents) : Settled (sampleExit oomKillEvents) := by
  have zero : Native.Resources.IsCounter 0 := by decide
  refine ⟨rfl, rfl, rfl, ?_⟩
  exact
    { exitStatus := by
        intro status hstatus
        obtain rfl : (0 : Int) = status := Option.some.inj hstatus
        decide
      wrapperReturncode := fun _ h => by cases h
      memoryHighEvents := zero
      memoryMaxEvents := zero
      memoryOomEvents := zero
      memoryOomKillEvents := counter
      memoryOomGroupKillEvents := zero
      processLimitEvents := zero }

private theorem sampleSession_result {oomKillEvents : Int}
    (counter : Native.Resources.IsCounter oomKillEvents) :
    ∃ session, sampleSession oomKillEvents = some session ∧
      session.result = some ⟨0, "0.01"⟩ := by
  refine ⟨_, rfl, ?_⟩
  exact (session_result_iff rfl).mpr
    ⟨_, sample_terminal oomKillEvents, sample_settled counter, rfl⟩

/-- A clean exit becomes evidence on both paths. -/
theorem runProcessEffect_established_iff_sample :
    ∃ session result, sampleSession 0 = some session ∧ session.result = some result ∧
      Establishes (sampleExit 0) result ∧ BoundedAccepts sampleUnit (sampleExit 0) result := by
  obtain ⟨session, hsession, hresult⟩ := sampleSession_result
    (show Native.Resources.IsCounter 0 by decide)
  obtain ⟨accepted, _⟩ := (LocalProcessRunner.runProcessEffect_established_iff sampleRunner
    (sampleClient 0) .null sampleBuilder 2 sampleUnit hsession).mpr fun observation h _ => by
      obtain rfl := Option.some.inj ((sample_terminal 0).symm.trans h)
      exact ⟨rfl, rfl, rfl, rfl, rfl, rfl⟩
  obtain ⟨observation, hobservation, established, bounded⟩ := accepted _ hresult
  obtain rfl := Option.some.inj ((sample_terminal 0).symm.trans hobservation)
  exact ⟨session, _, hsession, hresult, established, bounded⟩

/-- A process of whose tree something was killed for memory becomes evidence of
the process effect, although its classification establishes no exit status. -/
theorem runProcessEffect_accepts_oomKilled :
    ∃ session result, sampleSession 1 = some session ∧ session.result = some result ∧
      ¬Establishes (sampleExit 1) result ∧ ¬BoundedAccepts sampleUnit (sampleExit 1) result := by
  obtain ⟨session, hsession, hresult⟩ := sampleSession_result
    (show Native.Resources.IsCounter 1 by decide)
  have disturbed : ¬Establishes (sampleExit 1) ⟨0, "0.01"⟩ := by
    intro h
    have untouched := (undisturbed_iff (sample_settled (by decide))).mp (establishes_iff.mp h).2.1
    exact absurd untouched.oomKill (by decide)
  exact ⟨session, _, hsession, hresult, disturbed, fun h => disturbed (boundedAccepts_iff.mp h)⟩

end MncsForge.Runner
