import Mathlib
import MncsForge.Continuous.MicroVerification

/-!
# Processing an event

`ContinuousSupervisor._process_event` discards a stale event, runs Safe Doctor for
the triggers that ask for it and, unless that changed a file, the other actions
of the matching triggers.  What the actions, the Doctor and the Language Service
answer is given from outside.
-/

namespace MncsForge.Continuous

open MncsForge.Native MncsForge.Native.Continuous

/-! ## Safe Doctor -/

structure ConvergenceRound where
  iterations : Int
  applied : List String

/-- The parts of a Doctor report that `_doctor_safe` reads. -/
structure DoctorReport where
  planned : Bool
  convergence : List ConvergenceRound := []
  fixIdentities : List String := []
  migrationRuleIdentities : List String := []
  migrationSteps : List String := []
  verification : Option String := none
  exitCode : Int := 4

structure Repair where
  originalWorkspaceGeneration : Int
  originalSourceIdentity : String
  resultingSourceIdentity : Option String
  doctorFixIdentities : List String
  migrationRuleIdentities : List String
  repairRounds : Int
  validationStatus : String
  failureConflictReason : Option String
  deriving DecidableEq, Repr

/-- What `_doctor_safe` gets from outside: the configuration, the two reports of the
Doctor, and the Language Service before and after.  What goes wrong when the repair
is recorded is noted in the record only. -/
structure DoctorWorld where
  configured : Bool := true
  relative : Except ForgeError String
  identityBefore : Option String
  dryRun : Option DoctorReport
  applied : Option DoctorReport
  refresh : Except ForgeError Unit
  identityAfter : Option String

/-- The result of an action; only Safe Doctor leaves a repair. -/
structure ActionResult where
  status : String
  reason : Option String := none
  repair : Option Repair := none
  escalated : Option String := none
  deriving DecidableEq, Repr

/-- `sorted(set(identities))`. -/
def sortedIdentities (identities : List String) : List String :=
  identities.dedup.mergeSort

/-- A list that is not empty, or the other one. -/
def orElseList (first second : List String) : List String :=
  if first = [] then second else first

def unvalidated (reason escalation : String) : ActionResult where
  status := "UNKNOWN"
  reason := some reason
  escalated := some escalation

namespace DoctorWorld

variable (world : DoctorWorld)

/-- What went wrong after the repair was applied. -/
def failureConflictReason : Option String :=
  match world.refresh with
  | .error error => some error.message
  | .ok _ =>
      match world.identityAfter with
      | none => some "Language Service did not publish the repaired source identity"
      | some _ => none

def resultingSourceIdentity : Option String :=
  match world.refresh with
  | .error _ => none
  | .ok _ => world.identityAfter

def repairRounds (report : DoctorReport) : Int :=
  let rounds :=
    match report.convergence.map (·.iterations) with
    | [] => 0
    | first :: rest => rest.foldl max first
  if rounds = 0 then 1 else rounds

def repair (event : SourceEvent) (dryRun report : DoctorReport) : Repair where
  originalWorkspaceGeneration := event.currentGeneration
  originalSourceIdentity := event.identity
  resultingSourceIdentity := world.resultingSourceIdentity
  doctorFixIdentities :=
    sortedIdentities
      (orElseList report.fixIdentities dryRun.fixIdentities ++
        report.convergence.flatMap (·.applied))
  migrationRuleIdentities :=
    sortedIdentities
      (orElseList report.migrationRuleIdentities dryRun.migrationRuleIdentities ++
        report.migrationSteps)
  repairRounds := repairRounds report
  validationStatus :=
    report.verification.getD (if report.exitCode ∈ [0, 1] then "PASS" else "UNKNOWN")
  failureConflictReason := world.failureConflictReason

/-- `_doctor_safe` once a repair has been applied. -/
def applyRepair (event : SourceEvent) (dryRun report : DoctorReport) : ActionResult :=
  let repair := world.repair event dryRun report
  let status := if repair.failureConflictReason = none then "PASS" else "UNKNOWN"
  { status := status
    repair := some repair
    escalated :=
      if status = "PASS" then none
      else some "automatic Safe Doctor repair was not validated" }

def doctorSafe (event : SourceEvent) : ActionResult :=
  if world.configured = false then
    unvalidated "mncs_doctor command is not declared"
      "automatic Safe Doctor repair is declared but mncs_doctor is not configured"
  else
    match world.relative with
    | .error error => unvalidated error.message error.message
    | .ok _ =>
        if world.identityBefore ≠ some event.identity then
          unvalidated "source identity conflict"
            "Safe repair source identity changed before promotion"
        else
          match world.dryRun with
          | none =>
              unvalidated "malformed Doctor dry-run report"
                "Doctor Safe dry-run did not emit its machine-readable report"
          | some dryRun =>
              if dryRun.planned = false then
                { status := "PASS", reason := some "already canonical" }
              else
                match world.applied with
                | none =>
                    unvalidated "malformed Doctor apply report"
                      "Doctor Safe apply did not emit its machine-readable report"
                | some report => world.applyRepair event dryRun report

/-- An applied repair passes when nothing went wrong after it. -/
theorem doctorSafe_repair {event : SourceEvent} {repair : Repair}
    (left : (world.doctorSafe event).repair = some repair) :
    (world.doctorSafe event).status = "PASS" ↔ repair.failureConflictReason = none := by
  generalize hresult : world.doctorSafe event = result at left ⊢
  unfold doctorSafe at hresult
  repeat' split at hresult
  all_goals subst hresult
  case h_2 =>
      obtain rfl := Option.some.inj left
      simp [applyRepair]
  all_goals cases left

end DoctorWorld

/-! ## The event -/

structure EventSetting where
  native : NativeForgeAdapter
  triggers : List Trigger
  candidate : Option String := none

/-- A pending obligation, with the source it was recorded for. -/
structure PendingObligation where
  identity : PendingIdentity
  sourceUri : String
  sourceIdentity : String
  deriving DecidableEq, Repr

/-- The pending table is bounded. -/
abbrev PendingTable := { pending : List PendingObligation //
  pending.length ≤ continuousPendingCapacity }

namespace PendingTable

def empty : PendingTable := ⟨[], Nat.zero_le _⟩

/-- The entries whose decision is not to discard them. -/
def keep (table : PendingTable) (stale : List Bool) : PendingTable where
  val := ((table.1.zip stale).filter fun entry => !entry.2).map (·.1)
  property := by
    have filtered := (table.1.zip stale).length_filter_le fun entry => !entry.2
    have zipped : (table.1.zip stale).length = min table.1.length stale.length :=
      List.length_zip
    have room := table.2
    rw [List.length_map]
    omega

end PendingTable

/-- What `_process_event` gets from outside: the generation the ingress thread has
raised, the trigger decisions, the answers of the actions of the matching triggers
in their order, and the answer to `workspace_status`. -/
structure EventWorld where
  raised : Int := 0
  triggerMatches : Trigger → Except ForgeError Bool
  doctor : Nat → DoctorWorld
  action : Nat → Except ForgeError ActionResult
  workspaceStatus : Except ForgeError (Option Int)

structure ActionRecord where
  trigger : String
  action : String
  result : ActionResult
  deriving DecidableEq, Repr

structure EventReport where
  status : String
  acknowledged : Bool
  reason : Option String := none
  repairPendingRebound : Bool := false
  actions : List ActionRecord := []
  deriving DecidableEq, Repr

/-- What `_process_event` reads and writes of the supervisor. -/
structure EventState where
  currentGeneration : Int
  pending : PendingTable
  deriving DecidableEq, Repr

namespace EventSetting

variable (setting : EventSetting) (world : EventWorld)

/-- `_native_resource_transition` without an outcome. -/
def generationState (pending : PendingTable) (candidate verifierId : String)
    (work current : Int) : ContinuousResourceState where
  currentGeneration := current
  workGeneration := work
  sourceIdentityMatches := true
  verificationRequired := true
  inFlight := false
  hasOutcome := false
  resourceOutcomeObserved := false
  outcome := .unknown
  evidenceStatus := .notRun
  pendingExists := decide (∃ item ∈ pending.1, item.identity = ⟨work, candidate, verifierId⟩)
  pendingCount := pending.1.length
  pendingCapacity := continuousPendingCapacity
  queueRemaining := 0
  resourceGateClosed := false

/-- Whether the native core discards work of one generation at another. -/
def discards (pending : PendingTable) (verifierId : String) (work current : Int) :
    Except ForgeError Bool := do
  let transition ← NativeForgeAdapter.verificationResourceTransition
    (generationState pending (setting.candidate.getD "event") verifierId work current) "Unknown"
  .ok (decide (transition.disposition = .discardStale))

/-- Whether a newer version of its source supersedes a pending obligation. -/
def superseded (s : EventState) (event : SourceEvent) (item : PendingObligation) :
    Except ForgeError Bool := do
  let transition ← NativeForgeAdapter.verificationResourceTransition
    { generationState s.pending item.identity.candidateIdentity item.identity.verifierId
        item.identity.generation s.currentGeneration with
      sourceIdentityMatches := decide (item.sourceIdentity = event.identity)
      hasOutcome := true
      evidenceStatus := .unknown }
    "Unknown"
  .ok (decide (transition.disposition = .discardStale))

def cancelSupersededPending (s : EventState) (event : SourceEvent) :
    Except ForgeError EventState :=
  if event.uri = "" ∨ event.identity = "" then .ok s
  else do
    let stale ← s.pending.1.mapM fun item =>
      if item.sourceUri ≠ event.uri then .ok false else superseded s event item
    .ok { s with pending := s.pending.keep stale }

def matchingTriggers : List Trigger → Except ForgeError (List Trigger)
  | [] => .ok []
  | trigger :: triggers => do
      let matched ← world.triggerMatches trigger
      let others ← matchingTriggers triggers
      .ok (if matched then trigger :: others else others)

def matchedTriggers : Except ForgeError (List Trigger) :=
  matchingTriggers world setting.triggers

/-- Safe Doctor runs for each matching trigger that asks for it. -/
def doctorActions (event : SourceEvent) (matched : List Trigger) : List ActionRecord :=
  matched.zipIdx.filterMap fun entry =>
    if entry.1.action = "doctor_safe" then
      some ⟨entry.1.id, entry.1.action, (world.doctor entry.2).doctorSafe event⟩
    else none

def runsAction (trigger : Trigger) : Bool :=
  trigger.action ∈ ["verification_plan", "micro_verifier", "security_micro_verifier"]

/-- The other actions run unless Safe Doctor repaired something. -/
def otherActions (matched : List Trigger) : Except ForgeError (List ActionRecord) :=
  (matched.zipIdx.filter fun entry => runsAction entry.1).mapM fun entry => do
    let result ← world.action entry.2
    .ok ⟨entry.1.id, entry.1.action, result⟩

def repaired (actions : List ActionRecord) : Bool :=
  actions.any fun action => action.result.repair.isSome

/-- `_process_event` once all actions have run. -/
def concludeEvent (s : EventState) (event : SourceEvent) (actions : List ActionRecord) :
    Except ForgeError EventReport := do
  let decision ← setting.native.verificationStatusDecide (actions.map (·.result.status)) false 0
  if decision.escalationRequired then
    .ok
      { status := decision.status.value
        acknowledged := decide (decision.status ≠ .unknown)
        actions := actions }
  else
    match world.workspaceStatus with
    | .error _ => .ok { status := "UNKNOWN", acknowledged := false, actions := actions }
    | .ok current => do
        let stale ← setting.discards s.pending "continuous-event-result" event.currentGeneration
          (current.getD event.currentGeneration)
        if stale then
          .ok
            { status := "STALE"
              acknowledged := true
              reason := some "superseded while continuous work was running"
              actions := actions }
        else .ok { status := "PASS", acknowledged := true, actions := actions }

/-- `_process_event` of an event that is not stale. -/
def handleEvent (s : EventState) (event : SourceEvent) :
    Except ForgeError (EventState × EventReport) := do
  let s ← cancelSupersededPending s event
  match setting.matchedTriggers world with
  | .error _ => .ok (s, { status := "UNKNOWN", acknowledged := false })
  | .ok matched =>
      let doctors := doctorActions world event matched
      if repaired doctors then
        .ok (s,
          { status := "PASS"
            acknowledged := true
            repairPendingRebound := true
            actions := doctors })
      else do
        let others ← otherActions world matched
        let report ← setting.concludeEvent world s event (doctors ++ others)
        .ok (s, report)

/-- The generation that the first transition of an event sees. -/
def seenGeneration (s : EventState) (event : SourceEvent) : Int :=
  max (max s.currentGeneration event.currentGeneration) world.raised

def processEvent (s : EventState) (event : SourceEvent) :
    Except ForgeError (EventState × EventReport) := do
  let s := { s with currentGeneration := seenGeneration world s event }
  let stale ← setting.discards s.pending "event-generation" event.currentGeneration
    s.currentGeneration
  if stale then
    .ok (s,
      { status := "STALE"
        acknowledged := true
        reason := some "event generation is older than current" })
  else setting.handleEvent world s event

/-! ## Passing events -/

/-- The workspace reports the generation of the event afterwards. -/
def Current (event : SourceEvent) : Prop :=
  ∃ current, world.workspaceStatus = .ok current ∧
    current.getD event.currentGeneration = event.currentGeneration

/-- A passing and acknowledged event has passing actions only, and is current. -/
def Justified (event : SourceEvent) (report : EventReport) : Prop :=
  report.status = "PASS" → report.acknowledged = true →
    (∀ action ∈ report.actions, action.result.status = "PASS") ∧ Current world event

/-- An event is handled up to the end of Safe Doctor. -/
def Reached (s : EventState) (event : SourceEvent) (entered : EventState)
    (matched : List Trigger) : Prop :=
  setting.discards s.pending "event-generation" event.currentGeneration
      (seenGeneration world s event) = .ok false ∧
    cancelSupersededPending { s with currentGeneration := seenGeneration world s event } event =
      .ok entered ∧
    setting.matchedTriggers world = .ok matched

/-- Once Safe Doctor repairs something, each of its results passes and the event
stays current; otherwise, when every action passes, the workspace does not report
an older generation than the one of the event. -/
def Careful (s : EventState) (event : SourceEvent) : Prop :=
  ∀ entered matched, setting.Reached world s event entered matched →
    let doctors := doctorActions world event matched
    (repaired doctors = true →
      (∀ action ∈ doctors, action.result.status = "PASS") ∧ Current world event) ∧
    (repaired doctors = false → ∀ others, otherActions world matched = .ok others →
      (∀ action ∈ doctors ++ others, action.result.status = "PASS") →
      (doctors ++ others).length ≤ 16 → ∀ current, world.workspaceStatus = .ok current →
        setting.discards entered.pending "continuous-event-result" event.currentGeneration
          (current.getD event.currentGeneration) = .ok false →
        event.currentGeneration ≤ current.getD event.currentGeneration)

variable {setting world} {s entered : EventState} {event : SourceEvent} {matched : List Trigger}

theorem discards_eq_ok {pending : PendingTable} {verifierId : String}
    {work current : Int} {stale : Bool}
    (h : setting.discards pending verifierId work current = .ok stale) :
    stale = true ↔ work < current := by
  obtain ⟨transition, decided, h⟩ := bind_eq_ok.mp h
  obtain ⟨status, _, rfl⟩ := NativeForgeAdapter.verificationResourceTransition_eq_ok decided
  obtain rfl := Except.ok.inj h
  rw [decide_eq_true_iff]
  constructor
  · intro discarded
    exact (stale_of_discard (Or.inl discarded)).resolve_right (by simp [generationState])
  · intro older
    simp [verificationResourceTransition, verificationTransition, generationState, older]

/-- The ways an event ends. -/
theorem processEvent_eq_ok {after : EventState} {report : EventReport}
    (h : setting.processEvent world s event = .ok (after, report)) :
    (setting.discards s.pending "event-generation" event.currentGeneration
        (seenGeneration world s event) = .ok true ∧ report.status = "STALE") ∨
      report.status = "UNKNOWN" ∨
      ∃ entered matched, setting.Reached world s event entered matched ∧
        (repaired (doctorActions world event matched) = true ∧
          report =
            { status := "PASS"
              acknowledged := true
              repairPendingRebound := true
              actions := doctorActions world event matched } ∨
        repaired (doctorActions world event matched) = false ∧
          ∃ others, otherActions world matched = .ok others ∧
            setting.concludeEvent world entered event
              (doctorActions world event matched ++ others) = .ok report) := by
  obtain ⟨stale, decided, h⟩ := bind_eq_ok.mp h
  cases stale with
  | true =>
      rw [if_pos rfl] at h
      obtain ⟨_, rfl⟩ := Prod.mk.inj (Except.ok.inj h)
      exact Or.inl ⟨decided, rfl⟩
  | false =>
      rw [if_neg Bool.false_ne_true] at h
      right
      obtain ⟨entered, cancelled, h⟩ := bind_eq_ok.mp h
      cases hmatched : setting.matchedTriggers world with
      | error error =>
          rw [hmatched] at h
          obtain ⟨_, rfl⟩ := Prod.mk.inj (Except.ok.inj h)
          exact Or.inl rfl
      | ok matched =>
          rw [hmatched] at h
          refine Or.inr ⟨entered, matched, ⟨decided, cancelled, hmatched⟩, ?_⟩
          dsimp only at h
          cases hrepaired : repaired (doctorActions world event matched) with
          | true =>
              rw [hrepaired, if_pos rfl] at h
              obtain ⟨_, rfl⟩ := Prod.mk.inj (Except.ok.inj h)
              exact Or.inl ⟨rfl, rfl⟩
          | false =>
              rw [hrepaired, if_neg Bool.false_ne_true] at h
              obtain ⟨others, hothers, h⟩ := bind_eq_ok.mp h
              obtain ⟨concluded, hconcluded, h⟩ := bind_eq_ok.mp h
              obtain ⟨_, rfl⟩ := Prod.mk.inj (Except.ok.inj h)
              exact Or.inr ⟨rfl, others, hothers, hconcluded⟩

theorem concludeEvent_of_pass (documented : setting.native.core.Documented)
    {actions : List ActionRecord} {report : EventReport}
    (h : setting.concludeEvent world s event actions = .ok report)
    (passes : report.status = "PASS") :
    report.actions = actions ∧ (∀ action ∈ actions, action.result.status = "PASS") ∧
      actions.length ≤ 16 ∧
      ∃ current, world.workspaceStatus = .ok current ∧
        setting.discards s.pending "continuous-event-result" event.currentGeneration
          (current.getD event.currentGeneration) = .ok false := by
  obtain ⟨decision, decided, h⟩ := bind_eq_ok.mp h
  obtain ⟨escalates, passing⟩ :=
    NativeForgeAdapter.verificationStatusDecide_eq_ok documented decided
  have room := (refuseIf_bind_eq_ok.mp decided).1
  rw [List.length_map] at room
  cases pass : decision.status with
  | pass =>
      rw [escalates, pass] at h
      simp only [verificationStatusIsPass, Bool.not_true, Bool.false_eq_true, if_false] at h
      have all := (passing.mp pass).2.2
      have statuses : ∀ action ∈ actions, action.result.status = "PASS" := by
        intro action member
        exact all _ (List.mem_map_of_mem (f := fun action => action.result.status) member)
      cases hworkspace : world.workspaceStatus with
      | error error =>
          rw [hworkspace] at h
          obtain rfl := Except.ok.inj h
          simp at passes
      | ok current =>
          rw [hworkspace] at h
          obtain ⟨stale, fresh, h⟩ := bind_eq_ok.mp h
          cases stale with
          | true =>
              obtain rfl := Except.ok.inj h
              simp at passes
          | false =>
              obtain rfl := Except.ok.inj h
              exact ⟨rfl, statuses, by omega, current, rfl, fresh⟩
  | fail =>
      rw [escalates, pass] at h
      obtain rfl := Except.ok.inj h
      simp [Status.value] at passes
  | unknown =>
      rw [escalates, pass] at h
      obtain rfl := Except.ok.inj h
      simp [Status.value] at passes

theorem concludeEvent_eq_pass (documented : setting.native.core.Documented)
    {actions : List ActionRecord} {current : Option Int}
    (passes : ∀ action ∈ actions, action.result.status = "PASS") (room : actions.length ≤ 16)
    (workspace : world.workspaceStatus = .ok current)
    (fresh : setting.discards s.pending "continuous-event-result" event.currentGeneration
      (current.getD event.currentGeneration) = .ok false) :
    setting.concludeEvent world s event actions =
      .ok { status := "PASS", acknowledged := true, actions := actions } := by
  have statuses : ∀ status ∈ actions.map (·.result.status), status = "PASS" := by
    intro status member
    obtain ⟨action, listed, rfl⟩ := List.mem_map.mp member
    exact passes action listed
  obtain ⟨decision, decided⟩ := setting.native.verificationStatusDecide_of_pass
    (by simpa using room) statuses false
  obtain ⟨escalates, passing⟩ :=
    NativeForgeAdapter.verificationStatusDecide_eq_ok documented decided
  have pass := passing.mpr ⟨rfl, fun _ => rfl, statuses⟩
  refine bind_eq_ok.mpr ⟨decision, decided, ?_⟩
  rw [escalates, pass, workspace]
  exact bind_eq_ok.mpr ⟨false, fresh, rfl⟩

theorem processEvent_of_reached (reached : setting.Reached world s event entered matched) :
    setting.processEvent world s event =
      if repaired (doctorActions world event matched) then
        .ok (entered,
          { status := "PASS"
            acknowledged := true
            repairPendingRebound := true
            actions := doctorActions world event matched })
      else
        otherActions world matched >>= fun others =>
          setting.concludeEvent world entered event
            (doctorActions world event matched ++ others) >>= fun report =>
              .ok (entered, report) := by
  obtain ⟨fresh, cancelled, hmatched⟩ := reached
  rw [processEvent]
  dsimp only
  rw [fresh]
  show setting.handleEvent world _ event = _
  rw [handleEvent, cancelled]
  show (match setting.matchedTriggers world with | .error _ => _ | .ok matched => _) = _
  rw [hmatched]

/-- A trigger for Safe Doctor, and a Doctor that changes one file. -/
def sample : EventSetting where
  native := ⟨referenceCore, fun _ => Digest32.zero⟩
  triggers := [{ id := "trigger", action := "doctor_safe" }]

def sampleEvent : SourceEvent where
  currentGeneration := 7
  cursor := 7
  uri := "file:///project/main.mncs"
  identity := "source:before"

/-- The Language Service is gone once the repair has been applied. -/
def sampleDoctor (refresh : Except ForgeError Unit) : DoctorWorld where
  relative := .ok "main.mncs"
  identityBefore := some "source:before"
  dryRun := some { planned := true }
  applied := some { planned := true, exitCode := 0 }
  refresh := refresh
  identityAfter := some "source:after"

def sampleWorld (refresh : Except ForgeError Unit) : EventWorld where
  triggerMatches _ := .ok true
  doctor _ := sampleDoctor refresh
  action _ := .ok { status := "PASS" }
  workspaceStatus := .ok (some 7)

end EventSetting

end MncsForge.Continuous
