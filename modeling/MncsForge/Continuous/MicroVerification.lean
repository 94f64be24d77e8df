import Mathlib
import MncsForge.Foundation.Runs
import MncsForge.Native.VerificationStatus
import MncsForge.Continuous.Supervisor

/-!
# Micro-verification of an event

`ContinuousSupervisor._micro` runs the verifiers of one trigger.  Each of them is
refused for its cost, reused, or run; the native core may have the rest deferred,
or find that the event is stale, since the ingress thread raises the current
generation at any time.  A step handles one verifier.
-/

namespace MncsForge.Continuous

open MncsForge.Foundation MncsForge.Native MncsForge.Native.Continuous

/-! ## Events, triggers and what becomes of a verifier -/

/-- The part of a Language Service event that the actions read. -/
structure SourceEvent where
  currentGeneration : Int
  cursor : Nat := 0
  uri : String := ""
  identity : String := ""
  deriving DecidableEq, Repr

structure Trigger where
  id : String
  action : String
  verifierIds : List String := []
  completeDependencyEnvelope : Bool := false
  maximumCost : String := "high"
  deriving DecidableEq, Repr

/-- What `_pending_identity` is the identity of. -/
structure PendingIdentity where
  generation : Int
  candidateIdentity : String
  verifierId : String
  deriving DecidableEq, Repr

/-- `_remember_pending`: at capacity a new obligation only counts as overflow. -/
def rememberPending (pending : List PendingIdentity) (identity : PendingIdentity) :
    List PendingIdentity :=
  if identity ∈ pending then pending.filter (· ≠ identity) ++ [identity]
  else if continuousPendingCapacity ≤ pending.length then pending
  else pending ++ [identity]

/-- A call of `_escalate`, with the verifiers it is made for. -/
structure Escalation where
  verifierIds : List String
  reason : String
  status : String := "UNKNOWN"
  tier : String := "incremental"
  deriving DecidableEq, Repr

/-- An entry of the results of `_micro`. -/
structure MicroResult where
  verifierId : String
  status : String
  reason : Option String := none
  errorCode : Option String := none
  stale : Bool := false
  reused : Bool := false
  deriving DecidableEq, Repr

/-- What `verifier_run` returns. -/
structure VerifierAnswer where
  status : String
  envelopeComplete : Bool := false
  resourceOutcome : Option String := none

/-- What `verifier_run` raises, with the resource evidence of its details. -/
structure VerifierFailure where
  error : ForgeError
  resourceOutcome : Option String := none
  deferred : Bool := false

structure MicroSetting where
  native : NativeForgeAdapter
  event : SourceEvent
  trigger : Trigger
  candidate : String
  /-- The declared cost of a configured verifier. -/
  verifierCost : String → Option String

/-- Where `_micro` is: in the loop over the selected verifiers, deferring, behind
both, or done. -/
inductive MicroPhase where
  | selecting (selected : List String)
  | deferring (deferred : List String) (reason : String)
  | deciding
  | returned (status : Status)
  | raised (error : ForgeError)
  deriving DecidableEq

structure MicroRun where
  currentGeneration : Int
  pending : List PendingIdentity
  results : List MicroResult := []
  escalations : List Escalation := []
  unresolvedCount : Nat := 0
  capacityDeferred : List String := []
  phase : MicroPhase
  deriving DecidableEq

inductive MicroEvent where
  | raise (generation : Int)
  | refuse
  | reuse (status : String)
  | execute (answer : Except VerifierFailure VerifierAnswer)
  | defer
  | next

namespace MicroSetting

variable (setting : MicroSetting)

def pendingIdentity (verifierId : String) : PendingIdentity :=
  ⟨setting.event.currentGeneration, setting.candidate, verifierId⟩

def costAllowed (verifierId : String) : Bool :=
  NativeForgeAdapter.verificationCostAdmit (setting.verifierCost verifierId)
    setting.trigger.maximumCost

/-- The question `_native_resource_transition` asks. -/
def resourceState (s : MicroRun) (verifierId : String) (evidenceStatus : VerificationEvidenceStatus)
    (hasOutcome : Bool) (queueRemaining : Nat)
    (resourceOutcomeObserved resourceGateClosed : Bool) : ContinuousResourceState where
  currentGeneration := s.currentGeneration
  workGeneration := setting.event.currentGeneration
  sourceIdentityMatches := true
  verificationRequired := true
  inFlight := false
  hasOutcome := hasOutcome
  resourceOutcomeObserved := resourceOutcomeObserved
  outcome := .unknown
  evidenceStatus := evidenceStatus
  pendingExists := decide (setting.pendingIdentity verifierId ∈ s.pending)
  pendingCount := s.pending.length
  pendingCapacity := continuousPendingCapacity
  queueRemaining := queueRemaining
  resourceGateClosed := resourceGateClosed

def transition (s : MicroRun) (verifierId : String) (outcome : Option String)
    (evidenceStatus : VerificationEvidenceStatus) (hasOutcome : Bool) (queueRemaining : Nat)
    (resourceGateClosed : Bool) : Except ForgeError VerificationResourceTransition :=
  NativeForgeAdapter.verificationResourceTransition
    (setting.resourceState s verifierId evidenceStatus hasOutcome queueRemaining outcome.isSome
      resourceGateClosed)
    (outcome.getD "Unknown")

end MicroSetting

namespace MicroRun

def fail (s : MicroRun) (error : ForgeError) : MicroRun := { s with phase := .raised error }

def escalate (s : MicroRun) (verifierIds : List String) (reason : String)
    (status tier : String) : MicroRun :=
  { s with escalations := s.escalations ++ [⟨verifierIds, reason, status, tier⟩] }

def result (s : MicroRun) (entry : MicroResult) : MicroRun :=
  { s with results := s.results ++ [entry] }

end MicroRun

def evidenceStatusOf (status : String) : VerificationEvidenceStatus :=
  if status = "PASS" then .pass else if status = "FAIL" then .fail else .unknown

def isStale (disposition : VerificationDisposition) : Bool :=
  decide (disposition = .cancelStale ∨ disposition = .discardStale)

namespace MicroSetting

variable (setting : MicroSetting)

def remember (s : MicroRun) (verifierId : String) : MicroRun :=
  { s with pending := rememberPending s.pending (setting.pendingIdentity verifierId) }

def resolve (s : MicroRun) (verifierId : String) : MicroRun :=
  { s with pending := s.pending.filter (· ≠ setting.pendingIdentity verifierId) }

/-- The three ways on from a verifier: the rest is deferred, the event is stale, or
the loop goes on. -/
def advance (s : MicroRun) (transition : VerificationResourceTransition) (rest : List String)
    (reason : String) : MicroRun :=
  if transition.deferRemaining then
    { s with
      capacityDeferred := []
      phase := .deferring (rest ++ s.capacityDeferred) reason }
  else if isStale transition.disposition then { s with phase := .selecting [] }
  else { s with phase := .selecting rest }

/-- The branch of a reused result, which carries no resource evidence. -/
def reused (s : MicroRun) (verifierId : String) (rest : List String) (status : String) :
    MicroRun :=
  let s := s.result { verifierId := verifierId, status := status, reused := true }
  match setting.transition s verifierId none (evidenceStatusOf status) true
      (rest.length + s.capacityDeferred.length) false with
  | .error error => s.fail error
  | .ok transition =>
      let s :=
        if transition.disposition = .resolve then setting.resolve s verifierId
        else if transition.retainCurrentPending then setting.remember s verifierId
        else s
      advance s transition rest
        "remaining micro-verifiers deferred by native resource policy"

/-- What follows an answer or a failure once the core has decided. -/
def settle (s : MicroRun) (verifierId : String) (rest : List String)
    (transition : VerificationResourceTransition) : MicroRun :=
  let s := if transition.retainCurrentPending then setting.remember s verifierId else s
  let s :=
    if transition.disposition = .escalateUnknown then
      s.escalate [verifierId]
        "native continuous policy could not retain this verification obligation" "UNKNOWN" "micro"
    else s
  advance s transition rest "later micro-verifiers deferred by native resource policy"

/-- The branch that handles a raised error. -/
def failed (s : MicroRun) (verifierId : String) (rest : List String) (failure : VerifierFailure) :
    MicroRun :=
  let s := s.escalate [verifierId] s!"micro-verifier {verifierId}: {failure.error.message}"
    "UNKNOWN" "incremental"
  let s := s.result
    { verifierId := verifierId
      status := "UNKNOWN"
      reason := some (String.ofList (failure.error.message.toList.take 512))
      errorCode := some failure.error.code }
  match setting.transition s verifierId failure.resourceOutcome .unknown true
      (rest.length + s.capacityDeferred.length) failure.deferred with
  | .error error => s.fail error
  | .ok transition => setting.settle s verifierId rest transition

/-- A status that the trigger does not accept without a complete envelope. -/
def answeredStatus (answer : VerifierAnswer) : String :=
  if setting.trigger.completeDependencyEnvelope && !answer.envelopeComplete then "UNKNOWN"
  else answer.status

/-- The branch of a verifier that ran; an error of the native core is handled as
one of the verifier. -/
def executed (s : MicroRun) (verifierId : String) (rest : List String) :
    Except VerifierFailure VerifierAnswer → MicroRun
  | .error failure => setting.failed s verifierId rest failure
  | .ok answer =>
      let status := setting.answeredStatus answer
      match setting.transition s verifierId answer.resourceOutcome (evidenceStatusOf status) true
          (rest.length + s.capacityDeferred.length) false with
      | .error error => setting.failed s verifierId rest { error := error }
      | .ok transition =>
          let stale := isStale transition.disposition
          let s := s.result
            { verifierId := verifierId
              status := if stale then "UNKNOWN" else status
              stale := stale }
          let s :=
            if transition.disposition = .resolve then setting.resolve s verifierId else s
          setting.settle s verifierId rest transition

/-- One round of `_defer_micro_verifiers`. -/
def deferred (s : MicroRun) (verifierId : String) (rest : List String) (reason : String) :
    MicroRun :=
  match setting.transition s verifierId none .notRun false rest.length true with
  | .error error => s.fail error
  | .ok transition =>
      let s := { s with phase := .deferring rest reason }
      if isStale transition.disposition then s
      else
        let retained := transition.retainCurrentPending
        let escalated := decide (transition.disposition = .escalateUnknown)
        let s := if retained then setting.remember s verifierId else s
        let s := if escalated then s.escalate [verifierId] reason "UNKNOWN" "micro" else s
        if retained || escalated then { s with unresolvedCount := s.unresolvedCount + 1 } else s

/-- The aggregate status, and the reply. -/
def decide (s : MicroRun) : MicroRun :=
  match setting.native.verificationStatusDecide (s.results.map (·.status)) true
      s.unresolvedCount with
  | .error error => s.fail error
  | .ok decision =>
      let s :=
        if decision.escalationRequired then
          s.escalate [] s!"micro-verification reached {decision.status.value}"
            decision.status.value "micro"
        else s
      { s with phase := .returned decision.status }

def step (s : MicroRun) : MicroEvent → Option MicroRun
  | .raise generation => some { s with currentGeneration := max s.currentGeneration generation }
  | .refuse =>
      match s.phase with
      | .selecting (verifierId :: rest) =>
          if setting.costAllowed verifierId then none
          else
            let s := s.escalate [verifierId]
              s!"trigger {setting.trigger.id} exceeds declared verifier cost boundary"
              "UNKNOWN" "incremental"
            let s := s.result
              { verifierId := verifierId, status := "UNKNOWN", reason := some "cost boundary" }
            some { s with phase := .selecting rest }
      | _ => none
  | .reuse status =>
      match s.phase with
      | .selecting (verifierId :: rest) =>
          if setting.costAllowed verifierId then some (setting.reused s verifierId rest status)
          else none
      | _ => none
  | .execute answer =>
      match s.phase with
      | .selecting (verifierId :: rest) =>
          if setting.costAllowed verifierId then some (setting.executed s verifierId rest answer)
          else none
      | _ => none
  | .defer =>
      match s.phase with
      | .deferring (verifierId :: rest) reason => some (setting.deferred s verifierId rest reason)
      | _ => none
  | .next =>
      match s.phase with
      | .selecting [] =>
          if s.capacityDeferred = [] then some { s with phase := .deciding }
          else
            some
              { s with
                capacityDeferred := []
                phase :=
                  .deferring s.capacityDeferred "per-event micro-verifier capacity reached" }
      | .deferring [] _ => some { s with phase := .deciding }
      | .deciding => some (setting.decide s)
      | _ => none

/-- `_micro` up to its loop. -/
def start (currentGeneration : Int) (pending : List PendingIdentity) : MicroRun :=
  let ids := setting.trigger.verifierIds
  let s : MicroRun :=
    { currentGeneration := max currentGeneration setting.event.currentGeneration
      pending := pending
      phase := .deciding }
  if ids = [] then
    { s.escalate ids s!"trigger {setting.trigger.id} has no verifier_ids" "UNKNOWN" "incremental"
      with phase := .returned .unknown }
  else if setting.candidate = "" then
    { s.escalate ids "micro-verifier matched without a configured candidate identity"
        "UNKNOWN" "incremental"
      with phase := .returned .unknown }
  else
    match NativeForgeAdapter.verificationQueueAdmit ids.length with
    | .error error => s.fail error
    | .ok (selected, deferred) =>
        { s with
          capacityDeferred := (ids.drop selected.toNat).take deferred.toNat
          phase := .selecting (ids.take selected.toNat) }

end MicroSetting

/-! ## What a run keeps -/

namespace MicroRun

/-- The verifiers that are still to be handled; where an error is raised there is
no reply to account for. -/
def Outstanding (s : MicroRun) (verifierId : String) : Prop :=
  match s.phase with
  | .selecting selected => verifierId ∈ selected ∨ verifierId ∈ s.capacityDeferred
  | .deferring deferred _ => verifierId ∈ deferred
  | .deciding | .returned _ => False
  | .raised _ => True

def HasResult (s : MicroRun) (verifierId : String) : Prop :=
  ∃ entry ∈ s.results, entry.verifierId = verifierId

def Escalated (s : MicroRun) (verifierId : String) : Prop :=
  ∃ escalation ∈ s.escalations, verifierId ∈ escalation.verifierIds

def Unresolved (s : MicroRun) : Prop :=
  0 < s.unresolvedCount ∨ s.phase = .returned .unknown

/-- A run passes on passing results only. -/
def Concluded (s : MicroRun) : Prop :=
  s.phase = .returned .pass → s.unresolvedCount = 0 ∧ ∀ entry ∈ s.results, entry.status = "PASS"

end MicroRun

namespace MicroSetting

variable (setting : MicroSetting)

/-- A verifier without a result is pending or escalated. -/
def Deferred (s : MicroRun) (verifierId : String) : Prop :=
  setting.pendingIdentity verifierId ∈ s.pending ∨ s.Escalated verifierId

/-- Nothing is left out because the generation was raised: it is not raised over
the event when a deferred verifier, or one that others are selected behind, is
handled. -/
def Kept (s : MicroRun) : MicroEvent → Prop
  | .reuse _ | .execute _ =>
      match s.phase with
      | .selecting (_ :: _ :: _) => s.currentGeneration ≤ setting.event.currentGeneration
      | _ => True
  | .defer => s.currentGeneration ≤ setting.event.currentGeneration
  | _ => True

instance (s : MicroRun) (event : MicroEvent) : Decidable (setting.Kept s event) := by
  cases event <;> unfold Kept <;> try infer_instance
  all_goals
    dsimp only
    split <;> infer_instance

/-- Each verifier is outstanding, has a result, or keeps the run from passing. -/
def Accounted (s : MicroRun) : Prop :=
  ∀ verifierId ∈ setting.trigger.verifierIds,
    s.Outstanding verifierId ∨ s.HasResult verifierId ∨
      setting.Deferred s verifierId ∧ s.Unresolved

/-- What has been recorded stays; a pending entry may give way to a result. -/
structure Extends (s t : MicroRun) : Prop where
  results : s.results ⊆ t.results
  escalations : s.escalations ⊆ t.escalations
  pending : ∀ verifierId, setting.pendingIdentity verifierId ∈ s.pending →
    setting.pendingIdentity verifierId ∈ t.pending ∨ t.HasResult verifierId
  unresolved : s.unresolvedCount ≤ t.unresolvedCount

variable {setting} {s t u : MicroRun} {verifierId : String} {rest : List String}

theorem HasResult.mono (more : s.results ⊆ t.results) (h : s.HasResult verifierId) :
    t.HasResult verifierId := by
  obtain ⟨entry, member, same⟩ := h
  exact ⟨entry, more member, same⟩

theorem Extends.refl (s : MicroRun) : setting.Extends s s :=
  ⟨fun _ h => h, fun _ h => h, fun _ h => Or.inl h, le_rfl⟩

theorem Extends.trans (first : setting.Extends s t) (second : setting.Extends t u) :
    setting.Extends s u := by
  refine ⟨fun _ h => second.results (first.results h),
    fun _ h => second.escalations (first.escalations h), ?_,
    first.unresolved.trans second.unresolved⟩
  intro verifierId pending
  rcases first.pending verifierId pending with kept | result
  · exact second.pending verifierId kept
  · exact Or.inr (HasResult.mono second.results result)

theorem Extends.move (grows : setting.Extends s t) (capacityDeferred : List String)
    (phase : MicroPhase) :
    setting.Extends s { t with capacityDeferred := capacityDeferred, phase := phase } :=
  ⟨grows.results, grows.escalations, grows.pending, grows.unresolved⟩

theorem extends_result (s : MicroRun) (entry : MicroResult) :
    setting.Extends s (s.result entry) :=
  ⟨fun _ h => List.mem_append_left _ h, fun _ h => h, fun _ h => Or.inl h, le_rfl⟩

theorem extends_escalate (s : MicroRun) (verifierIds : List String)
    (reason status tier : String) :
    setting.Extends s (s.escalate verifierIds reason status tier) :=
  ⟨fun _ h => h, fun _ h => List.mem_append_left _ h, fun _ h => Or.inl h, le_rfl⟩

theorem extends_fail (s : MicroRun) (error : ForgeError) : setting.Extends s (s.fail error) :=
  ⟨fun _ h => h, fun _ h => h, fun _ h => Or.inl h, le_rfl⟩

theorem mem_rememberPending_of_mem {pending : List PendingIdentity}
    {identity other : PendingIdentity} (h : other ∈ pending) :
    other ∈ rememberPending pending identity := by
  unfold rememberPending
  split_ifs
  · by_cases same : other = identity
    · simp [same]
    · simp [same, h]
  · exact h
  · exact List.mem_append_left _ h

theorem extends_remember (s : MicroRun) (verifierId : String) :
    setting.Extends s (setting.remember s verifierId) :=
  ⟨fun _ h => h, fun _ h => h, fun _ h => Or.inl (mem_rememberPending_of_mem h), le_rfl⟩

theorem extends_resolve (result : s.HasResult verifierId) :
    setting.Extends s (setting.resolve s verifierId) := by
  refine ⟨fun _ h => h, fun _ h => h, ?_, le_rfl⟩
  intro other pending
  by_cases same : other = verifierId
  · subst same
    exact Or.inr result
  · refine Or.inl (List.mem_filter.mpr ⟨pending, ?_⟩)
    simp [pendingIdentity, same]

theorem extends_advance (s : MicroRun) (transition : VerificationResourceTransition)
    (rest : List String) (reason : String) :
    setting.Extends s (advance s transition rest reason) := by
  unfold advance
  split_ifs <;> exact (Extends.refl s).move _ _

theorem advance_running (s : MicroRun) (transition : VerificationResourceTransition)
    (rest : List String) (reason : String) (status : Status) :
    (advance s transition rest reason).phase ≠ .returned status := by
  unfold advance
  split_ifs <;> exact fun h => by cases h

/-- What follows a verifier stays outstanding, unless the event is stale. -/
theorem advance_outstanding {transition : VerificationResourceTransition} {reason : String}
    (kept : isStale transition.disposition = true → rest = [])
    (h : verifierId ∈ rest ∨ verifierId ∈ s.capacityDeferred) :
    (advance s transition rest reason).Outstanding verifierId := by
  unfold advance
  split_ifs with deferring stale
  · exact List.mem_append.mpr h
  · rw [kept stale] at h
    exact h
  · exact h

/-- Recording a verifier accounts for it. -/
theorem Accounted.record (inv : setting.Accounted s) (more : setting.Extends s t)
    (live : s.phase ≠ .returned .unknown)
    (recorded : ∀ other, s.Outstanding other →
      t.Outstanding other ∨ t.HasResult other ∨
        setting.Deferred t other ∧ 0 < t.unresolvedCount) : setting.Accounted t := by
  intro other member
  rcases inv other member with outstanding | result | ⟨pending | escalated, counted⟩
  · exact (recorded other outstanding).imp_right (Or.imp_right (And.imp_right Or.inl))
  · exact Or.inr (Or.inl (HasResult.mono more.results result))
  · have counted : t.Unresolved :=
      Or.inl (lt_of_lt_of_le (counted.resolve_right live) more.unresolved)
    rcases more.pending other pending with kept | result
    · exact Or.inr (Or.inr ⟨Or.inl kept, counted⟩)
    · exact Or.inr (Or.inl result)
  · obtain ⟨escalation, listed, named⟩ := escalated
    exact Or.inr (Or.inr ⟨Or.inr ⟨escalation, more.escalations listed, named⟩,
      Or.inl (lt_of_lt_of_le (counted.resolve_right live) more.unresolved)⟩)

/-! ## One verifier -/

section Transition

variable {outcome : Option String} {evidenceStatus : VerificationEvidenceStatus}
  {hasOutcome gate : Bool} {queueRemaining : Nat} {transition : VerificationResourceTransition}

theorem not_stale_of_transition
    (h : setting.transition s verifierId outcome evidenceStatus hasOutcome queueRemaining gate =
      .ok transition)
    (fresh : s.currentGeneration ≤ setting.event.currentGeneration) :
    isStale transition.disposition = false := by
  obtain ⟨status, _, rfl⟩ := NativeForgeAdapter.verificationResourceTransition_eq_ok h
  rw [isStale, decide_eq_false_iff_not]
  intro discarded
  rcases stale_of_discard discarded.symm with older | other
  · exact absurd fresh (not_le.mpr older)
  · cases other

theorem mem_remember_of_transition
    (h : setting.transition s verifierId outcome evidenceStatus hasOutcome queueRemaining gate =
      .ok transition)
    (retain : transition.retainCurrentPending = true) :
    setting.pendingIdentity verifierId ∈ (setting.remember s verifierId).pending := by
  obtain ⟨status, _, rfl⟩ := NativeForgeAdapter.verificationResourceTransition_eq_ok h
  show _ ∈ rememberPending _ _
  rw [rememberPending]
  split_ifs with present full
  · simp
  · rcases canRetain_of_retain retain with found | room
    · exact absurd (of_decide_eq_true found) present
    · simp only [resourceState, Nat.cast_lt] at room
      omega
  · simp

theorem deferred_of_transition
    (h : setting.transition s verifierId outcome evidenceStatus false queueRemaining true =
      .ok transition)
    (fresh : s.currentGeneration ≤ setting.event.currentGeneration) :
    transition.retainCurrentPending = true ∨ transition.disposition = .escalateUnknown := by
  obtain ⟨status, _, rfl⟩ := NativeForgeAdapter.verificationResourceTransition_eq_ok h
  exact deferred_disposition fresh rfl rfl rfl rfl

end Transition

/-- The verifier has a result, and what was behind it is outstanding. -/
structure Handled (setting : MicroSetting) (s t : MicroRun) (verifierId : String)
    (rest : List String) : Prop where
  grows : setting.Extends s t
  result : t.HasResult verifierId
  outstanding : ∀ other, other ∈ rest ∨ other ∈ s.capacityDeferred → t.Outstanding other

theorem Handled.of_fail (grows : setting.Extends s t) (result : t.HasResult verifierId)
    (error : ForgeError) : Handled setting s (t.fail error) verifierId rest :=
  ⟨grows.trans (extends_fail t error), result, fun _ _ => trivial⟩

theorem Handled.of_advance {transition : VerificationResourceTransition} {reason : String}
    (grows : setting.Extends s t) (result : t.HasResult verifierId)
    (capacity : t.capacityDeferred = s.capacityDeferred)
    (kept : isStale transition.disposition = true → rest = []) :
    Handled setting s (advance t transition rest reason) verifierId rest := by
  have more : setting.Extends t (advance t transition rest reason) := extends_advance ..
  refine ⟨grows.trans more, HasResult.mono more.results result, ?_⟩
  intro other h
  rw [← capacity] at h
  exact advance_outstanding kept h

theorem hasResult_result (s : MicroRun) (entry : MicroResult) :
    (s.result entry).HasResult entry.verifierId :=
  ⟨entry, by simp [MicroRun.result], rfl⟩

section Handling

variable (kept : s.currentGeneration ≤ setting.event.currentGeneration ∨ rest = [])
include kept

theorem settle_handled {transition : VerificationResourceTransition}
    (grows : setting.Extends s t) (result : t.HasResult verifierId)
    (capacity : t.capacityDeferred = s.capacityDeferred)
    (fresh : s.currentGeneration ≤ setting.event.currentGeneration →
      isStale transition.disposition = false) :
    Handled setting s (setting.settle t verifierId rest transition) verifierId rest := by
  have dropped : isStale transition.disposition = true → rest = [] := by
    intro stale
    refine kept.resolve_left fun current => ?_
    rw [fresh current] at stale
    cases stale
  unfold settle
  dsimp only
  refine Handled.of_advance ?_ ?_ ?_ dropped
  · split_ifs
    · exact (grows.trans (extends_remember ..)).trans (extends_escalate ..)
    · exact grows.trans (extends_escalate ..)
    · exact grows.trans (extends_remember ..)
    · exact grows
  · split_ifs <;> exact result
  · split_ifs <;> exact capacity

theorem reused_handled (verifierId status : String) :
    Handled setting s (setting.reused s verifierId rest status) verifierId rest := by
  unfold reused
  dsimp only
  set entered := s.result { verifierId := verifierId, status := status, reused := true }
  have grows : setting.Extends s entered := extends_result ..
  have result : entered.HasResult verifierId := hasResult_result s _
  split
  · exact Handled.of_fail grows result _
  · rename_i transition decided
    have dropped : isStale transition.disposition = true → rest = [] := by
      intro stale
      refine kept.resolve_left fun current => ?_
      rw [not_stale_of_transition decided current] at stale
      cases stale
    refine Handled.of_advance ?_ ?_ ?_ dropped
    · split_ifs
      · exact grows.trans (extends_resolve result)
      · exact grows.trans (extends_remember ..)
      · exact grows
    · split_ifs <;> exact result
    · split_ifs <;> rfl

theorem failed_handled (verifierId : String) (failure : VerifierFailure) :
    Handled setting s (setting.failed s verifierId rest failure) verifierId rest := by
  unfold failed
  dsimp only
  split
  · exact Handled.of_fail ((extends_escalate ..).trans (extends_result ..))
      (hasResult_result _ _) _
  · rename_i transition decided
    exact settle_handled kept ((extends_escalate ..).trans (extends_result ..))
      (hasResult_result _ _) rfl fun current => not_stale_of_transition decided current

theorem executed_handled (verifierId : String)
    (answer : Except VerifierFailure VerifierAnswer) :
    Handled setting s (setting.executed s verifierId rest answer) verifierId rest := by
  cases answer with
  | error failure => exact failed_handled kept verifierId failure
  | ok answer =>
      unfold executed
      dsimp only
      split
      · exact failed_handled kept verifierId _
      · rename_i transition decided
        have fresh := fun current => not_stale_of_transition decided current
        by_cases resolved : transition.disposition = .resolve
        · rw [if_pos resolved]
          exact settle_handled kept
            ((extends_result ..).trans (extends_resolve (hasResult_result _ _)))
            (hasResult_result _ _) rfl fresh
        · rw [if_neg resolved]
          exact settle_handled kept (extends_result ..) (hasResult_result _ _) rfl fresh

end Handling

/-- A deferred verifier that is up to date is pending or escalated, and counted. -/
theorem deferred_spec (verifierId : String) (rest : List String) (reason : String)
    (fresh : s.currentGeneration ≤ setting.event.currentGeneration) :
    setting.Extends s (setting.deferred s verifierId rest reason) ∧
      (∀ other ∈ rest, (setting.deferred s verifierId rest reason).Outstanding other) ∧
      ((setting.deferred s verifierId rest reason).Outstanding verifierId ∨
        setting.Deferred (setting.deferred s verifierId rest reason) verifierId ∧
          0 < (setting.deferred s verifierId rest reason).unresolvedCount) := by
  unfold deferred
  split
  · exact ⟨extends_fail .., fun _ _ => trivial, Or.inl trivial⟩
  · rename_i transition decided
    dsimp only
    rw [if_neg (by rw [not_stale_of_transition decided fresh]; exact Bool.false_ne_true)]
    have moved : setting.Extends s { s with phase := .deferring rest reason } :=
      (Extends.refl s).move _ _
    have counted : ∀ {u : MicroRun}, setting.Extends s u →
        setting.Extends s { u with unresolvedCount := u.unresolvedCount + 1 } := by
      intro u grows
      exact ⟨grows.results, grows.escalations, grows.pending, Nat.le_succ_of_le grows.unresolved⟩
    by_cases escalated : transition.disposition = .escalateUnknown
    · have named : ∀ u : MicroRun,
          (u.escalate [verifierId] reason "UNKNOWN" "micro").Escalated verifierId := by
        intro u
        exact ⟨_, List.mem_append_right _ (List.mem_singleton_self _), List.mem_singleton_self _⟩
      simp only [escalated, decide_true, if_true, Bool.or_true]
      refine ⟨counted ?_, ?_, Or.inr ⟨Or.inr (named _), Nat.succ_pos _⟩⟩
      · split_ifs
        · exact (moved.trans (extends_remember ..)).trans (extends_escalate ..)
        · exact moved.trans (extends_escalate ..)
      · intro other member
        split_ifs <;> exact member
    · have retain := (deferred_of_transition decided fresh).resolve_right escalated
      have place := mem_remember_of_transition decided retain
      simp only [escalated, retain, decide_false, if_true, if_false, Bool.or_false,
        Bool.false_eq_true]
      exact ⟨counted (moved.trans (extends_remember ..)), fun _ member => member,
        Or.inr ⟨Or.inl place, Nat.succ_pos _⟩⟩

/-! ## The whole run -/

/-- A run that never enters the loop is escalated for all its verifiers. -/
theorem refused_accounted (s : MicroRun) (reason : String) :
    setting.Accounted
      { s.escalate setting.trigger.verifierIds reason "UNKNOWN" "incremental" with
        phase := .returned .unknown } := by
  intro verifierId member
  refine Or.inr (Or.inr ⟨Or.inr ?_, Or.inr rfl⟩)
  exact ⟨_, List.mem_append_right _ (List.mem_singleton_self _), member⟩

theorem start_accounted (currentGeneration : Int) (pending : List PendingIdentity) :
    setting.Accounted (setting.start currentGeneration pending) := by
  by_cases none : setting.trigger.verifierIds = []
  · rw [start, if_pos none]
    exact refused_accounted _ _
  · by_cases candidate : setting.candidate = ""
    · rw [start, if_neg none, if_pos candidate]
      exact refused_accounted _ _
    · rw [start, if_neg none, if_neg candidate]
      intro verifierId member
      cases admitted : NativeForgeAdapter.verificationQueueAdmit
          setting.trigger.verifierIds.length with
      | error error => exact Or.inl trivial
      | ok counts =>
          obtain ⟨low, _, total⟩ := NativeForgeAdapter.verificationQueueAdmit_eq_ok admitted
          have rest : (setting.trigger.verifierIds.drop counts.1.toNat).take counts.2.toNat =
              setting.trigger.verifierIds.drop counts.1.toNat := by
            refine List.take_of_length_le ?_
            rw [List.length_drop]
            omega
          rw [← List.take_append_drop counts.1.toNat setting.trigger.verifierIds,
            ← rest, List.mem_append] at member
          exact Or.inl member

theorem Accounted.handled (inv : setting.Accounted s) {selected : List String}
    (phase : s.phase = .selecting (verifierId :: selected))
    (handled : Handled setting s t verifierId selected) : setting.Accounted t := by
  refine inv.record handled.grows (by rw [phase]; simp) ?_
  intro other outstanding
  rw [MicroRun.Outstanding, phase] at outstanding
  rcases outstanding with member | capacity
  · rcases List.mem_cons.mp member with rfl | member
    · exact Or.inr (Or.inl handled.result)
    · exact Or.inl (handled.outstanding other (Or.inl member))
  · exact Or.inl (handled.outstanding other (Or.inr capacity))

theorem extends_decide (s : MicroRun) : setting.Extends s (setting.decide s) := by
  unfold decide
  split
  · exact extends_fail ..
  · dsimp only
    split_ifs
    · exact (extends_escalate ..).move _ _
    · exact (Extends.refl s).move _ _

theorem step_accounted {event : MicroEvent} (inv : setting.Accounted s)
    (kept : setting.Kept s event) (h : setting.step s event = some t) : setting.Accounted t := by
  cases event with
  | raise generation =>
      obtain rfl := Option.some.inj h
      exact inv
  | refuse =>
      simp only [step] at h
      split at h
      · rename_i verifierId selected phase
        split_ifs at h
        obtain rfl := Option.some.inj h
        refine inv.handled phase ⟨?_, hasResult_result _ _, fun other h => h⟩
        exact ((extends_escalate ..).trans (extends_result ..)).move _ _
      · cases h
  | reuse status =>
      simp only [step] at h
      split at h
      · rename_i verifierId selected phase
        split_ifs at h
        obtain rfl := Option.some.inj h
        refine inv.handled phase (reused_handled ?_ verifierId status)
        cases selected with
        | nil => exact Or.inr rfl
        | cons next rest => exact Or.inl (by simpa [Kept, phase] using kept)
      · cases h
  | execute answer =>
      simp only [step] at h
      split at h
      · rename_i verifierId selected phase
        split_ifs at h
        obtain rfl := Option.some.inj h
        refine inv.handled phase (executed_handled ?_ verifierId answer)
        cases selected with
        | nil => exact Or.inr rfl
        | cons next rest => exact Or.inl (by simpa [Kept, phase] using kept)
      · cases h
  | defer =>
      simp only [step] at h
      split at h
      · rename_i verifierId rest reason phase
        obtain rfl := Option.some.inj h
        obtain ⟨grows, others, here⟩ := deferred_spec verifierId rest reason kept
        refine inv.record grows (by rw [phase]; simp) ?_
        intro other outstanding
        rw [MicroRun.Outstanding, phase] at outstanding
        rcases List.mem_cons.mp outstanding with rfl | member
        · exact here.imp_right Or.inr
        · exact Or.inl (others other member)
      · cases h
  | next =>
      simp only [step] at h
      split at h
      · rename_i phase
        split_ifs at h with none
        · obtain rfl := Option.some.inj h
          refine inv.record ((Extends.refl s).move _ _) (by rw [phase]; simp) ?_
          intro other outstanding
          simp [MicroRun.Outstanding, phase, none] at outstanding
        · obtain rfl := Option.some.inj h
          refine inv.record ((Extends.refl s).move _ _) (by rw [phase]; simp) ?_
          intro other outstanding
          rw [MicroRun.Outstanding, phase] at outstanding
          exact Or.inl (outstanding.resolve_left List.not_mem_nil)
      · rename_i reason phase
        obtain rfl := Option.some.inj h
        refine inv.record ((Extends.refl s).move _ _) (by rw [phase]; simp) ?_
        intro other outstanding
        simp [MicroRun.Outstanding, phase] at outstanding
      · rename_i phase
        obtain rfl := Option.some.inj h
        refine inv.record (extends_decide s) (by rw [phase]; simp) ?_
        intro other outstanding
        simp [MicroRun.Outstanding, phase] at outstanding
      · cases h

theorem start_concluded (currentGeneration : Int) (pending : List PendingIdentity) :
    (setting.start currentGeneration pending).Concluded := by
  intro phase
  by_cases none : setting.trigger.verifierIds = []
  · rw [start, if_pos none] at phase
    cases phase
  · by_cases candidate : setting.candidate = ""
    · rw [start, if_neg none, if_pos candidate] at phase
      cases phase
    · rw [start, if_neg none, if_neg candidate] at phase
      cases admitted : NativeForgeAdapter.verificationQueueAdmit
          setting.trigger.verifierIds.length with
      | error error =>
          rw [admitted] at phase
          cases phase
      | ok counts =>
          rw [admitted] at phase
          cases phase

theorem decide_concluded (documented : setting.native.core.Documented) (s : MicroRun) :
    (setting.decide s).Concluded := by
  unfold decide
  split
  · intro phase
    cases phase
  · rename_i decision decided
    obtain ⟨_, passes⟩ :=
      NativeForgeAdapter.verificationStatusDecide_eq_ok documented decided
    intro phase
    obtain ⟨counted, _, all⟩ := passes.mp (MicroPhase.returned.inj phase)
    have entries : ∀ entry ∈ s.results, entry.status = "PASS" := by
      intro entry member
      exact all _ (List.mem_map_of_mem member)
    dsimp only
    split_ifs
    · exact ⟨by exact_mod_cast counted, entries⟩
    · exact ⟨by exact_mod_cast counted, entries⟩

theorem settle_running (s : MicroRun) (verifierId : String) (rest : List String)
    (transition : VerificationResourceTransition) (status : Status) :
    (setting.settle s verifierId rest transition).phase ≠ .returned status :=
  advance_running _ _ _ _ _

theorem reused_running (s : MicroRun) (verifierId : String) (rest : List String)
    (answer : String) (status : Status) :
    (setting.reused s verifierId rest answer).phase ≠ .returned status := by
  unfold reused
  dsimp only
  split
  · exact fun h => by cases h
  · exact advance_running _ _ _ _ _

theorem failed_running (s : MicroRun) (verifierId : String) (rest : List String)
    (failure : VerifierFailure) (status : Status) :
    (setting.failed s verifierId rest failure).phase ≠ .returned status := by
  unfold failed
  dsimp only
  split
  · exact fun h => by cases h
  · exact settle_running _ _ _ _ _

theorem executed_running (s : MicroRun) (verifierId : String) (rest : List String)
    (answer : Except VerifierFailure VerifierAnswer) (status : Status) :
    (setting.executed s verifierId rest answer).phase ≠ .returned status := by
  cases answer with
  | error failure => exact failed_running _ _ _ _ _
  | ok answer =>
      unfold executed
      dsimp only
      split
      · exact failed_running _ _ _ _ _
      · exact settle_running _ _ _ _ _

theorem deferred_running (s : MicroRun) (verifierId : String) (rest : List String)
    (reason : String) (status : Status) :
    (setting.deferred s verifierId rest reason).phase ≠ .returned status := by
  unfold deferred
  split
  · exact fun h => by cases h
  · dsimp only
    split_ifs <;> exact fun h => by cases h

/-- Only the aggregate decision returns. -/
theorem step_concluded (documented : setting.native.core.Documented) {event : MicroEvent}
    (inv : s.Concluded) (h : setting.step s event = some t) : t.Concluded := by
  cases event with
  | raise generation =>
      obtain rfl := Option.some.inj h
      exact inv
  | refuse =>
      simp only [step] at h
      split at h
      · split_ifs at h
        obtain rfl := Option.some.inj h
        intro phase
        cases phase
      · cases h
  | reuse status =>
      simp only [step] at h
      split at h
      · split_ifs at h
        obtain rfl := Option.some.inj h
        exact fun phase => absurd phase (reused_running _ _ _ _ _)
      · cases h
  | execute answer =>
      simp only [step] at h
      split at h
      · split_ifs at h
        obtain rfl := Option.some.inj h
        exact fun phase => absurd phase (executed_running _ _ _ _ _)
      · cases h
  | defer =>
      simp only [step] at h
      split at h
      · obtain rfl := Option.some.inj h
        exact fun phase => absurd phase (deferred_running _ _ _ _ _)
      · cases h
  | next =>
      simp only [step] at h
      split at h
      · split_ifs at h
        · obtain rfl := Option.some.inj h
          intro phase
          cases phase
        · obtain rfl := Option.some.inj h
          intro phase
          cases phase
      · obtain rfl := Option.some.inj h
        intro phase
        cases phase
      · obtain rfl := Option.some.inj h
        exact decide_concluded documented s
      · cases h

/-- When no verifier is left out because the generation was raised, a run that
passes has a passing result for each verifier, and each verifier without one has
a failing result, is pending or is escalated. -/
theorem micro_accounts (setting : MicroSetting) (documented : setting.native.core.Documented)
    (currentGeneration : Int) (pending : List PendingIdentity) {status : Status}
    (run : Reaches setting.step setting.Kept (setting.start currentGeneration pending) s)
    (returned : s.phase = .returned status) :
    (status = .pass → ∀ verifierId ∈ setting.trigger.verifierIds,
      ∃ entry ∈ s.results, entry.verifierId = verifierId ∧ entry.status = "PASS") ∧
      ∀ verifierId ∈ setting.trigger.verifierIds,
        (∃ entry ∈ s.results, entry.verifierId = verifierId ∧ entry.status = "PASS") ∨
          (∃ entry ∈ s.results, entry.verifierId = verifierId ∧ entry.status ≠ "PASS") ∨
            setting.pendingIdentity verifierId ∈ s.pending ∨ s.Escalated verifierId := by
  have accounted : setting.Accounted s :=
    run.invariant (start_accounted currentGeneration pending)
      fun _ _ _ inv kept h => step_accounted inv kept h
  have concluded : s.Concluded :=
    run.invariant (start_concluded currentGeneration pending)
      fun _ _ _ inv _ h => step_concluded documented inv h
  constructor
  · rintro rfl verifierId member
    obtain ⟨counted, passing⟩ := concluded returned
    rcases accounted verifierId member with outstanding | ⟨entry, listed, same⟩ | ⟨_, unresolved⟩
    · simp [MicroRun.Outstanding, returned] at outstanding
    · exact ⟨entry, listed, same, passing entry listed⟩
    · simp [MicroRun.Unresolved, returned, counted] at unresolved
  · intro verifierId member
    rcases accounted verifierId member with outstanding | ⟨entry, listed, same⟩ | ⟨deferred, _⟩
    · simp [MicroRun.Outstanding, returned] at outstanding
    · by_cases passing : entry.status = "PASS"
      · exact Or.inl ⟨entry, listed, same, passing⟩
      · exact Or.inr (Or.inl ⟨entry, listed, same, passing⟩)
    · exact Or.inr (Or.inr deferred)

/-- Two verifiers of one trigger. -/
def sample : MicroSetting where
  native := ⟨referenceCore, fun _ => Digest32.zero⟩
  event := { currentGeneration := 7 }
  trigger :=
    { id := "trigger", action := "micro_verifier", verifierIds := ["verifier:a", "verifier:b"] }
  candidate := "candidate"
  verifierCost _ := some "low"

theorem micro_accounts_sample :
    ∃ s : MicroRun, s.phase = .returned .pass ∧
      ∀ verifierId ∈ ["verifier:a", "verifier:b"],
        ∃ entry ∈ s.results, entry.verifierId = verifierId ∧ entry.status = "PASS" := by
  have run : (runEvents (guarded sample.step sample.Kept) (sample.start 7 [])
      [.reuse "PASS", .execute (.ok { status := "PASS" }), .next, .next]).map (·.phase) =
        some (.returned .pass) := by
    decide +kernel
  obtain ⟨s, reached, returned⟩ := Option.map_eq_some_iff.mp run
  exact ⟨s, returned, (micro_accounts sample referenceCore_documented 7 []
    (reaches_of_runEvents reached) returned).1 rfl⟩

/-- The generation is raised before the first result is reused. -/
theorem micro_passes_without_verifier :
    ∃ s : MicroRun, Reaches sample.step (fun _ _ => True) (sample.start 7 []) s ∧
      s.phase = .returned .pass ∧ "verifier:b" ∈ sample.trigger.verifierIds ∧
      (∀ entry ∈ s.results, entry.verifierId ≠ "verifier:b") ∧ s.pending = [] ∧
      s.escalations = [] := by
  have run : (runEvents (guarded sample.step fun _ _ => True) (sample.start 7 [])
      [.raise 8, .reuse "PASS", .next, .next]).map
        (fun s => (s.phase, s.results.map (·.verifierId), s.pending, s.escalations)) =
          some (.returned .pass, ["verifier:a"], [], []) := by
    decide +kernel
  obtain ⟨s, reached, final⟩ := Option.map_eq_some_iff.mp run
  simp only [Prod.mk.injEq] at final
  obtain ⟨returned, results, pending, escalations⟩ := final
  refine ⟨s, reaches_of_runEvents reached, returned, by decide, ?_, pending, escalations⟩
  intro entry member
  have named := List.mem_map_of_mem (f := (·.verifierId)) member
  rw [results, List.mem_singleton] at named
  rw [named]
  decide

end MicroSetting

end MncsForge.Continuous
