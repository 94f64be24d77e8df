import Mathlib
import MncsForge.Lifecycle.Machine
import MncsForge.Lifecycle.Reading
import MncsForge.Records.Migration

/-!
# Authorized runs

A run starts from the empty history and appends one record at a time, each one
authorized by a machine on the history so far.  The world of the machine is free
at every step.  Every run builds a coherent history.
-/

namespace MncsForge.Lifecycle

open MncsForge.Foundation MncsForge.Records MncsForge.Native

/-! ## Steps -/

/-- The types whose records no part of the lifecycle reads. -/
def bystanders : List RecordType :=
  [.providerProbe, .workflowAction, .executionReceiptBinding, .executionAssurance,
   .verifierAction, .reconciliation, .compilerExperiment, .compilerCandidate,
   .conceptEvaluation]

/-- The record is one the services write after the matching authorizer accepted:
its lineage fields are the arguments and the result of that call. -/
inductive Authorized (m : ForgeStateMachine) (record : ForgeRecord) : Prop where
  | epoch {parentEpoch : Option String} :
      m.authorizeEpochBegin parentEpoch = .ok () →
      record.recordType = .epoch →
      record.get "parent_epoch" = .ofText parentEpoch → Authorized m record
  | candidate {parentCandidate epochIdentity : Option String} {proposedIdentity : String}
      {epoch : ForgeRecord} :
      m.authorizeCandidateRegister parentCandidate proposedIdentity epochIdentity =
        .ok epoch →
      record.recordType = .candidate →
      record.get "candidate_id" = .str proposedIdentity →
      record.get "parent_candidate" = .ofText parentCandidate →
      record.get "source_epoch" = epoch.get "epoch_id" → Authorized m record
  | candidateWork {candidateId : Option String} {candidate : ForgeRecord} :
      m.authorizeDevelopmentWork candidateId false = .ok (some candidate) →
      record.recordType = .workflowResult →
      record.get "subject_type" = .str "candidate" →
      record.get "candidate_identity" = candidate.get "candidate_id" → Authorized m record
  | projectWork {candidateId : Option String} :
      m.authorizeDevelopmentWork candidateId true = .ok none →
      record.recordType = .workflowResult →
      record.get "subject_type" = .str "project" → Authorized m record
  | disposition {candidateId disposition : String}
      {result : ForgeRecord × EvidenceReadiness} :
      m.authorizeCandidateDisposition candidateId disposition = .ok result →
      record.recordType = .candidateDisposition →
      record.get "candidate_identity" = .str candidateId →
      record.get "disposition" = .str disposition → Authorized m record
  | freeze {candidateId : String} {plan : Option (List String)}
      {candidate selection : ForgeRecord} :
      m.authorizeCandidateFreeze candidateId plan = .ok (candidate, selection) →
      record.recordType = .freeze →
      record.get "candidate_identity" = candidate.get "candidate_id" →
      record.get "selection_record" = selection.get "disposition_id" → Authorized m record
  | evaluation {candidateId : Option String} {freeze candidate : ForgeRecord} :
      m.authorizeEvaluatorEntry candidateId = .ok (freeze, candidate) →
      record.recordType = .finalEvaluation →
      record.get "candidate_identity" = candidate.get "candidate_id" → Authorized m record
  | bundle {candidateId : Option String} {requestValid : Bool} {candidate : ForgeRecord} :
      m.authorizeBundle candidateId requestValid = .ok candidate →
      record.recordType = .bundle →
      record.get "candidate_identity" = candidate.get "candidate_id" → Authorized m record
  | bystander : record.recordType ∈ bystanders → Authorized m record

/-- The field under which the store keeps records of a type apart. -/
def storeIdentityField (recordType : RecordType) : Option String :=
  (persistedRecordContexts.find? fun context => context.recordType = recordType).map
    (·.identityField)

/-- No record of the same type has the same identity. -/
def Fresh (history : History) (record : ForgeRecord) : Prop :=
  ∀ name ∈ storeIdentityField record.recordType,
    ∀ older ∈ typed record.recordType history, older.get name ≠ record.get name

/-- Runs whose steps are also of an allowed kind. -/
inductive Run (hashing : Hashing) (allowed : ForgeStateMachine → ForgeRecord → Prop) :
    History → Prop where
  | start : Run hashing allowed []
  | append {m : ForgeStateMachine} {record : ForgeRecord} :
      Run hashing allowed m.history →
      allowed m record →
      Authorized m record →
      record.Valid hashing →
      Fresh m.history record →
      Run hashing allowed (m.history ++ [record])

/-! ## What one step preserves -/

section Step

variable {m : ForgeStateMachine} {events : List (LineageEvent String)} {l : Lineage String}
  {record : ForgeRecord} {hashing : Hashing}

private theorem fresh_epoch (h : Traces m.history events) (t : Lineage.Traced events l)
    (htype : record.recordType = .epoch) (fresh : Fresh m.history record) {id : String}
    (hid : record.get "epoch_id" = .str id) : id ∉ l.epochs := by
  intro hmem
  rw [← List.mem_reverse, ← epoch_ids h t] at hmem
  obtain ⟨older, holder, hsame⟩ := List.mem_map.mp hmem
  have distinct := fresh "epoch_id" (by rw [htype]; decide) older (by rw [htype]; exact holder)
  rw [(epoch_texts h holder).1, hsame, hid] at distinct
  exact distinct rfl

private theorem fresh_candidate (h : Traces m.history events) (t : Lineage.Traced events l)
    (htype : record.recordType = .candidate) (fresh : Fresh m.history record) {id : String}
    (hid : record.get "candidate_id" = .str id) : id ∉ l.candidates := by
  intro hmem
  rw [← List.mem_reverse, ← candidate_ids h t] at hmem
  obtain ⟨older, holder, hsame⟩ := List.mem_map.mp hmem
  have distinct :=
    fresh "candidate_id" (by rw [htype]; decide) older (by rw [htype]; exact holder)
  rw [(candidate_texts h holder).1, hsame, hid] at distinct
  exact distinct rfl

/-- The current candidate of a machine that reads a lineage. -/
private theorem Reads.current {p : LifecycleProjection} (reads : Reads l p)
    {candidate : ForgeRecord} (hcurrent : p.currentCandidate = some candidate) :
    ∃ id, candidate.get "candidate_id" = .str id ∧ l.chain.head? = some id := by
  refine ⟨_, reads.candidate_text candidate hcurrent, ?_⟩
  rw [← reads.candidate, hcurrent, Option.map_some]

private theorem Reads.undecided {p : LifecycleProjection} (reads : Reads l p)
    (hstatus : p.dispositionStatus = "undisposed") : l.disposition = none := by
  rw [reads.dispositionStatus] at hstatus
  match hdisposition : l.disposition with
  | none => rfl
  | some (_, true) => simp [hdisposition, dispositionStatusText] at hstatus
  | some (_, false) => simp [hdisposition, dispositionStatusText] at hstatus

private theorem Reads.selected {p : LifecycleProjection} (reads : Reads l p)
    (hstatus : p.dispositionStatus = "selected") {disposition : ForgeRecord}
    (hdisposition : p.disposition = some disposition) :
    ∃ id, disposition.get "disposition_id" = .str id ∧ l.disposition = some (id, true) := by
  refine ⟨_, reads.disposition_text disposition hdisposition, ?_⟩
  have id := reads.disposition
  rw [reads.dispositionStatus] at hstatus
  match hselected : l.disposition with
  | none => simp [hselected, dispositionStatusText] at hstatus
  | some (_, false) => simp [hselected, dispositionStatusText] at hstatus
  | some (selection, true) =>
      rw [hdisposition, hselected] at id
      rw [show textOf disposition "disposition_id" = selection from Option.some.inj id]

private theorem Reads.notFrozen {p : LifecycleProjection} (reads : Reads l p)
    (hfreeze : p.freeze = none) : l.frozen = false := by
  rw [← reads.freeze, hfreeze]
  rfl

theorem bystander_event (h : record.recordType ∈ bystanders) :
    lineageEvent? record = some .other := by
  simp only [bystanders, List.mem_cons, List.not_mem_nil, or_false] at h
  rcases h with htype | htype | htype | htype | htype | htype | htype | htype | htype <;>
    simp [lineageEvent?, htype]

/-- An authorized record stands for an event the lineage of the history admits. -/
theorem Authorized.admits (h : Traces m.history events) (t : Lineage.Traced events l)
    (reads : Reads l m.projection) (authorized : Authorized m record)
    (valid : record.Valid hashing) (fresh : Fresh m.history record) :
    ∃ event, lineageEvent? record = some event ∧ l.Admits event := by
  cases authorized with
  | @epoch parentEpoch accepted htype hparent =>
      obtain ⟨_, _, parent⟩ := ForgeStateMachine.authorizeEpochBegin_ok accepted
      obtain ⟨id, _, hid⟩ := valid.text "epoch_id" (by rw [htype]; decide)
      refine ⟨.epoch id parentEpoch,
        (epoch_event htype).mpr ⟨id, parentEpoch, hid, hparent, rfl⟩, ?_⟩
      exact ⟨fresh_epoch h t htype fresh hid, by rw [parent, reads.epoch]⟩
  | @candidate parentCandidate _ proposed epoch accepted htype hid hparent hsource =>
      obtain ⟨_, _, hactive, hfreeze, parent⟩ :=
        ForgeStateMachine.authorizeCandidateRegister_ok accepted
      have source := reads.epoch_text epoch hactive
      have active := reads.epoch
      rw [hactive, Option.map_some] at active
      refine ⟨.candidate proposed (textOf epoch "epoch_id") parentCandidate,
        (candidate_event htype).mpr
          ⟨proposed, _, parentCandidate, hid, hsource.trans source, hparent, rfl⟩, ?_⟩
      exact ⟨fresh_candidate h t htype fresh hid, active.symm, by rw [parent, reads.candidate],
        reads.notFrozen hfreeze⟩
  | @candidateWork _ candidate accepted htype hsubject hcandidate =>
      obtain ⟨_, hfreeze, hcurrent⟩ := ForgeStateMachine.authorizeDevelopmentWork_ok accepted
      obtain ⟨id, hid, head⟩ := reads.current hcurrent
      refine ⟨.observation id, ?_, head, reads.notFrozen hfreeze⟩
      simp [lineageEvent?, htype, hsubject, text?, hcandidate, hid, Json.asStr?]
  | @projectWork _ _ htype hsubject =>
      exact ⟨.other, by simp [lineageEvent?, htype, hsubject], trivial⟩
  | @disposition candidateId disposition result accepted htype hcandidate hdisposition =>
      obtain ⟨_, hchoice, hcurrent, hid, hstatus⟩ :=
        ForgeStateMachine.authorizeCandidateDisposition_ok accepted
      obtain ⟨id, hid', head⟩ := reads.current hcurrent
      obtain rfl : id = candidateId := by
        rw [hid] at hid'
        exact (Json.str.inj hid').symm
      obtain ⟨own, _, hown⟩ := valid.text "disposition_id" (by rw [htype]; decide)
      refine ⟨.disposition own id (decide (disposition = "selected")),
        (disposition_event htype).mpr ⟨own, id, _, hown, hcandidate, ?_, rfl⟩,
        head, reads.undecided hstatus⟩
      rw [hdisposition]
      rcases hchoice with rfl | rfl <;> rfl
  | @freeze _ _ candidate selection accepted htype hcandidate hselection =>
      obtain ⟨_, hcurrent, hdisposition, hstatus, hfreeze⟩ :=
        ForgeStateMachine.authorizeCandidateFreeze_ok accepted
      obtain ⟨id, hid, head⟩ := reads.current hcurrent
      obtain ⟨selected, hselected, decided⟩ := reads.selected hstatus hdisposition
      exact ⟨.freeze id selected,
        (freeze_event htype).mpr
          ⟨id, selected, hcandidate.trans hid, hselection.trans hselected, rfl⟩,
        head, decided, reads.notFrozen hfreeze⟩
  | @evaluation _ freeze candidate accepted htype hcandidate =>
      obtain ⟨_, _, hfreeze, _, _, hcurrent, _⟩ :=
        ForgeStateMachine.authorizeEvaluatorEntry_eq_ok.mp accepted
      obtain ⟨id, hid, head⟩ := reads.current hcurrent
      refine ⟨.evaluation id,
        (evaluation_event htype).mpr ⟨id, hcandidate.trans hid, rfl⟩, head, ?_⟩
      rw [← reads.freeze, hfreeze]
      rfl
  | bundle _ htype => exact ⟨.other, by simp [lineageEvent?, htype], trivial⟩
  | bystander hbystander => exact ⟨.other, bystander_event hbystander, trivial⟩

end Step

/-! ## Runs without a native adapter -/

/-- Without an adapter the projection is there and is the plain one. -/
theorem project_plain {w : World} (hnative : w.native = none) (history : History) :
    project w history = .ok (projectWith w history
      (compatEvidenceReadiness w history (projectCandidate w history).current none)) := by
  simp only [project, evidenceReadiness, applyNative, hnative]
  rfl

theorem coherent_of_run {hashing : Hashing} {history : History}
    (run : Run hashing (fun m _ => m.world.native = none) history) :
    CoherentHistory history := by
  induction run with
  | start => exact ⟨[], traces_nil, .nil⟩
  | @append m record _ hnative authorized valid fresh ih =>
      obtain ⟨events, h, coherent⟩ := ih
      have reads : Reads (Lineage.run events) m.projection := by
        have projected := m.projected
        rw [project_plain hnative] at projected
        rw [← Except.ok.inj projected]
        exact projectWith_reads h coherent.traced _ _
      obtain ⟨event, hevent, admits⟩ := authorized.admits h coherent.traced reads valid fresh
      exact ⟨events ++ [event], h.snoc hevent, coherent.snoc admits⟩

/-- The only disposition of a candidate selects it and is the one a freeze names. -/
def NamesOnlySelection (history : History) (freeze : ForgeRecord) : Prop :=
  ∃ candidateId disposition,
    freeze.get "candidate_identity" = .str candidateId ∧
    recordsAbout .candidateDisposition history (some candidateId) = [disposition] ∧
    disposition.get "disposition" = .str "selected" ∧
    freeze.get "selection_record" = disposition.get "disposition_id"

section Settled

variable {history : History} {events : List (LineageEvent String)}

theorem Traces.settled (h : Traces history events) (coherent : Lineage.Coherent events)
    (candidateId : String) :
    (recordsAbout .candidateDisposition history (some candidateId)).length ≤ 1 ∧
      (recordsAbout .freeze history (some candidateId)).length ≤ 1 := by
  obtain ⟨dispositions, freezes, _⟩ := coherent.traced.settled candidateId
  rw [← h.dispositions, List.length_map] at dispositions
  rw [← h.freezes, List.length_map] at freezes
  exact ⟨dispositions, freezes⟩

theorem Traces.namesOnlySelection (h : Traces history events)
    (coherent : Lineage.Coherent events) {freeze : ForgeRecord}
    (hfreeze : freeze ∈ typed .freeze history) : NamesOnlySelection history freeze := by
  obtain ⟨hmem, htype⟩ := mem_typed.mp hfreeze
  obtain ⟨event, _, hevent⟩ := h.event hmem
  obtain ⟨candidateId, selection, hcandidate, hselection, _⟩ := (freeze_event htype).mp hevent
  have about : freeze ∈ recordsAbout .freeze history (some candidateId) :=
    recordsAbout_mem.mpr ⟨hfreeze, hcandidate⟩
  have decided := (coherent.traced.settled candidateId).2.2 selection (by
    rw [← h.freezes, ← textOf_of_get hselection]
    exact List.mem_map_of_mem (f := fun record => textOf record "selection_record") about)
  rw [← h.dispositions] at decided
  obtain ⟨disposition, only, pair⟩ := List.map_eq_singleton_iff.mp decided
  obtain ⟨hid, hselected⟩ := Prod.mk.inj pair
  refine ⟨candidateId, disposition, hcandidate, only, by simpa using hselected, ?_⟩
  have hmem : disposition ∈ recordsAbout .candidateDisposition history (some candidateId) := by
    rw [only]
    exact List.mem_singleton_self _
  obtain ⟨hmem, htype⟩ := mem_typed.mp (recordsAbout_mem.mp hmem).1
  obtain ⟨event, _, hevent⟩ := h.event hmem
  obtain ⟨id, _, _, hown, _⟩ := (disposition_event htype).mp hevent
  rw [hselection, hown, ← hid, textOf_of_get hown]

end Settled

/-- A run without a native adapter leaves a history that no world sees as ambiguous,
and in which a candidate is disposed at most once and frozen at most once, for its
only disposition, which selects it. -/
theorem run_unambiguous_and_settled {hashing : Hashing} {history : History}
    (run : Run hashing (fun m _ => m.world.native = none) history) :
    (∀ w : World, w.native = none → ∃ projection,
      project w history = .ok projection ∧ projection.stage ≠ .ambiguousHistory) ∧
    (∀ candidateId : String,
      (recordsAbout .candidateDisposition history (some candidateId)).length ≤ 1 ∧
        (recordsAbout .freeze history (some candidateId)).length ≤ 1) ∧
    ∀ freeze ∈ typed .freeze history, NamesOnlySelection history freeze := by
  obtain ⟨events, h, coherent⟩ := coherent_of_run run
  refine ⟨fun w hnative => ⟨_, project_plain hnative history, ?_⟩, h.settled coherent,
    fun freeze hfreeze => h.namesOnlySelection coherent hfreeze⟩
  exact (projectWith_reads h coherent.traced w _).unambiguous

/-! ## A sample run -/

/-- A record of a type with every required field filled in. -/
def filledRecord (recordType : RecordType) (given : Dict String Json) : ForgeRecord :=
  model recordType
    ((recordSpecs recordType).required.map fun name =>
      (name, (Dict.get? given name).getD
        (if name ∈ requiredObjectFields recordType then .obj [] else .str "-")))
    currentSchemaVersion

def sampleHashing : Hashing := ⟨fun _ => "", fun _ => .ok []⟩

def sampleNative : NativeForgeAdapter := ⟨referenceCore, fun _ => Native.Lifecycle.probe 7⟩

def sampleEpochId : String := digestIdentity "epoch" (Native.Lifecycle.probe 1)

def sampleCandidateId : String :=
  digestIdentity "forge-tree-sha256-v1" (Native.Lifecycle.probe 2)

def sampleEpoch : ForgeRecord :=
  filledRecord .epoch [("epoch_id", .str sampleEpochId), ("parent_epoch", .null)]

def sampleCandidate : ForgeRecord :=
  filledRecord .candidate
    [("candidate_id", .str sampleCandidateId), ("parent_candidate", .null),
     ("source_epoch", .str sampleEpochId)]

def sampleResult : ForgeRecord :=
  filledRecord .workflowResult
    [("candidate_identity", .str sampleCandidateId), ("status", .str "PASS"),
     ("subject_type", .str "candidate"), ("workflow", .str "check")]

def sampleDisposition : ForgeRecord :=
  filledRecord .candidateDisposition
    [("candidate_identity", .str sampleCandidateId), ("disposition", .str "selected"),
     ("disposition_id", .str "disposition:1"), ("evidence_status", .str "PASS"),
     ("selection_policy_identity", .str "policy")]

def sampleFreeze : ForgeRecord :=
  filledRecord .freeze
    [("candidate_identity", .str sampleCandidateId),
     ("selection_record", .str "disposition:1")]

def sampleEvaluation (outputIdentity : String) : ForgeRecord :=
  filledRecord .finalEvaluation
    [("candidate_identity", .str sampleCandidateId),
     ("output_identity", .str outputIdentity), ("status", .str "PASS")]

def sampleWorld (mode : Mode) (native : Option NativeForgeAdapter) : World where
  mode := mode
  currentCandidateIdentity := sampleCandidateId
  selectionPolicyIdentity := "policy"
  requiredEvidence := ["check"]
  native := native

/-- A machine that accepts, from an evaluation. -/
theorem exists_machine {α : Type} (w : World) (history : History)
    (f : ForgeStateMachine → Except ForgeError α) (result : α)
    (h : (ForgeStateMachine.build w history >>= f) = .ok result) :
    ∃ m : ForgeStateMachine, m.world = w ∧ m.history = history ∧ f m = .ok result := by
  obtain ⟨m, hbuild, hf⟩ := bind_eq_ok.mp h
  obtain ⟨hworld, hhistory⟩ := ForgeStateMachine.build_eq_ok hbuild
  exact ⟨m, hworld, hhistory, hf⟩

theorem Run.extend {hashing : Hashing} {allowed : ForgeStateMachine → ForgeRecord → Prop}
    {history : History} {m : ForgeStateMachine} {record : ForgeRecord}
    (run : Run hashing allowed history) (hm : m.history = history)
    (hallowed : allowed m record) (authorized : Authorized m record)
    (valid : record.Valid hashing) (fresh : Fresh history record) :
    Run hashing allowed (history ++ [record]) := by
  subst hm
  exact run.append hallowed authorized valid fresh

/-- An epoch, a candidate, its evidence, its selection and its freeze. -/
def sampleHistory : History :=
  [sampleEpoch, sampleCandidate, sampleResult, sampleDisposition, sampleFreeze]

theorem sampleHistory_run {allowed : ForgeStateMachine → ForgeRecord → Prop}
    {native : Option NativeForgeAdapter} (hnative : native = none ∨ native = some sampleNative)
    (hallowed : ∀ m, m.world = sampleWorld .development native →
      ∀ record ∈ sampleHistory, allowed m record) :
    Run sampleHashing allowed sampleHistory := by
  have run : Run sampleHashing allowed [] := .start
  have run : Run sampleHashing allowed [sampleEpoch] := by
    obtain ⟨m, hw, hm, accepted⟩ := exists_machine
      (sampleWorld .development native) ([])
      (fun m => m.authorizeEpochBegin none) (()) (by
        rcases hnative with rfl | rfl <;> decide +kernel)
    exact run.extend hm (hallowed m hw _ (by simp [sampleHistory])) (.epoch accepted rfl rfl)
      (by unfold ForgeRecord.Valid; decide +kernel) (by unfold Fresh; decide +kernel)
  have run : Run sampleHashing allowed [sampleEpoch, sampleCandidate] := by
    obtain ⟨m, hw, hm, accepted⟩ := exists_machine
      (sampleWorld .development native) ([sampleEpoch])
      (fun m => m.authorizeCandidateRegister none sampleCandidateId none)
      (sampleEpoch) (by
        rcases hnative with rfl | rfl <;> decide +kernel)
    exact run.extend hm (hallowed m hw _ (by simp [sampleHistory])) (.candidate accepted rfl rfl rfl rfl)
      (by unfold ForgeRecord.Valid; decide +kernel) (by unfold Fresh; decide +kernel)
  have run : Run sampleHashing allowed [sampleEpoch, sampleCandidate, sampleResult] := by
    obtain ⟨m, hw, hm, accepted⟩ := exists_machine
      (sampleWorld .development native) ([sampleEpoch, sampleCandidate])
      (fun m => m.authorizeDevelopmentWork none false)
      (some sampleCandidate) (by
        rcases hnative with rfl | rfl <;> decide +kernel)
    exact run.extend hm (hallowed m hw _ (by simp [sampleHistory])) (.candidateWork accepted rfl rfl rfl)
      (by unfold ForgeRecord.Valid; decide +kernel) (by unfold Fresh; decide +kernel)
  have run : Run sampleHashing allowed
      [sampleEpoch, sampleCandidate, sampleResult, sampleDisposition] := by
    obtain ⟨m, hw, hm, accepted⟩ := exists_machine
      (sampleWorld .development native)
      ([sampleEpoch, sampleCandidate, sampleResult])
      (fun m => do
        let result ← m.authorizeCandidateDisposition sampleCandidateId "selected"
        .ok result.1)
      (sampleCandidate) (by
        rcases hnative with rfl | rfl <;> decide +kernel)
    obtain ⟨result, accepted, _⟩ := bind_eq_ok.mp accepted
    exact run.extend hm (hallowed m hw _ (by simp [sampleHistory])) (.disposition accepted rfl rfl rfl)
      (by unfold ForgeRecord.Valid; decide +kernel) (by unfold Fresh; decide +kernel)
  obtain ⟨m, hw, hm, accepted⟩ := exists_machine
    (sampleWorld .development native)
    ([sampleEpoch, sampleCandidate, sampleResult, sampleDisposition])
    (fun m => m.authorizeCandidateFreeze sampleCandidateId (some ["check"]))
    ((sampleCandidate, sampleDisposition)) (by
      rcases hnative with rfl | rfl <;> decide +kernel)
  exact run.extend hm (hallowed m hw _ (by simp [sampleHistory])) (.freeze accepted rfl rfl rfl)
    (by unfold ForgeRecord.Valid; decide +kernel) (by unfold Fresh; decide +kernel)

theorem run_unambiguous_and_settled_sample :
    (∀ w : World, w.native = none → ∃ projection,
      project w sampleHistory = .ok projection ∧ projection.stage ≠ .ambiguousHistory) ∧
    (∀ candidateId : String,
      (recordsAbout .candidateDisposition sampleHistory (some candidateId)).length ≤ 1 ∧
        (recordsAbout .freeze sampleHistory (some candidateId)).length ≤ 1) ∧
    ∀ freeze ∈ typed .freeze sampleHistory, NamesOnlySelection sampleHistory freeze :=
  run_unambiguous_and_settled
    (sampleHistory_run (Or.inl rfl) fun m hw _ _ => by rw [hw]; rfl :
      Run sampleHashing _ sampleHistory)

end MncsForge.Lifecycle
