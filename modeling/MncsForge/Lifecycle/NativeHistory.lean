import Mathlib
import MncsForge.Lifecycle.Runs

/-!
# The native view of a history

The native kernel folds the reduced events of a history.  Over a coherent history
in which no candidate is evaluated twice, the fold keeps step with the lineage.
-/

namespace MncsForge.Lifecycle

open MncsForge.Foundation MncsForge.Records MncsForge.Native
open MncsForge.Native.Lifecycle (ProjectionState HistoryEvent projectEvent projectionInitial)

/-! ## Identities as digests -/

def candidateLabel : String := "forge-tree-sha256-v1"

/-- A text that names a digest other than zero. -/
def Names (label id : String) : Prop :=
  ∃ d, d ≠ Digest32.zero ∧ id = digestIdentity label d

/-- New epochs and candidates are identified by digests. -/
def Identified (record : ForgeRecord) : Prop :=
  (record.recordType = .epoch → ∃ id, Names "epoch" id ∧ record.get "epoch_id" = .str id) ∧
  (record.recordType = .candidate →
    ∃ id, Names candidateLabel id ∧ record.get "candidate_id" = .str id)

theorem Identified.of_other {record : ForgeRecord} (hepoch : record.recordType ≠ .epoch)
    (hcandidate : record.recordType ≠ .candidate) : Identified record :=
  ⟨fun h => absurd h hepoch, fun h => absurd h hcandidate⟩

def idDigest (id : String) : Digest32 :=
  (valueDigest? (.str id)).getD Digest32.zero

def parentDigest (parent : Option String) : Digest32 :=
  parent.elim Digest32.zero idDigest

theorem Names.valueDigest {label id : String} (h : Names label id) :
    valueDigest? (.str id) = some (idDigest id) ∧ idDigest id ≠ Digest32.zero := by
  obtain ⟨d, hd, rfl⟩ := h
  rw [idDigest, valueDigest?_digestIdentity]
  exact ⟨rfl, hd⟩

theorem Names.injective {label id id' : String} (h : Names label id) (h' : Names label id')
    (same : idDigest id = idDigest id') : id = id' := by
  obtain ⟨d, _, rfl⟩ := h
  obtain ⟨d', _, rfl⟩ := h'
  rw [idDigest, idDigest, valueDigest?_digestIdentity, valueDigest?_digestIdentity] at same
  exact congrArg (digestIdentity label) same

theorem valueDigest_ofText {label : String} {parent : Option String}
    (h : ∀ id ∈ parent, Names label id) :
    valueDigest? (.ofText parent) = some (parentDigest parent) := by
  cases parent with
  | none => rfl
  | some id => exact (h id rfl).valueDigest.1

/-! ## Reduced events -/

/-- The host event of a lineage event; observations of undeclared checks have none. -/
def ReducesTo : LineageEvent String → Option HostEvent → Prop
  | .epoch id parent, host =>
      host = some { kind := .epochStarted, epoch := .str id, parentEpoch := .ofText parent }
  | .candidate id source parent, host =>
      host = some
        { kind := .candidateRegistered, epoch := .str source, candidate := .str id,
          parentCandidate := .ofText parent }
  | .observation candidate, host =>
      host = none ∨ ∃ status : Status,
        host = some
          { kind := .evidenceObserved, candidate := .str candidate, status := status.value }
  | .disposition _ candidate selected, host =>
      host = some
        { kind := if selected then .candidateSelected else .candidateRejected
          candidate := .str candidate }
  | .freeze candidate _, host =>
      host = some { kind := .candidateFrozen, candidate := .str candidate }
  | .evaluation candidate, host =>
      ∃ status : Status,
        host = some
          { kind := .evaluationRecorded, candidate := .str candidate, status := status.value }
  | .other, host => host = none

/-- A valid record with a status has one of the three. -/
theorem status_of_valid {record : ForgeRecord} {hashing : Hashing} (valid : record.Valid hashing)
    (hstatus : (recordSpecs record.recordType).statusField = some "status") :
    ∃ status : Status, record.get "status" = .str status.value := by
  obtain ⟨text, htext, hfield⟩ := valid.status hstatus
  have get : record.get "status" = .str text := by
    rw [ForgeRecord.get_eq_field (by decide) (by decide), hfield]
  simp only [statuses, List.mem_cons, List.not_mem_nil, or_false] at htext
  rcases htext with rfl | rfl | rfl
  · exact ⟨.pass, get⟩
  · exact ⟨.fail, get⟩
  · exact ⟨.unknown, get⟩

theorem eventStatus_of_get {record : ForgeRecord} {status : Status}
    (h : record.get "status" = .str status.value) : eventStatus record = status.value := by
  rw [eventStatus, h]
  cases status <;> rfl

private theorem eventStatus_value {record : ForgeRecord} {hashing : Hashing}
    (valid : record.Valid hashing)
    (hstatus : (recordSpecs record.recordType).statusField = some "status") :
    ∃ status : Status, eventStatus record = status.value := by
  obtain ⟨status, get⟩ := status_of_valid valid hstatus
  exact ⟨status, eventStatus_of_get get⟩

/-- A valid record is reduced to the host event of its lineage event. -/
theorem reducesTo {record : ForgeRecord} {event : LineageEvent String} {hashing : Hashing}
    (requirements : List String) (h : lineageEvent? record = some event)
    (valid : record.Valid hashing) : ReducesTo event (nativeEvent? requirements record) := by
  cases htype : record.recordType with
  | epoch =>
      obtain ⟨id, parent, hid, hparent, rfl⟩ := (epoch_event htype).mp h
      simp [nativeEvent?, htype, ReducesTo, textOf_of_get hid, hparent]
  | candidate =>
      obtain ⟨id, source, parent, hid, hsource, hparent, rfl⟩ := (candidate_event htype).mp h
      simp [nativeEvent?, htype, ReducesTo, textOf_of_get hid, textOf_of_get hsource, hparent]
  | candidateDisposition =>
      obtain ⟨id, candidate, selected, _, hcandidate, hselected, rfl⟩ :=
        (disposition_event htype).mp h
      cases selected <;>
        simp [nativeEvent?, htype, ReducesTo, textOf_of_get hcandidate, textOf_of_get hselected]
  | freeze =>
      obtain ⟨candidate, selection, hcandidate, _, rfl⟩ := (freeze_event htype).mp h
      simp [nativeEvent?, htype, ReducesTo, textOf_of_get hcandidate]
  | finalEvaluation =>
      obtain ⟨candidate, hcandidate, rfl⟩ := (evaluation_event htype).mp h
      obtain ⟨status, hstatus⟩ := eventStatus_value valid (by rw [htype]; rfl)
      exact ⟨status, by simp [nativeEvent?, htype, textOf_of_get hcandidate, hcandidate, hstatus]⟩
  | workflowResult =>
      obtain ⟨status, hstatus⟩ := eventStatus_value valid (by rw [htype]; rfl)
      by_cases hproject : record.get "subject_type" = .str "project"
      · obtain rfl : .other = event := by
          simpa [lineageEvent?, htype, hproject] using h
        simp [nativeEvent?, htype, ReducesTo, hproject]
      · simp only [lineageEvent?, htype, hproject, if_false] at h
        obtain ⟨candidate, hcandidate, rfl⟩ := Option.map_eq_some_iff.mp h
        simp only [nativeEvent?, htype, ne_eq, hproject, not_false_eq_true, if_true]
        split
        · refine Or.inr ⟨status, ?_⟩
          rw [textOf_of_get (text?_eq_some.mp hcandidate), hstatus]
        · exact Or.inl rfl
  | verifierResult =>
      obtain ⟨status, hstatus⟩ := eventStatus_value valid (by rw [htype]; rfl)
      by_cases hmode : record.get "mode" = .str "development"
      · simp only [lineageEvent?, htype, hmode, ne_eq, not_true_eq_false, if_false] at h
        obtain ⟨candidate, hcandidate, rfl⟩ := Option.map_eq_some_iff.mp h
        simp only [nativeEvent?, htype, hmode, if_true]
        split
        · refine Or.inr ⟨status, ?_⟩
          rw [textOf_of_get (text?_eq_some.mp hcandidate), hstatus]
        · exact Or.inl rfl
      · obtain rfl : .other = event := by
          simpa [lineageEvent?, htype, hmode] using h
        simp [nativeEvent?, htype, ReducesTo, hmode]
  | _ =>
      obtain rfl : .other = event := by
        simpa only [lineageEvent?, htype, Option.some.injEq] using h
      simp [nativeEvent?, htype, ReducesTo]

theorem historyEventValue_eq_ok {event : HostEvent} {status : Status}
    {candidate epoch parentCandidate parentEpoch : Digest32}
    (hstatus : Status.ofString? event.status = some status)
    (hcandidate : valueDigest? event.candidate = some candidate)
    (hepoch : valueDigest? event.epoch = some epoch)
    (hparentCandidate : valueDigest? event.parentCandidate = some parentCandidate)
    (hparentEpoch : valueDigest? event.parentEpoch = some parentEpoch) :
    historyEventValue event =
      .ok ⟨event.kind, epoch, parentEpoch, candidate, parentCandidate, status⟩ := by
  rw [historyEventValue, hstatus, digestValue_eq_ok.mpr hcandidate,
    digestValue_eq_ok.mpr hepoch, digestValue_eq_ok.mpr hparentCandidate,
    digestValue_eq_ok.mpr hparentEpoch]
  rfl

/-! ## Observed statuses -/

/-- The status a host event observes of a candidate. -/
def observedStatus? (candidateId : String) (host : HostEvent) : Option Status :=
  if host.kind = .evidenceObserved ∧ host.candidate = .str candidateId then
    Status.ofString? host.status
  else none

/-- The statuses of the declared checks of a candidate, oldest first. -/
def observedStatuses (requirements : List String) (history : History)
    (candidateId : String) : List Status :=
  (history.filterMap (nativeEvent? requirements)).filterMap (observedStatus? candidateId)

theorem filterMap_singleton {α β : Type*} (f : α → Option β) (a : α) :
    [a].filterMap f = (f a).toList := by
  cases h : f a <;> simp [h]

theorem observedStatuses_snoc (requirements : List String) (history : History)
    (record : ForgeRecord) (candidateId : String) :
    observedStatuses requirements (history ++ [record]) candidateId =
      observedStatuses requirements history candidateId ++
        (nativeEvent? requirements record).toList.filterMap (observedStatus? candidateId) := by
  rw [observedStatuses, List.filterMap_append, List.filterMap_append, ← observedStatuses,
    filterMap_singleton]

/-! ## The fold keeps step with the lineage -/

def headDigest (ids : List String) : Digest32 :=
  parentDigest ids.head?

def nativeDisposition : Option (String × Bool) → Native.Lifecycle.Disposition
  | none => .undisposed
  | some (_, true) => .selected
  | some (_, false) => .rejected

/-- The native state shows a lineage. -/
structure Shows (requirements : List String) (history : History) (l : Lineage String)
    (s : ProjectionState) : Prop where
  lineageOk : s.lineageOk = true
  activeEpoch : s.activeEpoch = headDigest l.epochs
  parentEpoch : s.parentEpoch = headDigest l.epochs.tail
  currentCandidate : s.currentCandidate = headDigest l.chain
  parentCandidate : s.parentCandidate = headDigest l.chain.tail
  disposition : s.disposition = nativeDisposition l.disposition
  frozen : s.frozen = l.frozen
  evaluated : s.evaluated = decide (l.evaluations ≠ 0)
  unobserved : ∀ candidate, candidate ∉ l.candidates →
    observedStatuses requirements history candidate = []
  observed : ∀ candidate, l.chain.head? = some candidate → l.disposition = none →
    s.evidenceCount = (observedStatuses requirements history candidate).length ∧
      s.evidence = joinedStatus (observedStatuses requirements history candidate)

structure NamedLineage (l : Lineage String) : Prop where
  epochs : ∀ id ∈ l.epochs, Names "epoch" id
  candidates : ∀ id ∈ l.candidates, Names candidateLabel id

section Step

variable {core : CoreLibrary} {requirements : List String} {history : History}
  {events : List (LineageEvent String)} {l : Lineage String} {s : ProjectionState}
  {record : ForgeRecord}

private theorem headDigest_cons (id : String) (ids : List String) :
    headDigest (id :: ids) = idDigest id := rfl

private theorem headDigest_of_head? {ids : List String} {id : String}
    (h : ids.head? = some id) : headDigest ids = idDigest id := by
  rw [headDigest, h]
  rfl

theorem headDigest_eq_zero {label : String} {ids : List String}
    (named : ∀ id ∈ ids, Names label id) (h : headDigest ids = Digest32.zero) : ids = [] := by
  cases ids with
  | nil => rfl
  | cons id ids => exact absurd h (named id List.mem_cons_self).valueDigest.2

private theorem observedStatuses_same (requirements : List String) (history : History)
    (record : ForgeRecord)
    (h : ∀ host, nativeEvent? requirements record = some host → host.kind ≠ .evidenceObserved)
    (candidateId : String) :
    observedStatuses requirements (history ++ [record]) candidateId =
      observedStatuses requirements history candidateId := by
  rw [observedStatuses_snoc]
  cases hhost : nativeEvent? requirements record with
  | none => simp
  | some host => simp [observedStatus?, h host hhost]

/-- What one event does to the native state, as a fold over at most one value. -/
def Advances (core : CoreLibrary) (requirements : List String) (history : History)
    (record : ForgeRecord) (l : Lineage String) (s : ProjectionState) : Prop :=
  ∃ values, (nativeEvent? requirements record).toList.mapM historyEventValue = .ok values ∧
    Shows requirements (history ++ [record]) l (values.foldl (projectEvent core) s)

private theorem advances_of_event {host : HostEvent} {value : HistoryEvent} {l' : Lineage String}
    (hhost : nativeEvent? requirements record = some host)
    (hvalue : historyEventValue host = .ok value)
    (shows' : Shows requirements (history ++ [record]) l' (projectEvent core s value)) :
    Advances core requirements history record l' s := by
  refine ⟨[value], ?_, shows'⟩
  rw [hhost, Option.toList_some, List.mapM_cons, hvalue]
  rfl

private theorem advances_of_none (hhost : nativeEvent? requirements record = none)
    (shows' : Shows requirements history l s) : Advances core requirements history record l s := by
  refine ⟨[], by rw [hhost]; rfl, ?_⟩
  have same := observedStatuses_same requirements history record fun host h => by
      rw [hhost] at h
      cases h
  refine { shows' with unobserved := ?_, observed := ?_ }
  · intro candidate hcandidate
    rw [same]
    exact shows'.unobserved candidate hcandidate
  · intro candidate hcurrent hdisposition
    rw [same]
    exact shows'.observed candidate hcurrent hdisposition

private theorem noStatus : Status.ofString? "UNKNOWN" = some .unknown := rfl

private theorem advances_epoch (hcore : core.Documented)
    (named : NamedLineage l) {id : String} {parent : Option String}
    (hid : Names "epoch" id) (admits : l.Admits (.epoch id parent))
    (hhost : ReducesTo (.epoch id parent) (nativeEvent? requirements record))
    (shows' : Shows requirements history l s) :
    Advances core requirements history record (l.apply (.epoch id parent)) s := by
  obtain ⟨_, rfl⟩ := admits
  have parentValue := valueDigest_ofText
    (show ∀ id ∈ l.epochs.head?, Names "epoch" id from
      fun id hid => named.epochs id (List.mem_of_head? hid))
  refine advances_of_event hhost
    (historyEventValue_eq_ok noStatus rfl hid.valueDigest.1 rfl parentValue) ?_
  have same := observedStatuses_same requirements history record fun host h => by
      rw [hhost] at h
      cases h
      simp
  have valid : core.validRootOrSuccessor (parentDigest l.epochs.head?) s.activeEpoch = true := by
    rw [hcore.validRootOrSuccessor_eq, shows'.activeEpoch]
    by_cases hzero : headDigest l.epochs = Digest32.zero
    · simp only [hzero, if_true]
      exact decide_eq_true hzero
    · simp only [hzero, if_false]
      exact decide_eq_true rfl
  simp only [projectEvent, Native.Lifecycle.projectEpoch, hcore.isZero_eq,
    hid.valueDigest.2, decide_false, Bool.false_eq_true, if_false, valid, hcore.zero_eq]
  refine ⟨shows'.lineageOk, rfl, rfl, rfl, rfl, rfl, rfl, rfl, ?_, ?_⟩
  · intro candidate hcandidate
    rw [same]
    exact shows'.unobserved candidate hcandidate
  · exact fun candidate hcurrent => nomatch hcurrent

private theorem advances_candidate (hcore : core.Documented) (t : Lineage.Traced events l)
    (named : NamedLineage l) {id source : String} {parent : Option String}
    (hid : Names candidateLabel id) (admits : l.Admits (.candidate id source parent))
    (hhost : ReducesTo (.candidate id source parent) (nativeEvent? requirements record))
    (shows' : Shows requirements history l s) :
    Advances core requirements history record (l.apply (.candidate id source parent)) s := by
  obtain ⟨fresh, hsource, rfl, _⟩ := admits
  have chainNamed : ∀ id ∈ l.chain, Names candidateLabel id :=
    fun id hid => named.candidates id (t.chain_registered id hid)
  have sourceNamed := (named.epochs source (List.mem_of_head? hsource)).valueDigest
  have parentValue := valueDigest_ofText
    (show ∀ id ∈ l.chain.head?, Names candidateLabel id from
      fun id hid => chainNamed id (List.mem_of_head? hid))
  refine advances_of_event hhost
    (historyEventValue_eq_ok noStatus hid.valueDigest.1 sourceNamed.1 parentValue rfl) ?_
  have same := observedStatuses_same requirements history record fun host h => by
      rw [hhost] at h
      cases h
      simp
  have active : s.activeEpoch = idDigest source := by
    rw [shows'.activeEpoch, headDigest_of_head? hsource]
  have distinct : parentDigest l.chain.head? ≠ idDigest id := by
    cases hhead : l.chain.head? with
    | none => exact fun h => hid.valueDigest.2 h.symm
    | some head =>
        intro h
        have registered := t.chain_registered head (List.mem_of_head? hhead)
        have := (named.candidates head registered).injective hid h
        exact fresh (this ▸ registered)
  have valid : core.validRootOrSuccessor (parentDigest l.chain.head?) s.currentCandidate =
      true := by
    rw [hcore.validRootOrSuccessor_eq, shows'.currentCandidate]
    by_cases hzero : headDigest l.chain = Digest32.zero
    · simp only [hzero, if_true]
      exact decide_eq_true hzero
    · simp only [hzero, if_false]
      exact decide_eq_true rfl
  simp only [projectEvent, Native.Lifecycle.projectCandidate, hcore.isZero_eq,
    hcore.equal_eq, active, sourceNamed.2, hid.valueDigest.2, distinct, decide_false,
    decide_true, Bool.false_eq_true, Bool.true_eq_false, or_self, if_false, valid]
  refine ⟨shows'.lineageOk, ?_, shows'.parentEpoch, rfl, rfl, rfl, rfl, rfl, ?_, ?_⟩
  · exact (headDigest_of_head? hsource).symm
  · intro candidate hcandidate
    rw [same]
    exact shows'.unobserved candidate fun hmem => hcandidate (List.mem_cons_of_mem _ hmem)
  · intro candidate hcurrent _
    obtain rfl : id = candidate := Option.some.inj hcurrent
    rw [same, shows'.unobserved id fresh]
    exact ⟨rfl, rfl⟩

/-- The digest of the current candidate, as the native state and events have it. -/
private theorem current_value (t : Lineage.Traced events l) (named : NamedLineage l)
    (shows' : Shows requirements history l s) {candidate : String}
    (hcurrent : l.chain.head? = some candidate) :
    valueDigest? (.str candidate) = some s.currentCandidate ∧
      s.currentCandidate ≠ Digest32.zero := by
  have value := (named.candidates candidate
    (t.chain_registered candidate (List.mem_of_head? hcurrent))).valueDigest
  rw [shows'.currentCandidate, headDigest_of_head? hcurrent]
  exact value

private theorem advances_observation (hcore : core.Documented) (t : Lineage.Traced events l)
    (named : NamedLineage l) {candidate : String} (admits : l.Admits (.observation candidate))
    (hhost : ReducesTo (.observation candidate) (nativeEvent? requirements record))
    (shows' : Shows requirements history l s) :
    Advances core requirements history record (l.apply (.observation candidate)) s := by
  obtain ⟨hcurrent, notFrozen⟩ := admits
  obtain ⟨value, nonzero⟩ := current_value t named shows' hcurrent
  have notEvaluated : l.evaluations = 0 := by
    by_contra hevaluated
    have := (t.evaluated hevaluated).1
    rw [notFrozen] at this
    cases this
  rcases hhost with hhost | ⟨status, hhost⟩
  · exact advances_of_none hhost shows'
  · refine advances_of_event hhost
      (historyEventValue_eq_ok (Status.ofString?_value status) value rfl rfl rfl) ?_
    have frozen : s.frozen = false := by rw [shows'.frozen, notFrozen]
    have evaluated : s.evaluated = false := by simp [shows'.evaluated, notEvaluated]
    have own : ∀ c, observedStatuses requirements (history ++ [record]) c =
        observedStatuses requirements history c ++ if c = candidate then [status] else [] := by
      intro c
      rw [observedStatuses_snoc, hhost]
      by_cases hc : c = candidate
      · simp [observedStatus?, hc]
      · simp [observedStatus?, hc, Ne.symm hc]
    simp only [projectEvent, Native.Lifecycle.projectEvidence, hcore.isZero_eq,
      hcore.equal_eq, nonzero, decide_false, decide_true, Bool.false_eq_true,
      Bool.true_eq_false, if_false, frozen, evaluated]
    refine ⟨shows'.lineageOk, shows'.activeEpoch, shows'.parentEpoch, shows'.currentCandidate,
      shows'.parentCandidate, shows'.disposition, ?_, ?_, ?_, ?_⟩
    · exact frozen.symm.trans shows'.frozen
    · exact evaluated.symm.trans shows'.evaluated
    · intro c hc
      have hne : c ≠ candidate := by
        rintro rfl
        exact hc (t.chain_registered c (List.mem_of_head? hcurrent))
      rw [own, if_neg hne, List.append_nil]
      exact shows'.unobserved c hc
    · intro c hc hdisposition
      obtain rfl : candidate = c := by
        have hc : l.chain.head? = some c := hc
        rw [hcurrent] at hc
        exact Option.some.inj hc
      obtain ⟨count, evidence⟩ := shows'.observed candidate hcurrent hdisposition
      rw [own, if_pos rfl]
      refine ⟨?_, ?_⟩
      · show s.evidenceCount + 1 = _
        rw [count, List.length_append, List.length_singleton]
      · show Native.Lifecycle.joinEvidence core s status = _
        rw [joinedStatus_snoc, Native.Lifecycle.joinEvidence, count, evidence,
          hcore.dominate_eq]
        simp only [List.length_eq_zero_iff]

private theorem advances_disposition (hcore : core.Documented) (t : Lineage.Traced events l)
    (named : NamedLineage l) {id candidate : String} {selected : Bool}
    (admits : l.Admits (.disposition id candidate selected))
    (hhost : ReducesTo (.disposition id candidate selected) (nativeEvent? requirements record))
    (shows' : Shows requirements history l s) :
    Advances core requirements history record (l.apply (.disposition id candidate selected))
      s := by
  obtain ⟨hcurrent, undisposed⟩ := admits
  obtain ⟨value, _⟩ := current_value t named shows' hcurrent
  have open' : s.disposition = .undisposed := by
    rw [shows'.disposition, undisposed]
    rfl
  have same := observedStatuses_same requirements history record fun host h => by
      rw [hhost] at h
      cases h
      cases selected <;> simp
  refine advances_of_event hhost (historyEventValue_eq_ok noStatus value rfl rfl rfl) ?_
  cases selected with
  | true =>
      simp only [projectEvent, if_true, Native.Lifecycle.projectSelected, hcore.equal_eq,
        decide_true, Bool.true_eq_false, if_false, open', ne_eq, not_true_eq_false]
      refine ⟨shows'.lineageOk, shows'.activeEpoch, shows'.parentEpoch,
        shows'.currentCandidate, shows'.parentCandidate, rfl, shows'.frozen, shows'.evaluated,
        ?_, ?_⟩
      · intro c hc
        rw [same]
        exact shows'.unobserved c hc
      · exact fun c _ hdisposition => nomatch hdisposition
  | false =>
      simp only [projectEvent, Bool.false_eq_true, if_false, Native.Lifecycle.projectRejected,
        hcore.equal_eq, decide_true, Bool.true_eq_false, open', ne_eq, not_true_eq_false]
      refine ⟨shows'.lineageOk, shows'.activeEpoch, shows'.parentEpoch,
        shows'.currentCandidate, shows'.parentCandidate, rfl, shows'.frozen, shows'.evaluated,
        ?_, ?_⟩
      · intro c hc
        rw [same]
        exact shows'.unobserved c hc
      · exact fun c _ hdisposition => nomatch hdisposition

private theorem advances_freeze (hcore : core.Documented) (t : Lineage.Traced events l)
    (named : NamedLineage l) {candidate selection : String}
    (admits : l.Admits (.freeze candidate selection))
    (hhost : ReducesTo (.freeze candidate selection) (nativeEvent? requirements record))
    (shows' : Shows requirements history l s) :
    Advances core requirements history record (l.apply (.freeze candidate selection)) s := by
  obtain ⟨hcurrent, selected, notFrozen⟩ := admits
  obtain ⟨value, _⟩ := current_value t named shows' hcurrent
  have decided : s.disposition = .selected := by
    rw [shows'.disposition, selected]
    rfl
  have frozen : s.frozen = false := by rw [shows'.frozen, notFrozen]
  have same := observedStatuses_same requirements history record fun host h => by
      rw [hhost] at h
      cases h
      simp
  refine advances_of_event hhost (historyEventValue_eq_ok noStatus value rfl rfl rfl) ?_
  simp only [projectEvent, Native.Lifecycle.projectFrozen, hcore.equal_eq, decide_true,
    Bool.true_eq_false, if_false, decided, ne_eq, not_true_eq_false, frozen,
    Bool.false_eq_true]
  refine ⟨shows'.lineageOk, shows'.activeEpoch, shows'.parentEpoch, shows'.currentCandidate,
    shows'.parentCandidate, ?_, rfl, shows'.evaluated, ?_, ?_⟩
  · exact decided.symm.trans shows'.disposition
  · intro c hc
    rw [same]
    exact shows'.unobserved c hc
  · intro c _ hdisposition
    have hdisposition : l.disposition = none := hdisposition
    rw [selected] at hdisposition
    cases hdisposition

private theorem advances_evaluation (hcore : core.Documented) (t : Lineage.Traced events l)
    (named : NamedLineage l) {candidate : String}
    (admits : l.AdmitsOnce (.evaluation candidate))
    (hhost : ReducesTo (.evaluation candidate) (nativeEvent? requirements record))
    (shows' : Shows requirements history l s) :
    Advances core requirements history record (l.apply (.evaluation candidate)) s := by
  obtain ⟨⟨hcurrent, hfrozen⟩, once⟩ := admits
  obtain ⟨value, _⟩ := current_value t named shows' hcurrent
  obtain ⟨selection, selected⟩ := t.frozen_selected hfrozen
  have decided : s.disposition = .selected := by
    rw [shows'.disposition, selected]
    rfl
  have frozen : s.frozen = true := by rw [shows'.frozen, hfrozen]
  have evaluated : s.evaluated = false := by simp [shows'.evaluated, once candidate rfl]
  obtain ⟨status, hhost⟩ := hhost
  have same := observedStatuses_same requirements history record fun host h => by
      rw [hhost] at h
      cases h
      simp
  refine advances_of_event hhost
    (historyEventValue_eq_ok (Status.ofString?_value status) value rfl rfl rfl) ?_
  simp only [projectEvent, Native.Lifecycle.projectEvaluation, hcore.equal_eq, decide_true,
    Bool.true_eq_false, if_false, decided, ne_eq, not_true_eq_false, frozen, evaluated,
    Bool.false_eq_true]
  refine ⟨shows'.lineageOk, shows'.activeEpoch, shows'.parentEpoch, shows'.currentCandidate,
    shows'.parentCandidate, ?_, ?_, ?_, ?_, ?_⟩
  · exact decided.symm.trans shows'.disposition
  · exact frozen.symm.trans shows'.frozen
  · exact (decide_eq_true (Nat.succ_ne_zero _)).symm
  · intro c hc
    rw [same]
    exact shows'.unobserved c hc
  · intro c _ hdisposition
    have hdisposition : l.disposition = none := hdisposition
    rw [selected] at hdisposition
    cases hdisposition

/-- The native state keeps showing the lineage over one admitted event. -/
private theorem advances {event : LineageEvent String} (hcore : core.Documented)
    (t : Lineage.Traced events l) (named : NamedLineage l)
    (identified : Identified record) (hevent : lineageEvent? record = some event)
    (admits : l.AdmitsOnce event)
    (hhost : ReducesTo event (nativeEvent? requirements record))
    (shows' : Shows requirements history l s) :
    Advances core requirements history record (l.apply event) s := by
  cases event with
  | epoch id parent =>
      have htype : record.recordType = .epoch := by
        by_contra htype
        exact (lineageEvent?_kind hevent).1 htype id parent rfl
      obtain ⟨own, hown, hid⟩ := identified.1 htype
      obtain ⟨_, _, hid', _, heq⟩ := (epoch_event htype).mp hevent
      obtain ⟨rfl, rfl⟩ := LineageEvent.epoch.inj heq
      obtain rfl : own = id := by
        rw [hid] at hid'
        exact Json.str.inj hid'
      exact advances_epoch hcore named hown admits.1 hhost shows'
  | candidate id source parent =>
      have htype : record.recordType = .candidate := by
        by_contra htype
        exact (lineageEvent?_kind hevent).2.1 htype id source parent rfl
      obtain ⟨own, hown, hid⟩ := identified.2 htype
      obtain ⟨_, _, _, hid', _, _, heq⟩ := (candidate_event htype).mp hevent
      obtain ⟨rfl, rfl, rfl⟩ := LineageEvent.candidate.inj heq
      obtain rfl : own = id := by
        rw [hid] at hid'
        exact Json.str.inj hid'
      exact advances_candidate hcore t named hown admits.1 hhost shows'
  | observation candidate => exact advances_observation hcore t named admits.1 hhost shows'
  | disposition id candidate selected =>
      exact advances_disposition hcore t named admits.1 hhost shows'
  | freeze candidate selection => exact advances_freeze hcore t named admits.1 hhost shows'
  | evaluation candidate => exact advances_evaluation hcore t named admits hhost shows'
  | other => exact advances_of_none hhost shows'

end Step

/-! ## Over a whole history -/

section Histories

variable {core : CoreLibrary} {history : History} {events : List (LineageEvent String)}
  {hashing : Hashing}

theorem named_of_identified (h : Traces history events) (coherent : Lineage.Coherent events)
    (identified : ∀ record ∈ history, Identified record) :
    NamedLineage (Lineage.run events) := by
  constructor
  · intro id hid
    rw [← List.mem_reverse, ← epoch_ids h coherent.traced] at hid
    obtain ⟨record, hrecord, rfl⟩ := List.mem_map.mp hid
    obtain ⟨hmem, htype⟩ := mem_typed.mp hrecord
    obtain ⟨id, named, hid⟩ := (identified record hmem).1 htype
    rw [textOf_of_get hid]
    exact named
  · intro id hid
    rw [← List.mem_reverse, ← candidate_ids h coherent.traced] at hid
    obtain ⟨record, hrecord, rfl⟩ := List.mem_map.mp hid
    obtain ⟨hmem, htype⟩ := mem_typed.mp hrecord
    obtain ⟨id, named, hid⟩ := (identified record hmem).2 htype
    rw [textOf_of_get hid]
    exact named

/-- The native fold over a strictly coherent history shows its lineage. -/
theorem native_shows (hcore : core.Documented) (h : Traces history events)
    (strict : Lineage.StrictlyCoherent events)
    (valid : ∀ record ∈ history, record.Valid hashing)
    (identified : ∀ record ∈ history, Identified record) (requirements : List String) :
    ∃ values,
      (history.filterMap (nativeEvent? requirements)).mapM historyEventValue = .ok values ∧
      Shows requirements history (Lineage.run events)
        (values.foldl (projectEvent core) (projectionInitial core)) := by
  induction strict generalizing history with
  | nil =>
      obtain rfl : history = [] := List.map_eq_nil_iff.mp h
      refine ⟨[], rfl, rfl, ?_, ?_, ?_, ?_, rfl, rfl, rfl, fun _ _ => rfl,
        fun _ hcurrent => nomatch hcurrent⟩
      all_goals exact hcore.zero_eq
  | @snoc events event strict admits ih =>
      obtain ⟨older, record, rfl, holder, hrecord⟩ := h.snoc_inv
      have before : ∀ r ∈ older, r ∈ older ++ [record] := fun r => List.mem_append_left _
      have last : record ∈ older ++ [record] := by simp
      obtain ⟨values, hvalues, shows'⟩ := ih holder (fun r hr => valid r (before r hr))
        fun r hr => identified r (before r hr)
      have coherent := Lineage.StrictlyCoherent.coherent strict
      have named := named_of_identified holder coherent
        fun r hr => identified r (before r hr)
      obtain ⟨more, hmore, shows''⟩ := advances hcore coherent.traced named
        (identified record last) hrecord admits
        (reducesTo requirements hrecord (valid record last)) shows'
      refine ⟨values ++ more, ?_, ?_⟩
      · rw [List.filterMap_append, filterMap_singleton, List.mapM_append, hvalues, hmore]
        rfl
      · rw [Lineage.run_snoc, List.foldl_append]
        exact shows''

end Histories

end MncsForge.Lifecycle
