import Mathlib
import MncsForge.Foundation.Lineage
import MncsForge.Lifecycle.Projection

/-!
# Coherent histories

A record stands for a lineage event, and a history is coherent when its events
are.  The projection of a coherent history is never ambiguous, in any world and
whatever its evidence, and it shows the lineage of the history.
-/

namespace MncsForge.Lifecycle

open MncsForge.Foundation MncsForge.Records MncsForge.Native

/-! ## Records as lineage events -/

def text? (record : ForgeRecord) (name : String) : Option String :=
  (record.get name).asStr?

/-- A text or `None`. -/
def optionalText? (record : ForgeRecord) (name : String) : Option (Option String) :=
  match record.get name with
  | .null => some none
  | .str text => some (some text)
  | _ => none

/-- What a record does to the lineage; a record whose lineage fields are not of
the right kind stands for nothing. -/
def lineageEvent? (record : ForgeRecord) : Option (LineageEvent String) :=
  match record.recordType with
  | .epoch => do
      let id ← text? record "epoch_id"
      let parent ← optionalText? record "parent_epoch"
      some (.epoch id parent)
  | .candidate => do
      let id ← text? record "candidate_id"
      let source ← text? record "source_epoch"
      let parent ← optionalText? record "parent_candidate"
      some (.candidate id source parent)
  | .workflowResult =>
      if record.get "subject_type" = .str "project" then some .other
      else (text? record "candidate_identity").map .observation
  | .verifierResult =>
      if record.get "mode" ≠ .str "development" then some .other
      else (text? record "candidate_identity").map .observation
  | .candidateDisposition => do
      let id ← text? record "disposition_id"
      let candidate ← text? record "candidate_identity"
      if record.get "disposition" = .str "selected" then
        some (.disposition id candidate true)
      else if record.get "disposition" = .str "rejected" then
        some (.disposition id candidate false)
      else none
  | .freeze => do
      let candidate ← text? record "candidate_identity"
      let selection ← text? record "selection_record"
      some (.freeze candidate selection)
  | .finalEvaluation => (text? record "candidate_identity").map .evaluation
  | _ => some .other

/-- The events a history stands for. -/
def Traces (history : History) (events : List (LineageEvent String)) : Prop :=
  history.map lineageEvent? = events.map some

theorem traces_nil : Traces [] [] := rfl

theorem Traces.snoc {history : History} {events : List (LineageEvent String)}
    (h : Traces history events) {record : ForgeRecord} {event : LineageEvent String}
    (hrecord : lineageEvent? record = some event) :
    Traces (history ++ [record]) (events ++ [event]) := by
  rw [Traces, List.map_append, List.map_append, h]
  simp [hrecord]

def CoherentHistory (history : History) : Prop :=
  ∃ events, Traces history events ∧ Lineage.Coherent events

/-! ### The fields behind an event -/

theorem Traces.snoc_inv {history : History} {events : List (LineageEvent String)}
    {event : LineageEvent String} (h : Traces history (events ++ [event])) :
    ∃ older record, history = older ++ [record] ∧ Traces older events ∧
      lineageEvent? record = some event := by
  rcases List.eq_nil_or_concat history with rfl | ⟨older, record, rfl⟩
  · rw [Traces, List.map_append] at h
    simp at h
  · rw [List.concat_eq_append] at h ⊢
    rw [Traces, List.map_append, List.map_append] at h
    obtain ⟨holder, hrecord⟩ := List.append_inj' h rfl
    exact ⟨older, record, rfl, holder, (List.cons.inj hrecord).1⟩

theorem text?_eq_some {record : ForgeRecord} {name text : String} :
    text? record name = some text ↔ record.get name = .str text :=
  Json.asStr?_eq_some

theorem optionalText?_eq_some {record : ForgeRecord} {name : String}
    {text : Option String} :
    optionalText? record name = some text ↔ record.get name = .ofText text := by
  unfold optionalText?
  cases record.get name <;> cases text <;> simp [Json.ofText]

theorem epoch_event {record : ForgeRecord} {event : LineageEvent String}
    (htype : record.recordType = .epoch) :
    lineageEvent? record = some event ↔
      ∃ id parent, record.get "epoch_id" = .str id ∧
        record.get "parent_epoch" = .ofText parent ∧ event = .epoch id parent := by
  simp only [lineageEvent?, htype, Option.bind_eq_bind, Option.bind_eq_some_iff,
    text?_eq_some, optionalText?_eq_some, Option.some.injEq]
  constructor
  · rintro ⟨id, hid, parent, hparent, rfl⟩
    exact ⟨id, parent, hid, hparent, rfl⟩
  · rintro ⟨id, parent, hid, hparent, rfl⟩
    exact ⟨id, hid, parent, hparent, rfl⟩

theorem candidate_event {record : ForgeRecord} {event : LineageEvent String}
    (htype : record.recordType = .candidate) :
    lineageEvent? record = some event ↔
      ∃ id source parent, record.get "candidate_id" = .str id ∧
        record.get "source_epoch" = .str source ∧
        record.get "parent_candidate" = .ofText parent ∧
        event = .candidate id source parent := by
  simp only [lineageEvent?, htype, Option.bind_eq_bind, Option.bind_eq_some_iff,
    text?_eq_some, optionalText?_eq_some, Option.some.injEq]
  constructor
  · rintro ⟨id, hid, source, hsource, parent, hparent, rfl⟩
    exact ⟨id, source, parent, hid, hsource, hparent, rfl⟩
  · rintro ⟨id, source, parent, hid, hsource, hparent, rfl⟩
    exact ⟨id, hid, source, hsource, parent, hparent, rfl⟩

theorem disposition_event {record : ForgeRecord} {event : LineageEvent String}
    (htype : record.recordType = .candidateDisposition) :
    lineageEvent? record = some event ↔
      ∃ id candidate selected, record.get "disposition_id" = .str id ∧
        record.get "candidate_identity" = .str candidate ∧
        record.get "disposition" = .str (if selected then "selected" else "rejected") ∧
        event = .disposition id candidate selected := by
  simp only [lineageEvent?, htype, Option.bind_eq_bind, Option.bind_eq_some_iff,
    text?_eq_some]
  constructor
  · rintro ⟨id, hid, candidate, hcandidate, hevent⟩
    split at hevent
    case isTrue hselected =>
      exact ⟨id, candidate, true, hid, hcandidate, hselected, (Option.some.inj hevent).symm⟩
    case isFalse =>
      split at hevent
      case isTrue hrejected =>
        exact ⟨id, candidate, false, hid, hcandidate, hrejected,
          (Option.some.inj hevent).symm⟩
      case isFalse => cases hevent
  · rintro ⟨id, candidate, selected, hid, hcandidate, hdisposition, rfl⟩
    refine ⟨id, hid, candidate, hcandidate, ?_⟩
    cases selected <;> simp [hdisposition]

theorem freeze_event {record : ForgeRecord} {event : LineageEvent String}
    (htype : record.recordType = .freeze) :
    lineageEvent? record = some event ↔
      ∃ candidate selection, record.get "candidate_identity" = .str candidate ∧
        record.get "selection_record" = .str selection ∧
        event = .freeze candidate selection := by
  simp only [lineageEvent?, htype, Option.bind_eq_bind, Option.bind_eq_some_iff,
    text?_eq_some, Option.some.injEq]
  constructor
  · rintro ⟨candidate, hcandidate, selection, hselection, rfl⟩
    exact ⟨candidate, selection, hcandidate, hselection, rfl⟩
  · rintro ⟨candidate, selection, hcandidate, hselection, rfl⟩
    exact ⟨candidate, hcandidate, selection, hselection, rfl⟩

theorem evaluation_event {record : ForgeRecord} {event : LineageEvent String}
    (htype : record.recordType = .finalEvaluation) :
    lineageEvent? record = some event ↔
      ∃ candidate, record.get "candidate_identity" = .str candidate ∧
        event = .evaluation candidate := by
  simp only [lineageEvent?, htype, Option.map_eq_some_iff, text?_eq_some]
  constructor
  · rintro ⟨candidate, hcandidate, rfl⟩
    exact ⟨candidate, hcandidate, rfl⟩
  · rintro ⟨candidate, hcandidate, rfl⟩
    exact ⟨candidate, hcandidate, rfl⟩

theorem result_event {record : ForgeRecord} {event : LineageEvent String}
    (htype : record.recordType = .workflowResult ∨ record.recordType = .verifierResult)
    (h : lineageEvent? record = some event) :
    event = .other ∨ ∃ candidate, record.get "candidate_identity" = .str candidate ∧
      event = .observation candidate := by
  rcases htype with htype | htype
  all_goals
    simp only [lineageEvent?, htype] at h
    split at h
    case isTrue => exact Or.inl (Option.some.inj h).symm
    case isFalse =>
      obtain ⟨candidate, hcandidate, rfl⟩ := Option.map_eq_some_iff.mp h
      exact Or.inr ⟨candidate, text?_eq_some.mp hcandidate, rfl⟩

/-! ## Projected lists are the recorded ones -/

/-- A filtered and mapped list of records is the list of events it stands for. -/
theorem Traces.filter_map {β : Type} {history : History}
    {events : List (LineageEvent String)} (h : Traces history events)
    {keep : ForgeRecord → Bool} {entry : ForgeRecord → β}
    {pick : LineageEvent String → Option β}
    (agree : ∀ record event, lineageEvent? record = some event →
      (if keep record then some (entry record) else none) = pick event) :
    (history.filter keep).map entry = events.filterMap pick := by
  induction history generalizing events with
  | nil =>
      cases events with
      | nil => rfl
      | cons event events => cases h
  | cons record history ih =>
      cases events with
      | nil => cases h
      | cons event events =>
          obtain ⟨hrecord, htail⟩ := List.cons.inj h
          rw [List.filter_cons, List.filterMap_cons, ← agree record event hrecord, ← ih htail]
          cases keep record <;> rfl

def epochEntry (record : ForgeRecord) : String × Option String :=
  (textOf record "epoch_id", text? record "parent_epoch")

def candidateEntry (record : ForgeRecord) : String × Option String :=
  (textOf record "candidate_id", text? record "parent_candidate")

theorem text?_ofText {record : ForgeRecord} {name : String} {text : Option String}
    (h : record.get name = .ofText text) : text? record name = text := by
  rw [text?, h]
  cases text <;> rfl

/-- Only records of a type stand for the events of that type. -/
theorem lineageEvent?_kind {record : ForgeRecord} {event : LineageEvent String}
    (h : lineageEvent? record = some event) :
    (record.recordType ≠ .epoch → ∀ id parent, event ≠ .epoch id parent) ∧
    (record.recordType ≠ .candidate → ∀ id source parent, event ≠ .candidate id source parent) ∧
    (record.recordType ≠ .candidateDisposition →
      ∀ id candidate selected, event ≠ .disposition id candidate selected) ∧
    (record.recordType ≠ .freeze → ∀ candidate selection, event ≠ .freeze candidate selection) ∧
    (record.recordType ≠ .finalEvaluation → ∀ candidate, event ≠ .evaluation candidate) := by
  cases htype : record.recordType with
  | epoch =>
      obtain ⟨_, _, _, _, rfl⟩ := (epoch_event htype).mp h
      simp
  | candidate =>
      obtain ⟨_, _, _, _, _, _, rfl⟩ := (candidate_event htype).mp h
      simp
  | candidateDisposition =>
      obtain ⟨_, _, _, _, _, _, rfl⟩ := (disposition_event htype).mp h
      simp
  | freeze =>
      obtain ⟨_, _, _, _, rfl⟩ := (freeze_event htype).mp h
      simp
  | finalEvaluation =>
      obtain ⟨_, _, rfl⟩ := (evaluation_event htype).mp h
      simp
  | workflowResult =>
      rcases result_event (Or.inl htype) h with rfl | ⟨_, _, rfl⟩ <;> simp
  | verifierResult =>
      rcases result_event (Or.inr htype) h with rfl | ⟨_, _, rfl⟩ <;> simp
  | _ =>
      obtain rfl : .other = event := by
        simpa only [lineageEvent?, htype, Option.some.injEq] using h
      simp

section Lists

variable {history : History} {events : List (LineageEvent String)}

theorem Traces.epochs (h : Traces history events) :
    (typed .epoch history).map epochEntry = Lineage.epochsOf events := by
  rw [typed_eq_filter]
  refine h.filter_map fun record event hevent => ?_
  by_cases htype : record.recordType = .epoch
  · obtain ⟨id, parent, hid, hparent, rfl⟩ := (epoch_event htype).mp hevent
    simp [htype, epochEntry, textOf_of_get hid, text?_ofText hparent]
  · have other := (lineageEvent?_kind hevent).1 htype
    cases event <;> simp_all

theorem Traces.candidates (h : Traces history events) :
    (typed .candidate history).map
        (fun record => (textOf record "candidate_id", textOf record "source_epoch",
          text? record "parent_candidate")) =
      Lineage.candidatesOf events := by
  rw [typed_eq_filter]
  refine h.filter_map fun record event hevent => ?_
  by_cases htype : record.recordType = .candidate
  · obtain ⟨id, source, parent, hid, hsource, hparent, rfl⟩ :=
      (candidate_event htype).mp hevent
    simp [htype, textOf_of_get hid, textOf_of_get hsource, text?_ofText hparent]
  · have other := (lineageEvent?_kind hevent).2.1 htype
    cases event <;> simp_all

theorem Traces.candidatesIn (h : Traces history events) (epochId : String) :
    (candidatesOfEpoch history epochId).map candidateEntry =
      Lineage.candidatesIn epochId events := by
  rw [candidatesOfEpoch, typed_eq_filter, List.filter_filter]
  refine h.filter_map fun record event hevent => ?_
  by_cases htype : record.recordType = .candidate
  · obtain ⟨id, source, parent, hid, hsource, hparent, rfl⟩ :=
      (candidate_event htype).mp hevent
    simp [htype, candidateEntry, textOf_of_get hid, hsource, text?_ofText hparent]
  · have other := (lineageEvent?_kind hevent).2.1 htype
    cases event <;> simp_all

theorem Traces.dispositions (h : Traces history events) (candidateId : String) :
    (recordsAbout .candidateDisposition history (some candidateId)).map
        (fun record =>
          (textOf record "disposition_id", decide (record.get "disposition" = .str "selected"))) =
      Lineage.dispositionsOf candidateId events := by
  rw [recordsAbout, typed_eq_filter, List.filter_filter]
  refine h.filter_map fun record event hevent => ?_
  by_cases htype : record.recordType = .candidateDisposition
  · obtain ⟨id, candidate, selected, hid, hcandidate, hselected, rfl⟩ :=
      (disposition_event htype).mp hevent
    cases selected <;>
      simp [htype, textOf_of_get hid, hcandidate, hselected, Json.ofText]
  · have other := (lineageEvent?_kind hevent).2.2.1 htype
    cases event <;> simp_all

theorem Traces.freezes (h : Traces history events) (candidateId : String) :
    (recordsAbout .freeze history (some candidateId)).map
        (fun record => textOf record "selection_record") =
      Lineage.freezesOf candidateId events := by
  rw [recordsAbout, typed_eq_filter, List.filter_filter]
  refine h.filter_map fun record event hevent => ?_
  by_cases htype : record.recordType = .freeze
  · obtain ⟨candidate, selection, hcandidate, hselection, rfl⟩ :=
      (freeze_event htype).mp hevent
    simp [htype, hcandidate, textOf_of_get hselection, Json.ofText]
  · have other := (lineageEvent?_kind hevent).2.2.2.1 htype
    cases event <;> simp_all

/-- Every record of a traced history stands for an event of it. -/
theorem Traces.event (h : Traces history events) {record : ForgeRecord}
    (hrecord : record ∈ history) : ∃ event ∈ events, lineageEvent? record = some event := by
  have : lineageEvent? record ∈ events.map some := by
    rw [← show history.map lineageEvent? = events.map some from h]
    exact List.mem_map_of_mem hrecord
  obtain ⟨event, hevent, heq⟩ := List.mem_map.mp this
  exact ⟨event, hevent, heq.symm⟩

theorem Traces.record (h : Traces history events) {event : LineageEvent String}
    (hevent : event ∈ events) : ∃ record ∈ history, lineageEvent? record = some event := by
  have : some event ∈ history.map lineageEvent? := by
    rw [show history.map lineageEvent? = events.map some from h]
    exact List.mem_map_of_mem hevent
  exact List.mem_map.mp this

theorem evaluation_record {record : ForgeRecord} {candidate : String}
    (h : lineageEvent? record = some (.evaluation candidate)) :
    record.recordType = .finalEvaluation ∧
      record.get "candidate_identity" = .str candidate := by
  have htype : record.recordType = .finalEvaluation := by
    by_contra htype
    exact (lineageEvent?_kind h).2.2.2.2 htype candidate rfl
  obtain ⟨_, hcandidate, heq⟩ := (evaluation_event htype).mp h
  obtain rfl := LineageEvent.evaluation.inj heq
  exact ⟨htype, hcandidate⟩

end Lists

end MncsForge.Lifecycle
