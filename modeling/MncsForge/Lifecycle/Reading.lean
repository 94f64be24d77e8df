import Mathlib
import MncsForge.Lifecycle.Coherence

/-!
# The projection of a coherent history

The projection reads the lineage of a coherent history: its active epoch, its
current candidate and the decisions about it, without a lineage conflict.
-/

namespace MncsForge.Lifecycle

open MncsForge.Foundation MncsForge.Records MncsForge.Native

section Reading

variable {history : History} {events : List (LineageEvent String)} {l : Lineage String}

/-! ## Epochs -/

theorem epoch_texts (h : Traces history events) {record : ForgeRecord}
    (hrecord : record ∈ typed .epoch history) :
    record.get "epoch_id" = .str (textOf record "epoch_id") ∧
      record.get "parent_epoch" = .ofText (text? record "parent_epoch") := by
  obtain ⟨hmem, htype⟩ := mem_typed.mp hrecord
  obtain ⟨event, _, hevent⟩ := h.event hmem
  obtain ⟨id, parent, hid, hparent, _⟩ := (epoch_event htype).mp hevent
  rw [textOf_of_get hid, text?_ofText hparent]
  exact ⟨hid, hparent⟩

private theorem epochsCoherent_of_linked {epochs : List ForgeRecord} {previous : Option String}
    {known : List String}
    (texts : ∀ record ∈ epochs,
      record.get "parent_epoch" = .ofText (text? record "parent_epoch"))
    (linked : Lineage.Linked previous (epochs.map epochEntry))
    (nodup : (epochs.map fun record => textOf record "epoch_id").Nodup)
    (fresh : ∀ record ∈ epochs, textOf record "epoch_id" ∉ known) :
    epochsCoherent previous known epochs = true := by
  induction epochs generalizing previous known with
  | nil => rfl
  | cons epoch epochs ih =>
      obtain ⟨hparent, linked⟩ := linked
      have hparent : text? epoch "parent_epoch" = previous := hparent
      obtain ⟨hnew, nodup⟩ := List.nodup_cons.mp nodup
      rw [epochsCoherent, texts epoch List.mem_cons_self, hparent]
      simp only [fresh epoch List.mem_cons_self, not_false_eq_true, decide_true, Bool.and_self,
        Bool.true_and]
      refine ih (fun record hrecord => texts record (List.mem_cons_of_mem _ hrecord)) linked
        nodup fun record hrecord hknown => ?_
      rcases List.mem_cons.mp hknown with heq | hknown
      · exact hnew (List.mem_map.mpr ⟨record, hrecord, heq⟩)
      · exact fresh record (List.mem_cons_of_mem _ hrecord) hknown

theorem epoch_ids (h : Traces history events) (t : Lineage.Traced events l) :
    ((typed .epoch history).map fun record => textOf record "epoch_id") = l.epochs.reverse := by
  rw [← t.epochs_eq, ← h.epochs, List.map_map]
  rfl

theorem epochProjection_active (h : Traces history events) (t : Lineage.Traced events l) :
    (epochProjection history).active.map (fun record => textOf record "epoch_id") =
      l.epochs.head? := by
  have ids := epoch_ids h t
  have last : (typed .epoch history).getLast?.map (fun record => textOf record "epoch_id") =
      l.epochs.head? := by
    rw [← List.getLast?_map, ids, List.getLast?_reverse]
  rw [← last, epochProjection]
  by_cases hnil : typed .epoch history = []
  · simp only [hnil, if_true]
    rfl
  · simp only [hnil, if_false]

theorem epochProjection_parent (h : Traces history events) (t : Lineage.Traced events l)
    {record : ForgeRecord} (hactive : (epochProjection history).active = some record) :
    record.get "parent_epoch" = .ofText l.epochs.tail.head? := by
  have hlast : (typed .epoch history).getLast? = some record := by
    rw [epochProjection] at hactive
    split at hactive
    · cases hactive
    · exact hactive
  have linked : Lineage.Linked none ((typed .epoch history).map epochEntry) := by
    rw [h.epochs]
    exact t.epochs_linked
  have parent := linked.last (show _ = some (epochEntry record) by
    rw [List.getLast?_map, hlast, Option.map_some])
  have ids : ((typed .epoch history).map epochEntry).map Prod.fst = l.epochs.reverse := by
    rw [h.epochs, t.epochs_eq]
  rw [ids, List.reverse_reverse] at parent
  rw [(epoch_texts h (List.mem_of_getLast? hlast)).2]
  exact congrArg Json.ofText parent

theorem epochProjection_limitations (h : Traces history events)
    (t : Lineage.Traced events l) : (epochProjection history).limitations = [] := by
  have coherent : epochsCoherent none [] (typed .epoch history) = true := by
    refine epochsCoherent_of_linked (fun record hrecord => (epoch_texts h hrecord).2) ?_ ?_
      fun record _ hknown => nomatch hknown
    · rw [h.epochs]
      exact t.epochs_linked
    · rw [epoch_ids h t]
      exact List.nodup_reverse.mpr t.epochs_nodup
  rw [epochProjection, coherent]
  split <;> rfl

theorem epochProjection_mem {record : ForgeRecord}
    (hactive : (epochProjection history).active = some record) :
    record ∈ typed .epoch history := by
  rw [epochProjection] at hactive
  split at hactive
  · cases hactive
  · exact List.mem_of_getLast? hactive

/-! ## Candidates -/

theorem candidate_texts (h : Traces history events) {record : ForgeRecord}
    (hrecord : record ∈ typed .candidate history) :
    record.get "candidate_id" = .str (textOf record "candidate_id") ∧
      record.get "source_epoch" = .str (textOf record "source_epoch") ∧
      record.get "parent_candidate" = .ofText (text? record "parent_candidate") := by
  obtain ⟨hmem, htype⟩ := mem_typed.mp hrecord
  obtain ⟨event, _, hevent⟩ := h.event hmem
  obtain ⟨id, source, parent, hid, hsource, hparent, _⟩ := (candidate_event htype).mp hevent
  rw [textOf_of_get hid, textOf_of_get hsource, text?_ofText hparent]
  exact ⟨hid, hsource, hparent⟩

theorem candidate_ids (h : Traces history events) (t : Lineage.Traced events l) :
    ((typed .candidate history).map fun record => textOf record "candidate_id") =
      l.candidates.reverse := by
  rw [← t.candidates_eq, ← h.candidates, List.map_map]
  rfl

/-- Identities are not reused, so a candidate record is known under its own. -/
theorem knownCandidate_self (h : Traces history events) (t : Lineage.Traced events l)
    {record : ForgeRecord} (hrecord : record ∈ typed .candidate history) :
    knownCandidate history (textOf record "candidate_id") = some record := by
  have nodup : ((typed .candidate history).reverse.map
      fun record => textOf record "candidate_id").Nodup := by
    rw [List.map_reverse, List.nodup_reverse, candidate_ids h t]
    exact List.nodup_reverse.mpr t.candidates_nodup
  obtain ⟨found, hfound⟩ : ∃ found,
      knownCandidate history (textOf record "candidate_id") = some found := by
    refine Option.isSome_iff_exists.mp (List.find?_isSome.mpr ?_)
    exact ⟨record, List.mem_reverse.mpr hrecord, by simp⟩
  have same : textOf found "candidate_id" = textOf record "candidate_id" := by
    simpa using List.find?_some hfound
  rw [hfound]
  exact congrArg some (List.inj_on_of_nodup_map nodup (List.mem_of_find?_eq_some hfound)
    (List.mem_reverse.mpr hrecord) same)

theorem parentOf_eq (h : Traces history events) (t : Lineage.Traced events l)
    {record parent : ForgeRecord}
    (hparent : record.get "parent_candidate" = .str (textOf parent "candidate_id"))
    (hmem : parent ∈ typed .candidate history) : parentOf history record = some parent := by
  rw [parentOf, if_neg (by rw [hparent]; simp), textOf_of_get hparent]
  exact knownCandidate_self h t hmem

private theorem mem_candidatesOfEpoch {epochId : String} {record : ForgeRecord} :
    record ∈ candidatesOfEpoch history epochId ↔
      record ∈ typed .candidate history ∧ record.get "source_epoch" = .str epochId := by
  rw [candidatesOfEpoch, List.mem_filter, decide_eq_true_eq]

private theorem candidatesCoherent_of_linked (h : Traces history events)
    (t : Lineage.Traced events l) {epochId : String} {candidates : List ForgeRecord}
    (previous : Option ForgeRecord)
    (mem : ∀ record ∈ candidates, record ∈ candidatesOfEpoch history epochId)
    (before : ∀ record ∈ previous, record ∈ candidatesOfEpoch history epochId)
    (linked : Lineage.Linked (previous.map fun record => textOf record "candidate_id")
      (candidates.map candidateEntry))
    (nodup : ((previous.toList ++ candidates).map
      fun record => textOf record "candidate_id").Nodup) :
    candidatesCoherent history epochId (previous.map fun record => textOf record "candidate_id")
      candidates = true := by
  induction candidates generalizing previous with
  | nil => rfl
  | cons candidate candidates ih =>
      obtain ⟨hparent, linked⟩ := linked
      obtain ⟨hmem, _⟩ := mem_candidatesOfEpoch.mp (mem candidate List.mem_cons_self)
      have parent := (candidate_texts h hmem).2.2
      rw [show text? candidate "parent_candidate" = _ from hparent] at parent
      have rest := ih (some candidate)
        (fun record hrecord => mem record (List.mem_cons_of_mem _ hrecord))
        (fun record hrecord => by
          obtain rfl := Option.mem_some_iff.mp hrecord
          exact mem _ List.mem_cons_self)
        linked
        (nodup.sublist ((List.sublist_append_right _ _).map _))
      rw [candidatesCoherent, parent]
      rw [show some (textOf candidate "candidate_id") =
        Option.map (fun record => textOf record "candidate_id") (some candidate) from rfl, rest]
      cases previous with
      | none => simp [Json.ofText]
      | some last =>
          have distinct : textOf last "candidate_id" ≠ textOf candidate "candidate_id" := by
            intro heq
            exact (List.nodup_cons.mp nodup).1
              (List.mem_map.mpr ⟨candidate, List.mem_cons_self, heq.symm⟩)
          obtain ⟨lastMem, lastSource⟩ := mem_candidatesOfEpoch.mp (before last rfl)
          rw [parentOf_eq h t parent lastMem]
          simp [Json.ofText, distinct, lastSource]

private theorem lineageWalk_no_cycle (h : Traces history events) (t : Lineage.Traced events l)
    {epochId : String} (candidates : List ForgeRecord)
    (mem : ∀ record ∈ candidates, record ∈ candidatesOfEpoch history epochId)
    (linked : Lineage.Linked none (candidates.map candidateEntry))
    (nodup : (candidates.map fun record => textOf record "candidate_id").Nodup)
    (lineage : List String)
    (fresh : ∀ record ∈ candidates, textOf record "candidate_id" ∉ lineage) (fuel : Nat) :
    (lineageWalk history fuel lineage candidates.getLast?).2 = false := by
  induction candidates using List.reverseRecOn generalizing lineage fuel with
  | nil => cases fuel <;> rfl
  | append_singleton older candidate ih =>
      rw [List.getLast?_append, List.getLast?_singleton, Option.some_or]
      rw [List.map_append] at linked nodup
      obtain ⟨linked, hparent⟩ := Lineage.linked_snoc.mp linked
      rw [Option.or_none, List.map_map, List.head?_reverse] at hparent
      obtain ⟨nodup, _, disjoint⟩ := List.nodup_append.mp nodup
      have hmem : candidate ∈ candidatesOfEpoch history epochId := mem candidate (by simp)
      have parent := (candidate_texts h (mem_candidatesOfEpoch.mp hmem).1).2.2
      rw [hparent, List.getLast?_map] at parent
      have next : parentOf history candidate = older.getLast? := by
        cases hlast : older.getLast? with
        | none =>
            rw [hlast] at parent
            exact if_pos parent
        | some last =>
            rw [hlast] at parent
            have lastMem := mem last (List.mem_append_left _ (List.mem_of_getLast? hlast))
            exact parentOf_eq h t parent (mem_candidatesOfEpoch.mp lastMem).1
      cases fuel with
      | zero => rfl
      | succ fuel =>
          have hnew : textOf candidate "candidate_id" ∉ lineage := fresh candidate (by simp)
          rw [lineageWalk, if_neg hnew, next]
          refine ih (fun record hrecord => mem record (List.mem_append_left _ hrecord)) linked
            nodup _ (fun record hrecord hseen => ?_) fuel
          rcases List.mem_append.mp hseen with hseen | hseen
          · exact fresh record (List.mem_append_left _ hrecord) hseen
          · refine disjoint _ (List.mem_map_of_mem hrecord) _ (List.mem_singleton_self _) ?_
            exact List.mem_singleton.mp hseen

/-! ### No candidate of an older epoch -/

private theorem not_outdated (h : Traces history events) (t : Lineage.Traced events l)
    {epochId : String} (hactive : l.epochs.head? = some epochId) :
    ((recordsOf .candidate history).any fun entry =>
      epochIndex history epochId < entry.2 &&
        entry.1.get "source_epoch" ≠ .str epochId) = false := by
  rw [List.any_eq_false]
  rintro ⟨record, position⟩ hentry hlate
  simp only [Bool.and_eq_true, decide_eq_true_eq] at hlate
  obtain ⟨hlate, houtdated⟩ := hlate
  obtain ⟨hposition, htype⟩ := List.mem_filter.mp hentry
  have htype : record.recordType = .candidate := by simpa using htype
  have at_position : history[position]? = some record :=
    List.mem_zipIdx_iff_getElem?.mp hposition
  have bound : position < history.length := (List.getElem?_eq_some_iff.mp at_position).1
  rw [epochIndex] at hlate
  cases hfound : (recordsOf .epoch history).find?
      (fun entry => entry.1.get "epoch_id" = .str epochId) with
  | none =>
      rw [hfound] at hlate
      simp only [Option.elim_none] at hlate
      omega
  | some found =>
      obtain ⟨epoch, index⟩ := found
      rw [hfound] at hlate
      simp only [Option.elim_some] at hlate
      obtain ⟨hindex, hepoch⟩ := List.mem_filter.mp (List.mem_of_find?_eq_some hfound)
      have hepoch : epoch.recordType = .epoch := by simpa using hepoch
      have hid : epoch.get "epoch_id" = .str epochId := by simpa using List.find?_some hfound
      have at_index : history[index]? = some epoch := List.mem_zipIdx_iff_getElem?.mp hindex
      -- the events from the active epoch on
      have rest : Traces (history.drop (index + 1)) (events.drop (index + 1)) := by
        rw [Traces, List.map_drop, List.map_drop, h]
      have begun := congrArg (fun events => events[index]?)
        (show history.map lineageEvent? = events.map some from h)
      simp only [List.getElem?_map, at_index] at begun
      obtain ⟨event, hevent, heq⟩ : ∃ event, events[index]? = some event ∧
          lineageEvent? epoch = some event := by
        cases hevent : events[index]? with
        | none =>
            rw [hevent] at begun
            simp at begun
        | some event =>
            rw [hevent] at begun
            exact ⟨event, rfl, by simpa using begun⟩
      obtain ⟨id, parent, hid', _, rfl⟩ := (epoch_event hepoch).mp heq
      obtain rfl : id = epochId := by
        rw [hid] at hid'
        exact (Json.str.inj hid').symm
      have split : events = events.take index ++ .epoch id parent :: events.drop (index + 1) := by
        obtain ⟨hlt, hget⟩ := List.getElem?_eq_some_iff.mp hevent
        rw [← hget, ← List.drop_eq_getElem_cons hlt, List.take_append_drop]
      have later : record ∈ typed .candidate (history.drop (index + 1)) := by
        refine mem_typed.mpr ⟨?_, htype⟩
        refine List.mem_iff_getElem?.mpr ⟨position - (index + 1), ?_⟩
        rw [List.getElem?_drop, show index + 1 + (position - (index + 1)) = position by omega,
          at_position]
      have entry : (textOf record "candidate_id", textOf record "source_epoch",
          text? record "parent_candidate") ∈
          Lineage.candidatesOf (events.drop (index + 1)) := by
        rw [← rest.candidates]
        exact List.mem_map_of_mem (f := fun record => (textOf record "candidate_id",
          textOf record "source_epoch", text? record "parent_candidate")) later
      have source := t.after_active _ _ _ _ split hactive _ entry
      apply houtdated
      rw [(candidate_texts rest later).2.1]
      exact congrArg Json.str source

/-! ### The current candidate -/

structure ReadsCandidate (l : Lineage String) (p : CandidateProjection) : Prop where
  limitations : p.limitations = []
  current : p.current.map (fun record => textOf record "candidate_id") = l.chain.head?
  parent : ∀ record ∈ p.current,
    record.get "parent_candidate" = .ofText l.chain.tail.head?

theorem projectCandidate_reads (h : Traces history events) (t : Lineage.Traced events l)
    (w : World) : ReadsCandidate l (projectCandidate w history) := by
  have active := epochProjection_active h t
  rw [projectCandidate]
  cases hactive : (epochProjection history).active with
  | none =>
      rw [hactive] at active
      have noEpoch : l.epochs = [] := List.head?_eq_none_iff.mp active.symm
      refine ⟨rfl, ?_, fun record hrecord => nomatch hrecord⟩
      rw [t.chain_empty noEpoch]
      rfl
  | some epoch =>
      rw [hactive] at active
      obtain ⟨linked, ids⟩ := t.chain_linked _ active.symm
      rw [← h.candidatesIn] at linked ids
      have chain : (candidatesOfEpoch history (textOf epoch "epoch_id")).map
          (fun record => textOf record "candidate_id") = l.chain.reverse := by
        rw [← ids, List.map_map]
        rfl
      have nodup : ((candidatesOfEpoch history (textOf epoch "epoch_id")).map
          fun record => textOf record "candidate_id").Nodup := by
        have all := List.nodup_reverse.mpr t.candidates_nodup
        rw [← candidate_ids h t] at all
        exact all.sublist (List.filter_sublist.map _)
      have coherent := candidatesCoherent_of_linked h t none
        (fun _ hrecord => hrecord) (fun _ hrecord => nomatch hrecord) linked nodup
      have acyclic := lineageWalk_no_cycle h t _ (fun _ hrecord => hrecord) linked nodup
        [] (fun _ _ hseen => nomatch hseen) (lineageFuel history)
      have last : (candidatesOfEpoch history (textOf epoch "epoch_id")).getLast?.map
          (fun record => textOf record "candidate_id") = l.chain.head? := by
        rw [← List.getLast?_map, chain, List.getLast?_reverse]
      have outdated := not_outdated h t active.symm
      rw [candidateProjection]
      simp only [outdated, Bool.false_eq_true, if_false, List.nil_append]
      rw [show candidatesCoherent history (textOf epoch "epoch_id") none
        (candidatesOfEpoch history (textOf epoch "epoch_id")) = true from coherent]
      cases hlast : (candidatesOfEpoch history (textOf epoch "epoch_id")).getLast? with
      | none =>
          rw [hlast] at last
          exact ⟨rfl, last, fun record hrecord => nomatch hrecord⟩
      | some current =>
          have parent := linked.last (show _ = some (candidateEntry current) by
            rw [List.getLast?_map, hlast, Option.map_some])
          rw [ids, List.reverse_reverse] at parent
          rw [hlast] at last acyclic
          simp only [acyclic]
          refine ⟨rfl, last, fun record hrecord => ?_⟩
          obtain rfl : current = record := Option.some.inj hrecord
          have hmem := (mem_candidatesOfEpoch.mp (List.mem_of_getLast? hlast)).1
          rw [(candidate_texts h hmem).2.2]
          exact congrArg Json.ofText parent

theorem projectCandidate_mem {w : World} {record : ForgeRecord}
    (hcurrent : (projectCandidate w history).current = some record) :
    record ∈ typed .candidate history := by
  rw [projectCandidate] at hcurrent
  cases hactive : (epochProjection history).active with
  | none =>
      rw [hactive] at hcurrent
      cases hcurrent
  | some epoch =>
      simp only [hactive, candidateProjection] at hcurrent
      split at hcurrent
      case h_1 => cases hcurrent
      case h_2 current hlast =>
        obtain rfl := Option.some.inj hcurrent
        exact (mem_candidatesOfEpoch.mp (List.mem_of_getLast? hlast)).1

/-! ## Decisions -/

/-- The disposition status a lineage shows. -/
def dispositionStatusText : Option (String × Bool) → String
  | none => "undisposed"
  | some (_, true) => "selected"
  | some (_, false) => "rejected"

theorem recordsAbout_mem {recordType : RecordType} {candidateId : Option String}
    {record : ForgeRecord} :
    record ∈ recordsAbout recordType history candidateId ↔
      record ∈ typed recordType history ∧
        record.get "candidate_identity" = .ofText candidateId := by
  rw [recordsAbout, List.mem_filter, decide_eq_true_eq]

private theorem recordsAbout_none (h : Traces history events) {recordType : RecordType}
    (text : ∀ record event, record.recordType = recordType →
      lineageEvent? record = some event →
        ∃ candidate, record.get "candidate_identity" = .str candidate) :
    recordsAbout recordType history none = [] := by
  refine List.filter_eq_nil_iff.mpr fun record hrecord => ?_
  obtain ⟨hmem, htype⟩ := mem_typed.mp hrecord
  obtain ⟨event, _, hevent⟩ := h.event hmem
  obtain ⟨candidate, hcandidate⟩ := text record event htype hevent
  simp [hcandidate, Json.ofText]

/-- What the projection shows of a lineage, before the native step. -/
structure Reads (l : Lineage String) (p : LifecycleProjection) : Prop where
  unambiguous : p.stage ≠ .ambiguousHistory
  epoch : p.activeEpoch.map (fun record => textOf record "epoch_id") = l.epochs.head?
  candidate :
    p.currentCandidate.map (fun record => textOf record "candidate_id") = l.chain.head?
  epoch_text : ∀ record ∈ p.activeEpoch,
    record.get "epoch_id" = .str (textOf record "epoch_id")
  epoch_parent : ∀ record ∈ p.activeEpoch,
    record.get "parent_epoch" = .ofText l.epochs.tail.head?
  candidate_parent : ∀ record ∈ p.currentCandidate,
    record.get "parent_candidate" = .ofText l.chain.tail.head?
  candidate_text : ∀ record ∈ p.currentCandidate,
    record.get "candidate_id" = .str (textOf record "candidate_id")
  dispositionStatus : p.dispositionStatus = dispositionStatusText l.disposition
  disposition : p.disposition.map (fun record => textOf record "disposition_id") =
    l.disposition.map Prod.fst
  disposition_text : ∀ record ∈ p.disposition,
    record.get "disposition_id" = .str (textOf record "disposition_id")
  freeze : p.freeze.isSome = l.frozen
  freeze_candidate : ∀ record ∈ p.freeze, ∃ candidate, l.chain.head? = some candidate ∧
    record.get "candidate_identity" = .str candidate

theorem sole?_mem {records : List ForgeRecord} {record : ForgeRecord}
    (h : sole? records = some record) : record ∈ records := by
  match records, h with
  | [_], rfl => exact List.mem_singleton_self _

private theorem reads_dispositions (h : Traces history events) (t : Lineage.Traced events l) :
    let dispositions := recordsAbout .candidateDisposition history l.chain.head?
    dispositions.length ≤ 1 ∧
      dispositionStatusOf dispositions = dispositionStatusText l.disposition ∧
      (sole? dispositions).map (fun record => textOf record "disposition_id") =
        l.disposition.map Prod.fst := by
  intro dispositions
  have pairs : dispositions.map (fun record => (textOf record "disposition_id",
      decide (record.get "disposition" = .str "selected"))) = l.disposition.toList := by
    cases hcurrent : l.chain.head? with
    | none =>
        have nothing : dispositions = [] := by
          simp only [dispositions, hcurrent]
          refine recordsAbout_none h fun record event htype hevent => ?_
          obtain ⟨_, candidate, _, _, hcandidate, _⟩ := (disposition_event htype).mp hevent
          exact ⟨candidate, hcandidate⟩
        rw [nothing, (t.unstarted (List.head?_eq_none_iff.mp hcurrent)).1]
        rfl
    | some candidate =>
        simp only [dispositions, hcurrent]
        rw [h.dispositions, (t.current candidate hcurrent).1]
  have texts : ∀ record ∈ dispositions, textOf record "disposition" =
      if record.get "disposition" = .str "selected" then "selected" else "rejected" := by
    intro record hrecord
    obtain ⟨hmem, htype⟩ := mem_typed.mp (recordsAbout_mem.mp hrecord).1
    obtain ⟨event, _, hevent⟩ := h.event hmem
    obtain ⟨_, _, selected, _, _, hselected, _⟩ := (disposition_event htype).mp hevent
    rw [textOf_of_get hselected]
    cases selected <;> simp [hselected]
  clear_value dispositions
  cases hdisposition : l.disposition with
  | none =>
      rw [hdisposition] at pairs
      obtain rfl := List.map_eq_nil_iff.mp pairs
      exact ⟨Nat.zero_le 1, rfl, rfl⟩
  | some decided =>
      rw [hdisposition] at pairs
      obtain ⟨record, rfl, hrecord⟩ := List.map_eq_singleton_iff.mp pairs
      refine ⟨le_refl 1, ?_, ?_⟩
      · have := texts record (List.mem_singleton_self _)
        rw [← hrecord, dispositionStatusOf, if_neg (by simp)]
        show textOf record "disposition" = _
        rw [this]
        by_cases hselected : record.get "disposition" = .str "selected" <;>
          simp [hselected, dispositionStatusText]
      · rw [← hrecord]
        rfl

private theorem reads_freezes (h : Traces history events) (t : Lineage.Traced events l) :
    let freezes := recordsAbout .freeze history l.chain.head?
    freezes.length ≤ 1 ∧ (sole? freezes).isSome = l.frozen := by
  intro freezes
  have selections : freezes.map (fun record => textOf record "selection_record") =
      if l.frozen then (l.disposition.map Prod.fst).toList else [] := by
    cases hcurrent : l.chain.head? with
    | none =>
        have nothing : freezes = [] := by
          simp only [freezes, hcurrent]
          refine recordsAbout_none h fun record event htype hevent => ?_
          obtain ⟨candidate, _, hcandidate, _⟩ := (freeze_event htype).mp hevent
          exact ⟨candidate, hcandidate⟩
        rw [nothing, (t.unstarted (List.head?_eq_none_iff.mp hcurrent)).2.1]
        rfl
    | some candidate =>
        simp only [freezes, hcurrent]
        rw [h.freezes, (t.current candidate hcurrent).2]
  clear_value freezes
  cases hfrozen : l.frozen with
  | false =>
      rw [hfrozen] at selections
      obtain rfl := List.map_eq_nil_iff.mp selections
      exact ⟨Nat.zero_le 1, rfl⟩
  | true =>
      obtain ⟨selection, hselected⟩ := t.frozen_selected hfrozen
      rw [hfrozen, hselected] at selections
      obtain ⟨record, rfl, _⟩ := List.map_eq_singleton_iff.mp selections
      exact ⟨le_refl 1, rfl⟩

/-- The projection of a coherent history shows its lineage, whatever the evidence. -/
theorem projectWith_reads (h : Traces history events) (t : Lineage.Traced events l)
    (w : World) (evidence : EvidenceReadiness) : Reads l (projectWith w history evidence) := by
  have epochs := epochProjection_active h t
  have noEpochConflict := epochProjection_limitations h t
  obtain ⟨noCandidateConflict, current, parent⟩ := projectCandidate_reads h t w
  obtain ⟨oneDisposition, status, disposition⟩ := reads_dispositions h t
  obtain ⟨oneFreeze, frozen⟩ := reads_freezes h t
  have oneDisposition := Nat.not_lt.mpr oneDisposition
  have oneFreeze := Nat.not_lt.mpr oneFreeze
  constructor
  case epoch => exact epochs
  case candidate => exact current
  case epoch_text =>
    exact fun record hrecord => (epoch_texts h (epochProjection_mem hrecord)).1
  case epoch_parent => exact fun record hrecord => epochProjection_parent h t hrecord
  case candidate_parent => exact parent
  case candidate_text =>
    exact fun record hrecord => (candidate_texts h (projectCandidate_mem hrecord)).1
  case dispositionStatus =>
    simp only [projectWith, current]
    exact status
  case disposition =>
    simp only [projectWith, current]
    exact disposition
  case freeze =>
    simp only [projectWith, current]
    exact frozen
  case unambiguous =>
    simp only [projectWith, current, noEpochConflict, noCandidateConflict, oneDisposition,
      oneFreeze, if_false, List.append_nil, List.nil_append]
    have noConflict : ((if evidence.present ≠ [] then [comparabilityLimited] else []).any
        fun blocker => decide (blocker.code ∈ lineageConflictCodes)) = false := by
      split <;> rfl
    rw [noConflict]
    simp only [Bool.false_eq_true, if_false]
    repeat' split
    all_goals exact fun hstage => nomatch hstage
  case disposition_text =>
    intro record hrecord
    obtain ⟨hmem, htype⟩ := mem_typed.mp (recordsAbout_mem.mp (sole?_mem hrecord)).1
    obtain ⟨event, _, hevent⟩ := h.event hmem
    obtain ⟨id, _, _, hid, _⟩ := (disposition_event htype).mp hevent
    rw [textOf_of_get hid, hid]
  case freeze_candidate =>
    intro record hrecord
    obtain ⟨hmem, hcandidate⟩ := recordsAbout_mem.mp (sole?_mem hrecord)
    obtain ⟨hmem, htype⟩ := mem_typed.mp hmem
    obtain ⟨event, _, hevent⟩ := h.event hmem
    obtain ⟨candidate, _, hid, _⟩ := (freeze_event htype).mp hevent
    rw [current, hid] at hcandidate
    cases hhead : l.chain.head? with
    | none =>
        rw [hhead] at hcandidate
        cases hcandidate
    | some head =>
        rw [hhead] at hcandidate
        obtain rfl := Json.str.inj hcandidate
        exact ⟨candidate, rfl, hid⟩

end Reading

end MncsForge.Lifecycle
