import Mathlib

/-!
# Lineages

An abstract account of a lifecycle history.  Epochs form one chain, the
candidates of the active epoch form one chain, and a candidate is disposed at
most once and frozen at most once, after it was selected.  A history is coherent
when every event is admitted by the lineage the events before it lead to.
-/

namespace MncsForge.Foundation

inductive LineageEvent (ι : Type*) where
  | epoch (id : ι) (parent : Option ι)
  | candidate (id epoch : ι) (parent : Option ι)
  | observation (candidate : ι)
  | disposition (id candidate : ι) (selected : Bool)
  | freeze (candidate selection : ι)
  | evaluation (candidate : ι)
  | other
  deriving DecidableEq, Repr

/-- Identities are listed newest first; `chain` holds the candidates of the active
epoch, and the last three components speak about its newest candidate. -/
structure Lineage (ι : Type*) where
  epochs : List ι := []
  candidates : List ι := []
  chain : List ι := []
  disposition : Option (ι × Bool) := none
  frozen : Bool := false
  evaluations : Nat := 0
  deriving DecidableEq, Repr

namespace Lineage

variable {ι : Type*}

def apply (l : Lineage ι) : LineageEvent ι → Lineage ι
  | .epoch id _ =>
      { epochs := id :: l.epochs, candidates := l.candidates }
  | .candidate id _ _ =>
      { epochs := l.epochs, candidates := id :: l.candidates, chain := id :: l.chain }
  | .observation _ => l
  | .disposition id _ selected => { l with disposition := some (id, selected) }
  | .freeze _ _ => { l with frozen := true }
  | .evaluation _ => { l with evaluations := l.evaluations + 1 }
  | .other => l

def Admits (l : Lineage ι) : LineageEvent ι → Prop
  | .epoch id parent => id ∉ l.epochs ∧ parent = l.epochs.head?
  | .candidate id epoch parent =>
      id ∉ l.candidates ∧ l.epochs.head? = some epoch ∧ parent = l.chain.head? ∧
        l.frozen = false
  | .observation candidate => l.chain.head? = some candidate ∧ l.frozen = false
  | .disposition _ candidate _ => l.chain.head? = some candidate ∧ l.disposition = none
  | .freeze candidate selection =>
      l.chain.head? = some candidate ∧ l.disposition = some (selection, true) ∧
        l.frozen = false
  | .evaluation candidate => l.chain.head? = some candidate ∧ l.frozen = true
  | .other => True

def run (events : List (LineageEvent ι)) : Lineage ι :=
  events.foldl apply {}

@[simp] theorem run_nil : run ([] : List (LineageEvent ι)) = {} := rfl

@[simp] theorem run_snoc (events : List (LineageEvent ι)) (event : LineageEvent ι) :
    run (events ++ [event]) = (run events).apply event := by
  simp [run]

/-- Each event meets a condition on the lineage it happens in. -/
inductive Built (admits : Lineage ι → LineageEvent ι → Prop) :
    List (LineageEvent ι) → Prop where
  | nil : Built admits []
  | snoc {events : List (LineageEvent ι)} {event : LineageEvent ι} :
      Built admits events → admits (run events) event → Built admits (events ++ [event])

theorem Built.mono {admits admits' : Lineage ι → LineageEvent ι → Prop}
    (weaker : ∀ l event, admits l event → admits' l event) {events : List (LineageEvent ι)}
    (h : Built admits events) : Built admits' events := by
  induction h with
  | nil => exact .nil
  | snoc _ admitted ih => exact ih.snoc (weaker _ _ admitted)

/-- Each event is admitted where it happens. -/
abbrev Coherent (events : List (LineageEvent ι)) : Prop := Built Admits events

/-- Admitted, and no second evaluation of a candidate. -/
def AdmitsOnce (l : Lineage ι) (event : LineageEvent ι) : Prop :=
  l.Admits event ∧ ∀ candidate, event = .evaluation candidate → l.evaluations = 0

abbrev StrictlyCoherent (events : List (LineageEvent ι)) : Prop := Built AdmitsOnce events

theorem StrictlyCoherent.coherent {events : List (LineageEvent ι)}
    (h : StrictlyCoherent events) : Coherent events :=
  h.mono fun _ _ admitted => admitted.1

/-! ## What a history records -/

section Records

variable [DecidableEq ι]

/-- The begun epochs with their parents, oldest first. -/
def epochsOf (events : List (LineageEvent ι)) : List (ι × Option ι) :=
  events.filterMap fun
    | .epoch id parent => some (id, parent)
    | _ => none

/-- The registered candidates with epoch and parent, oldest first. -/
def candidatesOf (events : List (LineageEvent ι)) : List (ι × ι × Option ι) :=
  events.filterMap fun
    | .candidate id epoch parent => some (id, epoch, parent)
    | _ => none

def candidatesIn (epoch : ι) (events : List (LineageEvent ι)) : List (ι × Option ι) :=
  events.filterMap fun
    | .candidate id source parent => if source = epoch then some (id, parent) else none
    | _ => none

def dispositionsOf (candidate : ι) (events : List (LineageEvent ι)) : List (ι × Bool) :=
  events.filterMap fun
    | .disposition id subject selected =>
        if subject = candidate then some (id, selected) else none
    | _ => none

def freezesOf (candidate : ι) (events : List (LineageEvent ι)) : List ι :=
  events.filterMap fun
    | .freeze subject selection => if subject = candidate then some selection else none
    | _ => none

section Append

variable {events : List (LineageEvent ι)} {event : LineageEvent ι}

omit [DecidableEq ι] in
theorem epochsOf_append (first second : List (LineageEvent ι)) :
    epochsOf (first ++ second) = epochsOf first ++ epochsOf second :=
  List.filterMap_append

omit [DecidableEq ι] in
theorem candidatesOf_append (first second : List (LineageEvent ι)) :
    candidatesOf (first ++ second) = candidatesOf first ++ candidatesOf second :=
  List.filterMap_append

omit [DecidableEq ι] in
theorem epochsOf_snoc (h : epochsOf [event] = []) :
    epochsOf (events ++ [event]) = epochsOf events := by
  rw [epochsOf_append, h, List.append_nil]

omit [DecidableEq ι] in
theorem candidatesOf_snoc (h : candidatesOf [event] = []) :
    candidatesOf (events ++ [event]) = candidatesOf events := by
  rw [candidatesOf_append, h, List.append_nil]

theorem candidatesIn_snoc {epoch : ι} (h : candidatesIn epoch [event] = []) :
    candidatesIn epoch (events ++ [event]) = candidatesIn epoch events := by
  rw [candidatesIn, List.filterMap_append, ← candidatesIn, ← candidatesIn, h,
    List.append_nil]

theorem dispositionsOf_snoc {candidate : ι} (h : dispositionsOf candidate [event] = []) :
    dispositionsOf candidate (events ++ [event]) = dispositionsOf candidate events := by
  rw [dispositionsOf, List.filterMap_append, ← dispositionsOf, ← dispositionsOf, h,
    List.append_nil]

theorem freezesOf_snoc {candidate : ι} (h : freezesOf candidate [event] = []) :
    freezesOf candidate (events ++ [event]) = freezesOf candidate events := by
  rw [freezesOf, List.filterMap_append, ← freezesOf, ← freezesOf, h, List.append_nil]

end Append

/-- Every entry names the one before it as its parent. -/
def Linked : Option ι → List (ι × Option ι) → Prop
  | _, [] => True
  | previous, (id, parent) :: rest => parent = previous ∧ Linked (some id) rest

omit [DecidableEq ι] in
theorem linked_snoc {previous : Option ι} {chain : List (ι × Option ι)} {id : ι}
    {parent : Option ι} :
    Linked previous (chain ++ [(id, parent)]) ↔
      Linked previous chain ∧ parent = ((chain.map Prod.fst).reverse.head?.or previous) := by
  induction chain generalizing previous with
  | nil => simp [Linked]
  | cons first chain ih =>
      obtain ⟨firstId, firstParent⟩ := first
      simp only [List.cons_append, Linked, ih, List.map_cons, List.reverse_cons, and_assoc]
      refine and_congr_right fun _ => and_congr_right fun _ => ?_
      rcases h : (List.map Prod.fst chain).reverse with _ | ⟨newest, older⟩ <;> simp

omit [DecidableEq ι] in
/-- The last entry names the one before it. -/
theorem Linked.last {chain : List (ι × Option ι)} (h : Linked none chain) {entry : ι × Option ι}
    (hlast : chain.getLast? = some entry) :
    entry.2 = (chain.map Prod.fst).reverse.tail.head? := by
  obtain ⟨older, rfl⟩ := List.getLast?_eq_some_iff.mp hlast
  obtain ⟨_, hparent⟩ := linked_snoc.mp h
  rw [hparent, Option.or_none, List.map_append, List.reverse_append]
  rfl

/-! ## What holds along a coherent history -/

/-- What the events of a coherent history record, in terms of the lineage they lead
to. -/
structure Traced (events : List (LineageEvent ι)) (l : Lineage ι) : Prop where
  epochs_nodup : l.epochs.Nodup
  candidates_nodup : l.candidates.Nodup
  epochs_linked : Linked none (epochsOf events)
  epochs_eq : (epochsOf events).map Prod.fst = l.epochs.reverse
  candidates_eq : (candidatesOf events).map Prod.fst = l.candidates.reverse
  sources : ∀ entry ∈ candidatesOf events, entry.2.1 ∈ l.epochs
  chain_linked : ∀ epoch, l.epochs.head? = some epoch →
    Linked none (candidatesIn epoch events) ∧
      (candidatesIn epoch events).map Prod.fst = l.chain.reverse
  chain_empty : l.epochs = [] → l.chain = []
  unstarted : l.chain = [] → l.disposition = none ∧ l.frozen = false ∧ l.evaluations = 0
  chain_registered : ∀ id ∈ l.chain, id ∈ l.candidates
  after_active : ∀ before id parent after, events = before ++ .epoch id parent :: after →
    l.epochs.head? = some id → ∀ entry ∈ candidatesOf after, entry.2.1 = id
  unregistered : ∀ candidate, candidate ∉ l.candidates →
    dispositionsOf candidate events = [] ∧ freezesOf candidate events = []
  current : ∀ candidate, l.chain.head? = some candidate →
    dispositionsOf candidate events = l.disposition.toList ∧
      freezesOf candidate events =
        if l.frozen then (l.disposition.map Prod.fst).toList else []
  frozen_selected : l.frozen = true → ∃ id, l.disposition = some (id, true)
  evaluated : l.evaluations ≠ 0 → l.frozen = true ∧
    ∃ candidate, l.chain.head? = some candidate ∧ .evaluation candidate ∈ events
  settled : ∀ candidate, (dispositionsOf candidate events).length ≤ 1 ∧
    (freezesOf candidate events).length ≤ 1 ∧
    ∀ selection ∈ freezesOf candidate events,
      dispositionsOf candidate events = [(selection, true)]

omit [DecidableEq ι] in
private theorem snoc_eq_append_cons {events before after : List (LineageEvent ι)}
    {last first : LineageEvent ι} (h : events ++ [last] = before ++ first :: after) :
    (after = [] ∧ last = first) ∨
      ∃ rest, after = rest ++ [last] ∧ events = before ++ first :: rest := by
  rcases List.eq_nil_or_concat after with rfl | ⟨rest, final, rfl⟩
  · obtain ⟨_, hlast⟩ := List.append_inj' h rfl
    exact Or.inl ⟨rfl, (List.cons.inj hlast).1⟩
  · rw [List.concat_eq_append, ← List.cons_append, ← List.append_assoc] at h
    obtain ⟨hevents, hlast⟩ := List.append_inj' h rfl
    obtain rfl := (List.cons.inj hlast).1
    exact Or.inr ⟨rest, List.concat_eq_append, hevents⟩

namespace Traced

variable {events : List (LineageEvent ι)} {l : Lineage ι}

/-- An event that is no epoch or candidate leaves the chains as they are. -/
private theorem after_active_snoc (h : Traced events l) {event : LineageEvent ι}
    (noEpoch : ∀ id parent, event ≠ .epoch id parent)
    (noCandidate : candidatesOf [event] = []) :
    ∀ before id parent after, events ++ [event] = before ++ .epoch id parent :: after →
      l.epochs.head? = some id → ∀ entry ∈ candidatesOf after, entry.2.1 = id := by
  intro before id parent after hsplit hactive entry hentry
  rcases snoc_eq_append_cons hsplit with ⟨_, hlast⟩ | ⟨rest, rfl, hevents⟩
  · exact absurd hlast (noEpoch id parent)
  · rw [candidatesOf_snoc noCandidate] at hentry
    exact h.after_active before id parent rest hevents hactive entry hentry

private theorem evaluated_snoc (h : Traced events l) {event : LineageEvent ι}
    (some_evaluation : l.evaluations ≠ 0) :
    l.frozen = true ∧ ∃ candidate, l.chain.head? = some candidate ∧
      .evaluation candidate ∈ events ++ [event] := by
  obtain ⟨hfrozen, candidate, hcurrent, hmem⟩ := h.evaluated some_evaluation
  exact ⟨hfrozen, candidate, hcurrent, List.mem_append_left _ hmem⟩

/-- An event that records nothing and leaves the chains alone. -/
private theorem silent (h : Traced events l) {event : LineageEvent ι} {l' : Lineage ι}
    (hevent : (∃ c, event = .observation c ∧ l'.evaluations = l.evaluations) ∨
      (∃ c, event = .evaluation c ∧ l.chain.head? = some c ∧ l.frozen = true) ∨
      event = .other ∧ l'.evaluations = l.evaluations)
    (hl : l = { l' with evaluations := l.evaluations }) :
    Traced (events ++ [event]) l' := by
  have nothing : epochsOf [event] = [] ∧ candidatesOf [event] = [] ∧
      (∀ epoch, candidatesIn epoch [event] = []) ∧
      (∀ c, dispositionsOf c [event] = []) ∧ (∀ c, freezesOf c [event] = []) ∧
      ∀ id parent, event ≠ .epoch id parent := by
    rcases hevent with ⟨c, rfl, _⟩ | ⟨c, rfl, _⟩ | ⟨rfl, _⟩ <;>
      exact ⟨rfl, rfl, fun _ => rfl, fun _ => rfl, fun _ => rfl, fun _ _ h => nomatch h⟩
  obtain ⟨hepochs, hcandidates, hin, hdispositions, hfreezes, hkind⟩ := nothing
  have same : l'.epochs = l.epochs ∧ l'.candidates = l.candidates ∧ l'.chain = l.chain ∧
      l'.disposition = l.disposition ∧ l'.frozen = l.frozen := by
    rw [hl]
    exact ⟨rfl, rfl, rfl, rfl, rfl⟩
  obtain ⟨sepochs, scandidates, schain, sdisposition, sfrozen⟩ := same
  constructor <;> simp only [epochsOf_snoc hepochs, candidatesOf_snoc hcandidates,
    candidatesIn_snoc (hin _), dispositionsOf_snoc (hdispositions _),
    freezesOf_snoc (hfreezes _), sepochs, scandidates, schain, sdisposition, sfrozen]
  case epochs_nodup => exact h.epochs_nodup
  case candidates_nodup => exact h.candidates_nodup
  case epochs_linked => exact h.epochs_linked
  case epochs_eq => exact h.epochs_eq
  case candidates_eq => exact h.candidates_eq
  case sources => exact h.sources
  case chain_linked => exact h.chain_linked
  case chain_empty => exact h.chain_empty
  case unstarted =>
    intro hnil
    obtain ⟨hdisposition, hfrozen, hevaluations⟩ := h.unstarted hnil
    refine ⟨hdisposition, hfrozen, ?_⟩
    rcases hevent with ⟨_, _, heq⟩ | ⟨_, _, hcurrent⟩ | ⟨_, heq⟩
    · rw [heq, hevaluations]
    · rw [hnil] at hcurrent
      cases hcurrent.1
    · rw [heq, hevaluations]
  case chain_registered => exact h.chain_registered
  case unregistered => exact h.unregistered
  case current => exact h.current
  case frozen_selected => exact h.frozen_selected
  case evaluated =>
    intro hevaluations
    rcases hevent with ⟨_, _, heq⟩ | ⟨c, rfl, hcurrent⟩ | ⟨_, heq⟩
    · exact h.evaluated_snoc (heq ▸ hevaluations)
    · exact ⟨hcurrent.2, c, hcurrent.1, List.mem_append_right _ (List.mem_singleton_self _)⟩
    · exact h.evaluated_snoc (heq ▸ hevaluations)
  case settled => exact h.settled
  case after_active => exact h.after_active_snoc hkind hcandidates

private theorem epoch (h : Traced events l) {id : ι} {parent : Option ι}
    (admits : l.Admits (.epoch id parent)) :
    Traced (events ++ [.epoch id parent]) (l.apply (.epoch id parent)) := by
  obtain ⟨fresh, hparent⟩ := admits
  have outside : candidatesIn id events = [] := by
    refine List.filterMap_eq_nil_iff.mpr fun event hevent => ?_
    cases event with
    | candidate cid source parent' =>
        have source_mem := h.sources (cid, source, parent')
          (List.mem_filterMap.mpr ⟨_, hevent, rfl⟩)
        refine if_neg ?_
        rintro rfl
        exact fresh source_mem
    | _ => rfl
  constructor
  case epochs_nodup => exact List.nodup_cons.mpr ⟨fresh, h.epochs_nodup⟩
  case candidates_nodup => exact h.candidates_nodup
  case epochs_linked =>
    rw [epochsOf_append]
    refine linked_snoc.mpr ⟨h.epochs_linked, ?_⟩
    show parent = _
    rw [h.epochs_eq, List.reverse_reverse, hparent, Option.or_none]
  case epochs_eq =>
    rw [epochsOf_append, List.map_append, h.epochs_eq]
    exact List.reverse_cons.symm
  case candidates_eq =>
    rw [candidatesOf_snoc rfl]
    exact h.candidates_eq
  case sources =>
    intro entry hentry
    rw [candidatesOf_snoc rfl] at hentry
    exact List.mem_cons_of_mem _ (h.sources entry hentry)
  case chain_linked =>
    intro active hactive
    obtain rfl : id = active := Option.some.inj hactive
    rw [candidatesIn_snoc rfl, outside]
    exact ⟨trivial, rfl⟩
  case chain_empty => exact fun _ => rfl
  case unstarted => exact fun _ => ⟨rfl, rfl, rfl⟩
  case chain_registered => exact fun c hc => nomatch hc
  case after_active =>
    intro before id' parent' after hsplit hactive entry hentry
    obtain rfl : id = id' := Option.some.inj hactive
    rcases snoc_eq_append_cons hsplit with ⟨rfl, _⟩ | ⟨rest, _, hevents⟩
    · cases hentry
    · have begun : id ∈ (epochsOf events).map Prod.fst := by
        rw [hevents, epochsOf_append, List.map_append]
        exact List.mem_append_right _ List.mem_cons_self
      rw [h.epochs_eq, List.mem_reverse] at begun
      exact absurd begun fresh
  case unregistered =>
    intro candidate hcandidate
    rw [dispositionsOf_snoc rfl, freezesOf_snoc rfl]
    exact h.unregistered candidate hcandidate
  case current => exact fun c hc => nomatch hc
  case frozen_selected => exact fun hfrozen => nomatch hfrozen
  case evaluated => exact fun hevaluations => absurd rfl hevaluations
  case settled =>
    intro candidate
    rw [dispositionsOf_snoc rfl, freezesOf_snoc rfl]
    exact h.settled candidate

private theorem candidate (h : Traced events l) {id source : ι} {parent : Option ι}
    (admits : l.Admits (.candidate id source parent)) :
    Traced (events ++ [.candidate id source parent]) (l.apply (.candidate id source parent)) := by
  obtain ⟨fresh, hsource, hparent, _⟩ := admits
  have unsettled := h.unregistered id fresh
  constructor
  case epochs_nodup => exact h.epochs_nodup
  case candidates_nodup => exact List.nodup_cons.mpr ⟨fresh, h.candidates_nodup⟩
  case epochs_linked =>
    rw [epochsOf_snoc rfl]
    exact h.epochs_linked
  case epochs_eq =>
    rw [epochsOf_snoc rfl]
    exact h.epochs_eq
  case candidates_eq =>
    rw [candidatesOf_append, List.map_append, h.candidates_eq]
    exact List.reverse_cons.symm
  case sources =>
    intro entry hentry
    rw [candidatesOf_append, List.mem_append] at hentry
    rcases hentry with hentry | hentry
    · exact h.sources entry hentry
    · obtain rfl : entry = (id, source, parent) := List.mem_singleton.mp hentry
      exact List.mem_of_head? hsource
  case chain_linked =>
    intro active hactive
    have hactive : l.epochs.head? = some active := hactive
    obtain rfl : source = active := by
      rw [hsource] at hactive
      exact Option.some.inj hactive
    obtain ⟨linked, ids⟩ := h.chain_linked source hsource
    have snoc : candidatesIn source (events ++ [.candidate id source parent]) =
        candidatesIn source events ++ [(id, parent)] := by
      simp [candidatesIn, List.filterMap_append]
    rw [snoc]
    refine ⟨linked_snoc.mpr ⟨linked, ?_⟩, ?_⟩
    · rw [ids, List.reverse_reverse, hparent, Option.or_none]
    · rw [List.map_append, ids]
      exact List.reverse_cons.symm
  case chain_empty =>
    intro hnil
    have hnil : l.epochs = [] := hnil
    rw [hnil] at hsource
    cases hsource
  case unstarted => exact fun hnil => nomatch hnil
  case chain_registered =>
    intro c hc
    rcases List.mem_cons.mp hc with rfl | hc
    · exact List.mem_cons_self
    · exact List.mem_cons_of_mem _ (h.chain_registered c hc)
  case after_active =>
    intro before id' parent' after hsplit hactive entry hentry
    rcases snoc_eq_append_cons hsplit with ⟨_, hlast⟩ | ⟨rest, rfl, hevents⟩
    · cases hlast
    · rw [candidatesOf_append, List.mem_append] at hentry
      rcases hentry with hentry | hentry
      · exact h.after_active before id' parent' rest hevents hactive entry hentry
      · obtain rfl : entry = (id, source, parent) := List.mem_singleton.mp hentry
        have hactive : l.epochs.head? = some id' := hactive
        rw [hsource] at hactive
        exact Option.some.inj hactive
  case unregistered =>
    intro c hc
    rw [dispositionsOf_snoc rfl, freezesOf_snoc rfl]
    exact h.unregistered c fun hmem => hc (List.mem_cons_of_mem _ hmem)
  case current =>
    intro c hc
    obtain rfl : id = c := Option.some.inj hc
    rw [dispositionsOf_snoc rfl, freezesOf_snoc rfl, unsettled.1, unsettled.2]
    exact ⟨rfl, rfl⟩
  case frozen_selected => exact fun hfrozen => nomatch hfrozen
  case evaluated => exact fun hevaluations => absurd rfl hevaluations
  case settled =>
    intro c
    rw [dispositionsOf_snoc rfl, freezesOf_snoc rfl]
    exact h.settled c

private theorem disposition (h : Traced events l) {id subject : ι} {selected : Bool}
    (admits : l.Admits (.disposition id subject selected)) :
    Traced (events ++ [.disposition id subject selected])
      (l.apply (.disposition id subject selected)) := by
  obtain ⟨hcurrent, hundisposed⟩ := admits
  have notFrozen : l.frozen = false := by
    by_contra hfrozen
    obtain ⟨selection, hselected⟩ := h.frozen_selected (by simpa using hfrozen)
    rw [hundisposed] at hselected
    cases hselected
  obtain ⟨noDisposition, noFreeze⟩ := h.current subject hcurrent
  rw [hundisposed] at noDisposition
  rw [notFrozen] at noFreeze
  have registered : subject ∈ l.candidates :=
    h.chain_registered subject (List.mem_of_head? hcurrent)
  have others : ∀ c, c ≠ subject →
      dispositionsOf c (events ++ [.disposition id subject selected]) =
        dispositionsOf c events := by
    intro c hc
    refine dispositionsOf_snoc ?_
    simp [dispositionsOf, Ne.symm hc]
  have own : dispositionsOf subject (events ++ [.disposition id subject selected]) =
      [(id, selected)] := by
    rw [dispositionsOf, List.filterMap_append, ← dispositionsOf, noDisposition]
    simp
  constructor
  case epochs_nodup => exact h.epochs_nodup
  case candidates_nodup => exact h.candidates_nodup
  case epochs_linked =>
    rw [epochsOf_snoc rfl]
    exact h.epochs_linked
  case epochs_eq =>
    rw [epochsOf_snoc rfl]
    exact h.epochs_eq
  case candidates_eq =>
    rw [candidatesOf_snoc rfl]
    exact h.candidates_eq
  case sources =>
    rw [candidatesOf_snoc rfl]
    exact h.sources
  case chain_linked =>
    intro active hactive
    rw [candidatesIn_snoc rfl]
    exact h.chain_linked active hactive
  case chain_empty => exact h.chain_empty
  case unstarted =>
    intro hnil
    have hnil : l.chain = [] := hnil
    rw [hnil] at hcurrent
    cases hcurrent
  case chain_registered => exact h.chain_registered
  case after_active => exact h.after_active_snoc (fun _ _ h => nomatch h) rfl
  case unregistered =>
    intro c hc
    have hne : c ≠ subject := by
      rintro rfl
      exact hc registered
    rw [others c hne, freezesOf_snoc rfl]
    exact h.unregistered c hc
  case current =>
    intro c hc
    have hc : l.chain.head? = some c := hc
    obtain rfl : subject = c := by
      rw [hcurrent] at hc
      exact Option.some.inj hc
    rw [own, freezesOf_snoc rfl, noFreeze]
    simp [apply, notFrozen]
  case frozen_selected =>
    intro hfrozen
    have hfrozen : l.frozen = true := hfrozen
    rw [notFrozen] at hfrozen
    cases hfrozen
  case evaluated => exact h.evaluated_snoc
  case settled =>
    intro c
    rw [freezesOf_snoc rfl]
    by_cases hc : c = subject
    · subst hc
      rw [own, noFreeze]
      simp
    · rw [others c hc]
      exact h.settled c

private theorem freeze (h : Traced events l) {subject selection : ι}
    (admits : l.Admits (.freeze subject selection)) :
    Traced (events ++ [.freeze subject selection]) (l.apply (.freeze subject selection)) := by
  obtain ⟨hcurrent, hselected, notFrozen⟩ := admits
  obtain ⟨ownDisposition, noFreeze⟩ := h.current subject hcurrent
  rw [hselected] at ownDisposition
  rw [notFrozen] at noFreeze
  have registered : subject ∈ l.candidates :=
    h.chain_registered subject (List.mem_of_head? hcurrent)
  have own : freezesOf subject (events ++ [.freeze subject selection]) = [selection] := by
    rw [freezesOf, List.filterMap_append, ← freezesOf, noFreeze]
    simp
  have others : ∀ c, c ≠ subject →
      freezesOf c (events ++ [.freeze subject selection]) = freezesOf c events := by
    intro c hc
    refine freezesOf_snoc ?_
    simp [freezesOf, Ne.symm hc]
  constructor
  case epochs_nodup => exact h.epochs_nodup
  case candidates_nodup => exact h.candidates_nodup
  case epochs_linked =>
    rw [epochsOf_snoc rfl]
    exact h.epochs_linked
  case epochs_eq =>
    rw [epochsOf_snoc rfl]
    exact h.epochs_eq
  case candidates_eq =>
    rw [candidatesOf_snoc rfl]
    exact h.candidates_eq
  case sources =>
    rw [candidatesOf_snoc rfl]
    exact h.sources
  case chain_linked =>
    intro active hactive
    rw [candidatesIn_snoc rfl]
    exact h.chain_linked active hactive
  case chain_empty => exact h.chain_empty
  case unstarted =>
    intro hnil
    have hnil : l.chain = [] := hnil
    rw [hnil] at hcurrent
    cases hcurrent
  case chain_registered => exact h.chain_registered
  case after_active => exact h.after_active_snoc (fun _ _ h => nomatch h) rfl
  case unregistered =>
    intro c hc
    have hne : c ≠ subject := by
      rintro rfl
      exact hc registered
    rw [others c hne, dispositionsOf_snoc rfl]
    exact h.unregistered c hc
  case current =>
    intro c hc
    have hc : l.chain.head? = some c := hc
    obtain rfl : subject = c := by
      rw [hcurrent] at hc
      exact Option.some.inj hc
    rw [own, dispositionsOf_snoc rfl, ownDisposition]
    simp [apply, hselected]
  case frozen_selected => exact fun _ => ⟨selection, hselected⟩
  case evaluated =>
    intro hevaluations
    obtain ⟨_, rest⟩ := h.evaluated_snoc hevaluations
    exact ⟨rfl, rest⟩
  case settled =>
    intro c
    rw [dispositionsOf_snoc rfl]
    by_cases hc : c = subject
    · subst hc
      rw [own, ownDisposition]
      simp
    · rw [others c hc]
      exact h.settled c

end Traced

theorem Coherent.traced {events : List (LineageEvent ι)} (h : Coherent events) :
    Traced events (run events) := by
  induction h with
  | nil =>
      constructor <;>
        simp [epochsOf, candidatesOf, candidatesIn, dispositionsOf, freezesOf, Linked]
  | @snoc events event _ admits ih =>
      rw [run_snoc]
      cases event with
      | epoch id parent => exact ih.epoch admits
      | candidate id source parent => exact ih.candidate admits
      | observation c => exact ih.silent (Or.inl ⟨c, rfl, rfl⟩) rfl
      | disposition id subject selected => exact ih.disposition admits
      | freeze subject selection => exact ih.freeze admits
      | evaluation c => exact ih.silent (Or.inr (Or.inl ⟨c, rfl, admits⟩)) rfl
      | other => exact ih.silent (Or.inr (Or.inr ⟨rfl, rfl⟩)) rfl

end Records

end Lineage

end MncsForge.Foundation
