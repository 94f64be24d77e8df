import Mathlib
import MncsForge.Native.Reconciliation

/-!
# The readiness exchange

The host normalizes each requirement, the kernel classifies it, and the host
checks the answer against what it has sent.  The exchange succeeds exactly for the
requests that fit, and its answer is an explicit function of the request.
-/

namespace MncsForge.Native.Readiness

/-! ## The kernel's answer -/

section Kernel

variable (core : CoreLibrary)

/-- The readiness of a counted state. -/
def stateReady (state : ReadinessState) (candidatePresent policyValid : Bool) : Bool :=
  candidatePresent && policyValid && decide (state.failedCount = 0) &&
    decide (state.missingCount = 0) && decide (state.unknownCount = 0) &&
    decide (state.staleCount = 0) && decide (state.noncomparableCount = 0)

/-- What the kernel answers for a counted state. -/
def answer (state : ReadinessState) (candidatePresent policyValid : Bool) : ReadinessResult :=
  if state.valid = false then
    { state := { state with ready := false, status := .unknown, valid := false }
      status := .unknown
      reason := .invalid }
  else
    let ready := stateReady state candidatePresent policyValid
    let status := readinessStatus ready state.failedCount
    { state := { state with ready := ready, status := status, valid := true }
      status := status
      reason :=
        readinessReason core policyValid candidatePresent ready state.failedCount
          state.missingCount state.unknownCount state.staleCount }

private theorem reached_append (active padding : List RequirementInput)
    (candidatePresent policyValid : Bool) :
    reached
      { requirements := active ++ padding
        requirementCount := active.length
        candidatePresent := candidatePresent
        policyValid := policyValid } = true := by
  rw [reached, Bool.or_eq_true, decide_eq_true_eq]
  by_cases none : active.length = 0
  · exact Or.inl none
  · refine Or.inr (List.any_eq_true.mpr ?_)
    have last : active.length - 1 < (active ++ padding).zipIdx.length := by
      rw [List.length_zipIdx, List.length_append]
      omega
    refine ⟨_, List.getElem_mem last, ?_⟩
    rw [List.getElem_zipIdx, decide_eq_true_eq]
    dsimp only
    omega

theorem project_eq (documented : core.Documented) (active padding : List RequirementInput)
    (bound : active.length ≤ 16) (candidatePresent policyValid : Bool) :
    project core
        { requirements := active ++ padding
          requirementCount := active.length
          candidatePresent := candidatePresent
          policyValid := policyValid } =
      answer core (tally core (active.map (requirement core))) candidatePresent policyValid := by
  rw [project, answer]
  simp only [foldActive_append, foldl_addRequirement core active bound, reached_append,
    Bool.and_true, documented.boolNot_eq, Bool.not_eq_true']
  rfl

end Kernel

/-- The class of a requirement with these statuses. -/
def classOf (statuses : List Status) (stale noncomparable : Bool) : RequirementClass :=
  if statuses = [] then .missing
  else if .fail ∈ statuses then .failed
  else if .unknown ∈ statuses then .unknown
  else if stale then .stale
  else if noncomparable then .nonComparable
  else .present

section Classes

variable {statuses : List Status} {stale noncomparable : Bool}

theorem classOf_missing : classOf statuses stale noncomparable = .missing ↔ statuses = [] := by
  unfold classOf
  split_ifs <;> simp_all

theorem classOf_failed :
    classOf statuses stale noncomparable = .failed ↔ .fail ∈ statuses := by
  unfold classOf
  split_ifs <;> simp_all

theorem classOf_unknown :
    classOf statuses stale noncomparable = .unknown ↔
      .fail ∉ statuses ∧ .unknown ∈ statuses := by
  unfold classOf
  split_ifs <;> simp_all

/-- A stale or incomparable class comes from the matching flag. -/
theorem classOf_flagged :
    (classOf statuses stale noncomparable = .stale → stale = true) ∧
      (classOf statuses stale noncomparable = .nonComparable → noncomparable = true) := by
  unfold classOf
  split_ifs <;> simp_all

end Classes

theorem requirement_eq {core : CoreLibrary} (documented : core.Documented)
    (input : RequirementInput) (sent : input.count ≤ input.statuses.length)
    (present : input.identity ≠ Digest32.zero) :
    let statuses := input.statuses.take input.count
    let stale := freshnessIsStale input.freshness
    let noncomparable :=
      freshnessIsUnknown input.freshness || !input.comparable || !input.environmentMatch ||
        !input.policyMatch || !input.authorityMatch
    requirement core input =
      { identity := input.identity
        classification := classOf statuses stale noncomparable
        passCount := statuses.count .pass
        failCount := statuses.count .fail
        unknownCount := statuses.count .unknown
        observedCount := statuses.length
        stale := stale
        noncomparable := noncomparable
        valid := true } := by
  intro statuses stale noncomparable
  have counts := documented.summarizePrefix_counts input.statuses input.count
  rw [prefixSummary, decide_eq_true sent] at counts
  rw [requirement]
  generalize core.summarizePrefix input.statuses input.count = summary at counts ⊢
  obtain ⟨_, _⟩ := summary
  dsimp only at counts
  subst counts
  simp only [classifyRequirement, documented.boolNot_eq, documented.isZero_eq,
    decide_eq_false present, Bool.not_true, Bool.not_false, Bool.or_self, Bool.and_self,
    Bool.false_eq_true, if_false, List.length_eq_zero_iff, List.count_pos_iff, classOf,
    statuses, stale, noncomparable]

end MncsForge.Native.Readiness

namespace MncsForge.Native

open MncsForge.Foundation MncsForge.Records
open Readiness (RequirementInput RequirementProjection)

/-! ## What the exchange accepts -/

theorem requirementStatus_eq_some {record : ForgeRecord} {status : Status} :
    requirementStatus record = some status ↔ record.get "status" = .str status.value := by
  rw [requirementStatus]
  cases record.get "status" with
  | str text =>
      rw [Json.str.injEq]
      constructor
      · exact fun h => Status.eq_value_of_ofString? h
      · rintro rfl
        exact Status.ofString?_value status
  | _ => exact iff_of_false (fun h => nomatch h) (fun h => nomatch h)

theorem requirementStatuses_eq_ok {requirement : String} {records : List ForgeRecord}
    {statuses : List Status} :
    requirementStatuses requirement records = .ok statuses ↔
      (∀ record ∈ records, (requirementStatus record).isSome) ∧
        statuses = recordStatuses records := by
  induction records generalizing statuses with
  | nil =>
      refine ⟨fun h => ⟨List.forall_mem_nil _, (Except.ok.inj h).symm⟩, ?_⟩
      rintro ⟨_, rfl⟩
      rfl
  | cons record records ih =>
      rw [List.forall_mem_cons, requirementStatuses, recordStatuses, List.filterMap_cons]
      cases hstatus : requirementStatus record with
      | none => simp
      | some status =>
          simp only [bind_eq_ok, ih, Option.isSome_some, true_and, Except.ok.injEq]
          constructor
          · rintro ⟨_, ⟨hrest, rfl⟩, rfl⟩
            exact ⟨hrest, rfl⟩
          · rintro ⟨hrest, rfl⟩
            exact ⟨_, ⟨hrest, rfl⟩, rfl⟩

theorem recordStatuses_count {records : List ForgeRecord}
    (h : ∀ record ∈ records, (requirementStatus record).isSome) (status : Status) :
    (recordStatuses records).count status =
      (records.map fun record => record.get "status").count (.str status.value) := by
  induction records with
  | nil => rfl
  | cons record records ih =>
      obtain ⟨observed, hobserved⟩ := Option.isSome_iff_exists.mp (h record List.mem_cons_self)
      rw [recordStatuses, List.filterMap_cons, hobserved, List.map_cons, List.count_cons,
        List.count_cons, ← recordStatuses,
        ih fun other hother => h other (List.mem_cons_of_mem _ hother),
        requirementStatus_eq_some.mp hobserved]
      simp only [beq_iff_eq, Json.str.injEq, Status.value_injective.eq_iff]

/-- The host can put a requirement into the request. -/
structure RequirementEnvelope (entry : String × NormalizedReadiness) : Prop where
  named : entry.1 ≠ ""
  bounded : entry.2.records.length ≤ 8
  readable : ∀ record ∈ entry.2.records, (requirementStatus record).isSome

namespace NativeForgeAdapter

variable (native : NativeForgeAdapter)

/-- The requirements fit into the request, and their digests tell them apart. -/
structure ReadinessEnvelope (requirements : List (String × NormalizedReadiness)) : Prop where
  bounded : (Dict.update [] requirements).length ≤ 16
  sendable : ∀ entry ∈ Dict.update [] requirements, RequirementEnvelope entry
  present : ∀ entry ∈ Dict.update [] requirements,
    native.requirementDigest entry.1 ≠ Digest32.zero
  distinct : ((Dict.update [] requirements).map fun entry =>
    native.requirementDigest entry.1).Nodup

/-- What the host sends for a requirement. -/
def requirementInput (entry : String × NormalizedReadiness) : RequirementInput where
  identity := native.requirementDigest entry.1
  statuses :=
    recordStatuses entry.2.records ++
      List.replicate (8 - (recordStatuses entry.2.records).length) .unknown
  count := entry.2.records.length
  freshness := entry.2.freshness
  comparable := entry.2.comparable
  environmentMatch := entry.2.environmentMatch
  policyMatch := entry.2.policyMatch
  authorityMatch := entry.2.authorityMatch

/-- What the kernel makes of it. -/
def observedRequirement (entry : String × NormalizedReadiness) : RequirementProjection where
  identity := native.requirementDigest entry.1
  classification :=
    Readiness.classOf (recordStatuses entry.2.records)
      (Readiness.freshnessIsStale entry.2.freshness) (expectedNoncomparable entry.2)
  passCount := (recordStatuses entry.2.records).count .pass
  failCount := (recordStatuses entry.2.records).count .fail
  unknownCount := (recordStatuses entry.2.records).count .unknown
  observedCount := (recordStatuses entry.2.records).length
  stale := Readiness.freshnessIsStale entry.2.freshness
  noncomparable := expectedNoncomparable entry.2
  valid := true

variable {native}

/-! ### The request -/

theorem readinessRequirementValue_eq_ok {entry : String × NormalizedReadiness}
    {input : RequirementInput} :
    native.readinessRequirementValue entry.1 entry.2 = .ok input ↔
      RequirementEnvelope entry ∧ input = native.requirementInput entry := by
  simp only [readinessRequirementValue, readinessRequirementIdentity, bind_eq_ok,
    refuseIf_eq_ok, requirementStatuses_eq_ok, not_lt, Except.ok.injEq]
  constructor
  · rintro ⟨_, hbounded, _, ⟨hreadable, rfl⟩, _, ⟨_, hnamed, rfl⟩, rfl⟩
    exact ⟨⟨hnamed, hbounded, hreadable⟩, rfl⟩
  · rintro ⟨⟨hnamed, hbounded, hreadable⟩, rfl⟩
    exact ⟨(), hbounded, _, ⟨hreadable, rfl⟩, _, ⟨(), hnamed, rfl⟩, rfl⟩

theorem readinessRequirementValues_eq_ok {entries : List (String × NormalizedReadiness)}
    {inputs : List RequirementInput} :
    native.readinessRequirementValues entries = .ok inputs ↔
      (∀ entry ∈ entries, RequirementEnvelope entry) ∧
        inputs = entries.map native.requirementInput := by
  induction entries generalizing inputs with
  | nil =>
      refine ⟨fun h => ⟨List.forall_mem_nil _, (Except.ok.inj h).symm⟩, ?_⟩
      rintro ⟨_, rfl⟩
      rfl
  | cons entry entries ih =>
      simp only [readinessRequirementValues, bind_eq_ok, readinessRequirementValue_eq_ok, ih,
        Except.ok.injEq, List.forall_mem_cons, List.map_cons]
      constructor
      · rintro ⟨_, ⟨hentry, rfl⟩, _, ⟨hrest, rfl⟩, rfl⟩
        exact ⟨⟨hentry, hrest⟩, rfl⟩
      · rintro ⟨⟨hentry, hrest⟩, rfl⟩
        exact ⟨_, ⟨hentry, rfl⟩, _, ⟨hrest, rfl⟩, rfl⟩

theorem requirement_requirementInput (documented : native.core.Documented)
    {entry : String × NormalizedReadiness} (envelope : RequirementEnvelope entry)
    (present : native.requirementDigest entry.1 ≠ Digest32.zero) :
    Readiness.requirement native.core (native.requirementInput entry) =
      native.observedRequirement entry := by
  have length := recordStatuses_length envelope.readable
  have room : (native.requirementInput entry).count ≤
      (native.requirementInput entry).statuses.length := by
    simp [requirementInput, length]
  have sent : (native.requirementInput entry).statuses.take
      (native.requirementInput entry).count = recordStatuses entry.2.records := by
    rw [requirementInput, ← length, List.take_left]
  rw [Readiness.requirement_eq documented _ room present, sent]
  rfl

/-! ### The answer -/

theorem find?_of_nodup {α β : Type*} [DecidableEq β] {f : α → β} {xs : List α}
    (distinct : (xs.map f).Nodup) {x : α} (hx : x ∈ xs) :
    (xs.find? fun y => decide (f y = f x)) = some x := by
  induction xs with
  | nil => cases hx
  | cons first rest ih =>
      rw [List.map_cons, List.nodup_cons] at distinct
      rcases List.mem_cons.mp hx with rfl | hx
      · simp
      · have ne : f first ≠ f x := fun h => distinct.1 (h ▸ List.mem_map_of_mem hx)
        rw [List.find?_cons_of_neg (by simpa using ne), ih distinct.2 hx]

section Accept

variable {ordered : List (String × NormalizedReadiness)}

/-- The host accepts the projection of each requirement it has sent. -/
theorem acceptRequirement_observed {done rest : List (String × NormalizedReadiness)}
    {entry : String × NormalizedReadiness} (hordered : ordered = done ++ entry :: rest)
    (envelope : RequirementEnvelope entry)
    (present : native.requirementDigest entry.1 ≠ Digest32.zero)
    (distinct : (ordered.map fun entry => native.requirementDigest entry.1).Nodup) :
    native.acceptRequirement ordered (done.map native.observedRequirement)
        (native.observedRequirement entry, done.length) =
      .ok ((done ++ [entry]).map native.observedRequirement) := by
  have inside : ¬ ordered.length ≤ done.length := by
    rw [hordered, List.length_append, List.length_cons]
    omega
  have found : (ordered.find? fun other =>
      decide (native.requirementDigest other.1 = native.requirementDigest entry.1)) =
        some entry :=
    find?_of_nodup distinct (by rw [hordered]; simp)
  have fresh : native.requirementDigest entry.1 ∉
      (done.map native.observedRequirement).map (·.identity) := by
    rw [hordered, List.map_append, List.map_cons] at distinct
    intro h
    rw [List.map_map] at h
    exact List.disjoint_of_nodup_append distinct h List.mem_cons_self
  have count := recordStatuses_count envelope.readable
  have length := recordStatuses_length envelope.readable
  have pass := count .pass
  have fail := count .fail
  have unknown := count .unknown
  simp only [Status.value] at pass fail unknown
  simp only [acceptRequirement, if_neg inside, observedRequirement, found, bind_eq_ok,
    refuseIf_eq_ok, present, fresh, pass, fail, unknown, length, List.length_map, ne_eq,
    not_false_eq_true, not_true_eq_false, or_self, true_and, exists_const, List.map_append,
    List.map_cons, List.map_nil]

private theorem accept_active {done rest : List (String × NormalizedReadiness)}
    (hordered : ordered = done ++ rest)
    (envelope : ∀ entry ∈ ordered, RequirementEnvelope entry)
    (present : ∀ entry ∈ ordered, native.requirementDigest entry.1 ≠ Digest32.zero)
    (distinct : (ordered.map fun entry => native.requirementDigest entry.1).Nodup) :
    ((rest.map native.observedRequirement).zipIdx done.length).foldlM
        (native.acceptRequirement ordered) (done.map native.observedRequirement) =
      .ok (ordered.map native.observedRequirement) := by
  induction rest generalizing done with
  | nil =>
      rw [hordered, List.append_nil]
      rfl
  | cons entry rest ih =>
      have mem : entry ∈ ordered := by
        rw [hordered]
        simp
      have next : ordered = (done ++ [entry]) ++ rest := by
        rw [hordered, List.append_assoc, List.singleton_append]
      rw [List.map_cons, List.zipIdx_cons, List.foldlM_cons,
        acceptRequirement_observed hordered (envelope entry mem) (present entry mem) distinct]
      have rest := ih next
      rw [List.length_append, List.length_singleton] at rest
      exact rest

private theorem accept_padding (slots from' : Nat) (outside : ordered.length ≤ from')
    (documented : native.core.Documented) (accepted : List RequirementProjection) :
    ((List.replicate slots (Readiness.emptyRequirement native.core)).zipIdx from').foldlM
        (native.acceptRequirement ordered) accepted = .ok accepted := by
  induction slots generalizing from' with
  | zero => rfl
  | succ slots ih =>
      have step : native.acceptRequirement ordered accepted
          (Readiness.emptyRequirement native.core, from') = .ok accepted := by
        simp only [acceptRequirement, if_pos outside, Readiness.emptyRequirement,
          documented.zero_eq, bind_eq_ok, refuseIf_eq_ok, ne_eq, not_true_eq_false,
          not_false_eq_true, exists_const, true_and]
      rw [List.replicate_succ, List.zipIdx_cons, List.foldlM_cons, step]
      exact ih (from' + 1) (by omega)

private theorem orderedProjections_observed
    (distinct : (ordered.map fun entry => native.requirementDigest entry.1).Nodup)
    {entries : List (String × NormalizedReadiness)} (sub : ∀ entry ∈ entries, entry ∈ ordered) :
    native.orderedProjections (ordered.map native.observedRequirement) entries =
      .ok (entries.map native.observedRequirement) := by
  induction entries with
  | nil => rfl
  | cons entry entries ih =>
      have identities : ((ordered.map native.observedRequirement).map (·.identity)).Nodup := by
        rw [List.map_map]
        exact distinct
      have found : ((ordered.map native.observedRequirement).find? fun item =>
          decide (item.identity = native.requirementDigest entry.1)) =
            some (native.observedRequirement entry) :=
        find?_of_nodup identities
          (List.mem_map_of_mem (sub entry List.mem_cons_self))
      rw [orderedProjections, found, ih fun other hother =>
        sub other (List.mem_cons_of_mem _ hother)]
      rfl

end Accept

/-! ### The exchange -/

section Exchange

variable (native)

/-- The projection of an envelope. -/
def envelopeReadiness (requirements : List (String × NormalizedReadiness))
    (candidatePresent policyValid : Bool) : NativeReadinessProjection :=
  let projected := (Dict.update [] requirements).map native.observedRequirement
  let state := Readiness.tally native.core projected
  let ready := Readiness.stateReady state candidatePresent policyValid
  { requirements := projected
    status := Readiness.readinessStatus ready state.failedCount
    reason :=
      Readiness.readinessReason native.core policyValid candidatePresent ready
        state.failedCount state.missingCount state.unknownCount state.staleCount
    presentCount := state.presentCount
    missingCount := state.missingCount
    failedCount := state.failedCount
    unknownCount := state.unknownCount
    staleCount := state.staleCount
    noncomparableCount := state.noncomparableCount
    ready := ready
    valid := true }

variable {native} {requirements : List (String × NormalizedReadiness)}
  {candidatePresent policyValid : Bool}

theorem readinessReason_ne_invalid (core : CoreLibrary) (policyValid candidatePresent ready : Bool)
    (failedCount missingCount unknownCount staleCount : Nat) :
    Readiness.readinessReason core policyValid candidatePresent ready failedCount missingCount
      unknownCount staleCount ≠ .invalid := by
  unfold Readiness.readinessReason
  split_ifs <;> exact fun h => nomatch h

theorem acceptReadiness_answer (documented : native.core.Documented)
    (envelope : native.ReadinessEnvelope requirements) :
    native.acceptReadiness (Dict.update [] requirements)
        (Readiness.answer native.core
          (Readiness.tally native.core
            ((Dict.update [] requirements).map native.observedRequirement))
          candidatePresent policyValid) =
      .ok (native.envelopeReadiness requirements candidatePresent policyValid) := by
  obtain ⟨bounded, sendable, present, distinct⟩ := envelope
  rw [envelopeReadiness]
  generalize Dict.update [] requirements = ordered at bounded sendable present distinct ⊢
  have valid : (Readiness.tally native.core (ordered.map native.observedRequirement)).valid =
      true := by
    simp [Readiness.tally, observedRequirement]
  have accepted :
      (Readiness.tally native.core
          (ordered.map native.observedRequirement)).requirements.zipIdx.foldlM
        (native.acceptRequirement ordered) [] = .ok (ordered.map native.observedRequirement) := by
    have active := accept_active (List.nil_append ordered).symm sendable present distinct
    have padding := accept_padding (16 - ordered.length) ordered.length le_rfl documented
      (ordered.map native.observedRequirement)
    rw [Readiness.tally, List.zipIdx_append, List.foldlM_append, List.length_map, zero_add]
    rw [List.map_nil, List.length_nil] at active
    rw [active]
    exact padding
  have projected := orderedProjections_observed distinct fun entry hentry => hentry
  have allValid : ¬ ∃ item ∈ ordered.map native.observedRequirement, item.valid = false := by
    rintro ⟨item, hitem, h⟩
    obtain ⟨_, _, rfl⟩ := List.mem_map.mp hitem
    cases h
  rw [Readiness.answer, valid, if_neg (by decide), acceptReadiness]
  simp only [accepted, projected, allValid, distinct, readinessReason_ne_invalid, bind_eq_ok,
    refuseIf_eq_ok, Except.ok.injEq, exists_eq_left', exists_const, ne_eq, not_true_eq_false,
    not_false_eq_true, or_self, true_and, and_true, not_or, not_lt, Bool.true_eq_false]
  simp [Readiness.tally, bounded]

private theorem answer_valid {core : CoreLibrary} {state : Readiness.ReadinessState}
    (h : (Readiness.answer core state candidatePresent policyValid).state.valid ≠ false) :
    state.valid = true := by
  rw [Readiness.answer] at h
  split_ifs at h with hvalid
  · exact absurd rfl h
  · simpa using hvalid

theorem project_sentRequirements (documented : native.core.Documented)
    (bounded : (Dict.update [] requirements).length ≤ 16)
    (sendable : ∀ entry ∈ Dict.update [] requirements, RequirementEnvelope entry)
    (present : ∀ entry ∈ Dict.update [] requirements,
      native.requirementDigest entry.1 ≠ Digest32.zero) :
    Readiness.project native.core
        { requirements :=
            (Dict.update [] requirements).map native.requirementInput ++
              List.replicate
                (16 - ((Dict.update [] requirements).map native.requirementInput).length)
                native.unusedRequirement
          requirementCount := (Dict.update [] requirements).length
          candidatePresent := candidatePresent
          policyValid := policyValid } =
      Readiness.answer native.core
        (Readiness.tally native.core
          ((Dict.update [] requirements).map native.observedRequirement))
        candidatePresent policyValid := by
  have length : (Dict.update [] requirements).length =
      ((Dict.update [] requirements).map native.requirementInput).length := by simp
  have mapped :
      ((Dict.update [] requirements).map native.requirementInput).map
          (Readiness.requirement native.core) =
        (Dict.update [] requirements).map native.observedRequirement := by
    rw [List.map_map]
    exact List.map_congr_left fun entry hentry =>
      requirement_requirementInput documented (sendable entry hentry) (present entry hentry)
  rw [length, Readiness.project_eq native.core documented _ _ (length ▸ bounded), mapped]

/-- A kernel that finds its requirements valid was sent no zero digest. -/
private theorem present_of_valid (documented : native.core.Documented)
    {entries : List (String × NormalizedReadiness)}
    (valid : ((entries.map native.requirementInput).map
      (Readiness.requirement native.core)).all (·.valid) = true) :
    ∀ entry ∈ entries, native.requirementDigest entry.1 ≠ Digest32.zero := by
  intro entry hentry
  have own := List.all_eq_true.mp valid _
    (List.mem_map_of_mem (List.mem_map_of_mem hentry))
  have nonzero := (Bool.and_eq_true_iff.mp own).2
  rw [documented.boolNot_eq, documented.isZero_eq, Bool.not_eq_true',
    decide_eq_false_iff_not] at nonzero
  exact nonzero

/-- The exchange answers exactly for the envelopes that fit. -/
theorem readinessProjection_eq_ok (documented : native.core.Documented)
    {projection : NativeReadinessProjection} :
    native.readinessProjection requirements candidatePresent policyValid = .ok projection ↔
      native.ReadinessEnvelope requirements ∧
        projection = native.envelopeReadiness requirements candidatePresent policyValid := by
  rw [readinessProjection, refuseIf_bind_eq_ok, bind_eq_ok]
  constructor
  · rintro ⟨bounded, values, hvalues, hprojection⟩
    have bounded := not_lt.mp bounded
    obtain ⟨sendable, rfl⟩ := readinessRequirementValues_eq_ok.mp hvalues
    have accepted := hprojection
    have length : (Dict.update [] requirements).length =
        ((Dict.update [] requirements).map native.requirementInput).length := by simp
    rw [length, Readiness.project_eq native.core documented _ _ (length ▸ bounded)] at accepted
    simp only [acceptReadiness, refuseIf_bind_eq_ok, not_or] at accepted
    obtain ⟨_, ⟨hvalid, _, _⟩, hdistinct, _⟩ := accepted
    have present := present_of_valid documented (answer_valid hvalid)
    have envelope : native.ReadinessEnvelope requirements :=
      ⟨bounded, sendable, present, not_not.mp hdistinct⟩
    rw [project_sentRequirements documented bounded sendable present,
      acceptReadiness_answer documented envelope] at hprojection
    exact ⟨envelope, (Except.ok.inj hprojection).symm⟩
  · rintro ⟨envelope, rfl⟩
    refine ⟨not_lt.mpr envelope.bounded, _,
      readinessRequirementValues_eq_ok.mpr ⟨envelope.sendable, rfl⟩, ?_⟩
    rw [project_sentRequirements documented envelope.bounded envelope.sendable envelope.present,
      acceptReadiness_answer documented envelope]

end Exchange

end NativeForgeAdapter

end MncsForge.Native
