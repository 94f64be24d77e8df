import Mathlib
import MncsForge.Lifecycle.Coverage

/-!
# The two readiness paths

The native path folds the observations of a requirement into one freshness and four
flags before it classifies; the plain path keeps lists.  What is ready, present, missing,
failed, unknown or stale comes out the same.  Only the requirements listed as
noncomparable can differ: the fold lets a stale record hide one of unknown freshness,
and it charges a drifted authority to requirements without any record.
-/

namespace MncsForge.Lifecycle

open MncsForge.Foundation MncsForge.Records MncsForge.Native

/-- The same readiness, whatever the order in which its sets are listed. -/
structure SameReadiness (first second : EvidenceReadiness) : Prop where
  required : first.required = second.required
  records : first.records = second.records
  policyIdentity : first.policyIdentity = second.policyIdentity
  policyError : first.policyError = second.policyError
  ready : first.ready = second.ready
  status : first.status = second.status
  present : ∀ requirement, requirement ∈ first.present ↔ requirement ∈ second.present
  missing : ∀ requirement, requirement ∈ first.missing ↔ requirement ∈ second.missing
  unknown : ∀ requirement, requirement ∈ first.unknown ↔ requirement ∈ second.unknown
  failed : ∀ requirement, requirement ∈ first.failed ↔ requirement ∈ second.failed
  stale : ∀ requirement, requirement ∈ first.stale ↔ requirement ∈ second.stale
  noncomparable :
    ∀ requirement, requirement ∈ first.noncomparable ↔ requirement ∈ second.noncomparable

/-! ## The folded freshness -/

theorem foldl_joinFreshness (observed : List String) (start : Native.Lifecycle.Freshness) :
    observed.foldl joinFreshness start =
      if start = .stale ∨ "STALE" ∈ observed then .stale
      else if ∃ text ∈ observed, text ≠ "CURRENT" then .unknown
      else start := by
  induction observed generalizing start with
  | nil => by_cases stale : start = .stale <;> simp [stale]
  | cons text rest ih =>
      rw [List.foldl_cons, ih, joinFreshness]
      by_cases stale : text = "STALE"
      · simp [stale]
      by_cases started : start = .stale
      · simp [stale, started]
      by_cases current : text = "CURRENT"
      · simp [current, started]
      · simp [stale, started, current, Ne.symm stale]

/-- The freshness of a requirement is stale when a record is, and unknown when none is and
one is not current. -/
theorem folded_freshness (observed : List String) :
    (Readiness.freshnessIsStale (observed.foldl joinFreshness .current) = true ↔
      "STALE" ∈ observed) ∧
    (Readiness.freshnessIsUnknown (observed.foldl joinFreshness .current) = true ↔
      "STALE" ∉ observed ∧ ∃ text ∈ observed, text ≠ "CURRENT") := by
  rw [foldl_joinFreshness]
  by_cases stale : "STALE" ∈ observed
  · simp [stale, Readiness.freshnessIsStale, Readiness.freshnessIsUnknown]
  by_cases other : ∃ text ∈ observed, text ≠ "CURRENT"
  · rw [if_neg (by simpa using stale), if_pos other]
    simp only [stale, other, not_false_eq_true, and_self]
    exact ⟨iff_of_false (by decide) id, iff_of_true rfl trivial⟩
  · rw [if_neg (by simpa using stale), if_neg other]
    simp only [stale, other, and_false]
    exact ⟨iff_of_false (by decide) id, iff_of_false (by decide) id⟩

/-! ## A requirement on both paths -/

section Requirement

variable {w : World} {history : History} {native : NativeForgeAdapter} {candidate : ForgeRecord}
  {requirement : String}

/-- Both paths see the same statuses. -/
theorem mem_recordStatuses {status : Status}
    (readable : ∀ record ∈ evidenceOf history candidate requirement,
      (requirementStatus record).isSome) :
    status ∈ recordStatuses (evidenceOf history candidate requirement) ↔
      status.value ∈ (evidenceOf history candidate requirement).map statusText := by
  rw [recordStatuses, List.mem_filterMap, List.mem_map]
  refine exists_congr fun record => and_congr_right fun hrecord => ?_
  obtain ⟨own, hown⟩ := Option.isSome_iff_exists.mp (readable record hrecord)
  rw [hown, statusText_eq (evidenceOf_type hrecord) (requirementStatus_eq_some.mp hown),
    Option.some.injEq, Status.value_injective.eq_iff]

theorem recordStatuses_eq_nil
    (readable : ∀ record ∈ evidenceOf history candidate requirement,
      (requirementStatus record).isSome) :
    recordStatuses (evidenceOf history candidate requirement) = [] ↔
      evidenceOf history candidate requirement = [] := by
  rw [← List.length_eq_zero_iff, recordStatuses_length readable, List.length_eq_zero_iff]

/-- The freshness texts of the records of a requirement. -/
def observedTexts (w : World) (history : History) (candidate : ForgeRecord)
    (requirement : String) : List String :=
  (evidenceOf history candidate requirement).map
    (observedFreshness w (textOf candidate "candidate_id"))

/-- A record that is not comparable, whatever its freshness. -/
def Disqualified (w : World) (requirement : String) (record : ForgeRecord) : Prop :=
  isComparable w record = false ∨ environmentMatches w requirement record = false ∨
    policyMatches w requirement record = false

theorem normalized_freshness :
    (normalizedReadiness w history (some candidate) requirement).freshness =
      (observedTexts w history candidate requirement).foldl joinFreshness .current := by
  rw [observedTexts, List.foldl_map]
  rfl

theorem normalized_stale :
    Readiness.freshnessIsStale
        (normalizedReadiness w history (some candidate) requirement).freshness = true ↔
      (evidenceOf history candidate requirement).any (fun record =>
        decide (observedFreshness w (textOf candidate "candidate_id") record = "STALE")) =
          true := by
  rw [normalized_freshness, (folded_freshness _).1, observedTexts, List.mem_map,
    List.any_eq_true]
  simp only [decide_eq_true_eq]

/-- What the native path calls noncomparable. -/
theorem expectedNoncomparable_iff :
    expectedNoncomparable (normalizedReadiness w history (some candidate) requirement) = true ↔
      ("STALE" ∉ observedTexts w history candidate requirement ∧
          ∃ text ∈ observedTexts w history candidate requirement, text ≠ "CURRENT") ∨
        (∃ record ∈ evidenceOf history candidate requirement,
          Disqualified w requirement record) ∨
        authorityMatches w history (some candidate) = false := by
  have comparable : (normalizedReadiness w history (some candidate) requirement).comparable =
      (evidenceOf history candidate requirement).all (isComparable w) := rfl
  have environment :
      (normalizedReadiness w history (some candidate) requirement).environmentMatch =
        (evidenceOf history candidate requirement).all (environmentMatches w requirement) := rfl
  have policy : (normalizedReadiness w history (some candidate) requirement).policyMatch =
      (evidenceOf history candidate requirement).all (policyMatches w requirement) := rfl
  have authority : (normalizedReadiness w history (some candidate) requirement).authorityMatch =
      authorityMatches w history (some candidate) := rfl
  simp only [expectedNoncomparable, Bool.or_eq_true, normalized_freshness,
    (folded_freshness _).2, comparable, environment, policy, authority, Bool.not_eq_true',
    List.all_eq_false, Bool.not_eq_true, Disqualified]
  constructor
  · rintro ((((h | ⟨record, hrecord, h⟩) | ⟨record, hrecord, h⟩) | ⟨record, hrecord, h⟩) | h)
    · exact Or.inl h
    · exact Or.inr (Or.inl ⟨record, hrecord, Or.inl h⟩)
    · exact Or.inr (Or.inl ⟨record, hrecord, Or.inr (Or.inl h)⟩)
    · exact Or.inr (Or.inl ⟨record, hrecord, Or.inr (Or.inr h)⟩)
    · exact Or.inr (Or.inr h)
  · rintro (h | ⟨record, hrecord, h | h | h⟩ | h)
    · exact Or.inl (Or.inl (Or.inl (Or.inl h)))
    · exact Or.inl (Or.inl (Or.inl (Or.inr ⟨record, hrecord, h⟩)))
    · exact Or.inl (Or.inl (Or.inr ⟨record, hrecord, h⟩))
    · exact Or.inl (Or.inr ⟨record, hrecord, h⟩)
    · exact Or.inr h

/-- What the plain path marks as noncomparable in a requirement. -/
theorem any_marksNoncomparable_iff :
    (evidenceOf history candidate requirement).any
        (marksNoncomparable w (textOf candidate "candidate_id") requirement) = true ↔
      (∃ text ∈ observedTexts w history candidate requirement,
          text ≠ "STALE" ∧ text ≠ "CURRENT") ∨
        ∃ record ∈ evidenceOf history candidate requirement,
          Disqualified w requirement record := by
  simp only [List.any_eq_true, marksNoncomparable, observedTexts, List.mem_map, Bool.or_eq_true,
    Bool.and_eq_true, decide_eq_true_eq, Bool.not_eq_true', Disqualified]
  constructor
  · rintro ⟨record, hrecord, ((h | h) | h) | h⟩
    · exact Or.inl ⟨_, ⟨record, hrecord, rfl⟩, h⟩
    · exact Or.inr ⟨record, hrecord, Or.inl h⟩
    · exact Or.inr ⟨record, hrecord, Or.inr (Or.inl h)⟩
    · exact Or.inr ⟨record, hrecord, Or.inr (Or.inr h)⟩
  · rintro (⟨_, ⟨record, hrecord, rfl⟩, h⟩ | ⟨record, hrecord, h | h | h⟩)
    · exact ⟨record, hrecord, Or.inl (Or.inl (Or.inl h))⟩
    · exact ⟨record, hrecord, Or.inl (Or.inl (Or.inr h))⟩
    · exact ⟨record, hrecord, Or.inl (Or.inr h)⟩
    · exact ⟨record, hrecord, Or.inr h⟩

/-- Nothing in a requirement is hidden by a stale record or charged without a record. -/
structure Undistorted (w : World) (history : History) (candidate : ForgeRecord)
    (requirement : String) : Prop where
  charged : evidenceOf history candidate requirement = [] →
    authorityMatches w history (some candidate) = true
  shown : "STALE" ∈ observedTexts w history candidate requirement →
    (∃ text ∈ observedTexts w history candidate requirement,
      text ≠ "STALE" ∧ text ≠ "CURRENT") →
    authorityMatches w history (some candidate) = false ∨
      ∃ record ∈ evidenceOf history candidate requirement, Disqualified w requirement record

/-- The two ways to mark a requirement, without their records: a stale record hides the
others, and a drifted authority counts only beside a record. -/
private theorem marks_agree_iff {stale unsettled marked disqualified drifted empty : Prop}
    (fresh : ¬ stale → (unsettled ↔ marked))
    (nothing : empty → ¬ stale ∧ ¬ marked ∧ ¬ disqualified) :
    ((¬ stale ∧ unsettled ∨ disqualified ∨ drifted) ↔
        ((marked ∨ disqualified) ∨ drifted ∧ ¬ empty)) ↔
      (empty → ¬ drifted) ∧ (stale → marked → drifted ∨ disqualified) := by
  by_cases hempty : empty
  · obtain ⟨hstale, hmarked, hdisqualified⟩ := nothing hempty
    have hunsettled : ¬ unsettled := fun h => hmarked ((fresh hstale).mp h)
    simp [hempty, hstale, hmarked, hdisqualified, hunsettled]
  by_cases hstale : stale
  · simp only [hempty, hstale]
    tauto
  · simp only [hempty, hstale, fresh hstale]
    tauto

theorem undistorted_iff :
    (expectedNoncomparable (normalizedReadiness w history (some candidate) requirement) = true ↔
        (evidenceOf history candidate requirement).any
            (marksNoncomparable w (textOf candidate "candidate_id") requirement) = true ∨
          authorityMatches w history (some candidate) = false ∧
            evidenceOf history candidate requirement ≠ []) ↔
      Undistorted w history candidate requirement := by
  rw [expectedNoncomparable_iff, any_marksNoncomparable_iff]
  refine (marks_agree_iff ?_ ?_).trans
    ⟨fun h => ⟨fun empty => Bool.not_eq_false _ ▸ h.1 empty, h.2⟩,
      fun h => ⟨fun empty => (Bool.not_eq_false _).mpr (h.charged empty), h.shown⟩⟩
  · intro fresh
    refine exists_congr fun text => and_congr_right fun htext => ?_
    exact ⟨fun h => ⟨fun stale => fresh (stale ▸ htext), h⟩, And.right⟩
  · intro empty
    rw [observedTexts, empty]
    simp

section Observed

variable (readable : ∀ record ∈ evidenceOf history candidate requirement,
  (requirementStatus record).isSome)

include readable

theorem observed_missing :
    (observedOf w history native (some candidate) requirement).classification = .missing ↔
      evidenceOf history candidate requirement = [] :=
  Readiness.classOf_missing.trans (recordStatuses_eq_nil readable)

theorem observed_failed :
    (observedOf w history native (some candidate) requirement).classification = .failed ↔
      "FAIL" ∈ (evidenceOf history candidate requirement).map statusText :=
  Readiness.classOf_failed.trans (mem_recordStatuses readable)

theorem observed_unknown :
    (observedOf w history native (some candidate) requirement).classification = .unknown ↔
      "FAIL" ∉ (evidenceOf history candidate requirement).map statusText ∧
        "UNKNOWN" ∈ (evidenceOf history candidate requirement).map statusText :=
  Readiness.classOf_unknown.trans
    (and_congr (not_congr (mem_recordStatuses readable)) (mem_recordStatuses readable))

theorem observed_present :
    0 < (observedOf w history native (some candidate) requirement).observedCount ↔
      evidenceOf history candidate requirement ≠ [] :=
  List.length_pos_iff.trans (not_congr (recordStatuses_eq_nil readable))

end Observed

theorem observed_stale :
    ((observedOf w history native (some candidate) requirement).classification = .stale ∨
        (observedOf w history native (some candidate) requirement).stale = true) ↔
      (observedOf w history native (some candidate) requirement).stale = true :=
  or_iff_right_of_imp Readiness.classOf_flagged.1

theorem observed_noncomparable :
    ((observedOf w history native (some candidate) requirement).classification = .nonComparable ∨
        (observedOf w history native (some candidate) requirement).noncomparable = true) ↔
      (observedOf w history native (some candidate) requirement).noncomparable = true :=
  or_iff_right_of_imp Readiness.classOf_flagged.2

/-- What the plain path lists as noncomparable. -/
def PlainNoncomparable (w : World) (history : History) (candidate : ForgeRecord)
    (requirement : String) : Prop :=
  (evidenceOf history candidate requirement).any
      (marksNoncomparable w (textOf candidate "candidate_id") requirement) = true ∨
    authorityMatches w history (some candidate) = false ∧
      evidenceOf history candidate requirement ≠ []

theorem observed_noncomparable_iff (undistorted : Undistorted w history candidate requirement) :
    (observedOf w history native (some candidate) requirement).noncomparable = true ↔
      PlainNoncomparable w history candidate requirement :=
  undistorted_iff.mpr undistorted

theorem mem_plain_noncomparable {requirements : List String} {policyError : Option String} :
    requirement ∈ (compatReadiness w history requirements policyError candidate).noncomparable ↔
      requirement ∈ requirements ∧ PlainNoncomparable w history candidate requirement := by
  simp only [compatReadiness, Dict.mem_sortedSet, List.mem_append, List.mem_filter,
    PlainNoncomparable, evidenceOf]
  cases authorityMatches w history (some candidate) <;>
    simp [List.mem_filter, and_or_left]

/-- The plain path finds a candidate ready when nothing is listed. -/
theorem compatReadiness_ready {requirements : List String} {policyError : Option String}
    (unnamed : policyError ≠ some "") :
    (compatReadiness w history requirements policyError candidate).ready = true ↔
      policyError = none ∧ ∀ requirement ∈ requirements,
        "FAIL" ∉ (evidenceOf history candidate requirement).map statusText ∧
        evidenceOf history candidate requirement ≠ [] ∧
        ¬ ("FAIL" ∉ (evidenceOf history candidate requirement).map statusText ∧
            "UNKNOWN" ∈ (evidenceOf history candidate requirement).map statusText) ∧
        ¬ ((evidenceOf history candidate requirement).any (fun record =>
            decide (observedFreshness w (textOf candidate "candidate_id") record = "STALE")) =
              true) ∧
        ¬ PlainNoncomparable w history candidate requirement := by
  have comparable :
      (compatReadiness w history requirements policyError candidate).noncomparable = [] ↔
        ∀ requirement ∈ requirements, ¬ PlainNoncomparable w history candidate requirement := by
    simp only [List.eq_nil_iff_forall_not_mem, mem_plain_noncomparable, not_and]
  have ready : (compatReadiness w history requirements policyError candidate).ready = true ↔
      policyError = none ∧
        (compatReadiness w history requirements policyError candidate).missing = [] ∧
        (compatReadiness w history requirements policyError candidate).unknown = [] ∧
        (compatReadiness w history requirements policyError candidate).failed = [] ∧
        (compatReadiness w history requirements policyError candidate).stale = [] ∧
        (compatReadiness w history requirements policyError candidate).noncomparable = [] := by
    rw [compatReadiness]
    simp only [Bool.and_eq_true, Bool.or_eq_true, decide_eq_true_eq, unnamed, or_false, and_assoc]
  rw [ready, comparable]
  simp only [compatReadiness, Dict.sortedSet_eq_nil, List.filter_eq_nil_iff, decide_eq_true_eq,
    evidenceOf]
  constructor
  · rintro ⟨policy, missing, unknown, failed, stale, noncomparable⟩
    exact ⟨policy, fun requirement h => ⟨failed requirement h, missing requirement h,
      unknown requirement h, stale requirement h, noncomparable requirement h⟩⟩
  · rintro ⟨policy, all⟩
    exact ⟨policy, fun requirement h => (all requirement h).2.1,
      fun requirement h => (all requirement h).2.2.1, fun requirement h => (all requirement h).1,
      fun requirement h => (all requirement h).2.2.2.1,
      fun requirement h => (all requirement h).2.2.2.2⟩

end Requirement

/-! ## The two readinesses -/

section Paths

variable (w : World) (history : History) (native : NativeForgeAdapter)

/-- The request keeps to the bounds of the kernel. -/
structure FitsKernel (candidate : Option ForgeRecord) (requirements : List String) : Prop where
  bounded : requirements.length ≤ 16
  records : ∀ requirement ∈ requirements,
    (normalizedReadiness w history candidate requirement).records.length ≤ 8
  readable : ∀ requirement ∈ requirements,
    ∀ record ∈ (normalizedReadiness w history candidate requirement).records,
      (requirementStatus record).isSome
  present : ∀ requirement ∈ requirements, native.requirementDigest requirement ≠ Digest32.zero
  distinct : (requirements.map native.requirementDigest).Nodup

variable {w history native} {candidate : Option ForgeRecord}

theorem envelope_iff {requirements : List String} (distinct : requirements.Nodup)
    (fits : FitsKernel w history native candidate requirements) :
    native.ReadinessEnvelope (normalizedRequirements w history candidate requirements) ↔
      ∀ requirement ∈ requirements, requirement ≠ "" := by
  have perm := ordered_perm w history candidate distinct
  constructor
  · intro envelope requirement hrequirement
    exact (envelope.sendable _ (perm.mem_iff.mpr (List.mem_map_of_mem hrequirement))).named
  · intro named
    constructor
    case bounded =>
      rw [perm.length_eq, normalizedRequirements, List.length_map]
      exact fits.bounded
    case sendable =>
      intro entry hentry
      obtain ⟨requirement, h, rfl⟩ := List.mem_map.mp (perm.mem_iff.mp hentry)
      exact ⟨named _ h, fits.records _ h, fits.readable _ h⟩
    case present =>
      intro entry hentry
      obtain ⟨requirement, h, rfl⟩ := List.mem_map.mp (perm.mem_iff.mp hentry)
      exact fits.present _ h
    case distinct =>
      refine (perm.map _).nodup_iff.mpr ?_
      rw [normalizedRequirements, List.map_map]
      exact fits.distinct

/-- Without a candidate both paths find every requirement missing. -/
theorem same_of_none (required : Option (List String)) :
    SameReadiness (exchangedReadiness w history native none required)
      (compatEvidenceReadiness w history none required) := by
  have missing : ∀ requirement,
      (observedOf w history native none requirement).classification = .missing :=
    fun _ => rfl
  have flags : ∀ requirement,
      (observedOf w history native none requirement).stale = false ∧
        (observedOf w history native none requirement).noncomparable = false ∧
        (observedOf w history native none requirement).observedCount = 0 :=
    fun _ => ⟨rfl, rfl, rfl⟩
  constructor
  all_goals
    simp [exchangedReadiness, compatEvidenceReadiness, observedWhere, nativeReady, missing, flags]

section Candidate

variable {c : ForgeRecord} {required : Option (List String)}

theorem mem_observedWhere {requirements : List String} {requirement : String}
    {p : Readiness.RequirementProjection → Bool} :
    requirement ∈ observedWhere w history native candidate requirements p ↔
      requirement ∈ requirements ∧
        p (observedOf w history native candidate requirement) = true := by
  rw [observedWhere, Dict.mem_sortedSet, List.mem_filter]

/-- The native path finds a candidate ready under the same words as the plain one. -/
theorem exchanged_ready
    (readable : ∀ requirement ∈ (readinessSubject w required).1,
      ∀ record ∈ evidenceOf history c requirement, (requirementStatus record).isSome)
    (unnamed : (readinessSubject w required).2 ≠ some "")
    (undistorted : ∀ requirement ∈ (readinessSubject w required).1,
      Undistorted w history c requirement) :
    nativeReady w history native (some c) (readinessSubject w required).1
        (readinessSubject w required).2 =
      (compatReadiness w history (readinessSubject w required).1
        (readinessSubject w required).2 c).ready := by
  rw [Bool.eq_iff_iff, compatReadiness_ready unnamed]
  simp only [nativeReady, Option.isSome_some, Bool.true_and, Bool.and_eq_true,
    Option.isNone_iff_eq_none, List.all_eq_true]
  refine and_congr_right fun _ => forall₂_congr fun requirement h => ?_
  simp only [decide_eq_true_eq, ne_eq, Bool.not_eq_true', ← Bool.not_eq_true, and_assoc,
    observed_failed (readable requirement h), observed_missing (readable requirement h),
    observed_unknown (readable requirement h),
    observed_noncomparable_iff (undistorted requirement h)]
  rw [← normalized_stale]
  rfl

/-- With a candidate the readinesses are the same exactly when no requirement is distorted. -/
theorem same_of_some
    (readable : ∀ requirement ∈ (readinessSubject w required).1,
      ∀ record ∈ evidenceOf history c requirement, (requirementStatus record).isSome)
    (unnamed : (readinessSubject w required).2 ≠ some "") :
    SameReadiness (exchangedReadiness w history native (some c) required)
        (compatEvidenceReadiness w history (some c) required) ↔
      ∀ requirement ∈ (readinessSubject w required).1, Undistorted w history c requirement := by
  have listed : ∀ requirement,
      requirement ∈ (exchangedReadiness w history native (some c) required).noncomparable ↔
        requirement ∈ (readinessSubject w required).1 ∧
          (observedOf w history native (some c) requirement).noncomparable = true := by
    intro requirement
    simp only [exchangedReadiness, mem_observedWhere, Bool.or_eq_true, decide_eq_true_eq,
      observed_noncomparable]
  constructor
  · intro same requirement h
    refine undistorted_iff.mp ?_
    have at_requirement := same.noncomparable requirement
    rw [listed, compatEvidenceReadiness, mem_plain_noncomparable] at at_requirement
    exact ⟨fun flagged => (at_requirement.mp ⟨h, flagged⟩).2,
      fun marked => (at_requirement.mpr ⟨h, marked⟩).2⟩
  · intro undistorted
    have ready : nativeReady w history native (some c) (readinessSubject w required).1
        (readinessSubject w required).2 =
          (compatReadiness w history (readinessSubject w required).1
            (readinessSubject w required).2 c).ready :=
      exchanged_ready readable unnamed undistorted
    constructor
    case required => rfl
    case records => simp [exchangedReadiness, compatEvidenceReadiness, compatReadiness,
      normalizedRequirements, normalizedReadiness]
    case policyIdentity => rfl
    case policyError => rfl
    case ready => exact ready
    case status =>
      have words : (exchangedReadiness w history native (some c) required).status =
          if nativeReady w history native (some c) (readinessSubject w required).1
              (readinessSubject w required).2 then .pass
          else if (readinessSubject w required).1.any fun requirement =>
              decide ((observedOf w history native (some c) requirement).classification =
                .failed) then .fail
          else .unknown := rfl
      have plain : (compatEvidenceReadiness w history (some c) required).status =
          if (compatReadiness w history (readinessSubject w required).1
              (readinessSubject w required).2 c).failed ≠ [] then .fail
          else if (compatReadiness w history (readinessSubject w required).1
              (readinessSubject w required).2 c).ready then .pass
          else .unknown := rfl
      have failed : ((readinessSubject w required).1.any fun requirement =>
          decide ((observedOf w history native (some c) requirement).classification = .failed)) =
            true ↔
          (compatReadiness w history (readinessSubject w required).1
            (readinessSubject w required).2 c).failed ≠ [] := by
        simp only [compatReadiness, ne_eq, Dict.sortedSet_eq_nil, List.filter_eq_nil_iff,
          List.any_eq_true, decide_eq_true_eq, not_forall, not_not, exists_prop]
        exact exists_congr fun requirement => and_congr_right fun h =>
          observed_failed (readable requirement h)
      rw [words, plain, ready]
      by_cases pass : (compatReadiness w history (readinessSubject w required).1
          (readinessSubject w required).2 c).ready = true
      · have none : (compatReadiness w history (readinessSubject w required).1
            (readinessSubject w required).2 c).failed = [] := by
          rw [compatReadiness, Dict.sortedSet_eq_nil, List.filter_eq_nil_iff]
          intro requirement h
          rw [decide_eq_true_eq]
          exact (((compatReadiness_ready unnamed).mp pass).2 requirement h).1
        rw [if_pos pass, if_neg (not_not.mpr none), if_pos pass]
      · rw [if_neg pass, if_neg pass]
        exact if_congr failed rfl rfl
    case present =>
      intro requirement
      simp only [exchangedReadiness, compatEvidenceReadiness, compatReadiness, mem_observedWhere,
        Dict.mem_sortedSet, List.mem_filter, decide_eq_true_eq]
      exact and_congr_right fun h => observed_present (readable requirement h)
    case missing =>
      intro requirement
      simp only [exchangedReadiness, compatEvidenceReadiness, compatReadiness, mem_observedWhere,
        Dict.mem_sortedSet, List.mem_filter, decide_eq_true_eq]
      exact and_congr_right fun h => observed_missing (readable requirement h)
    case unknown =>
      intro requirement
      simp only [exchangedReadiness, compatEvidenceReadiness, compatReadiness, mem_observedWhere,
        Dict.mem_sortedSet, List.mem_filter, decide_eq_true_eq]
      exact and_congr_right fun h => observed_unknown (readable requirement h)
    case failed =>
      intro requirement
      simp only [exchangedReadiness, compatEvidenceReadiness, compatReadiness, mem_observedWhere,
        Dict.mem_sortedSet, List.mem_filter, decide_eq_true_eq]
      exact and_congr_right fun h => observed_failed (readable requirement h)
    case stale =>
      intro requirement
      simp only [exchangedReadiness, compatEvidenceReadiness, compatReadiness, mem_observedWhere,
        Dict.mem_sortedSet, List.mem_filter, decide_eq_true_eq, Bool.or_eq_true, observed_stale]
      exact and_congr_right fun _ => normalized_stale
    case noncomparable =>
      intro requirement
      rw [listed, compatEvidenceReadiness, mem_plain_noncomparable]
      exact and_congr_right fun h => observed_noncomparable_iff (undistorted requirement h)

/-- The native path answers as the plain one. -/
def PathsAgree (w : World) (history : History) (native : NativeForgeAdapter)
    (candidate : Option ForgeRecord) (required : Option (List String)) : Prop :=
  ∃ evidence, nativeEvidenceReadiness w history native candidate required = .ok evidence ∧
    SameReadiness evidence (compatEvidenceReadiness w history candidate required)

/-- Within the bounds of the kernel the two paths agree exactly when every requirement has a
name and none is distorted. -/
theorem readiness_paths_agree_iff (documented : native.core.Documented)
    (fits : FitsKernel w history native candidate (readinessSubject w required).1)
    (unnamed : w.selectionPolicyError ≠ some "") :
    PathsAgree w history native candidate required ↔
      (∀ requirement ∈ (readinessSubject w required).1, requirement ≠ "") ∧
        ∀ c, candidate = some c →
          ∀ requirement ∈ (readinessSubject w required).1,
            Undistorted w history c requirement := by
  have envelope := envelope_iff (readinessSubject_nodup w required) fits
  have policy : (readinessSubject w required).2 ≠ some "" := by
    cases required with
    | none => exact unnamed
    | some required => exact fun h => nomatch h
  have same : SameReadiness (exchangedReadiness w history native candidate required)
      (compatEvidenceReadiness w history candidate required) ↔
        ∀ c, candidate = some c →
          ∀ requirement ∈ (readinessSubject w required).1,
            Undistorted w history c requirement := by
    cases candidate with
    | none => exact iff_of_true (same_of_none required) fun c h => nomatch h
    | some c =>
        refine (same_of_some fits.readable policy).trans ⟨?_, fun h => h c rfl⟩
        rintro undistorted _ ⟨⟩
        exact undistorted
  rw [← envelope, ← same]
  constructor
  · rintro ⟨_, accepted, agree⟩
    obtain ⟨sent, rfl⟩ := (nativeEvidenceReadiness_eq_ok documented).mp accepted
    exact ⟨sent, agree⟩
  · rintro ⟨sent, agree⟩
    exact ⟨_, (nativeEvidenceReadiness_eq_ok documented).mpr ⟨sent, rfl⟩, agree⟩

end Candidate

end Paths

/-! ## A drifted authority -/

theorem readiness_paths_agree_iff_sample :
    PathsAgree (sampleWorld .development (some sampleNative))
        [sampleEpoch, sampleCandidate, sampleResult] sampleNative (some sampleCandidate) none ↔
      (∀ requirement ∈
          (readinessSubject (sampleWorld .development (some sampleNative)) none).1,
        requirement ≠ "") ∧
        ∀ c, some sampleCandidate = some c →
          ∀ requirement ∈
              (readinessSubject (sampleWorld .development (some sampleNative)) none).1,
            Undistorted (sampleWorld .development (some sampleNative))
              [sampleEpoch, sampleCandidate, sampleResult] c requirement :=
  readiness_paths_agree_iff referenceCore_documented
    ⟨by decide +kernel, by decide +kernel, by decide +kernel, by decide +kernel,
      by decide +kernel⟩ (fun h => nomatch h)

/-- A world whose authority is no longer that of the sample epoch. -/
def driftedWorld : World :=
  { sampleWorld .development (some sampleNative) with
    currentAuthorityIdentities := [("policies/authority.json", "authority:2")] }

/-- The native path charges a drifted authority to a requirement without a record. -/
theorem native_readiness_charges_missing :
    FitsKernel driftedWorld [sampleEpoch, sampleCandidate] sampleNative (some sampleCandidate)
        (readinessSubject driftedWorld none).1 ∧
      (∃ evidence, nativeEvidenceReadiness driftedWorld [sampleEpoch, sampleCandidate]
          sampleNative (some sampleCandidate) none = .ok evidence ∧
        evidence.missing = ["check"] ∧ evidence.noncomparable = ["check"]) ∧
      (compatEvidenceReadiness driftedWorld [sampleEpoch, sampleCandidate]
          (some sampleCandidate) none).missing = ["check"] ∧
      (compatEvidenceReadiness driftedWorld [sampleEpoch, sampleCandidate]
          (some sampleCandidate) none).noncomparable = [] ∧
      ¬ PathsAgree driftedWorld [sampleEpoch, sampleCandidate] sampleNative
        (some sampleCandidate) none := by
  have plain : (compatEvidenceReadiness driftedWorld [sampleEpoch, sampleCandidate]
      (some sampleCandidate) none).noncomparable = [] := by
    decide +kernel
  obtain ⟨evidence, accepted, fields⟩ := bind_eq_ok.mp
    (show (do
      let evidence ← nativeEvidenceReadiness driftedWorld [sampleEpoch, sampleCandidate]
        sampleNative (some sampleCandidate) none
      .ok (evidence.missing, evidence.noncomparable)) = .ok (["check"], ["check"]) by
        decide +kernel)
  obtain ⟨missing, noncomparable⟩ := Prod.mk.inj (Except.ok.inj fields)
  refine ⟨⟨by decide +kernel, by decide +kernel, by decide +kernel, by decide +kernel,
    by decide +kernel⟩, ⟨evidence, accepted, missing, noncomparable⟩, by decide +kernel,
    plain, ?_⟩
  rintro ⟨other, acceptedOther, same⟩
  obtain rfl : evidence = other := Except.ok.inj (accepted.symm.trans acceptedOther)
  have charged := same.noncomparable "check"
  rw [noncomparable, plain] at charged
  exact List.not_mem_nil (charged.mp List.mem_cons_self)

end MncsForge.Lifecycle
