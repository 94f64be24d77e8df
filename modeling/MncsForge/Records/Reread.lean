import Mathlib
import MncsForge.Foundation.Digest
import MncsForge.Records.Migration

/-!
# Reading a migrated record back

A migrated record is stored as JSON and read again under the declared legacy
version.  The second reading has to undo what the first one did: the default
`subject_type`, and the fields moved below `extensions`.
-/

namespace MncsForge.Records

open MncsForge.Foundation

/-! ## Acceptable objects -/

/-- What `_as_json_value` asks of an object. -/
def Acceptable (fields : Dict String Json) : Prop :=
  (Json.obj fields).WellFormed ∧ (Json.obj fields).height ≤ 64

theorem acceptable_iff {fields : Dict String Json} :
    Acceptable fields ↔ Dict.Ordered fields ∧
      ∀ key value, Dict.get? fields key = some value →
        value.WellFormed ∧ value.height ≤ 63 := by
  rw [Acceptable, Json.wellFormed_obj_iff_get?, and_assoc]
  refine and_congr_right fun ordered => ?_
  rw [Json.height_obj_le_iff ordered]
  constructor
  · exact fun h key value hget =>
      ⟨h.1 key value hget, by have := h.2 key value hget; omega⟩
  · exact fun h => ⟨fun key value hget => (h key value hget).1,
      fun key value hget => by have := (h key value hget).2; omega⟩

theorem jsonObject_eq_ok {raw data : Dict String Json} {label : String}
    (keyed : (Json.obj raw).Keyed) :
    jsonObject (.obj raw) label = .ok data ↔ data = raw ∧ Acceptable raw := by
  simp only [jsonObject, bind_eq_ok, asJsonValue_eq_ok _ keyed, Nat.zero_add]
  constructor
  · rintro ⟨_, ⟨rfl, accepted⟩, h⟩
    exact ⟨(Except.ok.inj h).symm, accepted⟩
  · rintro ⟨rfl, accepted⟩
    exact ⟨_, ⟨rfl, accepted⟩, rfl⟩

namespace Acceptable

variable {fields : Dict String Json}

theorem ordered (h : Acceptable fields) : Dict.Ordered fields :=
  (acceptable_iff.mp h).1

theorem set (h : Acceptable fields) {value : Json} (hwell : value.WellFormed)
    (hheight : value.height ≤ 63) (key : String) :
    Acceptable (Dict.set fields key value) := by
  refine acceptable_iff.mpr ⟨h.ordered.set key value, fun k v hget => ?_⟩
  rw [Dict.get?_set] at hget
  split_ifs at hget
  · obtain rfl := Option.some.inj hget
    exact ⟨hwell, hheight⟩
  · exact (acceptable_iff.mp h).2 k v hget

theorem filter (h : Acceptable fields) (p : String → Bool) :
    Acceptable (fields.filter fun entry => p entry.1) := by
  refine acceptable_iff.mpr ⟨h.ordered.filter _, fun k v hget => ?_⟩
  rw [Dict.get?_filter_key] at hget
  split_ifs at hget
  exact (acceptable_iff.mp h).2 k v hget

theorem erase (h : Acceptable fields) (key : String) : Acceptable (Dict.erase fields key) := by
  refine acceptable_iff.mpr ⟨h.ordered.erase key, fun k v hget => ?_⟩
  rw [Dict.get?_erase] at hget
  split_ifs at hget
  exact (acceptable_iff.mp h).2 k v hget

theorem update (h : Acceptable fields) {more : Dict String Json} (hmore : Acceptable more) :
    Acceptable (Dict.update fields more) := by
  refine acceptable_iff.mpr ⟨h.ordered.update more, fun k v hget => ?_⟩
  rw [Dict.get?_update hmore.ordered] at hget
  rcases hfound : Dict.get? more k with _ | found
  · rw [hfound, Option.none_or] at hget
    exact (acceptable_iff.mp h).2 k v hget
  · rw [hfound, Option.some_or] at hget
    obtain rfl := Option.some.inj hget
    exact (acceptable_iff.mp hmore).2 k _ hfound

/-- An object held by an acceptable one is acceptable. -/
theorem nested (h : Acceptable fields) {key : String} {inner : Dict String Json}
    (hget : Dict.get? fields key = some (.obj inner)) : Acceptable inner := by
  obtain ⟨hwell, hheight⟩ := (acceptable_iff.mp h).2 key _ hget
  exact ⟨hwell, by omega⟩

end Acceptable

/-! ## Facts about the schemas -/

theorem identity_fields_paired (recordType : RecordType) :
    ((recordSpecs recordType).identityField = none ∧
        (recordSpecs recordType).identityPrefix = none) ∨
      ∃ name label, (recordSpecs recordType).identityField = some name ∧
        (recordSpecs recordType).identityPrefix = some label := by
  cases recordType <;> simp [recordSpecs]

theorem extensions_allowed (recordType : RecordType) :
    "extensions" ∈ (recordSpecs recordType).allowed := by
  cases recordType <;> decide

theorem extensions_not_excluded (recordType : RecordType) :
    (recordSpecs recordType).excludes "extensions" = false := by
  cases recordType <;> decide

private theorem exclusions_required (recordType : RecordType) :
    ∀ name ∈ (recordSpecs recordType).identityExclusions,
      name ∈ (recordSpecs recordType).required := by
  cases recordType <;> decide

theorem identityField_required (recordType : RecordType) :
    ∀ name ∈ (recordSpecs recordType).identityField,
      name ∈ (recordSpecs recordType).required ∧ name ≠ "extensions" ∧
        name ≠ "subject_type" := by
  cases recordType <;> decide

theorem excluded_allowed {recordType : RecordType} {name : String}
    (h : (recordSpecs recordType).excludes name = true) :
    name ∈ (recordSpecs recordType).allowed := by
  simp only [RecordSpec.excludes, Bool.or_eq_true, decide_eq_true_eq] at h
  refine List.mem_append_left _ ?_
  rcases h with h | h
  · exact (identityField_required recordType name h).1
  · exact exclusions_required recordType name h

theorem subjectType_allowed {recordType : RecordType}
    (h : recordType ∈ legacyCandidateSubjectRecords) :
    "subject_type" ∈ (recordSpecs recordType).allowed := by
  cases recordType <;> first | decide | simp [legacyCandidateSubjectRecords] at h

/-! ## The identity check -/

abbrev candidateSubject (recordType : RecordType) (fields : Dict String Json) : Prop :=
  recordType ∈ legacyCandidateSubjectRecords ∧ field fields "subject_type" = .str "candidate"

/-- The field sets whose digest may be the historical identity: the record, and
the record before it was given a default subject. -/
def identityForms (recordType : RecordType) (fields : Dict String Json) :
    List (Dict String Json) :=
  if candidateSubject recordType fields then [fields, Dict.erase fields "subject_type"]
  else [fields]

theorem legacyIdentityMatches_eq_ok {hashing : Hashing} {recordType : RecordType}
    {name label : String} (hname : (recordSpecs recordType).identityField = some name)
    (hlabel : (recordSpecs recordType).identityPrefix = some label)
    {restore : Bool} {fields : Dict String Json} :
    legacyIdentityMatches hashing recordType restore fields = .ok true ↔
      ∃ form ∈ identityForms recordType fields, field fields name =
        .str (label ++ localJsonDigest hashing
          (.obj (legacyProjection (recordSpecs recordType) restore form))) := by
  have identity : ∀ form, legacyIdentity hashing recordType restore form =
      .ok (label ++ localJsonDigest hashing
        (.obj (legacyProjection (recordSpecs recordType) restore form))) := by
    intro form
    simp only [legacyIdentity, hname, hlabel]
  simp only [legacyIdentityMatches, hname, identity, identityForms, candidateSubject]
  by_cases hmatch : field fields name = .str (label ++ localJsonDigest hashing
      (.obj (legacyProjection (recordSpecs recordType) restore fields)))
  · simp only [bind, Except.bind, if_pos hmatch, true_iff]
    refine ⟨fields, ?_, hmatch⟩
    split_ifs <;> simp
  · by_cases hsubject : recordType ∈ legacyCandidateSubjectRecords ∧
        field fields "subject_type" = .str "candidate"
    · simp [bind, Except.bind, hmatch, hsubject]
    · simp [bind, Except.bind, hmatch, hsubject]

theorem legacyIdentityMatches_of_none {hashing : Hashing} {recordType : RecordType}
    (hname : (recordSpecs recordType).identityField = none)
    {restore : Bool} {fields : Dict String Json} :
    legacyIdentityMatches hashing recordType restore fields = .ok true := by
  simp only [legacyIdentityMatches, hname]

/-! ## Lookups in projections -/

theorem get?_withoutExcluded {spec : RecordSpec} {fields : Dict String Json} {key : String} :
    Dict.get? (withoutExcluded spec fields) key =
      if spec.excludes key then none else Dict.get? fields key := by
  have := Dict.get?_filter_key fields (fun name => !spec.excludes name) key
  rw [withoutExcluded, this]
  cases spec.excludes key <;> rfl

theorem get?_unknownFields {spec : RecordSpec} {fields : Dict String Json} {key : String} :
    Dict.get? (unknownFields spec fields) key =
      if key ∈ spec.allowed then none else Dict.get? fields key := by
  have := Dict.get?_filter_key fields (fun name => decide (name ∉ spec.allowed)) key
  rw [unknownFields, this]
  by_cases h : key ∈ spec.allowed <;> simp [h]

theorem get?_knownFields {spec : RecordSpec} {fields : Dict String Json} {key : String} :
    Dict.get? (knownFields spec fields) key =
      if key ∈ spec.allowed then Dict.get? fields key else none := by
  have := Dict.get?_filter_key fields (fun name => decide (name ∈ spec.allowed)) key
  rw [knownFields, this]
  by_cases h : key ∈ spec.allowed <;> simp [h]

theorem Acceptable.withoutExcluded {fields : Dict String Json} (h : Acceptable fields)
    (spec : RecordSpec) : Acceptable (withoutExcluded spec fields) :=
  h.filter fun name => !spec.excludes name

theorem preserved?_eq_some {projection extensions unknown : Dict String Json} :
    preserved? projection = some (extensions, unknown) ↔
      Dict.get? projection "extensions" = some (.obj extensions) ∧
        Dict.get? extensions "legacy_unknown_fields" = some (.obj unknown) := by
  unfold preserved?
  split
  · rename_i found hfound
    split
    · rename_i inner hinner
      simp only [Option.some.injEq, Prod.mk.injEq]
      constructor
      · rintro ⟨rfl, rfl⟩
        exact ⟨hfound, hinner⟩
      · rintro ⟨h, h'⟩
        rw [hfound] at h
        cases h
        rw [hinner] at h'
        cases h'
        exact ⟨rfl, rfl⟩
    · rename_i hnot
      simp only [reduceCtorEq, false_iff, not_and]
      intro h h'
      rw [hfound] at h
      cases h
      exact hnot _ h'
  · rename_i hnot
    simp only [reduceCtorEq, false_iff, not_and]
    exact fun h => absurd h (hnot _)

theorem Acceptable.restorePreserved {projection extensions unknown : Dict String Json}
    (hprojection : Acceptable projection)
    (h : preserved? projection = some (extensions, unknown)) :
    Acceptable (restorePreserved projection) := by
  obtain ⟨hextensions, hunknown⟩ := preserved?_eq_some.mp h
  have accepted := hprojection.nested hextensions
  have remaining := accepted.erase "legacy_unknown_fields"
  simp only [Records.restorePreserved, h]
  refine Acceptable.update ?_ (accepted.nested hunknown)
  split_ifs
  · exact hprojection.erase _
  · refine hprojection.set remaining.1 ?_ _
    have outer := ((acceptable_iff.mp hprojection).2 _ _ hextensions).2
    refine (Json.height_obj_le_iff remaining.ordered).mpr fun key value hget => ?_
    rw [Dict.get?_erase] at hget
    split_ifs at hget
    exact (Json.height_obj_le_iff accepted.ordered).mp outer key value hget

/-! ## Moving unknown fields -/

/-- The extensions a record brings to the migration, an absent one counting as
empty. -/
def BringsExtensions (fields extensions : Dict String Json) : Prop :=
  match Dict.get? fields "extensions" with
  | none | some .null => extensions = []
  | some (.obj found) => extensions = found
  | some _ => False

def moveUnknown (spec : RecordSpec) (extensions fields : Dict String Json) :
    Dict String Json :=
  Dict.set (knownFields spec fields) "extensions"
    (.obj (Dict.set extensions "legacy_unknown_fields" (.obj (unknownFields spec fields))))

theorem existingExtensions_eq_ok {fields extensions : Dict String Json} :
    existingExtensions fields = .ok extensions ↔ BringsExtensions fields extensions := by
  unfold existingExtensions BringsExtensions
  split <;> rename_i hfound <;> simp [hfound, eq_comm]

theorem preserveUnknown_eq_ok {recordType : RecordType} {fields result : Dict String Json} :
    preserveUnknown (recordSpecs recordType) fields = .ok result ↔
      (unknownFields (recordSpecs recordType) fields = [] ∧ result = fields) ∨
      (unknownFields (recordSpecs recordType) fields ≠ [] ∧
        ∃ extensions, BringsExtensions fields extensions ∧
          "legacy_unknown_fields" ∉ Dict.keys extensions ∧
          result = moveUnknown (recordSpecs recordType) extensions fields) := by
  have known : BringsExtensions (knownFields (recordSpecs recordType) fields) =
      BringsExtensions fields := by
    funext extensions
    unfold BringsExtensions
    rw [get?_knownFields, if_pos (extensions_allowed recordType)]
  by_cases hnone : unknownFields (recordSpecs recordType) fields = []
  · simp [preserveUnknown, hnone, eq_comm]
  · simp only [preserveUnknown, if_neg hnone, bind_eq_ok, existingExtensions_eq_ok, known,
      refuseIf_eq_ok, Except.ok.injEq]
    constructor
    · rintro ⟨extensions, brings, _, hfresh, rfl⟩
      exact Or.inr ⟨hnone, extensions, brings, hfresh, rfl⟩
    · rintro (⟨hnil, _⟩ | ⟨_, extensions, brings, hfresh, rfl⟩)
      · exact absurd hnil hnone
      · exact ⟨extensions, brings, (), hfresh, rfl⟩

theorem BringsExtensions.ordered {fields extensions : Dict String Json}
    (h : BringsExtensions fields extensions) (hfields : Acceptable fields) :
    Acceptable extensions ∧ (extensions = [] ∨
      Dict.get? fields "extensions" = some (.obj extensions)) := by
  have empty : Acceptable [] := acceptable_iff.mpr ⟨Dict.ordered_nil, by simp⟩
  unfold BringsExtensions at h
  split at h
  · exact ⟨h ▸ empty, Or.inl h⟩
  · exact ⟨h ▸ empty, Or.inl h⟩
  · rename_i found hfound
    subst h
    exact ⟨hfields.nested hfound, Or.inr hfound⟩
  · exact h.elim

theorem get?_moveUnknown {recordType : RecordType} {extensions fields : Dict String Json}
    {key : String} :
    Dict.get? (moveUnknown (recordSpecs recordType) extensions fields) key =
      if key = "extensions" then
        some (.obj (Dict.set extensions "legacy_unknown_fields"
          (.obj (unknownFields (recordSpecs recordType) fields))))
      else if key ∈ (recordSpecs recordType).allowed then Dict.get? fields key
      else none := by
  rw [moveUnknown, Dict.get?_set, get?_knownFields]

/-- The second reading finds the historical projection again, except that it drops
an `extensions` member with nothing in it. -/
theorem legacyProjection_moveUnknown {recordType : RecordType}
    {extensions fields : Dict String Json} (hfields : Acceptable fields)
    (brings : BringsExtensions fields extensions)
    (fresh : "legacy_unknown_fields" ∉ Dict.keys extensions) :
    legacyProjection (recordSpecs recordType) true
        (moveUnknown (recordSpecs recordType) extensions fields) =
      if extensions = [] then
        Dict.erase (withoutExcluded (recordSpecs recordType) fields) "extensions"
      else withoutExcluded (recordSpecs recordType) fields := by
  obtain ⟨hextensions, held⟩ := brings.ordered hfields
  have found : preserved? (withoutExcluded (recordSpecs recordType)
      (moveUnknown (recordSpecs recordType) extensions fields)) =
      some (Dict.set extensions "legacy_unknown_fields"
          (.obj (unknownFields (recordSpecs recordType) fields)),
        unknownFields (recordSpecs recordType) fields) := by
    refine preserved?_eq_some.mpr ⟨?_, ?_⟩
    · rw [get?_withoutExcluded, extensions_not_excluded, get?_moveUnknown]
      rfl
    · rw [Dict.get?_set, if_pos rfl]
  have unknownOrdered : Dict.Ordered (unknownFields (recordSpecs recordType) fields) :=
    hfields.ordered.filter _
  simp only [legacyProjection, if_true, restorePreserved, found,
    Dict.erase_set_of_notMem hextensions.ordered fresh]
  -- Both sides are compared lookup by lookup.
  have moved : Dict.Ordered (withoutExcluded (recordSpecs recordType)
      (moveUnknown (recordSpecs recordType) extensions fields)) :=
    ((hfields.ordered.filter _).set _ _).filter _
  have kept : Dict.Ordered (withoutExcluded (recordSpecs recordType) fields) :=
    hfields.ordered.filter _
  refine Dict.Ordered.ext (Dict.Ordered.update ?_ _) ?_ fun key => ?_
  · split_ifs
    · exact moved.erase _
    · exact moved.set _ _
  · split_ifs
    · exact kept.erase _
    · exact kept
  rw [Dict.get?_update unknownOrdered, get?_unknownFields]
  by_cases hallowed : key ∈ (recordSpecs recordType).allowed
  · rw [if_pos hallowed, Option.none_or]
    by_cases hkey : key = "extensions"
    · subst hkey
      split_ifs with hempty
      · rw [Dict.get?_erase, if_pos rfl, Dict.get?_erase, if_pos rfl]
      · rw [Dict.get?_set, if_pos rfl, get?_withoutExcluded, extensions_not_excluded]
        exact (held.resolve_left hempty).symm
    · have body : Dict.get? (withoutExcluded (recordSpecs recordType)
          (moveUnknown (recordSpecs recordType) extensions fields)) key =
          Dict.get? (withoutExcluded (recordSpecs recordType) fields) key := by
        rw [get?_withoutExcluded, get?_withoutExcluded, get?_moveUnknown, if_neg hkey,
          if_pos hallowed]
      split_ifs with hempty
      · rw [Dict.get?_erase, if_neg hkey, Dict.get?_erase, if_neg hkey, body]
      · rw [Dict.get?_set, if_neg hkey, body]
  · have hkey : key ≠ "extensions" := by
      rintro rfl
      exact hallowed (extensions_allowed recordType)
    have hexcluded : (recordSpecs recordType).excludes key = false := by
      by_contra h
      exact hallowed (excluded_allowed (Bool.not_eq_false _ ▸ h))
    have dropped : Dict.get? (withoutExcluded (recordSpecs recordType)
        (moveUnknown (recordSpecs recordType) extensions fields)) key = none := by
      rw [get?_withoutExcluded, get?_moveUnknown, if_neg hkey, if_neg hallowed]
      split_ifs <;> rfl
    have plain : Dict.get? (withoutExcluded (recordSpecs recordType) fields) key =
        Dict.get? fields key := by
      rw [get?_withoutExcluded, hexcluded]
      rfl
    rw [if_neg hallowed]
    split_ifs with hempty
    · rw [Dict.get?_erase, if_neg hkey, dropped, Dict.get?_erase, if_neg hkey, plain,
        Option.or_none]
    · rw [Dict.get?_set, if_neg hkey, dropped, plain, Option.or_none]

/-- Without preserved fields there is nothing to restore. -/
theorem legacyProjection_of_not_preserved {spec : RecordSpec} {restore : Bool}
    {fields : Dict String Json} (h : preserved? (withoutExcluded spec fields) = none) :
    legacyProjection spec restore fields = withoutExcluded spec fields := by
  unfold legacyProjection
  split_ifs
  · simp only [restorePreserved, h]
  · rfl

theorem preserved?_congr {first second : Dict String Json}
    (h : Dict.get? first "extensions" = Dict.get? second "extensions") :
    preserved? first = preserved? second := by
  simp only [preserved?, h]

theorem get?_withoutExcluded_extensions {recordType : RecordType}
    {fields : Dict String Json} :
    Dict.get? (withoutExcluded (recordSpecs recordType) fields) "extensions" =
      Dict.get? fields "extensions" := by
  rw [get?_withoutExcluded, extensions_not_excluded]
  rfl

/-- Restoring never gives back an `extensions` member that itself holds preserved
fields. -/
theorem restorePreserved_extensions_ne {projection extensions unknown : Dict String Json}
    (hprojection : Acceptable projection)
    (h : preserved? projection = some (extensions, unknown)) :
    Dict.get? (restorePreserved projection) "extensions" ≠ some (.obj extensions) := by
  obtain ⟨hextensions, hunknown⟩ := preserved?_eq_some.mp h
  have accepted := hprojection.nested hextensions
  simp only [restorePreserved, h]
  rw [Dict.get?_update (accepted.nested hunknown).ordered]
  rcases hinner : Dict.get? unknown "extensions" with _ | value
  · rw [Option.none_or]
    split_ifs with hremaining
    · rw [Dict.get?_erase, if_pos rfl]
      simp
    · rw [Dict.get?_set, if_pos rfl]
      intro heq
      have same := Json.obj.inj (Option.some.inj heq)
      have := congrArg (fun d => Dict.get? d "legacy_unknown_fields") same
      simp only [Dict.get?_erase, if_pos, hunknown] at this
      simp at this
  · rw [Option.some_or]
    rintro heq
    obtain rfl := Option.some.inj heq
    -- The preserved fields would hold the extensions that hold them.
    have outer := Json.height_lt_of_get? hunknown
    have inner := Json.height_lt_of_get? hinner
    omega

/-! ## Identity forms of the migrated record -/

theorem form_extensions {recordType : RecordType} {fields form : Dict String Json}
    (h : form ∈ identityForms recordType fields) :
    Dict.get? form "extensions" = Dict.get? fields "extensions" := by
  unfold identityForms at h
  split_ifs at h
  · rcases List.mem_cons.mp h with rfl | h
    · rfl
    · obtain rfl := List.mem_singleton.mp h
      rw [Dict.get?_erase, if_neg (by decide)]
  · obtain rfl := List.mem_singleton.mp h
    rfl

theorem form_acceptable {recordType : RecordType} {fields form : Dict String Json}
    (hfields : Acceptable fields) (h : form ∈ identityForms recordType fields) :
    Acceptable form := by
  unfold identityForms at h
  split_ifs at h
  · rcases List.mem_cons.mp h with rfl | h
    · exact hfields
    · obtain rfl := List.mem_singleton.mp h
      exact hfields.erase _
  · obtain rfl := List.mem_singleton.mp h
    exact hfields

/-- The default subject adds a form and takes none away. -/
theorem identityForms_withSubjectType {recordType : RecordType}
    {fields form : Dict String Json} (hfields : Acceptable fields)
    (h : form ∈ identityForms recordType fields) :
    form ∈ identityForms recordType (withSubjectType recordType fields) := by
  unfold withSubjectType
  split_ifs with hdefault
  · have absent : field fields "subject_type" = .null := by
      rw [field, Dict.get?_eq_none_iff.mpr hdefault.2]
      rfl
    have plain : form = fields := by
      unfold identityForms at h
      rw [if_neg (by rw [candidateSubject, absent]; simp)] at h
      exact List.mem_singleton.mp h
    have subject : candidateSubject recordType
        (Dict.set fields "subject_type" (.str "candidate")) := by
      refine ⟨hdefault.1, ?_⟩
      rw [field, Dict.get?_set, if_pos rfl]
      rfl
    rw [identityForms, if_pos subject,
      Dict.erase_set_of_notMem hfields.ordered hdefault.2, plain]
    simp
  · exact h

/-- Moving unknown fields moves them in every form. -/
theorem identityForms_moveUnknown {recordType : RecordType}
    {extensions fields : Dict String Json} (hfields : Acceptable fields) :
    identityForms recordType (moveUnknown (recordSpecs recordType) extensions fields) =
      (identityForms recordType fields).map
        (moveUnknown (recordSpecs recordType) extensions) := by
  by_cases hsubject : recordType ∈ legacyCandidateSubjectRecords
  · have allowed := subjectType_allowed hsubject
    have subject : candidateSubject recordType
        (moveUnknown (recordSpecs recordType) extensions fields) ↔
        candidateSubject recordType fields := by
      simp only [candidateSubject, field, get?_moveUnknown, if_pos allowed,
        if_neg (show "subject_type" ≠ "extensions" by decide)]
    have erased : Dict.erase (moveUnknown (recordSpecs recordType) extensions fields)
          "subject_type" =
        moveUnknown (recordSpecs recordType) extensions
          (Dict.erase fields "subject_type") := by
      have unknowns : unknownFields (recordSpecs recordType)
          (Dict.erase fields "subject_type") =
          unknownFields (recordSpecs recordType) fields := by
        refine Dict.Ordered.ext ((hfields.ordered.erase _).filter _)
          (hfields.ordered.filter _) fun key => ?_
        rw [get?_unknownFields, get?_unknownFields, Dict.get?_erase]
        split_ifs with hallowed hkey <;> first | rfl | exact absurd (hkey ▸ allowed) hallowed
      refine Dict.Ordered.ext (((hfields.ordered.filter _).set _ _).erase _)
        (((hfields.ordered.erase _).filter _).set _ _) fun key => ?_
      rw [Dict.get?_erase, get?_moveUnknown, get?_moveUnknown, unknowns, Dict.get?_erase]
      split_ifs with hkey hext <;> first | rfl | (subst hkey; simp at hext)
    unfold identityForms
    by_cases h : candidateSubject recordType fields
    · rw [if_pos (subject.mpr h), if_pos h, erased]
      rfl
    · rw [if_neg (mt subject.mp h), if_neg h]
      rfl
  · simp [identityForms, candidateSubject, hsubject]

theorem field_moveUnknown {recordType : RecordType} {extensions fields : Dict String Json}
    {name : String} (hname : (recordSpecs recordType).identityField = some name) :
    field (moveUnknown (recordSpecs recordType) extensions fields) name =
      field fields name := by
  obtain ⟨required, hext, _⟩ := identityField_required recordType name hname
  have allowed : name ∈ (recordSpecs recordType).allowed :=
    List.mem_append_left _ required
  rw [field, get?_moveUnknown, if_neg hext, if_pos allowed, field]

theorem get?_withSubjectType {recordType : RecordType} {fields : Dict String Json}
    {key : String} (hkey : key ≠ "subject_type") :
    Dict.get? (withSubjectType recordType fields) key = Dict.get? fields key := by
  unfold withSubjectType
  split_ifs
  · rw [Dict.get?_set, if_neg hkey]
  · rfl

theorem withSubjectType_acceptable {recordType : RecordType} {fields : Dict String Json}
    (h : Acceptable fields) : Acceptable (withSubjectType recordType fields) := by
  unfold withSubjectType
  split_ifs
  · exact h.set (show (Json.str "candidate").WellFormed from trivial) (by simp [Json.height]) _
  · exact h

theorem unknownFields_withSubjectType {recordType : RecordType} {fields : Dict String Json}
    (h : Acceptable fields) :
    unknownFields (recordSpecs recordType) (withSubjectType recordType fields) =
      unknownFields (recordSpecs recordType) fields := by
  refine Dict.Ordered.ext ((withSubjectType_acceptable h).ordered.filter _)
    (h.ordered.filter _) fun key => ?_
  rw [get?_unknownFields, get?_unknownFields]
  split_ifs with hallowed
  · rfl
  · by_cases hsubject : recordType ∈ legacyCandidateSubjectRecords
    · refine get?_withSubjectType ?_
      rintro rfl
      exact hallowed (subjectType_allowed hsubject)
    · simp [withSubjectType, hsubject]

/-! ## The second reading -/

theorem legacy_eq_ok {hashing : Hashing} {recordType : RecordType} {restore : Bool}
    {data : Dict String Json} {record : ForgeRecord} :
    legacy hashing recordType restore data = .ok record ↔
      legacyIdentityMatches hashing recordType restore data = .ok true ∧
      ∃ fields,
        preserveUnknown (recordSpecs recordType) (withSubjectType recordType data) =
          .ok fields ∧
        validateFields hashing recordType fields = .ok () ∧
        record = model recordType fields legacySchemaVersion := by
  simp only [legacy, bind_eq_ok, refuseIf_eq_ok, Bool.not_eq_false, Except.ok.injEq]
  constructor
  · rintro ⟨_, hmatch, _, rfl, fields, hpreserve, _, hvalid, rfl⟩
    exact ⟨hmatch, fields, hpreserve, hvalid, rfl⟩
  · rintro ⟨hmatch, fields, hpreserve, hvalid, rfl⟩
    exact ⟨true, hmatch, (), rfl, fields, hpreserve, (), hvalid, rfl⟩

private theorem subjectType_required {recordType : RecordType}
    (h : recordType ∈ legacyCandidateSubjectRecords) :
    "subject_type" ∈ (recordSpecs recordType).required := by
  cases recordType <;> first | decide | simp [legacyCandidateSubjectRecords] at h

/-- Migrated fields need no second migration: only their identity is in question. -/
theorem legacy_again {hashing : Hashing} {recordType : RecordType} {restore : Bool}
    {data : Dict String Json} {record : ForgeRecord}
    (h : legacy hashing recordType restore data = .ok record) :
    legacy hashing recordType true record.fields = .ok record ↔
      legacyIdentityMatches hashing recordType true record.fields = .ok true := by
  obtain ⟨_, fields, _, hvalid, rfl⟩ := legacy_eq_ok.mp h
  have subject : withSubjectType recordType fields = fields := by
    unfold withSubjectType
    rw [if_neg]
    rintro ⟨hsubject, habsent⟩
    exact habsent
      (required_mem_of_validateFields hvalid _ (subjectType_required hsubject))
  have known : unknownFields (recordSpecs recordType) fields = [] := by
    refine List.filter_eq_nil_iff.mpr fun entry hentry => ?_
    have := keys_allowed_of_validateFields hvalid entry.1
      (List.mem_map_of_mem (f := Prod.fst) hentry)
    simpa using this
  have kept : preserveUnknown (recordSpecs recordType) fields = .ok fields :=
    preserveUnknown_eq_ok.mpr (Or.inl ⟨known, rfl⟩)
  rw [legacy_eq_ok]
  constructor
  · exact fun hagain => hagain.1
  · intro hmatch
    refine ⟨hmatch, fields, ?_, hvalid, rfl⟩
    show preserveUnknown _ (withSubjectType recordType fields) = _
    rw [subject, kept]

/-- When the second reading reproduces the identity the first one checked. -/
def IdentityReadsBack (recordType : RecordType) (restore : Bool)
    (data : Dict String Json) : Prop :=
  (recordSpecs recordType).identityField = none ∨
    if unknownFields (recordSpecs recordType) data = [] then
      restore = true ∨ preserved? data = none
    else
      Dict.get? data "extensions" ≠ some .null ∧
        Dict.get? data "extensions" ≠ some (.obj [])

instance (recordType : RecordType) (restore : Bool) (data : Dict String Json) :
    Decidable (IdentityReadsBack recordType restore data) :=
  inferInstanceAs (Decidable (_ ∨ ite _ _ _))

section Identity

variable {hashing : Hashing} {recordType : RecordType}

theorem digest_inj (collisionFree : Digest.CollisionFree hashing.hexdigest)
    {label : String} {first second : Dict String Json}
    (hfirst : Acceptable first) (hsecond : Acceptable second)
    (h : Json.str (label ++ localJsonDigest hashing (.obj first)) =
      Json.str (label ++ localJsonDigest hashing (.obj second))) : first = second := by
  have digests : localJsonDigest hashing (.obj first) =
      localJsonDigest hashing (.obj second) := by
    have chars := congrArg String.toList (Json.str.inj h)
    rw [String.toList_append, String.toList_append] at chars
    exact String.toList_inj.mp (List.append_cancel_left chars)
  have bytes := collisionFree _ _ hfirst.1 hsecond.1 digests
  exact Json.obj.inj (Json.canonicalBytes_injective hfirst.1 hsecond.1 bytes)

/-- The identity of a record whose unknown fields stayed where they were. -/
private theorem matches_unmoved (collisionFree : Digest.CollisionFree hashing.hexdigest)
    {name label : String} (hname : (recordSpecs recordType).identityField = some name)
    (hlabel : (recordSpecs recordType).identityPrefix = some label)
    {restore : Bool} {data : Dict String Json} (hdata : Acceptable data)
    (hmatch : legacyIdentityMatches hashing recordType restore data = .ok true) :
    legacyIdentityMatches hashing recordType true (withSubjectType recordType data) =
        .ok true ↔
      restore = true ∨ preserved? data = none := by
  rw [legacyIdentityMatches_eq_ok hname hlabel] at hmatch ⊢
  have supplied : field (withSubjectType recordType data) name = field data name := by
    rw [field, get?_withSubjectType (identityField_required recordType name hname).2.2,
      field]
  have subjectExtensions : Dict.get? (withSubjectType recordType data) "extensions" =
      Dict.get? data "extensions" := get?_withSubjectType (by decide)
  obtain ⟨form, hform, hidentity⟩ := hmatch
  rw [supplied]
  constructor
  · rintro ⟨again, hagain, hsame⟩
    by_contra hnot
    rw [not_or] at hnot
    obtain ⟨hrestore, hpreserved⟩ := hnot
    obtain ⟨⟨extensions, unknown⟩, hpreserved⟩ := Option.ne_none_iff_exists'.mp hpreserved
    have heldForm : Dict.get? (withoutExcluded (recordSpecs recordType) form) "extensions" =
        Dict.get? data "extensions" := by
      rw [get?_withoutExcluded_extensions, form_extensions hform]
    have heldAgain :
        Dict.get? (withoutExcluded (recordSpecs recordType) again) "extensions" =
          Dict.get? data "extensions" := by
      rw [get?_withoutExcluded_extensions, form_extensions hagain, subjectExtensions]
    have accepted : Acceptable (withoutExcluded (recordSpecs recordType) again) :=
      (form_acceptable (withSubjectType_acceptable hdata) hagain).withoutExcluded _
    have preservedAgain :
        preserved? (withoutExcluded (recordSpecs recordType) again) =
          some (extensions, unknown) := by
      rw [preserved?_congr heldAgain, hpreserved]
    rw [hidentity] at hsame
    simp only [legacyProjection, Bool.not_eq_true _ ▸ hrestore, Bool.false_eq_true,
      if_false, if_true] at hsame
    have same := digest_inj collisionFree
      ((form_acceptable hdata hform).withoutExcluded _)
      (accepted.restorePreserved preservedAgain) hsame
    refine restorePreserved_extensions_ne accepted preservedAgain ?_
    rw [← same, heldForm, (preserved?_eq_some.mp hpreserved).1]
  · intro hcondition
    refine ⟨form, identityForms_withSubjectType hdata hform, ?_⟩
    rcases hcondition with hrestore | hpreserved
    · rw [hidentity, hrestore]
    · have none_form : preserved? (withoutExcluded (recordSpecs recordType) form) = none := by
        rw [preserved?_congr (get?_withoutExcluded_extensions.trans (form_extensions hform)),
          hpreserved]
      rw [hidentity, legacyProjection_of_not_preserved none_form,
        legacyProjection_of_not_preserved none_form]

/-- The identity of a record whose unknown fields were moved. -/
private theorem matches_moved (collisionFree : Digest.CollisionFree hashing.hexdigest)
    {name label : String} (hname : (recordSpecs recordType).identityField = some name)
    (hlabel : (recordSpecs recordType).identityPrefix = some label)
    {restore : Bool} {data extensions : Dict String Json} (hdata : Acceptable data)
    (brings : BringsExtensions (withSubjectType recordType data) extensions)
    (fresh : "legacy_unknown_fields" ∉ Dict.keys extensions)
    (hmatch : legacyIdentityMatches hashing recordType restore data = .ok true) :
    legacyIdentityMatches hashing recordType true
        (moveUnknown (recordSpecs recordType) extensions
          (withSubjectType recordType data)) = .ok true ↔
      Dict.get? data "extensions" ≠ some .null ∧
        Dict.get? data "extensions" ≠ some (.obj []) := by
  have hsubject : Acceptable (withSubjectType recordType data) :=
    withSubjectType_acceptable hdata
  have subjectExtensions : Dict.get? (withSubjectType recordType data) "extensions" =
      Dict.get? data "extensions" := get?_withSubjectType (by decide)
  have supplied : field (withSubjectType recordType data) name = field data name := by
    rw [field, get?_withSubjectType (identityField_required recordType name hname).2.2,
      field]
  rw [legacyIdentityMatches_eq_ok hname hlabel] at hmatch ⊢
  obtain ⟨form, hform, hidentity⟩ := hmatch
  have brings' : ∀ again, Dict.get? again "extensions" = Dict.get? data "extensions" →
      BringsExtensions again extensions := by
    intro again h
    unfold BringsExtensions at brings ⊢
    rwa [h, ← subjectExtensions]
  have unpreserved : ∀ again, Dict.get? again "extensions" = Dict.get? data "extensions" →
      preserved? again = none := by
    intro again h
    refine Option.eq_none_iff_forall_not_mem.mpr fun pair hfound => ?_
    obtain ⟨found, unknown⟩ := pair
    obtain ⟨hget, hinner⟩ := preserved?_eq_some.mp hfound
    have := brings' again h
    simp only [BringsExtensions, hget] at this
    subst this
    rw [Dict.get?_eq_none_iff.mpr fresh] at hinner
    cases hinner
  have plainForm : legacyProjection (recordSpecs recordType) restore form =
      withoutExcluded (recordSpecs recordType) form :=
    legacyProjection_of_not_preserved (unpreserved _
      (get?_withoutExcluded_extensions.trans (form_extensions hform)))
  rw [identityForms_moveUnknown hsubject, field_moveUnknown hname, supplied, hidentity,
    plainForm]
  constructor
  · rintro ⟨moved, hmoved, hsame⟩
    obtain ⟨again, hagain, rfl⟩ := List.mem_map.mp hmoved
    have heldAgain := (form_extensions hagain).trans subjectExtensions
    rw [legacyProjection_moveUnknown (form_acceptable hsubject hagain)
      (brings' again heldAgain) fresh] at hsame
    by_contra hnot
    have empty : extensions = [] ∧ ∃ value, Dict.get? data "extensions" = some value := by
      have held := brings' data rfl
      rw [not_and_or, not_not, not_not] at hnot
      rcases hnot with hget | hget <;> simp only [BringsExtensions, hget] at held
      · exact ⟨held, _, hget⟩
      · exact ⟨held, _, hget⟩
    obtain ⟨hempty, value, hvalue⟩ := empty
    rw [if_pos hempty] at hsame
    have same := digest_inj collisionFree
      ((form_acceptable hdata hform).withoutExcluded _)
      (((form_acceptable hsubject hagain).withoutExcluded _).erase _) hsame
    have := congrArg (fun d => Dict.get? d "extensions") same
    simp only [get?_withoutExcluded_extensions, form_extensions hform, hvalue,
      Dict.get?_erase, if_pos] at this
    cases this
  · rintro ⟨hnull, hnil⟩
    refine ⟨_, List.mem_map_of_mem (identityForms_withSubjectType hdata hform), ?_⟩
    have heldForm := form_extensions hform
    rw [legacyProjection_moveUnknown (form_acceptable hdata hform)
      (brings' form heldForm) fresh]
    split_ifs with hempty
    · have absent : Dict.get? form "extensions" = none := by
        have held := brings' form heldForm
        unfold BringsExtensions at held
        rw [← heldForm] at hnull hnil
        split at held
        · assumption
        · contradiction
        · rename_i found hfound
          rw [hfound, ← held, hempty] at hnil
          exact absurd rfl hnil
        · exact held.elim
      rw [Dict.erase_of_notMem]
      rw [← Dict.get?_eq_none_iff, get?_withoutExcluded_extensions, absent]
    · rfl

theorem legacyIdentityMatches_again (collisionFree : Digest.CollisionFree hashing.hexdigest)
    {restore : Bool} {data fields : Dict String Json} (hdata : Acceptable data)
    (hmatch : legacyIdentityMatches hashing recordType restore data = .ok true)
    (hpreserve : preserveUnknown (recordSpecs recordType) (withSubjectType recordType data) =
      .ok fields) :
    legacyIdentityMatches hashing recordType true fields = .ok true ↔
      IdentityReadsBack recordType restore data := by
  rcases identity_fields_paired recordType with ⟨hnone, _⟩ | ⟨name, label, hname, hlabel⟩
  · simp [IdentityReadsBack, hnone, legacyIdentityMatches_of_none]
  · simp only [IdentityReadsBack, hname, reduceCtorEq, false_or]
    rw [preserveUnknown_eq_ok, unknownFields_withSubjectType hdata] at hpreserve
    rcases hpreserve with ⟨hunknown, rfl⟩ | ⟨hunknown, extensions, brings, fresh, rfl⟩
    · rw [if_pos hunknown]
      exact matches_unmoved collisionFree hname hlabel hdata hmatch
    · rw [if_neg hunknown]
      exact matches_moved collisionFree hname hlabel hdata brings fresh hmatch

end Identity

/-! ## Depth of the migrated record -/

section Depth

variable {recordType : RecordType} {data fields : Dict String Json}

private theorem unknownFields_acceptable (h : Acceptable data) :
    Acceptable (unknownFields (recordSpecs recordType) data) :=
  h.filter fun name => decide (name ∉ (recordSpecs recordType).allowed)

private theorem knownFields_acceptable (h : Acceptable data) :
    Acceptable (knownFields (recordSpecs recordType) data) :=
  h.filter fun name => decide (name ∈ (recordSpecs recordType).allowed)

private theorem moveUnknown_wellFormed {extensions : Dict String Json}
    (hdata : Acceptable data) (hextensions : Acceptable extensions) :
    (Json.obj (moveUnknown (recordSpecs recordType) extensions data)).WellFormed := by
  have inner : (Json.obj (Dict.set extensions "legacy_unknown_fields"
      (.obj (unknownFields (recordSpecs recordType) data)))).WellFormed := by
    refine Json.wellFormed_obj_iff_get?.mpr ⟨hextensions.ordered.set _ _, fun k v hget => ?_⟩
    rw [Dict.get?_set] at hget
    split_ifs at hget
    · obtain rfl := Option.some.inj hget
      exact (unknownFields_acceptable hdata).1
    · exact ((acceptable_iff.mp hextensions).2 k v hget).1
  refine Json.wellFormed_obj_iff_get?.mpr
    ⟨(knownFields_acceptable hdata).ordered.set _ _, fun k v hget => ?_⟩
  rw [get?_moveUnknown] at hget
  split_ifs at hget
  · obtain rfl := Option.some.inj hget
    exact inner
  · exact ((acceptable_iff.mp hdata).2 k v hget).1

/-- A moved value sits two levels deeper than it did. -/
private theorem moveUnknown_height {extensions : Dict String Json}
    (hdata : Acceptable data) (brings : BringsExtensions data extensions) :
    (Json.obj (moveUnknown (recordSpecs recordType) extensions data)).height ≤ 64 ↔
      ∀ entry ∈ unknownFields (recordSpecs recordType) data, entry.2.height ≤ 61 := by
  obtain ⟨hextensions, held⟩ := brings.ordered hdata
  have movedHeight : (Json.obj (unknownFields (recordSpecs recordType) data)).height ≤ 62 ↔
      ∀ entry ∈ unknownFields (recordSpecs recordType) data, entry.2.height ≤ 61 := by
    rw [Json.height, Json.heightFields_le_iff]
    exact forall₂_congr fun _ _ => by omega
  have extensionsHeight : (Json.obj extensions).height ≤ 63 := by
    rcases held with rfl | hget
    · simp [Json.height, Json.heightFields]
    · exact ((acceptable_iff.mp hdata).2 _ _ hget).2
  rw [← movedHeight, moveUnknown,
    Json.height_obj_le_iff ((knownFields_acceptable hdata).ordered.set _ _)]
  constructor
  · intro h
    have outer := h "extensions" _ (by rw [Dict.get?_set, if_pos rfl])
    have := (Json.height_obj_le_iff (hextensions.ordered.set _ _)).mp
      (Nat.le_of_succ_le_succ outer) "legacy_unknown_fields" _
      (by rw [Dict.get?_set, if_pos rfl])
    omega
  · intro h k v hget
    rw [Dict.get?_set] at hget
    split_ifs at hget
    · obtain rfl := Option.some.inj hget
      refine Nat.succ_le_succ
        ((Json.height_obj_le_iff (hextensions.ordered.set _ _)).mpr fun k' v' hget' => ?_)
      rw [Dict.get?_set] at hget'
      split_ifs at hget'
      · obtain rfl := Option.some.inj hget'
        omega
      · exact (Json.height_obj_le_iff hextensions.ordered).mp extensionsHeight k' v' hget'
    · have := ((acceptable_iff.mp (knownFields_acceptable hdata)).2 k v hget).2
      omega

theorem preserveUnknown_wellFormed (hdata : Acceptable data)
    (h : preserveUnknown (recordSpecs recordType) (withSubjectType recordType data) =
      .ok fields) : (Json.obj fields).WellFormed := by
  have hsubject : Acceptable (withSubjectType recordType data) :=
    withSubjectType_acceptable hdata
  rcases preserveUnknown_eq_ok.mp h with ⟨_, rfl⟩ | ⟨_, extensions, brings, _, rfl⟩
  · exact hsubject.1
  · exact moveUnknown_wellFormed hsubject (brings.ordered hsubject).1

theorem preserveUnknown_acceptable_iff (hdata : Acceptable data)
    (h : preserveUnknown (recordSpecs recordType) (withSubjectType recordType data) =
      .ok fields) :
    Acceptable fields ↔
      ∀ entry ∈ unknownFields (recordSpecs recordType) data, entry.2.height ≤ 61 := by
  have hsubject : Acceptable (withSubjectType recordType data) :=
    withSubjectType_acceptable hdata
  have wellFormed := preserveUnknown_wellFormed hdata h
  rw [← unknownFields_withSubjectType hdata]
  rcases preserveUnknown_eq_ok.mp h with ⟨hunknown, rfl⟩ | ⟨_, extensions, brings, _, rfl⟩
  · simp [hunknown, hsubject]
  · rw [← moveUnknown_height hsubject brings]
    exact and_iff_right wellFormed

end Depth

/-! ## Reading the stored form -/

section Stored

variable {record : ForgeRecord}

theorem metadata_not_allowed (recordType : RecordType) :
    "record_type" ∉ (recordSpecs recordType).allowed ∧
      "schema_version" ∉ (recordSpecs recordType).allowed := by
  cases recordType <;> decide

theorem get?_toJson (ordered : Dict.Ordered record.fields) {key : String} :
    Dict.get? record.toJson key =
      (Dict.get? record.fields key).or
        (if key = "record_type" then some (.str record.recordType.value)
        else if key = "schema_version" then some (.str record.schemaVersion)
        else none) := by
  rw [ForgeRecord.toJson, Dict.get?_update ordered]
  rfl

theorem toJson_ordered (record : ForgeRecord) : Dict.Ordered record.toJson := by
  refine Dict.Ordered.update ?_ _
  show List.Pairwise (· < ·) ["record_type", "schema_version"]
  decide

theorem toJson_wellFormed (record : ForgeRecord) (h : (Json.obj record.fields).WellFormed) :
    (Json.obj record.toJson).WellFormed := by
  obtain ⟨ordered, values⟩ := Json.wellFormed_obj_iff_get?.mp h
  refine Json.wellFormed_obj_iff_get?.mpr ⟨toJson_ordered record, fun key value hget => ?_⟩
  rw [get?_toJson ordered] at hget
  rcases hfound : Dict.get? record.fields key with _ | found
  · rw [hfound, Option.none_or] at hget
    split_ifs at hget
    · obtain rfl := Option.some.inj hget
      trivial
    · obtain rfl := Option.some.inj hget
      trivial
  · rw [hfound, Option.some_or] at hget
    exact values key value (hget ▸ hfound)

theorem toJson_acceptable_iff (record : ForgeRecord) (h : (Json.obj record.fields).WellFormed) :
    Acceptable record.toJson ↔ Acceptable record.fields := by
  obtain ⟨ordered, _⟩ := Json.wellFormed_obj_iff_get?.mp h
  rw [Acceptable, Acceptable, and_iff_right (toJson_wellFormed record h), and_iff_right h,
    Json.height_obj_le_iff (toJson_ordered record), Json.height_obj_le_iff ordered]
  constructor
  · intro hjson key value hget
    refine hjson key value ?_
    rw [get?_toJson ordered, hget, Option.some_or]
  · intro hfields key value hget
    rw [get?_toJson ordered] at hget
    rcases hfound : Dict.get? record.fields key with _ | found
    · rw [hfound, Option.none_or] at hget
      split_ifs at hget
      · obtain rfl := Option.some.inj hget
        simp [Json.height]
      · obtain rfl := Option.some.inj hget
        simp [Json.height]
    · rw [hfound, Option.some_or] at hget
      exact hfields key value (hget ▸ hfound)

/-- Stored metadata is the record's own, and the rest of the members are its
fields. -/
theorem toJson_metadata {hashing : Hashing} (record : ForgeRecord)
    (ordered : Dict.Ordered record.fields)
    (hvalid : validateFields hashing record.recordType record.fields = .ok ()) :
    field record.toJson "record_type" = .str record.recordType.value ∧
      field record.toJson "schema_version" = .str record.schemaVersion ∧
      recordData record.toJson = record.fields := by
  obtain ⟨htype, hversion⟩ := metadata_not_allowed record.recordType
  have allowed := keys_allowed_of_validateFields hvalid
  have notype : Dict.get? record.fields "record_type" = none :=
    Dict.get?_eq_none_iff.mpr fun h => htype (allowed _ h)
  have noversion : Dict.get? record.fields "schema_version" = none :=
    Dict.get?_eq_none_iff.mpr fun h => hversion (allowed _ h)
  refine ⟨?_, ?_, ?_⟩
  · rw [field, get?_toJson ordered, notype]
    rfl
  · rw [field, get?_toJson ordered, noversion]
    rfl
  · refine Dict.Ordered.ext (((toJson_ordered record).erase _).erase _) ordered fun key => ?_
    rw [recordData, Dict.get?_erase, Dict.get?_erase, get?_toJson ordered]
    split_ifs with h₁ h₂
    · rw [h₁, noversion]
    · rw [h₂, notype]
    · rw [Option.or_none]

end Stored

theorem normalizeFields_eq_ok {hashing : Hashing} {recordType : RecordType}
    {raw : Dict String Json} {record : ForgeRecord} :
    normalizeFields hashing recordType raw = .ok record ↔
      (field raw "record_type" = .null ∧ field raw "schema_version" = .null ∧
        legacy hashing recordType false (recordData raw) = .ok record) ∨
      (field raw "record_type" = .str recordType.value ∧
        field raw "schema_version" = .str legacySchemaVersion ∧
        legacy hashing recordType true (recordData raw) = .ok record) ∨
      (field raw "record_type" = .str recordType.value ∧
        field raw "schema_version" = .str currentSchemaVersion ∧
        current hashing recordType (recordData raw) = .ok record) := by
  have versions : Json.str legacySchemaVersion ≠ .str currentSchemaVersion := by decide
  unfold normalizeFields
  by_cases htype : field raw "record_type" = .null
  · by_cases hversion : field raw "schema_version" = .null
    · simp [htype, hversion]
    · simp [htype, hversion, refuseIf_bind_eq_ok]
  · by_cases hversion : field raw "schema_version" = .null
    · simp [htype, hversion, refuseIf_bind_eq_ok]
    · by_cases hlegacy : field raw "schema_version" = .str legacySchemaVersion
      · simp [htype, hlegacy, refuseIf_bind_eq_ok, versions]
      · simp [htype, hversion, hlegacy, refuseIf_bind_eq_ok]

theorem current_eq_ok {hashing : Hashing} {recordType : RecordType}
    {data : Dict String Json} {record : ForgeRecord}
    (h : current hashing recordType data = .ok record) :
    validateFields hashing recordType data = .ok () ∧
      record = model recordType data currentSchemaVersion := by
  simp only [current, bind_eq_ok] at h
  obtain ⟨_, hvalid, hrest⟩ := h
  refine ⟨hvalid, ?_⟩
  split at hrest
  · exact (Except.ok.inj hrest).symm
  · simp only [bind_eq_ok, Except.ok.injEq] at hrest
    obtain ⟨_, _, _, _, rfl⟩ := hrest
    rfl

/-! ## When the second reading succeeds -/

/-- The raw records whose normal form can be read again. -/
def ReadsBack (recordType : RecordType) (raw : Dict String Json) : Prop :=
  field raw "schema_version" = .str currentSchemaVersion ∨
    (∀ entry ∈ unknownFields (recordSpecs recordType) (recordData raw),
        entry.2.height ≤ 61) ∧
      IdentityReadsBack recordType (decide (field raw "schema_version" ≠ .null))
        (recordData raw)

instance (recordType : RecordType) (raw : Dict String Json) :
    Decidable (ReadsBack recordType raw) :=
  inferInstanceAs (Decidable (_ ∨ _ ∧ _))

theorem recordData_acceptable {raw : Dict String Json} (h : Acceptable raw) :
    Acceptable (recordData raw) :=
  (h.erase _).erase _

private theorem legacy_reread {hashing : Hashing} {recordType : RecordType}
    (collisionFree : Digest.CollisionFree hashing.hexdigest) {restore : Bool}
    {data : Dict String Json} {record : ForgeRecord} (hdata : Acceptable data)
    (h : legacy hashing recordType restore data = .ok record) :
    parseRecord hashing record.toJson recordType = .ok record ↔
      (∀ entry ∈ unknownFields (recordSpecs recordType) data, entry.2.height ≤ 61) ∧
        IdentityReadsBack recordType restore data := by
  have again := legacy_again h
  obtain ⟨hmatch, fields, hpreserve, hvalid, rfl⟩ := legacy_eq_ok.mp h
  have wellFormed := preserveUnknown_wellFormed hdata hpreserve
  have ordered := (Json.wellFormed_obj_iff_get?.mp wellFormed).1
  obtain ⟨htype, hversion, hrest⟩ :=
    toJson_metadata (model recordType fields legacySchemaVersion) ordered hvalid
  have keyed := (toJson_wellFormed
    (model recordType fields legacySchemaVersion) wellFormed).keyed
  have versions : Json.str legacySchemaVersion ≠ .str currentSchemaVersion := by decide
  rw [← preserveUnknown_acceptable_iff hdata hpreserve,
    ← legacyIdentityMatches_again collisionFree hdata hmatch hpreserve]
  simp only [parseRecord, normalize, bind_eq_ok, jsonObject_eq_ok keyed]
  rw [show (model recordType fields legacySchemaVersion).schemaVersion =
    legacySchemaVersion from rfl] at hversion
  rw [show (model recordType fields legacySchemaVersion).recordType = recordType from rfl]
    at htype
  rw [show (model recordType fields legacySchemaVersion).fields = fields from rfl]
    at hrest again
  have acceptable := toJson_acceptable_iff
    (model recordType fields legacySchemaVersion) wellFormed
  constructor
  · rintro ⟨_, ⟨rfl, haccept⟩, hnormal⟩
    rw [normalizeFields_eq_ok, htype, hversion, hrest] at hnormal
    refine ⟨acceptable.mp haccept, again.mp ?_⟩
    rcases hnormal with ⟨hnull, _⟩ | ⟨_, _, hlegacy⟩ | ⟨_, hcurrent, _⟩
    · cases hnull
    · exact hlegacy
    · exact absurd hcurrent versions
  · rintro ⟨haccept, hmatches⟩
    refine ⟨_, ⟨rfl, acceptable.mpr haccept⟩, ?_⟩
    rw [normalizeFields_eq_ok, htype, hversion, hrest]
    exact Or.inr (Or.inl ⟨rfl, rfl, again.mpr hmatches⟩)

theorem current_reread {hashing : Hashing} {recordType : RecordType}
    {data : Dict String Json} {record : ForgeRecord} (hdata : Acceptable data)
    (h : current hashing recordType data = .ok record) :
    parseRecord hashing record.toJson recordType = .ok record := by
  obtain ⟨hvalid, rfl⟩ := current_eq_ok h
  obtain ⟨htype, hversion, hrest⟩ :=
    toJson_metadata (model recordType data currentSchemaVersion) hdata.ordered hvalid
  have keyed := (toJson_wellFormed
    (model recordType data currentSchemaVersion) hdata.1).keyed
  simp only [parseRecord, normalize, bind_eq_ok, jsonObject_eq_ok keyed]
  refine ⟨_, ⟨rfl, (toJson_acceptable_iff _ hdata.1).mpr hdata⟩, ?_⟩
  rw [normalizeFields_eq_ok, htype, hversion, hrest]
  exact Or.inr (Or.inr ⟨rfl, rfl, h⟩)

/-- An accepted raw record reads back to the same record exactly when `ReadsBack`
holds of it. -/
theorem parseRecord_toJson_iff {hashing : Hashing}
    (collisionFree : Digest.CollisionFree hashing.hexdigest) {recordType : RecordType}
    {raw : Dict String Json} (keyed : (Json.obj raw).Keyed) {record : ForgeRecord}
    (accepted : parseRecord hashing raw recordType = .ok record) :
    parseRecord hashing record.toJson recordType = .ok record ↔
      ReadsBack recordType raw := by
  have versions : Json.str legacySchemaVersion ≠ .str currentSchemaVersion := by decide
  simp only [parseRecord, normalize, bind_eq_ok, jsonObject_eq_ok keyed] at accepted
  obtain ⟨_, ⟨rfl, hraw⟩, hnormal⟩ := accepted
  have hdata := recordData_acceptable hraw
  rcases normalizeFields_eq_ok.mp hnormal with
    ⟨_, hversion, hlegacy⟩ | ⟨_, hversion, hlegacy⟩ | ⟨_, hversion, hcurrent⟩
  · rw [legacy_reread collisionFree hdata hlegacy, ReadsBack, hversion]
    simp
  · rw [legacy_reread collisionFree hdata hlegacy, ReadsBack, hversion]
    simp [legacySchemaVersion, currentSchemaVersion]
  · rw [ReadsBack, hversion]
    simp [current_reread hdata hcurrent]

private def verbatimHashing : Hashing where
  hexdigest := Digest.verbatim
  jcs value := .ok value.canonicalBytes

/-- A workflow action from before the schema, with a field the schema does not
know and an empty `extensions` object. -/
private def legacyActionBody : Dict String Json :=
  [("candidate_identity", .str "forge-tree-sha256-v1:00"), ("extensions", .obj []),
   ("mode", .str "development"), ("note", .str "n"), ("protocol_request_identity", .null),
   ("requested_at", .str "2024"), ("workflow", .str "check")]

private def legacyActionIdentity : String :=
  "workflow-action:" ++ localJsonDigest verbatimHashing (.obj legacyActionBody)

private def legacyAction : Dict String Json :=
  Dict.set legacyActionBody "action_id" (.str legacyActionIdentity)

private def migratedAction : ForgeRecord :=
  model .workflowAction
    [("action_id", .str legacyActionIdentity),
     ("candidate_identity", .str "forge-tree-sha256-v1:00"),
     ("extensions", .obj [("legacy_unknown_fields", .obj [("note", .str "n")])]),
     ("mode", .str "development"), ("protocol_request_identity", .null),
     ("requested_at", .str "2024"), ("workflow", .str "check")]
    legacySchemaVersion

theorem parseRecord_toJson_iff_legacyAction :
    parseRecord verbatimHashing legacyAction .workflowAction = .ok migratedAction ∧
      (parseRecord verbatimHashing migratedAction.toJson .workflowAction =
          .ok migratedAction ↔
        ReadsBack .workflowAction legacyAction) := by
  have keyed : (Json.obj legacyAction).Keyed :=
    Json.WellFormed.keyed (by decide +kernel)
  have accepted :
      parseRecord verbatimHashing legacyAction .workflowAction = .ok migratedAction := by
    decide +kernel
  exact ⟨accepted, parseRecord_toJson_iff Digest.verbatim_collisionFree keyed accepted⟩

/-- The empty `extensions` object counted for the historical identity and is lost
on the way back. -/
theorem parseRecord_toJson_refused :
    parseRecord verbatimHashing legacyAction .workflowAction = .ok migratedAction ∧
      parseRecord verbatimHashing migratedAction.toJson .workflowAction =
        .error ⟨"RECORD_IDENTITY",
          "legacy workflow_action identity does not reproduce historically"⟩ := by
  constructor <;> decide +kernel

end MncsForge.Records
