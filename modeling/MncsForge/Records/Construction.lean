import Mathlib
import MncsForge.Records.Reread

/-!
# New records

A new record is given its identity and checked as a current record is.  What is
written for it reads back, and a change of one field its identity covers is
detected when it does.
-/

namespace MncsForge.Records

open MncsForge.Foundation

/-! ## Construction -/

section Construction

variable (hashing : Hashing)

/-- The identity field is filled in, or must already hold the derived identity. -/
def withIdentity (recordType : RecordType) (fields : Dict String Json) :
    Except ForgeError (Dict String Json) :=
  match (recordSpecs recordType).identityField with
  | none => .ok fields
  | some identityField => do
      let supplied := field fields identityField
      let expected ← deriveRecordIdentity hashing recordType fields
      if supplied = .null then .ok (Dict.set fields identityField (.str expected))
      else do
        refuseIf (supplied ≠ .str expected) "RECORD_IDENTITY"
          s!"{recordType.value} record-derived identity does not reproduce"
        .ok fields

def newRecord (recordType : RecordType) (fields : Dict String Json) :
    Except ForgeError ForgeRecord := do
  refuseIf ("record_type" ∈ Dict.keys fields ∨ "schema_version" ∈ Dict.keys fields)
    "RECORD_METADATA_SPOOF"
    "record_type and schema_version are assigned by the Forge record model"
  let normalized ← jsonObject (.obj fields) "record"
  let normalized ← withIdentity hashing recordType normalized
  validateFields hashing recordType normalized
  .ok (model recordType normalized currentSchemaVersion)

end Construction

/-! ## The projection of a current identity -/

/-- What the identity of a current record covers. -/
def currentProjection (recordType : RecordType) (fields : Dict String Json) :
    Dict String Json :=
  Dict.update
    [("record_type", .str recordType.value), ("schema_version", .str currentSchemaVersion)]
    (withoutExcluded (recordSpecs recordType) fields)

private theorem identityFields_unchanged {fields : Dict String Json}
    (keyed : Json.KeyedFields fields)
    (bounded : ∀ entry ∈ fields, entry.2.WellFormed ∧ entry.2.height ≤ 64) :
    identityFields fields = .ok fields := by
  induction fields with
  | nil => rfl
  | cons entry fields ih =>
      obtain ⟨key, value⟩ := entry
      obtain ⟨wellFormed, height⟩ := bounded (key, value) List.mem_cons_self
      have hvalue : asJsonValue s!"identity.{key}" 0 value = .ok value :=
        (asJsonValue_eq_ok value keyed.1).mpr ⟨rfl, wellFormed, by simpa using height⟩
      have hfields := ih keyed.2 fun entry h => bounded entry (List.mem_cons_of_mem _ h)
      rw [identityFields, hvalue, hfields]
      rfl

section Projection

variable {hashing : Hashing} {recordType : RecordType} {data : Dict String Json}
  {name label : String}

theorem deriveRecordIdentity_eq (hname : (recordSpecs recordType).identityField = some name)
    (hlabel : (recordSpecs recordType).identityPrefix = some label) (hdata : Acceptable data) :
    deriveRecordIdentity hashing recordType data =
      .ok (label ++ localJsonDigest hashing (.obj (currentProjection recordType data))) := by
  have covered := hdata.withoutExcluded (recordSpecs recordType)
  have unchanged : identityFields (withoutExcluded (recordSpecs recordType) data) =
      .ok (withoutExcluded (recordSpecs recordType) data) := by
    refine identityFields_unchanged covered.1.keyed.2 fun entry hentry => ?_
    have hget := Dict.get?_eq_some_of_mem covered.ordered hentry
    obtain ⟨wellFormed, height⟩ := (acceptable_iff.mp covered).2 _ _ hget
    exact ⟨wellFormed, by omega⟩
  simp only [deriveRecordIdentity, hlabel, identityProjection, hname, unchanged]
  rfl

theorem currentProjection_acceptable (hdata : Acceptable data) :
    Acceptable (currentProjection recordType data) := by
  refine Acceptable.update ?_ (hdata.withoutExcluded _)
  refine acceptable_iff.mpr ⟨?_, fun key value hget => ?_⟩
  · show List.Pairwise (· < ·) ["record_type", "schema_version"]
    decide
  · have := Dict.mem_of_get?_eq_some hget
    simp only [List.mem_cons, Prod.mk.injEq, List.not_mem_nil, or_false] at this
    rcases this with ⟨_, rfl⟩ | ⟨_, rfl⟩
    · exact ⟨trivial, by simp [Json.height]⟩
    · exact ⟨trivial, by simp [Json.height]⟩

theorem get?_currentProjection (hdata : Acceptable data) {key : String} :
    Dict.get? (currentProjection recordType data) key =
      (Dict.get? (withoutExcluded (recordSpecs recordType) data) key).or
        (if key = "record_type" then some (.str recordType.value)
        else if key = "schema_version" then some (.str currentSchemaVersion)
        else none) := by
  rw [currentProjection, Dict.get?_update (hdata.withoutExcluded _).ordered]
  rfl

/-- The identity field is not part of what it is derived from. -/
theorem currentProjection_set_identity
    (hname : (recordSpecs recordType).identityField = some name) (hdata : Acceptable data)
    {value : Json} (hvalue : value.WellFormed) (hheight : value.height ≤ 63) :
    currentProjection recordType (Dict.set data name value) =
      currentProjection recordType data := by
  have hset := hdata.set hvalue hheight name
  refine congrArg (Dict.update _) (Dict.Ordered.ext (hset.withoutExcluded _).ordered
    (hdata.withoutExcluded _).ordered fun key => ?_)
  rw [get?_withoutExcluded, get?_withoutExcluded, Dict.get?_set]
  by_cases hkey : key = name
  · have excluded : (recordSpecs recordType).excludes key = true := by
      simp [RecordSpec.excludes, hkey, hname]
    simp [excluded]
  · simp [hkey]

theorem current_iff (hname : (recordSpecs recordType).identityField = some name)
    (hlabel : (recordSpecs recordType).identityPrefix = some label) (hdata : Acceptable data)
    {record : ForgeRecord} :
    current hashing recordType data = .ok record ↔
      validateFields hashing recordType data = .ok () ∧
        field data name =
          .str (label ++ localJsonDigest hashing (.obj (currentProjection recordType data))) ∧
        record = model recordType data currentSchemaVersion := by
  simp only [current, hname, deriveRecordIdentity_eq hname hlabel hdata, bind_eq_ok,
    refuseIf_eq_ok, Except.ok.injEq, not_not]
  constructor
  · rintro ⟨_, hvalid, _, rfl, _, hidentity, rfl⟩
    exact ⟨hvalid, hidentity, rfl⟩
  · rintro ⟨hvalid, hidentity, rfl⟩
    exact ⟨(), hvalid, _, rfl, (), hidentity, rfl⟩

end Projection

/-! ## New records are current ones -/

section New

variable {hashing : Hashing} {recordType : RecordType} {fields : Dict String Json}
  {record : ForgeRecord}

/-- The identity of a new record is the derived one. -/
private theorem withIdentity_ok {name label : String} {data : Dict String Json}
    (hname : (recordSpecs recordType).identityField = some name)
    (hlabel : (recordSpecs recordType).identityPrefix = some label)
    (hfields : Acceptable fields) (h : withIdentity hashing recordType fields = .ok data) :
    Acceptable data ∧ field data name =
      .str (label ++ localJsonDigest hashing (.obj (currentProjection recordType data))) := by
  simp only [withIdentity, hname, deriveRecordIdentity_eq hname hlabel hfields, bind_eq_ok,
    Except.ok.injEq] at h
  obtain ⟨_, rfl, h⟩ := h
  split at h
  case isTrue =>
    obtain rfl := Except.ok.inj h
    have wellFormed : ∀ text, (Json.str text).WellFormed := fun _ => trivial
    have height : ∀ text, (Json.str text).height ≤ 63 := fun _ => by simp [Json.height]
    refine ⟨hfields.set (wellFormed _) (height _) name, ?_⟩
    rw [currentProjection_set_identity hname hfields (wellFormed _) (height _), field,
      Dict.get?_set, if_pos rfl, Option.getD_some]
  case isFalse =>
    rw [refuseIf_bind_eq_ok, not_not] at h
    obtain ⟨hidentity, h⟩ := h
    obtain rfl := Except.ok.inj h
    exact ⟨hfields, hidentity⟩

theorem newRecord_current (keyed : (Json.obj fields).Keyed)
    (h : newRecord hashing recordType fields = .ok record) :
    ∃ data, Acceptable data ∧ current hashing recordType data = .ok record := by
  simp only [newRecord, refuseIf_bind_eq_ok] at h
  obtain ⟨_, h⟩ := h
  simp only [bind_eq_ok, jsonObject_eq_ok keyed, Except.ok.injEq] at h
  obtain ⟨_, ⟨rfl, hfields⟩, data, hidentity, _, hvalid, rfl⟩ := h
  rcases identity_fields_paired recordType with ⟨hnone, _⟩ | ⟨name, label, hname, hlabel⟩
  · simp only [withIdentity, hnone, Except.ok.injEq] at hidentity
    subst hidentity
    refine ⟨_, hfields, ?_⟩
    simp only [current, hvalid, hnone]
    rfl
  · obtain ⟨hdata, hderived⟩ := withIdentity_ok hname hlabel hfields hidentity
    exact ⟨data, hdata, (current_iff hname hlabel hdata).mpr ⟨hvalid, hderived, rfl⟩⟩

end New

/-! ## What a new record holds -/

mutual

/-- Accepting a value changes nothing in it. -/
theorem asJsonValue_unchanged : ∀ (value : Json) {path : String} {depth : Nat} {result : Json},
    asJsonValue path depth value = .ok result → result = value
  | .null, _, _, _, h | .bool _, _, _, _, h | .int _, _, _, _, h | .str _, _, _, _, h => by
      rw [asJsonValue, refuseIf_bind_eq_ok] at h
      · exact (Except.ok.inj h.2).symm
      all_goals simp
  | .float text, _, _, _, h => by
      rw [asJsonValue, refuseIf_bind_eq_ok, refuseIf_bind_eq_ok] at h
      exact (Except.ok.inj h.2.2).symm
  | .arr items, _, _, _, h => by
      rw [asJsonValue, refuseIf_bind_eq_ok, bind_eq_ok] at h
      obtain ⟨_, accepted, hitems, h⟩ := h
      rw [← Except.ok.inj h, asJsonItems_unchanged items hitems]
  | .obj fields, _, _, _, h => by
      rw [asJsonValue, refuseIf_bind_eq_ok, bind_eq_ok] at h
      obtain ⟨_, accepted, hfields, h⟩ := h
      rw [← Except.ok.inj h, asJsonFields_unchanged fields hfields]

theorem asJsonItems_unchanged : ∀ (items : List Json) {path : String} {depth index : Nat}
    {result : List Json}, asJsonItems path depth index items = .ok result → result = items
  | [], _, _, _, _, h => (Except.ok.inj h).symm
  | item :: items, _, _, _, _, h => by
      simp only [asJsonItems, bind_eq_ok] at h
      obtain ⟨first, hfirst, rest, hrest, h⟩ := h
      rw [← Except.ok.inj h, asJsonValue_unchanged item hfirst, asJsonItems_unchanged items hrest]

theorem asJsonFields_unchanged : ∀ (fields : List (String × Json)) {path : String}
    {depth : Nat} {result : List (String × Json)},
    asJsonFields path depth fields = .ok result → result = fields
  | [], _, _, _, h => (Except.ok.inj h).symm
  | (key, value) :: fields, _, _, _, h => by
      simp only [asJsonFields, bind_eq_ok] at h
      obtain ⟨first, hfirst, rest, hrest, h⟩ := h
      rw [← Except.ok.inj h, asJsonValue_unchanged value hfirst,
        asJsonFields_unchanged fields hrest]

end

/-- A new record holds the given fields, its identity apart. -/
theorem newRecord_get {hashing : Hashing} {recordType : RecordType} {fields : Dict String Json}
    {record : ForgeRecord} (h : newRecord hashing recordType fields = .ok record) :
    record.recordType = recordType ∧ ∀ name, name ≠ "record_type" → name ≠ "schema_version" →
      (recordSpecs recordType).identityField ≠ some name →
        record.get name = field fields name := by
  rw [newRecord, refuseIf_bind_eq_ok] at h
  simp only [bind_eq_ok, jsonObject] at h
  obtain ⟨_, normalized, ⟨value, hvalue, hobject⟩, data, hidentity, _, _, h⟩ := h
  obtain rfl := asJsonValue_unchanged _ hvalue
  obtain rfl := Except.ok.inj hobject
  obtain rfl := Except.ok.inj h
  refine ⟨rfl, fun name htype hversion hother => ?_⟩
  rw [ForgeRecord.get_eq_field htype hversion]
  change field data name = field fields name
  unfold withIdentity at hidentity
  cases hname : (recordSpecs recordType).identityField with
  | none =>
      rw [hname] at hidentity
      rw [Except.ok.inj hidentity]
  | some identityField =>
      simp only [hname, bind_eq_ok] at hidentity
      obtain ⟨expected, _, hidentity⟩ := hidentity
      split at hidentity
      · obtain rfl := Except.ok.inj hidentity
        rw [field, Dict.get?_set, if_neg (fun same => hother (by rw [hname, same])), field]
      · rw [refuseIf_bind_eq_ok] at hidentity
        rw [Except.ok.inj hidentity.2]

/-- A new record passes the check of its type. -/
theorem newRecord_valid {hashing : Hashing} {recordType : RecordType} {fields : Dict String Json}
    {record : ForgeRecord} (h : newRecord hashing recordType fields = .ok record) :
    record.Valid hashing := by
  rw [newRecord, refuseIf_bind_eq_ok] at h
  simp only [bind_eq_ok] at h
  obtain ⟨_, _, _, _, _, _, hvalid, h⟩ := h
  rw [← Except.ok.inj h]
  exact hvalid

/-! ## Changed fields -/

/-- The raw records differ in one member only. -/
def ChangesOnly (name : String) (original raw : Dict String Json) : Prop :=
  Dict.get? raw name ≠ Dict.get? original name ∧
    ∀ key, key ≠ name → Dict.get? raw key = Dict.get? original key

/-- The member takes part in the identity of records of the type. -/
def TakesPart (recordType : RecordType) (name : String) : Prop :=
  (recordSpecs recordType).identityField ≠ none ∧
    (recordSpecs recordType).excludes name = false

section Changed

variable {hashing : Hashing} {recordType : RecordType} {data raw : Dict String Json}
  {record other : ForgeRecord} {name label identityField : String}

private theorem get?_recordData {key : String} (htype : key ≠ "record_type")
    (hversion : key ≠ "schema_version") :
    Dict.get? (recordData raw) key = Dict.get? raw key := by
  rw [recordData, Dict.get?_erase, Dict.get?_erase, if_neg hversion, if_neg htype]

private theorem get?_of_field {text key : String} (h : field data key = .str text) :
    Dict.get? data key = some (.str text) := by
  unfold field at h
  cases hfound : Dict.get? data key with
  | none =>
      rw [hfound] at h
      cases h
  | some value =>
      rw [hfound] at h
      exact congrArg some h

private theorem identityField_data
    (hname : (recordSpecs recordType).identityField = some identityField) :
    identityField ≠ "record_type" ∧ identityField ≠ "schema_version" := by
  have allowed : identityField ∈ (recordSpecs recordType).allowed :=
    List.mem_append_left _ (identityField_required recordType identityField hname).1
  constructor
  · rintro rfl
    exact (metadata_not_allowed recordType).1 allowed
  · rintro rfl
    exact (metadata_not_allowed recordType).2 allowed

private theorem get?_form {form : Dict String Json}
    (hform : form ∈ identityForms recordType data) {key : String}
    (absent : Dict.get? data key = none) : Dict.get? form key = none := by
  unfold identityForms at hform
  split_ifs at hform
  · rcases List.mem_cons.mp hform with rfl | hform
    · exact absent
    · obtain rfl := List.mem_singleton.mp hform
      rw [Dict.get?_erase, absent, ite_self]
  · obtain rfl := List.mem_singleton.mp hform
    exact absent

private theorem legacyProjection_acceptable {spec : RecordSpec} {restore : Bool}
    {form : Dict String Json} (hform : Acceptable form) :
    Acceptable (legacyProjection spec restore form) := by
  have covered := hform.withoutExcluded spec
  cases hpreserved : preserved? (withoutExcluded spec form) with
  | none =>
      rw [legacyProjection_of_not_preserved hpreserved]
      exact covered
  | some pair =>
      unfold legacyProjection
      split_ifs
      · exact covered.restorePreserved hpreserved
      · exact covered

/-- The projection a migration hashes never is a current projection: the metadata is
missing, or else the preserved fields are no longer below `extensions`. -/
private theorem legacyProjection_ne (hdata : Acceptable data)
    (hvalid : validateFields hashing recordType data = .ok ()) {form : Dict String Json}
    (hform : form ∈ identityForms recordType data) :
    legacyProjection (recordSpecs recordType) true form ≠ currentProjection recordType data := by
  intro same
  have accepted : Acceptable (withoutExcluded (recordSpecs recordType) form) :=
    (form_acceptable hdata hform).withoutExcluded _
  cases hpreserved : preserved? (withoutExcluded (recordSpecs recordType) form) with
  | none =>
      rw [legacyProjection_of_not_preserved hpreserved] at same
      have absent : Dict.get? data "record_type" = none :=
        Dict.get?_eq_none_iff.mpr fun h =>
          (metadata_not_allowed recordType).1 (keys_allowed_of_validateFields hvalid _ h)
      have := congrArg (fun d => Dict.get? d "record_type") same
      simp only [get?_currentProjection hdata, get?_withoutExcluded, absent,
        get?_form hform absent, ite_self, Option.none_or, if_true] at this
      cases this
  | some pair =>
      obtain ⟨extensions, unknown⟩ := pair
      refine restorePreserved_extensions_ne accepted hpreserved ?_
      have held := (preserved?_eq_some.mp hpreserved).1
      rw [get?_withoutExcluded_extensions, form_extensions hform] at held
      rw [show restorePreserved (withoutExcluded (recordSpecs recordType) form) = _ from same,
        get?_currentProjection hdata, get?_withoutExcluded_extensions, held, Option.some_or]

/-- A current record whose version is changed to the legacy one. -/
private theorem legacy_refused (collisionFree : Digest.CollisionFree hashing.hexdigest)
    (hname : (recordSpecs recordType).identityField = some identityField)
    (hlabel : (recordSpecs recordType).identityPrefix = some label) (hdata : Acceptable data)
    (h : current hashing recordType data = .ok record) :
    legacy hashing recordType true data ≠ .ok other := by
  intro hlegacy
  obtain ⟨hvalid, hidentity, _⟩ := (current_iff hname hlabel hdata).mp h
  obtain ⟨hmatch, _⟩ := legacy_eq_ok.mp hlegacy
  obtain ⟨form, hform, hsame⟩ := (legacyIdentityMatches_eq_ok hname hlabel).mp hmatch
  refine legacyProjection_ne hdata hvalid hform ?_
  exact digest_inj collisionFree (legacyProjection_acceptable (form_acceptable hdata hform))
    (currentProjection_acceptable hdata) (hsame.symm.trans hidentity)

/-- Two current records with one identity agree on what it covers. -/
private theorem current_covered (collisionFree : Digest.CollisionFree hashing.hexdigest)
    (hname : (recordSpecs recordType).identityField = some identityField)
    (hlabel : (recordSpecs recordType).identityPrefix = some label) (hdata : Acceptable data)
    {data' : Dict String Json} (hdata' : Acceptable data')
    (h : current hashing recordType data = .ok record)
    (h' : current hashing recordType data' = .ok other)
    (identity : field data' identityField = field data identityField) {key : String}
    (covered : (recordSpecs recordType).excludes key = false) (htype : key ≠ "record_type")
    (hversion : key ≠ "schema_version") : Dict.get? data' key = Dict.get? data key := by
  obtain ⟨_, hidentity, _⟩ := (current_iff hname hlabel hdata).mp h
  obtain ⟨_, hidentity', _⟩ := (current_iff hname hlabel hdata').mp h'
  have same := digest_inj collisionFree (currentProjection_acceptable hdata')
    (currentProjection_acceptable hdata)
    (hidentity'.symm.trans (identity.trans hidentity))
  have := congrArg (fun d => Dict.get? d key) same
  simpa only [get?_currentProjection hdata, get?_currentProjection hdata',
    get?_withoutExcluded, covered, htype, hversion, Bool.false_eq_true, if_false,
    Option.or_none] using this

/-- A change of one member the identity covers is refused. -/
theorem changed_refused (collisionFree : Digest.CollisionFree hashing.hexdigest)
    (hdata : Acceptable data) (h : current hashing recordType data = .ok record)
    (keyed : (Json.obj raw).Keyed) (part : TakesPart recordType name)
    (changes : ChangesOnly name record.toJson raw) :
    parseRecord hashing raw recordType ≠ .ok other := by
  obtain ⟨hderived, covered⟩ := part
  obtain ⟨differs, same⟩ := changes
  obtain ⟨identityField, label, hname, hlabel⟩ :=
    (identity_fields_paired recordType).resolve_left fun hnone => hderived hnone.1
  obtain ⟨hvalid, rfl⟩ := current_eq_ok h
  obtain ⟨htype, hversion, hrest⟩ :=
    toJson_metadata (model recordType data currentSchemaVersion) hdata.ordered hvalid
  have unchanged : ∀ key, key ≠ name → field raw key =
      field (model recordType data currentSchemaVersion).toJson key := by
    intro key hkey
    rw [field, field, same key hkey]
  intro hparse
  simp only [parseRecord, normalize, bind_eq_ok, jsonObject_eq_ok keyed] at hparse
  obtain ⟨raw, ⟨rfl, hraw⟩, hnormal⟩ := hparse
  rcases normalizeFields_eq_ok.mp hnormal with
    ⟨noType, noVersion, _⟩ | ⟨_, legacyVersion, hlegacy⟩ | ⟨declaredType, currentVersion, hcurrent⟩
  · -- only one of the two metadata members can have been taken away
    by_cases hkey : "record_type" = name
    · rw [unchanged "schema_version" (by rw [← hkey]; decide), hversion] at noVersion
      cases noVersion
    · rw [unchanged "record_type" hkey, htype] at noType
      cases noType
  · have hkey : name = "schema_version" := by
      by_contra hkey
      rw [unchanged "schema_version" (Ne.symm hkey), hversion] at legacyVersion
      exact absurd legacyVersion
        (show Json.str currentSchemaVersion ≠ .str legacySchemaVersion by decide)
    have hdata' : recordData raw = data := by
      rw [← show recordData (model recordType data currentSchemaVersion).toJson = data from hrest]
      refine Dict.Ordered.ext (recordData_acceptable hraw).ordered
        (((toJson_ordered _).erase _).erase _) fun key => ?_
      simp only [recordData, Dict.get?_erase]
      split_ifs with h₁ h₂
      · rfl
      · rfl
      · exact same key (by rw [hkey]; exact h₁)
    rw [hdata'] at hlegacy
    exact legacy_refused collisionFree hname hlabel hdata h hlegacy
  · have notType : name ≠ "record_type" := by
      rintro rfl
      rw [get?_of_field declaredType, get?_of_field htype] at differs
      exact differs rfl
    have notVersion : name ≠ "schema_version" := by
      rintro rfl
      rw [get?_of_field currentVersion, get?_of_field hversion] at differs
      exact differs rfl
    have original : ∀ key, key ≠ "record_type" → key ≠ "schema_version" →
        Dict.get? (model recordType data currentSchemaVersion).toJson key =
          Dict.get? data key := by
      intro key hkey hkey'
      rw [← get?_recordData hkey hkey', hrest]
      rfl
    obtain ⟨idType, idVersion⟩ := identityField_data hname
    have idOther : identityField ≠ name := by
      rintro rfl
      simp [RecordSpec.excludes, hname] at covered
    have identity : field (recordData raw) identityField = field data identityField := by
      rw [field, get?_recordData idType idVersion, same identityField idOther,
        original identityField idType idVersion, field]
    refine differs ?_
    rw [original name notType notVersion, ← get?_recordData notType notVersion]
    exact current_covered collisionFree hname hlabel hdata (recordData_acceptable hraw) h
      hcurrent identity covered notType notVersion

/-- New records of one identity agree on what it covers. -/
theorem newRecord_agree (collisionFree : Digest.CollisionFree hashing.hexdigest)
    {fields fields' : Dict String Json} (keyed : (Json.obj fields).Keyed)
    (keyed' : (Json.obj fields').Keyed) (h : newRecord hashing recordType fields = .ok record)
    (h' : newRecord hashing recordType fields' = .ok other)
    (same : other.identity = record.identity) (part : TakesPart recordType name) :
    other.get name = record.get name := by
  obtain ⟨hderived, covered⟩ := part
  obtain ⟨identityField, label, hname, hlabel⟩ :=
    (identity_fields_paired recordType).resolve_left fun hnone => hderived hnone.1
  obtain ⟨data, hdata, hcurrent⟩ := newRecord_current keyed h
  obtain ⟨data', hdata', hcurrent'⟩ := newRecord_current keyed' h'
  obtain ⟨_, hidentity, rfl⟩ := (current_iff hname hlabel hdata).mp hcurrent
  obtain ⟨_, hidentity', rfl⟩ := (current_iff hname hlabel hdata').mp hcurrent'
  have identity : field data' identityField = field data identityField := by
    simp only [ForgeRecord.identity, ForgeRecord.textField, model, hname, Option.bind_some,
      get?_of_field hidentity, get?_of_field hidentity', Json.asStr?, Option.some.injEq] at same
    rw [hidentity, hidentity', same]
  unfold ForgeRecord.get
  split_ifs with htype hversion
  · rfl
  · rfl
  · exact congrArg (Option.getD · .null)
      (current_covered collisionFree hname hlabel hdata hdata' hcurrent hcurrent' identity covered
        htype hversion)

end Changed

private def plainHashing : Hashing where
  hexdigest := Digest.verbatim
  jcs value := .ok value.canonicalBytes

private def actionFields : Dict String Json :=
  [("candidate_identity", .str "forge-tree-sha256-v1:00"), ("mode", .str "development"),
   ("protocol_request_identity", .null), ("requested_at", .str "2024"),
   ("workflow", .str "check")]

private def action : ForgeRecord :=
  model .workflowAction
    (("action_id", .str ("workflow-action:" ++ localJsonDigest plainHashing
        (.obj (currentProjection .workflowAction actionFields)))) :: actionFields)
    currentSchemaVersion

end MncsForge.Records
