import Mathlib
import MncsForge.Records.Validation

/-!
# Identities and migrations

A record names itself by the digest of its other fields.  Records written before
the schema was versioned are read through a migration: their identity is checked
against the historical digest, fields the schema does not know are moved below
`extensions`, and the result is declared with the legacy version.
-/

namespace MncsForge.Records

open MncsForge.Foundation

variable (hashing : Hashing)

/-- The digest part of `local_json_identity`: what follows its only colon. -/
def localJsonDigest (value : Json) : String :=
  hashing.hexdigest value.canonicalBytes

/-- A field the self-identity does not cover. -/
def RecordSpec.excludes (spec : RecordSpec) (name : String) : Bool :=
  spec.identityField = some name || name ∈ spec.identityExclusions

def withoutExcluded (spec : RecordSpec) (fields : Dict String Json) : Dict String Json :=
  fields.filter fun entry => !spec.excludes entry.1

/-! ## Current identities -/

def identityFields : Dict String Json → Except ForgeError (Dict String Json)
  | [] => .ok []
  | (key, value) :: fields => do
      let value ← asJsonValue s!"identity.{key}" 0 value
      let fields ← identityFields fields
      .ok ((key, value) :: fields)

def identityProjection (recordType : RecordType) (fields : Dict String Json) :
    Except ForgeError (Dict String Json) := do
  let spec := recordSpecs recordType
  refuseIf (spec.identityField = none) "RECORD_IDENTITY"
    s!"{recordType.value} has no record-derived identity"
  let covered ← identityFields (withoutExcluded spec fields)
  .ok (Dict.update
    [("record_type", .str recordType.value), ("schema_version", .str currentSchemaVersion)]
    covered)

def deriveRecordIdentity (recordType : RecordType) (fields : Dict String Json) :
    Except ForgeError String :=
  match (recordSpecs recordType).identityPrefix with
  | none =>
      .error ⟨"RECORD_IDENTITY", s!"{recordType.value} has no record-derived identity"⟩
  | some label => do
      let projection ← identityProjection recordType fields
      .ok (label ++ localJsonDigest hashing (.obj projection))

/-! ## Legacy identities -/

/-- The fields a migration preserved, when the projection carries them. -/
def preserved? (projection : Dict String Json) :
    Option (Dict String Json × Dict String Json) :=
  match Dict.get? projection "extensions" with
  | some (.obj extensions) =>
      match Dict.get? extensions "legacy_unknown_fields" with
      | some (.obj unknown) => some (extensions, unknown)
      | _ => none
  | _ => none

def restorePreserved (projection : Dict String Json) : Dict String Json :=
  match preserved? projection with
  | none => projection
  | some (extensions, unknown) =>
      let remaining := Dict.erase extensions "legacy_unknown_fields"
      let projection :=
        if remaining = [] then Dict.erase projection "extensions"
        else Dict.set projection "extensions" (.obj remaining)
      Dict.update projection unknown

def legacyProjection (spec : RecordSpec) (restore : Bool) (fields : Dict String Json) :
    Dict String Json :=
  if restore then restorePreserved (withoutExcluded spec fields)
  else withoutExcluded spec fields

def legacyIdentity (recordType : RecordType) (restore : Bool) (fields : Dict String Json) :
    Except ForgeError String :=
  let spec := recordSpecs recordType
  match spec.identityField, spec.identityPrefix with
  | some _, some label =>
      .ok (label ++ localJsonDigest hashing (.obj (legacyProjection spec restore fields)))
  | _, _ => .error ⟨"RECORD_IDENTITY", s!"{recordType.value} has no record-derived identity"⟩

def legacyIdentityMatches (recordType : RecordType) (restore : Bool)
    (fields : Dict String Json) : Except ForgeError Bool :=
  match (recordSpecs recordType).identityField with
  | none => .ok true
  | some identityField => do
      let supplied := field fields identityField
      let expected ← legacyIdentity hashing recordType restore fields
      if supplied = .str expected then .ok true
      else if recordType ∈ legacyCandidateSubjectRecords ∧
          field fields "subject_type" = .str "candidate" then do
        let expected ←
          legacyIdentity hashing recordType restore (Dict.erase fields "subject_type")
        .ok (decide (supplied = .str expected))
      else .ok false

/-! ## The migration -/

/-- Workflow results were candidate-scoped before they named their subject. -/
def withSubjectType (recordType : RecordType) (fields : Dict String Json) :
    Dict String Json :=
  if recordType ∈ legacyCandidateSubjectRecords ∧ "subject_type" ∉ Dict.keys fields then
    Dict.set fields "subject_type" (.str "candidate")
  else fields

def unknownFields (spec : RecordSpec) (fields : Dict String Json) : Dict String Json :=
  fields.filter fun entry => entry.1 ∉ spec.allowed

def knownFields (spec : RecordSpec) (fields : Dict String Json) : Dict String Json :=
  fields.filter fun entry => entry.1 ∈ spec.allowed

/-- The extensions a record already has, as an object. -/
def existingExtensions (fields : Dict String Json) :
    Except ForgeError (Dict String Json) :=
  match Dict.get? fields "extensions" with
  | none | some .null => .ok []
  | some (.obj extensions) => .ok extensions
  | some _ => .error ⟨"RECORD_MALFORMED", "record extensions must be an object"⟩

def preserveUnknown (spec : RecordSpec) (fields : Dict String Json) :
    Except ForgeError (Dict String Json) :=
  if unknownFields spec fields = [] then .ok fields
  else do
    let known := knownFields spec fields
    let extensions ← existingExtensions known
    refuseIf ("legacy_unknown_fields" ∈ Dict.keys extensions) "RECORD_EXTENSION_CONFLICT"
      "legacy extensions conflict with the migration preservation key"
    .ok (Dict.set known "extensions"
      (.obj (Dict.set extensions "legacy_unknown_fields"
        (.obj (unknownFields spec fields)))))

def model (recordType : RecordType) (fields : Dict String Json)
    (sourceSchemaVersion : String) : ForgeRecord where
  recordType := recordType
  schemaVersion := sourceSchemaVersion
  fields := fields
  sourceSchemaVersion := sourceSchemaVersion

def legacy (recordType : RecordType) (restore : Bool) (fields : Dict String Json) :
    Except ForgeError ForgeRecord := do
  let identityMatches ← legacyIdentityMatches hashing recordType restore fields
  refuseIf (identityMatches = false) "RECORD_IDENTITY"
    s!"legacy {recordType.value} identity does not reproduce historically"
  let fields ←
    preserveUnknown (recordSpecs recordType) (withSubjectType recordType fields)
  validateFields hashing recordType fields
  .ok (model recordType fields legacySchemaVersion)

def current (recordType : RecordType) (fields : Dict String Json) :
    Except ForgeError ForgeRecord := do
  validateFields hashing recordType fields
  match (recordSpecs recordType).identityField with
  | none => .ok (model recordType fields currentSchemaVersion)
  | some identityField => do
      let expected ← deriveRecordIdentity hashing recordType fields
      refuseIf (field fields identityField ≠ .str expected) "RECORD_IDENTITY"
        s!"{recordType.value} record-derived identity does not reproduce"
      .ok (model recordType fields currentSchemaVersion)

/-- The members of a raw record that are not its metadata. -/
def recordData (raw : Dict String Json) : Dict String Json :=
  Dict.erase (Dict.erase raw "record_type") "schema_version"

def normalizeFields (expected : RecordType) (raw : Dict String Json) :
    Except ForgeError ForgeRecord := do
  let declaredType := field raw "record_type"
  let declaredVersion := field raw "schema_version"
  if declaredType = .null ∧ declaredVersion = .null then
    legacy hashing expected false (recordData raw)
  else do
    refuseIf (declaredType = .null ∨ declaredVersion = .null) "RECORD_METADATA"
      "record metadata is incomplete"
    refuseIf (declaredType ≠ .str expected.value) "RECORD_TYPE_MISMATCH"
      s!"trusted context expects {expected.value}, record declares {declaredType.display}"
    if declaredVersion = .str legacySchemaVersion then
      legacy hashing expected true (recordData raw)
    else do
      refuseIf (declaredVersion ≠ .str currentSchemaVersion) "UNSUPPORTED_RECORD_VERSION"
        s!"unsupported {expected.value} schema version: {declaredVersion.display}"
      current hashing expected (recordData raw)

/-- `MigrationRegistry.normalize`. -/
def normalize (expected : RecordType) (raw : Dict String Json) :
    Except ForgeError ForgeRecord := do
  let data ← jsonObject (.obj raw) "record"
  normalizeFields hashing expected data

def parseRecord (raw : Dict String Json) (expected : RecordType) :
    Except ForgeError ForgeRecord :=
  normalize hashing expected raw

end MncsForge.Records
