import Mathlib
import MncsForge.Foundation.Fresh
import MncsForge.Ledger.Index
import MncsForge.Records.Construction

/-!
# The Store-backed history

The Store keeps durable objects; Forge gives each a domain schema, a domain
identity, a descriptor and a payload, and reads the current generation back as
ledger entries.  The Store application itself is a parameter: what it documents
of one publication is `EmbeddedStore.Documented`.
-/

namespace MncsForge.Store

open MncsForge.Foundation MncsForge.Records MncsForge.Ledger

/-! ## Encoded text -/

/-- `str.encode()`. -/
def encode (text : String) : List UInt8 :=
  text.toUTF8.data.toList

/-- `bytes.decode()`, with `none` for bytes that are not UTF-8. -/
def decode? (bytes : List UInt8) : Option String :=
  String.fromUTF8? ⟨bytes.toArray⟩

theorem decode?_encode (text : String) : decode? (encode text) = some text := by
  have same : ByteArray.mk (encode text).toArray = text.toByteArray :=
    ByteArray.ext Array.toArray_toList
  rw [decode?, same, String.fromUTF8?, dif_pos text.isValidUTF8]
  rfl

theorem encode_injective : Function.Injective encode := by
  intro first second h
  have := congrArg decode? h
  rw [decode?_encode, decode?_encode] at this
  exact Option.some.inj this

/-! ## Objects -/

structure StoredObject where
  ordinal : Nat
  domainSchema : List UInt8
  domainIdentity : List UInt8
  descriptor : List UInt8
  payload : List UInt8
  deriving DecidableEq

structure BoundObjectInput where
  domainSchema : List UInt8
  domainIdentity : List UInt8
  descriptor : List UInt8
  payload : List UInt8
  deriving DecidableEq

/-- What the Store identifies an object by. -/
abbrev LogicalId : Type := List UInt8 × List UInt8

def StoredObject.logicalId (stored : StoredObject) : LogicalId :=
  (stored.domainSchema, stored.domainIdentity)

namespace BoundObjectInput

def logicalId (input : BoundObjectInput) : LogicalId :=
  (input.domainSchema, input.domainIdentity)

/-- The object that an input becomes. -/
def stored (input : BoundObjectInput) (ordinal : Nat) : StoredObject where
  ordinal := ordinal
  domainSchema := input.domainSchema
  domainIdentity := input.domainIdentity
  descriptor := input.descriptor
  payload := input.payload

end BoundObjectInput

def storedFrom (ordinal : Nat) : List BoundObjectInput → List StoredObject
  | [] => []
  | input :: inputs => input.stored ordinal :: storedFrom (ordinal + 1) inputs

/-- The objects after one publication: what is not held yet, in the order of the
batch, under the next ordinals. -/
def publish (objects : List StoredObject) (inputs : List BoundObjectInput) :
    List StoredObject :=
  objects ++ storedFrom (objects.length + 1)
    (fresh BoundObjectInput.logicalId (objects.map StoredObject.logicalId) inputs)

/-- The Store holds this content under this identity. -/
def Holds (objects : List StoredObject) (input : BoundObjectInput) : Prop :=
  ∃ stored ∈ objects, stored.logicalId = input.logicalId ∧ stored.payload = input.payload

structure StoreError where
  code : String
  message : String

structure PutResult where
  code : String
  observedGeneration : Nat

/-- The calls that Forge makes of the Store application, over its states. -/
structure EmbeddedStore (σ : Type) where
  currentGeneration : σ → Nat
  currentObjects : σ → List StoredObject
  putBoundObjects : List BoundObjectInput → Nat → σ → Except StoreError PutResult × σ

/-- `put_bound_objects` as the Store documents it: one atomic publication that
keeps what is held, or no change. -/
structure EmbeddedStore.Documented {σ : Type} (store : EmbeddedStore σ) : Prop where
  unpublished : ∀ inputs expected s,
    (∀ result, (store.putBoundObjects inputs expected s).1 = .ok result →
      result.code ≠ "COMMITTED") →
    store.currentObjects (store.putBoundObjects inputs expected s).2 = store.currentObjects s
  published : ∀ inputs expected s result,
    (store.putBoundObjects inputs expected s).1 = .ok result → result.code = "COMMITTED" →
    store.currentObjects (store.putBoundObjects inputs expected s).2 =
        publish (store.currentObjects s) inputs ∧
      ∀ input ∈ inputs, Holds (publish (store.currentObjects s) inputs) input
  duplicate : ∀ inputs expected s result,
    (store.putBoundObjects inputs expected s).1 = .ok result → result.code = "DUPLICATE" →
    ∀ input ∈ inputs, Holds (store.currentObjects s) input

/-! ## Binding -/

/-- `persisted_record_context`. -/
def persistedRecordContext (group kind : String) : Except ForgeError PersistedRecordContext :=
  match recordContext? kind with
  | none => .error ⟨"RECORD_CONTEXT", s!"unsupported ledger kind: {kind}"⟩
  | some context => do
      refuseIf (context.group ≠ group) "RECORD_CONTEXT"
        s!"ledger kind {kind} requires immutable group {context.group}, got {group}"
      .ok context

def domainSchema (ledgerKind : String) : List UInt8 :=
  encode s!"mncs-forge.record/{ledgerKind}/{currentSchemaVersion}"

def domainIdentity (record : ForgeRecord) (identityField : String) :
    Except ForgeError (List UInt8) :=
  match record.get identityField with
  | .str identity => do
      refuseIf (identity = "") "RECORD_IDENTITY"
        s!"record requires string identity field {identityField}"
      .ok (encode identity)
  | _ => .error ⟨"RECORD_IDENTITY", s!"record requires string identity field {identityField}"⟩

def descriptorPrefix : List UInt8 :=
  encode "mncs-forge.store.descriptor/1\n"

/-- The object behind a descriptor. -/
def descriptorFields (recordGroup ledgerKind identityField timestamp sourceSchemaVersion : String)
    (provenance : Dict String Json) : Dict String Json :=
  [("identity_field", .str identityField),
   ("ledger_kind", .str ledgerKind),
   ("provenance", .obj provenance),
   ("record_group", .str recordGroup),
   ("schema_version", .str "1"),
   ("source_schema_version", .str sourceSchemaVersion),
   ("timestamp", .str timestamp)]

/-- `_descriptor`; what Forge commits itself names `forge-native` as its origin. -/
def descriptor (recordGroup ledgerKind identityField timestamp : String) : List UInt8 :=
  descriptorPrefix ++ (Json.obj (descriptorFields recordGroup ledgerKind identityField timestamp
    currentSchemaVersion [("origin", .str "forge-native")])).canonicalBytes

section Reading

-- SHA-256 with the receipt encoder, and `json.loads`, which answers `none` for
-- what it raises.
variable (hashing : Hashing) (loads : List UInt8 → Option Json)

/-- `_json_object`. -/
def jsonObjectOf (value : List UInt8) (label : String) : Except ForgeError (Dict String Json) :=
  match loads value with
  | none => .error ⟨"STORE_DESCRIPTOR_MALFORMED", s!"{label} is not canonical JSON"⟩
  | some (.obj fields) => .ok fields
  | some _ => .error ⟨"STORE_DESCRIPTOR_MALFORMED", s!"{label} is not an object"⟩

def descriptorRequired : List String :=
  ["identity_field", "ledger_kind", "provenance", "record_group", "schema_version",
   "source_schema_version", "timestamp"]

def descriptorTexts : List String :=
  ["record_group", "ledger_kind", "identity_field", "timestamp", "source_schema_version"]

def decodeDescriptor (raw : List UInt8) : Except ForgeError (Dict String Json) := do
  refuseIf (descriptorPrefix.isPrefixOf raw = false) "STORE_DESCRIPTOR_MALFORMED"
    "Store descriptor is not Forge descriptor v1"
  let value ← jsonObjectOf loads (raw.drop descriptorPrefix.length) "Forge Store descriptor"
  refuseIf (Dict.sortedSet (Dict.keys value) ≠ descriptorRequired ∨
      field value "schema_version" ≠ .str "1") "STORE_DESCRIPTOR_MALFORMED"
    "Forge Store descriptor shape is invalid"
  refuseIf (∃ key ∈ descriptorTexts, (field value key).asStr? = none)
    "STORE_DESCRIPTOR_MALFORMED" "Forge Store descriptor text fields are invalid"
  refuseIf ((field value "provenance").asObj? = none) "STORE_DESCRIPTOR_MALFORMED"
    "Forge Store provenance is not an object"
  .ok value

/-- `str(descriptor[key])` of a text field. -/
def descriptorText (value : Dict String Json) (key : String) : String :=
  ((field value key).asStr?).getD ""

/-- `_entry_for_object` behind the checks of the descriptor. -/
def boundEntry (stored : StoredObject) (kind timestamp sourceSchemaVersion : String)
    (context : PersistedRecordContext) : Except ForgeError LedgerEntry := do
  refuseIf (stored.domainSchema ≠ domainSchema kind) "STORE_BINDING_MISMATCH"
    "Forge domain schema binding differs"
  refuseIf (decode? stored.domainIdentity = none) "STORE_BINDING_MISMATCH"
    "Forge domain identity is not UTF-8"
  let raw ← jsonObjectOf loads stored.payload "Forge Store record payload"
  let record ← parseRecord hashing raw context.recordType
  refuseIf (record.get context.identityField ≠ Json.ofText (decode? stored.domainIdentity))
    "STORE_BINDING_MISMATCH" "Forge record identity differs from Store binding"
  .ok
    { sequence := stored.ordinal
      timestamp := timestamp
      kind := kind
      previousHash := if stored.ordinal = 1 then genesis else ""
      payload := record
      entryHash := ""
      schemaVersion := currentSchemaVersion
      sourceSchemaVersion := sourceSchemaVersion }

def entryForObject (stored : StoredObject) : Except ForgeError LedgerEntry := do
  let value ← decodeDescriptor loads stored.descriptor
  let kind := descriptorText value "ledger_kind"
  let context ← persistedRecordContext (descriptorText value "record_group") kind
  boundEntry hashing loads stored kind (descriptorText value "timestamp")
    (descriptorText value "source_schema_version") context

/-- The members that the hash of a projected entry covers. -/
def projectionBody (entry : LedgerEntry) (previous : String) : Json :=
  .obj
    [("kind", .str entry.kind),
     ("payload", .obj entry.payload.toJson),
     ("previous_hash", .str previous),
     ("record_type", .str ledgerEntryType),
     ("schema_version", .str currentSchemaVersion),
     ("sequence", .int entry.sequence),
     ("timestamp", .str entry.timestamp)]

/-- The loop of `_with_projection_hashes`. -/
def withProjectionHashes (previous : String) : List LedgerEntry → List LedgerEntry
  | [] => []
  | entry :: entries =>
      let entryHash := hashing.hexdigest (projectionBody entry previous).canonicalBytes
      { entry with
        previousHash := previous
        entryHash := entryHash
        schemaVersion := currentSchemaVersion } :: withProjectionHashes entryHash entries

/-- `_all_entries`; `failure` is what reading the objects raises.  A projection
kept for the same generation is the same list. -/
def allEntries (failure : Option String) (objects : List StoredObject) :
    Except ForgeError (List LedgerEntry) :=
  match failure with
  | some error => .error ⟨"STORE_INTEGRITY", s!"cannot project Store records: {error}"⟩
  | none => do
      let entries ← objects.mapM (entryForObject hashing loads)
      let entries := entries.mergeSort fun first second => first.sequence ≤ second.sequence
      refuseIf (entries.map LedgerEntry.sequence ≠ countFrom 1 entries.length)
        "STORE_ORDER_INVALID" "Store ordinals are not a contiguous Forge history"
      .ok (withProjectionHashes hashing genesis entries)

end Reading

/-! ## What a binding reads back as -/

theorem persistedRecordContext_eq_ok {group kind : String} {context : PersistedRecordContext} :
    persistedRecordContext group kind = .ok context ↔
      recordContext? kind = some context ∧ context.group = group := by
  unfold persistedRecordContext
  cases recordContext? kind with
  | none => simp
  | some found =>
      simp only [refuseIf_bind_eq_ok, ne_eq, not_not, Except.ok.injEq, Option.some.injEq]
      constructor
      · rintro ⟨same, rfl⟩
        exact ⟨rfl, same⟩
      · rintro ⟨rfl, same⟩
        exact ⟨same, rfl⟩

theorem domainIdentity_eq_ok {record : ForgeRecord} {identityField : String}
    {identity : List UInt8} :
    domainIdentity record identityField = .ok identity ↔
      ∃ text, record.get identityField = .str text ∧ text ≠ "" ∧ identity = encode text := by
  unfold domainIdentity
  cases record.get identityField with
  | str text =>
      simp only [refuseIf_bind_eq_ok, Except.ok.injEq, Json.str.injEq, exists_eq_left']
      rw [eq_comm (a := encode text)]
  | _ => simp

/-- `json.loads` undoes `canonical_bytes`. -/
def LoadsCanonical (loads : List UInt8 → Option Json) : Prop :=
  ∀ value : Json, value.WellFormed → loads value.canonicalBytes = some value

open Classical in
/-- A decoder of the bytes that `canonical_bytes` writes. -/
noncomputable def canonicalLoads (bytes : List UInt8) : Option Json :=
  if h : ∃ value : Json, value.WellFormed ∧ value.canonicalBytes = bytes then some h.choose
  else none

theorem canonicalLoads_loadsCanonical : LoadsCanonical canonicalLoads := by
  intro value wellFormed
  have written : ∃ other : Json, other.WellFormed ∧
      other.canonicalBytes = value.canonicalBytes := ⟨value, wellFormed, rfl⟩
  rw [canonicalLoads, dif_pos written]
  exact congrArg some
    (Json.canonicalBytes_injective written.choose_spec.1 wellFormed written.choose_spec.2)

section Binding

variable {hashing : Hashing} {loads : List UInt8 → Option Json}

theorem descriptorFields_wellFormed (group kind identityField timestamp : String) :
    (Json.obj (descriptorFields group kind identityField timestamp currentSchemaVersion
      [("origin", .str "forge-native")])).WellFormed := by
  refine Json.wellFormed_obj_iff.mpr ⟨?_, ?_⟩
  · show List.Pairwise (· < ·) descriptorRequired
    decide
  · intro entry member
    simp only [descriptorFields, List.mem_cons, List.not_mem_nil, or_false] at member
    rcases member with rfl | rfl | rfl | rfl | rfl | rfl | rfl
    case inr.inr.inl => exact (by decide : (Json.obj [("origin", .str "forge-native")]).WellFormed)
    all_goals trivial

theorem decodeDescriptor_descriptor (decodes : LoadsCanonical loads)
    (group kind identityField timestamp : String) :
    decodeDescriptor loads (descriptor group kind identityField timestamp) =
      .ok (descriptorFields group kind identityField timestamp currentSchemaVersion
        [("origin", .str "forge-native")]) := by
  have loaded := decodes _ (descriptorFields_wellFormed group kind identityField timestamp)
  have keys : Dict.sortedSet descriptorRequired = descriptorRequired := by decide
  have leads : descriptorPrefix.isPrefixOf
      (descriptor group kind identityField timestamp) = true :=
    List.isPrefixOf_iff_prefix.mpr (List.prefix_append _ _)
  rw [decodeDescriptor, refuseIf_bind_eq_ok]
  refine ⟨by simp [leads], ?_⟩
  rw [descriptor, List.drop_left, jsonObjectOf, loaded]
  refine refuseIf_bind_eq_ok.mpr ⟨?_, refuseIf_bind_eq_ok.mpr ⟨?_,
    refuseIf_bind_eq_ok.mpr ⟨by simp [descriptorFields, field, Dict.get?, Json.asObj?], rfl⟩⟩⟩
  · rintro (shape | version)
    · exact shape keys
    · exact version rfl
  · simp [descriptorTexts, descriptorFields, field, Dict.get?, Json.asStr?]

/-- What binds an object to a record: the three tests of the projection. -/
theorem boundEntry_eq_ok {stored : StoredObject} {kind timestamp source : String}
    {context : PersistedRecordContext} {entry : LedgerEntry} :
    boundEntry hashing loads stored kind timestamp source context = .ok entry ↔
      stored.domainSchema = domainSchema kind ∧
        ∃ identity, decode? stored.domainIdentity = some identity ∧
          ∃ raw, loads stored.payload = some (.obj raw) ∧
            ∃ record, parseRecord hashing raw context.recordType = .ok record ∧
              record.get context.identityField = .str identity ∧
              entry =
                { sequence := stored.ordinal
                  timestamp := timestamp
                  kind := kind
                  previousHash := if stored.ordinal = 1 then genesis else ""
                  payload := record
                  entryHash := ""
                  schemaVersion := currentSchemaVersion
                  sourceSchemaVersion := source } := by
  have object : ∀ value label raw,
      jsonObjectOf loads value label = .ok raw ↔ loads value = some (.obj raw) := by
    intro value label raw
    unfold jsonObjectOf
    split <;> simp_all
  cases hidentity : decode? stored.domainIdentity with
  | none => simp [boundEntry, refuseIf_bind_eq_ok, hidentity]
  | some identity =>
      simp only [boundEntry, bind_eq_ok, refuseIf_eq_ok, object, hidentity, ne_eq, not_not,
        Json.ofText, reduceCtorEq, not_false_eq_true, true_and, exists_const, Except.ok.injEq,
        Option.some.injEq, exists_eq_left', eq_comm (a := entry)]

theorem entryForObject_eq_ok {stored : StoredObject} {entry : LedgerEntry} :
    entryForObject hashing loads stored = .ok entry ↔
      ∃ value, decodeDescriptor loads stored.descriptor = .ok value ∧
        ∃ context, recordContext? (descriptorText value "ledger_kind") = some context ∧
          context.group = descriptorText value "record_group" ∧
          boundEntry hashing loads stored (descriptorText value "ledger_kind")
            (descriptorText value "timestamp") (descriptorText value "source_schema_version")
            context = .ok entry := by
  simp only [entryForObject, bind_eq_ok, persistedRecordContext_eq_ok, and_assoc]

theorem entryForObject_sequence {stored : StoredObject} {entry : LedgerEntry}
    (h : entryForObject hashing loads stored = .ok entry) : entry.sequence = stored.ordinal := by
  obtain ⟨_, _, _, _, _, h⟩ := entryForObject_eq_ok.mp h
  obtain ⟨_, _, _, _, _, _, _, _, rfl⟩ := boundEntry_eq_ok.mp h
  rfl

end Binding

/-! ## The projected history -/

section History

variable {hashing : Hashing} {loads : List UInt8 → Option Json}

/-- Every object reads back, and the ordinals have no gap. -/
def Projects (hashing : Hashing) (loads : List UInt8 → Option Json)
    (objects : List StoredObject) (entries : List LedgerEntry) : Prop :=
  objects.mapM (entryForObject hashing loads) = .ok entries ∧
    (entries.map LedgerEntry.sequence).Perm (countFrom 1 entries.length)

/-- The projection of what was read: in order, and hashed. -/
def projected (hashing : Hashing) (entries : List LedgerEntry) : List LedgerEntry :=
  withProjectionHashes hashing genesis
    (entries.mergeSort fun first second => first.sequence ≤ second.sequence)

theorem allEntries_eq_ok {objects : List StoredObject} {entries : List LedgerEntry} :
    allEntries hashing loads none objects = .ok entries ↔
      ∃ read, Projects hashing loads objects read ∧ entries = projected hashing read := by
  simp only [allEntries, bind_eq_ok, refuseIf_eq_ok, ne_eq, not_not, exists_const,
    Except.ok.injEq, Projects, and_assoc]
  refine exists_congr fun read => and_congr_right fun _ => ?_
  have perm := List.mergeSort_perm read fun first second => first.sequence ≤ second.sequence
  have ordered : ((read.mergeSort fun first second =>
      decide (first.sequence ≤ second.sequence)).map LedgerEntry.sequence).Pairwise (· ≤ ·) := by
    refine List.pairwise_map.mpr ((List.pairwise_mergeSort ?_ ?_ read).imp of_decide_eq_true)
    · simp only [decide_eq_true_eq]
      omega
    · simp only [Bool.or_eq_true, decide_eq_true_eq]
      omega
  have gapless := sorted_eq_countFrom_iff (perm.map LedgerEntry.sequence) ordered
  simp only [List.length_map] at gapless
  rw [gapless, projected, eq_comm (b := entries)]

theorem withProjectionHashes_map {α : Type} (f : LedgerEntry → α)
    (hf : ∀ entry previous entryHash version, f
      { entry with
        previousHash := previous, entryHash := entryHash, schemaVersion := version } = f entry)
    (previous : String) (entries : List LedgerEntry) :
    (withProjectionHashes hashing previous entries).map f = entries.map f := by
  induction entries generalizing previous with
  | nil => rfl
  | cons entry entries ih => rw [withProjectionHashes, List.map_cons, List.map_cons, hf, ih]

/-- Order and hashes apart, the projection is what was read. -/
theorem projected_map_perm {α : Type} (f : LedgerEntry → α)
    (hf : ∀ entry previous entryHash version, f
      { entry with
        previousHash := previous, entryHash := entryHash, schemaVersion := version } = f entry)
    (entries : List LedgerEntry) :
    ((projected hashing entries).map f).Perm (entries.map f) := by
  rw [projected, withProjectionHashes_map f hf]
  exact (List.mergeSort_perm entries _).map f

/-- A publication projects exactly when the history before it does, given that the
new objects read back. -/
theorem projects_append {objects : List StoredObject} {count : Nat}
    {added : List StoredObject} {addedEntries entries : List LedgerEntry}
    (reads : added.mapM (entryForObject hashing loads) = .ok addedEntries)
    (numbered : addedEntries.map LedgerEntry.sequence = countFrom (objects.length + 1) count) :
    Projects hashing loads (objects ++ added) entries ↔
      ∃ read, Projects hashing loads objects read ∧ entries = read ++ addedEntries := by
  have counted : addedEntries.length = count := by
    rw [← List.length_map LedgerEntry.sequence, numbered, length_countFrom]
  have gapless : ∀ read : List LedgerEntry, read.length = objects.length →
      (((read ++ addedEntries).map LedgerEntry.sequence).Perm
          (countFrom 1 (read ++ addedEntries).length) ↔
        (read.map LedgerEntry.sequence).Perm (countFrom 1 read.length)) := by
    intro read same
    have next := @append_countFrom_perm_iff (read.map LedgerEntry.sequence) count
    rw [List.length_map, same] at next
    rw [List.map_append, numbered, List.length_append, counted, same]
    exact next
  simp only [Projects, List.mapM_append, bind_eq_ok, reads, pure, Except.pure, Except.ok.injEq,
    exists_eq_left']
  constructor
  · rintro ⟨⟨read, all, rfl⟩, perm⟩
    exact ⟨read, ⟨all, (gapless read (mapM_length all).symm).mp perm⟩, rfl⟩
  · rintro ⟨read, ⟨all, perm⟩, rfl⟩
    exact ⟨⟨read, all, rfl⟩, (gapless read (mapM_length all).symm).mpr perm⟩

end History

end MncsForge.Store
