import Mathlib
import MncsForge.Store.Projection

/-!
# Committing a batch

`commit_batch` prepares one Store object for each record, publishes them in one
generation and then looks each record up again in the whole history, by the value
of its identity field.  The publication is durable before the lookup is made.
-/

namespace MncsForge.Store

open MncsForge.Foundation MncsForge.Records MncsForge.Ledger

/-! ## Preparing -/

/-- The records that the record model builds. -/
def Built (hashing : Hashing) (record : ForgeRecord) : Prop :=
  (∃ fields, (Json.obj fields).Keyed ∧
      newRecord hashing record.recordType fields = .ok record) ∨
    ∃ raw, (Json.obj raw).Keyed ∧ parseRecord hashing raw record.recordType = .ok record

structure BatchItem (hashing : Hashing) where
  recordGroup : String
  ledgerKind : String
  record : ForgeRecord
  built : Built hashing record

/-- One element of `prepared`, with its element of `objects`. -/
structure Prepared (hashing : Hashing) where
  item : BatchItem hashing
  identityField : String
  input : BoundObjectInput

section Commit

-- As in the projection, and the Store application.
variable (hashing : Hashing) (loads : List UInt8 → Option Json) {σ : Type}
  (store : EmbeddedStore σ)

def prepareItem (timestamp : String) (item : BatchItem hashing) :
    Except ForgeError (Prepared hashing) := do
  let context ← persistedRecordContext item.recordGroup item.ledgerKind
  refuseIf (item.record.recordType ≠ context.recordType) "RECORD_TYPE_MISMATCH"
    s!"storage context requires {context.recordType.value}, got {item.record.recordType.value}"
  refuseIf (item.record.schemaVersion ≠ currentSchemaVersion) "RECORD_VERSION_WRITE"
    "new records require schema version 1"
  let identity ← domainIdentity item.record context.identityField
  let payload := (Json.obj item.record.toJson).canonicalBytes
  refuseIf (4000000 < payload.length) "RECORD_SIZE"
    "Forge record exceeds the Store object byte limit"
  .ok
    { item := item
      identityField := context.identityField
      input :=
        { domainSchema := domainSchema item.ledgerKind
          domainIdentity := identity
          descriptor :=
            descriptor item.recordGroup item.ledgerKind context.identityField timestamp
          payload := payload } }

/-- The loop over the batch; `clock` is read once for each item. -/
def prepareFrom (clock : Nat → String) (index : Nat) :
    List (BatchItem hashing) → Except ForgeError (List (Prepared hashing))
  | [] => .ok []
  | item :: items => do
      let prepared ← prepareItem hashing (clock index) item
      let rest ← prepareFrom clock (index + 1) items
      .ok (prepared :: rest)

/-! ## Publishing -/

def storeFailure (error : StoreError) : ForgeError :=
  if error.code = "IDENTITY_CONFLICT" then ⟨"RECORD_EXISTS", error.message⟩
  else if error.code = "STALE_GENERATION" then ⟨"STORE_STALE_GENERATION", error.message⟩
  else if error.code = "PLATFORM_UNSUPPORTED" then
    ⟨"STORE_PLATFORM_UNSUPPORTED", error.message⟩
  else if error.code = "INTEGRITY_FAILURE" then ⟨"STORE_INTEGRITY", error.message⟩
  else ⟨s!"STORE_{error.code}", error.message⟩

/-- The tests on what the Store answers. -/
def requirePublished (expected : Nat) : Except StoreError PutResult → Except ForgeError Unit
  | .error error => .error (storeFailure error)
  | .ok result => do
      refuseIf (result.code = "STALE_GENERATION") "STORE_STALE_GENERATION"
        s!"Store expected generation {expected}, observed {result.observedGeneration}; retry is consumer policy"
      refuseIf (result.code ∉ ["COMMITTED", "DUPLICATE"]) "STORE_COMMIT_REJECTED"
        s!"Store returned {result.code}"

/-! ## Looking up -/

/-- The clock, and what the reads and writes outside the Store object raise. -/
structure Surroundings where
  clock : Nat → String
  objectsFailure : Option String
  indexFailure : Option String

/-- The record carries the identity value of the prepared one. -/
def Prepared.sameIdentity {hashing : Hashing} (prepared : Prepared hashing)
    (record : ForgeRecord) : Bool :=
  record.get prepared.identityField = prepared.item.record.get prepared.identityField

def matchedEntry (entries : List LedgerEntry) (prepared : Prepared hashing) :
    Except ForgeError LedgerEntry :=
  match entries.filter fun entry => prepared.sameIdentity entry.payload with
  | [entry] => .ok entry
  | _ => .error
      ⟨"STORE_INTEGRITY", "committed Store object is absent from the Forge projection"⟩

/-- `_ensure_index`; `failure` is the `OSError` of the file. -/
def ensureIndex (failure : Option String) : Except ForgeError Unit :=
  match failure with
  | some error =>
      .error ⟨"STORE_INDEX_PROJECTION", s!"cannot update derived Store index: {error}"⟩
  | none => .ok ()

/-- What follows the publication. -/
def matchedBatch (surroundings : Surroundings) (prepared : List (Prepared hashing))
    (objects : List StoredObject) : Except ForgeError (List LedgerEntry) := do
  let entries ← allEntries hashing loads surroundings.objectsFailure objects
  let matched ← prepared.mapM (matchedEntry hashing entries)
  ensureIndex surroundings.indexFailure
  .ok matched

/-- The call of the Store. -/
def put (prepared : List (Prepared hashing)) (s : σ) : Except StoreError PutResult × σ :=
  store.putBoundObjects (prepared.map Prepared.input) (store.currentGeneration s) s

def commitBatch (surroundings : Surroundings) (items : List (BatchItem hashing)) (s : σ) :
    Except ForgeError (List LedgerEntry) × σ :=
  match prepareFrom hashing surroundings.clock 0 items with
  | .error error => (.error error, s)
  | .ok [] => (.error ⟨"STORE_BATCH", "Store record batch must not be empty"⟩, s)
  | .ok (first :: rest) =>
      let answer := put hashing store (first :: rest) s
      (requirePublished (store.currentGeneration s) answer.1 >>= fun _ =>
        matchedBatch hashing loads surroundings (first :: rest) (store.currentObjects answer.2),
       answer.2)

end Commit

/-! ## What a prepared item reads back as -/

section Reading

variable {hashing : Hashing} {loads : List UInt8 → Option Json}

/-- A current record is stored as an object that reads back as the record. -/
theorem Built.reads_back {record : ForgeRecord} (built : Built hashing record)
    (version : record.schemaVersion = currentSchemaVersion) :
    (Json.obj record.toJson).WellFormed ∧
      parseRecord hashing record.toJson record.recordType = .ok record := by
  have versions : legacySchemaVersion ≠ currentSchemaVersion := by decide
  have reads : ∀ data, Acceptable data → current hashing record.recordType data = .ok record →
      (Json.obj record.toJson).WellFormed ∧
        parseRecord hashing record.toJson record.recordType = .ok record := by
    intro data acceptable h
    have fields : record.fields = data := by rw [(current_eq_ok h).2]; rfl
    exact ⟨toJson_wellFormed record (fields ▸ acceptable.1), current_reread acceptable h⟩
  have migrated : ∀ restore data, legacy hashing record.recordType restore data ≠ .ok record := by
    intro restore data h
    obtain ⟨_, _, _, _, same⟩ := legacy_eq_ok.mp h
    rw [same] at version
    exact versions version
  rcases built with ⟨fields, keyed, h⟩ | ⟨raw, keyed, h⟩
  · obtain ⟨data, acceptable, hcurrent⟩ := newRecord_current keyed h
    exact reads data acceptable hcurrent
  · simp only [parseRecord, Records.normalize, bind_eq_ok, jsonObject_eq_ok keyed] at h
    obtain ⟨_, ⟨rfl, acceptable⟩, h⟩ := h
    rcases normalizeFields_eq_ok.mp h with ⟨_, _, h⟩ | ⟨_, _, h⟩ | ⟨_, _, h⟩
    · exact absurd h (migrated _ _)
    · exact absurd h (migrated _ _)
    · exact reads _ (recordData_acceptable acceptable) h

/-- What preparation has checked of an item, and the object it made of it. -/
structure PreparedFrom (timestamp : String) (item : BatchItem hashing)
    (prepared : Prepared hashing) (context : PersistedRecordContext) (identity : String) :
    Prop where
  known : recordContext? item.ledgerKind = some context
  group : context.group = item.recordGroup
  type : item.record.recordType = context.recordType
  version : item.record.schemaVersion = currentSchemaVersion
  carried : item.record.get context.identityField = .str identity
  named : identity ≠ ""
  size : (Json.obj item.record.toJson).canonicalBytes.length ≤ 4000000
  same : prepared.item = item
  keyed : prepared.identityField = context.identityField
  object : prepared.input =
    { domainSchema := domainSchema item.ledgerKind
      domainIdentity := encode identity
      descriptor := descriptor item.recordGroup item.ledgerKind context.identityField timestamp
      payload := (Json.obj item.record.toJson).canonicalBytes }

theorem prepareItem_eq_ok {timestamp : String} {item : BatchItem hashing}
    {prepared : Prepared hashing} :
    prepareItem hashing timestamp item = .ok prepared ↔
      ∃ context identity, PreparedFrom timestamp item prepared context identity := by
  simp only [prepareItem, bind_eq_ok, refuseIf_eq_ok, persistedRecordContext_eq_ok,
    domainIdentity_eq_ok, exists_const, ne_eq, not_not, not_lt, Except.ok.injEq]
  constructor
  · rintro ⟨context, ⟨known, group⟩, type, version, _, ⟨identity, carried, named, rfl⟩, size, rfl⟩
    exact ⟨context, identity, known, group, type, version, carried, named, size, rfl, rfl, rfl⟩
  · rintro ⟨context, identity, h⟩
    refine ⟨context, ⟨h.known, h.group⟩, h.type, h.version, _,
      ⟨identity, h.carried, h.named, rfl⟩, h.size, ?_⟩
    cases prepared
    rw [Prepared.mk.injEq]
    exact ⟨h.same.symm, h.keyed.symm, h.object.symm⟩

theorem domainSchema_injective : Function.Injective domainSchema := by
  intro first second h
  have texts := encode_injective h
  simp only [toString, String.append_assoc] at texts
  exact (String.append_left_inj _).mp ((String.append_right_inj _).mp texts)

/-- The entry of a prepared item under a given ordinal. -/
theorem entryForObject_prepared (decodes : LoadsCanonical loads) {timestamp : String}
    {item : BatchItem hashing} {prepared : Prepared hashing}
    (h : prepareItem hashing timestamp item = .ok prepared) (ordinal : Nat) :
    ∃ entry, entryForObject hashing loads (prepared.input.stored ordinal) = .ok entry ∧
      entry.payload = item.record ∧ entry.sequence = ordinal := by
  obtain ⟨context, identity, h⟩ := prepareItem_eq_ok.mp h
  obtain ⟨wellFormed, reads⟩ := item.built.reads_back h.version
  rw [h.object]
  refine ⟨_, entryForObject_eq_ok.mpr ⟨_, decodeDescriptor_descriptor decodes _ _ _ _, context,
    h.known, h.group, boundEntry_eq_ok.mpr ⟨rfl, identity, decode?_encode identity, _,
      decodes _ wellFormed, item.record, h.type ▸ reads, h.carried, rfl⟩⟩, rfl, rfl⟩

/-- What is held under the identity of a prepared item reads back as its record. -/
theorem entryForObject_held (decodes : LoadsCanonical loads) {timestamp : String}
    {item : BatchItem hashing} {prepared : Prepared hashing}
    (h : prepareItem hashing timestamp item = .ok prepared) {stored : StoredObject}
    (bound : stored.logicalId = prepared.input.logicalId)
    (payload : stored.payload = prepared.input.payload) {entry : LedgerEntry}
    (reads : entryForObject hashing loads stored = .ok entry) :
    entry.kind = item.ledgerKind ∧ entry.payload = item.record := by
  obtain ⟨context, identity, h⟩ := prepareItem_eq_ok.mp h
  obtain ⟨wellFormed, again⟩ := item.built.reads_back h.version
  obtain ⟨value, _, context', known', _, hbound⟩ := entryForObject_eq_ok.mp reads
  obtain ⟨schema, _, _, raw, loaded, record, parsed, _, rfl⟩ := boundEntry_eq_ok.mp hbound
  rw [h.object] at bound payload
  have kind : descriptorText value "ledger_kind" = item.ledgerKind :=
    domainSchema_injective (schema.symm.trans (Prod.ext_iff.mp bound).1)
  rw [kind, h.known, Option.some.injEq] at known'
  rw [payload, decodes _ wellFormed, Option.some.injEq, Json.obj.injEq] at loaded
  rw [← known', ← h.type, ← loaded, again, Except.ok.injEq] at parsed
  exact ⟨kind, parsed.symm⟩

/-- Each element of a prepared batch was prepared from its item. -/
theorem prepareFrom_eq_ok {clock : Nat → String} {index : Nat}
    {items : List (BatchItem hashing)} {prepared : List (Prepared hashing)}
    (h : prepareFrom hashing clock index items = .ok prepared) :
    List.Forall₂ (fun item one => ∃ timestamp, prepareItem hashing timestamp item = .ok one)
      items prepared := by
  induction items generalizing index prepared with
  | nil =>
      obtain rfl := Except.ok.inj h
      exact List.Forall₂.nil
  | cons item items ih =>
      simp only [prepareFrom, bind_eq_ok, Except.ok.injEq] at h
      obtain ⟨one, first, rest, others, rfl⟩ := h
      exact List.Forall₂.cons ⟨_, first⟩ (ih others)

/-- The prepared items whose identity is not held yet. -/
def freshItems (objects : List StoredObject) (prepared : List (Prepared hashing)) :
    List (Prepared hashing) :=
  fresh (fun one => one.input.logicalId) (objects.map StoredObject.logicalId) prepared

theorem publish_prepared (objects : List StoredObject) (prepared : List (Prepared hashing)) :
    publish objects (prepared.map Prepared.input) =
      objects ++ storedFrom (objects.length + 1)
        ((freshItems objects prepared).map Prepared.input) := by
  rw [publish, fresh_map]
  rfl

theorem storedFrom_reads (decodes : LoadsCanonical loads) {prepared : List (Prepared hashing)}
    (each : ∀ one ∈ prepared, ∃ timestamp item, prepareItem hashing timestamp item = .ok one)
    (ordinal : Nat) :
    ∃ entries, (storedFrom ordinal (prepared.map Prepared.input)).mapM
        (entryForObject hashing loads) = .ok entries ∧
      entries.map LedgerEntry.payload = prepared.map (fun one => one.item.record) ∧
      entries.map LedgerEntry.sequence = countFrom ordinal prepared.length := by
  induction prepared generalizing ordinal with
  | nil => exact ⟨[], rfl, rfl, rfl⟩
  | cons one prepared ih =>
      obtain ⟨⟨timestamp, item, first⟩, others⟩ := List.forall_mem_cons.mp each
      obtain ⟨entry, read, payload, sequence⟩ := entryForObject_prepared decodes first ordinal
      obtain ⟨entries, reads, payloads, sequences⟩ := ih others (ordinal + 1)
      obtain ⟨_, _, made⟩ := prepareItem_eq_ok.mp first
      refine ⟨entry :: entries, ?_, ?_, ?_⟩
      · rw [List.map_cons, storedFrom, List.mapM_cons, read, reads]
        rfl
      · rw [List.map_cons, List.map_cons, payload, payloads, made.same]
      · rw [List.map_cons, sequence, sequences, List.length_cons, countFrom_succ]

/-! ## The lookup -/

theorem matchedEntry_eq_ok {entries : List LedgerEntry} {prepared : Prepared hashing}
    {entry : LedgerEntry} :
    matchedEntry hashing entries prepared = .ok entry ↔
      (entries.filter fun entry => prepared.sameIdentity entry.payload) = [entry] := by
  unfold matchedEntry
  split <;> simp_all

/-- An entry is found when one record carries the identity value. -/
theorem exists_matchedEntry_iff {entries : List LedgerEntry} {prepared : Prepared hashing} :
    (∃ entry, matchedEntry hashing entries prepared = .ok entry) ↔
      (entries.map LedgerEntry.payload).countP prepared.sameIdentity = 1 := by
  simp only [matchedEntry_eq_ok]
  rw [List.countP_map, List.countP_eq_length_filter, List.length_eq_one_iff]
  rfl

theorem matchedBatch_eq_ok {surroundings : Surroundings} {prepared : List (Prepared hashing)}
    {objects : List StoredObject} {matched : List LedgerEntry} :
    matchedBatch hashing loads surroundings prepared objects = .ok matched ↔
      surroundings.objectsFailure = none ∧ surroundings.indexFailure = none ∧
        ∃ read, Projects hashing loads objects read ∧
          prepared.mapM (matchedEntry hashing (projected hashing read)) = .ok matched := by
  cases hobjects : surroundings.objectsFailure with
  | some error => simp [matchedBatch, allEntries, hobjects, bind, Except.bind]
  | none =>
      cases hindex : surroundings.indexFailure with
      | some error => simp [matchedBatch, ensureIndex, hindex, bind_eq_ok]
      | none =>
          simp only [matchedBatch, hobjects, hindex, bind_eq_ok, allEntries_eq_ok, ensureIndex,
            Except.ok.injEq, exists_const, true_and, exists_eq_right]
          constructor
          · rintro ⟨_, ⟨read, projects, rfl⟩, found⟩
            exact ⟨read, projects, found⟩
          · rintro ⟨read, projects, found⟩
            exact ⟨_, ⟨read, projects, rfl⟩, found⟩

end Reading

/-! ## All or nothing -/

section AllOrNothing

variable {hashing : Hashing} {loads : List UInt8 → Option Json} {σ : Type}
  {store : EmbeddedStore σ}

/-- The object is this record under this kind. -/
def IsRecord (item : BatchItem hashing) (stored : StoredObject) : Prop :=
  stored.domainSchema = domainSchema item.ledgerKind ∧
    stored.payload = (Json.obj item.record.toJson).canonicalBytes

/-- The batch is present, nothing else was added, and the entries are its records
in order. -/
structure Committed (items : List (BatchItem hashing)) (before after : List StoredObject)
    (entries : List LedgerEntry) : Prop where
  kept : before <+: after
  present : ∀ item ∈ items, ∃ stored ∈ after, IsRecord item stored
  nothingElse : ∀ stored ∈ after, stored ∈ before ∨ ∃ item ∈ items, IsRecord item stored
  inOrder : List.Forall₂ (fun item entry =>
    entry.kind = item.ledgerKind ∧ entry.payload = item.record) items entries

/-- An error leaves the history as it was, and a result is the committed batch. -/
def AllOrNothing (items : List (BatchItem hashing)) (before after : List StoredObject) :
    Except ForgeError (List LedgerEntry) → Prop
  | .error _ => after = before
  | .ok entries => Committed items before after entries

/-- The Store publishes something of the batch. -/
def Publishes (store : EmbeddedStore σ) (prepared : List (Prepared hashing)) (s : σ) : Prop :=
  (∃ result, (put hashing store prepared s).1 = .ok result ∧ result.code = "COMMITTED") ∧
    freshItems (store.currentObjects s) prepared ≠ []

/-- The history is readable, the identity value of each record is carried by one
record of the history and the batch, and the objects and the index file can be
reached. -/
structure Retrievable (loads : List UInt8 → Option Json) (surroundings : Surroundings)
    (prepared : List (Prepared hashing)) (objects : List StoredObject) : Prop where
  objectsRead : surroundings.objectsFailure = none
  indexWritten : surroundings.indexFailure = none
  single : ∃ read, Projects hashing loads objects read ∧ ∀ one ∈ prepared,
    (read.map LedgerEntry.payload).countP one.sameIdentity +
      ((freshItems objects prepared).map fun one => one.item.record).countP
        one.sameIdentity = 1

/-- The lookup after a publication succeeds exactly when the batch is retrievable. -/
theorem exists_matchedBatch_iff (decodes : LoadsCanonical loads) {surroundings : Surroundings}
    {prepared : List (Prepared hashing)} {objects : List StoredObject}
    (each : ∀ one ∈ prepared, ∃ timestamp item, prepareItem hashing timestamp item = .ok one) :
    (∃ matched, matchedBatch hashing loads surroundings prepared
        (publish objects (prepared.map Prepared.input)) = .ok matched) ↔
      Retrievable loads surroundings prepared objects := by
  have sub := fresh_sublist (fun one : Prepared hashing => one.input.logicalId)
    (objects.map StoredObject.logicalId) prepared
  obtain ⟨added, reads, payloads, sequences⟩ := storedFrom_reads decodes
    (fun one member => each one (sub.subset member)) (objects.length + 1)
  have appended : ∀ entries, Projects hashing loads
      (publish objects (prepared.map Prepared.input)) entries ↔
        ∃ read, Projects hashing loads objects read ∧ entries = read ++ added := by
    intro entries
    rw [publish_prepared]
    exact projects_append reads sequences
  -- The order and the hashes of the projection do not matter for the count.
  have counted : ∀ (read : List LedgerEntry) (one : Prepared hashing),
      (∃ entry, matchedEntry hashing (projected hashing (read ++ added)) one = .ok entry) ↔
        (read.map LedgerEntry.payload).countP one.sameIdentity +
          ((freshItems objects prepared).map fun one => one.item.record).countP
            one.sameIdentity = 1 := by
    intro read one
    have perm : ((projected hashing (read ++ added)).map LedgerEntry.payload).Perm _ :=
      projected_map_perm LedgerEntry.payload (fun _ _ _ _ => rfl) (read ++ added)
    rw [exists_matchedEntry_iff, perm.countP_eq, List.map_append, List.countP_append, payloads]
    rfl
  simp only [matchedBatch_eq_ok, appended]
  constructor
  · rintro ⟨matched, objectsRead, indexWritten, _, ⟨read, projects, rfl⟩, found⟩
    refine ⟨objectsRead, indexWritten, read, projects, fun one member => ?_⟩
    exact (counted read one).mp (exists_mapM_eq_ok.mp ⟨matched, found⟩ one member)
  · rintro ⟨objectsRead, indexWritten, read, projects, single⟩
    obtain ⟨matched, found⟩ := exists_mapM_eq_ok.mpr fun one member =>
      (counted read one).mpr (single one member)
    exact ⟨matched, objectsRead, indexWritten, _, ⟨read, projects, rfl⟩, found⟩

/-- The one entry that is found is that of the object held for the item. -/
theorem matchedEntry_held (decodes : LoadsCanonical loads) {timestamp : String}
    {item : BatchItem hashing} {prepared : Prepared hashing}
    (made : prepareItem hashing timestamp item = .ok prepared) {objects : List StoredObject}
    (held : Holds objects prepared.input) {read : List LedgerEntry}
    (projects : Projects hashing loads objects read) {entry : LedgerEntry}
    (found : matchedEntry hashing (projected hashing read) prepared = .ok entry) :
    entry.kind = item.ledgerKind ∧ entry.payload = item.record := by
  obtain ⟨stored, member, bound, payload⟩ := held
  obtain ⟨own, listed, reads⟩ := exists_mem_of_mapM_eq_ok projects.1 member
  obtain ⟨kind, record⟩ := entryForObject_held decodes made bound payload reads
  have perm : ((projected hashing read).map fun entry => (entry.kind, entry.payload)).Perm _ :=
    projected_map_perm (fun entry => (entry.kind, entry.payload)) (fun _ _ _ _ => rfl) read
  have shown := perm.mem_iff.mpr (List.mem_map_of_mem listed)
  obtain ⟨candidate, among, same⟩ := List.mem_map.mp shown
  obtain ⟨sameKind, samePayload⟩ := Prod.ext_iff.mp same
  simp only at sameKind samePayload
  obtain ⟨_, _, prepared'⟩ := prepareItem_eq_ok.mp made
  have matching : candidate ∈ (projected hashing read).filter
      fun entry => prepared.sameIdentity entry.payload := by
    refine List.mem_filter.mpr ⟨among, ?_⟩
    rw [Prepared.sameIdentity, samePayload, record, prepared'.same]
    exact decide_eq_true rfl
  rw [matchedEntry_eq_ok.mp found, List.mem_singleton] at matching
  rw [← matching, sameKind, samePayload]
  exact ⟨kind, record⟩

theorem mem_storedFrom {inputs : List BoundObjectInput} {ordinal : Nat} {stored : StoredObject}
    (h : stored ∈ storedFrom ordinal inputs) : ∃ input ∈ inputs,
      stored.domainSchema = input.domainSchema ∧ stored.payload = input.payload := by
  induction inputs generalizing ordinal with
  | nil => cases h
  | cons input inputs ih =>
      rcases List.mem_cons.mp h with rfl | h
      · exact ⟨input, List.mem_cons_self, rfl, rfl⟩
      · obtain ⟨other, member, same⟩ := ih h
        exact ⟨other, List.mem_cons_of_mem _ member, same⟩

/-- Once the history holds the batch, what the lookup returns is the batch. -/
theorem committed_of_matched (decodes : LoadsCanonical loads) {surroundings : Surroundings}
    {items : List (BatchItem hashing)} {prepared : List (Prepared hashing)}
    (made : prepareFrom hashing surroundings.clock 0 items = .ok prepared)
    {before after : List StoredObject}
    (extended : after = before ∨ after = publish before (prepared.map Prepared.input))
    (held : ∀ input ∈ prepared.map Prepared.input, Holds after input)
    {entries : List LedgerEntry}
    (found : matchedBatch hashing loads surroundings prepared after = .ok entries) :
    Committed items before after entries := by
  have each := prepareFrom_eq_ok made
  have records : ∀ one ∈ prepared, ∃ item ∈ items, ∀ stored : StoredObject,
      stored.domainSchema = one.input.domainSchema → stored.payload = one.input.payload →
        IsRecord item stored := by
    intro one member
    obtain ⟨item, listed, timestamp, prepares⟩ := exists_related
      (List.Forall₂.flip (R := fun one item =>
        ∃ timestamp, prepareItem hashing timestamp item = .ok one) each) member
    obtain ⟨_, _, prepares⟩ := prepareItem_eq_ok.mp prepares
    refine ⟨item, listed, fun stored schema payload => ?_⟩
    rw [IsRecord, schema, payload, prepares.object]
    exact ⟨rfl, rfl⟩
  obtain ⟨_, _, read, projects, matched⟩ := matchedBatch_eq_ok.mp found
  refine ⟨?_, fun item member => ?_, fun stored member => ?_, ?_⟩
  · rcases extended with rfl | rfl
    · exact List.prefix_refl _
    · exact List.prefix_append _ _
  · obtain ⟨one, among, timestamp, prepares⟩ := exists_related each member
    obtain ⟨stored, present, bound, payload⟩ := held _ (List.mem_map_of_mem among)
    obtain ⟨_, _, prepares⟩ := prepareItem_eq_ok.mp prepares
    rw [prepares.object] at bound payload
    exact ⟨stored, present, (Prod.ext_iff.mp bound).1, payload⟩
  · rcases extended with rfl | rfl
    · exact Or.inl member
    · refine (List.mem_append.mp member).imp_right fun added => ?_
      obtain ⟨input, among, schema, payload⟩ := mem_storedFrom added
      obtain ⟨one, listed, rfl⟩ := List.mem_map.mp ((fresh_sublist _ _ _).subset among)
      obtain ⟨item, itemListed, isRecord⟩ := records one listed
      exact ⟨item, itemListed, isRecord stored schema payload⟩
  · have looked := mapM_eq_ok_iff.mp matched
    -- The items and the entries are each related to the prepared batch.
    clear made extended records found matched
    induction each generalizing entries with
    | nil =>
        cases looked
        exact List.Forall₂.nil
    | cons prepares _ ih =>
        obtain ⟨timestamp, prepares⟩ := prepares
        rw [List.map_cons, List.forall_mem_cons] at held
        cases looked with
        | cons first others =>
            exact List.Forall₂.cons (matchedEntry_held decodes prepares held.1 projects first)
              (ih held.2 others)

theorem requirePublished_eq_ok {expected : Nat} {answer : Except StoreError PutResult} :
    requirePublished expected answer = .ok () ↔
      ∃ result, answer = .ok result ∧ (result.code = "COMMITTED" ∨ result.code = "DUPLICATE") := by
  cases answer with
  | error error => simp [requirePublished]
  | ok result =>
      simp only [requirePublished, refuseIf_bind_eq_ok, refuseIf_eq_ok, List.mem_cons,
        List.not_mem_nil, or_false, not_not, Except.ok.injEq, exists_eq_left']
      refine ⟨And.right, fun published => ⟨?_, published⟩⟩
      rcases published with same | same <;> rw [same] <;> decide

section Answered

variable {surroundings : Surroundings} {items : List (BatchItem hashing)}
  {prepared : List (Prepared hashing)} {s : σ}

/-- Where the Store publishes nothing of the batch, no outcome breaks the promise. -/
theorem allOrNothing_of_not_publishes (documented : store.Documented)
    (decodes : LoadsCanonical loads)
    (made : prepareFrom hashing surroundings.clock 0 items = .ok prepared)
    (silent : ¬ Publishes store prepared s) :
    AllOrNothing items (store.currentObjects s)
      (store.currentObjects (put hashing store prepared s).2)
      (requirePublished (store.currentGeneration s) (put hashing store prepared s).1 >>= fun _ =>
        matchedBatch hashing loads surroundings prepared
          (store.currentObjects (put hashing store prepared s).2)) := by
  have unchanged : store.currentObjects (put hashing store prepared s).2 =
      store.currentObjects s := by
    by_cases committed : ∃ result, (put hashing store prepared s).1 = .ok result ∧
        result.code = "COMMITTED"
    · obtain ⟨result, answer, code⟩ := committed
      have nothing : freshItems (store.currentObjects s) prepared = [] :=
        not_not.mp fun some => silent ⟨⟨result, answer, code⟩, some⟩
      rw [put, (documented.published _ _ _ result answer code).1, publish_prepared, nothing]
      exact List.append_nil _
    · exact documented.unpublished _ _ _ fun result answer code =>
        committed ⟨result, answer, code⟩
  cases outcome : requirePublished (store.currentGeneration s)
      (put hashing store prepared s).1 >>= fun _ => matchedBatch hashing loads surroundings
        prepared (store.currentObjects (put hashing store prepared s).2) with
  | error error => exact unchanged
  | ok entries =>
      obtain ⟨_, accepted, found⟩ := bind_eq_ok.mp outcome
      obtain ⟨result, answer, code⟩ := requirePublished_eq_ok.mp accepted
      refine committed_of_matched decodes made (Or.inl unchanged) ?_ found
      rcases code with code | code
      · obtain ⟨extended, held⟩ := documented.published _ _ _ result answer code
        rw [put, extended]
        exact held
      · rw [unchanged]
        exact documented.duplicate _ _ _ result answer code

/-- Where the Store publishes something of the batch, the promise is that the lookup
succeeds. -/
theorem allOrNothing_of_publishes (documented : store.Documented)
    (decodes : LoadsCanonical loads)
    (made : prepareFrom hashing surroundings.clock 0 items = .ok prepared)
    (publishes : Publishes store prepared s) :
    AllOrNothing items (store.currentObjects s)
        (store.currentObjects (put hashing store prepared s).2)
        (requirePublished (store.currentGeneration s) (put hashing store prepared s).1 >>=
          fun _ => matchedBatch hashing loads surroundings prepared
            (store.currentObjects (put hashing store prepared s).2)) ↔
      Retrievable loads surroundings prepared (store.currentObjects s) := by
  obtain ⟨⟨result, answer, code⟩, some⟩ := publishes
  obtain ⟨extended, held⟩ := documented.published _ _ _ result answer code
  have accepted : requirePublished (store.currentGeneration s)
      (put hashing store prepared s).1 = .ok () :=
    requirePublished_eq_ok.mpr ⟨result, answer, Or.inl code⟩
  have after : store.currentObjects (put hashing store prepared s).2 =
      publish (store.currentObjects s) (prepared.map Prepared.input) := extended
  have changed : publish (store.currentObjects s) (prepared.map Prepared.input) ≠
      store.currentObjects s := by
    rw [publish_prepared]
    cases shape : freshItems (store.currentObjects s) prepared with
    | nil => exact absurd shape some
    | cons one rest => simp [storedFrom]
  have each : ∀ one ∈ prepared, ∃ timestamp item,
      prepareItem hashing timestamp item = .ok one := by
    intro one member
    obtain ⟨item, _, timestamp, prepares⟩ := exists_related
      (List.Forall₂.flip (R := fun one item =>
        ∃ timestamp, prepareItem hashing timestamp item = .ok one)
        (prepareFrom_eq_ok made)) member
    exact ⟨timestamp, item, prepares⟩
  rw [accepted, after, ← exists_matchedBatch_iff decodes each]
  show AllOrNothing items _ _ (matchedBatch hashing loads surroundings prepared _) ↔ _
  cases outcome : matchedBatch hashing loads surroundings prepared
      (publish (store.currentObjects s) (prepared.map Prepared.input)) with
  | error error => simpa [AllOrNothing] using changed
  | ok entries =>
      exact iff_of_true (committed_of_matched decodes made (Or.inr rfl) held outcome)
        ⟨entries, rfl⟩

end Answered

/-- A batch is committed or refused as a whole exactly when what the Store publishes
of it can be retrieved. -/
theorem commitBatch_allOrNothing_iff (documented : store.Documented)
    (decodes : LoadsCanonical loads) (surroundings : Surroundings)
    (items : List (BatchItem hashing)) (s : σ) :
    AllOrNothing items (store.currentObjects s)
        (store.currentObjects (commitBatch hashing loads store surroundings items s).2)
        (commitBatch hashing loads store surroundings items s).1 ↔
      ∀ prepared, prepareFrom hashing surroundings.clock 0 items = .ok prepared →
        Publishes store prepared s →
          Retrievable loads surroundings prepared (store.currentObjects s) := by
  cases made : prepareFrom hashing surroundings.clock 0 items with
  | error error => simp [commitBatch, made, AllOrNothing]
  | ok prepared =>
      simp only [Except.ok.injEq, forall_eq']
      cases prepared with
      | nil =>
          rw [commitBatch, made]
          exact iff_of_true rfl fun publishes => absurd rfl publishes.2
      | cons first rest =>
          rw [commitBatch, made]
          by_cases publishes : Publishes store (first :: rest) s
          · rw [forall_prop_of_true publishes]
            exact allOrNothing_of_publishes documented decodes made publishes
          · exact iff_of_true (allOrNothing_of_not_publishes documented decodes made publishes)
              fun h => absurd h publishes

end AllOrNothing

/-! ## A Store in memory -/

instance (objects : List StoredObject) (input : BoundObjectInput) :
    Decidable (Holds objects input) :=
  inferInstanceAs (Decidable (∃ stored ∈ objects, _ ∧ _))

structure Retained where
  generation : Nat
  objects : List StoredObject

def retainedStore : EmbeddedStore Retained where
  currentGeneration := Retained.generation
  currentObjects := Retained.objects
  putBoundObjects inputs expected s :=
    if expected ≠ s.generation then (.ok ⟨"STALE_GENERATION", s.generation⟩, s)
    else if ∃ input ∈ inputs, ¬ Holds (publish s.objects inputs) input then
      (.error ⟨"IDENTITY_CONFLICT", "bound object differs"⟩, s)
    else if publish s.objects inputs = s.objects then (.ok ⟨"DUPLICATE", s.generation⟩, s)
    else (.ok ⟨"COMMITTED", s.generation⟩, ⟨s.generation + 1, publish s.objects inputs⟩)

theorem retainedStore_documented : retainedStore.Documented where
  unpublished inputs expected s := by
    simp only [retainedStore]
    split_ifs <;> simp
  published inputs expected s result := by
    simp only [retainedStore]
    split_ifs with stale conflict held <;> simp only [Except.ok.injEq, false_implies]
    · rintro rfl code
      simp at code
    · rintro rfl code
      simp at code
    · rintro rfl _
      exact ⟨trivial, by simpa using conflict⟩
  duplicate inputs expected s result := by
    simp only [retainedStore]
    split_ifs with stale conflict held <;> simp only [Except.ok.injEq, false_implies]
    · rintro rfl code
      simp at code
    · rintro rfl _
      rw [held] at conflict
      simpa using conflict
    · rintro rfl code
      simp at code

section Fresh

variable {hashing : Hashing} {loads : List UInt8 → Option Json} {surroundings : Surroundings}

private theorem preparedAs {item : BatchItem hashing} {prepared : Prepared hashing}
    (made : ∃ timestamp, prepareItem hashing timestamp item = .ok prepared) :
    prepared.item = item ∧ prepared.input.domainSchema = domainSchema item.ledgerKind ∧
      ∀ context, recordContext? item.ledgerKind = some context →
        prepared.identityField = context.identityField := by
  obtain ⟨timestamp, made⟩ := made
  obtain ⟨context, _, made⟩ := prepareItem_eq_ok.mp made
  refine ⟨made.same, by rw [made.object], fun context' known => ?_⟩
  rw [made.known, Option.some.injEq] at known
  rw [made.keyed, known]

/-- One record can always be retrieved from the history it begins. -/
theorem retrievable_single {item : BatchItem hashing} {prepared : List (Prepared hashing)}
    (made : prepareFrom hashing surroundings.clock 0 [item] = .ok prepared)
    (objectsRead : surroundings.objectsFailure = none)
    (indexWritten : surroundings.indexFailure = none) :
    Retrievable loads surroundings prepared [] := by
  obtain ⟨one, rest, first, none, rfl⟩ := List.forall₂_cons_left_iff.mp (prepareFrom_eq_ok made)
  obtain rfl := List.forall₂_nil_left_iff.mp none
  refine ⟨objectsRead, indexWritten, [], ⟨rfl, List.Perm.nil⟩, fun other member => ?_⟩
  obtain rfl := List.mem_singleton.mp member
  simp [freshItems, fresh, Prepared.sameIdentity]

/-- Two records of different kinds, of which the second carries the identity value of
the first under the same field: both are published, and the lookup is refused. -/
theorem commitBatch_shared_identity (decodes : LoadsCanonical loads)
    {first second : BatchItem hashing} {prepared : List (Prepared hashing)}
    (made : prepareFrom hashing surroundings.clock 0 [first, second] = .ok prepared)
    (kinds : first.ledgerKind ≠ second.ledgerKind) {context : PersistedRecordContext}
    (known : recordContext? first.ledgerKind = some context)
    (shared : second.record.get context.identityField =
      first.record.get context.identityField) :
    (retainedStore.currentObjects (commitBatch hashing loads retainedStore surroundings
        [first, second] ⟨0, []⟩).2).length = 2 ∧
      ¬ AllOrNothing [first, second] (retainedStore.currentObjects ⟨0, []⟩)
        (retainedStore.currentObjects
          (commitBatch hashing loads retainedStore surroundings [first, second] ⟨0, []⟩).2)
        (commitBatch hashing loads retainedStore surroundings [first, second] ⟨0, []⟩).1 := by
  obtain ⟨one, rest, firstMade, others, rfl⟩ :=
    List.forall₂_cons_left_iff.mp (prepareFrom_eq_ok made)
  obtain ⟨other, rest, secondMade, none, rfl⟩ := List.forall₂_cons_left_iff.mp others
  obtain rfl := List.forall₂_nil_left_iff.mp none
  obtain ⟨oneItem, oneSchema, oneField⟩ := preparedAs firstMade
  obtain ⟨otherItem, otherSchema, _⟩ := preparedAs secondMade
  have distinct : other.input.logicalId ≠ one.input.logicalId := by
    intro same
    have schemas : other.input.domainSchema = one.input.domainSchema := (Prod.ext_iff.mp same).1
    rw [oneSchema, otherSchema] at schemas
    exact kinds (domainSchema_injective schemas).symm
  have both : freshItems (retainedStore.currentObjects ⟨0, []⟩) [one, other] =
      [one, other] := by
    simp [retainedStore, freshItems, fresh, distinct]
  have published : publish [] [one.input, other.input] =
      [one.input.stored 1, other.input.stored 2] := by
    simp [publish, fresh, storedFrom, distinct]
  have held : ¬ ∃ input ∈ [one.input, other.input],
      ¬ Holds [one.input.stored 1, other.input.stored 2] input := by
    rintro ⟨input, member, missing⟩
    rcases List.mem_pair.mp member with rfl | rfl
    · exact missing ⟨_, List.mem_cons_self, rfl, rfl⟩
    · exact missing ⟨_, List.mem_cons_of_mem _ List.mem_cons_self, rfl, rfl⟩
  have answer : put hashing retainedStore [one, other] ⟨0, []⟩ =
      (.ok ⟨"COMMITTED", 0⟩, ⟨1, [one.input.stored 1, other.input.stored 2]⟩) := by
    simp only [put, retainedStore, List.map_cons, List.map_nil, published, if_neg held]
    rfl
  constructor
  · rw [commitBatch, made]
    show (retainedStore.currentObjects
      (put hashing retainedStore [one, other] ⟨0, []⟩).2).length = 2
    rw [answer]
    rfl
  · intro kept
    have publishes : Publishes retainedStore [one, other] ⟨0, []⟩ :=
      ⟨⟨_, congrArg Prod.fst answer, rfl⟩, by rw [both]; simp⟩
    rw [commitBatch, made] at kept
    obtain ⟨_, _, read, projects, single⟩ :=
      (allOrNothing_of_publishes retainedStore_documented decodes made publishes).mp kept
    have counted := single one List.mem_cons_self
    rw [both] at counted
    simp [Prepared.sameIdentity, oneItem, otherItem, oneField context known, shared] at counted

theorem utf8Len_le (chars : List Char) : String.utf8Len chars ≤ 4 * chars.length := by
  induction chars with
  | nil => simp
  | cons c chars ih =>
      have := c.utf8Size_le_four
      rw [String.utf8Len_cons, List.length_cons]
      omega

theorem length_canonicalBytes_le (value : Json) :
    value.canonicalBytes.length ≤ 4 * value.canonicalChars.length := by
  have size : value.canonicalBytes.length = (String.ofList value.canonicalChars).utf8ByteSize :=
    rfl
  rw [size, String.utf8ByteSize_ofList]
  exact utf8Len_le _

/-- An item with a record of its kind is prepared, if the record is not too long. -/
theorem exists_prepareItem (item : BatchItem hashing) (context : PersistedRecordContext)
    (identity : String) (known : recordContext? item.ledgerKind = some context)
    (group : context.group = item.recordGroup)
    (type : item.record.recordType = context.recordType)
    (version : item.record.schemaVersion = currentSchemaVersion)
    (carried : item.record.get context.identityField = .str identity) (named : identity ≠ "")
    (size : (Json.obj item.record.toJson).canonicalChars.length ≤ 1000000)
    (timestamp : String) :
    ∃ prepared, prepareItem hashing timestamp item = .ok prepared := by
  have bytes := length_canonicalBytes_le (.obj item.record.toJson)
  exact ⟨⟨item, context.identityField, _⟩, prepareItem_eq_ok.mpr ⟨context, identity, known, group,
    type, version, carried, named, by omega, rfl, rfl, rfl⟩⟩

end Fresh

private def leadingHashing : Hashing where
  hexdigest bytes := Digest.verbatim (bytes.take 8)
  jcs value := .ok value.canonicalBytes

private def storedActionFields : Dict String Json :=
  [("candidate_identity", .str "t:0"), ("candidate_parent_identity", .null),
   ("changed_paths", .arr []), ("configuration_identity", .str "j:1"),
   ("environment_identity", .str "j:2"), ("epoch_identity", .str "e:3"),
   ("freeze_identity", .null), ("input_identities", .obj []), ("method", .str "tests"),
   ("mode", .str "development"), ("policy_identity", .str "j:4"),
   ("protocol_request_identity", .str "j:5"), ("provider_configuration_identity", .str "j:6"),
   ("provider_id", .str "local"), ("requested_at", .str "2024"), ("scope", .str "unit"),
   ("source_region", .null), ("supersedes_output_identity", .null), ("verifier_id", .str "lint"),
   ("verifier_identity", .str "j:7"), ("verifier_version", .str "1")]

private def storedActionIdentity : String :=
  "verifier-action:" ++ localJsonDigest leadingHashing
    (.obj (currentProjection .verifierAction storedActionFields))

private def storedAction : ForgeRecord :=
  model .verifierAction (("action_id", .str storedActionIdentity) :: storedActionFields)
    currentSchemaVersion

private def storedResultFields : Dict String Json :=
  [("action_id", .str storedActionIdentity), ("assumptions", .arr []),
   ("candidate_identity", .str "t:0"), ("candidate_parent_identity", .null),
   ("category", .str "unit"), ("claim", .str "lint"), ("configuration_identity", .str "j:1"),
   ("dependency_envelope", .obj []), ("disclosure", .str "summary"),
   ("duration_seconds", .int 0), ("environment_identity", .str "j:2"),
   ("epoch_identity", .str "e:3"), ("evidence_class", .str "check"), ("freeze_identity", .null),
   ("independent_evaluation", .bool false), ("input_identities", .obj []),
   ("iterative_development_overlap", .bool true), ("limitations", .arr []),
   ("method", .str "tests"), ("mode", .str "development"), ("operational_error", .null),
   ("policy_identity", .str "j:4"), ("provider_configuration_identity", .str "j:6"),
   ("provider_executable_identity", .null), ("provider_id", .str "local"),
   ("provider_identity", .null), ("provider_response_identity", .null),
   ("recorded_at", .str "2024"), ("returncode", .int 0), ("status", .str "PASS"),
   ("stderr_diagnostic", .null), ("summary", .str "ok"), ("supersedes_output_identity", .null),
   ("unsupported_constructs", .arr []), ("verifier_id", .str "lint"),
   ("verifier_identity", .str "j:7"), ("verifier_version", .str "1"), ("witnesses", .arr [])]

private def storedResultIdentity : String :=
  "forge-json-sha256-v1:" ++ localJsonDigest leadingHashing
    (.obj (currentProjection .verifierResult storedResultFields))

private def storedResult : ForgeRecord :=
  model .verifierResult
    (Dict.set storedResultFields "output_identity" (.str storedResultIdentity))
    currentSchemaVersion

private def actionItem : BatchItem leadingHashing where
  recordGroup := "verifier-actions"
  ledgerKind := "verifier_action"
  record := storedAction
  built := Or.inl ⟨storedActionFields, Json.WellFormed.keyed (by decide +kernel),
    by decide +kernel⟩

private def resultItem : BatchItem leadingHashing where
  recordGroup := "verifier-results"
  ledgerKind := "verifier_result"
  record := storedResult
  built := Or.inl ⟨storedResultFields, Json.WellFormed.keyed (by decide +kernel),
    by decide +kernel⟩

private def stillSurroundings : Surroundings where
  clock _ := "2024"
  objectsFailure := none
  indexFailure := none

private theorem actionItem_prepares (timestamp : String) :
    ∃ prepared, prepareItem leadingHashing timestamp actionItem = .ok prepared := by
  refine exists_prepareItem actionItem
    ⟨"verifier-actions", "verifier_action", .verifierAction, "action_id"⟩ storedActionIdentity
    ?_ rfl rfl rfl ?_ ?_ ?_ timestamp
  · show recordContext? "verifier_action" = _
    decide
  · show storedAction.get "action_id" = _
    rfl
  · exact fun empty => absurd (String.append_eq_empty_iff.mp empty).1 (by decide)
  · show (Json.obj storedAction.toJson).canonicalChars.length ≤ 1000000
    decide +kernel

private theorem resultItem_prepares (timestamp : String) :
    ∃ prepared, prepareItem leadingHashing timestamp resultItem = .ok prepared := by
  refine exists_prepareItem resultItem
    ⟨"verifier-results", "verifier_result", .verifierResult, "output_identity"⟩
    storedResultIdentity ?_ rfl rfl rfl ?_ ?_ ?_ timestamp
  · show recordContext? "verifier_result" = _
    decide
  · show storedResult.get "output_identity" = _
    rw [ForgeRecord.get, if_neg (by decide), if_neg (by decide)]
    show (Dict.get? (Dict.set storedResultFields "output_identity" _) _).getD _ = _
    rw [Dict.get?_set, if_pos rfl]
    rfl
  · exact fun empty => absurd (String.append_eq_empty_iff.mp empty).1 (by decide)
  · show (Json.obj storedResult.toJson).canonicalChars.length ≤ 1000000
    decide +kernel

theorem commitBatch_allOrNothing_iff_sample :
    AllOrNothing [actionItem] (retainedStore.currentObjects ⟨0, []⟩)
      (retainedStore.currentObjects (commitBatch leadingHashing canonicalLoads retainedStore
        stillSurroundings [actionItem] ⟨0, []⟩).2)
      (commitBatch leadingHashing canonicalLoads retainedStore stillSurroundings
        [actionItem] ⟨0, []⟩).1 := by
  -- Nothing about this record is used but that it was prepared.
  generalize actionItem = item
  exact (commitBatch_allOrNothing_iff retainedStore_documented canonicalLoads_loadsCanonical
    stillSurroundings [item] ⟨0, []⟩).mpr fun _ made _ => retrievable_single made rfl rfl

/-- The result names the action it belongs to in the field that identifies actions,
so the action is found twice after both were published. -/
theorem commitBatch_publishes_and_raises :
    (retainedStore.currentObjects (commitBatch leadingHashing canonicalLoads retainedStore
        stillSurroundings [actionItem, resultItem] ⟨0, []⟩).2).length = 2 ∧
      ¬ AllOrNothing [actionItem, resultItem] (retainedStore.currentObjects ⟨0, []⟩)
        (retainedStore.currentObjects (commitBatch leadingHashing canonicalLoads retainedStore
          stillSurroundings [actionItem, resultItem] ⟨0, []⟩).2)
        (commitBatch leadingHashing canonicalLoads retainedStore stillSurroundings
          [actionItem, resultItem] ⟨0, []⟩).1 := by
  obtain ⟨action, actionMade⟩ := actionItem_prepares (stillSurroundings.clock 0)
  obtain ⟨result, resultMade⟩ := resultItem_prepares (stillSurroundings.clock 1)
  have made : prepareFrom leadingHashing stillSurroundings.clock 0 [actionItem, resultItem] =
      .ok [action, result] := by
    simp only [prepareFrom, Nat.zero_add, actionMade, resultMade]
    rfl
  have kinds : actionItem.ledgerKind ≠ resultItem.ledgerKind := by
    show "verifier_action" ≠ "verifier_result"
    decide
  have known : recordContext? actionItem.ledgerKind =
      some ⟨"verifier-actions", "verifier_action", .verifierAction, "action_id"⟩ := by
    show recordContext? "verifier_action" = _
    decide
  have shared : resultItem.record.get "action_id" = actionItem.record.get "action_id" := by
    show storedResult.get "action_id" = storedAction.get "action_id"
    rw [ForgeRecord.get, if_neg (by decide), if_neg (by decide)]
    show (Dict.get? (Dict.set storedResultFields "output_identity" _) _).getD _ = _
    rw [Dict.get?_set, if_neg (by decide)]
    rfl
  exact commitBatch_shared_identity canonicalLoads_loadsCanonical made kinds known shared

end MncsForge.Store
