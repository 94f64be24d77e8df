import Mathlib
import MncsForge.Records.Reread
import MncsForge.Store.Recovery

/-!
# Entries that join the ledger

A prepared entry names its position, the head of the ledger before it and its own digest.
The ledger with its line and the records with its file are as sound as they were before.
-/

namespace MncsForge.Store

open MncsForge.Foundation MncsForge.Records MncsForge.Ledger

/-! ## The chain -/

section Chain

variable {sha : List UInt8 → String} {raw : List RawEntry} {entry : RawEntry} {head : String}

theorem expectedHead_eq (h : verifyFrom sha 1 genesis raw = .ok head) :
    expectedHead raw = .str head := by
  obtain ⟨valid, rfl⟩ := (verifyFrom_eq_ok sha).mp h
  rcases List.eq_nil_or_concat raw with rfl | ⟨front, last, rfl⟩
  · rfl
  · rw [List.concat_eq_append] at valid ⊢
    have linked := (HashChain.valid_append_singleton _ _).mp valid
    rw [HashChain.head_append_singleton, expectedHead, List.getLast?_concat]
    exact linked.2.2.2

theorem verifyFrom_append (h : verifyFrom sha 1 genesis raw = .ok head)
    (linked : Linked sha (raw.length + 1) head entry) :
    verifyFrom sha 1 genesis (raw ++ [entry]) = .ok (entryHash sha entry.body) := by
  obtain ⟨valid, rfl⟩ := (verifyFrom_eq_ok sha).mp h
  refine (verifyFrom_eq_ok sha).mpr ⟨?_, HashChain.head_append_singleton _ _ _ _⟩
  refine (HashChain.valid_append_singleton _ _).mpr ⟨valid, ?_⟩
  rwa [Nat.add_comm 1 raw.length]

end Chain

/-! ## The entry of a commit -/

/-- What a built entry says. -/
structure Appends (hashing : Hashing) (ledgerKind : String) (record : ForgeRecord)
    (raw : List RawEntry) (head : String) (rawEntry : RawEntry) (entry : LedgerEntry) : Prop where
  linked : Linked hashing.hexdigest (raw.length + 1) head rawEntry
  normalized : normalizeLedgerEntry hashing rawEntry = .ok entry
  kind : entry.kind = ledgerKind
  kindField : rawEntry.get "kind" = .str ledgerKind
  payloadField : rawEntry.get "payload" = .obj record.toJson
  sequence : entry.sequence = raw.length + 1
  previousHash : entry.previousHash = head
  entryHash : entry.entryHash = Ledger.entryHash hashing.hexdigest rawEntry.body
  source : entry.sourceSchemaVersion = currentSchemaVersion
  type : payloadType ledgerKind = .ok record.recordType
  parsed : parseRecord hashing record.toJson record.recordType = .ok entry.payload

section Build

variable {hashing : Hashing} {kind timestamp head : String} {payload : ForgeRecord}
  {raw : List RawEntry} {rawEntry : RawEntry} {entry : LedgerEntry}

theorem isIndex_succ (n : Nat) : (Json.int (n + 1)).isIndex (n + 1) = true := by
  simp [Json.isIndex]

theorem ledgerEntryOf_eq_ok {data : Dict String Json} {source : String}
    (h : ledgerEntryOf hashing data source = .ok entry) :
    ∃ payloadRaw recordType, field data "sequence" = .int entry.sequence ∧
      field data "kind" = .str entry.kind ∧
      field data "previous_hash" = .str entry.previousHash ∧
      field data "entry_hash" = .str entry.entryHash ∧ field data "payload" = .obj payloadRaw ∧
      payloadType entry.kind = .ok recordType ∧
      parseRecord hashing payloadRaw recordType = .ok entry.payload ∧
      entry.sourceSchemaVersion = source := by
  unfold ledgerEntryOf at h
  split at h
  · rename_i sequence timestamp kind previousHash entryHash payloadRaw hseq _ hkind hprev hhash hpay
    simp only [bind_eq_ok, Except.ok.injEq] at h
    obtain ⟨recordType, known, parsed, hparsed, rfl⟩ := h
    exact ⟨payloadRaw, recordType, hseq, hkind, hprev, hhash, hpay, known, hparsed, rfl⟩
  · cases h

theorem normalizeLedgerEntry_eq_ok (h : normalizeLedgerEntry hashing rawEntry = .ok entry) :
    ∃ source, ledgerEntrySource rawEntry.fields = .ok source ∧
      ledgerEntryOf hashing (recordData rawEntry.fields) source = .ok entry := by
  simp only [normalizeLedgerEntry, bind_eq_ok, jsonObject_eq_ok rawEntry.wellFormed.keyed] at h
  obtain ⟨data, ⟨rfl, _⟩, source, hsource, _, _, _, _, hentry⟩ := h
  exact ⟨source, hsource, hentry⟩

/-- A built entry joins the chain. -/
theorem appends_of_buildEntryUnlocked {store : LocalRecordStore}
    (verified : verifyFrom store.hashing.hexdigest 1 genesis raw = .ok head)
    (h : store.buildEntryUnlocked kind payload raw timestamp = .ok (rawEntry, entry)) :
    Appends store.hashing kind payload raw head rawEntry entry := by
  unfold LocalRecordStore.buildEntryUnlocked at h
  simp only [bind_eq_ok, refuseIf_eq_ok, not_not] at h
  obtain ⟨expectedType, known, _, rfl, _, current, h⟩ := h
  split_ifs at h with wellFormed
  simp only [bind_eq_ok, Except.ok.injEq, Prod.mk.injEq] at h
  obtain ⟨normalized, hnormal, rfl, rfl⟩ := h
  obtain ⟨source, hsource, hentry⟩ := normalizeLedgerEntry_eq_ok hnormal
  obtain ⟨payloadRaw, recordType, hseq, hkind, hprev, hhash, hpay, htype, hparsed, hversion⟩ :=
    ledgerEntryOf_eq_ok hentry
  have previous := expectedHead_eq verified
  have members : (Json.int (raw.length + 1) = .int normalized.sequence) ∧
      (Json.str kind = .str normalized.kind) ∧
      (expectedHead raw = .str normalized.previousHash) ∧
      (Json.obj payload.toJson = .obj payloadRaw) := ⟨hseq, hkind, hprev, hpay⟩
  simp only [Json.int.injEq, Json.str.injEq, Json.obj.injEq, previous] at members
  obtain ⟨sequence, named, head, written⟩ := members
  subst named written
  obtain rfl := Except.ok.inj (known.symm.trans htype)
  refine
    { linked := ⟨isIndex_succ raw.length, previous, rfl⟩
      normalized := hnormal
      kind := rfl
      kindField := rfl
      payloadField := rfl
      sequence := sequence.symm
      previousHash := head.symm
      entryHash := (Json.str.inj hhash).symm
      source := ?_
      type := htype
      parsed := hparsed }
  rw [hversion]
  exact (Except.ok.inj hsource).symm

/-- A current record is read back as it was written. -/
theorem parsed_eq {record : ForgeRecord} (ordered : Dict.Ordered payload.fields)
    (valid : payload.Valid hashing) (current : payload.schemaVersion = currentSchemaVersion)
    (wellFormed : (Json.obj payload.toJson).WellFormed)
    (h : parseRecord hashing payload.toJson payload.recordType = .ok record) :
    record = model payload.recordType payload.fields currentSchemaVersion := by
  obtain ⟨_, version, members⟩ := toJson_metadata payload ordered valid
  rw [current] at version
  simp only [parseRecord, Records.normalize, bind_eq_ok,
    jsonObject_eq_ok wellFormed.keyed] at h
  obtain ⟨_, ⟨rfl, _⟩, h⟩ := h
  rw [normalizeFields_eq_ok, version, members] at h
  rcases h with ⟨_, absent, _⟩ | ⟨_, legacy, _⟩ | ⟨_, _, h⟩
  · cases absent
  · exact absurd legacy (by decide)
  · exact (current_eq_ok h).2

end Build

/-! ## The store with one more record -/

open LocalRecordStore (Publication Prepares)

/-- The record file of an entry. -/
def entryPath (entry : LedgerEntry) : Option RecordPath :=
  (recordContext? entry.kind).bind fun context =>
    ((entry.payload.get context.identityField).asStr?).bind fun identity =>
      (immutableRecordPath context.group identity).toOption

/-- A commit onto the base whose files the store reads back. -/
structure Joins (store : LocalRecordStore) (draft : LocalRecordStore.Draft) (base : Disk)
    (prepared : Publication) (raw : List RawEntry) (head : String) (rawEntry : RawEntry) : Prop where
  sound : store.Sound base
  settled : base.transactions = []
  verified : store.verifiedLedger base = .ok (raw, head)
  prepares : Prepares store base prepared
  appends : Appends store.hashing draft.ledgerKind draft.record raw head rawEntry prepared.entry
  ordered : Dict.Ordered draft.record.fields
  current : draft.record.schemaVersion = currentSchemaVersion
  payload : prepared.entry.payload =
    model draft.record.recordType draft.record.fields currentSchemaVersion
  context : ∃ context, persistedRecordContext draft.recordGroup draft.ledgerKind = .ok context ∧
    draft.record.recordType = context.recordType ∧
    draft.record.get context.identityField = .str prepared.plan.recordIdentity
  group : prepared.plan.recordGroup = draft.recordGroup
  ledgerKind : prepared.plan.ledgerKind = draft.ledgerKind
  line : prepared.line = (Json.obj rawEntry.fields).canonicalBytes ++ [10]
  recordBytes : prepared.recordBytes = (Json.obj draft.record.toJson).canonicalBytes ++ [10]
  recordSha256 : prepared.plan.recordSha256 = store.sha256 prepared.recordBytes
  after : prepared.plan.ledgerAfterSha256 = store.sha256 (base.ledgerBytes ++ prepared.line)
  sequence : prepared.plan.expectedSequence = raw.length + 1
  previousHash : prepared.plan.expectedPreviousHash = head
  entryHash : prepared.plan.entryHash = prepared.entry.entryHash
  -- the files are read back
  decoded : store.decode (base.ledgerBytes ++ prepared.line) = .ok (raw ++ [rawEntry])
  readable : store.readJson prepared.recordBytes = .ok (.obj draft.record.toJson)
  journal : ∀ state, store.loads (journalBytes (prepared.plan.journal state)) =
    some (.obj (prepared.plan.journal state))
  -- the digest is 64 hexadecimal digits and tells the ledgers apart
  hexadecimal : ∀ bytes, isSha256 (.str (store.sha256 bytes)) = true
  distinct : store.sha256 base.ledgerBytes ≠ store.sha256 (base.ledgerBytes ++ prepared.line)

theorem verifiedLedger_eq_ok {store : LocalRecordStore} {disk : Disk} {raw : List RawEntry}
    {head : String} :
    store.verifiedLedger disk = .ok (raw, head) ↔
      (disk.ledger.map store.decode).getD (.ok []) = .ok raw ∧
      verifyFrom store.hashing.hexdigest 1 genesis raw = .ok head := by
  simp only [LocalRecordStore.verifiedLedger]
  cases disk.ledger with
  | none =>
      simp only [Option.map_none, Option.getD_none, bind_eq_ok, Except.ok.injEq, Prod.mk.injEq]
      constructor
      · rintro ⟨_, rfl, _, chain, rfl, rfl⟩
        exact ⟨rfl, chain⟩
      · rintro ⟨rfl, chain⟩
        exact ⟨_, rfl, _, chain, rfl, rfl⟩
  | some bytes =>
      simp only [Option.map_some, Option.getD_some, bind_eq_ok, Except.ok.injEq, Prod.mk.injEq]
      constructor
      · rintro ⟨_, decoded, _, chain, rfl, rfl⟩
        exact ⟨decoded, chain⟩
      · rintro ⟨decoded, chain⟩
        exact ⟨_, decoded, _, chain, rfl, rfl⟩

namespace Joins

variable {store : LocalRecordStore} {draft : LocalRecordStore.Draft} {base disk : Disk}
  {prepared : Publication} {raw : List RawEntry} {head : String} {rawEntry : RawEntry}
  (joins : Joins store draft base prepared raw head rawEntry)
include joins

theorem verified_added (ledger : disk.ledger = prepared.ledger base) :
    store.verifiedLedger disk = .ok (raw ++ [rawEntry],
      Ledger.entryHash store.hashing.hexdigest rawEntry.body) := by
  have chain := (verifiedLedger_eq_ok.mp joins.verified).2
  refine verifiedLedger_eq_ok.mpr ⟨?_, verifyFrom_append chain joins.appends.linked⟩
  rw [ledger, Publication.ledger]
  exact joins.decoded

theorem payload_toJson : prepared.entry.payload.toJson = draft.record.toJson := by
  rw [joins.payload]
  simp only [ForgeRecord.toJson, model, joins.current]

theorem payload_get (key : String) : prepared.entry.payload.get key = draft.record.get key := by
  rw [joins.payload]
  simp only [ForgeRecord.get, model, joins.current]

omit joins in
theorem lookup_group {kind : String} {context : PersistedRecordContext}
    (known : recordContext? kind = some context) :
    recordGroupTypes.lookup context.group = some context.recordType := by
  have each : ∀ context ∈ persistedRecordContexts,
      recordGroupTypes.lookup context.group = some context.recordType := by
    decide
  exact each context (List.mem_of_find?_eq_some known)

/-- The record file is loaded as the payload of its entry. -/
theorem loadRecordFile_eq {context : PersistedRecordContext}
    (known : recordContext? draft.ledgerKind = some context)
    (type : draft.record.recordType = context.recordType) :
    store.loadRecordFile prepared.recordBytes context.group = .ok prepared.entry.payload := by
  rw [LocalRecordStore.loadRecordFile, lookup_group known, joins.readable, ← type]
  exact joins.appends.parsed

/-- The new entry has its record file. -/
theorem backed (records : disk.records = prepared.records base) :
    store.Backed disk prepared.entry := by
  obtain ⟨context, found, type, identity⟩ := joins.context
  obtain ⟨known, group⟩ := persistedRecordContext_eq_ok.mp found
  have path := joins.prepares.path
  rw [joins.group, ← group] at path
  refine ⟨context, prepared.plan.recordIdentity, prepared.plan.destination,
    prepared.recordBytes, prepared.entry.payload, ?_, ?_, path, ?_,
    joins.loadRecordFile_eq known type, Json.sameValue_self _, fun _ => ?_⟩
  · rw [joins.appends.kind, known]
  · rw [joins.payload_get, identity]
  · rw [records, Publication.records, Function.update_self]
  · rw [joins.payload_toJson, joins.recordBytes]

/-- A file of the base is not the one that the commit adds. -/
theorem backed_of_base (records : disk.records = prepared.records base) {entry : LedgerEntry}
    (h : store.Backed base entry) : store.Backed disk entry := by
  obtain ⟨context, identity, path, bytes, record, known, hidentity, hpath, present, rest⟩ := h
  refine ⟨context, identity, path, bytes, record, known, hidentity, hpath, ?_, rest⟩
  have other : path ≠ prepared.plan.destination := by
    rintro rfl
    rw [joins.prepares.free] at present
    cases present
  rw [records, Publication.records, Function.update_of_ne other, present]

/-- The store with the record and the line added is sound. -/
theorem sound_added (ledger : disk.ledger = prepared.ledger base)
    (records : disk.records = prepared.records base) : store.Sound disk := by
  obtain ⟨raw', head', entries, verified, normalized, backed⟩ := joins.sound
  obtain ⟨rfl, rfl⟩ := Prod.mk.inj (Except.ok.inj (joins.verified.symm.trans verified))
  refine ⟨raw ++ [rawEntry], _, entries ++ [prepared.entry], joins.verified_added ledger, ?_, ?_⟩
  · rw [List.mapM_append, normalized, List.mapM_cons, joins.appends.normalized]
    rfl
  · intro entry member
    rcases List.mem_append.mp member with member | member
    · exact joins.backed_of_base records (backed entry member)
    · obtain rfl := List.mem_singleton.mp member
      exact joins.backed records

end Joins

end MncsForge.Store
