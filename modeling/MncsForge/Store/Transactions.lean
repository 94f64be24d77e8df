import Mathlib
import MncsForge.Foundation.Interruption
import MncsForge.Paths
import MncsForge.Store.Projection

/-!
# The local record store

A commit adds one immutable record file and one ledger line.  It stages both in a
transaction directory, writes a journal, and then moves them into place one after the
other.  Recovery goes over the directories that are left and finishes or drops what
each has begun.
-/

namespace MncsForge.Store

open MncsForge.Foundation MncsForge.Records MncsForge.Ledger

/-! ## The state directory -/

/-- A file below `records`. -/
structure RecordPath where
  group : String
  name : String
  deriving DecidableEq

/-- The path relative to the state directory. -/
def RecordPath.relative (path : RecordPath) : String :=
  s!"records/{path.group}/{path.name}"

structure TransactionDirectory where
  recordStage : Option (List UInt8) := none
  ledgerStage : Option (List UInt8) := none
  journal : Option (List UInt8) := none
  /-- Files that were to replace the journal. -/
  temporaries : List (List UInt8) := []

structure Disk where
  ledger : Option (List UInt8)
  records : RecordPath → Option (List UInt8)
  index : Option (List UInt8)
  /-- The directories below `transactions`, by name. -/
  transactions : Dict String TransactionDirectory
  /-- Files that were to replace the index. -/
  temporaries : List (List UInt8)

namespace Disk

/-- A state directory in which nothing is recorded yet. -/
def initial : Disk where
  ledger := none
  records := fun _ => none
  index := none
  transactions := []
  temporaries := []

/-- `_ledger_bytes_unlocked` -/
def ledgerBytes (disk : Disk) : List UInt8 := disk.ledger.getD []

def directory (disk : Disk) (name : String) : TransactionDirectory :=
  (Dict.get? disk.transactions name).getD {}

def inDirectory (name : String) (change : TransactionDirectory → TransactionDirectory)
    (disk : Disk) : Disk :=
  { disk with
    transactions := Dict.set disk.transactions name (change (disk.directory name)) }

/-- `os.replace` of the staged record. -/
def publishRecord (name : String) (destination : RecordPath) (disk : Disk) : Disk :=
  let changed := disk.inDirectory name fun directory => { directory with recordStage := none }
  { changed with
    records := Function.update disk.records destination (disk.directory name).recordStage }

/-- `os.replace` of the staged ledger. -/
def publishLedger (name : String) (disk : Disk) : Disk :=
  let changed := disk.inDirectory name fun directory => { directory with ledgerStage := none }
  { changed with ledger := (disk.directory name).ledgerStage }

end Disk

/-! ## Names and bytes -/

/-- The characters `safe_record_identity` keeps. -/
def isPortable (c : Char) : Bool :=
  c.isAlphanum || c == '.' || c == '_' || c == '-'

def safeRecordIdentity (identity : String) : Except ForgeError String := do
  refuseIf (identity = "" ∨ identity = "." ∨ identity = "..") "RECORD_IDENTITY"
    "immutable record identity is empty or invalid"
  .ok (String.ofList (identity.toList.map fun c => if isPortable c then c else '_'))

def immutableRecordPath (group identity : String) : Except ForgeError RecordPath := do
  let safeIdentity ← safeRecordIdentity identity
  .ok ⟨group, s!"{safeIdentity}.json"⟩

/-- A canonical line: what `canonical_bytes` yields and a line feed. -/
def canonicalLine (fields : Dict String Json) : Except ForgeError (List UInt8) := do
  refuseIf (¬(Json.obj fields).WellFormed) "ValueError"
    "Out of range float values are not JSON compliant"
  .ok ((Json.obj fields).canonicalBytes ++ [10])

def immutableRecordByteCap : Nat := 4000000

def ledgerLineByteCap : Nat := 16000000

/-- The identity a record is stored under. -/
def storedIdentity (record : ForgeRecord) (identityField message : String) :
    Except ForgeError String :=
  match record.get identityField with
  | .str identity => do
      refuseIf (identity = "") "RECORD_IDENTITY" message
      .ok identity
  | _ => .error ⟨"RECORD_IDENTITY", message⟩

/-! ## Journals -/

/-- What a prepared transaction is going to do. -/
structure Plan where
  transactionId : String
  recordGroup : String
  ledgerKind : String
  recordIdentity : String
  destination : RecordPath
  recordSha256 : String
  ledgerBeforeSha256 : String
  ledgerAfterSha256 : String
  expectedSequence : Nat
  expectedPreviousHash : String
  entryHash : String

/-- The journal of a transaction in this state. -/
def Plan.journal (plan : Plan) (state : String) : Dict String Json :=
  [("entry_hash", .str plan.entryHash),
   ("expected_previous_hash", .str plan.expectedPreviousHash),
   ("expected_sequence", .int plan.expectedSequence),
   ("ledger_after_sha256", .str plan.ledgerAfterSha256),
   ("ledger_before_sha256", .str plan.ledgerBeforeSha256),
   ("ledger_kind", .str plan.ledgerKind),
   ("record_destination", .str plan.destination.relative),
   ("record_group", .str plan.recordGroup),
   ("record_identity", .str plan.recordIdentity),
   ("record_sha256", .str plan.recordSha256),
   ("schema_version", .int 1),
   ("state", .str state),
   ("transaction_id", .str plan.transactionId)]

/-- `_journal_bytes` -/
def journalBytes (journal : Dict String Json) : List UInt8 :=
  (Json.obj journal).canonicalBytes ++ [10]

def journalRequired : List String :=
  ["entry_hash", "expected_previous_hash", "expected_sequence", "ledger_after_sha256",
   "ledger_before_sha256", "ledger_kind", "record_destination", "record_group",
   "record_identity", "record_sha256", "schema_version", "state", "transaction_id"]

def journalHashes : List String :=
  ["record_sha256", "ledger_before_sha256", "ledger_after_sha256", "expected_previous_hash",
   "entry_hash"]

/-- A text of 64 hexadecimal digits. -/
def isSha256 (value : Json) : Bool :=
  match value with
  | .str text => text.length = 64 && text.toList.all fun c => c ∈ "0123456789abcdef".toList
  | _ => false

/-- `expected_sequence` of a journal that has been checked. -/
def sequenceOf (journal : Dict String Json) : Nat :=
  match field journal "expected_sequence" with
  | .int sequence => sequence.toNat
  | _ => 0

/-- A text of a journal that has been checked. -/
def journalText (journal : Dict String Json) (key : String) : String :=
  ((field journal key).asStr?).getD ""

/-- `sequence` is an integer from one on, and no Boolean. -/
def isSequence (value : Json) : Bool :=
  match value with
  | .int sequence => 1 ≤ sequence
  | _ => false

/-- The store with what it calls. -/
structure LocalRecordStore where
  hashing : Hashing
  /-- The lines of the ledger file. -/
  decode : List UInt8 → Except ForgeError (List RawEntry)
  /-- `json.loads`, with nothing for what it cannot read. -/
  loads : List UInt8 → Option Json
  /-- `read_json` of a record file; what it raises is no domain error. -/
  readJson : List UInt8 → Except ForgeError Json

namespace LocalRecordStore

variable (store : LocalRecordStore)

def sha256 (value : List UInt8) : String := store.hashing.hexdigest value

/-- `_load_journal` -/
def loadJournal (name : String) (bytes : List UInt8) : Except ForgeError (Dict String Json) :=
  match store.loads bytes with
  | none => .error ⟨"RECOVERY_JOURNAL_MALFORMED", "cannot read transaction journal"⟩
  | some (.obj journal) => do
      refuseIf (Dict.sortedSet (Dict.keys journal) ≠ journalRequired)
        "RECOVERY_JOURNAL_MALFORMED" "transaction journal shape is invalid"
      refuseIf
        ((field journal "schema_version").isIndex 1 = false ∨
          field journal "transaction_id" ≠ .str name ∨
          (field journal "state" ≠ .str "PREPARED" ∧ field journal "state" ≠ .str "COMMITTED") ∨
          isSequence (field journal "expected_sequence") = false ∨
          (∃ key ∈ journalRequired, key ≠ "schema_version" ∧ key ≠ "expected_sequence" ∧
            (field journal key).asStr? = none) ∨
          ∃ key ∈ journalHashes, isSha256 (field journal key) = false)
        "RECOVERY_JOURNAL_MALFORMED" "transaction journal values are invalid"
      .ok journal
  | some _ => .error ⟨"RECOVERY_JOURNAL_MALFORMED", "transaction journal shape is invalid"⟩

/-! ## Reading the ledger -/

/-- `_read_unlocked_raw` and `_verify_raw_records`, with the head. -/
def verifiedLedger (disk : Disk) : Except ForgeError (List RawEntry × String) := do
  let raw ← match disk.ledger with
    | none => .ok []
    | some bytes => store.decode bytes
  let head ← verifyFrom store.hashing.hexdigest 1 genesis raw
  .ok (raw, head)

/-- The entries under this identity. -/
def existingEntries (kind identityField identity : String) (raw : List RawEntry) :
    Except ForgeError (List LedgerEntry) :=
  (raw.filter fun entry => entry.get "kind" = .str kind ∧
    ∃ payload ∈ (entry.get "payload").asObj?,
      field payload identityField = .str identity).mapM (normalizeLedgerEntry store.hashing)

/-- The members of an entry that its hash covers. -/
def entryBody (kind : String) (payload : ForgeRecord) (raw : List RawEntry)
    (timestamp : String) : Dict String Json :=
  [("kind", .str kind),
   ("payload", .obj payload.toJson),
   ("previous_hash", expectedHead raw),
   ("record_type", .str ledgerEntryType),
   ("schema_version", .str currentSchemaVersion),
   ("sequence", .int (raw.length + 1)),
   ("timestamp", .str timestamp)]

/-- `_build_entry_unlocked`, with the members of the entry. -/
def buildEntryUnlocked (kind : String) (payload : ForgeRecord) (raw : List RawEntry)
    (timestamp : String) : Except ForgeError (RawEntry × LedgerEntry) := do
  let expectedType ← payloadType kind
  refuseIf (payload.recordType ≠ expectedType) "RECORD_TYPE_MISMATCH"
    s!"ledger kind {kind} requires {expectedType.value}, got {payload.recordType.value}"
  refuseIf (payload.schemaVersion ≠ currentSchemaVersion) "RECORD_VERSION_WRITE"
    "new ledger payloads require schema version 1"
  let body := entryBody kind payload raw timestamp
  let fields := ("entry_hash", .str (entryHash store.hashing.hexdigest (.obj body))) :: body
  if wellFormed : (Json.obj fields).WellFormed then do
    let entry ← normalizeLedgerEntry store.hashing ⟨fields, wellFormed⟩
    .ok (⟨fields, wellFormed⟩, entry)
  else .error ⟨"ValueError", "Out of range float values are not JSON compliant"⟩

/-- `_resolve_duplicate` -/
def resolveDuplicate (persisted : Option (List UInt8)) (record : ForgeRecord)
    (recordBytes : List UInt8) (entries : List LedgerEntry) : Except ForgeError LedgerEntry :=
  match entries, persisted with
  | [entry], some bytes => do
      refuseIf
        (bytes ≠ recordBytes ∨
          Json.sameValue (.obj entry.payload.toJson) (.obj record.toJson) = false)
        "RECORD_EXISTS" "immutable record identity already exists with different content"
      .ok entry
  | _, _ => .error ⟨"RECORD_STORAGE_CONFLICT",
      "record identity has an incomplete or duplicate durable representation"⟩

/-- `load_record_file` of a group. -/
def loadRecordFile (bytes : List UInt8) (group : String) : Except ForgeError ForgeRecord :=
  match recordGroupTypes.lookup group with
  | none => .error ⟨"RECORD_CONTEXT", s!"unknown immutable record group: {group}"⟩
  | some expectedType => do
      match ← store.readJson bytes with
      | .obj raw => parseRecord store.hashing raw expectedType
      | _ => .error ⟨"RECORD_MALFORMED", "record file must contain a JSON object"⟩

/-! ## The index -/

/-- `by_kind` -/
def sequencesByKind (entries : List LedgerEntry) : Dict String (List Int) :=
  entries.foldl
    (fun found entry =>
      Dict.set found entry.kind (((Dict.get? found entry.kind).getD []) ++ [entry.sequence]))
    []

/-- The identity that an entry is listed under. -/
def indexedIdentity (entry : LedgerEntry) : Option (String × Int) :=
  (recordContext? entry.kind).bind fun context =>
    ((entry.payload.get context.identityField).asStr?).map fun identity =>
      (s!"{entry.kind}:{identity}", entry.sequence)

/-- `_index_data_unlocked` -/
def indexData (disk : Disk) (raw : List RawEntry) : Except ForgeError Json := do
  let entries ← raw.mapM (normalizeLedgerEntry store.hashing)
  let identities := Dict.update [] (entries.filterMap indexedIdentity)
  .ok (.obj
    [("entry_count", .int raw.length),
     ("identity_sequences", .obj (identities.map fun entry => (entry.1, .int entry.2))),
     ("ledger_head", expectedHead raw),
     ("ledger_sha256", .str (store.sha256 disk.ledgerBytes)),
     ("ledger_size", .int disk.ledgerBytes.length),
     ("schema_version", .int 1),
     ("sequences_by_kind", .obj ((sequencesByKind entries).map fun entry =>
        (entry.1, .arr (entry.2.map Json.int))))])

/-! ## Programs -/

/-- `_atomic_write` of the index: the bytes go to another file first. -/
def writeIndex (value : List UInt8) : Script Disk ForgeError Unit := do
  Script.modify fun disk => { disk with temporaries := value :: disk.temporaries }
  Script.modify fun disk =>
    { disk with temporaries := disk.temporaries.erase value, index := some value }

/-- `_ensure_index_unlocked` -/
def ensureIndex (raw : List RawEntry) : Script Disk ForgeError Unit := do
  let disk ← Script.get
  let expected ← Script.lift (store.indexData disk raw)
  if Json.sameValue ((disk.index.bind store.loads).getD .null) expected then pure ()
  else writeIndex (expected.canonicalBytes ++ [10])

/-- `_rebuild_index_unlocked` -/
def rebuildIndex : Script Disk ForgeError Unit := do
  let disk ← Script.get
  let verified ← Script.lift (store.verifiedLedger disk)
  store.ensureIndex verified.1

/-- `_atomic_write` of a journal. -/
def writeJournal (name : String) (journal : Dict String Json) : Script Disk ForgeError Unit := do
  let bytes := journalBytes journal
  Script.modify (Disk.inDirectory name fun directory =>
    { directory with temporaries := bytes :: directory.temporaries })
  Script.modify (Disk.inDirectory name fun directory =>
    { directory with
      temporaries := directory.temporaries.erase bytes, journal := some bytes })

/-- `_cleanup_transaction_unlocked` -/
def cleanupTransaction (name : String) : Script Disk ForgeError Unit :=
  Script.modify fun disk => { disk with transactions := Dict.erase disk.transactions name }

/-- `_validate_recovery_file` -/
def validateRecoveryFile (file : Option (List UInt8)) (expectedHash label : String) :
    Except ForgeError Unit :=
  match file with
  | none => .error ⟨"RECOVERY_AMBIGUOUS", s!"{label} is missing or unreadable"⟩
  | some value =>
      refuseIf (store.sha256 value ≠ expectedHash) "RECOVERY_STAGE_MISMATCH"
        s!"{label} content was substituted"

/-- The predecessor that the journal expects. -/
def checkPredecessor (disk : Disk) (journal : Dict String Json) (code message : String) :
    Except ForgeError Unit := do
  let verified ← store.verifiedLedger disk
  refuseIf
    (verified.1.length + 1 ≠ sequenceOf journal ∨
      verified.2 ≠ journalText journal "expected_previous_hash")
    code message

/-- `_assert_expected_ledger` -/
def assertExpectedLedger (disk : Disk) (journal : Dict String Json)
    (expectedBytes : List UInt8) : Except ForgeError Unit := do
  refuseIf
    (disk.ledgerBytes ≠ expectedBytes ∨
      store.sha256 disk.ledgerBytes ≠ journalText journal "ledger_before_sha256")
    "TRANSACTION_LEDGER_CONFLICT" "ledger head changed after transaction preparation"
  store.checkPredecessor disk journal "TRANSACTION_LEDGER_CONFLICT"
    "prepared predecessor no longer matches ledger"

/-- The files that recovery publishes while the ledger is the old one. -/
def publishPrepared (name : String) (journal : Dict String Json) (destination : RecordPath) :
    Script Disk ForgeError Unit := do
  let disk ← Script.get
  Script.lift (refuseIf (journalText journal "state" = "COMMITTED") "RECOVERY_AMBIGUOUS"
    "committed transaction has old ledger")
  Script.lift (store.validateRecoveryFile (disk.directory name).ledgerStage
    (journalText journal "ledger_after_sha256") "staged ledger")
  if (disk.records destination).isNone then
    Script.modify (Disk.publishRecord name destination)
  let disk ← Script.get
  Script.lift (store.checkPredecessor disk journal "RECOVERY_LEDGER_CONFLICT"
    "prepared transaction predecessor has changed")
  Script.modify (Disk.publishLedger name)

/-- The checks of a transaction whose files are in place. -/
def checkPublished (disk : Disk) (journal : Dict String Json) (context : PersistedRecordContext)
    (destination : RecordPath) : Except ForgeError Unit := do
  refuseIf (store.sha256 disk.ledgerBytes ≠ journalText journal "ledger_after_sha256")
    "RECOVERY_LEDGER_CONFLICT" "ledger matches neither transaction state"
  refuseIf (disk.records destination = none) "RECOVERY_AMBIGUOUS"
    "transaction ledger exists without its record"
  store.validateRecoveryFile (disk.records destination) (journalText journal "record_sha256")
    "record"
  let verified ← store.verifiedLedger disk
  match verified.1[sequenceOf journal - 1]? with
  | none => .error ⟨"RECOVERY_AMBIGUOUS", "transaction ledger entry is absent"⟩
  | some raw => do
      let entry ← normalizeLedgerEntry store.hashing raw
      refuseIf
        (entry.entryHash ≠ journalText journal "entry_hash" ∨ entry.kind ≠ context.ledgerKind)
        "RECOVERY_AMBIGUOUS" "transaction ledger entry does not match journal"
      let record ← store.loadRecordFile ((disk.records destination).getD []) context.group
      refuseIf (Json.sameValue (.obj record.toJson) (.obj entry.payload.toJson) = false)
        "RECOVERY_AMBIGUOUS" "transaction record and ledger payload differ"

/-- The end of `_recover_transaction_unlocked`, after the publication. -/
def completeTransaction (name : String) (journal : Dict String Json)
    (context : PersistedRecordContext) (destination : RecordPath) :
    Script Disk ForgeError Unit := do
  let disk ← Script.get
  Script.lift (store.checkPublished disk journal context destination)
  writeJournal name (Dict.set journal "state" (.str "COMMITTED"))
  store.rebuildIndex
  cleanupTransaction name
  pure ()

/-- `_recover_transaction_unlocked` -/
def recoverTransaction (name : String) (journal : Dict String Json) :
    Script Disk ForgeError Unit := do
  let context ← Script.lift (persistedRecordContext (journalText journal "record_group")
    (journalText journal "ledger_kind"))
  let destination ← Script.lift (immutableRecordPath (journalText journal "record_group")
    (journalText journal "record_identity"))
  Script.lift (refuseIf
    (Paths.PurePosixPath.ofString (journalText journal "record_destination") ≠
      Paths.PurePosixPath.ofString destination.relative)
    "RECOVERY_JOURNAL_MALFORMED" "record destination is not canonical")
  let disk ← Script.get
  Script.lift (store.validateRecoveryFile
    ((disk.records destination).or (disk.directory name).recordStage)
    (journalText journal "record_sha256") "record")
  if store.sha256 disk.ledgerBytes = journalText journal "ledger_before_sha256" then
    store.publishPrepared name journal destination
  store.completeTransaction name journal context destination

/-- The loop of `_recover_unlocked`, with the transactions completed and abandoned. -/
def recoverEach (completed abandoned : Nat) :
    List String → Script Disk ForgeError (Nat × Nat)
  | [] => pure (completed, abandoned)
  | name :: names => do
      let disk ← Script.get
      match (disk.directory name).journal with
      | none => do
          cleanupTransaction name
          recoverEach completed (abandoned + 1) names
      | some bytes => do
          let journal ← Script.lift (store.loadJournal name bytes)
          store.recoverTransaction name journal
          recoverEach (completed + 1) abandoned names

/-- `_recover_unlocked` -/
def recoverUnlocked : Script Disk ForgeError (Nat × Nat) := do
  let disk ← Script.get
  store.recoverEach 0 0 (Dict.keys disk.transactions)

/-- A domain error of a record file names the ledger entry. -/
def malformedFile (sequence : Int) (error : ForgeError) : ForgeError :=
  if error.code = "ValueError" ∨ error.code = "RecursionError" then error
  else ⟨"RECORD_FILE_MALFORMED",
    s!"immutable record for ledger entry {sequence} is invalid: {error.message}"⟩

/-- The check of one entry in `_verify_immutable_records_unlocked`. -/
def verifyImmutableRecord (disk : Disk) (entry : LedgerEntry) : Except ForgeError Unit :=
  match recordContext? entry.kind with
  | none => .error ⟨"KeyError", entry.kind⟩
  | some context => do
      let identity ← storedIdentity entry.payload context.identityField
        s!"ledger entry {entry.sequence} has no valid {context.identityField}"
      let path ← immutableRecordPath context.group identity
      match disk.records path with
      | none => .error ⟨"RECORD_FILE_MISSING",
          s!"immutable record is missing for ledger entry {entry.sequence}"⟩
      | some bytes => do
          let record ← (store.loadRecordFile bytes context.group).mapError
            (malformedFile entry.sequence)
          refuseIf (Json.sameValue (.obj record.toJson) (.obj entry.payload.toJson) = false)
            "RECORD_FILE_MISMATCH"
            s!"immutable record differs from ledger entry {entry.sequence}"
          refuseIf
            (entry.sourceSchemaVersion = currentSchemaVersion ∧
              bytes ≠ (Json.obj entry.payload.toJson).canonicalBytes ++ [10])
            "RECORD_FILE_MISMATCH"
            s!"immutable record serialization differs at ledger entry {entry.sequence}"

/-- `_verify_immutable_records_unlocked` -/
def verifyImmutableRecords (disk : Disk) (entries : List LedgerEntry) :
    Except ForgeError Unit := do
  let _ ← entries.mapM (store.verifyImmutableRecord disk)
  .ok ()

/-- `LocalRecordStore.recover` -/
def recover : Script Disk ForgeError (Nat × Nat) := do
  let recovered ← store.recoverUnlocked
  let disk ← Script.get
  let verified ← Script.lift (store.verifiedLedger disk)
  let entries ← Script.lift (verified.1.mapM (normalizeLedgerEntry store.hashing))
  Script.lift (store.verifyImmutableRecords disk entries)
  if disk.index.isSome then
    store.ensureIndex verified.1
  pure recovered

/-- What a commit writes. -/
structure Draft where
  recordGroup : String
  ledgerKind : String
  record : ForgeRecord
  timestamp : String
  transactionId : String

/-- The plan of a commit, with the bytes of the record and of the ledger line. -/
structure Publication where
  plan : Plan
  recordBytes : List UInt8
  line : List UInt8
  entry : LedgerEntry

/-- The checks of `commit` before it touches the state directory: the identity field,
the identity, the destination and the bytes of the record. -/
def checkDraft (draft : Draft) :
    Except ForgeError (String × String × RecordPath × List UInt8) := do
  let context ← persistedRecordContext draft.recordGroup draft.ledgerKind
  refuseIf (draft.record.recordType ≠ context.recordType) "RECORD_TYPE_MISMATCH"
    (s!"storage context requires {context.recordType.value}, " ++
      s!"got {draft.record.recordType.value}")
  refuseIf (draft.record.schemaVersion ≠ currentSchemaVersion) "RECORD_VERSION_WRITE"
    "new records require schema version 1"
  let identity ← storedIdentity draft.record context.identityField
    s!"record requires string identity field {context.identityField}"
  let destination ← immutableRecordPath draft.recordGroup identity
  let recordBytes ← canonicalLine draft.record.toJson
  refuseIf (immutableRecordByteCap < recordBytes.length) "RECORD_SIZE"
    "immutable record exceeds the storage byte limit"
  .ok (context.identityField, identity, destination, recordBytes)

/-- The entry and the journal of a commit onto this disk. -/
def prepare (draft : Draft) (identity : String) (destination : RecordPath)
    (recordBytes : List UInt8) (disk : Disk) (raw : List RawEntry) :
    Except ForgeError Publication := do
  let built ← store.buildEntryUnlocked draft.ledgerKind draft.record raw draft.timestamp
  let line := (Json.obj built.1.fields).canonicalBytes ++ [10]
  refuseIf (ledgerLineByteCap < line.length) "RECORD_SIZE"
    "ledger entry exceeds the storage byte limit"
  .ok
    { plan :=
        { transactionId := draft.transactionId
          recordGroup := draft.recordGroup
          ledgerKind := draft.ledgerKind
          recordIdentity := identity
          destination := destination
          recordSha256 := store.sha256 recordBytes
          ledgerBeforeSha256 := store.sha256 disk.ledgerBytes
          ledgerAfterSha256 := store.sha256 (disk.ledgerBytes ++ line)
          expectedSequence := built.2.sequence.toNat
          expectedPreviousHash := built.2.previousHash
          entryHash := built.2.entryHash }
      recordBytes := recordBytes
      line := line
      entry := built.2 }

/-- The durable steps of a commit, from the staging to the end. -/
def publish (prepared : Publication) (before : List UInt8) :
    Script Disk ForgeError LedgerEntry := do
  let plan := prepared.plan
  let name := plan.transactionId
  Script.modify (Disk.inDirectory name fun _ => {})
  Script.modify (Disk.inDirectory name fun directory =>
    { directory with recordStage := some prepared.recordBytes })
  Script.modify (Disk.inDirectory name fun directory =>
    { directory with ledgerStage := some (before ++ prepared.line) })
  writeJournal name (plan.journal "PREPARED")
  Script.modify (Disk.publishRecord name plan.destination)
  let disk ← Script.get
  Script.lift (store.assertExpectedLedger disk (plan.journal "PREPARED") before)
  Script.modify (Disk.publishLedger name)
  writeJournal name (plan.journal "COMMITTED")
  store.rebuildIndex
  cleanupTransaction name
  pure prepared.entry

/-- `LocalRecordStore.commit` -/
def commit (draft : Draft) : Script Disk ForgeError LedgerEntry := do
  let (identityField, identity, destination, recordBytes) ← Script.lift (checkDraft draft)
  let _ ← store.recoverUnlocked
  let disk ← Script.get
  let verified ← Script.lift (store.verifiedLedger disk)
  let existing ← Script.lift (store.existingEntries draft.ledgerKind identityField identity
    verified.1)
  if (disk.records destination).isSome ∨ existing ≠ [] then
    Script.lift (resolveDuplicate (disk.records destination) draft.record recordBytes existing)
  else do
    let prepared ← Script.lift (store.prepare draft identity destination recordBytes disk
      verified.1)
    store.publish prepared disk.ledgerBytes

end LocalRecordStore

end MncsForge.Store
