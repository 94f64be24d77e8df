import Mathlib
import MncsForge.Store.Durability

/-!
# Histories of the record store

A history is any sequence of commits and recoveries, each of which may stop anywhere.
What holds of a rested store and is kept by every addition holds whenever a recovery has
ended.
-/

namespace MncsForge.Store

open MncsForge.Foundation MncsForge.Records MncsForge.Ledger
open MncsForge.Foundation.JsonText (Legible Room)
open LocalRecordStore (Draft Publication Prepares)

/-! ## Commits the store reads back -/

/-- What a commit of the draft onto the base is going to write. -/
def PreparedFor (store : LocalRecordStore) (draft : Draft) (base : Disk)
    (prepared : Publication) : Prop :=
  ∃ identityField identity destination recordBytes raw head,
    LocalRecordStore.checkDraft draft = .ok (identityField, identity, destination, recordBytes) ∧
      store.verifiedLedger base = .ok (raw, head) ∧
      store.prepare draft identity destination recordBytes base raw = .ok prepared

/-- The record is one that the interpreter can read, and so is its ledger line. -/
structure Admits (reader : FileReader) (hashing : Hashing) (draft : Draft) (base : Disk) :
    Prop where
  ordered : Dict.Ordered draft.record.fields
  valid : draft.record.Valid hashing
  legible : Legible (reader.dialect true) 1 (.obj draft.record.toJson)
  numbered : ∀ raw head, (reader.store hashing).verifiedLedger base = .ok (raw, head) →
    raw.length + 1 < 10 ^ intDigitLimit
  /-- The digest tells the two ledgers apart. -/
  distinct : ∀ prepared, PreparedFor (reader.store hashing) draft base prepared →
    hashing.hexdigest base.ledgerBytes ≠ hashing.hexdigest (base.ledgerBytes ++ prepared.line)

/-- Every digest is 64 hexadecimal digits. -/
def Hexadecimal (hashing : Hashing) : Prop :=
  ∀ bytes, isSha256 (.str (hashing.hexdigest bytes)) = true

section Admitted

variable {reader : FileReader} {hashing : Hashing} {draft : Draft} {base : Disk}
  {identityField identity head : String} {destination : RecordPath} {recordBytes : List UInt8}
  {raw : List RawEntry} {prepared : Publication}

theorem canonicalLine_eq_ok {fields : Dict String Json} {bytes : List UInt8} :
    canonicalLine fields = .ok bytes ↔
      (Json.obj fields).WellFormed ∧ (Json.obj fields).canonicalBytes ++ [10] = bytes := by
  simp only [canonicalLine, refuseIf_bind_eq_ok, not_not, Except.ok.injEq]

/-- What `checkDraft` has established. -/
structure Checked (draft : Draft) (identityField identity : String) (destination : RecordPath)
    (recordBytes : List UInt8) : Prop where
  context : ∃ context, persistedRecordContext draft.recordGroup draft.ledgerKind = .ok context ∧
    draft.record.recordType = context.recordType ∧ context.identityField = identityField
  carried : draft.record.get identityField = .str identity
  current : draft.record.schemaVersion = currentSchemaVersion
  located : immutableRecordPath draft.recordGroup identity = .ok destination
  wellFormed : (Json.obj draft.record.toJson).WellFormed
  written : recordBytes = (Json.obj draft.record.toJson).canonicalBytes ++ [10]
  short : recordBytes.length ≤ immutableRecordByteCap

theorem checked_of_checkDraft (h : LocalRecordStore.checkDraft draft =
    .ok (identityField, identity, destination, recordBytes)) :
    Checked draft identityField identity destination recordBytes := by
  simp only [LocalRecordStore.checkDraft, bind_eq_ok, refuseIf_eq_ok, not_not, Except.ok.injEq,
    Prod.mk.injEq, not_lt] at h
  obtain ⟨context, known, _, type, _, current, _, hidentity, _, located, _, line, _, short, rfl,
    rfl, rfl, rfl⟩ := h
  obtain ⟨wellFormed, rfl⟩ := canonicalLine_eq_ok.mp line
  exact ⟨⟨context, known, type, rfl⟩, storedIdentity_eq_ok hidentity, current, located,
    wellFormed, rfl, short⟩

/-- What `prepare` has put together. -/
theorem prepare_eq_ok {store : LocalRecordStore}
    (h : store.prepare draft identity destination recordBytes base raw = .ok prepared) :
    ∃ rawEntry, store.buildEntryUnlocked draft.ledgerKind draft.record raw draft.timestamp =
        .ok (rawEntry, prepared.entry) ∧
      prepared.line = (Json.obj rawEntry.fields).canonicalBytes ++ [10] ∧
      prepared.line.length ≤ ledgerLineByteCap ∧ prepared.recordBytes = recordBytes ∧
      prepared.plan =
        { transactionId := draft.transactionId
          recordGroup := draft.recordGroup
          ledgerKind := draft.ledgerKind
          recordIdentity := identity
          destination := destination
          recordSha256 := store.sha256 recordBytes
          ledgerBeforeSha256 := store.sha256 base.ledgerBytes
          ledgerAfterSha256 := store.sha256 (base.ledgerBytes ++ prepared.line)
          expectedSequence := prepared.entry.sequence.toNat
          expectedPreviousHash := prepared.entry.previousHash
          entryHash := prepared.entry.entryHash } := by
  simp only [LocalRecordStore.prepare, bind_eq_ok, refuseIf_eq_ok, not_lt, Except.ok.injEq] at h
  obtain ⟨⟨rawEntry, entry⟩, built, _, short, rfl⟩ := h
  exact ⟨rawEntry, built, rfl, short, rfl, rfl⟩

/-- A room for the containers of the entry is one for those of the record. -/
theorem legible_entry {rawEntry : RawEntry} {timestamp kind : String} {payload : ForgeRecord}
    (chain : verifyFrom hashing.hexdigest 1 genesis raw = .ok head)
    (legible : Legible (reader.dialect true) 1 (.obj payload.toJson))
    (numbered : raw.length + 1 < 10 ^ intDigitLimit)
    (fields : rawEntry.fields = ("entry_hash", .str (entryHash hashing.hexdigest
      (.obj (LocalRecordStore.entryBody kind payload raw timestamp)))) ::
        LocalRecordStore.entryBody kind payload raw timestamp) :
    Legible (reader.dialect false) 0 (.obj rawEntry.fields) := by
  have inner : Legible (reader.dialect false) 1 (.obj payload.toJson) :=
    FileReader.legible_dialect legible le_rfl
  have number : Legible (reader.dialect false) 1 (.int (raw.length + 1)) := by
    have small : Legible (reader.dialect false) 1 (.int ((raw.length + 1 : Nat) : Int)) :=
      FileReader.legible_nat numbered 1
    rwa [Nat.cast_add, Nat.cast_one] at small
  have room : Room (reader.dialect false) 0 := by
    intro limit given
    have deeper := inner.1 limit given
    omega
  rw [fields, LocalRecordStore.entryBody, expectedHead_eq chain]
  exact ⟨room, trivial, trivial, inner, trivial, trivial, trivial, number, trivial, trivial⟩

theorem decode_added {rawEntry : RawEntry} {line : List UInt8}
    (decoded : (base.ledger.map reader.decode).getD (.ok []) = .ok raw)
    (written : line = (Json.obj rawEntry.fields).canonicalBytes ++ [10])
    (short : line.length ≤ ledgerLineByteCap)
    (legible : Legible (reader.dialect false) 0 (.obj rawEntry.fields)) :
    reader.decode (base.ledgerBytes ++ line) = .ok (raw ++ [rawEntry]) := by
  have before : reader.decode base.ledgerBytes = .ok raw := by
    rw [Disk.ledgerBytes]
    cases ledger : base.ledger with
    | none =>
        rw [ledger] at decoded
        obtain rfl := Except.ok.inj decoded
        rfl
    | some bytes =>
        rw [ledger] at decoded
        exact decoded
  subst written
  exact FileReader.decode_append before legible short

/-- The journals of a commit are read back. -/
theorem loads_journal {plan : Plan} (room : 0 < reader.depth)
    (numbered : plan.expectedSequence < 10 ^ intDigitLimit) (state : String) :
    (reader.store hashing).loads (journalBytes (plan.journal state)) =
      some (.obj (plan.journal state)) := by
  have legible : Legible (reader.dialect true) 0 (.obj (plan.journal state)) := by
    refine JsonText.legible_flat (FileReader.room_dialect room) ?_
    simp only [Plan.journal, List.forall_mem_cons, List.not_mem_nil, false_imp_iff, implies_true,
      and_true]
    refine ⟨Or.inl ⟨_, rfl⟩, Or.inl ⟨_, rfl⟩, Or.inr ⟨_, rfl, fun limit given => ?_⟩,
      Or.inl ⟨_, rfl⟩, Or.inl ⟨_, rfl⟩, Or.inl ⟨_, rfl⟩, Or.inl ⟨_, rfl⟩, Or.inl ⟨_, rfl⟩,
      Or.inl ⟨_, rfl⟩, Or.inl ⟨_, rfl⟩, Or.inr ⟨1, rfl, fun limit given => ?_⟩,
      Or.inl ⟨_, rfl⟩, Or.inl ⟨_, rfl⟩⟩
    · obtain rfl := Option.some.inj given
      exact FileReader.digitCount_le numbered
    · obtain rfl := Option.some.inj given
      decide
  have loaded := JsonText.loadBytes_canonicalLine _ (journal_wellFormed plan) legible
  rw [FileReader.store_loads, journalBytes, loaded]
  rfl

/-- A commit of an admitted draft can be read back. -/
theorem Admits.joins (admits : Admits reader hashing draft base)
    (hexadecimal : Hexadecimal hashing) (sound : (reader.store hashing).Sound base)
    (settled : base.transactions = [])
    (checked : LocalRecordStore.checkDraft draft =
      .ok (identityField, identity, destination, recordBytes))
    (verified : (reader.store hashing).verifiedLedger base = .ok (raw, head))
    (prepares : (reader.store hashing).prepare draft identity destination recordBytes base raw =
      .ok prepared)
    (free : base.records destination = none) :
    ∃ rawEntry, Joins (reader.store hashing) draft base prepared raw head rawEntry := by
  have draftChecked := checked_of_checkDraft checked
  obtain ⟨context, known, type, fieldName⟩ := draftChecked.context
  obtain ⟨decoded, chain⟩ := verifiedLedger_eq_ok.mp verified
  obtain ⟨established, -, -⟩ := prepares_of_prepare draftChecked.located free prepares
  obtain ⟨rawEntry, built, line, short, bytes, plan⟩ := prepare_eq_ok prepares
  have appends := appends_of_buildEntryUnlocked chain built
  have numbered := admits.numbered raw head verified
  have sequence : prepared.plan.expectedSequence = raw.length + 1 := by
    rw [plan]
    show prepared.entry.sequence.toNat = _
    rw [appends.sequence]
    omega
  have entryLegible := legible_entry chain admits.legible numbered
    (fields_of_buildEntryUnlocked built)
  have room : 0 < reader.depth := by
    have deeper := admits.legible.1 reader.depth rfl
    omega
  refine ⟨rawEntry,
    { sound := sound
      settled := settled
      verified := verified
      prepares := established
      appends := appends
      ordered := admits.ordered
      current := draftChecked.current
      payload := parsed_eq admits.ordered admits.valid draftChecked.current
        draftChecked.wellFormed appends.parsed
      context := ⟨context, known, type, ?_⟩
      group := by rw [plan]
      ledgerKind := by rw [plan]
      line := line
      recordBytes := by rw [bytes, draftChecked.written]
      recordSha256 := by rw [plan, bytes]
      after := by rw [plan]
      sequence := sequence
      previousHash := by rw [plan, ← appends.previousHash]
      entryHash := by rw [plan]
      decoded := decode_added decoded line short entryLegible
      readable := ?_
      journal := loads_journal room (sequence ▸ numbered)
      hexadecimal := hexadecimal
      distinct := admits.distinct prepared
        ⟨identityField, identity, destination, recordBytes, raw, head, checked, verified,
          prepares⟩ }⟩
  · rw [plan, fieldName]
    exact draftChecked.carried
  · rw [bytes, draftChecked.written]
    have fits := draftChecked.short
    rw [draftChecked.written] at fits
    exact FileReader.readJson_canonicalLine draftChecked.wellFormed
      (FileReader.legible_dialect admits.legible (Nat.zero_le 1)) fits

end Admitted

/-! ## What additions keep -/

/-- The store is at rest, sound and as it is to be kept. -/
structure Rested (store : LocalRecordStore) (kept : Disk → Prop) (disk : Disk) : Prop where
  settled : disk.transactions = []
  sound : store.Sound disk
  holds : kept disk

/-- A property of the ledger and the records that every addition keeps. -/
structure Lasting (store : LocalRecordStore) (kept : Disk → Prop) : Prop where
  unchanged : ∀ {base disk}, kept base → Unchanged base disk → kept disk
  added : ∀ {draft base disk prepared raw head rawEntry},
    Joins store draft base prepared raw head rawEntry → kept base →
      disk.ledger = prepared.ledger base → disk.records = prepared.records base → kept disk

/-- The store is at rest, or one commit onto a store at rest has come some way. -/
inductive Consistent (store : LocalRecordStore) (kept : Disk → Prop) (disk : Disk) : Prop where
  | rested (rested : Rested store kept disk)
  | pending {draft : Draft} {base : Disk} {prepared : Publication} {raw : List RawEntry}
      {head : String} {rawEntry : RawEntry}
      (joins : Joins store draft base prepared raw head rawEntry) (holds : kept base)
      (progress : Progress base prepared disk)

section Kept

variable {store : LocalRecordStore} {kept : Disk → Prop} {draft : Draft} {base disk : Disk}
  {prepared : Publication} {raw : List RawEntry} {head : String} {rawEntry : RawEntry}

theorem sound_of_unchanged (h : store.Sound base) (unchanged : Unchanged base disk) :
    store.Sound disk := by
  obtain ⟨raw, head, entries, verified, normalized, backed⟩ := h
  refine ⟨raw, head, entries, ?_, normalized, fun entry member => ?_⟩
  · rw [verifiedLedger_eq_ok, unchanged.1]
    exact verifiedLedger_eq_ok.mp verified
  · have found := backed entry member
    unfold LocalRecordStore.Backed at found ⊢
    rwa [unchanged.2]

theorem Rested.of_unchanged (lasting : Lasting store kept) (h : Rested store kept base)
    (settled : disk.transactions = []) (unchanged : Unchanged base disk) :
    Rested store kept disk :=
  ⟨settled, sound_of_unchanged h.sound unchanged, lasting.unchanged h.holds unchanged⟩

theorem Rested.ignoresIndex (lasting : Lasting store kept) :
    IgnoresIndex (Rested store kept) :=
  fun _ _ _ h => h.of_unchanged lasting h.settled ⟨rfl, rfl⟩

/-- A commit that is undone or done leaves the store at rest. -/
theorem Joins.rested (joins : Joins store draft base prepared raw head rawEntry)
    (lasting : Lasting store kept) (holds : kept base) (h : Settled base prepared disk) :
    Rested store kept disk := by
  obtain ⟨settled, unchanged | ⟨ledger, records⟩⟩ := h
  · exact ⟨settled, sound_of_unchanged joins.sound unchanged, lasting.unchanged holds unchanged⟩
  · exact ⟨settled, joins.sound_added ledger records, lasting.added joins holds ledger records⟩

namespace Consistent

theorem recoverUnlocked_keeps (reads : store.ReadsBack) (lasting : Lasting store kept)
    (h : Consistent store kept disk) :
    store.recoverUnlocked.wp (fun _ => Rested store kept) (Consistent store kept) disk := by
  cases h with
  | rested rested =>
      obtain ⟨run, stops⟩ : store.recoverUnlocked.run disk = (.ok (0, 0), disk) ∧
          store.recoverUnlocked.stops disk = [disk] := recoverUnlocked_of_settled rested.settled
      refine ⟨fun stopped h => ?_, fun counts ended h => ?_⟩
      · rw [stops, List.mem_singleton] at h
        exact h ▸ .rested rested
      · rw [run] at h
        exact (Prod.mk.inj h).2 ▸ rested
  | pending joins holds progress =>
      exact (MncsForge.Store.recoverUnlocked_keeps reads joins.prepares progress).mono
        (fun _ _ settled => joins.rested lasting holds settled)
        fun _ progress => .pending joins holds progress

theorem recoverUnlocked_ends (lasting : Lasting store kept) (h : Consistent store kept disk) :
    store.recoverUnlocked.ends (fun _ => Rested store kept) disk := by
  cases h with
  | rested rested => exact ⟨_, _, (recoverUnlocked_of_settled rested.settled).1, rested⟩
  | pending joins holds progress =>
      exact (joins.recoverUnlocked_ends progress).mono fun _ _ settled =>
        joins.rested lasting holds settled

theorem recover_stops (reads : store.ReadsBack) (lasting : Lasting store kept)
    (h : Consistent store kept disk) :
    ∀ stopped ∈ store.recover.stops disk, Consistent store kept stopped :=
  (recover_keeps (Rested.ignoresIndex lasting) (fun _ => .rested)
    (h.recoverUnlocked_keeps reads lasting)).1

/-- A recovery ends wherever a commit has stopped. -/
theorem recover_ends (lasting : Lasting store kept) (h : Consistent store kept disk) :
    store.recover.ends (fun _ => Rested store kept) disk :=
  MncsForge.Store.recover_ends (Rested.ignoresIndex lasting) (fun _ rested => rested.sound)
    (h.recoverUnlocked_ends lasting)

end Consistent

end Kept

/-! ## Commits -/

/-- The entry is in the ledger. -/
def Recorded (store : LocalRecordStore) (entry : LedgerEntry) (disk : Disk) : Prop :=
  ∃ raw head entries, store.verifiedLedger disk = .ok (raw, head) ∧
    raw.mapM (normalizeLedgerEntry store.hashing) = .ok entries ∧ entry ∈ entries

/-- The entry holds the record of the draft. -/
def Carries (draft : Draft) (entry : LedgerEntry) : Prop :=
  entry.kind = draft.ledgerKind ∧
    Json.sameValue (.obj entry.payload.toJson) (.obj draft.record.toJson) = true

section Commits

variable {reader : FileReader} {hashing : Hashing} {kept : Disk → Prop} {draft : Draft}
  {disk : Disk}

theorem kind_of_normalized {rawEntry : RawEntry} {entry : LedgerEntry}
    (h : normalizeLedgerEntry hashing rawEntry = .ok entry) :
    rawEntry.get "kind" = .str entry.kind := by
  obtain ⟨source, -, h⟩ := normalizeLedgerEntry_eq_ok h
  obtain ⟨-, -, -, kind, -⟩ := ledgerEntryOf_eq_ok h
  rwa [field, recordData, Dict.get?_erase, Dict.get?_erase, if_neg (by decide),
    if_neg (by decide)] at kind

theorem kind_of_existing {store : LocalRecordStore} {raw : List RawEntry}
    {kind identityField identity : String} {entry : LedgerEntry} {found : List LedgerEntry}
    (existing : store.existingEntries kind identityField identity raw = .ok found)
    (member : entry ∈ found) : entry.kind = kind := by
  obtain ⟨rawEntry, selected, hentry⟩ := mem_of_mapM_eq_ok existing member
  have selection := (List.mem_filter.mp selected).2
  simp only [decide_eq_true_eq, kind_of_normalized hentry, Json.str.injEq] at selection
  exact selection.1

theorem recorded_of_existing {store : LocalRecordStore} {raw : List RawEntry}
    {head kind identityField identity : String} {entry : LedgerEntry} {found : List LedgerEntry}
    (sound : store.Sound disk) (verified : store.verifiedLedger disk = .ok (raw, head))
    (existing : store.existingEntries kind identityField identity raw = .ok found)
    (member : entry ∈ found) : Recorded store entry disk := by
  obtain ⟨raw', head', entries, verified', normalized, -⟩ := sound
  obtain ⟨rfl, rfl⟩ := Prod.mk.inj (Except.ok.inj (verified.symm.trans verified'))
  obtain ⟨rawEntry, selected, hentry⟩ := mem_of_mapM_eq_ok existing member
  obtain ⟨other, among, hother⟩ := exists_mem_of_mapM_eq_ok normalized
    (List.mem_of_mem_filter selected)
  obtain rfl := Except.ok.inj (hentry.symm.trans hother)
  exact ⟨raw, head, entries, verified, normalized, among⟩

theorem Joins.recorded {store : LocalRecordStore} {base : Disk} {prepared : Publication}
    {raw : List RawEntry} {head : String} {rawEntry : RawEntry}
    (joins : Joins store draft base prepared raw head rawEntry)
    (ledger : disk.ledger = prepared.ledger base) : Recorded store prepared.entry disk := by
  obtain ⟨raw', head', entries, verified, normalized, -⟩ := joins.sound
  obtain ⟨rfl, rfl⟩ := Prod.mk.inj (Except.ok.inj (joins.verified.symm.trans verified))
  refine ⟨_, _, entries ++ [prepared.entry], joins.verified_added ledger, ?_,
    List.mem_append_right _ List.mem_cons_self⟩
  rw [List.mapM_append, normalized, List.mapM_cons, joins.appends.normalized]
  rfl

theorem Joins.carries {store : LocalRecordStore} {base : Disk} {prepared : Publication}
    {raw : List RawEntry} {head : String} {rawEntry : RawEntry}
    (joins : Joins store draft base prepared raw head rawEntry) :
    Carries draft prepared.entry := by
  refine ⟨joins.appends.kind, ?_⟩
  rw [joins.payload_toJson]
  exact Json.sameValue_self _

theorem resolveDuplicate_eq_ok {persisted : Option (List UInt8)} {record : ForgeRecord}
    {recordBytes : List UInt8} {entries : List LedgerEntry} {entry : LedgerEntry} :
    LocalRecordStore.resolveDuplicate persisted record recordBytes entries = .ok entry ↔
      entries = [entry] ∧ persisted = some recordBytes ∧
        Json.sameValue (.obj entry.payload.toJson) (.obj record.toJson) = true := by
  unfold LocalRecordStore.resolveDuplicate
  split
  · rename_i found bytes
    rw [refuseIf_bind_eq_ok, not_or, not_not, Bool.not_eq_false, Except.ok.injEq]
    constructor
    · rintro ⟨⟨rfl, same⟩, rfl⟩
      exact ⟨rfl, rfl, same⟩
    · rintro ⟨single, written, same⟩
      obtain rfl := List.singleton_inj.mp single
      exact ⟨⟨Option.some.inj written, same⟩, rfl⟩
  · rename_i unmatched
    constructor
    · intro h
      cases h
    · rintro ⟨rfl, rfl, -⟩
      exact absurd rfl (unmatched entry recordBytes rfl)

/-- A commit stops in a state from which recovery goes on, and ends with its entry recorded. -/
theorem Consistent.commit_keeps (hexadecimal : Hexadecimal hashing)
    (lasting : Lasting (reader.store hashing) kept)
    (h : Consistent (reader.store hashing) kept disk)
    (admits : ∀ counts base, (reader.store hashing).recoverUnlocked.run disk =
      (.ok counts, base) → Admits reader hashing draft base) :
    ((reader.store hashing).commit draft).wp
      (fun entry disk => Rested (reader.store hashing) kept disk ∧
        Recorded (reader.store hashing) entry disk ∧ Carries draft entry)
      (Consistent (reader.store hashing) kept) disk := by
  unfold LocalRecordStore.commit
  refine Script.wp_lift_bind.mpr ⟨h, ?_⟩
  rintro ⟨identityField, identity, destination, recordBytes⟩ checked
  refine Script.wp_bind.mpr ((h.recoverUnlocked_keeps (reader.readsBack hashing)
    lasting).and_run.mono ?_ fun _ h => h)
  rintro counts base ⟨rested, recovered⟩
  refine Script.wp_get_bind.mpr (Script.wp_lift_bind.mpr ⟨.rested rested, ?_⟩)
  rintro ⟨raw, head⟩ verified
  refine Script.wp_lift_bind.mpr ⟨.rested rested, fun existing hexisting => ?_⟩
  split_ifs with known
  · refine Script.wp_lift.mpr ⟨.rested rested, fun entry resolved => ⟨rested, ?_⟩⟩
    obtain ⟨rfl, -, same⟩ := resolveDuplicate_eq_ok.mp resolved
    exact ⟨recorded_of_existing rested.sound verified hexisting List.mem_cons_self,
      kind_of_existing hexisting List.mem_cons_self, same⟩
  · rw [not_or, Option.not_isSome_iff_eq_none] at known
    refine Script.wp_lift_bind.mpr ⟨.rested rested, fun prepared hprepared => ?_⟩
    obtain ⟨rawEntry, joins⟩ := (admits counts base recovered).joins hexadecimal rested.sound
      rested.settled checked verified hprepared known.1
    refine (publish_keeps rested.settled).mono ?_ fun _ progress =>
      .pending joins rested.holds progress
    rintro _ disk ⟨rfl, completed⟩
    exact ⟨joins.rested lasting rested.holds completed.toSettled,
      joins.recorded completed.ledger, joins.carries⟩

end Commits

/-! ## Histories -/

/-- A recovery or a commit that the store can read back stops somewhere. -/
inductive HistoryStep (reader : FileReader) (hashing : Hashing) (disk next : Disk) : Prop where
  | recovery (stops : next ∈ (reader.store hashing).recover.stops disk)
  | commit (draft : Draft)
      (admits : ∀ counts base, (reader.store hashing).recoverUnlocked.run disk =
        (.ok counts, base) → Admits reader hashing draft base)
      (stops : next ∈ ((reader.store hashing).commit draft).stops disk)

def History (reader : FileReader) (hashing : Hashing) : Disk → Disk → Prop :=
  Relation.ReflTransGen (HistoryStep reader hashing)

section Runs

variable {reader : FileReader} {hashing : Hashing} {kept : Disk → Prop} {start disk next : Disk}

theorem Consistent.step (hexadecimal : Hexadecimal hashing)
    (lasting : Lasting (reader.store hashing) kept)
    (h : Consistent (reader.store hashing) kept disk) (step : HistoryStep reader hashing disk next) :
    Consistent (reader.store hashing) kept next := by
  cases step with
  | recovery stops => exact h.recover_stops (reader.readsBack hashing) lasting _ stops
  | commit draft admits stops => exact (h.commit_keeps hexadecimal lasting admits).1 _ stops

theorem Consistent.history (hexadecimal : Hexadecimal hashing)
    (lasting : Lasting (reader.store hashing) kept)
    (h : Consistent (reader.store hashing) kept start)
    (history : History reader hashing start disk) :
    Consistent (reader.store hashing) kept disk := by
  induction history with
  | refl => exact h
  | tail _ step ih => exact ih.step hexadecimal lasting step

/-- The ledger goes on from that of the first, and the record files of the first are kept. -/
def Extends (store : LocalRecordStore) (base disk : Disk) : Prop :=
  (∃ raw head raw' head', store.verifiedLedger base = .ok (raw, head) ∧
      store.verifiedLedger disk = .ok (raw', head') ∧ raw <+: raw') ∧
    ∀ path bytes, base.records path = some bytes → disk.records path = some bytes

theorem extends_lasting (store : LocalRecordStore) (start : Disk) :
    Lasting store (Extends store start) := by
  constructor
  · rintro base disk ⟨⟨raw, head, raw', head', first, second, more⟩, files⟩ unchanged
    refine ⟨⟨raw, head, raw', head', first, ?_, more⟩, fun path bytes present => ?_⟩
    · rw [verifiedLedger_eq_ok, unchanged.1]
      exact verifiedLedger_eq_ok.mp second
    · rw [unchanged.2]
      exact files path bytes present
  · rintro draft base disk prepared raw₁ head₁ rawEntry joins
      ⟨⟨raw, head, raw', head', first, second, more⟩, files⟩ ledger records
    obtain ⟨rfl, rfl⟩ := Prod.mk.inj (Except.ok.inj (second.symm.trans joins.verified))
    refine ⟨⟨raw, head, _, _, first, joins.verified_added ledger,
      more.trans (List.prefix_append _ _)⟩, fun path bytes present => ?_⟩
    have other : path ≠ prepared.plan.destination := by
      rintro rfl
      have occupied := files _ _ present
      rw [joins.prepares.free] at occupied
      cases occupied
    rw [records, Publication.records, Function.update_of_ne other]
    exact files path bytes present

theorem recorded_lasting (store : LocalRecordStore) (entry : LedgerEntry) :
    Lasting store (Recorded store entry) := by
  constructor
  · rintro base disk ⟨raw, head, entries, verified, normalized, member⟩ unchanged
    refine ⟨raw, head, entries, ?_, normalized, member⟩
    rw [verifiedLedger_eq_ok, unchanged.1]
    exact verifiedLedger_eq_ok.mp verified
  · rintro draft base disk prepared raw₁ head₁ rawEntry joins
      ⟨raw, head, entries, verified, normalized, member⟩ ledger records
    obtain ⟨rfl, rfl⟩ := Prod.mk.inj (Except.ok.inj (verified.symm.trans joins.verified))
    refine ⟨_, _, entries ++ [prepared.entry], joins.verified_added ledger, ?_,
      List.mem_append_left _ member⟩
    rw [List.mapM_append, normalized, List.mapM_cons, joins.appends.normalized]
    rfl

theorem sample_hexdigest (bytes : List UInt8) : sampleHashing.hexdigest bytes =
    String.ofList (List.replicate 64 (if bytes.isEmpty then '0' else '1')) := rfl

theorem sample_hexadecimal : Hexadecimal sampleHashing := by
  intro bytes
  rw [sample_hexdigest]
  split <;> decide +kernel

theorem sample_admits : Admits sampleReader sampleHashing sampleDraft .initial where
  ordered := by decide +kernel
  valid := by
    rw [ForgeRecord.Valid]
    decide +kernel
  legible := by
    have room : ∀ containers < 1000, Room (sampleReader.dialect true) containers :=
      fun containers few => FileReader.room_dialect few
    exact ⟨room 1 (by decide), trivial, ⟨room 2 (by decide), trivial⟩,
      ⟨room 2 (by decide), trivial⟩, trivial, trivial, trivial, trivial, trivial, trivial, trivial,
      trivial, trivial, trivial, trivial, trivial⟩
  numbered raw head verified := by
    obtain rfl := (Prod.mk.inj (Except.ok.inj verified)).1
    exact Nat.one_lt_pow (by decide) (by decide)
  distinct prepared h := by
    obtain ⟨_, _, _, _, _, _, -, -, prepares⟩ := h
    obtain ⟨rawEntry, -, line, -⟩ := prepare_eq_ok prepares
    have visible (bytes : List UInt8) : ([] ++ (bytes ++ [10])).isEmpty = false := by simp
    have empty : Disk.initial.ledgerBytes = [] := rfl
    rw [sample_hexdigest, sample_hexdigest, line, empty, visible]
    decide +kernel

theorem sample_admitted (counts : Nat × Nat) (base : Disk)
    (recovered : (sampleReader.store sampleHashing).recoverUnlocked.run .initial =
      (.ok counts, base)) : Admits sampleReader sampleHashing sampleDraft base := by
  rw [(recoverUnlocked_of_settled rfl).1] at recovered
  rw [← (Prod.mk.inj recovered).2]
  exact sample_admits

theorem sample_history : History sampleReader sampleHashing .initial
    (((sampleReader.store sampleHashing).commit sampleDraft).run .initial).2 :=
  .single (.commit sampleDraft sample_admitted (Script.end_mem_stops _ _))

theorem initial_sound (store : LocalRecordStore) : store.Sound .initial :=
  ⟨[], genesis, [], rfl, rfl, by simp⟩

theorem sample_commits : ∃ entry final,
    ((sampleReader.store sampleHashing).commit sampleDraft).run .initial = (.ok entry, final) := by
  obtain ⟨prepared, prepares⟩ := sample_prepares
  obtain ⟨rawEntry, joins⟩ := sample_admits.joins sample_hexadecimal (initial_sound _) rfl
    sample_checked rfl prepares rfl
  obtain ⟨entry, final, ended, -⟩ := joins.publish_ends
  refine ⟨entry, final, ?_⟩
  have verified : (sampleReader.store sampleHashing).verifiedLedger .initial =
      .ok ([], genesis) := rfl
  have existing : (sampleReader.store sampleHashing).existingEntries sampleDraft.ledgerKind
      "candidate_id" "c/1" [] = .ok [] := rfl
  rw [commit_run sample_checked (recoverUnlocked_of_settled rfl).1 verified existing,
    if_neg (by simp [Disk.initial]),
    Script.run_bind_of_ok (by rw [Script.run_lift, prepares]), ended]

end Runs

end MncsForge.Store
