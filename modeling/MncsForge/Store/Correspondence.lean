import Mathlib
import MncsForge.Store.History

/-!
# Files and entries

In a store that has begun empty every entry of the ledger has a record file of its own,
and there are no other record files.  What a commit does is then settled by the entry at
its destination, and a commit that is repeated finds the entry it has returned before.
-/

namespace MncsForge.Store

open MncsForge.Foundation MncsForge.Records MncsForge.Ledger
open LocalRecordStore (Draft Publication)

/-- The entry says what its line says. -/
structure Written (rawEntry : RawEntry) (entry : LedgerEntry) : Prop where
  kind : rawEntry.get "kind" = .str entry.kind
  payload : rawEntry.get "payload" = .obj entry.payload.toJson
  ordered : Dict.Ordered entry.payload.fields
  current : entry.sourceSchemaVersion = currentSchemaVersion

/-- The ledger file is the canonical lines of the entries, and the record files are those of
the entries, one for each. -/
structure Exactly (raw : List RawEntry) (entries : List LedgerEntry) (disk : Disk) : Prop where
  text : disk.ledgerBytes = canonicalLines raw
  written : List.Forall₂ Written raw entries
  distinct : (entries.map entryPath).Nodup
  files : ∀ path, (disk.records path).isSome ↔ some path ∈ entries.map entryPath

/-- The ledger is read as these lines and entries. -/
structure Reads (store : LocalRecordStore) (raw : List RawEntry) (entries : List LedgerEntry)
    (disk : Disk) : Prop where
  verified : ∃ head, store.verifiedLedger disk = .ok (raw, head)
  normalized : raw.mapM (normalizeLedgerEntry store.hashing) = .ok entries

def Exact (store : LocalRecordStore) (disk : Disk) : Prop :=
  ∃ raw entries, Reads store raw entries disk ∧ Exactly raw entries disk

section Additions

variable {store : LocalRecordStore} {draft : Draft} {base disk : Disk} {prepared : Publication}
  {raw : List RawEntry} {head : String} {rawEntry : RawEntry} {entries : List LedgerEntry}

theorem Reads.unique {raw' : List RawEntry} {entries' : List LedgerEntry}
    (h : Reads store raw entries disk) (other : Reads store raw' entries' disk) :
    raw = raw' ∧ entries = entries' := by
  obtain ⟨⟨head, verified⟩, normalized⟩ := h
  obtain ⟨⟨head', verified'⟩, normalized'⟩ := other
  obtain ⟨rfl, rfl⟩ := Prod.mk.inj (Except.ok.inj (verified.symm.trans verified'))
  exact ⟨rfl, Except.ok.inj (normalized.symm.trans normalized')⟩

theorem Reads.of_unchanged (h : Reads store raw entries base) (unchanged : Unchanged base disk) :
    Reads store raw entries disk := by
  obtain ⟨⟨head, verified⟩, normalized⟩ := h
  refine ⟨⟨head, ?_⟩, normalized⟩
  rw [verifiedLedger_eq_ok, unchanged.1]
  exact verifiedLedger_eq_ok.mp verified

theorem Joins.reads (joins : Joins store draft base prepared raw head rawEntry)
    (h : Reads store raw entries base) (ledger : disk.ledger = prepared.ledger base) :
    Reads store (raw ++ [rawEntry]) (entries ++ [prepared.entry]) disk := by
  refine ⟨⟨_, joins.verified_added ledger⟩, ?_⟩
  rw [List.mapM_append, h.normalized, List.mapM_cons, joins.appends.normalized]
  rfl

theorem Joins.entryPath_eq (joins : Joins store draft base prepared raw head rawEntry) :
    entryPath prepared.entry = some prepared.plan.destination := by
  obtain ⟨context, found, -, identity⟩ := joins.context
  obtain ⟨known, group⟩ := persistedRecordContext_eq_ok.mp found
  have path := joins.prepares.path
  rw [joins.group, ← group] at path
  have carried : (prepared.entry.payload.get context.identityField).asStr? =
      some prepared.plan.recordIdentity := by
    rw [joins.payload_get, identity]
    rfl
  rw [entryPath, joins.appends.kind, known, Option.bind_some, carried, Option.bind_some, path]
  rfl

theorem Joins.written (joins : Joins store draft base prepared raw head rawEntry) :
    Written rawEntry prepared.entry where
  kind := by rw [joins.appends.kindField, joins.appends.kind]
  payload := by rw [joins.appends.payloadField, joins.payload_toJson]
  ordered := by
    rw [joins.payload]
    exact joins.ordered
  current := joins.appends.source

/-- A new entry takes a path that no entry has. -/
theorem Exactly.added (h : Exactly raw entries base)
    (joins : Joins store draft base prepared raw head rawEntry)
    (ledger : disk.ledger = prepared.ledger base)
    (records : disk.records = prepared.records base) :
    Exactly (raw ++ [rawEntry]) (entries ++ [prepared.entry]) disk := by
  have path := joins.entryPath_eq
  have fresh : some prepared.plan.destination ∉ entries.map entryPath := by
    rw [← h.files, joins.prepares.free]
    simp
  refine ⟨?_, List.rel_append h.written (.cons joins.written .nil), ?_, fun other => ?_⟩
  · rw [Joins.ledgerBytes_added ledger, h.text, joins.line]
    simp [canonicalLines]
  · rw [List.map_append, List.map_singleton, path]
    refine List.nodup_append.mpr ⟨h.distinct, List.nodup_singleton _, ?_⟩
    intro first member second last
    obtain rfl := List.mem_singleton.mp last
    rintro rfl
    exact fresh member
  · rw [List.map_append, List.map_singleton, path, List.mem_append, List.mem_singleton,
      Option.some.injEq, records, Publication.records]
    by_cases same : other = prepared.plan.destination
    · subst same
      simp
    · rw [Function.update_of_ne same, h.files]
      simp [same]

theorem exact_lasting (store : LocalRecordStore) : Lasting store (Exact store) := by
  constructor
  · rintro base disk ⟨raw, entries, reads, exactly⟩ unchanged
    refine ⟨raw, entries, reads.of_unchanged unchanged, ?_, exactly.written, exactly.distinct, ?_⟩
    · rw [Disk.ledgerBytes, unchanged.1]
      exact exactly.text
    · rw [unchanged.2]
      exact exactly.files
  · rintro draft base disk prepared raw head rawEntry joins ⟨raw', entries, reads, exactly⟩
      ledger records
    obtain ⟨known, verified⟩ := reads.verified
    obtain ⟨rfl, rfl⟩ := Prod.mk.inj (Except.ok.inj (verified.symm.trans joins.verified))
    exact ⟨_, _, joins.reads reads ledger, exactly.added joins ledger records⟩

theorem initial_rested (store : LocalRecordStore) : Rested store (Exact store) .initial := by
  have reads : Reads store [] [] .initial := ⟨⟨genesis, rfl⟩, rfl⟩
  refine ⟨rfl, ⟨[], genesis, [], rfl, rfl, by simp⟩, [], [], reads, rfl, .nil, List.nodup_nil, ?_⟩
  simp [Disk.initial]

end Additions

/-! ## The entry at a destination -/

section Destination

variable {store : LocalRecordStore} {draft : Draft} {base : Disk} {raw : List RawEntry}
  {entries : List LedgerEntry} {entry other : LedgerEntry} {context : PersistedRecordContext}
  {identity : String} {destination : RecordPath}

theorem identityField_metadata {kind : String} (known : recordContext? kind = some context) :
    context.identityField ≠ "record_type" ∧ context.identityField ≠ "schema_version" := by
  have each : ∀ context ∈ persistedRecordContexts,
      context.identityField ≠ "record_type" ∧ context.identityField ≠ "schema_version" := by
    decide
  exact each context (List.mem_of_find?_eq_some known)

theorem field_toJson {record : ForgeRecord} (ordered : Dict.Ordered record.fields) {name : String}
    (metadata : name ≠ "record_type" ∧ name ≠ "schema_version") :
    field record.toJson name = record.get name := by
  rw [field, get?_toJson ordered, if_neg metadata.1, if_neg metadata.2, Option.or_none,
    ForgeRecord.get, if_neg metadata.1, if_neg metadata.2]

/-- The entries under an identity are those whose records carry it. -/
theorem existingEntries_eq {kind identityField : String}
    (metadata : identityField ≠ "record_type" ∧ identityField ≠ "schema_version")
    (written : List.Forall₂ Written raw entries)
    (normalized : raw.mapM (normalizeLedgerEntry store.hashing) = .ok entries) :
    store.existingEntries kind identityField identity raw = .ok (entries.filter fun entry =>
      entry.kind = kind ∧ entry.payload.get identityField = .str identity) := by
  have each := mapM_eq_ok_iff.mp normalized
  rw [LocalRecordStore.existingEntries, mapM_eq_ok_iff]
  clear normalized
  induction written with
  | nil => exact .nil
  | cons first _ ih =>
      obtain ⟨normal, rest⟩ := List.forall₂_cons.mp each
      have same := field_toJson first.ordered metadata
      rw [List.filter_cons, List.filter_cons]
      simp only [first.kind, first.payload, Json.str.injEq, Json.asObj?, Option.mem_some_iff,
        exists_eq_left', same, decide_eq_true_eq]
      split_ifs
      · exact .cons normal (ih rest)
      · exact ih rest

theorem entryPath_of_kind (known : recordContext? entry.kind = some context)
    (carried : entry.payload.get context.identityField = .str identity) :
    entryPath entry = (immutableRecordPath context.group identity).toOption := by
  rw [entryPath, known, Option.bind_some, carried]
  rfl

/-- A record group has a kind of its own. -/
theorem kind_of_group {other : PersistedRecordContext} {kind otherKind : String}
    (known : recordContext? kind = some context)
    (otherKnown : recordContext? otherKind = some other) (group : other.group = context.group) :
    otherKind = kind := by
  have each : ∀ context ∈ persistedRecordContexts, ∀ other ∈ persistedRecordContexts,
      other.group = context.group → other.ledgerKind = context.ledgerKind := by
    decide
  have same := each context (List.mem_of_find?_eq_some known) other
    (List.mem_of_find?_eq_some otherKnown) group
  have first : context.ledgerKind = kind := by
    simpa using List.find?_some known
  have second : other.ledgerKind = otherKind := by
    simpa using List.find?_some otherKnown
  rw [← first, ← second, same]

theorem group_of_path {group : String} (h : immutableRecordPath group identity = .ok destination) :
    destination.group = group := by
  obtain ⟨_, _, same⟩ := bind_eq_ok.mp h
  obtain rfl := Except.ok.inj same
  rfl

/-- An entry with the path of a kind is of that kind. -/
theorem kind_of_entryPath {kind : String} (h : entryPath entry = some destination)
    (known : recordContext? kind = some context)
    (located : immutableRecordPath context.group identity = .ok destination) :
    entry.kind = kind := by
  obtain ⟨found, hfound, h⟩ := Option.bind_eq_some_iff.mp h
  obtain ⟨named, -, path⟩ := Option.bind_eq_some_iff.mp h
  have located' : immutableRecordPath found.group named = .ok destination := by
    cases hpath : immutableRecordPath found.group named with
    | error e =>
        rw [hpath] at path
        cases path
    | ok _ =>
        rw [hpath] at path
        rw [Option.some.inj path]
  exact kind_of_group known hfound ((group_of_path located').symm.trans (group_of_path located))

theorem eq_of_entryPath (distinct : (entries.map entryPath).Nodup) (first : entry ∈ entries)
    (second : other ∈ entries) (same : entryPath entry = entryPath other) : entry = other :=
  List.inj_on_of_nodup_map distinct first second same

/-- At most one entry has the destination. -/
theorem filter_eq_singleton {p : LedgerEntry → Bool} (distinct : (entries.map entryPath).Nodup)
    (located : ∀ entry ∈ entries.filter p, entryPath entry = some destination)
    (member : entry ∈ entries.filter p) : entries.filter p = [entry] := by
  have nodup : (entries.filter p).Nodup := (List.Nodup.of_map _ distinct).filter _
  have same : ∀ other ∈ entries.filter p, other = entry := fun other found =>
    eq_of_entryPath distinct (List.mem_of_mem_filter found) (List.mem_of_mem_filter member)
      ((located other found).trans (located entry member).symm)
  refine List.perm_singleton.mp
    ((List.perm_ext_iff_of_nodup nodup (List.nodup_singleton entry)).mpr fun other => ?_)
  rw [List.mem_singleton]
  exact ⟨same other, fun h => h ▸ member⟩

end Destination

/-! ## What a commit does -/

/-- The ways a commit onto the base can end. -/
inductive CommitOutcome (store : LocalRecordStore) (draft : Draft)
    (identityField identity : String) (destination : RecordPath) (recordBytes : List UInt8)
    (raw : List RawEntry) (entries : List LedgerEntry) (base : Disk) :
    Except ForgeError LedgerEntry → Disk → Prop where
  | refused {error : ForgeError} (free : some destination ∉ entries.map entryPath)
      (unprepared : store.prepare draft identity destination recordBytes base raw =
        .error error) :
      CommitOutcome store draft identityField identity destination recordBytes raw entries base
        (.error error) base
  | added {prepared : Publication} {final : Disk} (free : some destination ∉ entries.map entryPath)
      (prepares : store.prepare draft identity destination recordBytes base raw = .ok prepared)
      (completed : Completed base prepared final) :
      CommitOutcome store draft identityField identity destination recordBytes raw entries base
        (.ok prepared.entry) final
  | repeated {entry : LedgerEntry} (member : entry ∈ entries)
      (located : entryPath entry = some destination)
      (carried : entry.payload.get identityField = .str identity)
      (same : entry.payload.toJson = draft.record.toJson) :
      CommitOutcome store draft identityField identity destination recordBytes raw entries base
        (.ok entry) base
  | different {entry : LedgerEntry} (member : entry ∈ entries)
      (located : entryPath entry = some destination)
      (carried : entry.payload.get identityField = .str identity)
      (different : entry.payload.toJson ≠ draft.record.toJson) :
      CommitOutcome store draft identityField identity destination recordBytes raw entries base
        (.error ⟨"RECORD_EXISTS",
          "immutable record identity already exists with different content"⟩) base
  -- another identity whose file name is the same once its characters are replaced
  | colliding {entry : LedgerEntry} (member : entry ∈ entries)
      (located : entryPath entry = some destination)
      (other : entry.payload.get identityField ≠ .str identity) :
      CommitOutcome store draft identityField identity destination recordBytes raw entries base
        (.error ⟨"RECORD_STORAGE_CONFLICT",
          "record identity has an incomplete or duplicate durable representation"⟩) base

section Outcomes

variable {store : LocalRecordStore} {draft : Draft} {disk base : Disk} {raw : List RawEntry}
  {entries : List LedgerEntry} {entry : LedgerEntry} {identityField identity : String}
  {destination : RecordPath} {recordBytes : List UInt8}

theorem wellFormed_payload {rawEntry : RawEntry} (h : Written rawEntry entry) :
    (Json.obj entry.payload.toJson).WellFormed := by
  have member : Dict.get? rawEntry.fields "payload" = some (.obj entry.payload.toJson) := by
    have written := h.payload
    rw [RawEntry.get] at written
    cases found : Dict.get? rawEntry.fields "payload" with
    | none =>
        rw [found] at written
        cases written
    | some value =>
        rw [found] at written
        rw [show value = _ from written]
  exact (Json.wellFormed_obj_iff_get?.mp rawEntry.wellFormed).2 _ _ member

/-- The file of an entry is its canonical line. -/
theorem file_of_backed (backed : store.Backed base entry)
    (current : entry.sourceSchemaVersion = currentSchemaVersion)
    (located : entryPath entry = some destination) :
    base.records destination = some ((Json.obj entry.payload.toJson).canonicalBytes ++ [10]) := by
  obtain ⟨context, named, path, bytes, record, known, carried, hpath, present, -, -, written⟩ :=
    backed
  rw [entryPath_of_kind known carried, hpath] at located
  obtain rfl := Option.some.inj located
  rw [present, written current]

/-- What the entries of a store with a checked draft have in common. -/
theorem located_of_filtered (entries : List LedgerEntry) {context : PersistedRecordContext}
    (known : recordContext? draft.ledgerKind = some context)
    (located : immutableRecordPath context.group identity = .ok destination) :
    ∀ entry ∈ entries.filter fun entry => entry.kind = draft.ledgerKind ∧
      entry.payload.get context.identityField = .str identity,
      entryPath entry = some destination := by
  intro entry member
  have selected := (List.mem_filter.mp member).2
  rw [decide_eq_true_eq] at selected
  rw [entryPath_of_kind (selected.1 ▸ known) selected.2, located]
  rfl

/-- A run of a commit whose destination is taken is settled by the entry there. -/
theorem outcome_of_occupied {counts : Nat × Nat} (sound : store.Sound base)
    (checked : LocalRecordStore.checkDraft draft =
      .ok (identityField, identity, destination, recordBytes))
    (recovered : store.recoverUnlocked.run disk = (.ok counts, base))
    (reads : Reads store raw entries base) (exactly : Exactly raw entries base)
    (member : entry ∈ entries) (path : entryPath entry = some destination) :
    CommitOutcome store draft identityField identity destination recordBytes raw entries base
      ((store.commit draft).run disk).1 ((store.commit draft).run disk).2 := by
  have draftChecked := checked_of_checkDraft checked
  obtain ⟨context, found, type, rfl⟩ := draftChecked.context
  obtain ⟨known, group⟩ := persistedRecordContext_eq_ok.mp found
  obtain ⟨head, verified⟩ := reads.verified
  have located : immutableRecordPath context.group identity = .ok destination := by
    rw [group, draftChecked.located]
  have filtered := located_of_filtered entries known located
  obtain ⟨rawEntry, -, hwritten⟩ := exists_related exactly.written.flip member
  have backed : store.Backed base entry := by
    obtain ⟨raw', head', entries', verified', normalized', backed⟩ := sound
    obtain ⟨-, rfl⟩ := reads.unique ⟨⟨head', verified'⟩, normalized'⟩
    exact backed entry member
  have file := file_of_backed backed hwritten.current path
  have kind := kind_of_entryPath path known located
  rw [commit_run checked recovered verified (existingEntries_eq (identityField_metadata known)
    exactly.written reads.normalized), if_pos (Or.inl (by rw [file]; rfl)), Script.run_lift, file]
  by_cases carried : entry.payload.get context.identityField = .str identity
  · have selected : entry ∈ entries.filter fun entry => entry.kind = draft.ledgerKind ∧
        entry.payload.get context.identityField = .str identity :=
      List.mem_filter.mpr ⟨member, decide_eq_true ⟨kind, carried⟩⟩
    rw [filter_eq_singleton exactly.distinct filtered selected]
    by_cases same : entry.payload.toJson = draft.record.toJson
    · have resolved : LocalRecordStore.resolveDuplicate
          (some ((Json.obj entry.payload.toJson).canonicalBytes ++ [10])) draft.record
          recordBytes [entry] = .ok entry := by
        refine resolveDuplicate_eq_ok.mpr ⟨rfl, ?_, ?_⟩
        · rw [draftChecked.written, same]
        · rw [same]
          exact Json.sameValue_self _
      rw [resolved]
      exact .repeated member path carried same
    · have bytes : (Json.obj entry.payload.toJson).canonicalBytes ++ [10] ≠ recordBytes := by
        rw [draftChecked.written]
        intro equal
        exact same (Json.obj.inj (Json.canonicalBytes_injective (wellFormed_payload hwritten)
          draftChecked.wellFormed (List.append_cancel_right equal)))
      have resolved : LocalRecordStore.resolveDuplicate
          (some ((Json.obj entry.payload.toJson).canonicalBytes ++ [10])) draft.record
          recordBytes [entry] = .error ⟨"RECORD_EXISTS",
            "immutable record identity already exists with different content"⟩ := by
        simp only [LocalRecordStore.resolveDuplicate, refuseIf, if_pos (Or.inl bytes)]
        rfl
      rw [resolved]
      exact .different member path carried same
  · have none : (entries.filter fun entry => entry.kind = draft.ledgerKind ∧
        entry.payload.get context.identityField = .str identity) = [] := by
      refine List.eq_nil_iff_forall_not_mem.mpr fun other found => carried ?_
      have selected := (List.mem_filter.mp found).2
      rw [decide_eq_true_eq] at selected
      have same := eq_of_entryPath exactly.distinct member (List.mem_of_mem_filter found)
        (path.trans (filtered other found).symm)
      rw [same]
      exact selected.2
    rw [none]
    exact .colliding member path carried

/-- A run of a commit whose destination is free adds its record. -/
theorem outcome_of_free {reader : FileReader} {hashing : Hashing} {counts : Nat × Nat}
    (hexadecimal : Hexadecimal hashing) (sound : (reader.store hashing).Sound base)
    (settled : base.transactions = []) (admits : Admits reader hashing draft base)
    (checked : LocalRecordStore.checkDraft draft =
      .ok (identityField, identity, destination, recordBytes))
    (recovered : (reader.store hashing).recoverUnlocked.run disk = (.ok counts, base))
    (reads : Reads (reader.store hashing) raw entries base) (exactly : Exactly raw entries base)
    (free : some destination ∉ entries.map entryPath) :
    CommitOutcome (reader.store hashing) draft identityField identity destination recordBytes raw
      entries base (((reader.store hashing).commit draft).run disk).1
      (((reader.store hashing).commit draft).run disk).2 := by
  have draftChecked := checked_of_checkDraft checked
  obtain ⟨context, found, type, rfl⟩ := draftChecked.context
  obtain ⟨known, group⟩ := persistedRecordContext_eq_ok.mp found
  obtain ⟨head, verified⟩ := reads.verified
  have located : immutableRecordPath context.group identity = .ok destination := by
    rw [group, draftChecked.located]
  have vacant : base.records destination = none := by
    rw [← Option.not_isSome_iff_eq_none, exactly.files]
    exact free
  have none : (entries.filter fun entry => entry.kind = draft.ledgerKind ∧
      entry.payload.get context.identityField = .str identity) = [] :=
    List.eq_nil_iff_forall_not_mem.mpr fun entry member => free (List.mem_map.mpr
      ⟨entry, List.mem_of_mem_filter member, located_of_filtered entries known located entry member⟩)
  rw [commit_run checked recovered verified (existingEntries_eq (identityField_metadata known)
    exactly.written reads.normalized), if_neg (by rw [vacant, none]; simp)]
  cases prepares : (reader.store hashing).prepare draft identity destination recordBytes base
      raw with
  | error error =>
      rw [Script.run_bind_of_error (Script.run_lift _ _)]
      exact .refused free prepares
  | ok prepared =>
      obtain ⟨rawEntry, joins⟩ := admits.joins hexadecimal sound settled checked verified
        prepares vacant
      obtain ⟨_, final, ended, rfl, completed⟩ := joins.publish_ends
      rw [Script.run_bind_of_ok (Script.run_lift _ _), ended]
      exact .added free prepares completed

end Outcomes

/-! ## Histories that begin empty -/

section Histories

variable {reader : FileReader} {hashing : Hashing} {draft again : Draft}
  {disk next later : Disk} {entry : LedgerEntry} {identityField identity : String}
  {destination : RecordPath} {recordBytes : List UInt8}

theorem Lasting.and {store : LocalRecordStore} {kept also : Disk → Prop}
    (first : Lasting store kept) (second : Lasting store also) :
    Lasting store fun disk => kept disk ∧ also disk where
  unchanged h same := ⟨first.unchanged h.1 same, second.unchanged h.2 same⟩
  added joins h ledger records :=
    ⟨first.added joins h.1 ledger records, second.added joins h.2 ledger records⟩

theorem exact_of_history (hexadecimal : Hexadecimal hashing)
    (history : History reader hashing .initial disk) :
    Consistent (reader.store hashing) (Exact (reader.store hashing)) disk :=
  Consistent.history hexadecimal (exact_lasting _) (.rested (initial_rested _)) history

/-- After every recovery the ledger file is the canonical lines of its entries, and the record
files are the canonical lines of their records, one file for each entry and no others. -/
theorem history_exact (hexadecimal : Hexadecimal hashing)
    (history : History reader hashing .initial disk) :
    ∃ counts final, (reader.store hashing).recover.run disk = (.ok counts, final) ∧
      final.transactions = [] ∧ ∃ raw entries, Reads (reader.store hashing) raw entries final ∧
        final.ledgerBytes = canonicalLines raw ∧ (entries.map entryPath).Nodup ∧
        (∀ path, (final.records path).isSome ↔ some path ∈ entries.map entryPath) ∧
        ∀ entry ∈ entries, ∀ path, entryPath entry = some path →
          final.records path = some ((Json.obj entry.payload.toJson).canonicalBytes ++ [10]) := by
  obtain ⟨counts, final, ended, rested⟩ :=
    (exact_of_history hexadecimal history).recover_ends (exact_lasting _)
  obtain ⟨raw, entries, reads, exactly⟩ := rested.holds
  refine ⟨counts, final, ended, rested.settled, raw, entries, reads, exactly.text,
    exactly.distinct, exactly.files, fun entry member path located => ?_⟩
  obtain ⟨raw', head, entries', verified, normalized, backed⟩ := rested.sound
  obtain ⟨-, rfl⟩ := reads.unique ⟨⟨head, verified⟩, normalized⟩
  obtain ⟨rawEntry, -, hwritten⟩ := exists_related exactly.written.flip member
  exact file_of_backed (backed entry member) hwritten.current located

theorem history_exact_sample :
    ∃ counts final, (sampleReader.store sampleHashing).recover.run
        (((sampleReader.store sampleHashing).commit sampleDraft).run .initial).2 =
          (.ok counts, final) ∧
      final.transactions = [] ∧ ∃ raw entries,
        Reads (sampleReader.store sampleHashing) raw entries final ∧
        final.ledgerBytes = canonicalLines raw ∧ (entries.map entryPath).Nodup ∧
        (∀ path, (final.records path).isSome ↔ some path ∈ entries.map entryPath) ∧
        ∀ entry ∈ entries, ∀ path, entryPath entry = some path →
          final.records path = some ((Json.obj entry.payload.toJson).canonicalBytes ++ [10]) :=
  history_exact sample_hexadecimal sample_history

/-- A run of a commit onto a store at rest is settled by the entry at its destination. -/
theorem outcome_of_rested {base : Disk} {counts : Nat × Nat} (hexadecimal : Hexadecimal hashing)
    (rested : Rested (reader.store hashing) (Exact (reader.store hashing)) base)
    (admits : Admits reader hashing draft base)
    (checked : LocalRecordStore.checkDraft draft =
      .ok (identityField, identity, destination, recordBytes))
    (recovered : (reader.store hashing).recoverUnlocked.run disk = (.ok counts, base)) :
    ∃ raw entries, Reads (reader.store hashing) raw entries base ∧
      CommitOutcome (reader.store hashing) draft identityField identity destination recordBytes
        raw entries base (((reader.store hashing).commit draft).run disk).1
        (((reader.store hashing).commit draft).run disk).2 := by
  obtain ⟨raw, entries, reads, exactly⟩ := rested.holds
  refine ⟨raw, entries, reads, ?_⟩
  by_cases occupied : some destination ∈ entries.map entryPath
  · obtain ⟨entry, member, path⟩ := List.mem_map.mp occupied
    exact outcome_of_occupied rested.sound checked recovered reads exactly member path
  · exact outcome_of_free hexadecimal rested.sound rested.settled admits checked recovered reads
      exactly occupied

/-- Whatever has stopped before, a commit ends in one of five ways, told apart by the entry
at its destination. -/
theorem commit_outcome (hexadecimal : Hexadecimal hashing)
    (history : History reader hashing .initial disk)
    (admits : ∀ counts base, (reader.store hashing).recoverUnlocked.run disk =
      (.ok counts, base) → Admits reader hashing draft base)
    (checked : LocalRecordStore.checkDraft draft =
      .ok (identityField, identity, destination, recordBytes)) :
    ∃ counts base raw entries, (reader.store hashing).recoverUnlocked.run disk =
        (.ok counts, base) ∧ Reads (reader.store hashing) raw entries base ∧
      CommitOutcome (reader.store hashing) draft identityField identity destination recordBytes
        raw entries base (((reader.store hashing).commit draft).run disk).1
        (((reader.store hashing).commit draft).run disk).2 := by
  obtain ⟨counts, base, recovered, rested⟩ :=
    (exact_of_history hexadecimal history).recoverUnlocked_ends (exact_lasting _)
  obtain ⟨raw, entries, reads, outcome⟩ := outcome_of_rested hexadecimal rested
    (admits counts base recovered) checked recovered
  exact ⟨counts, base, raw, entries, recovered, reads, outcome⟩

theorem commit_outcome_sample :
    ∃ counts base raw entries, (sampleReader.store sampleHashing).recoverUnlocked.run .initial =
        (.ok counts, base) ∧ Reads (sampleReader.store sampleHashing) raw entries base ∧
      CommitOutcome (sampleReader.store sampleHashing) sampleDraft "candidate_id" "c/1"
        sampleDestination sampleBytes raw entries base
        (((sampleReader.store sampleHashing).commit sampleDraft).run .initial).1
        (((sampleReader.store sampleHashing).commit sampleDraft).run .initial).2 :=
  commit_outcome sample_hexadecimal .refl sample_admitted sample_checked

/-- A commit that has returned an entry has found it or put it at its destination. -/
theorem entry_of_commit {base : Disk} {counts : Nat × Nat} (hexadecimal : Hexadecimal hashing)
    (rested : Rested (reader.store hashing) (Exact (reader.store hashing)) base)
    (admits : Admits reader hashing draft base)
    (checked : LocalRecordStore.checkDraft draft =
      .ok (identityField, identity, destination, recordBytes))
    (recovered : (reader.store hashing).recoverUnlocked.run disk = (.ok counts, base))
    (committed : ((reader.store hashing).commit draft).run disk = (.ok entry, next)) :
    entryPath entry = some destination ∧ entry.payload.get identityField = .str identity ∧
      entry.payload.toJson = draft.record.toJson := by
  obtain ⟨raw, entries, reads, outcome⟩ := outcome_of_rested hexadecimal rested admits checked
    recovered
  rw [committed] at outcome
  cases outcome with
  | added free prepares completed =>
      rename_i prepared
      have draftChecked := checked_of_checkDraft checked
      obtain ⟨head, verified⟩ := reads.verified
      have vacant : base.records destination = none := by
        obtain ⟨raw', entries', reads', exactly⟩ := rested.holds
        obtain ⟨-, rfl⟩ := reads.unique reads'
        rw [← Option.not_isSome_iff_eq_none, exactly.files]
        exact free
      obtain ⟨rawEntry, joins⟩ := admits.joins hexadecimal rested.sound rested.settled checked
        verified prepares vacant
      obtain ⟨-, rfl, -⟩ := prepares_of_prepare draftChecked.located vacant prepares
      exact ⟨joins.entryPath_eq, (joins.payload_get _).trans draftChecked.carried,
        joins.payload_toJson⟩
  | repeated _ located carried same => exact ⟨located, carried, same⟩

/-- A commit that is repeated at any later time returns the entry it has returned before,
and adds nothing. -/
theorem commit_again (hexadecimal : Hexadecimal hashing)
    (history : History reader hashing .initial disk)
    (admits : ∀ counts base, (reader.store hashing).recoverUnlocked.run disk =
      (.ok counts, base) → Admits reader hashing draft base)
    (committed : ((reader.store hashing).commit draft).run disk = (.ok entry, next))
    (after : History reader hashing next later) (group : again.recordGroup = draft.recordGroup)
    (kind : again.ledgerKind = draft.ledgerKind) (record : again.record = draft.record) :
    ∃ counts base, (reader.store hashing).recoverUnlocked.run later = (.ok counts, base) ∧
      ((reader.store hashing).commit again).run later = (.ok entry, base) := by
  have consistent := exact_of_history hexadecimal history
  obtain ⟨rested, recorded, -⟩ :=
    (consistent.commit_keeps hexadecimal (exact_lasting _) admits).2 entry next committed
  obtain ⟨⟨identityField, identity, destination, recordBytes⟩, _, checked, -⟩ :=
    Script.run_bind_eq_ok.mp committed
  have checked := (Prod.mk.inj checked).1
  obtain ⟨located, carried, same⟩ : entryPath entry = some destination ∧
      entry.payload.get identityField = .str identity ∧
      entry.payload.toJson = draft.record.toJson := by
    obtain ⟨counts, base, recovered, restedBefore⟩ :=
      consistent.recoverUnlocked_ends (exact_lasting _)
    exact entry_of_commit hexadecimal restedBefore (admits counts base recovered) checked recovered
      committed
  have lasting := (exact_lasting (reader.store hashing)).and
    (recorded_lasting (reader.store hashing) entry)
  have onward := Consistent.history hexadecimal lasting
    (.rested ⟨rested.settled, rested.sound, rested.holds, recorded⟩) after
  obtain ⟨counts, base, recovered, restedLater⟩ := onward.recoverUnlocked_ends lasting
  obtain ⟨⟨raw, entries, reads, exactly⟩, raw', head', entries', verified, normalized, member⟩ :=
    restedLater.holds
  obtain ⟨-, rfl⟩ := reads.unique ⟨⟨head', verified⟩, normalized⟩
  have checkedAgain : LocalRecordStore.checkDraft again =
      .ok (identityField, identity, destination, recordBytes) := by
    rw [← checked, LocalRecordStore.checkDraft, LocalRecordStore.checkDraft, group, kind, record]
  refine ⟨counts, base, recovered, ?_⟩
  have outcome := outcome_of_occupied restedLater.sound checkedAgain recovered reads exactly member
    located
  have unique : ∀ other ∈ entries, entryPath other = some destination → other = entry :=
    fun other found path => eq_of_entryPath exactly.distinct found member (path.trans located.symm)
  generalize ran : ((reader.store hashing).commit again).run later = result at outcome
  obtain ⟨result, final⟩ := result
  cases outcome with
  | refused free _ => exact absurd (List.mem_map.mpr ⟨entry, member, located⟩) free
  | added free _ _ => exact absurd (List.mem_map.mpr ⟨entry, member, located⟩) free
  | repeated found path _ _ => rw [unique _ found path]
  | different found path _ different =>
      rw [unique _ found path, record] at different
      exact absurd same different
  | colliding found path other =>
      rw [unique _ found path] at other
      exact absurd carried other

theorem commit_again_sample :
    ∃ entry next counts base,
      ((sampleReader.store sampleHashing).commit sampleDraft).run .initial = (.ok entry, next) ∧
        (sampleReader.store sampleHashing).recoverUnlocked.run next = (.ok counts, base) ∧
        ((sampleReader.store sampleHashing).commit
          { sampleDraft with timestamp := "2025", transactionId := "t2" }).run next =
            (.ok entry, base) := by
  obtain ⟨entry, next, committed⟩ := sample_commits
  obtain ⟨counts, base, recovered, again⟩ : ∃ counts base,
      (sampleReader.store sampleHashing).recoverUnlocked.run next = (.ok counts, base) ∧
        ((sampleReader.store sampleHashing).commit
          { sampleDraft with timestamp := "2025", transactionId := "t2" }).run next =
            (.ok entry, base) :=
    commit_again sample_hexadecimal .refl sample_admitted committed .refl rfl rfl rfl
  exact ⟨entry, next, counts, base, committed, recovered, again⟩

end Histories

end MncsForge.Store
