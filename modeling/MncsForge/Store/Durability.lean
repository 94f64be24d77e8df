import Mathlib
import MncsForge.Store.Appending
import MncsForge.Store.Files

/-!
# Durable commits

Wherever a commit stops, the next recovery ends, with a sound store.  What a run of
commits and recoveries has once recorded stays recorded.
-/

namespace MncsForge.Store

open MncsForge.Foundation MncsForge.Records MncsForge.Ledger
open LocalRecordStore (Publication Prepares)

/-! ## Steps that end -/

section Steps

variable {store : LocalRecordStore} {disk : Disk} {inv : Disk → Prop} {raw : List RawEntry}
  {entries : List LedgerEntry}

theorem writeJournal_ends {name : String} {directory : TransactionDirectory}
    {ledger : Option (List UInt8)} {records : RecordPath → Option (List UInt8)}
    (held : Holding name directory ledger records disk) (journal : Dict String Json) :
    (LocalRecordStore.writeJournal name journal).ends
      (fun _ disk => ∃ temporaries, Holding name { directory with
        temporaries := temporaries, journal := some (journalBytes journal) } ledger records disk)
      disk := by
  unfold LocalRecordStore.writeJournal
  have first := held.inDirectory fun directory =>
    { directory with temporaries := journalBytes journal :: directory.temporaries }
  have second := first.inDirectory fun directory =>
    { directory with
      temporaries := directory.temporaries.erase (journalBytes journal)
      journal := some (journalBytes journal) }
  exact Script.ends_modify_bind (Script.ends_modify ⟨_, second⟩)

theorem ensureIndex_ends (ignores : IgnoresIndex inv) (h : inv disk)
    (normalized : raw.mapM (normalizeLedgerEntry store.hashing) = .ok entries) :
    (store.ensureIndex raw).ends (fun _ => inv) disk := by
  have data : ∃ expected, store.indexData disk raw = .ok expected := by
    simp only [LocalRecordStore.indexData, normalized, bind_eq_ok]
    exact ⟨_, _, rfl, rfl⟩
  obtain ⟨expected, data⟩ := data
  unfold LocalRecordStore.ensureIndex
  refine Script.ends_get_bind (Script.ends_lift_bind data ?_)
  split_ifs
  · exact Script.ends_pure h
  · unfold LocalRecordStore.writeIndex
    refine Script.ends_modify_bind (Script.ends_modify ?_)
    exact ignores _ _ _ (ignores _ _ disk.index h)

theorem rebuildIndex_ends {head : String} (ignores : IgnoresIndex inv) (h : inv disk)
    (verified : store.verifiedLedger disk = .ok (raw, head))
    (normalized : raw.mapM (normalizeLedgerEntry store.hashing) = .ok entries) :
    store.rebuildIndex.ends (fun _ => inv) disk := by
  unfold LocalRecordStore.rebuildIndex
  exact Script.ends_get_bind (Script.ends_lift_bind verified
    (ensureIndex_ends ignores h normalized))

/-- A sound store passes the checks of a recovery. -/
theorem verifyImmutableRecord_of_backed {entry : LedgerEntry} (h : store.Backed disk entry) :
    store.verifyImmutableRecord disk entry = .ok () := by
  obtain ⟨context, identity, path, bytes, record, known, hidentity, hpath, present, loaded, same,
    written⟩ := h
  have nonempty : identity ≠ "" := by
    rintro rfl
    simp [immutableRecordPath, safeRecordIdentity, refuseIf, bind, Except.bind] at hpath
  have stored (message : String) :
      storedIdentity entry.payload context.identityField message = .ok identity := by
    rw [storedIdentity, hidentity]
    simp only [refuseIf_bind_eq_ok, nonempty, not_false_eq_true, true_and]
  have first (code message : String) :
      refuseIf (Json.sameValue (.obj record.toJson) (.obj entry.payload.toJson) = false) code
        message = .ok () :=
    refuseIf_eq_ok.mpr (by simp [same])
  have second (code message : String) :
      refuseIf (entry.sourceSchemaVersion = currentSchemaVersion ∧
        bytes ≠ (Json.obj entry.payload.toJson).canonicalBytes ++ [10]) code message = .ok () :=
    refuseIf_eq_ok.mpr fun refused => refused.2 (written refused.1)
  simp only [LocalRecordStore.verifyImmutableRecord, known, stored, hpath, present,
    mapError_eq_ok.mpr loaded, first, second, bind, Except.bind]

theorem verifyImmutableRecords_of_backed (h : ∀ entry ∈ entries, store.Backed disk entry) :
    store.verifyImmutableRecords disk entries = .ok () := by
  have each : ∃ checked, entries.mapM (store.verifyImmutableRecord disk) = .ok checked :=
    exists_mapM_eq_ok.mpr fun entry member => ⟨(), verifyImmutableRecord_of_backed (h entry member)⟩
  obtain ⟨checked, each⟩ := each
  rw [LocalRecordStore.verifyImmutableRecords, each]
  rfl

/-- A recovery whose transactions have been gone over ends when the store is sound. -/
theorem recover_ends (ignores : IgnoresIndex inv) (sound : ∀ disk, inv disk → store.Sound disk)
    (h : store.recoverUnlocked.ends (fun _ => inv) disk) :
    store.recover.ends (fun _ => inv) disk := by
  unfold LocalRecordStore.recover
  refine Script.ends_bind.mpr (h.mono fun counts disk h => ?_)
  obtain ⟨raw, head, entries, verified, normalized, backed⟩ := sound disk h
  refine Script.ends_get_bind (Script.ends_lift_bind verified ?_)
  refine Script.ends_lift_bind normalized ?_
  refine Script.ends_lift_bind (verifyImmutableRecords_of_backed backed) ?_
  split_ifs
  · refine Script.ends_bind.mpr ((ensureIndex_ends ignores h normalized).mono ?_)
    exact fun _ _ h => Script.ends_pure h
  · exact Script.ends_pure h

end Steps

/-! ## Journals that are loaded -/

namespace Joins

variable {store : LocalRecordStore} {draft : LocalRecordStore.Draft} {base disk : Disk}
  {prepared : Publication} {raw : List RawEntry} {head : String} {rawEntry : RawEntry}
  {directory : TransactionDirectory} {state : String}
  (joins : Joins store draft base prepared raw head rawEntry)
include joins

theorem hexadecimal_head : isSha256 (.str head) = true := by
  obtain ⟨-, chain⟩ := verifiedLedger_eq_ok.mp joins.verified
  obtain ⟨-, rfl⟩ := (verifyFrom_eq_ok _).mp chain
  rcases List.eq_nil_or_concat raw with rfl | ⟨front, last, rfl⟩
  · show isSha256 (.str genesis) = true
    decide
  · rw [List.concat_eq_append, HashChain.head_append_singleton]
    exact joins.hexadecimal _

theorem loadJournal_eq (known : IsJournalState state) :
    store.loadJournal prepared.plan.transactionId (journalBytes (prepared.plan.journal state)) =
      .ok (prepared.plan.journal state) := by
  have keys : Dict.sortedSet (Dict.keys (prepared.plan.journal state)) = journalRequired := by
    show Dict.sortedSet journalRequired = journalRequired
    decide
  have texts : ∀ key ∈ journalRequired, key ≠ "schema_version" → key ≠ "expected_sequence" →
      (field (prepared.plan.journal state) key).asStr? ≠ none := by
    simp only [journalRequired, List.forall_mem_cons, List.not_mem_nil, false_imp_iff,
      implies_true, and_true]
    and_intros <;> intro plain unnumbered <;>
      first
        | exact Option.some_ne_none _
        | exact absurd rfl plain
        | exact absurd rfl unnumbered
  have hashes : ∀ key ∈ journalHashes,
      isSha256 (field (prepared.plan.journal state) key) = true := by
    have entryHash : isSha256 (.str prepared.plan.entryHash) = true := by
      rw [joins.entryHash, joins.appends.entryHash]
      exact joins.hexadecimal _
    have previous : isSha256 (.str prepared.plan.expectedPreviousHash) = true := by
      rw [joins.previousHash]
      exact joins.hexadecimal_head
    have record : isSha256 (.str prepared.plan.recordSha256) = true := by
      rw [joins.recordSha256]
      exact joins.hexadecimal _
    have before : isSha256 (.str prepared.plan.ledgerBeforeSha256) = true := by
      rw [joins.prepares.before]
      exact joins.hexadecimal _
    have after : isSha256 (.str prepared.plan.ledgerAfterSha256) = true := by
      rw [joins.after]
      exact joins.hexadecimal _
    simp only [journalHashes, List.forall_mem_cons, List.not_mem_nil, false_imp_iff,
      implies_true, and_true]
    exact ⟨record, before, after, previous, entryHash⟩
  have sequence : isSequence (field (prepared.plan.journal state) "expected_sequence") = true := by
    show decide (1 ≤ (prepared.plan.expectedSequence : Int)) = true
    rw [joins.sequence]
    simp
  have states : ¬(field (prepared.plan.journal state) "state" ≠ .str "PREPARED" ∧
      field (prepared.plan.journal state) "state" ≠ .str "COMMITTED") := by
    show ¬(Json.str state ≠ _ ∧ Json.str state ≠ _)
    rcases known with rfl | rfl <;> simp
  rw [LocalRecordStore.loadJournal, joins.journal]
  refine (refuseIf_bind_eq_ok).mpr ⟨not_ne_iff.mpr keys, (refuseIf_bind_eq_ok).mpr ⟨?_, rfl⟩⟩
  rintro (version | named | unknown | unordered | ⟨key, member, plain, unnumbered, absent⟩ |
    ⟨key, member, malformed⟩)
  · have first : (Json.int 1).isIndex 1 = true := rfl
    exact Bool.noConfusion (first.symm.trans version)
  · exact named rfl
  · exact states unknown
  · rw [sequence] at unordered
    cases unordered
  · exact texts key member plain unnumbered absent
  · rw [hashes key member] at malformed
    cases malformed

/-! ## Transactions that are completed -/

theorem validateRecord (file : Option (List UInt8)) (present : file = some prepared.recordBytes)
    (label : String) :
    store.validateRecoveryFile file (journalText (prepared.plan.journal state) "record_sha256")
      label = .ok () := by
  subst present
  refine refuseIf_eq_ok.mpr (not_ne_iff.mpr ?_)
  exact joins.recordSha256.symm

theorem checkPredecessor_eq (ledger : disk.ledger = base.ledger) (code message : String) :
    store.checkPredecessor disk (prepared.plan.journal state) code message = .ok () := by
  have verified : store.verifiedLedger disk = .ok (raw, head) := by
    rw [verifiedLedger_eq_ok, ledger]
    exact verifiedLedger_eq_ok.mp joins.verified
  rw [LocalRecordStore.checkPredecessor, verified]
  refine refuseIf_eq_ok.mpr (not_or.mpr ⟨not_ne_iff.mpr ?_, not_ne_iff.mpr ?_⟩)
  · exact joins.sequence.symm
  · exact joins.previousHash.symm

omit joins in
theorem ledgerBytes_added (ledger : disk.ledger = prepared.ledger base) :
    disk.ledgerBytes = base.ledgerBytes ++ prepared.line := by
  rw [Disk.ledgerBytes, ledger]
  rfl

theorem checkPublished_eq {context : PersistedRecordContext}
    (found : persistedRecordContext draft.recordGroup draft.ledgerKind = .ok context)
    (type : draft.record.recordType = context.recordType)
    (ledger : disk.ledger = prepared.ledger base)
    (records : disk.records = prepared.records base) :
    store.checkPublished disk (prepared.plan.journal state) context prepared.plan.destination =
      .ok () := by
  obtain ⟨known, _⟩ := persistedRecordContext_eq_ok.mp found
  have present : disk.records prepared.plan.destination = some prepared.recordBytes := by
    rw [records, Publication.records, Function.update_self]
  have after : store.sha256 disk.ledgerBytes =
      journalText (prepared.plan.journal state) "ledger_after_sha256" := by
    rw [ledgerBytes_added ledger]
    exact joins.after.symm
  have position : (raw ++ [rawEntry])[sequenceOf (prepared.plan.journal state) - 1]? =
      some rawEntry := by
    show (raw ++ [rawEntry])[prepared.plan.expectedSequence - 1]? = some rawEntry
    rw [joins.sequence, Nat.add_sub_cancel, List.getElem?_concat_length]
  have kind : context.ledgerKind = draft.ledgerKind := by
    simpa using List.find?_some known
  have matching : refuseIf
      (prepared.entry.entryHash ≠ journalText (prepared.plan.journal state) "entry_hash" ∨
        prepared.entry.kind ≠ context.ledgerKind)
      "RECOVERY_AMBIGUOUS" "transaction ledger entry does not match journal" = .ok () := by
    refine refuseIf_eq_ok.mpr (not_or.mpr ⟨not_ne_iff.mpr joins.entryHash.symm,
      not_ne_iff.mpr ?_⟩)
    rw [joins.appends.kind, kind]
  have same : refuseIf
      (Json.sameValue (.obj prepared.entry.payload.toJson)
        (.obj prepared.entry.payload.toJson) = false)
      "RECOVERY_AMBIGUOUS" "transaction record and ledger payload differ" = .ok () :=
    refuseIf_eq_ok.mpr (by simp [Json.sameValue_self])
  have loaded : store.loadRecordFile ((disk.records prepared.plan.destination).getD [])
      context.group = .ok prepared.entry.payload := by
    rw [present]
    exact joins.loadRecordFile_eq known type
  rw [LocalRecordStore.checkPublished, refuseIf_bind_eq_ok]
  refine ⟨not_ne_iff.mpr after, refuseIf_bind_eq_ok.mpr ⟨by simp [present], ?_⟩⟩
  rw [joins.validateRecord _ present, joins.verified_added ledger]
  simp only [bind, Except.bind, position, joins.appends.normalized, matching, loaded, same]

/-- All entries of the store with the new one are in order. -/
theorem normalized_added : ∃ entries,
    (raw ++ [rawEntry]).mapM (normalizeLedgerEntry store.hashing) = .ok entries := by
  obtain ⟨raw', head', entries, verified, normalized, -⟩ := joins.sound
  obtain ⟨rfl, rfl⟩ := Prod.mk.inj (Except.ok.inj (joins.verified.symm.trans verified))
  refine ⟨entries ++ [prepared.entry], ?_⟩
  rw [List.mapM_append, normalized, List.mapM_cons, joins.appends.normalized]
  rfl

/-- What is published is completed. -/
theorem completeTransaction_ends {context : PersistedRecordContext}
    (found : persistedRecordContext draft.recordGroup draft.ledgerKind = .ok context)
    (type : draft.record.recordType = context.recordType)
    (held : Holding prepared.plan.transactionId directory (prepared.ledger base)
      (prepared.records base) disk) :
    (store.completeTransaction prepared.plan.transactionId (prepared.plan.journal state) context
      prepared.plan.destination).ends (fun _ => Completed base prepared) disk := by
  obtain ⟨entries, normalized⟩ := joins.normalized_added
  unfold LocalRecordStore.completeTransaction
  refine Script.ends_get_bind (Script.ends_lift_bind
    (joins.checkPublished_eq found type held.ledger held.records) ?_)
  refine Script.ends_bind.mpr ((writeJournal_ends held _).mono ?_)
  rintro _ disk ⟨temporaries, held⟩
  refine Script.ends_bind.mpr ((rebuildIndex_ends Holding.ignoresIndex held
    (joins.verified_added held.ledger) normalized).mono ?_)
  intro _ disk held
  unfold LocalRecordStore.cleanupTransaction
  exact Script.ends_modify_bind (Script.ends_pure ⟨held.erase, held.ledger, held.records⟩)

/-- What is staged is published. -/
theorem publishPrepared_ends {records : RecordPath → Option (List UInt8)}
    (held : Holding prepared.plan.transactionId directory base.ledger records disk)
    (staged : StagedFor base prepared directory records) :
    (store.publishPrepared prepared.plan.transactionId (prepared.plan.journal "PREPARED")
      prepared.plan.destination).ends
      (fun _ disk => ∃ directory, Holding prepared.plan.transactionId directory
        (prepared.ledger base) (prepared.records base) disk) disk := by
  have ending {directory : TransactionDirectory} {disk : Disk}
      (held : Holding prepared.plan.transactionId directory base.ledger
        (prepared.records base) disk)
      (ledger : directory.ledgerStage = prepared.ledger base) :
      (do
        let disk ← Script.get
        Script.lift (store.checkPredecessor disk (prepared.plan.journal "PREPARED")
          "RECOVERY_LEDGER_CONFLICT" "prepared transaction predecessor has changed")
        Script.modify (Disk.publishLedger prepared.plan.transactionId) :
          Script Disk ForgeError Unit).ends
        (fun _ disk => ∃ directory, Holding prepared.plan.transactionId directory
          (prepared.ledger base) (prepared.records base) disk) disk := by
    have moved := held.publishLedger
    rw [ledger] at moved
    refine Script.ends_get_bind (Script.ends_lift_bind
      (joins.checkPredecessor_eq held.ledger _ _) ?_)
    exact Script.ends_modify ⟨_, moved⟩
  have stage : store.validateRecoveryFile (disk.directory prepared.plan.transactionId).ledgerStage
      (journalText (prepared.plan.journal "PREPARED") "ledger_after_sha256") "staged ledger" =
      .ok () := by
    rw [held.directory_eq, staged.2]
    exact refuseIf_eq_ok.mpr (not_ne_iff.mpr joins.after.symm)
  have fresh (code message : String) :
      refuseIf (journalText (prepared.plan.journal "PREPARED") "state" = "COMMITTED") code
        message = .ok () :=
    refuseIf_eq_ok.mpr (by
      show ¬("PREPARED" = "COMMITTED")
      decide)
  unfold LocalRecordStore.publishPrepared
  refine Script.ends_get_bind (Script.ends_lift_bind (fresh _ _) ?_)
  refine Script.ends_lift_bind stage ?_
  obtain ⟨⟨rfl, record⟩ | rfl, ledger⟩ := staged
  · rw [if_pos (by simp [held.records, joins.prepares.free])]
    have moved := held.publishRecord prepared.plan.destination
    rw [record] at moved
    exact Script.ends_modify_bind (ending moved ledger)
  · rw [if_neg (by simp [held.records, Publication.records])]
    exact ending held ledger

/-- A transaction with its journal is completed, wherever it has stopped. -/
theorem recoverTransaction_ends (progress : Progress base prepared disk)
    (single : disk.transactions = [(prepared.plan.transactionId, directory)])
    (journal : directory.journal = some (journalBytes (prepared.plan.journal state))) :
    (store.recoverTransaction prepared.plan.transactionId (prepared.plan.journal state)).ends
      (fun _ => Completed base prepared) disk := by
  obtain ⟨context, found, type, -⟩ := joins.context
  have foundPlan : persistedRecordContext
      (journalText (prepared.plan.journal state) "record_group")
      (journalText (prepared.plan.journal state) "ledger_kind") = .ok context := by
    show persistedRecordContext prepared.plan.recordGroup prepared.plan.ledgerKind = _
    rw [joins.group, joins.ledgerKind, found]
  have canonical (code message : String) : refuseIf
      (Paths.PurePosixPath.ofString (journalText (prepared.plan.journal state)
          "record_destination") ≠
        Paths.PurePosixPath.ofString prepared.plan.destination.relative) code message =
      .ok () :=
    refuseIf_eq_ok.mpr (not_ne_iff.mpr rfl)
  have same {other : TransactionDirectory} {ledger : Option (List UInt8)}
      {records : RecordPath → Option (List UInt8)}
      (held : Holding prepared.plan.transactionId other ledger records disk) :
      other = directory := by
    simpa [held.single] using single
  unfold LocalRecordStore.recoverTransaction
  refine Script.ends_lift_bind foundPlan (Script.ends_lift_bind joins.prepares.path ?_)
  refine Script.ends_lift_bind (canonical _ _) (Script.ends_get_bind ?_)
  -- Before the ledger is moved the record is in one of its two places.
  have before {records : RecordPath → Option (List UInt8)}
      (held : Holding prepared.plan.transactionId directory base.ledger records disk)
      (staged : StagedFor base prepared directory records) :
      (disk.records prepared.plan.destination).or
        (disk.directory prepared.plan.transactionId).recordStage = some prepared.recordBytes ∧
      store.sha256 disk.ledgerBytes =
        journalText (prepared.plan.journal "PREPARED") "ledger_before_sha256" := by
    refine ⟨?_, ?_⟩
    · rw [held.directory_eq, held.records]
      obtain ⟨⟨rfl, record⟩ | rfl, -⟩ := staged
      · rw [joins.prepares.free, Option.none_or, record]
      · rw [Publication.records, Function.update_self, Option.some_or]
    · rw [Disk.ledgerBytes, held.ledger]
      exact joins.prepares.before.symm
  have onward {records : RecordPath → Option (List UInt8)}
      (held : Holding prepared.plan.transactionId directory base.ledger records disk)
      (staged : StagedFor base prepared directory records) :
      (store.publishPrepared prepared.plan.transactionId (prepared.plan.journal "PREPARED")
          prepared.plan.destination >>= fun _ =>
        store.completeTransaction prepared.plan.transactionId (prepared.plan.journal "PREPARED")
          context prepared.plan.destination).ends (fun _ => Completed base prepared) disk := by
    refine Script.ends_bind.mpr ((joins.publishPrepared_ends held staged).mono ?_)
    rintro _ disk ⟨_, held⟩
    exact joins.completeTransaction_ends found type held
  cases progress with
  | untouched settled _ => simp [settled] at single
  | staging held unwritten =>
      obtain rfl := same held
      rw [journal] at unwritten
      cases unwritten
  | staged held written record ledger =>
      obtain rfl := same held
      obtain rfl := journalBytes_state (Option.some.inj (journal.symm.trans written))
      have staged : StagedFor base prepared _ base.records := ⟨Or.inl ⟨rfl, record⟩, ledger⟩
      obtain ⟨file, old⟩ := before held staged
      refine Script.ends_lift_bind (joins.validateRecord _ file _) ?_
      rw [if_pos old]
      exact onward held staged
  | recorded held written ledger =>
      obtain rfl := same held
      obtain rfl := journalBytes_state (Option.some.inj (journal.symm.trans written))
      have staged : StagedFor base prepared _ (prepared.records base) := ⟨Or.inr rfl, ledger⟩
      obtain ⟨file, old⟩ := before held staged
      refine Script.ends_lift_bind (joins.validateRecord _ file _) ?_
      rw [if_pos old]
      exact onward held staged
  | published held _ written moved =>
      obtain rfl := same held
      have file : (disk.records prepared.plan.destination).or
          (disk.directory prepared.plan.transactionId).recordStage =
          some prepared.recordBytes := by
        rw [held.records, Publication.records, Function.update_self, Option.some_or]
      have new : store.sha256 disk.ledgerBytes ≠
          journalText (prepared.plan.journal state) "ledger_before_sha256" := by
        rw [ledgerBytes_added held.ledger]
        intro same
        exact joins.distinct (joins.prepares.before.symm.trans same.symm)
      refine Script.ends_lift_bind (joins.validateRecord _ file _) ?_
      rw [if_neg new]
      exact joins.completeTransaction_ends found type held
  | finished settled _ _ => simp [settled] at single

/-- Going over the transactions ends, with the commit undone or done. -/
theorem recoverUnlocked_ends (progress : Progress base prepared disk) :
    store.recoverUnlocked.ends (fun _ => Settled base prepared) disk := by
  have journaled {directory : TransactionDirectory} {state : String}
      (single : disk.transactions = [(prepared.plan.transactionId, directory)])
      (known : IsJournalState state)
      (journal : directory.journal = some (journalBytes (prepared.plan.journal state))) :
      (store.recoverEach 0 0 (Dict.keys disk.transactions)).ends
        (fun _ => Settled base prepared) disk := by
    have here : disk.directory prepared.plan.transactionId = directory := by
      simp [Disk.directory, single, Dict.get?_cons]
    rw [single, Dict.keys_cons, Dict.keys_nil, LocalRecordStore.recoverEach]
    refine Script.ends_get_bind ?_
    simp only [here, journal]
    refine Script.ends_lift_bind (joins.loadJournal_eq known) ?_
    refine Script.ends_bind.mpr
      ((joins.recoverTransaction_ends progress single journal).mono ?_)
    exact fun _ _ completed => Script.ends_pure completed.toSettled
  unfold LocalRecordStore.recoverUnlocked
  refine Script.ends_get_bind ?_
  cases progress with
  | untouched settled unchanged =>
      rw [settled]
      exact Script.ends_pure ⟨settled, Or.inl unchanged⟩
  | staging held unwritten =>
      rw [held.single, Dict.keys_cons, Dict.keys_nil, LocalRecordStore.recoverEach]
      refine Script.ends_get_bind ?_
      simp only [held.directory_eq, unwritten]
      unfold LocalRecordStore.cleanupTransaction
      refine Script.ends_modify_bind (Script.ends_pure ⟨held.erase, ?_⟩)
      exact Or.inl ⟨held.ledger, held.records⟩
  | staged held journal _ _ => exact journaled held.single (Or.inl rfl) journal
  | recorded held journal _ => exact journaled held.single (Or.inl rfl) journal
  | published held known journal _ => exact journaled held.single known journal
  | finished settled ledger records =>
      rw [settled]
      exact Script.ends_pure ⟨settled, Or.inr ⟨ledger, records⟩⟩

/-- A commit onto a store at rest ends with its entry. -/
theorem publish_ends :
    (store.publish prepared base.ledgerBytes).ends
      (fun entry disk => entry = prepared.entry ∧ Completed base prepared disk) base := by
  obtain ⟨entries, normalized⟩ := joins.normalized_added
  have created : Holding prepared.plan.transactionId {} base.ledger base.records
      (base.inDirectory prepared.plan.transactionId fun _ => {}) :=
    ⟨by simp [Disk.inDirectory, joins.settled, Dict.set], rfl, rfl⟩
  have recordStaged := created.inDirectory fun directory =>
    { directory with recordStage := some prepared.recordBytes }
  have ledgerStaged := recordStaged.inDirectory fun directory =>
    { directory with ledgerStage := some (base.ledgerBytes ++ prepared.line) }
  unfold LocalRecordStore.publish
  refine Script.ends_modify_bind (Script.ends_modify_bind (Script.ends_modify_bind ?_))
  refine Script.ends_bind.mpr ((writeJournal_ends ledgerStaged _).mono ?_)
  rintro _ disk ⟨temporaries, journaled⟩
  have recorded := journaled.publishRecord prepared.plan.destination
  have expected : store.assertExpectedLedger
      (disk.publishRecord prepared.plan.transactionId prepared.plan.destination)
      (prepared.plan.journal "PREPARED") base.ledgerBytes = .ok () := by
    have same : (disk.publishRecord prepared.plan.transactionId
        prepared.plan.destination).ledgerBytes = base.ledgerBytes := by
      rw [Disk.ledgerBytes, recorded.ledger]
      rfl
    rw [LocalRecordStore.assertExpectedLedger, same, refuseIf_bind_eq_ok]
    refine ⟨not_or.mpr ⟨not_ne_iff.mpr rfl, not_ne_iff.mpr joins.prepares.before.symm⟩, ?_⟩
    exact joins.checkPredecessor_eq recorded.ledger _ _
  refine Script.ends_modify_bind (Script.ends_get_bind (Script.ends_lift_bind expected ?_))
  refine Script.ends_modify_bind ?_
  refine Script.ends_bind.mpr ((writeJournal_ends recorded.publishLedger _).mono ?_)
  rintro _ disk ⟨temporaries, committed⟩
  refine Script.ends_bind.mpr ((rebuildIndex_ends Holding.ignoresIndex committed
    (joins.verified_added committed.ledger) normalized).mono ?_)
  intro _ disk held
  unfold LocalRecordStore.cleanupTransaction
  exact Script.ends_modify_bind (Script.ends_pure ⟨rfl, held.erase, held.ledger, held.records⟩)

end Joins

end MncsForge.Store
