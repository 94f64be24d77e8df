import Mathlib
import MncsForge.Store.CommitBatch
import MncsForge.Store.Files

/-!
# Recovery of interrupted commits

A commit can stop at any of its steps, and so can the recovery that follows it, any
number of times.  Once a recovery completes, the ledger and the record files are those
from before the commit or those with its record added.
-/

namespace MncsForge.Store

open MncsForge.Foundation MncsForge.Records MncsForge.Ledger

/-! ## What recovery promises -/

/-- The ledger and the records are those of the base. -/
def Unchanged (base disk : Disk) : Prop :=
  disk.ledger = base.ledger ∧ disk.records = base.records

namespace LocalRecordStore

variable (store : LocalRecordStore)

/-- The record file and the ledger line of the draft are added to the base. -/
def Added (draft : Draft) (base disk : Disk) : Prop :=
  ∃ identityField identity destination recordBytes raw head prepared,
    checkDraft draft = .ok (identityField, identity, destination, recordBytes) ∧
      store.verifiedLedger base = .ok (raw, head) ∧
      store.prepare draft identity destination recordBytes base raw = .ok prepared ∧
      base.records destination = none ∧
      disk.records = Function.update base.records destination (some recordBytes) ∧
      disk.ledger = some (base.ledgerBytes ++ prepared.line)

/-- The entry has its record file. -/
def Backed (disk : Disk) (entry : LedgerEntry) : Prop :=
  ∃ context identity path bytes record,
    recordContext? entry.kind = some context ∧
      entry.payload.get context.identityField = .str identity ∧
      immutableRecordPath context.group identity = .ok path ∧
      disk.records path = some bytes ∧
      store.loadRecordFile bytes context.group = .ok record ∧
      Json.sameValue (.obj record.toJson) (.obj entry.payload.toJson) = true ∧
      (entry.sourceSchemaVersion = currentSchemaVersion →
        bytes = (Json.obj entry.payload.toJson).canonicalBytes ++ [10])

/-- The chain of the ledger is valid and each of its entries has its record file. -/
def Sound (disk : Disk) : Prop :=
  ∃ raw head entries, store.verifiedLedger disk = .ok (raw, head) ∧
    raw.mapM (normalizeLedgerEntry store.hashing) = .ok entries ∧
    ∀ entry ∈ entries, store.Backed disk entry

/-- A recovery, started any number of times, has gone over the transactions. -/
def Recovers (start base : Disk) : Prop :=
  ∃ interrupted counts, store.recover.Restarts start interrupted ∧
    store.recoverUnlocked.run interrupted = (.ok counts, base)

/-- What is read of a flat object is what was written. -/
def ReadsBack : Prop :=
  ∀ fields : Dict String Json, Dict.Ordered fields →
    (∀ entry ∈ fields, (∃ text, entry.2 = .str text) ∨ ∃ number, entry.2 = .int number) →
    ∀ value, store.loads (journalBytes fields) = some value → value = .obj fields

end LocalRecordStore

/-! ## One directory -/

/-- The only transaction directory, with the ledger and the records around it. -/
structure Holding (name : String) (directory : TransactionDirectory)
    (ledger : Option (List UInt8)) (records : RecordPath → Option (List UInt8)) (disk : Disk) :
    Prop where
  single : disk.transactions = [(name, directory)]
  ledger : disk.ledger = ledger
  records : disk.records = records

namespace Holding

variable {name : String} {directory : TransactionDirectory} {ledger : Option (List UInt8)}
  {records : RecordPath → Option (List UInt8)} {disk : Disk}

theorem directory_eq (h : Holding name directory ledger records disk) :
    disk.directory name = directory := by
  simp [Disk.directory, h.single, Dict.get?_cons]

theorem inDirectory (h : Holding name directory ledger records disk)
    (change : TransactionDirectory → TransactionDirectory) :
    Holding name (change directory) ledger records (disk.inDirectory name change) := by
  refine ⟨?_, h.ledger, h.records⟩
  simp [Disk.inDirectory, h.directory_eq, h.single, Dict.set]

theorem publishRecord (h : Holding name directory ledger records disk)
    (destination : RecordPath) :
    Holding name { directory with recordStage := none } ledger
      (Function.update records destination directory.recordStage)
      (disk.publishRecord name destination) := by
  have changed := h.inDirectory fun directory => { directory with recordStage := none }
  refine ⟨changed.single, h.ledger, ?_⟩
  simp [Disk.publishRecord, h.directory_eq, h.records]

theorem publishLedger (h : Holding name directory ledger records disk) :
    Holding name { directory with ledgerStage := none } directory.ledgerStage records
      (disk.publishLedger name) := by
  have changed := h.inDirectory fun directory => { directory with ledgerStage := none }
  refine ⟨changed.single, ?_, h.records⟩
  simp [Disk.publishLedger, h.directory_eq]

theorem erase (h : Holding name directory ledger records disk) :
    Dict.erase disk.transactions name = [] := by
  simp [h.single, Dict.erase]

end Holding

/-! ## The stages of a commit -/

namespace LocalRecordStore

/-- The ledger after the commit. -/
def Publication.ledger (prepared : Publication) (base : Disk) : Option (List UInt8) :=
  some (base.ledgerBytes ++ prepared.line)

/-- The records after the commit. -/
def Publication.records (prepared : Publication) (base : Disk) : RecordPath → Option (List UInt8) :=
  Function.update base.records prepared.plan.destination (some prepared.recordBytes)

/-- What `prepare` has established of the plan. -/
structure Prepares (store : LocalRecordStore) (base : Disk) (prepared : Publication) : Prop where
  before : prepared.plan.ledgerBeforeSha256 = store.sha256 base.ledgerBytes
  path : immutableRecordPath prepared.plan.recordGroup prepared.plan.recordIdentity =
    .ok prepared.plan.destination
  free : base.records prepared.plan.destination = none

end LocalRecordStore

open LocalRecordStore (Publication Prepares)

/-- The states of a journal. -/
def IsJournalState (state : String) : Prop :=
  state = "PREPARED" ∨ state = "COMMITTED"

/-- How far a commit onto the base has come.  Its recovery goes on from the same stages. -/
inductive Progress (base : Disk) (prepared : Publication) (disk : Disk) : Prop where
  | untouched (settled : disk.transactions = []) (unchanged : Unchanged base disk)
  | staging {directory : TransactionDirectory}
      (held : Holding prepared.plan.transactionId directory base.ledger base.records disk)
      (unwritten : directory.journal = none)
  | staged {directory : TransactionDirectory}
      (held : Holding prepared.plan.transactionId directory base.ledger base.records disk)
      (journal : directory.journal = some (journalBytes (prepared.plan.journal "PREPARED")))
      (record : directory.recordStage = some prepared.recordBytes)
      (ledger : directory.ledgerStage = prepared.ledger base)
  | recorded {directory : TransactionDirectory}
      (held : Holding prepared.plan.transactionId directory base.ledger (prepared.records base)
        disk)
      (journal : directory.journal = some (journalBytes (prepared.plan.journal "PREPARED")))
      (ledger : directory.ledgerStage = prepared.ledger base)
  | published {directory : TransactionDirectory} {state : String}
      (held : Holding prepared.plan.transactionId directory (prepared.ledger base)
        (prepared.records base) disk)
      (known : IsJournalState state)
      (journal : directory.journal = some (journalBytes (prepared.plan.journal state)))
      (moved : directory.ledgerStage = none)
  | finished (settled : disk.transactions = []) (ledger : disk.ledger = prepared.ledger base)
      (records : disk.records = prepared.records base)

/-- The commit is undone or done. -/
def Settled (base : Disk) (prepared : Publication) (disk : Disk) : Prop :=
  disk.transactions = [] ∧
    (Unchanged base disk ∨
      disk.ledger = prepared.ledger base ∧ disk.records = prepared.records base)

/-- The commit is done. -/
structure Completed (base : Disk) (prepared : Publication) (disk : Disk) : Prop where
  settled : disk.transactions = []
  ledger : disk.ledger = prepared.ledger base
  records : disk.records = prepared.records base

theorem Settled.progress {base disk : Disk} {prepared : Publication}
    (h : Settled base prepared disk) : Progress base prepared disk := by
  obtain ⟨settled, unchanged | ⟨ledger, records⟩⟩ := h
  · exact .untouched settled unchanged
  · exact .finished settled ledger records

theorem Completed.toSettled {base disk : Disk} {prepared : Publication}
    (h : Completed base prepared disk) : Settled base prepared disk :=
  ⟨h.settled, Or.inr ⟨h.ledger, h.records⟩⟩

/-! ## The index -/

/-- The index does not matter to a property. -/
def IgnoresIndex (inv : Disk → Prop) : Prop :=
  ∀ disk temporaries index, inv disk →
    inv { disk with temporaries := temporaries, index := index }

theorem Holding.ignoresIndex {name : String} {directory : TransactionDirectory}
    {ledger : Option (List UInt8)} {records : RecordPath → Option (List UInt8)} :
    IgnoresIndex (Holding name directory ledger records) :=
  fun _ _ _ h => ⟨h.single, h.ledger, h.records⟩

theorem Settled.ignoresIndex {base : Disk} {prepared : Publication} :
    IgnoresIndex (Settled base prepared) :=
  fun _ _ _ h => h

section Steps

variable {store : LocalRecordStore} {inv crash : Disk → Prop} {disk : Disk}

theorem ensureIndex_keeps (ignores : IgnoresIndex inv) (within : ∀ disk, inv disk → crash disk)
    (raw : List RawEntry) (h : inv disk) :
    (store.ensureIndex raw).wp (fun _ => inv) crash disk := by
  unfold LocalRecordStore.ensureIndex
  refine Script.wp_get_bind.mpr (Script.wp_lift_bind.mpr ⟨within _ h, fun expected _ => ?_⟩)
  split_ifs
  · exact Script.wp_pure.mpr ⟨within _ h, h⟩
  · unfold LocalRecordStore.writeIndex
    have first := ignores disk (((expected.canonicalBytes ++ [10]) :: disk.temporaries)) disk.index h
    refine Script.wp_modify_bind.mpr ⟨within _ h, Script.wp_modify.mpr ⟨within _ first, ?_⟩⟩
    have second := ignores _ (((expected.canonicalBytes ++ [10]) :: disk.temporaries).erase
      (expected.canonicalBytes ++ [10])) (some (expected.canonicalBytes ++ [10])) first
    exact ⟨within _ second, second⟩

theorem rebuildIndex_keeps (ignores : IgnoresIndex inv) (within : ∀ disk, inv disk → crash disk)
    (h : inv disk) : store.rebuildIndex.wp (fun _ => inv) crash disk := by
  unfold LocalRecordStore.rebuildIndex
  refine Script.wp_get_bind.mpr (Script.wp_lift_bind.mpr ⟨within _ h, fun verified _ => ?_⟩)
  exact ensureIndex_keeps ignores within verified.1 h

end Steps

/-! ## Commits -/

section Commit

variable {store : LocalRecordStore} {base disk : Disk} {prepared : Publication}

/-- A journal that is replaced shows in the directory alone. -/
theorem writeJournal_keeps {name : String} {directory : TransactionDirectory}
    {ledger : Option (List UInt8)} {records : RecordPath → Option (List UInt8)}
    {crash : Disk → Prop} {post : Unit → Disk → Prop} {journal : Dict String Json}
    (held : Holding name directory ledger records disk)
    (before : ∀ temporaries disk,
      Holding name { directory with temporaries := temporaries } ledger records disk →
        crash disk)
    (after : ∀ temporaries disk,
      Holding name { directory with
          temporaries := temporaries, journal := some (journalBytes journal) } ledger records
        disk → crash disk ∧ post () disk) :
    (LocalRecordStore.writeJournal name journal).wp post crash disk := by
  unfold LocalRecordStore.writeJournal
  have first := held.inDirectory fun directory =>
    { directory with temporaries := journalBytes journal :: directory.temporaries }
  have second := first.inDirectory fun directory =>
    { directory with
      temporaries := directory.temporaries.erase (journalBytes journal)
      journal := some (journalBytes journal) }
  exact Script.wp_modify_bind.mpr ⟨before directory.temporaries _ held,
    Script.wp_modify.mpr ⟨before _ _ first, after _ _ second⟩⟩

/-- A transaction whose files are in place ends with its directory removed. -/
theorem cleanup_keeps {directory : TransactionDirectory} {state : String} {α : Type}
    {next : Unit → Script Disk ForgeError α} {post : α → Disk → Prop}
    (held : Holding prepared.plan.transactionId directory (prepared.ledger base)
      (prepared.records base) disk)
    (known : IsJournalState state)
    (journal : directory.journal = some (journalBytes (prepared.plan.journal state)))
    (moved : directory.ledgerStage = none)
    (rest : ∀ disk, Completed base prepared disk →
      (next ()).wp post (Progress base prepared) disk) :
    (store.rebuildIndex >>= fun _ =>
      LocalRecordStore.cleanupTransaction prepared.plan.transactionId >>= next).wp post
        (Progress base prepared) disk := by
  refine Script.wp_bind.mpr ((rebuildIndex_keeps Holding.ignoresIndex
    (fun _ held => Progress.published held known journal moved) held).mono ?_ fun _ h => h)
  intro _ disk held
  unfold LocalRecordStore.cleanupTransaction
  refine Script.wp_modify_bind.mpr ⟨.published held known journal moved, rest _ ?_⟩
  exact ⟨held.erase, held.ledger, held.records⟩

theorem publish_keeps (settled : base.transactions = []) :
    (store.publish prepared base.ledgerBytes).wp
      (fun entry disk => entry = prepared.entry ∧ Completed base prepared disk)
      (Progress base prepared) base := by
  unfold LocalRecordStore.publish
  have created : Holding prepared.plan.transactionId {} base.ledger base.records
      (base.inDirectory prepared.plan.transactionId fun _ => {}) :=
    ⟨by simp [Disk.inDirectory, settled, Dict.set], rfl, rfl⟩
  refine Script.wp_modify_bind.mpr ⟨.untouched settled ⟨rfl, rfl⟩, ?_⟩
  refine Script.wp_modify_bind.mpr ⟨.staging created rfl, ?_⟩
  have recordStaged := created.inDirectory fun directory =>
    { directory with recordStage := some prepared.recordBytes }
  refine Script.wp_modify_bind.mpr ⟨.staging recordStaged rfl, ?_⟩
  have ledgerStaged := recordStaged.inDirectory fun directory =>
    { directory with ledgerStage := some (base.ledgerBytes ++ prepared.line) }
  refine Script.wp_bind.mpr (writeJournal_keeps ledgerStaged
    (fun _ _ held => .staging held rfl) fun _ disk journaled => ?_)
  have staged : Progress base prepared disk := .staged journaled rfl rfl rfl
  refine ⟨staged, Script.wp_modify_bind.mpr ⟨staged, Script.wp_get_bind.mpr ?_⟩⟩
  have recordPublished := journaled.publishRecord prepared.plan.destination
  have recorded := Progress.recorded recordPublished rfl rfl
  refine Script.wp_lift_bind.mpr ⟨recorded, fun _ _ => ?_⟩
  refine Script.wp_modify_bind.mpr ⟨recorded, ?_⟩
  refine Script.wp_bind.mpr (writeJournal_keeps recordPublished.publishLedger
    (fun _ _ held => Progress.published held (Or.inl rfl) rfl rfl) fun _ disk committed => ?_)
  refine ⟨.published committed (Or.inr rfl) rfl rfl,
    cleanup_keeps committed (Or.inr rfl) rfl rfl fun disk completed => ?_⟩
  exact Script.wp_pure.mpr ⟨completed.toSettled.progress, rfl, completed⟩

end Commit

/-! ## Recoveries -/

section Recovery

variable {store : LocalRecordStore} {base disk : Disk} {prepared : Publication}
  {directory : TransactionDirectory} {state : String}

theorem committed_journal (plan : Plan) :
    Dict.set (plan.journal state) "state" (.str "COMMITTED") = plan.journal "COMMITTED" := by
  rfl

theorem completeTransaction_keeps {context : PersistedRecordContext}
    (held : Holding prepared.plan.transactionId directory (prepared.ledger base)
      (prepared.records base) disk)
    (known : IsJournalState state)
    (journal : directory.journal = some (journalBytes (prepared.plan.journal state)))
    (moved : directory.ledgerStage = none) :
    (store.completeTransaction prepared.plan.transactionId (prepared.plan.journal state) context
      prepared.plan.destination).wp (fun _ => Settled base prepared) (Progress base prepared)
        disk := by
  unfold LocalRecordStore.completeTransaction
  have published := Progress.published held known journal moved
  refine Script.wp_get_bind.mpr (Script.wp_lift_bind.mpr ⟨published, fun _ _ => ?_⟩)
  rw [committed_journal]
  refine Script.wp_bind.mpr (writeJournal_keeps held
    (fun _ _ held => .published held known journal moved) fun _ disk committed => ?_)
  refine ⟨.published committed (Or.inr rfl) rfl moved,
    cleanup_keeps committed (Or.inr rfl) rfl moved fun disk completed => ?_⟩
  exact Script.wp_pure.mpr ⟨completed.toSettled.progress, completed.toSettled⟩

/-- The record is staged or in place, and the ledger is staged. -/
def StagedFor (base : Disk) (prepared : Publication) (directory : TransactionDirectory)
    (records : RecordPath → Option (List UInt8)) : Prop :=
  (records = base.records ∧ directory.recordStage = some prepared.recordBytes ∨
      records = prepared.records base) ∧
    directory.ledgerStage = prepared.ledger base

theorem StagedFor.progress {records : RecordPath → Option (List UInt8)}
    (held : Holding prepared.plan.transactionId directory base.ledger records disk)
    (journal : directory.journal = some (journalBytes (prepared.plan.journal "PREPARED")))
    (staged : StagedFor base prepared directory records) : Progress base prepared disk := by
  obtain ⟨⟨rfl, record⟩ | rfl, ledger⟩ := staged
  · exact .staged held journal record ledger
  · exact .recorded held journal ledger

/-- What is still staged is published. -/
theorem publishPrepared_keeps {records : RecordPath → Option (List UInt8)}
    (prepares : Prepares store base prepared)
    (held : Holding prepared.plan.transactionId directory base.ledger records disk)
    (journal : directory.journal = some (journalBytes (prepared.plan.journal "PREPARED")))
    (staged : StagedFor base prepared directory records) :
    (store.publishPrepared prepared.plan.transactionId (prepared.plan.journal "PREPARED")
      prepared.plan.destination).wp
      (fun _ disk => ∃ directory, Holding prepared.plan.transactionId directory
        (prepared.ledger base) (prepared.records base) disk ∧
        directory.journal = some (journalBytes (prepared.plan.journal "PREPARED")) ∧
        directory.ledgerStage = none)
      (Progress base prepared) disk := by
  have progress := staged.progress held journal
  have ending : ∀ {directory : TransactionDirectory} {disk : Disk},
      Holding prepared.plan.transactionId directory base.ledger (prepared.records base) disk →
      directory.journal = some (journalBytes (prepared.plan.journal "PREPARED")) →
      directory.ledgerStage = prepared.ledger base →
      (do
        let disk ← Script.get
        Script.lift (store.checkPredecessor disk (prepared.plan.journal "PREPARED")
          "RECOVERY_LEDGER_CONFLICT" "prepared transaction predecessor has changed")
        Script.modify (Disk.publishLedger prepared.plan.transactionId) :
          Script Disk ForgeError Unit).wp
        (fun _ disk => ∃ directory, Holding prepared.plan.transactionId directory
          (prepared.ledger base) (prepared.records base) disk ∧
          directory.journal = some (journalBytes (prepared.plan.journal "PREPARED")) ∧
          directory.ledgerStage = none)
        (Progress base prepared) disk := by
    intro directory disk held journal ledger
    have recorded := Progress.recorded held journal ledger
    refine Script.wp_get_bind.mpr (Script.wp_lift_bind.mpr ⟨recorded, fun _ _ => ?_⟩)
    have moved := held.publishLedger
    rw [ledger] at moved
    refine Script.wp_modify.mpr
      ⟨recorded, .published moved (Or.inl rfl) journal rfl, _, moved, journal, rfl⟩
  unfold LocalRecordStore.publishPrepared
  refine Script.wp_get_bind.mpr (Script.wp_lift_bind.mpr ⟨progress, fun _ _ => ?_⟩)
  refine Script.wp_lift_bind.mpr ⟨progress, fun _ _ => ?_⟩
  obtain ⟨⟨rfl, record⟩ | rfl, ledger⟩ := staged
  · rw [if_pos (by simp [held.records, prepares.free])]
    have moved := held.publishRecord prepared.plan.destination
    rw [record] at moved
    exact Script.wp_modify_bind.mpr ⟨progress, ending moved journal ledger⟩
  · rw [if_neg (by simp [held.records, Publication.records])]
    exact ending held journal ledger

theorem journal_ordered (plan : Plan) : Dict.Ordered (plan.journal state) := by
  show List.Pairwise (· < ·) journalRequired
  decide

theorem journal_flat (plan : Plan) : ∀ entry ∈ plan.journal state,
    (∃ text, entry.2 = .str text) ∨ ∃ number, entry.2 = .int number := by
  simp [Plan.journal]

theorem wellFormed_flat {fields : Dict String Json} (ordered : Dict.Ordered fields)
    (flat : ∀ entry ∈ fields,
      (∃ text, entry.2 = .str text) ∨ ∃ number, entry.2 = .int number) :
    (Json.obj fields).WellFormed := by
  refine Json.wellFormed_obj_iff.mpr ⟨ordered, fun entry member => ?_⟩
  rcases flat entry member with ⟨text, same⟩ | ⟨number, same⟩ <;> rw [same] <;> trivial

theorem journal_wellFormed (plan : Plan) : (Json.obj (plan.journal state)).WellFormed :=
  wellFormed_flat (journal_ordered plan) (journal_flat plan)

/-- The bytes of a journal tell its state. -/
theorem journalBytes_state {plan : Plan} {other : String}
    (h : journalBytes (plan.journal state) = journalBytes (plan.journal other)) :
    state = other := by
  have fields := Json.obj.inj (Json.canonicalBytes_injective (journal_wellFormed plan)
    (journal_wellFormed plan) (List.append_cancel_right h))
  simpa [Plan.journal] using fields

/-- A transaction whose journal was written is completed. -/
theorem recoverTransaction_keeps (prepares : Prepares store base prepared)
    (progress : Progress base prepared disk)
    (single : disk.transactions = [(prepared.plan.transactionId, directory)])
    (journal : directory.journal = some (journalBytes (prepared.plan.journal state))) :
    (store.recoverTransaction prepared.plan.transactionId (prepared.plan.journal state)).wp
      (fun _ => Settled base prepared) (Progress base prepared) disk := by
  unfold LocalRecordStore.recoverTransaction
  refine Script.wp_lift_bind.mpr ⟨progress, fun context _ => ?_⟩
  refine Script.wp_lift_bind.mpr ⟨progress, fun destination located => ?_⟩
  obtain rfl := Except.ok.inj (prepares.path.symm.trans located)
  refine Script.wp_lift_bind.mpr ⟨progress, fun _ _ => Script.wp_get_bind.mpr ?_⟩
  refine Script.wp_lift_bind.mpr ⟨progress, fun _ _ => ?_⟩
  have same : ∀ {other : TransactionDirectory} {ledger : Option (List UInt8)}
      {records : RecordPath → Option (List UInt8)},
      Holding prepared.plan.transactionId other ledger records disk → other = directory := by
    intro other ledger records held
    simpa [held.single] using single
  have old : disk.ledger = base.ledger → store.sha256 disk.ledgerBytes =
      journalText (prepared.plan.journal state) "ledger_before_sha256" := by
    intro unchanged
    rw [Disk.ledgerBytes, unchanged]
    exact prepares.before.symm
  have onward : ∀ {records : RecordPath → Option (List UInt8)},
      Holding prepared.plan.transactionId directory base.ledger records disk →
      directory.journal = some (journalBytes (prepared.plan.journal "PREPARED")) →
      StagedFor base prepared directory records →
      (store.publishPrepared prepared.plan.transactionId (prepared.plan.journal state)
        prepared.plan.destination >>= fun _ =>
          store.completeTransaction prepared.plan.transactionId (prepared.plan.journal state)
            context prepared.plan.destination).wp (fun _ => Settled base prepared)
        (Progress base prepared) disk := by
    intro records held written staged
    obtain rfl := journalBytes_state (Option.some.inj (journal.symm.trans written))
    refine Script.wp_bind.mpr ((publishPrepared_keeps prepares held written staged).mono ?_
      fun _ h => h)
    rintro _ disk ⟨_, held, written, moved⟩
    exact completeTransaction_keeps held (Or.inl rfl) written moved
  cases progress with
  | untouched settled _ => simp [settled] at single
  | staging held unwritten =>
      obtain rfl := same held
      rw [journal] at unwritten
      cases unwritten
  | staged held written record ledger =>
      obtain rfl := same held
      rw [if_pos (old held.ledger)]
      exact onward held written ⟨Or.inl ⟨rfl, record⟩, ledger⟩
  | recorded held written ledger =>
      obtain rfl := same held
      rw [if_pos (old held.ledger)]
      exact onward held written ⟨Or.inr rfl, ledger⟩
  | published held known written moved =>
      obtain rfl := same held
      obtain rfl := journalBytes_state (Option.some.inj (journal.symm.trans written))
      by_cases before : store.sha256 disk.ledgerBytes =
          journalText (prepared.plan.journal state) "ledger_before_sha256"
      · -- the new ledger has the digest of the old one: the staged ledger is missed
        rw [if_pos before]
        refine Script.wp_bind.mpr (Script.wp_get_bind.mpr ?_)
        have progress := Progress.published held known written moved
        refine Script.wp_lift_bind.mpr ⟨progress, fun _ _ => ?_⟩
        refine Script.wp_lift_bind.mpr ⟨progress, fun _ checked => ?_⟩
        rw [held.directory_eq, moved] at checked
        cases checked
      · rw [if_neg before]
        exact completeTransaction_keeps held known written moved
  | finished settled _ _ => simp [settled] at single

theorem loads_of_loadJournal {name : String} {bytes : List UInt8} {journal : Dict String Json}
    (h : store.loadJournal name bytes = .ok journal) : store.loads bytes = some (.obj journal) := by
  unfold LocalRecordStore.loadJournal at h
  split at h
  · cases h
  · rename_i loaded read
    rw [refuseIf_bind_eq_ok, refuseIf_bind_eq_ok] at h
    obtain rfl := Except.ok.inj h.2.2
    exact read
  · cases h

/-- Going over the transactions settles the commit. -/
theorem recoverUnlocked_keeps (reads : store.ReadsBack) (prepares : Prepares store base prepared)
    (progress : Progress base prepared disk) :
    store.recoverUnlocked.wp (fun _ => Settled base prepared) (Progress base prepared) disk := by
  have nothing : ∀ {disk : Disk} {completed abandoned : Nat}, Settled base prepared disk →
      (store.recoverEach completed abandoned []).wp (fun _ => Settled base prepared)
        (Progress base prepared) disk :=
    fun settled => Script.wp_pure.mpr ⟨settled.progress, settled⟩
  have journaled : ∀ {directory : TransactionDirectory} {state : String},
      disk.transactions = [(prepared.plan.transactionId, directory)] →
      directory.journal = some (journalBytes (prepared.plan.journal state)) →
      (store.recoverEach 0 0 (Dict.keys disk.transactions)).wp (fun _ => Settled base prepared)
        (Progress base prepared) disk := by
    intro directory state single journal
    have here : disk.directory prepared.plan.transactionId = directory := by
      simp [Disk.directory, single, Dict.get?_cons]
    rw [single, Dict.keys_cons, Dict.keys_nil, LocalRecordStore.recoverEach]
    refine Script.wp_get_bind.mpr ?_
    simp only [here, journal]
    refine Script.wp_lift_bind.mpr ⟨progress, fun loaded hloaded => ?_⟩
    obtain rfl := Json.obj.inj (reads _ (journal_ordered _) (journal_flat _) _
      (loads_of_loadJournal hloaded))
    refine Script.wp_bind.mpr ((recoverTransaction_keeps prepares progress single journal).mono ?_
      fun _ h => h)
    exact fun _ _ settled => nothing settled
  unfold LocalRecordStore.recoverUnlocked
  refine Script.wp_get_bind.mpr ?_
  cases progress with
  | untouched settled unchanged =>
      rw [settled]
      exact nothing ⟨settled, Or.inl unchanged⟩
  | staging held unwritten =>
      rw [held.single, Dict.keys_cons, Dict.keys_nil, LocalRecordStore.recoverEach]
      refine Script.wp_get_bind.mpr ?_
      simp only [held.directory_eq, unwritten]
      unfold LocalRecordStore.cleanupTransaction
      refine Script.wp_modify_bind.mpr ⟨.staging held unwritten, nothing ⟨held.erase, ?_⟩⟩
      exact Or.inl ⟨held.ledger, held.records⟩
  | staged held journal _ _ => exact journaled held.single journal
  | recorded held journal _ => exact journaled held.single journal
  | published held _ journal _ => exact journaled held.single journal
  | finished settled ledger records =>
      rw [settled]
      exact nothing ⟨settled, Or.inr ⟨ledger, records⟩⟩

end Recovery

/-- A flat object that the interpreter reads at all is read as it was written. -/
theorem FileReader.readsBack (reader : FileReader) (hashing : Hashing) :
    (reader.store hashing).ReadsBack := by
  intro fields ordered flat value read
  have wellFormed := wellFormed_flat ordered flat
  have legible : JsonText.Legible (JsonText.plain reader.float) 0 (.obj fields) := by
    refine JsonText.legible_flat (fun limit given => ?_) fun entry member => ?_
    · cases given
    · refine (flat entry member).imp_right ?_
      rintro ⟨number, same⟩
      exact ⟨number, same, fun limit given => by cases given⟩
  have plain := JsonText.loads_canonicalChars _ wellFormed legible
  have written : Text.decodeUtf8? (journalBytes fields) =
      some (String.ofList ((Json.obj fields).canonicalChars ++ ['\n'])) := by
    rw [journalBytes, JsonText.canonicalLine_eq, Text.decodeUtf8?_utf8]
    simp [Json.canonicalText]
  have read' : (JsonText.loads (reader.dialect true)
      ((Json.obj fields).canonicalChars ++ ['\n'])).toOption = some value := by
    simpa [FileReader.store, JsonText.loadBytes, written] using read
  rcases JsonText.loads_follows (reader.dialect true) _ _ plain with same | same | same
  · rw [same] at read'
    exact (Option.some.inj read').symm
  · rw [same] at read'
    cases read'
  · rw [same] at read'
    cases read'

/-! ## Any state directory -/

section Anything

variable {store : LocalRecordStore} {disk : Disk} {name : String} {names : List String}

/-- The directories are among these. -/
def Within (names : List String) (disk : Disk) : Prop :=
  ∀ name ∈ Dict.keys disk.transactions, name ∈ names

theorem Within.ignoresIndex : IgnoresIndex (Within names) := fun _ _ _ h => h

theorem Within.inDirectory (h : Within (name :: names) disk)
    (change : TransactionDirectory → TransactionDirectory) :
    Within (name :: names) (disk.inDirectory name change) := by
  intro key member
  rcases Dict.mem_keys_set.mp member with rfl | member
  · exact List.mem_cons_self
  · exact h key member

theorem Within.erase (h : Within (name :: names) disk) :
    Within names
      { disk with transactions := Dict.erase disk.transactions name } := by
  intro key member
  obtain ⟨entry, kept, rfl⟩ := List.mem_map.mp member
  obtain ⟨member, different⟩ := List.mem_filter.mp kept
  have found := h entry.1 (List.mem_map_of_mem member)
  exact (List.mem_cons.mp found).resolve_left (by simpa using different)

theorem Within.publishRecord (h : Within (name :: names) disk) (destination : RecordPath) :
    Within (name :: names) (disk.publishRecord name destination) :=
  h.inDirectory fun directory => { directory with recordStage := none }

theorem Within.publishLedger (h : Within (name :: names) disk) :
    Within (name :: names) (disk.publishLedger name) :=
  h.inDirectory fun directory => { directory with ledgerStage := none }

theorem publishPrepared_within (journal : Dict String Json) (destination : RecordPath)
    (h : Within (name :: names) disk) :
    (store.publishPrepared name journal destination).wp (fun _ => Within (name :: names))
      (fun _ => True) disk := by
  have ending : ∀ {disk : Disk}, Within (name :: names) disk →
      (do
        let disk ← Script.get
        Script.lift (store.checkPredecessor disk journal "RECOVERY_LEDGER_CONFLICT"
          "prepared transaction predecessor has changed")
        Script.modify (Disk.publishLedger name) : Script Disk ForgeError Unit).wp
        (fun _ => Within (name :: names)) (fun _ => True) disk := by
    intro disk h
    refine Script.wp_get_bind.mpr (Script.wp_lift_bind.mpr ⟨trivial, fun _ _ => ?_⟩)
    exact Script.wp_modify.mpr ⟨trivial, trivial, h.publishLedger⟩
  unfold LocalRecordStore.publishPrepared
  refine Script.wp_get_bind.mpr (Script.wp_lift_bind.mpr ⟨trivial, fun _ _ => ?_⟩)
  refine Script.wp_lift_bind.mpr ⟨trivial, fun _ _ => ?_⟩
  split_ifs
  · exact Script.wp_modify_bind.mpr ⟨trivial, ending (h.publishRecord destination)⟩
  · exact ending h

theorem completeTransaction_within (journal : Dict String Json)
    (context : PersistedRecordContext) (destination : RecordPath)
    (h : Within (name :: names) disk) :
    (store.completeTransaction name journal context destination).wp (fun _ => Within names)
      (fun _ => True) disk := by
  unfold LocalRecordStore.completeTransaction LocalRecordStore.writeJournal
    LocalRecordStore.cleanupTransaction
  refine Script.wp_get_bind.mpr (Script.wp_lift_bind.mpr ⟨trivial, fun _ _ => ?_⟩)
  refine Script.wp_bind.mpr (Script.wp_modify_bind.mpr ⟨trivial, Script.wp_modify.mpr
    ⟨trivial, trivial, ?_⟩⟩)
  refine Script.wp_bind.mpr ((rebuildIndex_keeps Within.ignoresIndex (fun _ _ => trivial)
    ((h.inDirectory _).inDirectory _)).mono ?_ fun _ h => h)
  intro _ disk h
  exact Script.wp_modify_bind.mpr ⟨trivial, Script.wp_pure.mpr ⟨trivial, h.erase⟩⟩

theorem recoverTransaction_within (journal : Dict String Json)
    (h : Within (name :: names) disk) :
    (store.recoverTransaction name journal).wp (fun _ => Within names) (fun _ => True) disk := by
  unfold LocalRecordStore.recoverTransaction
  refine Script.wp_lift_bind.mpr ⟨trivial, fun context _ => ?_⟩
  refine Script.wp_lift_bind.mpr ⟨trivial, fun destination _ => ?_⟩
  refine Script.wp_lift_bind.mpr ⟨trivial, fun _ _ => Script.wp_get_bind.mpr ?_⟩
  refine Script.wp_lift_bind.mpr ⟨trivial, fun _ _ => ?_⟩
  split_ifs
  · refine Script.wp_bind.mpr ((publishPrepared_within journal destination h).mono ?_
      fun _ h => h)
    exact fun _ _ h => completeTransaction_within journal context destination h
  · exact completeTransaction_within journal context destination h

theorem recoverEach_within (completed abandoned : Nat) (h : Within names disk) :
    (store.recoverEach completed abandoned names).wp (fun _ => Within []) (fun _ => True)
      disk := by
  induction names generalizing disk completed abandoned with
  | nil => exact Script.wp_pure.mpr ⟨trivial, h⟩
  | cons name names ih =>
      rw [LocalRecordStore.recoverEach]
      refine Script.wp_get_bind.mpr ?_
      cases (disk.directory name).journal with
      | none => exact Script.wp_modify_bind.mpr ⟨trivial, ih _ _ h.erase⟩
      | some bytes =>
          refine Script.wp_lift_bind.mpr ⟨trivial, fun journal _ => Script.wp_bind.mpr ?_⟩
          exact (recoverTransaction_within journal h).mono (fun _ _ h => ih _ _ h)
            fun _ h => h

/-- A completed recovery leaves no transaction directory. -/
theorem recoverUnlocked_settles :
    store.recoverUnlocked.wp (fun _ disk => disk.transactions = []) (fun _ => True) disk := by
  unfold LocalRecordStore.recoverUnlocked
  refine Script.wp_get_bind.mpr ((recoverEach_within 0 0 fun _ h => h).mono ?_ fun _ h => h)
  intro _ disk within
  cases listed : disk.transactions with
  | nil => rfl
  | cons entry entries =>
      have member := within entry.1 (by simp [listed])
      cases member

end Anything

/-! ## The checks of a recovery -/

section Checks

variable {store : LocalRecordStore} {disk : Disk} {entry : LedgerEntry}

theorem storedIdentity_eq_ok {record : ForgeRecord} {identityField message identity : String}
    (h : storedIdentity record identityField message = .ok identity) :
    record.get identityField = .str identity := by
  unfold storedIdentity at h
  split at h
  · rename_i found value
    rw [refuseIf_bind_eq_ok] at h
    obtain rfl := Except.ok.inj h.2
    exact value
  · cases h

theorem mapError_eq_ok {α : Type} {f : ForgeError → ForgeError} {x : Except ForgeError α} {a : α} :
    x.mapError f = .ok a ↔ x = .ok a := by
  cases x <;> simp [Except.mapError]

theorem backed_of_verified (h : store.verifyImmutableRecord disk entry = .ok ()) :
    store.Backed disk entry := by
  unfold LocalRecordStore.verifyImmutableRecord at h
  split at h
  · cases h
  · rename_i context known
    obtain ⟨identity, hidentity, h⟩ := bind_eq_ok.mp h
    obtain ⟨path, hpath, h⟩ := bind_eq_ok.mp h
    split at h
    · cases h
    · rename_i bytes present
      obtain ⟨record, hrecord, h⟩ := bind_eq_ok.mp h
      rw [refuseIf_bind_eq_ok, refuseIf_eq_ok, Bool.not_eq_false, not_and, not_not] at h
      exact ⟨context, identity, path, bytes, record, known, storedIdentity_eq_ok hidentity, hpath,
        present, mapError_eq_ok.mp hrecord, h.1, h.2⟩

theorem sound_ignoresIndex : IgnoresIndex store.Sound := fun _ _ _ h => h

/-- A recovery ends with a sound store, where its transactions have been gone over. -/
theorem recover_keeps {inv crash : Disk → Prop} (ignores : IgnoresIndex inv)
    (within : ∀ disk, inv disk → crash disk)
    (h : store.recoverUnlocked.wp (fun _ => inv) crash disk) :
    store.recover.wp (fun _ disk => inv disk ∧ store.Sound disk) crash disk := by
  unfold LocalRecordStore.recover
  refine Script.wp_bind.mpr (h.mono (fun counts disk h => ?_) fun _ h => h)
  refine Script.wp_get_bind.mpr (Script.wp_lift_bind.mpr ⟨within _ h, fun verified read => ?_⟩)
  refine Script.wp_lift_bind.mpr ⟨within _ h, fun entries normalized => ?_⟩
  refine Script.wp_lift_bind.mpr ⟨within _ h, fun _ checked => ?_⟩
  obtain ⟨_, each, _⟩ := bind_eq_ok.mp checked
  have sound : store.Sound disk := by
    refine ⟨verified.1, verified.2, entries, read, normalized, fun entry member => ?_⟩
    obtain ⟨_, _, accepted⟩ := exists_mem_of_mapM_eq_ok each member
    exact backed_of_verified accepted
  have both : IgnoresIndex fun disk => inv disk ∧ store.Sound disk :=
    fun disk temporaries index h =>
      ⟨ignores disk temporaries index h.1, sound_ignoresIndex disk temporaries index h.2⟩
  split_ifs
  · refine Script.wp_bind.mpr ((ensureIndex_keeps both (fun disk h => within disk h.1) _
      ⟨h, sound⟩).mono ?_ fun _ h => h)
    exact fun _ _ h => Script.wp_pure.mpr ⟨within _ h.1, h⟩
  · exact Script.wp_pure.mpr ⟨within _ h, h, sound⟩

end Checks

/-! ## Interrupted commits -/

section Interrupted

variable {store : LocalRecordStore} {draft : LocalRecordStore.Draft} {base : Disk}
  {prepared : Publication} {identity : String} {destination : RecordPath}
  {recordBytes : List UInt8} {raw : List RawEntry}

theorem located_of_checkDraft {identityField : String}
    (h : LocalRecordStore.checkDraft draft =
      .ok (identityField, identity, destination, recordBytes)) :
    immutableRecordPath draft.recordGroup identity = .ok destination := by
  simp only [LocalRecordStore.checkDraft, bind_eq_ok, refuseIf_eq_ok, Except.ok.injEq,
    Prod.mk.injEq] at h
  obtain ⟨context, _, _, _, _, _, _, _, _, located, _, _, _, _, _, rfl, rfl, _⟩ := h
  exact located

theorem prepares_of_prepare
    (located : immutableRecordPath draft.recordGroup identity = .ok destination)
    (free : base.records destination = none)
    (h : store.prepare draft identity destination recordBytes base raw = .ok prepared) :
    Prepares store base prepared ∧ prepared.plan.destination = destination ∧
      prepared.recordBytes = recordBytes := by
  obtain ⟨built, _, h⟩ := bind_eq_ok.mp h
  rw [refuseIf_bind_eq_ok] at h
  obtain rfl := Except.ok.inj h.2
  exact ⟨⟨rfl, located, free⟩, rfl, rfl⟩

/-- The members of a built entry. -/
theorem fields_of_buildEntryUnlocked {kind timestamp : String}
    {payload : ForgeRecord} {rawEntry : RawEntry} {entry : LedgerEntry}
    (h : store.buildEntryUnlocked kind payload raw timestamp = .ok (rawEntry, entry)) :
    rawEntry.fields = ("entry_hash", .str (entryHash store.hashing.hexdigest
      (.obj (LocalRecordStore.entryBody kind payload raw timestamp)))) ::
        LocalRecordStore.entryBody kind payload raw timestamp := by
  unfold LocalRecordStore.buildEntryUnlocked at h
  simp only [bind_eq_ok, refuseIf_eq_ok] at h
  obtain ⟨_, _, _, _, _, _, h⟩ := h
  split_ifs at h with wellFormed
  simp only [bind_eq_ok, Except.ok.injEq, Prod.mk.injEq] at h
  obtain ⟨_, _, rfl, _⟩ := h
  rfl

theorem recoverUnlocked_of_settled {disk : Disk} (h : disk.transactions = []) :
    store.recoverUnlocked.run disk = (.ok (0, 0), disk) ∧
      store.recoverUnlocked.stops disk = [disk] := by
  have program : ∀ {α : Type} (observe : Script Disk ForgeError (Nat × Nat) → Disk → α),
      observe (store.recoverEach 0 0 (Dict.keys disk.transactions)) disk =
        observe (pure (0, 0)) disk := by
    intro α observe
    rw [h, Dict.keys_nil, LocalRecordStore.recoverEach]
  exact ⟨program Script.run, program Script.stops⟩

/-- Where a commit stops: in the recovery it begins with, right after it, or while it
publishes. -/
theorem commit_stops {start stopped : Disk} (h : stopped ∈ (store.commit draft).stops start) :
    stopped ∈ store.recoverUnlocked.stops start ∨
      ∃ counts base, store.recoverUnlocked.run start = (.ok counts, base) ∧
        (stopped = base ∨ ∃ identityField identity destination recordBytes raw head prepared,
          LocalRecordStore.checkDraft draft =
              .ok (identityField, identity, destination, recordBytes) ∧
            store.verifiedLedger base = .ok (raw, head) ∧
            store.prepare draft identity destination recordBytes base raw = .ok prepared ∧
            base.records destination = none ∧
            stopped ∈ (store.publish prepared base.ledgerBytes).stops base) := by
  have start_mem := Script.start_mem_stops store.recoverUnlocked start
  rcases Script.mem_stops_lift_bind h with rfl | ⟨⟨identityField, identity, destination,
    recordBytes⟩, checked, h⟩
  · exact Or.inl start_mem
  rcases Script.mem_stops_bind.mp h with h | ⟨counts, base, recovered, h⟩
  · exact Or.inl h
  refine Or.inr ⟨counts, base, recovered, ?_⟩
  rcases Script.mem_stops_lift_bind (Script.mem_stops_get_bind.mp h) with rfl | ⟨⟨raw, head⟩, verified, h⟩
  · exact Or.inl rfl
  rcases Script.mem_stops_lift_bind h with rfl | ⟨existing, _, h⟩
  · exact Or.inl rfl
  split_ifs at h with known
  · exact Or.inl (List.mem_singleton.mp h)
  · rcases Script.mem_stops_lift_bind h with rfl | ⟨prepared, hprepared, h⟩
    · exact Or.inl rfl
    · rw [not_or, Option.not_isSome_iff_eq_none] at known
      exact Or.inr ⟨identityField, identity, destination, recordBytes, raw, head, prepared,
        checked, verified, hprepared, known.1, h⟩

/-- A commit onto a free destination stops wherever its publication does. -/
theorem publish_stops {start stopped : Disk} {counts : Nat × Nat} {identityField head : String}
    (checked : LocalRecordStore.checkDraft draft =
      .ok (identityField, identity, destination, recordBytes))
    (recovered : store.recoverUnlocked.run start = (.ok counts, base))
    (verified : store.verifiedLedger base = .ok (raw, head))
    (existing : store.existingEntries draft.ledgerKind identityField identity raw = .ok [])
    (free : base.records destination = none)
    (hprepared : store.prepare draft identity destination recordBytes base raw = .ok prepared)
    (h : stopped ∈ (store.publish prepared base.ledgerBytes).stops base) :
    stopped ∈ (store.commit draft).stops start := by
  unfold LocalRecordStore.commit
  refine Script.mem_stops_bind.mpr (Or.inr ⟨_, _, by rw [Script.run_lift, checked], ?_⟩)
  refine Script.mem_stops_bind.mpr (Or.inr ⟨_, _, recovered, Script.mem_stops_get_bind.mpr ?_⟩)
  refine Script.mem_stops_bind.mpr (Or.inr ⟨_, _, by rw [Script.run_lift, verified], ?_⟩)
  refine Script.mem_stops_bind.mpr (Or.inr ⟨_, _, by rw [Script.run_lift, existing], ?_⟩)
  rw [if_neg (by rw [free]; simp)]
  exact Script.mem_stops_bind.mpr (Or.inr ⟨_, _, by rw [Script.run_lift, hprepared], h⟩)

theorem commit_run {disk : Disk} {identityField : String}
    (checked : LocalRecordStore.checkDraft draft =
      .ok (identityField, identity, destination, recordBytes)) {counts : Nat × Nat}
    (recovered : store.recoverUnlocked.run disk = (.ok counts, base)) {head : String}
    (verified : store.verifiedLedger base = .ok (raw, head)) {existing : List LedgerEntry}
    (found : store.existingEntries draft.ledgerKind identityField identity raw = .ok existing) :
    (store.commit draft).run disk =
      (if (base.records destination).isSome ∨ existing ≠ [] then
        Script.lift (LocalRecordStore.resolveDuplicate (base.records destination) draft.record
          recordBytes existing)
      else do
        let prepared ← Script.lift (store.prepare draft identity destination recordBytes base raw)
        store.publish prepared base.ledgerBytes : Script Disk ForgeError LedgerEntry).run base := by
  unfold LocalRecordStore.commit
  rw [Script.run_bind_of_ok (by rw [Script.run_lift, checked])]
  rw [Script.run_bind_of_ok recovered]
  rw [Script.run_bind_of_ok (show Script.get.run base = (.ok base, base) from rfl)]
  rw [Script.run_bind_of_ok (by rw [Script.run_lift, verified])]
  rw [Script.run_bind_of_ok (by rw [Script.run_lift, found])]

theorem settled_ignoresIndex (base : Disk) :
    IgnoresIndex fun disk => disk.transactions = [] ∧ Unchanged base disk :=
  fun _ _ _ h => h

/-- Without transactions a recovery changes neither the ledger nor the records. -/
theorem recover_settled {disk : Disk} (settled : disk.transactions = [])
    (unchanged : Unchanged base disk) :
    store.recover.wp
      (fun _ disk => (disk.transactions = [] ∧ Unchanged base disk) ∧ store.Sound disk)
      (fun disk => disk.transactions = [] ∧ Unchanged base disk) disk := by
  refine recover_keeps (settled_ignoresIndex base) (fun _ h => h) ⟨fun stopped h => ?_,
    fun counts ended h => ?_⟩
  · rw [(recoverUnlocked_of_settled settled).2, List.mem_singleton] at h
    exact h ▸ ⟨settled, unchanged⟩
  · rw [(recoverUnlocked_of_settled settled).1] at h
    exact (Prod.mk.inj h).2 ▸ ⟨settled, unchanged⟩

theorem restarts_settled {start stopped : Disk} (settled : start.transactions = [])
    (unchanged : Unchanged base start) (restarts : store.recover.Restarts start stopped) :
    stopped.transactions = [] ∧ Unchanged base stopped := by
  have keeps : ∀ disk, (disk.transactions = [] ∧ Unchanged base disk) →
      ∀ next ∈ store.recover.stops disk, next.transactions = [] ∧ Unchanged base next :=
    fun _ h => (recover_settled h.1 h.2).1
  exact restarts.invariant keeps ⟨settled, unchanged⟩

/-- What is left of a stopped publication is settled by a recovery. -/
theorem publish_recovers (reads : store.ReadsBack) (prepares : Prepares store base prepared)
    (settled : base.transactions = []) {stopped interrupted final : Disk} {counts : Nat × Nat}
    (stops : stopped ∈ (store.publish prepared base.ledgerBytes).stops base)
    (restarts : store.recover.Restarts stopped interrupted)
    (completes : store.recover.run interrupted = (.ok counts, final)) :
    Settled base prepared final := by
  have keeps : ∀ disk, Progress base prepared disk →
      store.recover.wp (fun _ disk => Settled base prepared disk ∧ store.Sound disk)
        (Progress base prepared) disk :=
    fun disk progress => recover_keeps Settled.ignoresIndex (fun _ h => h.progress)
      (recoverUnlocked_keeps reads prepares progress)
  have progress := restarts.invariant (fun disk progress => (keeps disk progress).1)
    ((publish_keeps settled).1 stopped stops)
  exact ((keeps interrupted progress).2 counts final completes).1

/-- A commit that stopped anywhere is undone or done by the recovery that completes after
it, however often recoveries have stopped before. -/
theorem recover_undoes_or_completes (reads : store.ReadsBack)
    {start stopped interrupted final : Disk} {counts : Nat × Nat}
    (stops : stopped ∈ (store.commit draft).stops start)
    (restarts : store.recover.Restarts stopped interrupted)
    (completes : store.recover.run interrupted = (.ok counts, final)) :
    final.transactions = [] ∧ store.Sound final ∧
      ∃ base, store.Recovers start base ∧ (start.transactions = [] → Unchanged start base) ∧
        (Unchanged base final ∨ store.Added draft base final) := by
  have settles : store.recover.wp (fun _ disk => disk.transactions = [] ∧ store.Sound disk)
      (fun _ => True) interrupted :=
    recover_keeps (fun _ _ _ h => h) (fun _ _ => trivial) recoverUnlocked_settles
  have checked := settles.2 counts final completes
  refine ⟨checked.1, checked.2, ?_⟩
  rcases commit_stops stops with stops | ⟨counts', base, recovered, outcome⟩
  · -- the commit had not begun its own work
    obtain ⟨_, base, recovered, _⟩ := Script.run_bind_eq_ok.mp completes
    have first : stopped ∈ store.recover.stops start := Script.mem_stops_bind.mpr (Or.inl stops)
    have all : store.recover.Restarts start interrupted := restarts.head first
    refine ⟨base, ⟨interrupted, _, all, recovered⟩, fun settled => ?_, Or.inl ?_⟩
    · obtain ⟨settled, unchanged⟩ := restarts_settled settled ⟨rfl, rfl⟩ all
      rw [(recoverUnlocked_of_settled settled).1] at recovered
      exact (Prod.mk.inj recovered).2 ▸ unchanged
    · have stays : store.recoverUnlocked.wp (fun _ => Unchanged base) (fun _ => True)
          interrupted := by
        refine ⟨fun _ _ => trivial, fun _ _ ended => ?_⟩
        rw [recovered] at ended
        exact (Prod.mk.inj ended).2 ▸ ⟨rfl, rfl⟩
      have keeps : store.recover.wp (fun _ disk => Unchanged base disk ∧ store.Sound disk)
          (fun _ => True) interrupted :=
        recover_keeps (fun _ _ _ h => h) (fun _ _ => trivial) stays
      exact (keeps.2 counts final completes).1
  · have settled := recoverUnlocked_settles.2 counts' base recovered
    refine ⟨base, ⟨start, counts', .refl, recovered⟩, fun clean => ?_, ?_⟩
    · rw [(recoverUnlocked_of_settled clean).1] at recovered
      exact (Prod.mk.inj recovered).2 ▸ ⟨rfl, rfl⟩
    · rcases outcome with rfl | ⟨identityField, identity, destination, recordBytes, raw, head,
        prepared, hchecked, verified, hprepared, free, stops⟩
      · obtain ⟨settled, unchanged⟩ := restarts_settled settled ⟨rfl, rfl⟩ restarts
        exact Or.inl ((recover_settled settled unchanged).2 counts final completes).1.2
      · have located := located_of_checkDraft hchecked
        obtain ⟨prepares, rfl, rfl⟩ := prepares_of_prepare located free hprepared
        rcases (publish_recovers reads prepares settled stops restarts completes).2 with
          unchanged | ⟨ledger, records⟩
        · exact Or.inl unchanged
        · exact Or.inr ⟨identityField, identity, _, _, raw, head, prepared, hchecked, verified,
            hprepared, free, records, ledger⟩

end Interrupted

/-! ## A commit that stops after its first step -/

/-- A digest that tells nothing from something. -/
def sampleHashing : Hashing where
  hexdigest bytes := String.ofList (List.replicate 64 (if bytes.isEmpty then '0' else '1'))
  jcs value := .ok value.canonicalBytes

def sampleRecord : ForgeRecord :=
  model .candidate
    [("candidate_id", .str "c/1"), ("changed_files", .arr []),
     ("current_file_identities", .obj []), ("declared_hypothesis", .str "faster"),
     ("generator_configuration_identity", .str "g:1"), ("generator_identity", .str "g"),
     ("objective_identity", .str "o:1"), ("parent_candidate", .null),
     ("registered_at", .str "2024"), ("source_epoch", .str "e:1"), ("supersedes", .null),
     ("useful_benefit_objective", .str "speed")]
    currentSchemaVersion

def sampleDraft : LocalRecordStore.Draft where
  recordGroup := "candidates"
  ledgerKind := "candidate"
  record := sampleRecord
  timestamp := "2024"
  transactionId := "t1"

def sampleDestination : RecordPath := ⟨"candidates", "c_1.json"⟩

def sampleBytes : List UInt8 := (Json.obj sampleRecord.toJson).canonicalBytes ++ [10]

theorem sample_checked : LocalRecordStore.checkDraft sampleDraft =
    .ok ("candidate_id", "c/1", sampleDestination, sampleBytes) := by
  have context : persistedRecordContext sampleDraft.recordGroup sampleDraft.ledgerKind =
      .ok ⟨"candidates", "candidate", .candidate, "candidate_id"⟩ := by decide +kernel
  have named : storedIdentity sampleRecord "candidate_id"
      "record requires string identity field candidate_id" = .ok "c/1" := by decide +kernel
  have located : immutableRecordPath "candidates" "c/1" = .ok sampleDestination := by
    decide +kernel
  have wellFormed : (Json.obj sampleRecord.toJson).WellFormed := by decide +kernel
  have line : canonicalLine sampleRecord.toJson = .ok sampleBytes := by
    rw [canonicalLine, refuseIf, if_neg (not_not.mpr wellFormed)]
    rfl
  have chars : (Json.obj sampleRecord.toJson).canonicalChars.length ≤ 10000 := by decide +kernel
  have short : sampleBytes.length ≤ immutableRecordByteCap := by
    have bytes := length_canonicalBytes_le (.obj sampleRecord.toJson)
    rw [sampleBytes, List.length_append, immutableRecordByteCap, List.length_singleton]
    omega
  simp only [LocalRecordStore.checkDraft, bind_eq_ok, refuseIf_eq_ok]
  exact ⟨_, context, (), not_ne_iff.mpr rfl, (), not_ne_iff.mpr rfl, _, named, _, located, _,
    line, (), Nat.not_lt.mpr short, rfl⟩

theorem length_stringChars_replicate {digit : Char} (plain : Json.escapeChar digit = [digit])
    (n : Nat) : (Json.stringChars (String.ofList (List.replicate n digit))).length = n + 2 := by
  have kept : (List.replicate n digit).flatMap Json.escapeChar = List.replicate n digit := by
    induction n with
    | zero => rfl
    | succ n ih => rw [List.replicate_succ, List.flatMap_cons, ih, plain, List.singleton_append]
  rw [Json.stringChars, String.toList_ofList, Json.escapeChars, kept, List.length_cons,
    List.length_append, List.length_replicate, List.length_singleton]

theorem sample_prepares : ∃ prepared, (sampleReader.store sampleHashing).prepare sampleDraft
    "c/1" sampleDestination sampleBytes .initial [] = .ok prepared := by
  have some : ((sampleReader.store sampleHashing).buildEntryUnlocked "candidate" sampleRecord []
      "2024").toOption.isSome = true := by decide +kernel
  cases built : (sampleReader.store sampleHashing).buildEntryUnlocked "candidate" sampleRecord []
      "2024" with
  | error e =>
      rw [built] at some
      cases some
  | ok built' =>
      have rest : (Json.fieldsChars (LocalRecordStore.entryBody "candidate" sampleRecord []
          "2024")).length ≤ 10000 := by decide +kernel
      have key : (Json.stringChars "entry_hash").length ≤ 100 := by decide +kernel
      have chars : (Json.obj built'.1.fields).canonicalChars.length ≤ 20000 := by
        rw [fields_of_buildEntryUnlocked built, Json.canonicalChars, Json.canonicalChars,
          Ledger.entryHash]
        simp only [List.length_cons, List.length_append]
        have digest : (Json.stringChars ((sampleReader.store sampleHashing).hashing.hexdigest
            (Json.obj (LocalRecordStore.entryBody "candidate" sampleRecord []
              "2024")).canonicalBytes)).length = 64 + 2 :=
          length_stringChars_replicate (by split <;> rfl) 64
        omega
      have bytes := length_canonicalBytes_le (.obj built'.1.fields)
      simp only [LocalRecordStore.prepare, bind_eq_ok, refuseIf_eq_ok]
      refine ⟨_, built', built, (), ?_, rfl⟩
      rw [List.length_append, ledgerLineByteCap, List.length_singleton]
      omega

theorem recover_undoes_or_completes_sample :
    Disk.initial.transactions = [] ∧ (sampleReader.store sampleHashing).Sound .initial ∧
      ∃ base, (sampleReader.store sampleHashing).Recovers .initial base ∧
        (Disk.initial.transactions = [] → Unchanged .initial base) ∧
        (Unchanged base .initial ∨
          (sampleReader.store sampleHashing).Added sampleDraft base .initial) := by
  obtain ⟨prepared, hprepared⟩ := sample_prepares
  have name : prepared.plan.transactionId = "t1" := by
    obtain ⟨built, _, h⟩ := bind_eq_ok.mp hprepared
    rw [refuseIf_bind_eq_ok] at h
    rw [← Except.ok.inj h.2]
    rfl
  have stops : Disk.initial.inDirectory prepared.plan.transactionId (fun _ => {}) ∈
      ((sampleReader.store sampleHashing).commit sampleDraft).stops .initial :=
    publish_stops sample_checked (recoverUnlocked_of_settled rfl).1 rfl rfl rfl hprepared
      (List.mem_cons_of_mem _ List.mem_cons_self)
  have completes : (sampleReader.store sampleHashing).recover.run
      (Disk.initial.inDirectory prepared.plan.transactionId (fun _ => {})) =
      (.ok (0, 1), .initial) := by
    rw [name]
    rfl
  exact recover_undoes_or_completes (sampleReader.readsBack sampleHashing) stops .refl completes

end MncsForge.Store
