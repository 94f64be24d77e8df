import Mathlib
import MncsForge.Foundation.Positions
import MncsForge.Ledger.Chain
import MncsForge.Records.Migration

/-!
# Reading the ledger through the derived index

`records` and `records_for` read one verified snapshot.  A derived file maps each
kind to the positions of its entries; when the file binds the snapshot and its
positions are in order, the entries come from the map, else from a full scan.
-/

namespace MncsForge.Ledger

open MncsForge.Foundation MncsForge.Records

/-! ## Entries -/

structure LedgerEntry where
  sequence : Int
  timestamp : String
  kind : String
  previousHash : String
  payload : ForgeRecord
  entryHash : String
  schemaVersion : String
  sourceSchemaVersion : String
  deriving DecidableEq

/-- `LEDGER_REQUIRED`, sorted. -/
def ledgerRequired : List String :=
  ["entry_hash", "kind", "payload", "previous_hash", "sequence", "timestamp"]

/-- The version an entry declares. -/
def ledgerEntrySource (raw : Dict String Json) : Except ForgeError String := do
  let declaredType := field raw "record_type"
  let declaredVersion := field raw "schema_version"
  if declaredType = .null ∧ declaredVersion = .null then .ok legacySchemaVersion
  else do
    refuseIf (declaredType ≠ .str ledgerEntryType) "RECORD_TYPE_MISMATCH"
      "trusted ledger context requires record_type ledger_entry"
    if declaredVersion = .str legacySchemaVersion then .ok legacySchemaVersion
    else do
      refuseIf (declaredVersion ≠ .str currentSchemaVersion) "UNSUPPORTED_RECORD_VERSION"
        s!"unsupported ledger_entry schema version: {declaredVersion.display}"
      .ok currentSchemaVersion

def malformedEntry : ForgeError :=
  ⟨"RECORD_MALFORMED", "ledger_entry fields have invalid types"⟩

def payloadType (kind : String) : Except ForgeError RecordType :=
  match ledgerKindTypes.lookup kind with
  | some recordType => .ok recordType
  | none => .error ⟨"RECORD_CONTEXT", s!"unsupported ledger kind: {kind}"⟩

section Reading

-- SHA-256 and the receipt encoder, the line decoder of the ledger file and
-- `json.loads` of the index file, which answers `none` for what it raises.
variable (hashing : Hashing) (decode : List UInt8 → Except ForgeError (List RawEntry))
  (loads : List UInt8 → Option Json)

def ledgerEntryOf (data : Dict String Json) (source : String) :
    Except ForgeError LedgerEntry :=
  match field data "sequence", field data "timestamp", field data "kind",
    field data "previous_hash", field data "entry_hash", field data "payload" with
  | .int sequence, .str timestamp, .str kind, .str previousHash, .str entryHash,
    .obj payloadRaw => do
      let recordType ← payloadType kind
      let payload ← parseRecord hashing payloadRaw recordType
      .ok
        { sequence := sequence
          timestamp := timestamp
          kind := kind
          previousHash := previousHash
          payload := payload
          entryHash := entryHash
          schemaVersion := source
          sourceSchemaVersion := source }
  | _, _, _, _, _, _ => .error malformedEntry

def normalizeLedgerEntry (raw : RawEntry) : Except ForgeError LedgerEntry := do
  let data ← jsonObject (.obj raw.fields) "ledger_entry"
  let source ← ledgerEntrySource data
  let data := recordData data
  let missing := ledgerRequired.filter (· ∉ Dict.keys data)
  let unknown := (Dict.keys data).filter (· ∉ ledgerRequired)
  refuseIf (missing ≠ []) "RECORD_MISSING_FIELD" s!"ledger_entry is missing: {joined missing}"
  refuseIf (unknown ≠ []) "RECORD_UNKNOWN_FIELD"
    s!"ledger_entry has unexpected fields: {joined unknown}"
  ledgerEntryOf hashing data source

/-! ## The index -/

/-- The head the index has to name. -/
def expectedHead (rawRecords : List RawEntry) : Json :=
  match rawRecords.getLast? with
  | some entry => entry.get "entry_hash"
  | none => .str genesis

/-- The header names this snapshot. -/
def bindsHistory (index : Dict String Json) (cachedDigest : Option String)
    (rawRecords : List RawEntry) : Bool :=
  (field index "schema_version").isIndex 1 &&
    (field index "ledger_sha256").sameValue (Json.ofText cachedDigest) &&
    (field index "ledger_head").sameValue (expectedHead rawRecords) &&
    (field index "entry_count").isIndex rawRecords.length

/-- `sequences_by_kind.get(kind, [])`. -/
def listedSequences (sequencesByKind : Dict String Json) (kind : String) : Json :=
  (Dict.get? sequencesByKind kind).getD (.arr [])

/-- The entry is of this kind. -/
def ofKind (kind : String) (entry : RawEntry) : Bool :=
  entry.get "kind" = .str kind

/-- The entry is of one of these kinds. -/
def ofKinds (kinds : List String) (entry : RawEntry) : Bool :=
  kinds.any fun kind => ofKind kind entry

/-- The tests on one listed value. -/
def checkedSequence (rawRecords : List RawEntry) (kind : String) : Json → Option Nat
  | .int sequence =>
      if sequence < 1 ∨ rawRecords.length < sequence then none
      else
        match rawRecords[sequence.toNat - 1]? with
        | some entry => if ofKind kind entry then some sequence.toNat else none
        | none => none
  | _ => none

def kindSequences (rawRecords : List RawEntry) (sequencesByKind : Dict String Json)
    (kind : String) : Option (List Nat) :=
  match listedSequences sequencesByKind kind with
  | .arr sequences => sequences.mapM (checkedSequence rawRecords kind)
  | _ => none

/-- What the `try` block collects, before it is sorted; `none` where it raises. -/
def selectedSequences (cachedDigest : Option String) (rawRecords : List RawEntry)
    (kinds : List String) (value : Json) : Option (List Nat) :=
  match value with
  | .obj index =>
      match field index "sequences_by_kind" with
      | .obj sequencesByKind =>
          if bindsHistory index cachedDigest rawRecords then
            (kinds.mapM (kindSequences rawRecords sequencesByKind)).map List.flatten
          else none
      | _ => none
  | _ => none

/-- `_select_with_index_unlocked`; `index` holds the bytes of the file that can
be read. -/
def selectWithIndex (cachedDigest : Option String) (rawRecords : List RawEntry)
    (kinds : List String) (index : Option (List UInt8)) : List RawEntry :=
  match (index.bind loads).bind (selectedSequences cachedDigest rawRecords kinds) with
  | some sequences => Positions.pick rawRecords (Dict.sortedSet sequences)
  | none => rawRecords.filter (ofKinds kinds)

/-! ## The reads -/

/-- `_require_recovered_unlocked` on what the directory scan finds. -/
def requireRecovered (unresolved : Except String Bool) : Except ForgeError Unit :=
  match unresolved with
  | .error error => .error ⟨"RECOVERY_REQUIRED", s!"cannot inspect transaction state: {error}"⟩
  | .ok found =>
      refuseIf (found = true) "RECOVERY_REQUIRED"
        "unfinished storage transactions must be recovered before ledger reads"

/-- The state directory as one read finds it. -/
structure StateDirectory where
  unresolved : Except String Bool
  ledger : Option (List UInt8)
  index : Option (List UInt8)

/-- The part that both reads share. -/
def verifiedSnapshot (directory : StateDirectory) (cache : LedgerCache) :
    Except ForgeError (List RawEntry × LedgerCache) := do
  requireRecovered directory.unresolved
  let (rawRecords, cache) ←
    cache.readUnlockedRaw hashing.hexdigest decode directory.ledger
  let (_, cache) ← cache.verifyRawRecords hashing.hexdigest rawRecords
  .ok (rawRecords, cache)

/-- `Ledger.records_for`. -/
def recordsFor (directory : StateDirectory) (cache : LedgerCache) (kinds : List String) :
    Except ForgeError (List LedgerEntry) := do
  let (rawRecords, cache) ← verifiedSnapshot hashing decode directory cache
  (selectWithIndex loads cache.cachedDigest rawRecords kinds directory.index).mapM
    (normalizeLedgerEntry hashing)

/-- `Ledger.records`. -/
def records (directory : StateDirectory) (cache : LedgerCache) (kind : Option String) :
    Except ForgeError (List LedgerEntry) := do
  let (rawRecords, cache) ← verifiedSnapshot hashing decode directory cache
  let selected :=
    match kind with
    | none => rawRecords
    | some kind => selectWithIndex loads cache.cachedDigest rawRecords [kind] directory.index
  selected.mapM (normalizeLedgerEntry hashing)

/-- The full scan that both reads are compared with. -/
def scanFor (rawRecords : List RawEntry) (kinds : List String) :
    Except ForgeError (List LedgerEntry) :=
  (rawRecords.filter (ofKinds kinds)).mapM (normalizeLedgerEntry hashing)

end Reading

/-! ## What the index says -/

/-- The map lists this position under this kind. -/
def Lists (sequencesByKind : Dict String Json) (kind : String) (n : Nat) : Prop :=
  ∃ sequences, listedSequences sequencesByKind kind = .arr sequences ∧ .int n ∈ sequences

/-- The file names the snapshot, and what it lists under the requested kinds are
positions of entries of these kinds. -/
structure Accepted (cachedDigest : Option String) (rawRecords : List RawEntry)
    (kinds : List String) (value : Json) (sequencesByKind : Dict String Json) : Prop where
  header : ∃ index, value = .obj index ∧
    field index "sequences_by_kind" = .obj sequencesByKind ∧
      bindsHistory index cachedDigest rawRecords = true
  sound : ∀ kind ∈ kinds, ∃ sequences, listedSequences sequencesByKind kind = .arr sequences ∧
    ∀ sequence ∈ sequences, ∃ n : Nat, sequence = .int n ∧
      n ∈ Positions.matching (ofKind kind) 1 rawRecords

/-- No position of an entry of a requested kind is left out. -/
def ListsAll (rawRecords : List RawEntry) (kinds : List String)
    (sequencesByKind : Dict String Json) : Prop :=
  ∀ kind ∈ kinds, ∀ n ∈ Positions.matching (ofKind kind) 1 rawRecords,
    Lists sequencesByKind kind n

/-- A listed entry of a requested kind cannot be normalized. -/
def ListsMalformed (hashing : Hashing) (rawRecords : List RawEntry) (kinds : List String)
    (sequencesByKind : Dict String Json) : Prop :=
  ∃ kind ∈ kinds, ∃ n, Lists sequencesByKind kind n ∧ ∃ entry,
    rawRecords[n - 1]? = some entry ∧ ∀ normalized, normalizeLedgerEntry hashing entry ≠ .ok normalized

private theorem mapM_eq_some {α β : Type} {f : α → Option β} {xs : List α} {ys : List β} :
    xs.mapM f = some ys ↔ List.Forall₂ (fun x y => f x = some y) xs ys := by
  induction xs generalizing ys with
  | nil => simp [eq_comm]
  | cons x xs ih =>
      simp only [List.mapM_cons, Option.pure_def, Option.bind_eq_bind, Option.bind_eq_some_iff,
        Option.some.injEq, List.forall₂_cons_left_iff]
      constructor
      · rintro ⟨y, hy, rest, hrest, rfl⟩
        exact ⟨y, rest, hy, ih.mp hrest, rfl⟩
      · rintro ⟨y, rest, hy, hrest, rfl⟩
        exact ⟨y, hy, rest, ih.mpr hrest, rfl⟩

section Selection

variable {cachedDigest : Option String} {rawRecords : List RawEntry} {kinds : List String}

theorem checkedSequence_eq_some {kind : String} {value : Json} {n : Nat} :
    checkedSequence rawRecords kind value = some n ↔
      value = .int n ∧ n ∈ Positions.matching (ofKind kind) 1 rawRecords := by
  rw [Positions.mem_matching]
  cases value with
  | int sequence =>
      simp only [checkedSequence, Json.int.injEq]
      by_cases outside : sequence < 1 ∨ (rawRecords.length : Int) < sequence
      · rw [if_pos outside]
        refine iff_of_false (by simp) ?_
        rintro ⟨rfl, low, entry, found, _⟩
        obtain ⟨high, _⟩ := List.getElem?_eq_some_iff.mp found
        omega
      · rw [if_neg outside]
        obtain ⟨m, rfl⟩ : ∃ m : Nat, sequence = m := ⟨sequence.toNat, by omega⟩
        have inside : m - 1 < rawRecords.length := by omega
        simp only [Int.toNat_natCast, List.getElem?_eq_getElem inside]
        split_ifs with kept
        · simp only [Option.some.injEq, Nat.cast_inj]
          constructor
          · rintro rfl
            exact ⟨rfl, by omega, _, List.getElem?_eq_getElem inside, kept⟩
          · exact fun h => h.1
        · refine iff_of_false (by simp) ?_
          rintro ⟨same, _, entry, found, kept'⟩
          obtain rfl : m = n := by omega
          rw [List.getElem?_eq_getElem inside, Option.some.injEq] at found
          rw [found] at kept
          exact kept kept'
  | _ => simp [checkedSequence]

theorem kindSequences_eq_some {sequencesByKind : Dict String Json} {kind : String}
    {found : List Nat} :
    kindSequences rawRecords sequencesByKind kind = some found ↔
      listedSequences sequencesByKind kind = .arr (found.map fun n : Nat => .int n) ∧
        ∀ n ∈ found, n ∈ Positions.matching (ofKind kind) 1 rawRecords := by
  have listed : ∀ sequences, sequences.mapM (checkedSequence rawRecords kind) = some found ↔
      sequences = (found.map fun n : Nat => Json.int n) ∧
        ∀ n ∈ found, n ∈ Positions.matching (ofKind kind) 1 rawRecords := by
    intro sequences
    simp only [mapM_eq_some, checkedSequence_eq_some]
    induction sequences generalizing found with
    | nil => cases found <;> simp
    | cons value sequences ih =>
        cases found with
        | nil => simp
        | cons n found =>
            rw [List.forall₂_cons, ih, List.map_cons, List.cons.injEq, List.forall_mem_cons]
            tauto
  unfold kindSequences
  cases shape : listedSequences sequencesByKind kind with
  | arr sequences => simp only [listed, Json.arr.injEq]
  | _ => simp

/-- What the `try` block collects are the listed positions. -/
theorem selectedSequences_eq_some {value : Json} {found : List Nat}
    (h : selectedSequences cachedDigest rawRecords kinds value = some found) :
    ∃ sequencesByKind, Accepted cachedDigest rawRecords kinds value sequencesByKind ∧
      ∀ n, n ∈ found ↔ ∃ kind ∈ kinds, Lists sequencesByKind kind n := by
  unfold selectedSequences at h
  split at h
  · rename_i index
    split at h
    · rename_i sequencesByKind shape
      split_ifs at h with binds
      obtain ⟨lists, collected, rfl⟩ := Option.map_eq_some_iff.mp h
      have each := mapM_eq_some.mp collected
      refine ⟨sequencesByKind, ⟨⟨index, rfl, shape, binds⟩, ?_⟩, ?_⟩
      · clear collected h
        induction each with
        | nil => simp
        | cons first _ ih =>
            obtain ⟨listed, sound⟩ := kindSequences_eq_some.mp first
            refine List.forall_mem_cons.mpr ⟨⟨_, listed, fun sequence member => ?_⟩, ih⟩
            obtain ⟨n, hn, rfl⟩ := List.mem_map.mp member
            exact ⟨n, rfl, sound n hn⟩
      · clear collected h
        intro n
        induction each with
        | nil => simp
        | @cons kind first _ _ here _ ih =>
            have listed := (kindSequences_eq_some.mp here).1
            have member : n ∈ first ↔ Lists sequencesByKind kind n := by
              simp [Lists, listed]
            rw [List.flatten_cons, List.mem_append, ih, member]
            simp
    · cases h
  · cases h

theorem exists_selectedSequences {value : Json} {sequencesByKind : Dict String Json}
    (accepted : Accepted cachedDigest rawRecords kinds value sequencesByKind) :
    ∃ found, selectedSequences cachedDigest rawRecords kinds value = some found := by
  obtain ⟨⟨index, rfl, shape, binds⟩, sound⟩ := accepted
  have each : ∃ lists, kinds.mapM (kindSequences rawRecords sequencesByKind) = some lists := by
    simp only [mapM_eq_some]
    clear binds shape
    induction kinds with
    | nil => exact ⟨[], .nil⟩
    | cons kind kinds ih =>
        obtain ⟨⟨sequences, listed, first⟩, rest⟩ := List.forall_mem_cons.mp sound
        obtain ⟨lists, others⟩ := ih rest
        have numbers : ∃ found : List Nat, sequences = found.map (fun n : Nat => Json.int n) ∧
            ∀ n ∈ found, n ∈ Positions.matching (ofKind kind) 1 rawRecords := by
          clear listed
          induction sequences with
          | nil => exact ⟨[], rfl, by simp⟩
          | cons value sequences more =>
              obtain ⟨⟨n, rfl, here⟩, later⟩ := List.forall_mem_cons.mp first
              obtain ⟨found, rfl, kept⟩ := more later
              exact ⟨n :: found, rfl, List.forall_mem_cons.mpr ⟨here, kept⟩⟩
        obtain ⟨found, rfl, kept⟩ := numbers
        exact ⟨found :: lists, .cons (kindSequences_eq_some.mpr ⟨listed, kept⟩) others⟩
  obtain ⟨lists, collected⟩ := each
  refine ⟨lists.flatten, ?_⟩
  simp only [selectedSequences, shape, binds, if_true, collected, Option.map_some]

theorem Accepted.unique {value : Json} {first second : Dict String Json}
    (h : Accepted cachedDigest rawRecords kinds value first)
    (h' : Accepted cachedDigest rawRecords kinds value second) : first = second := by
  obtain ⟨index, rfl, shape, _⟩ := h.header
  obtain ⟨index', same, shape', _⟩ := h'.header
  obtain rfl := Json.obj.inj same
  rw [shape] at shape'
  exact Json.obj.inj shape'

theorem Accepted.matching {value : Json} {sequencesByKind : Dict String Json}
    (accepted : Accepted cachedDigest rawRecords kinds value sequencesByKind) {kind : String}
    (requested : kind ∈ kinds) {n : Nat} (listed : Lists sequencesByKind kind n) :
    n ∈ Positions.matching (ofKind kind) 1 rawRecords := by
  obtain ⟨sequences, shape, sound⟩ := accepted.sound kind requested
  obtain ⟨sequences', shape', member⟩ := listed
  rw [shape] at shape'
  obtain rfl := Json.arr.inj shape'
  obtain ⟨m, same, here⟩ := sound _ member
  have : n = m := by exact_mod_cast Json.int.inj same
  rwa [this]

end Selection

/-! ## The index against the full scan -/

section Agreement

variable {hashing : Hashing} {decode : List UInt8 → Except ForgeError (List RawEntry)}
  {loads : List UInt8 → Option Json} {cachedDigest : Option String}
  {rawRecords : List RawEntry} {kinds : List String} {index : Option (List UInt8)}

theorem mem_matching_ofKinds {n : Nat} :
    n ∈ Positions.matching (ofKinds kinds) 1 rawRecords ↔
      ∃ kind ∈ kinds, n ∈ Positions.matching (ofKind kind) 1 rawRecords := by
  simp only [Positions.mem_matching, ofKinds, List.any_eq_true]
  constructor
  · rintro ⟨low, entry, found, kind, requested, same⟩
    exact ⟨kind, requested, low, entry, found, same⟩
  · rintro ⟨kind, requested, low, entry, found, same⟩
    exact ⟨low, entry, found, kind, requested, same⟩

/-- The index file that is not accepted is not used. -/
theorem selectWithIndex_of_refused
    (refused : ∀ value sequencesByKind, index.bind loads = some value →
      ¬Accepted cachedDigest rawRecords kinds value sequencesByKind) :
    selectWithIndex loads cachedDigest rawRecords kinds index =
      rawRecords.filter (ofKinds kinds) := by
  unfold selectWithIndex
  cases selected : (index.bind loads).bind (selectedSequences cachedDigest rawRecords kinds) with
  | none => rfl
  | some found =>
      obtain ⟨value, loaded, collected⟩ := Option.bind_eq_some_iff.mp selected
      obtain ⟨sequencesByKind, accepted, _⟩ := selectedSequences_eq_some collected
      exact absurd accepted (refused value sequencesByKind loaded)

/-- An accepted file picks what it lists, in the order of the ledger. -/
theorem selectWithIndex_of_accepted {value : Json} {sequencesByKind : Dict String Json}
    (loaded : index.bind loads = some value)
    (accepted : Accepted cachedDigest rawRecords kinds value sequencesByKind) :
    ∃ positions, positions.Pairwise (· < ·) ∧
      Positions.Sound (ofKinds kinds) rawRecords positions ∧
      (∀ n, n ∈ positions ↔ ∃ kind ∈ kinds, Lists sequencesByKind kind n) ∧
      selectWithIndex loads cachedDigest rawRecords kinds index =
        Positions.pick rawRecords positions := by
  obtain ⟨found, collected⟩ := exists_selectedSequences accepted
  obtain ⟨sequencesByKind', accepted', members⟩ := selectedSequences_eq_some collected
  obtain rfl := accepted.unique accepted'
  refine ⟨Dict.sortedSet found, Dict.sortedSet_pairwise found, fun n hn => ?_, fun n => ?_, ?_⟩
  · obtain ⟨kind, requested, listed⟩ := (members n).mp (Dict.mem_sortedSet.mp hn)
    exact mem_matching_ofKinds.mpr ⟨kind, requested, accepted.matching requested listed⟩
  · rw [Dict.mem_sortedSet, members]
  · simp only [selectWithIndex, loaded, Option.bind_some, collected]

/-- What an index that is used has to list. -/
def IndexTells (hashing : Hashing) (loads : List UInt8 → Option Json)
    (cachedDigest : Option String) (rawRecords : List RawEntry) (kinds : List String)
    (index : Option (List UInt8)) : Prop :=
  ∀ value sequencesByKind, index.bind loads = some value →
    Accepted cachedDigest rawRecords kinds value sequencesByKind →
      ListsAll rawRecords kinds sequencesByKind ∨
        ListsMalformed hashing rawRecords kinds sequencesByKind

/-- The index answers as the scan does exactly when it tells enough. -/
theorem selectWithIndex_eq_scan_iff :
    (∀ entries, (selectWithIndex loads cachedDigest rawRecords kinds index).mapM
        (normalizeLedgerEntry hashing) = .ok entries ↔
      scanFor hashing rawRecords kinds = .ok entries) ↔
        IndexTells hashing loads cachedDigest rawRecords kinds index := by
  constructor
  · intro agree value sequencesByKind loaded accepted
    by_contra short
    obtain ⟨missing, readable⟩ := not_or.mp short
    obtain ⟨positions, sorted, sound, members, selection⟩ :=
      selectWithIndex_of_accepted loaded accepted
    rw [selection] at agree
    have normalizes : ∀ entry ∈ Positions.pick rawRecords positions, ∃ normalized,
        normalizeLedgerEntry hashing entry = .ok normalized := by
      intro entry picked
      obtain ⟨n, hn, found⟩ := Positions.mem_pick.mp picked
      obtain ⟨kind, requested, listed⟩ := (members n).mp hn
      by_contra malformed
      exact readable ⟨kind, requested, n, listed, entry, found, by simpa using malformed⟩
    obtain ⟨entries, answered⟩ := exists_mapM_eq_ok.mpr normalizes
    -- the scan returns as many entries as the selection only when nothing is missing
    have all := (Positions.length_filter_le_iff sorted sound).mp (by
      rw [mapM_length answered, mapM_length ((agree entries).mp answered)])
    refine missing fun kind requested n hn => ?_
    have inside := all n (mem_matching_ofKinds.mpr ⟨kind, requested, hn⟩)
    obtain ⟨other, asked, listed⟩ := (members n).mp inside
    -- one entry has one kind
    have same : other = kind := by
      obtain ⟨_, entry, found, first⟩ := Positions.mem_matching.mp hn
      obtain ⟨_, entry', found', second⟩ :=
        Positions.mem_matching.mp (accepted.matching asked listed)
      obtain rfl := Option.some.inj (found.symm.trans found')
      exact Json.str.inj ((of_decide_eq_true second).symm.trans (of_decide_eq_true first))
    rwa [← same]
  · intro tells entries
    by_cases used : ∃ value sequencesByKind, index.bind loads = some value ∧
        Accepted cachedDigest rawRecords kinds value sequencesByKind
    · obtain ⟨value, sequencesByKind, loaded, accepted⟩ := used
      obtain ⟨positions, sorted, sound, members, selection⟩ :=
        selectWithIndex_of_accepted loaded accepted
      rw [selection]
      rcases tells value sequencesByKind loaded accepted with complete | malformed
      · rw [Positions.pick_eq_filter sorted sound, scanFor]
        intro n hn
        obtain ⟨kind, requested, here⟩ := mem_matching_ofKinds.mp hn
        exact (members n).mpr ⟨kind, requested, complete kind requested n here⟩
      · -- both meet the entry that cannot be normalized
        obtain ⟨kind, requested, n, listed, entry, found, refused⟩ := malformed
        have picked : entry ∈ Positions.pick rawRecords positions :=
          Positions.mem_pick.mpr ⟨n, (members n).mpr ⟨kind, requested, listed⟩, found⟩
        have scanned := (Positions.pick_sublist sorted sound).subset picked
        have never : ∀ xs : List RawEntry, entry ∈ xs →
            xs.mapM (normalizeLedgerEntry hashing) ≠ .ok entries := by
          intro xs member answered
          obtain ⟨normalized, h⟩ := exists_mapM_eq_ok.mp ⟨entries, answered⟩ entry member
          exact refused normalized h
        exact iff_of_false (never _ picked) (never _ scanned)
    · rw [selectWithIndex_of_refused, scanFor]
      intro value sequencesByKind loaded accepted
      exact used ⟨value, sequencesByKind, loaded, accepted⟩

/-- Of a verified ledger both reads return what a full scan returns exactly when
the index, if it is accepted, lists each entry of the kinds. -/
theorem recordsFor_eq_scan_iff {directory : StateDirectory} {cache cache' : LedgerCache}
    (snapshot : verifiedSnapshot hashing decode directory cache = .ok (rawRecords, cache')) :
    (∀ kinds, (∀ entries, recordsFor hashing decode loads directory cache kinds = .ok entries ↔
        scanFor hashing rawRecords kinds = .ok entries) ↔
      IndexTells hashing loads cache'.cachedDigest rawRecords kinds directory.index) ∧
    (∀ kind, (∀ entries,
        records hashing decode loads directory cache (some kind) = .ok entries ↔
          scanFor hashing rawRecords [kind] = .ok entries) ↔
      IndexTells hashing loads cache'.cachedDigest rawRecords [kind] directory.index) ∧
    records hashing decode loads directory cache none =
      rawRecords.mapM (normalizeLedgerEntry hashing) := by
  refine ⟨fun kinds => ?_, fun kind => ?_, ?_⟩
  · rw [← selectWithIndex_eq_scan_iff]
    simp only [recordsFor, snapshot]
    rfl
  · rw [← selectWithIndex_eq_scan_iff]
    simp only [records, snapshot]
    rfl
  · simp only [records, snapshot]
    rfl

end Agreement

/-! ### A ledger of one entry -/

/-- A digest that tells the length only, so that the sample stays short. -/
private def lengthHashing : Hashing where
  hexdigest bytes := toString bytes.length
  jcs value := .ok value.canonicalBytes

private def actionBody : Dict String Json :=
  [("candidate_identity", .str "c"), ("mode", .str "development"),
   ("protocol_request_identity", .null), ("requested_at", .str "2024"),
   ("workflow", .str "check")]

private def actionEntryBody : Dict String Json :=
  [("kind", .str "workflow_action"),
   ("payload", .obj (Dict.set actionBody "action_id"
      (.str ("workflow-action:" ++ localJsonDigest lengthHashing (.obj actionBody))))),
   ("previous_hash", .str genesis), ("sequence", .int 1), ("timestamp", .str "2024")]

private def actionEntry : RawEntry where
  fields := Dict.set actionEntryBody "entry_hash"
    (.str (entryHash lengthHashing.hexdigest (.obj actionEntryBody)))
  wellFormed := by decide +kernel

private def actionLedger : List UInt8 :=
  (Json.obj actionEntry.fields).canonicalBytes ++ [10]

private def decodeAction (bytes : List UInt8) : Except ForgeError (List RawEntry) :=
  if bytes = actionLedger then .ok [actionEntry]
  else .error ⟨"LEDGER_MALFORMED", "cannot read ledger"⟩

/-- An index of the ledger with this map. -/
private def actionIndex (sequencesByKind : Dict String Json) : Json :=
  .obj
    [("entry_count", .int 1), ("ledger_head", actionEntry.get "entry_hash"),
     ("ledger_sha256", .str (lengthHashing.hexdigest actionLedger)), ("schema_version", .int 1),
     ("sequences_by_kind", .obj sequencesByKind)]

private def loadIndex (value : Json) (bytes : List UInt8) : Option Json :=
  if bytes = value.canonicalBytes then some value else none

private def actionDirectory (value : Json) : StateDirectory where
  unresolved := .ok false
  ledger := some actionLedger
  index := some value.canonicalBytes

private theorem load_actionDirectory (value : Json) :
    (actionDirectory value).index.bind (loadIndex value) = some value := by
  simp [actionDirectory, loadIndex]

private def actionCache : LedgerCache where
  cachedDigest := some (lengthHashing.hexdigest actionLedger)
  cachedRaw := some [actionEntry]
  verifiedDigest := some (lengthHashing.hexdigest actionLedger)
  verifiedHead := some (entryHash lengthHashing.hexdigest (.obj actionEntryBody))

private theorem action_snapshot (value : Json) :
    verifiedSnapshot lengthHashing decodeAction (actionDirectory value) .empty =
      .ok ([actionEntry], actionCache) := by
  have read : LedgerCache.empty.readUnlockedRaw lengthHashing.hexdigest decodeAction
      (some actionLedger) = .ok ([actionEntry], { LedgerCache.empty with
        cachedDigest := actionCache.cachedDigest, cachedRaw := some [actionEntry] }) := by
    decide +kernel
  have verified : LedgerCache.verifyRawRecords lengthHashing.hexdigest
      { LedgerCache.empty with
        cachedDigest := actionCache.cachedDigest, cachedRaw := some [actionEntry] }
      [actionEntry] =
        .ok (entryHash lengthHashing.hexdigest (.obj actionEntryBody), actionCache) := by
    decide +kernel
  rw [verifiedSnapshot, actionDirectory]
  refine bind_eq_ok.mpr ⟨(), rfl, bind_eq_ok.mpr ⟨_, read, bind_eq_ok.mpr ⟨_, verified, rfl⟩⟩⟩

/-- An index that lists the entry answers as the scan does. -/
theorem recordsFor_eq_scan_iff_sample :
    IndexTells lengthHashing (loadIndex (actionIndex [("workflow_action", .arr [.int 1])]))
      actionCache.cachedDigest [actionEntry] ["workflow_action"]
      (actionDirectory (actionIndex [("workflow_action", .arr [.int 1])])).index ∧
    ∀ entries,
      recordsFor lengthHashing decodeAction
          (loadIndex (actionIndex [("workflow_action", .arr [.int 1])]))
          (actionDirectory (actionIndex [("workflow_action", .arr [.int 1])])) .empty
          ["workflow_action"] = .ok entries ↔
        scanFor lengthHashing [actionEntry] ["workflow_action"] = .ok entries := by
  have tells : IndexTells lengthHashing
      (loadIndex (actionIndex [("workflow_action", .arr [.int 1])])) actionCache.cachedDigest
      [actionEntry] ["workflow_action"]
      (actionDirectory (actionIndex [("workflow_action", .arr [.int 1])])).index := by
    intro value sequencesByKind loaded accepted
    refine Or.inl fun kind requested n matching => ?_
    rw [load_actionDirectory] at loaded
    obtain rfl := Option.some.inj loaded
    obtain ⟨index, shape, map, _⟩ := accepted.header
    obtain rfl : index = _ := (Json.obj.inj shape).symm
    obtain rfl : [("workflow_action", Json.arr [.int 1])] = sequencesByKind :=
      Json.obj.inj map
    obtain rfl := List.mem_singleton.mp requested
    have only : Positions.matching (ofKind "workflow_action") 1 [actionEntry] = [1] := by
      decide +kernel
    rw [only, List.mem_singleton] at matching
    subst matching
    exact ⟨_, rfl, List.mem_singleton_self _⟩
  exact ⟨tells,
    ((recordsFor_eq_scan_iff (action_snapshot _)).1 ["workflow_action"]).mpr tells⟩

/-- An index that binds the ledger and lists nothing hides the entry. -/
theorem recordsFor_loses_entry :
    ¬∀ entries,
      recordsFor lengthHashing decodeAction (loadIndex (actionIndex []))
          (actionDirectory (actionIndex [])) .empty ["workflow_action"] = .ok entries ↔
        scanFor lengthHashing [actionEntry] ["workflow_action"] = .ok entries := by
  intro agree
  have hidden : recordsFor lengthHashing decodeAction (loadIndex (actionIndex []))
      (actionDirectory (actionIndex [])) .empty ["workflow_action"] = .ok [] := by
    decide +kernel
  have scanned : (scanFor lengthHashing [actionEntry] ["workflow_action"]).toOption.map
      List.length = some 1 := by
    decide +kernel
  simp [(agree []).mp hidden, Except.toOption] at scanned

end MncsForge.Ledger
