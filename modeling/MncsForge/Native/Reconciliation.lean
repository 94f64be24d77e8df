import Mathlib
import MncsForge.Native.Adapter

/-!
# The native reconciliation kernel

`reconciliation.mncs`: the statuses of each evidence category are counted, a
category with more than one kind of status conflicts, and the category statuses
are joined.  The host side follows: what it sends, and what it checks of the
answer.  Counts stay far below the width of the kernel's integers.
-/

namespace MncsForge.Native.Reconciliation

structure CategoryInput where
  category : Digest32
  statuses : List Status
  count : Nat
  unsupportedCount : Nat

structure CategoryProjection where
  category : Digest32
  status : Status
  passCount : Nat
  failCount : Nat
  unknownCount : Nat
  observedCount : Nat
  conflict : Bool
  unsupportedCount : Nat
  valid : Bool
  deriving DecidableEq

structure ReconciliationInput where
  categories : List CategoryInput
  categoryCount : Nat

structure ReconciliationState where
  categories : List CategoryProjection
  status : Status
  categoryCount : Nat
  conflictingCategoryCount : Nat
  unsupportedCount : Nat
  observedCount : Nat
  valid : Bool

structure ReconciliationResult where
  state : ReconciliationState
  status : Status
  reason : Nat

section Kernel

variable (core : CoreLibrary)

def categoryIsPresent (value : Digest32) : Bool :=
  if core.isZero value then false else true

def category (input : CategoryInput) : CategoryProjection :=
  let summary := core.summarizePrefix input.statuses input.count
  let kinds :=
    (decide (0 < summary.passCount)).toNat + (decide (0 < summary.failCount)).toNat +
      (decide (0 < summary.unknownCount)).toNat
  { category := input.category
    status := summary.status
    passCount := summary.passCount
    failCount := summary.failCount
    unknownCount := summary.unknownCount
    observedCount := summary.observedCount
    conflict := decide (1 < kinds)
    unsupportedCount := input.unsupportedCount
    valid :=
      categoryIsPresent core input.category && summary.valid &&
        decide (0 < summary.observedCount) }

def emptyCategory : CategoryProjection where
  category := core.zero
  status := .unknown
  passCount := 0
  failCount := 0
  unknownCount := 0
  observedCount := 0
  conflict := false
  unsupportedCount := 0
  valid := true

def initial : ReconciliationState where
  categories := List.replicate 16 (emptyCategory core)
  status := .unknown
  categoryCount := 0
  conflictingCategoryCount := 0
  unsupportedCount := 0
  observedCount := 0
  valid := true

def combineCategory (current incoming : Status) (hasPrevious : Bool) : Status :=
  if hasPrevious then core.dominate current incoming else incoming

def addCategory (current : ReconciliationState) (input : CategoryInput) :
    ReconciliationState :=
  let projected := category core input
  { categories := current.categories.set current.categoryCount projected
    status :=
      combineCategory core current.status projected.status (decide (0 < current.categoryCount))
    categoryCount := current.categoryCount + 1
    conflictingCategoryCount := current.conflictingCategoryCount + projected.conflict.toNat
    unsupportedCount := current.unsupportedCount + projected.unsupportedCount
    observedCount := current.observedCount + projected.observedCount
    valid := current.valid && projected.valid }

def project (input : ReconciliationInput) : ReconciliationResult :=
  let state := foldActive (addCategory core) input.categoryCount input.categories (initial core)
  let bounded := decide (input.categoryCount ≤ 16)
  let valid := state.valid && bounded
  if valid then { state := state, status := state.status, reason := 0 }
  else { state := { state with valid := false }, status := .unknown, reason := 1 }

/-! ## The folded state -/

/-- The state the fold reaches over a list of projected categories. -/
def tally (projected : List CategoryProjection) : ReconciliationState where
  categories := projected ++ List.replicate (16 - projected.length) (emptyCategory core)
  status := joinedStatus (projected.map (·.status))
  categoryCount := projected.length
  conflictingCategoryCount := projected.countP (·.conflict)
  unsupportedCount := (projected.map (·.unsupportedCount)).sum
  observedCount := (projected.map (·.observedCount)).sum
  valid := projected.all (·.valid)

theorem foldl_addCategory (documented : core.Documented) (inputs : List CategoryInput)
    (h : inputs.length ≤ 16) :
    inputs.foldl (addCategory core) (initial core) =
      tally core (inputs.map (category core)) := by
  induction inputs using List.reverseRecOn with
  | nil => rfl
  | append_singleton inputs input ih =>
      rw [List.length_append, List.length_singleton] at h
      have slots : 16 - inputs.length = (16 - (inputs.length + 1)) + 1 := by omega
      have status :
          combineCategory core (joinedStatus ((inputs.map (category core)).map (·.status)))
              (category core input).status (decide (0 < inputs.length)) =
            joinedStatus ((inputs.map (category core)).map (·.status) ++
              [(category core input).status]) := by
        rw [joinedStatus_snoc, combineCategory, documented.dominate_eq]
        cases inputs <;> simp
      rw [List.foldl_append, ih (by omega), List.map_append]
      simp only [List.foldl_cons, List.foldl_nil, addCategory, tally, List.map_append,
        List.map_cons, List.map_nil, List.length_append, List.length_map, List.length_cons,
        List.length_nil, List.all_append, List.all_cons, List.all_nil, Bool.and_true,
        countP_snoc, List.sum_append, List.sum_cons, List.sum_nil, add_zero,
        List.append_assoc, ReconciliationState.mk.injEq, and_true, status]
      rw [List.set_append_right _ _ (by simp), List.length_map, Nat.sub_self, slots,
        List.replicate_succ, List.set_cons_zero, List.singleton_append]

theorem project_eq (documented : core.Documented) (active padding : List CategoryInput)
    (bound : active.length ≤ 16)
    (valid : ∀ input ∈ active, (category core input).valid = true) :
    project core { categories := active ++ padding, categoryCount := active.length } =
      { state := tally core (active.map (category core))
        status := joinedStatus ((active.map (category core)).map (·.status))
        reason := 0 } := by
  have allValid : (tally core (active.map (category core))).valid = true := by
    simpa [tally, List.all_eq_true] using valid
  simp only [project, foldActive_append, foldl_addCategory core documented active bound,
    allValid, decide_eq_true bound, Bool.and_self, if_true]
  rfl

end Kernel

end MncsForge.Native.Reconciliation

namespace MncsForge.Native

open MncsForge.Foundation MncsForge.Records
open Reconciliation (CategoryInput CategoryProjection)

/-! ## The request -/

structure NativeReconciliationCategory where
  category : Digest32
  status : Status
  passCount : Nat
  failCount : Nat
  unknownCount : Nat
  observedCount : Nat
  conflict : Bool
  unsupportedCount : Nat
  deriving DecidableEq

/-- The host's copy of a category of the answer. -/
def NativeReconciliationCategory.of (item : CategoryProjection) :
    NativeReconciliationCategory where
  category := item.category
  status := item.status
  passCount := item.passCount
  failCount := item.failCount
  unknownCount := item.unknownCount
  observedCount := item.observedCount
  conflict := item.conflict
  unsupportedCount := item.unsupportedCount

structure NativeReconciliationProjection where
  categories : List NativeReconciliationCategory
  status : Status
  categoryCount : Nat
  conflictingCategoryCount : Nat
  unsupportedCount : Nat
  observedCount : Nat
  valid : Bool
  reason : Nat
  deriving DecidableEq

/-- How many unsupported constructs a record lists; `None` lists none. -/
def unsupportedLength (record : ForgeRecord) : Option Nat :=
  match record.get "unsupported_constructs" with
  | .arr items => some items.length
  | .null => some 0
  | _ => none

/-- The statuses of the records of a category and the count of their unsupported
constructs. -/
def categoryRecords (category : String) :
    List ForgeRecord → Except ForgeError (List Status × Nat)
  | [] => .ok ([], 0)
  | record :: records =>
      match requirementStatus record with
      | none =>
          .error ⟨"NATIVE_RECONCILIATION_UNKNOWN",
            s!"native evidence status is invalid for category {category}"⟩
      | some status =>
          match unsupportedLength record with
          | none =>
              .error ⟨"NATIVE_RECONCILIATION_UNKNOWN",
                s!"unsupported construct list is malformed for category {category}"⟩
          | some count => do
              let rest ← categoryRecords category records
              .ok (status :: rest.1, count + rest.2)

namespace NativeForgeAdapter

variable (native : NativeForgeAdapter)

/-- `b"mncs-forge.reconciliation.category.v1\0"`. -/
def categoryTag : List UInt8 :=
  [109, 110, 99, 115, 45, 102, 111, 114, 103, 101, 46, 114, 101, 99, 111, 110, 99, 105,
   108, 105, 97, 116, 105, 111, 110, 46, 99, 97, 116, 101, 103, 111, 114, 121, 46, 118,
   49, 0]

example : categoryTag = utf8 "mncs-forge.reconciliation.category.v1\x00" := by
  decide +kernel

def categoryDigest (category : String) : Digest32 :=
  native.sha256 (categoryTag ++ utf8 category)

def reconciliationCategoryIdentity (category : String) : Except ForgeError Digest32 := do
  refuseIf (category = "") "NATIVE_RECONCILIATION_UNKNOWN" "evidence category is malformed"
  .ok (native.categoryDigest category)

def reconciliationCategoryValue (category : String) (records : List ForgeRecord) :
    Except ForgeError CategoryInput := do
  refuseIf (records.length = 0 ∨ 8 < records.length) "NATIVE_RECONCILIATION_UNKNOWN"
    "native evidence category must contain between 1 and 8 records"
  let observed ← categoryRecords category records
  refuseIf (255 < observed.2) "NATIVE_RECONCILIATION_UNKNOWN"
    s!"unsupported construct count exceeds the byte bound for category {category}"
  let identity ← native.reconciliationCategoryIdentity category
  .ok
    { category := identity
      statuses := observed.1 ++ List.replicate (8 - observed.1.length) .unknown
      count := records.length
      unsupportedCount := observed.2 }

/-- The padding of the category array, `{"status": "UNKNOWN"}` under `__unused__`. -/
def unusedCategory : CategoryInput where
  category := native.categoryDigest "__unused__"
  statuses := List.replicate 8 .unknown
  count := 1
  unsupportedCount := 0

/-! ## The response -/

def acceptCategory (category : String) (item : CategoryProjection) :
    Except ForgeError NativeReconciliationCategory := do
  let expected ← native.reconciliationCategoryIdentity category
  refuseIf (item.category ≠ expected) "NATIVE_RECONCILIATION_MISMATCH"
    "native reconciliation category identity disagrees with the request"
  .ok (.of item)

def acceptReconciliation (ordered : List (String × List ForgeRecord))
    (result : Reconciliation.ReconciliationResult) :
    Except ForgeError NativeReconciliationProjection := do
  let state := result.state
  refuseIf (state.categories.length ≠ 16) "NATIVE_RECONCILIATION_UNKNOWN"
    "reconciliation categories are malformed"
  refuseIf (state.categoryCount ≠ ordered.length ∨ 16 < state.categoryCount)
    "NATIVE_RECONCILIATION_UNKNOWN"
    "reconciliation category count disagrees with the request"
  refuseIf (state.valid = false ∨ result.reason ≠ 0 ∨ state.status ≠ result.status)
    "NATIVE_RECONCILIATION_UNKNOWN"
    "language-owned reconciliation reported an invalid bounded projection"
  let projected ← (ordered.zip state.categories).mapM fun slot =>
    native.acceptCategory slot.1.1 slot.2
  refuseIf (state.conflictingCategoryCount ≠ projected.countP (·.conflict))
    "NATIVE_RECONCILIATION_MISMATCH"
    "native reconciliation conflict count is inconsistent"
  refuseIf (state.observedCount ≠ (projected.map (·.observedCount)).sum)
    "NATIVE_RECONCILIATION_MISMATCH"
    "native reconciliation observed count is inconsistent"
  refuseIf (state.unsupportedCount ≠ (projected.map (·.unsupportedCount)).sum)
    "NATIVE_RECONCILIATION_MISMATCH"
    "native reconciliation unsupported count is inconsistent"
  .ok
    { categories := projected
      status := result.status
      categoryCount := state.categoryCount
      conflictingCategoryCount := state.conflictingCategoryCount
      unsupportedCount := state.unsupportedCount
      observedCount := state.observedCount
      valid := state.valid
      reason := result.reason }

def reconciliationProjection (categories : Dict String (List ForgeRecord)) :
    Except ForgeError NativeReconciliationProjection := do
  refuseIf (∃ entry ∈ categories, entry.1 = "") "NATIVE_RECONCILIATION_UNKNOWN"
    "native reconciliation category is malformed"
  let ordered := Dict.update [] categories
  refuseIf (16 < ordered.length) "NATIVE_RECONCILIATION_UNKNOWN"
    "native reconciliation exceeds the 16-category bound"
  let values ← ordered.mapM fun entry => native.reconciliationCategoryValue entry.1 entry.2
  native.acceptReconciliation ordered
    (Reconciliation.project native.core
      { categories := values ++ List.replicate (16 - values.length) native.unusedCategory
        categoryCount := ordered.length })

end NativeForgeAdapter

/-! ## What the exchange accepts -/

def recordStatuses (records : List ForgeRecord) : List Status :=
  records.filterMap requirementStatus

def unsupportedTotal (records : List ForgeRecord) : Nat :=
  (records.map fun record => (unsupportedLength record).getD 0).sum

/-- The host can put a record into the request. -/
structure Readable (record : ForgeRecord) : Prop where
  status : (requirementStatus record).isSome
  unsupported : (unsupportedLength record).isSome

theorem recordStatuses_length {records : List ForgeRecord}
    (h : ∀ record ∈ records, (requirementStatus record).isSome) :
    (recordStatuses records).length = records.length := by
  induction records with
  | nil => rfl
  | cons record records ih =>
      obtain ⟨status, hstatus⟩ := Option.isSome_iff_exists.mp (h record List.mem_cons_self)
      rw [recordStatuses, List.filterMap_cons, hstatus, List.length_cons, List.length_cons,
        ← recordStatuses, ih fun other hother => h other (List.mem_cons_of_mem _ hother)]

theorem categoryRecords_eq_ok {category : String} {records : List ForgeRecord}
    {observed : List Status × Nat} :
    categoryRecords category records = .ok observed ↔
      (∀ record ∈ records, Readable record) ∧
        observed = (recordStatuses records, unsupportedTotal records) := by
  induction records generalizing observed with
  | nil => simp [categoryRecords, recordStatuses, unsupportedTotal, eq_comm]
  | cons record records ih =>
      rw [List.forall_mem_cons, categoryRecords, recordStatuses, unsupportedTotal,
        List.filterMap_cons, List.map_cons, List.sum_cons]
      cases hstatus : requirementStatus record with
      | none =>
          have unread : ¬ Readable record := fun h => by simpa [hstatus] using h.status
          simp [unread]
      | some status =>
          cases hcount : unsupportedLength record with
          | none =>
              have unread : ¬ Readable record := fun h => by simpa [hcount] using h.unsupported
              simp [unread]
          | some count =>
              have read : Readable record := ⟨by rw [hstatus]; rfl, by rw [hcount]; rfl⟩
              simp only [bind_eq_ok, ih, read, true_and, Except.ok.injEq, Option.getD_some]
              constructor
              · rintro ⟨_, ⟨hrest, rfl⟩, rfl⟩
                exact ⟨hrest, rfl⟩
              · rintro ⟨hrest, rfl⟩
                exact ⟨_, ⟨hrest, rfl⟩, rfl⟩

/-- The records of one category fit into the request. -/
structure CategoryEnvelope (records : List ForgeRecord) : Prop where
  nonempty : records.length ≠ 0
  bounded : records.length ≤ 8
  readable : ∀ record ∈ records, Readable record
  unsupported : unsupportedTotal records ≤ 255

/-- The categories fit into the request. -/
structure EvidenceEnvelope (categories : Dict String (List ForgeRecord)) : Prop where
  named : ∀ entry ∈ categories, entry.1 ≠ ""
  bounded : (Dict.update [] categories).length ≤ 16
  categories : ∀ entry ∈ Dict.update [] categories, CategoryEnvelope entry.2

/-! ### One category -/

namespace NativeForgeAdapter

section Category

variable (native : NativeForgeAdapter)

/-- What the host sends for a category. -/
def categoryInput (entry : String × List ForgeRecord) : CategoryInput where
  category := native.categoryDigest entry.1
  statuses :=
    recordStatuses entry.2 ++ List.replicate (8 - (recordStatuses entry.2).length) .unknown
  count := entry.2.length
  unsupportedCount := unsupportedTotal entry.2

/-- What the kernel makes of it. -/
def observedCategory (entry : String × List ForgeRecord) : CategoryProjection where
  category := native.categoryDigest entry.1
  status := joinedStatus (recordStatuses entry.2)
  passCount := (recordStatuses entry.2).count .pass
  failCount := (recordStatuses entry.2).count .fail
  unknownCount := (recordStatuses entry.2).count .unknown
  observedCount := (recordStatuses entry.2).length
  conflict :=
    decide (1 <
      (decide (0 < (recordStatuses entry.2).count .pass)).toNat +
        (decide (0 < (recordStatuses entry.2).count .fail)).toNat +
        (decide (0 < (recordStatuses entry.2).count .unknown)).toNat)
  unsupportedCount := unsupportedTotal entry.2
  valid := true

variable {native}

theorem reconciliationCategoryValue_eq_ok {entry : String × List ForgeRecord}
    (named : entry.1 ≠ "") {input : CategoryInput} :
    native.reconciliationCategoryValue entry.1 entry.2 = .ok input ↔
      CategoryEnvelope entry.2 ∧ input = native.categoryInput entry := by
  simp only [reconciliationCategoryValue, reconciliationCategoryIdentity, bind_eq_ok,
    refuseIf_eq_ok, categoryRecords_eq_ok, not_or, not_lt, Except.ok.injEq]
  constructor
  · rintro ⟨_, ⟨hnonempty, hbounded⟩, _, ⟨hreadable, rfl⟩, _, hunsupported, _,
      ⟨_, _, rfl⟩, rfl⟩
    exact ⟨⟨hnonempty, hbounded, hreadable, hunsupported⟩, rfl⟩
  · rintro ⟨⟨hnonempty, hbounded, hreadable, hunsupported⟩, rfl⟩
    exact ⟨(), ⟨hnonempty, hbounded⟩, _, ⟨hreadable, rfl⟩, (), hunsupported, _,
      ⟨(), named, rfl⟩, rfl⟩

theorem category_categoryInput (documented : native.core.Documented)
    {entry : String × List ForgeRecord} (envelope : CategoryEnvelope entry.2)
    (present : native.categoryDigest entry.1 ≠ Digest32.zero) :
    Reconciliation.category native.core (native.categoryInput entry) =
      native.observedCategory entry := by
  obtain ⟨nonempty, bounded, readable, _⟩ := envelope
  have length := recordStatuses_length fun record hrecord => (readable record hrecord).status
  have sent :
      ((native.categoryInput entry).statuses.take (native.categoryInput entry).count) =
        recordStatuses entry.2 := by
    rw [categoryInput, ← length, List.take_left]
  have room :
      (native.categoryInput entry).count ≤ (native.categoryInput entry).statuses.length := by
    simp [categoryInput, length]
  have counts := documented.summarizePrefix_counts (native.categoryInput entry).statuses
    (native.categoryInput entry).count
  have status := documented.summarizePrefix_status (native.categoryInput entry).statuses
    (native.categoryInput entry).count (Nat.pos_of_ne_zero nonempty) room
  rw [prefixSummary, sent, decide_eq_true room] at counts
  rw [sent] at status
  have observed : 0 < (recordStatuses entry.2).length := by omega
  rw [Reconciliation.category]
  generalize native.core.summarizePrefix (native.categoryInput entry).statuses
    (native.categoryInput entry).count = summary at counts status ⊢
  obtain ⟨_, _⟩ := summary
  dsimp only at counts status
  subst counts status
  simp only [observedCategory, categoryInput, Reconciliation.categoryIsPresent,
    documented.isZero_eq, decide_eq_false present, decide_eq_true observed,
    Bool.false_eq_true, if_false, Bool.and_self]

theorem acceptCategory_observedCategory {entry : String × List ForgeRecord}
    (named : entry.1 ≠ "") :
    native.acceptCategory entry.1 (native.observedCategory entry) =
      .ok (.of (native.observedCategory entry)) := by
  simp [acceptCategory, reconciliationCategoryIdentity, refuseIf, named, observedCategory,
    bind, Except.bind]

end Category

/-! ### All categories -/

section Exchange

variable (native : NativeForgeAdapter)

/-- The projection of an envelope. -/
def envelopeProjection (categories : Dict String (List ForgeRecord)) :
    NativeReconciliationProjection :=
  let projected := (Dict.update [] categories).map native.observedCategory
  { categories := projected.map .of
    status := joinedStatus (projected.map (·.status))
    categoryCount := projected.length
    conflictingCategoryCount := projected.countP (·.conflict)
    unsupportedCount := (projected.map (·.unsupportedCount)).sum
    observedCount := (projected.map (·.observedCount)).sum
    valid := true
    reason := 0 }

variable {native}

private theorem zip_map_append {α β : Type*} (f : α → β) (xs : List α) (padding : List β) :
    xs.zip (xs.map f ++ padding) = xs.map fun x => (x, f x) := by
  induction xs with
  | nil => simp
  | cons x xs ih => simp [ih]

private theorem named_sorted {categories : Dict String (List ForgeRecord)}
    (named : ∀ entry ∈ categories, entry.1 ≠ "") :
    ∀ entry ∈ Dict.update [] categories, entry.1 ≠ "" := by
  intro entry hentry
  have hkey : entry.1 ∈ Dict.keys (Dict.update [] categories) :=
    List.mem_map_of_mem (f := Prod.fst) hentry
  rw [Dict.mem_keys_update, Dict.keys_nil] at hkey
  obtain ⟨other, hother, heq⟩ := List.mem_map.mp (hkey.resolve_right List.not_mem_nil)
  rw [← heq]
  exact named other hother

theorem project_sent (documented : native.core.Documented)
    (present : ∀ category, native.categoryDigest category ≠ Digest32.zero)
    {categories : Dict String (List ForgeRecord)} (envelope : EvidenceEnvelope categories) :
    Reconciliation.project native.core
        { categories :=
            (Dict.update [] categories).map native.categoryInput ++
              List.replicate
                (16 - ((Dict.update [] categories).map native.categoryInput).length)
                native.unusedCategory
          categoryCount := (Dict.update [] categories).length } =
      { state :=
          Reconciliation.tally native.core
            ((Dict.update [] categories).map native.observedCategory)
        status :=
          joinedStatus
            (((Dict.update [] categories).map native.observedCategory).map (·.status))
        reason := 0 } := by
  have observed : ∀ entry ∈ Dict.update [] categories,
      Reconciliation.category native.core (native.categoryInput entry) =
        native.observedCategory entry := fun entry hentry =>
    category_categoryInput documented (envelope.categories entry hentry) (present entry.1)
  have mapped :
      ((Dict.update [] categories).map native.categoryInput).map
          (Reconciliation.category native.core) =
        (Dict.update [] categories).map native.observedCategory := by
    rw [List.map_map]
    exact List.map_congr_left observed
  have length : (Dict.update [] categories).length =
      ((Dict.update [] categories).map native.categoryInput).length := by simp
  have valid : ∀ input ∈ (Dict.update [] categories).map native.categoryInput,
      (Reconciliation.category native.core input).valid = true := by
    intro input hinput
    obtain ⟨entry, hentry, rfl⟩ := List.mem_map.mp hinput
    rw [observed entry hentry]
    rfl
  rw [length, Reconciliation.project_eq native.core documented _ _
    (length ▸ envelope.bounded) valid, mapped]

theorem acceptReconciliation_tally {categories : Dict String (List ForgeRecord)}
    (envelope : EvidenceEnvelope categories) :
    native.acceptReconciliation (Dict.update [] categories)
        { state :=
            Reconciliation.tally native.core
              ((Dict.update [] categories).map native.observedCategory)
          status :=
            joinedStatus
              (((Dict.update [] categories).map native.observedCategory).map (·.status))
          reason := 0 } =
      .ok (native.envelopeProjection categories) := by
  have bounded := envelope.bounded
  have named := named_sorted envelope.named
  generalize hordered : Dict.update [] categories = ordered at bounded named ⊢
  have accepted :
      (ordered.map fun entry => (entry, native.observedCategory entry)).mapM
          (fun slot => native.acceptCategory slot.1.1 slot.2) =
        .ok ((ordered.map native.observedCategory).map .of) := by
    have step : ∀ slot ∈ ordered.map fun entry => (entry, native.observedCategory entry),
        ∀ item, native.acceptCategory slot.1.1 slot.2 = .ok item ↔
          True ∧ item = NativeReconciliationCategory.of slot.2 := by
      intro slot hslot item
      obtain ⟨entry, hentry, rfl⟩ := List.mem_map.mp hslot
      rw [acceptCategory_observedCategory (named entry hentry), Except.ok.injEq, true_and,
        eq_comm]
    refine (mapM_eq_ok step).mpr ⟨fun _ _ => trivial, ?_⟩
    rw [List.map_map, List.map_map]
    rfl
  have valid : (ordered.map native.observedCategory).all (·.valid) = true := by
    simp [observedCategory]
  rw [acceptReconciliation, envelopeProjection, hordered]
  simp only [Reconciliation.tally, zip_map_append, accepted, valid, bind_eq_ok,
    refuseIf_eq_ok, List.length_append, List.length_map, List.length_replicate, List.map_map,
    List.countP_map, Function.comp_def, NativeReconciliationCategory.of, Except.ok.injEq,
    exists_eq_left', ne_eq, not_true_eq_false, not_false_eq_true, or_self, exists_const,
    and_true, not_lt, false_or, Bool.true_eq_false]
  exact ⟨by omega, bounded⟩

/-- The exchange answers exactly for the envelopes that fit. -/
theorem reconciliationProjection_eq_ok (documented : native.core.Documented)
    (present : ∀ category, native.categoryDigest category ≠ Digest32.zero)
    {categories : Dict String (List ForgeRecord)} {projection : NativeReconciliationProjection} :
    native.reconciliationProjection categories = .ok projection ↔
      EvidenceEnvelope categories ∧ projection = native.envelopeProjection categories := by
  rw [reconciliationProjection, refuseIf_bind_eq_ok, refuseIf_bind_eq_ok, bind_eq_ok]
  have sent : (∀ entry ∈ categories, entry.1 ≠ "") → ∀ values,
      (Dict.update [] categories).mapM
          (fun entry => native.reconciliationCategoryValue entry.1 entry.2) = .ok values ↔
        (∀ entry ∈ Dict.update [] categories, CategoryEnvelope entry.2) ∧
          values = (Dict.update [] categories).map native.categoryInput := fun named values =>
    mapM_eq_ok fun entry hentry _ =>
      reconciliationCategoryValue_eq_ok (named_sorted named entry hentry)
  constructor
  · rintro ⟨unnamed, bounded, values, hvalues, hprojection⟩
    have named : ∀ entry ∈ categories, entry.1 ≠ "" := fun entry hentry h =>
      unnamed ⟨entry, hentry, h⟩
    obtain ⟨records, rfl⟩ := (sent named values).mp hvalues
    have envelope : EvidenceEnvelope categories := ⟨named, not_lt.mp bounded, records⟩
    rw [project_sent documented present envelope,
      acceptReconciliation_tally envelope] at hprojection
    exact ⟨envelope, (Except.ok.inj hprojection).symm⟩
  · rintro ⟨envelope, rfl⟩
    refine ⟨?_, not_lt.mpr envelope.bounded, _,
      (sent envelope.named _).mpr ⟨envelope.categories, rfl⟩, ?_⟩
    · rintro ⟨entry, hentry, h⟩
      exact envelope.named entry hentry h
    · rw [project_sent documented present envelope, acceptReconciliation_tally envelope]

end Exchange

end NativeForgeAdapter

end MncsForge.Native
