import Mathlib
import MncsForge.Native.Reconciliation
import MncsForge.Lifecycle.History

/-!
# Evidence reconciliation

The evidence service groups workflow results by category and reports, for each
category and for all of them, the dominating status and the conflicts.  With a
native adapter the kernel classifies, without one the service does.
-/

namespace MncsForge.Application

open MncsForge.Foundation MncsForge.Records MncsForge.Native
open Lifecycle (textOf)

structure ReconciledCategory where
  status : Status
  dependencies : List String
  records : List String
  unsupported : List String
  deriving DecidableEq

structure Reconciled where
  categories : List (String × ReconciledCategory)
  conflicts : List String
  aggregate : Status
  deriving DecidableEq

/-! ## Statuses -/

/-- `STATUS_ORDER`. -/
def statusOrder : Status → Nat
  | .pass => 0
  | .unknown => 1
  | .fail => 2

/-- The recognized status of highest order. -/
def aggregateStatus (statuses : List String) : Status :=
  match statuses.filterMap Status.ofString? with
  | [] => .unknown
  | first :: rest =>
      rest.foldl
        (fun best status => if statusOrder best < statusOrder status then status else best)
        first

private theorem higher_eq_dominant (best status : Status) :
    (if statusOrder best < statusOrder status then status else best) = dominant best status := by
  cases best <;> cases status <;> rfl

theorem aggregateStatus_eq (statuses : List String) :
    aggregateStatus statuses = joinedStatus (statuses.filterMap Status.ofString?) := by
  unfold aggregateStatus
  cases statuses.filterMap Status.ofString? with
  | nil => rfl
  | cons first rest => simp only [higher_eq_dominant, joinedStatus]

/-! ## The service -/

def unsupportedValues (items : List ForgeRecord) : List String :=
  items.flatMap fun item =>
    match item.get "unsupported_constructs" with
    | .arr values => values.map Json.display
    | _ => []

/-- `by_category`, in key order. -/
def groupByCategory (results : List ForgeRecord) : Dict String (List ForgeRecord) :=
  results.foldl
    (fun groups result =>
      Dict.set groups (textOf result "category")
        ((Dict.get? groups (textOf result "category")).getD [] ++ [result]))
    []

/-- The statuses of the records, each once. -/
def observedValues (items : List ForgeRecord) : List String :=
  Dict.sortedSet (items.map fun item => textOf item "status")

def compatCategory (items : List ForgeRecord) : ReconciledCategory where
  status := aggregateStatus (observedValues items)
  dependencies := []
  records := items.map fun item => textOf item "output_identity"
  unsupported := Dict.sortedSet (unsupportedValues items)

def compatReconciliation (byCategory : Dict String (List ForgeRecord)) : Reconciled :=
  let ordered := Dict.update [] byCategory
  let categories := ordered.map fun entry => (entry.1, compatCategory entry.2)
  { categories := categories
    conflicts :=
      (ordered.filter fun entry => 1 < (observedValues entry.2).length).map Prod.fst
    aggregate := aggregateStatus (categories.map fun entry => entry.2.status.value) }

/-- The checks on one category of the native answer. -/
def nativeCategory (entry : String × List ForgeRecord)
    (nativeCategory : NativeReconciliationCategory) :
    Except ForgeError (String × ReconciledCategory) := do
  let unsupported := unsupportedValues entry.2
  refuseIf (nativeCategory.observedCount ≠ entry.2.length) "NATIVE_RECONCILIATION_MISMATCH"
    s!"native observed count disagrees for evidence category {entry.1}"
  refuseIf (nativeCategory.unsupportedCount ≠ unsupported.length)
    "NATIVE_RECONCILIATION_MISMATCH"
    s!"native unsupported count disagrees for evidence category {entry.1}"
  refuseIf
    (nativeCategory.passCount + nativeCategory.failCount + nativeCategory.unknownCount ≠
      entry.2.length)
    "NATIVE_RECONCILIATION_MISMATCH"
    s!"native status counts disagree for evidence category {entry.1}"
  .ok
    (entry.1,
      { status := nativeCategory.status
        dependencies := []
        records := entry.2.map fun item => textOf item "output_identity"
        unsupported := Dict.sortedSet unsupported })

def nativeReconciliation (native : NativeForgeAdapter)
    (byCategory : Dict String (List ForgeRecord)) : Except ForgeError Reconciled := do
  let projection ← native.reconciliationProjection byCategory
  let ordered := Dict.update [] byCategory
  refuseIf (projection.categories.length ≠ ordered.length) "NATIVE_RECONCILIATION_MISMATCH"
    "native reconciliation returned an unexpected category count"
  let categories ← (ordered.zip projection.categories).mapM fun slot =>
    nativeCategory slot.1 slot.2
  let conflicts :=
    ((ordered.zip projection.categories).filter fun slot => slot.2.conflict).map
      fun slot => slot.1.1
  refuseIf
    (projection.observedCount ≠ (ordered.map fun entry => entry.2.length).sum ∨
      projection.unsupportedCount ≠
        (ordered.map fun entry => (unsupportedValues entry.2).length).sum ∨
      projection.conflictingCategoryCount ≠ conflicts.length)
    "NATIVE_RECONCILIATION_MISMATCH"
    "native reconciliation aggregate counts disagree with the request"
  .ok { categories := categories, conflicts := conflicts, aggregate := projection.status }

/-- The classification inside `reconcile`. -/
def reconciliation (native : Option NativeForgeAdapter) (results : List ForgeRecord) :
    Except ForgeError Reconciled :=
  match native with
  | none => .ok (compatReconciliation (groupByCategory results))
  | some native => nativeReconciliation native (groupByCategory results)

/-! ## Both classifications of one category -/

section Category

variable {items : List ForgeRecord}

private theorem textOf_status {record : ForgeRecord} (h : Readable record) :
    ∃ status, requirementStatus record = some status ∧ textOf record "status" = status.value := by
  obtain ⟨status, hstatus⟩ := Option.isSome_iff_exists.mp h.status
  obtain ⟨text, htext, hvalue⟩ := Option.bind_eq_some_iff.mp hstatus
  rw [Json.asStr?_eq_some] at htext
  refine ⟨status, hstatus, ?_⟩
  rw [Lifecycle.textOf_of_get htext]
  exact Status.eq_value_of_ofString? hvalue

private theorem mem_observedValues (h : ∀ item ∈ items, Readable item) (text : String) :
    text ∈ observedValues items ↔ ∃ status ∈ recordStatuses items, text = status.value := by
  simp only [observedValues, Dict.mem_sortedSet, List.mem_map, recordStatuses,
    List.mem_filterMap]
  constructor
  · rintro ⟨item, hitem, rfl⟩
    obtain ⟨status, hstatus, htext⟩ := textOf_status (h item hitem)
    exact ⟨status, ⟨item, hitem, hstatus⟩, htext⟩
  · rintro ⟨status, ⟨item, hitem, hstatus⟩, rfl⟩
    obtain ⟨other, hother, htext⟩ := textOf_status (h item hitem)
    obtain rfl := Option.some.inj (hstatus.symm.trans hother)
    exact ⟨item, hitem, htext⟩

theorem aggregate_observedValues (h : ∀ item ∈ items, Readable item) :
    aggregateStatus (observedValues items) = joinedStatus (recordStatuses items) := by
  rw [aggregateStatus_eq]
  refine joinedStatus_congr fun status => ?_
  rw [List.mem_filterMap]
  constructor
  · rintro ⟨text, htext, hstatus⟩
    obtain ⟨other, hother, rfl⟩ := (mem_observedValues h text).mp htext
    rw [Status.ofString?_value, Option.some.injEq] at hstatus
    rwa [← hstatus]
  · intro hstatus
    exact ⟨status.value, (mem_observedValues h _).mpr ⟨status, hstatus, rfl⟩,
      Status.ofString?_value status⟩

theorem unsupportedValues_length (h : ∀ item ∈ items, Readable item) :
    (unsupportedValues items).length = unsupportedTotal items := by
  rw [unsupportedValues, unsupportedTotal, List.length_flatMap]
  refine congrArg List.sum (List.map_congr_left fun item hitem => ?_)
  have readable := (h item hitem).unsupported
  unfold unsupportedLength at readable ⊢
  split at readable <;> simp_all

/-- The kinds of status that occur are counted once each. -/
theorem observedValues_length (h : ∀ item ∈ items, Readable item) :
    (observedValues items).length =
      (decide (0 < (recordStatuses items).count .pass)).toNat +
        (decide (0 < (recordStatuses items).count .fail)).toNat +
        (decide (0 < (recordStatuses items).count .unknown)).toNat := by
  have distinct : (observedValues items).Nodup := (Dict.sortedSet_pairwise _).imp ne_of_lt
  have kinds : (observedValues items).Perm
      (([.pass, .fail, .unknown].filter (· ∈ recordStatuses items)).map Status.value) := by
    refine (List.perm_ext_iff_of_nodup distinct
      ((List.Nodup.filter _ (by decide)).map Status.value_injective)).mpr fun text => ?_
    rw [mem_observedValues h, List.mem_map]
    constructor
    · rintro ⟨status, hstatus, rfl⟩
      refine ⟨status, List.mem_filter.mpr ⟨?_, by simpa using hstatus⟩, rfl⟩
      cases status <;> simp
    · rintro ⟨status, hstatus, rfl⟩
      exact ⟨status, by simpa using (List.mem_filter.mp hstatus).2, rfl⟩
  rw [kinds.length_eq, List.length_map]
  simp only [List.count_pos_iff, List.filter_cons, List.filter_nil, decide_eq_true_eq]
  split_ifs <;> simp_all

end Category

/-! ## The native and the compatible reconciliation -/

section Agreement

variable {native : NativeForgeAdapter} {byCategory : Dict String (List ForgeRecord)}

private theorem statuses_count (statuses : List Status) :
    statuses.count .pass + statuses.count .fail + statuses.count .unknown =
      statuses.length := by
  induction statuses with
  | nil => rfl
  | cons status statuses ih => cases status <;> simp <;> omega

theorem nativeCategory_observed {entry : String × List ForgeRecord}
    (h : ∀ item ∈ entry.2, Readable item) :
    nativeCategory entry (.of (native.observedCategory entry)) =
      .ok (entry.1, compatCategory entry.2) := by
  have length := recordStatuses_length fun record hrecord => (h record hrecord).status
  have counted := statuses_count (recordStatuses entry.2)
  rw [nativeCategory]
  simp only [bind_eq_ok, refuseIf_eq_ok, NativeReconciliationCategory.of,
    NativeForgeAdapter.observedCategory, unsupportedValues_length h, counted, length,
    compatCategory, aggregate_observedValues h, ne_eq, not_true_eq_false, not_false_eq_true,
    exists_const, true_and]

private theorem zip_map {α β : Type} (f : α → β) (xs : List α) :
    xs.zip (xs.map f) = xs.map fun x => (x, f x) := by
  induction xs with
  | nil => rfl
  | cons x xs ih => simp [ih]

theorem nativeReconciliation_envelope (envelope : EvidenceEnvelope byCategory)
    (answer : native.reconciliationProjection byCategory =
      .ok (native.envelopeProjection byCategory)) :
    nativeReconciliation native byCategory = .ok (compatReconciliation byCategory) := by
  have readable := fun entry hentry => (envelope.categories entry hentry).readable
  rw [nativeReconciliation, answer, compatReconciliation]
  simp only [NativeForgeAdapter.envelopeProjection]
  generalize Dict.update [] byCategory = ordered at readable ⊢
  have categories :
      (ordered.map fun entry =>
          (entry, NativeReconciliationCategory.of (native.observedCategory entry))).mapM
          (fun slot => nativeCategory slot.1 slot.2) =
        .ok (ordered.map fun entry => (entry.1, compatCategory entry.2)) := by
    have step : ∀ slot ∈ ordered.map fun entry =>
          (entry, NativeReconciliationCategory.of (native.observedCategory entry)),
        ∀ category, nativeCategory slot.1 slot.2 = .ok category ↔
          True ∧ category = (slot.1.1, compatCategory slot.1.2) := by
      intro slot hslot category
      obtain ⟨entry, hentry, rfl⟩ := List.mem_map.mp hslot
      rw [nativeCategory_observed (readable entry hentry), Except.ok.injEq, true_and, eq_comm]
    refine (mapM_eq_ok step).mpr ⟨fun _ _ => trivial, ?_⟩
    rw [List.map_map]
    rfl
  have conflicting : ∀ entry ∈ ordered,
      (native.observedCategory entry).conflict =
        decide (1 < (observedValues entry.2).length) := fun entry hentry => by
    rw [observedValues_length (readable entry hentry)]
    rfl
  have conflicts :
      ((ordered.map fun entry =>
          (entry, NativeReconciliationCategory.of (native.observedCategory entry))).filter
          fun slot => slot.2.conflict).map (fun slot => slot.1.1) =
        (ordered.filter fun entry => 1 < (observedValues entry.2).length).map Prod.fst := by
    rw [List.filter_map, List.map_map]
    congr 1
    exact List.filter_congr conflicting
  have conflictCount :
      (ordered.map native.observedCategory).countP (·.conflict) =
        (ordered.filter fun entry => 1 < (observedValues entry.2).length).length := by
    rw [List.countP_map, List.countP_congr (q := fun entry =>
      decide (1 < (observedValues entry.2).length)) fun entry hentry => by
        rw [Function.comp_apply, conflicting entry hentry], List.countP_eq_length_filter]
  have observedCount :
      (ordered.map fun entry => (native.observedCategory entry).observedCount) =
        ordered.map fun entry => entry.2.length :=
    List.map_congr_left fun entry hentry =>
      recordStatuses_length fun record hrecord => (readable entry hentry record hrecord).status
  have unsupportedCount :
      (ordered.map fun entry => (native.observedCategory entry).unsupportedCount) =
        ordered.map fun entry => (unsupportedValues entry.2).length :=
    List.map_congr_left fun entry hentry =>
      (unsupportedValues_length (readable entry hentry)).symm
  have aggregate :
      joinedStatus (ordered.map fun entry => (native.observedCategory entry).status) =
        aggregateStatus
          (ordered.map fun entry => (compatCategory entry.2).status.value) := by
    rw [aggregateStatus_eq, List.filterMap_map]
    simp only [Function.comp_def, Status.ofString?_value, List.filterMap_eq_map']
    exact congrArg joinedStatus (List.map_congr_left fun entry hentry =>
      (aggregate_observedValues (readable entry hentry)).symm)
  have zipped :
      ordered.zip ((ordered.map native.observedCategory).map .of) =
        ordered.map fun entry =>
          (entry, NativeReconciliationCategory.of (native.observedCategory entry)) := by
    rw [List.map_map, zip_map]
    rfl
  refine bind_eq_ok.mpr ⟨_, rfl, ?_⟩
  dsimp only
  rw [zipped, conflicts, categories]
  simp only [bind_eq_ok, refuseIf_eq_ok, conflictCount]
  simp only [List.map_map, Function.comp_def, List.length_map, observedCount,
    unsupportedCount, aggregate, Except.ok.injEq]
  simp

/-- Where the kernel answers, it answers what the service would have found. -/
theorem nativeReconciliation_eq_ok (documented : native.core.Documented)
    (present : ∀ category, native.categoryDigest category ≠ Digest32.zero)
    {reconciled : Reconciled} :
    nativeReconciliation native byCategory = .ok reconciled ↔
      EvidenceEnvelope byCategory ∧ reconciled = compatReconciliation byCategory := by
  have exchange : ∀ projection, native.reconciliationProjection byCategory = .ok projection ↔ _ :=
    fun _ => NativeForgeAdapter.reconciliationProjection_eq_ok documented present
  constructor
  · intro h
    obtain ⟨projection, hprojection, _⟩ := bind_eq_ok.mp h
    obtain ⟨envelope, rfl⟩ := (exchange projection).mp hprojection
    rw [nativeReconciliation_envelope envelope hprojection, Except.ok.injEq] at h
    exact ⟨envelope, h.symm⟩
  · rintro ⟨envelope, rfl⟩
    exact nativeReconciliation_envelope envelope ((exchange _).mpr ⟨envelope, rfl⟩)

/-- The kernel and the service classify every envelope alike, and so does
`reconcile` with and without the kernel. -/
theorem reconciliation_agrees (documented : native.core.Documented)
    (present : ∀ category, native.categoryDigest category ≠ Digest32.zero) :
    (∀ byCategory reconciled,
      nativeReconciliation native byCategory = .ok reconciled ↔
        EvidenceEnvelope byCategory ∧ reconciled = compatReconciliation byCategory) ∧
    ∀ results, EvidenceEnvelope (groupByCategory results) →
      reconciliation (some native) results = reconciliation none results := by
  refine ⟨fun byCategory reconciled => nativeReconciliation_eq_ok documented present, ?_⟩
  intro results envelope
  exact (nativeReconciliation_eq_ok documented present).mpr ⟨envelope, rfl⟩

end Agreement

/-! ### A sample -/

def sampleNative : NativeForgeAdapter where
  core := referenceCore
  sha256 _ := ⟨List.replicate 32 1, rfl⟩

theorem sampleNative_present (category : String) :
    sampleNative.categoryDigest category ≠ Digest32.zero := by
  have one : (⟨List.replicate 32 1, rfl⟩ : Digest32) ≠ Digest32.zero := by decide
  exact one

def sampleResult (category status : String) (unsupported : List Json) : ForgeRecord where
  recordType := .workflowResult
  schemaVersion := "1"
  fields :=
    [("category", .str category), ("output_identity", .str "result:01"),
     ("status", .str status), ("unsupported_constructs", .arr unsupported)]
  sourceSchemaVersion := "1"

/-- Two categories, the first in conflict. -/
def sampleResults : List ForgeRecord :=
  [sampleResult "fuzz" "PASS" [], sampleResult "tests" "PASS" [.str "asm"],
   sampleResult "fuzz" "FAIL" [.str "asm", .str "ffi"]]

theorem sampleResults_envelope : EvidenceEnvelope (groupByCategory sampleResults) where
  named := by decide +kernel
  bounded := by decide +kernel
  categories := by
    have grouped : Dict.update [] (groupByCategory sampleResults) =
        [("fuzz", [sampleResult "fuzz" "PASS" [],
          sampleResult "fuzz" "FAIL" [.str "asm", .str "ffi"]]),
         ("tests", [sampleResult "tests" "PASS" [.str "asm"]])] := by decide +kernel
    rw [grouped]
    simp only [List.forall_mem_cons, List.not_mem_nil, false_imp_iff, implies_true, and_true]
    refine ⟨⟨by decide, by decide, ?_, by decide +kernel⟩,
      ⟨by decide, by decide, ?_, by decide +kernel⟩⟩ <;>
      simp only [List.forall_mem_cons, List.not_mem_nil, false_imp_iff, implies_true, and_true]
    · exact ⟨⟨by decide +kernel, by decide +kernel⟩, ⟨by decide +kernel, by decide +kernel⟩⟩
    · exact ⟨by decide +kernel, by decide +kernel⟩

theorem reconciliation_agrees_sample :
    reconciliation (some sampleNative) sampleResults = reconciliation none sampleResults ∧
      (compatReconciliation (groupByCategory sampleResults)).conflicts = ["fuzz"] :=
  ⟨(reconciliation_agrees referenceCore_documented sampleNative_present).2 sampleResults
      sampleResults_envelope,
    by decide +kernel⟩

end MncsForge.Application
