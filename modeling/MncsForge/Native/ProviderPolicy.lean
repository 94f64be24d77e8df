import Mathlib
import MncsForge.Native.Adapter

/-!
# The native provider policy

`provider_policy.mncs` folds 16 facts of each kind at a time over a carried
state.  The host streams lists of any length through it, and joins statuses of
any number through the 16-slot status kernel.
-/

namespace MncsForge.Native.ProviderPolicy

structure CapabilityChunk where
  requested : Digest32
  capabilityActive : Bool
  declared : List Digest32
  declaredCount : Nat
  probed : List Digest32
  probedCount : Nat
  unsupported : List Digest32
  unsupportedCount : Nat

structure ProviderCapabilityState where
  providerStatus : Status
  providerRequired : Bool
  providerAvailable : Bool
  candidate : Bool
  probed : Bool
  unsupported : Bool
  established : Bool
  requiredBlocker : Bool
  optionalUnavailable : Bool
  valid : Bool
  deriving DecidableEq

section Kernel

variable (core : CoreLibrary)

def containsDigest (values : List Digest32) (count : Nat) (wanted : Digest32) : Bool :=
  foldActive (fun found value => found || core.equal value wanted) count values false

def statusIsPass : Status → Bool
  | .pass => true
  | .fail => false
  | .unknown => false

def providerCapabilityFold (state : ProviderCapabilityState) (input : CapabilityChunk) :
    ProviderCapabilityState :=
  let countsValid :=
    decide (input.declaredCount ≤ 16) && decide (input.probedCount ≤ 16) &&
      decide (input.unsupportedCount ≤ 16)
  let valid := state.valid && countsValid
  let declaredMatch :=
    input.capabilityActive &&
      containsDigest core input.declared input.declaredCount input.requested
  let probedMatch :=
    input.capabilityActive &&
      containsDigest core input.probed input.probedCount input.requested
  let unsupportedMatch :=
    input.capabilityActive &&
      containsDigest core input.unsupported input.unsupportedCount input.requested
  let candidate := state.candidate || declaredMatch
  let probed := state.probed || probedMatch
  let unsupported := state.unsupported || unsupportedMatch
  { providerStatus := state.providerStatus
    providerRequired := state.providerRequired
    providerAvailable := state.providerAvailable
    candidate := candidate
    probed := probed
    unsupported := unsupported
    established :=
      valid && candidate && statusIsPass state.providerStatus && probed && !unsupported
    requiredBlocker := state.providerRequired && !statusIsPass state.providerStatus
    optionalUnavailable := !state.providerRequired && !state.providerAvailable
    valid := valid }

/-- `status_aggregate` of the core module. -/
def statusAggregate (statuses : List Status) (statusCount : Nat) : Status :=
  let summary := core.summarizePrefix statuses statusCount
  if !summary.valid then .unknown else summary.status

theorem containsDigest_append (documented : core.Documented) (active padding : List Digest32)
    (wanted : Digest32) :
    containsDigest core (active ++ padding) active.length wanted =
      decide (wanted ∈ active) := by
  have folded : ∀ (values : List Digest32) (found : Bool),
      values.foldl (fun found value => found || core.equal value wanted) found =
        (found || decide (wanted ∈ values)) := by
    intro values
    induction values with
    | nil => simp
    | cons value values ih =>
        intro found
        rw [List.foldl_cons, ih, documented.equal_eq]
        simp [Bool.or_assoc, eq_comm]
  rw [containsDigest, foldActive_append, folded, Bool.false_or]

end Kernel

end MncsForge.Native.ProviderPolicy

namespace MncsForge.Native

open MncsForge.Foundation
open ProviderPolicy (CapabilityChunk ProviderCapabilityState providerCapabilityFold)

structure NativeProviderCapabilityDecision where
  candidate : Bool
  established : Bool
  requiredBlocker : Bool
  optionalUnavailable : Bool
  valid : Bool
  deriving DecidableEq

/-! ## Chunks -/

/-- `values[offset : offset + 16]` of the chunk with this index. -/
def chunkAt {α : Type*} (index : Nat) (values : List α) : List α :=
  (values.drop (index * 16)).take 16

def chunkCount (lengths : List Nat) : Nat :=
  (lengths.map fun length => (length + 15) / 16).foldl max 1

section Chunks

variable {α : Type*}

theorem chunkAt_length_le (index : Nat) (values : List α) :
    (chunkAt index values).length ≤ 16 := List.length_take_le _ _

private theorem le_foldl_max (values : List Nat) (least : Nat) :
    least ≤ values.foldl max least ∧ ∀ value ∈ values, value ≤ values.foldl max least := by
  induction values generalizing least with
  | nil => simp
  | cons value values ih =>
      obtain ⟨hleast, hvalues⟩ := ih (max least value)
      rw [List.foldl_cons, List.forall_mem_cons]
      exact ⟨by omega, by omega, hvalues⟩

theorem chunkCount_pos (lengths : List Nat) : 0 < chunkCount lengths :=
  (le_foldl_max _ 1).1

theorem le_chunkCount {lengths : List Nat} {length : Nat} (h : length ∈ lengths) :
    length ≤ chunkCount lengths * 16 := by
  have := (le_foldl_max _ 1).2 _ (List.mem_map_of_mem (f := fun length => (length + 15) / 16) h)
  rw [← chunkCount] at this
  omega

theorem take_next_chunk (index : Nat) (values : List α) :
    values.take ((index + 1) * 16) = values.take (index * 16) ++ chunkAt index values := by
  rw [chunkAt, Nat.succ_mul, List.take_add]

end Chunks

namespace NativeForgeAdapter

variable (native : NativeForgeAdapter)

/-! ## The capability request -/

/-- `b"mncs-forge.provider-capability.v1\0"`. -/
def capabilityTag : List UInt8 :=
  [109, 110, 99, 115, 45, 102, 111, 114, 103, 101, 46, 112, 114, 111, 118, 105, 100, 101,
   114, 45, 99, 97, 112, 97, 98, 105, 108, 105, 116, 121, 46, 118, 49, 0]

example : capabilityTag = utf8 "mncs-forge.provider-capability.v1\x00" := by
  decide +kernel

def capabilityDigest (value : String) : Digest32 :=
  native.sha256 (capabilityTag ++ utf8 value)

def padded (digests : List Digest32) : List Digest32 :=
  digests ++ List.replicate (16 - digests.length) Digest32.zero

/-- The chunk of three lists of digests with this index. -/
def capabilityChunk (capability : Option String) (declared probed unsupported : List String)
    (index : Nat) : CapabilityChunk :=
  let encoded := fun values => (chunkAt index values).map native.capabilityDigest
  { requested := (capability.map native.capabilityDigest).getD Digest32.zero
    capabilityActive := capability.isSome
    declared := padded (encoded declared)
    declaredCount := (encoded declared).length
    probed := padded (encoded probed)
    probedCount := (encoded probed).length
    unsupported := padded (encoded unsupported)
    unsupportedCount := (encoded unsupported).length }

def initialCapabilityState (providerStatus : Status)
    (providerRequired providerAvailable : Bool) : ProviderCapabilityState where
  providerStatus := providerStatus
  providerRequired := providerRequired
  providerAvailable := providerAvailable
  candidate := false
  probed := false
  unsupported := false
  established := false
  requiredBlocker := false
  optionalUnavailable := false
  valid := true

def providerCapabilityProjection (capability : Option String)
    (declared probed unsupported : List String) (providerStatus : Status)
    (providerRequired providerAvailable : Bool) :
    Except ForgeError NativeProviderCapabilityDecision := do
  refuseIf (∃ value ∈ declared, value = "") "NATIVE_PROVIDER_POLICY_INPUT"
    "declared capabilities are malformed"
  refuseIf (∃ value ∈ probed, value = "") "NATIVE_PROVIDER_POLICY_INPUT"
    "probed capabilities are malformed"
  refuseIf (∃ value ∈ unsupported, value = "") "NATIVE_PROVIDER_POLICY_INPUT"
    "unsupported constructs are malformed"
  refuseIf (capability = some "") "NATIVE_PROVIDER_POLICY_INPUT"
    "required capability is malformed"
  let count := chunkCount [declared.length, probed.length, unsupported.length]
  let state :=
    (List.range count).foldl
      (fun state index =>
        providerCapabilityFold native.core state
          (native.capabilityChunk capability declared probed unsupported index))
      (initialCapabilityState providerStatus providerRequired providerAvailable)
  refuseIf (state.valid = false ∨ (state.established = true ∧ state.candidate = false))
    "NATIVE_PROVIDER_POLICY_UNKNOWN" "native provider capability policy is invalid"
  .ok
    { candidate := state.candidate
      established := state.established
      requiredBlocker := state.requiredBlocker
      optionalUnavailable := state.optionalUnavailable
      valid := state.valid }

/-! ## The status request -/

/-- One native call over at most 16 statuses. -/
def statusAggregateCall (active : List Status) : Status :=
  ProviderPolicy.statusAggregate native.core
    (active ++ List.replicate (16 - active.length) .pass) active.length

/-- The calls after the first one carry the aggregate and 15 statuses; `fuel` is
at least the number of statuses left. -/
def statusAggregateRest (fuel : Nat) (aggregate : Status) (statuses : List Status) : Status :=
  match fuel with
  | 0 => aggregate
  | fuel + 1 =>
      if statuses = [] then aggregate
      else
        statusAggregateRest fuel (native.statusAggregateCall (aggregate :: statuses.take 15))
          (statuses.drop 15)

def statusAggregate (statuses : List Status) : Status :=
  native.statusAggregateRest statuses.length (native.statusAggregateCall (statuses.take 16))
    (statuses.drop 16)

/-- `status_aggregate` reads texts and keeps those that name a status. -/
def statusAggregateTexts (statuses : List String) : String :=
  (native.statusAggregate (statuses.filterMap Status.ofString?)).value

end NativeForgeAdapter

/-! ## What the capability fold decides -/

/-- Whether the capability is one of these names. -/
def named (capability : Option String) (values : List String) : Bool :=
  match capability with
  | none => false
  | some name => decide (name ∈ values)

theorem named_append (capability : Option String) (first second : List String) :
    named capability (first ++ second) = (named capability first || named capability second) := by
  cases capability with
  | none => rfl
  | some name => simp [named]

/-- The state once these facts are read. -/
def readState (capability : Option String) (declared probed unsupported : List String)
    (providerStatus : Status) (providerRequired providerAvailable : Bool) :
    ProviderCapabilityState where
  providerStatus := providerStatus
  providerRequired := providerRequired
  providerAvailable := providerAvailable
  candidate := named capability declared
  probed := named capability probed
  unsupported := named capability unsupported
  established :=
    named capability declared && ProviderPolicy.statusIsPass providerStatus &&
      named capability probed && !named capability unsupported
  requiredBlocker := providerRequired && !ProviderPolicy.statusIsPass providerStatus
  optionalUnavailable := !providerRequired && !providerAvailable
  valid := true

/-- No value shares its digest with the capability unless it is the capability. -/
def Distinguished (native : NativeForgeAdapter) (capability : Option String)
    (values : List String) : Prop :=
  ∀ name, capability = some name → ∀ value ∈ values,
    native.capabilityDigest value = native.capabilityDigest name → value = name

section Decision

variable {native : NativeForgeAdapter} {capability : Option String}
  {declared probed unsupported : List String} {providerStatus : Status}
  {providerRequired providerAvailable : Bool}

theorem chunk_match (documented : native.core.Documented) {values : List String}
    (distinct : Distinguished native capability values) (index : Nat) :
    (capability.isSome &&
        ProviderPolicy.containsDigest native.core
          (NativeForgeAdapter.padded ((chunkAt index values).map native.capabilityDigest))
          ((chunkAt index values).map native.capabilityDigest).length
          ((capability.map native.capabilityDigest).getD Digest32.zero)) =
      named capability (chunkAt index values) := by
  rw [NativeForgeAdapter.padded, ProviderPolicy.containsDigest_append native.core documented]
  cases capability with
  | none => rfl
  | some name =>
      have member : native.capabilityDigest name ∈
          (chunkAt index values).map native.capabilityDigest ↔ name ∈ chunkAt index values := by
        refine ⟨fun h => ?_, List.mem_map_of_mem⟩
        obtain ⟨value, hvalue, heq⟩ := List.mem_map.mp h
        have hmem : value ∈ values := List.mem_of_mem_drop (List.mem_of_mem_take hvalue)
        rwa [← distinct name rfl value hmem heq]
      simp [named, member]

/-- One chunk more is read. -/
theorem providerCapabilityFold_read (documented : native.core.Documented)
    (distinctDeclared : Distinguished native capability declared)
    (distinctProbed : Distinguished native capability probed)
    (distinctUnsupported : Distinguished native capability unsupported)
    (state : ProviderCapabilityState) (readDeclared readProbed readUnsupported : List String)
    (candidate : state.candidate = named capability readDeclared)
    (hprobed : state.probed = named capability readProbed)
    (hunsupported : state.unsupported = named capability readUnsupported)
    (valid : state.valid = true) (index : Nat) :
    providerCapabilityFold native.core state
        (native.capabilityChunk capability declared probed unsupported index) =
      readState capability (readDeclared ++ chunkAt index declared)
        (readProbed ++ chunkAt index probed) (readUnsupported ++ chunkAt index unsupported)
        state.providerStatus state.providerRequired state.providerAvailable := by
  have bound : ∀ values : List String,
      ((chunkAt index values).map native.capabilityDigest).length ≤ 16 := by
    intro values
    rw [List.length_map]
    exact chunkAt_length_le index values
  simp only [providerCapabilityFold, NativeForgeAdapter.capabilityChunk, bound,
    chunk_match documented distinctDeclared, chunk_match documented distinctProbed,
    chunk_match documented distinctUnsupported, candidate, hprobed, hunsupported, valid,
    readState, named_append, decide_true, Bool.and_self, Bool.true_and]

/-- After some chunks, at least one, the facts of these chunks are read. -/
theorem foldl_chunks (documented : native.core.Documented)
    (distinctDeclared : Distinguished native capability declared)
    (distinctProbed : Distinguished native capability probed)
    (distinctUnsupported : Distinguished native capability unsupported)
    (providerStatus : Status) (providerRequired providerAvailable : Bool) (chunks : Nat) :
    (List.range (chunks + 1)).foldl
        (fun state index =>
          providerCapabilityFold native.core state
            (native.capabilityChunk capability declared probed unsupported index))
        (NativeForgeAdapter.initialCapabilityState providerStatus providerRequired
          providerAvailable) =
      readState capability (declared.take ((chunks + 1) * 16)) (probed.take ((chunks + 1) * 16))
        (unsupported.take ((chunks + 1) * 16)) providerStatus providerRequired
        providerAvailable := by
  have step := providerCapabilityFold_read documented distinctDeclared distinctProbed
    distinctUnsupported
  induction chunks with
  | zero =>
      have empty : named capability [] = false := by cases capability <;> simp [named]
      rw [List.range_one, List.foldl_cons, List.foldl_nil,
        step _ [] [] [] empty.symm empty.symm empty.symm rfl]
      simp only [List.nil_append, take_next_chunk, Nat.zero_mul, List.take_zero,
        NativeForgeAdapter.initialCapabilityState]
  | succ chunks ih =>
      rw [List.range_succ, List.foldl_append, ih, List.foldl_cons, List.foldl_nil,
        step _ _ _ _ rfl rfl rfl rfl]
      simp only [take_next_chunk (chunks + 1), readState]

/-- The fold over all chunks decides membership in the whole lists. -/
theorem providerCapabilityProjection_eq_ok (documented : native.core.Documented)
    (distinctDeclared : Distinguished native capability declared)
    (distinctProbed : Distinguished native capability probed)
    (distinctUnsupported : Distinguished native capability unsupported)
    {decision : NativeProviderCapabilityDecision} :
    native.providerCapabilityProjection capability declared probed unsupported providerStatus
        providerRequired providerAvailable = .ok decision ↔
      ("" ∉ declared ∧ "" ∉ probed ∧ "" ∉ unsupported ∧ capability ≠ some "") ∧
        decision =
          { candidate := named capability declared
            established :=
              named capability declared && ProviderPolicy.statusIsPass providerStatus &&
                named capability probed && !named capability unsupported
            requiredBlocker := providerRequired && !ProviderPolicy.statusIsPass providerStatus
            optionalUnavailable := !providerRequired && !providerAvailable
            valid := true } := by
  have state := foldl_chunks documented distinctDeclared distinctProbed distinctUnsupported
    providerStatus providerRequired providerAvailable
    (chunkCount [declared.length, probed.length, unsupported.length] - 1)
  rw [Nat.sub_add_cancel (chunkCount_pos _), List.take_of_length_le (le_chunkCount (by simp)),
    List.take_of_length_le (le_chunkCount (by simp)),
    List.take_of_length_le (le_chunkCount (by simp))] at state
  have malformed : ∀ values : List String, (¬ ∃ value ∈ values, value = "") ↔ "" ∉ values := by
    intro values
    simp
  have answered : ¬ ((readState capability declared probed unsupported providerStatus
      providerRequired providerAvailable).valid = false ∨
      ((readState capability declared probed unsupported providerStatus providerRequired
          providerAvailable).established = true ∧
        (readState capability declared probed unsupported providerStatus providerRequired
          providerAvailable).candidate = false)) := by
    simp only [readState]
    cases named capability declared <;> simp
  rw [NativeForgeAdapter.providerCapabilityProjection]
  simp only [state, refuseIf_bind_eq_ok, malformed, answered, not_false_eq_true, true_and,
    Except.ok.injEq, and_assoc, ne_eq]
  refine and_congr_right fun _ => and_congr_right fun _ => and_congr_right fun _ =>
    and_congr_right fun _ => ?_
  rw [eq_comm, readState]

/-! ## What the status calls decide -/

theorem statusAggregateCall_eq (documented : native.core.Documented) {active : List Status}
    (nonempty : active ≠ []) : native.statusAggregateCall active = joinedStatus active := by
  have room : active.length ≤
      (active ++ List.replicate (16 - active.length) Status.pass).length := by
    simp
  have counts := documented.summarizePrefix_counts
    (active ++ List.replicate (16 - active.length) .pass) active.length
  have valid : (native.core.summarizePrefix
      (active ++ List.replicate (16 - active.length) .pass) active.length).valid = true := by
    rw [counts, prefixSummary]
    exact decide_eq_true room
  rw [NativeForgeAdapter.statusAggregateCall, ProviderPolicy.statusAggregate, valid,
    documented.summarizePrefix_status _ _ (List.length_pos_iff.mpr nonempty) room,
    List.take_left]
  rfl

theorem joinedStatus_append {first second : List Status} (nonempty : first ≠ []) :
    joinedStatus (joinedStatus first :: second) = joinedStatus (first ++ second) := by
  cases first with
  | nil => exact absurd rfl nonempty
  | cons status first => simp [joinedStatus, List.foldl_append]

theorem statusAggregateRest_eq (documented : native.core.Documented) {read rest : List Status}
    (nonempty : read ≠ []) {fuel : Nat} (enough : rest.length ≤ fuel) :
    native.statusAggregateRest fuel (joinedStatus read) rest = joinedStatus (read ++ rest) := by
  induction fuel generalizing read rest with
  | zero =>
      rw [List.length_eq_zero_iff.mp (Nat.le_zero.mp enough), List.append_nil]
      rfl
  | succ fuel ih =>
      rw [NativeForgeAdapter.statusAggregateRest]
      by_cases hrest : rest = []
      · rw [if_pos hrest, hrest, List.append_nil]
      · have shorter : (rest.drop 15).length ≤ fuel := by
          have := List.length_pos_iff.mpr hrest
          rw [List.length_drop]
          omega
        rw [if_neg hrest, statusAggregateCall_eq documented (by simp),
          joinedStatus_append nonempty, ih (by simp [nonempty]) shorter, List.append_assoc,
          List.take_append_drop]

/-- The calls together join all statuses. -/
theorem statusAggregate_eq (documented : native.core.Documented) {statuses : List Status}
    (nonempty : statuses ≠ []) : native.statusAggregate statuses = joinedStatus statuses := by
  have first : statuses.take 16 ≠ [] := by simp [nonempty]
  rw [NativeForgeAdapter.statusAggregate, statusAggregateCall_eq documented first,
    statusAggregateRest_eq documented first (by simp), List.take_append_drop]

theorem statusAggregate_nil
    (empty : ∀ statuses, (native.core.summarizePrefix statuses 0).status = .unknown) :
    native.statusAggregate [] = .unknown := by
  show native.statusAggregateCall [] = .unknown
  unfold NativeForgeAdapter.statusAggregateCall ProviderPolicy.statusAggregate
  simp only [List.nil_append, List.length_nil, empty, ite_self]

/-- An empty list joins to what the core library gives for an empty prefix. -/
theorem statusAggregate_eq_joinedStatus (documented : native.core.Documented)
    (empty : ∀ statuses, (native.core.summarizePrefix statuses 0).status = .unknown)
    (statuses : List Status) : native.statusAggregate statuses = joinedStatus statuses := by
  by_cases nonempty : statuses = []
  · rw [nonempty, statusAggregate_nil empty]
    rfl
  · exact statusAggregate_eq documented nonempty

end Decision

end MncsForge.Native
