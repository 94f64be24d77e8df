import Mathlib
import MncsForge.Native.ProviderPolicy
import MncsForge.Application.Evidence

/-!
# Provider capabilities

Which required capabilities the configured providers establish and which block:
once by membership in the declared, probed and unsupported lists, once through
the native provider policy and the native status join.
-/

namespace MncsForge.Application

open MncsForge.Foundation MncsForge.Native
open Lifecycle (sortedTexts)

structure Provider where
  providerId : String
  required : Bool
  capabilities : List String

/-- What a probe record says that the policy reads. -/
structure ProviderProbe where
  providerId : String
  status : String
  executableIdentity : Option String
  probedCapabilities : List String
  unsupportedConstructs : List String

inductive Availability where
  | unknown
  | unavailable
  | available
  deriving DecidableEq, Repr

structure InventoryItem where
  providerId : String
  availability : Availability
  status : Status
  lastProbeResult : Option ProviderProbe
  probeStale : Bool

/-- The providers are the values of a dictionary, one for each identifier; the
probes are in the order of the records.  The observer resolves an executable. -/
structure ProviderService where
  providers : List Provider
  requiredCapabilities : List String
  probes : List ProviderProbe
  providerExecutable : Provider → Except ForgeError String

/-! ## The report -/

inductive Blocker where
  | requiredProvider (providerId : String)
  | requiredCapability (capability : String) (providers : List String)
  deriving DecidableEq

def Blocker.problem : Blocker → String
  | requiredProvider _ =>
      "required provider is unavailable, unprobed, stale, or inconclusive"
  | requiredCapability _ _ =>
      "no current recognized provider probe established this capability"

/-- Every blocker is `UNKNOWN`. -/
def Blocker.status (_ : Blocker) : Status := .unknown

structure SatisfiedCapability where
  capability : String
  providers : List String
  deriving DecidableEq

def SatisfiedCapability.status (_ : SatisfiedCapability) : Status := .pass

structure CapabilityReport where
  requiredCapabilities : List String
  satisfied : List SatisfiedCapability
  blockers : List Blocker
  informationalLimitations : List String
  blocked : Bool
  status : Status
  noRequirementNote : Option String
  deriving DecidableEq

/-- What one of the two classifiers finds out about a provider. -/
structure CapabilityFacts where
  candidates : List String
  established : List String

namespace ProviderService

variable (service : ProviderService)

def latestProbe (providerId : String) : Option ProviderProbe :=
  service.probes.reverse.find? fun probe => probe.providerId = providerId

def inventoryItem (provider : Provider) : InventoryItem :=
  let latest := service.latestProbe provider.providerId
  match service.providerExecutable provider with
  | .error _ =>
      { providerId := provider.providerId
        availability := .unavailable
        status := .unknown
        lastProbeResult := latest
        probeStale := false }
  | .ok identity =>
      let probeStale :=
        latest.any fun probe => decide (probe.executableIdentity ≠ some identity)
      { providerId := provider.providerId
        availability := .available
        status :=
          if latest.any (fun probe => decide (probe.status = "PASS")) && !probeStale then .pass
          else .unknown
        lastProbeResult := latest
        probeStale := probeStale }

/-- `inventory`, each item beside its provider. -/
def inventory : List (Provider × InventoryItem) :=
  service.providers.map fun provider => (provider, service.inventoryItem provider)

def required (requested : List String) : List String :=
  Dict.sortedSet (service.requiredCapabilities ++ requested)

/-! ### The plain classifier -/

def isRequiredBlocker (entry : Provider × InventoryItem) : Bool :=
  entry.1.required && decide (entry.2.status ≠ .pass)

def isOptionalUnavailable (entry : Provider × InventoryItem) : Bool :=
  !entry.1.required && decide (entry.2.availability ≠ .available)

def providerBlockers : List Blocker :=
  (service.inventory.filter isRequiredBlocker).map fun entry =>
    .requiredProvider entry.1.providerId

def providerLimitations : List String :=
  (service.inventory.filter fun entry =>
    !isRequiredBlocker entry && isOptionalUnavailable entry).map fun entry =>
      entry.1.providerId

def probeEstablishes (capability : String) (item : InventoryItem) : Bool :=
  item.status = .pass ∧
    (item.lastProbeResult.any fun probe =>
      decide (capability ∈ probe.probedCapabilities) &&
        decide (capability ∉ probe.unsupportedConstructs)) = true

def capabilityFacts (capability : String) : CapabilityFacts :=
  let candidates := service.inventory.filter fun entry => capability ∈ entry.1.capabilities
  let established := candidates.filter fun entry => probeEstablishes capability entry.2
  { candidates := sortedTexts (candidates.map fun entry => entry.2.providerId)
    established := sortedTexts (established.map fun entry => entry.2.providerId) }

/-! ### The native classifier -/

section Native

variable (native : NativeForgeAdapter)

def providerDecision (entry : Provider × InventoryItem) :
    Except ForgeError NativeProviderCapabilityDecision :=
  native.providerCapabilityProjection none [] [] [] entry.2.status entry.1.required
    (decide (entry.2.availability = .available))

def capabilityDecision (capability : String) (entry : Provider × InventoryItem) :
    Except ForgeError NativeProviderCapabilityDecision :=
  native.providerCapabilityProjection (some capability) entry.1.capabilities
    ((entry.2.lastProbeResult.map (·.probedCapabilities)).getD [])
    ((entry.2.lastProbeResult.map (·.unsupportedConstructs)).getD [])
    entry.2.status entry.1.required (decide (entry.2.availability = .available))

/-- The decisions about the providers, each beside its identifier. -/
def nativeProviderDecisions :
    Except ForgeError (List (String × NativeProviderCapabilityDecision)) :=
  service.inventory.mapM fun entry => do
    let decision ← providerDecision native entry
    .ok (entry.1.providerId, decision)

def nativeCapabilityFacts (capability : String) : Except ForgeError CapabilityFacts := do
  let decisions ← service.inventory.mapM fun entry => do
    let decision ← capabilityDecision native capability entry
    .ok (entry.2.providerId, decision)
  .ok
    { candidates :=
        sortedTexts ((decisions.filter fun entry => entry.2.candidate).map Prod.fst)
      established :=
        sortedTexts ((decisions.filter fun entry => entry.2.established).map Prod.fst) }

end Native

/-! ### The report of either -/

def satisfiedCapabilities (facts : List (String × CapabilityFacts)) :
    List SatisfiedCapability :=
  (facts.filter fun entry => entry.2.established ≠ []).map fun entry =>
    ⟨entry.1, entry.2.established⟩

def capabilityBlockersOf (facts : List (String × CapabilityFacts)) : List Blocker :=
  (facts.filter fun entry => entry.2.established = []).map fun entry =>
    .requiredCapability entry.1 entry.2.candidates

/-- `_aggregate_status`. -/
def aggregate (native : Option NativeForgeAdapter) (statuses : List Status) : Status :=
  match statuses, native with
  | [], _ => .unknown
  | statuses, none => aggregateStatus (statuses.map Status.value)
  | statuses, some native => native.statusAggregate statuses

def report (native : Option NativeForgeAdapter) (required : List String)
    (providerBlockers : List Blocker) (informational : List String)
    (facts : List (String × CapabilityFacts)) : CapabilityReport :=
  let satisfied := satisfiedCapabilities facts
  let blockers := providerBlockers ++ capabilityBlockersOf facts
  { requiredCapabilities := required
    satisfied := satisfied
    blockers := blockers
    informationalLimitations := informational
    blocked := !blockers.isEmpty
    status :=
      if required ≠ [] ∨ blockers ≠ [] then
        aggregate native (satisfied.map (·.status) ++ blockers.map (·.status))
      else .pass
    noRequirementNote :=
      if required = [] ∧ blockers = [] then
        some ("PASS with no required capabilities means only that no capability policy " ++
          "is blocked; it is not structural-analysis evidence")
      else none }

def capabilityBlockers (native : Option NativeForgeAdapter) (requested : List String) :
    Except ForgeError CapabilityReport :=
  let required := service.required requested
  match native with
  | none =>
      .ok (report none required service.providerBlockers service.providerLimitations
        (required.map fun capability => (capability, service.capabilityFacts capability)))
  | some native => do
      let decisions ← service.nativeProviderDecisions native
      let facts ← required.mapM fun capability => do
        let facts ← service.nativeCapabilityFacts native capability
        .ok (capability, facts)
      .ok (report (some native) required
        ((decisions.filter fun entry => entry.2.requiredBlocker).map fun entry =>
          .requiredProvider entry.1)
        ((decisions.filter fun entry =>
          !entry.2.requiredBlocker && entry.2.optionalUnavailable).map Prod.fst)
        facts)

/-! ## Both classifiers -/

section Agreement

variable {service} {native : NativeForgeAdapter}

/-- No name is the empty text. -/
structure Nonempty (capability : String) (entry : Provider × InventoryItem) : Prop where
  capability : capability ≠ ""
  declared : "" ∉ entry.1.capabilities
  probed : "" ∉ (entry.2.lastProbeResult.map (·.probedCapabilities)).getD []
  unsupported : "" ∉ (entry.2.lastProbeResult.map (·.unsupportedConstructs)).getD []

/-- The digests of the names tell the capability from the rest. -/
structure DigestsDistinct (native : NativeForgeAdapter) (capability : String)
    (entry : Provider × InventoryItem) : Prop where
  declared : Distinguished native (some capability) entry.1.capabilities
  probed : Distinguished native (some capability)
    ((entry.2.lastProbeResult.map (·.probedCapabilities)).getD [])
  unsupported : Distinguished native (some capability)
    ((entry.2.lastProbeResult.map (·.unsupportedConstructs)).getD [])

/-- The decision on a provider with these findings about a capability. -/
def plainDecision (entry : Provider × InventoryItem) (candidate established : Bool) :
    NativeProviderCapabilityDecision where
  candidate := candidate
  established := established
  requiredBlocker := isRequiredBlocker entry
  optionalUnavailable := isOptionalUnavailable entry
  valid := true

private theorem not_statusIsPass (status : Status) :
    (!ProviderPolicy.statusIsPass status) = decide (status ≠ .pass) := by
  cases status <;> rfl

theorem providerDecision_eq_ok (documented : native.core.Documented)
    (entry : Provider × InventoryItem) (decision : NativeProviderCapabilityDecision) :
    providerDecision native entry = .ok decision ↔
      True ∧ decision = plainDecision entry false false := by
  have distinct : Distinguished native none [] := fun _ h => by cases h
  rw [providerDecision, providerCapabilityProjection_eq_ok documented distinct distinct distinct]
  simp [named, plainDecision, isRequiredBlocker, isOptionalUnavailable, not_statusIsPass]

theorem capabilityDecision_eq_ok (documented : native.core.Documented) {capability : String}
    {entry : Provider × InventoryItem} (distinct : DigestsDistinct native capability entry)
    (decision : NativeProviderCapabilityDecision) :
    capabilityDecision native capability entry = .ok decision ↔
      Nonempty capability entry ∧ decision =
        plainDecision entry (decide (capability ∈ entry.1.capabilities))
          (decide (capability ∈ entry.1.capabilities) && probeEstablishes capability entry.2) := by
  rw [capabilityDecision, providerCapabilityProjection_eq_ok documented distinct.declared
    distinct.probed distinct.unsupported]
  have texts : ("" ∉ entry.1.capabilities ∧
      "" ∉ (entry.2.lastProbeResult.map (·.probedCapabilities)).getD [] ∧
      "" ∉ (entry.2.lastProbeResult.map (·.unsupportedConstructs)).getD [] ∧
      some capability ≠ some "") ↔ Nonempty capability entry := by
    constructor
    · rintro ⟨declared, probed, unsupported, named⟩
      exact ⟨fun h => named (congrArg some h), declared, probed, unsupported⟩
    · rintro ⟨named, declared, probed, unsupported⟩
      exact ⟨declared, probed, unsupported, fun h => named (Option.some.inj h)⟩
  have established :
      (named (some capability) entry.1.capabilities &&
          ProviderPolicy.statusIsPass entry.2.status &&
          named (some capability) ((entry.2.lastProbeResult.map (·.probedCapabilities)).getD []) &&
          !named (some capability)
            ((entry.2.lastProbeResult.map (·.unsupportedConstructs)).getD [])) =
        (decide (capability ∈ entry.1.capabilities) && probeEstablishes capability entry.2) := by
    have pass : ∀ status, ProviderPolicy.statusIsPass status = decide (status = .pass) := by
      intro status
      cases status <;> rfl
    simp only [named, probeEstablishes, pass]
    cases entry.2.lastProbeResult with
    | none => simp
    | some probe => simp [Bool.and_assoc]
  rw [texts, established]
  simp only [named, plainDecision, isRequiredBlocker, isOptionalUnavailable, not_statusIsPass,
    decide_not]

/-- The facts the plain classifier finds. -/
theorem nativeCapabilityFacts_eq_ok (documented : native.core.Documented) {capability : String}
    (distinct : ∀ entry ∈ service.inventory, DigestsDistinct native capability entry)
    (facts : CapabilityFacts) :
    service.nativeCapabilityFacts native capability = .ok facts ↔
      (∀ entry ∈ service.inventory, Nonempty capability entry) ∧
        facts = service.capabilityFacts capability := by
  have decided : ∀ entry ∈ service.inventory, ∀ result,
      (do
        let decision ← capabilityDecision native capability entry
        .ok (entry.2.providerId, decision) :
          Except ForgeError (String × NativeProviderCapabilityDecision)) = .ok result ↔
        Nonempty capability entry ∧ result =
          (entry.2.providerId,
            plainDecision entry (decide (capability ∈ entry.1.capabilities))
              (decide (capability ∈ entry.1.capabilities) &&
                probeEstablishes capability entry.2)) := by
    intro entry hentry result
    simp only [bind_eq_ok, capabilityDecision_eq_ok documented (distinct entry hentry),
      Except.ok.injEq]
    constructor
    · rintro ⟨_, ⟨hnonempty, rfl⟩, rfl⟩
      exact ⟨hnonempty, rfl⟩
    · rintro ⟨hnonempty, rfl⟩
      exact ⟨_, ⟨hnonempty, rfl⟩, rfl⟩
  have collected : service.capabilityFacts capability =
      { candidates :=
          sortedTexts ((service.inventory.filter fun entry =>
            decide (capability ∈ entry.1.capabilities)).map fun entry => entry.2.providerId)
        established :=
          sortedTexts ((service.inventory.filter fun entry =>
            decide (capability ∈ entry.1.capabilities) &&
              probeEstablishes capability entry.2).map fun entry => entry.2.providerId) } := by
    rw [capabilityFacts, List.filter_filter]
    simp only [Bool.and_comm]
  rw [nativeCapabilityFacts, bind_eq_ok, collected]
  simp only [mapM_eq_ok decided, Except.ok.injEq]
  constructor
  · rintro ⟨_, ⟨hnonempty, rfl⟩, rfl⟩
    simp only [List.filter_map, List.map_map]
    exact ⟨hnonempty, rfl⟩
  · rintro ⟨hnonempty, rfl⟩
    refine ⟨_, ⟨hnonempty, rfl⟩, ?_⟩
    simp only [List.filter_map, List.map_map]
    rfl

theorem nativeProviderDecisions_eq (documented : native.core.Documented) :
    service.nativeProviderDecisions native =
      .ok (service.inventory.map fun entry =>
        (entry.1.providerId, plainDecision entry false false)) := by
  refine (mapM_eq_ok fun entry _ result => ?_).mpr ⟨fun _ _ => trivial, rfl⟩
  simp only [bind_eq_ok, providerDecision_eq_ok documented, true_and, exists_eq_left,
    Except.ok.injEq]
  exact eq_comm

theorem aggregate_native (documented : native.core.Documented) (statuses : List Status) :
    aggregate (some native) statuses = aggregate none statuses := by
  cases statuses with
  | nil => rfl
  | cons status statuses =>
      have recognized : ((status :: statuses).map Status.value).filterMap Status.ofString? =
          status :: statuses := by
        rw [List.filterMap_map]
        simp
      simp only [aggregate]
      rw [statusAggregate_eq documented (by simp), aggregateStatus_eq, recognized]

private theorem report_native (documented : native.core.Documented) (required : List String)
    (blockers : List Blocker) (informational : List String)
    (facts : List (String × CapabilityFacts)) :
    report (some native) required blockers informational facts =
      report none required blockers informational facts := by
  simp only [report, aggregate_native documented]

/-- Through the native policy the report is the plain one, and it is refused
exactly when a name that has to be looked up is empty. -/
theorem capabilityBlockers_native_iff (documented : native.core.Documented)
    {requested : List String}
    (distinct : ∀ capability ∈ service.required requested, ∀ entry ∈ service.inventory,
      DigestsDistinct native capability entry)
    {answer : CapabilityReport} :
    service.capabilityBlockers (some native) requested = .ok answer ↔
      (∀ capability ∈ service.required requested, ∀ entry ∈ service.inventory,
          Nonempty capability entry) ∧
        service.capabilityBlockers none requested = .ok answer := by
  have facts : ∀ capability ∈ service.required requested, ∀ result,
      (do
        let facts ← service.nativeCapabilityFacts native capability
        .ok (capability, facts) : Except ForgeError (String × CapabilityFacts)) = .ok result ↔
        (∀ entry ∈ service.inventory, Nonempty capability entry) ∧
          result = (capability, service.capabilityFacts capability) := by
    intro capability hcapability result
    simp only [bind_eq_ok,
      nativeCapabilityFacts_eq_ok documented (distinct capability hcapability), Except.ok.injEq]
    constructor
    · rintro ⟨_, ⟨hnonempty, rfl⟩, rfl⟩
      exact ⟨hnonempty, rfl⟩
    · rintro ⟨hnonempty, rfl⟩
      exact ⟨_, ⟨hnonempty, rfl⟩, rfl⟩
  simp only [capabilityBlockers, nativeProviderDecisions_eq documented, bind_eq_ok,
    Except.ok.injEq, exists_eq_left', mapM_eq_ok facts, report_native documented]
  have blockers :
      (((service.inventory.map fun entry =>
          (entry.1.providerId, plainDecision entry false false)).filter
          fun entry => entry.2.requiredBlocker).map fun entry =>
            Blocker.requiredProvider entry.1) = service.providerBlockers := by
    rw [List.filter_map, List.map_map]
    rfl
  have limitations :
      (((service.inventory.map fun entry =>
          (entry.1.providerId, plainDecision entry false false)).filter
          fun entry => !entry.2.requiredBlocker && entry.2.optionalUnavailable).map
            Prod.fst) = service.providerLimitations := by
    rw [List.filter_map, List.map_map]
    rfl
  rw [blockers, limitations]
  constructor
  · rintro ⟨_, ⟨hnonempty, rfl⟩, h⟩
    exact ⟨hnonempty, h⟩
  · rintro ⟨hnonempty, h⟩
    exact ⟨_, ⟨hnonempty, rfl⟩, h⟩

end Agreement

/-! ### A sample -/

/-- A digest that keeps the last bytes, so that short names stay distinct. -/
def lastBytes (bytes : List UInt8) : Digest32 :=
  ⟨(bytes.reverse ++ List.replicate 32 1).take 32, by simp⟩

def lastBytesNative : NativeForgeAdapter where
  core := referenceCore
  sha256 := lastBytes

def sampleService : ProviderService where
  providers := [⟨"analyzer", true, ["data-flow"]⟩]
  requiredCapabilities := ["data-flow"]
  probes := [⟨"analyzer", "PASS", some "sha256:01", ["data-flow"], ["inline-asm"]⟩]
  providerExecutable _ := .ok "sha256:01"

private theorem sampleService_distinct {capability : String}
    (h : capability ∈ ["", "data-flow"]) :
    ∀ entry ∈ sampleService.inventory, DigestsDistinct lastBytesNative capability entry := by
  have told : ∀ capability ∈ ["", "data-flow"], ∀ value ∈ ["data-flow", "inline-asm"],
      lastBytesNative.capabilityDigest value = lastBytesNative.capabilityDigest capability →
        value = capability := by
    decide +kernel
  intro entry hentry
  obtain rfl := List.mem_singleton.mp hentry
  have distinguished : ∀ values : List String, (∀ value ∈ values,
      value ∈ ["data-flow", "inline-asm"]) →
        Distinguished lastBytesNative (some capability) values := by
    intro values known name hname value hvalue
    obtain rfl := Option.some.inj hname
    exact told capability h value (known value hvalue)
  exact ⟨distinguished _ (by decide +kernel), distinguished _ (by decide +kernel),
    distinguished _ (by decide +kernel)⟩

theorem capabilityBlockers_native_iff_sample :
    sampleService.capabilityBlockers (some lastBytesNative) [] =
        sampleService.capabilityBlockers none [] ∧
      (sampleService.capabilityBlockers none []).toOption.map (·.satisfied) =
        some [⟨"data-flow", ["analyzer"]⟩] := by
  have required : sampleService.required [] = ["data-flow"] := by decide +kernel
  refine ⟨(capabilityBlockers_native_iff referenceCore_documented ?_).mpr ⟨?_, rfl⟩,
    by decide +kernel⟩
  · intro capability hcapability
    rw [required] at hcapability
    exact sampleService_distinct (List.mem_cons_of_mem _ hcapability)
  · intro capability hcapability entry hentry
    rw [required] at hcapability
    obtain rfl := List.mem_singleton.mp hcapability
    obtain rfl := List.mem_singleton.mp hentry
    exact ⟨by decide, by decide +kernel, by decide +kernel, by decide +kernel⟩

/-- An empty required capability blocks in the plain classifier and is refused by
the native one, whatever the digests. -/
theorem capabilityBlockers_native_refused :
    (∀ capability ∈ sampleService.required [""], ∀ entry ∈ sampleService.inventory,
      DigestsDistinct lastBytesNative capability entry) ∧
    (sampleService.capabilityBlockers (some lastBytesNative) [""]).toOption = none ∧
    (sampleService.capabilityBlockers none [""]).toOption.map (·.blockers) =
      some [.requiredCapability "" []] := by
  have required : sampleService.required [""] = ["", "data-flow"] := by decide +kernel
  refine ⟨fun capability hcapability => ?_, by decide +kernel, by decide +kernel⟩
  rw [required] at hcapability
  exact sampleService_distinct hcapability

end ProviderService

/-! ## The join of provider statuses -/

/-- The recognized texts among these. -/
theorem recognized_texts (statuses : List String) (status : Status) :
    status ∈ statuses.filterMap Status.ofString? ↔ status.value ∈ statuses := by
  rw [List.mem_filterMap]
  constructor
  · rintro ⟨text, member, named⟩
    rwa [← Status.eq_value_of_ofString? named]
  · intro member
    exact ⟨_, member, Status.ofString?_value status⟩

/-- The native calls join texts as the fold of the host does: by what occurs
among them, in any order, and with any part of them joined before. -/
theorem statusAggregateTexts_eq {native : NativeForgeAdapter} (documented : native.core.Documented)
    (empty : ∀ statuses, (native.core.summarizePrefix statuses 0).status = .unknown)
    (statuses : List String) :
    native.statusAggregateTexts statuses = (aggregateStatus statuses).value ∧
      native.statusAggregateTexts statuses =
        (if "FAIL" ∈ statuses then "FAIL"
        else if "UNKNOWN" ∈ statuses ∨ ∀ status ∈ statuses, Status.ofString? status = none
          then "UNKNOWN"
        else "PASS") ∧
      (∀ other, statuses.Perm other →
        native.statusAggregateTexts other = native.statusAggregateTexts statuses) ∧
      ∀ first second, statuses = first ++ second →
        (∃ status ∈ first, (Status.ofString? status).isSome) →
          native.statusAggregateTexts (native.statusAggregateTexts first :: second) =
            native.statusAggregateTexts statuses := by
  have joins : ∀ texts, native.statusAggregateTexts texts =
      (joinedStatus (texts.filterMap Status.ofString?)).value := fun texts =>
    congrArg Status.value (statusAggregate_eq_joinedStatus documented empty _)
  refine ⟨?_, ?_, ?_, ?_⟩
  · rw [joins, aggregateStatus_eq]
  · have failing := recognized_texts statuses .fail
    have unknown := recognized_texts statuses .unknown
    rw [joins, joinedStatus_eq]
    simp only [failing, unknown, List.filterMap_eq_nil_iff, Status.value, or_comm]
    split_ifs <;> rfl
  · intro other permuted
    rw [joins, joins]
    refine congrArg Status.value (joinedStatus_congr fun status => ?_)
    rw [recognized_texts, recognized_texts, permuted.mem_iff]
  · rintro first second rfl ⟨text, member, named⟩
    have nonempty : first.filterMap Status.ofString? ≠ [] := by
      rw [Ne, List.filterMap_eq_nil_iff]
      intro none
      simp [none text member] at named
    rw [joins, joins, joins, List.filterMap_cons_some (Status.ofString?_value _),
      List.filterMap_append, joinedStatus_append nonempty]

theorem statusAggregateTexts_eq_sample :
    ProviderService.lastBytesNative.statusAggregateTexts
        (List.replicate 17 "PASS" ++ ["STALE", "UNKNOWN"]) =
      (aggregateStatus (List.replicate 17 "PASS" ++ ["STALE", "UNKNOWN"])).value :=
  (@statusAggregateTexts_eq ProviderService.lastBytesNative referenceCore_documented
    (fun _ => rfl) (List.replicate 17 "PASS" ++ ["STALE", "UNKNOWN"])).1

end MncsForge.Application
