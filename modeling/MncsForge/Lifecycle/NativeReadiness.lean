import Mathlib
import MncsForge.Native.ReadinessExchange
import MncsForge.Lifecycle.Evidence

/-!
# Evidence readiness through the native kernel

The readiness that comes back from the native exchange, requirement by
requirement, for the requests the exchange accepts.
-/

namespace MncsForge.Lifecycle

open MncsForge.Foundation MncsForge.Records MncsForge.Native

variable (w : World) (history : History) (native : NativeForgeAdapter)

theorem readinessSubject_nodup (required : Option (List String)) :
    (readinessSubject w required).1.Nodup := by
  cases required with
  | none => exact fromKeys_nodup _
  | some required => exact fromKeys_nodup _

/-- The envelope the host makes of the requirements. -/
def normalizedRequirements (candidate : Option ForgeRecord) (requirements : List String) :
    List (String × NormalizedReadiness) :=
  requirements.map fun requirement =>
    (requirement, normalizedReadiness w history candidate requirement)

/-- What the kernel observes of a requirement. -/
def observedOf (candidate : Option ForgeRecord) (requirement : String) :
    Readiness.RequirementProjection :=
  native.observedRequirement (requirement, normalizedReadiness w history candidate requirement)

/-- The requirements of which something is observed. -/
def observedWhere (candidate : Option ForgeRecord) (requirements : List String)
    (p : Readiness.RequirementProjection → Bool) : List String :=
  Dict.sortedSet
    (requirements.filter fun requirement => p (observedOf w history native candidate requirement))

/-- Nothing is observed that keeps a candidate from being ready. -/
def nativeReady (candidate : Option ForgeRecord) (requirements : List String)
    (policyError : Option String) : Bool :=
  candidate.isSome && policyError.isNone &&
    requirements.all fun requirement =>
      let item := observedOf w history native candidate requirement
      item.classification ≠ .failed && item.classification ≠ .missing &&
        item.classification ≠ .unknown && !item.stale && !item.noncomparable

/-- The readiness the exchange answers with. -/
def exchangedReadiness (candidate : Option ForgeRecord) (required : Option (List String)) :
    EvidenceReadiness :=
  let requirements := (readinessSubject w required).1
  let policyError := (readinessSubject w required).2
  let ready := nativeReady w history native candidate requirements policyError
  { required := requirements
    present := observedWhere w history native candidate requirements
      fun item => 0 < item.observedCount
    missing := observedWhere w history native candidate requirements
      fun item => item.classification = .missing
    unknown := observedWhere w history native candidate requirements
      fun item => item.classification = .unknown
    failed := observedWhere w history native candidate requirements
      fun item => item.classification = .failed
    stale := observedWhere w history native candidate requirements
      fun item => item.classification = .stale || item.stale
    noncomparable := observedWhere w history native candidate requirements
      fun item => item.classification = .nonComparable || item.noncomparable
    records :=
      if candidate.isSome then
        (normalizedRequirements w history candidate requirements).map fun entry =>
          (entry.1, entry.2.records.map identityOf)
      else []
    ready := ready
    status :=
      if ready then .pass
      else if requirements.any fun requirement =>
          (observedOf w history native candidate requirement).classification = .failed then .fail
      else .unknown
    policyIdentity := w.selectionPolicyIdentity
    policyError := policyError }

section Exchange

variable (candidate : Option ForgeRecord) {requirements : List String}

private theorem normalized_nodup (distinct : requirements.Nodup) :
    (Dict.keys (normalizedRequirements w history candidate requirements)).Nodup := by
  rw [Dict.keys, normalizedRequirements, List.map_map]
  simpa [Function.comp_def] using distinct

/-- The requirements reach the kernel in key order. -/
theorem ordered_perm (distinct : requirements.Nodup) :
    (Dict.update [] (normalizedRequirements w history candidate requirements)).Perm
      (normalizedRequirements w history candidate requirements) :=
  Dict.update_nil_perm (normalized_nodup w history candidate distinct)

private theorem observed_perm (distinct : requirements.Nodup) :
    ((Dict.update [] (normalizedRequirements w history candidate requirements)).map
        native.observedRequirement).Perm
      (requirements.map (observedOf w history native candidate)) := by
  have perm := (ordered_perm w history candidate distinct).map native.observedRequirement
  rwa [normalizedRequirements, List.map_map] at perm

private theorem stateReady_observed (distinct : requirements.Nodup)
    (policyError : Option String) :
    Readiness.stateReady
        (Readiness.tally native.core
          ((Dict.update [] (normalizedRequirements w history candidate requirements)).map
            native.observedRequirement))
        candidate.isSome policyError.isNone =
      nativeReady w history native candidate requirements policyError := by
  have perm := observed_perm w history native candidate distinct
  rw [Bool.eq_iff_iff]
  simp only [Readiness.stateReady, Readiness.tally, perm.countP_eq, List.countP_eq_zero,
    List.forall_mem_map, nativeReady, Bool.and_eq_true, decide_eq_true_eq, List.all_eq_true,
    Bool.not_eq_true', Bool.not_eq_true, ne_eq]
  constructor
  · rintro ⟨⟨⟨⟨⟨⟨present, valid⟩, failed⟩, missing⟩, unknown⟩, stale⟩, noncomparable⟩
    exact ⟨⟨present, valid⟩, fun requirement h =>
      ⟨⟨⟨⟨failed requirement h, missing requirement h⟩, unknown requirement h⟩,
        stale requirement h⟩, noncomparable requirement h⟩⟩
  · rintro ⟨⟨present, valid⟩, all⟩
    exact ⟨⟨⟨⟨⟨⟨present, valid⟩, fun requirement h => (all requirement h).1.1.1.1⟩,
      fun requirement h => (all requirement h).1.1.1.2⟩,
      fun requirement h => (all requirement h).1.1.2⟩,
      fun requirement h => (all requirement h).1.2⟩,
      fun requirement h => (all requirement h).2⟩

private theorem status_observed (distinct : requirements.Nodup) (ready : Bool) :
    Readiness.readinessStatus ready
        (Readiness.tally native.core
          ((Dict.update [] (normalizedRequirements w history candidate requirements)).map
            native.observedRequirement)).failedCount =
      if ready then .pass
      else if requirements.any fun requirement =>
          (observedOf w history native candidate requirement).classification = .failed then .fail
      else .unknown := by
  have perm := observed_perm w history native candidate distinct
  rw [Readiness.readinessStatus]
  refine if_congr Iff.rfl rfl (if_congr ?_ rfl rfl)
  simp only [Readiness.tally, perm.countP_eq, List.countP_pos_iff, List.mem_map, List.any_eq_true]
  constructor
  · rintro ⟨_, ⟨requirement, hrequirement, rfl⟩, hfailed⟩
    exact ⟨requirement, hrequirement, hfailed⟩
  · rintro ⟨requirement, hrequirement, hfailed⟩
    exact ⟨_, ⟨requirement, hrequirement, rfl⟩, hfailed⟩

private theorem projectedRequirements_observed {projected : List Readiness.RequirementProjection}
    (distinct : (projected.map (·.identity)).Nodup)
    (named : ∀ requirement ∈ requirements, requirement ≠ "")
    (sub : ∀ requirement ∈ requirements,
      observedOf w history native candidate requirement ∈ projected) :
    projectedRequirements native projected requirements =
      .ok (requirements.map fun requirement =>
        (requirement, observedOf w history native candidate requirement)) := by
  induction requirements with
  | nil => rfl
  | cons requirement rest ih =>
      have identity : native.readinessRequirementIdentity requirement =
          .ok (native.requirementDigest requirement) := by
        rw [NativeForgeAdapter.readinessRequirementIdentity, refuseIf_bind_eq_ok]
        exact ⟨named requirement List.mem_cons_self, rfl⟩
      have found : (projected.find? fun item =>
          decide (item.identity = native.requirementDigest requirement)) =
            some (observedOf w history native candidate requirement) :=
        NativeForgeAdapter.find?_of_nodup distinct (sub requirement List.mem_cons_self)
      have rest := ih (fun other hother => named other (List.mem_cons_of_mem _ hother))
        fun other hother => sub other (List.mem_cons_of_mem _ hother)
      rw [projectedRequirements, identity, List.map_cons]
      refine bind_eq_ok.mpr ⟨_, rfl, ?_⟩
      rw [found]
      exact bind_eq_ok.mpr ⟨_, rest, rfl⟩

variable {w history native} {candidate}

/-- The native readiness is the exchanged one, for the requests the exchange accepts. -/
theorem nativeEvidenceReadiness_eq_ok (documented : native.core.Documented)
    {required : Option (List String)} {evidence : EvidenceReadiness} :
    nativeEvidenceReadiness w history native candidate required = .ok evidence ↔
      native.ReadinessEnvelope
          (normalizedRequirements w history candidate (readinessSubject w required).1) ∧
        evidence = exchangedReadiness w history native candidate required := by
  have distinct := readinessSubject_nodup w required
  rw [nativeEvidenceReadiness, exchangedReadiness]
  generalize readinessSubject w required = subject at distinct ⊢
  obtain ⟨requirements, policyError⟩ := subject
  dsimp only at distinct ⊢
  have perm := observed_perm w history native candidate distinct
  have ready := stateReady_observed w history native candidate distinct policyError
  have status := status_observed w history native candidate distinct
    (nativeReady w history native candidate requirements policyError)
  have projected :
      native.ReadinessEnvelope (normalizedRequirements w history candidate requirements) →
        projectedRequirements native
            ((Dict.update [] (normalizedRequirements w history candidate requirements)).map
              native.observedRequirement) requirements =
          .ok (requirements.map fun requirement =>
            (requirement, observedOf w history native candidate requirement)) := by
    intro envelope
    refine projectedRequirements_observed w history native candidate ?_ ?_ ?_
    · rw [List.map_map]
      exact envelope.distinct
    · intro requirement hrequirement
      have sent : (requirement, normalizedReadiness w history candidate requirement) ∈
          Dict.update [] (normalizedRequirements w history candidate requirements) :=
        (ordered_perm w history candidate distinct).mem_iff.mpr (List.mem_map_of_mem hrequirement)
      exact (envelope.sendable _ sent).named
    · exact fun requirement hrequirement =>
        perm.mem_iff.mpr (List.mem_map_of_mem hrequirement)
  rw [normalizedRequirements] at perm ready status projected ⊢
  simp only [bind_eq_ok, NativeForgeAdapter.readinessProjection_eq_ok documented,
    refuseIf_eq_ok, Except.ok.injEq]
  constructor
  · rintro ⟨_, ⟨envelope, rfl⟩, _, _, _, _, _, hprojected, rfl⟩
    obtain rfl := Except.ok.inj ((projected envelope).symm.trans hprojected)
    refine ⟨envelope, ?_⟩
    simp only [List.filter_map, List.map_map, Function.comp_def, List.map_id', observedWhere,
      NativeForgeAdapter.envelopeReadiness, ready, status]
  · rintro ⟨envelope, rfl⟩
    refine ⟨_, ⟨envelope, rfl⟩, (), ?_, (), not_not.mpr ?_, _, projected envelope, ?_⟩
    · have length := perm.length_eq.trans (List.length_map _)
      simp only [NativeForgeAdapter.envelopeReadiness, length, ne_eq, not_true_eq_false, or_self,
        Bool.true_eq_false, not_false_eq_true]
    · rw [NativeForgeAdapter.envelopeReadiness, List.map_map]
      exact envelope.distinct
    · simp only [List.filter_map, List.map_map, Function.comp_def, List.map_id', observedWhere,
        NativeForgeAdapter.envelopeReadiness, ready, status]

end Exchange

end MncsForge.Lifecycle
