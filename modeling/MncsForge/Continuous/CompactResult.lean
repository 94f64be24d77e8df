import Mathlib
import MncsForge.Foundation.CanonicalJson
import MncsForge.Records.Validation
import MncsForge.Continuous.EpochReplay

/-!
# Compact verification results

The supervisor keeps a bounded projection of a verification result, and of the
resource evidence in it: some members, with the text of some of them cut.
-/

namespace MncsForge.Continuous

open MncsForge.Foundation MncsForge.Records

/-! ## Kept members -/

/-- The kept members, with the capacity of those whose text is cut. -/
abbrev FieldSpec := Dict String (Option Nat)

def cutText (capacity : Nat) (text : String) : String :=
  String.ofList (text.toList.take capacity)

/-- The members of the specification that are there and that `keep` has a value for. -/
def collect (keep : Option Nat → Json → Option Json) (spec : FieldSpec)
    (fields : Dict String Json) : Dict String Json :=
  Dict.update [] (spec.filterMap fun item =>
    ((Dict.get? fields item.1).bind (keep item.2)).map fun value => (item.1, value))

/-- Any value is kept, a text with a capacity up to it. -/
def kept : Option Nat → Json → Option Json
  | some capacity, .str text => some (.str (cutText capacity text))
  | _, value => some value

/-- Texts are kept where there is a capacity, and integers where there is none. -/
def keptTyped : Option Nat → Json → Option Json
  | some capacity, .str text => some (.str (cutText capacity text))
  | none, .int value => some (.int value)
  | _, _ => none

def setText (fields : Dict String Json) (key : String) (capacity : Nat) :
    Json → Dict String Json
  | .str text => Dict.set fields key (.str (cutText capacity text))
  | _ => fields

/-! ## Resource evidence -/

def evidenceFields : FieldSpec :=
  [("resource_envelope_identity", some 128), ("unit_identity", some 128),
   ("resource_exhausted", none), ("resource_metric", some 64), ("resource_bound", none),
   ("resource_observed", none), ("cleanup_succeeded", none), ("systemd_result", some 64),
   ("command_returncode", none), ("systemd_wrapper_returncode", none),
   ("resource_outcome", none), ("native_execution_returncode_available", none),
   ("native_execution_returncode", none), ("cancellation_requested", none),
   ("superseded", none), ("process_status", none), ("process_observation_complete", none),
   ("tree_empty", none), ("launcher_reaped", none), ("cleanup_complete", none),
   ("cancellation_complete", none), ("verification_deferred", none),
   ("native_admission_reason", none), ("resource_admission_status", none),
   ("deferred", none), ("limitation", some 512)]

def contextFields : FieldSpec :=
  [("identity", some 128), ("generation", none), ("source_identity", some 256),
   ("candidate_identity", some 256), ("cursor", none), ("trigger_id", some 128),
   ("action", some 64), ("verifier_count", none)]

def observationFields : FieldSpec :=
  [("exit_status", none), ("timed_out", none), ("output_limited", none),
   ("cleanup_known", none), ("cleanup_succeeded", none), ("cancellation_requested", none),
   ("superseded", none), ("memory_current_bytes", none), ("cgroup_memory_peak_bytes", none),
   ("process_rss_peak_bytes", none), ("process_count_current", none),
   ("process_count_peak", none), ("memory_max_events", none), ("memory_oom_events", none),
   ("memory_oom_kill_events", none), ("memory_oom_group_kill_events", none),
   ("memory_high_events", none), ("process_limit_events", none),
   ("cpu_time_microseconds", none)]

def boundedContext (context : Dict String Json) : Dict String Json :=
  let bounded := collect keptTyped contextFields context
  match field context "verifier_ids" with
  | .arr items =>
      Dict.set bounded "verifier_ids"
        (.arr ((items.take 32).map fun item => .str (cutText 128 item.display)))
  | _ => bounded

/-- `_compact_resource_evidence` -/
def compactResourceEvidence (value : Json) : Dict String Json :=
  let evidence := mapping value
  let compact := collect kept evidenceFields evidence
  let context := mapping (field evidence "job_context")
  let compact :=
    if context ≠ [] then Dict.set compact "job_context" (.obj (boundedContext context))
    else compact
  let observations := mapping (field evidence "resource_observations")
  if observations ≠ [] then
    Dict.set compact "resource_observations" (.obj (collect kept observationFields observations))
  else compact

/-! ## Results -/

def resultFields : FieldSpec :=
  [("obligation_identity", some 128), ("verifier_id", some 128), ("status", some 32),
   ("reused", none), ("error_code", some 128), ("resource_exhausted", none),
   ("resource_envelope_identity", some 128), ("resource_metric", some 64),
   ("resource_bound", none), ("resource_observed", none), ("cleanup_succeeded", none),
   ("cancellation_requested", none), ("superseded", none), ("generation", none),
   ("source_identity", some 256), ("source_uri", some 1024), ("candidate_identity", some 256),
   ("trigger_id", some 128), ("action", some 64), ("cursor", none)]

/-- The evidence of the extensions, or else that of the result. -/
def resourceEvidence (result : Dict String Json) : Json :=
  let extensions := mapping (field result "extensions")
  let mncsExtensions := mapping (field extensions "mncs_forge")
  if (field mncsExtensions "resource_evidence").truthy = true then
    field mncsExtensions "resource_evidence"
  else field result "resource_evidence"

/-- `_compact_verification_result` -/
def compactVerificationResult (value : Json) : Dict String Json :=
  let result := mapping value
  let compact := collect kept resultFields result
  let compact :=
    setText compact "error_code" 128 (field (mapping (field result "operational_error")) "code")
  let compact := setText compact "reason" 256 (field result "reason")
  let compact := setText compact "reuse_blocked" 256 (field result "reuse_blocked")
  if (resourceEvidence result).truthy = true then
    Dict.set compact "resource_evidence"
      (.obj (compactResourceEvidence (resourceEvidence result)))
  else compact

/-! ## What a second compaction keeps -/

@[simp] theorem cutText_cutText (capacity : Nat) (text : String) :
    cutText capacity (cutText capacity text) = cutText capacity text := by
  rw [cutText, cutText, String.toList_ofList, List.take_take, min_self]

theorem cutText_of_length_le {capacity : Nat} {text : String}
    (h : text.toList.length ≤ capacity) : cutText capacity text = text := by
  rw [cutText, List.take_of_length_le h, String.ofList_toList]

/-- What has been kept is kept as it is. -/
def Fixes (keep : Option Nat → Json → Option Json) : Prop :=
  ∀ capacity value result, keep capacity value = some result → keep capacity result = some result

theorem kept_fixes : Fixes kept := by
  intro capacity value result h
  cases capacity <;> cases value <;> simp_all [kept] <;> subst h <;> simp

theorem keptTyped_fixes : Fixes keptTyped := by
  intro capacity value result h
  cases capacity <;> cases value <;> simp_all [keptTyped] <;> subst h <;> simp

/-- The dictionary holds members of the specification only, all as they would be kept. -/
structure Collected (keep : Option Nat → Json → Option Json) (spec : FieldSpec)
    (fields : Dict String Json) : Prop where
  ordered : Dict.Ordered fields
  fixed : ∀ key value, Dict.get? fields key = some value →
    ∃ capacity, Dict.get? spec key = some capacity ∧ keep capacity value = some value

def hasMember (keep : Option Nat → Json → Option Json) (spec : FieldSpec)
    (fields : Dict String Json) : Bool :=
  spec.any fun item => ((Dict.get? fields item.1).bind (keep item.2)).isSome

section Collect

variable {keep : Option Nat → Json → Option Json} {spec : FieldSpec}
  {fields source : Dict String Json} {key : String}

theorem collect_ordered : Dict.Ordered (collect keep spec fields) :=
  Dict.Ordered.update Dict.ordered_nil _

private theorem collected_nodup (nodup : (Dict.keys spec).Nodup) :
    (Dict.keys (spec.filterMap fun item =>
      ((Dict.get? fields item.1).bind (keep item.2)).map fun value => (item.1, value))).Nodup := by
  refine nodup.sublist ?_
  clear nodup
  induction spec with
  | nil => simp
  | cons item spec ih =>
      cases found : (Dict.get? fields item.1).bind (keep item.2) with
      | none =>
          simp only [List.filterMap_cons, found, Option.map_none]
          exact ih.cons _
      | some value =>
          simp only [List.filterMap_cons, found, Option.map_some]
          exact ih.cons_cons _

private theorem get?_collected (nodup : (Dict.keys spec).Nodup) :
    Dict.get? (spec.filterMap fun item =>
      ((Dict.get? fields item.1).bind (keep item.2)).map fun value => (item.1, value)) key =
      (Dict.get? spec key).bind fun capacity => (Dict.get? fields key).bind (keep capacity) := by
  induction spec with
  | nil => rfl
  | cons item spec ih =>
      obtain ⟨name, capacity⟩ := item
      obtain ⟨fresh, nodup⟩ := List.nodup_cons.mp nodup
      have rest := ih nodup
      rw [Dict.get?_cons]
      by_cases same : key = name
      · subst same
        have absent : Dict.get? spec key = none := Dict.get?_eq_none_iff.mpr fresh
        rw [absent, Option.bind_none] at rest
        cases found : (Dict.get? fields key).bind (keep capacity) with
        | none =>
            simp only [List.filterMap_cons, found, Option.map_none, if_true, Option.bind_some]
            exact rest
        | some value =>
            simp only [List.filterMap_cons, found, Option.map_some, Dict.get?_cons, if_true,
              Option.bind_some]
      · cases found : (Dict.get? fields name).bind (keep capacity) with
        | none =>
            simp only [List.filterMap_cons, found, Option.map_none, if_neg same]
            exact rest
        | some value =>
            simp only [List.filterMap_cons, found, Option.map_some, Dict.get?_cons, if_neg same]
            exact rest

theorem get?_collect (nodup : (Dict.keys spec).Nodup) :
    Dict.get? (collect keep spec fields) key =
      (Dict.get? spec key).bind fun capacity => (Dict.get? fields key).bind (keep capacity) := by
  rw [collect, Dict.get?_update_of_nodup (collected_nodup nodup), get?_collected nodup,
    Dict.get?_nil, Option.or_none]

theorem get?_collect_of_notMem (nodup : (Dict.keys spec).Nodup) (h : key ∉ Dict.keys spec) :
    Dict.get? (collect keep spec fields) key = none := by
  rw [get?_collect nodup, Dict.get?_eq_none_iff.mpr h, Option.bind_none]

theorem collect_collected (nodup : (Dict.keys spec).Nodup) (fixes : Fixes keep) :
    Collected keep spec (collect keep spec fields) where
  ordered := collect_ordered
  fixed key value found := by
    rw [get?_collect nodup] at found
    obtain ⟨capacity, known, found⟩ := Option.bind_eq_some_iff.mp found
    obtain ⟨raw, -, keeps⟩ := Option.bind_eq_some_iff.mp found
    exact ⟨capacity, known, fixes capacity raw value keeps⟩

/-- Members that were collected are collected again. -/
theorem Collected.collect_eq (nodup : (Dict.keys spec).Nodup) (collected : Collected keep spec fields)
    (same : ∀ key ∈ Dict.keys spec, Dict.get? source key = Dict.get? fields key) :
    collect keep spec source = fields := by
  refine Dict.Ordered.ext collect_ordered collected.ordered fun key => ?_
  rw [get?_collect nodup]
  cases known : Dict.get? spec key with
  | none =>
      cases found : Dict.get? fields key with
      | none => rfl
      | some value =>
          obtain ⟨capacity, listed, -⟩ := collected.fixed key value found
          simp [known] at listed
  | some capacity =>
      have member : key ∈ Dict.keys spec := Dict.get?_isSome_iff.mp (by simp [known])
      rw [Option.bind_some, same key member]
      cases found : Dict.get? fields key with
      | none => rfl
      | some value =>
          obtain ⟨listed, hlisted, keeps⟩ := collected.fixed key value found
          rw [known] at hlisted
          cases hlisted
          exact keeps

theorem collect_ne_nil_iff (nodup : (Dict.keys spec).Nodup) :
    collect keep spec fields ≠ [] ↔ hasMember keep spec fields = true := by
  constructor
  · intro filled
    obtain ⟨⟨key, value⟩, rest, split⟩ := List.exists_cons_of_ne_nil filled
    have found : Dict.get? (collect keep spec fields) key = some value := by
      simp [split, Dict.get?_cons]
    rw [get?_collect nodup] at found
    obtain ⟨capacity, known, found⟩ := Option.bind_eq_some_iff.mp found
    exact List.any_eq_true.mpr ⟨(key, capacity), Dict.mem_of_get?_eq_some known, by simp [found]⟩
  · intro some_member empty
    obtain ⟨⟨key, capacity⟩, listed, found⟩ := List.any_eq_true.mp some_member
    have known := Dict.get?_eq_some_of_mem_of_nodup nodup listed
    have absent := @get?_collect keep spec fields key nodup
    rw [empty, known, Option.bind_some, Dict.get?_nil] at absent
    simp [← absent] at found

end Collect

/-! ## Texts and single members -/

section Members

variable {fields : Dict String Json} {key other : String} {capacity : Nat} {value : Json}

theorem set_comm (ordered : Dict.Ordered fields) (apart : key ≠ other) (first second : Json) :
    Dict.set (Dict.set fields key first) other second =
      Dict.set (Dict.set fields other second) key first := by
  refine Dict.Ordered.ext ((ordered.set _ _).set _ _) ((ordered.set _ _).set _ _) fun name => ?_
  simp only [Dict.get?_set]
  split_ifs with atOther atKey <;> first | rfl | exact absurd (atKey.symm.trans atOther) apart

theorem set_of_get? (ordered : Dict.Ordered fields) (found : Dict.get? fields key = some value) :
    Dict.set fields key value = fields := by
  refine Dict.Ordered.ext (ordered.set _ _) ordered fun name => ?_
  rw [Dict.get?_set]
  split_ifs with same
  · rw [same, found]
  · rfl

theorem set_ne_nil : Dict.set fields key value ≠ [] := by
  intro empty
  have found := Dict.get?_set fields key key value
  simp [empty] at found

theorem setText_ordered (ordered : Dict.Ordered fields) :
    Dict.Ordered (setText fields key capacity value) := by
  cases value <;> first | exact ordered | exact ordered.set _ _

theorem get?_setText_of_ne (apart : other ≠ key) :
    Dict.get? (setText fields key capacity value) other = Dict.get? fields other := by
  cases value <;> simp [setText, Dict.get?_set, apart]

theorem setText_set (ordered : Dict.Ordered fields) (apart : other ≠ key) (first : Json) :
    setText (Dict.set fields other first) key capacity value =
      Dict.set (setText fields key capacity value) other first := by
  cases value <;> first | rfl | exact set_comm ordered apart _ _

theorem field_set_of_ne (apart : other ≠ key) :
    field (Dict.set fields key value) other = field fields other := by
  rw [field, field, Dict.get?_set, if_neg apart]

theorem Collected.setText {spec : FieldSpec} (collected : Collected kept spec fields)
    (known : Dict.get? spec key = some (some capacity)) :
    Collected kept spec (setText fields key capacity value) where
  ordered := setText_ordered collected.ordered
  fixed name found hfound := by
    cases value with
    | str text =>
        rw [Continuous.setText, Dict.get?_set] at hfound
        split_ifs at hfound with same
        · cases hfound
          subst same
          exact ⟨some capacity, known, by simp [kept]⟩
        · exact collected.fixed name found hfound
    | _ => exact collected.fixed name found hfound

end Members

/-! ## Evidence that is compacted again -/

/-- Some member of the context is kept. -/
def HasContext (context : Dict String Json) : Prop :=
  hasMember keptTyped contextFields context = true ∨
    (∃ items, field context "verifier_ids" = .arr items)

/-- No mapping of the evidence that holds something is cut down to nothing. -/
structure EvidenceStable (evidence : Dict String Json) : Prop where
  context : mapping (field evidence "job_context") = [] ∨
    HasContext (mapping (field evidence "job_context"))
  observations : mapping (field evidence "resource_observations") = [] ∨
    hasMember kept observationFields (mapping (field evidence "resource_observations")) = true
  filled : hasMember kept evidenceFields evidence = true ∨
    mapping (field evidence "job_context") ≠ [] ∨
    mapping (field evidence "resource_observations") ≠ []

section Evidence

variable {context evidence : Dict String Json} {value : Json} {key : String}

private theorem contextFields_nodup : (Dict.keys contextFields).Nodup := by decide

private theorem observationFields_nodup : (Dict.keys observationFields).Nodup := by decide

private theorem evidenceFields_nodup : (Dict.keys evidenceFields).Nodup := by decide

theorem boundedContext_ordered : Dict.Ordered (boundedContext context) := by
  rw [boundedContext]
  cases field context "verifier_ids" <;>
    first | exact collect_ordered | exact collect_ordered.set _ _

theorem boundedContext_boundedContext :
    boundedContext (boundedContext context) = boundedContext context := by
  have kept := @collect_collected _ _ context contextFields_nodup keptTyped_fixes
  have absent : Dict.get? (collect keptTyped contextFields context) "verifier_ids" = none :=
    get?_collect_of_notMem contextFields_nodup (by decide)
  cases ids : field context "verifier_ids" with
  | arr items =>
      have bounded : boundedContext context = Dict.set (collect keptTyped contextFields context)
          "verifier_ids" (.arr ((items.take 32).map fun item => .str (cutText 128 item.display))) := by
        rw [boundedContext, ids]
      have again : collect keptTyped contextFields (boundedContext context) =
          collect keptTyped contextFields context := by
        refine kept.collect_eq contextFields_nodup fun key member => ?_
        rw [bounded, Dict.get?_set, if_neg]
        rintro rfl
        exact absurd member (by decide)
      have listed : field (boundedContext context) "verifier_ids" =
          .arr ((items.take 32).map fun item => .str (cutText 128 item.display)) := by
        rw [bounded, field, Dict.get?_set, if_pos rfl, Option.getD_some]
      rw [boundedContext, listed, again]
      simp only [← List.map_take, List.take_take, min_self, List.map_map]
      rw [bounded]
      congr 3
      funext item
      simp [Json.display]
  | _ =>
      have bounded : boundedContext context = collect keptTyped contextFields context := by
        rw [boundedContext, ids]
      rw [bounded, boundedContext, field, absent]
      exact kept.collect_eq contextFields_nodup fun _ _ => rfl

theorem boundedContext_ne_nil (h : HasContext context) : boundedContext context ≠ [] := by
  rw [boundedContext]
  cases ids : field context "verifier_ids" with
  | arr items => exact set_ne_nil
  | _ =>
      rcases h with some_member | ⟨items, listed⟩
      · exact (collect_ne_nil_iff contextFields_nodup).mpr some_member
      · simp [ids] at listed

theorem compactResourceEvidence_ordered : Dict.Ordered (compactResourceEvidence value) := by
  rw [compactResourceEvidence]
  split_ifs <;> first
    | exact collect_ordered
    | exact collect_ordered.set _ _
    | exact (collect_ordered.set _ _).set _ _

theorem compactResourceEvidence_ne_nil (h : EvidenceStable (mapping value)) :
    compactResourceEvidence value ≠ [] := by
  rw [compactResourceEvidence]
  split_ifs with observations context context
  · exact set_ne_nil
  · exact set_ne_nil
  · exact set_ne_nil
  · rcases h.filled with some_member | filled | filled
    · exact (collect_ne_nil_iff evidenceFields_nodup).mpr some_member
    · exact absurd filled context
    · exact absurd filled observations

theorem get?_compactResourceEvidence :
    Dict.get? (compactResourceEvidence value) key =
      if key = "resource_observations" ∧
          mapping (field (mapping value) "resource_observations") ≠ [] then
        some (.obj (collect kept observationFields
          (mapping (field (mapping value) "resource_observations"))))
      else if key = "job_context" ∧ mapping (field (mapping value) "job_context") ≠ [] then
        some (.obj (boundedContext (mapping (field (mapping value) "job_context"))))
      else Dict.get? (collect kept evidenceFields (mapping value)) key := by
  rw [compactResourceEvidence]
  by_cases observations : mapping (field (mapping value) "resource_observations") ≠ [] <;>
    by_cases context : mapping (field (mapping value) "job_context") ≠ [] <;>
    simp [observations, context, Dict.get?_set]

private theorem evidence_again :
    collect kept evidenceFields (compactResourceEvidence value) =
      collect kept evidenceFields (mapping value) := by
  have evidence := @collect_collected _ _ (mapping value) evidenceFields_nodup kept_fixes
  refine evidence.collect_eq evidenceFields_nodup fun key member => ?_
  rw [get?_compactResourceEvidence, if_neg, if_neg]
  · rintro ⟨rfl, -⟩
    exact absurd member (by decide)
  · rintro ⟨rfl, -⟩
    exact absurd member (by decide)

private theorem context_again :
    mapping (field (compactResourceEvidence value) "job_context") =
      if mapping (field (mapping value) "job_context") ≠ [] then
        boundedContext (mapping (field (mapping value) "job_context")) else [] := by
  have absent : Dict.get? (collect kept evidenceFields (mapping value)) "job_context" = none :=
    get?_collect_of_notMem evidenceFields_nodup (by decide)
  rw [field, get?_compactResourceEvidence, if_neg (by simp), absent]
  by_cases filled : mapping (field (mapping value) "job_context") ≠ []
  · rw [if_pos ⟨rfl, filled⟩, if_pos filled]
    rfl
  · rw [if_neg (fun both => filled both.2), if_neg filled]
    rfl

private theorem observations_again :
    mapping (field (compactResourceEvidence value) "resource_observations") =
      if mapping (field (mapping value) "resource_observations") ≠ [] then
        collect kept observationFields (mapping (field (mapping value) "resource_observations"))
      else [] := by
  have absent :
      Dict.get? (collect kept evidenceFields (mapping value)) "resource_observations" = none :=
    get?_collect_of_notMem evidenceFields_nodup (by decide)
  rw [field, get?_compactResourceEvidence, absent]
  by_cases filled : mapping (field (mapping value) "resource_observations") ≠ []
  · rw [if_pos ⟨rfl, filled⟩, if_pos filled]
    rfl
  · rw [if_neg (fun both => filled both.2), if_neg (by simp), if_neg filled]
    rfl

/-- Stable evidence is compacted once and for all. -/
theorem compactResourceEvidence_again (h : EvidenceStable (mapping value)) :
    compactResourceEvidence (.obj (compactResourceEvidence value)) =
      compactResourceEvidence value := by
  refine Dict.Ordered.ext compactResourceEvidence_ordered compactResourceEvidence_ordered
    fun key => ?_
  have unwrap (fields : Dict String Json) : mapping (.obj fields) = fields := rfl
  have context : mapping (field (mapping value) "job_context") ≠ [] →
      boundedContext (mapping (field (mapping value) "job_context")) ≠ [] :=
    fun filled => boundedContext_ne_nil (h.context.resolve_left filled)
  have observations : mapping (field (mapping value) "resource_observations") ≠ [] →
      collect kept observationFields
        (mapping (field (mapping value) "resource_observations")) ≠ [] :=
    fun filled =>
      (collect_ne_nil_iff observationFields_nodup).mpr (h.observations.resolve_left filled)
  have fixed (fields : Dict String Json) :
      collect kept observationFields (collect kept observationFields fields) =
        collect kept observationFields fields :=
    (collect_collected observationFields_nodup kept_fixes).collect_eq observationFields_nodup
      fun _ _ => rfl
  rw [get?_compactResourceEvidence, get?_compactResourceEvidence, unwrap, evidence_again,
    context_again, observations_again]
  by_cases someContext : mapping (field (mapping value) "job_context") ≠ [] <;>
    by_cases someObservations : mapping (field (mapping value) "resource_observations") ≠ []
  · simp [someContext, someObservations, context, observations, fixed,
      boundedContext_boundedContext]
  · simp [someContext, someObservations, context, boundedContext_boundedContext]
  · simp [someContext, someObservations, observations, fixed]
  · simp [someContext, someObservations]

end Evidence

/-! ## Results that are compacted again -/

/-- The evidence that is kept with the result is stable. -/
def StableResult (value : Json) : Prop :=
  (resourceEvidence (mapping value)).truthy = true →
    EvidenceStable (mapping (resourceEvidence (mapping value)))

section Results

variable {value : Json} {fields : Dict String Json} {key : String} {capacity : Nat}

private theorem resultFields_nodup : (Dict.keys resultFields).Nodup := by decide

/-- The members that a result keeps, with its operational error. -/
private def keptMembers (value : Json) : Dict String Json :=
  setText (collect kept resultFields (mapping value)) "error_code" 128
    (field (mapping (field (mapping value) "operational_error")) "code")

private theorem keptMembers_collected : Collected kept resultFields (keptMembers value) :=
  (collect_collected resultFields_nodup kept_fixes).setText (by decide)

private theorem get?_keptMembers_of_notMem (h : key ∉ Dict.keys resultFields) :
    Dict.get? (keptMembers value) key = none := by
  cases found : Dict.get? (keptMembers value) key with
  | none => rfl
  | some held =>
      obtain ⟨capacity, known, -⟩ := keptMembers_collected.fixed key held found
      rw [Dict.get?_eq_none_iff.mpr h] at known
      cases known

private theorem compact_eq :
    compactVerificationResult value =
      if (resourceEvidence (mapping value)).truthy = true then
        Dict.set
          (setText (setText (keptMembers value) "reason" 256 (field (mapping value) "reason"))
            "reuse_blocked" 256 (field (mapping value) "reuse_blocked"))
          "resource_evidence" (.obj (compactResourceEvidence (resourceEvidence (mapping value))))
      else
        setText (setText (keptMembers value) "reason" 256 (field (mapping value) "reason"))
          "reuse_blocked" 256 (field (mapping value) "reuse_blocked") := rfl

theorem compactVerificationResult_ordered :
    Dict.Ordered (compactVerificationResult value) := by
  have texts := @setText_ordered _ "reuse_blocked" 256 (field (mapping value) "reuse_blocked")
    (@setText_ordered _ "reason" 256 (field (mapping value) "reason")
      (@keptMembers_collected value).ordered)
  rw [compact_eq]
  split_ifs
  · exact texts.set _ _
  · exact texts

private theorem get?_compact (reason : key ≠ "reason") (reuse : key ≠ "reuse_blocked")
    (evidence : key ≠ "resource_evidence") :
    Dict.get? (compactVerificationResult value) key = Dict.get? (keptMembers value) key := by
  rw [compact_eq]
  split_ifs
  · rw [Dict.get?_set, if_neg evidence, get?_setText_of_ne reuse, get?_setText_of_ne reason]
  · rw [get?_setText_of_ne reuse, get?_setText_of_ne reason]

private theorem field_compact_of_notMem (h : key ∉ Dict.keys resultFields)
    (reason : key ≠ "reason") (reuse : key ≠ "reuse_blocked")
    (evidence : key ≠ "resource_evidence") :
    field (compactVerificationResult value) key = .null := by
  rw [field, get?_compact reason reuse evidence, get?_keptMembers_of_notMem h, Option.getD_none]

/-- A text that was cut into its place is cut into the same place again. -/
private theorem setText_again (absent : Dict.get? fields key = none) :
    setText fields key capacity (field (setText fields key capacity value) key) =
      setText fields key capacity value := by
  cases value with
  | str text => simp [setText, field, Dict.get?_set]
  | _ => simp [setText, field, absent]

private theorem keptMembers_again :
    keptMembers (.obj (compactVerificationResult value)) = keptMembers value := by
  have collected : collect kept resultFields (compactVerificationResult value) =
      keptMembers value := by
    refine keptMembers_collected.collect_eq resultFields_nodup fun key member => ?_
    refine get?_compact ?_ ?_ ?_ <;>
      · rintro rfl
        exact absurd member (by decide)
  have unwrap : mapping (.obj (compactVerificationResult value)) =
      compactVerificationResult value := rfl
  have noError : field (compactVerificationResult value) "operational_error" = .null :=
    field_compact_of_notMem (by decide) (by decide) (by decide) (by decide)
  rw [keptMembers, unwrap, collected, noError]
  rfl

/-- The members and the texts that a result keeps. -/
private def keptTexts (value : Json) : Dict String Json :=
  setText (setText (keptMembers value) "reason" 256 (field (mapping value) "reason"))
    "reuse_blocked" 256 (field (mapping value) "reuse_blocked")

private theorem keptTexts_again :
    keptTexts (.obj (compactVerificationResult value)) = keptTexts value := by
  have unwrap : mapping (.obj (compactVerificationResult value)) =
      compactVerificationResult value := rfl
  have noReason : Dict.get? (keptMembers value) "reason" = none :=
    get?_keptMembers_of_notMem (by decide)
  have reason : field (compactVerificationResult value) "reason" =
      field (setText (keptMembers value) "reason" 256 (field (mapping value) "reason"))
        "reason" := by
    rw [field, field, compact_eq]
    split_ifs
    · rw [Dict.get?_set, if_neg (by decide), get?_setText_of_ne (by decide)]
    · rw [get?_setText_of_ne (by decide)]
  have noReuse : Dict.get? (setText (keptMembers value) "reason" 256
      (field (mapping value) "reason")) "reuse_blocked" = none := by
    rw [get?_setText_of_ne (by decide)]
    exact get?_keptMembers_of_notMem (by decide)
  have reuse : field (compactVerificationResult value) "reuse_blocked" =
      field (keptTexts value) "reuse_blocked" := by
    rw [field, field, compact_eq, keptTexts]
    split_ifs
    · rw [Dict.get?_set, if_neg (by decide)]
    · rfl
  rw [keptTexts, unwrap, keptMembers_again, reason, setText_again noReason, reuse]
  exact setText_again noReuse

private theorem resourceEvidence_compact :
    resourceEvidence (compactVerificationResult value) =
      if (resourceEvidence (mapping value)).truthy = true then
        .obj (compactResourceEvidence (resourceEvidence (mapping value))) else .null := by
  have noExtensions : field (compactVerificationResult value) "extensions" = .null :=
    field_compact_of_notMem (by decide) (by decide) (by decide) (by decide)
  have noNested : field (mapping (field (mapping (.null)) "mncs_forge")) "resource_evidence" =
      .null := rfl
  have noEvidence : Dict.get? (keptMembers value) "resource_evidence" = none :=
    get?_keptMembers_of_notMem (by decide)
  rw [resourceEvidence, noExtensions, noNested, if_neg (by decide), field, compact_eq]
  split_ifs
  · rw [Dict.get?_set, if_pos rfl, Option.getD_some]
  · rw [get?_setText_of_ne (by decide), get?_setText_of_ne (by decide), noEvidence,
      Option.getD_none]

/-- The projection of a stable result is its own projection. -/
theorem compactVerificationResult_again (h : StableResult value) :
    compactVerificationResult (.obj (compactVerificationResult value)) =
      compactVerificationResult value := by
  have unwrap : mapping (.obj (compactVerificationResult value)) =
      compactVerificationResult value := rfl
  have texts := @keptTexts_again value
  rw [keptTexts, keptTexts, unwrap] at texts
  rw [compact_eq, unwrap, texts, resourceEvidence_compact, compact_eq]
  by_cases evidence : (resourceEvidence (mapping value)).truthy = true
  · have filled := compactResourceEvidence_ne_nil (h evidence)
    have truthy : (Json.obj (compactResourceEvidence (resourceEvidence (mapping value)))).truthy =
        true := by
      simpa [Json.truthy] using filled
    rw [if_pos evidence, if_pos truthy, if_pos evidence,
      compactResourceEvidence_again (h evidence)]
  · rw [if_neg evidence, if_neg (by decide), if_neg evidence]

/-! ## Results under an identity -/

private theorem collect_set_identity (identity : String) :
    collect kept resultFields (Dict.set fields "obligation_identity" (.str identity)) =
      Dict.set (collect kept resultFields fields) "obligation_identity"
        (.str (cutText 128 identity)) := by
  refine Dict.Ordered.ext collect_ordered (collect_ordered.set _ _) fun key => ?_
  rw [get?_collect resultFields_nodup, Dict.get?_set, Dict.get?_set]
  by_cases same : key = "obligation_identity"
  · subst same
    rw [if_pos rfl, if_pos rfl]
    rfl
  · rw [if_neg same, if_neg same, get?_collect resultFields_nodup]

/-- The identity of a result is cut on its own. -/
theorem compactVerificationResult_set_identity (identity : String) :
    compactVerificationResult (.obj (Dict.set fields "obligation_identity" (.str identity))) =
      Dict.set (compactVerificationResult (.obj fields)) "obligation_identity"
        (.str (cutText 128 identity)) := by
  have unwrap (fields : Dict String Json) : mapping (.obj fields) = fields := rfl
  have other (name : String) (apart : name ≠ "obligation_identity") :
      field (Dict.set fields "obligation_identity" (.str identity)) name = field fields name :=
    field_set_of_ne apart
  have evidence : resourceEvidence (Dict.set fields "obligation_identity" (.str identity)) =
      resourceEvidence fields := by
    rw [resourceEvidence, resourceEvidence, other _ (by decide), other _ (by decide)]
  have members : keptMembers (.obj (Dict.set fields "obligation_identity" (.str identity))) =
      Dict.set (keptMembers (.obj fields)) "obligation_identity"
        (.str (cutText 128 identity)) := by
    rw [keptMembers, keptMembers, unwrap, unwrap, collect_set_identity,
      other _ (by decide), setText_set collect_ordered (by decide)]
  have membersOrdered := (@keptMembers_collected (.obj fields)).ordered
  rw [compact_eq, compact_eq, unwrap, unwrap, evidence, members, other _ (by decide),
    other _ (by decide), setText_set membersOrdered (by decide),
    setText_set (setText_ordered membersOrdered) (by decide)]
  split_ifs
  · exact set_comm (setText_ordered (setText_ordered membersOrdered)) (by decide) _ _
  · rfl

theorem length_cutText_le (capacity : Nat) (text : String) :
    (cutText capacity text).length ≤ capacity := by
  rw [cutText, String.length_ofList]
  exact List.length_take_le _ _

theorem compact_identity_short {identity : String}
    (h : field (compactVerificationResult value) "obligation_identity" = .str identity) :
    identity.length ≤ 128 := by
  rw [field, get?_compact (by decide) (by decide) (by decide)] at h
  cases found : Dict.get? (keptMembers value) "obligation_identity" with
  | none =>
      rw [found] at h
      cases h
  | some held =>
      rw [found, Option.getD_some] at h
      subst h
      obtain ⟨capacity, known, keeps⟩ := keptMembers_collected.fixed _ _ found
      have listed : Dict.get? resultFields "obligation_identity" = some (some 128) := rfl
      rw [listed] at known
      cases known
      rw [← Json.str.inj (Option.some.inj keeps)]
      exact length_cutText_le 128 identity

end Results

end MncsForge.Continuous
