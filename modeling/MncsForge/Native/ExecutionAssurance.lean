import Mathlib
import MncsForge.Native.Adapter

/-!
# The execution-assurance policy

`assurance.mncs` checks which execution properties a request names and classifies
what a receipt says of them.  A property is one of five; the records of the source
have one field for each.
-/

namespace MncsForge.Native.ExecutionAssurance

open NativeForgeAdapter (utf8)

inductive AssuranceProperty where
  | runnerCapability
  | filesystemIsolation
  | networkIsolation
  | containerization
  | sameOperatorExecution
  deriving DecidableEq, Repr

namespace AssuranceProperty

def all : List AssuranceProperty :=
  [.runnerCapability, .filesystemIsolation, .networkIsolation, .containerization,
    .sameOperatorExecution]

theorem mem_all (property : AssuranceProperty) : property ∈ all := by
  cases property <;> decide

def name : AssuranceProperty → String
  | .runnerCapability => "runner_capability"
  | .filesystemIsolation => "filesystem_isolation"
  | .networkIsolation => "network_isolation"
  | .containerization => "containerization"
  | .sameOperatorExecution => "same_operator_execution"

/-- The names as the policy spells them. -/
def bytes : AssuranceProperty → List UInt8
  | .runnerCapability =>
      [114, 117, 110, 110, 101, 114, 95, 99, 97, 112, 97, 98, 105, 108, 105, 116, 121]
  | .filesystemIsolation =>
      [102, 105, 108, 101, 115, 121, 115, 116, 101, 109, 95, 105, 115, 111, 108, 97, 116, 105,
        111, 110]
  | .networkIsolation =>
      [110, 101, 116, 119, 111, 114, 107, 95, 105, 115, 111, 108, 97, 116, 105, 111, 110]
  | .containerization =>
      [99, 111, 110, 116, 97, 105, 110, 101, 114, 105, 122, 97, 116, 105, 111, 110]
  | .sameOperatorExecution =>
      [115, 97, 109, 101, 95, 111, 112, 101, 114, 97, 116, 111, 114, 95, 101, 120, 101, 99, 117,
        116, 105, 111, 110]

theorem bytes_eq (property : AssuranceProperty) : property.bytes = utf8 property.name := by
  cases property <;> decide +kernel

theorem name_injective {first second : AssuranceProperty} (h : first.name = second.name) :
    first = second := by
  cases first <;> cases second <;> first | rfl | exact absurd h (by decide)

end AssuranceProperty

/-! ## Requests -/

inductive ExecutionAssuranceRequestStatus where
  | valid
  | empty
  | duplicate
  | unknownProperty
  deriving DecidableEq, Repr

structure ExecutionAssuranceRequestDecision where
  status : ExecutionAssuranceRequestStatus
  valid : Bool
  requested : AssuranceProperty → Bool

/-- The functions of `mncs.core.sequences` that the policy calls. -/
structure SequenceLibrary where
  equalsByteView : List UInt8 → List UInt8 → Bool

structure SequenceLibrary.Documented (sequences : SequenceLibrary) : Prop where
  equalsByteView_eq : ∀ first second,
    sequences.equalsByteView first second = decide (first = second)

def referenceSequences : SequenceLibrary where
  equalsByteView first second := decide (first = second)

theorem referenceSequences_documented : referenceSequences.Documented where
  equalsByteView_eq _ _ := rfl

section Requests

variable (sequences : SequenceLibrary)

def requestKnown (value : List UInt8) : Bool :=
  AssuranceProperty.all.any fun property => sequences.equalsByteView value property.bytes

def requestHasDuplicate (values : List (List UInt8)) : Bool :=
  (List.range values.length).any fun i =>
    (List.range values.length).any fun j =>
      decide (i < j) && sequences.equalsByteView (values.getD i []) (values.getD j [])

def requestHasUnknown (values : List (List UInt8)) : Bool :=
  values.any fun value => !requestKnown sequences value

def requestContains (values : List (List UInt8)) (candidate : List UInt8) : Bool :=
  values.any fun value => sequences.equalsByteView value candidate

/-- `execution_assurance_request_validate`. -/
def requestValidate (values : List (List UInt8)) : ExecutionAssuranceRequestDecision :=
  let requested := fun property : AssuranceProperty =>
    requestContains sequences values property.bytes
  if values.length = 0 then ⟨.empty, false, requested⟩
  else if requestHasDuplicate sequences values then ⟨.duplicate, false, requested⟩
  else if requestHasUnknown sequences values then ⟨.unknownProperty, false, requested⟩
  else ⟨.valid, true, requested⟩

end Requests

/-! ## Assessments -/

inductive ExecutionPropertyState where
  | established
  | notEstablished
  | unknown
  | unreadable
  deriving DecidableEq, Repr

inductive ExecutionPropertyFinding where
  | notRequested
  | satisfied
  | notEstablished
  | unknown
  | unreadable
  deriving DecidableEq, Repr

inductive IsolationConflict where
  | none
  | filesystemIsolation
  | networkIsolation
  | containerization
  deriving DecidableEq, Repr

structure ExecutionAssuranceInput where
  localProcessRunner : Bool
  propertyMapComplete : Bool
  completeReceiptMissing : Bool
  receiptComplete : Bool
  requested : AssuranceProperty → Bool
  state : AssuranceProperty → ExecutionPropertyState

structure ExecutionAssuranceDecision where
  status : Status
  valid : Bool
  propertyMapIncomplete : Bool
  completeReceiptMissing : Bool
  receiptIncomplete : Bool
  isolationConflict : IsolationConflict
  finding : AssuranceProperty → ExecutionPropertyFinding

def executionPropertyFinding (requested : Bool) (state : ExecutionPropertyState) :
    ExecutionPropertyFinding :=
  if requested = false then .notRequested
  else
    match state with
    | .established => .satisfied
    | .notEstablished => .notEstablished
    | .unknown => .unknown
    | .unreadable => .unreadable

def executionPropertyUnmet : ExecutionPropertyFinding → Bool
  | .notRequested | .satisfied => false
  | .notEstablished | .unknown | .unreadable => true

def executionPropertyEstablished : ExecutionPropertyState → Bool
  | .established => true
  | .notEstablished | .unknown | .unreadable => false

def hasIsolationConflict : IsolationConflict → Bool
  | .none => false
  | .filesystemIsolation | .networkIsolation | .containerization => true

def localIsolationConflict (input : ExecutionAssuranceInput) : IsolationConflict :=
  if input.localProcessRunner = false then .none
  else if executionPropertyEstablished (input.state .filesystemIsolation) then
    .filesystemIsolation
  else if executionPropertyEstablished (input.state .networkIsolation) then .networkIsolation
  else if executionPropertyEstablished (input.state .containerization) then .containerization
  else .none

/-- `execution_assurance_assess`. -/
def assess (input : ExecutionAssuranceInput) : ExecutionAssuranceDecision :=
  let finding := fun property =>
    executionPropertyFinding (input.requested property) (input.state property)
  let isolationConflict := localIsolationConflict input
  let valid := AssuranceProperty.all.any input.requested
  let incomplete := !input.propertyMapComplete || input.completeReceiptMissing ||
    !input.receiptComplete || AssuranceProperty.all.any (executionPropertyUnmet ∘ finding)
  { status :=
      if valid = false then .unknown
      else if hasIsolationConflict isolationConflict then .fail
      else if incomplete then .unknown
      else .pass
    valid := valid
    propertyMapIncomplete := !input.propertyMapComplete
    completeReceiptMissing := input.completeReceiptMissing
    receiptIncomplete := !input.receiptComplete
    isolationConflict := isolationConflict
    finding := finding }

/-! ## The adapter -/

/-- `execution_assurance_request_validate` of the adapter.  A text is valid UTF-8,
and the language runtime is taken to run the policy. -/
def executionAssuranceRequestValidate (sequences : SequenceLibrary) (requested : List String) :
    Except ForgeError ExecutionAssuranceRequestDecision := do
  refuseIf (8 < requested.length) "NATIVE_ASSURANCE_INPUT" "assurance properties exceed 8 items"
  match requested.findIdx? fun text => 32 < (utf8 text).length with
  | some index =>
      .error ⟨"NATIVE_ASSURANCE_INPUT", s!"assurance property {index} exceeds 32 UTF-8 bytes"⟩
  | none => .ok (requestValidate sequences (requested.map utf8))

/-! ## What the policy decides -/

theorem utf8_injective : Function.Injective utf8 := by
  intro first second h
  have encoded : ∀ text : String, (utf8 text).toByteArray = text.toByteArray :=
    fun text => String.utf8Encode_toList
  exact String.toByteArray_inj.mp (by rw [← encoded, ← encoded, h])

section Accepted

variable {sequences : SequenceLibrary} {requested : List String}

theorem requestContains_iff (documented : sequences.Documented)
    {property : AssuranceProperty} :
    requestContains sequences (requested.map utf8) property.bytes = true ↔
      property.name ∈ requested := by
  simp only [requestContains, List.any_map, List.any_eq_true, Function.comp_apply,
    documented.equalsByteView_eq, decide_eq_true_eq, property.bytes_eq, utf8_injective.eq_iff]
  constructor
  · rintro ⟨text, member, rfl⟩
    exact member
  · exact fun member => ⟨_, member, rfl⟩

theorem requestKnown_iff (documented : sequences.Documented) {text : String} :
    requestKnown sequences (utf8 text) = true ↔
      ∃ property : AssuranceProperty, text = property.name := by
  simp only [requestKnown, List.any_eq_true, documented.equalsByteView_eq, decide_eq_true_eq]
  constructor
  · rintro ⟨property, _, same⟩
    exact ⟨property, utf8_injective (same.trans property.bytes_eq)⟩
  · rintro ⟨property, rfl⟩
    exact ⟨property, property.mem_all, property.bytes_eq.symm⟩

theorem requestHasDuplicate_eq_false (documented : sequences.Documented)
    {values : List (List UInt8)} :
    requestHasDuplicate sequences values = false ↔ values.Nodup := by
  rw [List.nodup_iff_getElem?_ne_getElem?, ← Bool.not_eq_true, requestHasDuplicate]
  simp only [List.any_eq_true, List.mem_range, Bool.and_eq_true, decide_eq_true_eq,
    documented.equalsByteView_eq, not_exists, not_and]
  constructor
  · intro distinct i j before bound same
    refine distinct i (by omega) j bound before ?_
    rw [List.getD_eq_getElem?_getD, List.getD_eq_getElem?_getD, same]
  · intro distinct i hi j hj before same
    refine distinct i j before hj ?_
    rw [List.getD_eq_getElem _ _ hi, List.getD_eq_getElem _ _ hj] at same
    rw [List.getElem?_eq_getElem hi, List.getElem?_eq_getElem hj, same]

theorem requestHasUnknown_eq_false (documented : sequences.Documented) :
    requestHasUnknown sequences (requested.map utf8) = false ↔
      ∀ text ∈ requested, ∃ property : AssuranceProperty, text = property.name := by
  simp only [requestHasUnknown, List.any_map, List.any_eq_false, Function.comp_apply,
    Bool.not_eq_true', Bool.not_eq_false, requestKnown_iff documented]

/-- A request is accepted when it names some of the properties, each of them once. -/
theorem requestValidate_valid (documented : sequences.Documented) :
    (requestValidate sequences (requested.map utf8)).valid = true ↔
      requested ≠ [] ∧ requested.Nodup ∧
        ∀ text ∈ requested, ∃ property : AssuranceProperty, text = property.name := by
  rw [← requestHasUnknown_eq_false documented, ← List.nodup_map_iff utf8_injective,
    ← requestHasDuplicate_eq_false documented, requestValidate, List.length_map]
  by_cases empty : requested = []
  · simp [empty]
  · have : ¬requested.length = 0 := by simpa using empty
    cases duplicate : requestHasDuplicate sequences (requested.map utf8) <;>
      cases unknown : requestHasUnknown sequences (requested.map utf8) <;> simp [this, empty]

theorem requestValidate_requested (documented : sequences.Documented)
    {property : AssuranceProperty} :
    (requestValidate sequences (requested.map utf8)).requested property = true ↔
      property.name ∈ requested := by
  rw [← requestContains_iff documented, requestValidate]
  split_ifs <;> rfl

/-- What the caller of an accepted request may rely on. -/
theorem executionAssuranceRequestValidate_accepted (documented : sequences.Documented)
    {decision : ExecutionAssuranceRequestDecision}
    (h : executionAssuranceRequestValidate sequences requested = .ok decision)
    (valid : decision.valid = true) :
    requested ≠ [] ∧ requested.Nodup ∧
      (∀ text ∈ requested, ∃ property : AssuranceProperty, text = property.name) ∧
      ∀ property, decision.requested property = true ↔ property.name ∈ requested := by
  rw [executionAssuranceRequestValidate, refuseIf_bind_eq_ok] at h
  obtain ⟨_, h⟩ := h
  split at h
  · cases h
  · obtain rfl := Except.ok.inj h
    obtain ⟨some, distinct, known⟩ := (requestValidate_valid documented).mp valid
    exact ⟨some, distinct, known, fun property => requestValidate_requested documented⟩

end Accepted

section Verdict

variable {input : ExecutionAssuranceInput}

theorem hasIsolationConflict_iff :
    hasIsolationConflict (assess input).isolationConflict = true ↔
      input.localProcessRunner = true ∧
        ∃ property ∈ [AssuranceProperty.filesystemIsolation, .networkIsolation,
          .containerization], input.state property = .established := by
  have established : ∀ state,
      executionPropertyEstablished state = true ↔ state = .established := by
    intro state
    cases state <;> decide
  simp only [assess, localIsolationConflict, established, List.mem_cons, List.not_mem_nil, or_false,
    exists_eq_or_imp, exists_eq_left]
  split_ifs with remote files network contained
  · simp [hasIsolationConflict, remote]
  · simp [hasIsolationConflict, files, remote]
  · simp [hasIsolationConflict, network, remote]
  · simp [hasIsolationConflict, contained, remote]
  · simp [hasIsolationConflict, files, network, contained]

theorem executionPropertyUnmet_eq_false {requested : Bool} {state : ExecutionPropertyState} :
    executionPropertyUnmet (executionPropertyFinding requested state) = false ↔
      (requested = true → state = .established) := by
  cases requested <;> cases state <;> decide

theorem assess_valid :
    (assess input).valid = true ↔ ∃ property, input.requested property = true := by
  simp only [assess, List.any_eq_true]
  exact ⟨fun ⟨property, _, h⟩ => ⟨property, h⟩, fun ⟨property, h⟩ => ⟨property, property.mem_all, h⟩⟩

theorem assess_fail :
    (assess input).status = .fail ↔
      (assess input).valid = true ∧
        hasIsolationConflict (assess input).isolationConflict = true := by
  simp only [assess]
  split_ifs with invalid conflict incomplete <;> simp_all

theorem assess_pass :
    (assess input).status = .pass ↔
      (assess input).valid = true ∧
        hasIsolationConflict (assess input).isolationConflict = false ∧
        input.propertyMapComplete = true ∧ input.completeReceiptMissing = false ∧
        input.receiptComplete = true ∧
        ∀ property, input.requested property = true → input.state property = .established := by
  have unmet : (AssuranceProperty.all.any
      (executionPropertyUnmet ∘ (assess input).finding)) = false ↔
      ∀ property, input.requested property = true → input.state property = .established := by
    rw [List.any_eq_false]
    simp only [Function.comp_apply, Bool.not_eq_true, assess, executionPropertyUnmet_eq_false]
    exact ⟨fun h property => h property property.mem_all, fun h property _ => h property⟩
  have complete : (!input.propertyMapComplete || input.completeReceiptMissing ||
      !input.receiptComplete ||
      AssuranceProperty.all.any (executionPropertyUnmet ∘ (assess input).finding)) = false ↔
      input.propertyMapComplete = true ∧ input.completeReceiptMissing = false ∧
        input.receiptComplete = true ∧
        ∀ property, input.requested property = true → input.state property = .established := by
    rw [Bool.or_eq_false_iff, Bool.or_eq_false_iff, Bool.or_eq_false_iff, unmet,
      Bool.not_eq_false', Bool.not_eq_false', and_assoc, and_assoc]
  rw [← complete]
  simp only [assess]
  split_ifs with invalid conflict incomplete
  · simp [invalid]
  · simp [conflict]
  · simp [incomplete]
  · simp [invalid, conflict, incomplete]

end Verdict

end MncsForge.Native.ExecutionAssurance
