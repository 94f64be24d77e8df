import Mathlib
import MncsForge.Native.ExecutionAssurance

/-!
# Continuous trigger routing

`continuous_trigger_matches` of the native core decides whether an edit concerns
a trigger.  Its texts are byte views of at most 1024 bytes, in lists of at most
256; a pattern is an exact text or a text before one final asterisk.
-/

namespace MncsForge.Native.TriggerMatching

open MncsForge.Native.ExecutionAssurance (SequenceLibrary referenceSequences
  referenceSequences_documented)
open NativeForgeAdapter (utf8)

/-- `[byte; up_to 1024]` -/
abbrev ByteView := { bytes : List UInt8 // bytes.length ≤ 1024 }

/-- `[[byte; up_to 1024]; up_to 256]` -/
abbrev ByteViews := { views : List ByteView // views.length ≤ 256 }

structure ContinuousTriggerInput where
  eventKinds : ByteViews
  changeKinds : ByteViews
  guaranteeDomains : ByteViews
  riskFlags : ByteViews
  subjectKinds : ByteViews
  contractPatterns : ByteViews
  obligationPatterns : ByteViews
  diagnosticPatterns : ByteViews
  diagnosticAdded : ByteViews
  diagnosticResolved : ByteViews
  semanticSubjects : ByteViews
  obligationAdded : ByteViews
  obligationResolved : ByteViews
  obligationStatusChanged : ByteViews
  impactChangeKinds : ByteViews
  impactGuaranteeDomains : ByteViews
  impactRiskFlags : ByteViews
  impactNodeKinds : ByteViews
  impactNodeIdentities : ByteViews
  security : Bool
  reconciled : Bool

structure ContinuousTriggerDecision where
  valid : Bool
  matched : Bool
  deriving DecidableEq, Repr

/-! ## Names the routing knows -/

inductive EventKind where
  | sourceChanged
  | diagnosticAdded
  | diagnosticResolved
  | semanticSubjectChanged
  | obligationChanged
  | securityBoundaryChanged
  | publicContractChanged
  | workspaceReconciled
  deriving DecidableEq, Repr

namespace EventKind

/-- In the order in which `continuous_event_kind_active` compares. -/
def all : List EventKind :=
  [.sourceChanged, .diagnosticAdded, .diagnosticResolved, .semanticSubjectChanged,
    .obligationChanged, .securityBoundaryChanged, .publicContractChanged, .workspaceReconciled]

def name : EventKind → String
  | .sourceChanged => "source_changed"
  | .diagnosticAdded => "diagnostic_added"
  | .diagnosticResolved => "diagnostic_resolved"
  | .semanticSubjectChanged => "semantic_subject_changed"
  | .obligationChanged => "obligation_changed"
  | .securityBoundaryChanged => "security_boundary_changed"
  | .publicContractChanged => "public_contract_changed"
  | .workspaceReconciled => "workspace_reconciled"

/-- The names as the core spells them. -/
def bytes : EventKind → List UInt8
  | .sourceChanged => [115, 111, 117, 114, 99, 101, 95, 99, 104, 97, 110, 103, 101, 100]
  | .diagnosticAdded =>
      [100, 105, 97, 103, 110, 111, 115, 116, 105, 99, 95, 97, 100, 100, 101, 100]
  | .diagnosticResolved =>
      [100, 105, 97, 103, 110, 111, 115, 116, 105, 99, 95, 114, 101, 115, 111, 108, 118, 101, 100]
  | .semanticSubjectChanged =>
      [115, 101, 109, 97, 110, 116, 105, 99, 95, 115, 117, 98, 106, 101, 99, 116, 95, 99, 104, 97,
        110, 103, 101, 100]
  | .obligationChanged =>
      [111, 98, 108, 105, 103, 97, 116, 105, 111, 110, 95, 99, 104, 97, 110, 103, 101, 100]
  | .securityBoundaryChanged =>
      [115, 101, 99, 117, 114, 105, 116, 121, 95, 98, 111, 117, 110, 100, 97, 114, 121, 95, 99,
        104, 97, 110, 103, 101, 100]
  | .publicContractChanged =>
      [112, 117, 98, 108, 105, 99, 95, 99, 111, 110, 116, 114, 97, 99, 116, 95, 99, 104, 97, 110,
        103, 101, 100]
  | .workspaceReconciled =>
      [119, 111, 114, 107, 115, 112, 97, 99, 101, 95, 114, 101, 99, 111, 110, 99, 105, 108, 101,
        100]

theorem mem_all (kind : EventKind) : kind ∈ all := by
  cases kind <;> decide

theorem bytes_eq (kind : EventKind) : kind.bytes = utf8 kind.name := by
  cases kind <;> decide +kernel

theorem bytes_injective : Function.Injective bytes := by
  intro first second h
  cases first <;> cases second <;> first | rfl | exact absurd h (by decide)

end EventKind

/-- `"contract"` -/
def contractKind : List UInt8 := [99, 111, 110, 116, 114, 97, 99, 116]

/-- `"effect_capability"` -/
def effectCapability : List UInt8 :=
  [101, 102, 102, 101, 99, 116, 95, 99, 97, 112, 97, 98, 105, 108, 105, 116, 121]

/-- `"effect_semantics"` -/
def effectSemantics : List UInt8 :=
  [101, 102, 102, 101, 99, 116, 95, 115, 101, 109, 97, 110, 116, 105, 99, 115]

/-- `"public_contract"` -/
def publicContract : List UInt8 :=
  [112, 117, 98, 108, 105, 99, 95, 99, 111, 110, 116, 114, 97, 99, 116]

/-! ## Patterns -/

/-- `continuous_pattern_valid`; the index is a `u64` that is advanced modulo `2 ^ 64`. -/
def patternValid (pattern : ByteView) : Bool :=
  if pattern.1.length = 0 then false
  else
    (List.range pattern.1.length).all fun i =>
      let value := pattern.1.getD i 0
      let unsupportedWildcard := value == 63 || value == 91 || value == 93
      let misplacedStar := value == 42 && decide ((i + 1) % 2 ^ 64 < pattern.1.length)
      !unsupportedWildcard && !misplacedStar

def patternByteMatches (pattern candidate : ByteView) (index requiredLength : Nat) : Bool :=
  if requiredLength ≤ index then true
  else if candidate.1.length ≤ index then false
  else pattern.1.getD index 0 == candidate.1.getD index 0

def patternMatches (pattern candidate : ByteView) : Bool :=
  if patternValid pattern = false then false
  else
    let hasPrefixStar := pattern.1.getD (pattern.1.length - 1) 0 == 42
    let requiredLength := if hasPrefixStar then pattern.1.length - 1 else pattern.1.length
    if hasPrefixStar = true ∧ candidate.1.length < requiredLength then false
    else if hasPrefixStar = false ∧ candidate.1.length ≠ requiredLength then false
    else
      (List.range pattern.1.length).all fun i =>
        patternByteMatches pattern candidate i requiredLength

def patternsValid (patterns : ByteViews) : Bool :=
  patterns.1.all patternValid

def patternHits (patterns : ByteViews) (candidates : List ByteView) : Bool :=
  if patterns.1.length = 0 then true
  else
    candidates.any fun candidate => patterns.1.any fun pattern => patternMatches pattern candidate

/-! ## Filters -/

section Filters

variable (sequences : SequenceLibrary) (input : ContinuousTriggerInput)

def contains (values : ByteViews) (candidate : List UInt8) : Bool :=
  values.1.any fun value => sequences.equalsByteView value.1 candidate

def intersects (configured observed : ByteViews) : Bool :=
  if configured.1.length = 0 then true
  else observed.1.any fun item => contains sequences configured item.1

def contractMatch : Bool :=
  if input.contractPatterns.1.length = 0 then true
  else if input.impactNodeKinds.1.length ≠ input.impactNodeIdentities.1.length then false
  else
    (input.impactNodeKinds.1.zip input.impactNodeIdentities.1).any fun node =>
      sequences.equalsByteView node.1.1 contractKind &&
        patternHits input.contractPatterns [node.2]

def securityBoundaryChanged : Bool :=
  contains sequences input.impactChangeKinds effectCapability ||
    contains sequences input.impactRiskFlags effectSemantics

def publicContractChanged : Bool :=
  contains sequences input.impactChangeKinds publicContract

/-- What makes a kind of event active. -/
def kindActive : EventKind → Bool
  | .sourceChanged => true
  | .diagnosticAdded => decide (0 < input.diagnosticAdded.1.length)
  | .diagnosticResolved => decide (0 < input.diagnosticResolved.1.length)
  | .semanticSubjectChanged => decide (0 < input.semanticSubjects.1.length)
  | .obligationChanged =>
      decide (0 < input.obligationAdded.1.length) ||
        decide (0 < input.obligationResolved.1.length) ||
        decide (0 < input.obligationStatusChanged.1.length)
  | .securityBoundaryChanged => securityBoundaryChanged sequences input
  | .publicContractChanged => publicContractChanged sequences input
  | .workspaceReconciled => input.reconciled

/-- The first of the known names that the text is. -/
def eventKindActive (kind : ByteView) : Bool :=
  match EventKind.all.find? fun known => sequences.equalsByteView kind.1 known.bytes with
  | some known => kindActive sequences input known
  | none => false

def eventKindMatch : Bool :=
  if input.eventKinds.1.length = 0 then true
  else input.eventKinds.1.any fun kind => eventKindActive sequences input kind

def subjectKindMatch : Bool :=
  if input.subjectKinds.1.length = 0 then true
  else input.impactNodeKinds.1.any fun kind => contains sequences input.subjectKinds kind.1

def obligationMatch : Bool :=
  patternHits input.obligationPatterns input.obligationAdded.1 ||
    patternHits input.obligationPatterns input.obligationResolved.1 ||
    patternHits input.obligationPatterns input.obligationStatusChanged.1

def diagnosticMatch : Bool :=
  patternHits input.diagnosticPatterns input.diagnosticAdded.1 ||
    patternHits input.diagnosticPatterns input.diagnosticResolved.1

def triggerMatches : ContinuousTriggerDecision :=
  let valid := patternsValid input.contractPatterns && patternsValid input.obligationPatterns &&
    patternsValid input.diagnosticPatterns
  let securityMatches := !input.security || securityBoundaryChanged sequences input ||
    input.reconciled
  { valid := valid
    matched := valid && eventKindMatch sequences input &&
      intersects sequences input.changeKinds input.impactChangeKinds &&
      intersects sequences input.guaranteeDomains input.impactGuaranteeDomains &&
      intersects sequences input.riskFlags input.impactRiskFlags &&
      subjectKindMatch sequences input && contractMatch sequences input &&
      obligationMatch input && diagnosticMatch input && securityMatches }

end Filters

/-! ## What a pattern is -/

/-- A text without wildcards, but for one asterisk that may end it. -/
structure IsPattern (pattern : List UInt8) : Prop where
  nonempty : pattern ≠ []
  noWildcard : 63 ∉ pattern ∧ 91 ∉ pattern ∧ 93 ∉ pattern
  star : 42 ∉ pattern.dropLast

/-- The candidate is the pattern, or starts with what comes before the final asterisk. -/
def Denotes (pattern candidate : List UInt8) : Prop :=
  candidate = pattern ∨ (pattern.getLast? = some 42 ∧ pattern.dropLast <+: candidate)

theorem patternValid_iff {pattern : ByteView} :
    patternValid pattern = true ↔ IsPattern pattern.1 := by
  obtain ⟨bytes, bound⟩ := pattern
  unfold patternValid
  dsimp only at *
  split
  · next empty =>
      have : bytes = [] := List.length_eq_zero_iff.mp empty
      refine iff_of_false (by simp) fun h => h.nonempty this
  · next filled =>
      rw [List.all_eq_true]
      simp only [List.mem_range, Bool.and_eq_true, Bool.not_eq_true', Bool.or_eq_false_iff,
        beq_eq_false_iff_ne, Bool.and_eq_false_iff, decide_eq_false_iff_not, ne_eq]
      constructor
      · intro every
        have at_ : ∀ {value : UInt8}, value ∈ bytes → ∃ i, i < bytes.length ∧
            bytes.getD i 0 = value := by
          intro value member
          obtain ⟨i, hi, rfl⟩ := List.mem_iff_getElem.mp member
          exact ⟨i, hi, List.getD_eq_getElem _ _ hi⟩
        refine ⟨by rintro rfl; exact filled rfl, ⟨?_, ?_, ?_⟩, ?_⟩
        · intro member
          obtain ⟨i, hi, value⟩ := at_ member
          exact (every i hi).1.1.1 value
        · intro member
          obtain ⟨i, hi, value⟩ := at_ member
          exact (every i hi).1.1.2 value
        · intro member
          obtain ⟨i, hi, value⟩ := at_ member
          exact (every i hi).1.2 value
        · intro member
          obtain ⟨i, hi, value⟩ := List.mem_iff_getElem.mp member
          rw [List.length_dropLast] at hi
          rw [List.getElem_dropLast] at value
          rcases (every i (by omega)).2 with other | last
          · exact other (by rw [List.getD_eq_getElem _ _ (by omega), value])
          · omega
      · intro h i hi
        have member : bytes.getD i 0 ∈ bytes := by
          rw [List.getD_eq_getElem _ _ hi]
          exact List.getElem_mem hi
        refine ⟨⟨⟨?_, ?_⟩, ?_⟩, ?_⟩
        · intro value
          exact h.noWildcard.1 (value ▸ member)
        · intro value
          exact h.noWildcard.2.1 (value ▸ member)
        · intro value
          exact h.noWildcard.2.2 (value ▸ member)
        · by_cases last : i + 1 < bytes.length
          · left
            intro value
            apply h.star
            rw [← value, List.getD_eq_getElem _ _ hi]
            exact List.mem_iff_getElem.mpr ⟨i, by rw [List.length_dropLast]; omega,
              List.getElem_dropLast _⟩
          · right
            omega

/-- The byte loop compares what the pattern requires of the candidate. -/
theorem all_patternByteMatches_iff {pattern candidate : ByteView} {required : Nat}
    (inPattern : required ≤ pattern.1.length) (inCandidate : required ≤ candidate.1.length) :
    ((List.range pattern.1.length).all fun i =>
      patternByteMatches pattern candidate i required) = true ↔
      pattern.1.take required <+: candidate.1 := by
  have same : pattern.1.take required <+: candidate.1 ↔
      pattern.1.take required = candidate.1.take required := by
    rw [List.prefix_iff_eq_take, List.length_take, Nat.min_eq_left inPattern]
  rw [same, List.all_eq_true]
  simp only [List.mem_range]
  constructor
  · intro every
    apply List.ext_getElem
    · simp only [List.length_take]
      omega
    · intro i hi hi'
      rw [List.length_take] at hi hi'
      have here := every i (by omega)
      rw [patternByteMatches, if_neg (by omega), if_neg (by omega), beq_iff_eq,
        List.getD_eq_getElem _ _ (by omega), List.getD_eq_getElem _ _ (by omega)] at here
      rw [List.getElem_take, List.getElem_take, here]
  · intro equal i hi
    unfold patternByteMatches
    split
    · rfl
    · rw [if_neg (by omega), beq_iff_eq, List.getD_eq_getElem _ _ hi,
        List.getD_eq_getElem _ _ (by omega)]
      have here := List.getElem_of_eq equal (i := i) (by rw [List.length_take]; omega)
      rw [List.getElem_take, List.getElem_take] at here
      exact here

theorem patternMatches_iff {pattern candidate : ByteView} :
    patternMatches pattern candidate = true ↔
      IsPattern pattern.1 ∧ Denotes pattern.1 candidate.1 := by
  by_cases valid : patternValid pattern = true
  · have isPattern := patternValid_iff.mp valid
    obtain ⟨start, last, split⟩ : ∃ start last, pattern.1 = start ++ [last] :=
      ⟨_, _, (List.dropLast_append_getLast isPattern.nonempty).symm⟩
    have length : pattern.1.length = start.length + 1 := by simp [split]
    have final : pattern.1.getD (pattern.1.length - 1) 0 = last := by simp [split]
    have taken : pattern.1.take start.length = start := by simp [split]
    have dropped : pattern.1.dropLast = start := by simp [split]
    have ends : pattern.1.getLast? = some last := by simp [split]
    simp only [patternMatches, valid, final, Bool.true_eq_false, if_false, isPattern, true_and,
      Denotes, dropped, ends, Option.some.injEq]
    by_cases star : last = 42
    · simp only [star, beq_self_eq_true, if_true, true_and, Bool.true_eq_false, false_and,
        if_false, length, Nat.add_sub_cancel]
      by_cases short : candidate.1.length < start.length
      · rw [if_pos short]
        refine iff_of_false (by simp) ?_
        rintro (same | starts)
        · rw [same, length] at short
          omega
        · have := starts.length_le
          omega
      · rw [if_neg short, ← length, all_patternByteMatches_iff (by omega) (by omega), taken]
        constructor
        · exact Or.inr
        · rintro (same | starts)
          · rw [same, split]
            exact List.prefix_append _ _
          · exact starts
    · have plain : (last == 42) = false := beq_eq_false_iff_ne.mpr star
      simp only [plain, Bool.false_eq_true, if_false, false_and, true_and, star, or_false]
      by_cases other : candidate.1.length ≠ pattern.1.length
      · rw [if_pos other]
        exact iff_of_false (by simp) fun same => other (by rw [same])
      · rw [if_neg other, all_patternByteMatches_iff le_rfl (by omega), List.take_length]
        constructor
        · intro starts
          exact (starts.eq_of_length (by omega)).symm
        · intro same
          rw [same]
  · rw [Bool.not_eq_true] at valid
    refine iff_of_false (by simp [patternMatches, valid]) fun h => ?_
    rw [patternValid_iff.mpr h.1] at valid
    cases valid

theorem patternsValid_iff {patterns : ByteViews} :
    patternsValid patterns = true ↔ ∀ pattern ∈ patterns.1, IsPattern pattern.1 := by
  simp only [patternsValid, List.all_eq_true, patternValid_iff]

/-- Some candidate is one that some pattern denotes. -/
def Hits (patterns : ByteViews) (candidates : List ByteView) : Prop :=
  ∃ candidate ∈ candidates, ∃ pattern ∈ patterns.1,
    IsPattern pattern.1 ∧ Denotes pattern.1 candidate.1

theorem patternHits_iff {patterns : ByteViews} {candidates : List ByteView} :
    patternHits patterns candidates = true ↔ patterns.1 = [] ∨ Hits patterns candidates := by
  unfold patternHits
  by_cases empty : patterns.1 = []
  · simp [empty]
  · rw [if_neg (by simpa using empty)]
    simp only [List.any_eq_true, patternMatches_iff, empty, false_or, Hits]

/-! ## What a trigger asks for -/

def Observes (views : ByteViews) (text : String) : Prop :=
  ∃ item ∈ views.1, item.1 = utf8 text

def BoundaryChanged (input : ContinuousTriggerInput) : Prop :=
  Observes input.impactChangeKinds "effect_capability" ∨
    Observes input.impactRiskFlags "effect_semantics"

/-- An edit shows this kind of event. -/
def Active (input : ContinuousTriggerInput) : EventKind → Prop
  | .sourceChanged => True
  | .diagnosticAdded => input.diagnosticAdded.1 ≠ []
  | .diagnosticResolved => input.diagnosticResolved.1 ≠ []
  | .semanticSubjectChanged => input.semanticSubjects.1 ≠ []
  | .obligationChanged => input.obligationAdded.1 ≠ [] ∨ input.obligationResolved.1 ≠ [] ∨
      input.obligationStatusChanged.1 ≠ []
  | .securityBoundaryChanged => BoundaryChanged input
  | .publicContractChanged => Observes input.impactChangeKinds "public_contract"
  | .workspaceReconciled => input.reconciled = true

/-- A node of the impact is a contract that a pattern denotes. -/
def ContractObserved (input : ContinuousTriggerInput) : Prop :=
  ∃ (i : Nat) (kind identity : ByteView), input.impactNodeKinds.1[i]? = some kind ∧
    input.impactNodeIdentities.1[i]? = some identity ∧ kind.1 = utf8 "contract" ∧
    Hits input.contractPatterns [identity]

/-- The nine filters, each open when nothing is configured; the contract filter asks for
`contract`. -/
structure Filters (input : ContinuousTriggerInput) (contract : Prop) : Prop where
  eventKind : input.eventKinds.1 = [] ∨ ∃ kind ∈ input.eventKinds.1, ∃ known : EventKind,
    kind.1 = utf8 known.name ∧ Active input known
  changeKinds : input.changeKinds.1 = [] ∨
    ∃ item ∈ input.impactChangeKinds.1, item ∈ input.changeKinds.1
  guaranteeDomains : input.guaranteeDomains.1 = [] ∨
    ∃ item ∈ input.impactGuaranteeDomains.1, item ∈ input.guaranteeDomains.1
  riskFlags : input.riskFlags.1 = [] ∨
    ∃ item ∈ input.impactRiskFlags.1, item ∈ input.riskFlags.1
  subjectKind : input.subjectKinds.1 = [] ∨
    ∃ kind ∈ input.impactNodeKinds.1, kind ∈ input.subjectKinds.1
  contract : input.contractPatterns.1 = [] ∨ contract
  obligation : input.obligationPatterns.1 = [] ∨ Hits input.obligationPatterns
    (input.obligationAdded.1 ++ input.obligationResolved.1 ++ input.obligationStatusChanged.1)
  diagnostic : input.diagnosticPatterns.1 = [] ∨ Hits input.diagnosticPatterns
    (input.diagnosticAdded.1 ++ input.diagnosticResolved.1)
  security : input.security = false ∨ BoundaryChanged input ∨ input.reconciled = true

/-- All patterns of the trigger are well formed. -/
def PatternsFormed (input : ContinuousTriggerInput) : Prop :=
  (∀ pattern ∈ input.contractPatterns.1, IsPattern pattern.1) ∧
  (∀ pattern ∈ input.obligationPatterns.1, IsPattern pattern.1) ∧
  ∀ pattern ∈ input.diagnosticPatterns.1, IsPattern pattern.1

theorem hits_append {patterns : ByteViews} {first second : List ByteView} :
    Hits patterns (first ++ second) ↔ Hits patterns first ∨ Hits patterns second := by
  simp only [Hits, List.mem_append, or_and_right, exists_or]

section

variable {sequences : SequenceLibrary} (documented : sequences.Documented)
variable {input : ContinuousTriggerInput}

include documented

theorem contains_iff {values : ByteViews} {candidate : List UInt8} :
    contains sequences values candidate = true ↔ ∃ value ∈ values.1, value.1 = candidate := by
  simp only [contains, List.any_eq_true, documented.equalsByteView_eq, decide_eq_true_eq]

theorem contains_view_iff {values : ByteViews} {candidate : ByteView} :
    contains sequences values candidate.1 = true ↔ candidate ∈ values.1 := by
  rw [contains_iff documented]
  constructor
  · rintro ⟨value, member, same⟩
    rwa [← Subtype.ext same]
  · exact fun member => ⟨candidate, member, rfl⟩

theorem intersects_iff {configured observed : ByteViews} :
    intersects sequences configured observed = true ↔
      configured.1 = [] ∨ ∃ item ∈ observed.1, item ∈ configured.1 := by
  unfold intersects
  by_cases empty : configured.1 = []
  · simp [empty]
  · rw [if_neg (by simpa using empty)]
    simp only [List.any_eq_true, contains_view_iff documented, empty, false_or]

theorem subjectKindMatch_iff : subjectKindMatch sequences input = true ↔
    input.subjectKinds.1 = [] ∨
      ∃ kind ∈ input.impactNodeKinds.1, kind ∈ input.subjectKinds.1 := by
  rw [subjectKindMatch]
  exact intersects_iff documented

theorem securityBoundaryChanged_iff :
    securityBoundaryChanged sequences input = true ↔ BoundaryChanged input := by
  have capability : effectCapability = utf8 "effect_capability" := by decide +kernel
  have semantics : effectSemantics = utf8 "effect_semantics" := by decide +kernel
  rw [securityBoundaryChanged, Bool.or_eq_true, contains_iff documented, contains_iff documented,
    capability, semantics]
  rfl

theorem kindActive_iff (kind : EventKind) :
    kindActive sequences input kind = true ↔ Active input kind := by
  cases kind with
  | sourceChanged => simp [kindActive, Active]
  | diagnosticAdded => simp [kindActive, Active, List.length_pos_iff]
  | diagnosticResolved => simp [kindActive, Active, List.length_pos_iff]
  | semanticSubjectChanged => simp [kindActive, Active, List.length_pos_iff]
  | obligationChanged => simp [kindActive, Active, List.length_pos_iff, or_assoc]
  | securityBoundaryChanged => exact securityBoundaryChanged_iff documented
  | publicContractChanged =>
      have name : publicContract = utf8 "public_contract" := by decide +kernel
      rw [kindActive, publicContractChanged, contains_iff documented, name]
      rfl
  | workspaceReconciled => rfl

/-- The comparisons find the one kind whose name the text is. -/
theorem eventKindActive_iff {kind : ByteView} :
    eventKindActive sequences input kind = true ↔
      ∃ known : EventKind, kind.1 = utf8 known.name ∧ Active input known := by
  unfold eventKindActive
  cases found : EventKind.all.find? fun known => sequences.equalsByteView kind.1 known.bytes with
  | none =>
      refine iff_of_false (by simp) ?_
      rintro ⟨known, same, _⟩
      have differs := List.find?_eq_none.mp found known (EventKind.mem_all known)
      rw [documented.equalsByteView_eq, EventKind.bytes_eq, decide_eq_true_eq] at differs
      exact differs same
  | some known =>
      have same := List.find?_some found
      rw [documented.equalsByteView_eq, decide_eq_true_eq] at same
      simp only [kindActive_iff documented]
      constructor
      · exact fun active => ⟨known, by rw [same, EventKind.bytes_eq], active⟩
      · rintro ⟨other, text, active⟩
        rw [same, ← EventKind.bytes_eq] at text
        rwa [EventKind.bytes_injective text]

theorem eventKindMatch_iff : eventKindMatch sequences input = true ↔
    input.eventKinds.1 = [] ∨ ∃ kind ∈ input.eventKinds.1, ∃ known : EventKind,
      kind.1 = utf8 known.name ∧ Active input known := by
  unfold eventKindMatch
  by_cases empty : input.eventKinds.1 = []
  · simp [empty]
  · rw [if_neg (by simpa using empty)]
    simp only [List.any_eq_true, eventKindActive_iff documented, empty, false_or]

theorem contractMatch_iff : contractMatch sequences input = true ↔
    input.contractPatterns.1 = [] ∨
      (input.impactNodeKinds.1.length = input.impactNodeIdentities.1.length ∧
        ContractObserved input) := by
  unfold contractMatch
  by_cases empty : input.contractPatterns.1 = []
  · simp [empty]
  · rw [if_neg (by simpa using empty)]
    by_cases paired : input.impactNodeKinds.1.length = input.impactNodeIdentities.1.length
    · have name : contractKind = utf8 "contract" := by decide +kernel
      simp only [paired, ne_eq, not_true, if_false, List.any_eq_true, Bool.and_eq_true,
        documented.equalsByteView_eq, decide_eq_true_eq, patternHits_iff, empty, false_or,
        true_and, name]
      constructor
      · rintro ⟨⟨kind, identity⟩, member, isContract, hits⟩
        obtain ⟨i, hi⟩ := List.mem_iff_getElem?.mp member
        obtain ⟨kindAt, identityAt⟩ := List.getElem?_zip_eq_some.mp hi
        exact ⟨i, kind, identity, kindAt, identityAt, isContract, hits⟩
      · rintro ⟨i, kind, identity, kindAt, identityAt, isContract, hits⟩
        exact ⟨(kind, identity), List.mem_iff_getElem?.mpr
          ⟨i, List.getElem?_zip_eq_some.mpr ⟨kindAt, identityAt⟩⟩, isContract, hits⟩
    · simp [paired, empty]

omit documented in
theorem obligationMatch_iff : obligationMatch input = true ↔
    input.obligationPatterns.1 = [] ∨ Hits input.obligationPatterns
      (input.obligationAdded.1 ++ input.obligationResolved.1 ++
        input.obligationStatusChanged.1) := by
  simp only [obligationMatch, Bool.or_eq_true, patternHits_iff, hits_append]
  tauto

omit documented in
theorem diagnosticMatch_iff : diagnosticMatch input = true ↔
    input.diagnosticPatterns.1 = [] ∨ Hits input.diagnosticPatterns
      (input.diagnosticAdded.1 ++ input.diagnosticResolved.1) := by
  simp only [diagnosticMatch, Bool.or_eq_true, patternHits_iff, hits_append]
  tauto

omit documented in
theorem valid_iff : (triggerMatches sequences input).valid = true ↔ PatternsFormed input := by
  simp only [triggerMatches, Bool.and_eq_true, patternsValid_iff, PatternsFormed, and_assoc]

theorem matched_iff : (triggerMatches sequences input).matched = true ↔
    PatternsFormed input ∧ Filters input
      (input.impactNodeKinds.1.length = input.impactNodeIdentities.1.length ∧
        ContractObserved input) := by
  have security : (!input.security || securityBoundaryChanged sequences input ||
      input.reconciled) = true ↔
        input.security = false ∨ BoundaryChanged input ∨ input.reconciled = true := by
    rw [Bool.or_eq_true, Bool.or_eq_true, securityBoundaryChanged_iff documented,
      Bool.not_eq_true', or_assoc]
  have formed : (triggerMatches sequences input).valid = true ↔ PatternsFormed input := valid_iff
  rw [← formed]
  simp only [triggerMatches, Bool.and_eq_true, eventKindMatch_iff documented,
    intersects_iff documented, subjectKindMatch_iff documented, contractMatch_iff documented,
    obligationMatch_iff, diagnosticMatch_iff] at *
  constructor
  · rintro ⟨⟨⟨⟨⟨⟨⟨⟨⟨valid, kinds⟩, changes⟩, domains⟩, flags⟩, subjects⟩, contracts⟩,
      obligations⟩, diagnostics⟩, secure⟩
    exact ⟨valid, kinds, changes, domains, flags, subjects, contracts, obligations, diagnostics,
      security.mp secure⟩
  · rintro ⟨valid, filters⟩
    exact ⟨⟨⟨⟨⟨⟨⟨⟨⟨valid, filters.eventKind⟩, filters.changeKinds⟩, filters.guaranteeDomains⟩,
      filters.riskFlags⟩, filters.subjectKind⟩, filters.contract⟩, filters.obligation⟩,
      filters.diagnostic⟩, security.mpr filters.security⟩

end

/-! ## The routing -/

/-- A pattern denotes what it should, and a trigger matches when its patterns are well
formed and its nine filters are met; the contract filter reads nodes only where each has
an identity. -/
theorem triggerMatches_routes {sequences : SequenceLibrary}
    (documented : sequences.Documented) :
    (∀ pattern candidate : ByteView, patternMatches pattern candidate = true ↔
      IsPattern pattern.1 ∧ Denotes pattern.1 candidate.1) ∧
    ∀ input : ContinuousTriggerInput,
      ((triggerMatches sequences input).valid = true ↔ PatternsFormed input) ∧
      ((triggerMatches sequences input).matched = true ↔ PatternsFormed input ∧
        Filters input
          (input.impactNodeKinds.1.length = input.impactNodeIdentities.1.length ∧
            ContractObserved input)) :=
  ⟨fun _ _ => patternMatches_iff, fun _ => ⟨valid_iff, matched_iff documented⟩⟩

def noViews : ByteViews := ⟨[], by decide⟩

def viewA : ByteView := ⟨[97], by decide⟩

def viewContract : ByteView := ⟨contractKind, by decide⟩

/-- A trigger for the contract `a`, and an edit of nodes of these kinds of which one has
the identity `a`. -/
def contractInput (kinds : ByteViews) : ContinuousTriggerInput where
  eventKinds := noViews
  changeKinds := noViews
  guaranteeDomains := noViews
  riskFlags := noViews
  subjectKinds := noViews
  contractPatterns := ⟨[viewA], by decide⟩
  obligationPatterns := noViews
  diagnosticPatterns := noViews
  diagnosticAdded := noViews
  diagnosticResolved := noViews
  semanticSubjects := noViews
  obligationAdded := noViews
  obligationResolved := noViews
  obligationStatusChanged := noViews
  impactChangeKinds := noViews
  impactGuaranteeDomains := noViews
  impactRiskFlags := noViews
  impactNodeKinds := kinds
  impactNodeIdentities := ⟨[viewA], by decide⟩
  security := false
  reconciled := false

theorem triggerMatches_routes_sample :
    PatternsFormed (contractInput ⟨[viewContract], by decide⟩) ∧
      Filters (contractInput ⟨[viewContract], by decide⟩)
        ((contractInput ⟨[viewContract], by decide⟩).impactNodeKinds.1.length =
          (contractInput ⟨[viewContract], by decide⟩).impactNodeIdentities.1.length ∧
          ContractObserved (contractInput ⟨[viewContract], by decide⟩)) :=
  ((triggerMatches_routes referenceSequences_documented).2
    (contractInput ⟨[viewContract], by decide⟩)).2.mp (by decide +kernel)

theorem isPattern_viewA : IsPattern viewA.1 where
  nonempty := by decide
  noWildcard := by decide
  star := by decide

/-- A node without an identity hides the contract before it. -/
theorem contractFilter_drops_unpaired :
    ¬((triggerMatches referenceSequences
        (contractInput ⟨[viewContract, viewA], by decide⟩)).matched = true ↔
      PatternsFormed (contractInput ⟨[viewContract, viewA], by decide⟩) ∧
        Filters (contractInput ⟨[viewContract, viewA], by decide⟩)
          (ContractObserved (contractInput ⟨[viewContract, viewA], by decide⟩))) := by
  have unmatched : (triggerMatches referenceSequences
      (contractInput ⟨[viewContract, viewA], by decide⟩)).matched = false := by
    decide +kernel
  have name : contractKind = utf8 "contract" := by decide +kernel
  rw [unmatched]
  intro routes
  refine Bool.false_ne_true (routes.mpr ⟨⟨?_, ?_, ?_⟩, ?_⟩)
  · intro pattern member
    obtain rfl := List.mem_singleton.mp member
    exact isPattern_viewA
  · intro pattern member
    cases member
  · intro pattern member
    cases member
  · exact
      { eventKind := Or.inl rfl
        changeKinds := Or.inl rfl
        guaranteeDomains := Or.inl rfl
        riskFlags := Or.inl rfl
        subjectKind := Or.inl rfl
        contract := Or.inr ⟨0, viewContract, viewA, rfl, rfl, name, viewA,
          List.mem_singleton_self _, viewA, List.mem_singleton_self _, isPattern_viewA,
          Or.inl rfl⟩
        obligation := Or.inl rfl
        diagnostic := Or.inl rfl
        security := Or.inl rfl }

end MncsForge.Native.TriggerMatching
