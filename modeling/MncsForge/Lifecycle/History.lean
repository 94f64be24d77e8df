import Mathlib
import MncsForge.Records.Validation
import MncsForge.Native.Adapter

/-!
# Histories and what surrounds them

A history is the list of record payloads of the ledger, oldest first.  The rest
of what a state machine is built from is its `World`: the mode, the observed
identities and the evidence policy.
-/

namespace MncsForge.Lifecycle

open MncsForge.Foundation MncsForge.Records MncsForge.Native

inductive Mode where
  | development
  | evaluator
  deriving DecidableEq, Repr

def Mode.value : Mode → String
  | .development => "development"
  | .evaluator => "evaluator"

inductive LifecycleStage where
  | noEpoch
  | epochActive
  | candidateRegistered
  | evidenceIncomplete
  | candidateReady
  | candidateSelected
  | candidateRejected
  | candidateFrozen
  | evaluationComplete
  | bundleComplete
  | ambiguousHistory
  deriving DecidableEq, Repr

structure TransitionBlocker where
  code : String
  message : String
  deriving DecidableEq, Repr

def TransitionBlocker.error (blocker : TransitionBlocker) : ForgeError :=
  ⟨blocker.code, blocker.message⟩

/-- `dict.fromkeys`: each member once, in order of first occurrence. -/
def fromKeys (names : List String) : List String :=
  names.foldl (fun known name => if name ∈ known then known else known ++ [name]) []

private theorem foldl_fromKeys (names known : List String) (h : known.Nodup) :
    (names.foldl (fun known name => if name ∈ known then known else known ++ [name])
        known).Nodup ∧
      ∀ name, name ∈ names.foldl
          (fun known name => if name ∈ known then known else known ++ [name]) known ↔
        name ∈ known ∨ name ∈ names := by
  induction names generalizing known with
  | nil => simpa using h
  | cons first names ih =>
      rw [List.foldl_cons]
      by_cases hfirst : first ∈ known
      · rw [if_pos hfirst]
        obtain ⟨nodup, members⟩ := ih known h
        refine ⟨nodup, fun name => ?_⟩
        rw [members, List.mem_cons]
        constructor
        · rintro (hknown | hnames)
          · exact Or.inl hknown
          · exact Or.inr (Or.inr hnames)
        · rintro (hknown | rfl | hnames)
          · exact Or.inl hknown
          · exact Or.inl hfirst
          · exact Or.inr hnames
      · rw [if_neg hfirst]
        obtain ⟨nodup, members⟩ := ih (known ++ [first])
          (List.nodup_append.mpr ⟨h, List.nodup_singleton _, by
            intro a ha b hb
            rw [List.mem_singleton.mp hb]
            rintro rfl
            exact hfirst ha⟩)
        refine ⟨nodup, fun name => ?_⟩
        rw [members, List.mem_append, List.mem_singleton, List.mem_cons, or_assoc]

theorem fromKeys_nodup (names : List String) : (fromKeys names).Nodup :=
  (foldl_fromKeys names [] List.nodup_nil).1

@[simp] theorem mem_fromKeys {names : List String} {name : String} :
    name ∈ fromKeys names ↔ name ∈ names := by
  rw [fromKeys, (foldl_fromKeys names [] List.nodup_nil).2]
  simp

def sortedTexts (texts : List String) : List String :=
  texts.mergeSort fun a b => decide (a ≤ b)

/-- What a state machine observes besides the history.  Dictionaries are kept in
key order. -/
structure World where
  mode : Mode
  currentCandidateIdentity : String
  currentAuthorityIdentities : Dict String String := []
  currentFreezeBindings : Dict String String := []
  selectionPolicyIdentity : String := ""
  requiredEvidence : List String := []
  selectionPolicyError : Option String := none
  evidenceFreshness : Dict String String := []
  evidenceComparability : Dict String (Option Bool) := []
  evidenceEnvironmentKeys : Dict String (List String) := []
  evidenceEnvironmentIdentities : Dict String String := []
  evidencePolicyIdentities : Dict String String := []
  native : Option NativeForgeAdapter := none

def World.requirements (w : World) : List String :=
  fromKeys w.requiredEvidence

/-- `dict(authority_identities) == self.current_authority_identities`. -/
def World.authorityIs (w : World) (authority : Json) : Bool :=
  authority = .obj (w.currentAuthorityIdentities.map fun entry => (entry.1, .str entry.2))

/-! ## Records of a history -/

abbrev History := List ForgeRecord

/-- `_records`: the records of one type with their positions. -/
def recordsOf (recordType : RecordType) (history : History) : List (ForgeRecord × Nat) :=
  history.zipIdx.filter fun entry => entry.1.recordType = recordType

/-- The records of one type. -/
def typed (recordType : RecordType) (history : History) : List ForgeRecord :=
  (recordsOf recordType history).map Prod.fst

private theorem map_fst_filter_zipIdx (p : ForgeRecord → Bool) (history : History)
    (start : Nat) :
    ((history.zipIdx start).filter fun entry => p entry.1).map Prod.fst =
      history.filter p := by
  induction history generalizing start with
  | nil => rfl
  | cons record history ih =>
      rw [List.zipIdx_cons, List.filter_cons, List.filter_cons]
      by_cases h : p record = true
      · rw [if_pos h, if_pos h, List.map_cons, ih]
      · rw [if_neg h, if_neg h, ih]

theorem typed_eq_filter (recordType : RecordType) (history : History) :
    typed recordType history = history.filter fun record => record.recordType = recordType :=
  map_fst_filter_zipIdx (fun record => decide (record.recordType = recordType)) history 0

theorem mem_typed {recordType : RecordType} {history : History} {record : ForgeRecord} :
    record ∈ typed recordType history ↔ record ∈ history ∧ record.recordType = recordType := by
  rw [typed_eq_filter, List.mem_filter, decide_eq_true_eq]

theorem typed_append (recordType : RecordType) (first second : History) :
    typed recordType (first ++ second) = typed recordType first ++ typed recordType second := by
  rw [typed_eq_filter, typed_eq_filter, typed_eq_filter, List.filter_append]

/-- `str(record[name])`. -/
def textOf (record : ForgeRecord) (name : String) : String :=
  (record.get name).display

theorem textOf_of_get {record : ForgeRecord} {name text : String}
    (h : record.get name = .str text) : textOf record name = text := by
  rw [textOf, h]
  rfl

/-- `_identity`. -/
def identityOf (record : ForgeRecord) : String :=
  match record.identity with
  | some identity =>
      if identity = "" then record.recordType.value ++ ":without-identity" else identity
  | none => record.recordType.value ++ ":without-identity"

/-- `candidate_record`: the last candidate record with this identity. -/
def candidateRecord (history : History) (candidateId : String) : Option ForgeRecord :=
  (typed .candidate history).reverse.find? fun record =>
    record.get "candidate_id" = .str candidateId

end MncsForge.Lifecycle
