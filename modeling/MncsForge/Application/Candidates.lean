import Mathlib
import MncsForge.Application.ExecutionReceipts
import MncsForge.Application.WriteBoundary
import MncsForge.Lifecycle.Runs
import MncsForge.Records.Frozen

/-!
# Candidates

A candidate is registered with the files that were changed for it.  When the
working tree has drifted, `refresh` registers a successor; it looks for the changed
files in its arguments and then in the record of the current candidate.
-/

namespace MncsForge.Application

open MncsForge.Foundation MncsForge.Records MncsForge.Identity
open MncsForge.Lifecycle hiding sampleHashing
open MncsForge.Paths (validateRelativePath)

/-- What the service works with.  The files stay as they are during one call. -/
structure CandidateService where
  hashing : Hashing
  tree : FileTree
  root : Path
  paths : PathValues
  usefulBenefitObjective : String
  world : World
  commit : RecordCommitter

structure RegisterRequest where
  changedFiles : List String
  hypothesis : String
  generatorIdentity : String
  generatorConfigIdentity : String
  parentCandidate : Option String := none
  expectedIdentity : Option String := none

structure RefreshRequest where
  hypothesis : String
  generatorIdentity : String
  generatorConfigIdentity : String
  changedFiles : Option (List String) := none

structure Refreshed where
  refreshed : Bool
  reason : String
  previousCandidateIdentity : String
  candidateIdentity : Json
  candidate : Dict String Json
  note : String
  deriving DecidableEq

/-- What `refresh` raises itself. -/
def noChangedFiles : ForgeError :=
  ⟨"INVALID_CHANGED_FILE",
    "candidate refresh requires changed files when none were previously declared"⟩

namespace CandidateService

variable (service : CandidateService)

/-! ## Registration -/

def registeredFields (request : RegisterRequest) (epoch : ForgeRecord)
    (currentFiles : List (String × String)) (objectiveIdentity registeredAt : String) :
    List (String × Json) :=
  [("candidate_id", .str service.world.currentCandidateIdentity),
   ("parent_candidate", .ofText request.parentCandidate),
   ("changed_files", .arr ((sortedTexts (currentFiles.map Prod.fst)).map .str)),
   ("declared_hypothesis", .str request.hypothesis),
   ("generator_identity", .str request.generatorIdentity),
   ("generator_configuration_identity", .str request.generatorConfigIdentity),
   ("source_epoch", epoch.get "epoch_id"),
   ("registered_at", .str registeredAt),
   ("current_file_identities",
     .obj (Dict.update [] (currentFiles.map fun file => (file.1, .str file.2)))),
   ("useful_benefit_objective", .str service.usefulBenefitObjective),
   ("objective_identity", .str objectiveIdentity),
   ("supersedes", .null)]

def register (request : RegisterRequest) (registeredAt : String) (history : History) :
    Except ForgeError (Dict String Json × History) := do
  let current := service.world.currentCandidateIdentity
  refuseIf (∃ expected ∈ request.expectedIdentity, expected ≠ current) "STALE_CANDIDATE"
    "candidate identity does not match current content"
  let machine ← ForgeStateMachine.build service.world history
  let epoch ← machine.authorizeCandidateRegister request.parentCandidate current none
  let currentFiles ← validateChangedFiles service.hashing service.tree service.root
    service.paths request.changedFiles
  let objectivePath ← resolveContained service.tree service.root
    service.usefulBenefitObjective false
  let objectiveIdentity ← contentIdentity service.hashing service.tree service.root
    [objectivePath]
  let record ← newRecord service.hashing .candidate
    (Dict.update [] (service.registeredFields request epoch currentFiles objectiveIdentity
      registeredAt))
  let history ← service.commit history "candidates" "candidate" record
  .ok (record.toJson, history)

/-! ## Refreshing -/

/-- The files that are asked for, or those of a previous list. -/
def refreshFiles (changedFiles : Option (List String)) (existing : ForgeRecord) :
    List String :=
  let files := changedFiles.getD []
  if files = [] then
    match (existing.getItem "changed_files").asList? with
    | some previous => (previous.filterMap PyValue.asStr?).filter (· ≠ "")
    | none => []
  else files

def refreshWith (request : RefreshRequest) (registeredAt : String) (history : History)
    (existing : ForgeRecord) : Except ForgeError (Refreshed × History) := do
  let existingId := textOf existing "candidate_id"
  let files := refreshFiles request.changedFiles existing
  if files = [] then .error noChangedFiles
  else do
    let registered ← service.register
      { changedFiles := files
        hypothesis := request.hypothesis
        generatorIdentity := request.generatorIdentity
        generatorConfigIdentity := request.generatorConfigIdentity
        parentCandidate := some existingId }
      registeredAt history
    .ok
      ({ refreshed := true
         reason := "working-tree content no longer matched the bound candidate"
         previousCandidateIdentity := existingId
         candidateIdentity := field registered.1 "candidate_id"
         candidate := registered.1
         note := "prior evidence remains bound to the previous candidate identity" },
       registered.2)

/-- The candidate is the one that the working tree holds. -/
def Matches (machine : ForgeStateMachine) (existing : ForgeRecord) : Prop :=
  machine.projection.candidateFreshness = "CURRENT" ∧
    textOf existing "candidate_id" = service.world.currentCandidateIdentity

instance (machine : ForgeStateMachine) (existing : ForgeRecord) :
    Decidable (service.Matches machine existing) :=
  inferInstanceAs (Decidable (_ ∧ _))

def refresh (request : RefreshRequest) (registeredAt : String) (history : History) :
    Except ForgeError (Refreshed × History) := do
  let machine ← ForgeStateMachine.build service.world history
  match machine.projection.currentCandidate with
  | none => .error ⟨"NO_CANDIDATE", "no candidate exists in the active epoch"⟩
  | some existing =>
      if service.Matches machine existing then
        .ok
          ({ refreshed := false
             reason := "candidate already matches current content"
             previousCandidateIdentity := textOf existing "candidate_id"
             candidateIdentity := .str (textOf existing "candidate_id")
             candidate := existing.toJson
             note := "prior evidence remains bound to this candidate identity" },
           history)
      else service.refreshWith request registeredAt history existing

end CandidateService

/-! ## What the parts of a registration refuse -/

section Refusals

variable {hashing : Hashing} {tree : FileTree} {root : Path} {paths : PathValues}

/-- An error that `refresh` itself does not raise. -/
abbrev OtherCode (e : ForgeError) : Prop := e.code ≠ noChangedFiles.code

theorem ne_noChangedFiles {e : ForgeError} (h : OtherCode e) : e ≠ noChangedFiles := by
  rintro rfl
  exact h rfl

private theorem validateRelativePath_raises (value : String) (allowDot : Bool) :
    RaisesOnly OtherCode (validateRelativePath value allowDot) := by
  unfold validateRelativePath
  refine .bind (by simp [noChangedFiles]) fun _ _ => ?_
  refine .bind (by simp [noChangedFiles]) fun _ _ => ?_
  refine .bind (by simp [noChangedFiles]) fun _ _ => ?_
  refine .bind (by simp [noChangedFiles]) fun _ _ => ?_
  refine .bind (by simp [noChangedFiles]) fun _ _ => ?_
  exact raisesOnly_ok

private theorem resolveContained_raises (value : String) (mustExist : Bool) :
    RaisesOnly OtherCode (resolveContained tree root value mustExist) := by
  unfold resolveContained
  refine (validateRelativePath_raises value true).bind fun rel _ => ?_
  cases tree.resolveStrict root with
  | error exc => simp [noChangedFiles]
  | ok rootReal =>
      have contained (resolved : Path) : RaisesOnly OtherCode (do
          refuseIf (rootReal.isPrefixOf resolved = false) "SYMLINK_ESCAPE"
            s!"path escapes project root: {value}"
          .ok resolved) :=
        .bind (by simp [noChangedFiles]) fun _ _ => raisesOnly_ok
      dsimp only
      by_cases hexist : mustExist = true
      · rw [if_pos hexist]
        cases tree.resolveStrict (rootReal ++ rel) with
        | ok resolved => exact contained resolved
        | error exc => exact raisesOnly_error.mpr (by simp [noChangedFiles])
      · rw [if_neg hexist]
        exact contained _

private theorem fileIdentity_raises {β : Type} (identify : List UInt8 → β) (path : Path) :
    RaisesOnly OtherCode (fileIdentity tree identify path) := by
  unfold fileIdentity
  cases tree.read path <;> simp [noChangedFiles]

/-- A path that is no file is refused with the same code and another text. -/
private theorem notFile_ne (value : String) :
    (⟨"INVALID_CHANGED_FILE", s!"changed path is not a file: {value}"⟩ : ForgeError) ≠
      noChangedFiles := by
  intro h
  have second := congrArg (fun e : ForgeError => (e.message.toList.drop 1).head?) h
  rw [String.toList_append] at second
  cases second

private theorem changedFile_raises (writable protectedScopes : List (List String))
    (value : String) :
    RaisesOnly (· ≠ noChangedFiles)
      (changedFile hashing tree root writable protectedScopes value) := by
  unfold changedFile
  refine ((validateRelativePath_raises value false).mono fun _ => ne_noChangedFiles).bind
    fun relative _ => ?_
  refine .bind (by simp [noChangedFiles]) fun _ _ => ?_
  refine .bind (by simp [noChangedFiles]) fun _ _ => ?_
  refine ((resolveContained_raises value true).mono fun _ => ne_noChangedFiles).bind
    fun resolved _ => ?_
  refine .bind (raisesOnly_refuseIf.mpr fun _ => notFile_ne value) fun _ _ => ?_
  refine ((fileIdentity_raises _ resolved).mono fun _ => ne_noChangedFiles).bind fun _ _ => ?_
  exact raisesOnly_ok

private theorem relativeScopes_raises (keys : List String) :
    RaisesOnly OtherCode (relativeScopes paths keys) :=
  .mapM fun value _ => validateRelativePath_raises value false

private theorem validateChangedFiles_raises (changedFiles : List String) :
    RaisesOnly (· ≠ noChangedFiles)
      (validateChangedFiles hashing tree root paths changedFiles) := by
  unfold validateChangedFiles
  refine ((relativeScopes_raises _).mono fun _ => ne_noChangedFiles).bind fun writable _ => ?_
  refine ((relativeScopes_raises _).mono fun _ => ne_noChangedFiles).bind fun scopes _ => ?_
  exact .mapM fun value _ => changedFile_raises writable scopes value

private theorem childRows_raises {β : Type} (identify : List UInt8 → β) (rootReal child : Path) :
    RaisesOnly OtherCode (childRows tree identify rootReal child) := by
  unfold childRows
  refine .bind (by simp [noChangedFiles]) fun _ _ => ?_
  by_cases hfile : tree.isFile child = true
  · rw [if_pos hfile]
    exact (fileIdentity_raises identify child).bind fun _ _ => raisesOnly_ok
  · rw [if_neg hfile]
    exact raisesOnly_ok

private theorem pathRows_raises {β : Type} (identify : List UInt8 → β) (missing : β)
    (rootReal configured : Path) :
    RaisesOnly OtherCode (pathRows tree identify missing rootReal configured) := by
  unfold pathRows
  refine .bind (by simp [noChangedFiles]) fun _ _ => ?_
  split_ifs
  · exact raisesOnly_ok
  · exact (fileIdentity_raises identify _).bind fun _ _ => raisesOnly_ok
  · exact RaisesOnly.bind (.mapM fun child _ => childRows_raises identify rootReal child)
      fun _ _ => raisesOnly_ok

private theorem contentIdentity_raises (configured : List Path) :
    RaisesOnly OtherCode (contentIdentity hashing tree root configured) := by
  unfold contentIdentity contentStream inventory hashedBytes
  refine .bind (.bind ?_ fun rows _ => ?_) fun _ _ => raisesOnly_ok
  · cases tree.resolveStrict root with
    | error exc => simp [noChangedFiles]
    | ok rootReal =>
        exact RaisesOnly.bind (.mapM fun path _ => pathRows_raises _ _ rootReal path)
          fun _ _ => raisesOnly_ok
  · cases Framing.frames 8 ((sortedRows rows).flatMap rowBytes) <;> simp [noChangedFiles]

mutual

private theorem asJsonValue_raises : ∀ (value : Json) (path : String) (depth : Nat),
    RaisesOnly OtherCode (asJsonValue path depth value)
  | .null, path, depth | .bool _, path, depth | .int _, path, depth | .str _, path, depth => by
      rw [asJsonValue]
      · exact .bind (by simp [noChangedFiles]) fun _ _ => raisesOnly_ok
      all_goals simp
  | .float text, path, depth => by
      rw [asJsonValue]
      exact .bind (by simp [noChangedFiles]) fun _ _ =>
        .bind (by simp [noChangedFiles]) fun _ _ => raisesOnly_ok
  | .arr items, path, depth => by
      rw [asJsonValue]
      exact .bind (by simp [noChangedFiles]) fun _ _ =>
        (asJsonItems_raises items path depth 0).bind fun _ _ => raisesOnly_ok
  | .obj fields, path, depth => by
      rw [asJsonValue]
      exact .bind (by simp [noChangedFiles]) fun _ _ =>
        (asJsonFields_raises fields path depth).bind fun _ _ => raisesOnly_ok

private theorem asJsonItems_raises : ∀ (items : List Json) (path : String) (depth index : Nat),
    RaisesOnly OtherCode (asJsonItems path depth index items)
  | [], path, depth, index => by
      rw [asJsonItems]
      exact raisesOnly_ok
  | item :: items, path, depth, index => by
      rw [asJsonItems]
      exact (asJsonValue_raises item _ _).bind fun _ _ =>
        (asJsonItems_raises items path depth (index + 1)).bind fun _ _ => raisesOnly_ok

private theorem asJsonFields_raises : ∀ (fields : List (String × Json)) (path : String)
    (depth : Nat), RaisesOnly OtherCode (asJsonFields path depth fields)
  | [], path, depth => by
      rw [asJsonFields]
      exact raisesOnly_ok
  | (key, value) :: fields, path, depth => by
      rw [asJsonFields]
      exact (asJsonValue_raises value _ _).bind fun _ _ =>
        (asJsonFields_raises fields path depth).bind fun _ _ => raisesOnly_ok

end

private theorem newCandidateRecord_raises (fields : Dict String Json) :
    RaisesOnly OtherCode (newRecord hashing .candidate fields) := by
  unfold newRecord
  refine .bind (by simp [noChangedFiles]) fun _ _ => ?_
  refine RaisesOnly.bind (x := jsonObject (.obj fields) "record") ?_ fun normalized _ => ?_
  · unfold jsonObject
    refine (asJsonValue_raises _ _ _).bind fun value _ => ?_
    cases value <;> simp [noChangedFiles]
  refine .bind raisesOnly_ok fun fields _ => .bind ?_ fun _ _ => raisesOnly_ok
  unfold validateFields
  refine .bind (by simp [noChangedFiles]) fun _ _ => ?_
  refine .bind (by simp [noChangedFiles]) fun _ _ => ?_
  refine .bind (by simp [noChangedFiles]) fun _ _ => ?_
  refine .bind (by simp [noChangedFiles]) fun _ _ => ?_
  refine .bind (by simp [noChangedFiles]) fun _ _ => ?_
  refine .bind (by simp [noChangedFiles]) fun _ _ => ?_
  exact .bind raisesOnly_ok fun _ _ => raisesOnly_ok

/-- The limitations of a projection are the conflicts of a lineage. -/
private theorem projectWith_limitations {w : World} {history : History}
    {evidence : EvidenceReadiness} :
    ∀ blocker ∈ (projectWith w history evidence).limitations,
      blocker.code ≠ noChangedFiles.code := by
  have epochs : ∀ blocker ∈ (epochProjection history).limitations,
      blocker.code ≠ noChangedFiles.code := by
    intro blocker
    simp only [epochProjection]
    split_ifs <;> simp +contextual [epochLineageConflict, noChangedFiles]
  have candidates : ∀ blocker ∈ (projectCandidate w history).limitations,
      blocker.code ≠ noChangedFiles.code := by
    intro blocker
    simp only [projectCandidate, candidateProjection]
    split
    · simp
    · split
      all_goals
        simp only [List.mem_append]
        split_ifs <;>
          simp +contextual [epochSuperseded, candidateLineageConflict, candidateCycle,
            noChangedFiles, or_imp]
  intro blocker hblocker
  simp only [projectWith, List.mem_append] at hblocker
  rcases hblocker with (((hblocker | hblocker) | hblocker) | hblocker) | hblocker
  · exact epochs blocker hblocker
  · exact candidates blocker hblocker
  all_goals
    split_ifs at hblocker
    · rw [List.mem_singleton.mp hblocker]
      simp [comparabilityLimited, dispositionConflict, freezeConflict, noChangedFiles]
    · cases hblocker

private theorem limitations_raise (machine : ForgeStateMachine) :
    ∀ blocker ∈ machine.projection.limitations, blocker.code ≠ noChangedFiles.code := by
  have projected := machine.projected
  unfold project at projected
  obtain ⟨evidence, _, applied⟩ := bind_eq_ok.mp projected
  unfold applyNative at applied
  cases hnative : machine.world.native with
  | none =>
      rw [hnative] at applied
      rw [← Except.ok.inj applied]
      exact projectWith_limitations
  | some adapter =>
      simp only [hnative, bind_eq_ok, Except.ok.injEq] at applied
      obtain ⟨native, _, _, _, _, _, _, _, _, _, applied⟩ := applied
      rw [← applied]
      intro blocker hblocker
      unfold overrideNative at hblocker
      split_ifs at hblocker
      · exact projectWith_limitations blocker hblocker
      · rcases List.mem_append.mp hblocker with hblocker | hblocker
        · exact projectWith_limitations blocker hblocker
        · rw [List.mem_singleton.mp hblocker]
          simp [nativeLineageConflict, noChangedFiles]
      · exact projectWith_limitations blocker hblocker

private theorem requireParentCandidate_raises (machine : ForgeStateMachine)
    (parentCandidate : Option String) (proposedIdentity : String) :
    RaisesOnly OtherCode (machine.requireParentCandidate parentCandidate proposedIdentity) := by
  unfold ForgeStateMachine.requireParentCandidate
  split
  · unfold ForgeStateMachine.nativeTransition
    split_ifs
    · exact raisesOnly_ok
    · split
      · simp [noChangedFiles]
      · exact raisesOnly_ok
  · split_ifs <;> simp [noChangedFiles]
  · simp [noChangedFiles]
  · split_ifs <;> simp [noChangedFiles]

private theorem authorizeCandidateRegister_raises (machine : ForgeStateMachine)
    (parentCandidate : Option String) (proposedIdentity : String) :
    RaisesOnly OtherCode
      (machine.authorizeCandidateRegister parentCandidate proposedIdentity none) := by
  unfold ForgeStateMachine.authorizeCandidateRegister
  refine .bind (by simp [ForgeStateMachine.requireMode, noChangedFiles]) fun _ _ => ?_
  refine RaisesOnly.bind (x := machine.requireUnambiguous) ?_ fun _ _ => ?_
  · unfold ForgeStateMachine.requireUnambiguous
    split_ifs
    · cases hlimitation : machine.projection.limitations.head? with
      | none => simp [noChangedFiles]
      | some blocker =>
          exact raisesOnly_error.mpr
            (limitations_raise machine blocker (List.mem_of_mem_head? hlimitation))
    · exact raisesOnly_ok
  cases machine.projection.activeEpoch with
  | none => simp [noChangedFiles]
  | some epoch =>
      refine .bind (by simp) fun _ _ => ?_
      refine .bind (by simp) fun _ _ => ?_
      refine .bind (by simp [noChangedFiles]) fun _ _ => ?_
      refine .bind (by simp [noChangedFiles]) fun _ _ => ?_
      refine .bind (by simp [noChangedFiles]) fun _ _ => ?_
      exact (requireParentCandidate_raises machine _ _).bind fun _ _ => raisesOnly_ok

end Refusals

/-! ## Omitted files -/

namespace CandidateService

variable {service : CandidateService} {history : History} {candidate : ForgeRecord}

/-- The store has no error about changed files. -/
def CommitsApart (commit : RecordCommitter) : Prop :=
  ∀ history group kind record, RaisesOnly OtherCode (commit history group kind record)

theorem register_raises (commits : CommitsApart service.commit) {machine : ForgeStateMachine}
    (built : ForgeStateMachine.build service.world history = .ok machine)
    (request : RegisterRequest) (registeredAt : String) :
    RaisesOnly (· ≠ noChangedFiles) (service.register request registeredAt history) := by
  have other {α : Type} {x : Except ForgeError α} (h : RaisesOnly OtherCode x) :
      RaisesOnly (· ≠ noChangedFiles) x := h.mono fun _ => ne_noChangedFiles
  unfold register
  refine .bind (by simp [noChangedFiles]) fun _ _ => ?_
  rw [built]
  refine .bind raisesOnly_ok fun machine _ => ?_
  refine (other (authorizeCandidateRegister_raises machine _ _)).bind fun epoch _ => ?_
  refine (validateChangedFiles_raises request.changedFiles).bind fun currentFiles _ => ?_
  refine (other (resolveContained_raises _ _)).bind fun objectivePath _ => ?_
  refine (other (contentIdentity_raises _)).bind fun objectiveIdentity _ => ?_
  refine (other (newCandidateRecord_raises _)).bind fun record _ => ?_
  exact (other (commits _ _ _ _)).bind fun _ _ => raisesOnly_ok

variable (service) in
/-- The current candidate is not what the working tree holds. -/
def Drifted (history : History) (candidate : ForgeRecord) : Prop :=
  ∃ machine, ForgeStateMachine.build service.world history = .ok machine ∧
    machine.projection.currentCandidate = some candidate ∧ ¬ service.Matches machine candidate

theorem Drifted.refresh_eq (drifted : service.Drifted history candidate)
    (request : RefreshRequest) (registeredAt : String) :
    service.refresh request registeredAt history =
      service.refreshWith request registeredAt history candidate := by
  obtain ⟨machine, built, current, apart⟩ := drifted
  unfold refresh
  rw [built]
  show (match machine.projection.currentCandidate with
    | none => _
    | some existing => _) = _
  rw [current]
  exact if_neg apart

/-- The recorded files are never read back: the record holds a tuple. -/
theorem refreshFiles_eq (changedFiles : Option (List String)) (existing : ForgeRecord) :
    refreshFiles changedFiles existing = changedFiles.getD [] := by
  unfold refreshFiles
  by_cases hfiles : changedFiles.getD [] = []
  · simp [hfiles, ForgeRecord.getItem]
  · simp [hfiles]

theorem refreshWith_none {request : RefreshRequest} {registeredAt : String}
    (omitted : request.changedFiles.getD [] = []) :
    service.refreshWith request registeredAt history candidate = .error noChangedFiles := by
  unfold refreshWith
  simp [refreshFiles_eq, omitted]

theorem refreshWith_raises (commits : CommitsApart service.commit)
    {machine : ForgeStateMachine}
    (built : ForgeStateMachine.build service.world history = .ok machine)
    {request : RefreshRequest} {registeredAt : String}
    (given : request.changedFiles.getD [] ≠ []) :
    RaisesOnly (· ≠ noChangedFiles)
      (service.refreshWith request registeredAt history candidate) := by
  unfold refreshWith
  simp only [refreshFiles_eq, given, if_false]
  exact (register_raises commits built _ _).bind fun _ _ => raisesOnly_ok

/-- The files a candidate record declares. -/
def declaredFiles (record : ForgeRecord) : List String :=
  match record.get "changed_files" with
  | .arr items => items.filterMap Json.asStr?
  | _ => []

/-- The result without the time of the registration. -/
def Outcome (result : Except ForgeError (Refreshed × History)) : Except ForgeError Refreshed :=
  result.map fun refreshed =>
    { refreshed.1 with candidate := Dict.erase refreshed.1.candidate "registered_at" }

theorem outcome_ne (commits : CommitsApart service.commit)
    (drifted : service.Drifted history candidate) (declared : declaredFiles candidate ≠ [])
    (request : RefreshRequest) (givenAt : String) :
    Outcome (service.refresh
      { request with changedFiles := some (declaredFiles candidate) } givenAt history) ≠
        .error noChangedFiles := by
  rw [drifted.refresh_eq]
  obtain ⟨machine, built, _⟩ := drifted
  have raises : RaisesOnly (· ≠ noChangedFiles) (service.refreshWith
      { request with changedFiles := some (declaredFiles candidate) } givenAt history
      candidate) := refreshWith_raises commits built declared
  intro same
  cases hresult : service.refreshWith
      { request with changedFiles := some (declaredFiles candidate) } givenAt history
      candidate with
  | ok result =>
      rw [hresult] at same
      cases same
  | error e =>
      rw [hresult] at same
      exact raises e hresult (Except.error.inj same)

/-- Refreshing a drifted candidate without files has the outcome of refreshing it with
the files it declares exactly when it declares none. -/
theorem refresh_declared_iff (commits : CommitsApart service.commit)
    (drifted : service.Drifted history candidate) (request : RefreshRequest)
    (omittedAt givenAt : String) :
    Outcome (service.refresh { request with changedFiles := none } omittedAt history) =
        Outcome (service.refresh
          { request with changedFiles := some (declaredFiles candidate) } givenAt history) ↔
      declaredFiles candidate = [] := by
  have omitted : Outcome (service.refresh { request with changedFiles := none } omittedAt
      history) = .error noChangedFiles := by
    rw [drifted.refresh_eq, refreshWith_none rfl]
    rfl
  rw [omitted]
  constructor
  · intro same
    by_contra declared
    exact outcome_ne commits drifted declared request givenAt same.symm
  · intro declared
    have empty : (some (declaredFiles candidate)).getD [] = [] := declared
    rw [drifted.refresh_eq, refreshWith_none empty]
    rfl

/-! ## A drifted candidate -/

def mainTree : FileTree where
  resolveStrict := .ok
  resolve := id
  present := fun _ => true
  isFile := fun path => path = ["project", "candidate", "main.py"]
  isSymlink := fun _ => false
  rglob := fun _ => []
  read := fun _ => .ok []

/-- A service whose working tree is not that of the registered candidate. -/
def driftedService : CandidateService where
  hashing := ⟨fun _ => "00", fun _ => .ok []⟩
  tree := mainTree
  root := ["project"]
  paths := [("candidates", ["candidate"])]
  usefulBenefitObjective := "objective.md"
  world := { sampleWorld .development none with
    currentCandidateIdentity := "forge-tree-sha256-v1:00" }
  commit := fun history _ _ record => .ok (history ++ [record])

def declaringCandidate : ForgeRecord :=
  filledRecord .candidate
    [("candidate_id", .str sampleCandidateId), ("parent_candidate", .null),
     ("changed_files", .arr [.str "candidate/main.py"]),
     ("source_epoch", .str sampleEpochId)]

def refreshRequest : RefreshRequest where
  hypothesis := "value changed"
  generatorIdentity := "generator-v1"
  generatorConfigIdentity := "generator-config-v1"

private theorem driftedService_commits : CommitsApart driftedService.commit :=
  fun _ _ _ _ => raisesOnly_ok

private theorem driftedService_drifted :
    driftedService.Drifted [sampleEpoch, declaringCandidate] declaringCandidate := by
  have observed : (ForgeStateMachine.build driftedService.world
      [sampleEpoch, declaringCandidate] >>= fun machine =>
        .ok (machine.projection.currentCandidate, machine.projection.candidateFreshness)) =
      .ok (some declaringCandidate, "STALE") := by decide +kernel
  obtain ⟨machine, built, observed⟩ := bind_eq_ok.mp observed
  obtain ⟨current, freshness⟩ := Prod.mk.inj (Except.ok.inj observed)
  refine ⟨machine, built, current, ?_⟩
  rintro ⟨fresh, _⟩
  rw [freshness] at fresh
  exact absurd fresh (by decide)

theorem refresh_declared_iff_drifted :
    Outcome (driftedService.refresh { refreshRequest with changedFiles := none } "now"
        [sampleEpoch, declaringCandidate]) =
      Outcome (driftedService.refresh
        { refreshRequest with changedFiles := some (declaredFiles declaringCandidate) } "now"
        [sampleEpoch, declaringCandidate]) ↔
      declaredFiles declaringCandidate = [] :=
  refresh_declared_iff driftedService_commits driftedService_drifted refreshRequest "now" "now"

/-- One file is declared; refreshing without files is refused and with it is not so. -/
theorem refresh_omitted_refused :
    declaredFiles declaringCandidate = ["candidate/main.py"] ∧
      Outcome (driftedService.refresh refreshRequest "now"
        [sampleEpoch, declaringCandidate]) = .error noChangedFiles ∧
      Outcome (driftedService.refresh
        { refreshRequest with changedFiles := some ["candidate/main.py"] } "now"
        [sampleEpoch, declaringCandidate]) ≠ .error noChangedFiles := by
  have declared : declaredFiles declaringCandidate = ["candidate/main.py"] := by
    decide +kernel
  refine ⟨declared, ?_, ?_⟩
  · rw [driftedService_drifted.refresh_eq, refreshWith_none rfl]
    rfl
  · rw [← declared]
    exact outcome_ne driftedService_commits driftedService_drifted (by simp [declared])
      refreshRequest "now"

end CandidateService

end MncsForge.Application
