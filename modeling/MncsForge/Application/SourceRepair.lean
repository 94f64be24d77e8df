import Mathlib
import MncsForge.Foundation.Occurrences
import MncsForge.Foundation.Text
import MncsForge.Paths
import MncsForge.Records.Validation

/-!
# Source repairs

`failure_loop` replaces a text in one source file, rebinds the verification
plan, tests again and persists a document.  What the providers and the file
system answer along the way is a parameter; the steps are the loop's own.
-/

namespace MncsForge.Application

open MncsForge.Foundation MncsForge.Foundation.Text MncsForge.Records
open MncsForge.Paths (isWithin)

abbrev Document := Dict String Json

/-- `_mapping(document.get(name))` -/
def subsection (document : Document) (name : String) : Document :=
  (field document name).asObj?.getD []

/-! ## Replacement -/

structure RepairScopes where
  candidates : List (List String)
  generated : List (List String)
  mayWriteCandidates : Bool
  mayWriteGenerated : Bool

/-- A proposed replacement: the text that was read and the text to write. -/
structure SourceChange where
  relative : List String
  text : String
  afterText : String

/-- `read_text`: the text of a file, with its line ends translated. -/
def readText (bytes : List UInt8) : Except ForgeError String :=
  match decodeUtf8? bytes with
  | some decoded => .ok (String.ofList (translateNewlines decoded.toList))
  | none => .error ⟨"UnicodeDecodeError", "'utf-8' codec can't decode the source"⟩

/-- `_source_change`, for a path that resolves to a file with these bytes; `none`
stands for a file that cannot be read. -/
def sourceChange (scopes : RepairScopes) (resolved : Except ForgeError (List String))
    (file : Except String (List UInt8)) (old new : String) : Except ForgeError SourceChange := do
  let relative ← resolved
  refuseIf (isWithin relative (scopes.candidates ++ scopes.generated) = false)
    "AUTHORITY_FORBIDDEN" "repair path is outside configured candidate/generated scopes"
  refuseIf (scopes.mayWriteCandidates = false ∧ isWithin relative scopes.candidates = true)
    "AUTHORITY_FORBIDDEN" "development authority cannot write candidate paths"
  refuseIf (scopes.mayWriteGenerated = false ∧ isWithin relative scopes.generated = true)
    "AUTHORITY_FORBIDDEN" "development authority cannot write generated paths"
  refuseIf (old = "") "REPAIR_INVALID" "repair requires a non-empty exact source replacement"
  let bytes ← file.mapError fun exc => ⟨"REPAIR_INVALID", s!"repair source cannot be read: {exc}"⟩
  let text ← readText bytes
  refuseIf (Occurrences.count old.toList 0 text.toList ≠ 1)
    "REPAIR_INVALID" "repair replacement must match exactly once"
  .ok ⟨relative, text,
    String.ofList (Occurrences.replaceFirst old.toList new.toList text.toList)⟩

/-! ## Provider documents -/

/-- `value in VERDICTS`; what cannot be hashed cannot be looked up. -/
def isVerdict (value : Json) : Except ForgeError Bool :=
  match value with
  | .arr _ | .obj _ => .error ⟨"TypeError", "unhashable type"⟩
  | _ => .ok (decide (value ∈ [Json.str "PASS", Json.str "FAIL", Json.str "UNKNOWN"]))

def isList (value : Json) : Bool :=
  match value with
  | .arr _ => true
  | _ => false

def listItems (value : Json) : List Json :=
  match value with
  | .arr items => items
  | _ => []

def isString (value : Json) : Bool := value.asStr?.isSome

def listDisplay (names : List String) : String :=
  "[" ++ ", ".intercalate (names.map fun name => "'" ++ name ++ "'") ++ "]"

/-- The loop over `enumerate(value["tests"])`. -/
def validateTests : Nat → List Json → Except ForgeError Unit
  | _, [] => .ok ()
  | index, item :: items => do
      let message := s!"test result tests[{index}] is not a valid TestExecution projection"
      let test := item.asObj?.getD []
      refuseIf (item.asObj? = none ∨ isString (field test "id") = false)
        "PROVIDER_CONTRACT_INVALID" message
      let known ← isVerdict (field test "verdict")
      refuseIf (known = false) "PROVIDER_CONTRACT_INVALID" message
      validateTests (index + 1) items

def validateTestResult (value : Document) : Except ForgeError Unit := do
  refuseIf (field value "schema_version" ≠ .str "mncs.test-result/1" ∨
      field value "provider" ≠ .str "mncs-test")
    "PROVIDER_CONTRACT_INVALID" "test provider did not emit mncs.test-result/1"
  let missing := ["schema_version", "provider", "verdict", "tests", "run_id"].filter fun name =>
    (Dict.get? value name).isNone
  let message := "test result is missing or invalid: " ++ listDisplay missing
  refuseIf (missing ≠ []) "PROVIDER_CONTRACT_INVALID" message
  let known ← isVerdict (field value "verdict")
  refuseIf (known = false ∨ isList (field value "tests") = false)
    "PROVIDER_CONTRACT_INVALID" message
  refuseIf (isText (field value "run_id") = false)
    "PROVIDER_CONTRACT_INVALID" "test result run_id must be non-empty"
  validateTests 0 (listItems (field value "tests"))

def validateCheck (value : Document) (provider : String) : Except ForgeError Unit := do
  refuseIf (field value "schema_version" ≠ .str "mncs.check-result/1" ∨
      field value "provider" ≠ .str provider)
    "PROVIDER_CONTRACT_INVALID" s!"{provider} did not emit mncs.check-result/1"
  let known ← isVerdict (field value "verdict")
  refuseIf (known = false) "PROVIDER_CONTRACT_INVALID" s!"{provider} check verdict is invalid"

/-- `set(values)` sorted: refused for elements that cannot be hashed or compared. -/
def identitySet (values : List Json) : Except ForgeError (List Json) := do
  refuseIf (values.any fun value => isList value || value.asObj?.isSome)
    "TypeError" "unhashable type"
  let distinct := values.foldl (fun seen value =>
    if seen.any (value.sameValue ·) then seen else seen ++ [value]) []
  refuseIf (1 < distinct.length ∧ distinct.all isString = false ∧
      (distinct.all fun value => value.numberText.isSome) = false)
    "TypeError" "'<' not supported between the identities"
  .ok distinct

/-- Equality of two sorted lists of distinct elements. -/
def sameIdentities (first second : List Json) : Bool :=
  (first.all fun value => second.any (value.sameValue ·)) &&
    second.all fun value => first.any (value.sameValue ·)

/-! ## The host -/

/-- What a call to `failure_loop` carries by the time it repairs. -/
structure RepairRequest where
  path : String
  old : String
  new : String
  verificationPlan : Option Document
  verificationPlanPath : Option String
  /-- The post-repair plan that was supplied, with its path. -/
  postVerificationPlan : Option Document
  postVerificationPlanPath : Option String
  /-- The command given, or the configured one. -/
  ravelCommand : Option (List String)
  mncsBinary : Option String
  libraryPaths : List String
  familyGraphFile : Option String
  cwd : String
  resultPath : String
  checkPath : String
  artifactsPath : String
  /-- The document so far. -/
  base : Document

/-- The answers of providers, processes, the file system and the native core. -/
structure RepairHost where
  hashing : Hashing
  scopes : RepairScopes
  resolve : String → Except ForgeError (List String)
  /-- The text of the error that opening the source raises. -/
  unreadable : Option String
  /-- What `apply_assurance` answers before the repair (a decision with its stop reason),
  for a repair that is refused and after the repair. -/
  admits : Except ForgeError (Option (String × String))
  refuses : Except ForgeError (Option String)
  concludes : Except ForgeError (Option String)
  /-- Opening the source for `_sha256` before and after the write. -/
  opensBefore : Except ForgeError Unit
  opensAfter : Except ForgeError Unit
  /-- `path.with_name(path.stem + ".after" + path.suffix)` -/
  afterName : String → String
  planSource : Document → Except ForgeError String
  /-- The resolved graph file and its parent's parent. -/
  familyGraph : String → Except ForgeError (String × String)
  run : List String → Except ForgeError Document
  isFile : String → Bool
  read : String → Except ForgeError Document
  /-- MNCS-Commons' validation of a plan. -/
  validatePlan : Document → Except ForgeError Unit
  ref : String → Except ForgeError Document
  dropStale : List String → Except ForgeError Unit
  testWork : (result check artifacts : String) → (plan : Option String) →
    Except ForgeError (List String)
  familyProof : Document → String → Except ForgeError Document
  /-- `_persist` up to the write of the document. -/
  destination : Except ForgeError Unit
  opensDestination : Except ForgeError Unit

namespace RepairHost

variable (host : RepairHost)

/-! ## The plan after the repair -/

def ravelArguments (request : RepairRequest) (plan : Document) (roots : List String)
    (graph : Option (String × String)) (outputPath : String) : List String :=
  let provenance := subsection plan "provenance"
  (roots.flatMap fun root => ["--root", root]) ++
    (request.libraryPaths.flatMap fun library => ["--library", library]) ++
    (match graph with
      | some (path, commons) => ["--family-graph", path, "--commons-root", commons]
      | none => []) ++
    (match field provenance "change_class" with
      | .str changeClass => if changeClass = "" then [] else ["--change-class", changeClass]
      | _ => []) ++
    (if field provenance "cross_repository" = .bool true then ["--cross-repository"] else []) ++
    ["--cwd", request.cwd, "--output", outputPath]

/-- The compiler roots of a plan, which must be non-empty texts. -/
def planRoots (plan : Document) : Except ForgeError (List String) :=
  match field (subsection plan "impact") "roots" with
  | .arr roots =>
      if roots.all isText then .ok (roots.filterMap Json.asStr?)
      else .error ⟨"PROVIDER_CONTRACT_INVALID", "verification plan has no compiler roots to rebind"⟩
  | _ => .error ⟨"PROVIDER_CONTRACT_INVALID", "verification plan has no compiler roots to rebind"⟩

def regenerateVerificationPlan (request : RepairRequest) (plan : Document) (outputPath : String) :
    Except ForgeError (Document × Document) := do
  let configured := request.ravelCommand.getD []
  refuseIf (configured = []) "MNCS_PROVIDER_UNAVAILABLE"
    "a post-repair verification plan is required; declare ravel_impact to regenerate it"
  let mncsBinary := request.mncsBinary.getD ""
  refuseIf (mncsBinary = "") "MNCS_PROVIDER_INPUT"
    "mncs_binary is required to regenerate a RAVEL verification plan"
  let roots ← planRoots plan
  let sourcePath ← host.planSource plan
  let graph ← request.familyGraphFile.mapM host.familyGraph
  let execution ← host.run (configured ++ [sourcePath, "--mncs", mncsBinary] ++
    ravelArguments request plan roots graph outputPath)
  refuseIf (host.isFile outputPath = false) "PROVIDER_CONTRACT_INVALID"
    "ravel-impact completed without producing a verification plan"
  let rebound ← host.read outputPath
  host.validatePlan rebound
  .ok (rebound, execution)

/-- A plan in force after the repair, with its path. -/
structure ReboundPlan where
  plan : Document
  path : String
  reference : Document
  execution : Option Document

/-- `plan["plan_id"]` -/
def planId (plan : Document) : Except ForgeError Json :=
  match Dict.get? plan "plan_id" with
  | some value => .ok value
  | none => .error ⟨"KeyError", "'plan_id'"⟩

/-- The plan that was supplied, or the one RAVEL makes next to the first one. -/
def rebindPlan (request : RepairRequest) (plan : Document) (planPath : String) :
    Except ForgeError ReboundPlan :=
  match request.postVerificationPlan, request.postVerificationPlanPath with
  | some template, some templatePath => do
      let reference ← host.ref templatePath
      let identity ← planId template
      .ok ⟨template, templatePath, Dict.set reference "plan_id" identity, none⟩
  | _, _ => do
      let generatedPath := host.afterName planPath
      let rebound ← host.regenerateVerificationPlan request plan generatedPath
      let reference ← host.ref generatedPath
      let identity ← planId rebound.1
      .ok ⟨rebound.1, generatedPath, Dict.set reference "plan_id" identity, some rebound.2⟩

def afterPlan (request : RepairRequest) : Except ForgeError (Option ReboundPlan) :=
  match request.verificationPlan, request.verificationPlanPath with
  | none, _ => .ok none
  | some _, none =>
      .error ⟨"REPAIR_INVALID", "verification plan state is missing its source path"⟩
  | some plan, some planPath => (host.rebindPlan request plan planPath).map some

/-! ## Verification after the repair -/

/-- `document.get(name, [])` -/
def listField (document : Document) (name : String) : Json :=
  (Dict.get? document name).getD (.arr [])

def checkSelection (after : Option ReboundPlan) (afterTest : Document) :
    Except ForgeError Unit :=
  match after with
  | none => .ok ()
  | some rebound => do
      let planned := listField (subsection rebound.plan "selection") "selected_test_identities"
      let observed := listField (subsection afterTest "selection") "selected_test_identities"
      refuseIf (isList planned = false ∨ isList observed = false) "PROVIDER_CONTRACT_INVALID"
        "post-repair mncs-test selection identities are not lists"
      let plannedIds ← identitySet (listItems planned)
      let observedIds ← identitySet (listItems observed)
      refuseIf (sameIdentities plannedIds observedIds = false) "PROVIDER_CONTRACT_INVALID"
        "post-repair mncs-test selection does not match the rebound RAVEL plan"

def proofSufficient (after : Option ReboundPlan) : Json :=
  match after with
  | none => .bool true
  | some rebound =>
      (Dict.get? (subsection rebound.plan "proof") "sufficient_to_stop").getD (.bool false)

/-- A plan that selects repositories asks for a family proof. -/
def familyVerification (after : Option ReboundPlan) (localVerification : Document) :
    Except ForgeError (Document × Bool) :=
  match after with
  | none => .ok (localVerification, false)
  | some rebound =>
      if field (subsection rebound.plan "selection") "routing_scope" =
          .str "selected_repositories" then do
        let proof ← host.familyProof rebound.plan rebound.path
        .ok (Dict.set proof "local" (.obj localVerification), true)
      else .ok (localVerification, false)

def appliedRepair (request : RepairRequest) (change : SourceChange) (beforeSha : String) :
    Document :=
  [("path", .str ("/".intercalate change.relative)),
    ("replacement_digest", .str (host.hashing.hexdigest
      (Json.obj [("from", .str request.old), ("to", .str request.new)]).canonicalBytes)),
    ("source_after_sha256", .str (host.hashing.hexdigest (utf8 change.afterText))),
    ("source_before_sha256", .str beforeSha),
    ("status", .str "APPLIED")]

/-- Everything between the write of the source and the document to persist. -/
def verifyRepair (request : RepairRequest) (change : SourceChange) (beforeSha : String) :
    Except ForgeError Document := do
  host.opensAfter
  let after ← host.afterPlan request
  let afterResult := host.afterName request.resultPath
  let afterCheck := host.afterName request.checkPath
  host.dropStale [afterResult, afterCheck]
  let argv ← host.testWork afterResult afterCheck (request.artifactsPath ++ ".after")
    (after.map ReboundPlan.path)
  let execution ← host.run argv
  let afterTest ← host.read afterResult
  let afterCheckValue ← host.read afterCheck
  validateTestResult afterTest
  validateCheck afterCheckValue "mncs-test"
  checkSelection after afterTest
  let resultRef ← host.ref afterResult
  let checkRef ← host.ref afterCheck
  let verdict := if (proofSufficient after).truthy = true then field afterTest "verdict"
    else .str "UNKNOWN"
  let verification ← host.familyVerification after
    [("check", .obj checkRef), ("execution", .obj execution),
      ("proof_sufficient", proofSufficient after), ("result", .obj resultRef),
      ("run_id", field afterTest "run_id"), ("selection", field afterTest "selection"),
      ("status", verdict)]
  let decision ← host.concludes
  let document := Dict.set (Dict.set request.base "repair"
    (.obj (host.appliedRepair request change beforeSha))) "verification" (.obj verification.1)
  match decision with
  | some status => .ok (Dict.set document "verdict" (.str status))
  | none =>
      if verification.2 = true then .ok document else .ok (Dict.set document "verdict" verdict)

/-! ## The loop -/

inductive Proposal where
  | refused (reason : String)
  | change (change : SourceChange) (beforeSha : String)

/-- A supplied post-repair plan must be bound to the text that is to be written. -/
def checkDeclaredSource (request : RepairRequest) (change : SourceChange) :
    Except ForgeError Unit :=
  match request.verificationPlan, request.postVerificationPlan with
  | some _, some template =>
      refuseIf (field (subsection template "source") "sha256" ≠
          .str (host.hashing.hexdigest (utf8 change.afterText)))
        "REPAIR_INVALID"
        "post-repair verification plan is not bound to the proposed source result"
  | _, _ => .ok ()

/-- Only a `ForgeError` of `_source_change` is caught. -/
def refuseChange (error : ForgeError) : Except ForgeError Proposal :=
  if error.code = "UnicodeDecodeError" then .error error
  else do
    let decision ← host.refuses
    match decision with
    | some _ => .ok (.refused error.code)
    | none => .error error

/-- The loop up to the write of the source. -/
def proposeRepair (request : RepairRequest) (bytes : List UInt8) : Except ForgeError Proposal := do
  let decision ← host.admits
  match decision.filter (·.1 ≠ "RequestRepair") with
  | some stopped => .ok (.refused stopped.2)
  | none =>
      match sourceChange host.scopes (host.resolve request.path)
          (match host.unreadable with | some exc => .error exc | none => .ok bytes)
          request.old request.new with
      | .error error => host.refuseChange error
      | .ok change => do
          host.opensBefore
          host.checkDeclaredSource request change
          .ok (.change change (host.hashing.hexdigest bytes))

/-- How a call ends: what it returns or raises, the bytes of the source file, whether it
wrote them, and the document it persisted. -/
structure RepairRun where
  outcome : Except ForgeError Document
  source : List UInt8
  written : Bool
  persisted : Option Document

def persist (document : Document) : Except ForgeError Document × Option Document :=
  match host.destination with
  | .error raised => (.error raised, none)
  | .ok () =>
      match host.opensDestination with
      | .error raised => (.error raised, some document)
      | .ok () => (.ok document, some document)

def refusedDocument (request : RepairRequest) (reason : String) : Document :=
  Dict.set request.base "repair"
    (.obj [("reason", .str reason), ("status", .str "NOT_ADMISSIBLE")])

/-- `failure_loop` from the repair on, on a source file with these bytes. -/
def failureLoop (request : RepairRequest) (bytes : List UInt8) : RepairRun :=
  match host.proposeRepair request bytes with
  | .error raised => ⟨.error raised, bytes, false, none⟩
  | .ok (.refused reason) =>
      let persisted := host.persist (refusedDocument request reason)
      ⟨persisted.1, bytes, false, persisted.2⟩
  | .ok (.change change beforeSha) =>
      let source := utf8 change.afterText
      match host.verifyRepair request change beforeSha with
      | .error raised => ⟨.error raised, source, true, none⟩
      | .ok document =>
          let persisted := host.persist document
          ⟨persisted.1, source, true, persisted.2⟩

/-! ## What a raised error leaves behind -/

/-- An error raised after the source was written leaves it as it was before, or on record
as repaired. -/
def AccountsForWrite (bytes : List UInt8) (run : RepairRun) : Prop :=
  run.written = true → ∀ raised, run.outcome = .error raised →
    run.source = bytes ∨ ∃ document, run.persisted = some document ∧
      field (subsection document "repair") "status" = .str "APPLIED"

/-- Every step after the write answers, up to the write of the document. -/
def RepairAnswers (request : RepairRequest) : Prop :=
  let afterResult := host.afterName request.resultPath
  let afterCheck := host.afterName request.checkPath
  host.opensAfter = .ok () ∧
  (∃ after argv execution afterTest afterCheckValue,
    host.afterPlan request = .ok after ∧
    host.dropStale [afterResult, afterCheck] = .ok () ∧
    host.testWork afterResult afterCheck (request.artifactsPath ++ ".after")
      (after.map ReboundPlan.path) = .ok argv ∧
    host.run argv = .ok execution ∧
    host.read afterResult = .ok afterTest ∧
    host.read afterCheck = .ok afterCheckValue ∧
    validateTestResult afterTest = .ok () ∧
    validateCheck afterCheckValue "mncs-test" = .ok () ∧
    checkSelection after afterTest = .ok () ∧
    ∀ rebound, after = some rebound →
      field (subsection rebound.plan "selection") "routing_scope" = .str "selected_repositories" →
      ∃ proof, host.familyProof rebound.plan rebound.path = .ok proof) ∧
  (∃ reference, host.ref afterResult = .ok reference) ∧
  (∃ reference, host.ref afterCheck = .ok reference) ∧
  (∃ decision, host.concludes = .ok decision) ∧
  host.destination = .ok ()

variable {host} {request : RepairRequest} {change : SourceChange} {beforeSha : String}
variable {document : Document} {bytes : List UInt8}

theorem exists_familyVerification {after : Option ReboundPlan} {localVerification : Document} :
    (∃ verification, host.familyVerification after localVerification = .ok verification) ↔
      ∀ rebound, after = some rebound →
        field (subsection rebound.plan "selection") "routing_scope" =
          .str "selected_repositories" →
        ∃ proof, host.familyProof rebound.plan rebound.path = .ok proof := by
  cases after with
  | none => simp [familyVerification]
  | some rebound =>
      simp only [familyVerification, Option.some.injEq, forall_eq']
      split
      · next selected =>
          simp only [selected, forall_const, bind_eq_ok, Except.ok.injEq]
          constructor
          · rintro ⟨_, proof, answered, _⟩
            exact ⟨proof, answered⟩
          · rintro ⟨proof, answered⟩
            exact ⟨_, proof, answered, rfl⟩
      · next other => simp [other]

/-- The sections written after the repair leave its record alone. -/
theorem field_set_of_ne {document : Document} {name other : String} {value : Json}
    (h : other ≠ name) : field (Dict.set document name value) other = field document other := by
  rw [field, field, Dict.get?_set, if_neg h]

theorem field_set_self (document : Document) (name : String) (value : Json) :
    field (Dict.set document name value) name = value := by
  rw [field, Dict.get?_set, if_pos rfl]
  rfl

/-- The document records the repair. -/
theorem verifyRepair_applied (h : host.verifyRepair request change beforeSha = .ok document) :
    field (subsection document "repair") "status" = .str "APPLIED" := by
  have recorded : field document "repair" =
      .obj (host.appliedRepair request change beforeSha) := by
    obtain ⟨_, _, h⟩ := bind_eq_ok.mp h
    obtain ⟨after, _, h⟩ := bind_eq_ok.mp h
    obtain ⟨_, _, h⟩ := bind_eq_ok.mp h
    obtain ⟨argv, _, h⟩ := bind_eq_ok.mp h
    obtain ⟨execution, _, h⟩ := bind_eq_ok.mp h
    obtain ⟨afterTest, _, h⟩ := bind_eq_ok.mp h
    obtain ⟨afterCheck, _, h⟩ := bind_eq_ok.mp h
    obtain ⟨_, _, h⟩ := bind_eq_ok.mp h
    obtain ⟨_, _, h⟩ := bind_eq_ok.mp h
    obtain ⟨_, _, h⟩ := bind_eq_ok.mp h
    obtain ⟨resultRef, _, h⟩ := bind_eq_ok.mp h
    obtain ⟨checkRef, _, h⟩ := bind_eq_ok.mp h
    obtain ⟨verification, _, h⟩ := bind_eq_ok.mp h
    obtain ⟨decision, _, h⟩ := bind_eq_ok.mp h
    have verdict : "repair" ≠ "verdict" := by decide
    have section_ : "repair" ≠ "verification" := by decide
    cases decision with
    | some status =>
        cases h
        rw [field_set_of_ne verdict, field_set_of_ne section_, field_set_self]
    | none =>
        dsimp only at h
        split at h <;> cases h
        · rw [field_set_of_ne section_, field_set_self]
        · rw [field_set_of_ne verdict, field_set_of_ne section_, field_set_self]
  rw [subsection, recorded]
  rfl

theorem exists_verifyRepair :
    (∃ document, host.verifyRepair request change beforeSha = .ok document) ∧
      host.destination = .ok () ↔ host.RepairAnswers request := by
  constructor
  · rintro ⟨⟨document, h⟩, destination⟩
    obtain ⟨⟨⟩, opens, h⟩ := bind_eq_ok.mp h
    obtain ⟨after, plan, h⟩ := bind_eq_ok.mp h
    obtain ⟨⟨⟩, dropped, h⟩ := bind_eq_ok.mp h
    obtain ⟨argv, work, h⟩ := bind_eq_ok.mp h
    obtain ⟨execution, ran, h⟩ := bind_eq_ok.mp h
    obtain ⟨afterTest, result, h⟩ := bind_eq_ok.mp h
    obtain ⟨afterCheckValue, check, h⟩ := bind_eq_ok.mp h
    obtain ⟨⟨⟩, validTest, h⟩ := bind_eq_ok.mp h
    obtain ⟨⟨⟩, validCheck, h⟩ := bind_eq_ok.mp h
    obtain ⟨⟨⟩, selection, h⟩ := bind_eq_ok.mp h
    obtain ⟨resultRef, hresult, h⟩ := bind_eq_ok.mp h
    obtain ⟨checkRef, hcheck, h⟩ := bind_eq_ok.mp h
    obtain ⟨verification, family, h⟩ := bind_eq_ok.mp h
    obtain ⟨decision, concluded, h⟩ := bind_eq_ok.mp h
    exact ⟨opens, ⟨after, argv, execution, afterTest, afterCheckValue, plan, dropped, work, ran,
      result, check, validTest, validCheck, selection,
      exists_familyVerification.mp ⟨verification, family⟩⟩, ⟨resultRef, hresult⟩,
      ⟨checkRef, hcheck⟩, ⟨decision, concluded⟩, destination⟩
  · rintro ⟨opens, ⟨after, argv, execution, afterTest, afterCheckValue, plan, dropped, work, ran,
      result, check, validTest, validCheck, selection, family⟩, ⟨resultRef, hresult⟩,
      ⟨checkRef, hcheck⟩, ⟨decision, concluded⟩, destination⟩
    refine ⟨?_, destination⟩
    unfold verifyRepair
    simp only [opens, plan, dropped, work, ran, result, check, validTest, validCheck, selection,
      hresult, hcheck, concluded, bind, Except.bind]
    obtain ⟨verification, hverification⟩ := exists_familyVerification.mpr family
    rw [hverification]
    cases decision with
    | some status => exact ⟨_, rfl⟩
    | none =>
        dsimp only
        split <;> exact ⟨_, rfl⟩

/-- A document is on record once its destination could be written. -/
theorem persist_of_destination (answers : host.destination = .ok ()) :
    (host.persist document).2 = some document := by
  unfold persist
  rw [answers]
  cases host.opensDestination <;> rfl

theorem persist_of_refused {raised : ForgeError} (refused : host.destination = .error raised) :
    host.persist document = (.error raised, none) := by
  rw [persist, refused]

/-- Nothing on the way back from an error undoes the write, so an error is accounted for
exactly when the write changed nothing or the document is written before it. -/
theorem accountsForWrite_iff (host : RepairHost) (request : RepairRequest) (bytes : List UInt8) :
    AccountsForWrite bytes (host.failureLoop request bytes) ↔
      ∀ change beforeSha, host.proposeRepair request bytes = .ok (.change change beforeSha) →
        utf8 change.afterText = bytes ∨ host.RepairAnswers request := by
  unfold failureLoop
  cases proposed : host.proposeRepair request bytes with
  | error raised => simp [AccountsForWrite]
  | ok proposal =>
      cases proposal with
      | refused reason => simp [AccountsForWrite]
      | change change beforeSha =>
          simp only [Except.ok.injEq, Proposal.change.injEq, and_imp]
          have answers : (∃ document, host.verifyRepair request change beforeSha = .ok document) ∧
              host.destination = .ok () ↔ host.RepairAnswers request := exists_verifyRepair
          rw [← answers]
          cases verified : host.verifyRepair request change beforeSha with
          | error raised => simp [AccountsForWrite]
          | ok document =>
              have applied := verifyRepair_applied verified
              cases destination : host.destination with
              | error raised => simp [AccountsForWrite, persist_of_refused destination]
              | ok _ => simp [AccountsForWrite, persist_of_destination destination, applied]

/-! ## What a replacement changes -/

/-- The old text stands at one position of the file, and the new one is written there with
every other byte as it was. -/
def ReplacesExactly (fileText old new : String) (bytes after : List UInt8) : Prop :=
  (∃! i, Occurrences.OccursAt old.toList fileText.toList i) ∧
  ∃ before rest, bytes = before ++ utf8 old ++ rest ∧ after = before ++ utf8 new ++ rest

theorem readText_of_decode {bytes : List UInt8} {fileText : String}
    (valid : decodeUtf8? bytes = some fileText) :
    readText bytes = .ok (String.ofList (translateNewlines fileText.toList)) := by
  rw [readText, valid]

/-- What an accepted replacement was checked for, and the text it writes. -/
theorem sourceChange_eq_ok {scopes : RepairScopes} {resolved : Except ForgeError (List String)}
    {bytes : List UInt8} {fileText old new : String} {change : SourceChange}
    (valid : decodeUtf8? bytes = some fileText)
    (h : sourceChange scopes resolved (.ok bytes) old new = .ok change) :
    old.toList ≠ [] ∧ Occurrences.count old.toList 0 (translateNewlines fileText.toList) = 1 ∧
      change.afterText.toList = Occurrences.replaceFirst old.toList new.toList
        (translateNewlines fileText.toList) := by
  obtain ⟨relative, _, h⟩ := bind_eq_ok.mp h
  rw [refuseIf_bind_eq_ok, refuseIf_bind_eq_ok, refuseIf_bind_eq_ok, refuseIf_bind_eq_ok] at h
  obtain ⟨_, _, _, nonempty, h⟩ := h
  obtain ⟨read, hread, h⟩ := bind_eq_ok.mp h
  cases hread
  rw [readText_of_decode valid] at h
  obtain ⟨text, htext, h⟩ := bind_eq_ok.mp h
  cases htext
  rw [refuseIf_bind_eq_ok, not_not] at h
  obtain ⟨once, h⟩ := h
  cases h
  exact ⟨by simpa using nonempty, by simpa using once, by simp⟩

theorem sourceChange_of_unreadable {scopes : RepairScopes}
    {resolved : Except ForgeError (List String)} {exc old new : String} {change : SourceChange} :
    sourceChange scopes resolved (.error exc) old new ≠ .ok change := by
  intro h
  obtain ⟨relative, _, h⟩ := bind_eq_ok.mp h
  rw [refuseIf_bind_eq_ok, refuseIf_bind_eq_ok, refuseIf_bind_eq_ok, refuseIf_bind_eq_ok] at h
  obtain ⟨_, _, _, _, h⟩ := h
  obtain ⟨read, hread, _⟩ := bind_eq_ok.mp h
  cases hread

theorem refuseChange_ne_change {error : ForgeError} :
    host.refuseChange error ≠ .ok (.change change beforeSha) := by
  intro h
  unfold refuseChange at h
  split at h
  · cases h
  · obtain ⟨decision, _, h⟩ := bind_eq_ok.mp h
    cases decision <;> cases h

/-- A change that is proposed was accepted for the bytes of the file. -/
theorem sourceChange_of_proposeRepair
    (h : host.proposeRepair request bytes = .ok (.change change beforeSha)) :
    sourceChange host.scopes (host.resolve request.path) (.ok bytes) request.old request.new =
      .ok change := by
  obtain ⟨decision, _, h⟩ := bind_eq_ok.mp h
  split at h
  · cases h
  · split at h
    · exact absurd h refuseChange_ne_change
    · next accepted hchange =>
        obtain ⟨_, _, h⟩ := bind_eq_ok.mp h
        obtain ⟨_, _, h⟩ := bind_eq_ok.mp h
        cases h
        cases unreadable : host.unreadable with
        | some exc =>
            rw [unreadable] at hchange
            exact absurd hchange sourceChange_of_unreadable
        | none =>
            rw [unreadable] at hchange
            exact hchange

/-- What is written is the accepted change. -/
theorem failureLoop_source (written : (host.failureLoop request bytes).written = true) :
    ∃ change beforeSha, host.proposeRepair request bytes = .ok (.change change beforeSha) ∧
      (host.failureLoop request bytes).source = utf8 change.afterText := by
  unfold failureLoop at written ⊢
  split at written
  · cases written
  · cases written
  · next change beforeSha proposed =>
      refine ⟨change, beforeSha, proposed, ?_⟩
      dsimp only
      split <;> rfl

/-- The carriage returns of a text that is cut up are those of its parts. -/
theorem count_parts (before middle rest : List UInt8) :
    (before ++ middle ++ rest).count 13 = before.count 13 + middle.count 13 + rest.count 13 := by
  rw [List.count_append, List.count_append]

/-- Reading drops the carriage returns of a file, and only those that the new text brings
are written back. -/
theorem notMem_of_replacesExactly {fileText old new : String} {bytes after : List UInt8}
    {before rest : List UInt8} {readBefore readRest : List Char}
    (valid : decodeUtf8? bytes = some fileText)
    (cut : translateNewlines fileText.toList = readBefore ++ old.toList ++ readRest)
    (written : after.count 13 = (readBefore ++ new.toList ++ readRest).count '\r')
    (hbytes : bytes = before ++ utf8 old ++ rest) (hafter : after = before ++ utf8 new ++ rest) :
    '\r' ∉ fileText.toList := by
  have clean := carriageReturn_notMem_translate fileText.toList
  simp only [cut, List.mem_append, not_or] at clean
  obtain ⟨⟨cleanBefore, cleanOld⟩, cleanRest⟩ := clean
  have noBefore := List.count_eq_zero_of_not_mem cleanBefore
  have noOld := List.count_eq_zero_of_not_mem cleanOld
  have noRest := List.count_eq_zero_of_not_mem cleanRest
  rw [hafter, count_parts, count_utf8, List.count_append, List.count_append] at written
  have total : bytes.count 13 = 0 := by
    rw [hbytes, count_parts, count_utf8]
    omega
  rw [← utf8_of_decodeUtf8? valid, count_utf8] at total
  exact List.count_eq_zero.mp total

theorem utf8_split {text : String} {before middle rest : List Char}
    (h : text.toList = before ++ middle ++ rest) :
    utf8 text = utf8 (String.ofList before) ++ utf8 (String.ofList middle) ++
      utf8 (String.ofList rest) := by
  have whole : text = String.ofList before ++ String.ofList middle ++ String.ofList rest := by
    apply String.toList_injective
    simp [h]
  rw [whole, utf8_append, utf8_append]

/-- An accepted replacement is written as it is proposed, and it is exact for the files
without a carriage return in which the old text does not overlap itself. -/
theorem replacesExactly_iff {host : RepairHost} {request : RepairRequest} {bytes : List UInt8}
    {fileText : String} {change : SourceChange} (valid : decodeUtf8? bytes = some fileText)
    (accepted : sourceChange host.scopes (host.resolve request.path) (.ok bytes) request.old
      request.new = .ok change) :
    ((host.failureLoop request bytes).written = true →
      (host.failureLoop request bytes).source = utf8 change.afterText) ∧
    (ReplacesExactly fileText request.old request.new bytes (utf8 change.afterText) ↔
      '\r' ∉ fileText.toList ∧ Occurrences.Apart request.old.toList fileText.toList) := by
  obtain ⟨nonempty, once, afterText⟩ := sourceChange_eq_ok valid accepted
  obtain ⟨readBefore, readRest, cut, replaced⟩ : ∃ before after,
      translateNewlines fileText.toList = before ++ request.old.toList ++ after ∧
        Occurrences.replaceFirst request.old.toList request.new.toList
          (translateNewlines fileText.toList) = before ++ request.new.toList ++ after :=
    Occurrences.replaceFirst_of_count_eq_one nonempty once
  refine ⟨?_, ?_⟩
  · intro written
    obtain ⟨change', beforeSha, proposed, source⟩ := failureLoop_source written
    rw [sourceChange_of_proposeRepair proposed] at accepted
    rw [source, Except.ok.inj accepted]
  · constructor
    · rintro ⟨unique, before, rest, hbytes, hafter⟩
      have written : (utf8 change.afterText).count 13 =
          (readBefore ++ request.new.toList ++ readRest).count '\r' := by
        rw [count_utf8, afterText, replaced]
      have clean := notMem_of_replacesExactly valid cut written hbytes hafter
      rw [translateNewlines_of_notMem clean] at once
      exact ⟨clean, (Occurrences.existsUnique_occursAt_iff nonempty once).mp unique⟩
    · rintro ⟨clean, apart⟩
      rw [translateNewlines_of_notMem clean] at once cut
      refine ⟨(Occurrences.existsUnique_occursAt_iff nonempty once).mpr apart,
        utf8 (String.ofList readBefore), utf8 (String.ofList readRest), ?_, ?_⟩
      · rw [← utf8_of_decodeUtf8? valid, utf8_split cut, String.ofList_toList]
      · rw [utf8_split (afterText.trans replaced), String.ofList_toList]

/-! ## Samples -/

def sampleScopes : RepairScopes where
  candidates := [["candidate"]]
  generated := []
  mayWriteCandidates := true
  mayWriteGenerated := false

/-- A host whose test command cannot be executed after the repair. -/
def sampleRepairHost : RepairHost where
  hashing := ⟨fun _ => "digest", fun _ => .ok []⟩
  scopes := sampleScopes
  resolve _ := .ok ["candidate", "main.py"]
  unreadable := none
  admits := .ok none
  refuses := .ok none
  concludes := .ok none
  opensBefore := .ok ()
  opensAfter := .ok ()
  afterName path := path ++ ".after"
  planSource _ := .ok "candidate/main.py"
  familyGraph _ := .ok ("graph.json", "commons")
  run _ := .error ⟨"MNCS_PROVIDER_EXECUTION",
    "mncs-test-verification could not be executed: timed out"⟩
  isFile _ := false
  read _ := .ok []
  validatePlan _ := .ok ()
  ref _ := .ok []
  dropStale _ := .ok ()
  testWork _ _ _ _ := .ok ["mncs-test"]
  familyProof _ _ := .ok []
  destination := .ok ()
  opensDestination := .ok ()

def sampleRepair (old new : String) : RepairRequest where
  path := "candidate/main.py"
  old := old
  new := new
  verificationPlan := none
  verificationPlanPath := none
  postVerificationPlan := none
  postVerificationPlanPath := none
  ravelCommand := none
  mncsBinary := none
  libraryPaths := []
  familyGraphFile := none
  cwd := "."
  resultPath := "result.json"
  checkPath := "check.json"
  artifactsPath := "artifacts"
  base := []

/-- A replacement in the sample candidate. -/
theorem sampleChange_eq (fileText old new : String) (nonempty : old ≠ "")
    (once : Occurrences.count old.toList 0 (translateNewlines fileText.toList) = 1) :
    sourceChange sampleScopes (.ok ["candidate", "main.py"]) (.ok (utf8 fileText)) old new =
      .ok ⟨["candidate", "main.py"], String.ofList (translateNewlines fileText.toList),
        String.ofList (Occurrences.replaceFirst old.toList new.toList
          (translateNewlines fileText.toList))⟩ := by
  refine bind_eq_ok.mpr ⟨_, rfl, ?_⟩
  refine refuseIf_bind_eq_ok.mpr ⟨by decide, refuseIf_bind_eq_ok.mpr ⟨by decide,
    refuseIf_bind_eq_ok.mpr ⟨by decide, refuseIf_bind_eq_ok.mpr ⟨nonempty, ?_⟩⟩⟩⟩
  refine bind_eq_ok.mpr ⟨_, rfl, ?_⟩
  refine bind_eq_ok.mpr ⟨_, readText_of_decode (decodeUtf8?_utf8 fileText), ?_⟩
  refine refuseIf_bind_eq_ok.mpr ⟨?_, ?_⟩
  · rw [String.toList_ofList, not_not]
    exact once
  · rw [String.toList_ofList]

/-- The test command fails after the write, and the candidate keeps the new text. -/
theorem failureLoop_leaves_write :
    ¬AccountsForWrite (utf8 "limit = 1\n")
      (sampleRepairHost.failureLoop (sampleRepair "1" "2") (utf8 "limit = 1\n")) := by
  have change := sampleChange_eq "limit = 1\n" "1" "2" (by decide) (by decide)
  have read : String.ofList (translateNewlines "limit = 1\n".toList) = "limit = 1\n" := by
    decide +kernel
  have replaced : String.ofList (Occurrences.replaceFirst "1".toList "2".toList
      (translateNewlines "limit = 1\n".toList)) = "limit = 2\n" := by
    decide +kernel
  rw [read, replaced] at change
  have proposed : sampleRepairHost.proposeRepair (sampleRepair "1" "2") (utf8 "limit = 1\n") =
      .ok (.change ⟨["candidate", "main.py"], "limit = 1\n", "limit = 2\n"⟩ "digest") := by
    simp only [proposeRepair, sampleRepairHost, sampleRepair, bind, Except.bind,
      Option.filter_none]
    rw [change]
    rfl
  intro accounts
  unfold failureLoop at accounts
  rw [proposed] at accounts
  rcases accounts rfl _ rfl with same | ⟨_, none, _⟩
  · exact absurd (utf8_injective same) (by decide)
  · cases none

/-- A file with carriage returns loses them. -/
theorem replacement_rewrites_line_ends :
    ∃ change, sourceChange sampleScopes (.ok ["candidate", "main.py"]) (.ok (utf8 "a\r\nb"))
        "a" "c" = .ok change ∧
      ¬ReplacesExactly "a\r\nb" "a" "c" (utf8 "a\r\nb") (utf8 change.afterText) := by
  refine ⟨_, sampleChange_eq "a\r\nb" "a" "c" (by decide) (by decide), ?_⟩
  rintro ⟨_, before, rest, hbytes, hafter⟩
  have shorter := congrArg List.length hafter
  have longer := congrArg List.length hbytes
  have lengths : (utf8 "a\r\nb").length = 4 ∧ (utf8 "a").length = 1 ∧ (utf8 "c").length = 1 ∧
      (utf8 (String.ofList (Occurrences.replaceFirst "a".toList "c".toList
        (translateNewlines "a\r\nb".toList)))).length = 3 := by
    decide +kernel
  simp only [List.length_append] at shorter longer
  omega

/-- A file without carriage returns is changed in one place. -/
theorem replacesExactly_iff_sample :
    ReplacesExactly "limit = 1\n" "1" "2" (utf8 "limit = 1\n") (utf8 "limit = 2\n") := by
  have accepted : sourceChange sampleRepairHost.scopes
      (sampleRepairHost.resolve (sampleRepair "1" "2").path) (.ok (utf8 "limit = 1\n"))
      (sampleRepair "1" "2").old (sampleRepair "1" "2").new = .ok _ :=
    sampleChange_eq "limit = 1\n" "1" "2" (by decide) (by decide)
  refine (replacesExactly_iff (decodeUtf8?_utf8 "limit = 1\n") accepted).2.mpr ⟨by decide, ?_⟩
  intro i j hi hj hij
  have length : (sampleRepair "1" "2").old.toList.length = 1 := by decide
  omega

end RepairHost

end MncsForge.Application
