import Mathlib
import MncsForge.Identity
import MncsForge.Application.Providers

/-!
# Claim statuses

The evidence service walks the evidence and output paths, gathers the statuses that
the JSON files state at any depth, and folds those of a claim class.  A file that
cannot be read states nothing, and a thousand files are looked at.
-/

namespace MncsForge.Application

open MncsForge.Foundation MncsForge.Records MncsForge.Native
open MncsForge.Identity (Path FileTree)

/-! ## Statuses of a value -/

def statusKeys : List String := ["status", "result", "overall_status", "aggregate_status"]

/-- The status that a child under the name of a status states. -/
def statedStatus : Json → List String
  | .str status => if status ∈ statuses then [status] else []
  | _ => []

mutual

/-- `_extract_statuses` -/
def extractStatuses : Json → List String
  | .obj fields => extractFields fields
  | .arr items => extractItems items
  | _ => []

def extractFields : List (String × Json) → List String
  | [] => []
  | (key, child) :: fields =>
      -- what stands under the name of a status is not descended into
      (if key ∈ statusKeys then statedStatus child else extractStatuses child) ++
        extractFields fields

def extractItems : List Json → List String
  | [] => []
  | item :: items => extractStatuses item ++ extractItems items

end

/-- The text stands under the name of a status, reached through members of the given
names. -/
inductive StatusAt (through : String → Prop) (status : String) : Json → Prop where
  | here {fields : List (String × Json)} {key : String} (named : key ∈ statusKeys)
      (stated : (key, .str status) ∈ fields) : StatusAt through status (.obj fields)
  | member {fields : List (String × Json)} {key : String} {child : Json} (passed : through key)
      (found : (key, child) ∈ fields) (below : StatusAt through status child) :
      StatusAt through status (.obj fields)
  | item {items : List Json} {child : Json} (found : child ∈ items)
      (below : StatusAt through status child) : StatusAt through status (.arr items)

/-! ## The evidence service -/

def claimClasses : List String :=
  ["mncs_implementation_result", "mncds_development_process_result", "local_reproduction",
   "operator_controlled_reproduction", "independent_evaluation", "protected_holdout",
   "witnessed_evidence", "operational_evidence", "governance_approval"]

def mentions (text part : String) : Bool := decide (part.toList <:+: text.toList)

/-- `_classify_record` -/
def classifyRecord (path : String) : String :=
  let lowered := path.toLower
  if mentions lowered "mncds" || mentions lowered "development-record" then
    "mncds_development_process_result"
  else if mentions lowered "independent" then "independent_evaluation"
  else if mentions lowered "holdout" || mentions lowered "protected" then "protected_holdout"
  else if mentions lowered "witness" then "witnessed_evidence"
  else if mentions lowered "operational" || mentions lowered "monitor" then
    "operational_evidence"
  else if mentions lowered "governance" || mentions lowered "approval" then
    "governance_approval"
  else if mentions lowered "reproduction" then "local_reproduction"
  else "mncs_implementation_result"

structure EvidenceReader where
  tree : FileTree
  root : Path
  /-- `config.paths`, which looks at the files. -/
  paths : String → Except ForgeError (List Path)
  outputCap : Nat
  /-- `json.loads` that refuses duplicate keys: nothing where it raises a `ValueError`; what
  else it raises is not passed over. -/
  loads : List UInt8 → Except ForgeError (Option Json)
  native : Option NativeForgeAdapter
  rightsStatus : Except ForgeError Json

structure StatusRecord where
  source : String
  status : String
  claimClass : String
  deriving DecidableEq, Repr

structure ClaimStatus where
  statuses : Dict String String
  sources : Dict String (List String)
  rightsProvenance : Json

namespace EvidenceReader

variable (reader : EvidenceReader)

/-- The JSON files of a root: itself, or those below it in order. -/
def jsonFiles (root : Path) : List Path :=
  if reader.tree.isFile root = true then [root]
  else if reader.tree.present root = true then
    ((reader.tree.rglob root).filter fun path =>
      (path.getLast?.getD "").endsWith ".json").mergeSort fun a b => decide (a ≤ b)
  else []

/-- The files that are looked at. -/
def visited : Except ForgeError (List Path) := do
  let evidence ← reader.paths "development_evidence"
  let outputs ← reader.paths "outputs"
  .ok (((evidence ++ outputs).flatMap reader.jsonFiles).take 1000)

/-- `read_json`, nothing for an error that is passed over. -/
def readJson (path : Path) : Except ForgeError (Option Json) :=
  match reader.tree.read path with
  | .error _ => .ok none
  | .ok bytes => if reader.outputCap < bytes.length then .ok none else reader.loads bytes

def recordsOf (path : Path) : Except ForgeError (List StatusRecord) := do
  let value ← reader.readJson path
  let source := path.relativeTo reader.root
  .ok (((value.map extractStatuses).getD []).map fun status =>
    ⟨source, status, classifyRecord source⟩)

/-- `_structured_statuses` -/
def structuredStatuses : Except ForgeError (List StatusRecord) := do
  let files ← reader.visited
  let records ← files.mapM reader.recordsOf
  .ok records.flatten

/-- `aggregate_status` -/
def aggregateTexts (values : List String) : String :=
  let values := values.filter (· ∈ statuses)
  if values = [] then "UNKNOWN"
  else
    match reader.native with
    | some native => native.statusAggregateTexts values
    | none => (aggregateStatus values).value

def matching (records : List StatusRecord) (claimClass : String) : List StatusRecord :=
  records.filter fun item => item.claimClass = claimClass

def classStatuses (records : List StatusRecord) : Dict String String :=
  Dict.update [] (claimClasses.map fun claimClass =>
    (claimClass, reader.aggregateTexts ((matching records claimClass).map StatusRecord.status)))

/-- `claim_status` -/
def claimStatus : Except ForgeError ClaimStatus := do
  let records ← reader.structuredStatuses
  let classes := Dict.set (reader.classStatuses records) "operator_controlled_reproduction"
    "UNKNOWN"
  let disposition :=
    if ∀ entry ∈ classes, entry.2 = "PASS" then "REVIEW_REQUIRED" else "NOT_PROMOTABLE"
  let rights ← reader.rightsStatus
  .ok
    { statuses := Dict.set classes "promotion_disposition" disposition
      sources := Dict.update [] (claimClasses.map fun claimClass =>
        (claimClass,
          (Dict.sortedSet ((matching records claimClass).map StatusRecord.source)).take 20))
      rightsProvenance := rights }

end EvidenceReader

/-! ## What is gathered -/

theorem mem_statedStatus {status : String} {child : Json} :
    status ∈ statedStatus child ↔ status ∈ statuses ∧ child = .str status := by
  cases child with
  | str text =>
      rw [statedStatus, Json.str.injEq]
      by_cases known : text ∈ statuses
      · rw [if_pos known, List.mem_singleton]
        constructor
        · rintro rfl
          exact ⟨known, rfl⟩
        · exact fun h => h.2.symm
      · rw [if_neg known]
        constructor
        · exact fun h => absurd h List.not_mem_nil
        · rintro ⟨member, rfl⟩
          exact absurd member known
  | _ => simp [statedStatus]

mutual

theorem mem_extractStatuses {status : String} : ∀ value : Json,
    status ∈ extractStatuses value ↔
      status ∈ statuses ∧ StatusAt (· ∉ statusKeys) status value
  | .obj fields => by
      rw [extractStatuses, mem_extractFields fields]
      refine and_congr_right fun _ => ⟨?_, ?_⟩
      · rintro (⟨key, named, stated⟩ | ⟨key, child, passed, found, below⟩)
        · exact .here named stated
        · exact .member passed found below
      · intro at_value
        cases at_value with
        | here named stated => exact Or.inl ⟨_, named, stated⟩
        | member passed found below => exact Or.inr ⟨_, _, passed, found, below⟩
  | .arr items => by
      rw [extractStatuses, mem_extractItems items]
      refine and_congr_right fun _ => ⟨?_, ?_⟩
      · rintro ⟨child, found, below⟩
        exact .item found below
      · intro at_value
        cases at_value with
        | item found below => exact ⟨_, found, below⟩
  | .null => by
      simp only [extractStatuses, List.not_mem_nil, false_iff, not_and]
      rintro _ ⟨⟩
  | .bool _ => by
      simp only [extractStatuses, List.not_mem_nil, false_iff, not_and]
      rintro _ ⟨⟩
  | .int _ => by
      simp only [extractStatuses, List.not_mem_nil, false_iff, not_and]
      rintro _ ⟨⟩
  | .float _ => by
      simp only [extractStatuses, List.not_mem_nil, false_iff, not_and]
      rintro _ ⟨⟩
  | .str _ => by
      simp only [extractStatuses, List.not_mem_nil, false_iff, not_and]
      rintro _ ⟨⟩

theorem mem_extractFields {status : String} : ∀ fields : List (String × Json),
    status ∈ extractFields fields ↔
      status ∈ statuses ∧
        ((∃ key, key ∈ statusKeys ∧ (key, .str status) ∈ fields) ∨
          ∃ key child, key ∉ statusKeys ∧ (key, child) ∈ fields ∧
            StatusAt (· ∉ statusKeys) status child)
  | [] => by simp [extractFields]
  | (key, child) :: fields => by
      rw [extractFields, List.mem_append, mem_extractFields fields]
      by_cases named : key ∈ statusKeys
      · rw [if_pos named, mem_statedStatus]
        constructor
        · rintro (⟨known, rfl⟩ | ⟨known, ⟨key', named', stated⟩ | ⟨key', below⟩⟩)
          · exact ⟨known, Or.inl ⟨key, named, List.mem_cons_self⟩⟩
          · exact ⟨known, Or.inl ⟨key', named', List.mem_cons_of_mem _ stated⟩⟩
          · obtain ⟨child', passed, found, below⟩ := below
            exact ⟨known, Or.inr ⟨key', child', passed, List.mem_cons_of_mem _ found, below⟩⟩
        · rintro ⟨known, ⟨key', named', stated⟩ | ⟨key', child', passed, found, below⟩⟩
          · rcases List.mem_cons.mp stated with same | stated
            · exact Or.inl ⟨known, (Prod.mk.inj same).2.symm⟩
            · exact Or.inr ⟨known, Or.inl ⟨key', named', stated⟩⟩
          · rcases List.mem_cons.mp found with same | found
            · rw [(Prod.mk.inj same).1] at passed
              exact absurd named passed
            · exact Or.inr ⟨known, Or.inr ⟨key', child', passed, found, below⟩⟩
      · rw [if_neg named, mem_extractStatuses child]
        constructor
        · rintro (⟨known, below⟩ | ⟨known, ⟨key', named', stated⟩ | ⟨key', below⟩⟩)
          · exact ⟨known, Or.inr ⟨key, child, named, List.mem_cons_self, below⟩⟩
          · exact ⟨known, Or.inl ⟨key', named', List.mem_cons_of_mem _ stated⟩⟩
          · obtain ⟨child', passed, found, below⟩ := below
            exact ⟨known, Or.inr ⟨key', child', passed, List.mem_cons_of_mem _ found, below⟩⟩
        · rintro ⟨known, ⟨key', named', stated⟩ | ⟨key', child', passed, found, below⟩⟩
          · rcases List.mem_cons.mp stated with same | stated
            · rw [(Prod.mk.inj same).1] at named'
              exact absurd named' named
            · exact Or.inr ⟨known, Or.inl ⟨key', named', stated⟩⟩
          · rcases List.mem_cons.mp found with same | found
            · rw [(Prod.mk.inj same).2] at below
              exact Or.inl ⟨known, below⟩
            · exact Or.inr ⟨known, Or.inr ⟨key', child', passed, found, below⟩⟩

theorem mem_extractItems {status : String} : ∀ items : List Json,
    status ∈ extractItems items ↔
      status ∈ statuses ∧ ∃ child ∈ items, StatusAt (· ∉ statusKeys) status child
  | [] => by simp [extractItems]
  | item :: items => by
      rw [extractItems, List.mem_append, mem_extractStatuses item, mem_extractItems items,
        List.exists_mem_cons_iff]
      tauto

end

namespace EvidenceReader

variable {reader : EvidenceReader}

theorem mem_recordsOf {path : Path} {records : List StatusRecord} {item : StatusRecord}
    (h : reader.recordsOf path = .ok records) :
    item ∈ records ↔ ∃ value, reader.readJson path = .ok (some value) ∧
      item.status ∈ extractStatuses value ∧
      item = ⟨path.relativeTo reader.root, item.status,
        classifyRecord (path.relativeTo reader.root)⟩ := by
  obtain ⟨value, read, h⟩ := bind_eq_ok.mp h
  obtain rfl := Except.ok.inj h
  rw [List.mem_map, read]
  cases value with
  | none => simp
  | some value =>
      constructor
      · rintro ⟨status, member, rfl⟩
        exact ⟨value, rfl, member, rfl⟩
      · rintro ⟨_, ⟨⟩, member, same⟩
        exact ⟨item.status, member, same.symm⟩

/-- The statuses of a claim class are those of its files that were read. -/
theorem mem_structuredStatuses {files : List Path} {records : List StatusRecord}
    {claimClass status : String} (visited : reader.visited = .ok files)
    (h : reader.structuredStatuses = .ok records) :
    status ∈ (matching records claimClass).map StatusRecord.status ↔
      ∃ path ∈ files, classifyRecord (path.relativeTo reader.root) = claimClass ∧
        ∃ value, reader.readJson path = .ok (some value) ∧ status ∈ extractStatuses value := by
  obtain ⟨_, same, h⟩ := bind_eq_ok.mp h
  obtain rfl := Except.ok.inj (visited.symm.trans same)
  obtain ⟨groups, gathered, h⟩ := bind_eq_ok.mp h
  obtain rfl := Except.ok.inj h
  simp only [matching, List.mem_map, List.mem_filter, List.mem_flatten, decide_eq_true_eq]
  constructor
  · rintro ⟨item, ⟨⟨group, member, found⟩, ofClass⟩, rfl⟩
    obtain ⟨path, looked, records⟩ := mem_of_mapM_eq_ok gathered member
    obtain ⟨value, read, states, shape⟩ := (mem_recordsOf records).mp found
    rw [shape] at ofClass
    exact ⟨path, looked, ofClass, value, read, states⟩
  · rintro ⟨path, looked, ofClass, value, read, states⟩
    obtain ⟨group, member, records⟩ := exists_mem_of_mapM_eq_ok gathered looked
    refine ⟨⟨path.relativeTo reader.root, status, classifyRecord (path.relativeTo reader.root)⟩,
      ⟨⟨group, member, ?_⟩, ofClass⟩, rfl⟩
    exact (mem_recordsOf records).mpr ⟨value, read, states, rfl⟩

/-! ## What a passing class says -/

theorem aggregateTexts_eq (documented : ∀ native ∈ reader.native, native.core.Documented)
    {values : List String} (some_status : values.filter (· ∈ statuses) ≠ []) :
    reader.aggregateTexts values =
      (joinedStatus ((values.filter (· ∈ statuses)).filterMap Status.ofString?)).value := by
  have recognized : (values.filter (· ∈ statuses)).filterMap Status.ofString? ≠ [] := by
    obtain ⟨text, rest, split⟩ := List.exists_cons_of_ne_nil some_status
    have known : text ∈ statuses := by
      have member : text ∈ values.filter (· ∈ statuses) := by simp [split]
      simpa using (List.mem_filter.mp member).2
    rw [split]
    simp only [statuses, List.mem_cons, List.not_mem_nil, or_false] at known
    rcases known with rfl | rfl | rfl <;> exact List.cons_ne_nil _ _
  rw [aggregateTexts, if_neg some_status]
  cases found : reader.native with
  | none => exact congrArg Status.value (aggregateStatus_eq _)
  | some native =>
      exact congrArg Status.value (statusAggregate_eq (documented native found) recognized)

/-- A folded list passes with a pass in it and nothing adverse. -/
theorem aggregateTexts_pass (documented : ∀ native ∈ reader.native, native.core.Documented)
    {values : List String} (pass : reader.aggregateTexts values = "PASS") :
    "PASS" ∈ values ∧ "FAIL" ∉ values ∧ "UNKNOWN" ∉ values := by
  by_cases none : values.filter (· ∈ statuses) = []
  · rw [aggregateTexts, if_pos none] at pass
    exact absurd pass (by decide)
  have stated (status : Status) :
      status ∈ (values.filter (· ∈ statuses)).filterMap Status.ofString? ↔
        status.value ∈ values := by
    rw [recognized_texts, List.mem_filter]
    cases status <;> simp [Status.value, statuses]
  have joined := joinedStatus_eq ((values.filter (· ∈ statuses)).filterMap Status.ofString?)
  have passes : joinedStatus ((values.filter (· ∈ statuses)).filterMap Status.ofString?) =
      .pass :=
    Status.value_injective ((aggregateTexts_eq documented none).symm.trans pass)
  rw [passes] at joined
  split_ifs at joined with failing unknown
  rw [not_or] at unknown
  have noFail : "FAIL" ∉ values := fun member => failing ((stated .fail).mpr member)
  have noUnknown : "UNKNOWN" ∉ values := fun member => unknown.2 ((stated .unknown).mpr member)
  obtain ⟨status, member⟩ := List.exists_mem_of_ne_nil _ unknown.1
  cases status with
  | pass => exact ⟨(stated .pass).mp member, noFail, noUnknown⟩
  | fail => exact absurd member failing
  | unknown => exact absurd member unknown.2

theorem get?_classStatuses {records : List StatusRecord} {claimClass : String}
    (known : claimClass ∈ claimClasses) :
    Dict.get? (reader.classStatuses records) claimClass =
      some (reader.aggregateTexts ((matching records claimClass).map StatusRecord.status)) := by
  have nodup : (Dict.keys (claimClasses.map fun claimClass => (claimClass,
      reader.aggregateTexts ((matching records claimClass).map StatusRecord.status)))).Nodup := by
    rw [Dict.keys, List.map_map]
    exact (List.map_id claimClasses).symm ▸ (by decide : claimClasses.Nodup)
  rw [classStatuses, Dict.get?_update_of_nodup nodup, Dict.get?_nil, Option.or_none]
  exact Dict.get?_eq_some_of_mem_of_nodup nodup (List.mem_map.mpr ⟨claimClass, known, rfl⟩)

/-- A claim class that is reported to pass has a file that was read and states a pass, and
no file of it that was looked at and read states anything adverse. -/
theorem claimStatus_pass (documented : ∀ native ∈ reader.native, native.core.Documented)
    {report : ClaimStatus} (h : reader.claimStatus = .ok report) {claimClass : String}
    (known : claimClass ∈ claimClasses)
    (pass : Dict.get? report.statuses claimClass = some "PASS") :
    ∃ files, reader.visited = .ok files ∧
      (∃ path ∈ files, classifyRecord (path.relativeTo reader.root) = claimClass ∧
        ∃ value, reader.readJson path = .ok (some value) ∧
          StatusAt (· ∉ statusKeys) "PASS" value) ∧
      ∀ path ∈ files, classifyRecord (path.relativeTo reader.root) = claimClass →
        ∀ value, reader.readJson path = .ok (some value) →
          ¬StatusAt (· ∉ statusKeys) "FAIL" value ∧
            ¬StatusAt (· ∉ statusKeys) "UNKNOWN" value := by
  obtain ⟨records, gathered, h⟩ := bind_eq_ok.mp h
  obtain ⟨rights, -, h⟩ := bind_eq_ok.mp h
  obtain rfl := Except.ok.inj h
  obtain ⟨files, visited, -⟩ := bind_eq_ok.mp gathered
  have stated := fun status => @mem_structuredStatuses reader files records claimClass status
    visited gathered
  have other : claimClass ≠ "promotion_disposition" := by
    rintro rfl
    exact absurd known (by decide)
  rw [Dict.get?_set, if_neg other, Dict.get?_set] at pass
  split_ifs at pass with operator
  · exact absurd (Option.some.inj pass) (by decide)
  rw [get?_classStatuses known] at pass
  obtain ⟨passes, noFail, noUnknown⟩ := aggregateTexts_pass documented (Option.some.inj pass)
  refine ⟨files, visited, ?_, ?_⟩
  · obtain ⟨path, looked, ofClass, value, read, states⟩ := (stated "PASS").mp passes
    exact ⟨path, looked, ofClass, value, read, ((mem_extractStatuses value).mp states).2⟩
  · intro path looked ofClass value read
    refine ⟨fun adverse => noFail ((stated "FAIL").mpr ?_),
      fun adverse => noUnknown ((stated "UNKNOWN").mpr ?_)⟩
    · exact ⟨path, looked, ofClass, value, read,
        (mem_extractStatuses value).mpr ⟨by decide, adverse⟩⟩
    · exact ⟨path, looked, ofClass, value, read,
        (mem_extractStatuses value).mpr ⟨by decide, adverse⟩⟩

/-! ## A sample project -/

/-- A passing file beside one whose bytes are cut off. -/
private def evidenceTree : FileTree where
  resolveStrict := .ok
  resolve := id
  present path := path = ["p", "evidence", "a.json"] ∨ path = ["p", "evidence", "b.json"]
  isFile path := path = ["p", "evidence", "a.json"] ∨ path = ["p", "evidence", "b.json"]
  isSymlink _ := false
  rglob _ := []
  read path :=
    if path = ["p", "evidence", "a.json"] then .ok (Text.utf8 "\x7b\"status\":\"PASS\"\x7d")
    else if path = ["p", "evidence", "b.json"] then .ok (Text.utf8 "\x7b\"status\":\"FAIL\"")
    else .error "no such file"

private def evidenceReader (native : Option NativeForgeAdapter) : EvidenceReader where
  tree := evidenceTree
  root := ["p"]
  paths key :=
    .ok (if key = "development_evidence" then
      [["p", "evidence", "a.json"], ["p", "evidence", "b.json"]] else [])
  outputCap := 4096
  loads bytes :=
    .ok (if bytes = Text.utf8 "\x7b\"status\":\"PASS\"\x7d" then
      some (.obj [("status", .str "PASS")]) else none)
  native := native
  rightsStatus := .ok .null

/-- The class passes although one of its files was not read. -/
theorem claimStatus_skips_unread :
    ((evidenceReader none).claimStatus.toOption.bind fun report =>
        Dict.get? report.statuses "mncs_implementation_result") = some "PASS" ∧
      ["p", "evidence", "b.json"] ∈
        (evidenceReader none).jsonFiles ["p", "evidence", "b.json"] ∧
      classifyRecord (Path.relativeTo ["p", "evidence", "b.json"] ["p"]) =
        "mncs_implementation_result" ∧
      (evidenceReader none).readJson ["p", "evidence", "b.json"] = .ok none := by
  decide +kernel

theorem claimStatus_pass_native :
    ∃ report, (evidenceReader (some ProviderService.lastBytesNative)).claimStatus = .ok report ∧
      ∃ files, (evidenceReader (some ProviderService.lastBytesNative)).visited = .ok files ∧
        (∃ path ∈ files, classifyRecord (Path.relativeTo path ["p"]) =
            "mncs_implementation_result" ∧
          ∃ value, (evidenceReader (some ProviderService.lastBytesNative)).readJson path =
              .ok (some value) ∧ StatusAt (· ∉ statusKeys) "PASS" value) ∧
        ∀ path ∈ files, classifyRecord (Path.relativeTo path ["p"]) =
            "mncs_implementation_result" →
          ∀ value, (evidenceReader (some ProviderService.lastBytesNative)).readJson path =
              .ok (some value) →
            ¬StatusAt (· ∉ statusKeys) "FAIL" value ∧
              ¬StatusAt (· ∉ statusKeys) "UNKNOWN" value := by
  have passes : ((evidenceReader (some ProviderService.lastBytesNative)).claimStatus.toOption.bind
      fun report => Dict.get? report.statuses "mncs_implementation_result") = some "PASS" := by
    decide +kernel
  cases reported : (evidenceReader (some ProviderService.lastBytesNative)).claimStatus with
  | error raised => simp [reported, Except.toOption] at passes
  | ok report =>
      rw [reported] at passes
      refine ⟨report, rfl, claimStatus_pass ?_ reported (by decide) passes⟩
      rintro native ⟨⟩
      exact referenceCore_documented

end EvidenceReader

end MncsForge.Application
