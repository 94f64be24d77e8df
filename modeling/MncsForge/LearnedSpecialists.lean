import Mathlib
import MncsForge.Application.WorkflowOutcomes
import MncsForge.Foundation.WhiteSpace

/-!
# Shadows of learned specialists

A provider proposes which source records are relevant, and its answer is kept as a
shadow observation only.  Whatever the provider does, an observation is to come of
it: what does not answer the request is unknown.
-/

namespace MncsForge.LearnedSpecialists

open MncsForge.Foundation MncsForge.Records
open MncsForge.Foundation.Text (strip)
open Application (OutputReader document texts)

def protocol : String := "mnel-recurrent-specialist-provider/0.1"

def maxArtifactBytes : Nat := 256 * 1024

def maxRequestBytes : Nat := 256 * 1024

def maxResponseBytes : Nat := 512 * 1024

def maxQueries : Nat := 128

/-- What the interpreter makes of bytes, objects and numbers. -/
structure Runtime where
  hashing : Hashing
  reader : OutputReader
  /-- The keys of an object in the order of the text it was read from. -/
  keyOrder : Dict String Json → List String
  /-- `int` of a text, nothing where it is a `ValueError`. -/
  parseInt : String → Option Int
  /-- `int` of a float, nothing where it is not finite. -/
  truncate : String → Option Int
  /-- `float` of an integer. -/
  floatText : Int → String
  /-- `<` on floats. -/
  floatBelow : String → String → Bool

/-! ## Checks -/

/-- `_identity` -/
def identity (value : Json) (label : String) : Except ForgeError String :=
  match value with
  | .str text => do
      refuseIf ("sha256:".toList.isPrefixOf text.toList = false ∨ text.length ≠ 71)
        "LearnedSpecialistError" s!"{label} must be a sha256 identity"
      .ok text
  | _ => .error ⟨"LearnedSpecialistError", s!"{label} must be a sha256 identity"⟩

/-- `_nonempty` -/
def nonempty (value : Json) (label : String) : Except ForgeError String :=
  match value with
  | .str text => do
      refuseIf (strip text = "" ∨ 512 < text.length) "LearnedSpecialistError"
        s!"{label} must be a bounded non-empty string"
      .ok text
  | _ => .error ⟨"LearnedSpecialistError", s!"{label} must be a bounded non-empty string"⟩

def forbidden : List String :=
  ["verdict", "evaluator_verdict", "promotion", "promotion_authorized", "permission",
   "credentials", "trust"]

mutual

/-- The first authority field within a value. -/
def authorityField? : Json → Option String
  | .obj fields => authorityMember? fields
  | .arr items => authorityItem? items
  | _ => none

def authorityItem? : List Json → Option String
  | [] => none
  | item :: items => (authorityField? item).or (authorityItem? items)

def authorityMember? : List (String × Json) → Option String
  | [] => none
  | (key, value) :: fields =>
      if key.toLower ∈ forbidden then some key
      else (authorityField? value).or (authorityMember? fields)

end

/-- `_reject_authority` -/
def rejectAuthority (found : Option String) : Except ForgeError Unit :=
  match found with
  | some key =>
      .error ⟨"LearnedSpecialistError", s!"specialist result contains authority field: {key}"⟩
  | none => .ok ()

/-- A Boolean is an integer. -/
def intOf? : Json → Option Int
  | .int value => some value
  | .bool value => some (if value then 1 else 0)
  | _ => none

namespace Runtime

variable (runtime : Runtime)

/-- `_digest` -/
def digest (value : Json) : Except ForgeError String := do
  refuseIf (¬value.WellFormed) "ValueError" "Out of range float values are not JSON compliant"
  .ok ("sha256:" ++ localJsonDigest runtime.hashing value)

/-- The operating envelope of an artifact. -/
def validateEnvelope (envelope : Json) : Except ForgeError Unit :=
  match envelope with
  | .obj envelope => do
      let _ ← ["max_iterations", "maximum_context_observations", "maximum_query_abs"].mapM
        fun key => refuseIf ((intOf? (field envelope key)).getD 0 < 1) "LearnedSpecialistError"
          s!"operating envelope field is invalid: {key}"
      refuseIf
        (8 < (intOf? (field envelope "max_iterations")).getD 0 ∨
          32 < (intOf? (field envelope "maximum_context_observations")).getD 0)
        "LearnedSpecialistError" "operating envelope exceeds Forge safety ceiling"
  | _ => .error ⟨"LearnedSpecialistError", "specialist operating envelope is missing"⟩

/-- `validate_artifact` -/
def validateArtifact (artifact : Dict String Json) (expectedRole : Option String) :
    Except ForgeError (Dict String Json) := do
  rejectAuthority (authorityMember? artifact)
  refuseIf (field artifact "schema" ≠ .str "mnel-recurrent-specialist-artifact/0.1")
    "LearnedSpecialistError" "unsupported specialist artifact schema"
  refuseIf (field artifact "provider_abi" ≠ .str "mnel-specialist-provider-abi/0.1")
    "LearnedSpecialistError" "unsupported specialist provider ABI"
  refuseIf (∃ role ∈ expectedRole, field artifact "target_role" ≠ .str role)
    "LearnedSpecialistError" "specialist artifact role does not match consumer role"
  let _ ← ["provider_id", "target_role", "model_identity", "generation_identity",
    "calibration_identity"].mapM fun key => nonempty (field artifact key) key
  let _ ← ["model_identity", "generation_identity", "calibration_identity",
    "training_dataset_identity", "training_spec_identity", "checkpoint_identity"].mapM
      fun key => identity (field artifact key) key
  let supplied ← identity (field artifact "artifact_identity") "artifact_identity"
  let computed ← runtime.digest (.obj (Dict.erase artifact "artifact_identity"))
  refuseIf (computed ≠ supplied) "LearnedSpecialistError"
    "specialist artifact identity does not match content"
  validateEnvelope (field artifact "operating_envelope")
  .ok artifact

end Runtime

/-! ## Responses -/

/-- What `dict` makes of a value: entries by key, where a key need not be a text. -/
abbrev Mapping := List (Json × Json)

namespace Mapping

def get? (mapping : Mapping) (name : String) : Option Json :=
  (mapping.find? fun entry => entry.1 = .str name).map Prod.snd

/-- `dict.get` -/
def get (mapping : Mapping) (name : String) : Json :=
  (mapping.get? name).getD .null

/-- `mapping[key] = value` -/
def set (mapping : Mapping) (key value : Json) : Mapping :=
  if mapping.any fun entry => Json.sameValue entry.1 key then
    mapping.map fun entry => if Json.sameValue entry.1 key then (entry.1, value) else entry
  else mapping ++ [(key, value)]

def without (mapping : Mapping) (name : String) : Mapping :=
  mapping.filter fun entry => entry.1 ≠ .str name

def ofFields (fields : Dict String Json) : Mapping :=
  fields.map fun entry => (.str entry.1, entry.2)

/-- The entries by name, when every key is a text. -/
def named? (mapping : Mapping) : Option (List (String × Json)) :=
  mapping.mapM fun entry => entry.1.asStr?.map fun name => (name, entry.2)

def authorityField? (mapping : Mapping) : Option String :=
  (mapping.map fun entry =>
    if entry.1.display.toLower ∈ forbidden then some entry.1.display
    else LearnedSpecialists.authorityField? entry.2).reduceOption.head?

end Mapping

/-- `results` is a list of at most `MAX_QUERIES` items. -/
def isBoundedList (value : Json) : Bool :=
  match value with
  | .arr items => items.length ≤ maxQueries
  | _ => false

namespace Runtime

variable (runtime : Runtime)

/-- An item of a list that `dict` is called on: it has to yield a key and a value. -/
def pairOf (item : Json) : Except ForgeError (Json × Json) :=
  match item with
  | .arr [key, value] =>
      if Application.hashable key then .ok (key, value)
      else .error ⟨"TypeError", "unhashable type"⟩
  | .str text =>
      match text.toList with
      | [key, value] => .ok (.str (String.singleton key), .str (String.singleton value))
      | _ => .error ⟨"ValueError", "dictionary update sequence element has the wrong length"⟩
  | .obj fields =>
      match runtime.keyOrder fields with
      | [key, value] => .ok (.str key, .str value)
      | _ => .error ⟨"ValueError", "dictionary update sequence element has the wrong length"⟩
  | .arr _ => .error ⟨"ValueError", "dictionary update sequence element has the wrong length"⟩
  | _ => .error ⟨"TypeError", "cannot convert dictionary update sequence element to a sequence"⟩

/-- `dict(value)` -/
def dictOf (value : Json) : Except ForgeError Mapping :=
  match value with
  | .obj fields => .ok (.ofFields fields)
  | .arr items => do
      let pairs ← items.mapM runtime.pairOf
      .ok (pairs.foldl (fun mapping pair => mapping.set pair.1 pair.2) [])
  | .str text =>
      if text = "" then .ok []
      else .error ⟨"ValueError", "dictionary update sequence element has the wrong length"⟩
  | _ => .error ⟨"TypeError", "object is not iterable"⟩

/-- `_digest` of a mapping; the encoder sorts the keys, which texts and others do not
allow. -/
def digestMapping (mapping : Mapping) : Except ForgeError String :=
  match mapping.named? with
  | some fields => runtime.digest (document fields)
  | none => .error ⟨"TypeError", "'<' not supported between instances"⟩

/-- `_validate_response`, after `dict`. -/
def validateMapping (mapping : Mapping) (artifact : Dict String Json)
    (requestIdentity : String) : Except ForgeError Mapping := do
  rejectAuthority mapping.authorityField?
  refuseIf
    (mapping.get "protocol_version" ≠ .str protocol ∨
      mapping.get "type" ≠ .str "inference_response")
    "LearnedSpecialistError" "unsupported specialist inference response"
  refuseIf (mapping.get "request_id" ≠ .str requestIdentity) "LearnedSpecialistError"
    "specialist response request identity mismatch"
  refuseIf
    (mapping.get "model_identity" ≠ field artifact "model_identity" ∨
      mapping.get "generation_identity" ≠ field artifact "generation_identity")
    "LearnedSpecialistError" "specialist response artifact identity mismatch"
  refuseIf (mapping.get "target_role" ≠ field artifact "target_role")
    "LearnedSpecialistError" "specialist response role mismatch"
  refuseIf (isBoundedList (mapping.get "results") = false) "LearnedSpecialistError"
    "specialist response results are unbounded or malformed"
  let supplied ← identity (mapping.get "response_identity") "response_identity"
  let computed ← runtime.digestMapping (mapping.without "response_identity")
  refuseIf (computed ≠ supplied) "LearnedSpecialistError"
    "specialist response identity does not match content"
  .ok mapping

/-- `_validate_response` -/
def validateResponse (response : Json) (artifact : Dict String Json)
    (requestIdentity : String) : Except ForgeError Mapping := do
  let mapping ← runtime.dictOf response
  runtime.validateMapping mapping artifact requestIdentity

end Runtime

/-! ## Shadows -/

/-- The measurements while the results are gone through. -/
structure Tally where
  sourceIds : List String := []
  selectedIds : List String := []
  baselineIds : List String := []
  abstentions : Nat := 0
  correctAbstentions : Nat := 0
  confidenceValues : List String := []
  iterations : List Int := []
  operations : List Int := []

structure UnknownShadow where
  requestIdentity : String
  artifact : Dict String Json
  sourceIds : List String
  escalationReason : String
  durationNs : Nat
  lineageIdentity : Option String
  /-- The message of the error, when there was one. -/
  error : Option String

structure ObservedShadow where
  requestIdentity : String
  artifact : Dict String Json
  sourceIds : List String
  selectedIds : List String
  confidence : String
  abstentions : Nat
  baselineIds : List String
  relevantRecall : ℚ
  falseOmissions : List String
  abstentionCorrectness : ℚ
  disagreement : Bool
  contextAvailable : Int
  contextSelected : Int
  iterations : List Int
  operations : List Int
  durationNs : Nat
  lineageIdentity : Option String
  responseIdentity : Json
  inputIdentity : String

inductive Shadow where
  | unknown (shadow : UnknownShadow)
  | observed (shadow : ObservedShadow)

def Shadow.status : Shadow → String
  | .unknown _ => "UNKNOWN"
  | .observed _ => "OBSERVED"

/-- `selected_source_record_identities` -/
def Shadow.selected : Shadow → List String
  | .unknown _ => []
  | .observed shadow => shadow.selectedIds

/-- The identity is an item of the list. -/
def lists (value : Json) (identity : String) : Bool :=
  match value with
  | .arr sources => .str identity ∈ sources
  | _ => false

/-- An integer from here on rounds to no finite float. -/
def floatLimit : Int := 2 ^ 1024 - 2 ^ 970

namespace Runtime

variable (runtime : Runtime)

/-- `int(value)` -/
def toInt (value : Json) : Except ForgeError Int :=
  let parsed : Option Int → Except ForgeError Int
    | some number => .ok number
    | none => .error ⟨"ValueError", "invalid literal for int()"⟩
  match value with
  | .int number => .ok number
  | .bool flag => .ok (if flag then 1 else 0)
  | .float text => parsed (runtime.truncate text)
  | .str text => parsed (runtime.parseInt text)
  | _ => .error ⟨"TypeError", "int() argument must be a string or a number"⟩

/-- `float(confidence)`, when the confidence is a number. -/
def confidence (value : Json) : Except ForgeError (Option String) :=
  match value with
  | .int number => do
      refuseIf (floatLimit ≤ |number|) "OverflowError" "int too large to convert to float"
      .ok (some (runtime.floatText number))
  | .bool flag => .ok (some (runtime.floatText (if flag then 1 else 0)))
  | .float text => .ok (some text)
  | _ => .ok none

/-- One turn of the loop over the records and the results. -/
def tally (counted : Tally) (record : Dict String Json) (result : Json) :
    Except ForgeError Tally := do
  let identity ← nonempty (field record "record_identity") "record_identity"
  match result with
  | .obj result => do
      refuseIf (lists (field result "source_observation_identities") identity = false)
        "LearnedSpecialistError" "specialist result lost source record identity"
      let abstained := (field result "abstained").truthy
      let relevant := !abstained && field result "decision" = .str "relevant"
      let confidence ← runtime.confidence (field result "confidence")
      let iterations ← runtime.toInt ((Dict.get? result "reasoning_iterations").getD (.int 0))
      let operations ← runtime.toInt ((Dict.get? result "operations").getD (.int 0))
      .ok
        { sourceIds := counted.sourceIds ++ [identity]
          selectedIds := counted.selectedIds ++ if relevant then [identity] else []
          baselineIds := counted.baselineIds ++
            if (field record "baseline_relevant").truthy then [identity] else []
          abstentions := counted.abstentions + if abstained then 1 else 0
          correctAbstentions := counted.correctAbstentions +
            if abstained && (field record "novel").truthy then 1 else 0
          confidenceValues := counted.confidenceValues ++ confidence.toList
          iterations := counted.iterations ++ [iterations]
          operations := counted.operations ++ [operations] }
  | _ => .error ⟨"LearnedSpecialistError", "specialist result must be an object"⟩

def tallyAll (counted : Tally) :
    List (Dict String Json) → List Json → Except ForgeError Tally
  | record :: records, result :: results => do
      let counted ← runtime.tally counted record result
      tallyAll counted records results
  | _, _ => .ok counted

/-- The source bytes of the records, added up. -/
def sourceBytes (records : List (Dict String Json)) : Except ForgeError Int := do
  let sizes ← records.mapM fun record =>
    runtime.toInt ((Dict.get? record "source_bytes").getD (.int 0))
  .ok sizes.sum

/-- `min`, or nought of nothing. -/
def leastConfidence : List String → String
  | [] => "0.0"
  | first :: rest =>
      rest.foldl (fun least value => if runtime.floatBelow value least then value else least) first

/-- `build_evidence_relevance_shadow`, after its checks. -/
def observe (artifact : Dict String Json) (requestIdentity : String) (response : Mapping)
    (results : List Json) (sourceRecords : List (Dict String Json)) (durationNs : Nat)
    (lineageIdentity : Option String) : Except ForgeError ObservedShadow := do
  refuseIf (results.length ≠ sourceRecords.length) "LearnedSpecialistError"
    "specialist result count does not match source records"
  let counted ← runtime.tallyAll {} sourceRecords results
  let baselineSet := counted.baselineIds.toFinset
  let selectedSet := counted.selectedIds.toFinset
  let contextAvailable ← runtime.sourceBytes sourceRecords
  let contextSelected ← runtime.sourceBytes
    (sourceRecords.filter fun record =>
      ∃ name ∈ counted.selectedIds, field record "record_identity" = .str name)
  let expectedAbstentions := sourceRecords.countP fun record => (field record "novel").truthy
  let inputIdentity ← runtime.digest
    (document [("source_record_identities", texts counted.sourceIds)])
  .ok
    { requestIdentity := requestIdentity
      artifact := artifact
      sourceIds := counted.sourceIds
      selectedIds := counted.selectedIds
      confidence := runtime.leastConfidence counted.confidenceValues
      abstentions := counted.abstentions
      baselineIds := counted.baselineIds
      relevantRecall :=
        if baselineSet = ∅ then 1 else (selectedSet ∩ baselineSet).card / baselineSet.card
      falseOmissions := Dict.sortedSet (counted.baselineIds.filter (· ∉ counted.selectedIds))
      abstentionCorrectness :=
        if expectedAbstentions = 0 then 1 else counted.correctAbstentions / expectedAbstentions
      disagreement := selectedSet ≠ baselineSet ∨ 0 < counted.abstentions
      contextAvailable := contextAvailable
      contextSelected := contextSelected
      iterations := counted.iterations
      operations := counted.operations
      durationNs := durationNs
      lineageIdentity := lineageIdentity
      responseIdentity := response.get "response_identity"
      inputIdentity := inputIdentity }

/-- `build_evidence_relevance_shadow` -/
def buildEvidenceRelevanceShadow (artifact : Dict String Json) (requestIdentity : String)
    (response : Mapping) (sourceRecords : List (Dict String Json)) (durationNs : Nat)
    (lineageIdentity : Option String) : Except ForgeError ObservedShadow := do
  let artifact ← runtime.validateArtifact artifact (some "forge.evidence-relevance")
  let response ← runtime.validateMapping response artifact requestIdentity
  match response.get "results" with
  | .arr results =>
      runtime.observe artifact requestIdentity response results sourceRecords durationNs
        lineageIdentity
  | _ => .error ⟨"TypeError", "object has no len()"⟩

end Runtime

/-! ## Invocation -/

structure Invocation where
  command : List String
  artifact : Dict String Json
  sourceRecords : List (Dict String Json)
  contextObservations : List Json
  timeoutSeconds : ℚ
  outputBytes : Nat
  lineageIdentity : Option String

/-- What `run_provider` answers. -/
inductive Completion where
  | refused (error : ForgeError)
  | completed (returncode : Int) (stdout : List UInt8)

/-- The query of a source record. -/
def query (record : Dict String Json) : Except ForgeError Json := do
  let identity ← nonempty (field record "record_identity") "record_identity"
  match field record "features" with
  | .arr features => do
      refuseIf (features.length ≠ 4 ∨ ¬∀ lane ∈ features, (intOf? lane).isSome = true)
        "LearnedSpecialistError" "source record features are not a four-lane bounded vector"
      .ok (document [("query_id", .str identity), ("source_record_identity", .str identity),
        ("features", .arr features)])
  | _ => .error ⟨"LearnedSpecialistError",
      "source record features are not a four-lane bounded vector"⟩

/-- `_unknown_shadow` -/
def unknownShadow (requestIdentity : String) (artifact : Dict String Json)
    (sourceRecords : List (Dict String Json)) (reason : String) (durationNs : Nat)
    (lineageIdentity : Option String) (error : Option ForgeError) : Shadow :=
  .unknown
    { requestIdentity := requestIdentity
      artifact := artifact
      sourceIds := (sourceRecords.map (field · "record_identity")).filterMap fun identity =>
        if identity.truthy then some identity.display else none
      escalationReason := reason
      durationNs := durationNs
      lineageIdentity := lineageIdentity
      error := error.map fun error => String.ofList (error.message.toList.take 256) }

/-- The request, as it is written to the provider. -/
def encodeRequest (artifact : Dict String Json) (queries : List Json) (call : Invocation)
    (requestIdentity : String) : Except ForgeError (List UInt8) := do
  let request := document
    [("protocol_version", .str protocol), ("type", .str "infer"),
     ("request_id", .str requestIdentity), ("artifact", .obj artifact),
     ("queries", .arr queries), ("context_observations", .arr call.contextObservations),
     ("lineage_identity", .ofText call.lineageIdentity)]
  refuseIf (¬request.WellFormed) "ValueError"
    "Out of range float values are not JSON compliant"
  refuseIf (maxRequestBytes < request.canonicalBytes.length) "LearnedSpecialistError"
    "specialist request exceeds Forge input ceiling"
  .ok request.canonicalBytes

namespace Runtime

variable (runtime : Runtime)

/-- The checks of `invoke_shadow_provider`, with the artifact and the queries. -/
def checkInvocation (call : Invocation) :
    Except ForgeError (Dict String Json × List Json) := do
  refuseIf (call.command = [] ∨ "" ∈ call.command) "LearnedSpecialistError"
    "provider command must be a non-empty argv"
  refuseIf
    (¬(1 / 10 ≤ call.timeoutSeconds ∧ call.timeoutSeconds ≤ 30) ∨
      ¬(1024 ≤ call.outputBytes ∧ call.outputBytes ≤ maxResponseBytes))
    "LearnedSpecialistError" "provider invocation limits are outside the Forge envelope"
  let artifact ← runtime.validateArtifact call.artifact (some "forge.evidence-relevance")
  refuseIf (maxArtifactBytes < (Json.obj artifact).canonicalBytes.length)
    "LearnedSpecialistError" "specialist artifact exceeds Forge input ceiling"
  refuseIf (maxQueries < call.sourceRecords.length) "LearnedSpecialistError"
    "source record batch exceeds Forge query ceiling"
  let queries ← call.sourceRecords.mapM query
  .ok (artifact, queries)

/-- `request_id` -/
def requestIdentity (artifact : Dict String Json) (queries : List Json)
    (lineageIdentity : Option String) : Except ForgeError String :=
  runtime.digest (document
    [("artifact", field artifact "artifact_identity"), ("queries", .arr queries),
     ("lineage", .ofText lineageIdentity)])

/-- `json.loads` of the output.  Only a `JSONDecodeError` is caught. -/
def readResponse (stdout : List UInt8) : Except ForgeError Json :=
  match runtime.reader.decodeDetected stdout with
  | none => .error ⟨"UnicodeDecodeError", "codec can't decode bytes"⟩
  | some text =>
      match runtime.reader.loads text with
      | .ok value => .ok value
      | .error .malformed =>
          .error ⟨"JSONDecodeError", runtime.reader.interpreter.complaint text⟩
      | .error .tooManyDigits =>
          .error ⟨"ValueError", "Exceeds the limit (4300 digits) for integer string conversion"⟩
      | .error .tooDeep => .error ⟨"RecursionError", "maximum recursion depth exceeded"⟩

/-- What is made of a response, or of the error that it was refused with. -/
def concludeResponse (artifact : Dict String Json) (requestIdentity : String)
    (call : Invocation) (durationNs : Nat) (checked : Except ForgeError Mapping) :
    Except ForgeError Shadow :=
  match checked with
  | .error error =>
      if error.code = "JSONDecodeError" ∨ error.code = "LearnedSpecialistError" then
        .ok (unknownShadow requestIdentity artifact call.sourceRecords
          "provider-response-invalid-or-stale" durationNs call.lineageIdentity (some error))
      else .error error
  | .ok response => do
      let shadow ← runtime.buildEvidenceRelevanceShadow artifact requestIdentity response
        call.sourceRecords durationNs call.lineageIdentity
      .ok (.observed shadow)

/-- What is made of what the provider did. -/
def concludeShadow (artifact : Dict String Json) (requestIdentity : String)
    (call : Invocation) (completion : Completion) (durationNs : Nat) :
    Except ForgeError Shadow :=
  match completion with
  | .refused error =>
      .ok (unknownShadow requestIdentity artifact call.sourceRecords
        "provider-invocation-failed-or-timed-out" durationNs call.lineageIdentity (some error))
  | .completed returncode stdout =>
      if returncode ≠ 0 then
        .ok (unknownShadow requestIdentity artifact call.sourceRecords
          "provider-exit-or-output-limit" durationNs call.lineageIdentity none)
      else
        runtime.concludeResponse artifact requestIdentity call durationNs (do
          let response ← runtime.readResponse stdout
          runtime.validateResponse response artifact requestIdentity)

/-- `invoke_shadow_provider`, with what the provider does. -/
def invokeShadowProvider (call : Invocation) (completion : Completion) (durationNs : Nat) :
    Except ForgeError Shadow := do
  let checked ← runtime.checkInvocation call
  let requestIdentity ← runtime.requestIdentity checked.1 checked.2 call.lineageIdentity
  let _ ← encodeRequest checked.1 checked.2 call requestIdentity
  runtime.concludeShadow checked.1 requestIdentity call completion durationNs

end Runtime

/-! ## Answers to a request -/

section Answers

variable (runtime : Runtime)

/-- The mapping states that it answers the request. -/
structure Stated (artifact : Dict String Json) (requestIdentity : String) (mapping : Mapping) :
    Prop where
  unclaiming : mapping.authorityField? = none
  version : mapping.get "protocol_version" = .str protocol
  type : mapping.get "type" = .str "inference_response"
  request : mapping.get "request_id" = .str requestIdentity
  model : mapping.get "model_identity" = field artifact "model_identity"
  generation : mapping.get "generation_identity" = field artifact "generation_identity"
  role : mapping.get "target_role" = field artifact "target_role"
  results : ∃ results, mapping.get "results" = .arr results ∧ results.length ≤ maxQueries
  identity : ∃ text, mapping.get "response_identity" = .str text ∧
    "sha256:".toList <+: text.toList ∧ text.length = 71

/-- The rest of the mapping can be encoded. -/
def Encodable (mapping : Mapping) : Prop :=
  ∃ fields, (mapping.without "response_identity").named? = some fields ∧
    (document fields).WellFormed

/-- The response identity is that of the rest. -/
def Sealed (mapping : Mapping) : Prop :=
  ∃ fields, (mapping.without "response_identity").named? = some fields ∧
    (document fields).WellFormed ∧
    mapping.get "response_identity" =
      .str ("sha256:" ++ localJsonDigest runtime.hashing (document fields))

/-- A value that `int` takes. -/
def Countable (value : Json) : Prop :=
  match value with
  | .int _ | .bool _ => True
  | .float text => (runtime.truncate text).isSome = true
  | .str text => (runtime.parseInt text).isSome = true
  | _ => False

/-- A result that keeps the identity of its source record and whose measurements can be
read. -/
structure AnswersRecord (record : Dict String Json) (result : Dict String Json) : Prop where
  source : ∃ identity sources, field record "record_identity" = .str identity ∧
    field result "source_observation_identities" = .arr sources ∧ .str identity ∈ sources
  confidence : ∀ number, field result "confidence" = .int number → |number| < floatLimit
  iterations : Countable runtime ((Dict.get? result "reasoning_iterations").getD (.int 0))
  operations : Countable runtime ((Dict.get? result "operations").getD (.int 0))

/-- One result for each source record, in order. -/
def AnswersAll (records : List (Dict String Json)) (results : List Json) : Prop :=
  List.Forall₂ (fun record result => ∃ fields, result = .obj fields ∧
    AnswersRecord runtime record fields) records results

end Answers

section Responses

variable {runtime : Runtime} {artifact : Dict String Json} {requestIdentity : String}
  {mapping : Mapping}

theorem rejectAuthority_eq_ok {found : Option String} {u : Unit} :
    rejectAuthority found = .ok u ↔ found = none := by
  cases found <;> simp [rejectAuthority]

theorem identity_eq_ok {value : Json} {label text : String} :
    identity value label = .ok text ↔
      value = .str text ∧ "sha256:".toList <+: text.toList ∧ text.length = 71 := by
  cases value with
  | str other =>
      simp only [identity, refuseIf_bind_eq_ok, Except.ok.injEq, not_or, Bool.not_eq_false,
        not_not, List.isPrefixOf_iff_prefix, Json.str.injEq]
      constructor
      · rintro ⟨⟨hashed, long⟩, rfl⟩
        exact ⟨rfl, hashed, long⟩
      · rintro ⟨rfl, hashed, long⟩
        exact ⟨⟨hashed, long⟩, rfl⟩
  | _ => simp [identity]

theorem isBoundedList_iff {value : Json} :
    isBoundedList value = true ↔ ∃ items, value = .arr items ∧ items.length ≤ maxQueries := by
  cases value <;> simp [isBoundedList]

theorem digest_eq_ok {value : Json} {text : String} :
    runtime.digest value = .ok text ↔
      value.WellFormed ∧ "sha256:" ++ localJsonDigest runtime.hashing value = text := by
  rw [Runtime.digest, refuseIf_bind_eq_ok, not_not, Except.ok.injEq]

theorem digestMapping_eq_ok {text : String} :
    runtime.digestMapping mapping = .ok text ↔
      ∃ fields, mapping.named? = some fields ∧ (document fields).WellFormed ∧
        "sha256:" ++ localJsonDigest runtime.hashing (document fields) = text := by
  unfold Runtime.digestMapping
  cases mapping.named? with
  | none => simp
  | some fields => simp [digest_eq_ok]

/-- A mapping is taken for a response when it states the answer and seals it. -/
theorem validateMapping_eq_ok {validated : Mapping} :
    runtime.validateMapping mapping artifact requestIdentity = .ok validated ↔
      Stated artifact requestIdentity mapping ∧ Sealed runtime mapping ∧ mapping = validated := by
  simp only [Runtime.validateMapping, bind_eq_ok, rejectAuthority_eq_ok, refuseIf_eq_ok,
    identity_eq_ok, digestMapping_eq_ok, Except.ok.injEq, not_or, not_not, Bool.not_eq_false,
    isBoundedList_iff]
  constructor
  · rintro ⟨_, unclaiming, _, ⟨version, type⟩, _, request, _, ⟨model, generation⟩, _, role, _,
      results, supplied, ⟨hsupplied, hashed, long⟩, computed, ⟨fields, named, wellFormed, rfl⟩, _,
      rfl, same⟩
    exact ⟨⟨unclaiming, version, type, request, model, generation, role, results,
      _, hsupplied, hashed, long⟩, ⟨fields, named, wellFormed, hsupplied⟩, same⟩
  · rintro ⟨stated, ⟨fields, named, wellFormed, sealed⟩, same⟩
    obtain ⟨text, htext, hashed, long⟩ := stated.identity
    obtain rfl := Json.str.inj (htext.symm.trans sealed)
    exact ⟨(), stated.unclaiming, (), ⟨stated.version, stated.type⟩, (), stated.request, (),
      ⟨stated.model, stated.generation⟩, (), stated.role, (), stated.results, _,
      ⟨htext, hashed, long⟩, _, ⟨fields, named, wellFormed, rfl⟩, (), rfl, same⟩

/-- The errors that become unknown shadows. -/
def Caught (e : ForgeError) : Prop :=
  e.code = "JSONDecodeError" ∨ e.code = "LearnedSpecialistError"

instance (e : ForgeError) : Decidable (Caught e) := inferInstanceAs (Decidable (_ ∨ _))

theorem encodable_iff : Encodable mapping ↔
    ∃ text, runtime.digestMapping (mapping.without "response_identity") = .ok text := by
  simp only [Encodable, digestMapping_eq_ok]
  constructor
  · rintro ⟨fields, named, wellFormed⟩
    exact ⟨_, fields, named, wellFormed, rfl⟩
  · rintro ⟨_, fields, named, wellFormed, -⟩
    exact ⟨fields, named, wellFormed⟩

theorem digestMapping_uncaught :
    RaisesOnly (fun e => ¬Caught e) (runtime.digestMapping mapping) := by
  unfold Runtime.digestMapping Runtime.digest
  cases mapping.named? with
  | none => exact raisesOnly_error.mpr (by decide)
  | some fields =>
      refine RaisesOnly.bind (raisesOnly_refuseIf.mpr fun _ => ?_) fun _ _ => raisesOnly_ok
      decide

theorem identity_caught {value : Json} {label : String} :
    RaisesOnly Caught (identity value label) := by
  unfold identity
  cases value with
  | str text =>
      exact RaisesOnly.bind (raisesOnly_refuseIf.mpr fun _ => Or.inr rfl) fun _ _ => raisesOnly_ok
  | _ => exact raisesOnly_error.mpr (Or.inr rfl)

/-- What is raised on the way to the digest is caught; what the digest raises is not. -/
theorem validateMapping_caught :
    RaisesOnly Caught (runtime.validateMapping mapping artifact requestIdentity) ↔
      (Stated artifact requestIdentity mapping → Encodable mapping) := by
  constructor
  · intro raises stated
    obtain ⟨text, htext, hashed, long⟩ := stated.identity
    cases computed : runtime.digestMapping (mapping.without "response_identity") with
    | ok text => exact encodable_iff.mpr ⟨text, computed⟩
    | error e =>
        have run : runtime.validateMapping mapping artifact requestIdentity = .error e := by
          have supplied : identity (mapping.get "response_identity") "response_identity" =
              .ok text := identity_eq_ok.mpr ⟨htext, hashed, long⟩
          simp [Runtime.validateMapping, rejectAuthority, stated.unclaiming, stated.version,
            stated.type, stated.request, stated.model, stated.generation, stated.role,
            isBoundedList_iff.mpr stated.results, supplied, computed, refuseIf, bind, Except.bind]
        exact absurd (raises e run) (digestMapping_uncaught e computed)
  · intro encodable
    unfold Runtime.validateMapping
    refine RaisesOnly.bind ?_ fun _ unclaiming => ?_
    · cases mapping.authorityField? with
      | none => exact raisesOnly_ok
      | some key => exact raisesOnly_error.mpr (Or.inr rfl)
    refine RaisesOnly.bind (raisesOnly_refuseIf.mpr fun _ => Or.inr rfl) fun _ shape => ?_
    refine RaisesOnly.bind (raisesOnly_refuseIf.mpr fun _ => Or.inr rfl) fun _ request => ?_
    refine RaisesOnly.bind (raisesOnly_refuseIf.mpr fun _ => Or.inr rfl) fun _ model => ?_
    refine RaisesOnly.bind (raisesOnly_refuseIf.mpr fun _ => Or.inr rfl) fun _ role => ?_
    refine RaisesOnly.bind (raisesOnly_refuseIf.mpr fun _ => Or.inr rfl) fun _ results => ?_
    refine RaisesOnly.bind identity_caught fun supplied identified => ?_
    have stated : Stated artifact requestIdentity mapping := by
      simp only [rejectAuthority_eq_ok, refuseIf_eq_ok, not_or, not_not, Bool.not_eq_false,
        isBoundedList_iff] at unclaiming shape request model role results
      exact ⟨unclaiming, shape.1, shape.2, request, model.1, model.2, role, results,
        supplied, identity_eq_ok.mp identified⟩
    obtain ⟨text, computed⟩ := (@encodable_iff runtime mapping).mp (encodable stated)
    rw [computed]
    refine RaisesOnly.bind raisesOnly_ok fun _ _ => ?_
    exact RaisesOnly.bind (raisesOnly_refuseIf.mpr fun _ => Or.inr rfl) fun _ _ => raisesOnly_ok

theorem validateArtifact_eq {role : Option String} {validated : Dict String Json}
    (h : runtime.validateArtifact artifact role = .ok validated) : validated = artifact := by
  simp only [Runtime.validateArtifact, bind_eq_ok, Except.ok.injEq] at h
  obtain ⟨_, _, _, _, _, _, _, _, _, _, _, _, _, _, _, _, _, _, _, _, rfl⟩ := h
  rfl

end Responses

/-! ## Observations -/

section Observations

variable {runtime : Runtime} {record : Dict String Json} {records : List (Dict String Json)}
  {result value : Json} {results : List Json}

theorem toInt_returns : (∃ number, runtime.toInt value = .ok number) ↔
    Countable runtime value := by
  cases value with
  | float text => cases h : runtime.truncate text <;> simp [Runtime.toInt, Countable, h]
  | str text => cases h : runtime.parseInt text <;> simp [Runtime.toInt, Countable, h]
  | _ => simp [Runtime.toInt, Countable]

theorem confidence_returns : (∃ found, runtime.confidence value = .ok found) ↔
    ∀ number, value = .int number → |number| < floatLimit := by
  cases value with
  | int number =>
      simp only [Runtime.confidence, refuseIf_bind_eq_ok, not_le, Except.ok.injEq, exists_and_left,
        exists_eq', and_true, Json.int.injEq, forall_eq']
  | _ => simp [Runtime.confidence]

theorem lists_iff {identity : String} : lists value identity = true ↔
    ∃ sources, value = .arr sources ∧ .str identity ∈ sources := by
  cases value <;> simp [lists]

theorem nonempty_eq_ok {label text : String} (h : nonempty value label = .ok text) :
    value = .str text := by
  cases value with
  | str other =>
      rw [nonempty, refuseIf_bind_eq_ok] at h
      rw [Except.ok.inj h.2]
  | _ => cases h

/-- A turn of the loop returns when the result answers the record. -/
theorem tally_returns {identity : String} (counted : Tally)
    (named : nonempty (field record "record_identity") "record_identity" = .ok identity) :
    (∃ after, runtime.tally counted record result = .ok after) ↔
      ∃ fields, result = .obj fields ∧ AnswersRecord runtime record fields := by
  cases result with
  | obj fields =>
      constructor
      · rintro ⟨after, h⟩
        obtain ⟨_, same, h⟩ := bind_eq_ok.mp h
        obtain rfl := Except.ok.inj (named.symm.trans same)
        rw [refuseIf_bind_eq_ok, Bool.not_eq_false, lists_iff] at h
        obtain ⟨⟨sources, hsources, member⟩, h⟩ := h
        obtain ⟨_, hconfidence, h⟩ := bind_eq_ok.mp h
        obtain ⟨_, hiterations, h⟩ := bind_eq_ok.mp h
        obtain ⟨_, hoperations, _⟩ := bind_eq_ok.mp h
        exact ⟨fields, rfl, ⟨identity, sources, nonempty_eq_ok named, hsources, member⟩,
          confidence_returns.mp ⟨_, hconfidence⟩, toInt_returns.mp ⟨_, hiterations⟩,
          toInt_returns.mp ⟨_, hoperations⟩⟩
      · rintro ⟨_, same, answers⟩
        obtain rfl := Json.obj.inj same
        obtain ⟨_, sources, hidentity, hsources, member⟩ := answers.source
        obtain rfl := Json.str.inj ((nonempty_eq_ok named).symm.trans hidentity)
        obtain ⟨confidence, hconfidence⟩ := confidence_returns.mpr answers.confidence
        obtain ⟨iterations, hiterations⟩ := toInt_returns.mpr answers.iterations
        obtain ⟨operations, hoperations⟩ := toInt_returns.mpr answers.operations
        refine ⟨_, bind_eq_ok.mpr ⟨_, named, refuseIf_bind_eq_ok.mpr ⟨?_, bind_eq_ok.mpr
          ⟨_, hconfidence, bind_eq_ok.mpr ⟨_, hiterations, bind_eq_ok.mpr
            ⟨_, hoperations, rfl⟩⟩⟩⟩⟩⟩
        rw [Bool.not_eq_false, lists_iff]
        exact ⟨sources, hsources, member⟩
  | _ => simp [Runtime.tally, named, bind, Except.bind]

theorem tallyAll_returns (named : ∀ record ∈ records, ∃ identity,
      nonempty (field record "record_identity") "record_identity" = .ok identity)
    (counted : Tally) (same : results.length = records.length) :
    (∃ after, runtime.tallyAll counted records results = .ok after) ↔
      AnswersAll runtime records results := by
  induction records generalizing counted results with
  | nil =>
      obtain rfl := List.eq_nil_of_length_eq_zero same
      exact iff_of_true ⟨counted, rfl⟩ List.Forall₂.nil
  | cons record records ih =>
      cases results with
      | nil => cases same
      | cons result results =>
          obtain ⟨identity, hidentity⟩ := named record List.mem_cons_self
          have later := fun counted => @ih results
            (fun other member => named other (List.mem_cons_of_mem _ member)) counted
            (Nat.succ.inj same)
          rw [AnswersAll, List.forall₂_cons, ← tally_returns counted hidentity]
          simp only [Runtime.tallyAll, bind_eq_ok]
          constructor
          · rintro ⟨last, next, turn, rest⟩
            exact ⟨⟨next, turn⟩, (later next).mp ⟨last, rest⟩⟩
          · rintro ⟨⟨next, turn⟩, rest⟩
            obtain ⟨last, hlast⟩ := (later next).mpr rest
            exact ⟨last, next, turn, hlast⟩

/-- The source bytes of a record can be counted. -/
def Sized (runtime : Runtime) (record : Dict String Json) : Prop :=
  Countable runtime ((Dict.get? record "source_bytes").getD (.int 0))

theorem sourceBytes_returns :
    (∃ total, runtime.sourceBytes records = .ok total) ↔
      ∀ record ∈ records, Sized runtime record := by
  simp only [Sized, ← toInt_returns, ← exists_mapM_eq_ok, Runtime.sourceBytes, bind_eq_ok,
    Except.ok.injEq]
  constructor
  · rintro ⟨_, sizes, hsizes, _⟩
    exact ⟨sizes, hsizes⟩
  · rintro ⟨sizes, hsizes⟩
    exact ⟨_, sizes, hsizes, rfl⟩

theorem document_texts_wellFormed (names : List String) :
    (document [("source_record_identities", texts names)]).WellFormed :=
  ⟨List.pairwise_singleton _ _, (Application.texts_plain names).1, trivial⟩

/-- An observation is made when the results answer the records one by one. -/
theorem observe_returns {artifact : Dict String Json} {requestIdentity : String}
    {response : Mapping} {durationNs : Nat} {lineageIdentity : Option String}
    (named : ∀ record ∈ records, ∃ identity,
      nonempty (field record "record_identity") "record_identity" = .ok identity) :
    (∃ shadow, runtime.observe artifact requestIdentity response results records durationNs
        lineageIdentity = .ok shadow) ↔
      AnswersAll runtime records results ∧ ∀ record ∈ records, Sized runtime record := by
  constructor
  · rintro ⟨shadow, h⟩
    rw [Runtime.observe, refuseIf_bind_eq_ok, not_not] at h
    obtain ⟨same, h⟩ := h
    obtain ⟨counted, hcounted, h⟩ := bind_eq_ok.mp h
    obtain ⟨total, htotal, _⟩ := bind_eq_ok.mp h
    exact ⟨(tallyAll_returns named {} same).mp ⟨counted, hcounted⟩,
      sourceBytes_returns.mp ⟨total, htotal⟩⟩
  · rintro ⟨answers, sized⟩
    have same : results.length = records.length := answers.length_eq.symm
    obtain ⟨counted, hcounted⟩ := (tallyAll_returns named {} same).mpr answers
    obtain ⟨total, htotal⟩ := sourceBytes_returns.mpr sized
    obtain ⟨selected, hselected⟩ := (@sourceBytes_returns runtime
      (records.filter fun record => ∃ name ∈ counted.selectedIds,
        field record "record_identity" = .str name)).mpr
      fun record member => sized record (List.mem_of_mem_filter member)
    exact ⟨_, refuseIf_bind_eq_ok.mpr ⟨not_not.mpr same, bind_eq_ok.mpr ⟨_, hcounted,
      bind_eq_ok.mpr ⟨_, htotal, bind_eq_ok.mpr ⟨_, hselected, bind_eq_ok.mpr
        ⟨_, digest_eq_ok.mpr ⟨document_texts_wellFormed _, rfl⟩, rfl⟩⟩⟩⟩⟩⟩

end Observations

/-! ## What the provider does -/

/-- The provider answered: one object that states and seals the answer, with one result
for each source record. -/
def Exchanged (runtime : Runtime) (artifact : Dict String Json) (requestIdentity : String)
    (records : List (Dict String Json)) (completion : Completion) : Prop :=
  ∃ stdout text response results, completion = .completed 0 stdout ∧
    runtime.reader.decodeDetected stdout = some text ∧
    runtime.reader.loads text = .ok (.obj response) ∧
    Stated artifact requestIdentity (.ofFields response) ∧
    Sealed runtime (.ofFields response) ∧
    (Mapping.ofFields response).get "results" = .arr results ∧
    AnswersAll runtime records results

/-- A shadow as it is to be: an observation only of an answer, unknown without one. -/
def Faithful (answered : Prop) (shadow : Shadow) : Prop :=
  (shadow.status = "OBSERVED" → answered) ∧
    (¬answered → shadow.status = "UNKNOWN" ∧ shadow.selected = [])

/-- The call is answered with a shadow: an observation only of an exchange, and an
unknown one without selected records of anything else. -/
def Shadowed (runtime : Runtime) (call : Invocation) (artifact : Dict String Json)
    (requestIdentity : String) (completion : Completion) (durationNs : Nat) : Prop :=
  ∃ shadow, runtime.invokeShadowProvider call completion durationNs = .ok shadow ∧
    Faithful (Exchanged runtime artifact requestIdentity call.sourceRecords completion) shadow

/-- A value that is written as the response of a request and does no harm. -/
def Handled (runtime : Runtime) (artifact : Dict String Json) (requestIdentity : String)
    (records : List (Dict String Json)) (value : Json) : Prop :=
  ∃ mapping, runtime.dictOf value = .ok mapping ∧
    (Stated artifact requestIdentity mapping → Encodable mapping ∧
      (Sealed runtime mapping → (∃ response, value = .obj response) ∧
        (∀ results, mapping.get "results" = .arr results → AnswersAll runtime records results) ∧
        ∀ record ∈ records, Sized runtime record))

/-- The output can be decoded and read, and what it holds does no harm. -/
def Contained (runtime : Runtime) (artifact : Dict String Json) (requestIdentity : String)
    (records : List (Dict String Json)) (completion : Completion) : Prop :=
  ∀ stdout, completion = .completed 0 stdout →
    ∃ text, runtime.reader.decodeDetected stdout = some text ∧
      ¬runtime.reader.interpreter.Exceeds text ∧
      ∀ value, runtime.reader.loads text = .ok value →
        Handled runtime artifact requestIdentity records value


section Conclusion

variable {runtime : Runtime} {artifact : Dict String Json} {requestIdentity : String}
  {call : Invocation} {durationNs : Nat} {value : Json}

/-- What `dict` raises is not caught. -/
theorem dictOf_uncaught : RaisesOnly (fun e => ¬Caught e) (runtime.dictOf value) := by
  have pair : ∀ item, RaisesOnly (fun e => ¬Caught e) (runtime.pairOf item) := by
    intro item
    unfold Runtime.pairOf
    split
    · split_ifs
      · exact raisesOnly_ok
      · exact raisesOnly_error.mpr (by decide)
    · split
      · exact raisesOnly_ok
      · exact raisesOnly_error.mpr (by decide)
    · split
      · exact raisesOnly_ok
      · exact raisesOnly_error.mpr (by decide)
    · exact raisesOnly_error.mpr (by decide)
    · exact raisesOnly_error.mpr (by decide)
  cases value with
  | obj fields => exact raisesOnly_ok
  | arr items =>
      exact RaisesOnly.bind (RaisesOnly.mapM fun item _ => pair item) fun _ _ => raisesOnly_ok
  | str text =>
      rw [Runtime.dictOf]
      split_ifs
      · exact raisesOnly_ok
      · exact raisesOnly_error.mpr (by decide)
  | _ => exact raisesOnly_error.mpr (by decide)

/-- The value answers the request with one result for each source record. -/
def Answers (runtime : Runtime) (artifact : Dict String Json) (requestIdentity : String)
    (records : List (Dict String Json)) (value : Json) : Prop :=
  ∃ response results, value = .obj response ∧
    Stated artifact requestIdentity (.ofFields response) ∧
    Sealed runtime (.ofFields response) ∧
    (Mapping.ofFields response).get "results" = .arr results ∧
    AnswersAll runtime records results

theorem exchanged_iff {stdout : List UInt8} {text : String}
    (decoded : runtime.reader.decodeDetected stdout = some text)
    (loaded : runtime.reader.loads text = .ok value) {records : List (Dict String Json)} :
    Exchanged runtime artifact requestIdentity records (.completed 0 stdout) ↔
      Answers runtime artifact requestIdentity records value := by
  constructor
  · rintro ⟨_, _, response, results, same, decoded', loaded', stated, sealed, listed, answers⟩
    obtain ⟨-, rfl⟩ := Completion.completed.inj same
    obtain rfl := Option.some.inj (decoded.symm.trans decoded')
    exact ⟨response, results, Except.ok.inj (loaded.symm.trans loaded'), stated, sealed, listed,
      answers⟩
  · rintro ⟨response, results, rfl, stated, sealed, listed, answers⟩
    exact ⟨stdout, text, response, results, rfl, decoded, loaded, stated, sealed, listed, answers⟩

/-- The shadow of a validated response. -/
theorem build_eq {mapping : Mapping} {results : List Json}
    (valid : runtime.validateArtifact artifact (some "forge.evidence-relevance") = .ok artifact)
    (validated : runtime.validateMapping mapping artifact requestIdentity = .ok mapping)
    (listed : mapping.get "results" = .arr results) :
    runtime.buildEvidenceRelevanceShadow artifact requestIdentity mapping call.sourceRecords
        durationNs call.lineageIdentity =
      runtime.observe artifact requestIdentity mapping results call.sourceRecords durationNs
        call.lineageIdentity := by
  simp only [Runtime.buildEvidenceRelevanceShadow, valid, validated, listed, bind, Except.bind]

theorem faithful_unknown {answered : Prop} (shadow : UnknownShadow) :
    Faithful answered (.unknown shadow) :=
  ⟨by simp [Shadow.status], fun _ => ⟨rfl, rfl⟩⟩

theorem faithful_observed {answered : Prop} {shadow : ObservedShadow} :
    Faithful answered (.observed shadow) ↔ answered := by
  constructor
  · exact fun faithful => faithful.1 rfl
  · exact fun answers => ⟨fun _ => answers, fun unanswered => absurd answers unanswered⟩

/-- A refused response is unknown when its error is caught, and raises otherwise. -/
theorem concludeResponse_error {answered : Prop} {e : ForgeError} :
    (∃ shadow, runtime.concludeResponse artifact requestIdentity call durationNs (.error e) =
      .ok shadow ∧ Faithful answered shadow) ↔ Caught e := by
  have concluded : runtime.concludeResponse artifact requestIdentity call durationNs (.error e) =
      if Caught e then
        .ok (unknownShadow requestIdentity artifact call.sourceRecords
          "provider-response-invalid-or-stale" durationNs call.lineageIdentity (some e))
      else .error e := rfl
  rw [concluded]
  by_cases caught : Caught e
  · rw [if_pos caught]
    exact iff_of_true ⟨_, rfl, faithful_unknown _⟩ caught
  · simp [caught]

/-- A response that was read becomes the shadow it should exactly when it is handled. -/
theorem concludeResponse_iff
    (valid : runtime.validateArtifact artifact (some "forge.evidence-relevance") = .ok artifact)
    (named : ∀ record ∈ call.sourceRecords, ∃ identity,
      nonempty (field record "record_identity") "record_identity" = .ok identity) :
    (∃ shadow, runtime.concludeResponse artifact requestIdentity call durationNs
        (runtime.validateResponse value artifact requestIdentity) = .ok shadow ∧
      Faithful (Answers runtime artifact requestIdentity call.sourceRecords value) shadow) ↔
      Handled runtime artifact requestIdentity call.sourceRecords value := by
  unfold Runtime.validateResponse Handled
  cases mapped : runtime.dictOf value with
  | error e =>
      have uncaught := dictOf_uncaught e mapped
      exact (concludeResponse_error (e := e)).trans (by simp [uncaught])
  | ok mapping =>
      have bound : ∀ f : Mapping → Except ForgeError Mapping,
          ((.ok mapping : Except ForgeError Mapping) >>= f) = f mapping := fun _ => rfl
      simp only [bound, Except.ok.injEq, exists_eq_left']
      have accepts := @validateMapping_eq_ok runtime artifact requestIdentity mapping
      have raises := @validateMapping_caught runtime artifact requestIdentity mapping
      cases validated : runtime.validateMapping mapping artifact requestIdentity with
      | error e =>
          rw [concludeResponse_error]
          have unsealed : Stated artifact requestIdentity mapping → ¬Sealed runtime mapping := by
            intro stated sealed
            rw [validated] at accepts
            exact nomatch accepts.mpr ⟨stated, sealed, rfl⟩
          rw [validated, raisesOnly_error] at raises
          rw [raises]
          constructor
          · exact fun encodable stated =>
              ⟨encodable stated, fun sealed => absurd sealed (unsealed stated)⟩
          · exact fun handled stated => (handled stated).1
      | ok response =>
          obtain ⟨stated, sealed, rfl⟩ := accepts.mp validated
          obtain ⟨results, listed, -⟩ := stated.results
          have encodable := raises.mp (by rw [validated]; exact raisesOnly_ok) stated
          have observes := @observe_returns runtime call.sourceRecords results artifact
            requestIdentity mapping durationNs call.lineageIdentity named
          have concluded : runtime.concludeResponse artifact requestIdentity call durationNs
              (.ok mapping) =
              (runtime.observe artifact requestIdentity mapping results call.sourceRecords
                durationNs call.lineageIdentity >>= fun shadow => .ok (.observed shadow)) := by
            rw [← build_eq valid validated listed]
            rfl
          simp only [concluded, bind_eq_ok, Except.ok.injEq]
          constructor
          · rintro ⟨_, ⟨seen, hseen, rfl⟩, faithful⟩ _
            obtain ⟨response, _, hvalue, -⟩ := faithful_observed.mp faithful
            obtain ⟨answers, sized⟩ := observes.mp ⟨seen, hseen⟩
            refine ⟨encodable, fun _ => ⟨⟨response, hvalue⟩, fun others hothers => ?_, sized⟩⟩
            obtain rfl := Json.arr.inj (listed.symm.trans hothers)
            exact answers
          · intro handled
            obtain ⟨⟨response, rfl⟩, answers, sized⟩ := (handled stated).2 sealed
            obtain rfl := Except.ok.inj mapped
            obtain ⟨seen, hseen⟩ := observes.mpr ⟨answers results listed, sized⟩
            exact ⟨_, ⟨seen, hseen, rfl⟩, faithful_observed.mpr
              ⟨response, results, rfl, stated, sealed, listed, answers results listed⟩⟩

/-- What a provider did becomes the shadow it should exactly when its output is
contained. -/
theorem concludeShadow_iff {completion : Completion}
    (valid : runtime.validateArtifact artifact (some "forge.evidence-relevance") = .ok artifact)
    (named : ∀ record ∈ call.sourceRecords, ∃ identity,
      nonempty (field record "record_identity") "record_identity" = .ok identity) :
    (∃ shadow, runtime.concludeShadow artifact requestIdentity call completion durationNs =
        .ok shadow ∧
      Faithful (Exchanged runtime artifact requestIdentity call.sourceRecords completion)
        shadow) ↔
      Contained runtime artifact requestIdentity call.sourceRecords completion := by
  unfold Runtime.concludeShadow Contained
  cases completion with
  | refused error => exact iff_of_true ⟨_, rfl, faithful_unknown _⟩ (by simp)
  | completed returncode stdout =>
      by_cases exited : returncode = 0
      · subst exited
        simp only [ne_eq, not_true_eq_false, if_false, Completion.completed.injEq, true_and,
          forall_eq', Runtime.readResponse]
        cases decoded : runtime.reader.decodeDetected stdout with
        | none =>
            refine iff_of_false ?_ (by simp)
            exact fun shadowed => absurd (concludeResponse_error.mp shadowed) (by decide)
        | some text =>
            simp only [Option.some.injEq, exists_eq_left']
            cases loaded : runtime.reader.loads text with
            | ok value =>
                have within : ¬runtime.reader.interpreter.Exceeds text := by
                  unfold OutputReader.loads at loaded
                  simp [Application.Interpreter.Exceeds, loaded]
                simp only [within, not_false_eq_true, true_and, Except.ok.injEq, forall_eq',
                  exchanged_iff decoded loaded]
                exact concludeResponse_iff valid named
            | error e =>
                have exceeds : runtime.reader.interpreter.Exceeds text ↔ e ≠ .malformed := by
                  unfold OutputReader.loads at loaded
                  cases e <;> simp [Application.Interpreter.Exceeds, loaded]
                simp only [exceeds, not_not, reduceCtorEq, false_implies, implies_true, and_true]
                cases e with
                | malformed => exact iff_of_true (concludeResponse_error.mpr (Or.inl rfl)) rfl
                | tooManyDigits =>
                    refine iff_of_false (fun shadowed => ?_) (by simp)
                    exact absurd (concludeResponse_error.mp shadowed) (by decide)
                | tooDeep =>
                    refine iff_of_false (fun shadowed => ?_) (by simp)
                    exact absurd (concludeResponse_error.mp shadowed) (by decide)
      · simp only [ne_eq, exited, not_false_eq_true, if_true, Completion.completed.injEq,
          false_and, false_implies, implies_true, iff_true]
        exact ⟨_, rfl, faithful_unknown _⟩

end Conclusion

/-! ## Calls -/

section Calls

variable {runtime : Runtime} {call : Invocation} {artifact : Dict String Json}
  {queries : List Json}

/-- What the checks of a call have established. -/
theorem checkInvocation_eq_ok (checked : runtime.checkInvocation call = .ok (artifact, queries)) :
    runtime.validateArtifact artifact (some "forge.evidence-relevance") = .ok artifact ∧
      call.sourceRecords.mapM query = .ok queries := by
  simp only [Runtime.checkInvocation, bind_eq_ok, Except.ok.injEq, Prod.mk.injEq] at checked
  obtain ⟨_, _, _, _, _, valid, _, _, _, _, _, queried, rfl, rfl⟩ := checked
  obtain rfl := validateArtifact_eq valid
  exact ⟨valid, queried⟩

theorem query_eq_ok {record : Dict String Json} {value : Json} (h : query record = .ok value) :
    ∃ identity features,
      nonempty (field record "record_identity") "record_identity" = .ok identity ∧
      (∀ lane ∈ features, (intOf? lane).isSome = true) ∧
      value = document [("query_id", .str identity), ("source_record_identity", .str identity),
        ("features", .arr features)] := by
  obtain ⟨identity, named, h⟩ := bind_eq_ok.mp h
  split at h
  · rename_i features _
    rw [refuseIf_bind_eq_ok, not_or, not_not, not_not] at h
    exact ⟨identity, features, named, h.1.2, (Except.ok.inj h.2).symm⟩
  · cases h

theorem wellFormed_document {members : List (String × Json)}
    (distinct : (Dict.keys members).Nodup) (h : ∀ entry ∈ members, entry.2.WellFormed) :
    (document members).WellFormed := by
  refine ⟨Dict.ordered_nil.update _, Json.wellFormedFields_iff.mpr fun entry member => ?_⟩
  exact h entry ((Application.mem_update_nil distinct).mp member)

/-- The request of a checked call has an identity. -/
theorem requestIdentity_returns
    (checked : runtime.checkInvocation call = .ok (artifact, queries)) :
    ∃ identity, runtime.requestIdentity artifact queries call.lineageIdentity = .ok identity := by
  obtain ⟨valid, queried⟩ := checkInvocation_eq_ok checked
  refine ⟨_, digest_eq_ok.mpr ⟨wellFormed_document (by simp) ?_, rfl⟩⟩
  simp only [List.mem_cons, List.not_mem_nil, or_false, forall_eq_or_imp, forall_eq]
  refine ⟨?_, Json.wellFormedItems_iff.mpr fun value member => ?_, ?_⟩
  · simp only [Runtime.validateArtifact, bind_eq_ok, identity_eq_ok] at valid
    obtain ⟨_, _, _, _, _, _, _, _, _, _, _, _, supplied, ⟨same, _⟩, _⟩ := valid
    rw [same]
    trivial
  · obtain ⟨record, _, found⟩ := mem_of_mapM_eq_ok queried member
    obtain ⟨identity, features, _, lanes, rfl⟩ := query_eq_ok found
    refine wellFormed_document (by simp) ?_
    simp only [List.mem_cons, List.not_mem_nil, or_false, forall_eq_or_imp, forall_eq]
    refine ⟨trivial, trivial, Json.wellFormedItems_iff.mpr fun lane listed => ?_⟩
    have number := lanes lane listed
    cases lane <;> trivial
  · cases call.lineageIdentity <;> trivial

/-- A checked call whose request can be sent comes down to what the provider does. -/
theorem invokeShadowProvider_eq {requestIdentity : String} {request : List UInt8}
    (completion : Completion) (durationNs : Nat)
    (checked : runtime.checkInvocation call = .ok (artifact, queries))
    (identified : runtime.requestIdentity artifact queries call.lineageIdentity =
      .ok requestIdentity)
    (encoded : encodeRequest artifact queries call requestIdentity = .ok request) :
    runtime.invokeShadowProvider call completion durationNs =
      runtime.concludeShadow artifact requestIdentity call completion durationNs := by
  simp only [Runtime.invokeShadowProvider, checked, identified, encoded, bind, Except.bind]

end Calls

def sampleDigest : String := String.ofList (List.replicate 64 'a')

def sampleIdentity : String := "sha256:" ++ sampleDigest

/-- Every digest is the same, and no number is converted. -/
def sampleRuntime : Runtime where
  hashing := ⟨fun _ => sampleDigest, fun _ => .error ⟨"JCS", "no canonical form"⟩⟩
  reader := Application.sampleReader
  keyOrder := Dict.keys
  parseInt := fun _ => none
  truncate := fun _ => none
  floatText := fun _ => "0.0"
  floatBelow := fun _ _ => false

def sampleArtifact : Dict String Json :=
  [("artifact_identity", .str sampleIdentity), ("calibration_identity", .str sampleIdentity),
   ("checkpoint_identity", .str sampleIdentity), ("generation_identity", .str sampleIdentity),
   ("model_identity", .str sampleIdentity),
   ("operating_envelope", .obj [("max_iterations", .int 4),
     ("maximum_context_observations", .int 16), ("maximum_query_abs", .int 100)]),
   ("provider_abi", .str "mnel-specialist-provider-abi/0.1"), ("provider_id", .str "provider"),
   ("schema", .str "mnel-recurrent-specialist-artifact/0.1"),
   ("target_role", .str "forge.evidence-relevance"),
   ("training_dataset_identity", .str sampleIdentity),
   ("training_spec_identity", .str sampleIdentity)]

def sampleCall : Invocation where
  command := ["provider"]
  artifact := sampleArtifact
  sourceRecords := [[("features", .arr [.int 1, .int 2, .int 3, .int 4]),
    ("record_identity", .str "record")]]
  contextObservations := []
  timeoutSeconds := 5
  outputBytes := maxResponseBytes
  lineageIdentity := none

def sampleQueries : List Json :=
  [document [("query_id", .str "record"), ("source_record_identity", .str "record"),
    ("features", .arr [.int 1, .int 2, .int 3, .int 4])]]

/-- A character takes four bytes at most. -/
theorem length_canonicalBytes_le (value : Json) :
    value.canonicalBytes.length ≤ 4 * value.canonicalChars.length := by
  have encoded : value.canonicalBytes = value.canonicalChars.flatMap String.utf8EncodeChar := by
    rw [← String.toList_ofList (l := value.canonicalChars)]
    exact Text.utf8_eq_flatMap value.canonicalText
  rw [encoded, List.length_flatMap]
  refine (List.sum_le_card_nsmul _ 4 ?_).trans (by simp [Nat.mul_comm])
  simp only [List.mem_map, forall_exists_index, and_imp, forall_apply_eq_imp_iff₂]
  intro c _
  rw [String.length_utf8EncodeChar]
  exact c.utf8Size_le_four

private theorem sample_identity (label : String) :
    identity (.str sampleIdentity) label = .ok sampleIdentity := by
  have long : sampleIdentity.length = 71 := by decide +kernel
  have hashed : "sha256:".toList.isPrefixOf sampleIdentity.toList = true := by decide +kernel
  exact identity_eq_ok.mpr ⟨rfl, List.isPrefixOf_iff_prefix.mp hashed, long⟩

private theorem sample_valid :
    sampleRuntime.validateArtifact sampleArtifact (some "forge.evidence-relevance") =
      .ok sampleArtifact := by
  have unclaiming : authorityMember? sampleArtifact = none := by decide +kernel
  obtain ⟨_, named⟩ : ∃ named, ["provider_id", "target_role", "model_identity",
      "generation_identity", "calibration_identity"].mapM
        (fun key => nonempty (field sampleArtifact key) key) = .ok named :=
    exists_eq_ok (by decide +kernel)
  obtain ⟨_, identified⟩ : ∃ identified, ["model_identity", "generation_identity",
      "calibration_identity", "training_dataset_identity", "training_spec_identity",
      "checkpoint_identity"].mapM (fun key => identity (field sampleArtifact key) key) =
        .ok identified :=
    exists_eq_ok (by decide +kernel)
  have computed : sampleRuntime.digest (.obj (Dict.erase sampleArtifact "artifact_identity")) =
      .ok sampleIdentity :=
    digest_eq_ok.mpr ⟨by decide +kernel, rfl⟩
  simp only [Runtime.validateArtifact, bind_eq_ok, rejectAuthority_eq_ok, refuseIf_eq_ok]
  exact ⟨(), unclaiming, (), by decide, (), by decide, (), by decide, _, named, _, identified, _,
    sample_identity _, _, computed, (), by simp, (), by decide +kernel, trivial⟩

private theorem sample_checked :
    sampleRuntime.checkInvocation sampleCall = .ok (sampleArtifact, sampleQueries) := by
  have short : (Json.obj sampleArtifact).canonicalChars.length ≤ 1000 := by decide +kernel
  have small := length_canonicalBytes_le (.obj sampleArtifact)
  simp only [Runtime.checkInvocation, bind_eq_ok, refuseIf_eq_ok]
  refine ⟨(), by decide, (), by decide +kernel, _, sample_valid, (), ?_, (), by decide,
    sampleQueries, by decide +kernel, rfl⟩
  simp only [maxArtifactBytes]
  omega

private theorem sample_identified :
    sampleRuntime.requestIdentity sampleArtifact sampleQueries sampleCall.lineageIdentity =
      .ok sampleIdentity :=
  digest_eq_ok.mpr ⟨by decide +kernel, rfl⟩

private theorem sample_encodes :
    ∃ request, encodeRequest sampleArtifact sampleQueries sampleCall sampleIdentity =
      .ok request := by
  unfold encodeRequest
  simp only [refuseIf_bind_eq_ok, Except.ok.injEq, not_not]
  refine ⟨_, by decide +kernel, ?_, rfl⟩
  refine not_lt.mpr ((length_canonicalBytes_le _).trans ?_)
  decide +kernel

end MncsForge.LearnedSpecialists
