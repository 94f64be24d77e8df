import Mathlib
import MncsForge.Application.Workflows
import MncsForge.Foundation.JsonText
import MncsForge.Foundation.Text

/-!
# Framing of provider responses

A provider answers with one JSON Lines record.  The reader splits the decoded
output where Python ends a line and reads the one line it expects with the
standard JSON decoder.
-/

namespace MncsForge.Application

open MncsForge.Foundation MncsForge.Records
open MncsForge.Foundation.Text (utf8 decodeUtf8? decodeUtf8?_utf8)
open MncsForge.Foundation.JsonText (Dialect LoadError plain)

/-- What the interpreter decides about a JSON text. -/
structure Interpreter where
  /-- The containers that may be open before the recursion limit is reached. -/
  depth : Nat
  /-- The value of a literal with a fraction or an exponent. -/
  float : String → Json
  /-- The message of a `JSONDecodeError`. -/
  complaint : String → String

/-! ## The envelope -/

def checkEnvelope (value : Dict String Json) : Except ForgeError (Dict String Json) := do
  refuseIf (field value "protocol_version" ≠ .str "0.1") "PROVIDER_UNSUPPORTED"
    "only Provider Protocol 0.1 is supported"
  refuseIf (hashable (field value "type") = false) "TypeError" "unhashable type"
  refuseIf (oneOf (field value "type") responseTypes = false) "PROVIDER_MALFORMED"
    "provider response type is invalid"
  refuseIf (isObject (field value "provider") = false) "PROVIDER_MALFORMED"
    "provider identity must be an object"
  refuseIf (isObject (field value "extensions") = false) "PROVIDER_MALFORMED"
    "provider extensions must be an object"
  refuseIf
    (field value "type" = .str "analysis_response" ∧
      oneOf (field value "status") statuses = false)
    "PROVIDER_MALFORMED" "analysis result status must be PASS/FAIL/UNKNOWN"
  .ok value

/-- What Provider Protocol 0.1 asks of every response. -/
structure ResponseEnvelope (value : Dict String Json) : Prop where
  version : field value "protocol_version" = .str "0.1"
  type : ∃ name ∈ responseTypes, field value "type" = .str name
  provider : ∃ identity, field value "provider" = .obj identity
  extensions : ∃ extra, field value "extensions" = .obj extra
  status : field value "type" = .str "analysis_response" →
    ∃ status ∈ statuses, field value "status" = .str status

theorem oneOf_iff {value : Json} {choices : List String} :
    oneOf value choices = true ↔ ∃ choice ∈ choices, value = .str choice := by
  cases value <;> simp [oneOf]

theorem isObject_iff {value : Json} : isObject value = true ↔ ∃ fields, value = .obj fields := by
  cases value <;> simp [isObject, Json.asObj?]

theorem hashable_of_oneOf {value : Json} {choices : List String}
    (h : oneOf value choices = true) : hashable value = true := by
  cases value <;> simp_all [oneOf, hashable]

theorem checkEnvelope_eq_ok {value fields : Dict String Json} :
    checkEnvelope value = .ok fields ↔ value = fields ∧ ResponseEnvelope value := by
  simp only [checkEnvelope, refuseIf_bind_eq_ok, not_not, Bool.not_eq_false, not_and,
    Except.ok.injEq]
  constructor
  · rintro ⟨version, -, type, provider, extensions, status, same⟩
    exact ⟨same, version, oneOf_iff.mp type, isObject_iff.mp provider,
      isObject_iff.mp extensions, fun analysis => oneOf_iff.mp (status analysis)⟩
  · rintro ⟨same, version, type, provider, extensions, status⟩
    have known := oneOf_iff.mpr type
    exact ⟨version, hashable_of_oneOf known, known, isObject_iff.mpr provider,
      isObject_iff.mpr extensions, fun analysis => oneOf_iff.mpr (status analysis), same⟩

def IsProviderError (error : ForgeError) : Prop :=
  "PROVIDER_".toList <+: error.code.toList

instance (error : ForgeError) : Decidable (IsProviderError error) :=
  inferInstanceAs (Decidable (_ <+: _))

/-- The type of a response of the supported version is looked up in a set. -/
def HasUnhashableType (value : Dict String Json) : Prop :=
  field value "protocol_version" = .str "0.1" ∧ hashable (field value "type") = false

theorem refuseIf_bind_eq_error {α : Type} {test : Prop} [Decidable test] {code message : String}
    {next : Unit → Except ForgeError α} {error : ForgeError} :
    (refuseIf test code message >>= next) = .error error ↔
      (test ∧ error = ⟨code, message⟩) ∨ (¬ test ∧ next () = .error error) := by
  by_cases h : test <;> simp [refuseIf, h, bind, Except.bind, eq_comm]

theorem checkEnvelope_errors {value : Dict String Json} :
    (∀ error, checkEnvelope value = .error error → IsProviderError error) ↔
      ¬ HasUnhashableType value := by
  constructor
  · rintro h ⟨version, unhashable⟩
    have raised : checkEnvelope value = .error ⟨"TypeError", "unhashable type"⟩ := by
      simp [checkEnvelope, refuseIf, version, unhashable, bind, Except.bind]
    exact absurd (h _ raised) (by decide)
  · intro hashed error raised
    simp only [checkEnvelope, refuseIf_bind_eq_error] at raised
    obtain ⟨-, rfl⟩ | ⟨version, raised⟩ := raised
    · decide
    obtain ⟨unhashable, -⟩ | ⟨-, raised⟩ := raised
    · exact absurd ⟨not_not.mp version, unhashable⟩ hashed
    obtain ⟨-, rfl⟩ | ⟨-, ⟨-, rfl⟩ | ⟨-, ⟨-, rfl⟩ | ⟨-, ⟨-, rfl⟩ | ⟨-, raised⟩⟩⟩⟩ := raised
    case inr => cases raised
    all_goals decide

/-! ## Lines -/

/-- The line breaks that are no newline of JSON Lines. -/
def isForeignBreak (c : Char) : Bool :=
  isLineBreak c && c != '\n' && c != '\r'

def endsForeign (text : String) : Bool :=
  text.toList.getLast?.any isForeignBreak

theorem foreign_of_isForeignBreak {c : Char} (h : isForeignBreak c = true) :
    JsonText.Foreign c := by
  apply JsonText.foreign_of_not_isSyntax
  simp only [isForeignBreak, isLineBreak, List.mem_cons, List.not_mem_nil, or_false,
    Bool.and_eq_true, decide_eq_true_eq, bne_iff_ne] at h
  obtain ⟨⟨code, newline⟩, carriage⟩ := h
  rw [← Char.ofNat_toNat c] at newline carriage ⊢
  obtain code | code | code | code | code | code | code | code | code | code := code <;>
    rw [code] at newline carriage ⊢ <;> first | rfl | contradiction

/-- The ends that split a line off. -/
inductive LineEnd : List Char → Prop where
  | none : LineEnd []
  | pair : LineEnd ['\r', '\n']
  | single {c : Char} (h : isLineBreak c = true) : LineEnd [c]

theorem splitlinesFrom_eq_nil {line text : List Char} (h : splitlinesFrom line text = []) :
    line = [] ∧ text = [] := by
  fun_induction splitlinesFrom line text with
  | case1 => exact ⟨rfl, rfl⟩
  | case2 => cases h
  | case3 => cases h
  | case4 => cases h
  | case5 line c rest _ _ ih => exact absurd (ih h).1 (by simp)

theorem splitlinesFrom_eq_single {line : List Char} {text : List Char} {whole : String}
    (h : splitlinesFrom line text = [whole]) :
    ∃ rest terminator, text = rest ++ terminator ∧ LineEnd terminator ∧
      whole.toList = line.reverse ++ rest ∧ ∀ c ∈ rest, isLineBreak c = false := by
  fun_induction splitlinesFrom line text with
  | case1 => cases h
  | case2 line =>
      obtain rfl := List.singleton_inj.mp h
      exact ⟨[], [], rfl, .none, by simp, by simp⟩
  | case3 line rest ih =>
      obtain ⟨rfl, last⟩ := List.cons.inj h
      obtain ⟨-, rfl⟩ := splitlinesFrom_eq_nil last
      exact ⟨[], _, rfl, .pair, by simp, by simp⟩
  | case4 line c rest _ isBreak ih =>
      obtain ⟨rfl, last⟩ := List.cons.inj h
      obtain ⟨-, rfl⟩ := splitlinesFrom_eq_nil last
      exact ⟨[], _, rfl, .single isBreak, by simp, by simp⟩
  | case5 line c rest _ plainChar ih =>
      obtain ⟨rest', terminator, rfl, ended, whole, free⟩ := ih h
      refine ⟨c :: rest', terminator, rfl, ended, by simp [whole], ?_⟩
      simp only [List.mem_cons, forall_eq_or_imp]
      exact ⟨by simpa using plainChar, free⟩

theorem splitlines_eq_single {text line : String} (h : splitlines text = [line]) :
    ∃ terminator, text.toList = line.toList ++ terminator ∧ LineEnd terminator ∧
      ∀ c ∈ line.toList, isLineBreak c = false := by
  obtain ⟨rest, terminator, same, ended, whole, free⟩ := splitlinesFrom_eq_single h
  rw [List.reverse_nil, List.nil_append] at whole
  rw [whole]
  exact ⟨terminator, same, ended, free⟩

/-! ## Records -/

/-- A text is one JSON Lines record: a JSON text and at most one line end after it. -/
def Framed (float : String → Json) (text : List Char) (value : Json) : Prop :=
  ∃ record terminator, text = record ++ terminator ∧
    terminator ∈ [[], ['\n'], ['\r', '\n']] ∧ '\n' ∉ record ∧
    JsonText.loads (plain float) record = .ok value

structure HoldsRecord (float : String → Json) (text : String) (value : Dict String Json) :
    Prop where
  framed : Framed float text.toList (.obj value)
  envelope : ResponseEnvelope value

section Framed

variable {float : String → Json} {line : List Char} {value : Json}

/-- A text that ends in no newline is its own record. -/
theorem framed_iff_of_unended {text : List Char} (free : '\n' ∉ text) :
    Framed float text value ↔ JsonText.loads (plain float) text = .ok value := by
  constructor
  · rintro ⟨record, terminator, rfl, kind, -, loaded⟩
    have unended : terminator = [] := by
      simp only [List.mem_cons, List.not_mem_nil, or_false] at kind
      obtain rfl | rfl | rfl := kind
      · rfl
      all_goals simp at free
    rw [unended, List.append_nil]
    exact loaded
  · intro loaded
    exact ⟨text, [], (List.append_nil _).symm, by simp, free, loaded⟩

theorem loads_return : JsonText.loads (plain float) (line ++ ['\r']) =
    JsonText.loads (plain float) line :=
  JsonText.loads_append_of_whitespace (plain float) rfl line

/-- Before a newline a carriage return is part of the line end or of the record. -/
theorem framed_newline_iff (free : '\n' ∉ line) :
    Framed float (line ++ ['\n']) value ↔ JsonText.loads (plain float) line = .ok value := by
  constructor
  · rintro ⟨record, terminator, same, kind, inside, loaded⟩
    simp only [List.mem_cons, List.not_mem_nil, or_false] at kind
    obtain rfl | rfl | rfl := kind
    · rw [List.append_nil] at same
      exact absurd (same ▸ by simp) inside
    · rw [List.append_left_inj] at same
      rw [same]
      exact loaded
    · have joined : record ++ ['\r', '\n'] = (record ++ ['\r']) ++ ['\n'] := by simp
      rw [joined, List.append_left_inj] at same
      rw [same, loads_return]
      exact loaded
  · intro loaded
    exact ⟨line, ['\n'], rfl, by simp, free, loaded⟩

end Framed

theorem ne_newline_of_free {line : List Char} (free : ∀ c ∈ line, isLineBreak c = false) :
    '\n' ∉ line ∧ '\r' ∉ line := by
  constructor <;> intro member <;> exact absurd (free _ member) (by decide)

theorem isForeignBreak_of_mem {line : List Char} (free : ∀ c ∈ line, isLineBreak c = false) :
    line.getLast?.any isForeignBreak = false := by
  cases last : line.getLast? with
  | none => rfl
  | some c =>
      have member := List.mem_of_getLast? last
      simp [isForeignBreak, free c member]

/-- A record within one line of Python's is that line, and the line end is none of
those that JSON Lines does not know. -/
theorem framed_iff {float : String → Json} {text line : String} (h : splitlines text = [line])
    {value : Json} :
    Framed float text.toList value ↔
      endsForeign text = false ∧ JsonText.loads (plain float) line.toList = .ok value := by
  obtain ⟨ending, whole, ended, free⟩ := splitlines_eq_single h
  obtain ⟨noNewline, noReturn⟩ := ne_newline_of_free free
  simp only [endsForeign, whole]
  cases ended with
  | none =>
      rw [List.append_nil, isForeignBreak_of_mem free, framed_iff_of_unended noNewline]
      simp
  | pair =>
      have joined : line.toList ++ ['\r', '\n'] = (line.toList ++ ['\r']) ++ ['\n'] := by simp
      rw [joined, framed_newline_iff (by simpa using noNewline), loads_return]
      simp [isForeignBreak]
  | @single c isBreak =>
      rw [List.getLast?_concat, Option.any_some]
      by_cases newline : c = '\n'
      · rw [newline, framed_newline_iff noNewline]
        simp [isForeignBreak]
      · have unended : '\n' ∉ line.toList ++ [c] := by
          simpa [noNewline] using Ne.symm newline
        rw [framed_iff_of_unended unended]
        by_cases carriage : c = '\r'
        · rw [carriage, loads_return]
          simp [isForeignBreak]
        · have foreign : isForeignBreak c = true := by
            simp [isForeignBreak, isBreak, newline, carriage]
          have unread := (foreign_of_isForeignBreak foreign).loads_append (plain float)
            line.toList value
          simp [foreign, unread]

/-! ## Reading -/

namespace Interpreter

variable (interpreter : Interpreter)

/-- `json.loads` with its constants and its limits. -/
def dialect : Dialect where
  constants := true
  digits := some 4300
  depth := some interpreter.depth
  float := interpreter.float

def load (line : String) : Except ForgeError Json :=
  match JsonText.loads interpreter.dialect line.toList with
  | .ok value => .ok value
  | .error .malformed =>
      .error ⟨"PROVIDER_MALFORMED", s!"invalid provider JSON: {interpreter.complaint line}"⟩
  -- neither of these is a `JSONDecodeError`
  | .error .tooManyDigits =>
      .error ⟨"ValueError", "Exceeds the limit (4300 digits) for integer string conversion"⟩
  | .error .tooDeep => .error ⟨"RecursionError", "maximum recursion depth exceeded"⟩

def readLine (line : String) : Except ForgeError (Dict String Json) := do
  let value ← interpreter.load line
  match value with
  | .obj value => checkEnvelope value
  | _ => .error ⟨"PROVIDER_MALFORMED", "provider response must be an object"⟩

def parseProviderResponse (stdout : List UInt8) : Except ForgeError (Dict String Json) :=
  match decodeUtf8? stdout with
  | none => .error ⟨"PROVIDER_FRAMING", "provider stdout is not UTF-8"⟩
  | some text => do
      let line := (splitlines text).head?.getD ""
      refuseIf ((splitlines text).length ≠ 1 ∨ line = "") "PROVIDER_FRAMING"
        "provider must emit exactly one non-empty JSON Lines response"
      interpreter.readLine line

/-- The readers of a workflow, on this interpreter. -/
def decoders (other : Decoders) : Decoders :=
  { other with
    utf8 := decodeUtf8?
    loads := fun line =>
      match JsonText.loads interpreter.dialect line.toList with
      | .ok value => .ok value
      | .error _ => .error (interpreter.complaint line) }

/-- The reader stops at a limit. -/
def Exceeds (line : String) : Prop :=
  JsonText.loads interpreter.dialect line.toList = .error .tooManyDigits ∨
    JsonText.loads interpreter.dialect line.toList = .error .tooDeep

/-- Within the limits a workflow reads a response as this does. -/
theorem parseProviderResponse_eq (other : Decoders) {stdout : List UInt8}
    (within : ∀ text, decodeUtf8? stdout = some text →
      ¬ interpreter.Exceeds ((splitlines text).head?.getD "")) :
    Application.parseProviderResponse (interpreter.decoders other) stdout =
      interpreter.parseProviderResponse stdout := by
  unfold Application.parseProviderResponse parseProviderResponse
  simp only [decoders]
  cases decoded : decodeUtf8? stdout with
  | none => rfl
  | some text =>
      have bounded := within text decoded
      by_cases unframed : (splitlines text).length ≠ 1 ∨ (splitlines text).head?.getD "" = ""
      · simp [refuseIf, unframed, bind, Except.bind]
      · simp only [Exceeds, not_or] at bounded
        simp only [readLine, load, refuseIf, unframed, if_false, bind, Except.bind]
        cases loaded :
            JsonText.loads interpreter.dialect ((splitlines text).head?.getD "").toList with
        | error e => cases e <;> simp_all
        | ok value => cases value <;> rfl

/-- What a reader of JSON Lines would answer is answered, and nothing else; what is
refused is refused as the provider's fault. -/
structure ReadsRecord (stdout : List UInt8) : Prop where
  accepts : ∀ value, interpreter.parseProviderResponse stdout = .ok value ↔
    ∃ text, decodeUtf8? stdout = some text ∧ HoldsRecord interpreter.float text value
  refuses : ∀ error, interpreter.parseProviderResponse stdout = .error error →
    IsProviderError error

/-- An object of the standard decoder that keeps to the envelope. -/
def Admits (line : String) (value : Dict String Json) : Prop :=
  JsonText.loads interpreter.dialect line.toList = .ok (.obj value) ∧ ResponseEnvelope value

/-- Python's notion of a line and of JSON makes no difference to the text. -/
def KeepsToFraming (text : String) : Prop :=
  match splitlines text with
  | [line] =>
      ¬ interpreter.Exceeds line ∧
      (∀ value, JsonText.loads interpreter.dialect line.toList = .ok (.obj value) →
        ¬ HasUnhashableType value) ∧
      ∀ value, interpreter.Admits line value →
        endsForeign text = false ∧
        JsonText.loads (plain interpreter.float) line.toList = .ok (.obj value)
  | _ => ∀ value, ¬ HoldsRecord interpreter.float text value

theorem load_eq_ok {line : String} {value : Json} :
    interpreter.load line = .ok value ↔
      JsonText.loads interpreter.dialect line.toList = .ok value := by
  unfold load
  cases JsonText.loads interpreter.dialect line.toList with
  | ok loaded => simp
  | error e => cases e <;> simp

theorem readLine_eq_ok {line : String} {value : Dict String Json} :
    interpreter.readLine line = .ok value ↔ interpreter.Admits line value := by
  rw [readLine, bind_eq_ok]
  constructor
  · rintro ⟨loaded, hload, h⟩
    cases loaded with
    | obj fields =>
        obtain ⟨rfl, envelope⟩ := checkEnvelope_eq_ok.mp h
        exact ⟨(interpreter.load_eq_ok).mp hload, envelope⟩
    | _ => cases h
  · rintro ⟨loaded, envelope⟩
    exact ⟨_, (interpreter.load_eq_ok).mpr loaded, checkEnvelope_eq_ok.mpr ⟨rfl, envelope⟩⟩

theorem readLine_errors {line : String} :
    (∀ error, interpreter.readLine line = .error error → IsProviderError error) ↔
      ¬ interpreter.Exceeds line ∧
      ∀ value, JsonText.loads interpreter.dialect line.toList = .ok (.obj value) →
        ¬ HasUnhashableType value := by
  simp only [readLine, load, Exceeds]
  cases loaded : JsonText.loads interpreter.dialect line.toList with
  | error e =>
      cases e <;> simp [bind, Except.bind, IsProviderError]
  | ok value =>
      cases value with
      | obj fields => simp [bind, Except.bind, checkEnvelope_errors]
      | _ => simp [bind, Except.bind, IsProviderError]

theorem holdsRecord_iff {float : String → Json} {text line : String}
    (h : splitlines text = [line]) {value : Dict String Json} :
    HoldsRecord float text value ↔
      (endsForeign text = false ∧
        JsonText.loads (plain float) line.toList = .ok (.obj value)) ∧
      ResponseEnvelope value := by
  rw [← framed_iff h]
  exact ⟨fun held => ⟨held.framed, held.envelope⟩, fun held => ⟨held.1, held.2⟩⟩

theorem parseProviderResponse_of_line {stdout : List UInt8} {text line : String}
    (decoded : decodeUtf8? stdout = some text) (single : splitlines text = [line])
    (filled : line ≠ "") :
    interpreter.parseProviderResponse stdout = interpreter.readLine line := by
  simp [parseProviderResponse, decoded, single, filled, refuseIf, bind, Except.bind]

theorem parseProviderResponse_of_unframed {stdout : List UInt8} {text : String}
    (decoded : decodeUtf8? stdout = some text)
    (unframed : (splitlines text).length ≠ 1 ∨ (splitlines text).head?.getD "" = "") :
    interpreter.parseProviderResponse stdout =
      .error ⟨"PROVIDER_FRAMING",
        "provider must emit exactly one non-empty JSON Lines response"⟩ := by
  simp only [parseProviderResponse, decoded, refuseIf]
  rw [if_pos unframed]
  rfl

/-- An output that is refused for its framing is read as it should be when it holds no
record. -/
theorem readsRecord_iff_of_refused {stdout : List UInt8} {message : String}
    (refused : interpreter.parseProviderResponse stdout = .error ⟨"PROVIDER_FRAMING", message⟩) :
    interpreter.ReadsRecord stdout ↔
      ∀ value text, decodeUtf8? stdout = some text →
        ¬ HoldsRecord interpreter.float text value := by
  constructor
  · intro reads value text decoded held
    have accepted := (reads.accepts value).mpr ⟨text, decoded, held⟩
    rw [refused] at accepted
    cases accepted
  · intro none
    constructor
    · intro value
      rw [refused]
      constructor
      · intro accepted
        cases accepted
      · rintro ⟨text, decoded, held⟩
        exact absurd held (none value text decoded)
    · intro error raised
      rw [refused] at raised
      obtain rfl := Except.error.inj raised
      simp [IsProviderError]

/-- On one line the two readers differ in the constants, the limits and the line end. -/
theorem readsRecord_iff_of_line {stdout : List UInt8} {text line : String}
    (decoded : decodeUtf8? stdout = some text) (single : splitlines text = [line])
    (filled : line ≠ "") :
    interpreter.ReadsRecord stdout ↔
      ¬ interpreter.Exceeds line ∧
      (∀ value, JsonText.loads interpreter.dialect line.toList = .ok (.obj value) →
        ¬ HasUnhashableType value) ∧
      ∀ value, interpreter.Admits line value →
        endsForeign text = false ∧
        JsonText.loads (plain interpreter.float) line.toList = .ok (.obj value) := by
  have parsed := interpreter.parseProviderResponse_of_line decoded single filled
  have record : ∀ value,
      (∃ text, decodeUtf8? stdout = some text ∧ HoldsRecord interpreter.float text value) ↔
        (endsForeign text = false ∧
          JsonText.loads (plain interpreter.float) line.toList = .ok (.obj value)) ∧
        ResponseEnvelope value := by
    intro value
    simp only [decoded, Option.some.injEq, exists_eq_left', holdsRecord_iff single]
  constructor
  · intro reads
    have errors := reads.refuses
    rw [parsed, readLine_errors] at errors
    refine ⟨errors.1, errors.2, fun value admitted => ?_⟩
    have accepted := reads.accepts value
    rw [parsed, readLine_eq_ok, record] at accepted
    exact (accepted.mp admitted).1
  · rintro ⟨bounded, hashed, framed⟩
    constructor
    · intro value
      rw [parsed, readLine_eq_ok, record]
      constructor
      · exact fun admitted => ⟨framed value admitted, admitted.2⟩
      · rintro ⟨⟨-, loaded⟩, envelope⟩
        obtain read | exceeded :=
          JsonText.loads_follows interpreter.dialect line.toList (.obj value) loaded
        · exact ⟨read, envelope⟩
        · exact absurd exceeded bounded
    · rw [parsed]
      exact (interpreter.readLine_errors).mpr ⟨bounded, hashed⟩

theorem loads_nil (dialect : Dialect) : JsonText.loads dialect [] = .error .malformed := rfl

/-- Every output is answered as its JSON Lines record asks if and only if Python's
notion of a line and of JSON makes no difference to it. -/
theorem readsRecord_iff (stdout : List UInt8) :
    interpreter.ReadsRecord stdout ↔
      ∀ text, decodeUtf8? stdout = some text → interpreter.KeepsToFraming text := by
  cases decoded : decodeUtf8? stdout with
  | none =>
      have refused : interpreter.parseProviderResponse stdout =
          .error ⟨"PROVIDER_FRAMING", "provider stdout is not UTF-8"⟩ := by
        simp [parseProviderResponse, decoded]
      simp [interpreter.readsRecord_iff_of_refused refused, decoded]
  | some text =>
      simp only [Option.some.injEq, forall_eq', KeepsToFraming]
      split
      case h_1 line single =>
        by_cases filled : line = ""
        · subst filled
          have refused := interpreter.parseProviderResponse_of_unframed decoded
            (by simp [single])
          have empty : ("" : String).toList = [] := rfl
          simp [interpreter.readsRecord_iff_of_refused refused, decoded,
            holdsRecord_iff single, Exceeds, Admits, empty, loads_nil]
        · exact interpreter.readsRecord_iff_of_line decoded single filled
      case h_2 several =>
        have unframed : (splitlines text).length ≠ 1 ∨ (splitlines text).head?.getD "" = "" := by
          refine .inl fun single => ?_
          obtain ⟨line, only⟩ := List.length_eq_one_iff.mp single
          exact several line only
        simp [interpreter.readsRecord_iff_of_refused
          (interpreter.parseProviderResponse_of_unframed decoded unframed), decoded]

end Interpreter

/-! ## A line separator in a name -/

def sampleInterpreter : Interpreter where
  depth := 990
  float := .float
  complaint _ := "Expecting value: line 1 column 1 (char 0)"

def separatorResponse : Dict String Json :=
  [("extensions", .obj []), ("protocol_version", .str "0.1"),
   ("provider", .obj [("name", .str "a\u2028b")]), ("type", .str "error")]

def separatorText : String :=
  "\x7b\"extensions\":\x7b\x7d,\"protocol_version\":\"0.1\"," ++
    "\"provider\":\x7b\"name\":\"a\u2028b\"\x7d,\"type\":\"error\"\x7d\n"

theorem parseProviderResponse_splits_string :
    HoldsRecord sampleInterpreter.float separatorText separatorResponse ∧
      sampleInterpreter.parseProviderResponse (utf8 separatorText) =
        .error ⟨"PROVIDER_FRAMING",
          "provider must emit exactly one non-empty JSON Lines response"⟩ ∧
      ¬ sampleInterpreter.ReadsRecord (utf8 separatorText) := by
  have held : HoldsRecord sampleInterpreter.float separatorText separatorResponse := by
    refine ⟨⟨separatorText.toList.dropLast, ['\n'], ?_, ?_, ?_, ?_⟩, ?_⟩
    · decide +kernel
    · simp
    · decide +kernel
    · decide +kernel
    · exact (checkEnvelope_eq_ok.mp (by decide +kernel :
        checkEnvelope separatorResponse = .ok separatorResponse)).2
  have refused := sampleInterpreter.parseProviderResponse_of_unframed
    (decodeUtf8?_utf8 separatorText) (by decide +kernel)
  refine ⟨held, refused, fun reads => ?_⟩
  exact (sampleInterpreter.readsRecord_iff_of_refused refused).mp reads _ _
    (decodeUtf8?_utf8 separatorText) held

end MncsForge.Application
