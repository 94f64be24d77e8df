import Mathlib
import MncsForge.Errors
import MncsForge.Foundation.Json
import MncsForge.Records.Schema

/-!
# Records

A record is its type, its schema version and its fields.  Raw JSON becomes
record data through `asJsonValue`, which changes nothing and refuses values that
nest too deep or hold a float that is not finite.
-/

namespace MncsForge.Records

open MncsForge.Foundation

/-! ## Accepting JSON values -/

mutual

def asJsonValue (path : String) (depth : Nat) (value : Json) : Except ForgeError Json := do
  refuseIf (64 < depth) "RECORD_MALFORMED" s!"record JSON exceeds nesting limit at {path}"
  match value with
  | .float text => do
      refuseIf (Json.isFiniteText text = false) "RECORD_MALFORMED"
        s!"record has non-finite number at {path}"
      .ok (.float text)
  | .arr items => do
      let items ← asJsonItems path depth 0 items
      .ok (.arr items)
  | .obj fields => do
      let fields ← asJsonFields path depth fields
      .ok (.obj fields)
  | scalar => .ok scalar

def asJsonItems (path : String) (depth index : Nat) :
    List Json → Except ForgeError (List Json)
  | [] => .ok []
  | item :: items => do
      let item ← asJsonValue s!"{path}[{index}]" (depth + 1) item
      let items ← asJsonItems path depth (index + 1) items
      .ok (item :: items)

def asJsonFields (path : String) (depth : Nat) :
    List (String × Json) → Except ForgeError (List (String × Json))
  | [] => .ok []
  | (key, value) :: fields => do
      let value ← asJsonValue s!"{path}.{key}" (depth + 1) value
      let fields ← asJsonFields path depth fields
      .ok ((key, value) :: fields)

end

mutual

/-- Accepted values are unchanged; what is asked of them is depth and finite
numbers. -/
theorem asJsonValue_eq_ok : ∀ (value : Json), value.Keyed →
    ∀ {path : String} {depth : Nat} {result : Json},
    asJsonValue path depth value = .ok result ↔
      result = value ∧ value.WellFormed ∧ depth + value.height ≤ 64
  | .null, _, path, depth, result
  | .bool _, _, path, depth, result
  | .int _, _, path, depth, result
  | .str _, _, path, depth, result => by
      rw [asJsonValue, refuseIf_bind_eq_ok]
      simp only [Except.ok.injEq, Json.WellFormed, Json.height, not_lt]
      constructor
      · rintro ⟨hdepth, rfl⟩
        exact ⟨rfl, trivial, hdepth⟩
      · rintro ⟨rfl, _, hdepth⟩
        exact ⟨hdepth, rfl⟩
      all_goals simp
  | .float text, _, path, depth, result => by
      rw [asJsonValue, refuseIf_bind_eq_ok]
      simp only [refuseIf_bind_eq_ok, Except.ok.injEq, Json.WellFormed, Json.height, not_lt,
        Bool.not_eq_false]
      constructor
      · rintro ⟨hdepth, hfinite, rfl⟩
        exact ⟨rfl, hfinite, hdepth⟩
      · rintro ⟨rfl, hfinite, hdepth⟩
        exact ⟨hdepth, hfinite, rfl⟩
  | .arr items, hkeyed, path, depth, result => by
      rw [asJsonValue, refuseIf_bind_eq_ok]
      simp only [bind_eq_ok, Except.ok.injEq, Json.WellFormed, Json.height, not_lt]
      constructor
      · rintro ⟨hdepth, accepted, hitems, rfl⟩
        obtain ⟨rfl, hwell, hheight⟩ := (asJsonItems_eq_ok items hkeyed).mp hitems
        refine ⟨rfl, hwell, ?_⟩
        rcases hheight with rfl | hheight
        · exact hdepth
        · exact hheight
      · rintro ⟨rfl, hwell, hheight⟩
        exact ⟨by omega, items,
          (asJsonItems_eq_ok items hkeyed).mpr ⟨rfl, hwell, Or.inr hheight⟩, rfl⟩
  | .obj fields, hkeyed, path, depth, result => by
      rw [asJsonValue, refuseIf_bind_eq_ok]
      simp only [bind_eq_ok, Except.ok.injEq, Json.WellFormed, Json.height, not_lt]
      constructor
      · rintro ⟨hdepth, accepted, hfields, rfl⟩
        obtain ⟨rfl, hwell, hheight⟩ := (asJsonFields_eq_ok fields hkeyed.2).mp hfields
        refine ⟨rfl, ⟨hkeyed.1, hwell⟩, ?_⟩
        rcases hheight with rfl | hheight
        · exact hdepth
        · exact hheight
      · rintro ⟨rfl, hwell, hheight⟩
        exact ⟨by omega, fields,
          (asJsonFields_eq_ok fields hkeyed.2).mpr ⟨rfl, hwell.2, Or.inr hheight⟩, rfl⟩

theorem asJsonItems_eq_ok : ∀ (items : List Json), Json.KeyedItems items →
    ∀ {path : String} {depth index : Nat} {result : List Json},
    asJsonItems path depth index items = .ok result ↔
      result = items ∧ Json.WellFormedItems items ∧
        (items = [] ∨ depth + Json.heightItems items ≤ 64)
  | [], _, path, depth, index, result => by
      simp [asJsonItems, Json.WellFormedItems, eq_comm]
  | item :: items, hkeyed, path, depth, index, result => by
      simp only [asJsonItems, bind_eq_ok, Except.ok.injEq, Json.WellFormedItems,
        Json.heightItems]
      constructor
      · rintro ⟨accepted, hitem, rest, hitems, rfl⟩
        obtain ⟨rfl, hwell, hheight⟩ := (asJsonValue_eq_ok item hkeyed.1).mp hitem
        obtain ⟨rfl, hwells, hheights⟩ := (asJsonItems_eq_ok items hkeyed.2).mp hitems
        refine ⟨rfl, ⟨hwell, hwells⟩, Or.inr ?_⟩
        rcases hheights with rfl | hheights
        · simp only [Json.heightItems]
          omega
        · omega
      · rintro ⟨rfl, ⟨hwell, hwells⟩, hheight⟩
        have hbound : depth + max (item.height + 1) (Json.heightItems items) ≤ 64 := by
          simpa using hheight
        exact ⟨item, (asJsonValue_eq_ok item hkeyed.1).mpr ⟨rfl, hwell, by omega⟩, items,
          (asJsonItems_eq_ok items hkeyed.2).mpr ⟨rfl, hwells, Or.inr (by omega)⟩, rfl⟩

theorem asJsonFields_eq_ok : ∀ (fields : List (String × Json)), Json.KeyedFields fields →
    ∀ {path : String} {depth : Nat} {result : List (String × Json)},
    asJsonFields path depth fields = .ok result ↔
      result = fields ∧ Json.WellFormedFields fields ∧
        (fields = [] ∨ depth + Json.heightFields fields ≤ 64)
  | [], _, path, depth, result => by
      simp [asJsonFields, Json.WellFormedFields, eq_comm]
  | (key, value) :: fields, hkeyed, path, depth, result => by
      simp only [asJsonFields, bind_eq_ok, Except.ok.injEq, Json.WellFormedFields,
        Json.heightFields]
      constructor
      · rintro ⟨accepted, hvalue, rest, hfields, rfl⟩
        obtain ⟨rfl, hwell, hheight⟩ := (asJsonValue_eq_ok value hkeyed.1).mp hvalue
        obtain ⟨rfl, hwells, hheights⟩ := (asJsonFields_eq_ok fields hkeyed.2).mp hfields
        refine ⟨rfl, ⟨hwell, hwells⟩, Or.inr ?_⟩
        rcases hheights with rfl | hheights
        · simp only [Json.heightFields]
          omega
        · omega
      · rintro ⟨rfl, ⟨hwell, hwells⟩, hheight⟩
        have hbound : depth + max (value.height + 1) (Json.heightFields fields) ≤ 64 := by
          simpa using hheight
        exact ⟨value, (asJsonValue_eq_ok value hkeyed.1).mpr ⟨rfl, hwell, by omega⟩, fields,
          (asJsonFields_eq_ok fields hkeyed.2).mpr ⟨rfl, hwells, Or.inr (by omega)⟩, rfl⟩

end

/-- The text of a container is an object or it is refused. -/
def jsonObject (value : Json) (label : String) : Except ForgeError (Dict String Json) := do
  let normalized ← asJsonValue label 0 value
  match normalized with
  | .obj fields => .ok fields
  | _ => .error ⟨"RECORD_MALFORMED", s!"{label} must be a JSON object"⟩

/-! ## The record model -/

structure ForgeRecord where
  recordType : RecordType
  schemaVersion : String
  fields : Dict String Json
  sourceSchemaVersion : String
  deriving DecidableEq

namespace ForgeRecord

/-- `Mapping.get`, with `None` for a key that is not there. -/
def get (record : ForgeRecord) (key : String) : Json :=
  if key = "record_type" then .str record.recordType.value
  else if key = "schema_version" then .str record.schemaVersion
  else (Dict.get? record.fields key).getD .null

def toJson (record : ForgeRecord) : Dict String Json :=
  Dict.update
    [("record_type", .str record.recordType.value),
     ("schema_version", .str record.schemaVersion)]
    record.fields

def textField (record : ForgeRecord) (field : Option String) : Option String :=
  field.bind fun name => (Dict.get? record.fields name).bind Json.asStr?

def status (record : ForgeRecord) : Option String :=
  record.textField (recordSpecs record.recordType).statusField

def identity (record : ForgeRecord) : Option String :=
  record.textField (recordSpecs record.recordType).identityField

end ForgeRecord

end MncsForge.Records
