import Mathlib
import MncsForge.Records.Record

/-!
# Frozen values

A record hands its fields out frozen: what was a list of the document is a tuple,
what was an object is a read-only mapping.  Thawing gives the document back.
-/

namespace MncsForge.Records

open MncsForge.Foundation

/-- The values that meet where records are used. -/
inductive PyValue where
  | none
  | bool (value : Bool)
  | int (value : Int)
  | float (text : String)
  | str (value : String)
  | list (items : List PyValue)
  | tuple (items : List PyValue)
  | dict (fields : List (String × PyValue))
  | mappingProxy (fields : List (String × PyValue))

mutual

/-- `_freeze_json` -/
def freezeJson : Json → PyValue
  | .null => .none
  | .bool value => .bool value
  | .int value => .int value
  | .float text => .float text
  | .str value => .str value
  | .arr items => .tuple (freezeItems items)
  | .obj fields => .mappingProxy (freezeFields fields)

def freezeItems : List Json → List PyValue
  | [] => []
  | item :: items => freezeJson item :: freezeItems items

def freezeFields : List (String × Json) → List (String × PyValue)
  | [] => []
  | (key, value) :: fields => (key, freezeJson value) :: freezeFields fields

end

mutual

/-- `_thaw_json` -/
def thawJson : PyValue → Json
  | .none => .null
  | .bool value => .bool value
  | .int value => .int value
  | .float text => .float text
  | .str value => .str value
  | .list items => .arr (thawItems items)
  | .tuple items => .arr (thawItems items)
  | .dict fields => .obj (thawFields fields)
  | .mappingProxy fields => .obj (thawFields fields)

def thawItems : List PyValue → List Json
  | [] => []
  | item :: items => thawJson item :: thawItems items

def thawFields : List (String × PyValue) → List (String × Json)
  | [] => []
  | (key, value) :: fields => (key, thawJson value) :: thawFields fields

end

mutual

theorem thaw_freezeJson : ∀ value : Json, thawJson (freezeJson value) = value
  | .null | .bool _ | .int _ | .float _ | .str _ => by simp [freezeJson, thawJson]
  | .arr items => by rw [freezeJson, thawJson, thaw_freezeItems items]
  | .obj fields => by rw [freezeJson, thawJson, thaw_freezeFields fields]

theorem thaw_freezeItems : ∀ items : List Json, thawItems (freezeItems items) = items
  | [] => by simp [freezeItems, thawItems]
  | item :: items => by
      rw [freezeItems, thawItems, thaw_freezeJson item, thaw_freezeItems items]

theorem thaw_freezeFields : ∀ fields : List (String × Json),
    thawFields (freezeFields fields) = fields
  | [] => by simp [freezeFields, thawFields]
  | (key, value) :: fields => by
      rw [freezeFields, thawFields, thaw_freezeJson value, thaw_freezeFields fields]

end

/-- The items of a value that is an instance of `list`. -/
def PyValue.asList? : PyValue → Option (List PyValue)
  | .list items => some items
  | _ => Option.none

def PyValue.asStr? : PyValue → Option String
  | .str value => some value
  | _ => Option.none

/-- A frozen value is never an instance of `list`. -/
@[simp] theorem asList?_freezeJson (value : Json) : (freezeJson value).asList? = none := by
  cases value <;> simp [freezeJson, PyValue.asList?]

/-- `record.get(key)`, as the record hands it out. -/
def ForgeRecord.getItem (record : ForgeRecord) (key : String) : PyValue :=
  freezeJson (record.get key)

/-- Thawing what is handed out gives the field of the document. -/
theorem ForgeRecord.thaw_getItem (record : ForgeRecord) (key : String) :
    thawJson (record.getItem key) = record.get key :=
  thaw_freezeJson (record.get key)

end MncsForge.Records
