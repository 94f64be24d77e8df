import Mathlib
import MncsForge.Foundation.Dict

/-!
# JSON values

The values a JSON decoder yields, with objects kept in key order: a decoded
object forgets the order of its members, so the ordered list stands for it.
A float is carried by its shortest decimal text, which determines it.
-/

namespace MncsForge.Foundation

inductive Json where
  | null
  | bool (value : Bool)
  | int (value : Int)
  | float (text : String)
  | str (value : String)
  | arr (items : List Json)
  | obj (fields : List (String × Json))
  deriving Repr, Inhabited

namespace Json

/-! ## Equality -/

mutual

def beq : Json → Json → Bool
  | null, null => true
  | bool a, bool b => a == b
  | int a, int b => a == b
  | float a, float b => a == b
  | str a, str b => a == b
  | arr a, arr b => beqItems a b
  | obj a, obj b => beqFields a b
  | _, _ => false

def beqItems : List Json → List Json → Bool
  | [], [] => true
  | a :: as, b :: bs => beq a b && beqItems as bs
  | _, _ => false

def beqFields : List (String × Json) → List (String × Json) → Bool
  | [], [] => true
  | (k, a) :: as, (l, b) :: bs => k == l && beq a b && beqFields as bs
  | _, _ => false

end

mutual

theorem beq_iff : ∀ a b : Json, beq a b = true ↔ a = b
  | null, b => by cases b <;> simp [beq]
  | bool a, b => by cases b <;> simp [beq]
  | int a, b => by cases b <;> simp [beq]
  | float a, b => by cases b <;> simp [beq]
  | str a, b => by cases b <;> simp [beq]
  | arr a, b => by
      cases b with
      | arr b => simp [beq, beqItems_iff a b]
      | _ => simp [beq]
  | obj a, b => by
      cases b with
      | obj b => simp [beq, beqFields_iff a b]
      | _ => simp [beq]

theorem beqItems_iff : ∀ a b : List Json, beqItems a b = true ↔ a = b
  | [], b => by cases b <;> simp [beqItems]
  | a :: as, b => by
      cases b with
      | nil => simp [beqItems]
      | cons b bs => simp [beqItems, beq_iff a b, beqItems_iff as bs]

theorem beqFields_iff : ∀ a b : List (String × Json), beqFields a b = true ↔ a = b
  | [], b => by cases b <;> simp [beqFields]
  | (k, a) :: as, b => by
      cases b with
      | nil => simp [beqFields]
      | cons entry bs =>
          obtain ⟨l, b⟩ := entry
          simp [beqFields, beq_iff a b, beqFields_iff as bs]

end

instance : DecidableEq Json := fun a b => decidable_of_iff _ (beq_iff a b)

/-! ## Shape -/

/-- The decimal text of a finite float: it starts like a number and is told
apart from an integer by its point or exponent. -/
def isFiniteText (text : String) : Bool :=
  match text.toList with
  | [] => false
  | first :: rest =>
      (first.isDigit || first == '-') &&
      (first :: rest).all (fun c => c.isDigit || c == '-' || c == '+' || c == '.' || c == 'e') &&
      (first :: rest).any (fun c => c == '.' || c == 'e')

mutual

/-- Object keys increase and no float is infinite or not a number. -/
def WellFormed : Json → Prop
  | float text => isFiniteText text = true
  | arr items => WellFormedItems items
  | obj fields => Dict.Ordered fields ∧ WellFormedFields fields
  | _ => True

def WellFormedItems : List Json → Prop
  | [] => True
  | item :: items => WellFormed item ∧ WellFormedItems items

def WellFormedFields : List (String × Json) → Prop
  | [] => True
  | (_, value) :: fields => WellFormed value ∧ WellFormedFields fields

end

instance (d : Dict String Json) : Decidable (Dict.Ordered d) :=
  inferInstanceAs (Decidable (List.Pairwise _ _))

mutual

def decWellFormed : ∀ v : Json, Decidable (WellFormed v)
  | null | bool _ | int _ | str _ => isTrue trivial
  | float text => inferInstanceAs (Decidable (isFiniteText text = true))
  | arr items => decWellFormedItems items
  | obj fields => @instDecidableAnd _ _ inferInstance (decWellFormedFields fields)

def decWellFormedItems : ∀ vs : List Json, Decidable (WellFormedItems vs)
  | [] => isTrue trivial
  | item :: items =>
      @instDecidableAnd _ _ (decWellFormed item) (decWellFormedItems items)

def decWellFormedFields : ∀ fs : List (String × Json), Decidable (WellFormedFields fs)
  | [] => isTrue trivial
  | (_, value) :: fields =>
      @instDecidableAnd _ _ (decWellFormed value) (decWellFormedFields fields)

end

instance (v : Json) : Decidable (WellFormed v) := decWellFormed v

theorem wellFormedItems_iff {items : List Json} :
    WellFormedItems items ↔ ∀ item ∈ items, WellFormed item := by
  induction items with
  | nil => simp [WellFormedItems]
  | cons item items ih => simp [WellFormedItems, ih]

theorem wellFormedFields_iff {fields : List (String × Json)} :
    WellFormedFields fields ↔ ∀ entry ∈ fields, WellFormed entry.2 := by
  induction fields with
  | nil => simp [WellFormedFields]
  | cons entry fields ih => simp [WellFormedFields, ih]

theorem wellFormed_obj_iff {fields : List (String × Json)} :
    WellFormed (obj fields) ↔
      Dict.Ordered fields ∧ ∀ entry ∈ fields, WellFormed entry.2 := by
  rw [WellFormed, wellFormedFields_iff]

theorem wellFormed_obj_iff_get? {fields : Dict String Json} :
    WellFormed (obj fields) ↔ Dict.Ordered fields ∧
      ∀ key value, Dict.get? fields key = some value → WellFormed value := by
  rw [wellFormed_obj_iff]
  refine and_congr_right fun ordered => ?_
  exact Dict.forall_mem_iff ordered (p := fun _ value => WellFormed value)

mutual

/-- Every object keeps its keys in order, as every decoded value does. -/
def Keyed : Json → Prop
  | arr items => KeyedItems items
  | obj fields => Dict.Ordered fields ∧ KeyedFields fields
  | _ => True

def KeyedItems : List Json → Prop
  | [] => True
  | item :: items => Keyed item ∧ KeyedItems items

def KeyedFields : List (String × Json) → Prop
  | [] => True
  | (_, value) :: fields => Keyed value ∧ KeyedFields fields

end

theorem keyedFields_iff {fields : List (String × Json)} :
    KeyedFields fields ↔ ∀ entry ∈ fields, Keyed entry.2 := by
  induction fields with
  | nil => simp [KeyedFields]
  | cons entry fields ih => simp [KeyedFields, ih]

theorem keyed_obj_iff {fields : List (String × Json)} :
    Keyed (obj fields) ↔ Dict.Ordered fields ∧ ∀ entry ∈ fields, Keyed entry.2 := by
  rw [Keyed, keyedFields_iff]

mutual

theorem WellFormed.keyed : ∀ {v : Json}, WellFormed v → Keyed v
  | null, _ | bool _, _ | int _, _ | float _, _ | str _, _ => trivial
  | arr _, h => WellFormedItems.keyed h
  | obj _, h => ⟨h.1, WellFormedFields.keyed h.2⟩

theorem WellFormedItems.keyed : ∀ {items : List Json},
    WellFormedItems items → KeyedItems items
  | [], _ => trivial
  | _ :: _, h => ⟨WellFormed.keyed h.1, WellFormedItems.keyed h.2⟩

theorem WellFormedFields.keyed : ∀ {fields : List (String × Json)},
    WellFormedFields fields → KeyedFields fields
  | [], _ => trivial
  | (_, _) :: _, h => ⟨WellFormed.keyed h.1, WellFormedFields.keyed h.2⟩

end

mutual

/-- Containers below the outermost value, counted along the deepest path. -/
def height : Json → Nat
  | arr items => heightItems items
  | obj fields => heightFields fields
  | _ => 0

def heightItems : List Json → Nat
  | [] => 0
  | item :: items => max (height item + 1) (heightItems items)

def heightFields : List (String × Json) → Nat
  | [] => 0
  | (_, value) :: fields => max (height value + 1) (heightFields fields)

end

theorem heightFields_le_iff {fields : List (String × Json)} {n : Nat} :
    heightFields fields ≤ n ↔ ∀ entry ∈ fields, height entry.2 + 1 ≤ n := by
  induction fields with
  | nil => simp [heightFields]
  | cons entry fields ih =>
      simp only [heightFields, List.mem_cons, forall_eq_or_imp, ← ih]
      omega

theorem height_obj_le_iff {fields : Dict String Json} (ordered : Dict.Ordered fields)
    {n : Nat} : height (obj fields) ≤ n ↔
      ∀ key value, Dict.get? fields key = some value → height value + 1 ≤ n := by
  rw [height, heightFields_le_iff]
  exact Dict.forall_mem_iff ordered (p := fun _ value => height value + 1 ≤ n)

theorem height_lt_of_get? {fields : Dict String Json} {key : String} {value : Json}
    (h : Dict.get? fields key = some value) : height value < height (obj fields) :=
  heightFields_le_iff.mp le_rfl (key, value) (Dict.mem_of_get?_eq_some h)

/-! ## Reading -/

/-- An optional text, with `null` for `None`. -/
def ofText : Option String → Json
  | none => null
  | some text => str text

theorem ofText_injective : Function.Injective ofText := by
  rintro (_ | first) (_ | second) h
  · rfl
  · cases h
  · cases h
  · cases h
    rfl

def asStr? : Json → Option String
  | str value => some value
  | _ => none

def asObj? : Json → Option (Dict String Json)
  | obj fields => some fields
  | _ => none

/-- Truth of a value where the program tests it directly. -/
def truthy : Json → Bool
  | null => false
  | bool value => value
  | int value => value ≠ 0
  | float text => text ≠ "0.0" && text ≠ "-0.0"
  | str value => value ≠ ""
  | arr items => !items.isEmpty
  | obj fields => !fields.isEmpty

/-- Numeric equality with a list index: `True` and `1.0` equal `1`. -/
def isIndex (index : Nat) : Json → Bool
  | int value => value = index
  | bool value => index = if value then 1 else 0
  | float text => text = toString index ++ ".0"
  | _ => false

/-- The float text of a number; integers from 10^16 on, whose float text has an
exponent, are given the plain one. -/
def numberText : Json → Option String
  | int value => some (toString value ++ ".0")
  | bool value => some (if value then "1.0" else "0.0")
  | float text => some (if text = "-0.0" then "0.0" else text)
  | _ => none

mutual

/-- Equality as `==` compares values: numbers by value, the rest by shape. -/
def sameValue : Json → Json → Bool
  | arr a, arr b => sameItems a b
  | obj a, obj b => sameFields a b
  | str a, str b => a == b
  | null, null => true
  | a, b => (numberText a).isSome && numberText a == numberText b

def sameItems : List Json → List Json → Bool
  | [], [] => true
  | a :: as, b :: bs => sameValue a b && sameItems as bs
  | _, _ => false

def sameFields : List (String × Json) → List (String × Json) → Bool
  | [], [] => true
  | (k, a) :: as, (l, b) :: bs => k == l && sameValue a b && sameFields as bs
  | _, _ => false

end

mutual

theorem sameValue_self : ∀ v : Json, sameValue v v = true
  | null | bool _ | int _ | float _ | str _ => by simp [sameValue, numberText]
  | arr items => by rw [sameValue, sameItems_self items]
  | obj fields => by rw [sameValue, sameFields_self fields]

theorem sameItems_self : ∀ items : List Json, sameItems items items = true
  | [] => rfl
  | item :: items => by simp [sameItems, sameValue_self item, sameItems_self items]

theorem sameFields_self : ∀ fields : List (String × Json), sameFields fields fields = true
  | [] => rfl
  | (_, value) :: fields => by
      simp [sameFields, sameValue_self value, sameFields_self fields]

end

theorem asStr?_eq_some {v : Json} {s : String} : v.asStr? = some s ↔ v = str s := by
  cases v <;> simp [asStr?]

theorem asObj?_eq_some {v : Json} {d : Dict String Json} :
    v.asObj? = some d ↔ v = obj d := by
  cases v <;> simp [asObj?]

end Json

end MncsForge.Foundation
