import Mathlib
import MncsForge.Foundation.Json

/-!
# Canonical JSON text

Compact text with sorted keys and no escapes beyond the mandatory ones.  The
text of a well-formed value determines the value: a number ends where the next
delimiter starts, and every other value announces itself by its first
character.
-/

namespace MncsForge.Foundation.Json

/-! ## Encoding -/

def escapeChar (c : Char) : List Char :=
  if c = '"' then ['\\', '"']
  else if c = '\\' then ['\\', '\\']
  else if c = '\n' then ['\\', 'n']
  else if c = '\r' then ['\\', 'r']
  else if c = '\t' then ['\\', 't']
  else if c = '\x08' then ['\\', 'b']
  else if c = '\x0c' then ['\\', 'f']
  else if c.toNat < 0x20 then
    ['\\', 'u', '0', '0', Nat.digitChar (c.toNat / 16), Nat.digitChar (c.toNat % 16)]
  else [c]

def escapeChars (s : List Char) : List Char :=
  s.flatMap escapeChar

def stringChars (s : String) : List Char :=
  '"' :: (escapeChars s.toList ++ ['"'])

mutual

def canonicalChars : Json → List Char
  | null => ['n', 'u', 'l', 'l']
  | bool true => ['t', 'r', 'u', 'e']
  | bool false => ['f', 'a', 'l', 's', 'e']
  | int value => value.repr.toList
  | float text => text.toList
  | str value => stringChars value
  | arr [] => ['[', ']']
  | arr (item :: items) => '[' :: (canonicalChars item ++ itemsChars items)
  | obj [] => ['\x7b', '\x7d']
  | obj ((key, value) :: fields) =>
      '\x7b' :: (stringChars key ++ ':' :: (canonicalChars value ++ fieldsChars fields))

/-- The items after the first one, with the closing bracket. -/
def itemsChars : List Json → List Char
  | [] => [']']
  | item :: items => ',' :: (canonicalChars item ++ itemsChars items)

/-- The members after the first one, with the closing brace. -/
def fieldsChars : List (String × Json) → List Char
  | [] => ['\x7d']
  | (key, value) :: fields =>
      ',' :: (stringChars key ++ ':' :: (canonicalChars value ++ fieldsChars fields))

end

def canonicalText (v : Json) : String :=
  String.ofList (canonicalChars v)

def canonicalBytes (v : Json) : List UInt8 :=
  (canonicalText v).toUTF8.data.toList

/-- `str()` of a value in a message; a container is shown by its canonical text. -/
def display : Json → String
  | null => "None"
  | bool value => if value then "True" else "False"
  | int value => toString value
  | float text => text
  | str value => value
  | container => canonicalText container

/-! ## Strings -/

def hexValue (c : Char) : Nat :=
  if c.isDigit then c.toNat - '0'.toNat else c.toNat - 'a'.toNat + 10

/-- Reads one escaped character back. -/
def unescape? : List Char → Option (Char × List Char)
  | [] => none
  | '\\' :: rest =>
      match rest with
      | 'n' :: rest => some ('\n', rest)
      | 'r' :: rest => some ('\r', rest)
      | 't' :: rest => some ('\t', rest)
      | 'b' :: rest => some ('\x08', rest)
      | 'f' :: rest => some ('\x0c', rest)
      | 'u' :: _ :: _ :: high :: low :: rest =>
          some (Char.ofNat (hexValue high * 16 + hexValue low), rest)
      | c :: rest => some (c, rest)
      | [] => none
  | c :: rest => some (c, rest)

private theorem hexValue_digits :
    ∀ n < 0x20, hexValue (Nat.digitChar (n / 16)) * 16 +
      hexValue (Nat.digitChar (n % 16)) = n := by
  decide

theorem unescape?_suffix (c : Char) (rest : List Char) :
    unescape? (escapeChar c ++ rest) = some (c, rest) := by
  unfold escapeChar
  split_ifs with h₁ h₂ h₃ h₄ h₅ h₆ h₇ h₈
  case pos => rw [h₁]; rfl
  case pos => rw [h₂]; rfl
  case pos => rw [h₃]; rfl
  case pos => rw [h₄]; rfl
  case pos => rw [h₅]; rfl
  case pos => rw [h₆]; rfl
  case pos => rw [h₇]; rfl
  case pos =>
    simp only [List.cons_append, List.nil_append, unescape?]
    rw [hexValue_digits _ h₈, Char.ofNat_toNat]
  case neg =>
    simp only [List.cons_append, List.nil_append]
    unfold unescape?
    split
    · rename_i heq
      simp at heq
    · rename_i heq
      exact absurd (List.cons.inj heq).1 h₂
    · rename_i heq
      cases heq
      rfl

private theorem escapeChar_ne_quote (c : Char) (rest tail : List Char) :
    escapeChar c ++ rest ≠ '"' :: tail := by
  unfold escapeChar
  split_ifs with h₁ <;> simp
  intro hc
  exact absurd hc h₁

theorem escapeChars_suffix {s t r u : List Char}
    (h : escapeChars s ++ '"' :: r = escapeChars t ++ '"' :: u) : s = t ∧ r = u := by
  induction s generalizing t with
  | nil =>
      cases t with
      | nil => simpa [escapeChars] using h
      | cons d t =>
          simp only [escapeChars, List.flatMap_cons, List.flatMap_nil, List.nil_append,
            List.append_assoc] at h
          exact absurd h.symm (escapeChar_ne_quote d _ _)
  | cons c s ih =>
      simp only [escapeChars, List.flatMap_cons, List.append_assoc] at h ih
      cases t with
      | nil =>
          simp only [List.flatMap_nil, List.nil_append] at h
          exact absurd h (escapeChar_ne_quote c _ _)
      | cons d t =>
          simp only [List.flatMap_cons, List.append_assoc] at h
          have heads := congrArg unescape? h
          rw [unescape?_suffix, unescape?_suffix] at heads
          obtain ⟨rfl, tails⟩ := Prod.mk.inj (Option.some.inj heads)
          obtain ⟨rfl, rest⟩ := ih tails
          exact ⟨rfl, rest⟩

theorem stringChars_suffix {s t : String} {r u : List Char}
    (h : stringChars s ++ r = stringChars t ++ u) : s = t ∧ r = u := by
  simp only [stringChars, List.cons_append, List.append_assoc, List.nil_append,
    List.cons.injEq, true_and] at h
  obtain ⟨chars, rest⟩ := escapeChars_suffix h
  exact ⟨String.toList_inj.mp chars, rest⟩

/-! ## Numbers -/

def isNumberChar (c : Char) : Bool :=
  c.isDigit || c == '-' || c == '+' || c == '.' || c == 'e'

/-- The text does not go on as a number. -/
def Delimited (rest : List Char) : Prop :=
  ∀ c ∈ rest.head?, isNumberChar c = false

theorem number_suffix {a b r s : List Char}
    (ha : ∀ c ∈ a, isNumberChar c = true) (hb : ∀ c ∈ b, isNumberChar c = true)
    (hr : Delimited r) (hs : Delimited s) (h : a ++ r = b ++ s) : a = b ∧ r = s := by
  induction a generalizing b with
  | nil =>
      cases b with
      | nil => exact ⟨rfl, h⟩
      | cons d b =>
          simp only [List.nil_append] at h
          have := hr d (by simp [h])
          simp [hb d (by simp)] at this
  | cons c a ih =>
      cases b with
      | nil =>
          simp only [List.nil_append] at h
          have := hs c (by simp [← h])
          simp [ha c (by simp)] at this
      | cons d b =>
          obtain ⟨rfl, tails⟩ := List.cons.inj h
          obtain ⟨rfl, rest⟩ := ih (fun c hc => ha c (List.mem_cons_of_mem _ hc))
            (fun c hc => hb c (List.mem_cons_of_mem _ hc)) tails
          exact ⟨rfl, rest⟩

private theorem digit_of_mem_natRepr {n : Nat} {c : Char} (hc : c ∈ n.repr.toList) :
    c.isDigit = true := by
  rw [Nat.toList_repr] at hc
  exact Nat.isDigit_of_mem_toDigits (by omega) (by omega) hc

private theorem intRepr_chars {n : Int} {c : Char} (hc : c ∈ n.repr.toList) :
    c.isDigit = true ∨ c = '-' := by
  cases n with
  | ofNat n => exact Or.inl (digit_of_mem_natRepr hc)
  | negSucc n =>
      simp only [Int.repr, String.toList_append, List.mem_append] at hc
      rcases hc with hc | hc
      · exact Or.inr (by simpa using hc)
      · exact Or.inl (digit_of_mem_natRepr hc)

theorem isNumberChar_of_mem_int {n : Int} {c : Char} (hc : c ∈ n.repr.toList) :
    isNumberChar c = true := by
  rcases intRepr_chars hc with h | h <;> simp [isNumberChar, h]

private theorem intRepr_ne_nil (n : Int) : n.repr.toList ≠ [] := by
  cases n with
  | ofNat n =>
      rw [Int.repr, Nat.toList_repr]
      exact Nat.toDigits_ne_nil
  | negSucc n => simp [Int.repr]

theorem isNumberChar_of_mem_float {text : String} (h : isFiniteText text = true)
    {c : Char} (hc : c ∈ text.toList) : isNumberChar c = true := by
  unfold isFiniteText at h
  split at h
  · cases h
  · rename_i first rest heq
    rw [heq] at hc
    simp only [Bool.and_eq_true, List.all_eq_true] at h
    exact h.1.2 c hc

private theorem float_lead {text : String} (h : isFiniteText text = true) :
    ∃ c rest, text.toList = c :: rest ∧ (c.isDigit = true ∨ c = '-') := by
  unfold isFiniteText at h
  split at h
  · cases h
  · rename_i first rest heq
    simp only [Bool.and_eq_true, Bool.or_eq_true, beq_iff_eq] at h
    exact ⟨first, rest, heq, h.1.1⟩

private theorem float_ne_int {text : String} (h : isFiniteText text = true) (n : Int) :
    text.toList ≠ n.repr.toList := by
  intro heq
  unfold isFiniteText at h
  split at h
  · cases h
  · rename_i first rest hlist
    simp only [Bool.and_eq_true, List.any_eq_true, Bool.or_eq_true, beq_iff_eq] at h
    obtain ⟨c, hc, hmark⟩ := h.2
    rw [← hlist, heq] at hc
    rcases intRepr_chars hc with hdigit | rfl
    · rcases hmark with rfl | rfl <;> simp at hdigit
    · rcases hmark with h | h <;> simp at h

/-! ## The first character -/

def shape : Json → Nat
  | null => 0
  | bool true => 1
  | bool false => 2
  | str _ => 3
  | arr _ => 4
  | obj _ => 5
  | int _ | float _ => 6

def leadShape (c : Char) : Nat :=
  if c = 'n' then 0
  else if c = 't' then 1
  else if c = 'f' then 2
  else if c = '"' then 3
  else if c = '[' then 4
  else if c = '\x7b' then 5
  else 6

private theorem leadShape_number {c : Char} (h : c.isDigit = true ∨ c = '-') :
    leadShape c = 6 ∧ c ≠ ']' := by
  rcases h with h | rfl
  · unfold leadShape
    split_ifs with h₁ h₂ h₃ h₄ h₅ h₆
    case neg =>
      refine ⟨rfl, ?_⟩
      rintro rfl
      simp at h
    all_goals
      subst c
      simp at h
  · exact ⟨rfl, by decide⟩

theorem canonicalChars_lead {v : Json} (h : v.WellFormed) :
    ∃ c rest, canonicalChars v = c :: rest ∧ leadShape c = shape v ∧ c ≠ ']' := by
  cases v with
  | null => exact ⟨_, _, rfl, rfl, by decide⟩
  | bool b => cases b <;> exact ⟨_, _, rfl, rfl, by decide⟩
  | int n =>
      obtain ⟨c, rest, heq⟩ := List.exists_cons_of_ne_nil (intRepr_ne_nil n)
      exact ⟨c, rest, heq, leadShape_number (intRepr_chars (by rw [heq]; simp))⟩
  | float text =>
      obtain ⟨c, rest, heq, hc⟩ := float_lead h
      exact ⟨c, rest, heq, leadShape_number hc⟩
  | str s => exact ⟨_, _, rfl, rfl, by decide⟩
  | arr items => cases items <;> exact ⟨_, _, rfl, rfl, by decide⟩
  | obj fields =>
      cases fields with
      | nil => exact ⟨_, _, rfl, rfl, by decide⟩
      | cons entry fields => exact ⟨_, _, rfl, rfl, by decide⟩

private theorem shape_eq {v w : Json} (hv : v.WellFormed) (hw : w.WellFormed)
    {r s : List Char} (h : canonicalChars v ++ r = canonicalChars w ++ s) :
    shape v = shape w := by
  obtain ⟨c, rest, hc, hcs, _⟩ := canonicalChars_lead hv
  obtain ⟨d, rest', hd, hds, _⟩ := canonicalChars_lead hw
  rw [hc, hd] at h
  rw [← hcs, ← hds, (List.cons.inj h).1]

private theorem ne_closing {v : Json} (hv : v.WellFormed) {r s : List Char} :
    canonicalChars v ++ r ≠ ']' :: s := by
  intro h
  obtain ⟨c, rest, hc, _, hne⟩ := canonicalChars_lead hv
  rw [hc] at h
  exact hne (List.cons.inj h).1

/-! ## The text determines the value -/

/-- The unique reading of a scalar. -/
private theorem scalar_suffix {v w : Json} (hv : v.WellFormed) (hw : w.WellFormed)
    (harr : shape v ≠ 4) (hobj : shape v ≠ 5) {r s : List Char}
    (hr : Delimited r) (hs : Delimited s)
    (h : canonicalChars v ++ r = canonicalChars w ++ s) : v = w ∧ r = s := by
  have hshape := shape_eq hv hw h
  cases v with
  | null =>
      cases w with
      | null => exact ⟨rfl, by simpa [canonicalChars] using h⟩
      | bool b => cases b <;> simp [shape] at hshape
      | _ => simp [shape] at hshape
  | bool b =>
      cases w with
      | bool b' =>
          cases b <;> cases b' <;> simp [shape] at hshape
          · exact ⟨rfl, by simpa [canonicalChars] using h⟩
          · exact ⟨rfl, by simpa [canonicalChars] using h⟩
      | _ => cases b <;> simp [shape] at hshape
  | str a =>
      cases w with
      | str b =>
          obtain ⟨rfl, rest⟩ := stringChars_suffix h
          exact ⟨rfl, rest⟩
      | bool b => cases b <;> simp [shape] at hshape
      | _ => simp [shape] at hshape
  | int n =>
      have hn : ∀ c ∈ n.repr.toList, isNumberChar c = true :=
        fun c hc => isNumberChar_of_mem_int hc
      cases w with
      | int m =>
          obtain ⟨texts, rest⟩ :=
            number_suffix hn (fun c hc => isNumberChar_of_mem_int hc) hr hs h
          exact ⟨by rw [Int.repr_injective (String.toList_inj.mp texts)], rest⟩
      | float text =>
          obtain ⟨texts, _⟩ :=
            number_suffix hn (fun c hc => isNumberChar_of_mem_float hw hc) hr hs h
          exact absurd texts.symm (float_ne_int hw n)
      | bool b => cases b <;> simp [shape] at hshape
      | _ => simp [shape] at hshape
  | float text =>
      have ht : ∀ c ∈ text.toList, isNumberChar c = true :=
        fun c hc => isNumberChar_of_mem_float hv hc
      cases w with
      | int m =>
          obtain ⟨texts, _⟩ :=
            number_suffix ht (fun c hc => isNumberChar_of_mem_int hc) hr hs h
          exact absurd texts (float_ne_int hv m)
      | float text' =>
          obtain ⟨texts, rest⟩ :=
            number_suffix ht (fun c hc => isNumberChar_of_mem_float hw hc) hr hs h
          exact ⟨by rw [String.toList_inj.mp texts], rest⟩
      | bool b => cases b <;> simp [shape] at hshape
      | _ => simp [shape] at hshape
  | arr items => exact absurd rfl harr
  | obj fields => exact absurd rfl hobj

private theorem delimited_itemsChars (items : List Json) (r : List Char) :
    Delimited (itemsChars items ++ r) := by
  cases items <;> simp [itemsChars, Delimited, isNumberChar]

private theorem delimited_fieldsChars (fields : List (String × Json)) (r : List Char) :
    Delimited (fieldsChars fields ++ r) := by
  cases fields <;> simp [fieldsChars, Delimited, isNumberChar]

mutual

theorem canonicalChars_suffix : ∀ (v w : Json), v.WellFormed → w.WellFormed →
    ∀ {r s : List Char}, Delimited r → Delimited s →
    canonicalChars v ++ r = canonicalChars w ++ s → v = w ∧ r = s
  | null, _, hv, hw, _, _, hr, hs, h
  | bool true, _, hv, hw, _, _, hr, hs, h
  | bool false, _, hv, hw, _, _, hr, hs, h
  | int _, _, hv, hw, _, _, hr, hs, h
  | float _, _, hv, hw, _, _, hr, hs, h
  | str _, _, hv, hw, _, _, hr, hs, h =>
      scalar_suffix hv hw (by simp [shape]) (by simp [shape]) hr hs h
  | arr items, w, hv, hw, r, s, _, _, h => by
      have hshape := shape_eq hv hw h
      cases w with
      | arr items' =>
          obtain ⟨heads, rest⟩ := arr_suffix items items' hv hw h
          exact ⟨by rw [heads], rest⟩
      | bool b => cases b <;> simp [shape] at hshape
      | _ => simp [shape] at hshape
  | obj fields, w, hv, hw, r, s, _, _, h => by
      have hshape := shape_eq hv hw h
      cases w with
      | obj fields' =>
          obtain ⟨heads, rest⟩ := obj_suffix fields fields' hv.2 hw.2 h
          exact ⟨by rw [heads], rest⟩
      | bool b => cases b <;> simp [shape] at hshape
      | _ => simp [shape] at hshape

theorem arr_suffix : ∀ (items items' : List Json), WellFormedItems items →
    WellFormedItems items' → ∀ {r s : List Char},
    canonicalChars (arr items) ++ r = canonicalChars (arr items') ++ s →
    items = items' ∧ r = s
  | [], [], _, _, r, s, h => by simpa [canonicalChars] using h
  | [], item :: items, _, hw, r, s, h => by
      simp only [canonicalChars, List.cons_append, List.nil_append, List.append_assoc,
        List.cons.injEq, true_and] at h
      exact absurd h.symm (ne_closing hw.1)
  | item :: items, [], hv, _, r, s, h => by
      simp only [canonicalChars, List.cons_append, List.nil_append, List.append_assoc,
        List.cons.injEq, true_and] at h
      exact absurd h (ne_closing hv.1)
  | item :: items, item' :: items', hv, hw, r, s, h => by
      simp only [canonicalChars, List.cons_append, List.append_assoc, List.cons.injEq,
        true_and] at h
      obtain ⟨rfl, tails⟩ := canonicalChars_suffix item item' hv.1 hw.1
        (delimited_itemsChars items r) (delimited_itemsChars items' s) h
      obtain ⟨rfl, rest⟩ := itemsChars_suffix items items' hv.2 hw.2 tails
      exact ⟨rfl, rest⟩

theorem itemsChars_suffix : ∀ (items items' : List Json), WellFormedItems items →
    WellFormedItems items' → ∀ {r s : List Char},
    itemsChars items ++ r = itemsChars items' ++ s → items = items' ∧ r = s
  | [], [], _, _, r, s, h => by simpa [itemsChars] using h
  | [], item :: items, _, _, r, s, h => by simp [itemsChars] at h
  | item :: items, [], _, _, r, s, h => by simp [itemsChars] at h
  | item :: items, item' :: items', hv, hw, r, s, h => by
      simp only [itemsChars, List.cons_append, List.append_assoc, List.cons.injEq,
        true_and] at h
      obtain ⟨rfl, tails⟩ := canonicalChars_suffix item item' hv.1 hw.1
        (delimited_itemsChars items r) (delimited_itemsChars items' s) h
      obtain ⟨rfl, rest⟩ := itemsChars_suffix items items' hv.2 hw.2 tails
      exact ⟨rfl, rest⟩

theorem obj_suffix : ∀ (fields fields' : List (String × Json)),
    WellFormedFields fields → WellFormedFields fields' → ∀ {r s : List Char},
    canonicalChars (obj fields) ++ r = canonicalChars (obj fields') ++ s →
    fields = fields' ∧ r = s
  | [], [], _, _, r, s, h => by simpa [canonicalChars] using h
  | [], (key, value) :: fields, _, _, r, s, h => by
      simp [canonicalChars, stringChars] at h
  | (key, value) :: fields, [], _, _, r, s, h => by
      simp [canonicalChars, stringChars] at h
  | (key, value) :: fields, (key', value') :: fields', hv, hw, r, s, h => by
      simp only [canonicalChars, List.cons_append, List.append_assoc, List.cons.injEq,
        true_and] at h
      obtain ⟨rfl, values⟩ := stringChars_suffix h
      obtain ⟨rfl, tails⟩ := canonicalChars_suffix value value' hv.1 hw.1
        (delimited_fieldsChars fields r) (delimited_fieldsChars fields' s)
        (List.cons.inj values).2
      obtain ⟨rfl, rest⟩ := fieldsChars_suffix fields fields' hv.2 hw.2 tails
      exact ⟨rfl, rest⟩

theorem fieldsChars_suffix : ∀ (fields fields' : List (String × Json)),
    WellFormedFields fields → WellFormedFields fields' → ∀ {r s : List Char},
    fieldsChars fields ++ r = fieldsChars fields' ++ s → fields = fields' ∧ r = s
  | [], [], _, _, r, s, h => by simpa [fieldsChars] using h
  | [], (key, value) :: fields, _, _, r, s, h => by simp [fieldsChars] at h
  | (key, value) :: fields, [], _, _, r, s, h => by simp [fieldsChars] at h
  | (key, value) :: fields, (key', value') :: fields', hv, hw, r, s, h => by
      simp only [fieldsChars, List.cons_append, List.append_assoc, List.cons.injEq,
        true_and] at h
      obtain ⟨rfl, values⟩ := stringChars_suffix h
      obtain ⟨rfl, tails⟩ := canonicalChars_suffix value value' hv.1 hw.1
        (delimited_fieldsChars fields r) (delimited_fieldsChars fields' s)
        (List.cons.inj values).2
      obtain ⟨rfl, rest⟩ := fieldsChars_suffix fields fields' hv.2 hw.2 tails
      exact ⟨rfl, rest⟩

end

theorem canonicalText_injective {v w : Json} (hv : v.WellFormed) (hw : w.WellFormed)
    (h : canonicalText v = canonicalText w) : v = w := by
  have chars : canonicalChars v ++ [] = canonicalChars w ++ [] := by
    have := congrArg String.toList h
    simpa [canonicalText] using this
  exact (canonicalChars_suffix v w hv hw (by simp [Delimited]) (by simp [Delimited])
    chars).1

theorem canonicalBytes_injective {v w : Json} (hv : v.WellFormed) (hw : w.WellFormed)
    (h : canonicalBytes v = canonicalBytes w) : v = w := by
  refine canonicalText_injective hv hw (String.toByteArray_inj.mp ?_)
  exact ByteArray.ext (Array.toList_inj.mp h)

end MncsForge.Foundation.Json
