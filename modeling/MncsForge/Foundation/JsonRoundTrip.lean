import Mathlib
import MncsForge.Foundation.ByteLines
import MncsForge.Foundation.CanonicalJson
import MncsForge.Foundation.JsonText

/-!
# Reading canonical JSON text back

The reader yields the value whose canonical text it is given, as long as the dialect
takes its numbers and has room for its containers.
-/

namespace MncsForge.Foundation.JsonText

open Json (canonicalChars itemsChars fieldsChars stringChars escapeChar escapeChars)

/-- A character that ends a value. -/
def Closes (c : Char) : Prop := c = ',' ∨ c = ']' ∨ c = '\x7d' ∨ c = '\n'

/-- The part of a number that a text leads to. -/
def numberParts (part : NumberPart) (text : List Char) : Option NumberPart :=
  text.foldlM numberPart? part

/-- The part of a number after its first character. -/
def firstPart? (c : Char) : Option NumberPart :=
  if c = '-' then some .minus
  else if c = '0' then some .zero
  else if c.isDigit then some .digits
  else none

/-- A number with a fraction or an exponent. -/
def IsDecimal (text : List Char) : Prop :=
  ∃ first rest start part, text = first :: rest ∧ firstPart? first = some start ∧
    numberParts start rest = some part ∧ (part = .fraction ∨ part = .exponentDigits)

section Reader

variable (dialect : Dialect)

/-- One more container may be open beside so many. -/
def Room (containers : Nat) : Prop :=
  ∀ limit ∈ dialect.depth, containers < limit

mutual

/-- The dialect takes the numbers of the value and has room for its containers. -/
def Legible (containers : Nat) : Json → Prop
  | .int value => ∀ limit ∈ dialect.digits, digitCount value.repr.toList ≤ limit
  | .float text => IsDecimal text.toList ∧ dialect.float text = .float text
  | .arr items => Room dialect containers ∧ LegibleItems (containers + 1) items
  | .obj fields => Room dialect containers ∧ LegibleFields (containers + 1) fields
  | _ => True

def LegibleItems (containers : Nat) : List Json → Prop
  | [] => True
  | item :: items => Legible containers item ∧ LegibleItems containers items

def LegibleFields (containers : Nat) : List (String × Json) → Prop
  | [] => True
  | (_, value) :: fields => Legible containers value ∧ LegibleFields containers fields

end

/-- The dialects differ in their constants alone. -/
structure SameLimits (first second : Dialect) : Prop where
  digits : first.digits = second.digits
  depth : first.depth = second.depth
  float : first.float = second.float

theorem SameLimits.refl : SameLimits dialect dialect := ⟨rfl, rfl, rfl⟩

section Limits

variable {dialect} {other : Dialect}

theorem Room.congr (same : SameLimits dialect other) {fewer containers : Nat}
    (h : Room dialect containers) (le : fewer ≤ containers) : Room other fewer :=
  fun limit given => Nat.lt_of_le_of_lt le (h limit (same.depth ▸ given))

mutual

theorem Legible.congr (same : SameLimits dialect other) : ∀ {v : Json} {fewer containers : Nat},
    Legible dialect containers v → fewer ≤ containers → Legible other fewer v
  | .null, _, _, _, _ | .bool _, _, _, _, _ | .str _, _, _, _, _ => trivial
  | .int _, _, _, h, _ => fun limit given => h limit (same.digits ▸ given)
  | .float text, _, _, h, _ => ⟨h.1, (congrFun same.float text).symm.trans h.2⟩
  | .arr _, _, _, h, le =>
      ⟨h.1.congr same le, LegibleItems.congr same h.2 (Nat.succ_le_succ le)⟩
  | .obj _, _, _, h, le =>
      ⟨h.1.congr same le, LegibleFields.congr same h.2 (Nat.succ_le_succ le)⟩

theorem LegibleItems.congr (same : SameLimits dialect other) :
    ∀ {items : List Json} {fewer containers : Nat}, LegibleItems dialect containers items →
      fewer ≤ containers → LegibleItems other fewer items
  | [], _, _, _, _ => trivial
  | _ :: _, _, _, h, le => ⟨Legible.congr same h.1 le, LegibleItems.congr same h.2 le⟩

theorem LegibleFields.congr (same : SameLimits dialect other) :
    ∀ {fields : List (String × Json)} {fewer containers : Nat},
    LegibleFields dialect containers fields → fewer ≤ containers →
      LegibleFields other fewer fields
  | [], _, _, _, _ => trivial
  | _ :: _, _, _, h, le => ⟨Legible.congr same h.1 le, LegibleFields.congr same h.2 le⟩

end

/-- An object of texts and of numbers short enough is read. -/
theorem legible_flat (room : Room dialect 0) {fields : Dict String Json}
    (flat : ∀ entry ∈ fields, (∃ text, entry.2 = .str text) ∨ ∃ number : Int,
      entry.2 = .int number ∧ ∀ limit ∈ dialect.digits, digitCount number.repr.toList ≤ limit) :
    Legible dialect 0 (.obj fields) := by
  refine ⟨room, ?_⟩
  induction fields with
  | nil => trivial
  | cons entry fields ih =>
      rw [List.forall_mem_cons] at flat
      obtain ⟨key, value⟩ := entry
      refine ⟨?_, ih flat.2⟩
      obtain ⟨text, rfl⟩ | ⟨number, rfl, short⟩ := flat.1
      · trivial
      · exact short

end Limits

/-! ## Runs -/

/-- A reader that looks at every state it comes to. -/
def scan (check : State → Except LoadError Unit) (state : State) (text : List Char) :
    Except LoadError State :=
  text.foldlM
    (fun state c => do
      let next ← step dialect state c
      check next
      .ok next)
    state

/-- The state repeats no key. -/
def Fresh (state : State) : Prop :=
  ∀ key fields stack, state = .colon key fields stack → key ∉ Dict.keys fields

/-- The states without a repeated key are let through. -/
def LetsFresh (check : State → Except LoadError Unit) : Prop :=
  ∀ state, Fresh state → check state = .ok ()

theorem fresh_string (place : Place) (part : StringPart) (high : Option Nat)
    (text : List Char) : Fresh (.string place part high text) := by
  intro _ _ _ h
  cases h

theorem fresh_value (stack : List Frame) : Fresh (.value stack) := by
  intro _ _ _ h
  cases h

theorem fresh_number (part : NumberPart) (integral : Bool) (text : List Char)
    (stack : List Frame) : Fresh (.number part integral text stack) := by
  intro _ _ _ h
  cases h

theorem fresh_word (word : Word) (read : Nat) (stack : List Frame) :
    Fresh (.word word read stack) := by
  intro _ _ _ h
  cases h

theorem fresh_complete (value : Json) (stack : List Frame) : Fresh (complete value stack) := by
  intro _ _ _ h
  cases stack with
  | nil => cases h
  | cons frame stack => cases frame <;> cases h

theorem run_eq_scan (state : State) (text : List Char) :
    run dialect state text = scan dialect (fun _ => .ok ()) state text := by
  rw [run, scan]
  congr 1
  funext state c
  cases step dialect state c <;> rfl

private theorem hexDigit?_digitChar : ∀ n < 16, hexDigit? (Nat.digitChar n) = some n := by
  decide

section Checked

variable {dialect} {check : State → Except LoadError Unit} (lets : LetsFresh check)

@[simp] theorem scan_nil (state : State) :
    scan dialect check state [] = .ok state := rfl

theorem scan_cons (state : State) (c : Char) (text : List Char) :
    scan dialect check state (c :: text) =
      (do
        let next ← step dialect state c
        check next
        scan dialect check next text) := by
  simp only [scan, List.foldlM_cons, bind_assoc]
  rfl

include lets

theorem scan_step {state next : State} {c : Char} {text : List Char}
    (fresh : Fresh next) (h : step dialect state c = .ok next) :
    scan dialect check state (c :: text) = scan dialect check next text := by
  rw [scan_cons, h]
  change (check next >>= fun _ => scan dialect check next text) = _
  rw [lets next fresh]
  rfl

/-! ## Strings -/

/-- An escape of one letter. -/
theorem scan_simpleEscape {letter c : Char} (unquoted : letter ≠ 'u')
    (spells : simpleEscape? letter = some c) (place : Place) (text rest : List Char) :
    scan dialect check (.string place .plain none text) ('\\' :: letter :: rest) =
      scan dialect check (.string place .plain none (c :: text)) rest := by
  have backslash : step dialect (.string place .plain none text) '\\' =
      .ok (.string place .escape none text) := rfl
  rw [scan_step lets (fresh_string _ _ _ _) backslash]
  exact scan_step lets (fresh_string _ _ _ _) (by simp [step, stringStep, unquoted, spells, flush])

/-- An escape of a code unit below the surrogates. -/
theorem scan_unicodeEscape {c : Char} (low : c.toNat < 0x20) (place : Place)
    (text rest : List Char) :
    scan dialect check (.string place .plain none text)
        ('\\' :: 'u' :: '0' :: '0' :: Nat.digitChar (c.toNat / 16) ::
          Nat.digitChar (c.toNat % 16) :: rest) =
      scan dialect check (.string place .plain none (c :: text)) rest := by
  have tens := hexDigit?_digitChar (c.toNat / 16) (by omega)
  have ones := hexDigit?_digitChar (c.toNat % 16) (by omega)
  have zero : hexDigit? '0' = some 0 := rfl
  have whole : c.toNat / 16 * 16 + c.toNat % 16 = c.toNat := by omega
  have notHigh : isHigh c.toNat = false := by simp [isHigh]; omega
  have notLow : isLow c.toNat = false := by simp [isLow]; omega
  have through (next : StringPart) {part : StringPart} {d : Char} {rest : List Char}
      (h : stringStep place part none text d = .ok (.string place next none text)) :
      scan dialect check (.string place part none text) (d :: rest) =
        scan dialect check (.string place next none text) rest :=
    scan_step lets (fresh_string _ _ _ _) h
  rw [through .escape rfl, through (.unicode []) rfl,
    through (.unicode ['0']) (by simp [stringStep, zero]),
    through (.unicode ['0', '0']) (by simp [stringStep, zero]),
    through (.unicode ['0', '0', Nat.digitChar (c.toNat / 16)]) (by simp [stringStep, tens])]
  refine scan_step lets (fresh_string _ _ _ _) ?_
  simp [step, stringStep, tens, ones, zero, whole, unitState, notHigh, notLow, Char.ofNat_toNat]

theorem scan_escapeChar (place : Place) (text rest : List Char) (c : Char) :
    scan dialect check (.string place .plain none text) (escapeChar c ++ rest) =
      scan dialect check (.string place .plain none (c :: text)) rest := by
  have escaped {letter d : Char} (unquoted : letter ≠ 'u')
      (spells : simpleEscape? letter = some d) :=
    @scan_simpleEscape dialect check lets letter d unquoted spells place text rest
  unfold escapeChar
  split_ifs with h₁ h₂ h₃ h₄ h₅ h₆ h₇ h₈
  case pos => subst h₁; exact escaped (by decide) rfl
  case pos => subst h₂; exact escaped (by decide) rfl
  case pos => subst h₃; exact escaped (by decide) rfl
  case pos => subst h₄; exact escaped (by decide) rfl
  case pos => subst h₅; exact escaped (by decide) rfl
  case pos => subst h₆; exact escaped (by decide) rfl
  case pos => subst h₇; exact escaped (by decide) rfl
  case pos => exact scan_unicodeEscape lets h₈ place text rest
  case neg =>
    exact scan_step lets (fresh_string _ _ _ _) (by simp [step, stringStep, h₁, h₂, h₈, flush])

theorem scan_escapeChars (place : Place) (text rest s : List Char) :
    scan dialect check (.string place .plain none text) (escapeChars s ++ rest) =
      scan dialect check (.string place .plain none (s.reverse ++ text)) rest := by
  induction s generalizing text with
  | nil => simp [escapeChars]
  | cons c s ih =>
      have head : escapeChars (c :: s) = escapeChar c ++ escapeChars s := by simp [escapeChars]
      rw [head, List.append_assoc, scan_escapeChar lets, ih]
      simp

/-- A string is read up to its closing quote. -/
theorem scan_string {place : Place} {s : String}
    (fresh : Fresh (closeString place s.toList.reverse)) (rest : List Char) :
    scan dialect check (.string place .plain none []) (escapeChars s.toList ++ '"' :: rest) =
      scan dialect check (closeString place s.toList.reverse) rest := by
  rw [scan_escapeChars lets, List.append_nil]
  exact scan_step lets fresh (by simp [step, stringStep, flush])

/-! ## Numbers -/

omit lets in
theorem Closes.numberPart? {c : Char} (h : Closes c) (part : NumberPart) :
    numberPart? part c = none := by
  obtain rfl | rfl | rfl | rfl := h <;> cases part <;> rfl

omit lets in
/-- The number is complete at the closing character. -/
theorem scan_number_end {part : NumberPart} {integral : Bool} {text rest : List Char}
    {stack : List Frame} {value : Json} {c : Char} (closes : Closes c)
    (ends : finishNumber dialect part integral text stack = .ok (complete value stack)) :
    scan dialect check (.number part integral text stack) (c :: rest) =
      scan dialect check (complete value stack) (c :: rest) := by
  have other : c ≠ 'I' := by obtain rfl | rfl | rfl | rfl := closes <;> decide
  have same : step dialect (complete value stack) c = punctuate (complete value stack) c := by
    cases stack with
    | nil => rfl
    | cons frame stack => cases frame <;> rfl
  have ended : step dialect (.number part integral text stack) c =
      punctuate (complete value stack) c := by
    simp [step, numberStep, closes.numberPart?, other, ends, bind, Except.bind]
  rw [scan_cons, scan_cons, same, ended]

theorem scan_numberParts {part last : NumberPart} {integral : Bool} {seen text : List Char}
    {stack : List Frame} (parts : numberParts part text = some last) (rest : List Char) :
    ∃ integral', scan dialect check (.number part integral seen stack) (text ++ rest) =
      scan dialect check (.number last integral' (text.reverse ++ seen) stack) rest := by
  induction text generalizing part integral seen with
  | nil =>
      cases parts
      exact ⟨integral, rfl⟩
  | cons c text ih =>
      obtain ⟨next, hnext, parts⟩ := Option.bind_eq_some_iff.mp parts
      obtain ⟨integral', read⟩ := @ih next (integral && next != .fraction) (c :: seen) parts
      refine ⟨integral', ?_⟩
      rw [List.cons_append,
        scan_step lets (fresh_number _ _ _ _) (by rw [step, numberStep, hnext]), read]
      simp

omit lets in
theorem startValue_number {c : Char} {part : NumberPart} (h : firstPart? c = some part)
    (stack : List Frame) :
    isWhitespace c = false ∧ startValue dialect stack c = .ok (.number part true [c] stack) := by
  unfold firstPart? at h
  split_ifs at h with minus zero digit
  · cases h
    subst minus
    exact ⟨rfl, rfl⟩
  · cases h
    subst zero
    exact ⟨rfl, rfl⟩
  · cases h
    have other : ∀ d : Char, d.isDigit = false → c ≠ d := by
      rintro d hd rfl
      simp [hd] at digit
    simp [isWhitespace, startValue, digit, minus, zero, other]

theorem scan_number {first : Char} {text rest : List Char} {start last : NumberPart}
    {stack : List Frame} {value : Json} {c : Char} (hfirst : firstPart? first = some start)
    (parts : numberParts start text = some last) (closes : Closes c)
    (ends : ∀ integral, finishNumber dialect last integral (text.reverse ++ [first]) stack =
      .ok (complete value stack)) :
    scan dialect check (.value stack) (first :: text ++ c :: rest) =
      scan dialect check (complete value stack) (c :: rest) := by
  obtain ⟨visible, starts⟩ := @startValue_number dialect first start hfirst stack
  have started : step dialect (.value stack) first = .ok (.number start true [first] stack) := by
    rw [step, visible, if_neg Bool.false_ne_true, starts]
  obtain ⟨integral, read⟩ := @scan_numberParts dialect check lets start last true [first] text
    stack parts (c :: rest)
  rw [List.cons_append, scan_step lets (fresh_number _ _ _ _) started, read,
    scan_number_end closes (ends integral)]

end Checked

/-! ## Integers -/

section Integers

variable {dialect} {check : State → Except LoadError Unit}

theorem numberParts_digits {text : List Char} (digits : ∀ c ∈ text, c.isDigit = true) :
    numberParts .digits text = some .digits := by
  induction text with
  | nil => rfl
  | cons c text ih =>
      rw [List.forall_mem_cons] at digits
      simpa [numberParts, numberPart?, digits.1] using ih digits.2

/-- A positive number does not start with a zero. -/
theorem toDigits_lead {n : Nat} (positive : 0 < n) :
    ∃ first rest, Nat.toDigits 10 n = first :: rest ∧ first ≠ '0' := by
  induction n using Nat.strongRecOn with
  | ind n ih =>
      by_cases small : n < 10
      · refine ⟨n.digitChar, [], Nat.toDigits_of_lt_base small, ?_⟩
        interval_cases n <;> decide
      · obtain ⟨first, rest, same, lead⟩ := ih (n / 10) (by omega) (by omega)
        refine ⟨first, rest ++ [(n % 10).digitChar], ?_, lead⟩
        rw [Nat.toDigits_of_base_le (by omega) (by omega), same, List.cons_append]

theorem isDigit_of_mem_toDigits {n : Nat} {c : Char} (h : c ∈ Nat.toDigits 10 n) :
    c.isDigit = true :=
  Nat.isDigit_of_mem_toDigits (by omega) (by omega) h

/-- The digits of a number are read as an integer. -/
theorem exists_parts_toDigits (n : Nat) :
    ∃ first rest start last, Nat.toDigits 10 n = first :: rest ∧
      numberPart? .minus first = some start ∧ firstPart? first = some start ∧
      numberParts start rest = some last ∧ (last = .zero ∨ last = .digits) := by
  rcases Nat.eq_zero_or_pos n with rfl | positive
  · exact ⟨'0', [], .zero, .zero, rfl, rfl, rfl, rfl, Or.inl rfl⟩
  · obtain ⟨first, rest, same, lead⟩ := toDigits_lead positive
    have digits : ∀ c ∈ first :: rest, c.isDigit = true :=
      fun c hc => isDigit_of_mem_toDigits (same ▸ hc)
    rw [List.forall_mem_cons] at digits
    have unsigned : first ≠ '-' := by
      rintro rfl
      simp at digits
    refine ⟨first, rest, .digits, .digits, same, ?_, ?_, numberParts_digits digits.2, Or.inr rfl⟩
    · simp [numberPart?, lead, digits.1]
    · simp [firstPart?, unsigned, lead, digits.1]

theorem natValue_reverse {text : List Char} (digits : ∀ c ∈ text, c.isDigit = true) :
    natValue text.reverse = Nat.ofDigitChars 10 text 0 := by
  have all : text.filter Char.isDigit = text := List.filter_eq_self.mpr digits
  rw [natValue, List.reverse_reverse, all, Nat.ofDigitChars_eq_foldl]
  congr 1
  funext value digit
  simp [Nat.mul_comm]

theorem natValue_toDigits (n : Nat) : natValue (Nat.toDigits 10 n).reverse = n := by
  rw [natValue_reverse fun c hc => isDigit_of_mem_toDigits hc, Nat.ofDigitChars_ten_toDigits]

theorem intValue_repr (value : Int) : intValue value.repr.toList.reverse = value := by
  cases value with
  | ofNat n =>
      have text : (Int.ofNat n).repr.toList = Nat.toDigits 10 n := Nat.toList_repr
      obtain ⟨first, rest, _, _, same, _, hfirst, _⟩ := exists_parts_toDigits n
      have unsigned : (Nat.toDigits 10 n).reverse.getLast? ≠ some '-' := by
        have digit : first.isDigit = true := isDigit_of_mem_toDigits (same ▸ List.mem_cons_self)
        rw [same]
        intro h
        obtain rfl : first = '-' := by simpa using h
        simp at digit
      rw [text, intValue, if_neg unsigned, natValue_toDigits]
      rfl
  | negSucc n =>
      have text : (Int.negSucc n).repr.toList = '-' :: Nat.toDigits 10 (n + 1) := by
        simp [Int.repr]
      have body : natValue ('-' :: Nat.toDigits 10 (n + 1)).reverse = n + 1 := by
        have same : natValue ('-' :: Nat.toDigits 10 (n + 1)).reverse =
            natValue (Nat.toDigits 10 (n + 1)).reverse := by
          simp [natValue]
        rw [same, natValue_toDigits]
      rw [text, intValue, if_pos (by simp), body]
      rfl

theorem digitCount_reverse (text : List Char) : digitCount text.reverse = digitCount text := by
  simp [digitCount]

theorem finishNumber_int {last : NumberPart} (ends : last = .zero ∨ last = .digits)
    {value : Int} {containers : Nat} (legible : Legible dialect containers (.int value))
    (integral : Bool) (stack : List Frame) :
    finishNumber dialect last integral value.repr.toList.reverse stack =
      .ok (complete (.int value) stack) := by
  have short : tooLong dialect value.repr.toList.reverse = false := by
    unfold tooLong
    split
    · rename_i limit given
      simpa [digitCount_reverse] using legible limit given
    · rfl
  obtain rfl | rfl := ends <;> simp [finishNumber, short, intValue_repr]

theorem scan_int (lets : LetsFresh check) {value : Int} {containers : Nat}
    (legible : Legible dialect containers (.int value)) (stack : List Frame) {c : Char}
    (closes : Closes c) (rest : List Char) :
    scan dialect check (.value stack) (value.repr.toList ++ c :: rest) =
      scan dialect check (complete (.int value) stack) (c :: rest) := by
  have ends (last : NumberPart) (h : last = .zero ∨ last = .digits) (integral : Bool) :=
    finishNumber_int h legible integral stack
  cases value with
  | ofNat n =>
      have text : (Int.ofNat n).repr.toList = Nat.toDigits 10 n := Nat.toList_repr
      obtain ⟨first, digits, start, last, same, _, hfirst, parts, hlast⟩ :=
        exists_parts_toDigits n
      rw [text, same] at ends ⊢
      exact scan_number lets hfirst parts closes fun integral => by
        simpa using ends last hlast integral
  | negSucc n =>
      have text : (Int.negSucc n).repr.toList = '-' :: Nat.toDigits 10 (n + 1) := by
        simp [Int.repr]
      obtain ⟨first, digits, start, last, same, hfirst, _, parts, hlast⟩ :=
        exists_parts_toDigits (n + 1)
      rw [text, same] at ends ⊢
      have signed : numberParts .minus (first :: digits) = some last := by
        simpa [numberParts, hfirst] using parts
      refine @scan_number dialect check lets '-' _ rest .minus last stack _ c rfl signed closes
        fun integral => ?_
      simpa using ends last hlast integral

theorem scan_float (lets : LetsFresh check) {text : String} {containers : Nat}
    (legible : Legible dialect containers (.float text)) (stack : List Frame) {c : Char}
    (closes : Closes c) (rest : List Char) :
    scan dialect check (.value stack) (text.toList ++ c :: rest) =
      scan dialect check (complete (.float text) stack) (c :: rest) := by
  obtain ⟨⟨first, digits, start, last, same, hfirst, parts, hlast⟩, reads⟩ := legible
  have whole : String.ofList (digits.reverse ++ [first]).reverse = text := by
    rw [List.reverse_append, List.reverse_reverse, List.reverse_singleton,
      List.singleton_append, ← same, String.ofList_toList]
  rw [same]
  refine scan_number lets hfirst parts closes fun integral => ?_
  obtain rfl | rfl := hlast <;> simp only [finishNumber, whole, reads]

end Integers

/-! ## Containers -/

section Containers

variable {dialect} {check : State → Except LoadError Unit} (lets : LetsFresh check)

theorem openContainer_ok {stack : List Frame} (room : Room dialect stack.length)
    (next : State) : openContainer dialect stack next = .ok next := by
  unfold openContainer
  split
  · rename_i limit given
    exact if_neg (Nat.not_le.mpr (room limit given))
  · rfl

/-- The first character of a value is no whitespace. -/
theorem canonicalChars_visible {v : Json} (wellFormed : v.WellFormed) :
    ∃ c text, canonicalChars v = c :: text ∧ isWhitespace c = false ∧ c ≠ ']' := by
  obtain ⟨c, text, same, _, other⟩ := Json.canonicalChars_lead wellFormed
  refine ⟨c, text, same, ?_, other⟩
  have number (h : Json.isNumberChar c = true) : isWhitespace c = false := by
    by_contra blank
    rw [Bool.not_eq_false] at blank
    obtain rfl | rfl | rfl | rfl := whitespace_cases blank <;> simp [Json.isNumberChar] at h
  cases v with
  | null => cases same; rfl
  | bool b => cases b <;> cases same <;> rfl
  | int n =>
      have member : c ∈ n.repr.toList := by
        rw [canonicalChars] at same
        simp [same]
      exact number (Json.isNumberChar_of_mem_int member)
  | float text =>
      have member : c ∈ text.toList := by
        rw [canonicalChars] at same
        simp [same]
      exact number (Json.isNumberChar_of_mem_float wellFormed member)
  | str text => cases same; rfl
  | arr items => cases items <;> cases same <;> rfl
  | obj fields => cases fields <;> cases same <;> rfl

/-- The first item of an array starts like any value. -/
theorem scan_arrayStart {item : Json} (wellFormed : item.WellFormed) (stack : List Frame)
    (rest : List Char) :
    scan dialect check (.arrayStart stack) (canonicalChars item ++ rest) =
      scan dialect check (.value (.array [] :: stack)) (canonicalChars item ++ rest) := by
  obtain ⟨c, text, same, visible, other⟩ := canonicalChars_visible wellFormed
  rw [same, List.cons_append, scan_cons, scan_cons]
  simp [step, visible, other]

/-- A member with a key after all others joins at the end. -/
theorem set_append {fields : Dict String Json} {key : String}
    (last : ∀ other ∈ Dict.keys fields, other < key) (value : Json) :
    Dict.set fields key value = fields ++ [(key, value)] := by
  induction fields with
  | nil => rfl
  | cons entry fields ih =>
      rw [Dict.keys_cons, List.forall_mem_cons] at last
      obtain ⟨before, last⟩ := last
      simp [Dict.set, ih last, before.ne', not_lt_of_gt before]

theorem ordered_append {seen fields : Dict String Json} {key : String} {value : Json}
    (ordered : Dict.Ordered (seen ++ (key, value) :: fields)) :
    ∀ other ∈ Dict.keys seen, other < key := by
  simp only [Dict.Ordered, Dict.keys, List.map_append, List.map_cons,
    List.pairwise_append] at ordered
  exact fun other member => ordered.2.2 other member key List.mem_cons_self

theorem closes_itemsChars (items : List Json) (rest : List Char) :
    ∃ c text, itemsChars items ++ rest = c :: text ∧ Closes c := by
  cases items with
  | nil => exact ⟨_, _, rfl, Or.inr (Or.inl rfl)⟩
  | cons item items => exact ⟨_, _, rfl, Or.inl rfl⟩

theorem closes_fieldsChars (fields : List (String × Json)) (rest : List Char) :
    ∃ c text, fieldsChars fields ++ rest = c :: text ∧ Closes c := by
  cases fields with
  | nil => exact ⟨_, _, rfl, Or.inr (Or.inr (Or.inl rfl))⟩
  | cons entry fields => exact ⟨_, _, rfl, Or.inl rfl⟩

include lets

/-- A key that is new, with its colon. -/
theorem scan_key {state : State} {fields : Dict String Json} {key : String}
    (new : key ∉ Dict.keys fields) (stack : List Frame) (rest : List Char)
    (start : step dialect state '"' = .ok (.string (.key fields stack) .plain none [])) :
    scan dialect check state (stringChars key ++ ':' :: rest) =
      scan dialect check (.value (.object fields key :: stack)) rest := by
  have closed : closeString (.key fields stack) key.toList.reverse = .colon key fields stack := by
    simp [closeString]
  have fresh : Fresh (closeString (.key fields stack) key.toList.reverse) := by
    rw [closed]
    intro _ _ _ same
    cases same
    exact new
  rw [stringChars, List.cons_append, scan_step lets (fresh_string _ _ _ _) start,
    List.append_assoc, List.singleton_append, scan_string lets fresh, closed]
  exact scan_step lets (fresh_value _) rfl

/-- An array opens. -/
theorem scan_openArray {stack : List Frame} (room : Room dialect stack.length)
    (rest : List Char) :
    scan dialect check (.value stack) ('[' :: rest) =
      scan dialect check (.arrayStart stack) rest := by
  have opened : step dialect (.value stack) '[' = .ok (.arrayStart stack) :=
    openContainer_ok room _
  refine scan_step lets ?_ opened
  intro _ _ _ h
  cases h

/-- An object opens. -/
theorem scan_openObject {stack : List Frame} (room : Room dialect stack.length)
    (rest : List Char) :
    scan dialect check (.value stack) ('\x7b' :: rest) =
      scan dialect check (.objectStart stack) rest := by
  have opened : step dialect (.value stack) '\x7b' = .ok (.objectStart stack) :=
    openContainer_ok room _
  refine scan_step lets ?_ opened
  intro _ _ _ h
  cases h

/-- A comma between members. -/
theorem scan_comma (seen : Dict String Json) (last : String) (stack : List Frame)
    (rest : List Char) :
    scan dialect check (.afterItem (.object seen last) stack) (',' :: rest) =
      scan dialect check (.key seen stack) rest := by
  refine scan_step lets ?_ rfl
  intro _ _ _ h
  cases h

theorem scan_word (word : Word) {stack : List Frame} {c : Char}
    (starts : step dialect (.value stack) c = .ok (.word word 0 stack)) (rest : List Char) :
    scan dialect check (.value stack) (c :: (word.letters ++ rest)) =
      scan dialect check (complete word.value stack) rest := by
  rw [scan_step lets (fresh_word _ _ _) starts]
  have through {read : Nat} {letter : Char} {rest : List Char} (more : read + 1 < word.letters.length)
      (h : word.letters[read]? = some letter) :
      scan dialect check (.word word read stack) (letter :: rest) =
        scan dialect check (.word word (read + 1) stack) rest :=
    scan_step lets (fresh_word _ _ _) (by simp [step, wordStep, h, more.ne])
  have ends {read : Nat} {letter : Char} {rest : List Char} (last : read + 1 = word.letters.length)
      (h : word.letters[read]? = some letter) :
      scan dialect check (.word word read stack) (letter :: rest) =
        scan dialect check (complete word.value stack) rest :=
    scan_step lets (fresh_complete _ _) (by simp [step, wordStep, h, last])
  have tail : ∀ letters read, word.letters.drop read = letters → letters ≠ [] →
      scan dialect check (.word word read stack) (letters ++ rest) =
        scan dialect check (complete word.value stack) rest := by
    intro letters
    induction letters with
    | nil => simp
    | cons letter letters ih =>
        intro read dropped _
        have here : word.letters[read]? = some letter := by
          rw [← List.head?_drop, dropped, List.head?_cons]
        have after : word.letters.drop (read + 1) = letters := by
          rw [← List.drop_drop, dropped, List.drop_one, List.tail_cons]
        have size : word.letters.length - read = letters.length + 1 := by
          rw [← List.length_drop, dropped, List.length_cons]
        cases letters with
        | nil => exact ends (by rw [List.length_nil] at size; omega) here
        | cons next letters =>
            rw [List.cons_append, through (by rw [List.length_cons] at size; omega) here]
            exact ih (read + 1) after (by simp)
  exact tail word.letters 0 rfl (by cases word <;> simp [Word.letters])

mutual

/-- The canonical text of a value leads to the value. -/
theorem scan_canonicalChars : ∀ (v : Json) (stack : List Frame), v.WellFormed →
    Legible dialect stack.length v → ∀ {c : Char}, Closes c → ∀ rest,
    scan dialect check (.value stack) (canonicalChars v ++ c :: rest) =
      scan dialect check (complete v stack) (c :: rest)
  | .null, _, _, _, c, _, rest => scan_word lets .null rfl (c :: rest)
  | .bool true, _, _, _, c, _, rest => scan_word lets .yes rfl (c :: rest)
  | .bool false, _, _, _, c, _, rest => scan_word lets .no rfl (c :: rest)
  | .int _, stack, _, legible, _, closes, rest => scan_int lets legible stack closes rest
  | .float _, stack, _, legible, _, closes, rest => scan_float lets legible stack closes rest
  | .str text, stack, _, _, c, _, rest => by
      have start : step dialect (.value stack) '"' =
          .ok (.string (.value stack) .plain none []) := rfl
      have closed : closeString (.value stack) text.toList.reverse =
          complete (.str text) stack := by
        simp [closeString]
      have fresh : Fresh (closeString (.value stack) text.toList.reverse) :=
        closed ▸ fresh_complete _ _
      rw [canonicalChars, stringChars, List.cons_append,
        scan_step lets (fresh_string _ _ _ _) start, List.append_assoc, List.singleton_append,
        scan_string lets fresh, closed]
  | .arr [], stack, _, legible, c, _, rest => by
      rw [canonicalChars, List.cons_append, scan_openArray lets legible.1]
      exact scan_step lets (fresh_complete _ _) rfl
  | .arr (item :: items), stack, wellFormed, legible, c, _, rest => by
      obtain ⟨next, text, same, closes⟩ := closes_itemsChars items (c :: rest)
      have first := scan_canonicalChars item (.array [] :: stack) wellFormed.1
        legible.2.1 closes text
      rw [canonicalChars, List.cons_append, scan_openArray lets legible.1, List.append_assoc,
        scan_arrayStart wellFormed.1, same, first, ← same]
      exact scan_itemsChars items [item] stack wellFormed.2 legible.2.2 (c :: rest)
  | .obj [], stack, _, legible, c, _, rest => by
      rw [canonicalChars, List.cons_append, scan_openObject lets legible.1]
      exact scan_step lets (fresh_complete _ _) rfl
  | .obj ((key, value) :: fields), stack, wellFormed, legible, c, _, rest => by
      obtain ⟨next, text, same, closes⟩ := closes_fieldsChars fields (c :: rest)
      have first := scan_canonicalChars value (.object [] key :: stack) wellFormed.2.1
        legible.2.1 closes text
      rw [canonicalChars, List.cons_append, scan_openObject lets legible.1, List.append_assoc,
        List.cons_append, scan_key lets (List.not_mem_nil : key ∉ Dict.keys []) stack _ rfl, List.append_assoc,
        same, first, ← same]
      exact scan_fieldsChars fields [(key, value)] key stack wellFormed.1 wellFormed.2.2 legible.2.2
        (c :: rest)

/-- The items after those that are read. -/
theorem scan_itemsChars : ∀ (items seen : List Json) (stack : List Frame),
    Json.WellFormedItems items → LegibleItems dialect (stack.length + 1) items → ∀ rest,
    scan dialect check (.afterItem (.array seen) stack) (itemsChars items ++ rest) =
      scan dialect check (complete (.arr (seen.reverse ++ items)) stack) rest
  | [], seen, stack, _, _, rest => by
      rw [itemsChars, List.append_nil]
      exact scan_step lets (fresh_complete _ _) rfl
  | item :: items, seen, stack, wellFormed, legible, rest => by
      obtain ⟨next, text, same, closes⟩ := closes_itemsChars items rest
      have comma : step dialect (.afterItem (.array seen) stack) ',' =
          .ok (.value (.array seen :: stack)) := rfl
      have first := scan_canonicalChars item (.array seen :: stack) wellFormed.1
        legible.1 closes text
      have others := scan_itemsChars items (item :: seen) stack wellFormed.2
        legible.2 rest
      rw [itemsChars, List.cons_append, scan_step lets (fresh_value _) comma, List.append_assoc,
        same, first, ← same, complete, others]
      simp

/-- The members after those that are read. -/
theorem scan_fieldsChars : ∀ (fields : List (String × Json)) (seen : Dict String Json)
    (last : String) (stack : List Frame), Dict.Ordered (seen ++ fields) →
    Json.WellFormedFields fields → LegibleFields dialect (stack.length + 1) fields → ∀ rest,
    scan dialect check (.afterItem (.object seen last) stack) (fieldsChars fields ++ rest) =
      scan dialect check (complete (.obj (seen ++ fields)) stack) rest
  | [], seen, last, stack, _, _, _, rest => by
      rw [fieldsChars, List.append_nil]
      exact scan_step lets (fresh_complete _ _) rfl
  | (key, value) :: fields, seen, last, stack, ordered, wellFormed, legible, rest => by
      obtain ⟨next, text, same, closes⟩ := closes_fieldsChars fields rest
      have before := ordered_append ordered
      have new : key ∉ Dict.keys seen := fun member => lt_irrefl key (before key member)
      have first := scan_canonicalChars value (.object seen key :: stack) wellFormed.1
        legible.1 closes text
      have moved : seen ++ (key, value) :: fields = (seen ++ [(key, value)]) ++ fields := by simp
      have others := scan_fieldsChars fields (seen ++ [(key, value)]) key stack
        (moved ▸ ordered) wellFormed.2 legible.2 rest
      rw [fieldsChars, List.cons_append, scan_comma lets, List.append_assoc, List.cons_append,
        scan_key lets new stack _ rfl, List.append_assoc, same, first, ← same, complete,
        set_append before, others, moved]

end

end Containers

/-! ## Whole texts -/

/-- The state repeats a key of its object. -/
def repeatsKey : State → Bool
  | .colon key fields _ => key ∈ Dict.keys fields
  | _ => false

/-- `reject_duplicate_keys` at every key.  A text with a repeated key is refused, whatever
else is wrong with it. -/
def rejectDuplicateKeys (state : State) : Except LoadError Unit :=
  if repeatsKey state then .error .malformed else .ok ()

/-- `json.loads` with `object_pairs_hook=reject_duplicate_keys`. -/
def loadsUnique (text : List Char) : Except LoadError Json := do
  let state ← scan dialect rejectDuplicateKeys (.value []) text
  finish dialect state

theorem rejectDuplicateKeys_letsFresh : LetsFresh rejectDuplicateKeys := by
  intro state fresh
  refine if_neg fun repeats => ?_
  cases state with
  | colon key fields stack => exact fresh key fields stack rfl (of_decide_eq_true repeats)
  | _ => cases repeats

variable {dialect} in
theorem scan_canonicalLine {check : State → Except LoadError Unit} (lets : LetsFresh check)
    {v : Json} (wellFormed : v.WellFormed) (legible : Legible dialect 0 v) :
    scan dialect check (.value []) (canonicalChars v ++ ['\n']) = .ok (.done v) := by
  rw [scan_canonicalChars lets v [] wellFormed legible (Or.inr (Or.inr (Or.inr rfl)))]
  exact scan_step lets (fresh_complete v []) rfl

/-- What is written as a canonical line is read back. -/
theorem loads_canonicalChars {v : Json} (wellFormed : v.WellFormed)
    (legible : Legible dialect 0 v) : loads dialect (canonicalChars v ++ ['\n']) = .ok v := by
  rw [loads, run_eq_scan, scan_canonicalLine (fun _ _ => rfl) wellFormed legible]
  rfl

/-- No key of a canonical line is repeated. -/
theorem loadsUnique_canonicalChars {v : Json} (wellFormed : v.WellFormed)
    (legible : Legible dialect 0 v) :
    loadsUnique dialect (canonicalChars v ++ ['\n']) = .ok v := by
  rw [loadsUnique, scan_canonicalLine rejectDuplicateKeys_letsFresh wellFormed legible]
  rfl

/-! ## Bytes -/

/-- `json.loads` of UTF-8. -/
def loadBytes (bytes : List UInt8) : Except LoadError Json :=
  match Text.decodeUtf8? bytes with
  | some text => loads dialect text.toList
  | none => .error .malformed

/-- The same with `reject_duplicate_keys`. -/
def loadBytesUnique (bytes : List UInt8) : Except LoadError Json :=
  match Text.decodeUtf8? bytes with
  | some text => loadsUnique dialect text.toList
  | none => .error .malformed

theorem canonicalLine_eq (v : Json) :
    v.canonicalBytes ++ [10] = Text.utf8 (v.canonicalText ++ "\n") := by
  rw [Text.utf8_append]
  rfl

theorem loadBytes_canonicalLine {v : Json} (wellFormed : v.WellFormed)
    (legible : Legible dialect 0 v) : loadBytes dialect (v.canonicalBytes ++ [10]) = .ok v := by
  rw [canonicalLine_eq, loadBytes, Text.decodeUtf8?_utf8]
  simpa [Json.canonicalText] using loads_canonicalChars dialect wellFormed legible

theorem loadBytesUnique_canonicalLine {v : Json} (wellFormed : v.WellFormed)
    (legible : Legible dialect 0 v) :
    loadBytesUnique dialect (v.canonicalBytes ++ [10]) = .ok v := by
  rw [canonicalLine_eq, loadBytesUnique, Text.decodeUtf8?_utf8]
  simpa [Json.canonicalText] using loadsUnique_canonicalChars dialect wellFormed legible

end Reader

/-! ## One line -/

/-- The character stays on its line. -/
def Inline (c : Char) : Prop := c ≠ '\n' ∧ c ≠ '\r'

instance (c : Char) : Decidable (Inline c) :=
  inferInstanceAs (Decidable (_ ∧ _))

theorem inline_escapeChar (c : Char) : ∀ d ∈ escapeChar c, Inline d := by
  unfold escapeChar Inline
  split_ifs with h₁ h₂ h₃ h₄ h₅ h₆ h₇ h₈
  case pos => simp
  case pos => simp
  case pos => simp
  case pos => simp
  case pos => simp
  case pos => simp
  case pos => simp
  case pos => simp
  case neg => simp [h₃, h₄]

theorem inline_stringChars (s : String) : ∀ c ∈ stringChars s, Inline c := by
  have quote : Inline '"' := by decide
  simp only [stringChars, List.forall_mem_cons, List.forall_mem_append, List.not_mem_nil,
    false_imp_iff, implies_true, and_true]
  refine ⟨quote, fun c member => ?_, quote⟩
  obtain ⟨d, _, member⟩ := List.mem_flatMap.mp member
  exact inline_escapeChar d c member

theorem inline_number {c : Char} (h : Json.isNumberChar c = true) : Inline c := by
  constructor <;> rintro rfl <;> simp [Json.isNumberChar] at h

mutual

/-- The canonical text of a value is one line. -/
theorem inline_canonicalChars : ∀ (v : Json), v.WellFormed → ∀ c ∈ canonicalChars v, Inline c
  | .null, _ => by simp [canonicalChars, Inline]
  | .bool true, _ => by simp [canonicalChars, Inline]
  | .bool false, _ => by simp [canonicalChars, Inline]
  | .int _, _ => fun _ member => inline_number (Json.isNumberChar_of_mem_int member)
  | .float _, wellFormed => fun _ member =>
      inline_number (Json.isNumberChar_of_mem_float wellFormed member)
  | .str text, _ => inline_stringChars text
  | .arr [], _ => by simp [canonicalChars, Inline]
  | .arr (item :: items), wellFormed => by
      have first := inline_canonicalChars item wellFormed.1
      have others := inline_itemsChars items wellFormed.2
      rw [canonicalChars, List.forall_mem_cons, List.forall_mem_append]
      exact ⟨by decide, first, others⟩
  | .obj [], _ => by simp [canonicalChars, Inline]
  | .obj ((key, value) :: fields), wellFormed => by
      have first := inline_canonicalChars value wellFormed.2.1
      have others := inline_fieldsChars fields wellFormed.2.2
      rw [canonicalChars, List.forall_mem_cons, List.forall_mem_append, List.forall_mem_cons,
        List.forall_mem_append]
      exact ⟨by decide, inline_stringChars key, by decide, first, others⟩

theorem inline_itemsChars : ∀ (items : List Json), Json.WellFormedItems items →
    ∀ c ∈ itemsChars items, Inline c
  | [], _ => by simp [itemsChars, Inline]
  | item :: items, wellFormed => by
      have first := inline_canonicalChars item wellFormed.1
      have others := inline_itemsChars items wellFormed.2
      rw [itemsChars, List.forall_mem_cons, List.forall_mem_append]
      exact ⟨by decide, first, others⟩

theorem inline_fieldsChars : ∀ (fields : List (String × Json)), Json.WellFormedFields fields →
    ∀ c ∈ fieldsChars fields, Inline c
  | [], _ => by simp [fieldsChars, Inline]
  | (key, value) :: fields, wellFormed => by
      have first := inline_canonicalChars value wellFormed.1
      have others := inline_fieldsChars fields wellFormed.2
      rw [fieldsChars, List.forall_mem_cons, List.forall_mem_append, List.forall_mem_cons,
        List.forall_mem_append]
      exact ⟨by decide, inline_stringChars key, by decide, first, others⟩

end

theorem unbroken_canonicalBytes {v : Json} (wellFormed : v.WellFormed) :
    ByteLines.Unbroken v.canonicalBytes := by
  refine ByteLines.unbroken_utf8 fun c member => ?_
  rw [Json.canonicalText, String.toList_ofList] at member
  exact inline_canonicalChars v wellFormed c member

end MncsForge.Foundation.JsonText
