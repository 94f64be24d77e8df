import Mathlib
import MncsForge.Foundation.Json

/-!
# Reading JSON text

A reader goes over a text character by character and keeps the containers that
are open on a stack.  A dialect says which constants it takes beyond the grammar
and where it gives up on long integers and deep nesting.
-/

namespace MncsForge.Foundation.JsonText

inductive LoadError where
  | malformed
  | tooManyDigits
  | tooDeep
  deriving DecidableEq, Repr

structure Dialect where
  /-- `NaN`, `Infinity` and `-Infinity` are read. -/
  constants : Bool
  /-- The most digits of an integer. -/
  digits : Option Nat
  /-- The most containers that are open at a time. -/
  depth : Option Nat
  /-- The value of a literal with a fraction or an exponent. -/
  float : String → Json

/-! ## States -/

/-- An open container: the items so far, the last one first, or the members so far with
the key whose value is read. -/
inductive Frame where
  | array (items : List Json)
  | object (fields : Dict String Json) (key : String)

inductive NumberPart where
  | minus
  | zero
  | digits
  | point
  | fraction
  | exponent
  | exponentSign
  | exponentDigits
  deriving DecidableEq

inductive StringPart where
  | plain
  | escape
  | unicode (digits : List Char)

/-- The words a value may be spelled with. -/
inductive Word where
  | null
  | yes
  | no
  | nan
  | infinity
  | minusInfinity
  deriving DecidableEq

/-- The letters after the first one that tells the word apart. -/
def Word.letters : Word → List Char
  | null => ['u', 'l', 'l']
  | yes => ['r', 'u', 'e']
  | no => ['a', 'l', 's', 'e']
  | nan => ['a', 'N']
  | infinity | minusInfinity => ['n', 'f', 'i', 'n', 'i', 't', 'y']

def Word.value : Word → Json
  | null => .null
  | yes => .bool true
  | no => .bool false
  | nan => .float "nan"
  | infinity => .float "inf"
  | minusInfinity => .float "-inf"

/-- What a string is read for. -/
inductive Place where
  | value (stack : List Frame)
  | key (fields : Dict String Json) (stack : List Frame)

inductive State where
  | value (stack : List Frame)
  | arrayStart (stack : List Frame)
  | objectStart (stack : List Frame)
  | key (fields : Dict String Json) (stack : List Frame)
  | colon (key : String) (fields : Dict String Json) (stack : List Frame)
  | afterItem (frame : Frame) (stack : List Frame)
  | done (value : Json)
  /-- `high` is a high surrogate that waits for its low one. -/
  | string (place : Place) (part : StringPart) (high : Option Nat) (text : List Char)
  /-- `integral` holds while there is no fraction. -/
  | number (part : NumberPart) (integral : Bool) (text : List Char) (stack : List Frame)
  | word (word : Word) (read : Nat) (stack : List Frame)

def isWhitespace (c : Char) : Bool :=
  c == ' ' || c == '\t' || c == '\n' || c == '\r'

/-- A value is complete: it is the whole text or joins the container around it. -/
def complete (value : Json) : List Frame → State
  | [] => .done value
  | .array items :: stack => .afterItem (.array (value :: items)) stack
  | .object fields key :: stack => .afterItem (.object (Dict.set fields key value) key) stack

/-! ## Strings -/

def hexDigit? (c : Char) : Option Nat :=
  if c.isDigit then some (c.toNat - 48)
  else if 'a' ≤ c ∧ c ≤ 'f' then some (c.toNat - 87)
  else if 'A' ≤ c ∧ c ≤ 'F' then some (c.toNat - 55)
  else none

def isHigh (unit : Nat) : Bool := 0xd800 ≤ unit && unit ≤ 0xdbff

def isLow (unit : Nat) : Bool := 0xdc00 ≤ unit && unit ≤ 0xdfff

/-- A surrogate on its own is kept as the replacement character. -/
def flush (high : Option Nat) (text : List Char) : List Char :=
  if high.isSome then '\ufffd' :: text else text

/-- A code unit that an escape has spelled out. -/
def unitState (place : Place) (high : Option Nat) (text : List Char) (unit : Nat) : State :=
  match high with
  | some first =>
      if isLow unit then
        .string place .plain none
          (Char.ofNat (0x10000 + (first - 0xd800) * 0x400 + (unit - 0xdc00)) :: text)
      else if isHigh unit then .string place .plain (some unit) ('\ufffd' :: text)
      else .string place .plain none (Char.ofNat unit :: '\ufffd' :: text)
  | none =>
      if isHigh unit then .string place .plain (some unit) text
      else if isLow unit then .string place .plain none ('\ufffd' :: text)
      else .string place .plain none (Char.ofNat unit :: text)

def simpleEscape? (c : Char) : Option Char :=
  if c = '"' then some '"'
  else if c = '\\' then some '\\'
  else if c = '/' then some '/'
  else if c = 'b' then some '\x08'
  else if c = 'f' then some '\x0c'
  else if c = 'n' then some '\n'
  else if c = 'r' then some '\r'
  else if c = 't' then some '\t'
  else none

def closeString (place : Place) (text : List Char) : State :=
  match place with
  | .value stack => complete (.str (String.ofList text.reverse)) stack
  | .key fields stack => .colon (String.ofList text.reverse) fields stack

def stringStep (place : Place) (part : StringPart) (high : Option Nat) (text : List Char)
    (c : Char) : Except LoadError State :=
  match part with
  | .plain =>
      if c = '"' then .ok (closeString place (flush high text))
      else if c = '\\' then .ok (.string place .escape high text)
      else if c.toNat < 0x20 then .error .malformed
      else .ok (.string place .plain none (c :: flush high text))
  | .escape =>
      if c = 'u' then .ok (.string place (.unicode []) high text)
      else
        match simpleEscape? c with
        | some escaped => .ok (.string place .plain none (escaped :: flush high text))
        | none => .error .malformed
  | .unicode digits =>
      if (hexDigit? c).isNone then .error .malformed
      else if digits.length < 3 then .ok (.string place (.unicode (digits ++ [c])) high text)
      else
        .ok (unitState place high text
          ((digits ++ [c]).foldl (fun unit digit => unit * 16 + (hexDigit? digit).getD 0) 0))

/-! ## Numbers -/

def digitCount (text : List Char) : Nat := (text.filter Char.isDigit).length

def natValue (text : List Char) : Nat :=
  (text.reverse.filter Char.isDigit).foldl
    (fun value digit => value * 10 + (digit.toNat - 48)) 0

def intValue (text : List Char) : Int :=
  if text.getLast? = some '-' then -(natValue text : Int) else natValue text

section Reader

variable (dialect : Dialect)

def tooLong (text : List Char) : Bool :=
  match dialect.digits with
  | some limit => decide (limit < digitCount text)
  | none => false

/-- The number that ends here. -/
def finishNumber (part : NumberPart) (integral : Bool) (text : List Char) (stack : List Frame) :
    Except LoadError State :=
  match part with
  | .minus => .error .malformed
  | .zero | .digits =>
      if tooLong dialect text then .error .tooManyDigits
      else .ok (complete (.int (intValue text)) stack)
  | .fraction | .exponentDigits =>
      .ok (complete (dialect.float (String.ofList text.reverse)) stack)
  | .point | .exponent | .exponentSign =>
      -- the digits before the sign that leads nowhere are read as a number first
      if integral && tooLong dialect text then .error .tooManyDigits else .error .malformed

/-- The part of a number that a character goes on with. -/
def numberPart? (part : NumberPart) (c : Char) : Option NumberPart :=
  match part with
  | .minus => if c = '0' then some .zero else if c.isDigit then some .digits else none
  | .zero => if c = '.' then some .point else if c = 'e' ∨ c = 'E' then some .exponent else none
  | .digits =>
      if c.isDigit then some .digits
      else if c = '.' then some .point
      else if c = 'e' ∨ c = 'E' then some .exponent
      else none
  | .point => if c.isDigit then some .fraction else none
  | .fraction =>
      if c.isDigit then some .fraction
      else if c = 'e' ∨ c = 'E' then some .exponent
      else none
  | .exponent =>
      if c = '+' ∨ c = '-' then some .exponentSign
      else if c.isDigit then some .exponentDigits
      else none
  | .exponentSign | .exponentDigits => if c.isDigit then some .exponentDigits else none

/-! ## Steps -/

/-- A container opens, if there is room for it. -/
def openContainer (stack : List Frame) (next : State) : Except LoadError State :=
  match dialect.depth with
  | some limit => if limit ≤ stack.length then .error .tooDeep else .ok next
  | none => .ok next

/-- The first character of a value. -/
def startValue (stack : List Frame) (c : Char) : Except LoadError State :=
  if c = '"' then .ok (.string (.value stack) .plain none [])
  else if c = '\x7b' then openContainer dialect stack (.objectStart stack)
  else if c = '[' then openContainer dialect stack (.arrayStart stack)
  else if c = 'n' then .ok (.word .null 0 stack)
  else if c = 't' then .ok (.word .yes 0 stack)
  else if c = 'f' then .ok (.word .no 0 stack)
  else if c = 'N' ∧ dialect.constants = true then .ok (.word .nan 0 stack)
  else if c = 'I' ∧ dialect.constants = true then .ok (.word .infinity 0 stack)
  else if c = '-' then .ok (.number .minus true ['-'] stack)
  else if c = '0' then .ok (.number .zero true ['0'] stack)
  else if c.isDigit then .ok (.number .digits true [c] stack)
  else .error .malformed

/-- A character after a complete value. -/
def afterStep (frame : Frame) (stack : List Frame) (c : Char) : Except LoadError State :=
  if isWhitespace c then .ok (.afterItem frame stack)
  else
    match frame with
    | .array items =>
        if c = ',' then .ok (.value (.array items :: stack))
        else if c = ']' then .ok (complete (.arr items.reverse) stack)
        else .error .malformed
    | .object fields _ =>
        if c = ',' then .ok (.key fields stack)
        else if c = '\x7d' then .ok (complete (.obj fields) stack)
        else .error .malformed

/-- A character where a value has just ended. -/
def punctuate (state : State) (c : Char) : Except LoadError State :=
  match state with
  | .afterItem frame stack => afterStep frame stack c
  | .done value => if isWhitespace c then .ok (.done value) else .error .malformed
  | _ => .error .malformed

def numberStep (part : NumberPart) (integral : Bool) (text : List Char) (stack : List Frame)
    (c : Char) : Except LoadError State :=
  match numberPart? part c with
  | some next => .ok (.number next (integral && next != .fraction) (c :: text) stack)
  | none =>
      if part = .minus ∧ c = 'I' ∧ dialect.constants = true then
        .ok (.word .minusInfinity 0 stack)
      else do
        let ended ← finishNumber dialect part integral text stack
        punctuate ended c

def wordStep (word : Word) (read : Nat) (stack : List Frame) (c : Char) :
    Except LoadError State :=
  if word.letters[read]? = some c then
    if read + 1 = word.letters.length then .ok (complete word.value stack)
    else .ok (.word word (read + 1) stack)
  else .error .malformed

def step (state : State) (c : Char) : Except LoadError State :=
  match state with
  | .value stack => if isWhitespace c then .ok (.value stack) else startValue dialect stack c
  | .arrayStart stack =>
      if isWhitespace c then .ok (.arrayStart stack)
      else if c = ']' then .ok (complete (.arr []) stack)
      else startValue dialect (.array [] :: stack) c
  | .objectStart stack =>
      if isWhitespace c then .ok (.objectStart stack)
      else if c = '\x7d' then .ok (complete (.obj []) stack)
      else if c = '"' then .ok (.string (.key [] stack) .plain none [])
      else .error .malformed
  | .key fields stack =>
      if isWhitespace c then .ok (.key fields stack)
      else if c = '"' then .ok (.string (.key fields stack) .plain none [])
      else .error .malformed
  | .colon key fields stack =>
      if isWhitespace c then .ok (.colon key fields stack)
      else if c = ':' then .ok (.value (.object fields key :: stack))
      else .error .malformed
  | .afterItem frame stack => afterStep frame stack c
  | .done value => if isWhitespace c then .ok (.done value) else .error .malformed
  | .string place part high text => stringStep place part high text c
  | .number part integral text stack => numberStep dialect part integral text stack c
  | .word word read stack => wordStep word read stack c

/-- The value of a text that ends here. -/
def finish (state : State) : Except LoadError Json :=
  match state with
  | .done value => .ok value
  | .number part integral text stack => do
      match ← finishNumber dialect part integral text stack with
      | .done value => .ok value
      | _ => .error .malformed
  | _ => .error .malformed

def run (state : State) (text : List Char) : Except LoadError State :=
  text.foldlM (step dialect) state

/-- `json.loads` -/
def loads (text : List Char) : Except LoadError Json := do
  let state ← run dialect (.value []) text
  finish dialect state

/-! ## Characters outside strings -/

/-- The characters a text has outside its strings. -/
def isSyntax (c : Char) : Bool :=
  isWhitespace c || c.isAlphanum ||
    c ∈ ['"', '\x7b', '\x7d', '[', ']', ',', ':', '-', '+', '.']

structure Foreign (c : Char) : Prop where
  whitespace : isWhitespace c = false
  digit : c.isDigit = false
  alpha : c.isAlpha = false
  mark : c ∉ ['"', '\x7b', '\x7d', '[', ']', ',', ':', '-', '+', '.']

theorem foreign_of_not_isSyntax {c : Char} (h : isSyntax c = false) : Foreign c := by
  simp only [isSyntax, Char.isAlphanum, Bool.or_eq_false_iff, decide_eq_false_iff_not] at h
  exact ⟨h.1.1, h.1.2.2, h.1.2.1, h.2⟩

namespace Foreign

variable {c : Char} (foreign : Foreign c)
include foreign

theorem ne {other : Char}
    (h : other ∈ ['"', '\x7b', '\x7d', '[', ']', ',', ':', '-', '+', '.']) : c ≠ other := by
  rintro rfl
  exact foreign.mark h

theorem ne_letter (letter : Char) (h : letter.isAlpha = true) : c ≠ letter := by
  rintro rfl
  simp [foreign.alpha] at h

theorem ne_zero : c ≠ '0' := by
  rintro rfl
  simpa using foreign.digit

theorem startValue (stack : List Frame) : startValue dialect stack c = .error .malformed := by
  simp [JsonText.startValue, foreign.digit, foreign.ne_zero, foreign.ne, foreign.ne_letter 'n',
    foreign.ne_letter 't', foreign.ne_letter 'f', foreign.ne_letter 'N', foreign.ne_letter 'I']

theorem afterStep (frame : Frame) (stack : List Frame) :
    afterStep frame stack c = .error .malformed := by
  cases frame <;> simp [JsonText.afterStep, foreign.whitespace, foreign.ne]

theorem numberPart? (part : NumberPart) : numberPart? part c = none := by
  cases part <;>
    simp [JsonText.numberPart?, foreign.digit, foreign.ne_zero, foreign.ne,
      foreign.ne_letter 'e', foreign.ne_letter 'E']

theorem punctuate (state : State) : punctuate state c = .error .malformed := by
  cases state <;> simp [JsonText.punctuate, foreign.afterStep, foreign.whitespace]

theorem numberStep (part : NumberPart) (integral : Bool) (text : List Char)
    (stack : List Frame) (s : State) :
    numberStep dialect part integral text stack c ≠ .ok s := by
  simp only [JsonText.numberStep, foreign.numberPart?, foreign.ne_letter 'I' rfl,
    false_and, and_false, if_false, foreign.punctuate]
  cases finishNumber dialect part integral text stack <;> simp [bind, Except.bind]

theorem wordStep (word : Word) (read : Nat) (stack : List Frame) :
    wordStep word read stack c = .error .malformed := by
  have other : word.letters[read]? ≠ some c := by
    intro h
    have member := List.mem_of_getElem? h
    have letters : ∀ letter ∈ word.letters, letter.isAlpha = true := by
      cases word <;> simp [Word.letters]
    simpa [foreign.alpha] using letters c member
  rw [JsonText.wordStep, if_neg other]

omit foreign in
theorem unitState_eq_string (place : Place) (high : Option Nat) (text : List Char) (unit : Nat) :
    ∃ high' text', unitState place high text unit = .string place .plain high' text' := by
  cases high <;> simp only [unitState] <;> split_ifs <;> exact ⟨_, _, rfl⟩

theorem stringStep {place : Place} {part : StringPart} {high : Option Nat} {text : List Char}
    {s : State} (h : stringStep place part high text c = .ok s) :
    ∃ part' high' text', s = .string place part' high' text' := by
  cases part with
  | plain =>
      have unquoted : c ≠ '"' := foreign.ne (by simp)
      simp only [JsonText.stringStep, unquoted, if_false] at h
      split_ifs at h <;> cases h <;> exact ⟨_, _, _, rfl⟩
  | escape =>
      simp only [JsonText.stringStep] at h
      split_ifs at h
      · cases h
        exact ⟨_, _, _, rfl⟩
      · split at h <;> cases h
        exact ⟨_, _, _, rfl⟩
  | unicode digits =>
      simp only [JsonText.stringStep] at h
      split_ifs at h
      · cases h
        exact ⟨_, _, _, rfl⟩
      · cases h
        obtain ⟨high', text', same⟩ := unitState_eq_string place high text _
        exact ⟨_, _, _, same⟩

/-- Such a character is read within a string only. -/
theorem step {s s' : State} (h : step dialect s c = .ok s') :
    ∃ place part high text, s' = .string place part high text := by
  cases s with
  | string place part high text => exact ⟨place, foreign.stringStep h⟩
  | number part integral text stack => exact absurd h (foreign.numberStep dialect _ _ _ _ _)
  | word word read stack => simp [JsonText.step, foreign.wordStep] at h
  | _ =>
      simp [JsonText.step, foreign.whitespace, foreign.startValue, foreign.afterStep,
        foreign.ne] at h

/-- No text ends with such a character. -/
theorem loads_append (text : List Char) (value : Json) :
    loads dialect (text ++ [c]) ≠ .ok value := by
  simp only [loads, run, List.foldlM_append, List.foldlM_cons, List.foldlM_nil, bind_assoc,
    pure_bind]
  cases List.foldlM (JsonText.step dialect) (State.value []) text with
  | error e => simp [bind, Except.bind]
  | ok before =>
      cases stepped : JsonText.step dialect before c with
      | error e => simp [bind, Except.bind, stepped]
      | ok after =>
          obtain ⟨place, part, high, text, rfl⟩ := foreign.step dialect stepped
          simp [bind, Except.bind, stepped, finish]

end Foreign

/-! ## Trailing whitespace -/

section Whitespace

variable {c : Char} (blank : isWhitespace c = true)
include blank

theorem whitespace_cases : c = ' ' ∨ c = '\t' ∨ c = '\n' ∨ c = '\r' := by
  simpa [isWhitespace, or_assoc] using blank

theorem whitespace_isDigit : c.isDigit = false := by
  obtain rfl | rfl | rfl | rfl := whitespace_cases blank <;> rfl

theorem whitespace_ne {other : Char} (h : isWhitespace other = false) : c ≠ other := by
  rintro rfl
  simp [blank] at h

theorem stringStep_of_whitespace (place : Place) (part : StringPart) (high : Option Nat)
    (text : List Char) :
    (stringStep place part high text c >>= finish dialect) = .error .malformed := by
  cases part with
  | plain =>
      obtain rfl | rfl | rfl | rfl := whitespace_cases blank <;>
        simp [stringStep, finish, bind, Except.bind]
  | escape =>
      obtain rfl | rfl | rfl | rfl := whitespace_cases blank <;>
        simp [stringStep, simpleEscape?, bind, Except.bind]
  | unicode digits =>
      obtain rfl | rfl | rfl | rfl := whitespace_cases blank <;>
        simp [stringStep, hexDigit?, bind, Except.bind]

theorem numberPart?_of_whitespace (part : NumberPart) : numberPart? part c = none := by
  obtain rfl | rfl | rfl | rfl := whitespace_cases blank <;> cases part <;> rfl

theorem wordStep_of_whitespace (word : Word) (read : Nat) (stack : List Frame) :
    wordStep word read stack c = .error .malformed := by
  have other : word.letters[read]? ≠ some c := by
    intro h
    have member := List.mem_of_getElem? h
    have letters : ∀ letter ∈ word.letters, isWhitespace letter = false := by
      cases word <;> simp [Word.letters, isWhitespace]
    simpa [blank] using letters c member
  rw [wordStep, if_neg other]

theorem numberStep_of_whitespace (part : NumberPart) (integral : Bool) (text : List Char)
    (stack : List Frame) :
    (numberStep dialect part integral text stack c >>= finish dialect) =
      finish dialect (.number part integral text stack) := by
  have other : c ≠ 'I' := whitespace_ne blank rfl
  simp only [numberStep, numberPart?_of_whitespace blank, other, false_and, and_false, if_false,
    finish]
  cases finishNumber dialect part integral text stack with
  | error e => rfl
  | ok ended => cases ended <;> simp [punctuate, afterStep, blank, finish, bind, Except.bind]

theorem step_finish_of_whitespace (s : State) :
    (step dialect s c >>= finish dialect) = finish dialect s := by
  cases s with
  | string place part high text => exact stringStep_of_whitespace dialect blank place part high text
  | number part integral text stack =>
      exact numberStep_of_whitespace dialect blank part integral text stack
  | word word read stack => simp [step, wordStep_of_whitespace blank, finish, bind, Except.bind]
  | _ => simp [step, afterStep, blank, finish, bind, Except.bind]

theorem loads_append_of_whitespace (text : List Char) :
    loads dialect (text ++ [c]) = loads dialect text := by
  simp only [loads, run, List.foldlM_append, List.foldlM_cons, List.foldlM_nil, bind_assoc,
    pure_bind, step_finish_of_whitespace dialect blank]

end Whitespace

end Reader

/-! ## The grammar alone -/

/-- The grammar with no constants and no limits. -/
def plain (float : String → Json) : Dialect where
  constants := false
  digits := none
  depth := none
  float := float

/-- What the first yields the second yields as well, unless a limit stops it. -/
def Follows {α : Type} (strict wide : Except LoadError α) : Prop :=
  ∀ a, strict = .ok a → wide = .ok a ∨ wide = .error .tooManyDigits ∨ wide = .error .tooDeep

theorem Follows.refl {α : Type} (x : Except LoadError α) : Follows x x :=
  fun _ h => .inl h

theorem Follows.error {α : Type} (e : LoadError) (x : Except LoadError α) :
    Follows (.error e) x := by
  intro a h
  cases h

theorem Follows.bind {α β : Type} {strict wide : Except LoadError α}
    {next other : α → Except LoadError β} (first : Follows strict wide)
    (second : ∀ a, Follows (next a) (other a)) : Follows (strict >>= next) (wide >>= other) := by
  intro b h
  cases strict with
  | error e => cases h
  | ok a =>
      obtain rfl | rfl | rfl := first a rfl
      · exact second a b h
      · exact .inr (.inl rfl)
      · exact .inr (.inr rfl)

section Plain

variable (dialect : Dialect)

theorem openContainer_follows (stack : List Frame) (next : State) :
    Follows (openContainer (plain dialect.float) stack next)
      (openContainer dialect stack next) := by
  intro s h
  cases h
  unfold openContainer
  split
  · split_ifs
    · exact .inr (.inr rfl)
    · exact .inl rfl
  · exact .inl rfl

theorem startValue_follows (stack : List Frame) (c : Char) :
    Follows (startValue (plain dialect.float) stack c) (startValue dialect stack c) := by
  by_cases named : c = 'N' ∨ c = 'I'
  · obtain rfl | rfl := named <;>
      simp [startValue, plain, Follows]
  · obtain ⟨hN, hI⟩ := not_or.mp named
    simp only [startValue, hN, hI, false_and, if_false]
    split_ifs
    · exact .refl _
    · exact openContainer_follows dialect stack _
    · exact openContainer_follows dialect stack _
    all_goals exact .refl _

theorem finishNumber_follows (part : NumberPart) (integral : Bool) (text : List Char)
    (stack : List Frame) :
    Follows (finishNumber (plain dialect.float) part integral text stack)
      (finishNumber dialect part integral text stack) := by
  cases part with
  | zero | digits =>
      intro s h
      cases h
      cases long : tooLong dialect text with
      | false => exact .inl (by simp [finishNumber, long])
      | true => exact .inr (.inl (by simp [finishNumber, long]))
  | minus | fraction | exponentDigits => exact .refl _
  | point | exponent | exponentSign =>
      simp only [finishNumber, plain, tooLong, Bool.and_false, Bool.false_eq_true, if_false]
      exact .error _ _

theorem numberStep_follows (part : NumberPart) (integral : Bool) (text : List Char)
    (stack : List Frame) (c : Char) :
    Follows (numberStep (plain dialect.float) part integral text stack c)
      (numberStep dialect part integral text stack c) := by
  unfold numberStep
  cases numberPart? part c with
  | some next => exact .refl _
  | none =>
      by_cases minus : part = .minus
      · subst minus
        simp only [plain, finishNumber, Bool.false_eq_true, and_false, if_false]
        exact .error _ _
      · simp only [minus, false_and, if_false]
        exact (finishNumber_follows dialect part integral text stack).bind fun _ => .refl _

theorem step_follows (s : State) (c : Char) :
    Follows (step (plain dialect.float) s c) (step dialect s c) := by
  cases s with
  | value stack =>
      simp only [step]
      split_ifs
      · exact .refl _
      · exact startValue_follows dialect stack c
  | arrayStart stack =>
      simp only [step]
      split_ifs
      · exact .refl _
      · exact .refl _
      · exact startValue_follows dialect _ c
  | number part integral text stack => exact numberStep_follows dialect part integral text stack c
  | _ => exact .refl _

theorem finish_follows (s : State) :
    Follows (finish (plain dialect.float) s) (finish dialect s) := by
  cases s with
  | number part integral text stack =>
      exact (finishNumber_follows dialect part integral text stack).bind fun _ => .refl _
  | _ => exact .refl _

theorem run_follows (s : State) (text : List Char) :
    Follows (run (plain dialect.float) s text) (run dialect s text) := by
  induction text generalizing s with
  | nil => exact .refl _
  | cons c rest ih =>
      simp only [run, List.foldlM_cons]
      exact (step_follows dialect s c).bind ih

/-- Constants and limits aside, a dialect reads the texts of the grammar as the
grammar does. -/
theorem loads_follows (text : List Char) :
    Follows (loads (plain dialect.float) text) (loads dialect text) :=
  (run_follows dialect _ text).bind (finish_follows dialect)

end Plain

/-! ## Keys in order -/

section Keyed

variable {dialect : Dialect}

def Frame.Keyed : Frame → Prop
  | .array items => ∀ item ∈ items, item.Keyed
  | .object fields _ => (Json.obj fields).Keyed

/-- The values that are read so far keep their keys in order. -/
def KeyedStack (stack : List Frame) : Prop :=
  ∀ frame ∈ stack, frame.Keyed

def Place.Keyed : Place → Prop
  | .value stack => KeyedStack stack
  | .key fields stack => (Json.obj fields).Keyed ∧ KeyedStack stack

def State.Keyed : State → Prop
  | .value stack | .arrayStart stack | .objectStart stack => KeyedStack stack
  | .key fields stack | .colon _ fields stack => (Json.obj fields).Keyed ∧ KeyedStack stack
  | .afterItem frame stack => frame.Keyed ∧ KeyedStack stack
  | .done result => result.Keyed
  | .string place _ _ _ => place.Keyed
  | .number _ _ _ stack | .word _ _ stack => KeyedStack stack

/-- Every value the computation yields has the property. -/
def Yields {α : Type} (p : α → Prop) (x : Except LoadError α) : Prop :=
  ∀ a, x = .ok a → p a

@[simp] theorem yields_ok {α : Type} {p : α → Prop} {a : α} :
    Yields p (.ok a) ↔ p a := by
  constructor
  · intro h
    exact h a rfl
  · intro h _ same
    cases same
    exact h

@[simp] theorem yields_error {α : Type} {p : α → Prop} {e : LoadError} :
    Yields p (.error e) := by
  intro _ h
  cases h

theorem Yields.bind {α β : Type} {p : α → Prop} {q : β → Prop} {x : Except LoadError α}
    {f : α → Except LoadError β} (first : Yields p x) (rest : ∀ a, p a → Yields q (f a)) :
    Yields q (x >>= f) := by
  cases x with
  | ok a => exact rest a (first a rfl)
  | error e => exact yields_error

theorem Yields.ite {α : Type} {p : α → Prop} {test : Prop} [Decidable test]
    {x y : Except LoadError α} (first : Yields p x) (second : Yields p y) :
    Yields p (if test then x else y) := by
  by_cases h : test
  · rwa [if_pos h]
  · rwa [if_neg h]

theorem KeyedStack.cons {frame : Frame} {stack : List Frame} (first : frame.Keyed)
    (rest : KeyedStack stack) : KeyedStack (frame :: stack) :=
  List.forall_mem_cons.mpr ⟨first, rest⟩

theorem keyed_nil : (Json.obj []).Keyed :=
  ⟨Dict.ordered_nil, trivial⟩

theorem keyed_set {fields : Dict String Json} {value : Json} (h : (Json.obj fields).Keyed)
    (hvalue : value.Keyed) (key : String) : (Json.obj (Dict.set fields key value)).Keyed := by
  rw [Json.keyed_obj_iff] at h ⊢
  refine ⟨h.1.set key value, (Dict.forall_mem_iff (h.1.set key value)
    (p := fun _ value => value.Keyed)).mpr fun name found hget => ?_⟩
  rw [Dict.get?_set] at hget
  split_ifs at hget
  · obtain rfl := Option.some.inj hget
    exact hvalue
  · exact h.2 _ (Dict.mem_of_get?_eq_some hget)

theorem keyedItems_iff {items : List Json} :
    Json.KeyedItems items ↔ ∀ item ∈ items, item.Keyed := by
  induction items with
  | nil => simp [Json.KeyedItems]
  | cons item items ih => simp [Json.KeyedItems, ih]

theorem complete_keyed {value : Json} {stack : List Frame} (hvalue : value.Keyed)
    (h : KeyedStack stack) : (complete value stack).Keyed := by
  cases stack with
  | nil => exact hvalue
  | cons frame stack =>
      obtain ⟨hframe, rest⟩ := List.forall_mem_cons.mp h
      cases frame with
      | array items => exact ⟨List.forall_mem_cons.mpr ⟨hvalue, hframe⟩, rest⟩
      | object fields key => exact ⟨keyed_set hframe hvalue key, rest⟩

theorem startValue_keyed {stack : List Frame} (h : KeyedStack stack) (c : Char) :
    Yields State.Keyed (startValue dialect stack c) := by
  have opened (next : State) (hnext : next.Keyed) :
      Yields State.Keyed (openContainer dialect stack next) := by
    unfold openContainer
    split
    · split_ifs <;> simp [hnext]
    · simp [hnext]
  have begun (next : State) (hnext : next.Keyed) : Yields State.Keyed (.ok next) :=
    yields_ok.mpr hnext
  unfold startValue
  refine .ite (begun _ h) (.ite (opened _ h) (.ite (opened _ h) ?_))
  refine .ite (begun _ h) (.ite (begun _ h) (.ite (begun _ h) ?_))
  refine .ite (begun _ h) (.ite (begun _ h) (.ite (begun _ h) ?_))
  exact .ite (begun _ h) (.ite (begun _ h) yields_error)

theorem afterStep_keyed {frame : Frame} {stack : List Frame} (hframe : frame.Keyed)
    (h : KeyedStack stack) (c : Char) : Yields State.Keyed (afterStep frame stack c) := by
  unfold afterStep
  by_cases blank : isWhitespace c = true
  · rw [if_pos blank]
    exact yields_ok.mpr ⟨hframe, h⟩
  rw [if_neg blank]
  cases frame with
  | array items =>
      have whole : (Json.arr items.reverse).Keyed :=
        keyedItems_iff.mpr fun item member => hframe item (List.mem_reverse.mp member)
      exact .ite (yields_ok.mpr (h.cons hframe))
        (.ite (yields_ok.mpr (complete_keyed whole h)) yields_error)
  | object fields key =>
      exact .ite (yields_ok.mpr ⟨hframe, h⟩)
        (.ite (yields_ok.mpr (complete_keyed hframe h)) yields_error)

theorem punctuate_keyed {state : State} (h : state.Keyed) (c : Char) :
    Yields State.Keyed (punctuate state c) := by
  cases state with
  | afterItem frame stack => exact afterStep_keyed h.1 h.2 c
  | done value =>
      simp only [punctuate]
      exact .ite (yields_ok.mpr h) yields_error
  | _ => exact yields_error

theorem unitState_keyed {place : Place} (h : place.Keyed) (high : Option Nat)
    (text : List Char) (unit : Nat) : (unitState place high text unit).Keyed := by
  obtain ⟨high', text', same⟩ := Foreign.unitState_eq_string place high text unit
  rw [same]
  exact h

theorem stringStep_keyed {place : Place} (h : place.Keyed) (part : StringPart)
    (high : Option Nat) (text : List Char) (c : Char) :
    Yields State.Keyed (stringStep place part high text c) := by
  have closed (text : List Char) : (closeString place text).Keyed := by
    cases place with
    | value stack => exact complete_keyed trivial h
    | key fields stack => exact h
  cases part with
  | plain =>
      simp only [stringStep]
      exact .ite (yields_ok.mpr (closed _))
        (.ite (yields_ok.mpr h) (.ite yields_error (yields_ok.mpr h)))
  | escape =>
      simp only [stringStep]
      refine .ite (yields_ok.mpr h) ?_
      cases simpleEscape? c with
      | some escaped => exact yields_ok.mpr h
      | none => exact yields_error
  | unicode digits =>
      simp only [stringStep]
      exact .ite yields_error
        (.ite (yields_ok.mpr h) (yields_ok.mpr (unitState_keyed h high text _)))

-- numbers are keyed
variable (floats : ∀ text, (dialect.float text).Keyed)

include floats

theorem finishNumber_keyed (part : NumberPart) (integral : Bool) (text : List Char)
    {stack : List Frame} (h : KeyedStack stack) :
    Yields State.Keyed (finishNumber dialect part integral text stack) := by
  cases part with
  | minus => exact yields_error
  | zero | digits => exact .ite yields_error (yields_ok.mpr (complete_keyed trivial h))
  | fraction | exponentDigits => exact yields_ok.mpr (complete_keyed (floats _) h)
  | point | exponent | exponentSign => exact .ite yields_error yields_error

theorem numberStep_keyed (part : NumberPart) (integral : Bool) (text : List Char)
    {stack : List Frame} (h : KeyedStack stack) (c : Char) :
    Yields State.Keyed (numberStep dialect part integral text stack c) := by
  unfold numberStep
  cases numberPart? part c with
  | some next => exact yields_ok.mpr h
  | none =>
      exact .ite (yields_ok.mpr h) ((finishNumber_keyed floats part integral text h).bind
        fun ended hended => punctuate_keyed hended c)

theorem step_keyed {state : State} (h : state.Keyed) (c : Char) :
    Yields State.Keyed (step dialect state c) := by
  cases state with
  | value stack => exact .ite (yields_ok.mpr h) (startValue_keyed h c)
  | arrayStart stack =>
      have opened : KeyedStack (.array [] :: stack) := KeyedStack.cons (by simp [Frame.Keyed]) h
      exact .ite (yields_ok.mpr h) (.ite (yields_ok.mpr (complete_keyed trivial h))
        (startValue_keyed opened c))
  | objectStart stack =>
      exact .ite (yields_ok.mpr h) (.ite (yields_ok.mpr (complete_keyed keyed_nil h))
        (.ite (yields_ok.mpr ⟨keyed_nil, h⟩) yields_error))
  | key fields stack => exact .ite (yields_ok.mpr h) (.ite (yields_ok.mpr h) yields_error)
  | colon key fields stack =>
      exact .ite (yields_ok.mpr h) (.ite (yields_ok.mpr (KeyedStack.cons h.1 h.2)) yields_error)
  | afterItem frame stack => exact afterStep_keyed h.1 h.2 c
  | done value => exact .ite (yields_ok.mpr h) yields_error
  | string place part high text => exact stringStep_keyed h part high text c
  | number part integral text stack => exact numberStep_keyed floats part integral text h c
  | word word read stack =>
      have whole : word.value.Keyed := by cases word <;> trivial
      exact .ite (.ite (yields_ok.mpr (complete_keyed whole h)) (yields_ok.mpr h)) yields_error

theorem run_keyed {state : State} (h : state.Keyed) (text : List Char) :
    Yields State.Keyed (run dialect state text) := by
  induction text generalizing state with
  | nil => exact yields_ok.mpr h
  | cons c rest ih =>
      simp only [run, List.foldlM_cons]
      exact (step_keyed floats h c).bind fun next hnext => ih hnext

/-- A value that is read keeps its keys in order. -/
theorem loads_keyed (text : List Char) : Yields Json.Keyed (loads dialect text) := by
  have started : (State.value []).Keyed := List.forall_mem_nil _
  refine (run_keyed floats started text).bind fun state h => ?_
  cases state with
  | done value => exact yields_ok.mpr h
  | number part integral text stack =>
      refine (finishNumber_keyed floats part integral text h).bind fun ended hended => ?_
      cases ended with
      | done value => exact yields_ok.mpr hended
      | _ => exact yields_error
  | _ => exact yields_error

end Keyed

end MncsForge.Foundation.JsonText
