import Mathlib
import MncsForge.Foundation.Text

/-!
# Lines of bytes

A line ends with a line feed, with a carriage return, or with both.  Text without
such characters takes up one line, and a text that ends with a line feed leaves the
lines after it alone.
-/

namespace MncsForge.Foundation.ByteLines

/-- `bytes.splitlines(keepends=True)`, with the line that has begun. -/
def splitlines (line : List UInt8) : List UInt8 → List (List UInt8)
  | [] => if line = [] then [] else [line]
  | byte :: rest =>
      if byte = 10 ∨ (byte = 13 ∧ rest.head? ≠ some 10) then
        (line ++ [byte]) :: splitlines [] rest
      else splitlines (line ++ [byte]) rest

theorem splitlines_cons (line : List UInt8) (byte : UInt8) (rest : List UInt8) :
    splitlines line (byte :: rest) =
      if byte = 10 ∨ (byte = 13 ∧ rest.head? ≠ some 10) then
        (line ++ [byte]) :: splitlines [] rest
      else splitlines (line ++ [byte]) rest :=
  rfl

/-- No byte of the text ends a line. -/
def Unbroken (text : List UInt8) : Prop :=
  ∀ byte ∈ text, byte ≠ 10 ∧ byte ≠ 13

/-- Every line of the text has its line feed. -/
def Ended (text : List UInt8) : Prop :=
  text = [] ∨ text.getLast? = some 10

theorem ended_append_newline (text : List UInt8) : Ended (text ++ [10]) :=
  Or.inr List.getLast?_concat

theorem Unbroken.start {text whole : List UInt8} (h : Unbroken whole) (part : text <+: whole) :
    Unbroken text :=
  fun byte member => h byte (part.subset member)

theorem splitlines_unbroken {text : List UInt8} (h : Unbroken text) (line rest : List UInt8) :
    splitlines line (text ++ 10 :: rest) = (line ++ text ++ [10]) :: splitlines [] rest := by
  induction text generalizing line with
  | nil => simp [splitlines]
  | cons byte text ih =>
      obtain ⟨first, others⟩ := List.forall_mem_cons.mp h
      simp [splitlines, first.1, first.2, ih others]

/-- A text without a line end is one line. -/
theorem splitlines_torn {text : List UInt8} (h : Unbroken text) {line : List UInt8}
    (visible : line ++ text ≠ []) : splitlines line text = [line ++ text] := by
  induction text generalizing line with
  | nil =>
      rw [List.append_nil] at visible
      simp [splitlines, visible]
  | cons byte text ih =>
      obtain ⟨first, others⟩ := List.forall_mem_cons.mp h
      simp [splitlines, first.1, first.2, ih others]

theorem splitlines_append {before : List UInt8} (line rest : List UInt8)
    (ended : before.getLast? = some 10) :
    splitlines line (before ++ rest) = splitlines line before ++ splitlines [] rest := by
  induction before generalizing line with
  | nil => simp at ended
  | cons byte before ih =>
      cases before with
      | nil =>
          obtain rfl : byte = 10 := by simpa using ended
          simp [splitlines]
      | cons next before =>
          rw [List.getLast?_cons_cons] at ended
          have first := splitlines_cons line byte (next :: before ++ rest)
          have same := splitlines_cons line byte (next :: before)
          rw [List.cons_append, List.head?_cons] at first
          rw [List.head?_cons] at same
          rw [List.cons_append, List.cons_append, first, same]
          have inner := ih [] ended
          have outer := ih (line ++ [byte]) ended
          rw [List.cons_append] at inner outer
          rw [inner, outer]
          split_ifs <;> rfl

/-- What follows complete lines is split on its own. -/
theorem Ended.splitlines_append {before : List UInt8} (h : Ended before) (rest : List UInt8) :
    splitlines [] (before ++ rest) = splitlines [] before ++ splitlines [] rest := by
  obtain rfl | ended := h
  · simp [splitlines]
  · exact ByteLines.splitlines_append [] rest ended

theorem splitlines_last (line : List UInt8) {text : List UInt8} (visible : line ++ text ≠ []) :
    ∃ lines last, splitlines line text = lines ++ [last] ∧
      last.getLast? = (line ++ text).getLast? := by
  induction text generalizing line with
  | nil =>
      rw [List.append_nil] at visible ⊢
      exact ⟨[], line, by simp [splitlines, visible], rfl⟩
  | cons byte text ih =>
      rw [splitlines]
      split_ifs
      · cases text with
        | nil => exact ⟨[], line ++ [byte], by simp [splitlines], rfl⟩
        | cons next text =>
            obtain ⟨lines, last, split, same⟩ := ih [] (by simp)
            refine ⟨(line ++ [byte]) :: lines, last, by rw [split]; rfl, ?_⟩
            rw [same, List.nil_append, List.getLast?_append_of_ne_nil _ (by simp),
              List.getLast?_cons_cons]
      · have whole : (line ++ [byte]) ++ text = line ++ byte :: text := by simp
        have := ih (line ++ [byte]) (by simp)
        rwa [whole] at this

/-- When every line has its line feed, so has the text. -/
theorem ended_of_splitlines {text : List UInt8}
    (h : ∀ line ∈ splitlines [] text, line.getLast? = some 10) : Ended text := by
  rcases List.eq_nil_or_concat text with rfl | visible
  · exact Or.inl rfl
  · have nonempty : ([] : List UInt8) ++ text ≠ [] := by
      obtain ⟨front, last, rfl⟩ := visible
      simp
    obtain ⟨lines, last, split, same⟩ := splitlines_last [] nonempty
    refine Or.inr ?_
    rw [← List.nil_append text, ← same]
    exact h last (by simp [split])

/-! ## Encoded text -/

theorem utf8EncodeChar_high {c : Char} (wide : 0x7f < c.val.toNat) :
    ∀ byte ∈ String.utf8EncodeChar c, 128 ≤ byte.toNat := by
  have ascii : ¬ c.val.toNat ≤ 0x7f := by omega
  have high (n : Nat) (small : n < 256) (h : 128 ≤ n) : 128 ≤ (UInt8.ofNat n).toNat := by
    rwa [UInt8.toNat_ofNat_of_lt' (by exact small)]
  simp only [String.utf8EncodeChar, ascii, if_false]
  split_ifs <;> simp only [List.forall_mem_cons, List.not_mem_nil, false_imp_iff, implies_true,
    and_true] <;> refine ⟨?_, ?_⟩ <;> (try refine ⟨?_, ?_⟩) <;> (try refine ⟨?_, ?_⟩) <;>
    exact high _ (by omega) (by omega)

/-- A text without line ends has none in its bytes. -/
theorem unbroken_utf8 {text : String} (h : ∀ c ∈ text.toList, c ≠ '\n' ∧ c ≠ '\r') :
    Unbroken (Text.utf8 text) := by
  intro byte member
  rw [Text.utf8_eq_flatMap, List.mem_flatMap] at member
  obtain ⟨c, hc, member⟩ := member
  by_cases wide : 0x7f < c.val.toNat
  · have high := utf8EncodeChar_high wide byte member
    constructor <;> rintro rfl <;> simp at high
  · have single : String.utf8EncodeChar c = [UInt8.ofNat c.val.toNat] := if_pos (by omega)
    rw [single, List.mem_singleton] at member
    have value : byte.toNat = c.val.toNat := by
      rw [member, UInt8.toNat_ofNat_of_lt' (by show c.val.toNat < 256; omega)]
    have differs (other : Char) (hother : c ≠ other) : byte.toNat ≠ other.val.toNat := by
      rw [value]
      exact fun same => hother (Char.ext (UInt32.toNat_inj.mp same))
    constructor <;> rintro rfl
    · exact differs '\n' (h c hc).1 rfl
    · exact differs '\r' (h c hc).2 rfl

end MncsForge.Foundation.ByteLines
