import Mathlib.Data.List.DropRight

/-!
# White space

Stripping takes the white space off both ends of a text.  What is left is a part of
the text, and stripping it again changes nothing.
-/

namespace MncsForge.Foundation.Text

/-! ## Ends of a list -/

section Trim

variable {α : Type*} (p : α → Bool)

/-- The list without its first and last elements that satisfy the test. -/
def trim (xs : List α) : List α :=
  (xs.dropWhile p).rdropWhile p

variable {p}

theorem trim_within (xs : List α) : trim p xs <:+: xs :=
  (List.rdropWhile_prefix p (xs.dropWhile p)).isInfix.trans (List.dropWhile_suffix p).isInfix

theorem trim_eq_self {xs : List α} (first : xs.dropWhile p = xs)
    (last : xs.rdropWhile p = xs) : trim p xs = xs := by
  rw [trim, first, last]

/-- What is left still begins as before, with an element that fails the test. -/
theorem dropWhile_trim (xs : List α) : (trim p xs).dropWhile p = trim p xs := by
  refine List.dropWhile_eq_self_iff.mpr fun nonempty => ?_
  have kept := List.dropWhile_get_zero_not p xs
  have leading : trim p xs <+: xs.dropWhile p := List.rdropWhile_prefix p _
  have whole : 0 < (xs.dropWhile p).length := lt_of_lt_of_le nonempty leading.length_le
  have same : (trim p xs)[0] = (xs.dropWhile p)[0] := leading.getElem nonempty
  rw [same]
  exact kept whole

theorem trim_trim (xs : List α) : trim p (trim p xs) = trim p xs :=
  trim_eq_self (dropWhile_trim xs) (List.rdropWhile_idempotent p _)

end Trim

/-! ## Texts -/

/-- `str.isspace`, of one character. -/
def isSpace (c : Char) : Bool :=
  c.toNat ∈ [0x09, 0x0a, 0x0b, 0x0c, 0x0d, 0x1c, 0x1d, 0x1e, 0x1f, 0x20, 0x85, 0xa0, 0x1680,
    0x2000, 0x2001, 0x2002, 0x2003, 0x2004, 0x2005, 0x2006, 0x2007, 0x2008, 0x2009, 0x200a,
    0x2028, 0x2029, 0x202f, 0x205f, 0x3000]

/-- `str.strip()` -/
def strip (text : String) : String :=
  String.ofList (trim isSpace text.toList)

@[simp] theorem toList_strip (text : String) :
    (strip text).toList = trim isSpace text.toList := by
  rw [strip, String.toList_ofList]

@[simp] theorem strip_strip (text : String) : strip (strip text) = strip text := by
  rw [strip, toList_strip, trim_trim]
  rfl

theorem length_strip_le (text : String) : (strip text).length ≤ text.length := by
  rw [← String.length_toList, ← String.length_toList, toList_strip]
  exact (trim_within text.toList).length_le

theorem mem_of_mem_strip {text : String} {c : Char} (h : c ∈ (strip text).toList) :
    c ∈ text.toList := by
  rw [toList_strip] at h
  exact (trim_within text.toList).subset h

end MncsForge.Foundation.Text
