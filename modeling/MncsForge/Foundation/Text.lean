import Mathlib

/-!
# Text and its bytes

Text is kept as UTF-8.  Encoding is injective, respects concatenation and is
undone by decoding.  A text file that is read has its line ends translated.
-/

namespace MncsForge.Foundation.Text

/-- `str.encode("utf-8")`. -/
def utf8 (text : String) : List UInt8 :=
  text.toUTF8.data.toList

/-- `bytes.decode("utf-8")`, with `none` for bytes that are not UTF-8. -/
def decodeUtf8? (bytes : List UInt8) : Option String :=
  String.fromUTF8? ⟨bytes.toArray⟩

theorem utf8_injective : Function.Injective utf8 := by
  intro first second h
  apply String.toByteArray_inj.mp
  have data : first.toByteArray.data = second.toByteArray.data := Array.toList_inj.mp h
  exact ByteArray.ext data

@[simp] theorem utf8_append (first second : String) :
    utf8 (first ++ second) = utf8 first ++ utf8 second := by
  simp [utf8]

theorem decodeUtf8?_utf8 (text : String) : decodeUtf8? (utf8 text) = some text := by
  have same : ByteArray.mk (utf8 text).toArray = text.toByteArray := by
    simp [utf8]
  rw [decodeUtf8?, same, String.fromUTF8?, dif_pos text.isValidUTF8]
  rfl

/-- Bytes that decode are the encoding of their text. -/
theorem utf8_of_decodeUtf8? {bytes : List UInt8} {text : String}
    (h : decodeUtf8? bytes = some text) : utf8 text = bytes := by
  rw [decodeUtf8?, String.fromUTF8?] at h
  split at h
  · cases h
    simp [utf8, String.fromUTF8]
  · cases h

/-! ## Carriage returns -/

theorem utf8_eq_flatMap (text : String) : utf8 text = text.toList.flatMap String.utf8EncodeChar := by
  have encoded : text.toByteArray = text.toList.utf8Encode := String.utf8Encode_toList.symm
  rw [utf8, String.toUTF8_eq_toByteArray, encoded, List.utf8Encode, List.toList_data_toByteArray]

private theorem ofNat_eq_carriageReturn {n : Nat} (bound : n < 256) :
    UInt8.ofNat n = 13 ↔ n = 13 := by
  have value : (UInt8.ofNat n).toNat = n := Nat.mod_eq_of_lt bound
  constructor
  · intro h
    rw [← value, h]
    rfl
  · rintro rfl
    rfl

private theorem carriageReturn_iff (c : Char) : c.val.toNat = 13 ↔ c = '\r' := by
  rw [Char.ext_iff, ← UInt32.toNat_inj]
  rfl

/-- Only a carriage return is encoded with its byte: the bytes of a longer encoding
have their high bit set. -/
theorem count_utf8EncodeChar (c : Char) :
    (String.utf8EncodeChar c).count 13 = if c = '\r' then 1 else 0 := by
  by_cases ascii : c.val.toNat ≤ 0x7f
  · have single : String.utf8EncodeChar c = [UInt8.ofNat c.val.toNat] :=
      if_pos ascii
    rw [single, List.count_singleton]
    have same := ofNat_eq_carriageReturn (n := c.val.toNat) (by omega)
    simp only [beq_iff_eq, same, carriageReturn_iff]
  · have other : c ≠ '\r' := by
      rw [Ne, ← carriageReturn_iff]
      omega
    have absent : (13 : UInt8) ∉ String.utf8EncodeChar c := by
      simp only [String.utf8EncodeChar, ascii, if_false]
      split_ifs <;>
        simp only [List.mem_cons, List.not_mem_nil, or_false, not_or, eq_comm (a := (13 : UInt8))] <;>
        refine ⟨?_, ?_⟩ <;> (try refine ⟨?_, ?_⟩) <;> (try refine ⟨?_, ?_⟩) <;>
        (rw [ofNat_eq_carriageReturn (by omega)]; omega)
    rw [List.count_eq_zero_of_not_mem absent, if_neg other]

theorem count_utf8 (text : String) : (utf8 text).count 13 = text.toList.count '\r' := by
  rw [utf8_eq_flatMap]
  induction text.toList with
  | nil => rfl
  | cons c rest ih =>
      rw [List.flatMap_cons, List.count_append, count_utf8EncodeChar, ih, List.count_cons]
      by_cases h : c = '\r' <;> simp [h, Nat.add_comm]

/-- Universal newlines: a carriage return, alone or before a line feed, is read as one. -/
def translateNewlines : List Char → List Char
  | [] => []
  | '\r' :: '\n' :: rest => '\n' :: translateNewlines rest
  | c :: rest => (if c = '\r' then '\n' else c) :: translateNewlines rest

theorem carriageReturn_notMem_translate (text : List Char) : '\r' ∉ translateNewlines text := by
  fun_induction translateNewlines text with
  | case1 => simp
  | case2 rest ih => simpa using ih
  | case3 c rest _ ih =>
      rw [List.mem_cons, not_or]
      refine ⟨?_, ih⟩
      split <;> simp_all [eq_comm]

theorem translateNewlines_of_notMem {text : List Char} (h : '\r' ∉ text) :
    translateNewlines text = text := by
  fun_induction translateNewlines text with
  | case1 => rfl
  | case2 rest ih => simp at h
  | case3 c rest _ ih =>
      rw [List.mem_cons, not_or] at h
      rw [ih h.2, if_neg (Ne.symm h.1)]

end MncsForge.Foundation.Text
