import Mathlib

/-!
# Length-prefixed frames

A frame is a run of bytes after its length, written in a fixed number of bytes,
the most significant one first.  A concatenation of frames can be read in one
way only.
-/

namespace MncsForge.Foundation.Framing

/-- `n` in `width` bytes; what does not fit is cut off. -/
def bigEndian : Nat → Nat → List UInt8
  | 0, _ => []
  | width + 1, n => bigEndian width (n / 256) ++ [UInt8.ofNat n]

@[simp] theorem bigEndian_length (width n : Nat) : (bigEndian width n).length = width := by
  induction width generalizing n with
  | zero => rfl
  | succ width ih => simp [bigEndian, ih]

theorem bigEndian_inj {width m n : Nat} (hm : m < 256 ^ width) (hn : n < 256 ^ width)
    (h : bigEndian width m = bigEndian width n) : m = n := by
  induction width generalizing m n with
  | zero =>
      simp only [pow_zero] at hm hn
      omega
  | succ width ih =>
      rw [bigEndian, bigEndian] at h
      obtain ⟨high, low⟩ := List.append_inj h (by simp)
      have quotients : m / 256 = n / 256 := by
        apply ih _ _ high
        · rw [pow_succ] at hm
          omega
        · rw [pow_succ] at hn
          omega
      have remainders : m % 256 = n % 256 := by
        have := congrArg UInt8.toNat (List.cons.inj low).1
        simpa [UInt8.toNat_ofNat] using this
      omega

/-- A frame; a run whose length does not fit has none. -/
def frame (width : Nat) (bytes : List UInt8) : Option (List UInt8) :=
  if bytes.length < 256 ^ width then some (bigEndian width bytes.length ++ bytes) else none

theorem frame_eq_some_iff {width : Nat} {bytes framed : List UInt8} :
    frame width bytes = some framed ↔
      bytes.length < 256 ^ width ∧ bigEndian width bytes.length ++ bytes = framed := by
  simp [frame]

/-- Frames that start the same text are the same, and so is what follows them. -/
theorem frame_append_inj {width : Nat} {bytes bytes' framed framed' rest rest' : List UInt8}
    (h : frame width bytes = some framed) (h' : frame width bytes' = some framed')
    (same : framed ++ rest = framed' ++ rest') : bytes = bytes' ∧ rest = rest' := by
  obtain ⟨bound, rfl⟩ := frame_eq_some_iff.mp h
  obtain ⟨bound', rfl⟩ := frame_eq_some_iff.mp h'
  simp only [List.append_assoc] at same
  obtain ⟨lengths, bodies⟩ := List.append_inj same (by simp)
  exact List.append_inj bodies (bigEndian_inj bound bound' lengths)

def frames (width : Nat) : List (List UInt8) → Option (List UInt8)
  | [] => some []
  | bytes :: runs => do
      let first ← frame width bytes
      let rest ← frames width runs
      some (first ++ rest)

theorem frames_cons_eq_some {width : Nat} {bytes : List UInt8} {runs : List (List UInt8)}
    {stream : List UInt8} (h : frames width (bytes :: runs) = some stream) :
    ∃ first rest, frame width bytes = some first ∧ frames width runs = some rest ∧
      stream = first ++ rest := by
  simp only [frames, Option.bind_eq_bind, Option.bind_eq_some_iff, Option.some.injEq] at h
  obtain ⟨first, hfirst, rest, hrest, rfl⟩ := h
  exact ⟨first, rest, hfirst, hrest, rfl⟩

/-- Runs that all fit have a stream. -/
theorem exists_frames {width : Nat} {runs : List (List UInt8)}
    (fit : ∀ bytes ∈ runs, bytes.length < 256 ^ width) : ∃ stream, frames width runs = some stream := by
  induction runs with
  | nil => exact ⟨[], rfl⟩
  | cons bytes runs ih =>
      obtain ⟨rest, hrest⟩ := ih fun run hrun => fit run (List.mem_cons_of_mem _ hrun)
      have bound := fit bytes List.mem_cons_self
      exact ⟨bigEndian width bytes.length ++ bytes ++ rest, by simp [frames, frame, bound, hrest]⟩

/-- A frame is not empty, as its length takes up bytes. -/
theorem frames_cons_ne_nil {width : Nat} (wide : 0 < width) {bytes : List UInt8}
    {runs : List (List UInt8)} : frames width (bytes :: runs) ≠ some [] := by
  intro h
  obtain ⟨first, rest, hfirst, -, empty⟩ := frames_cons_eq_some h
  obtain ⟨-, rfl⟩ := frame_eq_some_iff.mp hfirst
  have := congrArg List.length empty
  simp at this
  omega

/-- The runs can be read back. -/
theorem frames_inj {width : Nat} (wide : 0 < width) {runs runs' : List (List UInt8)}
    {stream : List UInt8} (h : frames width runs = some stream)
    (h' : frames width runs' = some stream) : runs = runs' := by
  induction runs generalizing runs' stream with
  | nil =>
      cases runs' with
      | nil => rfl
      | cons bytes runs' =>
          cases h
          exact absurd h' (frames_cons_ne_nil wide)
  | cons bytes runs ih =>
      cases runs' with
      | nil =>
          cases h'
          exact absurd h (frames_cons_ne_nil wide)
      | cons bytes' runs' =>
          obtain ⟨first, rest, hfirst, hrest, rfl⟩ := frames_cons_eq_some h
          obtain ⟨first', rest', hfirst', hrest', same⟩ := frames_cons_eq_some h'
          obtain ⟨rfl, rfl⟩ := frame_append_inj hfirst hfirst' same
          rw [ih hrest hrest']

end MncsForge.Foundation.Framing
