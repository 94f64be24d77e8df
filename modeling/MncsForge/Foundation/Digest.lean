import Mathlib
import MncsForge.Foundation.CanonicalJson

/-!
# Digests

A digest function is a parameter of the development.  `verbatim` is the
function that keeps the bytes themselves: it has no collisions, so results that
assume collision freedom can be instantiated with it.
-/

namespace MncsForge.Foundation.Digest

/-- No two canonical encodings share a digest. -/
def CollisionFree (digest : List UInt8 → String) : Prop :=
  ∀ v w : Json, v.WellFormed → w.WellFormed →
    digest v.canonicalBytes = digest w.canonicalBytes →
      v.canonicalBytes = w.canonicalBytes

def verbatim (bytes : List UInt8) : String :=
  String.ofList ('#' :: bytes.map fun byte => Char.ofNat byte.toNat)

private theorem byteChar_toNat (n : Nat) (h : n < 256) : (Char.ofNat n).toNat = n := by
  have valid : n.isValidChar := Or.inl (by omega)
  rw [Char.ofNat, dif_pos valid]
  rfl

theorem verbatim_injective : Function.Injective verbatim := by
  intro first second h
  have chars := List.cons.inj (String.ofList_injective h)
  refine List.map_injective_iff.mpr (fun a b hab => ?_) chars.2
  have := congrArg Char.toNat hab
  rw [byteChar_toNat _ a.toNat_lt, byteChar_toNat _ b.toNat_lt] at this
  exact UInt8.toNat_inj.mp this

theorem verbatim_collisionFree : CollisionFree verbatim :=
  fun _ _ _ _ h => verbatim_injective h

theorem verbatim_ne_zeros (bytes : List UInt8) :
    verbatim bytes ≠ String.ofList (List.replicate 64 '0') := by
  intro h
  have chars := List.cons.inj (String.ofList_injective h)
  exact absurd chars.1 (by decide)

end MncsForge.Foundation.Digest
