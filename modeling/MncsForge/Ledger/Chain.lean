import Mathlib
import MncsForge.Errors
import MncsForge.Foundation.CanonicalJson
import MncsForge.Foundation.Digest
import MncsForge.Foundation.HashChain

/-!
# The raw ledger chain

The ledger is a list of JSON objects, each naming its position, the hash of the
entry before it and the hash of its own remaining members.
-/

namespace MncsForge.Ledger

open MncsForge.Foundation

def genesis : String := String.ofList (List.replicate 64 '0')

/-- A decoded ledger line: an object `canonical_bytes` can encode. -/
structure RawEntry where
  fields : Dict String Json
  wellFormed : (Json.obj fields).WellFormed
  deriving DecidableEq

namespace RawEntry

/-- `dict.get`, with `None` for a member that is not there. -/
def get (entry : RawEntry) (key : String) : Json :=
  (Dict.get? entry.fields key).getD .null

/-- The members the entry hash covers. -/
def body (entry : RawEntry) : Json :=
  .obj (Dict.erase entry.fields "entry_hash")

end RawEntry

section Chain

-- The hexadecimal SHA-256 digest of a byte string.
variable (sha : List UInt8 → String)

def entryHash (entryWithoutHash : Json) : String :=
  sha entryWithoutHash.canonicalBytes

/-- The loop of `_verify_raw_records`, from position `index` on. -/
def verifyFrom (index : Nat) (previous : String) :
    List RawEntry → Except ForgeError String
  | [] => .ok previous
  | entry :: rest => do
      let expected := entryHash sha entry.body
      refuseIf ((entry.get "sequence").isIndex index = false) "LEDGER_SEQUENCE"
        s!"invalid sequence at ledger entry {index}"
      refuseIf (entry.get "previous_hash" ≠ .str previous) "LEDGER_LINK"
        s!"broken hash link at ledger entry {index}"
      refuseIf (entry.get "entry_hash" ≠ .str expected) "LEDGER_TAMPER"
        s!"hash mismatch at ledger entry {index}"
      verifyFrom (index + 1) expected rest

/-! ## The chain behind the loop -/

/-- What the loop demands of an entry at one position. -/
def Linked (index : Nat) (previous : String) (entry : RawEntry) : Prop :=
  (entry.get "sequence").isIndex index = true ∧
    entry.get "previous_hash" = .str previous ∧
    entry.get "entry_hash" = .str (entryHash sha entry.body)

theorem verifyFrom_eq_ok {index : Nat} {previous head : String} {records : List RawEntry} :
    verifyFrom sha index previous records = .ok head ↔
      HashChain.Valid (fun entry => entryHash sha entry.body) (Linked sha)
          index previous records ∧
        HashChain.head (fun entry => entryHash sha entry.body) previous records = head := by
  induction records generalizing index previous with
  | nil => simp [verifyFrom, HashChain.Valid]
  | cons entry rest ih =>
      simp only [verifyFrom, refuseIf_bind_eq_ok, ih, HashChain.Valid, Linked,
        Bool.not_eq_false, not_ne_iff, and_assoc]
      rfl

end Chain

theorem RawEntry.body_wellFormed (entry : RawEntry) : entry.body.WellFormed := by
  obtain ⟨ordered, values⟩ := Json.wellFormed_obj_iff.mp entry.wellFormed
  refine Json.wellFormed_obj_iff.mpr ⟨ordered.erase _, fun member hmember => ?_⟩
  exact values member (List.mem_of_mem_filter hmember)

/-- The entry hash and the members it covers are the whole entry. -/
theorem RawEntry.eq_of_body_eq {first second : RawEntry} (body : first.body = second.body)
    {digest : String} (hfirst : first.get "entry_hash" = .str digest)
    (hsecond : second.get "entry_hash" = .str digest) : first = second := by
  have lookup : ∀ entry : RawEntry, entry.get "entry_hash" = .str digest →
      Dict.get? entry.fields "entry_hash" = some (.str digest) := by
    intro entry h
    unfold RawEntry.get at h
    cases hget : Dict.get? entry.fields "entry_hash" with
    | none => simp [hget] at h
    | some value => rw [← h, hget, Option.getD_some]
  have fields : first.fields = second.fields :=
    Dict.eq_of_erase_eq (Json.wellFormed_obj_iff.mp first.wellFormed).1
      (Json.wellFormed_obj_iff.mp second.wellFormed).1 (Json.obj.inj body)
      ((lookup first hfirst).trans (lookup second hsecond).symm)
  obtain ⟨members, _⟩ := first
  obtain ⟨members', _⟩ := second
  cases fields
  rfl

/-! ## The verified snapshot -/

/-- What a `Ledger` object remembers between reads. -/
structure LedgerCache where
  cachedDigest : Option String
  cachedRaw : Option (List RawEntry)
  verifiedDigest : Option String
  verifiedHead : Option String
  deriving DecidableEq

namespace LedgerCache

def empty : LedgerCache := ⟨none, none, none, none⟩

variable (sha : List UInt8 → String)

/-- `_verify_raw_records`.  The test `records is self._cached_raw` is equality
here: an equal list that is not the cached object takes the loop and, by
`verifyRawRecords_eq_ok`, comes to the same head. -/
def verifyRawRecords (cache : LedgerCache) (records : List RawEntry) :
    Except ForgeError (String × LedgerCache) :=
  match cache.verifiedHead with
  | some head =>
      if cache.cachedRaw = some records ∧ cache.cachedDigest = cache.verifiedDigest then
        .ok (head, cache)
      else verifyLoop
  | none => verifyLoop
where
  verifyLoop : Except ForgeError (String × LedgerCache) := do
    let previous ← verifyFrom sha 1 genesis records
    if cache.cachedRaw = some records then
      .ok (previous, { cache with
        verifiedDigest := cache.cachedDigest, verifiedHead := some previous })
    else .ok (previous, cache)

/-- `_read_unlocked_raw`, where `decode` is the line-by-line `json.loads` and an
absent file reads as no bytes. -/
def readUnlockedRaw (decode : List UInt8 → Except ForgeError (List RawEntry))
    (cache : LedgerCache) (file : Option (List UInt8)) :
    Except ForgeError (List RawEntry × LedgerCache) :=
  match file with
  | none => .ok ([], { cache with cachedDigest := some (sha []), cachedRaw := some [] })
  | some bytes =>
      match cache.cachedRaw with
      | some records =>
          if cache.cachedDigest = some (sha bytes) then .ok (records, cache) else fresh bytes
      | none => fresh bytes
where
  fresh (bytes : List UInt8) : Except ForgeError (List RawEntry × LedgerCache) := do
    let records ← decode bytes
    .ok (records, { cache with
      cachedDigest := some (sha bytes), cachedRaw := some records })

/-- The remembered head is the head of the remembered records whenever both come
from the same bytes. -/
def Coherent (cache : LedgerCache) : Prop :=
  cache.cachedDigest = cache.verifiedDigest → ∀ records head,
    cache.cachedRaw = some records → cache.verifiedHead = some head →
      verifyFrom sha 1 genesis records = .ok head

theorem empty_coherent : empty.Coherent sha := by
  intro _ records head hrecords
  simp [empty] at hrecords

variable {sha}

/-- On a coherent cache the shortcut returns what the loop returns. -/
theorem verifyRawRecords_eq_ok {cache : LedgerCache} (hcache : cache.Coherent sha)
    {records : List RawEntry} {head : String} {cache' : LedgerCache}
    (h : cache.verifyRawRecords sha records = .ok (head, cache')) :
    verifyFrom sha 1 genesis records = .ok head := by
  have loop : verifyRawRecords.verifyLoop sha cache records = .ok (head, cache') →
      verifyFrom sha 1 genesis records = .ok head := by
    intro h
    obtain ⟨previous, hverify, hrest⟩ := bind_eq_ok.mp h
    split_ifs at hrest with hraw
    · obtain ⟨rfl, _⟩ := Prod.mk.inj (Except.ok.inj hrest)
      exact hverify
    · obtain ⟨rfl, _⟩ := Prod.mk.inj (Except.ok.inj hrest)
      exact hverify
  unfold verifyRawRecords at h
  split at h
  · rename_i remembered hremembered
    split_ifs at h with hsame
    · obtain ⟨rfl, _⟩ := Prod.mk.inj (Except.ok.inj h)
      exact hcache hsame.2 records _ hsame.1 hremembered
    · exact loop h
  · exact loop h

/-! ### Reachable caches -/

/-- The caches a `Ledger` object goes through. -/
inductive Reachable (sha : List UInt8 → String)
    (decode : List UInt8 → Except ForgeError (List RawEntry)) : LedgerCache → Prop where
  | empty : Reachable sha decode empty
  | read {cache cache' : LedgerCache} {file : Option (List UInt8)}
      {records : List RawEntry} :
      Reachable sha decode cache →
      cache.readUnlockedRaw sha decode file = .ok (records, cache') →
      Reachable sha decode cache'
  | verify {cache cache' : LedgerCache} {records : List RawEntry} {head : String} :
      Reachable sha decode cache →
      cache.verifyRawRecords sha records = .ok (head, cache') →
      Reachable sha decode cache'

/-- Both halves of the cache come from decoded bytes. -/
private structure Bound (sha : List UInt8 → String)
    (decode : List UInt8 → Except ForgeError (List RawEntry)) (cache : LedgerCache) :
    Prop where
  cached : ∀ records, cache.cachedRaw = some records → ∃ bytes,
    cache.cachedDigest = some (sha bytes) ∧ decode bytes = .ok records
  verified : ∀ head, cache.verifiedHead = some head → ∃ bytes records,
    cache.verifiedDigest = some (sha bytes) ∧ decode bytes = .ok records ∧
      verifyFrom sha 1 genesis records = .ok head

variable {decode : List UInt8 → Except ForgeError (List RawEntry)}

private theorem Bound.read (hempty : decode [] = .ok []) {cache cache' : LedgerCache}
    (hcache : Bound sha decode cache) {file : Option (List UInt8)} {records : List RawEntry}
    (h : cache.readUnlockedRaw sha decode file = .ok (records, cache')) :
    Bound sha decode cache' := by
  have replaced : ∀ bytes raw, decode bytes = .ok raw →
      Bound sha decode { cache with
        cachedDigest := some (sha bytes), cachedRaw := some raw } := by
    intro bytes raw hdecode
    refine ⟨fun records hrecords => ?_, hcache.verified⟩
    obtain rfl := Option.some.inj hrecords
    exact ⟨bytes, rfl, hdecode⟩
  have fresh : ∀ bytes, readUnlockedRaw.fresh sha decode cache bytes = .ok (records, cache') →
      Bound sha decode cache' := by
    intro bytes h
    obtain ⟨raw, hdecode, hrest⟩ := bind_eq_ok.mp h
    obtain ⟨_, rfl⟩ := Prod.mk.inj (Except.ok.inj hrest)
    exact replaced bytes raw hdecode
  cases file with
  | none =>
      obtain ⟨_, rfl⟩ := Prod.mk.inj (Except.ok.inj h)
      exact replaced [] [] hempty
  | some bytes =>
      simp only [readUnlockedRaw] at h
      split at h
      · split_ifs at h
        · obtain ⟨_, rfl⟩ := Prod.mk.inj (Except.ok.inj h)
          exact hcache
        · exact fresh bytes h
      · exact fresh bytes h

private theorem Bound.verify {cache cache' : LedgerCache} (hcache : Bound sha decode cache)
    {records : List RawEntry} {head : String}
    (h : cache.verifyRawRecords sha records = .ok (head, cache')) :
    Bound sha decode cache' := by
  have loop : verifyRawRecords.verifyLoop sha cache records = .ok (head, cache') →
      Bound sha decode cache' := by
    intro h
    obtain ⟨previous, hverify, hrest⟩ := bind_eq_ok.mp h
    split_ifs at hrest with hraw
    · obtain ⟨rfl, rfl⟩ := Prod.mk.inj (Except.ok.inj hrest)
      refine ⟨hcache.cached, fun head' hhead => ?_⟩
      obtain rfl := Option.some.inj hhead
      obtain ⟨bytes, hdigest, hdecode⟩ := hcache.cached records hraw
      exact ⟨bytes, records, hdigest, hdecode, hverify⟩
    · obtain ⟨_, rfl⟩ := Prod.mk.inj (Except.ok.inj hrest)
      exact hcache
  unfold verifyRawRecords at h
  split at h
  · split_ifs at h
    · obtain ⟨_, rfl⟩ := Prod.mk.inj (Except.ok.inj h)
      exact hcache
    · exact loop h
  · exact loop h

/-- Without a digest collision between ledger files every reachable cache is
coherent. -/
theorem Reachable.coherent (injective : Function.Injective sha) (hempty : decode [] = .ok [])
    {cache : LedgerCache} (h : Reachable sha decode cache) : cache.Coherent sha := by
  have bound : Bound sha decode cache := by
    induction h with
    | empty => exact ⟨by simp [LedgerCache.empty], by simp [LedgerCache.empty]⟩
    | read _ hread ih => exact ih.read hempty hread
    | verify _ hverify ih => exact ih.verify hverify
  intro same records head hrecords hhead
  obtain ⟨bytes, hdigest, hdecode⟩ := bound.cached records hrecords
  obtain ⟨bytes', records', hdigest', hdecode', hverify⟩ := bound.verified head hhead
  rw [same, hdigest'] at hdigest
  obtain rfl := injective (Option.some.inj hdigest)
  rw [hdecode] at hdecode'
  obtain rfl := Except.ok.inj hdecode'
  exact hverify

end LedgerCache

/-- Two ledgers that verify to the same head are the same ledger. -/
theorem verifyRawRecords_head_injective {sha : List UInt8 → String}
    (collisionFree : Digest.CollisionFree sha)
    (nonzero : ∀ v : Json, v.WellFormed → sha v.canonicalBytes ≠ genesis)
    {cache₁ cache₂ next₁ next₂ : LedgerCache}
    (coherent₁ : cache₁.Coherent sha) (coherent₂ : cache₂.Coherent sha)
    {first second : List RawEntry} {head : String}
    (hfirst : cache₁.verifyRawRecords sha first = .ok (head, next₁))
    (hsecond : cache₂.verifyRawRecords sha second = .ok (head, next₂)) :
    first = second := by
  obtain ⟨valid₁, head₁⟩ :=
    (verifyFrom_eq_ok sha).mp (LedgerCache.verifyRawRecords_eq_ok coherent₁ hfirst)
  obtain ⟨valid₂, head₂⟩ :=
    (verifyFrom_eq_ok sha).mp (LedgerCache.verifyRawRecords_eq_ok coherent₂ hsecond)
  refine HashChain.eq_of_head_eq _ _ ?unique ?parent ?fresh valid₁ valid₂
    (head₁.trans head₂.symm)
  case unique =>
    intro i p e j q e' link link' hash
    have bodies : e.body = e'.body :=
      Json.canonicalBytes_injective e.body_wellFormed e'.body_wellFormed
        (collisionFree _ _ e.body_wellFormed e'.body_wellFormed hash)
    refine RawEntry.eq_of_body_eq bodies link.2.2 ?_
    rw [link'.2.2, hash]
  case parent =>
    intro i p j q e link link'
    exact Json.str.inj (link.2.1.symm.trans link'.2.1)
  case fresh =>
    exact fun e => nonzero _ e.body_wellFormed

private def sampleBody : Dict String Json :=
  [("kind", .str "epoch"), ("previous_hash", .str genesis), ("sequence", .int 1)]

private def sampleEntry : RawEntry where
  fields := Dict.set sampleBody "entry_hash"
    (.str (entryHash Digest.verbatim (.obj sampleBody)))
  wellFormed := by decide

theorem verifyRawRecords_head_injective_sample :
    LedgerCache.empty.verifyRawRecords Digest.verbatim [sampleEntry] =
        .ok (entryHash Digest.verbatim sampleEntry.body, .empty) ∧
      [sampleEntry] = [sampleEntry] := by
  have accepted : LedgerCache.empty.verifyRawRecords Digest.verbatim [sampleEntry] =
      .ok (entryHash Digest.verbatim sampleEntry.body, .empty) := by decide +kernel
  exact ⟨accepted, verifyRawRecords_head_injective
    Digest.verbatim_collisionFree
    (fun _ _ => Digest.verbatim_ne_zeros _)
    (LedgerCache.empty_coherent _) (LedgerCache.empty_coherent _) accepted accepted⟩

end MncsForge.Ledger
