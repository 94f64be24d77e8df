import Mathlib
import MncsForge.Errors

/-!
# The native core library

Digests and statuses as the native modules see them.  The functions of the
`mncs.core` modules are not part of the repository: they are the components of
`CoreLibrary`, and `CoreLibrary.Documented` says what the repository's own
modules rely on.
-/

namespace MncsForge.Native

/-! ## Digests -/

structure Digest32 where
  bytes : List UInt8
  length_eq : bytes.length = 32
  deriving DecidableEq

namespace Digest32

def zero : Digest32 := ⟨List.replicate 32 0, rfl⟩

def ofBytes? (bytes : List UInt8) : Option Digest32 :=
  if h : bytes.length = 32 then some ⟨bytes, h⟩ else none

theorem ofBytes?_bytes (d : Digest32) : ofBytes? d.bytes = some d := by
  simp [ofBytes?, d.length_eq]

end Digest32

/-! ### Hexadecimal text -/

def hexDigit? (c : Char) : Option Nat :=
  if '0' ≤ c ∧ c ≤ '9' then some (c.toNat - '0'.toNat)
  else if 'a' ≤ c ∧ c ≤ 'f' then some (c.toNat - 'a'.toNat + 10)
  else if 'A' ≤ c ∧ c ≤ 'F' then some (c.toNat - 'A'.toNat + 10)
  else none

def isSpace (c : Char) : Bool :=
  c ∈ [' ', '\t', '\n', '\r', '\x0b', '\x0c']

/-- `bytes.fromhex`, which skips white space between bytes. -/
def fromHex? : List Char → Option (List UInt8)
  | [] => some []
  | c :: rest =>
      if isSpace c then fromHex? rest
      else
        match rest with
        | [] => none
        | d :: rest => do
            let high ← hexDigit? c
            let low ← hexDigit? d
            let bytes ← fromHex? rest
            some (UInt8.ofNat (high * 16 + low) :: bytes)

def toHex (bytes : List UInt8) : List Char :=
  bytes.flatMap fun byte => [Nat.digitChar (byte.toNat / 16), Nat.digitChar (byte.toNat % 16)]

private theorem hexDigit?_digitChar :
    ∀ n < 16, hexDigit? (Nat.digitChar n) = some n ∧ isSpace (Nat.digitChar n) = false := by
  decide

theorem fromHex?_toHex (bytes : List UInt8) : fromHex? (toHex bytes) = some bytes := by
  induction bytes with
  | nil => rfl
  | cons byte bytes ih =>
      have bound := byte.toNat_lt
      obtain ⟨high, space⟩ := hexDigit?_digitChar (byte.toNat / 16) (by omega)
      obtain ⟨low, _⟩ := hexDigit?_digitChar (byte.toNat % 16) (by omega)
      have value : byte.toNat / 16 * 16 + byte.toNat % 16 = byte.toNat := by omega
      rw [toHex, List.flatMap_cons, ← toHex]
      simp only [List.cons_append, List.nil_append, fromHex?, space, Bool.false_eq_true,
        if_false, high, low, ih]
      show some (UInt8.ofNat (byte.toNat / 16 * 16 + byte.toNat % 16) :: bytes) = _
      rw [value, UInt8.ofNat_toNat]

/-- `identity.rsplit(":", 1)[-1]`. -/
def afterLastColon (identity : String) : List Char :=
  (identity.toList.reverse.takeWhile (· ≠ ':')).reverse

/-- `bytes.fromhex(identity.rsplit(":", 1)[-1])`, when it has 32 bytes. -/
def identityDigest? (identity : String) : Option Digest32 :=
  (fromHex? (afterLastColon identity)).bind Digest32.ofBytes?

/-- The identity text of a digest under a label. -/
def digestIdentity (label : String) (d : Digest32) : String :=
  label ++ ":" ++ String.ofList (toHex d.bytes)

private theorem colon_notMem_toHex (bytes : List UInt8) : ':' ∉ toHex bytes := by
  have digit : ∀ n < 16, Nat.digitChar n ≠ ':' := by decide
  intro h
  obtain ⟨byte, _, hbyte⟩ := List.mem_flatMap.mp h
  have bound := byte.toNat_lt
  rcases List.mem_cons.mp hbyte with heq | hbyte
  · exact digit _ (by omega) heq.symm
  · exact digit _ (by omega) (List.mem_singleton.mp hbyte).symm

theorem identityDigest?_digestIdentity (label : String) (d : Digest32) :
    identityDigest? (digestIdentity label d) = some d := by
  have tail : afterLastColon (digestIdentity label d) = toHex d.bytes := by
    have colonFree : ∀ c ∈ (toHex d.bytes).reverse, decide (c ≠ ':') = true := by
      intro c hc
      simp only [decide_eq_true_eq]
      rintro rfl
      exact colon_notMem_toHex d.bytes (List.mem_reverse.mp hc)
    simp only [afterLastColon, digestIdentity, String.toList_append, String.toList_ofList,
      List.reverse_append]
    rw [List.takeWhile_append_of_pos colonFree]
    simp
  rw [identityDigest?, tail, fromHex?_toHex, Option.bind_some, Digest32.ofBytes?_bytes]

theorem digestIdentity_inj {label : String} {d e : Digest32}
    (h : digestIdentity label d = digestIdentity label e) : d = e := by
  have := congrArg identityDigest? h
  rw [identityDigest?_digestIdentity, identityDigest?_digestIdentity] at this
  exact Option.some.inj this

/-! ## Statuses -/

inductive Status where
  | pass
  | fail
  | unknown
  deriving DecidableEq, Repr

namespace Status

def value : Status → String
  | pass => "PASS"
  | fail => "FAIL"
  | unknown => "UNKNOWN"

def ofString? (text : String) : Option Status :=
  if text = "PASS" then some pass
  else if text = "FAIL" then some fail
  else if text = "UNKNOWN" then some unknown
  else none

@[simp] theorem ofString?_value (status : Status) : ofString? status.value = some status := by
  cases status <;> rfl

theorem value_injective : Function.Injective value := by
  intro s t h
  have := congrArg ofString? h
  rwa [ofString?_value, ofString?_value, Option.some.injEq] at this

theorem eq_value_of_ofString? {text : String} {status : Status}
    (h : ofString? text = some status) : text = status.value := by
  unfold ofString? at h
  split_ifs at h with hpass hfail hunknown <;> cases h <;> assumption

end Status

structure StatusCounts where
  passCount : Nat
  failCount : Nat
  unknownCount : Nat
  observedCount : Nat
  valid : Bool
  deriving DecidableEq, Repr

structure StatusSummary extends StatusCounts where
  status : Status
  deriving DecidableEq, Repr

/-! ## Bounded arrays -/

/-- A fold over a fixed array: slots from `count` on are inactive. -/
def foldActive {σ α : Type*} (step : σ → α → σ) (count : Nat) (slots : List α)
    (initial : σ) : σ :=
  slots.zipIdx.foldl
    (fun state slot => if slot.2 < count then step state slot.1 else state) initial

private theorem foldl_inactive {σ α : Type*} (step : σ → α → σ) {count from' : Nat}
    (slots : List α) (initial : σ) (h : count ≤ from') :
    (slots.zipIdx from').foldl
      (fun state slot => if slot.2 < count then step state slot.1 else state) initial =
        initial := by
  induction slots generalizing from' with
  | nil => rfl
  | cons slot slots ih =>
      rw [List.zipIdx_cons, List.foldl_cons, if_neg (not_lt.mpr h)]
      exact ih (by omega)

private theorem foldl_active {σ α : Type*} (step : σ → α → σ) {count from' : Nat}
    (slots : List α) (initial : σ) (h : from' + slots.length ≤ count) :
    (slots.zipIdx from').foldl
      (fun state slot => if slot.2 < count then step state slot.1 else state) initial =
        slots.foldl step initial := by
  induction slots generalizing from' initial with
  | nil => rfl
  | cons slot slots ih =>
      rw [List.length_cons] at h
      rw [List.zipIdx_cons, List.foldl_cons, List.foldl_cons, if_pos (by omega)]
      exact ih _ (by omega)

theorem foldActive_append {σ α : Type*} (step : σ → α → σ) (active padding : List α)
    (initial : σ) :
    foldActive step active.length (active ++ padding) initial = active.foldl step initial := by
  rw [foldActive, List.zipIdx_append, List.foldl_append,
    foldl_active step active initial (by omega),
    foldl_inactive step padding _ (by omega)]

theorem countP_snoc {α : Type*} (p : α → Bool) (xs : List α) (x : α) :
    (xs ++ [x]).countP p = xs.countP p + (p x).toNat := by
  rw [List.countP_append, List.countP_singleton]
  cases p x <;> rfl

/-! ## The library -/

structure CoreLibrary where
  isZero : Digest32 → Bool
  equal : Digest32 → Digest32 → Bool
  zero : Digest32
  validRootOrSuccessor (parent current : Digest32) : Bool
  dominate : Status → Status → Status
  summarizePrefix (statuses : List Status) (count : Nat) : StatusSummary
  boolNot : Bool → Bool

/-- The dominance `FAIL > UNKNOWN > PASS`. -/
def dominant : Status → Status → Status
  | .fail, _ | _, .fail => .fail
  | .unknown, _ | _, .unknown => .unknown
  | .pass, .pass => .pass

/-- The joined status of a list of observations. -/
def joinedStatus : List Status → Status
  | [] => .unknown
  | first :: rest => rest.foldl dominant first

/-- The counts of the first `count` statuses. -/
def prefixSummary (statuses : List Status) (count : Nat) : StatusCounts where
  passCount := (statuses.take count).count .pass
  failCount := (statuses.take count).count .fail
  unknownCount := (statuses.take count).count .unknown
  observedCount := (statuses.take count).length
  valid := count ≤ statuses.length

theorem joinedStatus_snoc (statuses : List Status) (status : Status) :
    joinedStatus (statuses ++ [status]) =
      if statuses = [] then status else dominant (joinedStatus statuses) status := by
  cases statuses with
  | nil => rfl
  | cons first rest => simp [joinedStatus, List.foldl_append]

/-- A failure anywhere dominates, then anything unknown. -/
theorem joinedStatus_eq (statuses : List Status) :
    joinedStatus statuses =
      if .fail ∈ statuses then .fail
      else if statuses = [] ∨ .unknown ∈ statuses then .unknown
      else .pass := by
  induction statuses using List.reverseRecOn with
  | nil => rfl
  | append_singleton statuses status ih =>
      rw [joinedStatus_snoc, ih]
      by_cases hnil : statuses = []
      · subst hnil
        cases status <;> decide
      · by_cases hfail : Status.fail ∈ statuses
        · cases status <;> simp [hnil, hfail, dominant]
        · by_cases hunknown : Status.unknown ∈ statuses <;>
            cases status <;> simp [hnil, hfail, hunknown, dominant]

/-- The join depends on which statuses occur only. -/
theorem joinedStatus_congr {first second : List Status}
    (h : ∀ status, status ∈ first ↔ status ∈ second) :
    joinedStatus first = joinedStatus second := by
  have empty : first = [] ↔ second = [] := by
    simp only [List.eq_nil_iff_forall_not_mem, h]
  simp only [joinedStatus_eq, h, empty]

/-- What the native modules rely on. -/
structure CoreLibrary.Documented (core : CoreLibrary) : Prop where
  isZero_eq : ∀ d, core.isZero d = decide (d = Digest32.zero)
  equal_eq : ∀ d e, core.equal d e = decide (d = e)
  zero_eq : core.zero = Digest32.zero
  validRootOrSuccessor_eq : ∀ parent current,
    core.validRootOrSuccessor parent current =
      decide (if current = Digest32.zero then parent = Digest32.zero else parent = current)
  dominate_eq : ∀ s t, core.dominate s t = dominant s t
  summarizePrefix_counts : ∀ statuses count,
    (core.summarizePrefix statuses count).toStatusCounts = prefixSummary statuses count
  summarizePrefix_status : ∀ statuses count, 0 < count → count ≤ statuses.length →
    (core.summarizePrefix statuses count).status = joinedStatus (statuses.take count)
  boolNot_eq : ∀ b, core.boolNot b = !b

/-- A core library that does what is documented. -/
def referenceCore : CoreLibrary where
  isZero d := decide (d = Digest32.zero)
  equal d e := decide (d = e)
  zero := Digest32.zero
  validRootOrSuccessor parent current :=
    decide (if current = Digest32.zero then parent = Digest32.zero else parent = current)
  dominate := dominant
  summarizePrefix statuses count :=
    { toStatusCounts := prefixSummary statuses count
      status := joinedStatus (statuses.take count) }
  boolNot b := !b

theorem referenceCore_documented : referenceCore.Documented where
  isZero_eq _ := rfl
  equal_eq _ _ := rfl
  zero_eq := rfl
  validRootOrSuccessor_eq _ _ := rfl
  dominate_eq _ _ := rfl
  summarizePrefix_counts _ _ := rfl
  summarizePrefix_status _ _ _ _ := rfl
  boolNot_eq _ := rfl

end MncsForge.Native
