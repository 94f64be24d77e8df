import Mathlib
import MncsForge.Foundation.OrderedDict
import MncsForge.Foundation.Runs
import MncsForge.Records.Migration
import MncsForge.Continuous.MicroVerification
import MncsForge.Continuous.CompactResult

/-!
# Pending obligations

`ContinuousSupervisor` holds the newest obligations by their identity, up to a
capacity, and counts those it has no room for.  `status` writes what it holds and
`_restore_pending` reads it back.  A run also keeps the identities that were
remembered and neither resolved nor discarded as stale.
-/

namespace MncsForge.Continuous

open MncsForge.Foundation MncsForge.Records MncsForge.Native MncsForge.Native.Continuous

/-! ## The held obligations -/

/-- `_COUNTER_MAX` -/
def counterMax : Nat := 2 ^ 63 - 1

structure PendingState where
  pending : OrderedDict String (Dict String Json)
  bounded : pending.length ≤ continuousPendingCapacity
  overflowCount : Nat
  counted : overflowCount ≤ counterMax
  overflowIdentity : Option String
  cancelledJobs : Nat
  cancellationsCounted : cancelledJobs ≤ counterMax

namespace PendingState

def fresh : PendingState where
  pending := .empty
  bounded := Nat.zero_le _
  overflowCount := 0
  counted := Nat.zero_le _
  overflowIdentity := none
  cancelledJobs := 0
  cancellationsCounted := Nat.zero_le _

/-- There is an entry under the key, or room for one. -/
def HasRoom (s : PendingState) (key : String) : Prop :=
  key ∈ s.pending.keys ∨ s.pending.length < continuousPendingCapacity

instance (s : PendingState) (key : String) : Decidable (s.HasRoom key) :=
  inferInstanceAs (Decidable (_ ∨ _))

def hold (s : PendingState) (key : String) (value : Dict String Json) (room : s.HasRoom key) :
    PendingState :=
  { s with
    pending := s.pending.setLast key value
    bounded := by
      rw [OrderedDict.length_setLast]
      rcases room with held | room
      · exact (OrderedDict.length_pop_lt held).trans_le s.bounded
      · exact (Nat.succ_le_succ OrderedDict.length_pop_le).trans room }

def overflow (s : PendingState) (identity : String) : PendingState :=
  { s with
    overflowCount := min counterMax (s.overflowCount + 1)
    counted := min_le_left _ _
    overflowIdentity := some identity }

def discard (s : PendingState) (keys : List String) : PendingState :=
  { s with
    pending := s.pending.popAll keys
    bounded := OrderedDict.length_popAll_le.trans s.bounded
    cancelledJobs := min counterMax (s.cancelledJobs + keys.length)
    cancellationsCounted := min_le_left _ _ }

def resolve (s : PendingState) (key : String) : PendingState :=
  { s with
    pending := s.pending.pop key
    bounded := OrderedDict.length_pop_le.trans s.bounded }

/-- The pending obligations of `status`. -/
def status (s : PendingState) : Dict String Json :=
  let values := s.pending.entries.map Prod.snd
  [("pending_check_capacity", .int continuousPendingCapacity),
   ("pending_check_overflow_count", .int s.overflowCount),
   ("pending_check_overflow_identity", (s.overflowIdentity.map Json.str).getD .null),
   ("pending_checks", .arr ((values.drop (values.length - continuousPendingCapacity)).map
     fun item => .obj (compactVerificationResult (.obj item))))]

def restoreCount (s : PendingState) (prior : Dict String Json) : PendingState :=
  match field prior "pending_check_overflow_count" with
  | .int count =>
      { s with
        overflowCount := min counterMax count.toNat
        counted := min_le_left _ _ }
  | _ => s

def restoreIdentity (s : PendingState) (prior : Dict String Json) : PendingState :=
  match field prior "pending_check_overflow_identity" with
  | .str identity => { s with overflowIdentity := some (cutText 128 identity) }
  | _ => s

/-- What `_native_resource_transition` asks about a pending obligation. -/
def supersededState (s : PendingState) (pendingIdentity : Int → String → String → String)
    (currentGeneration : Int) (event : SourceEvent) (item : Dict String Json) :
    ContinuousResourceState :=
  let workGeneration := match field item "generation" with
    | .int generation => generation
    | _ => 0
  let named (name : String) : String :=
    if (field item name).truthy = true then (field item name).display else "pending"
  { currentGeneration := currentGeneration
    workGeneration := workGeneration
    sourceIdentityMatches :=
      decide (field item "source_identity" = .str (cutText 256 event.identity))
    verificationRequired := true
    inFlight := false
    hasOutcome := true
    resourceOutcomeObserved := false
    outcome := .unknown
    evidenceStatus := .unknown
    pendingExists :=
      decide (pendingIdentity workGeneration (named "candidate_identity") (named "verifier_id") ∈
        s.pending.keys)
    pendingCount := s.pending.length
    pendingCapacity := continuousPendingCapacity
    queueRemaining := 0
    resourceGateClosed := false }

end PendingState

/-! ## Operations -/

/-- The items of a prior status that are restored. -/
def restoredItems (prior : Dict String Json) : List (Dict String Json) :=
  match field prior "pending_checks" with
  | .arr items => (items.take continuousPendingCapacity).filterMap Json.asObj?
  | _ => []

/-- SHA-256 is what the supervisor takes from outside. -/
structure PendingSupervisor where
  hashing : Hashing

namespace PendingSupervisor

variable (supervisor : PendingSupervisor)

def localJsonIdentity (value : Json) : String :=
  "forge-json-sha256-v1:" ++ localJsonDigest supervisor.hashing value

def boundedIdentity (identity : String) : String :=
  if identity.length ≤ 256 then identity else supervisor.localJsonIdentity (.str identity)

/-- The identity of the chain of overflows, with one more at its end. -/
def overflowChain (previous : Option String) (identity : String) : String :=
  supervisor.localJsonIdentity (.obj (Dict.update []
    [("previous_overflow_identity", (previous.map Json.str).getD .null),
     ("deferred_obligation_identity", .str identity)]))

/-- The entry that is written under a key. -/
def entryOf (key : String) (value : Dict String Json) : Dict String Json :=
  Dict.set (compactVerificationResult (.obj value)) "obligation_identity" (.str (cutText 128 key))

/-- `_remember_pending` -/
def rememberPending (s : PendingState) (identity : String) (value : Dict String Json) :
    PendingState :=
  if room : s.HasRoom (supervisor.boundedIdentity identity) then
    s.hold (supervisor.boundedIdentity identity)
      (entryOf (supervisor.boundedIdentity identity) value) room
  else
    s.overflow
      (supervisor.overflowChain s.overflowIdentity (supervisor.boundedIdentity identity))

def pendingIdentity (generation : Int) (candidate verifierId : String) : String :=
  supervisor.localJsonIdentity (.obj (Dict.update []
    [("generation", .int generation), ("candidate_identity", .str candidate),
     ("verifier_id", .str verifierId)]))

/-- `_resolve_micro_pending` -/
def resolvePending (s : PendingState) (generation : Int) (candidate verifierId : String) :
    PendingState :=
  s.resolve (supervisor.pendingIdentity generation candidate verifierId)

def restoredKey (item : Dict String Json) : String :=
  match field item "obligation_identity" with
  | .str identity => if identity ≠ "" then identity else supervisor.localJsonIdentity (.obj item)
  | _ => supervisor.localJsonIdentity (.obj item)

/-- `_restore_pending` -/
def restorePending (s : PendingState) (prior : Dict String Json) : PendingState :=
  (restoredItems prior).foldl
    (fun s item => supervisor.rememberPending s (supervisor.restoredKey item) item)
    ((s.restoreCount prior).restoreIdentity prior)

/-- Whether a held obligation is about an older version of the source of the event. -/
def isStale (s : PendingState) (currentGeneration : Int) (event : SourceEvent)
    (item : Dict String Json) : Except ForgeError Bool :=
  if field item "source_uri" ≠ .str (cutText 1024 event.uri) then .ok false
  else do
    let transition ← NativeForgeAdapter.verificationResourceTransition
      (s.supersededState supervisor.pendingIdentity currentGeneration event item) "Unknown"
    .ok (decide (transition.disposition = .discardStale))

def staleAmong (s : PendingState) (currentGeneration : Int) (event : SourceEvent) :
    List (String × Dict String Json) → Except ForgeError (List String)
  | [] => .ok []
  | entry :: entries => do
      let stale ← supervisor.isStale s currentGeneration event entry.2
      let others ← staleAmong s currentGeneration event entries
      .ok (if stale then entry.1 :: others else others)

/-- The keys that an event discards: none without a source. -/
def staleKeys (s : PendingState) (currentGeneration : Int) (event : SourceEvent) :
    Except ForgeError (List String) :=
  if cutText 1024 event.uri = "" ∨ cutText 256 event.identity = "" then .ok []
  else supervisor.staleAmong s currentGeneration event s.pending.entries

/-- `_cancel_superseded_pending` -/
def cancelSupersededPending (s : PendingState) (currentGeneration : Int) (event : SourceEvent) :
    Except ForgeError PendingState :=
  (supervisor.staleKeys s currentGeneration event).map s.discard

/-! ## Runs -/

inductive PendingEvent where
  | remember (identity : String) (value : Dict String Json)
  | resolve (generation : Int) (candidate verifierId : String)
  | supersede (currentGeneration : Int) (event : SourceEvent)
  | restore (prior : Dict String Json)

/-- The supervisor with the identities that were remembered and have been neither
resolved nor discarded as stale. -/
structure PendingRun where
  state : PendingState
  outstanding : Finset String

def start : PendingRun := ⟨.fresh, ∅⟩

/-- An obligation is gone with the entry it was remembered under. -/
def withdraw (outstanding : Finset String) (keys : List String) : Finset String :=
  outstanding.filter fun identity => supervisor.boundedIdentity identity ∉ keys

def remember (run : PendingRun) (identity : String) (value : Dict String Json) : PendingRun :=
  ⟨supervisor.rememberPending run.state identity value, insert identity run.outstanding⟩

def supersede (run : PendingRun) (currentGeneration : Int) (event : SourceEvent) : PendingRun :=
  match supervisor.staleKeys run.state currentGeneration event with
  | .ok stale => ⟨run.state.discard stale, supervisor.withdraw run.outstanding stale⟩
  -- what the transition raises leaves the supervisor as it was
  | .error _ => run

def step (run : PendingRun) : PendingEvent → Option PendingRun
  | .remember identity value => some (supervisor.remember run identity value)
  | .resolve generation candidate verifierId =>
      some ⟨supervisor.resolvePending run.state generation candidate verifierId,
        supervisor.withdraw run.outstanding
          [supervisor.pendingIdentity generation candidate verifierId]⟩
  | .supersede currentGeneration event => some (supervisor.supersede run currentGeneration event)
  | .restore prior =>
      some ⟨supervisor.restorePending run.state prior,
        run.outstanding ∪ ((restoredItems prior).map supervisor.restoredKey).toFinset⟩

/-- The outstanding identities that no entry is held for. -/
def missing (run : PendingRun) : Finset String :=
  run.outstanding.filter fun identity =>
    supervisor.boundedIdentity identity ∉ run.state.pending.keys

/-- A fresh supervisor that restores the status has the same entries in the same order,
and the same overflow. -/
structure Restores (s : PendingState) : Prop where
  pending : (supervisor.restorePending .fresh s.status).pending = s.pending
  overflowCount : (supervisor.restorePending .fresh s.status).overflowCount = s.overflowCount
  overflowIdentity :
    (supervisor.restorePending .fresh s.status).overflowIdentity = s.overflowIdentity

/-- No obligation is forgotten, not even by a restart. -/
structure Retains (run : PendingRun) : Prop where
  capacity : run.state.pending.length ≤ 128
  accounted : run.state.overflowCount < counterMax →
    (supervisor.missing run).card ≤ run.state.overflowCount
  restored : supervisor.Restores run.state

/-! ## Which events are safe -/

/-- An identity that a status writes in full, as it is or hashed. -/
def IdentityKept (identity : String) : Prop :=
  identity ≠ "" ∧ (identity.length ≤ 128 ∨ 256 < identity.length)

/-- An obligation that is stored is stored under an identity that is kept, with a result
whose projection is final. -/
def Storable (s : PendingState) (identity : String) (value : Dict String Json) : Prop :=
  s.HasRoom (supervisor.boundedIdentity identity) →
    IdentityKept identity ∧ StableResult (.obj value)

/-- Every item is storable where it is reached. -/
def AllStorable : PendingState → List (Dict String Json) → Prop
  | _, [] => True
  | s, item :: items =>
      supervisor.Storable s (supervisor.restoredKey item) item ∧
        AllStorable (supervisor.rememberPending s (supervisor.restoredKey item) item) items

/-- A count that is restored does not fall behind the count so far. -/
def KeepsCount (s : PendingState) (prior : Dict String Json) : Prop :=
  s.overflowCount ≤ (s.restoreCount prior).overflowCount

def Safe (run : PendingRun) : PendingEvent → Prop
  | .remember identity value => supervisor.Storable run.state identity value
  | .resolve .. => True
  | .supersede .. => True
  | .restore prior =>
      KeepsCount run.state prior ∧
        supervisor.AllStorable ((run.state.restoreCount prior).restoreIdentity prior)
          (restoredItems prior)

/-! ## One obligation -/

variable {supervisor} {s : PendingState} {run : PendingRun} {identity : String}
  {value : Dict String Json}

/-- An entry that a status writes as it is, and that is restored under its key. -/
structure EntrySound (entry : String × Dict String Json) : Prop where
  named : entry.1 ≠ ""
  short : entry.1.length ≤ 128
  identity : Dict.get? entry.2 "obligation_identity" = some (.str entry.1)
  final : compactVerificationResult (.obj entry.2) = entry.2

theorem localJsonIdentity_length
    (width : ∀ bytes, (supervisor.hashing.hexdigest bytes).length = 64) (value : Json) :
    (supervisor.localJsonIdentity value).length = 85 := by
  have marker : ("forge-json-sha256-v1:" : String).length = 21 := by decide +kernel
  have digest := width value.canonicalBytes
  have text : supervisor.localJsonIdentity value =
      "forge-json-sha256-v1:" ++ supervisor.hashing.hexdigest value.canonicalBytes := rfl
  rw [text, String.length_append]
  omega

theorem boundedIdentity_of_short (h : identity.length ≤ 256) :
    supervisor.boundedIdentity identity = identity := by
  rw [boundedIdentity, if_pos h]

theorem boundedIdentity_kept
    (width : ∀ bytes, (supervisor.hashing.hexdigest bytes).length = 64)
    (h : IdentityKept identity) :
    supervisor.boundedIdentity identity ≠ "" ∧
      (supervisor.boundedIdentity identity).length ≤ 128 := by
  obtain ⟨named, short | long⟩ := h
  · rw [boundedIdentity_of_short (by omega)]
    exact ⟨named, short⟩
  · have length := localJsonIdentity_length width (.str identity)
    rw [boundedIdentity, if_neg (by omega)]
    refine ⟨?_, by omega⟩
    intro empty
    rw [empty] at length
    simp at length

theorem cutText_of_short {key : String} (h : key.length ≤ 128) : cutText 128 key = key :=
  cutText_of_length_le (by rwa [String.length_toList])

theorem entryOf_sound {key : String} (named : key ≠ "") (short : key.length ≤ 128)
    (stable : StableResult (.obj value)) : EntrySound (key, entryOf key value) where
  named := named
  short := short
  identity := by
    rw [entryOf, Dict.get?_set, if_pos rfl, cutText_of_short short]
  final := by
    rw [entryOf, cutText_of_short short, compactVerificationResult_set_identity,
      compactVerificationResult_again stable, cutText_of_short short]

/-- What is restored from a sound entry is the entry. -/
theorem EntrySound.entryOf_eq {entry : String × Dict String Json} (sound : EntrySound entry) :
    entryOf entry.1 entry.2 = entry.2 := by
  have ordered : Dict.Ordered entry.2 := by
    rw [← sound.final]
    exact compactVerificationResult_ordered
  rw [entryOf, sound.final, cutText_of_short sound.short, set_of_get? ordered sound.identity]

theorem EntrySound.restoredKey_eq {entry : String × Dict String Json}
    (sound : EntrySound entry) : supervisor.restoredKey entry.2 = entry.1 := by
  rw [restoredKey, field, sound.identity, Option.getD_some]
  exact if_pos sound.named

theorem rememberPending_of_room (room : s.HasRoom (supervisor.boundedIdentity identity)) :
    supervisor.rememberPending s identity value =
      s.hold (supervisor.boundedIdentity identity)
        (entryOf (supervisor.boundedIdentity identity) value) room :=
  dif_pos room

theorem rememberPending_of_full (full : ¬s.HasRoom (supervisor.boundedIdentity identity)) :
    supervisor.rememberPending s identity value =
      s.overflow (supervisor.overflowChain s.overflowIdentity
        (supervisor.boundedIdentity identity)) :=
  dif_neg full

/-! ## Every run is sound -/

structure Sound (supervisor : PendingSupervisor) (run : PendingRun) : Prop where
  entries : ∀ entry ∈ run.state.pending.entries, EntrySound entry
  accounted : run.state.overflowCount < counterMax →
    (supervisor.missing run).card ≤ run.state.overflowCount
  identity : ∀ chain, run.state.overflowIdentity = some chain → chain.length ≤ 128

theorem missing_remember_subset :
    supervisor.missing (supervisor.remember run identity value) ⊆
      insert identity (supervisor.missing run) := by
  intro other member
  obtain ⟨known, absent⟩ := Finset.mem_filter.mp member
  rcases Finset.mem_insert.mp known with rfl | known
  · exact Finset.mem_insert_self _ _
  · refine Finset.mem_insert_of_mem (Finset.mem_filter.mpr ⟨known, fun held => absent ?_⟩)
    by_cases room : run.state.HasRoom (supervisor.boundedIdentity identity)
    · rw [remember, rememberPending_of_room room]
      exact OrderedDict.mem_keys_setLast.mpr (Or.inl held)
    · rw [remember, rememberPending_of_full room]
      exact held

theorem missing_remember_of_room
    (room : run.state.HasRoom (supervisor.boundedIdentity identity)) :
    supervisor.missing (supervisor.remember run identity value) ⊆ supervisor.missing run := by
  intro other member
  have kept := missing_remember_subset member
  obtain ⟨-, absent⟩ := Finset.mem_filter.mp member
  rcases Finset.mem_insert.mp kept with rfl | kept
  · refine absurd ?_ absent
    rw [remember, rememberPending_of_room room]
    exact OrderedDict.mem_keys_setLast.mpr (Or.inr rfl)
  · exact kept

theorem Sound.remember (width : ∀ bytes, (supervisor.hashing.hexdigest bytes).length = 64)
    (sound : Sound supervisor run) (storable : supervisor.Storable run.state identity value) :
    Sound supervisor (supervisor.remember run identity value) := by
  by_cases room : run.state.HasRoom (supervisor.boundedIdentity identity)
  · obtain ⟨kept, stable⟩ := storable room
    obtain ⟨named, short⟩ := boundedIdentity_kept width kept
    have fewer := Finset.card_le_card
      (@missing_remember_of_room supervisor run identity value room)
    refine ⟨?_, ?_, ?_⟩
    · rw [PendingSupervisor.remember, rememberPending_of_room room]
      exact OrderedDict.forall_mem_setLast sound.entries (entryOf_sound named short stable)
    · intro below
      have same : (supervisor.remember run identity value).state.overflowCount =
          run.state.overflowCount := by
        rw [PendingSupervisor.remember, rememberPending_of_room room]
        rfl
      rw [same] at below ⊢
      exact fewer.trans (sound.accounted below)
    · rw [PendingSupervisor.remember, rememberPending_of_room room]
      exact sound.identity
  · have more := (Finset.card_le_card
      (@missing_remember_subset supervisor run identity value)).trans
      (Finset.card_insert_le _ _)
    refine ⟨?_, ?_, ?_⟩
    · rw [PendingSupervisor.remember, rememberPending_of_full room]
      exact sound.entries
    · intro below
      have count : (supervisor.remember run identity value).state.overflowCount =
          min counterMax (run.state.overflowCount + 1) := by
        rw [PendingSupervisor.remember, rememberPending_of_full room]
        rfl
      rw [count] at below ⊢
      have accounted := sound.accounted (by omega)
      omega
    · rw [PendingSupervisor.remember, rememberPending_of_full room]
      intro chain written
      obtain rfl := Option.some.inj written
      rw [overflowChain, localJsonIdentity_length width]
      omega

theorem missing_withdraw_subset {after : PendingState} {removed : List String}
    (pending : after.pending = run.state.pending.popAll removed) :
    supervisor.missing ⟨after, supervisor.withdraw run.outstanding removed⟩ ⊆
      supervisor.missing run := by
  intro identity member
  obtain ⟨known, absent⟩ := Finset.mem_filter.mp member
  obtain ⟨known, apart⟩ := Finset.mem_filter.mp known
  refine Finset.mem_filter.mpr ⟨known, fun held => absent ?_⟩
  rw [pending]
  exact OrderedDict.mem_keys_popAll.mpr ⟨held, apart⟩

/-- Entries that are taken out leave the run sound when their obligations go with them. -/
theorem Sound.withdraw {after : PendingState} {removed : List String}
    (sound : Sound supervisor run)
    (pending : after.pending = run.state.pending.popAll removed)
    (count : after.overflowCount = run.state.overflowCount)
    (chain : after.overflowIdentity = run.state.overflowIdentity) :
    Sound supervisor ⟨after, supervisor.withdraw run.outstanding removed⟩ where
  entries := by
    rw [pending]
    exact OrderedDict.forall_mem_popAll sound.entries
  accounted below := by
    rw [count] at below ⊢
    exact (Finset.card_le_card (missing_withdraw_subset pending)).trans (sound.accounted below)
  identity := by
    rw [chain]
    exact sound.identity

theorem Sound.supersede (sound : Sound supervisor run) (currentGeneration : Int)
    (event : SourceEvent) : Sound supervisor (supervisor.supersede run currentGeneration event) := by
  rw [PendingSupervisor.supersede]
  cases supervisor.staleKeys run.state currentGeneration event with
  | error raised => exact sound
  | ok stale => exact sound.withdraw rfl rfl rfl

theorem restoreCount_pending (prior : Dict String Json) :
    (s.restoreCount prior).pending = s.pending := by
  rw [PendingState.restoreCount]
  split <;> rfl

theorem restoreCount_overflowIdentity (prior : Dict String Json) :
    (s.restoreCount prior).overflowIdentity = s.overflowIdentity := by
  rw [PendingState.restoreCount]
  split <;> rfl

theorem restoreIdentity_pending (prior : Dict String Json) :
    (s.restoreIdentity prior).pending = s.pending := by
  rw [PendingState.restoreIdentity]
  split <;> rfl

theorem restoreIdentity_overflowCount (prior : Dict String Json) :
    (s.restoreIdentity prior).overflowCount = s.overflowCount := by
  rw [PendingState.restoreIdentity]
  split <;> rfl

theorem Sound.restoreOverflow (sound : Sound supervisor run) {prior : Dict String Json}
    (keeps : KeepsCount run.state prior) :
    Sound supervisor
      ⟨(run.state.restoreCount prior).restoreIdentity prior, run.outstanding⟩ where
  entries := by
    rw [restoreIdentity_pending, restoreCount_pending]
    exact sound.entries
  accounted below := by
    have same : supervisor.missing
        ⟨(run.state.restoreCount prior).restoreIdentity prior, run.outstanding⟩ =
          supervisor.missing run := by
      rw [missing, missing, restoreIdentity_pending, restoreCount_pending]
    rw [restoreIdentity_overflowCount] at below ⊢
    rw [same]
    rw [KeepsCount] at keeps
    exact (sound.accounted (keeps.trans_lt below)).trans keeps
  identity chain written := by
    rw [PendingState.restoreIdentity] at written
    split at written
    · rename_i text _
      obtain rfl := Option.some.inj written
      exact length_cutText_le 128 text
    · rw [restoreCount_overflowIdentity] at written
      exact sound.identity chain written

/-- The items of a status are remembered one after the other. -/
theorem foldl_remember (items : List (Dict String Json)) :
    (⟨items.foldl (fun s item => supervisor.rememberPending s (supervisor.restoredKey item) item)
        run.state,
      run.outstanding ∪ (items.map supervisor.restoredKey).toFinset⟩ : PendingRun) =
      items.foldl (fun run item => supervisor.remember run (supervisor.restoredKey item) item)
        run := by
  induction items generalizing run with
  | nil => simp
  | cons item items ih =>
      rw [List.foldl_cons, List.foldl_cons, ← ih, List.map_cons, List.toFinset_cons]
      congr 1
      rw [PendingSupervisor.remember, Finset.insert_union, Finset.union_insert]

theorem Sound.rememberAll (width : ∀ bytes, (supervisor.hashing.hexdigest bytes).length = 64)
    {items : List (Dict String Json)} (sound : Sound supervisor run)
    (storable : supervisor.AllStorable run.state items) :
    Sound supervisor
      (items.foldl (fun run item => supervisor.remember run (supervisor.restoredKey item) item)
        run) := by
  induction items generalizing run with
  | nil => exact sound
  | cons item items ih => exact ih (sound.remember width storable.1) storable.2

theorem sound_start : Sound supervisor start where
  entries _ member := absurd member List.not_mem_nil
  accounted _ := by
    rw [missing, start, Finset.filter_empty]
    exact Nat.zero_le _
  identity _ written := by simp [start, PendingState.fresh] at written

theorem Sound.step (width : ∀ bytes, (supervisor.hashing.hexdigest bytes).length = 64)
    {after : PendingRun} {event : PendingEvent} (sound : Sound supervisor run)
    (safe : supervisor.Safe run event) (h : supervisor.step run event = some after) :
    Sound supervisor after := by
  cases event with
  | remember identity value =>
      obtain rfl := Option.some.inj h
      exact sound.remember width safe
  | resolve generation candidate verifierId =>
      obtain rfl := Option.some.inj h
      exact sound.withdraw rfl rfl rfl
  | supersede currentGeneration event =>
      obtain rfl := Option.some.inj h
      exact sound.supersede currentGeneration event
  | restore prior =>
      obtain rfl := Option.some.inj h
      obtain ⟨keeps, storable⟩ := safe
      rw [restorePending]
      have restored := @foldl_remember supervisor
        ⟨(run.state.restoreCount prior).restoreIdentity prior, run.outstanding⟩
        (restoredItems prior)
      rw [restored]
      exact (sound.restoreOverflow keeps).rememberAll width storable

/-! ## A restart -/

/-- Sound entries under new keys are restored at the end, as they are. -/
theorem restore_entries {entries : List (String × Dict String Json)}
    (sound : ∀ entry ∈ entries, EntrySound entry)
    (distinct : (s.pending.keys ++ entries.map Prod.fst).Nodup)
    (room : s.pending.length + entries.length ≤ continuousPendingCapacity) :
    ∃ after, (entries.map Prod.snd).foldl
        (fun s item => supervisor.rememberPending s (supervisor.restoredKey item) item) s = after ∧
      after.pending.entries = s.pending.entries ++ entries ∧
      after.overflowCount = s.overflowCount ∧
      after.overflowIdentity = s.overflowIdentity := by
  induction entries generalizing s with
  | nil => exact ⟨s, rfl, (List.append_nil _).symm, rfl, rfl⟩
  | cons entry entries ih =>
      have first := sound entry List.mem_cons_self
      have absent : entry.1 ∉ s.pending.keys := by
        intro held
        have apart := (List.nodup_append.mp distinct).2.2
        exact apart _ held _ (by simp) rfl
      have short := first.short
      have key : supervisor.boundedIdentity (supervisor.restoredKey entry.2) = entry.1 := by
        rw [first.restoredKey_eq, boundedIdentity_of_short (by omega)]
      rw [List.length_cons] at room
      have hasRoom : s.HasRoom entry.1 := Or.inr (by omega)
      have written : supervisor.rememberPending s (supervisor.restoredKey entry.2) entry.2 =
          s.hold entry.1 entry.2 hasRoom := by
        simp only [rememberPending, key, dif_pos hasRoom, first.entryOf_eq]
      have added : (s.hold entry.1 entry.2 hasRoom).pending.entries =
          s.pending.entries ++ [entry] :=
        OrderedDict.entries_setLast_of_notMem absent
      obtain ⟨after, folded, listed, count, chain⟩ :=
        ih (s := s.hold entry.1 entry.2 hasRoom)
          (fun other member => sound other (List.mem_cons_of_mem _ member))
          (by
            rw [OrderedDict.keys, added, List.map_append, List.append_assoc]
            exact distinct)
          (by
            rw [OrderedDict.length, added, List.length_append, List.length_singleton]
            rw [OrderedDict.length] at room
            omega)
      refine ⟨after, ?_, ?_, count, chain⟩
      · rw [List.map_cons, List.foldl_cons, written]
        exact folded
      · rw [listed, added, List.append_assoc]
        rfl

theorem restoredItems_status (sound : ∀ entry ∈ s.pending.entries, EntrySound entry) :
    restoredItems s.status = s.pending.entries.map Prod.snd := by
  have length : (s.pending.entries.map Prod.snd).length ≤ continuousPendingCapacity := by
    rw [List.length_map]
    exact s.bounded
  have listed : field s.status "pending_checks" =
      .arr ((s.pending.entries.map Prod.snd).map
        fun item => .obj (compactVerificationResult (.obj item))) := by
    have all : (s.pending.entries.map Prod.snd).length - continuousPendingCapacity = 0 := by omega
    have written : field s.status "pending_checks" =
        .arr (((s.pending.entries.map Prod.snd).drop
          ((s.pending.entries.map Prod.snd).length - continuousPendingCapacity)).map
            fun item => .obj (compactVerificationResult (.obj item))) := rfl
    rw [written, all, List.drop_zero]
  rw [restoredItems, listed]
  simp only
  rw [List.take_of_length_le (by rw [List.length_map]; exact length), List.filterMap_map]
  have same : ∀ item ∈ s.pending.entries.map Prod.snd,
      (Json.asObj? ∘ fun item => .obj (compactVerificationResult (.obj item))) item =
        some item := by
    intro item member
    obtain ⟨entry, held, rfl⟩ := List.mem_map.mp member
    exact congrArg some (sound entry held).final
  rw [List.filterMap_congr same]
  exact List.filterMap_some

theorem restoreCount_status (fresh : PendingState) :
    (fresh.restoreCount s.status).overflowCount = s.overflowCount := by
  have written : field s.status "pending_check_overflow_count" = .int s.overflowCount := rfl
  rw [PendingState.restoreCount, written]
  exact min_eq_right s.counted

theorem restoreIdentity_status {fresh : PendingState} (none : fresh.overflowIdentity = none)
    (short : ∀ chain, s.overflowIdentity = some chain → chain.length ≤ 128) :
    (fresh.restoreIdentity s.status).overflowIdentity = s.overflowIdentity := by
  have written : field s.status "pending_check_overflow_identity" =
      (s.overflowIdentity.map Json.str).getD .null := rfl
  rw [PendingState.restoreIdentity, written]
  cases chained : s.overflowIdentity with
  | none => exact none
  | some chain => exact congrArg some (cutText_of_short (short chain chained))

/-- A sound supervisor is restored from its status. -/
theorem Sound.restores (sound : Sound supervisor run) : supervisor.Restores run.state := by
  have pending : ((PendingState.fresh.restoreCount run.state.status).restoreIdentity
      run.state.status).pending = .empty := by
    rw [restoreIdentity_pending, restoreCount_pending]
    rfl
  obtain ⟨after, folded, listed, count, chain⟩ := @restore_entries supervisor
    ((PendingState.fresh.restoreCount run.state.status).restoreIdentity run.state.status) _
    sound.entries
    (by
      rw [pending]
      exact run.state.pending.nodup)
    (by
      rw [pending]
      have length : (OrderedDict.empty : OrderedDict String (Dict String Json)).length = 0 := rfl
      have bounded := run.state.bounded
      rw [OrderedDict.length] at bounded
      omega)
  have restored : supervisor.restorePending .fresh run.state.status = after := by
    rw [restorePending, restoredItems_status sound.entries]
    exact folded
  refine ⟨?_, ?_, ?_⟩
  · rw [restored]
    apply OrderedDict.ext_entries
    rw [listed, pending]
    rfl
  · rw [restored, count, restoreIdentity_overflowCount, restoreCount_status]
  · rw [restored, chain]
    exact restoreIdentity_status (restoreCount_overflowIdentity _) sound.identity

/-- In a run whose events are safe no obligation is forgotten: what is held stays within
its capacity, the rest is counted, and a restart brings all of it back. -/
theorem reaches_retains (width : ∀ bytes, (supervisor.hashing.hexdigest bytes).length = 64)
    (reached : Reaches supervisor.step supervisor.Safe start run) : supervisor.Retains run := by
  have sound : Sound supervisor run :=
    reached.invariant (@sound_start supervisor)
      fun _ _ _ sound safe taken => sound.step width safe taken
  exact ⟨run.state.bounded, sound.accounted, sound.restores⟩

theorem mem_keys_foldl {key : String} {items : List (Dict String Json)}
    (h : key ∈ (items.foldl
      (fun s item => supervisor.rememberPending s (supervisor.restoredKey item) item)
        s).pending.keys) :
    key ∈ s.pending.keys ∨
      ∃ item ∈ items, key = supervisor.boundedIdentity (supervisor.restoredKey item) := by
  induction items generalizing s with
  | nil => exact Or.inl h
  | cons item items ih =>
      rcases ih h with held | ⟨later, member, rfl⟩
      · beta_reduce at held
        by_cases room : s.HasRoom (supervisor.boundedIdentity (supervisor.restoredKey item))
        · rw [rememberPending_of_room room] at held
          rcases OrderedDict.mem_keys_setLast.mp held with before | rfl
          · exact Or.inl before
          · exact Or.inr ⟨item, List.mem_cons_self, rfl⟩
        · rw [rememberPending_of_full room] at held
          exact Or.inl held
      · exact Or.inr ⟨later, List.mem_cons_of_mem _ member, rfl⟩

theorem restoredKey_short (width : ∀ bytes, (supervisor.hashing.hexdigest bytes).length = 64)
    {item : Dict String Json} (h : item ∈ restoredItems s.status) :
    (supervisor.restoredKey item).length ≤ 128 := by
  obtain ⟨value, rfl⟩ : ∃ value, item = compactVerificationResult value := by
    obtain ⟨raw, member, read⟩ := List.mem_filterMap.mp h
    obtain ⟨held, -, rfl⟩ := List.mem_map.mp (List.mem_of_mem_take member)
    exact ⟨.obj held, (Option.some.inj read).symm⟩
  have hashed := localJsonIdentity_length width (.obj (compactVerificationResult value))
  rw [restoredKey]
  split
  · rename_i identity found
    split_ifs
    · exact compact_identity_short found
    · omega
  · omega

/-- An obligation whose key is longer than the identity of its entry is lost by a restart. -/
theorem not_restores_of_long_key
    (width : ∀ bytes, (supervisor.hashing.hexdigest bytes).length = 64) {key : String}
    (held : key ∈ s.pending.keys) (long : 128 < key.length) : ¬supervisor.Restores s := by
  intro restores
  rw [← restores.pending, restorePending] at held
  rcases mem_keys_foldl held with before | ⟨item, member, rfl⟩
  · rw [restoreIdentity_pending, restoreCount_pending] at before
    cases before
  · have short := restoredKey_short width member
    rw [boundedIdentity_of_short (by omega)] at long
    omega

/-! ## Sample runs -/

/-- A digest of the right width. -/
private def zeroSupervisor : PendingSupervisor :=
  ⟨⟨fun _ => String.ofList (List.replicate 64 '0'), fun _ => .ok []⟩⟩

private theorem zeroSupervisor_width (bytes : List UInt8) :
    (zeroSupervisor.hashing.hexdigest bytes).length = 64 := by
  have digest : zeroSupervisor.hashing.hexdigest bytes =
      String.ofList (List.replicate 64 '0') := rfl
  rw [digest, String.length_ofList, List.length_replicate]

private theorem remember_start_held (supervisor : PendingSupervisor) (identity : String)
    (value : Dict String Json) :
    supervisor.boundedIdentity identity ∈
      (supervisor.remember start identity value).state.pending.keys := by
  have room : start.state.HasRoom (supervisor.boundedIdentity identity) := Or.inr (by decide)
  rw [remember, rememberPending_of_room room]
  exact OrderedDict.mem_keys_setLast.mpr (Or.inr rfl)

theorem reaches_retains_resolved :
    zeroSupervisor.Retains
      ⟨zeroSupervisor.resolvePending
          (zeroSupervisor.remember start "micro-1" [("status", .str "UNKNOWN")]).state 3 "c" "v",
        zeroSupervisor.withdraw
          (zeroSupervisor.remember start "micro-1" [("status", .str "UNKNOWN")]).outstanding
          [zeroSupervisor.pendingIdentity 3 "c" "v"]⟩ := by
  have kept : IdentityKept "micro-1" := ⟨by decide, Or.inl (by decide +kernel)⟩
  have stable : StableResult (.obj [("status", .str "UNKNOWN")]) :=
    fun evidence => absurd evidence (by decide)
  refine reaches_retains zeroSupervisor_width
    ((Reaches.refl.next
      (show zeroSupervisor.Safe start (.remember "micro-1" [("status", .str "UNKNOWN")]) from
        fun _ => ⟨kept, stable⟩) rfl).next
      (show zeroSupervisor.Safe _ (.resolve 3 "c" "v") from trivial) rfl)

/-- An identity of two hundred characters is kept whole as a key and cut in its entry. -/
theorem rememberPending_cuts_key :
    ¬zeroSupervisor.Retains
      (zeroSupervisor.remember start (String.ofList (List.replicate 200 'a')) []) := by
  intro retains
  have length : (String.ofList (List.replicate 200 'a')).length = 200 := by
    rw [String.length_ofList, List.length_replicate]
  have held := remember_start_held zeroSupervisor (String.ofList (List.replicate 200 'a')) []
  rw [boundedIdentity_of_short (by omega)] at held
  exact not_restores_of_long_key zeroSupervisor_width held (by omega) retains.restored

end PendingSupervisor

end MncsForge.Continuous
