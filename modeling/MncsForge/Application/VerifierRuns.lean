import Mathlib
import MncsForge.Foundation.Runs
import MncsForge.Lifecycle.History

/-!
# Verifier runs and recoveries over one record store

Any number of clients share a record store and one execution lock for each
verifier action.  A client is a call of `MicroVerifierService.run` or of
`RecoveryService.recover`; it moves one durable operation at a time, and it may
raise or die anywhere, which frees its locks.
-/

namespace MncsForge.Application

open MncsForge.Foundation MncsForge.Records
open Lifecycle (History textOf typed)

/-! ## Authorizing a terminal result -/

def actionId (action : ForgeRecord) : String := textOf action "action_id"

/-- The verifier results recorded for an action. -/
def terminals (records : History) (action : String) : History :=
  records.filter fun record =>
    record.recordType = .verifierResult ∧ record.get "action_id" = .str action

def authorizeTerminalResult (action : ForgeRecord) (existing : History)
    (actionId candidateId : String) (freezeId : Option String) (mode : String) :
    Except ForgeError ForgeRecord := do
  refuseIf (action.get "action_id" ≠ .str actionId) "ACTION_BINDING_MISMATCH"
    "recorded verifier action identity mismatches result"
  refuseIf (terminals existing actionId ≠ []) "ACTION_ALREADY_TERMINATED"
    "verifier action already has a terminal result"
  let expected : List (String × Json) :=
    [("candidate_identity", .str candidateId), ("freeze_identity", .ofText freezeId),
     ("mode", .str mode)]
  let mismatched := (expected.filter fun entry => action.get entry.1 ≠ entry.2).map Prod.fst
  refuseIf (mismatched ≠ []) "ACTION_BINDING_MISMATCH"
    ("terminal verifier result mismatches action bindings: " ++ ", ".intercalate mismatched)
  .ok action

theorem authorizeTerminalResult_fresh {action authorized : ForgeRecord} {existing : History}
    {id candidateId mode : String} {freezeId : Option String}
    (h : authorizeTerminalResult action existing id candidateId freezeId mode =
      .ok authorized) : terminals existing id = [] := by
  rw [authorizeTerminalResult, refuseIf_bind_eq_ok, refuseIf_bind_eq_ok] at h
  exact not_not.mp h.2.1

/-! ## Records of a verifier execution -/

structure VerifierAction where
  record : ForgeRecord
  isAction : record.recordType = .verifierAction

/-- A terminal result for an action. -/
structure TerminalResult (action : String) where
  record : ForgeRecord
  isResult : record.recordType = .verifierResult
  bound : record.get "action_id" = .str action

structure ReceiptBinding where
  record : ForgeRecord
  isBinding : record.recordType = .executionReceiptBinding

/-- The field that identifies a record of this type in the store. -/
def contextIdentityField (recordType : RecordType) : String :=
  match persistedRecordContexts.find? fun context => context.recordType = recordType with
  | some context => context.identityField
  | none => ""

/-- `commit`: a record is appended, or is there already, or its identity is taken. -/
def commitRecord (records : History) (record : ForgeRecord) : Option History :=
  let field := contextIdentityField record.recordType
  match records.filter fun other =>
      other.recordType = record.recordType ∧ other.get field = record.get field with
  | [] => some (records ++ [record])
  | [existing] => if existing = record then some records else none
  | _ => none

/-! ## Clients -/

/-- What a recovery has still to look at and what it knows. -/
structure Recovery where
  pending : List VerifierAction
  results : History
  terminalActionIds : List String

inductive Client where
  | idle
  | runRead (action : VerifierAction) (prior : History)
  | runLocked (action : VerifierAction) (prior : History)
  | runRecorded (action : VerifierAction) (prior : History)
  | runExecuted (action : VerifierAction) (prior : History)
      (result : TerminalResult (actionId action.record)) (binding : Option ReceiptBinding)
  | runAuthorized (action : VerifierAction)
      (result : TerminalResult (actionId action.record)) (binding : Option ReceiptBinding)
  | runCommitted (action : VerifierAction)
  | recovering (recovery : Recovery)
  | recoveryLocked (action : VerifierAction) (recovery : Recovery)
  | recoveryAuthorized (action : VerifierAction)
      (result : TerminalResult (actionId action.record)) (recovery : Recovery)
  | recoveryCommitted (action : VerifierAction) (recovery : Recovery)

namespace Client

/-- The action whose lock the client holds. -/
def holds : Client → Option String
  | idle | runRead _ _ | recovering _ => none
  | runLocked action _ | runRecorded action _ | runExecuted action _ _ _
  | runAuthorized action _ _ | runCommitted action | recoveryLocked action _
  | recoveryAuthorized action _ _ | recoveryCommitted action _ => some (actionId action.record)

/-- The action the client is about to commit a result for. -/
def authorized : Client → Option String
  | runAuthorized action _ _ | recoveryAuthorized action _ _ => some (actionId action.record)
  | _ => none

end Client

structure VerifierSystem where
  records : History
  locks : String → Option Nat
  clients : Nat → Client

namespace VerifierSystem

def become (s : VerifierSystem) (i : Nat) (client : Client) : VerifierSystem :=
  { s with clients := Function.update s.clients i client }

def acquire (s : VerifierSystem) (i : Nat) (action : String) : VerifierSystem :=
  { s with locks := Function.update s.locks action (some i) }

/-- Every lock of the client is freed. -/
def free (s : VerifierSystem) (i : Nat) : VerifierSystem :=
  { s with locks := fun action => if s.locks action = some i then none else s.locks action }

def withRecords (s : VerifierSystem) (records : History) : VerifierSystem :=
  { s with records := records }

end VerifierSystem

/-! ## Events -/

inductive Move where
  | readResults (action : VerifierAction)
  | readEntries
  | lock
  | skip
  | recordAction
  | execute (result : ForgeRecord) (binding : Option ReceiptBinding)
  | authorize
  | recover (result : ForgeRecord)
  | commitBinding
  | commitResult
  | release
  | stop

inductive VerifierEvent where
  | client (i : Nat) (move : Move)
  | other (record : ForgeRecord)

def terminalResult? (action : String) (record : ForgeRecord) : Option (TerminalResult action) :=
  if h : record.recordType = .verifierResult ∧ record.get "action_id" = .str action then
    some ⟨record, h.1, h.2⟩
  else none

/-- The freeze a result names, `None` for an empty one. -/
def freezeOf (record : ForgeRecord) : Option String :=
  if (record.get "freeze_identity").truthy then some (textOf record "freeze_identity") else none

/-- `binding_for_action`. -/
def hasBinding (records : History) (action : String) : Prop :=
  ∃ record ∈ typed .executionReceiptBinding records, record.get "action_identity" = .str action

instance (records : History) (action : String) : Decidable (hasBinding records action) :=
  inferInstanceAs (Decidable (∃ record ∈ _, _))

def verifierActions (records : History) : List VerifierAction :=
  records.filterMap fun record =>
    if h : record.recordType = .verifierAction then some ⟨record, h⟩ else none

/-- The authorization of a result, with the identities the result carries. -/
def resultAuthorized (action : VerifierAction) (existing : History) (result : ForgeRecord) :
    Bool :=
  (authorizeTerminalResult action.record existing (actionId action.record)
    (textOf result "candidate_identity") (freezeOf result) (textOf result "mode")).toOption.isSome

/-- The authorization of a recovered result, with the identities of the action. -/
def recoveryAuthorized (action : VerifierAction) (existing : History) : Bool :=
  (authorizeTerminalResult action.record existing (actionId action.record)
    (textOf action.record "candidate_identity")
    (if action.record.get "freeze_identity" = .null then none
      else some (textOf action.record "freeze_identity"))
    (textOf action.record "mode")).toOption.isSome

namespace VerifierSystem

/-- One durable operation of a client. -/
def move (s : VerifierSystem) (i : Nat) : Move → Option VerifierSystem
  | .readResults action =>
      match s.clients i with
      | .idle => some (s.become i (.runRead action (typed .verifierResult s.records)))
      | _ => none
  | .readEntries =>
      match s.clients i with
      | .idle =>
          let results := typed .verifierResult s.records
          some (s.become i
            (.recovering ⟨verifierActions s.records, results, results.map actionId⟩))
      | _ => none
  | .lock =>
      match s.clients i with
      | .runRead action prior =>
          if s.locks (actionId action.record) = none then
            some ((s.acquire i (actionId action.record)).become i (.runLocked action prior))
          else none
      | .recovering ⟨action :: pending, results, terminal⟩ =>
          if actionId action.record ∉ terminal ∧ s.locks (actionId action.record) = none then
            some ((s.acquire i (actionId action.record)).become i
              (.recoveryLocked action ⟨pending, results, terminal⟩))
          else none
      | _ => none
  | .skip =>
      -- a recovery does not wait for a busy action
      match s.clients i with
      | .recovering ⟨action :: pending, results, terminal⟩ =>
          if actionId action.record ∈ terminal ∨ s.locks (actionId action.record) ≠ none then
            some (s.become i (.recovering ⟨pending, results, terminal⟩))
          else none
      | .recovering ⟨[], _, _⟩ => some (s.become i .idle)
      | _ => none
  | .recordAction =>
      match s.clients i with
      | .runLocked action prior =>
          (commitRecord s.records action.record).map fun records =>
            (s.withRecords records).become i (.runRecorded action prior)
      | _ => none
  | .execute result binding =>
      match s.clients i with
      | .runRecorded action prior =>
          (terminalResult? (actionId action.record) result).map fun result =>
            s.become i (.runExecuted action prior result binding)
      | _ => none
  | .authorize =>
      match s.clients i with
      | .runExecuted action prior result binding =>
          if (binding.isSome → ¬ hasBinding s.records (actionId action.record)) ∧
              resultAuthorized action prior result.record = true then
            some (s.become i (.runAuthorized action result binding))
          else none
      | _ => none
  | .recover result =>
      match s.clients i with
      | .recoveryLocked action recovery =>
          if recoveryAuthorized action recovery.results = true ∧
              result.get "status" = .str "UNKNOWN" then
            (terminalResult? (actionId action.record) result).map fun result =>
              s.become i (.recoveryAuthorized action result recovery)
          else none
      | _ => none
  | .commitBinding =>
      match s.clients i with
      | .runAuthorized action result (some binding) =>
          (commitRecord s.records binding.record).map fun records =>
            (s.withRecords records).become i (.runAuthorized action result none)
      | _ => none
  | .commitResult =>
      -- a store that commits batches publishes a binding with the result
      match s.clients i with
      | .runAuthorized action result none =>
          (commitRecord s.records result.record).map fun records =>
            (s.withRecords records).become i (.runCommitted action)
      | .runAuthorized action result (some binding) =>
          (commitRecord s.records binding.record).bind fun records =>
            (commitRecord records result.record).map fun records =>
              (s.withRecords records).become i (.runCommitted action)
      | .recoveryAuthorized action result recovery =>
          (commitRecord s.records result.record).map fun records =>
            (s.withRecords records).become i
              (.recoveryCommitted action
                { recovery with
                  results := recovery.results ++ [result.record]
                  terminalActionIds := actionId action.record :: recovery.terminalActionIds })
      | _ => none
  | .release =>
      match s.clients i with
      | .runCommitted _ => some ((s.free i).become i .idle)
      | .recoveryCommitted _ recovery => some ((s.free i).become i (.recovering recovery))
      | _ => none
  | .stop => some ((s.free i).become i .idle)

/-- A client moves, or something else than a verifier result is recorded. -/
def step (s : VerifierSystem) : VerifierEvent → Option VerifierSystem
  | .client i m => s.move i m
  | .other record =>
      if record.recordType = .verifierResult then none
      else (commitRecord s.records record).map s.withRecords

/-- What a client read before it asked for the lock still holds every result of
its action when it authorizes its own. -/
def Fresh (s : VerifierSystem) : VerifierEvent → Prop
  | .client i .authorize =>
      match s.clients i with
      | .runExecuted action prior _ _ => terminals s.records (actionId action.record) ⊆ prior
      | _ => True
  | .client i (.recover _) =>
      match s.clients i with
      | .recoveryLocked action recovery =>
          terminals s.records (actionId action.record) ⊆ recovery.results
      | _ => True
  | _ => True

instance (s : VerifierSystem) (event : VerifierEvent) : Decidable (s.Fresh event) := by
  unfold Fresh
  split
  · split <;> infer_instance
  · split <;> infer_instance
  · infer_instance

/-- No client has started, and no action has two results. -/
structure Initial (s : VerifierSystem) : Prop where
  idle : ∀ i, s.clients i = .idle
  once : ∀ action, (terminals s.records action).length ≤ 1

/-! ## What a store operation does to the results -/

theorem commitRecord_eq_some {records after : History} {record : ForgeRecord}
    (h : commitRecord records record = some after) :
    after = records ∨ after = records ++ [record] := by
  simp only [commitRecord] at h
  split at h
  · exact Or.inr (Option.some.inj h).symm
  · split_ifs at h
    exact Or.inl (Option.some.inj h).symm
  · cases h

theorem terminals_append (records : History) (record : ForgeRecord) (action : String) :
    terminals (records ++ [record]) action =
      terminals records action ++ terminals [record] action := List.filter_append _ _

theorem terminals_other {record : ForgeRecord} (h : record.recordType ≠ .verifierResult)
    (action : String) : terminals [record] action = [] := by
  simp [terminals, h]

theorem terminals_result_ne {id action : String} (result : TerminalResult id)
    (h : action ≠ id) : terminals [result.record] action = [] := by
  have : id ≠ action := Ne.symm h
  simp [terminals, result.bound, this]

theorem terminals_commit_other {records after : History} {record : ForgeRecord}
    (other : record.recordType ≠ .verifierResult) (h : commitRecord records record = some after)
    (action : String) : terminals after action = terminals records action := by
  obtain rfl | rfl := commitRecord_eq_some h
  · rfl
  · rw [terminals_append, terminals_other other, List.append_nil]

/-! ## The invariant -/

/-- Locks are held by one client, and a client that holds a lock and has
authorized a result finds none of its action recorded. -/
structure Safe (s : VerifierSystem) : Prop where
  held : ∀ i action, (s.clients i).holds = some action → s.locks action = some i
  clear : ∀ i action, (s.clients i).authorized = some action → terminals s.records action = []
  once : ∀ action, (terminals s.records action).length ≤ 1

theorem holds_of_authorized {client : Client} {action : String}
    (h : client.authorized = some action) : client.holds = some action := by
  cases client <;> first | exact h | cases h

section Operations

variable {s : VerifierSystem} {i : Nat} {client : Client} {action : String}

theorem Safe.become (safe : Safe s) (same : client.holds = (s.clients i).holds)
    (authorized : ∀ action, client.authorized = some action →
      terminals s.records action = []) : Safe (s.become i client) where
  held j action h := by
    by_cases hj : j = i
    · subst hj
      simp only [VerifierSystem.become, Function.update_self, same] at h
      exact safe.held j action h
    · simp only [VerifierSystem.become, Function.update_of_ne hj] at h
      exact safe.held j action h
  clear j action h := by
    by_cases hj : j = i
    · subst hj
      simp only [VerifierSystem.become, Function.update_self] at h
      exact authorized action h
    · simp only [VerifierSystem.become, Function.update_of_ne hj] at h
      exact safe.clear j action h
  once := safe.once

theorem Safe.acquire (safe : Safe s) (available : s.locks action = none)
    (holds : client.holds = some action) (fresh : client.authorized = none) :
    Safe ((s.acquire i action).become i client) where
  held j other h := by
    by_cases hj : j = i
    · subst hj
      simp only [VerifierSystem.become, Function.update_self, holds] at h
      obtain rfl := Option.some.inj h
      simp [VerifierSystem.become, VerifierSystem.acquire]
    · simp only [VerifierSystem.become, VerifierSystem.acquire, Function.update_of_ne hj] at h
      have held := safe.held j other h
      have hne : other ≠ action := by
        rintro rfl
        rw [available] at held
        cases held
      simp only [VerifierSystem.become, VerifierSystem.acquire, Function.update_of_ne hne]
      exact held
  clear j other h := by
    by_cases hj : j = i
    · subst hj
      simp [VerifierSystem.become, fresh] at h
    · simp only [VerifierSystem.become, VerifierSystem.acquire, Function.update_of_ne hj] at h
      exact safe.clear j other h
  once := safe.once

theorem Safe.free (safe : Safe s) (holds : client.holds = none) :
    Safe ((s.free i).become i client) where
  held j action h := by
    by_cases hj : j = i
    · subst hj
      simp [VerifierSystem.become, holds] at h
    · simp only [VerifierSystem.become, VerifierSystem.free, Function.update_of_ne hj] at h ⊢
      have held := safe.held j action h
      have hne : s.locks action ≠ some i := by
        rw [held]
        exact fun heq => hj (Option.some.inj heq)
      rw [if_neg hne]
      exact held
  clear j action h := by
    by_cases hj : j = i
    · subst hj
      simp only [VerifierSystem.become, Function.update_self] at h
      rw [holds_of_authorized h] at holds
      cases holds
    · simp only [VerifierSystem.become, VerifierSystem.free, Function.update_of_ne hj] at h
      exact safe.clear j action h
  once := safe.once

theorem Safe.withRecords (safe : Safe s) {records : History}
    (same : ∀ action, terminals records action = terminals s.records action) :
    Safe (s.withRecords records) where
  held := safe.held
  clear j action h := (same action).trans (safe.clear j action h)
  once action := by
    show (terminals records action).length ≤ 1
    rw [same]
    exact safe.once action

/-- The one client that holds the lock publishes the first result. -/
theorem Safe.publish (safe : Safe s) (authorized : (s.clients i).authorized = some action)
    (result : TerminalResult action) {records : History}
    (committed : commitRecord s.records result.record = some records)
    (holds : client.holds = some action) (fresh : client.authorized = none) :
    Safe ((s.withRecords records).become i client) := by
  have others : ∀ other, other ≠ action → terminals records other = terminals s.records other := by
    intro other hne
    obtain rfl | rfl := commitRecord_eq_some committed
    · rfl
    · rw [terminals_append, terminals_result_ne result hne, List.append_nil]
  have first : (terminals records action).length ≤ 1 := by
    obtain rfl | rfl := commitRecord_eq_some committed
    · exact safe.once action
    · rw [terminals_append, safe.clear i action authorized, List.nil_append]
      exact List.length_filter_le _ _
  have held := safe.held i action (holds_of_authorized authorized)
  refine ⟨fun j other h => ?_, fun j other h => ?_, fun other => ?_⟩
  · by_cases hj : j = i
    · subst hj
      simp only [VerifierSystem.become, Function.update_self, holds] at h
      obtain rfl := Option.some.inj h
      exact held
    · simp only [VerifierSystem.become, VerifierSystem.withRecords, Function.update_of_ne hj] at h
      exact safe.held j other h
  · by_cases hj : j = i
    · subst hj
      simp [VerifierSystem.become, fresh] at h
    · simp only [VerifierSystem.become, VerifierSystem.withRecords, Function.update_of_ne hj] at h
      have hne : other ≠ action := by
        rintro rfl
        have := (safe.held j other (holds_of_authorized h)).symm.trans held
        exact hj (Option.some.inj this)
      exact (others other hne).trans (safe.clear j other h)
  · by_cases hne : other = action
    · rw [hne]
      exact first
    · show (terminals records other).length ≤ 1
      rw [others other hne]
      exact safe.once other

end Operations

/-- A fresh authorization finds no result of the action in the store. -/
theorem terminals_of_fresh {records existing : History} {action : String}
    (fresh : terminals records action ⊆ existing) (none : terminals existing action = []) :
    terminals records action = [] := by
  refine List.eq_nil_iff_forall_not_mem.mpr fun record hrecord => ?_
  have kept : record ∈ terminals existing action :=
    List.mem_filter.mpr ⟨fresh hrecord, (List.mem_filter.mp hrecord).2⟩
  rw [none] at kept
  cases kept

private theorem ok_of_isSome {α : Type} {x : Except ForgeError α}
    (h : x.toOption.isSome = true) : ∃ a, x = .ok a := by
  cases x with
  | error e => cases h
  | ok a => exact ⟨a, rfl⟩

theorem terminals_of_resultAuthorized {action : VerifierAction} {existing : History}
    {result : ForgeRecord} (h : resultAuthorized action existing result = true) :
    terminals existing (actionId action.record) = [] := by
  obtain ⟨_, h⟩ := ok_of_isSome h
  exact authorizeTerminalResult_fresh h

theorem terminals_of_recoveryAuthorized {action : VerifierAction} {existing : History}
    (h : recoveryAuthorized action existing = true) :
    terminals existing (actionId action.record) = [] := by
  obtain ⟨_, h⟩ := ok_of_isSome h
  exact authorizeTerminalResult_fresh h

theorem Safe.step {s after : VerifierSystem} {event : VerifierEvent} (safe : Safe s)
    (fresh : s.Fresh event) (h : s.step event = some after) : Safe after := by
  cases event with
  | other record =>
      simp only [VerifierSystem.step] at h
      split_ifs at h with hresult
      obtain ⟨records, hrecords, rfl⟩ := Option.map_eq_some_iff.mp h
      exact safe.withRecords (terminals_commit_other hresult hrecords)
  | client i move =>
      rw [VerifierSystem.step] at h
      cases move with
      | stop =>
          obtain rfl := Option.some.inj h
          exact safe.free rfl
      | readResults action =>
          simp only [VerifierSystem.move] at h
          split at h
          · rename_i hclient
            obtain rfl := Option.some.inj h
            exact safe.become (by rw [hclient]; rfl) (fun _ h => by cases h)
          · cases h
      | readEntries =>
          simp only [VerifierSystem.move] at h
          split at h
          · rename_i hclient
            obtain rfl := Option.some.inj h
            exact safe.become (by rw [hclient]; rfl) (fun _ h => by cases h)
          · cases h
      | lock =>
          simp only [VerifierSystem.move] at h
          split at h
          · split_ifs at h with available
            obtain rfl := Option.some.inj h
            exact safe.acquire available rfl rfl
          · split_ifs at h with available
            obtain rfl := Option.some.inj h
            exact safe.acquire available.2 rfl rfl
          · cases h
      | skip =>
          simp only [VerifierSystem.move] at h
          split at h
          · rename_i hclient
            split_ifs at h
            obtain rfl := Option.some.inj h
            exact safe.become (by rw [hclient]; rfl) (fun _ h => by cases h)
          · rename_i hclient
            obtain rfl := Option.some.inj h
            exact safe.become (by rw [hclient]; rfl) (fun _ h => by cases h)
          · cases h
      | recordAction =>
          simp only [VerifierSystem.move] at h
          split at h
          · rename_i action prior hclient
            obtain ⟨records, hrecords, rfl⟩ := Option.map_eq_some_iff.mp h
            have other : action.record.recordType ≠ .verifierResult := by
              rw [action.isAction]
              decide
            exact (safe.withRecords (terminals_commit_other other hrecords)).become
              (by rw [VerifierSystem.withRecords, hclient]; rfl) (fun _ h => by cases h)
          · cases h
      | execute result binding =>
          simp only [VerifierSystem.move] at h
          split at h
          · rename_i hclient
            obtain ⟨result, _, rfl⟩ := Option.map_eq_some_iff.mp h
            exact safe.become (by rw [hclient]; rfl) (fun _ h => by cases h)
          · cases h
      | authorize =>
          simp only [VerifierSystem.move] at h
          split at h
          · rename_i action prior result binding hclient
            split_ifs at h with authorized
            obtain rfl := Option.some.inj h
            refine safe.become (by rw [hclient]; rfl) fun other hother => ?_
            obtain rfl := Option.some.inj hother
            simp only [VerifierSystem.Fresh, hclient] at fresh
            exact terminals_of_fresh fresh (terminals_of_resultAuthorized authorized.2)
          · cases h
      | recover result =>
          simp only [VerifierSystem.move] at h
          split at h
          · rename_i action recovery hclient
            split_ifs at h with authorized
            obtain ⟨result, _, rfl⟩ := Option.map_eq_some_iff.mp h
            refine safe.become (by rw [hclient]; rfl) fun other hother => ?_
            obtain rfl := Option.some.inj hother
            simp only [VerifierSystem.Fresh, hclient] at fresh
            exact terminals_of_fresh fresh (terminals_of_recoveryAuthorized authorized.1)
          · cases h
      | commitBinding =>
          simp only [VerifierSystem.move] at h
          split at h
          · rename_i action result binding hclient
            obtain ⟨records, hrecords, rfl⟩ := Option.map_eq_some_iff.mp h
            have other : binding.record.recordType ≠ .verifierResult := by
              rw [binding.isBinding]
              decide
            have same := terminals_commit_other other hrecords
            refine (safe.withRecords same).become
              (by rw [VerifierSystem.withRecords, hclient]; rfl) fun other hother => ?_
            exact (same other).trans (safe.clear i other (by rw [hclient]; exact hother))
          · cases h
      | commitResult =>
          simp only [VerifierSystem.move] at h
          split at h
          · rename_i action result hclient
            obtain ⟨records, hrecords, rfl⟩ := Option.map_eq_some_iff.mp h
            exact safe.publish (by rw [hclient]; rfl) result hrecords rfl rfl
          · rename_i action result binding hclient
            obtain ⟨bound, hbound, h⟩ := Option.bind_eq_some_iff.mp h
            obtain ⟨records, hrecords, rfl⟩ := Option.map_eq_some_iff.mp h
            have other : binding.record.recordType ≠ .verifierResult := by
              rw [binding.isBinding]
              decide
            have safe := safe.withRecords (terminals_commit_other other hbound)
            exact safe.publish (by rw [VerifierSystem.withRecords, hclient]; rfl) result
              hrecords rfl rfl
          · rename_i action result recovery hclient
            obtain ⟨records, hrecords, rfl⟩ := Option.map_eq_some_iff.mp h
            exact safe.publish (by rw [hclient]; rfl) result hrecords rfl rfl
          · cases h
      | release =>
          simp only [VerifierSystem.move] at h
          split at h
          · obtain rfl := Option.some.inj h
            exact safe.free rfl
          · obtain rfl := Option.some.inj h
            exact safe.free rfl
          · cases h

theorem Initial.safe {s : VerifierSystem} (initial : s.Initial) : Safe s where
  held i action h := by
    rw [initial.idle] at h
    cases h
  clear i action h := by
    rw [initial.idle] at h
    cases h
  once := initial.once

/-- In every run whose authorizations are fresh, an action has one result at most. -/
theorem verifier_results_once {start s : VerifierSystem} (initial : start.Initial)
    (run : Reaches VerifierSystem.step VerifierSystem.Fresh start s) (action : String) :
    (terminals s.records action).length ≤ 1 := by
  have safe : Safe s :=
    run.invariant initial.safe fun _ _ _ safe fresh step => safe.step fresh step
  exact safe.once action

/-! ### A run and a recovery -/

def emptySystem : VerifierSystem where
  records := []
  locks _ := none
  clients _ := .idle

theorem emptySystem_initial : emptySystem.Initial where
  idle _ := rfl
  once _ := Nat.zero_le 1

def sampleAction : VerifierAction where
  record :=
    { recordType := .verifierAction
      schemaVersion := "1"
      fields :=
        [("action_id", .str "verifier-action:01"), ("candidate_identity", .str "candidate:01"),
         ("freeze_identity", .null), ("mode", .str "development")]
      sourceSchemaVersion := "1" }
  isAction := rfl

def sampleTerminal (output status : String) : ForgeRecord where
  recordType := .verifierResult
  schemaVersion := "1"
  fields :=
    [("action_id", .str "verifier-action:01"), ("candidate_identity", .str "candidate:01"),
     ("freeze_identity", .null), ("mode", .str "development"),
     ("output_identity", .str output), ("status", .str status)]
  sourceSchemaVersion := "1"

def runStart : List VerifierEvent :=
  [.client 0 (.readResults sampleAction), .client 0 .lock, .client 0 .recordAction]

def runEnd : List VerifierEvent :=
  [.client 0 (.execute (sampleTerminal "verifier-result:01" "PASS") none),
   .client 0 .authorize, .client 0 .commitResult, .client 0 .release]

def recoveryEnd : List VerifierEvent :=
  [.client 1 .lock, .client 1 (.recover (sampleTerminal "verifier-result:02" "UNKNOWN")),
   .client 1 .commitResult, .client 1 .release]

/-- A recovery after a run that died with its action recorded. -/
theorem verifier_results_once_sample :
    ∃ s, Reaches VerifierSystem.step VerifierSystem.Fresh emptySystem s ∧
      terminals s.records "verifier-action:01" =
        [sampleTerminal "verifier-result:02" "UNKNOWN"] ∧
      (terminals s.records "verifier-action:01").length ≤ 1 := by
  have events : (runEvents (guarded VerifierSystem.step VerifierSystem.Fresh) emptySystem
      (runStart ++ [.client 0 .stop, .client 1 .readEntries] ++ recoveryEnd)).map
        (fun s => terminals s.records "verifier-action:01") =
      some [sampleTerminal "verifier-result:02" "UNKNOWN"] := by
    decide +kernel
  obtain ⟨s, hs, hterminals⟩ := Option.map_eq_some_iff.mp events
  have run := reaches_of_runEvents hs
  exact ⟨s, run, hterminals, verifier_results_once emptySystem_initial run _⟩

/-- A recovery that reads while the run is under way adds a second result. -/
theorem verifier_results_twice :
    ∃ s, Reaches VerifierSystem.step (fun _ _ => True) emptySystem s ∧
      terminals s.records "verifier-action:01" =
        [sampleTerminal "verifier-result:01" "PASS",
         sampleTerminal "verifier-result:02" "UNKNOWN"] := by
  have events : (runEvents (guarded VerifierSystem.step fun _ _ => True) emptySystem
      (runStart ++ [.client 1 .readEntries] ++ runEnd ++ recoveryEnd)).map
        (fun s => terminals s.records "verifier-action:01") =
      some [sampleTerminal "verifier-result:01" "PASS",
        sampleTerminal "verifier-result:02" "UNKNOWN"] := by
    decide +kernel
  obtain ⟨s, hs, hterminals⟩ := Option.map_eq_some_iff.mp events
  exact ⟨s, reaches_of_runEvents hs, hterminals⟩

end VerifierSystem

end MncsForge.Application
