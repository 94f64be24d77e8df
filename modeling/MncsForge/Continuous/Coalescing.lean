import Mathlib
import MncsForge.Continuous.ProcessEvent

/-!
# Coalescing the events of a page

`ContinuousSupervisor.run` raises the current generation to the greatest one of a
polled page before it dispatches the first event.  The generation is one of the
workspace; an event below it is acknowledged as stale whatever its source is.
-/

namespace MncsForge.Continuous

open MncsForge.Native
open MncsForge.Native.Resources (IsI64)

/-- A contiguous stream has one event at each cursor. -/
structure SourceStream where
  event : Nat → SourceEvent
  contiguous : ∀ cursor, (event cursor).cursor = cursor

/-- A later event of the stream is about the same source. -/
def SourceStream.Superseded (stream : SourceStream) (event : SourceEvent) : Prop :=
  ∃ later, event.cursor < later ∧ (stream.event later).uri = event.uri

/-- Where a page of events comes from: the poll of `run`, or the ingress queue. -/
inductive PageSource where
  | polled
  | ingress
  deriving DecidableEq

/-- How far the ingress thread has raised the generation and the cursor when an
event is handled. -/
structure IngressRaise where
  generation : Int := 0
  cursor : Nat := 0

namespace EventSetting

variable (setting : EventSetting)

/-- `dispatch_and_ack` for the events of a page, with the reports of those that it
processes. -/
def dispatch (raise : Nat → IngressRaise) (worlds : Nat → EventWorld) :
    EventState → Nat → List SourceEvent → List (SourceEvent × EventReport)
  | _, _, [] => []
  | s, cursor, event :: page =>
      let world := { worlds event.cursor with raised := (raise event.cursor).generation }
      match setting.processEvent world s event with
      | .error error =>
          [(event, { status := "UNKNOWN", acknowledged := false, reason := some error.message })]
      | .ok (after, report) =>
          (event, report) ::
            if report.acknowledged = true ∧
                event.cursor = max cursor (raise event.cursor).cursor + 1 then
              dispatch raise worlds after event.cursor page
            else []

/-- A polled page goes on where the acknowledgement ends. -/
def contiguous : Nat → List SourceEvent → Bool
  | _, [] => true
  | expected, event :: page => decide (event.cursor = expected) && contiguous (expected + 1) page

def observedGeneration (currentGeneration : Int) (page : List SourceEvent) : Int :=
  page.foldl (fun generation event => max generation event.currentGeneration) currentGeneration

/-- The part of `run` that dispatches one page. -/
def dispatchPage (raise : Nat → IngressRaise) (worlds : Nat → EventWorld) (source : PageSource)
    (s : EventState) (cursor : Nat) (page : List SourceEvent) :
    List (SourceEvent × EventReport) :=
  match source with
  | .polled =>
      let s := { s with currentGeneration := observedGeneration s.currentGeneration page }
      if contiguous (cursor + 1) page then setting.dispatch raise worlds s cursor page else []
  | .ingress => setting.dispatch raise worlds s cursor page

/-- The event was acknowledged as stale and no trigger was looked at. -/
def Discarded (report : EventReport) : Prop :=
  report.status = "STALE" ∧ report.reason = some "event generation is older than current"

/-- Each event below the generation that has been seen by then, at the start, on
the page or from the ingress thread, is superseded; what lies behind a generation
that is not an `i64`, or behind a gap, is not dispatched. -/
def SupersededBelow (stream : SourceStream) (raise : Nat → IngressRaise) :
    Int → Nat → List SourceEvent → Prop
  | _, _, [] => True
  | generation, cursor, event :: page =>
      let seen := max (max generation event.currentGeneration) (raise event.cursor).generation
      IsI64 event.currentGeneration → IsI64 seen →
        (event.currentGeneration < seen → stream.Superseded event) ∧
        (event.cursor = max cursor (raise event.cursor).cursor + 1 →
          SupersededBelow stream raise seen event.cursor page)

/-- The condition for a page from either source. -/
def Coalesces (stream : SourceStream) (raise : Nat → IngressRaise) (source : PageSource)
    (currentGeneration : Int) (cursor : Nat) (page : List SourceEvent) : Prop :=
  match source with
  | .polled =>
      contiguous (cursor + 1) page = true →
        SupersededBelow stream raise (observedGeneration currentGeneration page) cursor page
  | .ingress => SupersededBelow stream raise currentGeneration cursor page

variable {setting} {s : EventState} {event : SourceEvent} {world : EventWorld}

theorem bounds_of_discards {pending : PendingTable} {verifierId : String} {work current : Int}
    {stale : Bool} (h : setting.discards pending verifierId work current = .ok stale) :
    IsI64 work ∧ IsI64 current := by
  obtain ⟨transition, decided, _⟩ := bind_eq_ok.mp h
  obtain ⟨hcurrent, decided⟩ := refuseIf_bind_eq_ok.mp decided
  obtain ⟨hwork, _⟩ := refuseIf_bind_eq_ok.mp decided
  exact ⟨not_not.mp hwork, not_not.mp hcurrent⟩

theorem discards_of_bounds (pending : PendingTable) (verifierId : String) {work current : Int}
    (hwork : IsI64 work) (hcurrent : IsI64 current) :
    setting.discards pending verifierId work current = .ok (decide (work < current)) := by
  have small : ∀ count : Nat, count ≤ continuousPendingCapacity → IsI64 count := by
    intro count room
    rw [continuousPendingCapacity] at room
    exact ⟨by omega, by omega⟩
  have decided : NativeForgeAdapter.verificationResourceTransition
      (generationState pending (setting.candidate.getD "event") verifierId work current)
      "Unknown" = .ok _ :=
    NativeForgeAdapter.verificationResourceTransition_of_bounds hcurrent hwork rfl
      (small _ pending.2) (small _ le_rfl) (small 0 (Nat.zero_le _))
  have result : setting.discards pending verifierId work current = .ok _ :=
    bind_eq_ok.mpr ⟨_, decided, rfl⟩
  rw [result]
  congr 1
  rw [Bool.eq_iff_iff, decide_eq_true_iff (p := work < current)]
  exact discards_eq_ok result

theorem concludeEvent_not_discarded {actions : List ActionRecord} {report : EventReport}
    (h : setting.concludeEvent world s event actions = .ok report) : ¬Discarded report := by
  rintro ⟨_, reason⟩
  obtain ⟨decision, _, h⟩ := bind_eq_ok.mp h
  split_ifs at h
  · obtain rfl := Except.ok.inj h
    cases reason
  · split at h
    · obtain rfl := Except.ok.inj h
      cases reason
    · obtain ⟨stale, _, h⟩ := bind_eq_ok.mp h
      split_ifs at h
      · obtain rfl := Except.ok.inj h
        simp at reason
      · obtain rfl := Except.ok.inj h
        cases reason

theorem handleEvent_spec {after : EventState} {report : EventReport}
    (h : setting.handleEvent world s event = .ok (after, report)) :
    after.currentGeneration = s.currentGeneration ∧ ¬Discarded report := by
  obtain ⟨entered, cancelled, h⟩ := bind_eq_ok.mp h
  have same : entered.currentGeneration = s.currentGeneration := by
    unfold cancelSupersededPending at cancelled
    split_ifs at cancelled
    · rw [Except.ok.inj cancelled]
    · obtain ⟨stale, _, cancelled⟩ := bind_eq_ok.mp cancelled
      rw [← Except.ok.inj cancelled]
  split at h
  · obtain ⟨rfl, rfl⟩ := Prod.mk.inj (Except.ok.inj h)
    exact ⟨same, fun discarded => by simp [Discarded] at discarded⟩
  · dsimp only at h
    split_ifs at h
    · obtain ⟨rfl, rfl⟩ := Prod.mk.inj (Except.ok.inj h)
      exact ⟨same, fun discarded => by simp [Discarded] at discarded⟩
    · obtain ⟨others, _, h⟩ := bind_eq_ok.mp h
      obtain ⟨concluded, hconcluded, h⟩ := bind_eq_ok.mp h
      obtain ⟨rfl, rfl⟩ := Prod.mk.inj (Except.ok.inj h)
      exact ⟨same, concludeEvent_not_discarded hconcluded⟩

/-- What is discarded lies below the generation that is seen. -/
theorem processEvent_discarded {after : EventState} {report : EventReport}
    (h : setting.processEvent world s event = .ok (after, report)) :
    after.currentGeneration = seenGeneration world s event ∧
      IsI64 event.currentGeneration ∧ IsI64 (seenGeneration world s event) ∧
      (Discarded report → event.currentGeneration < seenGeneration world s event) := by
  obtain ⟨stale, decided, h⟩ := bind_eq_ok.mp h
  obtain ⟨hwork, hseen⟩ := bounds_of_discards decided
  cases stale with
  | true =>
      rw [if_pos rfl] at h
      obtain ⟨rfl, rfl⟩ := Prod.mk.inj (Except.ok.inj h)
      exact ⟨rfl, hwork, hseen, fun _ => (discards_eq_ok decided).mp rfl⟩
  | false =>
      rw [if_neg Bool.false_ne_true] at h
      obtain ⟨same, kept⟩ := handleEvent_spec h
      exact ⟨same, hwork, hseen, fun discarded => absurd discarded kept⟩

/-- An event that no trigger matches, and that no pending obligation is superseded by. -/
def idleWorld (raised : Int) : EventWorld where
  raised := raised
  triggerMatches _ := .ok false
  doctor _ :=
    { relative := .ok ""
      identityBefore := none
      dryRun := none
      applied := none
      refresh := .ok ()
      identityAfter := none }
  action _ := .ok { status := "PASS" }
  workspaceStatus := .ok none

theorem matchedTriggers_idle (raised : Int) :
    setting.matchedTriggers (idleWorld raised) = .ok [] := by
  rw [matchedTriggers]
  induction setting.triggers with
  | nil => rfl
  | cons trigger triggers ih => exact bind_eq_ok.mpr ⟨false, rfl, bind_eq_ok.mpr ⟨[], ih, rfl⟩⟩

theorem concludeEvent_idle (documented : setting.native.core.Documented) (raised : Int)
    (bound : IsI64 event.currentGeneration) :
    setting.concludeEvent (idleWorld raised) s event [] =
      .ok { status := "PASS", acknowledged := true } := by
  refine concludeEvent_eq_pass documented (by simp) (by simp) rfl ?_
  refine (discards_of_bounds s.pending "continuous-event-result" bound bound).trans ?_
  simp

/-- An event that nothing is done for is acknowledged. -/
theorem processEvent_idle (documented : setting.native.core.Documented) (raised : Int)
    {currentGeneration : Int} (hwork : IsI64 event.currentGeneration)
    (hseen : IsI64 (max (max currentGeneration event.currentGeneration) raised)) :
    ∃ report, setting.processEvent (idleWorld raised) ⟨currentGeneration, .empty⟩ event =
        .ok (⟨max (max currentGeneration event.currentGeneration) raised, .empty⟩, report) ∧
      report.acknowledged = true ∧
      (event.currentGeneration < max (max currentGeneration event.currentGeneration) raised →
        Discarded report) := by
  set seen := max (max currentGeneration event.currentGeneration) raised
  have decided : setting.discards .empty "event-generation" event.currentGeneration seen =
      .ok (decide (event.currentGeneration < seen)) :=
    discards_of_bounds .empty "event-generation" hwork hseen
  by_cases stale : event.currentGeneration < seen
  · have processed : setting.processEvent (idleWorld raised) ⟨currentGeneration, .empty⟩ event =
        .ok (⟨seen, .empty⟩,
          { status := "STALE"
            acknowledged := true
            reason := some "event generation is older than current" }) :=
      bind_eq_ok.mpr ⟨_, decided, if_pos (decide_eq_true stale)⟩
    exact ⟨_, processed, rfl, fun _ => ⟨rfl, rfl⟩⟩
  · have handled : setting.handleEvent (idleWorld raised) ⟨seen, .empty⟩ event =
        .ok (⟨seen, .empty⟩, { status := "PASS", acknowledged := true }) := by
      refine bind_eq_ok.mpr ⟨⟨seen, .empty⟩, ?_, ?_⟩
      · unfold cancelSupersededPending
        split_ifs <;> rfl
      · rw [matchedTriggers_idle]
        exact bind_eq_ok.mpr
          ⟨[], rfl, bind_eq_ok.mpr ⟨_, concludeEvent_idle documented raised hwork, rfl⟩⟩
    have processed : setting.processEvent (idleWorld raised) ⟨currentGeneration, .empty⟩ event =
        .ok (⟨seen, .empty⟩, { status := "PASS", acknowledged := true }) := by
      refine bind_eq_ok.mpr ⟨_, decided, ?_⟩
      rw [if_neg (by simpa using stale)]
      exact handled
    exact ⟨_, processed, rfl, fun h => absurd h stale⟩

/-! ## Whole pages -/

theorem dispatch_superseded {stream : SourceStream} {raise : Nat → IngressRaise}
    (worlds : Nat → EventWorld) {page : List SourceEvent} {cursor : Nat}
    (superseded : SupersededBelow stream raise s.currentGeneration cursor page) :
    ∀ entry ∈ setting.dispatch raise worlds s cursor page,
      Discarded entry.2 → stream.Superseded entry.1 := by
  induction page generalizing s cursor with
  | nil =>
      intro entry member
      cases member
  | cons event page ih =>
      intro entry member discarded
      rw [dispatch] at member
      dsimp only at member
      split at member
      · obtain rfl := List.mem_singleton.mp member
        simp [Discarded] at discarded
      · rename_i after report processed
        obtain ⟨seen, hwork, hseen, below⟩ := processEvent_discarded processed
        obtain ⟨here, others⟩ := superseded hwork hseen
        rcases List.mem_cons.mp member with rfl | member
        · exact here (below discarded)
        · split_ifs at member with goes
          · rw [seenGeneration] at seen
            refine ih ?_ entry member discarded
            rw [seen]
            exact others goes.2
          · cases member

theorem superseded_of_dispatch (documented : setting.native.core.Documented)
    {stream : SourceStream} {raise : Nat → IngressRaise} {page : List SourceEvent} {cursor : Nat}
    {currentGeneration : Int}
    (discards : ∀ entry ∈ setting.dispatch raise (fun _ => idleWorld 0)
      ⟨currentGeneration, .empty⟩ cursor page, Discarded entry.2 → stream.Superseded entry.1) :
    SupersededBelow stream raise currentGeneration cursor page := by
  induction page generalizing currentGeneration cursor with
  | nil => exact trivial
  | cons event page ih =>
      intro hwork hseen
      obtain ⟨report, processed, acknowledged, below⟩ :=
        processEvent_idle documented (raise event.cursor).generation hwork hseen
      rw [dispatch] at discards
      dsimp only at discards
      have same : { idleWorld 0 with raised := (raise event.cursor).generation } =
          idleWorld (raise event.cursor).generation := rfl
      rw [same, processed] at discards
      dsimp only at discards
      constructor
      · intro older
        exact discards (event, report) List.mem_cons_self (below older)
      · intro goes
        rw [if_pos ⟨acknowledged, goes⟩] at discards
        exact ih fun entry member => discards entry (List.mem_cons_of_mem _ member)

/-- However the events of a page are handled, those that are discarded are
superseded by later events of their own sources exactly when each event below the
generation seen by then is. -/
theorem dispatchPage_coalesces_iff (setting : EventSetting)
    (documented : setting.native.core.Documented) (stream : SourceStream)
    (raise : Nat → IngressRaise) (source : PageSource) (currentGeneration : Int) (cursor : Nat)
    (page : List SourceEvent) :
    (∀ worlds pending, ∀ entry ∈ setting.dispatchPage raise worlds source
      ⟨currentGeneration, pending⟩ cursor page,
        Discarded entry.2 → stream.Superseded entry.1) ↔
      Coalesces stream raise source currentGeneration cursor page := by
  constructor
  · intro discards
    cases source with
    | polled =>
        intro contiguous
        refine superseded_of_dispatch documented ?_
        have := discards (fun _ => idleWorld 0) .empty
        rw [dispatchPage, if_pos contiguous] at this
        exact this
    | ingress => exact superseded_of_dispatch documented (discards (fun _ => idleWorld 0) .empty)
  · intro coalesces worlds pending entry member
    cases source with
    | polled =>
        rw [dispatchPage] at member
        split_ifs at member with contiguous
        · exact dispatch_superseded
            (s := ⟨observedGeneration currentGeneration page, pending⟩) worlds
            (coalesces contiguous) entry member
        · cases member
    | ingress =>
        exact dispatch_superseded (s := ⟨currentGeneration, pending⟩) worlds coalesces entry member

/-- Three edits, of which the first or the second is of a source of its own. -/
def sampleStream (lone : Nat) : SourceStream where
  event cursor :=
    { currentGeneration := cursor
      cursor := cursor
      uri := if cursor = lone then "file:///project/lone.mncs" else "file:///project/main.mncs" }
  contiguous _ := rfl

theorem dispatchPage_coalesces_iff_sample :
    Coalesces (sampleStream 2) (fun _ => {}) .polled 0 0
      [(sampleStream 2).event 1, (sampleStream 2).event 2] ∧
    ∀ worlds pending, ∀ entry ∈ sample.dispatchPage (fun _ => {}) worlds .polled ⟨0, pending⟩ 0
        [(sampleStream 2).event 1, (sampleStream 2).event 2],
      Discarded entry.2 → (sampleStream 2).Superseded entry.1 := by
  have coalesces : Coalesces (sampleStream 2) (fun _ => {}) .polled 0 0
      [(sampleStream 2).event 1, (sampleStream 2).event 2] := by
    intro _ _ _
    refine ⟨fun _ => ⟨3, by decide, rfl⟩, fun _ _ _ => ⟨fun older => ?_, fun _ => trivial⟩⟩
    exact absurd older (by decide)
  exact ⟨coalesces, (dispatchPage_coalesces_iff sample referenceCore_documented (sampleStream 2)
    (fun _ => {}) .polled 0 0 _).mpr coalesces⟩

/-- The first event of the page is dropped for an edit of another source. -/
theorem dispatchPage_drops_other_source :
    ∃ entry ∈ sample.dispatchPage (fun _ => {}) (fun _ => idleWorld 0) .polled ⟨0, .empty⟩ 0
        [(sampleStream 1).event 1, (sampleStream 1).event 2],
      Discarded entry.2 ∧ entry.2.acknowledged = true ∧
        ¬(sampleStream 1).Superseded entry.1 := by
  refine ⟨((sampleStream 1).event 1,
    { status := "STALE"
      acknowledged := true
      reason := some "event generation is older than current" }), ?_, ⟨rfl, rfl⟩, rfl, ?_⟩
  · decide +kernel
  · rintro ⟨later, behind, same⟩
    have other : later ≠ 1 := by
      rintro rfl
      exact absurd behind (by decide)
    simp [sampleStream, other] at same

end EventSetting

end MncsForge.Continuous
