import Mathlib
import MncsForge.Foundation.Runs
import MncsForge.Native.Continuous

/-!
# The continuous supervisor and its event ingress

`ContinuousSupervisor.run` dispatches the events of the Language Service stream
one at a time while `_ContinuousEventIngress` reads ahead in another thread.
Both write `current_cursor`, which every durable status carries.  A step is one
atomic action of one of the two threads, of `request_stop`, or a crash.
-/

namespace MncsForge.Continuous

open MncsForge.Foundation MncsForge.Native.Continuous

/-! ## The event stream -/

structure StreamEvent where
  cursor : Nat
  currentGeneration : Int
  streamIdentity : String
  deriving DecidableEq

/-- A contiguous stream has one event at each cursor. -/
structure EventStream where
  event : Nat → StreamEvent
  contiguous : ∀ cursor, (event cursor).cursor = cursor

/-- The events of a stream. -/
def EventStream.Event (stream : EventStream) : Type :=
  { event : StreamEvent // stream.event event.cursor = event }

instance (stream : EventStream) : DecidableEq stream.Event :=
  inferInstanceAs (DecidableEq { event : StreamEvent // stream.event event.cursor = event })

/-- The event at a cursor. -/
def EventStream.at (stream : EventStream) (cursor : Nat) : stream.Event :=
  ⟨stream.event cursor, by rw [stream.contiguous]⟩

/-- An event of a stream is known by its cursor. -/
theorem EventStream.Event.ext {stream : EventStream} {first second : stream.Event}
    (h : first.1.cursor = second.1.cursor) : first = second := by
  apply Subtype.ext
  rw [← first.2, ← second.2, h]

/-! ## States -/

/-- What a status says of the stream. -/
structure ContinuousStatus where
  eventCursor : Nat
  eventStreamIdentity : Option String
  deriving DecidableEq

structure Job where
  generation : Int
  cursor : Nat

def continuousPendingCapacity : Nat := 128

/-- `_ContinuousEventIngress`, with the event it is busy with. -/
structure Ingress (stream : EventStream) where
  cursor : Nat
  events : List stream.Event
  observing : Option stream.Event
  running : Bool

/-- Where the dispatch loop is. -/
inductive Dispatcher (stream : EventStream) where
  | idle
  | loaded
  | dispatching (page : List stream.Event) (ingress : Ingress stream)
  | processing (event : stream.Event) (page : List stream.Event) (ingress : Ingress stream)
  | failed (ingress : Ingress stream)

structure Supervisor (stream : EventStream) where
  currentCursor : Nat
  currentGeneration : Int
  streamIdentity : Option String
  activeJob : Option Job
  dispatcher : Dispatcher stream
  /-- Statuses computed and not yet written. -/
  drafts : List ContinuousStatus
  /-- The status file. -/
  durable : Option ContinuousStatus
  /-- Every status ever written. -/
  written : List ContinuousStatus
  /-- The events that `_process_event` returned as acknowledged. -/
  acknowledged : List stream.Event

namespace Dispatcher

variable {stream : EventStream}

def ingress : Dispatcher stream → Option (Ingress stream)
  | idle | loaded => none
  | dispatching _ ingress | processing _ _ ingress | failed ingress => some ingress

/-- The event that is being processed. -/
def event : Dispatcher stream → Option stream.Event
  | processing event _ _ => some event
  | _ => none

def withIngress (ingress : Ingress stream) : Dispatcher stream → Dispatcher stream
  | idle => idle
  | loaded => loaded
  | dispatching page _ => dispatching page ingress
  | processing event page _ => .processing event page ingress
  | failed _ => failed ingress

end Dispatcher

/-! ## Steps -/

/-- The pending table as the resource transition sees it. -/
structure PendingFacts where
  present : Bool
  count : Nat

inductive SupervisorEvent (stream : EventStream) where
  | load (liveStream : Option String)
  | begin (page : List stream.Event)
  | take
  | dispatch
  | enterJob
  | exitJob
  | finishEvent (acknowledged : Bool)
  | finish
  | draft
  | requestStop
  | write (status : ContinuousStatus)
  | observe (event : stream.Event) (pending : PendingFacts)
  | enqueue
  | stopIngress
  | lateObserve (event : stream.Event) (pending : PendingFacts)
  | crash (torn : Bool)

namespace Supervisor

variable {stream : EventStream}

/-- The part of `status()` that says how far the stream was acknowledged. -/
def status (s : Supervisor stream) : ContinuousStatus where
  eventCursor := s.currentCursor
  eventStreamIdentity := s.streamIdentity

def readStatus (s : Supervisor stream) : ContinuousStatus :=
  s.durable.getD s.status

/-- The question `_cancel_active_for_event` asks the native core. -/
def cancellationState (job : Job) (observedGeneration : Int) (pending : PendingFacts) :
    ContinuousResourceState where
  currentGeneration := observedGeneration
  workGeneration := job.generation
  sourceIdentityMatches := true
  verificationRequired := true
  inFlight := true
  hasOutcome := false
  resourceOutcomeObserved := false
  outcome := .unknown
  evidenceStatus := .notRun
  pendingExists := pending.present
  pendingCount := pending.count
  pendingCapacity := continuousPendingCapacity
  queueRemaining := 0
  resourceGateClosed := false

def cancelActiveForEvent (s : Supervisor stream) (event : StreamEvent) (pending : PendingFacts) :
    Supervisor stream :=
  match s.activeJob with
  | none => s
  | some job =>
      if event.currentGeneration ≤ job.generation then s
      else if (verificationResourceTransition
          (cancellationState job event.currentGeneration pending)).cancelOwnedWork = false then s
      else
        { s with
          currentGeneration := max s.currentGeneration event.currentGeneration
          currentCursor := max s.currentCursor event.cursor }

/-- The events of a page have the cursors from the expected one on. -/
def contiguousPage (streamIdentity : Option String) : Nat → List stream.Event → Bool
  | _, [] => true
  | expected, event :: page =>
      decide (event.1.cursor = expected) &&
        decide (some event.1.streamIdentity = streamIdentity) &&
        contiguousPage streamIdentity (expected + 1) page

/-- The ingress reads on where the page ends. -/
def startIngress (currentCursor : Nat) (page : List stream.Event) : Ingress stream where
  cursor := page.foldl (fun cursor event => max cursor event.1.cursor) currentCursor
  events := []
  observing := none
  running := true

/-- `_process_event` returns whether it acknowledges the event. -/
def processed (s : Supervisor stream) (event : stream.Event) : Bool → Supervisor stream
  | true => { s with acknowledged := event :: s.acknowledged }
  | false => s

/-- `dispatch_and_ack` after `_process_event`. -/
def acknowledge (s : Supervisor stream) (event : stream.Event) (page : List stream.Event)
    (ingress : Ingress stream) (acknowledged : Bool) : Supervisor stream :=
  let s := s.processed event acknowledged
  if acknowledged = false ∨ event.1.cursor ≠ s.currentCursor + 1 ∨
      some event.1.streamIdentity ≠ s.streamIdentity then
    { s with dispatcher := .failed ingress }
  else
    { s with currentCursor := event.1.cursor, dispatcher := .dispatching page ingress }

def step (s : Supervisor stream) : SupervisorEvent stream → Option (Supervisor stream)
  | .load liveStream =>
      match s.dispatcher with
      | .idle =>
          let prior := s.readStatus
          some { s with
            currentCursor := max s.currentCursor prior.eventCursor
            streamIdentity := s.streamIdentity <|> prior.eventStreamIdentity <|> liveStream
            dispatcher := .loaded }
      | _ => none
  | .begin page =>
      match s.dispatcher with
      | .loaded =>
          if contiguousPage s.streamIdentity (s.currentCursor + 1) page = true then
            some { s with
              currentGeneration :=
                page.foldl (fun generation event => max generation event.1.currentGeneration)
                  s.currentGeneration
              dispatcher := .dispatching page (startIngress s.currentCursor page) }
          else
            some { s with
              currentGeneration :=
                page.foldl (fun generation event => max generation event.1.currentGeneration)
                  s.currentGeneration
              dispatcher := .idle }
      | _ => none
  | .take =>
      match s.dispatcher with
      | .dispatching page ingress =>
          match ingress.events with
          | event :: events =>
              some { s with
                dispatcher := .dispatching (page ++ [event]) { ingress with events := events } }
          | [] => none
      | _ => none
  | .dispatch =>
      match s.dispatcher with
      | .dispatching (event :: page) ingress =>
          some { s with
            currentGeneration := max s.currentGeneration event.1.currentGeneration
            dispatcher := .processing event page ingress }
      | _ => none
  | .enterJob =>
      match s.dispatcher, s.activeJob with
      | .processing event _ _, none =>
          some { s with activeJob := some ⟨event.1.currentGeneration, event.1.cursor⟩ }
      | _, _ => none
  | .exitJob => s.activeJob.map fun _ => { s with activeJob := none }
  | .finishEvent acknowledged =>
      match s.dispatcher, s.activeJob with
      | .processing event page ingress, none =>
          some (s.acknowledge event page ingress acknowledged)
      | _, _ => none
  | .finish => some { s with activeJob := none, dispatcher := .idle }
  | .draft => some { s with drafts := s.status :: s.drafts }
  | .requestStop => some { s with drafts := s.readStatus :: s.drafts }
  | .write status =>
      if status ∈ s.drafts then
        some { s with
          drafts := s.drafts.erase status
          durable := some status
          written := status :: s.written }
      else none
  | .observe event pending =>
      match s.dispatcher.ingress with
      | some ingress =>
          if ingress.running = true ∧ ingress.observing = none ∧
              ingress.cursor < event.1.cursor then
            some { s.cancelActiveForEvent event.1 pending with
              dispatcher := s.dispatcher.withIngress { ingress with observing := some event } }
          else none
      | none => none
  | .enqueue =>
      match s.dispatcher.ingress with
      | some ingress =>
          match ingress.observing with
          | some event =>
              if ingress.events.length < continuousPendingCapacity then
                some { s with
                  dispatcher := s.dispatcher.withIngress
                    { ingress with
                      cursor := event.1.cursor
                      events := ingress.events ++ [event]
                      observing := none } }
              else
                some { s with
                  dispatcher := s.dispatcher.withIngress
                    { ingress with observing := none, running := false } }
          | none => none
      | none => none
  | .stopIngress =>
      s.dispatcher.ingress.map fun ingress =>
        { s with dispatcher := s.dispatcher.withIngress { ingress with running := false } }
  | .lateObserve event pending =>
      -- `stop` joins the thread for a second only, so an ingress may outlive its run
      some (s.cancelActiveForEvent event.1 pending)
  | .crash torn =>
      some { s with
        currentCursor := 0
        currentGeneration := 0
        streamIdentity := none
        activeJob := none
        dispatcher := .idle
        drafts := []
        durable := if torn then none else s.durable }

/-- A supervisor that has never run. -/
def fresh (stream : EventStream) : Supervisor stream where
  currentCursor := 0
  currentGeneration := 0
  streamIdentity := none
  activeJob := none
  dispatcher := .idle
  drafts := []
  durable := none
  written := []
  acknowledged := []

/-! ## Acknowledged work -/

/-- Every event up to a cursor has been acknowledged. -/
def HandledUpTo (acknowledged : List stream.Event) (cursor : Nat) : Prop :=
  ∀ event : stream.Event, 1 ≤ event.1.cursor → event.1.cursor ≤ cursor → event ∈ acknowledged

theorem HandledUpTo.mono {before after : List stream.Event} {cursor : Nat}
    (h : HandledUpTo before cursor) (more : before ⊆ after) : HandledUpTo after cursor :=
  fun event low high => more (h event low high)

theorem HandledUpTo.max {acknowledged : List stream.Event} {first second : Nat}
    (hfirst : HandledUpTo acknowledged first) (hsecond : HandledUpTo acknowledged second) :
    HandledUpTo acknowledged (max first second) := by
  intro event low high
  rcases le_max_iff.mp high with h | h
  · exact hfirst event low h
  · exact hsecond event low h

theorem HandledUpTo.next {acknowledged : List stream.Event} {event : stream.Event} {cursor : Nat}
    (h : HandledUpTo acknowledged cursor) (next : event.1.cursor = cursor + 1) :
    HandledUpTo (event :: acknowledged) event.1.cursor := by
  intro other low high
  by_cases same : other.1.cursor = event.1.cursor
  · rw [EventStream.Event.ext same]
    exact List.mem_cons_self
  · exact List.mem_cons_of_mem _ (h other low (by omega))

/-- Wherever a cursor is kept, the events up to it have been acknowledged. -/
structure Acknowledged (s : Supervisor stream) : Prop where
  current : HandledUpTo s.acknowledged s.currentCursor
  drafts : ∀ status ∈ s.drafts, HandledUpTo s.acknowledged status.eventCursor
  durable : ∀ status ∈ s.durable, HandledUpTo s.acknowledged status.eventCursor
  written : ∀ status ∈ s.written, HandledUpTo s.acknowledged status.eventCursor

theorem fresh_acknowledged (stream : EventStream) : Acknowledged (fresh stream) where
  current event low high := absurd (low.trans high) (Nat.not_succ_le_zero 0)
  drafts _ h := by cases h
  durable _ h := by cases h
  written _ h := by cases h

/-- An event read ahead does not raise the cursor over work in flight. -/
def Timely (s : Supervisor stream) : SupervisorEvent stream → Prop
  | .observe event _ | .lateObserve event _ =>
      ∀ job ∈ s.activeJob, job.generation < event.1.currentGeneration →
        event.1.cursor ≤ s.currentCursor
  | _ => True

instance (s : Supervisor stream) (event : SupervisorEvent stream) : Decidable (s.Timely event) := by
  cases event <;> unfold Timely <;> infer_instance

section Steps

variable {s after : Supervisor stream}

theorem Acknowledged.readStatus (inv : Acknowledged s) :
    HandledUpTo s.acknowledged s.readStatus.eventCursor := by
  rw [Supervisor.readStatus]
  cases hdurable : s.durable with
  | none => exact inv.current
  | some status => exact inv.durable status hdurable

theorem Acknowledged.cancelActiveForEvent {event : stream.Event} (inv : Acknowledged s)
    (pending : PendingFacts)
    (timely : ∀ job ∈ s.activeJob, job.generation < event.1.currentGeneration →
      event.1.cursor ≤ s.currentCursor) :
    Acknowledged (s.cancelActiveForEvent event.1 pending) := by
  rw [Supervisor.cancelActiveForEvent]
  split
  · exact inv
  · rename_i job hjob
    split_ifs with older kept
    · exact inv
    · exact inv
    · have low := timely job hjob (not_le.mp older)
      refine ⟨?_, inv.drafts, inv.durable, inv.written⟩
      show HandledUpTo s.acknowledged (max s.currentCursor event.1.cursor)
      rw [max_eq_left low]
      exact inv.current

theorem Acknowledged.processed {event : stream.Event} {acknowledged : Bool}
    (inv : Acknowledged s) : Acknowledged (s.processed event acknowledged) := by
  cases acknowledged with
  | false => exact inv
  | true =>
      have more : s.acknowledged ⊆ event :: s.acknowledged := List.subset_cons_self _ _
      exact ⟨inv.current.mono more, fun status h => (inv.drafts status h).mono more,
        fun status h => (inv.durable status h).mono more,
        fun status h => (inv.written status h).mono more⟩

theorem Acknowledged.acknowledge {event : stream.Event} {page : List stream.Event}
    {ingress : Ingress stream} {acknowledged : Bool} (inv : Acknowledged s) :
    Acknowledged (s.acknowledge event page ingress acknowledged) := by
  have done : Acknowledged (s.processed event acknowledged) := inv.processed
  rw [Supervisor.acknowledge]
  split_ifs with refused
  · exact ⟨done.current, done.drafts, done.durable, done.written⟩
  · cases acknowledged with
    | false => exact absurd (Or.inl rfl) refused
    | true =>
        have next : event.1.cursor = s.currentCursor + 1 :=
          not_not.mp fun h => refused (Or.inr (Or.inl h))
        exact ⟨inv.current.next next, done.drafts, done.durable, done.written⟩

theorem Acknowledged.step {event : SupervisorEvent stream} (inv : Acknowledged s)
    (timely : s.Timely event) (h : s.step event = some after) : Acknowledged after := by
  cases event with
  | load liveStream =>
      simp only [Supervisor.step] at h
      split at h
      · obtain rfl := Option.some.inj h
        exact ⟨inv.current.max inv.readStatus, inv.drafts, inv.durable, inv.written⟩
      · cases h
  | begin page =>
      simp only [Supervisor.step] at h
      split at h
      · split_ifs at h <;> obtain rfl := Option.some.inj h
        · exact ⟨inv.current, inv.drafts, inv.durable, inv.written⟩
        · exact ⟨inv.current, inv.drafts, inv.durable, inv.written⟩
      · cases h
  | take =>
      simp only [Supervisor.step] at h
      split at h
      · split at h
        · obtain rfl := Option.some.inj h
          exact ⟨inv.current, inv.drafts, inv.durable, inv.written⟩
        · cases h
      · cases h
  | dispatch =>
      simp only [Supervisor.step] at h
      split at h
      · obtain rfl := Option.some.inj h
        exact ⟨inv.current, inv.drafts, inv.durable, inv.written⟩
      · cases h
  | enterJob =>
      simp only [Supervisor.step] at h
      split at h
      · obtain rfl := Option.some.inj h
        exact ⟨inv.current, inv.drafts, inv.durable, inv.written⟩
      · cases h
  | exitJob =>
      obtain ⟨_, _, rfl⟩ := Option.map_eq_some_iff.mp h
      exact ⟨inv.current, inv.drafts, inv.durable, inv.written⟩
  | finishEvent acknowledged =>
      simp only [Supervisor.step] at h
      split at h
      · obtain rfl := Option.some.inj h
        exact inv.acknowledge
      · cases h
  | finish =>
      obtain rfl := Option.some.inj h
      exact ⟨inv.current, inv.drafts, inv.durable, inv.written⟩
  | draft =>
      obtain rfl := Option.some.inj h
      exact ⟨inv.current, List.forall_mem_cons.mpr ⟨inv.current, inv.drafts⟩, inv.durable,
        inv.written⟩
  | requestStop =>
      obtain rfl := Option.some.inj h
      exact ⟨inv.current, List.forall_mem_cons.mpr ⟨inv.readStatus, inv.drafts⟩, inv.durable,
        inv.written⟩
  | write status =>
      simp only [Supervisor.step] at h
      split_ifs at h with hdraft
      obtain rfl := Option.some.inj h
      have handled := inv.drafts status hdraft
      refine ⟨inv.current, fun other h => inv.drafts other (List.mem_of_mem_erase h), ?_,
        List.forall_mem_cons.mpr ⟨handled, inv.written⟩⟩
      rintro other hother
      obtain rfl := Option.some.inj hother
      exact handled
  | observe event pending =>
      simp only [Supervisor.step] at h
      split at h
      · split_ifs at h
        obtain rfl := Option.some.inj h
        have inv := inv.cancelActiveForEvent pending timely
        exact ⟨inv.current, inv.drafts, inv.durable, inv.written⟩
      · cases h
  | enqueue =>
      simp only [Supervisor.step] at h
      split at h
      · split at h
        · split_ifs at h <;> obtain rfl := Option.some.inj h
          · exact ⟨inv.current, inv.drafts, inv.durable, inv.written⟩
          · exact ⟨inv.current, inv.drafts, inv.durable, inv.written⟩
        · cases h
      · cases h
  | stopIngress =>
      obtain ⟨_, _, rfl⟩ := Option.map_eq_some_iff.mp h
      exact ⟨inv.current, inv.drafts, inv.durable, inv.written⟩
  | lateObserve event pending =>
      obtain rfl := Option.some.inj h
      exact inv.cancelActiveForEvent _ timely
  | crash torn =>
      obtain rfl := Option.some.inj h
      refine ⟨fun event low high => absurd (low.trans high) (Nat.not_succ_le_zero 0),
        List.forall_mem_nil _, ?_, inv.written⟩
      intro status h
      cases torn with
      | true => cases h
      | false => exact inv.durable status h

end Steps

/-- In every run that reads nothing ahead over work in flight, a written status and the
cursor a supervisor goes on from are acknowledged work only. -/
theorem written_acknowledged {s : Supervisor stream}
    (run : Reaches Supervisor.step Supervisor.Timely (fresh stream) s) :
    (∀ status ∈ s.written, HandledUpTo s.acknowledged status.eventCursor) ∧
      HandledUpTo s.acknowledged s.currentCursor := by
  have inv : Acknowledged s :=
    run.invariant (fresh_acknowledged stream) fun _ _ _ inv timely step => inv.step timely step
  exact ⟨inv.written, inv.current⟩

/-! ### A newer event read ahead -/

/-- Every event is an edit of its own generation. -/
def sampleStream : EventStream where
  event cursor := ⟨cursor, cursor, "stream-test"⟩
  contiguous _ := rfl

/-- The first event is in its job when the ingress reads the second one. -/
def jobEvents : List (SupervisorEvent sampleStream) :=
  [.load (some "stream-test"), .begin [sampleStream.at 1], .dispatch, .enterJob]

def statusEvents (cursor : Nat) : List (SupervisorEvent sampleStream) :=
  [.draft, .write ⟨cursor, some "stream-test"⟩]

/-- The status at the end of a job, and that of the end of its event. -/
theorem written_acknowledged_sample :
    ∃ s, Reaches Supervisor.step Supervisor.Timely (fresh sampleStream) s ∧
      s.written = [⟨1, some "stream-test"⟩, ⟨0, some "stream-test"⟩] ∧
      (∀ status ∈ s.written, HandledUpTo s.acknowledged status.eventCursor) ∧
      HandledUpTo s.acknowledged s.currentCursor := by
  have events : (runEvents (guarded Supervisor.step Supervisor.Timely) (fresh sampleStream)
      (jobEvents ++ [.exitJob] ++ statusEvents 0 ++
        [.observe (sampleStream.at 2) ⟨false, 0⟩, .enqueue, .finishEvent true] ++
        statusEvents 1)).map Supervisor.written =
      some [⟨1, some "stream-test"⟩, ⟨0, some "stream-test"⟩] := by
    decide +kernel
  obtain ⟨s, hs, hwritten⟩ := Option.map_eq_some_iff.mp events
  have run := reaches_of_runEvents hs
  exact ⟨s, run, hwritten, written_acknowledged run⟩

/-- The second event cancels the job of the first, and the status says both are done: a
supervisor restarted from it goes on with the third. -/
theorem written_unacknowledged :
    ∃ s, Reaches Supervisor.step (fun _ _ => True) (fresh sampleStream) s ∧
      s.written = [⟨2, some "stream-test"⟩] ∧
      s.acknowledged = [] ∧
      s.dispatcher.event = some (sampleStream.at 3) ∧
      ¬ ∀ status ∈ s.written, HandledUpTo s.acknowledged status.eventCursor := by
  have events : (runEvents (guarded Supervisor.step fun _ _ => True) (fresh sampleStream)
      (jobEvents ++ [.observe (sampleStream.at 2) ⟨false, 0⟩, .exitJob] ++ statusEvents 2 ++
        [.crash false, .load none, .begin [sampleStream.at 3], .dispatch])).map
          (fun s => (s.written, s.acknowledged, s.dispatcher.event)) =
      some ([⟨2, some "stream-test"⟩], [], some (sampleStream.at 3)) := by
    decide +kernel
  obtain ⟨s, hs, hfinal⟩ := Option.map_eq_some_iff.mp events
  obtain ⟨hwritten, hacknowledged, hevent⟩ : s.written = [⟨2, some "stream-test"⟩] ∧
      s.acknowledged = [] ∧ s.dispatcher.event = some (sampleStream.at 3) := by
    simpa using hfinal
  refine ⟨s, reaches_of_runEvents hs, hwritten, hacknowledged, hevent, fun handled => ?_⟩
  rw [hwritten, hacknowledged] at handled
  have first := handled _ List.mem_cons_self (sampleStream.at 1) le_rfl one_le_two
  cases first

end Supervisor

end MncsForge.Continuous
