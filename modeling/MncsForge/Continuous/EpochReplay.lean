import Mathlib
import MncsForge.Errors
import MncsForge.Foundation.Json

/-!
# Replay of a new stream epoch

`ContinuousSupervisor._poll` asks the Language Service for events and adopts a
first stream identity.  `_replay_new_epoch_from_zero` reads a changed stream
again from cursor zero.  A call returns its outcome together with the stream
identity that the supervisor is left with; `ε` are the exceptions of a client.
-/

namespace MncsForge.Continuous

open MncsForge.Foundation

/-- A client answers a request, given by its method and parameters, or raises. -/
abbrev ServiceClient (ε : Type) := String → Dict String Json → Except ε Json

/-- `_mapping`: anything but an object is read as the empty one. -/
def mapping (value : Json) : Dict String Json :=
  value.asObj?.getD []

def isTruthy (poll : Dict String Json) (key : String) : Bool :=
  ((Dict.get? poll key).map Json.truthy).getD false

/-- `poll.get(key) == number`. -/
def hasNumber (poll : Dict String Json) (key : String) (number : Int) : Bool :=
  ((Dict.get? poll key).map fun value => value.sameValue (.int number)).getD false

/-! ## Polling -/

variable {ε : Type}

def pollParams (streamIdentity : Option String) (afterCursor maxEvents : Int) :
    Dict String Json :=
  let params := [("after_cursor", Json.int afterCursor), ("max_events", Json.int maxEvents)]
  match streamIdentity with
  | some identity =>
      if identity = "" then params else params ++ [("stream_identity", Json.str identity)]
  | none => params

/-- The stream a poll leaves behind: only a first one is adopted, and none after a reset. -/
def adoptedStream (streamIdentity : Option String) (poll : Dict String Json) : Option String :=
  match streamIdentity, Dict.get? poll "stream_identity" with
  | none, some (.str observed) =>
      if observed ≠ "" ∧ isTruthy poll "reset_required" = false then some observed else none
  | current, _ => current

def poll (client : ServiceClient ε) (streamIdentity : Option String)
    (afterCursor maxEvents : Int) : Except ε (Dict String Json) × Option String :=
  match client "poll_events" (pollParams streamIdentity afterCursor maxEvents) with
  | .error raised => (.error raised, streamIdentity)
  | .ok reply => (.ok (mapping reply), adoptedStream streamIdentity (mapping reply))

/-! ## Replay -/

/-- The stream identity a poll names, unless it is the one already followed. -/
def newEpoch (streamIdentity : Option String) (poll : Dict String Json) : Option String :=
  match Dict.get? poll "stream_identity" with
  | some (.str observed) =>
      if observed = "" ∨ streamIdentity = some observed then none else some observed
  | _ => none

/-- The epoch that a replay from zero may adopt. -/
def replayableEpoch (streamIdentity : Option String) (poll : Dict String Json)
    (durableCursor afterCursor : Int) : Option String :=
  if durableCursor = 0 ∧ afterCursor = 0 ∧ hasNumber poll "oldest_cursor" 1 = true then
    newEpoch streamIdentity poll
  else none

/-- The events of a reply whose header says that it starts at the first cursor of the
stream and holds as many events as it may. -/
def completeEvents (replay : Dict String Json) (observedStream : String) (maxEvents : Int) :
    Option (List Json) :=
  match Dict.get? replay "current_cursor", Dict.get? replay "events" with
  | some (.int highWater), some (.arr events) =>
      if Dict.get? replay "reset_required" = some (.bool true) ∨
          Dict.get? replay "stream_identity" ≠ some (.str observedStream) ∨
          hasNumber replay "after_cursor" 0 = false ∨
          highWater < 0 ∨
          hasNumber replay "oldest_cursor" 1 = false ∨
          (events.length : Int) ≠ min highWater maxEvents then none
      else some events
  | _, _ => none

/-- `event` stands at `cursor` of the stream. -/
def isEventAt (observedStream : String) (cursor : Nat) (event : Json) : Bool :=
  match event with
  | .obj fields =>
      hasNumber fields "cursor" cursor &&
        decide (Dict.get? fields "stream_identity" = some (.str observedStream))
  | _ => false

/-- The loop over `enumerate(events, 1)`. -/
def contiguousFrom (observedStream : String) : Nat → List Json → Bool
  | _, [] => true
  | expected, event :: events =>
      isEventAt observedStream expected event && contiguousFrom observedStream (expected + 1) events

def isCompleteReplay (replay : Dict String Json) (observedStream : String) (maxEvents : Int) :
    Bool :=
  match completeEvents replay observedStream maxEvents with
  | some events => contiguousFrom observedStream 1 events
  | none => false

def replayNewEpochFromZero (client : ServiceClient ε) (streamIdentity : Option String)
    (first : Dict String Json) (durableCursor afterCursor maxEvents : Int) :
    Except ε (Option (Dict String Json)) × Option String :=
  match replayableEpoch streamIdentity first durableCursor afterCursor with
  | none => (.ok none, streamIdentity)
  | some observedStream =>
      -- the observed stream is followed from here on, before the client has answered
      match poll client (some observedStream) 0 maxEvents with
      | (.error raised, following) => (.error raised, following)
      | (.ok replay, following) =>
          if isCompleteReplay replay observedStream maxEvents = true then
            (.ok (some replay), following)
          else (.ok none, streamIdentity)

/-! ## What a replay proves -/

/-- The reply holds exactly the cursors from one to the smaller of its high water and the
limit, in order and all of one stream. -/
structure ReplaysStream (replay : Dict String Json) (stream : String) (maxEvents : Int) :
    Prop where
  starts : hasNumber replay "after_cursor" 0 = true
  events : ∃ highWater events, Dict.get? replay "current_cursor" = some (.int highWater) ∧
    Dict.get? replay "events" = some (.arr events) ∧
    (events.length : Int) = min highWater maxEvents ∧
    ∀ (i : Nat) (h : i < events.length), isEventAt stream (i + 1) events[i] = true

theorem contiguousFrom_iff {stream : String} {events : List Json} {expected : Nat} :
    contiguousFrom stream expected events = true ↔
      ∀ (i : Nat) (h : i < events.length), isEventAt stream (expected + i) events[i] = true := by
  induction events generalizing expected with
  | nil => simp [contiguousFrom]
  | cons event events ih =>
      rw [contiguousFrom, Bool.and_eq_true, ih]
      constructor
      · rintro ⟨first, rest⟩ i hi
        cases i with
        | zero => simpa using first
        | succ i =>
            have hlength : i < events.length := by simpa using hi
            have := rest i hlength
            rw [show expected + 1 + i = expected + (i + 1) by omega] at this
            simpa using this
      · intro every
        refine ⟨every 0 (by simp), fun i hi => ?_⟩
        have := every (i + 1) (by simpa using hi)
        rw [show expected + 1 + i = expected + (i + 1) by omega]
        simpa using this

theorem completeEvents_eq_some {replay : Dict String Json} {stream : String} {maxEvents : Int}
    {events : List Json} (h : completeEvents replay stream maxEvents = some events) :
    hasNumber replay "after_cursor" 0 = true ∧
      ∃ highWater, Dict.get? replay "current_cursor" = some (.int highWater) ∧
        Dict.get? replay "events" = some (.arr events) ∧
        (events.length : Int) = min highWater maxEvents := by
  unfold completeEvents at h
  split at h
  · next highWater found hcursor hevents =>
      split at h
      · cases h
      · next sound =>
          push Not at sound
          cases h
          exact ⟨by simpa using sound.2.2.1, highWater, hcursor, hevents, sound.2.2.2.2.2⟩
  · cases h

theorem replaysStream_of_complete {replay : Dict String Json} {stream : String} {maxEvents : Int}
    (h : isCompleteReplay replay stream maxEvents = true) :
    ReplaysStream replay stream maxEvents := by
  unfold isCompleteReplay at h
  split at h
  · next events complete =>
      obtain ⟨starts, highWater, hcursor, hevents, hlength⟩ := completeEvents_eq_some complete
      have cursors := contiguousFrom_iff.mp h
      refine ⟨starts, highWater, events, hcursor, hevents, hlength, fun i hi => ?_⟩
      simpa [Nat.add_comm] using cursors i hi
  · cases h

theorem newEpoch_ne {streamIdentity : Option String} {first : Dict String Json} {stream : String}
    (h : newEpoch streamIdentity first = some stream) : streamIdentity ≠ some stream := by
  unfold newEpoch at h
  split at h
  · split at h
    · cases h
    · next other =>
        cases h
        exact fun same => other (Or.inr same)
  · cases h

theorem replayableEpoch_eq_some {streamIdentity : Option String} {first : Dict String Json}
    {durableCursor afterCursor : Int} {stream : String}
    (h : replayableEpoch streamIdentity first durableCursor afterCursor = some stream) :
    durableCursor = 0 ∧ afterCursor = 0 ∧ newEpoch streamIdentity first = some stream := by
  unfold replayableEpoch at h
  split at h
  · next zero => exact ⟨zero.1, zero.2.1, h⟩
  · cases h

/-- A stream that is already followed is kept by every poll. -/
@[simp] theorem adoptedStream_some (stream : String) (reply : Dict String Json) :
    adoptedStream (some stream) reply = some stream := rfl

/-! ## The result -/

/-- A replay is returned for a stream read whole from zero, with that stream adopted, and
every other way out keeps the stream identity. -/
def ReplayKeepsBaseline (streamIdentity : Option String) (first : Dict String Json)
    (durableCursor afterCursor maxEvents : Int) :
    Except ε (Option (Dict String Json)) × Option String → Prop
  | (.ok (some replay), following) =>
      ∃ stream, newEpoch streamIdentity first = some stream ∧ following = some stream ∧
        durableCursor = 0 ∧ afterCursor = 0 ∧ ReplaysStream replay stream maxEvents
  | (.ok none, following) => following = streamIdentity
  | (.error _, following) => following = streamIdentity

/-- The request that a replay sends raises. -/
def ReplayRequestRaises (client : ServiceClient ε) (stream : String) (maxEvents : Int) : Prop :=
  ∃ raised, client "poll_events" (pollParams (some stream) 0 maxEvents) = .error raised

/-- The stream identity is switched before the request is sent, and only a reply that can
be read switches it back. -/
theorem replay_keepsBaseline_iff (client : ServiceClient ε) (streamIdentity : Option String)
    (first : Dict String Json) (durableCursor afterCursor maxEvents : Int) :
    ReplayKeepsBaseline streamIdentity first durableCursor afterCursor maxEvents
        (replayNewEpochFromZero client streamIdentity first durableCursor afterCursor
          maxEvents) ↔
      ∀ stream, replayableEpoch streamIdentity first durableCursor afterCursor = some stream →
        ¬ReplayRequestRaises client stream maxEvents := by
  unfold replayNewEpochFromZero
  cases epoch : replayableEpoch streamIdentity first durableCursor afterCursor with
  | none => simp [ReplayKeepsBaseline]
  | some stream =>
      obtain ⟨durable, after, new⟩ := replayableEpoch_eq_some epoch
      simp only [Option.some.injEq, forall_eq']
      cases answer : client "poll_events" (pollParams (some stream) 0 maxEvents) with
      | error raised =>
          have raises : ReplayRequestRaises client stream maxEvents := ⟨raised, answer⟩
          simpa [poll, answer, ReplayKeepsBaseline, raises] using (newEpoch_ne new).symm
      | ok reply =>
          have answers : ¬ReplayRequestRaises client stream maxEvents := by
            simp [ReplayRequestRaises, answer]
          refine iff_of_true ?_ answers
          by_cases complete : isCompleteReplay (mapping reply) stream maxEvents = true
          · simp only [poll, answer, complete, if_true, adoptedStream_some]
            exact ⟨stream, new, rfl, durable, after, replaysStream_of_complete complete⟩
          · simp [poll, answer, complete, ReplayKeepsBaseline]

/-- The reply to the first poll after the service restarted. -/
def restartedPoll : Dict String Json :=
  [("current_cursor", .int 3), ("oldest_cursor", .int 1), ("reset_required", .bool true),
    ("stream_identity", .str "stream-after-restart")]

/-- A service that is gone when the replay asks it. -/
def goneClient : ServiceClient ForgeError :=
  fun _ _ => .error ⟨"LANGUAGE_SERVICE_UNAVAILABLE", "connection refused"⟩

/-- The stream that nothing was read of stays adopted. -/
theorem replay_adopts_unread_stream :
    ¬ReplayKeepsBaseline (some "stream-before-restart") restartedPoll 0 0 8
      (replayNewEpochFromZero goneClient (some "stream-before-restart") restartedPoll 0 0 8) := by
  have outcome : replayNewEpochFromZero goneClient (some "stream-before-restart") restartedPoll
      0 0 8 =
        (.error ⟨"LANGUAGE_SERVICE_UNAVAILABLE", "connection refused"⟩,
          some "stream-after-restart") := by
    decide +kernel
  rw [outcome]
  simp [ReplayKeepsBaseline]

end MncsForge.Continuous
