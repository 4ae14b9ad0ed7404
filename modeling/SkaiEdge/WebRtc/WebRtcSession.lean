import SkaiEdge.Lib.Stream
import SkaiEdge.Core.BoundedQueue
import SkaiEdge.Video.EncodedAccessUnit

/-!
# `WebRtcSession` (`src/webrtc/webrtc_manager.cpp`)

One WHEP peer: its flags behind the session's `mutex_`, its media queue, and the worker that
runs `media_loop`. The operations are cut where they reach a shared object: `close_with_reason`
sets the flags and shuts the queue down in two steps, `activate_media` fills the queue and
starts the worker in two, and every read of the queue, of `media_running_` and of the track is
a step of the worker. Of the failure texts only those that `stale_reason` reads are kept.
-/

namespace SkaiEdge.WebRtc

open SkaiEdge.Lib SkaiEdge.Core SkaiEdge.Video

/-- The peer's track: `isOpen()` is true in the middle state alone. -/
inductive Track where
  | connecting
  | opened
  | closed
  deriving DecidableEq, Repr

/-- The timestamp locals of `media_loop`. -/
structure MediaClock where
  timestampInitialized : Bool := false
  lastPtsNs : UInt64 := 0
  rtpTimestamp : UInt32 := 0
  lastTimestampStep : UInt32 := 3000
  deriving DecidableEq, Repr

namespace MediaClock

/-- `delta_ns` in 90 kHz ticks, at least one. -/
def converted (deltaNs : UInt64) : UInt32 :=
  (max 1 (deltaNs / 1000000000 * 90000 + deltaNs % 1000000000 * 90000 / 1000000000)).toUInt32

def advance (clock : MediaClock) (startTimestamp : UInt32) (unit : EncodedAccessUnit) : MediaClock :=
  if unit.hasPts then
    { clock with
      timestampInitialized := true
      rtpTimestamp := h264RtpTimestamp unit.ptsNs
      lastPtsNs := unit.ptsNs }
  else if !clock.timestampInitialized then
    { clock with
      timestampInitialized := true, rtpTimestamp := startTimestamp, lastPtsNs := unit.ptsNs }
  else
    let step := if unit.ptsNs > clock.lastPtsNs then converted (unit.ptsNs - clock.lastPtsNs)
      else clock.lastTimestampStep
    { clock with
      lastTimestampStep := if step ≤ 90000 then step else clock.lastTimestampStep
      rtpTimestamp := clock.rtpTimestamp + step
      lastPtsNs := unit.ptsNs }

end MediaClock

namespace WebRtcSession

/-- Where the media worker stands; a unit it holds comes with it. In `starting` the thread is
being created and `activate_media` holds `mutex_`. -/
inductive Worker where
  | absent
  | starting
  | top
  | popping
  | popped (unit : Stamped EncodedAccessUnit)
  | holding (unit : Stamped EncodedAccessUnit)
  | checking (unit : Stamped EncodedAccessUnit)
  | sending (unit : Stamped EncodedAccessUnit)
  | finished
  deriving DecidableEq, Repr

/-- The unit that was popped and whose `stats().dropped` read is still to come. -/
def Worker.unread : Worker → Option (Stamped EncodedAccessUnit)
  | .popped unit => some unit
  | _ => none

inductive Action where
  | peerConnected
  | peerFailed
  | peerClosed
  | iceFailed
  | trackError
  | trackOpens
  | trackCloses
  | shutdownQueue
  | loop
  | pop
  | gate
  | poll
  | check
  | send (accepted : Bool)
  deriving DecidableEq, Repr

end WebRtcSession

/-- `sent` and the stamps are ghost: the units handed to `track->send`, with their positions
among the published ones. `queueClosing` marks a `close_with_reason` that has yet to shut the
queue down. -/
structure WebRtcSession where
  id : String
  mediaQueue : BoundedQueue (Stamped EncodedAccessUnit)
  startTimestamp : UInt32 := 0
  mediaRunning : Bool := false
  connected : Bool := false
  answerReady : Bool := false
  failed : Bool := false
  closed : Bool := false
  cleanupStarted : Bool := false
  connectionWaitStarted : Nat := 0
  failureStage : String := ""
  closeReason : String := ""
  queueClosing : Bool := false
  track : Track := .connecting
  worker : WebRtcSession.Worker := .absent
  waitingForKeyframe : Bool := true
  observedQueueDrops : Nat := 0
  clock : MediaClock := {}
  sent : List (Stamped EncodedAccessUnit) := []
  deriving DecidableEq

namespace WebRtcSession

def recordFailure (x : WebRtcSession) (stage : String) (preserveSpecific : Bool) : WebRtcSession :=
  if preserveSpecific && x.failureStage != "" then x
  else { x with failureStage := stage, failed := true }

/-- The critical section of `close_with_reason`. -/
def closeWithReason (x : WebRtcSession) (reason : String) : WebRtcSession :=
  if x.cleanupStarted then x
  else
    { x with
      cleanupStarted := true
      closed := true
      closeReason := if x.closeReason = "" then reason else x.closeReason
      mediaRunning := false
      queueClosing := true }

/-- `accept_offer` has its answer: the last check under `mutex_` before it returns. -/
def answer (x : WebRtcSession) (now : Nat) : Option WebRtcSession :=
  if x.closed || x.failed then none
  else some { x with answerReady := true, connectionWaitStarted := now }

/-- The queue `activate_media` leaves for the worker. -/
def primed (queue : BoundedQueue (Stamped EncodedAccessUnit))
    (initialKeyframe : Option (Stamped EncodedAccessUnit)) :
    BoundedQueue (Stamped EncodedAccessUnit) :=
  match initialKeyframe with
  | none => queue.reset
  | some unit => (queue.reset.push unit).1

/-- `activate_media` up to the creation of the worker. -/
def activateMedia (x : WebRtcSession) (initialKeyframe : Option (Stamped EncodedAccessUnit)) :
    Option WebRtcSession :=
  if x.closed || x.cleanupStarted then none
  else
    some { x with
      mediaQueue := primed x.mediaQueue initialKeyframe
      mediaRunning := true
      worker := .starting }

/-- The worker starts, with the locals of `media_loop` set up, or its creation throws. -/
def spawn (x : WebRtcSession) (started : Bool) : WebRtcSession :=
  if started then
    { x with worker := .top, waitingForKeyframe := true, observedQueueDrops := 0, clock := {} }
  else
    { x with worker := .finished, mediaRunning := false, mediaQueue := x.mediaQueue.shutdown }

/-- The push of an `enqueue` that found `media_running_` set. -/
def enqueue (x : WebRtcSession) (unit : Stamped EncodedAccessUnit) : WebRtcSession :=
  { x with mediaQueue := (x.mediaQueue.push unit).1 }

def pop (x : WebRtcSession) : WebRtcSession :=
  match x.mediaQueue.takeFront with
  | (some unit, queue) => { x with mediaQueue := queue, worker := .popped unit }
  | (none, queue) => { x with mediaQueue := queue, worker := .top }

/-- `waiting_for_keyframe` once the unit's flag and the drop count are taken in. -/
def gateCloses (x : WebRtcSession) (unit : EncodedAccessUnit) (drops : Nat) : Bool :=
  x.waitingForKeyframe || unit.discontinuity || drops != x.observedQueueDrops

/-- A discontinuity restarts the timestamps as well. -/
def gatedClock (x : WebRtcSession) (unit : EncodedAccessUnit) : MediaClock :=
  if unit.discontinuity then { x.clock with timestampInitialized := false } else x.clock

/-- The discontinuity, drop and keyframe gate on a popped unit. A keyframe that finds the gate
closed leaves it closed until the track is open. -/
def gate (x : WebRtcSession) (unit : Stamped EncodedAccessUnit) : WebRtcSession :=
  let drops := x.mediaQueue.stats.dropped
  let closes := gateCloses x unit.val drops
  { x with
    worker := if closes && !unit.val.keyframe then .top else .holding unit
    waitingForKeyframe := closes
    observedQueueDrops := drops
    clock := gatedClock x unit.val }

/-- The check behind the loop that waits for the track. -/
def check (x : WebRtcSession) (unit : Stamped EncodedAccessUnit) : WebRtcSession :=
  if !x.mediaRunning || x.track ≠ .opened then { x with worker := .top }
  else
    { x with
      worker := .sending unit
      waitingForKeyframe := false
      clock := x.clock.advance x.startTimestamp unit.val }

/-- `track->send`; a rejected or throwing send ends the media of this peer. -/
def send (x : WebRtcSession) (unit : Stamped EncodedAccessUnit) (accepted : Bool) : WebRtcSession :=
  let x := { x with sent := x.sent ++ [unit], worker := .top }
  if accepted then x else { x.recordFailure "media" false with mediaRunning := false }

def step (x : WebRtcSession) : Action → Option WebRtcSession
  | .peerConnected => some { x with connected := true }
  | .peerFailed =>
    some { x with
      failed := true
      failureStage := if x.failureStage = "" then "peer_connection" else x.failureStage }
  | .peerClosed => some { x with closed := true }
  | .iceFailed =>
    some { x with
      failed := true
      failureStage := if x.failureStage = "" || x.failureStage = "peer_connection" then "ice"
        else x.failureStage }
  | .trackError => some (x.recordFailure "media" false)
  | .trackOpens => some { x with track := .opened }
  | .trackCloses => some { x with track := .closed }
  | .shutdownQueue =>
    if x.queueClosing then
      some { x with mediaQueue := x.mediaQueue.shutdown, queueClosing := false }
    else none
  | .loop =>
    if x.worker = .top then
      some { x with worker := if x.mediaRunning then .popping else .finished }
    else none
  | .pop => if x.worker = .popping then some (pop x) else none
  | .gate =>
    match x.worker with
    | .popped unit => some (gate x unit)
    | _ => none
  | .poll =>
    match x.worker with
    | .holding unit =>
      some { x with worker := if x.mediaRunning && x.track ≠ .opened then .holding unit
        else .checking unit }
    | _ => none
  | .check =>
    match x.worker with
    | .checking unit => some (check x unit)
    | _ => none
  | .send accepted =>
    match x.worker with
    | .sending unit => some (send x unit accepted)
    | _ => none

/-- `stale_reason`, empty when the session is not stale. -/
def staleReason (x : WebRtcSession) (now timeout : Nat) : String :=
  if x.failed then
    if x.failureStage = "" then "peer_failure" else x.failureStage ++ "_failure"
  else if x.closed then
    if x.closeReason = "" then "peer_closed" else x.closeReason
  else if x.answerReady && !x.connected && decide (now - x.connectionWaitStarted ≥ timeout) then
    "connection_timeout"
  else ""

/-- **What a pop can do.** -/
theorem pop_cases (x : WebRtcSession) :
    (x.mediaQueue.items = [] ∧ pop x = { x with worker := .top }) ∨
    (∃ front rest, x.mediaQueue.items = front :: rest ∧
      pop x = { x with mediaQueue := x.mediaQueue.takeFront.2, worker := .popped front }) := by
  cases items : x.mediaQueue.items with
  | nil => exact .inl ⟨rfl, by simp only [pop, BoundedQueue.takeFront_nil items]⟩
  | cons front rest =>
    refine .inr ⟨front, rest, rfl, ?_⟩
    unfold pop
    rw [BoundedQueue.takeFront_eq items]

/-- **What the gate can do**: skip a delta and stay closed, or let the unit through. -/
theorem gate_cases (x : WebRtcSession) (unit : Stamped EncodedAccessUnit) :
    (gate x unit = { x with
        worker := .top
        waitingForKeyframe := true
        observedQueueDrops := x.mediaQueue.stats.dropped
        clock := gatedClock x unit.val }) ∨
    ((unit.val.keyframe = true ∨
        x.waitingForKeyframe = false ∧ x.observedQueueDrops = x.mediaQueue.stats.dropped) ∧
      ∃ waiting, gate x unit = { x with
        worker := .holding unit
        waitingForKeyframe := waiting
        observedQueueDrops := x.mediaQueue.stats.dropped
        clock := gatedClock x unit.val }) := by
  cases closes : gateCloses x unit.val x.mediaQueue.stats.dropped with
  | false =>
    have opened := closes
    simp only [gateCloses, Bool.or_eq_false_iff, bne_eq_false_iff_eq] at opened
    exact .inr ⟨.inr ⟨opened.1.1, opened.2.symm⟩, false, by simp [gate, closes]⟩
  | true =>
    cases restart : unit.val.keyframe with
    | true => exact .inr ⟨.inl rfl, true, by simp [gate, closes, restart]⟩
    | false => exact .inl (by simp [gate, closes, restart])

end WebRtcSession

end SkaiEdge.WebRtc
