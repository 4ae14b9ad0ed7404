import SkaiEdge.Lib.Runs
import SkaiEdge.Lib.LossyFeed
import SkaiEdge.Core.BoundedQueue
import SkaiEdge.Video.EncodedAccessUnit

/-!
# The WHIP media path (`src/webrtc/whip_publisher.cpp`, `whip_policy.cpp`)

The producers' `publish_access_unit`, the peer connection's callbacks, `stop` and the worker
that runs `run` and `publish_once` share the media queue, the peer state and `stopping_`. Each
`Action` is one access to a shared object together with the thread-local code up to the next
one, so a run of `step` is an interleaving of the threads. The clock, the send result, the
track state and the outcome of signalling are the environment's answers.

`published`, `sent` and the stamps in the queue are ghost: the units the queue accepted, and
those `publish_once` handed to `track->send` in this session.
-/

namespace SkaiEdge.WebRtc

open SkaiEdge.Lib SkaiEdge.Core SkaiEdge.Video

/-- `WhipPeerState`; times are milliseconds of the steady clock. -/
structure WhipPeerState where
  disconnectedAt : Option Nat := none
  hasFailed : Bool := false
  deriving DecidableEq, Repr

namespace WhipPeerState

def connected (p : WhipPeerState) : WhipPeerState := { p with disconnectedAt := none }

def disconnected (p : WhipPeerState) (now : Nat) : WhipPeerState :=
  { p with disconnectedAt := p.disconnectedAt.or (some now) }

def failed (p : WhipPeerState) : WhipPeerState := { p with hasFailed := true }

def isDisconnected (p : WhipPeerState) : Bool := p.disconnectedAt.isSome

def shouldReconnect (p : WhipPeerState) (now grace : Nat) : Bool :=
  p.hasFailed || p.disconnectedAt.any fun since => decide (now - since ≥ grace)

end WhipPeerState

namespace WhipPublisher

/-- Where the worker stands; a unit it holds comes with it. -/
inductive Worker where
  | connecting
  | top
  | reconnect
  | probe (now : Nat)
  | pausing
  | popping
  | popped (unit : Stamped EncodedAccessUnit)
  | sending (unit : Stamped EncodedAccessUnit)
  | retrying
  | clearing
  | stopped
  deriving DecidableEq, Repr

/-- The worker is inside the media loop of `publish_once`. -/
def Worker.inLoop : Worker → Bool
  | .connecting | .retrying | .clearing | .stopped => false
  | _ => true

/-- The unit that was popped and whose `stats().dropped` read is still to come. -/
def Worker.unread : Worker → Option (Stamped EncodedAccessUnit)
  | .popped unit => some unit
  | _ => none

structure State where
  queue : BoundedQueue (Stamped EncodedAccessUnit)
  enabled : Bool
  stopping : Bool
  producers : List EncodedAccessUnit
  published : List EncodedAccessUnit
  peer : WhipPeerState
  worker : Worker
  waitingForKeyframe : Bool
  mediaOpened : Bool
  awaitingResume : Bool
  trackClosedAt : Option Nat
  observedDrops : Nat
  connectionDeadline : Nat
  sent : List (Stamped EncodedAccessUnit)

theorem queue_positive : 0 < 8 := by decide

/-- A publisher whose `start` has just created the worker: `media_queue_{8}`, freshly reset. -/
def init (enabled : Bool) : State where
  queue := .create 8 queue_positive
  enabled := enabled
  stopping := false
  producers := []
  published := []
  peer := {}
  worker := .connecting
  waitingForKeyframe := true
  mediaOpened := false
  awaitingResume := false
  trackClosedAt := none
  observedDrops := 0
  connectionDeadline := 0
  sent := []

inductive Action where
  | call (unit : EncodedAccessUnit)
  | push (index : Nat)
  | stopFlag
  | stopQueue
  | peerConnected
  | peerDisconnected (now : Nat)
  | peerFailed
  | session (now : Nat)
  | sessionFails (unrecoverable : Bool)
  | loop
  | reconnect (now : Nat)
  | probe (trackOpen : Bool)
  | discard
  | pop
  | gate
  | send (accepted : Bool)
  | retry
  deriving DecidableEq, Repr

/-- `publish_access_unit` up to the push: a call that finds the module disabled or stopping
returns. -/
def call (s : State) (unit : EncodedAccessUnit) : State :=
  if !s.enabled || s.stopping then s else { s with producers := s.producers ++ [unit] }

/-- The push of a producer that passed the guard. -/
def push (s : State) (index : Nat) : Option State :=
  s.producers[index]?.map fun unit =>
    let (queue, accepted) := s.queue.push ⟨s.published.length, unit⟩
    { s with
      producers := s.producers.eraseIdx index
      queue := queue
      published := if accepted then s.published ++ [unit] else s.published }

/-- Signalling succeeded: the locals of the media loop are set up. -/
def session (s : State) (now : Nat) : State :=
  { s with
    worker := .top
    waitingForKeyframe := true
    mediaOpened := false
    awaitingResume := false
    trackClosedAt := none
    observedDrops := s.queue.stats.dropped
    connectionDeadline := now + 15000
    sent := [] }

/-- `track_closed_at` on the paused branch: set once per closing of an opened track. -/
def closedSince (s : State) (now : Nat) (trackOpen : Bool) : Option Nat :=
  if s.mediaOpened && !trackOpen then s.trackClosedAt.or (some now) else s.trackClosedAt

/-- The two deadlines that end a paused session. -/
def givesUp (s : State) (now : Nat) (trackOpen : Bool) : Bool :=
  !s.mediaOpened && decide (now ≥ s.connectionDeadline) ||
  s.mediaOpened && !trackOpen &&
    (closedSince s now trackOpen).any fun since => decide (now - since ≥ 10000)

/-- The branch on a disconnected peer or a closed track, and the way to `pop_for`. -/
def probe (s : State) (now : Nat) (trackOpen : Bool) : State :=
  if s.peer.isDisconnected || !trackOpen then
    { s with
      trackClosedAt := closedSince s now trackOpen
      worker := if givesUp s now trackOpen then .retrying
        else if s.awaitingResume then .top else .pausing }
  else
    { s with
      worker := .popping
      waitingForKeyframe := s.awaitingResume || s.waitingForKeyframe
      awaitingResume := false
      mediaOpened := true
      trackClosedAt := none }

/-- `media_queue_.pop_for`; the detection queue is drained before the unit is looked at. -/
def pop (s : State) : State :=
  match s.queue.takeFront with
  | (some unit, queue) => { s with queue := queue, worker := .popped unit }
  | (none, queue) => { s with queue := queue, worker := .top }

/-- `waiting_for_keyframe` once the unit's flag and the drop count `drops` are taken in. -/
def gateCloses (s : State) (unit : EncodedAccessUnit) (drops : Nat) : Bool :=
  s.waitingForKeyframe || unit.discontinuity || drops != s.observedDrops

/-- The discontinuity, drop and keyframe gate on a popped unit. -/
def gate (s : State) (unit : Stamped EncodedAccessUnit) : State :=
  let drops := s.queue.stats.dropped
  if gateCloses s unit.val drops && !unit.val.keyframe then
    { s with worker := .top, waitingForKeyframe := true, observedDrops := drops }
  else { s with worker := .sending unit, waitingForKeyframe := false, observedDrops := drops }

def step (s : State) : Action → Option State
  | .call unit => some (call s unit)
  | .push index => push s index
  | .stopFlag => some { s with stopping := true }
  | .stopQueue => if s.stopping then some { s with queue := s.queue.shutdown } else none
  | .peerConnected => some { s with peer := s.peer.connected }
  | .peerDisconnected now => some { s with peer := s.peer.disconnected now }
  | .peerFailed => some { s with peer := s.peer.failed }
  | .session now => if s.worker = .connecting then some (session s now) else none
  | .sessionFails unrecoverable =>
    if s.worker = .connecting then
      some { s with worker := if unrecoverable then .stopped else .retrying }
    else none
  | .loop =>
    if s.worker = .top then
      some { s with worker := if s.stopping then .stopped else .reconnect }
    else none
  | .reconnect now =>
    if s.worker = .reconnect then
      some { s with worker := if s.peer.shouldReconnect now 10000 then .retrying else .probe now }
    else none
  | .probe trackOpen =>
    match s.worker with
    | .probe now => some (probe s now trackOpen)
    | _ => none
  | .discard =>
    match s.worker with
    | .pausing => some { s with queue := s.queue.discardAll.1, awaitingResume := true, worker := .top }
    | .clearing => some { s with queue := s.queue.discardAll.1, peer := {}, worker := .connecting }
    | _ => none
  | .pop => if s.worker = .popping then some (pop s) else none
  | .gate =>
    match s.worker with
    | .popped unit => some (gate s unit)
    | _ => none
  | .send accepted =>
    match s.worker with
    | .sending unit =>
      some { s with sent := s.sent ++ [unit], worker := if accepted then .top else .retrying }
    | _ => none
  | .retry =>
    if s.worker = .retrying then
      some { s with worker := if s.stopping then .stopped else .clearing }
    else none

/-- **What the probe can do**: give up the session, stay paused, or go on to `pop_for`. -/
theorem probe_cases (s : State) (now : Nat) (trackOpen : Bool) :
    (∃ closedAt, probe s now trackOpen = { s with worker := .retrying, trackClosedAt := closedAt }) ∨
    (∃ closedAt worker, (worker = .top ∨ worker = .pausing) ∧
      probe s now trackOpen = { s with worker := worker, trackClosedAt := closedAt }) ∨
    probe s now trackOpen =
      { s with
        worker := .popping
        waitingForKeyframe := s.awaitingResume || s.waitingForKeyframe
        awaitingResume := false
        mediaOpened := true
        trackClosedAt := none } := by
  unfold probe
  split
  · cases givesUp s now trackOpen with
    | true => exact .inl ⟨_, rfl⟩
    | false =>
      refine .inr (.inl ⟨_, _, ?_, rfl⟩)
      cases s.awaitingResume <;> simp
  · exact .inr (.inr rfl)

/-- **What a pop can do.** -/
theorem pop_cases (s : State) :
    (s.queue.items = [] ∧ pop s = { s with worker := .top }) ∨
    (∃ front rest, s.queue.items = front :: rest ∧
      pop s = { s with queue := s.queue.takeFront.2, worker := .popped front }) := by
  cases items : s.queue.items with
  | nil => exact .inl ⟨rfl, by simp only [pop, BoundedQueue.takeFront_nil items]⟩
  | cons front rest =>
    refine .inr ⟨front, rest, rfl, ?_⟩
    unfold pop
    rw [BoundedQueue.takeFront_eq items]

/-- **What the gate can do**: skip a delta and stay closed, or let the unit through. -/
theorem gate_cases (s : State) (unit : Stamped EncodedAccessUnit) :
    (gate s unit = { s with
        worker := .top, waitingForKeyframe := true, observedDrops := s.queue.stats.dropped }) ∨
    ((unit.val.keyframe = true ∨
        s.waitingForKeyframe = false ∧ s.observedDrops = s.queue.stats.dropped) ∧
      gate s unit = { s with
        worker := .sending unit, waitingForKeyframe := false, observedDrops := s.queue.stats.dropped }) := by
  cases closes : gateCloses s unit.val s.queue.stats.dropped && !unit.val.keyframe with
  | true => exact .inl (by simp only [gate, closes, ↓reduceIte])
  | false =>
    refine .inr ⟨?_, by simp only [gate, closes, Bool.false_eq_true, ↓reduceIte]⟩
    cases restart : unit.val.keyframe with
    | true => exact .inl rfl
    | false =>
      simp only [gateCloses, restart, Bool.not_false, Bool.and_true, Bool.or_eq_false_iff,
        bne_eq_false_iff_eq] at closes
      exact .inr ⟨closes.1.1, closes.2.symm⟩

end WhipPublisher

end SkaiEdge.WebRtc
