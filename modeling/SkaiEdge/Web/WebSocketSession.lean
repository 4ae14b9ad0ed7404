import SkaiEdge.Lib.Runs
import SkaiEdge.Lib.Stream

/-!
# Events to a browser (`src/events.cpp`, `src/web/websocket_session.cpp`)

Publishers on any thread push into a session's `EventInbox`; a push that finds no drain scheduled
tells its caller to post `drain_incoming` to the session's executor. One thread runs the
executor, so handlers do not overlap, but pushes go on between the single steps of a handler. The
drain moves the inbox into `outgoing_`, from which one `async_write` at a time takes its event;
a write is under way exactly while `writing_` is not empty. Both queues drop their oldest event
when they are full.

`pushed`, `enqueued`, `written`, the stamps and the lists of dropped events are ghost; the latter
collect what the pushes themselves took out.
-/

namespace SkaiEdge.Web

open SkaiEdge.Lib

inductive EventType where
  | status
  | detection
  | gps
  | alert
  | recording
  | systemError
  deriving DecidableEq, Repr

def eventTypeName : EventType → List Char
  | .status => "status".toList
  | .detection => "detection".toList
  | .gps => "gps".toList
  | .alert => "alert".toList
  | .recording => "recording".toList
  | .systemError => "system_error".toList

/-- The text of an event; `timestamp` is the wall clock's. -/
def makeEventJson (type : EventType) (timestamp dataJson : List Char) : List Char :=
  '{' :: "\"type\":\"".toList ++ eventTypeName type ++ "\",\"timestamp\":\"".toList ++ timestamp ++
    "\",\"data\":".toList ++ dataJson ++ "\x7d\n".toList

theorem makeEventJson_ne_nil (type : EventType) (timestamp dataJson : List Char) :
    makeEventJson type timestamp dataJson ≠ [] := by
  simp [makeEventJson]

/-! ## The queues -/

/-- The constructor rejects capacity 0, and no operation leaves more than `capacity` events. -/
structure EventQueue (α : Type) where
  capacity : Nat
  positive : 0 < capacity
  events : List α
  bounded : events.length ≤ capacity
  dropped : Nat

namespace EventQueue

variable {α : Type}

def create (capacity : Nat) (positive : 0 < capacity) : EventQueue α :=
  ⟨capacity, positive, [], Nat.zero_le _, 0⟩

theorem tail_bounded (q : EventQueue α) (event : α) :
    (q.events.tail ++ [event]).length ≤ q.capacity := by
  have positive := q.positive
  have bounded := q.bounded
  simp only [List.length_append, List.length_tail, List.length_singleton]
  omega

theorem snoc_bounded (q : EventQueue α) (event : α) (space : q.events.length ≠ q.capacity) :
    (q.events ++ [event]).length ≤ q.capacity := by
  have bounded := q.bounded
  simp only [List.length_append, List.length_singleton]
  omega

/-- A full queue loses its front to the new event. The source destroys what `pop_front` takes out;
here it is returned. -/
def push (q : EventQueue α) (event : α) : EventQueue α × Option α :=
  if full : q.events.length = q.capacity then
    ({ q with
      events := q.events.tail ++ [event]
      bounded := q.tail_bounded event
      dropped := q.dropped + 1 }, q.events.head?)
  else
    ({ q with events := q.events ++ [event], bounded := q.snoc_bounded event full }, none)

def pop (q : EventQueue α) : Option α × EventQueue α :=
  match q with
  | ⟨_, _, [], _, _⟩ => (none, q)
  | ⟨capacity, positive, front :: rest, bounded, dropped⟩ =>
    (some front, ⟨capacity, positive, rest, Nat.le_of_succ_le bounded, dropped⟩)

def clear (q : EventQueue α) : EventQueue α := { q with events := [], bounded := Nat.zero_le _ }

@[simp] theorem push_capacity (q : EventQueue α) (event : α) :
    (q.push event).1.capacity = q.capacity := by
  unfold push
  split <;> rfl

theorem full_cons (q : EventQueue α) (full : q.events.length = q.capacity) :
    ∃ front rest, q.events = front :: rest :=
  List.exists_cons_of_length_pos (full ▸ q.positive)

/-- **What a push does**: the new event is the last one, and in front of it stands what was there
but the event dropped. -/
theorem push_keeps (q : EventQueue α) (event : α) : ∃ kept,
    (q.push event).1.events = kept ++ [event] ∧ (q.push event).2.toList ++ kept = q.events := by
  unfold push
  split
  · next full =>
    obtain ⟨front, rest, events⟩ := q.full_cons full
    refine ⟨q.events.tail, rfl, ?_⟩
    show q.events.head?.toList ++ q.events.tail = q.events
    rw [events]
    rfl
  · exact ⟨q.events, rfl, rfl⟩

theorem push_newest (q : EventQueue α) (event : α) :
    (q.push event).1.events.getLast? = some event := by
  obtain ⟨kept, events, _⟩ := q.push_keeps event
  rw [events, List.getLast?_concat]

theorem mem_push {q : EventQueue α} {event e : α} (member : e ∈ (q.push event).1.events) :
    e = event ∨ e ∈ q.events := by
  obtain ⟨kept, events, before⟩ := q.push_keeps event
  rw [events, List.mem_append, List.mem_singleton] at member
  rcases member with old | new
  · exact .inr (before ▸ List.mem_append_right _ old)
  · exact .inl new

/-- Only an event that was there is dropped. -/
theorem mem_of_dropped {q : EventQueue α} {event e : α} (member : e ∈ (q.push event).2.toList) :
    e ∈ q.events := by
  obtain ⟨_, _, before⟩ := q.push_keeps event
  exact before ▸ List.mem_append_left _ member

/-- `dropped_` counts the events dropped. -/
theorem push_counted (q : EventQueue α) (event : α) :
    (q.push event).1.dropped = q.dropped + (q.push event).2.toList.length := by
  unfold push
  split
  · next full =>
    obtain ⟨front, rest, events⟩ := q.full_cons full
    show q.dropped + 1 = q.dropped + q.events.head?.toList.length
    rw [events]
    rfl
  · rfl

theorem pop_cons {q : EventQueue α} {front : α} {rest : List α} (shape : q.events = front :: rest) :
    q.pop.1 = some front ∧ q.pop.2.events = rest ∧ q.pop.2.capacity = q.capacity ∧
      q.pop.2.dropped = q.dropped := by
  obtain ⟨capacity, positive, events, bounded, dropped⟩ := q
  subst shape
  exact ⟨rfl, rfl, rfl, rfl⟩

theorem pop_nil {q : EventQueue α} (empty : q.events = []) : q.pop = (none, q) := by
  obtain ⟨capacity, positive, events, bounded, dropped⟩ := q
  subst empty
  rfl

end EventQueue

/-- `EventInbox`; each operation is one critical section of `mutex_`. -/
structure EventInbox (α : Type) where
  events : EventQueue α
  drainScheduled : Bool

namespace EventInbox

variable {α : Type}

/-- `true` asks the caller to post a drain. The last part is the event dropped. -/
def push (inbox : EventInbox α) (event : α) : EventInbox α × Bool × Option α :=
  let (events, lost) := inbox.events.push event
  (⟨events, true⟩, !inbox.drainScheduled, lost)

def drain (inbox : EventInbox α) : List α × EventInbox α :=
  (inbox.events.events, ⟨inbox.events.clear, false⟩)

end EventInbox

/-! ## The session -/

/-- An event in `outgoing_`: one from the inbox, or one the session made itself. -/
inductive Outgoing where
  | inbox (event : Stamped (List Char))
  | direct (text : List Char)
  deriving DecidableEq, Repr

def Outgoing.text : Outgoing → List Char
  | .inbox event => event.val
  | .direct text => text

def Outgoing.fromInbox : Outgoing → Option (Stamped (List Char))
  | .inbox event => some event
  | .direct _ => none

theorem queue_capacity : 0 < 32 := by decide

structure State where
  incoming : EventInbox (Stamped (List Char)) := ⟨.create 32 queue_capacity, false⟩
  outgoing : EventQueue (Stamped Outgoing) := .create 32 queue_capacity
  writing : List Char := []
  closed : Bool := false
  stopping : Bool := false
  closing : Bool := false
  /-- Pushers that were asked to post a drain and have not done it yet. -/
  posters : Nat := 0
  /-- Drains in the executor's queue. -/
  posted : Nat := 0
  /-- What the running `drain_incoming` has still to enqueue. -/
  batch : List (Stamped (List Char)) := []
  /-- Writes that have not completed. -/
  inFlight : List Outgoing := []
  pushed : List (List Char) := []
  enqueued : Nat := 0
  written : List Outgoing := []
  inboxDropped : List (Stamped (List Char)) := []
  outgoingDropped : List (Stamped Outgoing) := []

def writeNext (s : State) : State :=
  match s.outgoing.pop with
  | (none, _) => s
  | (some next, outgoing) =>
    { s with
      outgoing := outgoing
      writing := next.val.text
      inFlight := s.inFlight ++ [next.val]
      written := s.written ++ [next.val] }

def enqueue (s : State) (event : Outgoing) : State :=
  if s.closed || s.stopping then s
  else
    let idle := s.writing.isEmpty
    let (outgoing, lost) := s.outgoing.push ⟨s.enqueued, event⟩
    let s := { s with
      outgoing := outgoing
      enqueued := s.enqueued + 1
      outgoingDropped := s.outgoingDropped ++ lost.toList }
    if idle then writeNext s else s

def cleanup (s : State) : State := { s with closed := true }

def beginClose (s : State) : State :=
  if s.closed || s.closing then s else { s with closing := true }

def stop (s : State) : State :=
  if s.closed || s.stopping then s
  else
    let s := { s with stopping := true }
    if s.writing.isEmpty then beginClose s else s

/-- The completion of a write. -/
def onWrite (s : State) (error : Bool) : State :=
  if error then cleanup s
  else
    let s := { s with writing := [] }
    if s.stopping then beginClose s else writeNext s

def pushIncoming (s : State) (text : List Char) : State :=
  let (incoming, schedule, lost) := s.incoming.push ⟨s.pushed.length, text⟩
  { s with
    incoming := incoming
    posters := s.posters + if schedule then 1 else 0
    pushed := s.pushed ++ [text]
    inboxDropped := s.inboxDropped ++ lost.toList }

inductive Action where
  /-- A publisher's `incoming_.push(event)`. -/
  | push (type : EventType) (timestamp dataJson : List Char)
  /-- The `asio::post` of a publisher that was asked for it. -/
  | post
  /-- `incoming_.drain()` at the start of a posted `drain_incoming`. -/
  | drain
  /-- One round of the loop in `drain_incoming`. -/
  | enqueueNext
  /-- An event made by the session: status or GPS. -/
  | direct (type : EventType) (timestamp dataJson : List Char)
  | written (error : Bool)
  | stop
  /-- The close completed, or a read failed. -/
  | cleanup
  deriving DecidableEq, Repr

/-- A handler starts only when no other one is running. -/
def step (s : State) : Action → Option State
  | .push type timestamp dataJson => some (pushIncoming s (makeEventJson type timestamp dataJson))
  | .post =>
    match s.posters with
    | 0 => none
    | posters + 1 => some { s with posters := posters, posted := s.posted + 1 }
  | .drain =>
    match s.posted, s.batch with
    | posted + 1, [] =>
      some { s with
        incoming := s.incoming.drain.2
        posted := posted
        batch := s.incoming.drain.1 }
    | _, _ => none
  | .enqueueNext =>
    match s.batch with
    | event :: batch => some { enqueue s (.inbox event) with batch := batch }
    | [] => none
  | .direct type timestamp dataJson =>
    match s.batch with
    | [] => some (enqueue s (.direct (makeEventJson type timestamp dataJson)))
    | _ :: _ => none
  | .written error =>
    match s.inFlight, s.batch with
    | _ :: inFlight, [] => some (onWrite { s with inFlight := inFlight } error)
    | _, _ => none
  | .stop =>
    match s.batch with
    | [] => some (stop s)
    | _ :: _ => none
  | .cleanup =>
    match s.batch with
    | [] => some (cleanup s)
    | _ :: _ => none

end SkaiEdge.Web
