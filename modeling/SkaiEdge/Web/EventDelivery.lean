import SkaiEdge.Web.WebSocketSession

/-!
# Events reach the socket in order

`line` is the path of the inbox events from the socket back to the publishers: written, in
`outgoing_`, in the batch of a running drain, in the inbox. A push appends to its end, every
other step only moves events along or drops them, so the stamps on it always increase. `Flow`
says that the busy flag, a non-empty `writing_`, means one write in flight, and that no event
waits in `outgoing_` without one. `Accounted` says that the events on the line and those dropped
are all that was pushed, as long as the session is open: afterwards `enqueue` throws events away.
-/

namespace SkaiEdge.Web

open SkaiEdge.Lib

variable {s s' : State}

/-- The inbox events written or waiting in `outgoing_`. -/
def sent (s : State) : List (Stamped (List Char)) :=
  s.written.filterMap Outgoing.fromInbox ++
    s.outgoing.events.filterMap fun event => event.val.fromInbox

def line (s : State) : List (Stamped (List Char)) := sent s ++ s.batch ++ s.incoming.events.events

/-- The inbox events that a full queue dropped. -/
def lost (s : State) : List (Stamped (List Char)) :=
  s.inboxDropped ++ s.outgoingDropped.filterMap fun event => event.val.fromInbox

/-- The inbox events on their way are in push order, each at most once. -/
def Ordered (s : State) : Prop := (line s).Sublist (positions s.pushed)

/-- In an open session every pushed event is on its way or dropped, once. -/
def Accounted (s : State) : Prop :=
  s.closed = false → s.stopping = false → (line s ++ lost s).Perm (positions s.pushed)

/-- Exactly one drain is posted, or about to be, while one is scheduled; events in the inbox
have one scheduled. -/
structure Scheduled (s : State) : Prop where
  one : s.posters + s.posted = if s.incoming.drainScheduled then 1 else 0
  noticed : s.incoming.events.events ≠ [] → s.incoming.drainScheduled = true

structure Flow (s : State) : Prop where
  single : s.inFlight.length ≤ 1
  busy : s.closed = false → (s.writing = [] ↔ s.inFlight = [])
  flowing : s.closed = false → s.stopping = false → s.outgoing.events ≠ [] → s.inFlight ≠ []
  texts : ∀ event ∈ s.outgoing.events, event.val.text ≠ []
  incoming : ∀ event ∈ s.batch ++ s.incoming.events.events, event.val ≠ []

/-- The capacities, and that each event was counted and dropped for one pushed after it. -/
structure Kept (s : State) : Prop where
  inbox : s.incoming.events.capacity = 32
  outgoing : s.outgoing.capacity = 32
  inboxCounted : s.incoming.events.dropped = s.inboxDropped.length
  outgoingCounted : s.outgoing.dropped = s.outgoingDropped.length
  stamps : ∀ event ∈ s.outgoing.events, event.stamp < s.enqueued
  inboxOlder : ∀ event ∈ s.inboxDropped, event.stamp + 1 < s.pushed.length
  outgoingOlder : ∀ event ∈ s.outgoingDropped, event.stamp + 1 < s.enqueued

/-! ## `write_next` and `enqueue` -/

/-- The session after `outgoing_.push(event)`. -/
def queued (s : State) (event : Outgoing) : State :=
  { s with
    outgoing := (s.outgoing.push ⟨s.enqueued, event⟩).1
    enqueued := s.enqueued + 1
    outgoingDropped := s.outgoingDropped ++ (s.outgoing.push ⟨s.enqueued, event⟩).2.toList }

theorem enqueue_cases (s : State) (event : Outgoing) :
    ((s.closed = true ∨ s.stopping = true) ∧ enqueue s event = s) ∨
      (s.closed = false ∧ s.stopping = false ∧
        ((s.writing = [] ∧ enqueue s event = writeNext (queued s event)) ∨
          (s.writing ≠ [] ∧ enqueue s event = queued s event))) := by
  cases closed : s.closed with
  | true => exact .inl ⟨.inl rfl, by simp [enqueue, closed]⟩
  | false =>
    cases stopping : s.stopping with
    | true => exact .inl ⟨.inr rfl, by simp [enqueue, stopping]⟩
    | false =>
      refine .inr ⟨rfl, rfl, ?_⟩
      cases writing : s.writing with
      | nil => exact .inl ⟨rfl, by simp [enqueue, closed, stopping, writing, queued]⟩
      | cons c text => exact .inr ⟨by simp, by simp [enqueue, closed, stopping, writing, queued]⟩

theorem writeNext_cases (s : State) :
    (s.outgoing.events = [] ∧ writeNext s = s) ∨
      ∃ front rest, s.outgoing.events = front :: rest ∧ writeNext s = { s with
        outgoing := s.outgoing.pop.2
        writing := front.val.text
        inFlight := s.inFlight ++ [front.val]
        written := s.written ++ [front.val] } := by
  cases events : s.outgoing.events with
  | nil => exact .inl ⟨rfl, by simp [writeNext, EventQueue.pop_nil events]⟩
  | cons front rest =>
    obtain ⟨taken, _⟩ := EventQueue.pop_cons events
    have popped : s.outgoing.pop = (some front, s.outgoing.pop.2) := Prod.ext taken rfl
    exact .inr ⟨front, rest, rfl, by rw [writeNext, popped]⟩

/-- Writing moves an event along the line. -/
theorem sent_writeNext (s : State) : sent (writeNext s) = sent s := by
  rcases writeNext_cases s with ⟨_, same⟩ | ⟨front, rest, events, moved⟩
  · rw [same]
  · obtain ⟨_, left, _⟩ := EventQueue.pop_cons events
    rw [moved]
    simp only [sent, left, events, List.filterMap_append, List.append_assoc]
    cases origin : front.val.fromInbox <;> simp [origin]

theorem lost_writeNext (s : State) : lost (writeNext s) = lost s := by
  rcases writeNext_cases s with ⟨_, same⟩ | ⟨front, rest, _, moved⟩
  · rw [same]
  · rw [moved]
    rfl

theorem filterMap_singleton (stamp : Nat) (event : Outgoing) :
    ([⟨stamp, event⟩] : List (Stamped Outgoing)).filterMap (fun event => event.val.fromInbox) =
      event.fromInbox.toList := by
  cases origin : event.fromInbox <;> simp [origin]

theorem sent_queued (s : State) (event : Outgoing) :
    (sent (queued s event)).Sublist (sent s ++ event.fromInbox.toList) := by
  obtain ⟨kept, events, before⟩ := s.outgoing.push_keeps ⟨s.enqueued, event⟩
  have less : kept.Sublist s.outgoing.events := before ▸ List.sublist_append_right _ _
  simp only [sent, queued, events, List.filterMap_append, filterMap_singleton]
  rw [← List.append_assoc]
  exact ((less.filterMap _).append_left _).append_right _

/-- What a push takes out of `outgoing_` is dropped. -/
theorem account_queued (s : State) (event : Outgoing) :
    (sent (queued s event) ++ lost (queued s event)).Perm
      (sent s ++ event.fromInbox.toList ++ lost s) := by
  obtain ⟨kept, events, before⟩ := s.outgoing.push_keeps ⟨s.enqueued, event⟩
  simp only [sent, lost, queued, events, ← before, List.filterMap_append, filterMap_singleton]
  rw [List.perm_iff_count]
  intro e
  simp only [List.count_append]
  omega

/-- An enqueued event goes behind those sent, or is lost. -/
theorem sent_enqueue (s : State) (event : Outgoing) :
    (sent (enqueue s event)).Sublist (sent s ++ event.fromInbox.toList) := by
  rcases enqueue_cases s event with ⟨_, same⟩ | ⟨_, _, ⟨_, writes⟩ | ⟨_, waits⟩⟩
  · rw [same]
    exact List.sublist_append_left _ _
  · rw [writes, sent_writeNext]
    exact sent_queued s event
  · rw [waits]
    exact sent_queued s event

/-- In an open session an enqueued event is sent unless an older one is dropped for it. -/
theorem account_enqueue {s : State} (opened : s.closed = false) (going : s.stopping = false)
    (event : Outgoing) : (sent (enqueue s event) ++ lost (enqueue s event)).Perm
      (sent s ++ event.fromInbox.toList ++ lost s) := by
  rcases enqueue_cases s event with ⟨shut | ending, _⟩ | ⟨_, _, ⟨_, writes⟩ | ⟨_, waits⟩⟩
  · cases opened.symm.trans shut
  · cases going.symm.trans ending
  · rw [writes, sent_writeNext, lost_writeNext]
    exact account_queued s event
  · rw [waits]
    exact account_queued s event

/-- Neither touches the inbox, the running drain or the pushed events. -/
structure SameIntake (s s' : State) : Prop where
  incoming : s'.incoming = s.incoming
  posters : s'.posters = s.posters
  posted : s'.posted = s.posted
  batch : s'.batch = s.batch
  pushed : s'.pushed = s.pushed
  inboxDropped : s'.inboxDropped = s.inboxDropped

theorem writeNext_intake (s : State) : SameIntake s (writeNext s) := by
  rcases writeNext_cases s with ⟨_, same⟩ | ⟨front, rest, _, moved⟩
  · rw [same]
    exact ⟨rfl, rfl, rfl, rfl, rfl, rfl⟩
  · rw [moved]
    exact ⟨rfl, rfl, rfl, rfl, rfl, rfl⟩

theorem enqueue_intake (s : State) (event : Outgoing) : SameIntake s (enqueue s event) := by
  rcases enqueue_cases s event with ⟨_, same⟩ | ⟨_, _, ⟨_, writes⟩ | ⟨_, waits⟩⟩
  · rw [same]
    exact ⟨rfl, rfl, rfl, rfl, rfl, rfl⟩
  · rw [writes]
    obtain ⟨h1, h2, h3, h4, h5, h6⟩ := writeNext_intake (queued s event)
    exact ⟨h1, h2, h3, h4, h5, h6⟩
  · rw [waits]
    exact ⟨rfl, rfl, rfl, rfl, rfl, rfl⟩

/-! ## Order -/

theorem Ordered.less (ordered : Ordered s) (pushed : s'.pushed = s.pushed)
    (less : (line s').Sublist (line s)) : Ordered s' := by
  rw [Ordered, pushed]
  exact less.trans ordered

theorem Ordered.push (ordered : Ordered s) (text : List Char) : Ordered (pushIncoming s text) := by
  obtain ⟨kept, events, before⟩ := s.incoming.events.push_keeps ⟨s.pushed.length, text⟩
  have less : kept.Sublist s.incoming.events.events := before ▸ List.sublist_append_right _ _
  have appended : (line (pushIncoming s text)).Sublist (line s ++ [⟨s.pushed.length, text⟩]) := by
    show (sent s ++ s.batch ++ (s.incoming.events.push ⟨s.pushed.length, text⟩).1.events).Sublist _
    rw [events, ← List.append_assoc]
    exact (less.append_left _).append_right _
  show (line (pushIncoming s text)).Sublist (positions (s.pushed ++ [text]))
  rw [positions_snoc]
  exact appended.trans (List.Sublist.append_right ordered _)

theorem Ordered.enqueueNext (ordered : Ordered s) {event : Stamped (List Char)}
    {batch : List (Stamped (List Char))} (shape : s.batch = event :: batch) :
    Ordered { enqueue s (.inbox event) with batch := batch } := by
  have intake := enqueue_intake s (.inbox event)
  have less : (line { enqueue s (.inbox event) with batch := batch }).Sublist (line s) := by
    show (sent (enqueue s (.inbox event)) ++ batch ++
      (enqueue s (.inbox event)).incoming.events.events).Sublist (line s)
    rw [intake.incoming, line, shape, List.append_cons]
    exact ((sent_enqueue s (.inbox event)).append_right _).append_right _
  exact ordered.less intake.pushed less

theorem Ordered.direct (ordered : Ordered s) (text : List Char) :
    Ordered (enqueue s (.direct text)) := by
  have intake := enqueue_intake s (.direct text)
  have less := sent_enqueue s (.direct text)
  apply ordered.less intake.pushed
  rw [line, line, intake.incoming, intake.batch]
  simp only [Outgoing.fromInbox, Option.toList_none, List.append_nil] at less
  exact (less.append_right _).append_right _

theorem Ordered.writeNext (ordered : Ordered s) : Ordered (writeNext s) := by
  have intake := writeNext_intake s
  apply ordered.less intake.pushed
  rw [line, line, intake.incoming, intake.batch, sent_writeNext]

/-! ## One write at a time -/

/-- With no write in flight, the next one may start. -/
theorem Flow.writeNext (idle : s.inFlight = []) (cleared : s.closed = false → s.writing = [])
    (texts : ∀ event ∈ s.outgoing.events, event.val.text ≠ [])
    (incoming : ∀ event ∈ s.batch ++ s.incoming.events.events, event.val ≠ []) :
    Flow (writeNext s) := by
  rcases writeNext_cases s with ⟨empty, same⟩ | ⟨front, rest, events, moved⟩
  · rw [same]
    refine ⟨by simp [idle], fun opened => by simp [cleared opened, idle], ?_, texts, incoming⟩
    intro _ _ some
    exact absurd empty some
  · obtain ⟨_, left, _⟩ := EventQueue.pop_cons events
    have text : front.val.text ≠ [] := texts front (by simp [events])
    rw [moved]
    refine ⟨by simp [idle], fun _ => by simp [text], fun _ _ _ => by simp, ?_, incoming⟩
    intro event member
    rw [left] at member
    exact texts event (by simp [events, member])

theorem texts_queued (flow : Flow s) {event : Outgoing} (text : event.text ≠ []) :
    ∀ e ∈ (queued s event).outgoing.events, e.val.text ≠ [] := by
  intro e member
  rcases EventQueue.mem_push member with rfl | old
  · exact text
  · exact flow.texts e old

theorem Flow.enqueue (flow : Flow s) {event : Outgoing} (text : event.text ≠ []) :
    Flow (enqueue s event) := by
  rcases enqueue_cases s event with ⟨_, same⟩ | ⟨opened, _, ⟨quiet, writes⟩ | ⟨busy, waits⟩⟩
  · rw [same]
    exact flow
  · rw [writes]
    exact .writeNext ((flow.busy opened).1 quiet) (fun _ => quiet) (texts_queued flow text)
      flow.incoming
  · rw [waits]
    have flying : s.inFlight ≠ [] := fun none => busy ((flow.busy opened).2 none)
    exact ⟨flow.single, flow.busy, fun _ _ _ => flying, texts_queued flow text, flow.incoming⟩

theorem Flow.push (flow : Flow s) {text : List Char} (some : text ≠ []) :
    Flow (pushIncoming s text) := by
  refine ⟨flow.single, flow.busy, flow.flowing, flow.texts, ?_⟩
  intro event member
  rcases List.mem_append.1 member with running | waiting
  · exact flow.incoming event (List.mem_append_left _ running)
  · rcases EventQueue.mem_push waiting with rfl | old
    · exact some
    · exact flow.incoming event (List.mem_append_right _ old)

theorem Flow.onWrite (flow : Flow s) {done : Outgoing} {rest : List Outgoing}
    (shape : s.inFlight = done :: rest) (error : Bool) :
    Flow (onWrite { s with inFlight := rest } error) := by
  have none : rest = [] := by
    have single := flow.single
    rw [shape, List.length_cons] at single
    exact List.length_eq_zero_iff.1 (by omega)
  subst none
  cases error with
  | true =>
    exact ⟨Nat.zero_le _, fun opened => absurd opened (by simp [Web.onWrite, cleanup]),
      fun opened => absurd opened (by simp [Web.onWrite, cleanup]), flow.texts, flow.incoming⟩
  | false =>
    simp only [Web.onWrite, Bool.false_eq_true, if_false]
    cases stopping : s.stopping with
    | true =>
      simp only [if_true, beginClose]
      split
      · exact ⟨Nat.zero_le _, fun _ => by simp, fun _ going => (by simp at going),
          flow.texts, flow.incoming⟩
      · exact ⟨Nat.zero_le _, fun _ => by simp, fun _ going => (by simp at going),
          flow.texts, flow.incoming⟩
    | false =>
      simp only [Bool.false_eq_true, if_false]
      exact .writeNext rfl (fun _ => rfl) flow.texts flow.incoming

/-! ## The newest event is kept -/

theorem Kept.writeNext (kept : Kept s) : Kept (writeNext s) := by
  rcases writeNext_cases s with ⟨_, same⟩ | ⟨front, rest, events, moved⟩
  · rw [same]
    exact kept
  · obtain ⟨_, left, capacity, dropped⟩ := EventQueue.pop_cons events
    rw [moved]
    refine ⟨kept.inbox, capacity.trans kept.outgoing, kept.inboxCounted,
      dropped.trans kept.outgoingCounted, ?_, kept.inboxOlder, kept.outgoingOlder⟩
    intro event member
    rw [left] at member
    exact kept.stamps event (by simp [events, member])

theorem Kept.queued (kept : Kept s) (event : Outgoing) : Kept (queued s event) := by
  constructor
  · exact kept.inbox
  · exact (s.outgoing.push_capacity _).trans kept.outgoing
  · exact kept.inboxCounted
  · have counted := s.outgoing.push_counted ⟨s.enqueued, event⟩
    rw [kept.outgoingCounted, ← List.length_append] at counted
    exact counted
  · intro e member
    show e.stamp < s.enqueued + 1
    rcases EventQueue.mem_push member with rfl | old
    · exact Nat.lt_succ_self _
    · have := kept.stamps e old
      omega
  · exact kept.inboxOlder
  · intro e member
    show e.stamp + 1 < s.enqueued + 1
    rcases List.mem_append.1 member with before | now
    · have := kept.outgoingOlder e before
      omega
    · have := kept.stamps e (EventQueue.mem_of_dropped now)
      omega

theorem Kept.enqueue (kept : Kept s) (event : Outgoing) : Kept (enqueue s event) := by
  rcases enqueue_cases s event with ⟨_, same⟩ | ⟨_, _, ⟨_, writes⟩ | ⟨_, waits⟩⟩
  · rw [same]
    exact kept
  · rw [writes]
    exact (kept.queued event).writeNext
  · rw [waits]
    exact kept.queued event

theorem Kept.push (kept : Kept s) (ordered : Ordered s) (text : List Char) :
    Kept (pushIncoming s text) := by
  constructor
  · exact (s.incoming.events.push_capacity _).trans kept.inbox
  · exact kept.outgoing
  · have counted := s.incoming.events.push_counted ⟨s.pushed.length, text⟩
    rw [kept.inboxCounted, ← List.length_append] at counted
    exact counted
  · exact kept.outgoingCounted
  · exact kept.stamps
  · intro e member
    show e.stamp + 1 < (s.pushed ++ [text]).length
    rw [List.length_append, List.length_singleton]
    rcases List.mem_append.1 member with before | now
    · have := kept.inboxOlder e before
      omega
    · have published : e ∈ positions s.pushed :=
        List.Sublist.subset ordered (List.mem_append_right _ (EventQueue.mem_of_dropped now))
      have := (List.getElem?_eq_some_iff.1 (positions_recorded _ e published)).1
      omega
  · exact kept.outgoingOlder

/-- The event just pushed is the last of the inbox. -/
theorem pushIncoming_newest (s : State) (text : List Char) :
    (pushIncoming s text).incoming.events.events.getLast? = some ⟨s.pushed.length, text⟩ :=
  s.incoming.events.push_newest _

/-- The event just enqueued is the last of `outgoing_`, or it is being written. -/
theorem enqueue_newest {s : State} (opened : s.closed = false) (going : s.stopping = false)
    (event : Outgoing) : ((enqueue s event).written ++
      (enqueue s event).outgoing.events.map Stamped.val).getLast? = some event := by
  obtain ⟨kept, events, _⟩ := s.outgoing.push_keeps ⟨s.enqueued, event⟩
  have last : (queued s event).written ++ (queued s event).outgoing.events.map Stamped.val =
      s.written ++ kept.map Stamped.val ++ [event] := by
    show s.written ++ (s.outgoing.push ⟨s.enqueued, event⟩).1.events.map Stamped.val = _
    rw [events, List.map_append, List.append_assoc]
    rfl
  rcases enqueue_cases s event with ⟨shut | ending, _⟩ | ⟨_, _, ⟨_, writes⟩ | ⟨_, waits⟩⟩
  · cases opened.symm.trans shut
  · cases going.symm.trans ending
  · have moves : (writeNext (queued s event)).written ++
        (writeNext (queued s event)).outgoing.events.map Stamped.val =
          (queued s event).written ++ (queued s event).outgoing.events.map Stamped.val := by
      rcases writeNext_cases (queued s event) with ⟨_, same⟩ | ⟨front, rest, shape, moved⟩
      · rw [same]
      · obtain ⟨_, left, _⟩ := EventQueue.pop_cons shape
        rw [moved, shape]
        simp only [left, List.map_cons, List.append_assoc, List.singleton_append]
    rw [writes, moves, last, List.getLast?_concat]
  · rw [waits, last, List.getLast?_concat]

/-! ## No event is lost silently -/

/-- A step that moves events along. -/
theorem Accounted.moved (accounted : Accounted s) (pushed : s'.pushed = s.pushed)
    (opened : s'.closed = false → s.closed = false)
    (going : s'.stopping = false → s.stopping = false)
    (same : s.closed = false → s.stopping = false → (line s' ++ lost s').Perm (line s ++ lost s)) :
    Accounted s' := by
  intro opened' going'
  rw [pushed]
  exact (same (opened opened') (going going')).trans (accounted (opened opened') (going going'))

theorem Accounted.push (accounted : Accounted s) (text : List Char) :
    Accounted (pushIncoming s text) := by
  intro opened going
  obtain ⟨kept, events, before⟩ := s.incoming.events.push_keeps ⟨s.pushed.length, text⟩
  have grown : (line (pushIncoming s text) ++ lost (pushIncoming s text)).Perm
      (line s ++ lost s ++ [⟨s.pushed.length, text⟩]) := by
    show (sent s ++ s.batch ++ (s.incoming.events.push ⟨s.pushed.length, text⟩).1.events ++
      (s.inboxDropped ++ (s.incoming.events.push ⟨s.pushed.length, text⟩).2.toList ++
        s.outgoingDropped.filterMap fun event => event.val.fromInbox)).Perm _
    rw [events, line, lost, ← before, List.perm_iff_count]
    intro e
    simp only [List.count_append]
    omega
  show (line (pushIncoming s text) ++ _).Perm (positions (s.pushed ++ [text]))
  rw [positions_snoc]
  exact grown.trans ((accounted opened going).append_right _)

/-- `enqueue` leaves the flags of a shutdown alone. -/
theorem enqueue_flags (s : State) (event : Outgoing) :
    (enqueue s event).closed = s.closed ∧ (enqueue s event).stopping = s.stopping := by
  rcases enqueue_cases s event with ⟨_, same⟩ | ⟨_, _, ⟨_, writes⟩ | ⟨_, waits⟩⟩
  · rw [same]
    exact ⟨rfl, rfl⟩
  · rw [writes]
    rcases writeNext_cases (queued s event) with ⟨_, same⟩ | ⟨front, rest, _, moved⟩
    · rw [same]
      exact ⟨rfl, rfl⟩
    · rw [moved]
      exact ⟨rfl, rfl⟩
  · rw [waits]
    exact ⟨rfl, rfl⟩

theorem Accounted.enqueueNext (accounted : Accounted s) {event : Stamped (List Char)}
    {batch : List (Stamped (List Char))} (shape : s.batch = event :: batch) :
    Accounted { enqueue s (.inbox event) with batch := batch } := by
  have intake := enqueue_intake s (.inbox event)
  obtain ⟨closed, stopping⟩ := enqueue_flags s (.inbox event)
  refine accounted.moved intake.pushed (fun opened => closed.symm.trans opened)
    (fun going => stopping.symm.trans going) fun opened going => ?_
  have moves := account_enqueue opened going (.inbox event)
  show (sent (enqueue s (.inbox event)) ++ batch ++
    (enqueue s (.inbox event)).incoming.events.events ++ lost (enqueue s (.inbox event))).Perm _
  rw [intake.incoming, line, shape]
  rw [List.perm_iff_count] at moves ⊢
  intro e
  have counted := moves e
  simp only [List.count_append, Outgoing.fromInbox, Option.toList_some, List.count_cons,
    List.count_nil] at counted ⊢
  omega

theorem Accounted.direct (accounted : Accounted s) (text : List Char) :
    Accounted (enqueue s (.direct text)) := by
  have intake := enqueue_intake s (.direct text)
  obtain ⟨closed, stopping⟩ := enqueue_flags s (.direct text)
  refine accounted.moved intake.pushed (fun opened => closed.symm.trans opened)
    (fun going => stopping.symm.trans going) fun opened going => ?_
  have moves := account_enqueue opened going (.direct text)
  rw [line, line, intake.incoming, intake.batch]
  rw [List.perm_iff_count] at moves ⊢
  intro e
  have counted := moves e
  simp only [List.count_append, Outgoing.fromInbox, Option.toList_none, List.count_nil] at counted ⊢
  omega

theorem Accounted.writeNext (accounted : Accounted s) : Accounted (writeNext s) := by
  have intake := writeNext_intake s
  have same : line (Web.writeNext s) ++ lost (Web.writeNext s) = line s ++ lost s := by
    rw [line, line, intake.incoming, intake.batch, sent_writeNext, lost_writeNext]
  rcases writeNext_cases s with ⟨_, unmoved⟩ | ⟨front, rest, _, moved⟩
  · rw [unmoved]
    exact accounted
  · refine accounted.moved intake.pushed ?_ ?_ fun _ _ => .of_eq same
    · rw [moved]
      exact id
    · rw [moved]
      exact id

theorem Accounted.onWrite (accounted : Accounted s) (error : Bool) : Accounted (onWrite s error) := by
  have cleared : Accounted { s with writing := [] } := accounted
  unfold Web.onWrite
  split
  · intro opened
    cases opened
  · dsimp only
    split
    · next stopping =>
      unfold beginClose
      split
      · exact cleared
      · exact cleared
    · exact cleared.writeNext

/-! ## A drain is on its way -/

theorem Scheduled.intake (scheduled : Scheduled s) (same : SameIntake s s') : Scheduled s' := by
  constructor
  · rw [same.posters, same.posted, same.incoming]
    exact scheduled.one
  · rw [same.incoming]
    exact scheduled.noticed

/-- The first push after a drain has its caller post the next one. -/
theorem Scheduled.push (scheduled : Scheduled s) (text : List Char) :
    Scheduled (pushIncoming s text) := by
  have one := scheduled.one
  constructor
  · show s.posters + (if !s.incoming.drainScheduled then 1 else 0) + s.posted = 1
    cases flag : s.incoming.drainScheduled with
    | true =>
      simp only [flag, if_true] at one
      simpa using one
    | false =>
      simp only [flag, Bool.false_eq_true, if_false] at one
      simp only [Bool.not_false, if_true]
      omega
  · exact fun _ => rfl

theorem Scheduled.post (scheduled : Scheduled s) {posters : Nat} (shape : s.posters = posters + 1) :
    Scheduled { s with posters := posters, posted := s.posted + 1 } := by
  have one := scheduled.one
  refine ⟨?_, scheduled.noticed⟩
  show posters + (s.posted + 1) = if s.incoming.drainScheduled then 1 else 0
  omega

theorem Scheduled.drain (scheduled : Scheduled s) {posted : Nat} (shape : s.posted = posted + 1) :
    Scheduled { s with
      incoming := s.incoming.drain.2, posted := posted, batch := s.incoming.drain.1 } := by
  have one := scheduled.one
  constructor
  · show s.posters + posted = 0
    split at one <;> omega
  · exact fun some => absurd rfl some

/-! ## Runs -/

/-- What does not depend on the writes or on the flags of a shutdown. -/
structure Tracks (s : State) : Prop where
  ordered : Ordered s
  scheduled : Scheduled s
  kept : Kept s

structure Inv (s : State) : Prop where
  tracks : Tracks s
  flow : Flow s
  accounted : Accounted s

theorem Tracks.outside (tracks : Tracks s) (writing : List Char) (inFlight : List Outgoing)
    (closed stopping closing : Bool) :
    Tracks { s with
      writing := writing, inFlight := inFlight
      closed := closed, stopping := stopping, closing := closing } := by
  obtain ⟨ordered, ⟨one, noticed⟩, ⟨inbox, outgoing, counted, counted', stamps, older, older'⟩⟩ := tracks
  exact ⟨ordered, ⟨one, noticed⟩, ⟨inbox, outgoing, counted, counted', stamps, older, older'⟩⟩

theorem Tracks.beginClose (tracks : Tracks s) : Tracks (beginClose s) := by
  unfold Web.beginClose
  split
  · exact tracks
  · exact tracks.outside _ _ _ _ true

theorem Tracks.onWrite (tracks : Tracks s) (error : Bool) : Tracks (onWrite s error) := by
  have cleared : Tracks { s with writing := [] } := tracks.outside [] _ _ _ _
  unfold Web.onWrite
  split
  · exact tracks.outside _ _ true _ _
  · dsimp only
    split
    · exact cleared.beginClose
    · exact ⟨cleared.ordered.writeNext, cleared.scheduled.intake (writeNext_intake _),
        cleared.kept.writeNext⟩

theorem Inv.init : Inv {} := by
  constructor
  · constructor
    · exact List.nil_sublist _
    · exact ⟨rfl, fun some => absurd rfl some⟩
    · constructor <;> simp [EventQueue.create]
  · constructor <;> simp [EventQueue.create]
  · exact fun _ _ => .refl _

/-- A step that only raises flags of a shutdown. -/
theorem Inv.halt (inv : Inv s) {closed stopping : Bool} (closing : Bool)
    (halted : closed = false → s.closed = false) (ended : stopping = false → s.stopping = false) :
    Inv { s with closed := closed, stopping := stopping, closing := closing } := by
  have flow := inv.flow
  refine ⟨inv.tracks.outside _ _ _ _ _, ⟨flow.single, ?_, ?_, flow.texts, flow.incoming⟩, ?_⟩
  · intro opened
    exact flow.busy (halted opened)
  · intro opened going
    exact flow.flowing (halted opened) (ended going)
  · exact inv.accounted.moved rfl halted ended fun _ _ => .refl _

theorem Inv.cleanup (inv : Inv s) : Inv (cleanup s) := by
  apply inv.halt s.closing
  · intro opened
    cases opened
  · exact id

theorem Inv.stop (inv : Inv s) : Inv (stop s) := by
  have ended : true = false → s.stopping = false := by
    intro going
    cases going
  have stopping : Inv { s with stopping := true } := inv.halt s.closing id ended
  unfold Web.stop
  split
  · exact inv
  · dsimp only
    split
    · unfold beginClose
      split
      · exact stopping
      · exact inv.halt true id ended
    · exact stopping

theorem Inv.push (inv : Inv s) {text : List Char} (some : text ≠ []) :
    Inv (pushIncoming s text) := by
  have tracks := inv.tracks
  constructor
  · exact ⟨tracks.ordered.push text, tracks.scheduled.push text,
      tracks.kept.push tracks.ordered text⟩
  · exact inv.flow.push some
  · exact inv.accounted.push text

theorem Inv.post (inv : Inv s) {posters : Nat} (shape : s.posters = posters + 1) :
    Inv { s with posters := posters, posted := s.posted + 1 } := by
  obtain ⟨⟨ordered, scheduled, ⟨inbox, outgoing, counted, counted', stamps, older, older'⟩⟩,
    ⟨single, busy, flowing, texts, incoming⟩, accounted⟩ := inv
  exact ⟨⟨ordered, scheduled.post shape, ⟨inbox, outgoing, counted, counted', stamps, older, older'⟩⟩,
    ⟨single, busy, flowing, texts, incoming⟩, accounted⟩

theorem Inv.drain (inv : Inv s) {posted : Nat} (shape : s.posted = posted + 1)
    (idle : s.batch = []) :
    Inv { s with
      incoming := s.incoming.drain.2, posted := posted, batch := s.incoming.drain.1 } := by
  obtain ⟨⟨ordered, scheduled, ⟨inbox, outgoing, counted, counted', stamps, older, older'⟩⟩,
    ⟨single, busy, flowing, texts, incoming⟩, accounted⟩ := inv
  have moved : line { s with
      incoming := s.incoming.drain.2, posted := posted, batch := s.incoming.drain.1 } = line s := by
    simp [line, sent, idle, EventInbox.drain, EventQueue.clear]
  constructor
  · constructor
    · exact ordered.less rfl (moved ▸ List.Sublist.refl _)
    · exact scheduled.drain shape
    · exact ⟨inbox, outgoing, counted, counted', stamps, older, older'⟩
  · refine ⟨single, busy, flowing, texts, ?_⟩
    simpa [idle, EventInbox.drain, EventQueue.clear] using incoming
  · refine accounted.moved rfl id id fun _ _ => ?_
    rw [moved]
    exact .refl _

theorem Inv.enqueueNext (inv : Inv s) {event : Stamped (List Char)}
    {batch : List (Stamped (List Char))} (shape : s.batch = event :: batch) :
    Inv { enqueue s (.inbox event) with batch := batch } := by
  have intake := enqueue_intake s (.inbox event)
  have text : (Outgoing.inbox event).text ≠ [] := inv.flow.incoming event (by simp [shape])
  obtain ⟨one, noticed⟩ := inv.tracks.scheduled.intake intake
  obtain ⟨inbox, outgoing, counted, counted', stamps, older, older'⟩ :=
    inv.tracks.kept.enqueue (.inbox event)
  obtain ⟨single, busy, flowing, texts, incoming⟩ := inv.flow.enqueue text
  constructor
  · exact ⟨inv.tracks.ordered.enqueueNext shape, ⟨one, noticed⟩,
      ⟨inbox, outgoing, counted, counted', stamps, older, older'⟩⟩
  · refine ⟨single, busy, flowing, texts, ?_⟩
    intro e member
    apply incoming e
    rw [intake.batch, shape]
    exact List.mem_cons_of_mem _ member
  · exact inv.accounted.enqueueNext shape

theorem Inv.direct (inv : Inv s) {text : List Char} (some : text ≠ []) :
    Inv (enqueue s (.direct text)) := by
  have tracks := inv.tracks
  constructor
  · exact ⟨tracks.ordered.direct text, tracks.scheduled.intake (enqueue_intake s _),
      tracks.kept.enqueue _⟩
  · exact inv.flow.enqueue some
  · exact inv.accounted.direct text

theorem Inv.step (inv : Inv s) {action : Action} (moved : step s action = some s') : Inv s' := by
  cases action with
  | push type timestamp dataJson =>
    cases moved
    exact inv.push (makeEventJson_ne_nil type timestamp dataJson)
  | post =>
    simp only [Web.step] at moved
    split at moved
    · cases moved
    · next posters shape =>
      cases moved
      exact inv.post shape
  | drain =>
    simp only [Web.step] at moved
    split at moved
    · next posted shape idle =>
      cases moved
      exact inv.drain shape idle
    · cases moved
  | enqueueNext =>
    simp only [Web.step] at moved
    split at moved
    · next event batch shape =>
      cases moved
      exact inv.enqueueNext shape
    · cases moved
  | direct type timestamp dataJson =>
    simp only [Web.step] at moved
    split at moved
    · cases moved
      exact inv.direct (makeEventJson_ne_nil type timestamp dataJson)
    · cases moved
  | written error =>
    simp only [Web.step] at moved
    split at moved
    · next done rest shape _ =>
      cases moved
      have returned : Accounted { s with inFlight := rest } := inv.accounted
      exact ⟨(inv.tracks.outside _ rest _ _ _).onWrite error, inv.flow.onWrite shape error,
        returned.onWrite error⟩
    · cases moved
  | stop =>
    simp only [Web.step] at moved
    split at moved
    · cases moved
      exact inv.stop
    · cases moved
  | cleanup =>
    simp only [Web.step] at moved
    split at moved
    · cases moved
      exact inv.cleanup
    · cases moved

theorem runs_inv (run : Runs step Free {} s) : Inv s := by
  apply run.invariant
  · exact Inv.init
  · intro u action v inv _ moved
    exact inv.step moved

/-- What holds of a session between any two steps. -/
structure Delivered (s : State) : Prop where
  inOrder : (s.written.filterMap Outgoing.fromInbox).Sublist (positions s.pushed)
  once : ((s.written.filterMap Outgoing.fromInbox).map Stamped.stamp).Nodup
  single : s.inFlight.length ≤ 1
  noticed : s.incoming.events.events ≠ [] → s.posters + s.posted = 1
  flowing : s.closed = false → s.stopping = false → s.outgoing.events ≠ [] → s.inFlight ≠ []
  inboxBounded : s.incoming.events.events.length ≤ 32
  outgoingBounded : s.outgoing.events.length ≤ 32
  /-- Written, in `outgoing_`, in the batch, in the inbox, or dropped from one of the queues. -/
  accounted : s.closed = false → s.stopping = false →
    (s.written.filterMap Outgoing.fromInbox ++
      s.outgoing.events.filterMap (fun event => event.val.fromInbox) ++ s.batch ++
      s.incoming.events.events ++ s.inboxDropped ++
      s.outgoingDropped.filterMap fun event => event.val.fromInbox).Perm (positions s.pushed)
  /-- A publisher's event is the last of the inbox behind its push. -/
  inboxNewest : ∀ type timestamp dataJson v, step s (.push type timestamp dataJson) = some v →
    v.incoming.events.events.getLast? =
      some ⟨s.pushed.length, makeEventJson type timestamp dataJson⟩
  /-- An event enqueued is the last of `outgoing_`, or it is the one being written. -/
  outgoingNewest : s.closed = false → s.stopping = false → ∀ event,
    ((enqueue s event).written ++ (enqueue s event).outgoing.events.map Stamped.val).getLast? =
      some event
  inboxOlder : ∀ event ∈ s.inboxDropped, event.stamp + 1 < s.pushed.length
  outgoingOlder : ∀ event ∈ s.outgoingDropped, event.stamp + 1 < s.enqueued
  counted : s.incoming.events.dropped = s.inboxDropped.length ∧
    s.outgoing.dropped = s.outgoingDropped.length

theorem Inv.delivered (inv : Inv s) : Delivered s := by
  obtain ⟨⟨ordered, scheduled, kept⟩, flow, accounted⟩ := inv
  have front : (s.written.filterMap Outgoing.fromInbox).Sublist (line s) := by
    rw [line, sent, List.append_assoc, List.append_assoc]
    exact List.sublist_append_left _ _
  have delivered := front.trans ordered
  constructor
  · exact delivered
  · exact (positions_distinct s.pushed).sublist (delivered.map _)
  · exact flow.single
  · intro some
    rw [scheduled.one, scheduled.noticed some]
    rfl
  · exact flow.flowing
  · rw [← kept.inbox]
    exact s.incoming.events.bounded
  · rw [← kept.outgoing]
    exact s.outgoing.bounded
  · intro opened going
    have all := accounted opened going
    rwa [line, sent, lost, ← List.append_assoc] at all
  · intro type timestamp dataJson v moved
    cases moved
    exact pushIncoming_newest s _
  · exact fun opened going event => enqueue_newest opened going event
  · exact kept.inboxOlder
  · exact kept.outgoingOlder
  · exact ⟨kept.inboxCounted, kept.outgoingCounted⟩

/-- Publishers, drains, the session's own events and write completions in any order: the inbox
events written are pushed events in push order, each once; one write at most is in flight; events
in the inbox have a drain posted, or about to be; while the session is open, events in `outgoing_`
have a write in flight and every pushed event is on its way or was dropped; both queues stay within
their capacity, and what one drops is never the event it was given last. -/
theorem events_delivered (run : Runs step Free {} s) : Delivered s := by
  have inv := runs_inv run
  exact inv.delivered

/-- Two pushes and a drain: the second event waits in `outgoing_` behind the write of the first. Behind
32 more the inbox is full, and the next push drops the oldest of them. -/
theorem events_delivered_waiting : ∃ s v : State,
    (s.outgoing.events.length = 1 ∧ s.incoming.events.events.length = 32) ∧
    (s.written.filterMap Outgoing.fromInbox).Sublist (positions s.pushed) ∧ s.inFlight ≠ [] ∧
    s.posters + s.posted = 1 ∧ step s (.push .gps "t".toList "3".toList) = some v ∧
    v.inboxDropped.map Stamped.stamp = [2] ∧
    v.incoming.events.events.getLast? =
      some ⟨s.pushed.length, makeEventJson .gps "t".toList "3".toList⟩ := by
  have reached : ∃ s, Runs step Free {} s ∧ s.closed = false ∧ s.stopping = false ∧
      s.outgoing.events.length = 1 ∧ s.incoming.events.events.length = 32 ∧
      (pushIncoming s (makeEventJson .gps "t".toList "3".toList)).inboxDropped.map Stamped.stamp = [2] := by
    apply Runs.exists_of_play ([.push .alert "t".toList "1".toList, .push .gps "t".toList "2".toList,
      .post, .drain, .enqueueNext, .enqueueNext] ++
        List.replicate 32 (.push .gps "t".toList "3".toList))
    · decide +kernel
    · exact Meets.free _ _
  obtain ⟨s, run, opened, going, one, full, dropped⟩ := reached
  have delivered := events_delivered run
  have some : s.outgoing.events ≠ [] := by
    intro none
    rw [none] at one
    cases one
  have waiting : s.incoming.events.events ≠ [] := by
    intro none
    rw [none] at full
    cases full
  exact ⟨s, _, ⟨one, full⟩, delivered.inOrder, delivered.flowing opened going some,
    delivered.noticed waiting, rfl, dropped, delivered.inboxNewest _ _ _ _ rfl⟩

end SkaiEdge.Web
