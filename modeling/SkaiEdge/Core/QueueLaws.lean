import SkaiEdge.Lib.Runs
import SkaiEdge.Core.BoundedQueue

/-!
# The laws of a `BoundedQueue`

Every operation is one critical section of `mutex_`, so a run of the queue is a sequence of
operations from any threads. `History` records, since the last `reset`, the values of accepted
pushes and the values popped; `Lawful` says how the queue and its counters follow from them.
The values of accepted pushes split into those that have left the queue, popped, dropped or
discarded, and behind them the buffered ones.
-/

namespace SkaiEdge.Core

open SkaiEdge.Lib

variable {α : Type*}

inductive QueueAction (α : Type*) where
  | push (value : α)
  /-- A `pop` that woke up. -/
  | pop
  /-- A `pop_for` whose wait ended with its predicate true or with its time over. -/
  | popFor (timedOut : Bool)
  | discardAll
  | shutdown
  | reset
  deriving DecidableEq, Repr

structure QueueHistory (α : Type*) where
  queue : BoundedQueue α
  accepted : List α
  popped : List α

namespace QueueHistory

/-- The queue after `take_front`, the value recorded if there was one. -/
def take (h : QueueHistory α) : QueueHistory α :=
  { h with
    queue := h.queue.takeFront.2
    popped := h.popped ++ h.queue.takeFront.1.toList }

/-- A `pop` waits until the queue is ready, and a `pop_for` gives up only while it is not. -/
def step (h : QueueHistory α) : QueueAction α → Option (QueueHistory α)
  | .push value =>
    some { h with
      queue := (h.queue.push value).1
      accepted := if (h.queue.push value).2 then h.accepted ++ [value] else h.accepted }
  | .pop => if h.queue.ready then some h.take else none
  | .popFor timedOut =>
    if timedOut then (if h.queue.ready then none else some h)
    else if h.queue.ready then some h.take else none
  | .discardAll => some { h with queue := h.queue.discardAll.1 }
  | .shutdown => some { h with queue := h.queue.shutdown }
  | .reset => some ⟨h.queue.reset, [], []⟩

def start (capacity : Nat) (positive : 0 < capacity) : QueueHistory α :=
  ⟨.create capacity positive, [], []⟩

/-- What holds after every operation. -/
structure Lawful (h : QueueHistory α) : Prop where
  pushed : h.queue.stats.pushed = h.accepted.length
  popped : h.queue.stats.popped = h.popped.length
  conserved : h.queue.stats.pushed =
    h.queue.stats.popped + h.queue.stats.dropped + h.queue.stats.discarded + h.queue.items.length
  split : ∃ left, h.accepted = left ++ h.queue.items ∧ h.popped.Sublist left
  mark : h.queue.stats.highWaterMark ≤ h.queue.capacity

variable {h h' : QueueHistory α}

theorem Lawful.start (capacity : Nat) (positive : 0 < capacity) :
    Lawful (start capacity positive : QueueHistory α) :=
  ⟨rfl, rfl, rfl, ⟨[], rfl, .slnil⟩, Nat.zero_le _⟩

/-- A push appends to the accepted values; the value it drops joins those that left. -/
theorem Lawful.push (lawful : Lawful h) (value : α) :
    Lawful { h with
      queue := (h.queue.push value).1
      accepted := if (h.queue.push value).2 then h.accepted ++ [value] else h.accepted } := by
  obtain ⟨left, accepted, before⟩ := lawful.split
  have conserved := lawful.conserved
  have pushed := lawful.pushed
  cases down : h.queue.isShutdown with
  | true =>
    rw [BoundedQueue.push_down value down]
    exact lawful
  | false =>
    have bounded := (h.queue.push value).1.bounded
    have stats : (h.queue.push value).1.stats.pushed = h.queue.stats.pushed + 1 ∧
        (h.queue.push value).1.stats.popped = h.queue.stats.popped ∧
        (h.queue.push value).1.stats.discarded = h.queue.stats.discarded ∧
        (h.queue.push value).1.stats.highWaterMark =
          max h.queue.stats.highWaterMark (h.queue.push value).1.items.length ∧
        (h.queue.push value).1.capacity = h.queue.capacity := by
      simp [BoundedQueue.push, down]
    obtain ⟨more, sameP, sameD, mark, capacity⟩ := stats
    have water : (h.queue.push value).1.stats.highWaterMark ≤ (h.queue.push value).1.capacity := by
      have := lawful.mark
      omega
    rcases h.queue.push_cases value with
      ⟨down', _⟩ | ⟨_, _, yes, items, dropped⟩ | ⟨_, _, yes, ⟨oldest, items⟩, dropped⟩
    · rw [down] at down'
      cases down'
    · rw [yes, if_pos rfl]
      refine ⟨?_, sameP.trans lawful.popped, ?_, ⟨left, ?_, before⟩, water⟩
      · rw [more, pushed, List.length_append]
        rfl
      · rw [more, sameP, sameD, dropped, items, List.length_append]
        simp only [List.length_cons, List.length_nil]
        omega
      · rw [items, accepted, List.append_assoc]
    · have length := congrArg List.length items
      simp only [List.length_append, List.length_cons, List.length_nil] at length
      rw [yes, if_pos rfl]
      refine ⟨?_, sameP.trans lawful.popped, ?_, ⟨left ++ [oldest], ?_, ?_⟩, water⟩
      · rw [more, pushed, List.length_append]
        rfl
      · dsimp only
        omega
      · rw [accepted, List.append_assoc, items]
        simp
      · exact before.trans (List.sublist_append_left left [oldest])

/-- A pop moves the oldest buffered value to those that left. -/
theorem Lawful.take (lawful : Lawful h) : Lawful h.take := by
  obtain ⟨left, accepted, before⟩ := lawful.split
  have conserved := lawful.conserved
  cases items : h.queue.items with
  | nil =>
    have none := BoundedQueue.takeFront_nil items
    simpa [QueueHistory.take, none] using lawful
  | cons front rest =>
    obtain ⟨value, remaining, _⟩ := BoundedQueue.takeFront_cons items
    obtain ⟨stats, capacity⟩ := BoundedQueue.takeFront_stats items
    refine ⟨?_, ?_, ?_, ⟨left ++ [front], ?_, ?_⟩, ?_⟩
    · simpa only [QueueHistory.take, stats] using lawful.pushed
    · simp [QueueHistory.take, stats, value, lawful.popped]
    · rw [items, List.length_cons] at conserved
      simp only [QueueHistory.take, stats, remaining]
      omega
    · simp [QueueHistory.take, remaining, accepted, items]
    · simpa [QueueHistory.take, value] using before.append_right [front]
    · simpa only [QueueHistory.take, stats, capacity] using lawful.mark

theorem Lawful.step (lawful : Lawful h) {action : QueueAction α}
    (moved : h.step action = some h') : Lawful h' := by
  cases action with
  | push value =>
    obtain rfl := Option.some.inj moved
    exact lawful.push value
  | pop =>
    obtain ⟨_, ⟨⟩⟩ := Option.ite_none_right_eq_some.1 moved
    exact lawful.take
  | popFor timedOut =>
    cases timedOut with
    | true =>
      obtain ⟨_, ⟨⟩⟩ := Option.ite_none_left_eq_some.1 moved
      exact lawful
    | false =>
      obtain ⟨_, ⟨⟩⟩ := Option.ite_none_right_eq_some.1 moved
      exact lawful.take
  | discardAll =>
    obtain rfl := Option.some.inj moved
    obtain ⟨left, accepted, before⟩ := lawful.split
    refine ⟨lawful.pushed, lawful.popped, ?_, ⟨left ++ h.queue.items, ?_, ?_⟩, lawful.mark⟩
    · have := lawful.conserved
      simp only [BoundedQueue.discardAll, List.length_nil]
      omega
    · simpa using accepted
    · exact before.trans (List.sublist_append_left _ _)
  | shutdown =>
    obtain rfl := Option.some.inj moved
    exact ⟨lawful.pushed, lawful.popped, lawful.conserved, lawful.split, lawful.mark⟩
  | reset =>
    obtain rfl := Option.some.inj moved
    exact .start h.queue.capacity h.queue.positive

theorem step_capacity {action : QueueAction α} (moved : h.step action = some h') :
    h'.queue.capacity = h.queue.capacity := by
  have front : h.take.queue.capacity = h.queue.capacity := by
    cases items : h.queue.items with
    | nil => simp [QueueHistory.take, BoundedQueue.takeFront_nil items]
    | cons front rest => exact (BoundedQueue.takeFront_stats items).2
  cases action with
  | push value =>
    obtain rfl := Option.some.inj moved
    simp only [BoundedQueue.push]
    split <;> rfl
  | pop =>
    obtain ⟨_, ⟨⟩⟩ := Option.ite_none_right_eq_some.1 moved
    exact front
  | popFor timedOut =>
    cases timedOut with
    | true =>
      obtain ⟨_, ⟨⟩⟩ := Option.ite_none_left_eq_some.1 moved
      rfl
    | false =>
      obtain ⟨_, ⟨⟩⟩ := Option.ite_none_right_eq_some.1 moved
      exact front
  | discardAll | shutdown | reset =>
    obtain rfl := Option.some.inj moved
    rfl

/-- Until a `reset` a shut down queue stays shut down and accepts nothing. -/
theorem step_down {action : QueueAction α} (down : h.queue.isShutdown = true)
    (other : action ≠ .reset) (moved : h.step action = some h') :
    h'.queue.isShutdown = true ∧ h'.accepted = h.accepted := by
  have front : h.take.queue.isShutdown = true :=
    (BoundedQueue.takeFront_isShutdown h.queue).trans down
  cases action with
  | push value =>
    obtain rfl := Option.some.inj moved
    simp [BoundedQueue.push_down value down, down]
  | pop =>
    obtain ⟨_, ⟨⟩⟩ := Option.ite_none_right_eq_some.1 moved
    exact ⟨front, rfl⟩
  | popFor timedOut =>
    cases timedOut with
    | true =>
      obtain ⟨_, ⟨⟩⟩ := Option.ite_none_left_eq_some.1 moved
      exact ⟨down, rfl⟩
    | false =>
      obtain ⟨_, ⟨⟩⟩ := Option.ite_none_right_eq_some.1 moved
      exact ⟨front, rfl⟩
  | discardAll =>
    obtain rfl := Option.some.inj moved
    exact ⟨down, rfl⟩
  | shutdown =>
    obtain rfl := Option.some.inj moved
    exact ⟨rfl, rfl⟩
  | reset => exact absurd rfl other

/-- Pops in a row hand out the buffered values in order. -/
theorem play_pops (n : Nat) (h : QueueHistory α) (enough : n ≤ h.queue.items.length) :
    ∃ h', play step h (List.replicate n .pop) = some h' ∧
      h'.popped = h.popped ++ h.queue.items.take n ∧ h'.queue.items = h.queue.items.drop n := by
  induction n generalizing h with
  | zero => exact ⟨h, rfl, by simp, rfl⟩
  | succ n ih =>
    cases items : h.queue.items with
    | nil => simp [items] at enough
    | cons front rest =>
      obtain ⟨value, remaining, _⟩ := BoundedQueue.takeFront_cons items
      have ready : h.queue.ready = true := by simp [BoundedQueue.ready, items]
      have taken : h.take.queue.items = rest := remaining
      obtain ⟨h', played, popped, left⟩ := ih h.take (by rw [taken]; simpa [items] using enough)
      refine ⟨h', ?_, ?_, ?_⟩
      · rw [List.replicate_succ]
        show (h.step .pop).bind (fun t => play step t (List.replicate n .pop)) = some h'
        simp only [step, ready, if_true, Option.bind_some]
        exact played
      · rw [popped, taken]
        simp [QueueHistory.take, value]
      · rw [left, taken]
        simp

/-- **Conservation and order.** After every run of operations in any order: the counters since
the last `reset` add up; the buffered values are the last accepted ones and the popped values a
subsequence of those before them, both in push order; neither the size nor the high-water mark
passes the capacity; and a queue that was shut down accepts nothing until a `reset`, while pops
hand out all that is buffered. -/
theorem queue_conserves (capacity : Nat) (positive : 0 < capacity) (h : QueueHistory α)
    (run : Runs step Free (start capacity positive) h) :
    h.queue.stats.pushed = h.accepted.length ∧ h.queue.stats.popped = h.popped.length ∧
      h.queue.stats.pushed = h.queue.stats.popped + h.queue.stats.dropped +
        h.queue.stats.discarded + h.queue.items.length ∧
      (∃ left, h.accepted = left ++ h.queue.items ∧ h.popped.Sublist left) ∧
      h.queue.items.length ≤ capacity ∧ h.queue.stats.highWaterMark ≤ capacity ∧
      (h.queue.isShutdown = true →
        (∀ value, h.queue.push value = (h.queue, false)) ∧
        (∀ h', Runs step (fun _ action => action ≠ .reset) h h' →
          h'.queue.isShutdown = true ∧ h'.accepted = h.accepted) ∧
        ∃ h', play step h (List.replicate h.queue.items.length .pop) = some h' ∧
          h'.popped = h.popped ++ h.queue.items ∧ h'.queue.items = []) := by
  have capacityKept : h.queue.capacity = capacity := by
    apply run.invariant
    · rfl
    · intro u action v same _ moved
      exact (step_capacity moved).trans same
  have lawful : Lawful h := by
    apply run.invariant
    · exact .start capacity positive
    · intro u action v inv _ moved
      exact inv.step moved
  refine ⟨lawful.pushed, lawful.popped, lawful.conserved, lawful.split,
    capacityKept ▸ h.queue.bounded, capacityKept ▸ lawful.mark, fun down => ⟨?_, ?_, ?_⟩⟩
  · intro value
    exact BoundedQueue.push_down value down
  · intro h' later
    apply later.invariant
    · exact ⟨down, rfl⟩
    · rintro u action v ⟨still, same⟩ other moved
      obtain ⟨down', accepted⟩ := step_down still other moved
      exact ⟨down', accepted.trans same⟩
  · obtain ⟨h', played, popped, left⟩ := play_pops h.queue.items.length h (Nat.le_refl _)
    exact ⟨h', played, by rw [popped, List.take_length], by rw [left, List.drop_length]⟩

/-- An overflow, a shutdown and a pop. -/
theorem queue_conserves_overflow : ∃ h : QueueHistory Nat,
    h.queue.stats.pushed = 2 ∧ h.popped = [2] ∧
      h.queue.stats.pushed = h.queue.stats.popped + h.queue.stats.dropped +
        h.queue.stats.discarded + h.queue.items.length := by
  have reached : ∃ h : QueueHistory Nat, Runs step Free (start 1 Nat.one_pos) h ∧
      h.queue.stats.pushed = 2 ∧ h.popped = [2] := by
    apply Runs.exists_of_play [.push 1, .push 2, .shutdown, .push 3, .pop]
    · decide +kernel
    · exact Meets.free _ _
  obtain ⟨h, run, pushed, popped⟩ := reached
  exact ⟨h, pushed, popped, (queue_conserves 1 Nat.one_pos h run).2.2.1⟩

end QueueHistory

end SkaiEdge.Core
