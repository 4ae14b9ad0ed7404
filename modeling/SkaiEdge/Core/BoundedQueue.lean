import Mathlib

/-!
# `BoundedQueue` (`include/skai/core/bounded_queue.hpp`)

Each operation is one critical section of `mutex_`, so it is one step of any system that
shares the queue. The counters are unbounded here. `pop` and `pop_for` differ only in how long
they wait: both end in `take_front`, which answers `nullopt` exactly when the queue is empty.
-/

namespace SkaiEdge.Core

structure QueueStats where
  pushed : Nat
  popped : Nat
  dropped : Nat
  discarded : Nat
  highWaterMark : Nat
  deriving DecidableEq, Repr

/-- The constructor rejects capacity 0, and no operation leaves more than `capacity` values. -/
structure BoundedQueue (α : Type*) where
  capacity : Nat
  positive : 0 < capacity
  items : List α
  bounded : items.length ≤ capacity
  stats : QueueStats
  isShutdown : Bool

namespace BoundedQueue

variable {α : Type*}

instance [DecidableEq α] : DecidableEq (BoundedQueue α) := fun p q =>
  decidable_of_iff (p.capacity = q.capacity ∧ p.items = q.items ∧ p.stats = q.stats ∧
    p.isShutdown = q.isShutdown) ⟨fun ⟨h1, h2, h3, h4⟩ => by cases p; cases q; simp_all,
    fun h => h ▸ ⟨rfl, rfl, rfl, rfl⟩⟩

def create (capacity : Nat) (positive : 0 < capacity) : BoundedQueue α :=
  ⟨capacity, positive, [], Nat.zero_le _, ⟨0, 0, 0, 0, 0⟩, false⟩

/-- `queue_` after `push_back(value)` and the `pop_front` that an overflow asks for. -/
def pushBack (capacity : Nat) (items : List α) (value : α) : List α :=
  if (items ++ [value]).length > capacity then (items ++ [value]).tail else items ++ [value]

theorem pushBack_bounded {capacity : Nat} {items : List α} (value : α)
    (bounded : items.length ≤ capacity) : (pushBack capacity items value).length ≤ capacity := by
  unfold pushBack
  split
  · simp only [List.length_tail, List.length_append, List.length_cons, List.length_nil]
    omega
  · omega

def push (q : BoundedQueue α) (value : α) : BoundedQueue α × Bool :=
  if q.isShutdown then (q, false)
  else
    let queue := pushBack q.capacity q.items value
    let overflow := (q.items ++ [value]).length > q.capacity
    ({ q with
        items := queue
        bounded := pushBack_bounded value q.bounded
        stats := { q.stats with
          pushed := q.stats.pushed + 1
          dropped := if overflow then q.stats.dropped + 1 else q.stats.dropped
          highWaterMark := max q.stats.highWaterMark queue.length } }, true)

/-- `take_front`, with `mutex_` held. -/
def takeFront (q : BoundedQueue α) : Option α × BoundedQueue α :=
  match q with
  | ⟨_, _, [], _, _, _⟩ => (none, q)
  | ⟨capacity, positive, front :: rest, bounded, stats, down⟩ =>
    (some front, ⟨capacity, positive, rest, Nat.le_of_succ_le bounded,
      { stats with popped := stats.popped + 1 }, down⟩)

/-- A blocked `pop` wakes only here. -/
def ready (q : BoundedQueue α) : Bool := q.isShutdown || !q.items.isEmpty

def discardAll (q : BoundedQueue α) : BoundedQueue α × Nat :=
  ({ q with
      items := []
      bounded := Nat.zero_le _
      stats := { q.stats with discarded := q.stats.discarded + q.items.length } }, q.items.length)

def shutdown (q : BoundedQueue α) : BoundedQueue α := { q with isShutdown := true }

def reset (q : BoundedQueue α) : BoundedQueue α := create q.capacity q.positive

/-- A push into a queue that is already full drops the oldest value. -/
def full (q : BoundedQueue α) : Bool := decide (q.items.length = q.capacity)

/-- **What a push can do**: it is rejected, it appends, or it appends and drops the oldest. -/
theorem push_cases (q : BoundedQueue α) (value : α) :
    (q.isShutdown = true ∧ q.push value = (q, false)) ∨
    (q.isShutdown = false ∧ q.full = false ∧ (q.push value).2 = true ∧
      (q.push value).1.items = q.items ++ [value] ∧
      (q.push value).1.stats.dropped = q.stats.dropped) ∨
    (q.isShutdown = false ∧ q.full = true ∧ (q.push value).2 = true ∧
      (∃ oldest, q.items ++ [value] = oldest :: (q.push value).1.items) ∧
      (q.push value).1.stats.dropped = q.stats.dropped + 1) := by
  cases down : q.isShutdown with
  | true => exact .inl ⟨rfl, by simp [push, down]⟩
  | false =>
    have bounded := q.bounded
    by_cases size : q.items.length = q.capacity
    · refine .inr (.inr ⟨rfl, by simp [full, size], by simp [push, down], ?_, ?_⟩)
      · obtain ⟨oldest, rest, shape⟩ : ∃ x rest, q.items ++ [value] = x :: rest :=
          List.exists_cons_of_ne_nil (by simp)
        have length := congrArg List.length shape
        have long : q.capacity < rest.length + 1 := by simp at length; omega
        exact ⟨oldest, by simp [push, down, pushBack, shape, long]⟩
      · simp [push, down, size]
    · have small : ¬ q.capacity < q.items.length + 1 := by omega
      exact .inr (.inl ⟨rfl, by simp [full, size], by simp [push, down],
        by simp [push, down, pushBack, small], by simp [push, down, small]⟩)

theorem push_down {q : BoundedQueue α} (value : α) (down : q.isShutdown = true) :
    q.push value = (q, false) := by
  simp [push, down]

theorem push_accepted {q : BoundedQueue α} (value : α) (running : q.isShutdown = false) :
    (q.push value).2 = true := by
  simp [push, running]

theorem push_isShutdown (q : BoundedQueue α) (value : α) :
    (q.push value).1.isShutdown = q.isShutdown := by
  unfold push
  split <;> rfl

/-- A push brings in nothing but its value. -/
theorem mem_push {q : BoundedQueue α} {value x : α} (member : x ∈ (q.push value).1.items) :
    x ∈ q.items ∨ x = value := by
  rcases q.push_cases value with
    ⟨_, rejected⟩ | ⟨_, _, _, items, _⟩ | ⟨_, _, _, ⟨oldest, items⟩, _⟩
  · rw [rejected] at member
    exact .inl member
  · rw [items] at member
    simpa using member
  · have : x ∈ q.items ++ [value] := by
      rw [items]
      exact List.mem_cons_of_mem _ member
    simpa using this

theorem takeFront_cons {q : BoundedQueue α} {front : α} {rest : List α}
    (shape : q.items = front :: rest) :
    q.takeFront.1 = some front ∧ q.takeFront.2.items = rest ∧
      q.takeFront.2.stats.dropped = q.stats.dropped := by
  obtain ⟨capacity, positive, items, bounded, stats, down⟩ := q
  subst shape
  exact ⟨rfl, rfl, rfl⟩

theorem takeFront_eq {q : BoundedQueue α} {front : α} {rest : List α}
    (shape : q.items = front :: rest) : q.takeFront = (some front, q.takeFront.2) :=
  Prod.ext (takeFront_cons shape).1 rfl

theorem takeFront_stats {q : BoundedQueue α} {front : α} {rest : List α}
    (shape : q.items = front :: rest) :
    q.takeFront.2.stats = { q.stats with popped := q.stats.popped + 1 } ∧
      q.takeFront.2.capacity = q.capacity := by
  obtain ⟨capacity, positive, items, bounded, stats, down⟩ := q
  subst shape
  exact ⟨rfl, rfl⟩

theorem takeFront_nil {q : BoundedQueue α} (empty : q.items = []) : q.takeFront = (none, q) := by
  obtain ⟨capacity, positive, items, bounded, stats, down⟩ := q
  subst empty
  rfl

theorem takeFront_isShutdown (q : BoundedQueue α) : q.takeFront.2.isShutdown = q.isShutdown := by
  obtain ⟨capacity, positive, items, bounded, stats, down⟩ := q
  cases items <;> rfl

@[simp] theorem discardAll_items (q : BoundedQueue α) : q.discardAll.1.items = [] := rfl

@[simp] theorem discardAll_dropped (q : BoundedQueue α) :
    q.discardAll.1.stats.dropped = q.stats.dropped := rfl

@[simp] theorem shutdown_items (q : BoundedQueue α) : q.shutdown.items = q.items := rfl

@[simp] theorem shutdown_stats (q : BoundedQueue α) : q.shutdown.stats = q.stats := rfl

end BoundedQueue

end SkaiEdge.Core
