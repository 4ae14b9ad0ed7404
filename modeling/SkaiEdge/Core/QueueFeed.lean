import SkaiEdge.Lib.LossyFeed
import SkaiEdge.Core.BoundedQueue

/-!
# A `BoundedQueue` as the buffer of a feed

The queue that drops its oldest value on overflow and counts it in `stats().dropped` is the
lossy buffer of `Lib.Feed`: an accepted push is a publication, followed by a loss when the
queue was full, and a pop takes the oldest value.
-/

namespace SkaiEdge.Core.BoundedQueue

open SkaiEdge.Lib

variable {α : Type*} {key : α → Bool} {f : Feed α} {q : BoundedQueue (Stamped α)}

/-- An accepted push, in the feed's moves. -/
theorem push_feeds {u : Stamped α} (pending : f.pending = q.items)
    (dropped : f.dropped = q.stats.dropped) (running : q.isShutdown = false)
    (follows : key u.val = true ∨ u.stamp = f.next)
    (unread : q.full = true → ∀ k, f.hand = .taken k → key k.val = false) :
    Relation.ReflTransGen (Feed.Step key) f
      { f with
        pending := (q.push u).1.items
        dropped := (q.push u).1.stats.dropped
        next := u.stamp + 1 } := by
  have published := Feed.Step.publish (f := f) u follows
  rcases q.push_cases u with ⟨down, _⟩ | ⟨_, _, _, items, same⟩ | ⟨_, full, _, ⟨oldest, items⟩, lost⟩
  · rw [running] at down; cases down
  · rw [items, same, ← pending, ← dropped]
    exact .single published
  · rw [lost, ← dropped]
    exact .tail (.single published) (.drop oldest _ (by rw [← items, pending]) (unread full))

/-- The feed behind a queue whose pushes are recorded in `log`, after a push. -/
def pushed (f : Feed α) (q : BoundedQueue (Stamped α)) (log : List α) (a : α) : Feed α :=
  { f with
    pending := (q.push ⟨log.length, a⟩).1.items
    dropped := (q.push ⟨log.length, a⟩).1.stats.dropped
    next := (if (q.push ⟨log.length, a⟩).2 then log ++ [a] else log).length }

/-- **A push keeps the feed's invariant and the log**, unless it drops a value behind an unread
restart point. -/
theorem push_keeps {log : List α} (a : α) (inv : Feed.Inv key f) (recorded : Recorded log f.units)
    (pending : f.pending = q.items) (dropped : f.dropped = q.stats.dropped)
    (next : f.next = log.length)
    (unread : q.isShutdown = false → q.full = true → ∀ k, f.hand = .taken k → key k.val = false) :
    Feed.Inv key (pushed f q log a) ∧
      Recorded (if (q.push ⟨log.length, a⟩).2 then log ++ [a] else log) (pushed f q log a).units := by
  cases down : q.isShutdown with
  | true =>
    have rejected := push_down (⟨log.length, a⟩ : Stamped α) down
    have same : pushed f q log a = f := by
      simp only [pushed, rejected, Bool.false_eq_true, ↓reduceIte, ← pending, ← dropped]
      rw [← next]
    rw [same, rejected]
    exact ⟨inv, recorded⟩
  | false =>
    have accepted := push_accepted (⟨log.length, a⟩ : Stamped α) down
    have moves := push_feeds (f := f) (u := ⟨log.length, a⟩) pending dropped down
      (.inr next.symm) (unread down)
    have after : pushed f q log a = { f with
        pending := (q.push ⟨log.length, a⟩).1.items
        dropped := (q.push ⟨log.length, a⟩).1.stats.dropped
        next := log.length + 1 } := by simp [pushed, accepted]
    rw [after, accepted]
    refine ⟨inv.run moves, recorded.publish a fun u member => ?_⟩
    simp only [Feed.units, pending, List.mem_append] at member ⊢
    rcases member with held | new
    · exact .inr (.inl held)
    · exact (mem_push new).symm.imp_right .inr

/-- A pop of a non-empty queue, in the feed's moves. -/
theorem takeFront_feeds {front : Stamped α} {rest : List (Stamped α)}
    (pending : f.pending = q.items) (dropped : f.dropped = q.stats.dropped)
    (idle : f.hand = .empty) (shape : q.items = front :: rest) :
    Relation.ReflTransGen (Feed.Step key) f
      { f with
        pending := q.takeFront.2.items
        dropped := q.takeFront.2.stats.dropped
        hand := .taken front } := by
  obtain ⟨_, items, same⟩ := takeFront_cons shape
  rw [items, same, ← dropped]
  exact .single (.take front rest idle (pending.trans shape))

end SkaiEdge.Core.BoundedQueue
