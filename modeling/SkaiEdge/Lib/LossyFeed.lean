import Mathlib
import SkaiEdge.Lib.Stream

/-!
# A gated consumer behind a lossy buffer

What a consumer has to do to deliver a stream without gaps when the buffer in front of it may
lose its oldest values. The buffer counts its losses (`dropped`); the consumer compares that
count with the one it saw last (`observed`) after it has taken a value, and while `waiting`
it delivers restart points only. Taking a value and reading the count are two steps, so a
loss may fall between them. `Step` allows that loss only while the value in hand is no
restart point: a restart point passes the gate whatever the count says, and a loss counted
together with it is never noticed again. Under that one restriction `Inv` is kept, and the
delivered list is `GapFree` whatever else the buffer and the consumer do.
-/

namespace SkaiEdge.Lib

/-- What the consumer holds: nothing, a value it took and has not compared the loss count for,
or a value that passed the gate. -/
inductive Hand (α : Type*) where
  | empty
  | taken (u : Stamped α)
  | passed (u : Stamped α)

def Hand.toList {α : Type*} : Hand α → List (Stamped α)
  | .empty => []
  | .taken u | .passed u => [u]

structure Feed (α : Type*) where
  next : Nat
  pending : List (Stamped α)
  dropped : Nat
  observed : Nat
  waiting : Bool
  hand : Hand α
  delivered : List (Stamped α)

namespace Feed

variable {α : Type*} (key : α → Bool)

/-- Every value that is delivered, held or buffered. -/
def units (f : Feed α) : List (Stamped α) := f.delivered ++ f.hand.toList ++ f.pending

/-- The moves of the buffer and of the consumer. -/
inductive Step : Feed α → Feed α → Prop where
  | publish {f : Feed α} (u : Stamped α) (follows : key u.val = true ∨ u.stamp = f.next) :
      Step f { f with pending := f.pending ++ [u], next := u.stamp + 1 }
  | drop {f : Feed α} (u : Stamped α) (rest : List (Stamped α)) (oldest : f.pending = u :: rest)
      (unread : ∀ k, f.hand = .taken k → key k.val = false) :
      Step f { f with pending := rest, dropped := f.dropped + 1 }
  | discard {f : Feed α} (idle : f.hand = .empty) :
      Step f { f with pending := [], waiting := true }
  | take {f : Feed α} (u : Stamped α) (rest : List (Stamped α)) (idle : f.hand = .empty)
      (oldest : f.pending = u :: rest) : Step f { f with pending := rest, hand := .taken u }
  | rearm {f : Feed α} (seen : Nat) (bound : seen ≤ f.dropped) :
      Step f { f with observed := seen, waiting := true, hand := .empty }
  | pass {f : Feed α} (u : Stamped α) (wait : Bool) (held : f.hand = .taken u)
      (opens : key u.val = true ∨ f.waiting = false ∧ f.observed = f.dropped) :
      Step f { f with observed := f.dropped, waiting := wait, hand := .passed u }
  | deliver {f : Feed α} (u : Stamped α) (held : f.hand = .passed u) :
      Step f { f with delivered := f.delivered ++ [u], waiting := false, hand := .empty }
  | shut {f : Feed α} : Step f { f with waiting := true }
  | restart {f : Feed α} (seen : Nat) (bound : seen ≤ f.dropped) :
      Step f { f with observed := seen, waiting := true, hand := .empty, delivered := [] }
  | reopen {f : Feed α} (u : Stamped α) (held : f.hand = .passed u) (opens : key u.val = true) :
      Step f { f with delivered := [] }

variable {key}

/-- The last value delivered, followed by `l`, feeds the stream. -/
def Resumes (key : α → Bool) (f : Feed α) (l : List (Stamped α)) : Prop :=
  ∃ last, f.delivered.getLast? = some last ∧ Feeds key (last :: l) f.next

/-- What ties the value in hand to the delivered list and to the buffer. -/
def HandInv (key : α → Bool) (f : Feed α) : Prop :=
  match f.hand with
  | .empty => f.waiting = false → f.observed = f.dropped → Resumes key f f.pending
  | .taken u => (key u.val = true → Feeds key (u :: f.pending) f.next) ∧
      (f.waiting = false → f.observed = f.dropped → Resumes key f (u :: f.pending))
  | .passed u => (f.observed = f.dropped → Feeds key (u :: f.pending) f.next) ∧
      (key u.val = true ∨ ∃ last, f.delivered.getLast? = some last ∧ Linked key last u)

structure Inv (key : α → Bool) (f : Feed α) : Prop where
  gapFree : GapFree key f.delivered
  buffer : Feeds key f.pending f.next
  counted : f.observed ≤ f.dropped
  hand : HandInv key f

theorem Resumes.snoc {f : Feed α} {l : List (Stamped α)} {u : Stamped α} (h : Resumes key f l)
    (follows : key u.val = true ∨ u.stamp = f.next) :
    ∃ last, f.delivered.getLast? = some last ∧ Feeds key (last :: (l ++ [u])) (u.stamp + 1) := by
  obtain ⟨last, found, feeds⟩ := h
  exact ⟨last, found, feeds.snoc follows⟩

theorem Inv.publish {f : Feed α} {u : Stamped α} (inv : Inv key f)
    (follows : key u.val = true ∨ u.stamp = f.next) :
    Inv key { f with pending := f.pending ++ [u], next := u.stamp + 1 } := by
  refine ⟨inv.gapFree, inv.buffer.snoc follows, inv.counted, ?_⟩
  have held := inv.hand
  unfold HandInv at held ⊢
  cases hand : f.hand with
  | empty =>
    simp only [hand] at held
    exact fun open' seen => (held open' seen).snoc follows
  | taken k =>
    simp only [hand] at held
    exact ⟨fun restart => (held.1 restart).snoc follows,
      fun open' seen => (held.2 open' seen).snoc follows⟩
  | passed k =>
    simp only [hand] at held
    exact ⟨fun seen => (held.1 seen).snoc follows, held.2⟩

/-- A loss makes `observed` stale, so only the value in hand still has to be looked at: it is
no restart point, or it has already passed. -/
theorem Inv.drop {f : Feed α} {u : Stamped α} {rest : List (Stamped α)} (inv : Inv key f)
    (oldest : f.pending = u :: rest) (unread : ∀ k, f.hand = .taken k → key k.val = false) :
    Inv key { f with pending := rest, dropped := f.dropped + 1 } := by
  have stale : f.observed ≠ f.dropped + 1 := by have := inv.counted; omega
  refine ⟨inv.gapFree, (oldest ▸ inv.buffer).tail, Nat.le_succ_of_le inv.counted, ?_⟩
  have held := inv.hand
  unfold HandInv at held ⊢
  cases hand : f.hand with
  | empty => exact fun _ seen => absurd seen stale
  | taken k =>
    have delta := unread k hand
    exact ⟨fun restart => absurd restart (by simp [delta]), fun _ seen => absurd seen stale⟩
  | passed k =>
    simp only [hand] at held
    exact ⟨fun seen => absurd seen stale, held.2⟩

theorem Inv.take {f : Feed α} {u : Stamped α} {rest : List (Stamped α)} (inv : Inv key f)
    (idle : f.hand = .empty) (oldest : f.pending = u :: rest) :
    Inv key { f with pending := rest, hand := .taken u } := by
  refine ⟨inv.gapFree, (oldest ▸ inv.buffer).tail, inv.counted, ?_⟩
  have held := inv.hand
  simp only [HandInv, idle, oldest] at held
  exact ⟨fun _ => oldest ▸ inv.buffer, held⟩

theorem Inv.pass {f : Feed α} {u : Stamped α} (wait : Bool) (inv : Inv key f)
    (hand : f.hand = .taken u) (opens : key u.val = true ∨ f.waiting = false ∧ f.observed = f.dropped) :
    Inv key { f with observed := f.dropped, waiting := wait, hand := .passed u } := by
  refine ⟨inv.gapFree, inv.buffer, Nat.le_refl _, ?_⟩
  have held := inv.hand
  simp only [HandInv, hand] at held
  rcases opens with restart | ⟨open', seen⟩
  · exact ⟨fun _ => held.1 restart, .inl restart⟩
  · obtain ⟨last, found, feeds⟩ := held.2 open' seen
    exact ⟨fun _ => feeds.tail, .inr ⟨last, found, feeds.linked⟩⟩

theorem Inv.deliver {f : Feed α} {u : Stamped α} (inv : Inv key f) (hand : f.hand = .passed u) :
    Inv key { f with delivered := f.delivered ++ [u], waiting := false, hand := .empty } := by
  have held := inv.hand
  simp only [HandInv, hand] at held
  exact ⟨inv.gapFree.snoc held.2, inv.buffer, inv.counted,
    fun _ seen => ⟨u, by simp, held.1 seen⟩⟩

theorem Inv.shut {f : Feed α} (inv : Inv key f) : Inv key { f with waiting := true } := by
  refine ⟨inv.gapFree, inv.buffer, inv.counted, ?_⟩
  have held := inv.hand
  unfold HandInv at held ⊢
  cases hand : f.hand with
  | empty => exact fun armed => nomatch armed
  | taken k =>
    simp only [hand] at held
    exact ⟨held.1, fun armed => nomatch armed⟩
  | passed k => simpa only [hand] using held

/-- Every move keeps the invariant. -/
theorem Inv.step {f g : Feed α} (inv : Inv key f) (step : Step key f g) : Inv key g := by
  cases step with
  | publish u follows => exact inv.publish follows
  | drop u rest oldest unread => exact inv.drop oldest unread
  | discard idle =>
    refine ⟨inv.gapFree, .nil, inv.counted, ?_⟩
    simp only [HandInv, idle]
    exact fun armed => nomatch armed
  | take u rest idle oldest => exact inv.take idle oldest
  | rearm seen bound => exact ⟨inv.gapFree, inv.buffer, bound, fun armed => nomatch armed⟩
  | pass u wait held opens => exact inv.pass wait held opens
  | deliver u held => exact inv.deliver held
  | shut => exact inv.shut
  | restart seen bound => exact ⟨.nil, inv.buffer, bound, fun armed => nomatch armed⟩
  | reopen u held opens =>
    have passed := inv.hand
    simp only [HandInv, held] at passed
    refine ⟨.nil, inv.buffer, inv.counted, ?_⟩
    simp only [HandInv, held]
    exact ⟨passed.1, .inl opens⟩

/-- **A run of the feed keeps the invariant**, so what it delivers is gap-free. -/
theorem Inv.run {f g : Feed α} (inv : Inv key f)
    (run : Relation.ReflTransGen (Step key) f g) : Inv key g := by
  induction run with
  | refl => exact inv
  | tail _ step ih => exact ih.step step

end Feed

end SkaiEdge.Lib
