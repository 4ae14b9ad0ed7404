import Mathlib

/-!
# Positions in a stream with restart points

A stream is published one value after the other; `Stamped` pairs a value with its position.
Some values are restart points (`key`): a consumer that missed part of the stream may go on
from there. `Linked a b` says that `b` may be consumed right after `a`, `GapFree` that a
consumer that saw exactly this list never took a value whose predecessor it missed, and
`Feeds l n` that `l` is linked throughout and the value published at `n` links to its end.
-/

namespace SkaiEdge.Lib

/-- A published value with its position in the stream. -/
structure Stamped (α : Type*) where
  stamp : Nat
  val : α
  deriving DecidableEq, Repr

variable {α : Type*} (key : α → Bool)

/-- `b` may follow `a`: it is a restart point, or it was published right after `a`. -/
def Linked (a b : Stamped α) : Prop := key b.val = true ∨ b.stamp = a.stamp + 1

/-- Consumed in this order, `l` starts at a restart point and never skips before another value. -/
structure GapFree (l : List (Stamped α)) : Prop where
  head : ∀ u ∈ l.head?, key u.val = true
  chain : l.IsChain (Linked key)

/-- `l` is linked throughout, up to just before position `next`. -/
structure Feeds (l : List (Stamped α)) (next : Nat) : Prop where
  chain : l.IsChain (Linked key)
  reaches : ∀ u ∈ l.getLast?, u.stamp + 1 = next

instance (a b : Stamped α) : Decidable (Linked key a b) :=
  inferInstanceAs (Decidable (_ ∨ _))

instance (l : List (Stamped α)) : Decidable (GapFree key l) :=
  decidable_of_iff ((∀ u ∈ l.head?, key u.val = true) ∧ l.IsChain (Linked key))
    ⟨fun h => ⟨h.1, h.2⟩, fun h => ⟨h.head, h.chain⟩⟩

variable {key} {l : List (Stamped α)} {u v : Stamped α} {next : Nat}

theorem GapFree.nil : GapFree key ([] : List (Stamped α)) := ⟨by simp, .nil⟩

/-- Consuming one more value keeps the list gap-free if the value is a restart point or links
to the last one consumed. -/
theorem GapFree.snoc (free : GapFree key l)
    (links : key u.val = true ∨ ∃ last, l.getLast? = some last ∧ Linked key last u) :
    GapFree key (l ++ [u]) := by
  have linked : ∀ last ∈ l.getLast?, Linked key last u := by
    intro last found
    rcases links with restart | ⟨last', found', linked⟩
    · exact .inl restart
    · rw [found'] at found; cases found; exact linked
  constructor
  · intro x first
    cases l with
    | nil =>
      rcases links with restart | ⟨_, found, _⟩
      · simp only [List.nil_append, List.head?_cons, Option.mem_def, Option.some.injEq] at first
        exact first ▸ restart
      · simp at found
    | cons y l => exact free.head x (by simpa using first)
  · exact free.chain.append (.singleton u) (by simpa using linked)

namespace Feeds

theorem nil : Feeds key [] next := ⟨.nil, by simp⟩

theorem tail (feeds : Feeds key (u :: l) next) : Feeds key l next := by
  refine ⟨feeds.chain.tail, fun x last => feeds.reaches x ?_⟩
  cases l with
  | nil => simp at last
  | cons y l => simpa using last

theorem linked (feeds : Feeds key (u :: v :: l) next) : Linked key u v :=
  (List.isChain_cons_cons.1 feeds.chain).1

/-- The next value published, or any restart point, extends the feed. -/
theorem snoc (feeds : Feeds key l next) (follows : key u.val = true ∨ u.stamp = next) :
    Feeds key (l ++ [u]) (u.stamp + 1) := by
  refine ⟨feeds.chain.append (.singleton u) ?_, by simp⟩
  intro x last y first
  simp only [List.head?_cons, Option.mem_def, Option.some.injEq] at first
  subst first
  exact follows.imp_right fun stamp => stamp.trans (feeds.reaches x last).symm

end Feeds

/-- The stamps of `l` are positions in the published `log`. -/
def Recorded (log : List α) (l : List (Stamped α)) : Prop :=
  ∀ u ∈ l, log[u.stamp]? = some u.val

theorem Recorded.nil {log : List α} : Recorded log ([] : List (Stamped α)) := by
  intro u member
  cases member

theorem Recorded.subset {log : List α} {l' : List (Stamped α)} (recorded : Recorded log l)
    (sub : l' ⊆ l) : Recorded log l' :=
  fun u member => recorded u (sub member)

/-- Publishing one more value keeps old positions and records the new one. -/
theorem Recorded.publish {log : List α} {l' : List (Stamped α)} (a : α) (recorded : Recorded log l)
    (sub : ∀ u ∈ l', u = ⟨log.length, a⟩ ∨ u ∈ l) : Recorded (log ++ [a]) l' := by
  intro u member
  rcases sub u member with rfl | old
  · simp
  · have found := recorded u old
    rw [List.getElem?_append_left (List.getElem?_eq_some_iff.1 found).1]
    exact found

/-- All of a log, each value with its position. -/
def positions (log : List α) : List (Stamped α) := log.zipIdx.map fun entry => ⟨entry.2, entry.1⟩

@[simp] theorem positions_length (log : List α) : (positions log).length = log.length := by
  simp [positions]

theorem positions_snoc (log : List α) (a : α) :
    positions (log ++ [a]) = positions log ++ [⟨log.length, a⟩] := by
  simp [positions, List.zipIdx_append]

theorem positions_distinct (log : List α) : ((positions log).map Stamped.stamp).Nodup := by
  have stamps : (positions log).map Stamped.stamp = List.range' 0 log.length := by
    rw [positions, List.map_map, ← List.zipIdx_map_snd 0 log]
    rfl
  rw [stamps]
  exact List.nodup_range'

theorem positions_recorded (log : List α) : Recorded log (positions log) := by
  intro u member
  obtain ⟨⟨a, i⟩, entry, rfl⟩ := List.mem_map.1 member
  exact List.mem_zipIdx_iff_getElem?.1 entry

end SkaiEdge.Lib
