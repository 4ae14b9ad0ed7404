import Mathlib

/-!
# A bounded cache that evicts in the order of first insertion

A `FifoCache` is a map together with the list of its keys, oldest first, the two in step. `put`
replaces the entry of a key that is there without moving the key, and appends one that is not;
then `trim` drops the oldest keys until at most `limit` are left. `fill` runs such operations
from the empty cache; whatever it holds is the `latest` that was put under its key.
-/

namespace SkaiEdge.Lib

structure FifoCache (κ α : Type*) where
  order : List κ
  entries : κ → Option α
  distinct : order.Nodup
  keys : ∀ k, k ∈ order ↔ (entries k).isSome = true

namespace FifoCache

variable {κ α : Type*} [DecidableEq κ]

def empty : FifoCache κ α := ⟨[], fun _ => none, .nil, by simp⟩

/-- A key that is new goes to the end, one that is there stays where it is. -/
def insert (c : FifoCache κ α) (k : κ) (v : α) : FifoCache κ α where
  order := if (c.entries k).isNone then c.order ++ [k] else c.order
  entries := Function.update c.entries k (some v)
  distinct := by
    split
    · rename_i absent
      refine List.nodup_append.2 ⟨c.distinct, List.nodup_singleton k, ?_⟩
      rintro q member _ here rfl
      rw [List.mem_singleton.1 here, c.keys, ← Option.not_isNone, absent] at member
      contradiction
    · exact c.distinct
  keys q := by
    by_cases same : q = k
    · subst same
      rw [Function.update_self]
      split
      · simp
      · rename_i present
        simpa [c.keys, Option.isSome_iff_ne_none] using present
    · rw [Function.update_of_ne same, ← c.keys]
      split
      · simp [same]
      · rfl

/-- Without the oldest keys, so that at most `limit` are left. -/
def trim (limit : Nat) (c : FifoCache κ α) : FifoCache κ α where
  order := c.order.drop (c.order.length - limit)
  entries := fun k => if k ∈ c.order.take (c.order.length - limit) then none else c.entries k
  distinct := c.distinct.sublist (List.drop_sublist _ _)
  keys q := by
    have parts := c.distinct
    rw [← List.take_append_drop (c.order.length - limit) c.order, List.nodup_append] at parts
    split
    · rename_i dropped
      refine iff_of_false (fun kept => ?_) (by simp)
      exact parts.2.2 q dropped q kept rfl
    · rename_i kept
      rw [← c.keys]
      conv_rhs => rw [← List.take_append_drop (c.order.length - limit) c.order]
      rw [List.mem_append, or_iff_right kept]

def put (limit : Nat) (c : FifoCache κ α) (k : κ) (v : α) : FifoCache κ α := (c.insert k v).trim limit

section Put

variable {limit : Nat} {c : FifoCache κ α} {k q : κ} {v w : α}

theorem insert_order : (c.insert k v).order =
    if (c.entries k).isNone then c.order ++ [k] else c.order := rfl

theorem put_entries : (c.put limit k v).entries q =
    if q ∈ (c.insert k v).order.take ((c.insert k v).order.length - limit) then none
    else Function.update c.entries k (some v) q := rfl

theorem length_trim_le (limit : Nat) (c : FifoCache κ α) : (c.trim limit).order.length ≤ limit := by
  rw [trim, List.length_drop]
  omega

/-- What is held after `put` was put, or was held before under another key. -/
theorem entries_put (held : (c.put limit k v).entries q = some w) :
    q = k ∧ w = v ∨ q ≠ k ∧ c.entries q = some w := by
  rw [put_entries] at held
  split at held
  · cases held
  · by_cases same : q = k
    · subst same
      rw [Function.update_self] at held
      exact .inl ⟨rfl, (Option.some.inj held).symm⟩
    · rw [Function.update_of_ne same] at held
      exact .inr ⟨same, held⟩

/-- **What is put is held**, in a cache that is not over its limit. -/
theorem entries_put_self (positive : 0 < limit) (within : c.order.length ≤ limit) :
    (c.put limit k v).entries k = some v := by
  have kept : k ∉ (c.insert k v).order.take ((c.insert k v).order.length - limit) := by
    rw [insert_order]
    split
    · -- at most the first key of the old order goes
      rename_i absent
      rw [List.length_append, List.length_singleton, List.take_append_of_le_length (by omega)]
      intro member
      have known := (c.keys k).1 (List.mem_of_mem_take member)
      rw [← Option.not_isNone, absent] at known
      contradiction
    · simp [Nat.sub_eq_zero_of_le within]
  rw [put_entries, if_neg kept, Function.update_self]

end Put

/-! ## Runs -/

def fill (limit : Nat) (puts : List (κ × α)) : FifoCache κ α :=
  puts.foldl (fun c p => c.put limit p.1 p.2) empty

/-- The value last put under `k`. -/
def latest (puts : List (κ × α)) (k : κ) : Option α :=
  ((puts.filter fun p => p.1 = k).getLast?).map (·.2)

theorem latest_snoc (puts : List (κ × α)) (p : κ × α) (k : κ) :
    latest (puts ++ [p]) k = if p.1 = k then some p.2 else latest puts k := by
  rw [latest, List.filter_append]
  by_cases same : p.1 = k
  · rw [if_pos same, List.filter_singleton]
    simp [same]
  · rw [if_neg same, List.filter_singleton]
    simp [same, latest]

theorem fill_snoc (limit : Nat) (puts : List (κ × α)) (p : κ × α) :
    fill limit (puts ++ [p]) = (fill limit puts).put limit p.1 p.2 := by
  rw [fill, List.foldl_append]
  rfl

theorem length_fill_le (limit : Nat) (puts : List (κ × α)) : (fill limit puts).order.length ≤ limit := by
  induction puts using List.reverseRecOn with
  | nil => exact Nat.zero_le limit
  | append_singleton puts p _ =>
    rw [fill_snoc]
    exact length_trim_le limit _

/-- **Every entry is the latest** that was put under its key. -/
theorem latest_of_fill {limit : Nat} (puts : List (κ × α)) {k : κ} {v : α}
    (held : (fill limit puts).entries k = some v) : latest puts k = some v := by
  induction puts using List.reverseRecOn with
  | nil => cases held
  | append_singleton puts p ih =>
    rw [fill_snoc] at held
    rw [latest_snoc]
    rcases entries_put held with ⟨rfl, rfl⟩ | ⟨other, before⟩
    · exact if_pos rfl
    · rw [if_neg fun same => other same.symm]
      exact ih before

-- A key that was put again is not kept for longer.
example : (fill 2 [(1, 'a'), (2, 'b'), (1, 'c'), (3, 'd')]).order = [2, 3] := by decide

end FifoCache

end SkaiEdge.Lib
