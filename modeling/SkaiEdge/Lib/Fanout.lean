import Mathlib

/-!
# Sending a value to everyone who listens

A sender fixes the receivers of a value, then calls them one by one in any order; other senders,
and receivers that come and go, run in between. `due` keeps what a receiver is owed by a sender
since it was fixed, `made` the calls so far. A sender starts its next value only when the last
call is made, so for each sender and receiver the calls made, followed by the one still pending,
are the values due, in order and each once.
-/

namespace SkaiEdge.Lib

structure Fanout (π κ α : Type*) where
  /-- The calls a sender has still to make. -/
  pending : π → List (κ × α)
  due : π → κ → List α
  made : π → κ → List α

namespace Fanout

variable {π κ α : Type*} [DecidableEq κ]

def idle : Fanout π κ α := ⟨fun _ => [], fun _ _ => [], fun _ _ => []⟩

/-- What a receiver waits for from a sender. -/
def owed (f : Fanout π κ α) (p : π) (k : κ) : List α :=
  ((f.pending p).filter (·.1 = k)).map Prod.snd

structure Settled (f : Fanout π κ α) : Prop where
  exact : ∀ p k, f.made p k ++ f.owed p k = f.due p k
  distinct : ∀ p, ((f.pending p).map Prod.fst).Nodup

variable {f g : Fanout π κ α}

theorem Settled.idle : Settled (idle : Fanout π κ α) :=
  ⟨fun _ _ => rfl, fun _ => .nil⟩

/-- Calls made are values due, in order. -/
theorem Settled.made_prefix (settled : Settled f) (p : π) (k : κ) : f.made p k <+: f.due p k :=
  ⟨_, settled.exact p k⟩

variable [DecidableEq π]

def publish (f : Fanout π κ α) (p : π) (value : α) (receivers : List κ) : Fanout π κ α :=
  { f with
    pending := Function.update f.pending p (receivers.map (·, value))
    due := Function.update f.due p fun k => f.due p k ++ if k ∈ receivers then [value] else [] }

/-- The sender makes the `j`-th of its pending calls. -/
def call (f : Fanout π κ α) (p : π) (j : Nat) : Option ((κ × α) × Fanout π κ α) :=
  (f.pending p)[j]?.map fun entry => (entry,
    { f with
      pending := Function.update f.pending p ((f.pending p).eraseIdx j)
      made := Function.update f.made p
        (Function.update (f.made p) entry.1 (f.made p entry.1 ++ [entry.2])) })

theorem filter_receivers (receivers : List κ) (distinct : receivers.Nodup) (value : α) (k : κ) :
    ((receivers.map (·, value)).filter (·.1 = k)).map Prod.snd =
      if k ∈ receivers then [value] else [] := by
  induction receivers with
  | nil => rfl
  | cons first rest ih =>
    obtain ⟨fresh, others⟩ := List.nodup_cons.1 distinct
    by_cases same : first = k
    · subst same
      have none' := ih others
      rw [if_neg fresh] at none'
      simp [none']
    · have other : ¬k = first := fun eq => same eq.symm
      simp [same, other, ih others]

theorem Settled.publish (settled : Settled f) {p : π} (ready : f.pending p = []) (value : α)
    {receivers : List κ} (distinct : receivers.Nodup) : Settled (f.publish p value receivers) := by
  constructor
  · intro q k
    by_cases same : q = p
    · subst same
      have before := settled.exact q k
      simp only [owed, ready, List.filter_nil, List.map_nil, List.append_nil] at before
      simp only [owed, Fanout.publish, Function.update_self, before]
      rw [filter_receivers receivers distinct]
    · have before := settled.exact q k
      simpa [owed, Fanout.publish, same] using before
  · intro q
    by_cases same : q = p
    · subst same
      simpa [Fanout.publish, Function.comp_def] using distinct
    · simpa [Fanout.publish, same] using settled.distinct q

/-- What one call does to the pending list, as seen by each receiver. -/
theorem owed_eraseIdx {calls : List (κ × α)} (distinct : (calls.map Prod.fst).Nodup) {j : Nat}
    {k : κ} {value : α} (at' : calls[j]? = some (k, value)) (other : κ) :
    (calls.filter (·.1 = other)).map Prod.snd =
      (if other = k then [value] else []) ++
        ((calls.eraseIdx j).filter (·.1 = other)).map Prod.snd := by
  induction calls generalizing j with
  | nil => simp at at'
  | cons first rest ih =>
    simp only [List.map_cons, List.nodup_cons] at distinct
    obtain ⟨fresh, others⟩ := distinct
    cases j with
    | zero =>
      obtain rfl : first = (k, value) := by simpa using at'
      by_cases same : other = k
      · simp [same]
      · have different : ¬k = other := fun eq => same eq.symm
        simp [same, different]
    | succ j =>
      have inside : rest[j]? = some (k, value) := by simpa using at'
      have rest' := ih others inside
      have apart : first.1 ≠ k := by
        rintro rfl
        exact fresh (List.mem_map.2 ⟨_, List.mem_of_getElem? inside, rfl⟩)
      by_cases here : first.1 = other
      · have elsewhere : other ≠ k := here ▸ apart
        simpa [here, elsewhere] using rest'
      · simpa [here] using rest'

/-- One call, seen from outside. -/
structure Called (f : Fanout π κ α) (p : π) (k : κ) (value : α) (g : Fanout π κ α) : Prop where
  due : g.due = f.due
  made : ∀ q i, g.made q i = f.made q i ++ if q = p ∧ i = k then [value] else []
  pending : ∀ q, ∀ entry ∈ g.pending q, entry ∈ f.pending q
  was : (k, value) ∈ f.pending p

theorem call_called {p : π} {j : Nat} {k : κ} {value : α}
    (called : f.call p j = some ((k, value), g)) : Called f p k value g := by
  obtain ⟨entry, at', same⟩ := Option.map_eq_some_iff.1 called
  cases same
  refine ⟨rfl, fun q i => ?_, fun q entry member => ?_, List.mem_of_getElem? at'⟩
  · by_cases here : q = p
    · subst here
      by_cases receiver : i = k
      · subst receiver
        simp
      · simp [receiver]
    · simp [here]
  · by_cases here : q = p
    · subst here
      simp only [Function.update_self] at member
      exact List.mem_of_mem_eraseIdx member
    · simpa [here] using member

theorem Settled.call (settled : Settled f) {p : π} {j : Nat} {k : κ} {value : α}
    (called : f.call p j = some ((k, value), g)) : Settled g := by
  obtain ⟨entry, at', same⟩ := Option.map_eq_some_iff.1 called
  cases same
  constructor
  · intro q other
    by_cases here : q = p
    · subst here
      have before := settled.exact q other
      rw [owed, owed_eraseIdx (settled.distinct q) at'] at before
      by_cases receiver : other = k
      · subst receiver
        simpa [owed] using before
      · simpa [owed, receiver] using before
    · simpa [owed, here] using settled.exact q other
  · intro q
    by_cases here : q = p
    · subst here
      have erased : ((f.pending q).eraseIdx j).map Prod.fst = ((f.pending q).map Prod.fst).eraseIdx j :=
        (List.eraseIdx_map _ _ _).symm
      simpa [erased] using (settled.distinct q).sublist (List.eraseIdx_sublist _ j)
    · simpa [here] using settled.distinct q

end Fanout

end SkaiEdge.Lib
