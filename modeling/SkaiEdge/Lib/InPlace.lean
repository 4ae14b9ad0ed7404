import Mathlib

/-!
# Lists whose entries change in place

A table of sessions, runs or parties is a list that is only ever extended at its end and changed
entry by entry. `List.Forall₂ r l l'` says that each entry was changed as `r` allows; the lemmas
here follow an entry through such changes and say what a view of the table or a count in it sees
of a change in one place.
-/

namespace SkaiEdge.Lib

variable {α β : Type*} {l l' l'' : List α} {i : Nat} {a b : α}

/-- An entry of an extended table is an old one or the new one. -/
theorem getElem_snoc (found : (l ++ [b])[i]? = some a) :
    l[i]? = some a ∨ (i = l.length ∧ b = a) := by
  rcases Nat.lt_trichotomy i l.length with less | same | more
  · exact .inl (by rwa [List.getElem?_append_left less] at found)
  · subst same
    simp only [List.getElem?_concat_length, Option.some.injEq] at found
    exact .inr ⟨rfl, found⟩
  · rw [List.getElem?_eq_none (by simp; omega)] at found
    cases found

theorem getElem_kept (more : List α) (found : l[i]? = some a) : (l ++ more)[i]? = some a := by
  have inside := (List.getElem?_eq_some_iff.1 found).1
  rwa [List.getElem?_append_left inside]

theorem modify_eq_set (found : l[i]? = some a) (f : α → α) : l.modify i f = l.set i (f a) := by
  apply List.ext_getElem?
  intro j
  rw [List.getElem?_modify, List.getElem?_set]
  by_cases same : i = j
  · subst same
    rw [found, if_pos rfl, if_pos (List.getElem?_eq_some_iff.1 found).1]
    simp
  · simp [same]

/-- A view that does not see a change. -/
theorem map_modify_same (l : List α) (i : Nat) {f : α → α} {g : α → β}
    (same : ∀ a, g (f a) = g a) : (l.modify i f).map g = l.map g := by
  apply List.ext_getElem?
  intro j
  simp only [List.getElem?_map, List.getElem?_modify]
  cases l[j]? with
  | none => rfl
  | some a =>
    simp only [Option.map_eq_map, Option.map_some]
    split <;> simp [same]

theorem map_set_same (found : l[i]? = some a) {g : α → β} (same : g b = g a) :
    (l.set i b).map g = l.map g := by
  have here : (l.map g)[i]? = some (g a) := by simp [found]
  obtain ⟨inside, value⟩ := List.getElem?_eq_some_iff.1 here
  rw [List.map_set, same, ← value, List.set_getElem_self]

/-- A value that takes another one's place is counted instead of it. -/
theorem count_set_balance [BEq α] [LawfulBEq α] [DecidableEq α] (found : l[i]? = some a) (x : α) :
    (l.set i b).count x + (if a = x then 1 else 0) = l.count x + if b = x then 1 else 0 := by
  obtain ⟨inside, value⟩ := List.getElem?_eq_some_iff.1 found
  have counted := List.boole_getElem_le_countP (p := (· == x)) inside
  rw [← List.count_eq_countP, value] at counted
  rw [List.count_set inside, value]
  simp only [beq_iff_eq] at counted ⊢
  omega

/-- An entry changes: what a count sees of it. -/
theorem countP_set_balance (found : l[i]? = some a) (p : α → Bool) :
    (l.set i b).countP p + (if p a then 1 else 0) = l.countP p + if p b then 1 else 0 := by
  obtain ⟨inside, value⟩ := List.getElem?_eq_some_iff.1 found
  have counted := List.boole_getElem_le_countP (p := p) inside
  rw [value] at counted
  rw [List.countP_set inside, value]
  omega

section Changes

variable {r : α → α → Prop}

theorem forall₂_trans (compose : ∀ {a b c}, r a b → r b c → r a c) (first : List.Forall₂ r l l')
    (second : List.Forall₂ r l' l'') : List.Forall₂ r l l'' := by
  induction first generalizing l'' with
  | nil =>
    cases second
    exact .nil
  | cons change _ ih =>
    cases second with
    | cons change' rest => exact .cons (compose change change') (ih rest)

theorem forall₂_set (same : ∀ a, r a a) (found : l[i]? = some a) (change : r a b) :
    List.Forall₂ r l (l.set i b) := by
  induction l generalizing i with
  | nil => cases found
  | cons c l ih =>
    cases i with
    | zero =>
      cases found
      exact .cons change (List.forall₂_same.2 fun a _ => same a)
    | succ i => exact .cons (same c) (ih found)

theorem forall₂_forth (changes : List.Forall₂ r l l') (found : l[i]? = some a) :
    ∃ b, l'[i]? = some b ∧ r a b := by
  induction changes generalizing i with
  | nil => cases found
  | cons change _ ih =>
    cases i with
    | zero =>
      cases found
      exact ⟨_, rfl, change⟩
    | succ i => exact ih found

theorem forall₂_back (changes : List.Forall₂ r l l') (found : l'[i]? = some b) :
    ∃ a, l[i]? = some a ∧ r a b := by
  induction changes generalizing i with
  | nil => cases found
  | cons change _ ih =>
    cases i with
    | zero =>
      cases found
      exact ⟨_, rfl, change⟩
    | succ i => exact ih found

end Changes

end SkaiEdge.Lib
