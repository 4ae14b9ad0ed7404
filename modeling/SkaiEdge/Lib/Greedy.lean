import Mathlib

/-!
# Greedy selection from a ranked list

Items are taken in the order of their rank, each unless an item taken before blocks it or the
item is not eligible, until `limit` items are taken. `Selects` says what such a selection is:
no item in it blocks a later one, and every eligible item outside it is blocked by a better one
in it or comes behind all of them with the limit reached. The order is any relation in which
the list is sorted.
-/

namespace SkaiEdge.Lib.Greedy

variable {α : Type*} (blocks : α → α → Bool) (eligible : α → Bool) (limit : Nat)

/-- The items taken from a list, behind those already `kept`; `blocks b a` says that `a`, once
taken, keeps `b` out. -/
def select (kept : List α) : List α → List α
  | [] => kept
  | item :: rest =>
    if kept.any (blocks item) then select kept rest
    else if !eligible item then select kept rest
    else if (kept ++ [item]).length = limit then kept ++ [item]
    else select (kept ++ [item]) rest

/-- `chosen` is a greedy selection from `items`, which are ranked by `r`. -/
structure Selects (r : α → α → Prop) (items chosen : List α) : Prop where
  sublist : chosen.Sublist items
  few : chosen.length ≤ limit
  apart : chosen.Pairwise fun a b => blocks b a = false
  maximal : ∀ item ∈ items, eligible item = true → item ∉ chosen →
    (∃ better ∈ chosen, r better item ∧ blocks item better = true) ∨
      (chosen.length = limit ∧ ∀ better ∈ chosen, r better item)

variable {blocks eligible limit}

/-- The items kept so far stay, and what is added comes from the rest. -/
theorem select_extends (blocks : α → α → Bool) (eligible : α → Bool) (limit : Nat)
    (kept rest : List α) :
    ∃ more, select blocks eligible limit kept rest = kept ++ more ∧ more.Sublist rest := by
  induction rest generalizing kept with
  | nil => exact ⟨[], by simp [select], .refl _⟩
  | cons item rest ih =>
    rw [select]
    split
    · obtain ⟨more, same, sub⟩ := ih kept
      exact ⟨more, same, sub.cons item⟩
    split
    · obtain ⟨more, same, sub⟩ := ih kept
      exact ⟨more, same, sub.cons item⟩
    split
    · exact ⟨[item], rfl, .cons_cons item (List.nil_sublist rest)⟩
    · obtain ⟨more, same, sub⟩ := ih (kept ++ [item])
      exact ⟨item :: more, by rw [same]; simp, sub.cons_cons item⟩

/-- A selection commutes with a map that keeps what it looks at. -/
theorem select_map {β : Type*} {blocks' : β → β → Bool} {eligible' : β → Bool} {f : α → β}
    (same : ∀ a b, blocks' (f a) (f b) = blocks a b) (able : ∀ a, eligible' (f a) = eligible a)
    (kept rest : List α) : select blocks' eligible' limit (kept.map f) (rest.map f) =
      (select blocks eligible limit kept rest).map f := by
  induction rest generalizing kept with
  | nil => rfl
  | cons item rest ih =>
    have blocked : (kept.map f).any (blocks' (f item)) = kept.any (blocks item) := by
      simp only [List.any_map, Function.comp_def, same]
    have more : kept.map f ++ [f item] = (kept ++ [item]).map f := by simp
    rw [List.map_cons, select, select, blocked, able, more, ih, ih, List.length_map]
    simp only [apply_ite (List.map f)]

theorem mem_select {kept rest : List α} {item : α} (member : item ∈ kept) :
    item ∈ select blocks eligible limit kept rest := by
  obtain ⟨more, same, -⟩ := select_extends blocks eligible limit kept rest
  rw [same]
  exact List.mem_append_left more member

theorem select_few {kept rest : List α} (room : kept.length < limit) :
    (select blocks eligible limit kept rest).length ≤ limit := by
  induction rest generalizing kept with
  | nil => exact room.le
  | cons item rest ih =>
    rw [select]
    split
    · exact ih room
    split
    · exact ih room
    split
    · rename_i full
      exact full.le
    · rename_i more
      rw [List.length_append, List.length_singleton] at more
      exact ih (by rw [List.length_append, List.length_singleton]; omega)

theorem select_apart {kept rest : List α} (apart : kept.Pairwise fun a b => blocks b a = false) :
    (select blocks eligible limit kept rest).Pairwise fun a b => blocks b a = false := by
  induction rest generalizing kept with
  | nil => exact apart
  | cons item rest ih =>
    rw [select]
    split
    · exact ih apart
    · rename_i free
      have added : (kept ++ [item]).Pairwise fun a b => blocks b a = false := by
        refine List.pairwise_append.2 ⟨apart, List.pairwise_singleton _ _, fun a inside b last => ?_⟩
        rw [List.mem_singleton.1 last]
        simpa using fun blocked => free (List.any_eq_true.2 ⟨a, inside, blocked⟩)
      split
      · exact ih apart
      split
      · exact added
      · exact ih added

/-- The invariant of the loop: what was kept ranks before what is left. -/
theorem select_maximal {r : α → α → Prop} {kept rest : List α} (ranked : rest.Pairwise r)
    (before : ∀ a ∈ kept, ∀ b ∈ rest, r a b) {item : α} (member : item ∈ rest)
    (able : eligible item = true) :
    item ∈ select blocks eligible limit kept rest ∨
      (∃ better ∈ select blocks eligible limit kept rest,
        r better item ∧ blocks item better = true) ∨
      ((select blocks eligible limit kept rest).length = limit ∧
        ∀ better ∈ select blocks eligible limit kept rest, r better item) := by
  induction rest generalizing kept with
  | nil => contradiction
  | cons first rest ih =>
    obtain ⟨ahead, ranked⟩ := List.pairwise_cons.1 ranked
    have later : ∀ a ∈ kept, ∀ b ∈ rest, r a b := fun a inside b tail =>
      before a inside b (List.mem_cons_of_mem first tail)
    have later' : ∀ a ∈ kept ++ [first], ∀ b ∈ rest, r a b := by
      intro a inside b tail
      rcases List.mem_append.1 inside with old | new
      · exact later a old b tail
      · rw [List.mem_singleton.1 new]
        exact ahead b tail
    rw [select]
    rcases List.mem_cons.1 member with rfl | tail
    · split
      · rename_i blocked
        obtain ⟨better, inside, blocks'⟩ := List.any_eq_true.1 blocked
        exact .inr (.inl ⟨better, mem_select inside, before better inside item member, blocks'⟩)
      · rw [if_neg (by simp [able])]
        refine .inl ?_
        split
        · exact List.mem_append_right kept (List.mem_singleton_self item)
        · exact mem_select (List.mem_append_right kept (List.mem_singleton_self item))
    · split
      · exact ih ranked later tail
      split
      · exact ih ranked later tail
      split
      · rename_i full
        exact .inr (.inr ⟨full, fun better inside => later' better inside item tail⟩)
      · exact ih ranked later' tail

/-- **The selection is greedy.** -/
theorem selects (blocks : α → α → Bool) (eligible : α → Bool) {r : α → α → Prop} {items : List α} (ranked : items.Pairwise r)
    (some' : 0 < limit) : Selects blocks eligible limit r items
      (select blocks eligible limit [] items) := by
  obtain ⟨more, same, sub⟩ := select_extends blocks eligible limit [] items
  refine ⟨?_, select_few some', select_apart .nil, fun item member able out => ?_⟩
  · rw [same]
    exact sub
  · exact (select_maximal ranked (by simp) member able).resolve_left out

end SkaiEdge.Lib.Greedy
