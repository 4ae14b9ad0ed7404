import Mathlib

/-!
# Guarded runs of a labelled transition system

A system of several threads is a partial step function `step : σ → α → Option σ`: the label
says which thread moves and what its environment answers, `none` that the move is not
possible there. `Runs step ok s t` says that `t` is reached from `s` by moves that each meet
`ok` in the state they start from, so a property proved of `Runs step ok` is a property of
every interleaving whose moves meet `ok`. `invariant` is the induction over a run; `play` runs a
given schedule, so that a run to a certain state can be computed.
-/

namespace SkaiEdge.Lib

variable {σ α : Type*}

/-- `t` is reached from `s` by moves that each meet `ok` where they start. -/
inductive Runs (step : σ → α → Option σ) (ok : σ → α → Prop) (s : σ) : σ → Prop where
  | refl : Runs step ok s s
  | snoc {t u : σ} (a : α) : Runs step ok s t → ok t a → step t a = some u → Runs step ok s u

/-- The guard of an unrestricted run. -/
def Free : σ → α → Prop := fun _ _ => True

/-- The schedule `as` played from `s`. -/
def play (step : σ → α → Option σ) (s : σ) (as : List α) : Option σ := as.foldlM step s

/-- Every move of the schedule `as` from `s` meets `ok`. -/
def Meets (step : σ → α → Option σ) (ok : σ → α → Prop) : σ → List α → Prop
  | _, [] => True
  | s, a :: as => ok s a ∧ ∀ t, step s a = some t → Meets step ok t as

instance {step : σ → α → Option σ} {ok : σ → α → Prop} [∀ s a, Decidable (ok s a)] :
    ∀ (s : σ) (as : List α), Decidable (Meets step ok s as)
  | _, [] => inferInstanceAs (Decidable True)
  | s, a :: as =>
    have : Decidable (∀ t, step s a = some t → Meets step ok t as) :=
      match step s a with
      | none => .isTrue fun _ e => nomatch e
      | some u =>
        have : Decidable (Meets step ok u as) := instDecidableMeets u as
        decidable_of_iff (Meets step ok u as)
          ⟨fun m _ e => Option.some.inj e ▸ m, fun m => m u rfl⟩
    inferInstanceAs (Decidable (ok s a ∧ _))

/-- A guard on the moves alone. -/
theorem Meets.of_forall {step : σ → α → Option σ} {ok : α → Prop} {as : List α}
    (all : ∀ a ∈ as, ok a) (s : σ) : Meets step (fun _ => ok) s as := by
  induction as generalizing s with
  | nil => trivial
  | cons a as ih =>
    exact ⟨all a (by simp), fun t _ => ih (fun b later => all b (List.mem_cons_of_mem a later)) t⟩

theorem Meets.free {step : σ → α → Option σ} (s : σ) (as : List α) : Meets step Free s as :=
  @Meets.of_forall _ _ step (fun _ => True) as (fun _ _ => trivial) s

namespace Runs

variable {step : σ → α → Option σ} {ok : σ → α → Prop} {s t u : σ}

theorem trans (first : Runs step ok s t) (second : Runs step ok t u) : Runs step ok s u := by
  induction second with
  | refl => exact first
  | snoc a _ guard moved ih => exact .snoc a ih guard moved

/-- A schedule that plays through and meets the guard is a run. -/
theorem of_play {as : List α} (played : play step s as = some t) (meets : Meets step ok s as) :
    Runs step ok s t := by
  induction as generalizing s with
  | nil => cases played; exact .refl
  | cons a as ih =>
    obtain ⟨v, moved, rest⟩ := Option.bind_eq_some_iff.1 (show (step s a).bind _ = some t from played)
    exact (Runs.refl.snoc a meets.1 moved).trans (ih rest (meets.2 v moved))

/-- A schedule that meets the guard and ends in a state with the property `P` is a run to one. -/
theorem exists_of_play {P : σ → Prop} [DecidablePred P] (as : List α)
    (played : (play step s as).any (fun t => decide (P t)) = true) (meets : Meets step ok s as) :
    ∃ t, Runs step ok s t ∧ P t := by
  obtain ⟨t, ends, passes⟩ := (Option.any_eq_true _ _).1 played
  exact ⟨t, of_play ends meets, of_decide_eq_true passes⟩

/-- **Invariant rule.** What holds at the start and is kept by every guarded move holds at
every state reached. -/
theorem invariant {Inv : σ → Prop} (run : Runs step ok s t) (start : Inv s)
    (keep : ∀ u a v, Inv u → ok u a → step u a = some v → Inv v) : Inv t := by
  induction run with
  | refl => exact start
  | snoc a _ guard moved ih => exact keep _ a _ ih guard moved

end Runs

end SkaiEdge.Lib
