import Mathlib

/-!
# Programs of single operations that may fail or be cut off

A `Script` on a state `σ` runs one operation after the other. Before an operation that can
fail it asks the environment, whose answers are given in advance, and it records every state
it passes through, so the states in which a crash can leave the system are the recorded ones.
`Triple I P p Q` is a Hoare triple with a crash condition: from a state with `I` and `P`, the
script `p` passes through states with `I` alone and ends in one with `Q`. The rules below
follow the script's own structure; loops are recursions over lists, proved by induction.
-/

namespace SkaiEdge.Lib

/-- The environment's answers still to come, the state, and the states passed through. -/
structure World (σ : Type) where
  answers : List Bool
  state : σ
  passed : List σ

abbrev Script (σ : Type) := StateM (World σ)

namespace Script

variable {σ α β : Type}

/-- The next answer; an environment that has run out of them agrees. -/
def ask : Script σ Bool := fun w =>
  match w.answers with
  | [] => (true, w)
  | answer :: rest => (answer, { w with answers := rest })

def current : Script σ σ := fun w => (w.state, w)

def put (s : σ) : Script σ Unit := fun w =>
  ((), { w with state := s, passed := w.passed ++ [s] })

/-- An operation that the environment may refuse and that the state may not allow. -/
def attempt (op : σ → Option σ) : Script σ Bool := do
  if ← ask then
    match op (← current) with
    | some s => do
      put s
      pure true
    | none => pure false
  else pure false

/-- The script's answer and the world behind it, run from `s` with the given answers. -/
def exec (p : Script σ α) (answers : List Bool) (s : σ) : α × World σ := p ⟨answers, s, []⟩

section Run

variable {p : Script σ α} {q : α → Script σ β} {op : σ → Option σ} {s t : σ} {rest : List Bool}
  {passed : List σ}

theorem run_bind (w : World σ) : (p >>= q) w = q (p w).1 (p w).2 := rfl

theorem run_pure (a : α) (w : World σ) : (pure a : Script σ α) w = (a, w) := rfl

theorem run_map (f : α → β) (w : World σ) : (f <$> p) w = (f (p w).1, (p w).2) := rfl

theorem run_ask (answer : Bool) :
    ask ⟨answer :: rest, s, passed⟩ = (answer, ⟨rest, s, passed⟩) := rfl

theorem run_refused : attempt op ⟨false :: rest, s, passed⟩ = (false, ⟨rest, s, passed⟩) := rfl

theorem run_attempt (moved : op s = some t) :
    attempt op ⟨true :: rest, s, passed⟩ = (true, ⟨rest, t, passed ++ [t]⟩) := by
  simp only [attempt, run_bind, run_ask, ↓reduceIte, current, moved, put, run_pure]

theorem run_impossible (stuck : op s = none) :
    attempt op ⟨true :: rest, s, passed⟩ = (false, ⟨rest, s, passed⟩) := by
  simp only [attempt, run_bind, run_ask, ↓reduceIte, current, stuck, run_pure]

end Run

def Triple (I P : σ → Prop) (p : Script σ α) (Q : α → σ → Prop) : Prop :=
  ∀ w : World σ, I w.state → P w.state → (∀ t ∈ w.passed, I t) →
    I (p w).2.state ∧ Q (p w).1 (p w).2.state ∧ ∀ t ∈ (p w).2.passed, I t

namespace Triple

variable {I P P' : σ → Prop} {p : Script σ α} {Q Q' : α → σ → Prop}

theorem conseq (triple : Triple I P p Q) (pre : ∀ s, I s → P' s → P s)
    (post : ∀ a s, I s → Q a s → Q' a s) : Triple I P' p Q' := by
  intro w inv holds passed
  obtain ⟨inv', ends, passed'⟩ := triple w inv (pre _ inv holds) passed
  exact ⟨inv', post _ _ inv' ends, passed'⟩

theorem ret (a : α) (holds : ∀ s, I s → P s → Q a s) : Triple I P (pure a) Q :=
  fun _ inv pre passed => ⟨inv, holds _ inv pre, passed⟩

theorem bind {R : α → σ → Prop} {q : α → Script σ β} {Q : β → σ → Prop}
    (first : Triple I P p R) (second : ∀ a, Triple I (R a) (q a) Q) : Triple I P (p >>= q) Q := by
  intro w inv pre passed
  obtain ⟨inv', mid, passed'⟩ := first w inv pre passed
  exact second _ _ inv' mid passed'

theorem ask : Triple I P Script.ask (fun _ => P) := by
  intro w inv pre passed
  unfold Script.ask
  split <;> exact ⟨inv, pre, passed⟩

theorem current : Triple I P Script.current (fun a s => a = s ∧ P s) :=
  fun _ inv pre passed => ⟨inv, ⟨rfl, pre⟩, passed⟩

/-- The state the script starts in may be fixed. -/
theorem fixed (each : ∀ s, I s → P s → Triple I (fun t => t = s) p Q) : Triple I P p Q :=
  fun w inv pre passed => each w.state inv pre w inv rfl passed

/-- What is read is the state the rest starts in. -/
theorem reading {q : σ → Script σ α} (rest : ∀ s, I s → P s → Triple I (fun t => t = s) (q s) Q) :
    Triple I P (do q (← Script.current)) Q :=
  fun w inv pre passed => rest w.state inv pre w inv rfl passed

theorem put {Q : Unit → σ → Prop} {s : σ} (inv : ∀ t, I t → P t → I s) (holds : ∀ t, I t → P t → Q () s) :
    Triple I P (Script.put s) Q := by
  intro w inv' pre passed
  have next := inv _ inv' pre
  refine ⟨next, holds _ inv' pre, ?_⟩
  intro t member
  rcases List.mem_append.1 member with old | new
  · exact passed t old
  · rw [List.mem_singleton.1 new]
    exact next

/-- The question that stands before an operation: `p` follows if the environment agrees. -/
theorem asked {q : Script σ α} (yes : Triple I P p Q) (no : Triple I P q Q) :
    Triple I P (do if ← Script.ask then p else q) Q := by
  refine ask.bind fun answer => ?_
  cases answer with
  | true => exact yes
  | false => exact no

/-- **An operation** keeps the invariant where it succeeds, and changes nothing where it fails. -/
theorem attempt {op : σ → Option σ} {Q : Bool → σ → Prop}
    (done : ∀ s t, I s → P s → op s = some t → I t ∧ Q true t) (failed : ∀ s, I s → P s → Q false s) :
    Triple I P (Script.attempt op) Q := by
  refine asked ?_ (ret false failed)
  refine current.bind fun s => ?_
  cases result : op s with
  | none => exact ret false fun t inv pre => failed t inv pre.2
  | some t =>
    refine (put (Q := fun _ => Q true) ?_ ?_).bind fun _ => ret true fun _ _ holds => holds
    · rintro s' inv ⟨rfl, pre⟩
      exact (done _ t inv pre result).1
    · rintro s' inv ⟨rfl, pre⟩
      exact (done _ t inv pre result).2

/-- An operation and what follows it. -/
theorem attempted {op : σ → Option σ} {q : Script σ α} {R : σ → Prop}
    (done : ∀ s t, I s → P s → op s = some t → I t ∧ R t) (yes : Triple I R p Q)
    (no : Triple I P q Q) : Triple I P (do if ← Script.attempt op then p else q) Q := by
  refine (attempt (Q := fun ok s => if ok then R s else P s) ?_ ?_).bind fun ok => ?_
  · intro s t inv pre result
    simpa using done s t inv pre result
  · intro s _ pre
    simpa using pre
  · cases ok with
    | true => simpa using yes
    | false => simpa using no

/-- What a run of the script from `s` passes through and ends in. -/
theorem exec {s : σ} (triple : Triple I P p Q) (answers : List Bool) (inv : I s) (pre : P s) :
    I (p.exec answers s).2.state ∧ Q (p.exec answers s).1 (p.exec answers s).2.state ∧
      ∀ t ∈ (p.exec answers s).2.passed, I t :=
  triple ⟨answers, s, []⟩ inv pre fun _ member => absurd member List.not_mem_nil

end Triple

/-! ## Without failures -/

/-- The environment agrees to whatever it is asked. -/
def Agrees (w : World σ) : Prop := ∀ answer ∈ w.answers, answer = true

/-- From a state with `P`, in an environment that agrees to everything, `p` ends in one with `Q`. -/
def Smooth (P : σ → Prop) (p : Script σ α) (Q : α → σ → Prop) : Prop :=
  ∀ w : World σ, Agrees w → P w.state → Agrees (p w).2 ∧ Q (p w).1 (p w).2.state

namespace Smooth

variable {P P' : σ → Prop} {p : Script σ α} {Q Q' : α → σ → Prop}

theorem conseq (smooth : Smooth P p Q) (pre : ∀ s, P' s → P s) (post : ∀ a s, Q a s → Q' a s) :
    Smooth P' p Q' := by
  intro w agrees holds
  obtain ⟨agrees', ends⟩ := smooth w agrees (pre _ holds)
  exact ⟨agrees', post _ _ ends⟩

theorem ret (a : α) (holds : ∀ s, P s → Q a s) : Smooth P (pure a) Q :=
  fun _ agrees pre => ⟨agrees, holds _ pre⟩

theorem bind {R : α → σ → Prop} {q : α → Script σ β} {Q : β → σ → Prop} (first : Smooth P p R)
    (second : ∀ a, Smooth (R a) (q a) Q) : Smooth P (p >>= q) Q := by
  intro w agrees pre
  obtain ⟨agrees', mid⟩ := first w agrees pre
  exact second _ _ agrees' mid

theorem ask : Smooth P Script.ask (fun answer s => answer = true ∧ P s) := by
  intro w agrees pre
  unfold Script.ask
  split
  · exact ⟨agrees, rfl, pre⟩
  · rename_i answer rest queue
    rw [Agrees, queue] at agrees
    exact ⟨fun a later => agrees a (List.mem_cons_of_mem _ later), agrees answer (by simp), pre⟩

/-- The question that stands before an operation. -/
theorem asked {q : Script σ α} (yes : Smooth P p Q) :
    Smooth P (do if ← Script.ask then p else q) Q := by
  refine ask.bind fun answer => ?_
  cases answer with
  | true => exact yes.conseq (fun _ pre => pre.2) fun _ _ ends => ends
  | false => exact fun _ _ pre => absurd pre.1 Bool.false_ne_true

theorem current : Smooth P Script.current (fun a s => a = s ∧ P s) :=
  fun _ agrees pre => ⟨agrees, rfl, pre⟩

/-- What is read is the state the rest starts in. -/
theorem reading {q : σ → Script σ α} (rest : ∀ s, P s → Smooth (fun t => t = s) (q s) Q) :
    Smooth P (do q (← Script.current)) Q :=
  fun w agrees pre => rest w.state pre w agrees rfl

theorem fixed (each : ∀ s, P s → Smooth (fun t => t = s) p Q) : Smooth P p Q :=
  fun w agrees pre => each w.state pre w agrees rfl

/-- An operation that the state allows, and what follows it. -/
theorem attempted {op : σ → Option σ} {q : Script σ α} {R : σ → Prop}
    (done : ∀ s, P s → ∃ t, op s = some t ∧ R t) (yes : Smooth R p Q) :
    Smooth P (do if ← Script.attempt op then p else q) Q := by
  have moves : Smooth P (Script.attempt op) (fun ok s => ok = true ∧ R s) := by
    refine asked (current.bind fun s => ?_)
    intro w agrees pre
    obtain ⟨rfl, holds⟩ := pre
    obtain ⟨t, moved, next⟩ := done _ holds
    simp only [moved]
    exact ⟨agrees, rfl, next⟩
  refine moves.bind fun ok => ?_
  cases ok with
  | true => exact yes.conseq (fun _ pre => pre.2) fun _ _ ends => ends
  | false => exact fun _ _ pre => absurd pre.1 Bool.false_ne_true

end Smooth

/-! ## Queries -/

/-- A step of a query, which the environment may refuse; the query then ends with `fault`. -/
def allowed {ε : Type} (fault : ε) : ExceptT ε (Script σ) Unit := do
  if ← (Script.ask : Script σ Bool) then pure () else throw fault

/-- From `s`, `p` leaves the state alone; it answers `a`, or the environment has refused it a
step and it ends with a fault. -/
def Reads {ε : Type} (p : ExceptT ε (Script σ) α) (s : σ) (a : α) : Prop :=
  ∀ w : World σ, w.state = s → (p.run w).2.state = s ∧
    ((p.run w).1 = .ok a ∧ (Agrees w → Agrees (p.run w).2) ∨
      ¬Agrees w ∧ ∃ fault, (p.run w).1 = .error fault)

namespace Reads

variable {ε : Type} {p : ExceptT ε (Script σ) α} {s : σ}

theorem ret (a : α) : Reads (pure a : ExceptT ε (Script σ) α) s a :=
  fun _ here => ⟨here, .inl ⟨rfl, fun agrees => agrees⟩⟩

theorem bind {a : α} {b : β} {q : α → ExceptT ε (Script σ) β} (first : Reads p s a)
    (second : Reads (q a) s b) : Reads (p >>= q) s b := by
  intro w here
  obtain ⟨stays, ends⟩ := first w here
  have split : (p >>= q).run w = match (p.run w).1 with
      | .ok a => (q a).run (p.run w).2
      | .error fault => (.error fault, (p.run w).2) := by
    rw [ExceptT.run_bind, run_bind]
    cases (p.run w).1 <;> rfl
  rcases ends with ⟨answer, agrees⟩ | ⟨refused, fault, stopped⟩
  · rw [answer] at split
    obtain ⟨stays', ends'⟩ := second _ stays
    rw [split]
    refine ⟨stays', ?_⟩
    rcases ends' with ⟨answer', agrees'⟩ | ⟨refused', stopped'⟩
    · exact .inl ⟨answer', fun all => agrees' (agrees all)⟩
    · exact .inr ⟨fun all => refused' (agrees all), stopped'⟩
  · rw [stopped] at split
    rw [split]
    exact ⟨stays, .inr ⟨refused, fault, rfl⟩⟩

theorem allowed (fault : ε) : Reads (Script.allowed fault) s () := by
  rintro ⟨answers, _, passed⟩ rfl
  cases answers with
  | nil => exact ⟨rfl, .inl ⟨rfl, fun agrees => agrees⟩⟩
  | cons answer rest =>
    cases answer with
    | true =>
      refine ⟨rfl, .inl ⟨rfl, ?_⟩⟩
      intro agrees later member
      exact agrees later (List.mem_cons_of_mem _ member)
    | false => exact ⟨rfl, .inr ⟨fun agrees => Bool.false_ne_true (agrees false (by simp)), fault, rfl⟩⟩

/-- What is read is the state the query starts in. -/
theorem current : Reads (liftM (Script.current : Script σ σ) : ExceptT ε (Script σ) σ) s s := by
  rintro w rfl
  exact ⟨rfl, .inl ⟨rfl, fun agrees => agrees⟩⟩

theorem map {a : α} (f : α → β) (reads : Reads p s a) : Reads (f <$> p) s (f a) := by
  rw [map_eq_pure_bind]
  exact reads.bind (ret (f a))

/-- A query for each entry of a list, one after the other. -/
theorem mapM {f : α → ExceptT ε (Script σ) β} {g : α → β} (l : List α)
    (each : ∀ a ∈ l, Reads (f a) s (g a)) : Reads (l.mapM f) s (l.map g) := by
  induction l with
  | nil => exact ret []
  | cons a l ih =>
    rw [List.mapM_cons]
    have tail := ih fun b member => each b (List.mem_cons_of_mem a member)
    exact (each a (by simp)).bind (tail.bind (ret _))

/-- With an environment that refuses nothing, a query answers. -/
theorem exec {a : α} (reads : Reads p s a) : (p.run.exec [] s).1 = .ok a := by
  obtain ⟨-, ⟨answer, -⟩ | ⟨refused, -⟩⟩ := reads ⟨[], s, []⟩ rfl
  · exact answer
  · exact absurd (fun _ member => absurd member List.not_mem_nil) refused

end Reads

end Script

end SkaiEdge.Lib
