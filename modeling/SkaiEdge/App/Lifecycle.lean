import SkaiEdge.App.Application

/-!
# The lifecycle of the modules

A run of an `Application` is a sequence of lifecycles. In each the modules are initialized in
order, perhaps up to one that fails, then started, then all stopped and all joined in reverse.
`Stage` says how far the present lifecycle has come, by the state and the one thread that may be
in a loop; every step either moves it on or leaves it as it is.
-/

namespace SkaiEdge.App

open SkaiEdge.Lib

/-- One lifecycle: the modules initialized, the one whose initialization failed, and those
called to start. -/
structure Cycle where
  initialized : List Module
  failed : Option Module
  started : List Module

/-- All calls of a lifecycle that has ended. -/
def Cycle.events (c : Cycle) : List Event :=
  c.initialized.map .initialized ++ c.failed.toList.map .initializeFailed ++
    c.started.map .start ++ stops c.initialized ++ waits c.initialized

structure Cycle.Proper (present : Module → Bool) (c : Cycle) : Prop where
  order : c.initialized <+: Module.ordered.filter present
  failed : ∀ m ∈ c.failed, m ∉ c.initialized
  started : c.started ⊆ c.initialized

/-- The calls that pair up: a successful initialization, `stop` and `wait` of one module. -/
def about (m : Module) : Event → Bool
  | .initialized m' => m' = m
  | .stop m' => m' = m
  | .wait m' => m' = m
  | _ => false

theorem ordered_nodup (present : Module → Bool) : (Module.ordered.filter present).Nodup :=
  List.Nodup.filter _ (by decide)

theorem filter_map_about {l : List Module} (nodup : l.Nodup) (m : Module) (call : Module → Event)
    (own : ∀ m', about m (call m') = decide (m' = m)) :
    (l.map call).filter (about m) = if m ∈ l then [call m] else [] := by
  have picks : about m ∘ call = fun m' => decide (m' = m) := funext own
  rw [List.filter_map, picks, List.filter_eq, nodup.count]
  split <;> rfl

theorem filter_map_other (l : List Module) (m : Module) (call : Module → Event)
    (other : ∀ m', about m (call m') = false) : (l.map call).filter (about m) = [] := by
  rw [List.filter_map, List.map_eq_nil_iff, List.filter_eq_nil_iff]
  intro m' _
  simp [other]

/-- In a lifecycle a module that was initialized is stopped once and then joined once; any
other gets neither. -/
theorem Cycle.Proper.alternates {present : Module → Bool} {c : Cycle} (proper : c.Proper present)
    (m : Module) : c.events.filter (about m) =
      if m ∈ c.initialized then [.initialized m, .stop m, .wait m] else [] := by
  have nodup : c.initialized.Nodup := (ordered_nodup present).sublist proper.order.sublist
  have reversed : c.initialized.reverse.Nodup := List.nodup_reverse.2 nodup
  simp only [Cycle.events, stops, waits, List.filter_append]
  rw [filter_map_about nodup m .initialized (fun _ => rfl),
    filter_map_about reversed m .stop (fun _ => rfl),
    filter_map_about reversed m .wait (fun _ => rfl),
    filter_map_other _ m .initializeFailed (fun _ => rfl),
    filter_map_other _ m .start (fun _ => rfl)]
  simp only [List.mem_reverse]
  split <;> rfl

/-- Over lifecycles in a row. -/
theorem alternates_past {present : Module → Bool} {past : List Cycle}
    (proper : ∀ c ∈ past, c.Proper present) (m : Module) : ∃ n,
    (past.flatMap Cycle.events).filter (about m) =
      (List.replicate n [Event.initialized m, .stop m, .wait m]).flatten := by
  induction past with
  | nil => exact ⟨0, rfl⟩
  | cons c past ih =>
    obtain ⟨n, rest⟩ := ih fun c member => proper c (List.mem_cons_of_mem _ member)
    have first := (proper c List.mem_cons_self).alternates m
    rw [List.flatMap_cons, List.filter_append, first, rest]
    split
    · exact ⟨n + 1, by rw [List.replicate_succ, List.flatten_cons]⟩
    · exact ⟨n, rfl⟩

/-! ## How far the present lifecycle has come -/

/-- In the loop of `stop` or `wait`. -/
def Thread.Busy : Thread → Prop
  | .stopping _ _ => True
  | .joining _ => True
  | _ => False

def Quiet (s : State) : Prop := ∀ t, ¬ (s.threads t).Busy

/-- Only thread `t` may be in a loop. -/
def Alone (s : State) (t : Nat) : Prop := ∀ t', t' ≠ t → ¬ (s.threads t').Busy

/-- The state, the thread in a loop if there is one, and the calls of the present lifecycle
behind its starts. -/
inductive Stage (s : State) : List Event → Prop where
  | new (phase : s.app.phase = .new) (none : s.app.active = []) (quiet : Quiet s) : Stage s []
  | up (phase : s.app.phase = .initialized ∨ s.app.phase = .running) (quiet : Quiet s) : Stage s []
  | stopping (t : Nat) (done left : List Module) (thenWait : Bool) (phase : s.app.phase = .stopping)
      (here : s.threads t = .stopping left thenWait) (alone : Alone s t)
      (split : s.app.active.reverse = done ++ left) : Stage s (done.map .stop)
  | stopped (phase : s.app.phase = .stopped) (quiet : Quiet s) : Stage s (stops s.app.active)
  | joining (t : Nat) (done left : List Module) (phase : s.app.phase = .joining)
      (here : s.threads t = .joining left) (alone : Alone s t)
      (split : s.app.active.reverse = done ++ left) :
      Stage s (stops s.app.active ++ done.map .wait)

/-- The log: the lifecycles that have ended, and what the present one has come to. -/
def Logged (present : Module → Bool) (s : State) (started : List Module) (tail : List Event) : Prop :=
  ∃ past : List Cycle, (∀ c ∈ past, c.Proper present) ∧
    s.log = past.flatMap Cycle.events ++
      (s.app.active.map .initialized ++ started.map .start ++ tail)

structure Inv (present : Module → Bool) (s : State) : Prop where
  order : s.app.active <+: Module.ordered.filter present
  stage : ∃ started tail, started ⊆ s.app.active ∧ Stage s tail ∧ Logged present s started tail

variable {present : Module → Bool} {s : State} {t : Nat} {place : Thread}

theorem Quiet.alone (quiet : Quiet s) (t : Nat) : Alone s t := fun t' _ => quiet t'

theorem Alone.only {t' : Nat} (alone : Alone s t') (busy : (s.threads t).Busy) : t = t' := by
  by_contra other
  exact alone t other busy

theorem Alone.goto (alone : Alone s t) (place : Thread) : Alone (s.goto t place) t := by
  intro t' other
  rw [s.goto_other place other]
  exact alone t' other

theorem Alone.quiet (alone : Alone s t) (free : ¬ place.Busy) : Quiet (s.goto t place) := by
  intro t'
  by_cases same : t' = t
  · subst same
    rwa [s.goto_self]
  · exact alone.goto place t' same

/-- A thread outside the loops that stays outside changes nothing. -/
theorem Stage.calm {tail : List Event} (stage : Stage s tail) (before : ¬ (s.threads t).Busy)
    (free : ¬ place.Busy) : Stage (s.goto t place) tail := by
  have elsewhere : ∀ {t'}, (s.threads t').Busy → t' ≠ t := by
    rintro t' busy rfl
    exact before busy
  have others : ∀ {t'}, Alone s t' → Alone (s.goto t place) t' := by
    intro t' alone u other
    by_cases same : u = t
    · subst same
      rwa [s.goto_self]
    · rw [s.goto_other place same]
      exact alone u other
  cases stage with
  | new phase none quiet => exact .new phase none ((quiet.alone t).quiet free)
  | up phase quiet => exact .up phase ((quiet.alone t).quiet free)
  | stopping t' done left thenWait phase here alone split =>
    refine .stopping t' done left thenWait phase ?_ (others alone) split
    rw [s.goto_other place (elsewhere (by rw [here]; trivial))]
    exact here
  | stopped phase quiet => exact .stopped phase ((quiet.alone t).quiet free)
  | joining t' done left phase here alone split =>
    refine .joining t' done left phase ?_ (others alone) split
    rw [s.goto_other place (elsewhere (by rw [here]; trivial))]
    exact here

/-- Only the state, the active modules and the threads matter. -/
theorem Stage.congr {s' : State} {tail : List Event} (stage : Stage s tail)
    (phase : s'.app.phase = s.app.phase) (active : s'.app.active = s.app.active)
    (threads : s'.threads = s.threads) : Stage s' tail := by
  have quiet' : Quiet s → Quiet s' := by
    intro quiet t
    rw [threads]
    exact quiet t
  have alone' : ∀ {t}, Alone s t → Alone s' t := by
    intro t alone t' other
    rw [threads]
    exact alone t' other
  cases stage with
  | new new none quiet => exact .new (phase.trans new) (active.trans none) (quiet' quiet)
  | up up quiet => exact .up (phase ▸ up) (quiet' quiet)
  | stopping t done left thenWait stopping here alone split =>
    exact .stopping t done left thenWait (phase.trans stopping) (threads ▸ here) (alone' alone)
      (active ▸ split)
  | stopped stopped quiet =>
    rw [← active]
    exact .stopped (phase.trans stopped) (quiet' quiet)
  | joining t done left joining here alone split =>
    rw [← active]
    exact .joining t done left (phase.trans joining) (threads ▸ here) (alone' alone)
      (active ▸ split)

theorem Stage.of_new {tail : List Event} (stage : Stage s tail) (phase : s.app.phase = .new) :
    tail = [] ∧ s.app.active = [] ∧ Quiet s := by
  cases stage with
  | new _ none quiet => exact ⟨rfl, none, quiet⟩
  | up other | stopping _ _ _ _ other | stopped other | joining _ _ _ other =>
    rw [phase] at other
    simp at other

theorem Stage.of_up {tail : List Event} (stage : Stage s tail)
    (phase : s.app.phase = .initialized ∨ s.app.phase = .running) : tail = [] ∧ Quiet s := by
  cases stage with
  | up _ quiet => exact ⟨rfl, quiet⟩
  | new other | stopping _ _ _ _ other | stopped other | joining _ _ _ other =>
    rw [other] at phase
    simp at phase

theorem Stage.of_stopped {tail : List Event} (stage : Stage s tail)
    (phase : s.app.phase = .stopped) : tail = stops s.app.active ∧ Quiet s := by
  cases stage with
  | stopped _ quiet => exact ⟨rfl, quiet⟩
  | new other | up other | stopping _ _ _ _ other | joining _ _ _ other =>
    rw [phase] at other
    simp at other

/-- A thread in the loop of `stop` is the only one in a loop. -/
theorem Stage.of_stopping {tail : List Event} {left : List Module} {thenWait : Bool}
    (stage : Stage s tail) (here : s.threads t = .stopping left thenWait) :
    s.app.phase = .stopping ∧ Alone s t ∧
      ∃ done, s.app.active.reverse = done ++ left ∧ tail = done.map .stop := by
  have busy : (s.threads t).Busy := by rw [here]; trivial
  cases stage with
  | new _ _ quiet | up _ quiet | stopped _ quiet => exact absurd busy (quiet t)
  | stopping t' done left' thenWait' phase here' alone split =>
    obtain rfl := alone.only busy
    rw [here] at here'
    obtain ⟨rfl, rfl⟩ := Thread.stopping.inj here'
    exact ⟨phase, alone, done, split, rfl⟩
  | joining t' done left' phase here' alone split =>
    obtain rfl := alone.only busy
    rw [here] at here'
    cases here'

theorem Stage.of_joining {tail : List Event} {left : List Module} (stage : Stage s tail)
    (here : s.threads t = .joining left) :
    s.app.phase = .joining ∧ Alone s t ∧ ∃ done, s.app.active.reverse = done ++ left ∧
      tail = stops s.app.active ++ done.map .wait := by
  have busy : (s.threads t).Busy := by rw [here]; trivial
  cases stage with
  | new _ _ quiet | up _ quiet | stopped _ quiet => exact absurd busy (quiet t)
  | stopping t' done left' thenWait phase here' alone split =>
    obtain rfl := alone.only busy
    rw [here] at here'
    cases here'
  | joining t' done left' phase here' alone split =>
    obtain rfl := alone.only busy
    rw [here] at here'
    obtain rfl := Thread.joining.inj here'
    exact ⟨phase, alone, done, split, rfl⟩

theorem Inv.calm (inv : Inv present s) (before : ¬ (s.threads t).Busy) (free : ¬ place.Busy) :
    Inv present (s.goto t place) := by
  obtain ⟨started, tail, known, stage, logged⟩ := inv.stage
  exact ⟨inv.order, started, tail, known, stage.calm before free, logged⟩

/-! ## The loops over the modules -/

theorem initializeModules_split (answers : Module → Answer) (modules : List Module) :
    match initializeModules answers modules with
    | (initialized, none) => initialized = modules
    | (initialized, some failed) => ∃ rest, modules = initialized ++ failed :: rest := by
  induction modules with
  | nil => rfl
  | cons m rest ih =>
    unfold initializeModules
    by_cases ok : tryAction (answers m) = true
    · rw [if_pos ok]
      rcases found : initializeModules answers rest with ⟨initialized, none | failed⟩
      · rw [found] at ih
        simp [ih]
      · rw [found] at ih
        obtain ⟨tail, split⟩ := ih
        exact ⟨tail, by rw [split, List.cons_append]⟩
    · rw [if_neg ok]
      exact ⟨rest, rfl⟩

theorem startModules_subset (answers : Module → Answer) (modules : List Module) :
    (startModules answers modules).1 ⊆ modules := by
  induction modules with
  | nil => exact List.Subset.refl _
  | cons m rest ih =>
    unfold startModules
    split
    · exact List.cons_subset_cons m ih
    · simp

/-! ## Every step keeps the log in order -/

theorem Inv.initializeCall (inv : Inv present s) (env : Surroundings) :
    Inv present { s with
      app := (s.app.initializeCall present env).2.1
      log := s.log ++ (s.app.initializeCall present env).2.2 } := by
  obtain ⟨started, tail, known, stage, past, proper, log⟩ := inv.stage
  by_cases phase : s.app.phase = .new
  · obtain ⟨rfl, none, quiet⟩ := stage.of_new phase
    obtain rfl : started = [] := by simpa [none] using known
    cases config : env.configError with
    | some error =>
      simp only [Application.initializeCall, phase, config, ne_eq, not_true_eq_false, if_false,
        List.append_nil]
      exact ⟨inv.order, [], [], List.nil_subset _, .new rfl none quiet, past, proper, log⟩
    | none =>
      have split := initializeModules_split env.answers (Module.ordered.filter present)
      rcases found : initializeModules env.answers (Module.ordered.filter present) with
        ⟨initialized, _ | failed⟩
      · rw [found] at split
        simp only [Application.initializeCall, phase, config, found, ne_eq, not_true_eq_false, if_false]
        refine ⟨?_, [], [], List.nil_subset _, .up (.inl rfl) quiet, past, proper, ?_⟩
        · simp [none, split]
        · simp [log, none]
      · rw [found] at split
        obtain ⟨rest, split⟩ := split
        simp only [Application.initializeCall, phase, config, found, ne_eq, not_true_eq_false, if_false]
        refine ⟨List.nil_prefix, [], [], List.nil_subset _, .new rfl rfl quiet,
          past ++ [⟨initialized, some failed, []⟩], ?_, ?_⟩
        · intro c member
          rcases List.mem_append.1 member with old | new
          · exact proper c old
          · obtain rfl := List.mem_singleton.1 new
            refine ⟨⟨failed :: rest, split.symm⟩, ?_, List.nil_subset _⟩
            rintro m ⟨⟩ twice
            have nodup := ordered_nodup present
            rw [split] at nodup
            exact (List.nodup_append.1 nodup).2.2 _ twice _ List.mem_cons_self rfl
        · simp [log, none, Cycle.events]
  · simp only [Application.initializeCall, phase, ne_eq, not_false_eq_true, if_true, List.append_nil]
    exact ⟨inv.order, started, tail, known, stage.congr rfl rfl rfl, past, proper, log⟩

theorem Inv.start (inv : Inv present s) (idle : s.threads 0 = .idle) (answers : Module → Answer) :
    Inv present { s.goto 0 (if !(s.app.start answers).1 && s.app.phase = .initialized
        then .startFailed else .idle) with
      app := (s.app.start answers).2.1
      log := s.log ++ (s.app.start answers).2.2 } := by
  have free : ¬ (s.threads 0).Busy := by rw [idle]; exact id
  have calm : ∀ failed : Bool, ¬ (if failed then Thread.startFailed else .idle).Busy := by
    intro failed
    cases failed <;> exact id
  obtain ⟨started, tail, known, stage, past, proper, log⟩ := inv.stage
  by_cases phase : s.app.phase = .initialized
  · obtain ⟨rfl, quiet⟩ := stage.of_up (.inl phase)
    have subset := startModules_subset answers s.app.active
    rcases found : startModules answers s.app.active with ⟨called, _ | failed⟩
    · rw [found] at subset
      simp only [Application.start, phase, found, ne_eq, not_true_eq_false, if_false]
      refine ⟨inv.order, started ++ called, [], List.append_subset.2 ⟨known, subset⟩,
        .up (.inr rfl) ((quiet.alone 0).quiet (calm _)), past, proper, ?_⟩
      simp [log]
    · rw [found] at subset
      simp only [Application.start, phase, found, ne_eq, not_true_eq_false, if_false]
      refine ⟨inv.order, started ++ called, [], List.append_subset.2 ⟨known, subset⟩,
        .up (.inl rfl) ((quiet.alone 0).quiet (calm _)), past, proper, ?_⟩
      simp [log]
  · simp only [Application.start, phase, ne_eq, not_false_eq_true, if_true, List.append_nil]
    exact ⟨inv.order, started, tail, known,
      (stage.calm free (calm _)).congr rfl rfl rfl, past, proper, log⟩

theorem Inv.beginStop (inv : Inv present s) (free : ¬ (s.threads t).Busy) (thenWait : Bool) :
    Inv present (beginStop s t thenWait) := by
  unfold App.beginStop
  split
  · next phase =>
    obtain ⟨started, tail, known, stage, past, proper, log⟩ := inv.stage
    obtain ⟨rfl, quiet⟩ := stage.of_up phase
    refine ⟨inv.order, started, [], known, ?_, past, proper, log⟩
    exact .stopping t [] s.app.active.reverse thenWait rfl (s.goto_self t _)
      ((quiet.alone t).goto _) rfl
  · apply inv.calm free
    cases thenWait <;> exact id

theorem Inv.stopModule (inv : Inv present s) {m : Module} {left : List Module} {thenWait : Bool}
    (here : s.threads t = .stopping (m :: left) thenWait) :
    Inv present { s.goto t (.stopping left thenWait) with log := s.log ++ [.stop m] } := by
  obtain ⟨started, tail, known, stage, past, proper, log⟩ := inv.stage
  obtain ⟨phase, alone, done, split, rfl⟩ := stage.of_stopping here
  have split' : s.app.active.reverse = (done ++ [m]) ++ left := by rw [split, List.append_cons]
  refine ⟨inv.order, started, (done ++ [m]).map .stop, known, ?_, past, proper, ?_⟩
  · exact .stopping t (done ++ [m]) left thenWait phase (s.goto_self t _) (alone.goto _) split'
  · simp [log, State.goto]

theorem Inv.stopReturn (inv : Inv present s) {thenWait : Bool}
    (here : s.threads t = .stopping [] thenWait) :
    Inv present { s.goto t (if thenWait then .stopReturned else .idle) with
      app := { s.app with phase := .stopped } } := by
  obtain ⟨started, tail, known, stage, past, proper, log⟩ := inv.stage
  obtain ⟨phase, alone, done, split, rfl⟩ := stage.of_stopping here
  have free : ¬ (if thenWait then Thread.stopReturned else .idle).Busy := by
    cases thenWait <;> exact id
  refine ⟨inv.order, started, stops s.app.active, known, .stopped rfl (alone.quiet free), past,
    proper, ?_⟩
  rw [List.append_nil] at split
  rw [stops, split]
  exact log

theorem Inv.beginJoin (inv : Inv present s) (phase : s.app.phase = .stopped) :
    Inv present { s.goto t (.joining s.app.active.reverse) with
      app := { s.app with phase := .joining } } := by
  obtain ⟨started, tail, known, stage, past, proper, log⟩ := inv.stage
  obtain ⟨rfl, quiet⟩ := stage.of_stopped phase
  refine ⟨inv.order, started, stops s.app.active ++ [], known, ?_, past, proper, ?_⟩
  · exact .joining t [] s.app.active.reverse rfl (s.goto_self t _) ((quiet.alone t).goto _) rfl
  · rw [List.append_nil]
    exact log

theorem Inv.waitModule (inv : Inv present s) {m : Module} {left : List Module}
    (here : s.threads t = .joining (m :: left)) :
    Inv present { s.goto t (.joining left) with log := s.log ++ [.wait m] } := by
  obtain ⟨started, tail, known, stage, past, proper, log⟩ := inv.stage
  obtain ⟨phase, alone, done, split, rfl⟩ := stage.of_joining here
  have split' : s.app.active.reverse = (done ++ [m]) ++ left := by rw [split, List.append_cons]
  refine ⟨inv.order, started, stops s.app.active ++ (done ++ [m]).map .wait, known, ?_, past, proper,
    ?_⟩
  · exact .joining t (done ++ [m]) left phase (s.goto_self t _) (alone.goto _) split'
  · simp [log, State.goto]

/-- The last join ends the lifecycle. -/
theorem Inv.waitReturn (inv : Inv present s) (here : s.threads t = .joining []) :
    Inv present { s.goto t .idle with app := { s.app with active := [], phase := .new } } := by
  obtain ⟨started, tail, known, stage, past, proper, log⟩ := inv.stage
  obtain ⟨phase, alone, done, split, rfl⟩ := stage.of_joining here
  refine ⟨List.nil_prefix, [], [], List.nil_subset _, .new rfl rfl (alone.quiet id),
    past ++ [⟨s.app.active, none, started⟩], ?_, ?_⟩
  · intro c member
    rcases List.mem_append.1 member with old | new
    · exact proper c old
    · obtain rfl := List.mem_singleton.1 new
      exact ⟨inv.order, by simp, known⟩
  · rw [List.append_nil] at split
    rw [← split] at log
    simpa [Cycle.events, waits, State.goto] using log

theorem Inv.init : Inv present {} :=
  ⟨List.nil_prefix, [], [], List.nil_subset _, .new rfl rfl fun _ => id, [], by simp, rfl⟩

theorem Inv.step {s' : State} {action : Action} (inv : Inv present s)
    (moved : step present s action = some s') : Inv present s' := by
  cases action with
  | initializeCall env =>
    cases here : s.threads 0 with
    | idle =>
      simp only [App.step, here, Option.some.injEq] at moved
      subst moved
      exact inv.initializeCall env
    | startFailed | stopping | stopReturned | waiting | awaiting | joining =>
      simp [App.step, here] at moved
  | start answers =>
    cases here : s.threads 0 with
    | idle =>
      simp only [App.step, here, Option.some.injEq] at moved
      subst moved
      exact inv.start here answers
    | startFailed | stopping | stopReturned | waiting | awaiting | joining =>
      simp [App.step, here] at moved
  | stop thread =>
    cases here : s.threads thread with
    | idle | startFailed =>
      simp only [App.step, here, Option.some.injEq] at moved
      subst moved
      exact inv.beginStop (by rw [here]; exact id) _
    | stopping | stopReturned | waiting | awaiting | joining =>
      simp [App.step, here] at moved
  | stopModule thread =>
    simp only [App.step] at moved
    split at moved
    · next m left thenWait here =>
      obtain rfl := Option.some.inj moved
      exact inv.stopModule here
    · cases moved
  | stopReturn thread =>
    simp only [App.step] at moved
    split at moved
    · next thenWait here =>
      obtain rfl := Option.some.inj moved
      exact inv.stopReturn here
    · cases moved
  | wait thread =>
    cases here : s.threads thread with
    | idle | stopReturned =>
      simp only [App.step, here, Option.some.injEq] at moved
      subst moved
      exact inv.calm (by rw [here]; exact id) id
    | startFailed | stopping | waiting | awaiting | joining =>
      simp [App.step, here] at moved
  | wake thread =>
    cases here : s.threads thread with
    | waiting =>
      have free : ¬ (s.threads thread).Busy := by rw [here]; exact id
      cases phase : s.app.phase with
      | new | joining =>
        simp only [App.step, here, phase, Option.some.injEq] at moved
        subst moved
        exact inv.calm free id
      | stopped =>
        simp only [App.step, here, phase, Option.some.injEq] at moved
        subst moved
        exact inv.beginJoin phase
      | initialized | running | stopping =>
        simp [App.step, here, phase] at moved
    | awaiting =>
      simp only [App.step, here] at moved
      obtain ⟨_, ⟨⟩⟩ := Option.ite_none_left_eq_some.1 moved
      exact inv.calm (by rw [here]; exact id) id
    | idle | startFailed | stopping | stopReturned | joining =>
      simp [App.step, here] at moved
  | waitModule thread =>
    simp only [App.step] at moved
    split at moved
    · next m left here =>
      obtain rfl := Option.some.inj moved
      exact inv.waitModule here
    · cases moved
  | waitReturn thread =>
    simp only [App.step] at moved
    split at moved
    · next here =>
      obtain rfl := Option.some.inj moved
      exact inv.waitReturn here
    · cases moved

/-- What the present lifecycle has logged is the beginning of a whole one. -/
theorem Stage.begins {tail : List Event} (stage : Stage s tail) :
    tail <+: stops s.app.active ++ waits s.app.active := by
  cases stage with
  | new | up => exact List.nil_prefix
  | stopping t done left thenWait phase here alone split =>
    refine ⟨left.map .stop ++ waits s.app.active, ?_⟩
    rw [← List.append_assoc, ← List.map_append, ← split]
    rfl
  | stopped => exact List.prefix_append _ _
  | joining t done left phase here alone split =>
    refine ⟨left.map .wait, ?_⟩
    rw [List.append_assoc, ← List.map_append, ← split]
    rfl

/-- **The lifecycle.** Whatever the modules answer and however the threads that stop and wait
interleave, the calls the modules received are whole lifecycles and the beginning of one more: in
each the modules are initialized in order, up to one that fails or to the last, some of them
started, then all initialized ones stopped in reverse and then all of them joined in reverse. So
the successful initializations, stops and joins of one module go round in this order. In state
`New` no module is active and every lifecycle has ended. -/
theorem lifecycle (present : Module → Bool) (run : Runs (step present) Free {} s) :
    (∃ (past : List Cycle) (c : Cycle) (current : List Event), (∀ c ∈ past, c.Proper present) ∧
        c.Proper present ∧ s.log = past.flatMap Cycle.events ++ current ∧ current <+: c.events) ∧
      (∀ m, ∃ n, s.log.filter (about m) <+:
        (List.replicate n [Event.initialized m, .stop m, .wait m]).flatten) ∧
      (s.app.phase = .new → s.app.active = [] ∧
        ∃ past : List Cycle, (∀ c ∈ past, c.Proper present) ∧ s.log = past.flatMap Cycle.events) := by
  have inv : Inv present s := by
    apply run.invariant
    · exact .init
    · intro u action v inv _ moved
      exact inv.step moved
  obtain ⟨started, tail, known, stage, past, proper, log⟩ := inv.stage
  let c : Cycle := ⟨s.app.active, none, started⟩
  have whole : c.Proper present := ⟨inv.order, by simp [c], known⟩
  have begins : s.app.active.map .initialized ++ started.map .start ++ tail <+: c.events := by
    simp only [Cycle.events, c, Option.toList_none, List.map_nil, List.append_nil, List.append_assoc]
    exact (List.prefix_append_right_inj _).2 ((List.prefix_append_right_inj _).2 stage.begins)
  refine ⟨⟨past, c, _, proper, whole, log, begins⟩, ?_, ?_⟩
  · intro m
    have all : ∀ c' ∈ past ++ [c], c'.Proper present := by
      intro c' member
      rcases List.mem_append.1 member with old | new
      · exact proper c' old
      · rw [List.mem_singleton.1 new]
        exact whole
    obtain ⟨n, rounds⟩ := alternates_past all m
    refine ⟨n, ?_⟩
    rw [← rounds, log, List.flatMap_append, List.flatMap_singleton]
    exact ((List.prefix_append_right_inj _).2 begins).filter _
  · intro phase
    obtain ⟨rfl, none, _⟩ := stage.of_new phase
    obtain rfl : started = [] := by simpa [none] using known
    exact ⟨none, past, proper, by simpa [none] using log⟩

/-- The second of two modules throws in `start`; another thread stops, the starting one joins. -/
theorem lifecycle_failed_start : ∃ s : State,
    s.log = [.initialized .storage, .initialized .gps, .start .storage, .start .gps,
      .stop .gps, .stop .storage, .wait .gps, .wait .storage] ∧
    s.app.active = [] := by
  have reached : ∃ s, Runs (step fun m => m = .storage ∨ m = .gps) Free {} s ∧
      s.log = [.initialized .storage, .initialized .gps, .start .storage, .start .gps,
        .stop .gps, .stop .storage, .wait .gps, .wait .storage] ∧ s.app.phase = .new := by
    apply Runs.exists_of_play [.initializeCall ⟨none, fun _ => .returned true, fun _ => ""⟩,
      .start (fun m => if m = .gps then .threw else .returned true), .stop 1, .stop 0,
      .stopModule 1, .wait 0, .stopModule 1, .stopReturn 1, .wake 0, .waitModule 0, .waitModule 0,
      .waitReturn 0]
    · decide +kernel
    · exact Meets.free _ _
  obtain ⟨s, run, log, phase⟩ := reached
  exact ⟨s, log, ((lifecycle _ run).2.2 phase).1⟩

end SkaiEdge.App
