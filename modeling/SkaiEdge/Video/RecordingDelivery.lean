import SkaiEdge.Core.QueueFeed
import SkaiEdge.Video.RecordingModule

/-!
# What the recorder writes to its pipelines

The recorder is a consumer of a `Feed` as the WHIP publisher is, with two differences: the drop
count is read before the pipeline's bus is polled, so the unit counts as passed from that read
on, and a new pipeline starts a new list (`reopen`). Two schedules break it and `Undisturbed`
excludes them: an overflow behind an unread keyframe, and a `start` that comes between a failed
pipeline and the worker's next `requested()`, which then never closes the gate again
(`restart_after_failure`).
-/

namespace SkaiEdge.Video.RecordingModule

open SkaiEdge.Lib SkaiEdge.Core

/-- The worker's unit as the feed sees it; behind the drop count a unit that the gate will skip
is gone already. -/
def hand (s : State) : Hand EncodedAccessUnit :=
  match s.worker with
  | .popped (some unit) => .taken unit
  | .poll (some unit) | .gate unit =>
    if unit.val.keyframe || !s.waitingForKeyframe then .passed unit else .empty
  | .opening unit | .writing unit => .passed unit
  | _ => .empty

/-- A failure is under way. -/
def Worker.failed : Worker → Bool
  | .failing _ _ | .closing => true
  | _ => false

/-- Without a pipeline the gate counts as closed: only a keyframe may open the next one. -/
def view (s : State) : Feed EncodedAccessUnit where
  next := s.published.length
  pending := s.queue.items
  dropped := s.queue.stats.dropped
  observed := s.observedQueueDrops
  waiting :=
    match hand s with
    | .passed _ => false
    | _ => s.waitingForKeyframe || s.pipeline.isNone || s.worker.failed
  hand := hand s
  delivered := s.written

/-- No push overflows the queue while the worker holds a popped keyframe whose drop count it
has not read, and a recording that failed behind the gate is not requested again before the
worker looks. -/
def Undisturbed (s : State) : Action → Prop
  | .push _ => s.queue.isShutdown = false → s.queue.full = true →
      ∀ unit ∈ s.worker.unread, unit.val.keyframe = false
  | .check => s.pipeline = none → s.waitingForKeyframe = false → s.control.isRequested = false
  | _ => True

instance (s : State) : DecidablePred (Undisturbed s) := fun a =>
  match a with
  | .push _ => inferInstanceAs (Decidable (_ → _ → ∀ unit ∈ s.worker.unread, _ = false))
  | .check => inferInstanceAs (Decidable (_ → _ → _ = false))
  | .shutdownQueue | .start | .stop | .setMediaAvailable _ _ | .stopModule | .formatLocation _ _
  | .grow _ _ _ | .loop | .setStopped _ | .idlePop | .pop | .read _ | .poll _ | .ending
  | .gate _ _ | .open _ | .write _ | .fail | .close _ | .leave _ => .isTrue trivial

abbrev Moves : Feed EncodedAccessUnit → Feed EncodedAccessUnit → Prop :=
  Relation.ReflTransGen (Feed.Step EncodedAccessUnit.keyframe)

/-- The worker is between `requested()` and the gate. -/
def Worker.serving : Worker → Bool
  | .pop | .popped _ | .poll _ | .gate _ => true
  | _ => false

/-- The feed's invariant, and that the stamps are positions of `published`. -/
structure Fed (s : State) : Prop where
  feed : Feed.Inv EncodedAccessUnit.keyframe (view s)
  recorded : Recorded s.published (view s).units

/-- What the worker's position says about the gate and the pipeline. -/
structure Placed (s : State) : Prop where
  armed : s.worker.serving = true → s.pipeline = none → s.waitingForKeyframe = true
  opening : ∀ unit, s.worker = .opening unit → s.waitingForKeyframe = false ∧
    (s.pipeline = none → unit.val.keyframe = true)
  writing : ∀ unit, s.worker = .writing unit → s.waitingForKeyframe = false ∧ s.pipeline ≠ none
  failing : ∀ error, s.worker = .failing error false → s.pipeline = none
  idle : s.worker = .idlePop → s.waitingForKeyframe = true

structure Inv (s : State) : Prop where
  fed : Fed s
  placed : Placed s

theorem inv_init (config : RecordingConfig) (capacity : Nat) (positive : 0 < capacity)
    (control : RecordingController) (entries : List Entry) :
    Inv (init config capacity positive control entries) where
  fed := ⟨⟨.nil, .nil, Nat.le_refl _, fun armed => nomatch armed⟩, nofun⟩
  placed := by constructor <;> simp [init, Worker.serving]

/-- The positions that say nothing. -/
def Worker.free : Worker → Bool
  | .top | .check | .idle | .ending | .closing | .leaving | .finished => true
  | _ => false

theorem Placed.of_free {s : State} (free : s.worker.free = true) : Placed s := by
  constructor <;> cases worker : s.worker <;> simp_all [Worker.free, Worker.serving]

theorem Placed.of_serving {s : State} (serving : s.worker.serving = true)
    (armed : s.pipeline = none → s.waitingForKeyframe = true) : Placed s := by
  constructor <;> cases worker : s.worker <;> simp_all [Worker.serving]

theorem Placed.of_opening {s : State} {unit : Stamped EncodedAccessUnit}
    (worker : s.worker = .opening unit) (open' : s.waitingForKeyframe = false)
    (first : s.pipeline = none → unit.val.keyframe = true) : Placed s := by
  constructor <;> simp_all [Worker.serving]

theorem Placed.of_writing {s : State} {unit : Stamped EncodedAccessUnit}
    (worker : s.worker = .writing unit) (open' : s.waitingForKeyframe = false)
    (held : s.pipeline ≠ none) : Placed s := by
  constructor <;> simp_all [Worker.serving]

theorem Placed.of_failing {s : State} {error : List Char} {closes : Bool}
    (worker : s.worker = .failing error closes) (none' : closes = false → s.pipeline = none) :
    Placed s := by
  constructor <;> simp_all [Worker.serving]

theorem Placed.congr {s v : State} (placed : Placed s) (worker : v.worker = s.worker)
    (waiting : v.waitingForKeyframe = s.waitingForKeyframe)
    (pipeline : v.pipeline = none ↔ s.pipeline = none) : Placed v := by
  obtain ⟨armed, opening, writing, failing, idle⟩ := placed
  constructor <;> simp only [worker, waiting, pipeline, ne_eq] <;> assumption

theorem Fed.of_moves {s v : State} (fed : Fed s) (moves : Moves (view s) (view v))
    (log : v.published = s.published) (sub : (view v).units ⊆ (view s).units) : Fed v :=
  ⟨fed.feed.run moves, log ▸ fed.recorded.subset sub⟩

theorem Fed.of_view {s v : State} (fed : Fed s) (same : view v = view s)
    (log : v.published = s.published) : Fed v :=
  fed.of_moves (same ▸ .refl) log (same ▸ List.Subset.refl _)

/-- Whatever closes the gate and lets go of the unit re-arms the feed. -/
theorem Fed.rearm {s v : State} (fed : Fed s) (queue : v.queue = s.queue)
    (log : v.published = s.published) (written : v.written = s.written)
    (counted : v.observedQueueDrops ≤ s.queue.stats.dropped) (empty : hand v = .empty)
    (closed : (v.waitingForKeyframe || v.pipeline.isNone || v.worker.failed) = true) : Fed v := by
  have rearm : Feed.Step EncodedAccessUnit.keyframe (view s) _ :=
    .rearm v.observedQueueDrops counted
  have after : view v =
      { view s with observed := v.observedQueueDrops, waiting := true, hand := .empty } := by
    simp only [view, empty, closed, queue, log, written]
  refine fed.of_moves (.single (after ▸ rearm)) log ?_
  rw [after]
  intro unit member
  simp only [Feed.units, Hand.toList, List.append_nil, List.mem_append] at member ⊢
  tauto

theorem Fed.push {s : State} {unit : EncodedAccessUnit} (fed : Fed s)
    (guard : Undisturbed s (.push unit)) : Fed (RecordingModule.push s unit) := by
  have unread : s.queue.isShutdown = false → s.queue.full = true →
      ∀ k, (view s).hand = .taken k → k.val.keyframe = false := by
    intro down full k held
    refine guard down full k ?_
    simp only [view, hand] at held
    split at held
    · simp_all [Worker.unread]
    · split at held <;> cases held
    · split at held <;> cases held
    all_goals cases held
  obtain ⟨feed, recorded⟩ := BoundedQueue.push_keeps unit fed.feed fed.recorded rfl rfl rfl unread
  exact ⟨feed, recorded⟩

theorem Inv.pop {s : State} (inv : Inv s) (standing : s.worker = .pop) :
    Inv (RecordingModule.pop s) := by
  have armed := inv.placed.armed (by simp [standing, Worker.serving])
  rcases pop_cases s with ⟨_, stays⟩ | ⟨front, rest, items, takes⟩
  · rw [stays]
    refine ⟨inv.fed.of_view ?_ rfl, .of_serving rfl armed⟩
    simp [view, hand, standing, Worker.failed]
  · have left := (BoundedQueue.takeFront_cons items).2.1
    have feeds : Moves (view s) _ := BoundedQueue.takeFront_feeds (f := view s) rfl rfl
      (by simp [view, hand, standing]) items
    rw [takes]
    refine ⟨inv.fed.of_moves ?_ rfl ?_, .of_serving rfl armed⟩
    · simpa [view, hand, standing, Worker.failed] using feeds
    · simp [Feed.units, view, hand, standing, Hand.toList, left, items]

/-- A pop outside a recording takes the unit and lets it go. -/
theorem Inv.idlePop {s : State} (inv : Inv s) (standing : s.worker = .idlePop) :
    Inv (RecordingModule.idlePop s) := by
  have waiting := inv.placed.idle standing
  cases items : s.queue.items with
  | nil =>
    simp only [RecordingModule.idlePop, BoundedQueue.takeFront_nil items]
    exact ⟨inv.fed.of_view (by simp [view, hand, standing, Worker.failed]) rfl, .of_free rfl⟩
  | cons front rest =>
    obtain ⟨_, left, same⟩ := BoundedQueue.takeFront_cons items
    have feeds : Moves (view s) _ := BoundedQueue.takeFront_feeds (f := view s) rfl rfl
      (by simp [view, hand, standing]) items
    have rearm : Feed.Step EncodedAccessUnit.keyframe _ _ := .rearm
      (f := { view s with
        pending := s.queue.takeFront.2.items
        dropped := s.queue.takeFront.2.stats.dropped
        hand := .taken front }) s.observedQueueDrops (same ▸ inv.fed.feed.counted)
    have taken : RecordingModule.idlePop s = { s with
        queue := s.queue.takeFront.2, control := s.control.addDropped, worker := .top } := by
      unfold RecordingModule.idlePop
      rw [BoundedQueue.takeFront_eq items]
    rw [taken]
    refine ⟨inv.fed.of_moves (feeds.tail ?_) rfl ?_, .of_free rfl⟩
    · simpa [view, hand, waiting] using rearm
    · simp [Feed.units, view, hand, standing, Hand.toList, left, items]

/-- A unit that the drop count does not hold back passes. -/
theorem Fed.pass {s v : State} {unit : Stamped EncodedAccessUnit} (fed : Fed s)
    (held : hand s = .taken unit) (queue : v.queue = s.queue) (log : v.published = s.published)
    (written : v.written = s.written) (seen : v.observedQueueDrops = s.queue.stats.dropped)
    (passed : hand v = .passed unit)
    (opens : unit.val.keyframe = true ∨
      (view s).waiting = false ∧ s.observedQueueDrops = s.queue.stats.dropped) : Fed v := by
  have pass : Feed.Step EncodedAccessUnit.keyframe (view s) _ := .pass unit false held opens
  have after : view v = { view s with
      observed := s.queue.stats.dropped, waiting := false, hand := .passed unit } := by
    simp only [view, passed, queue, log, written, seen]
  refine fed.of_moves (.single (after ▸ pass)) log ?_
  rw [after]
  simp [Feed.units, view, held, Hand.toList]

theorem Inv.read {s : State} {unit : Option (Stamped EncodedAccessUnit)} (c : Closing) (inv : Inv s)
    (standing : s.worker = .popped unit) : Inv (RecordingModule.read s unit c) := by
  have armed := inv.placed.armed (by simp [standing, Worker.serving])
  rcases read_cases s unit c with ⟨control, entries, pipeline, _, closes⟩ | ⟨open', seen, stays⟩
  · rw [closes]
    refine ⟨?_, .of_serving rfl fun _ => rfl⟩
    cases unit with
    | none => exact inv.fed.rearm rfl rfl rfl (Nat.le_refl _) rfl rfl
    | some unit =>
      cases key : unit.val.keyframe with
      | true =>
        exact inv.fed.pass (by simp [hand, standing]) rfl rfl rfl rfl (by simp [hand, key]) (.inl key)
      | false =>
        exact inv.fed.rearm rfl rfl rfl (Nat.le_refl _) (by simp [hand, key]) rfl
  · rw [stays]
    have held : s.pipeline ≠ none := fun none => by simp [armed none] at open'
    have opened : s.pipeline.isNone = false := by simpa [Option.isSome_iff_ne_none] using held
    refine ⟨?_, .of_serving rfl armed⟩
    cases unit with
    | none => exact inv.fed.of_view (by simp [view, hand, standing, Worker.failed]) rfl
    | some unit =>
      have taken : hand s = .taken unit := by simp [hand, standing]
      refine inv.fed.pass taken rfl rfl rfl seen (by simp [hand, open']) (.inr ⟨?_, seen⟩)
      simp [view, taken, standing, open', opened, Worker.failed]

theorem Inv.poll {s : State} {unit : Option (Stamped EncodedAccessUnit)} (event : BusEvent)
    (inv : Inv s) (standing : s.worker = .poll unit) : Inv (RecordingModule.poll s unit event) := by
  have armed := inv.placed.armed (by simp [standing, Worker.serving])
  rcases poll_cases s unit event with ⟨error, held, fails⟩ | ⟨rfl, ends⟩ | ⟨u, rfl, goes⟩
  · rw [fails]
    refine ⟨inv.fed.rearm rfl rfl rfl inv.fed.feed.counted rfl (by simp [Worker.failed]), ?_⟩
    exact .of_failing rfl (by simp)
  · rw [ends]
    exact ⟨inv.fed.of_view (by simp [view, hand, standing, Worker.failed]) rfl, .of_free rfl⟩
  · rw [goes]
    refine ⟨inv.fed.of_view (by simp [view, hand, standing, Worker.failed]) rfl, ?_⟩
    exact .of_serving rfl armed

theorem Inv.gate {s : State} {unit : Stamped EncodedAccessUnit} (steady : Nat) (c : Closing)
    (inv : Inv s) (standing : s.worker = .gate unit) :
    Inv (RecordingModule.gate s unit steady c) := by
  have armed := inv.placed.armed (by simp [standing, Worker.serving])
  have counted : s.observedQueueDrops ≤ s.queue.stats.dropped := inv.fed.feed.counted
  rcases gate_cases s unit steady c with
    ⟨control, entries, pipeline, _, skips⟩ | ⟨control, entries, sessionId, key, _, reopens⟩ |
    ⟨sessionId, opens, passes⟩
  · rw [skips]
    exact ⟨inv.fed.rearm rfl rfl rfl counted rfl rfl, .of_free rfl⟩
  · rw [reopens]
    refine ⟨inv.fed.of_view (by simp [view, hand, standing, key]) rfl, ?_⟩
    exact .of_opening rfl rfl fun _ => key
  · rw [passes]
    have passed : (unit.val.keyframe || !s.waitingForKeyframe) = true := by
      simpa using opens
    refine ⟨inv.fed.of_view (by simp [view, hand, standing, passed]) rfl, ?_⟩
    refine .of_opening rfl rfl fun none => ?_
    rcases opens with key | open'
    · exact key
    · rw [armed none] at open'; cases open'

theorem Inv.openStep {s : State} {unit : Stamped EncodedAccessUnit} (o : Opening) (inv : Inv s)
    (standing : s.worker = .opening unit) : Inv (RecordingModule.openStep s unit o) := by
  obtain ⟨open', first⟩ := inv.placed.opening unit standing
  have counted : s.observedQueueDrops ≤ s.queue.stats.dropped := inv.fed.feed.counted
  cases pipeline : s.pipeline with
  | some p =>
    simp only [RecordingModule.openStep, pipeline]
    refine ⟨inv.fed.of_view (by simp [view, hand, standing]) rfl, ?_⟩
    exact .of_writing rfl open' (by simp)
  | none =>
    have key := first pipeline
    rcases openPipeline_cases s o with ⟨entries, error, _, fails⟩ | opens
    · simp only [RecordingModule.openStep, pipeline, fails]
      refine ⟨inv.fed.rearm rfl rfl rfl counted rfl (by simp [Worker.failed]), ?_⟩
      exact .of_failing rfl fun _ => rfl
    · simp only [RecordingModule.openStep, pipeline, opens]
      have reopen : Feed.Step EncodedAccessUnit.keyframe (view s) _ :=
        .reopen unit (by simp [view, hand, standing]) key
      refine ⟨inv.fed.of_moves (.single ?_) rfl ?_, ?_⟩
      · simpa [view, hand, standing] using reopen
      · simp [Feed.units, view, hand, standing]
      · exact .of_writing rfl open' (by simp)

theorem Inv.write {s : State} {p : Pipeline} {unit : Stamped EncodedAccessUnit} (w : Writing)
    (inv : Inv s) (standing : s.worker = .writing unit) :
    Inv (RecordingModule.write s p unit w) := by
  have open' := (inv.placed.writing unit standing).1
  have counted : s.observedQueueDrops ≤ s.queue.stats.dropped := inv.fed.feed.counted
  cases w with
  | congested => exact ⟨inv.fed.rearm rfl rfl rfl counted rfl rfl, .of_free rfl⟩
  | failed error =>
    refine ⟨inv.fed.rearm rfl rfl rfl counted rfl (by simp [RecordingModule.write, Worker.failed]), ?_⟩
    exact .of_failing rfl (by simp)
  | accepted =>
    have deliver : Feed.Step EncodedAccessUnit.keyframe (view s) _ :=
      .deliver unit (by simp [view, hand, standing])
    refine ⟨inv.fed.of_moves (.single ?_) rfl ?_, .of_free rfl⟩
    · simpa [view, hand, RecordingModule.write, open', Worker.failed] using deliver
    · simp [Feed.units, view, hand, RecordingModule.write, standing, Hand.toList]

/-- **Every move of the recorder keeps the invariant.** -/
theorem Inv.step {s v : State} {a : Action} (inv : Inv s) (guard : Undisturbed s a)
    (moved : step s a = some v) : Inv v := by
  have counted : s.observedQueueDrops ≤ s.queue.stats.dropped := inv.fed.feed.counted
  cases a with
  | push unit =>
    cases moved
    exact ⟨inv.fed.push guard, inv.placed.congr rfl rfl Iff.rfl⟩
  | shutdownQueue => cases moved; exact ⟨inv.fed.of_view rfl rfl, inv.placed.congr rfl rfl Iff.rfl⟩
  | start => cases moved; exact ⟨inv.fed.of_view rfl rfl, inv.placed.congr rfl rfl Iff.rfl⟩
  | stop => cases moved; exact ⟨inv.fed.of_view rfl rfl, inv.placed.congr rfl rfl Iff.rfl⟩
  | setMediaAvailable available reason =>
    cases moved
    exact ⟨inv.fed.of_view rfl rfl, inv.placed.congr rfl rfl Iff.rfl⟩
  | stopModule => cases moved; exact ⟨inv.fed.of_view rfl rfl, inv.placed.congr rfl rfl Iff.rfl⟩
  | formatLocation now time =>
    obtain ⟨p, held, rfl⟩ := Option.map_eq_some_iff.1 moved
    refine ⟨inv.fed.of_view ?_ rfl, inv.placed.congr rfl rfl ?_⟩
    · simp [view, hand, RecordingModule.formatLocation, held]
    · simp [RecordingModule.formatLocation, held]
  | grow name bytes time =>
    simp only [RecordingModule.step] at moved
    split at moved
    · rename_i p held
      obtain ⟨_, ⟨⟩⟩ := Option.ite_none_right_eq_some.1 moved
      refine ⟨inv.fed.of_view ?_ rfl, inv.placed.congr rfl rfl ?_⟩
      · simp [view, hand, held]
      · simp [held]
    · cases moved
  | loop =>
    obtain ⟨standing, ⟨⟩⟩ := Option.ite_none_right_eq_some.1 moved
    cases running : s.running <;>
      exact ⟨inv.fed.of_view (by simp [view, hand, standing, Worker.failed]) rfl, .of_free rfl⟩
  | check =>
    obtain ⟨standing, ⟨⟩⟩ := Option.ite_none_right_eq_some.1 moved
    cases requested : s.control.isRequested with
    | true =>
      -- the guard: a gate left open by a failed pipeline is not served
      refine ⟨inv.fed.of_view (by simp [view, hand, standing, Worker.failed]) rfl, ?_⟩
      refine .of_serving rfl fun none => ?_
      cases waiting : s.waitingForKeyframe with
      | true => rfl
      | false => rw [guard none waiting] at requested; cases requested
    | false =>
      exact ⟨inv.fed.of_view (by simp [view, hand, standing, Worker.failed]) rfl, .of_free rfl⟩
  | setStopped c =>
    obtain ⟨standing, ⟨⟩⟩ := Option.ite_none_right_eq_some.1 moved
    obtain ⟨control, entries, _, closed⟩ := closePipeline_eq s true c
    rw [closed]
    exact ⟨inv.fed.rearm rfl rfl rfl counted rfl rfl, by constructor <;> simp [Worker.serving]⟩
  | idlePop =>
    obtain ⟨standing, ⟨⟩⟩ := Option.ite_none_right_eq_some.1 moved
    exact inv.idlePop standing
  | pop =>
    obtain ⟨standing, ⟨⟩⟩ := Option.ite_none_right_eq_some.1 moved
    exact inv.pop standing
  | read c =>
    simp only [RecordingModule.step] at moved
    split at moved
    · rename_i unit standing
      cases moved
      exact inv.read c standing
    · cases moved
  | poll event =>
    simp only [RecordingModule.step] at moved
    split at moved
    · rename_i unit standing
      cases moved
      exact inv.poll event standing
    · cases moved
  | ending =>
    obtain ⟨standing, ⟨⟩⟩ := Option.ite_none_right_eq_some.1 moved
    cases s.queue.isShutdown <;>
      exact ⟨inv.fed.of_view (by simp [view, hand, standing, Worker.failed]) rfl, .of_free rfl⟩
  | gate steady c =>
    simp only [RecordingModule.step] at moved
    split at moved
    · rename_i unit standing
      cases moved
      exact inv.gate steady c standing
    · cases moved
  | «open» o =>
    simp only [RecordingModule.step] at moved
    split at moved
    · rename_i unit standing
      cases moved
      exact inv.openStep o standing
    · cases moved
  | write w =>
    simp only [RecordingModule.step] at moved
    split at moved
    · rename_i unit p standing held
      cases moved
      exact inv.write w standing
    · cases moved
  | fail =>
    simp only [RecordingModule.step] at moved
    split at moved
    · rename_i error closes standing
      cases moved
      cases closes with
      | true =>
        exact ⟨inv.fed.of_view (by simp [view, hand, standing, Worker.failed]) rfl, .of_free rfl⟩
      | false =>
        have none := inv.placed.failing error standing
        exact ⟨inv.fed.of_view (by simp [view, hand, standing, none, Worker.failed]) rfl, .of_free rfl⟩
    · cases moved
  | close c =>
    obtain ⟨standing, ⟨⟩⟩ := Option.ite_none_right_eq_some.1 moved
    obtain ⟨control, entries, _, closed⟩ := closePipeline_eq s false c
    rw [closed]
    exact ⟨inv.fed.rearm rfl rfl rfl counted rfl (by simp), .of_free rfl⟩
  | leave c =>
    obtain ⟨standing, ⟨⟩⟩ := Option.ite_none_right_eq_some.1 moved
    obtain ⟨control, entries, _, closed⟩ := closePipeline_eq s true c
    rw [closed]
    exact ⟨inv.fed.rearm rfl rfl rfl counted rfl (by simp), .of_free rfl⟩

/-- **Every pipeline is written gap-free from a keyframe on.** In every interleaving in which no
push overflows the queue behind an unread keyframe and no failed recording is requested again
before the worker looks, the units written since the pipeline was opened start with a keyframe
and each delta was pushed right after the unit written before it. -/
theorem written_gap_free {config : RecordingConfig} {capacity : Nat} {positive : 0 < capacity}
    {control : RecordingController} {entries : List Entry} {s : State}
    (run : Runs step Undisturbed (init config capacity positive control entries) s) :
    GapFree EncodedAccessUnit.keyframe s.written ∧ Recorded s.published s.written := by
  have inv : Inv s := run.invariant (inv_init config capacity positive control entries)
    fun _ _ _ inv guard moved => inv.step guard moved
  refine ⟨inv.fed.feed.gapFree, inv.fed.recorded.subset ?_⟩
  intro unit member
  simp [Feed.units, view, member]

/-- A new recorder with the default configuration and an empty directory. -/
abbrev fresh : State := init {} 8 (by decide) {} []

/-- One turn of the worker that pops, up to the gate. -/
def turn (event : BusEvent) : List Action := [.loop, .check, .pop, .read {}, .poll event]

/-- A turn that writes the unit it pops. -/
def record : List Action :=
  turn .none ++ [.gate 0 {}, .open { space := .ok (2 ^ 40) }, .write .accepted]

/-- A keyframe is recorded, then the pipeline's bus reports its end. -/
def failure : List Action := [.push { keyframe := true }] ++ record ++ turn .eos ++ [.fail]

/-- A failed recording that is requested again after the worker looked waits for a keyframe. -/
theorem written_gap_free_restart : ∃ s : State, s.published.length = 3 ∧
    s.written.map (·.stamp) = [2] ∧
    GapFree EncodedAccessUnit.keyframe s.written ∧ Recorded s.published s.written := by
  obtain ⟨s, run, pushed, written⟩ : ∃ s, Runs step Undisturbed fresh s ∧
      s.published.length = 3 ∧ s.written.map (·.stamp) = [2] :=
    Runs.exists_of_play (failure ++ [.close {}, .loop, .check, .setStopped {}, .idlePop, .start,
      .push {}] ++ turn .none ++ [.gate 0 {}, .push { keyframe := true }] ++ record)
      (by decide +kernel) (by decide +kernel)
  exact ⟨s, pushed, written, written_gap_free run⟩

/-- The restart that the guard excludes: `start` comes before the worker looks, and the new
pipeline begins with a delta. -/
theorem restart_after_failure : ∃ s, Runs step Free fresh s ∧
    ¬ GapFree EncodedAccessUnit.keyframe s.written :=
  Runs.exists_of_play (failure ++ [.start, .close {}, .push {}] ++ record)
    (by decide +kernel) (Meets.free _ _)

end SkaiEdge.Video.RecordingModule
