import SkaiEdge.Video.RtspLifetime

/-!
# `stop` of the RTSP source returns

Once `running_` is false the worker has only so many moves left, and so has each handler that is
inside: `State.rest` counts them. What can put the end off is a sample that is still waiting in the
appsink or a handler that enters before the pipeline refuses them, each by a bounded amount.
-/

namespace SkaiEdge.Video.RtspSource

open SkaiEdge.Lib SkaiEdge.Core

/-- The moves a worker has left that was told to stop. -/
def Worker.rank : Worker → Nat
  | .absent | .finished => 0
  | .exiting => 1
  | .stopping => 2
  | .closing .clearing .leaving => 3
  | .closing .jitterbuffer .leaving => 4
  | .closing .managers .leaving => 5
  | .closing .draining .leaving => 6
  | .closing .refusing .leaving => 7
  | .top _ | .openFailed _ | .ended _ => 8
  | .failing => 9
  | .reporting _ => 10
  | .discardingUnits _ => 11
  | .discarding _ => 12
  | .closing .clearing _ => 9
  | .closing .jitterbuffer _ => 10
  | .closing .managers _ => 11
  | .closing .draining _ => 12
  | .closing .refusing _ => 13
  | .stalled | .watching _ => 14
  | .checking _ _ => 15
  | .stats _ => 16
  | .moreUnits _ => 17
  | .frame _ => 18
  | .units _ => 19
  | .loadingEncoded _ => 20
  | .loading _ => 21
  | .polling _ => 22
  | .starting => 23
  | .accepting => 24
  | .creating => 25
  | .announcing => 26
  | .opening => 27
  | .publishing => 28
  | .clearing => 29

def Callback.rank : Callback → Nat
  | .leaving => 1
  | .syncing _ | .newManager _ | .newJitterbuffer _ | .failing _ => 2
  | .declaring _ => 3
  | .noting _ _ _ => 4
  | .storingEncoded _ _ _ _ => 5
  | .storing _ _ _ _ => 6
  | .connecting _ => 7
  | .padAdded _ => 8

def State.rest (s : State) : Nat := s.worker.rank + (s.links.callbacks.map Callback.rank).sum

namespace Action

/-- The moves of the worker and of the handlers. -/
def turns : Action → Nat
  | .work _ | .handle _ _ => 1
  | _ => 0

/-- By how much an action puts the end off. -/
def brings : Action → Nat
  | .signal _ => 8
  | .work (.unit (some _)) => 1
  | _ => 0

def starts : Action → Bool
  | .start _ _ _ => true
  | _ => false

end Action

section

variable {s t : State} {w : Worker} {answer : Answer}

theorem State.openStep_rank (stopped : s.running = false) (moved : s.openStep w answer = some t) :
    t.running = false ∧ t.worker.rank + 1 ≤ w.rank := by
  unfold openStep at moved
  split at moved
  · rw [if_pos stopped] at moved
    cases moved
    exact ⟨stopped, by simp [close, Worker.rank]⟩
  · cases moved
    exact ⟨stopped, by simp [Worker.rank]⟩
  · cases moved
    exact ⟨by simpa using stopped, by simp [Worker.rank]⟩
  · cases moved
    exact ⟨stopped, by simp [Worker.rank]⟩
  · cases moved
    exact ⟨by simpa using stopped, by simp [Worker.rank]⟩
  · dsimp only at moved
    split at moved
    all_goals
      cases moved
      exact ⟨stopped, by simp [close, Worker.rank]⟩
  · cases moved
    exact ⟨stopped, by simp [Worker.rank]⟩
  · dsimp only at moved
    split at moved
    all_goals
      cases moved
      exact ⟨stopped, by simp [close, Worker.rank]⟩
  · rw [if_neg (by simp [stopped])] at moved
    cases moved
    exact ⟨stopped, by simp [close, Worker.rank]⟩
  · cases moved

theorem State.pullUnits_rank {a : Attempt} {sample : Option EncodedSample} {next : Worker}
    (stopped : s.running = false) (less : next.rank + 1 ≤ s.worker.rank)
    (moved : s.pullUnits a sample next = some t) :
    t.running = false ∧ t.worker.rank + 1 ≤ s.worker.rank + (Action.work (.unit sample)).brings := by
  unfold pullUnits at moved
  split at moved
  · cases moved
    exact ⟨stopped, less⟩
  · cases moved
  · cases moved
    exact ⟨stopped, less⟩
  · cases moved
    exact ⟨by simpa using stopped, by simp [Action.brings]⟩

theorem State.pullFrame_rank {a : Attempt} {sample : Option (Option RawSample)} {now : Int}
    (stopped : s.running = false) (moved : s.pullFrame a sample now = some t) :
    t.running = false ∧ t.worker.rank = 17 := by
  unfold pullFrame at moved
  split at moved
  · cases moved
    exact ⟨stopped, rfl⟩
  · cases moved
  · dsimp only at moved
    split at moved
    · cases moved
      exact ⟨by simpa using stopped, rfl⟩
    · cases moved
      exact ⟨stopped, rfl⟩
  · cases moved
    exact ⟨stopped, rfl⟩

theorem State.attemptStep_rank (stopped : s.running = false) (standing : s.worker = w)
    (moved : s.attemptStep w answer = some t) :
    t.running = false ∧ t.worker.rank + 1 ≤ w.rank + (Action.work answer).brings := by
  unfold attemptStep at moved
  split at moved
  · rw [if_pos stopped] at moved
    cases moved
    exact ⟨stopped, by simp [close, Worker.rank, Action.brings]⟩
  · dsimp only at moved
    split at moved
    all_goals
      cases moved
      exact ⟨stopped, by simp [close, Worker.rank, Action.brings]⟩
  · cases moved
    exact ⟨stopped, by simp [Worker.rank]⟩
  · cases moved
    exact ⟨stopped, by simp [Worker.rank]⟩
  · exact standing ▸ pullUnits_rank stopped (by simp [standing, Worker.rank]) moved
  · obtain ⟨still, rank⟩ := pullFrame_rank stopped moved
    exact ⟨still, by rw [rank]; simp [Worker.rank]⟩
  · exact standing ▸ pullUnits_rank stopped (by simp [standing, Worker.rank]) moved
  · split at moved
    · cases moved
    · cases moved
      exact ⟨by simpa using stopped, by simp [Worker.rank]⟩
    · cases moved
      exact ⟨stopped, by simp [Worker.rank]⟩
  · split at moved
    · cases moved
      exact ⟨stopped, by simp [close, Worker.rank, Action.brings]⟩
    · split at moved
      · cases moved
        exact ⟨by simpa using stopped, by simp [Worker.rank]⟩
      · cases moved
        exact ⟨stopped, by simp [Worker.rank]⟩
  · cases moved
    exact ⟨stopped, by simp [close, Worker.rank, Action.brings]⟩
  · cases moved

theorem State.closeStep_rank {at' : Closing} {caller : Caller} (stopped : s.running = false)
    (moved : s.closeStep at' caller = some t) :
    t.running = false ∧ t.worker.rank + 1 ≤ (Worker.closing at' caller).rank := by
  unfold closeStep at moved
  split at moved
  · cases moved
    exact ⟨stopped, by cases caller <;> simp [Worker.rank]⟩
  · split at moved
    · cases moved
      exact ⟨stopped, by cases caller <;> simp [Worker.rank]⟩
    · cases moved
  · cases moved
    exact ⟨stopped, by cases caller <;> simp [Worker.rank]⟩
  · cases moved
    exact ⟨stopped, by cases caller <;> simp [Worker.rank]⟩
  · cases moved
    exact ⟨stopped, by cases caller <;> simp [Caller.next, Worker.rank]⟩

theorem State.endStep_rank (stopped : s.running = false) (moved : s.endStep w answer = some t) :
    t.running = false ∧ t.worker.rank + 1 ≤ w.rank := by
  unfold endStep at moved
  split at moved
  · rw [if_neg (by simp [stopped])] at moved
    cases moved
    exact ⟨stopped, by simp [close, Worker.rank]⟩
  all_goals cases moved
  all_goals exact ⟨by first | rfl | simpa using stopped, by simp [Worker.rank]⟩

/-- **Every move of a worker that was told to stop** takes it closer to its end. -/
theorem State.work_rank (stopped : s.running = false) (moved : s.work answer = some t) :
    t.running = false ∧ t.worker.rank + 1 ≤ s.worker.rank + (Action.work answer).brings := by
  unfold work at moved
  split at moved
  · rename_i standing
    split at moved
    · rw [standing]
      exact (closeStep_rank stopped moved).imp_right Nat.le_add_right_of_le
    · cases moved
  all_goals first
    | exact (openStep_rank stopped moved).imp_right Nat.le_add_right_of_le
    | exact (endStep_rank stopped moved).imp_right Nat.le_add_right_of_le
    | exact attemptStep_rank stopped rfl moved

/-- The handlers are not for the worker to move. -/
theorem LinkMove.callbacks {v w : View} (move : LinkMove v w) (owned : Owned v.links) :
    w.links.callbacks = v.links.callbacks := by
  cases move with
  | refuse =>
    rw [owned.disconnect]
  | managers =>
    obtain ⟨-, references, shape⟩ := owned.releaseManagers
    rw [shape]
  | jitterbuffer =>
    obtain ⟨-, references, shape⟩ := owned.releaseJitterbuffer
    rw [shape]
  | _ => rfl

theorem State.handle_rank {i : Nat} {callback : Callback} (chain : Chain)
    (at' : s.links.callbacks[i]? = some callback) :
    ((s.handle i chain callback).links.callbacks.map Callback.rank).sum + 1 ≤
      (s.links.callbacks.map Callback.rank).sum := by
  obtain ⟨before, after, cut, size⟩ : ∃ before after, s.links.callbacks = before ++ callback :: after ∧
      before.length = i := by
    obtain ⟨inside, found⟩ := List.getElem?_eq_some_iff.1 at'
    refine ⟨s.links.callbacks.take i, s.links.callbacks.drop (i + 1), ?_, by simp; omega⟩
    rw [← found, List.getElem_cons_drop, List.take_append_drop]
  have total : (s.links.callbacks.map Callback.rank).sum =
      (before.map Callback.rank).sum + (callback.rank + (after.map Callback.rank).sum) := by simp [cut]
  have moves : ∀ next : Callback, next.rank + 1 ≤ callback.rank →
      ((s.links.callbacks.set i next).map Callback.rank).sum + 1 ≤ (s.links.callbacks.map Callback.rank).sum := by
    intro next less
    rw [total, cut, ← size, List.set_append_right _ _ (Nat.le_refl _), Nat.sub_self, List.set_cons_zero]
    simp only [List.map_append, List.map_cons, List.sum_append, List.sum_cons]
    omega
  cases callback with
  | padAdded codec =>
    simp only [handle]
    split
    · exact moves _ (by simp [Callback.rank])
    · exact moves _ (by simp [Callback.rank])
  | connecting codec =>
    simp only [handle, connect]
    split
    · exact moves _ (by simp [Callback.rank])
    · split
      · exact moves _ (by simp [Callback.rank])
      · split
        · exact moves _ (by simp [Callback.rank])
        · exact moves _ (by simp [Callback.rank])
  | storing codec owner encoded decoder => exact moves _ (by simp [Callback.rank])
  | storingEncoded codec owner encoded decoder => exact moves _ (by simp [Callback.rank])
  | noting codec owner decoder => exact moves _ (by cases codec <;> simp [Callback.rank])
  | declaring owner =>
    simp only [handle, publishMediaStatus_keeps]
    exact moves _ (by simp [Callback.rank])
  | syncing owner => exact moves _ (by simp [Callback.rank])
  | newManager manager => exact moves _ (by simp [Callback.rank])
  | newJitterbuffer jitterbuffer =>
    have same : (s.links.replaceJitterbuffer jitterbuffer).callbacks = s.links.callbacks := by
      unfold Links.replaceJitterbuffer
      cases s.links.jitterbuffer <;> rfl
    show ((List.set (s.links.replaceJitterbuffer jitterbuffer).callbacks i .leaving).map Callback.rank).sum + 1 ≤ _
    rw [same]
    exact moves _ (by simp [Callback.rank])
  | failing error => exact moves _ (by simp [Callback.rank])
  | leaving =>
    show ((s.links.callbacks.eraseIdx i).map Callback.rank).sum + 1 ≤ _
    rw [total, cut, ← size, List.eraseIdx_append_of_length_le (Nat.le_refl _), Nat.sub_self,
      List.eraseIdx_cons_zero]
    simp only [List.map_append, List.sum_append, Callback.rank]
    omega

variable {setup : Setup} {frames units : Nat} {some' : 0 < frames} {more : 0 < units}
  {ipv4 ipv6 : List Char → Bool} {action : Action}

/-- **One action of a source that was told to stop.** -/
theorem State.step_rest (stopped : s.running = false) (lifetime : Lifetime s.view)
    (moved : s.step ipv4 ipv6 action = some t) (starts : action.starts = false) :
    t.running = false ∧ t.rest + action.turns ≤ s.rest + action.brings := by
  cases action with
  | start config initialized spawned => cases starts
  | requestStop => cases moved; exact ⟨rfl, Nat.le_refl _⟩
  | join =>
    simp only [step] at moved
    split at moved
    · cases moved
      refine ⟨rfl, ?_⟩
      simp [rest, join, Worker.rank, Action.turns, Action.brings]
    · cases moved
  | work answer =>
    obtain ⟨still, rank⟩ := work_rank stopped moved
    have same : t.links.callbacks = s.links.callbacks :=
      (Moved.of_work moved).link.callbacks lifetime.owned
    refine ⟨still, ?_⟩
    simp only [rest, same, Action.turns]
    omega
  | signal signal =>
    cases moved
    refine ⟨stopped, ?_⟩
    simp only [rest, Links.beginCallback, Action.turns, Action.brings]
    split
    · have most : signal.callback.rank ≤ 8 := by cases signal <;> simp [Signal.callback, Callback.rank]
      simp only [List.map_append, List.map_cons, List.map_nil, List.sum_append, List.sum_cons, List.sum_nil]
      omega
    · omega
  | handle i chain =>
    obtain ⟨callback, at', rfl⟩ := Option.map_eq_some_iff.1 moved
    refine ⟨by simpa using stopped, ?_⟩
    have less := handle_rank chain at'
    have worker : (s.handle i chain callback).worker = s.worker := by simp
    simp only [rest, worker, Action.turns]
    omega
  | popFrame => cases moved; exact ⟨stopped, Nat.le_refl _⟩
  | popUnit => cases moved; exact ⟨stopped, Nat.le_refl _⟩
  | shutdownFrames => cases moved; exact ⟨stopped, Nat.le_refl _⟩
  | shutdownUnits => cases moved; exact ⟨stopped, Nat.le_refl _⟩

/-- The moves of a whole schedule. -/
theorem State.play_rest {actions : List Action} (stopped : s.running = false) (lifetime : Lifetime s.view)
    (played : play (State.step ipv4 ipv6) s actions = some t)
    (starts : ∀ action ∈ actions, action.starts = false) :
    t.running = false ∧
      t.rest + (actions.map Action.turns).sum ≤ s.rest + (actions.map Action.brings).sum := by
  induction actions generalizing s with
  | nil => cases played; exact ⟨stopped, Nat.le_refl _⟩
  | cons action actions ih =>
    obtain ⟨u, moved, played⟩ := Option.bind_eq_some_iff.1
      (show (s.step ipv4 ipv6 action).bind _ = some t from played)
    obtain ⟨still, first⟩ := step_rest stopped lifetime moved (starts action (by simp))
    obtain ⟨ends, rest⟩ := ih still (lifetime.step moved) played
      fun other member => starts other (List.mem_cons_of_mem _ member)
    refine ⟨ends, ?_⟩
    simp only [List.map_cons, List.sum_cons]
    omega

/-- The answer of GStreamer that ends a wait of the worker. -/
def Worker.awaited : Worker → Answer
  | .top _ | .failing => .time 0
  | .creating => .created none
  | .starting => .started 0 none
  | .polling _ => .event none
  | .units _ | .moreUnits _ => .unit none
  | .frame _ => .frame none 0
  | .stats _ => .stats 0 0 none
  | _ => .go

theorem Worker.awaited_brings (w : Worker) : (Action.work w.awaited).brings = 0 := by
  cases w <;> rfl

/-- Only `close_pipeline` waits for somebody else: for the handlers that are inside. -/
theorem State.work_awaited (stopped : s.running = false)
    (standing : s.worker ≠ .absent ∧ s.worker ≠ .finished)
    (drained : ∀ caller, s.worker = .closing .draining caller → s.links.callbacksInFlight = 0) :
    (s.work s.worker.awaited).isSome = true := by
  unfold work
  cases worker : s.worker with
  | absent => exact absurd worker standing.1
  | finished => exact absurd worker standing.2
  | closing at' caller =>
    cases at' with
    | draining => simp [Worker.awaited, closeStep, drained caller worker]
    | _ => simp [Worker.awaited, closeStep]
  | top initialAttempt => simp [Worker.awaited, openStep, stopped]
  | openFailed error => simp [Worker.awaited, openStep, stopped]
  | watching a => simp [Worker.awaited, attemptStep, stopped]
  | units a | moreUnits a =>
    simp only [Worker.awaited, attemptStep, pullUnits]
    cases a.encodedSink <;> rfl
  | frame a =>
    simp only [Worker.awaited, attemptStep, pullFrame]
    cases a.sink <;> rfl
  | stats a =>
    simp only [Worker.awaited, attemptStep]
    cases s.links.jitterbuffer <;> rfl
  | checking a now =>
    simp only [Worker.awaited, attemptStep]
    split
    · rfl
    · split <;> rfl
  | ended error => simp [Worker.awaited, endStep, stopped]
  | clearing | publishing | opening | announcing | creating | accepting | starting =>
    simp [Worker.awaited, openStep]
  | polling a | loading a | loadingEncoded a => simp [Worker.awaited, attemptStep]
  | stalled => simp [Worker.awaited, attemptStep]
  | discarding error | discardingUnits error | reporting error => simp [Worker.awaited, endStep]
  | failing | stopping | exiting => simp [Worker.awaited, endStep]

/-- Some move is possible until the worker has finished. -/
theorem State.progress (stopped : s.running = false) (lifetime : Lifetime s.view)
    (standing : s.worker ≠ .absent ∧ s.worker ≠ .finished) :
    ∃ action, action.turns = 1 ∧ action.brings = 0 ∧ (s.step ipv4 ipv6 action).isSome = true := by
  by_cases busy : s.links.callbacks = []
  · have none : s.links.callbacksInFlight = 0 := by
      have counted := lifetime.owned.counted
      simpa [view, busy] using counted
    exact ⟨.work s.worker.awaited, rfl, s.worker.awaited_brings,
      work_awaited stopped standing fun _ _ => none⟩
  · obtain ⟨callback, others, inside⟩ := List.exists_cons_of_ne_nil busy
    exact ⟨.handle 0 {}, rfl, rfl, by simp [step, inside]⟩

/-- **`stop` returns**: after `request_stop` the worker and the handlers have at most
`29 + 8 * callbacks_in_flight_` moves left in every schedule, but for eight with each handler that
still enters and one with each sample that is still pulled; and until the worker has finished, one of these
moves is possible. -/
theorem stop_returns (run : Runs (State.step ipv4 ipv6) Free (init setup frames units some' more) s)
    (stopped : s.running = false) (actions : List Action)
    (starts : ∀ action ∈ actions, action.starts = false)
    (played : play (State.step ipv4 ipv6) s actions = some t) :
    (actions.map Action.turns).sum ≤
        29 + 8 * s.links.callbacksInFlight + (actions.map Action.brings).sum ∧
      (t.worker ≠ .absent ∧ t.worker ≠ .finished →
        ∃ action, action.turns = 1 ∧ action.brings = 0 ∧ (t.step ipv4 ipv6 action).isSome = true) := by
  have lifetime := lifetime_of_run run
  have after : Runs (State.step ipv4 ipv6) Free s t := .of_play played (.free s actions)
  obtain ⟨still, rest⟩ := State.play_rest stopped lifetime played starts
  refine ⟨?_, State.progress still (lifetime_of_run (run.trans after))⟩
  have worker : s.worker.rank ≤ 29 := by
    cases s.worker with
    | closing at' caller => cases at' <;> cases caller <;> simp [Worker.rank]
    | _ => simp [Worker.rank]
  have handlers : (s.links.callbacks.map Callback.rank).sum ≤ 8 * s.links.callbacks.length := by
    have each : ∀ rank ∈ s.links.callbacks.map Callback.rank, rank ≤ 8 := by
      intro rank member
      obtain ⟨callback, -, rfl⟩ := List.mem_map.1 member
      cases callback <;> simp [Callback.rank]
    have most := List.sum_le_card_nsmul _ 8 each
    simpa [Nat.mul_comm] using most
  have counted : s.links.callbacksInFlight = s.links.callbacks.length := lifetime.owned.counted
  have whole : s.rest = s.worker.rank + (s.links.callbacks.map Callback.rank).sum := rfl
  omega

end

/-- A handler that is inside when the source is told to stop, and the worker to its end. -/
def stopping : List Action :=
  [.handle 0 {}, .handle 0 {}, .work (.started 0 (some "pipeline startup cancelled"))] ++
    List.replicate 13 (.work .go)

theorem stop_returns_inside : ∃ s t : State, s.links.callbacksInFlight = 1 ∧ t.worker = .finished ∧
    (stopping.map Action.turns).sum ≤ 29 + 8 * s.links.callbacksInFlight + (stopping.map Action.brings).sum := by
  have reached : ∃ s : State, Runs (State.step (fun _ => true) fun _ => true) Free
      (init {} 2 8 (by decide) (by decide)) s ∧ (s.running = false ∧ s.links.callbacksInFlight = 1 ∧
        (play (State.step (fun _ => true) fun _ => true) s stopping).any
          (fun t => decide (t.worker = .finished)) = true) := by
    apply Runs.exists_of_play (connecting.take 9 ++ [.requestStop])
    · decide +kernel
    · exact Meets.free _ _
  obtain ⟨s, run, stopped, inside, ends⟩ := reached
  obtain ⟨t, played, finished⟩ := (Option.any_eq_true _ _).1 ends
  exact ⟨s, t, inside, of_decide_eq_true finished,
    (stop_returns run stopped stopping (by decide) played).1⟩

end SkaiEdge.Video.RtspSource
