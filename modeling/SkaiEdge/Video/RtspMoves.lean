import SkaiEdge.Video.RtspSource

/-!
# What a step of the RTSP worker does

The invariants of the source look at three parts of its state: the links, what was captured and
the losses that were counted. `LinkMove`, `MediaMove` and `LossMove` are all that a step of the
worker does to each of them, and `Moved.of_work` says so once for all.
-/

namespace SkaiEdge.Video.RtspSource

open SkaiEdge.Lib SkaiEdge.Core

/-- The pipeline that the elements of a handler belong to. -/
def Callback.owner : Callback → List Nat
  | .storing _ owner _ _ | .storingEncoded _ owner _ _ | .noting _ owner _ | .declaring owner
  | .syncing owner => [owner]
  | _ => []

/-- The owners of everything that is borrowed. -/
def Links.pointers (l : Links) : List Nat :=
  l.rtspElement.toList ++ l.sink.toList ++ l.encodedSink.toList ++ l.callbacks.flatMap Callback.owner

def Attempt.pointers (a : Attempt) : List Nat := a.sink.toList ++ a.encodedSink.toList

inductive Phase where
  | shut
  | made
  | serving
  | refusing
  | draining
  | drained
  | released
  | emptied
  deriving DecidableEq, Repr

namespace Worker

/-- The owners of the worker's local copies. -/
def pointers : Worker → List Nat
  | .watching a | .polling a | .loading a | .loadingEncoded a | .units a | .frame a | .moreUnits a
  | .stats a | .checking a _ => a.pointers
  | _ => []

def phase : Worker → Phase
  | .accepting => .made
  | .starting | .watching _ | .polling _ | .loading _ | .loadingEncoded _ | .units _ | .frame _
  | .moreUnits _ | .stats _ | .checking _ _ | .stalled => .serving
  | .closing .refusing _ => .refusing
  | .closing .draining _ => .draining
  | .closing .managers _ => .drained
  | .closing .jitterbuffer _ => .released
  | .closing .clearing _ => .emptied
  | _ => .shut

end Worker

/-- What the lifetime of the links depends on. -/
structure View where
  phase : Phase
  pointers : List Nat
  links : Links

def State.view (s : State) : View := ⟨s.worker.phase, s.worker.pointers, s.links⟩

/-- All that a step of the worker does to the links. -/
inductive LinkMove : View → View → Prop where
  | stay {phase : Phase} {local' kept : List Nat} {l : Links} : kept ⊆ local' ++ l.pointers →
      LinkMove ⟨phase, local', l⟩ ⟨phase, kept, l⟩
  | forget {local' : List Nat} {l : Links} :
      LinkMove ⟨.shut, local', l⟩ ⟨.shut, [], { l with sink := none, encodedSink := none }⟩
  | failed {local' : List Nat} {l : Links} :
      LinkMove ⟨.shut, local', l⟩ ⟨.shut, [], { l with pipeline := none }⟩
  | create {local' : List Nat} {l : Links} :
      LinkMove ⟨.shut, local', l⟩
        ⟨.refusing, [], { l with pipeline := some l.created, created := l.created + 1 }⟩
  | createElement {local' : List Nat} {l : Links} :
      LinkMove ⟨.shut, local', l⟩ ⟨.made, [], { l with
        pipeline := some l.created, created := l.created + 1, rtspElement := some l.created }⟩
  | accept {local' : List Nat} {l : Links} :
      LinkMove ⟨.made, local', l⟩ ⟨.serving, [], { l with acceptingCallbacks := true }⟩
  | touchPipeline {local' kept : List Nat} {l : Links} {phase : Phase} : kept ⊆ local' →
      phase = .serving ∨ phase = .refusing →
      LinkMove ⟨.serving, local', l⟩ ⟨phase, kept, l.touchPipeline⟩
  | touch {local' : List Nat} {l : Links} {owner : Nat} : owner ∈ local' →
      LinkMove ⟨.serving, local', l⟩ ⟨.serving, local', l.touch owner⟩
  | close {phase : Phase} {local' : List Nat} {l : Links} : phase = .shut ∨ phase = .serving →
      LinkMove ⟨phase, local', l⟩ ⟨.refusing, [], l⟩
  | refuse {local' : List Nat} {l : Links} :
      LinkMove ⟨.refusing, local', l⟩ ⟨.draining, [],
        l.rtspElement.elim { l with acceptingCallbacks := false }
          { l with acceptingCallbacks := false }.touch⟩
  | drain {local' : List Nat} {l : Links} : l.callbacksInFlight = 0 →
      LinkMove ⟨.draining, local', l⟩ ⟨.drained, [], l⟩
  | managers {local' : List Nat} {l : Links} :
      LinkMove ⟨.drained, local', l⟩ ⟨.released, [], l.releaseManagers⟩
  | jitterbuffer {local' : List Nat} {l : Links} :
      LinkMove ⟨.released, local', l⟩ ⟨.emptied, [], l.releaseJitterbuffer⟩
  | clear {local' : List Nat} {l : Links} :
      LinkMove ⟨.emptied, local', l⟩ ⟨.shut, [], l.clear⟩


/-! ## The captured media -/

namespace Worker

/-- The worker has discarded the frames of the attempt before, or there was none. -/
def discardedFrames : Worker → Bool
  | .top _ | .clearing | .publishing | .opening | .announcing | .creating | .accepting | .starting
  | .closing _ (.openPipeline _) | .openFailed _ | .discardingUnits _ | .reporting _ | .failing => true
  | _ => false

def discardedUnits : Worker → Bool
  | .discardingUnits _ => false
  | worker => worker.discardedFrames

end Worker

structure MediaView where
  frames : Bool
  units : Bool
  received : UInt64
  media : Media

def State.mediaView (s : State) : MediaView :=
  ⟨s.worker.discardedFrames, s.worker.discardedUnits, s.diagnostics.framesReceived, s.media⟩

/-- All that a step of the worker does to what was captured. -/
inductive MediaMove (setup : Setup) : MediaView → MediaView → Prop where
  | keep {frames units frames' units' : Bool} {received : UInt64} {m : Media} :
      (frames' = true → frames = true) → (units' = true → units = true) →
      MediaMove setup ⟨frames, units, received, m⟩ ⟨frames', units', received, m⟩
  | openPipeline {received : UInt64} {m : Media} :
      MediaMove setup ⟨true, true, received, m⟩ ⟨true, true, received, m.openPipeline⟩
  | skipUnit {frames units : Bool} {received : UInt64} {m : Media} :
      MediaMove setup ⟨frames, units, received, m⟩ ⟨false, false, received, m.skipUnit⟩
  | publishUnit {frames units : Bool} {received : UInt64} {m : Media} (sample : EncodedSample)
      {bytes : List UInt8} : bytes ≠ [] →
      MediaMove setup ⟨frames, units, received, m⟩
        ⟨false, false, received, m.publishUnit setup.encodedAccessUnits (unitOf m sample bytes)⟩
  | publishFrame {frames units : Bool} {received : UInt64} {m : Media} (sample : RawSample) (now : Int) :
      sample.usable = true →
      MediaMove setup ⟨frames, units, received, m⟩
        ⟨false, false, received + 1,
          m.publishFrame setup.enqueueFrames (frameOf setup received m sample now)⟩
  | discardFrames {frames units : Bool} {received : UInt64} {m : Media} :
      MediaMove setup ⟨frames, units, received, m⟩
        ⟨true, false, received, { m with frames := m.frames.discardAll.1 }⟩
  | discardUnits {units : Bool} {received : UInt64} {m : Media} :
      MediaMove setup ⟨true, units, received, m⟩
        ⟨true, true, received,
          if setup.encodedAccessUnits then { m with units := m.units.discardAll.1 } else m⟩

/-! ## The losses -/

structure LossView where
  counter : MonotonicCounter
  lost : UInt64
  readings : List (List UInt64)

def State.lossView (s : State) : LossView :=
  ⟨s.pipelinePacketsLost, s.diagnostics.packetsLost, s.lossReadings⟩

inductive LossMove : LossView → LossView → Prop where
  | keep {v : LossView} : LossMove v v
  | read {v : LossView} (value : UInt64) :
      LossMove v ⟨(v.counter.observe value).2, v.lost + (v.counter.observe value).1,
        v.readings.dropLast ++ [v.readings.getLastD [] ++ [value]]⟩
  | reset {v : LossView} : LossMove v ⟨{}, v.lost, v.readings ++ [[]]⟩

/-! ## The steps -/

structure Moved (s t : State) : Prop where
  link : LinkMove s.view t.view
  media : MediaMove s.setup s.mediaView t.mediaView
  loss : LossMove s.lossView t.lossView
  setup : t.setup = s.setup

/-- What was captured and counted is as before. -/
structure Calm (s t : State) : Prop where
  setup : t.setup = s.setup
  media : t.media = s.media
  received : t.diagnostics.framesReceived = s.diagnostics.framesReceived
  frames : t.worker.discardedFrames = true → s.worker.discardedFrames = true
  units : t.worker.discardedUnits = true → s.worker.discardedUnits = true
  loss : t.lossView = s.lossView

section

variable {s t : State} {w : Worker} {answer : Answer}

theorem State.view_eq (standing : s.worker = w) : s.view = ⟨w.phase, w.pointers, s.links⟩ := by
  rw [State.view, standing]

theorem Calm.mediaMove (calm : Calm s t) : MediaMove s.setup s.mediaView t.mediaView := by
  have seen : t.mediaView = ⟨t.worker.discardedFrames, t.worker.discardedUnits,
      s.diagnostics.framesReceived, s.media⟩ := by
    simp [State.mediaView, calm.media, calm.received]
  rw [seen]
  exact .keep calm.frames calm.units

theorem Moved.of_calm (calm : Calm s t) (link : LinkMove s.view t.view) : Moved s t :=
  ⟨link, calm.mediaMove, calm.loss ▸ .keep, calm.setup⟩

theorem LinkMove.stay_of (links : t.links = s.links) (phase : t.worker.phase = s.worker.phase)
    (kept : t.worker.pointers ⊆ s.worker.pointers ++ s.links.pointers) : LinkMove s.view t.view := by
  have seen : t.view = ⟨s.worker.phase, t.worker.pointers, s.links⟩ := by
    simp [State.view, links, phase]
  rw [seen]
  exact .stay kept

theorem LinkMove.idle_of (links : t.links = s.links) (phase : t.worker.phase = s.worker.phase)
    (none : t.worker.pointers = []) : LinkMove s.view t.view :=
  .stay_of links phase (by simp [none])

theorem LinkMove.close_of {caller : Caller} (standing : s.worker.phase = .shut ∨ s.worker.phase = .serving)
    (links : t.links = s.links) (worker : t.worker = .closing .refusing caller) : LinkMove s.view t.view := by
  have seen : t.view = ⟨.refusing, [], s.links⟩ := by
    simp [State.view, worker, links, Worker.phase, Worker.pointers]
  rw [seen]
  exact .close standing

/-- The last `close_pipeline`. -/
theorem Moved.leave (standing : s.worker.phase = .shut ∨ s.worker.phase = .serving) :
    Moved s (s.close .leaving) := by
  refine .of_calm ⟨rfl, rfl, rfl, ?_, ?_, rfl⟩ (.close_of standing rfl rfl)
  all_goals simp [State.close, Worker.discardedFrames, Worker.discardedUnits]

/-- An attempt is over. -/
theorem Moved.giveUp (standing : s.worker.phase = .shut ∨ s.worker.phase = .serving) (error : String) :
    Moved s (s.close (.attempt error)) := by
  refine .of_calm ⟨rfl, rfl, rfl, ?_, ?_, rfl⟩ (.close_of standing rfl rfl)
  all_goals simp [State.close, Worker.discardedFrames, Worker.discardedUnits]

/-- The worker goes on between two attempts. -/
theorem Moved.onward (standing : s.worker = w) (discarded : w.discardedUnits = true)
    (links : t.links = s.links) (phase : t.worker.phase = w.phase) (none : t.worker.pointers = [])
    (setup : t.setup = s.setup) (media : t.media = s.media)
    (received : t.diagnostics.framesReceived = s.diagnostics.framesReceived)
    (loss : t.lossView = s.lossView) : Moved s t := by
  have both : s.worker.discardedFrames = true ∧ s.worker.discardedUnits = true := by
    rw [standing]
    revert discarded
    cases w <;> simp [Worker.discardedUnits]
  exact .of_calm ⟨setup, media, received, fun _ => both.1, fun _ => both.2, loss⟩
    (.idle_of links (by rw [phase, standing]) none)

/-- The worker between two attempts, and while it opens a pipeline. -/
theorem Moved.of_openStep (standing : s.worker = w) (moved : s.openStep w answer = some t) :
    Moved s t := by
  have fresh : w.discardedUnits = true → s.worker.discardedFrames = true ∧ s.worker.discardedUnits = true := by
    rw [standing]
    cases w <;> simp [Worker.discardedUnits]
  have calm : ∀ links worker, w.discardedUnits = true →
      Calm s { s with links := links, worker := worker } := fun links worker discarded =>
    ⟨rfl, rfl, rfl, fun _ => (fresh discarded).1, fun _ => (fresh discarded).2, rfl⟩
  unfold State.openStep at moved
  split at moved
  · split at moved
    · cases moved
      exact .leave (by simp [standing, Worker.phase])
    · split at moved
      · cases moved
        exact .onward standing rfl rfl rfl rfl rfl rfl rfl rfl
      · split at moved
        · cases moved
          exact .onward standing rfl rfl rfl rfl rfl rfl rfl rfl
        · cases moved
  · cases moved
    exact .onward standing rfl rfl rfl rfl rfl rfl rfl rfl
  · cases moved
    exact .onward standing rfl (by simp) rfl rfl rfl (by simp) (by simp) rfl
  · -- opening
    cases moved
    refine ⟨?_, ?_, .keep, rfl⟩
    · rw [State.view_eq standing]
      exact .forget
    · rw [State.mediaView, standing]
      exact .openPipeline
  · cases moved
    exact .onward standing rfl (by simp) rfl rfl (by simp) (by simp) (by simp) (by simp [State.lossView])
  · -- creating
    dsimp only at moved
    split at moved
    · cases moved
      exact .of_calm (calm _ _ rfl) (State.view_eq standing ▸ .failed)
    · cases moved
      exact .of_calm (calm _ _ rfl) (State.view_eq standing ▸ .create)
    · cases moved
      exact .of_calm (calm _ _ rfl) (State.view_eq standing ▸ .create)
    · cases moved
      exact .of_calm (calm _ _ rfl) (State.view_eq standing ▸ .createElement)
  · cases moved
    exact .of_calm (calm _ _ rfl) (State.view_eq standing ▸ .accept)
  · dsimp only at moved
    split at moved
    · cases moved
      exact .of_calm (calm _ _ rfl)
        (State.view_eq standing ▸ .touchPipeline (List.Subset.refl _) (.inl rfl))
    · cases moved
      exact .of_calm (calm _ _ rfl)
        (State.view_eq standing ▸ .touchPipeline (List.Subset.refl _) (.inr rfl))
  · split at moved
    · cases moved
      exact .onward standing rfl rfl rfl rfl rfl rfl rfl rfl
    · cases moved
      exact .leave (by simp [standing, Worker.phase])
  · cases moved

/-- What an access unit does to what was captured. -/
theorem State.captureAccessUnit_media (sample : EncodedSample) :
    (s.captureAccessUnit sample).media = s.media ∨
    (s.captureAccessUnit sample).media = s.media.skipUnit ∨
    ∃ bytes, bytes ≠ [] ∧ (s.captureAccessUnit sample).media =
      s.media.publishUnit s.setup.encodedAccessUnits (unitOf s.media sample bytes) := by
  unfold captureAccessUnit
  dsimp only
  split
  · split
    · exact .inr (.inl (by simp))
    · rename_i bytes _ _ taken
      exact .inr (.inr ⟨bytes, fun empty => taken (.inl empty), by simp⟩)
  · exact .inl (by simp)

/-- A worker in an attempt has captured something, or may have. -/
theorem Calm.of_attempt (taking : t.worker.discardedFrames = false) (setup : t.setup = s.setup)
    (media : t.media = s.media)
    (received : t.diagnostics.framesReceived = s.diagnostics.framesReceived)
    (loss : t.lossView = s.lossView) : Calm s t := by
  refine ⟨setup, media, received, by simp [taking], fun discarded => ?_, loss⟩
  cases standing : t.worker <;> simp_all [Worker.discardedUnits, Worker.discardedFrames]

theorem Worker.discarded_serving {w : Worker} (serving : w.phase = .serving) (running : w ≠ .starting) :
    w.discardedFrames = false ∧ w.discardedUnits = false := by
  cases w <;> simp_all [phase, discardedUnits, discardedFrames]
  all_goals rename_i at' _
  all_goals cases at' <;> simp_all

theorem Moved.of_pullUnits {a : Attempt} {sample : Option EncodedSample} {next : Worker}
    (serving : s.worker.phase = .serving) (running : s.worker ≠ .starting)
    (onward : next.phase = .serving) (running' : next ≠ .starting)
    (same : s.worker.pointers = a.pointers) (kept : next.pointers = a.pointers)
    (moved : s.pullUnits a sample next = some t) : Moved s t := by
  have seen : s.view = ⟨.serving, a.pointers, s.links⟩ := by simp [State.view, serving, same]
  have owns : ∀ owner, a.encodedSink = some owner → owner ∈ a.pointers := by
    intro owner holds
    simp [Attempt.pointers, holds]
  have taking := Worker.discarded_serving serving running
  have taking' := Worker.discarded_serving onward running'
  unfold State.pullUnits at moved
  split at moved
  · cases moved
    refine .of_calm (.of_attempt taking'.1 rfl rfl rfl rfl) ?_
    rw [seen]
    simp only [State.view, onward, kept]
    exact .stay (by simp)
  · cases moved
  · rename_i owner holds
    cases moved
    refine .of_calm (.of_attempt taking'.1 rfl rfl rfl rfl) ?_
    rw [seen]
    simp only [State.view, onward, kept]
    exact .touch (owns owner holds)
  · rename_i owner sample holds
    cases moved
    refine ⟨?_, ?_, ?_, by simp⟩
    · rw [seen]
      simp only [State.view, State.captureAccessUnit_keeps, serving, same]
      exact .touch (owns owner holds)
    · rcases State.captureAccessUnit_media (s := { s with links := s.links.touch owner }) sample with
        same' | lost | ⟨bytes, some', published⟩
      · exact (Calm.of_attempt (by simpa using taking.1) (by simp) same' (by simp)
          (by simp [State.lossView])).mediaMove
      · simp only [State.mediaView, State.captureAccessUnit_keeps, lost, taking]
        exact .skipUnit
      · simp only [State.mediaView, State.captureAccessUnit_keeps, published, taking]
        exact .publishUnit sample some'
    · simp only [State.lossView, State.captureAccessUnit_keeps]
      exact .keep

theorem Moved.of_pullFrame {a : Attempt} {sample : Option (Option RawSample)} {now : Int}
    (standing : s.worker = .frame a) (moved : s.pullFrame a sample now = some t) : Moved s t := by
  have owns : ∀ owner, a.sink = some owner → owner ∈ a.pointers := by
    intro owner holds
    simp [Attempt.pointers, holds]
  unfold State.pullFrame at moved
  split at moved
  · cases moved
    refine .of_calm (.of_attempt rfl rfl rfl rfl rfl) ?_
    rw [State.view_eq standing]
    exact .stay (List.subset_append_left _ _)
  · cases moved
  · rename_i owner sample holds
    dsimp only at moved
    split at moved
    · rename_i usable
      cases moved
      refine ⟨?_, ?_, ?_, by simp⟩
      · rw [State.view_eq standing]
        simp only [State.view, State.captureSample_keeps]
        exact .touch (owns owner holds)
      · simp only [State.mediaView, State.captureSample_keeps]
        exact .publishFrame sample now usable
      · simp only [State.lossView, State.captureSample_keeps]
        exact .keep
    · cases moved
      refine .of_calm (.of_attempt rfl rfl rfl rfl rfl) ?_
      rw [State.view_eq standing]
      exact .touch (owns owner holds)
  · rename_i owner holds _
    cases moved
    refine .of_calm (.of_attempt rfl rfl rfl rfl rfl) ?_
    rw [State.view_eq standing]
    exact .touch (owns owner holds)

/-- The worker in the inner loop. -/
theorem Moved.of_attemptStep (standing : s.worker = w) (moved : s.attemptStep w answer = some t) :
    Moved s t := by
  unfold State.attemptStep at moved
  split at moved
  · split at moved
    · cases moved
      exact .giveUp (by simp [standing, Worker.phase]) _
    · split at moved
      · cases moved
        exact .giveUp (by simp [standing, Worker.phase]) _
      · cases moved
        exact .of_calm (.of_attempt rfl rfl rfl rfl rfl)
          (.stay_of rfl (by simp [standing, Worker.phase]) (by simp [standing, Worker.pointers]))
  · dsimp only at moved
    split at moved
    · cases moved
      exact .of_calm (.of_attempt rfl rfl rfl rfl rfl)
        (State.view_eq standing ▸ .touchPipeline (List.nil_subset _) (.inr rfl))
    · cases moved
      exact .of_calm (.of_attempt rfl rfl rfl rfl rfl)
        (State.view_eq standing ▸ .touchPipeline (List.Subset.refl _) (.inl rfl))
  · -- the pointers that are loaded are those of the links
    cases moved
    refine .of_calm (.of_attempt rfl rfl rfl rfl rfl)
      (.stay_of rfl (by simp [standing, Worker.phase]) fun owner member => ?_)
    simp only [standing, Worker.pointers, Attempt.pointers, Links.pointers, List.mem_append] at member ⊢
    tauto
  · cases moved
    refine .of_calm (.of_attempt rfl rfl rfl rfl rfl)
      (.stay_of rfl (by simp [standing, Worker.phase]) fun owner member => ?_)
    simp only [standing, Worker.pointers, Attempt.pointers, Links.pointers, List.mem_append] at member ⊢
    tauto
  · exact .of_pullUnits (by simp [standing, Worker.phase]) (by simp [standing]) rfl (by simp)
      (by simp [standing, Worker.pointers]) rfl moved
  · exact .of_pullFrame standing moved
  · exact .of_pullUnits (by simp [standing, Worker.phase]) (by simp [standing]) rfl (by simp)
      (by simp [standing, Worker.pointers]) rfl moved
  · split at moved
    · cases moved
    · rename_i stats _
      cases moved
      refine ⟨.stay_of (by simp) (by simp [standing, Worker.phase])
        (by simp [standing, Worker.pointers]), ?_, ?_, by simp⟩
      · simp only [State.mediaView, State.readJitterStats_keeps, standing]
        exact .keep id id
      · simp only [State.lossView, State.readJitterStats_keeps]
        exact .read stats.lost
    · cases moved
      exact .of_calm (.of_attempt rfl rfl rfl rfl rfl)
        (.stay_of rfl (by simp [standing, Worker.phase]) (by simp [standing, Worker.pointers]))
  · split at moved
    · cases moved
      exact .giveUp (by simp [standing, Worker.phase]) _
    · split at moved
      · cases moved
        exact .of_calm (.of_attempt rfl (by simp) (by simp) (by simp) (by simp [State.lossView]))
          (.idle_of (by simp) (by simp [standing, Worker.phase]) rfl)
      · cases moved
        exact .of_calm (.of_attempt rfl rfl rfl rfl rfl)
          (.stay_of rfl (by simp [standing, Worker.phase]) (by simp [standing, Worker.pointers]))
  · cases moved
    exact .giveUp (by simp [standing, Worker.phase]) _
  · cases moved

theorem Moved.of_closeStep {at' : Closing} {caller : Caller} (standing : s.worker = .closing at' caller)
    (moved : s.closeStep at' caller = some t) : Moved s t := by
  have out : caller.next.phase = .shut ∧ caller.next.pointers = [] := by
    cases caller <;> exact ⟨rfl, rfl⟩
  have flags : ∀ at'', (Worker.closing at'' caller).discardedFrames = s.worker.discardedFrames ∧
      (Worker.closing at'' caller).discardedUnits = s.worker.discardedUnits := by
    rw [standing]
    cases caller <;> exact fun _ => ⟨rfl, rfl⟩
  have calm : ∀ links at'', Calm s { s with links := links, worker := .closing at'' caller } :=
    fun links at'' => ⟨rfl, rfl, rfl, by simp [flags], by simp [flags], rfl⟩
  unfold State.closeStep at moved
  split at moved
  · cases moved
    exact .of_calm (calm _ _) (State.view_eq standing ▸ .refuse)
  · split at moved
    · rename_i quiet
      cases moved
      exact .of_calm (calm s.links _) (State.view_eq standing ▸ .drain quiet)
    · cases moved
  · cases moved
    exact .of_calm (calm _ _) (State.view_eq standing ▸ .managers)
  · cases moved
    refine ⟨State.view_eq standing ▸ .jitterbuffer, (calm s.links .clearing).mediaMove, .reset, rfl⟩
  · cases moved
    refine .of_calm ⟨rfl, rfl, rfl, ?_, ?_, rfl⟩ ?_
    · rw [standing]
      cases caller <;> simp [Caller.next, Worker.discardedFrames]
    · rw [standing]
      cases caller <;> simp [Caller.next, Worker.discardedFrames, Worker.discardedUnits]
    · rw [State.view_eq standing]
      simp only [State.view, out]
      exact .clear

theorem Moved.of_endStep (standing : s.worker = w) (moved : s.endStep w answer = some t) :
    Moved s t := by
  unfold State.endStep at moved
  split at moved
  · split at moved
    · cases moved
      exact .of_calm (.of_attempt rfl rfl rfl rfl rfl)
        (.idle_of rfl (by simp [standing, Worker.phase]) rfl)
    · cases moved
      exact .leave (by simp [standing, Worker.phase])
  · cases moved
    exact ⟨.idle_of rfl (by simp [standing, Worker.phase]) rfl, .discardFrames, .keep, rfl⟩
  · cases moved
    refine ⟨.idle_of rfl (by simp [standing, Worker.phase]) rfl, ?_, .keep, rfl⟩
    rw [State.mediaView, standing]
    exact .discardUnits
  · cases moved
    exact .onward standing rfl (by simp) rfl rfl (by simp) (by simp) (by simp) (by simp [State.lossView])
  · cases moved
    exact .onward standing rfl (by simp) rfl rfl (by simp) (by simp) (by simp) (by simp [State.lossView])
  · cases moved
    exact .of_calm (.of_attempt rfl (by simp) (by simp) (by simp) (by simp [State.lossView]))
      (.idle_of (by simp) (by simp [standing, Worker.phase]) rfl)
  · cases moved
    exact .of_calm (.of_attempt rfl rfl rfl rfl rfl) (.idle_of rfl (by simp [standing, Worker.phase]) rfl)
  · cases moved

/-- **What a step of the worker can do.** -/
theorem Moved.of_work (moved : s.work answer = some t) : Moved s t := by
  unfold State.work at moved
  split at moved
  · rename_i standing
    split at moved
    · exact .of_closeStep standing moved
    · cases moved
  all_goals first
    | exact .of_openStep rfl moved
    | exact .of_endStep rfl moved
    | exact .of_attemptStep rfl moved

end

end SkaiEdge.Video.RtspSource
