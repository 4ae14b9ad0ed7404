import SkaiEdge.Video.RtspMoves

/-!
# What the RTSP source hands over

A `Lane` is one of the two ways out of the source, the frames or the access units: what was
captured for it, what is buffered and what was read. `Lane.Kept` says that a reader gets the captured
values in order and nothing of a pipeline that was given up in the same session.
-/

namespace SkaiEdge.Video.RtspSource

open SkaiEdge.Lib SkaiEdge.Core

variable {α : Type}

def Captured.Before (c d : Captured α) : Prop :=
  c.session ≤ d.session ∧ c.opened ≤ d.opened ∧ (c.session = d.session → c.number < d.number)

structure Lane (α : Type) where
  session : Nat
  opened : Nat
  count : Nat
  queue : BoundedQueue (Captured α)
  captured : List (Captured α)
  read : List (Captured α)

namespace Lane

def next (l : Lane α) (value : α) : Captured α := ⟨l.session, l.opened, l.count + 1, value⟩

def capture (l : Lane α) (queued : Bool) (value : α) : Lane α :=
  { l with
    count := l.count + 1
    queue := if queued then (l.queue.push (l.next value)).1 else l.queue
    captured := l.captured ++ [l.next value] }

def skip (l : Lane α) : Lane α := { l with count := l.count + 1 }

def openPipeline (l : Lane α) : Lane α := { l with opened := l.opened + 1 }

def restart (l : Lane α) : Lane α := { l with session := l.session + 1, count := 0 }

def discard (l : Lane α) : Lane α := { l with queue := l.queue.discardAll.1 }

def pop (l : Lane α) : Lane α :=
  { l with queue := l.queue.takeFront.2, read := l.read ++ l.queue.takeFront.1.toList }

structure Kept (l : Lane α) (fresh : Bool) : Prop where
  ordered : l.captured.Pairwise Captured.Before
  bounded : ∀ c ∈ l.captured, c.session ≤ l.session ∧ c.opened ≤ l.opened ∧
    (c.session = l.session → c.number ≤ l.count)
  buffered : (l.read ++ l.queue.items).Sublist l.captured
  current : ∀ c ∈ l.queue.items, c.opened = l.opened ∨ c.session < l.session
  fresh : fresh = true → ∀ c ∈ l.queue.items, c.session < l.session

namespace Kept

variable {l : Lane α} {fresh : Bool}

theorem stale (kept : l.Kept fresh) : l.Kept false :=
  ⟨kept.ordered, kept.bounded, kept.buffered, kept.current, by simp⟩

theorem weaken (kept : l.Kept fresh) {fresh' : Bool} (less : fresh' = true → fresh = true) : l.Kept fresh' :=
  ⟨kept.ordered, kept.bounded, kept.buffered, kept.current, fun is => kept.fresh (less is)⟩

/-- What a push leaves in the buffer is the end of what was there and the value. -/
theorem push_suffix (q : BoundedQueue (Captured α)) (value : Captured α) :
    (q.push value).1.items.Sublist (q.items ++ [value]) := by
  rcases q.push_cases value with
    ⟨_, rejected⟩ | ⟨_, _, _, items, _⟩ | ⟨_, _, _, ⟨oldest, items⟩, _⟩
  · rw [rejected]
    exact List.sublist_append_left ..
  · rw [items]
  · rw [items]
    exact List.sublist_cons_self ..

theorem capture (kept : l.Kept fresh) (queued : Bool) (value : α) : (l.capture queued value).Kept false := by
  have own : ∀ c ∈ (l.capture queued value).queue.items, c ∈ l.queue.items ∨ c = l.next value := by
    intro c member
    unfold Lane.capture at member
    cases queued with
    | false => exact .inl member
    | true => exact BoundedQueue.mem_push member
  refine ⟨?_, fun c member => ?_, ?_, fun c member => ?_, by simp⟩
  · refine List.pairwise_append.2 ⟨kept.ordered, List.pairwise_singleton .., fun c member d single => ?_⟩
    obtain ⟨session, opened, number⟩ := kept.bounded c member
    rw [List.mem_singleton.1 single]
    exact ⟨session, opened, fun same => Nat.lt_succ_of_le (number same)⟩
  · rcases List.mem_append.1 member with old | new
    · obtain ⟨session, opened, number⟩ := kept.bounded c old
      exact ⟨session, opened, fun same => Nat.le_succ_of_le (number same)⟩
    · rw [List.mem_singleton.1 new]
      exact ⟨Nat.le_refl _, Nat.le_refl _, fun _ => Nat.le_refl _⟩
  · have grown := kept.buffered.append (List.Sublist.refl [l.next value])
    rw [List.append_assoc] at grown
    refine List.Sublist.trans (List.Sublist.append_left ?_ l.read) grown
    unfold Lane.capture
    cases queued with
    | false => exact List.sublist_append_left ..
    | true => exact push_suffix l.queue (l.next value)
  · rcases own c member with old | rfl
    · exact kept.current c old
    · exact .inl rfl

theorem skip (kept : l.Kept fresh) : l.skip.Kept fresh := by
  refine ⟨kept.ordered, fun c member => ?_, kept.buffered, kept.current, kept.fresh⟩
  obtain ⟨session, opened, number⟩ := kept.bounded c member
  exact ⟨session, opened, fun same => Nat.le_succ_of_le (number same)⟩

theorem openPipeline (kept : l.Kept true) : l.openPipeline.Kept true := by
  refine ⟨kept.ordered, fun c member => ?_, kept.buffered, fun c member => ?_, kept.fresh⟩
  · obtain ⟨session, opened, number⟩ := kept.bounded c member
    exact ⟨session, Nat.le_succ_of_le opened, number⟩
  · exact .inr (kept.fresh rfl c member)

theorem restart (kept : l.Kept fresh) : l.restart.Kept true := by
  have before : ∀ c ∈ l.captured, c.session < l.session + 1 := fun c member =>
    Nat.lt_succ_of_le (kept.bounded c member).1
  have queued : ∀ c ∈ l.queue.items, c.session < l.session + 1 := fun c member =>
    before c (kept.buffered.subset (List.mem_append_right _ member))
  refine ⟨kept.ordered, fun c member => ?_, kept.buffered, fun c member => .inr (queued c member),
    fun _ => queued⟩
  have bounds := kept.bounded c member
  have earlier := before c member
  refine ⟨Nat.le_of_lt earlier, bounds.2.1, fun same => ?_⟩
  have same : c.session = l.session + 1 := same
  omega

theorem discard (kept : l.Kept fresh) (fresh' : Bool) : l.discard.Kept fresh' := by
  refine ⟨kept.ordered, kept.bounded, ?_, by simp [Lane.discard], by simp [Lane.discard]⟩
  refine List.Sublist.trans ?_ kept.buffered
  exact List.Sublist.append_left (List.nil_sublist _) l.read

theorem pop (kept : l.Kept fresh) : l.pop.Kept fresh := by
  cases items : l.queue.items with
  | nil =>
    have same : l.pop = l := by
      unfold Lane.pop
      rw [BoundedQueue.takeFront_nil items]
      simp
    rwa [same]
  | cons front rest =>
    obtain ⟨taken, left, -⟩ := BoundedQueue.takeFront_cons items
    have sub : ∀ c ∈ l.pop.queue.items, c ∈ l.queue.items := by
      intro c member
      have member : c ∈ rest := left ▸ member
      rw [items]
      exact List.mem_cons_of_mem _ member
    refine ⟨kept.ordered, kept.bounded, ?_, fun c member => kept.current c (sub c member),
      fun is c member => kept.fresh is c (sub c member)⟩
    have before := kept.buffered
    rw [items] at before
    simpa [Lane.pop, taken, left] using before

theorem shutdown (kept : l.Kept fresh) : Kept { l with queue := l.queue.shutdown } fresh :=
  ⟨kept.ordered, kept.bounded, kept.buffered, kept.current, kept.fresh⟩

end Kept

end Lane

namespace Media

def frameLane (m : Media) : Lane Frame :=
  ⟨m.session, m.opened, m.frameCount, m.frames, m.capturedFrames, m.readFrames⟩

def unitLane (m : Media) : Lane EncodedAccessUnit :=
  ⟨m.session, m.opened, m.unitCount, m.units, m.capturedUnits, m.readUnits⟩

/-- The number and the generation that a frame carries are those of its capture. -/
structure FrameTold (c : Captured Frame) : Prop where
  sequence : c.value.sequence = UInt64.ofNat c.number
  generation : c.value.sourceGeneration = UInt64.ofNat c.opened
  shape : 0 < c.value.width ∧ 0 < c.value.height ∧ c.value.stride = c.value.width * 3

structure UnitTold (c : Captured EncodedAccessUnit) : Prop where
  sequence : c.value.sequence = UInt64.ofNat c.number
  generation : c.value.sourceGeneration = UInt64.ofNat c.opened
  some : c.value.bytes ≠ []

/-- The first unit of each pipeline is marked. -/
def Marked (captured : List (Captured EncodedAccessUnit)) : Prop :=
  ∀ before c after, captured = before ++ c :: after → (∀ d ∈ before.getLast?, d.opened ≠ c.opened) →
    c.value.discontinuity = true

theorem Marked.snoc {captured : List (Captured EncodedAccessUnit)} (marked : Marked captured)
    (unit : Captured EncodedAccessUnit)
    (first : (∀ d ∈ captured.getLast?, d.opened ≠ unit.opened) → unit.value.discontinuity = true) :
    Marked (captured ++ [unit]) := by
  intro before c after cut differs
  rcases List.eq_nil_or_concat' after with rfl | ⟨rest, last, rfl⟩
  · obtain ⟨rfl, same⟩ := List.append_inj' cut rfl
    cases same
    exact first differs
  · have cut : captured ++ [unit] = (before ++ c :: rest) ++ [last] := by simpa using cut
    obtain ⟨rfl, -⟩ := List.append_inj' cut rfl
    exact marked before c rest rfl differs

end Media

/-- What was captured is numbered, marked and buffered as it should be. -/
structure Streams (setup : Setup) (v : MediaView) : Prop where
  frames : v.media.frameLane.Kept v.frames
  units : v.media.unitLane.Kept v.units
  received : v.received = UInt64.ofNat v.media.frameCount
  numbered : v.media.accessUnitSequence = UInt64.ofNat v.media.unitCount
  generation : v.media.pipelineGeneration = UInt64.ofNat v.media.opened
  framesTold : ∀ c ∈ v.media.capturedFrames, Media.FrameTold c
  unitsTold : ∀ c ∈ v.media.capturedUnits, Media.UnitTold c
  marked : Media.Marked v.media.capturedUnits
  first : v.media.firstAccessUnit = false → ∃ d ∈ v.media.capturedUnits.getLast?, d.opened = v.media.opened
  unqueued : setup.encodedAccessUnits = false → v.media.units.items = []

namespace Streams

variable {setup : Setup} {v w : MediaView}

theorem move (streams : Streams setup v) (move : MediaMove setup v w) : Streams setup w := by
  have count : ∀ n : Nat, UInt64.ofNat n + 1 = UInt64.ofNat (n + 1) := fun n => by
    rw [UInt64.ofNat_add]
    rfl
  cases move with
  | keep frames units =>
    exact { streams with
      frames := streams.frames.weaken frames
      units := streams.units.weaken units }
  | openPipeline =>
    exact { streams with
      frames := streams.frames.openPipeline
      units := streams.units.openPipeline
      generation := by
        have := streams.generation
        simp only [Media.openPipeline] at this ⊢
        rw [this, count]
      first := by simp [Media.openPipeline] }
  | skipUnit =>
    exact { streams with
      frames := streams.frames.stale
      units := streams.units.skip.stale
      numbered := by
        have := streams.numbered
        simp only [Media.skipUnit] at this ⊢
        rw [this, count] }
  | @publishUnit _ _ _ m sample bytes some' =>
    have numbered : m.accessUnitSequence = UInt64.ofNat m.unitCount := streams.numbered
    refine {
      frames := streams.frames.stale
      units := streams.units.capture setup.encodedAccessUnits _
      received := streams.received
      numbered := by simp only [Media.publishUnit, numbered, count]
      generation := streams.generation
      framesTold := streams.framesTold
      unitsTold := fun c member => ?_
      marked := streams.marked.snoc _ fun differs => ?_
      first := fun _ => ⟨m.stampUnit (unitOf m sample bytes), by simp [Media.publishUnit], rfl⟩
      unqueued := fun unused => ?_ }
    · rcases List.mem_append.1 member with old | new
      · exact streams.unitsTold c old
      · rw [List.mem_singleton.1 new]
        exact ⟨by simp only [Media.stampUnit, unitOf, numbered, count], streams.generation, some'⟩
    · -- an unmarked unit follows another one of its pipeline
      cases flag : m.firstAccessUnit with
      | true => simp [Media.stampUnit, unitOf, flag]
      | false =>
        obtain ⟨d, last, same⟩ := streams.first flag
        exact absurd same (differs d last)
    · simpa [Media.publishUnit, unused] using streams.unqueued unused
  | @publishFrame _ _ received m sample now usable =>
    have received' : received = UInt64.ofNat m.frameCount := streams.received
    refine { streams with
      frames := streams.frames.capture setup.enqueueFrames _
      units := streams.units.stale
      received := by simp only [Media.publishFrame, received', count]
      framesTold := fun c member => ?_ }
    rcases List.mem_append.1 member with old | new
    · exact streams.framesTold c old
    · rw [List.mem_singleton.1 new]
      simp only [RawSample.usable, Bool.and_eq_true, decide_eq_true_eq] at usable
      refine ⟨?_, streams.generation, usable.1.1, usable.1.2, rfl⟩
      simp only [Media.stampFrame, frameOf, received', count]
  | discardFrames =>
    exact { streams with
      frames := streams.frames.discard true
      units := streams.units.stale }
  | @discardUnits _ _ m =>
    cases queued : setup.encodedAccessUnits with
    | true =>
      simp only [↓reduceIte]
      exact { streams with
        units := streams.units.discard true
        unqueued := fun _ => rfl }
    | false =>
      simp only [Bool.false_eq_true, ↓reduceIte]
      refine { streams with units := ⟨streams.units.ordered, streams.units.bounded,
        streams.units.buffered, streams.units.current, fun _ c member => ?_⟩ }
      have none : m.unitLane.queue.items = [] := streams.unqueued queued
      rw [none] at member
      cases member

end Streams

section

variable {s t : State} {setup : Setup} {frames units : Nat} {some' : 0 < frames} {more : 0 < units}
  {ipv4 ipv6 : List Char → Bool}

theorem streams_init : Streams setup (init setup frames units some' more).mediaView where
  frames := ⟨.nil, by simp [init, State.mediaView, Media.frameLane], .slnil,
    by simp [init, State.mediaView, Media.frameLane, BoundedQueue.create],
    by simp [init, State.mediaView, Worker.discardedFrames]⟩
  units := ⟨.nil, by simp [init, State.mediaView, Media.unitLane], .slnil,
    by simp [init, State.mediaView, Media.unitLane, BoundedQueue.create],
    by simp [init, State.mediaView, Worker.discardedFrames, Worker.discardedUnits]⟩
  received := rfl
  numbered := rfl
  generation := rfl
  framesTold := by simp [init, State.mediaView]
  unitsTold := by simp [init, State.mediaView]
  marked := by simp [init, State.mediaView, Media.Marked]
  first := by simp [init, State.mediaView]
  unqueued := fun _ => rfl

theorem Streams.launch (streams : Streams setup s.mediaView) (config : Config.VideoConfig) (spawned : Bool) :
    Streams setup (s.launch config spawned).mediaView := by
  have media : (s.launch config spawned).media = s.media.startSession := by simp [State.launch]
  have received : (s.launch config spawned).diagnostics.framesReceived = 0 := rfl
  refine { streams with
    frames := ?_, units := ?_, received := ?_, numbered := ?_, generation := ?_, framesTold := ?_,
    unitsTold := ?_, marked := ?_, first := ?_, unqueued := ?_ }
  all_goals simp only [State.mediaView, media, received]
  · exact streams.frames.restart.weaken (by simp)
  · exact streams.units.restart.weaken (by simp)
  · rfl
  · rfl
  · exact streams.generation
  · exact streams.framesTold
  · exact streams.unitsTold
  · exact streams.marked
  · exact streams.first
  · exact streams.unqueued

theorem Streams.step (streams : Streams s.setup s.mediaView) {action : Action}
    (moved : s.step ipv4 ipv6 action = some t) : Streams t.setup t.mediaView := by
  cases action with
  | start config initialized spawned =>
    obtain ⟨-, -, -, rfl⟩ := State.start_eq_ok ipv4 ipv6 moved
    have setup : (s.launch config spawned).setup = s.setup := by simp [State.launch]
    rw [setup]
    exact streams.launch config spawned
  | requestStop => cases moved; exact streams
  | join =>
    simp only [State.step] at moved
    split at moved
    · cases moved
      exact streams.move (.keep (by simp [State.join, Worker.discardedFrames])
        (by simp [State.join, Worker.discardedFrames, Worker.discardedUnits]))
    · cases moved
  | work answer =>
    have moves := Moved.of_work moved
    rw [moves.setup]
    exact streams.move moves.media
  | signal signal => cases moved; exact streams
  | handle i chain =>
    obtain ⟨callback, at', rfl⟩ := Option.map_eq_some_iff.1 moved
    have same : (s.handle i chain callback).mediaView = s.mediaView := by simp [State.mediaView]
    rw [same]
    simpa using streams
  | popFrame =>
    cases moved
    exact { streams with frames := streams.frames.pop }
  | popUnit =>
    cases moved
    refine { streams with units := streams.units.pop, unqueued := fun unused => ?_ }
    have none : s.media.units.items = [] := streams.unqueued unused
    show s.media.units.takeFront.2.items = []
    rw [BoundedQueue.takeFront_nil none, none]
  | shutdownFrames =>
    cases moved
    exact { streams with frames := streams.frames.shutdown }
  | shutdownUnits =>
    cases moved
    exact { streams with units := streams.units.shutdown }

theorem streams_of_run {ok : State → Action → Prop}
    (run : Runs (State.step ipv4 ipv6) ok (init setup frames units some' more) s) :
    Streams s.setup s.mediaView := by
  have keep : ∀ (u : State) (action : Action) (v : State), Streams u.setup u.mediaView → ok u action →
      u.step ipv4 ipv6 action = some v → Streams v.setup v.mediaView :=
    fun _ _ _ streams _ moved => streams.step moved
  exact run.invariant streams_init keep

/-- Within a session the numbers grow, and the generations never fall, as long as none wraps. -/
structure Follows (sequence generation : α → UInt64) (c d : Captured α) : Prop where
  sequence : c.session = d.session → d.number < 2 ^ 64 → sequence c.value < sequence d.value
  generation : d.opened < 2 ^ 64 → generation c.value ≤ generation d.value

theorem Captured.Before.follows {sequence generation : α → UInt64} {c d : Captured α} (before : c.Before d)
    (numbers : sequence c.value = UInt64.ofNat c.number ∧ sequence d.value = UInt64.ofNat d.number)
    (generations : generation c.value = UInt64.ofNat c.opened ∧ generation d.value = UInt64.ofNat d.opened) :
    Follows sequence generation c d := by
  refine ⟨fun same small => ?_, fun small => ?_⟩
  · have less := before.2.2 same
    rw [numbers.1, numbers.2, UInt64.lt_iff_toNat_lt, UInt64.toNat_ofNat', UInt64.toNat_ofNat']
    omega
  · have le := before.2.1
    rw [generations.1, generations.2, UInt64.le_iff_toNat_le, UInt64.toNat_ofNat', UInt64.toNat_ofNat']
    omega

/-- **The access units of every run**: numbered upwards in each session, none empty, generations
never falling, and the first one of each pipeline marked as a discontinuity. -/
theorem units_in_order (run : Runs (State.step ipv4 ipv6) Free (init setup frames units some' more) s) :
    s.media.capturedUnits.Pairwise (Follows EncodedAccessUnit.sequence EncodedAccessUnit.sourceGeneration) ∧
      (∀ c ∈ s.media.capturedUnits, c.value.bytes ≠ []) ∧ Media.Marked s.media.capturedUnits := by
  have streams := streams_of_run run
  refine ⟨?_, fun c member => (streams.unitsTold c member).some, streams.marked⟩
  refine List.Pairwise.imp_of_mem (fun {c d} first second before => ?_) streams.units.ordered
  have told := streams.unitsTold c first
  have told' := streams.unitsTold d second
  exact before.follows ⟨told.sequence, told'.sequence⟩ ⟨told.generation, told'.generation⟩

/-- What a reader of a lane gets: the captured values in order, never twice, and what waits for it
carries the generation of the pipeline that is open now, or was left by an earlier session. -/
structure Delivers (generation : α → UInt64) (now : UInt64) (session : Nat) (read waiting captured :
    List (Captured α)) : Prop where
  ordered : (read ++ waiting).Sublist captured
  once : captured.Pairwise Captured.Before
  fresh : ∀ c ∈ waiting, generation c.value = now ∨ c.session < session

/-- **No stale media behind a reconnection.** -/
theorem lanes_fresh (run : Runs (State.step ipv4 ipv6) Free (init setup frames units some' more) s) :
    Delivers Frame.sourceGeneration s.media.pipelineGeneration s.media.session s.media.readFrames
        s.media.frames.items s.media.capturedFrames ∧
      Delivers EncodedAccessUnit.sourceGeneration s.media.pipelineGeneration s.media.session
        s.media.readUnits s.media.units.items s.media.capturedUnits := by
  have streams := streams_of_run run
  refine ⟨⟨streams.frames.buffered, streams.frames.ordered, fun c member => ?_⟩,
    ⟨streams.units.buffered, streams.units.ordered, fun c member => ?_⟩⟩
  · have told := streams.framesTold c (streams.frames.buffered.subset (List.mem_append_right _ member))
    refine (streams.frames.current c member).imp_left fun same => ?_
    rw [told.generation, same]
    exact streams.generation.symm
  · have told := streams.unitsTold c (streams.units.buffered.subset (List.mem_append_right _ member))
    refine (streams.units.current c member).imp_left fun same => ?_
    rw [told.generation, same]
    exact streams.generation.symm

end

/-- A key frame of a browser-compatible stream, and a picture of one pixel. -/
abbrev sample : EncodedSample := { caps := some (some "constrained-baseline", some "3.1"), bytes := some [1] }

abbrev picture : RawSample := { width := 1, height := 1, stride := 4, pixels := [1, 2, 3, 0] }

theorem reconnected : ∃ s : State, Runs (State.step (fun _ => true) fun _ => true) Free
    (init {} 2 8 (by decide) (by decide)) s ∧
      (s.media.capturedUnits.map (fun c => (c.opened, c.value.sequence, c.value.discontinuity)) =
        [(1, 1, true), (2, 2, true)] ∧ s.media.units.items.length = 1 ∧
        s.media.capturedFrames.length = 1 ∧ s.media.frames.items = []) := by
  apply Runs.exists_of_play (reconnecting sample picture)
  · decide +kernel
  · exact Meets.free _ _

theorem units_in_order_reconnected : ∃ s : State, s.media.capturedUnits.length = 2 ∧
    Media.Marked s.media.capturedUnits := by
  obtain ⟨s, run, captured, -⟩ := reconnected
  exact ⟨s, by simpa using congrArg List.length captured, (units_in_order run).2.2⟩

theorem lanes_fresh_reconnected : ∃ s : State, s.media.units.items.length = 1 ∧
    Delivers EncodedAccessUnit.sourceGeneration s.media.pipelineGeneration s.media.session
      s.media.readUnits s.media.units.items s.media.capturedUnits := by
  obtain ⟨s, run, -, waiting, -⟩ := reconnected
  exact ⟨s, waiting, (lanes_fresh run).2⟩

end SkaiEdge.Video.RtspSource
