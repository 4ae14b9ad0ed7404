import SkaiEdge.Core.QueueFeed
import SkaiEdge.WebRtc.WebRtcSession

/-!
# A WHEP session as the consumer of a feed

`feedOf` reads a session's queue, gate and worker as a `Feed` whose next expected position is
`next`; `Fed` says that this feed keeps its invariant. A session whose media has ended, or
whose track has closed, is a feed with its gate shut: whatever its worker still takes is lost,
and so is a unit that waits for the track. Every move of the session keeps `Fed`
(`Fed.step`), as long as a closed track does not open again.
-/

namespace SkaiEdge.WebRtc.WebRtcSession

open SkaiEdge.Lib SkaiEdge.Core SkaiEdge.Video

/-- The session may still send what it has not yet handed to the track. -/
def live (x : WebRtcSession) : Bool := x.mediaRunning && decide (x.track ≠ .closed)

/-- The unit the worker holds has passed the gate. -/
def Worker.gated : Worker → Bool
  | .holding _ | .checking _ | .sending _ => true
  | _ => false

def hand (x : WebRtcSession) : Hand EncodedAccessUnit :=
  match x.worker with
  | .popped unit => .taken unit
  | .holding unit | .checking unit => if x.live then .passed unit else .empty
  | .sending unit => .passed unit
  | _ => .empty

def feedOf (x : WebRtcSession) (next : Nat) : Feed EncodedAccessUnit where
  next := next
  pending := x.mediaQueue.items
  dropped := x.mediaQueue.stats.dropped
  observed := x.observedQueueDrops
  waiting := x.waitingForKeyframe || x.worker.gated || !x.live
  hand := x.hand
  delivered := x.sent

/-- What the worker's position and the flags say about each other. -/
structure Placed (x : WebRtcSession) : Prop where
  unborn : x.worker = .absent ∨ x.worker = .starting →
    x.waitingForKeyframe = true ∧ x.observedQueueDrops = 0 ∧ x.sent = []
  opened : ∀ unit, x.worker = .sending unit → x.waitingForKeyframe = false
  settled : ∀ unit, x.worker = .checking unit → x.mediaRunning = true → x.track ≠ .connecting
  down : x.mediaQueue.isShutdown = true → x.mediaRunning = false
  closing : x.queueClosing = true → x.mediaRunning = false ∧ x.cleanupStarted = true

/-- The positions that say nothing about the gate and the track. -/
def Worker.free : Worker → Bool
  | .absent | .starting | .checking _ | .sending _ => false
  | _ => true

theorem Placed.of_free {y : WebRtcSession} (free : y.worker.free = true)
    (down : y.mediaQueue.isShutdown = true → y.mediaRunning = false)
    (closing : y.queueClosing = true → y.mediaRunning = false ∧ y.cleanupStarted = true) :
    Placed y := by
  constructor <;> cases worker : y.worker <;> simp_all [Worker.free]

/-- The session has been fed the published units up to just before `next`. -/
structure Fed (published : List EncodedAccessUnit) (x : WebRtcSession) (next : Nat) : Prop where
  placed : Placed x
  feed : Feed.Inv EncodedAccessUnit.keyframe (feedOf x next)
  recorded : Recorded published (feedOf x next).units

abbrev Moves : Feed EncodedAccessUnit → Feed EncodedAccessUnit → Prop :=
  Relation.ReflTransGen (Feed.Step EncodedAccessUnit.keyframe)

variable {published : List EncodedAccessUnit} {x y : WebRtcSession} {next : Nat}

theorem Fed.of_moves (fed : Fed published x next) (moves : Moves (feedOf x next) (feedOf y next))
    (sub : (feedOf y next).units ⊆ (feedOf x next).units) (placed : Placed y) :
    Fed published y next :=
  ⟨placed, fed.feed.run moves, fed.recorded.subset sub⟩

theorem Fed.of_view (fed : Fed published x next) (same : feedOf y next = feedOf x next)
    (placed : Placed y) : Fed published y next :=
  fed.of_moves (same ▸ .refl) (same ▸ List.Subset.refl _) placed

theorem recordFailure_eq (x : WebRtcSession) (stage : String) (preserveSpecific : Bool) :
    ∃ stage' failed', x.recordFailure stage preserveSpecific =
      { x with failureStage := stage', failed := failed' } := by
  unfold recordFailure
  split
  · exact ⟨x.failureStage, x.failed, rfl⟩
  · exact ⟨stage, true, rfl⟩

theorem Fed.recordFailure (fed : Fed published x next) (stage : String) (preserveSpecific : Bool) :
    Fed published (x.recordFailure stage preserveSpecific) next := by
  obtain ⟨stage', failed', same⟩ := recordFailure_eq x stage preserveSpecific
  rw [same]
  exact fed.of_view rfl ⟨fed.placed.unborn, fed.placed.opened, fed.placed.settled,
    fed.placed.down, fed.placed.closing⟩

/-- A session that dies shuts its gate and loses a unit that waits for the track. -/
theorem dies (next : Nat) (counted : x.observedQueueDrops ≤ x.mediaQueue.stats.dropped)
    (queue : y.mediaQueue = x.mediaQueue) (worker : y.worker = x.worker)
    (waiting : y.waitingForKeyframe = x.waitingForKeyframe)
    (observed : y.observedQueueDrops = x.observedQueueDrops) (sent : y.sent = x.sent)
    (dead : y.live = false) :
    Moves (feedOf x next) (feedOf y next) ∧ (feedOf y next).units ⊆ (feedOf x next).units := by
  have rearm : Feed.Step EncodedAccessUnit.keyframe (feedOf x next) _ :=
    .rearm x.observedQueueDrops counted
  have after : feedOf y next = { feedOf x next with waiting := true, hand := y.hand } := by
    simp [feedOf, queue, worker, waiting, observed, sent, dead]
  rw [after]
  by_cases kept : y.hand = x.hand
  · rw [kept]
    exact ⟨.single .shut, List.Subset.refl _⟩
  · -- only a unit in front of the track can be lost
    have lost : y.hand = .empty := by
      cases standing : x.worker <;> simp_all [hand]
    rw [lost]
    exact ⟨.single rearm, by simp [Feed.units, feedOf, Hand.toList]⟩

theorem Fed.closeWithReason (fed : Fed published x next) (reason : String) :
    Fed published (x.closeWithReason reason) next := by
  unfold WebRtcSession.closeWithReason
  split
  · exact fed
  · obtain ⟨moves, sub⟩ := dies next (y := { x with
      cleanupStarted := true, closed := true,
      closeReason := if x.closeReason = "" then reason else x.closeReason,
      mediaRunning := false, queueClosing := true }) fed.feed.counted rfl rfl rfl rfl rfl rfl
    exact fed.of_moves moves sub ⟨fed.placed.unborn, fed.placed.opened, by simp, fun _ => rfl,
      fun _ => ⟨rfl, rfl⟩⟩

theorem Fed.pop (fed : Fed published x next) (standing : x.worker = .popping) :
    Fed published (pop x) next := by
  rcases pop_cases x with ⟨_, stays⟩ | ⟨front, rest, items, takes⟩
  · rw [stays]
    exact fed.of_view (by simp [feedOf, hand, live, standing, Worker.gated])
      (.of_free rfl fed.placed.down fed.placed.closing)
  · have left := (BoundedQueue.takeFront_cons items).2.1
    have feeds : Moves (feedOf x next) _ := BoundedQueue.takeFront_feeds (f := feedOf x next) rfl rfl
      (by simp [feedOf, hand, standing]) items
    rw [takes]
    refine fed.of_moves ?_ ?_ (.of_free rfl ?_ fed.placed.closing)
    · simpa [feedOf, hand, live, standing, Worker.gated] using feeds
    · simp [Feed.units, feedOf, hand, standing, Hand.toList, left, items]
    · intro down
      exact fed.placed.down (by rwa [BoundedQueue.takeFront_isShutdown] at down)

theorem Fed.gate {unit : Stamped EncodedAccessUnit} (fed : Fed published x next)
    (standing : x.worker = .popped unit) : Fed published (gate x unit) next := by
  have rearm : Feed.Step EncodedAccessUnit.keyframe (feedOf x next) _ :=
    .rearm x.mediaQueue.stats.dropped (Nat.le_refl _)
  rcases gate_cases x unit with skips | ⟨opens, waiting, passes⟩
  · rw [skips]
    refine fed.of_moves (.single ?_) ?_ (.of_free rfl fed.placed.down fed.placed.closing)
    · simpa [feedOf, hand, live, Worker.gated] using rearm
    · simp [Feed.units, feedOf, hand, standing, Hand.toList]
  · rw [passes]
    have after : feedOf { x with
        worker := .holding unit
        waitingForKeyframe := waiting
        observedQueueDrops := x.mediaQueue.stats.dropped
        clock := gatedClock x unit.val } next = { feedOf x next with
          observed := x.mediaQueue.stats.dropped
          waiting := true
          hand := if x.live then .passed unit else .empty } := by
      simp [feedOf, hand, live, Worker.gated]
    have held : (feedOf x next).hand = .taken unit := by simp [feedOf, hand, standing]
    refine fed.of_moves (.single ?_) ?_ (.of_free rfl fed.placed.down fed.placed.closing)
    · rw [after]
      cases alive : x.live with
      | true =>
        exact .pass unit true held (by simpa [feedOf, standing, Worker.gated, alive] using opens)
      | false =>
        -- a dead session lets the unit through its gate and loses it in front of the track
        exact rearm
    · rw [after]
      cases x.live <;> simp [Feed.units, held, Hand.toList]

theorem Fed.check {unit : Stamped EncodedAccessUnit} (fed : Fed published x next)
    (standing : x.worker = .checking unit) : Fed published (check x unit) next := by
  have settled := fed.placed.settled unit standing
  unfold WebRtcSession.check
  split
  · rename_i lost
    have dead : x.live = false := by
      cases track : x.track <;> simp_all [live]
    have same : ({ x with worker := .top } : WebRtcSession).live = false := dead
    refine fed.of_view ?_ (.of_free rfl fed.placed.down fed.placed.closing)
    simp [feedOf, hand, standing, Worker.gated, dead, same]
  · rename_i open'
    have alive : x.mediaRunning = true ∧ x.track = .opened := by simpa using open'
    refine fed.of_view ?_ ⟨by simp, fun _ _ => rfl, by simp, fed.placed.down, fed.placed.closing⟩
    simp [feedOf, hand, live, standing, Worker.gated, alive]

theorem Fed.send {unit : Stamped EncodedAccessUnit} (accepted : Bool) (fed : Fed published x next)
    (standing : x.worker = .sending unit) : Fed published (send x unit accepted) next := by
  have deliver : Feed.Step EncodedAccessUnit.keyframe (feedOf x next) _ :=
    .deliver unit (by simp [feedOf, hand, standing])
  have opened := fed.placed.opened unit standing
  have shape : ∀ y : WebRtcSession, y.mediaQueue = x.mediaQueue → y.worker = .top →
      y.waitingForKeyframe = x.waitingForKeyframe → y.observedQueueDrops = x.observedQueueDrops →
      y.sent = x.sent ++ [unit] → Placed y → Fed published y next := by
    intro y queue worker waiting observed sent placed
    have after : feedOf y next = { feedOf x next with
        delivered := x.sent ++ [unit], waiting := !y.live, hand := .empty } := by
      simp [feedOf, hand, queue, worker, waiting, observed, sent, opened, Worker.gated]
    refine fed.of_moves ?_ ?_ placed
    · rw [after]
      cases y.live with
      | true => exact .single deliver
      | false => exact .tail (.single deliver) .shut
    · rw [after]
      simp [Feed.units, feedOf, hand, standing, Hand.toList]
  cases accepted with
  | true =>
    exact shape _ rfl rfl rfl rfl rfl (.of_free rfl fed.placed.down fed.placed.closing)
  | false =>
    obtain ⟨stage', failed', same⟩ := recordFailure_eq
      { x with sent := x.sent ++ [unit], worker := .top } "media" false
    simp only [WebRtcSession.send, same]
    exact shape _ rfl rfl rfl rfl rfl (.of_free rfl (fun _ => rfl)
      fun closing => ⟨rfl, (fed.placed.closing closing).2⟩)

/-- The queue a session starts with: nothing but the initial keyframe, no loss counted. -/
theorem primed_eq (queue : BoundedQueue (Stamped EncodedAccessUnit))
    (initialKeyframe : Option (Stamped EncodedAccessUnit)) :
    (primed queue initialKeyframe).items = initialKeyframe.toList ∧
      (primed queue initialKeyframe).isShutdown = false := by
  cases initialKeyframe with
  | none => exact ⟨rfl, rfl⟩
  | some unit =>
    have room : ¬ queue.capacity < 1 := Nat.not_lt.2 queue.positive
    simp [primed, BoundedQueue.push, BoundedQueue.reset, BoundedQueue.create,
      BoundedQueue.pushBack, room]

/-- **Activation** feeds the session its initial keyframe. Without one the gate is closed over
an empty queue, and any position will do for the next unit. -/
theorem Placed.activateMedia {initialKeyframe : Option (Stamped EncodedAccessUnit)} (placed : Placed x)
    (absent : x.worker = .absent) (recorded : Recorded published initialKeyframe.toList)
    (follows : ∀ unit ∈ initialKeyframe, unit.stamp + 1 = next)
    (moved : x.activateMedia initialKeyframe = some y) :
    Fed published y next ∧ y.worker = .starting ∧ y.mediaRunning = true := by
  unfold WebRtcSession.activateMedia at moved
  split at moved
  · cases moved
  · rename_i started
    cases moved
    obtain ⟨items, running⟩ := primed_eq x.mediaQueue initialKeyframe
    obtain ⟨waiting, observed, sent⟩ := placed.unborn (.inl absent)
    have clean : x.cleanupStarted = false := by simp at started; exact started.2
    refine ⟨⟨⟨fun _ => ⟨waiting, observed, sent⟩, by simp, by simp, ?_, ?_⟩, ⟨?_, ?_, ?_, ?_⟩, ?_⟩, rfl, rfl⟩
    · intro down
      rw [running] at down
      cases down
    · intro closing
      rw [(placed.closing closing).2] at clean
      cases clean
    · simp [feedOf, sent, GapFree.nil]
    · refine ⟨?_, ?_⟩
      · cases initialKeyframe <;> simp [feedOf, items]
      · intro unit last
        cases initialKeyframe with
        | none => simp [feedOf, items] at last
        | some first =>
          simp only [feedOf, items, Option.toList_some, List.getLast?_singleton, Option.mem_def,
            Option.some.injEq] at last
          exact last ▸ follows first rfl
    · simp [feedOf, observed]
    · intro armed
      simp [feedOf, waiting] at armed
    · simpa [Feed.units, feedOf, hand, Hand.toList, sent, items] using recorded

theorem Fed.spawn (started : Bool) (fed : Fed published x next) (standing : x.worker = .starting) :
    Fed published (spawn x started) next := by
  obtain ⟨waiting, observed, sent⟩ := fed.placed.unborn (.inr standing)
  cases started with
  | true =>
    refine fed.of_view ?_ (.of_free rfl fed.placed.down fed.placed.closing)
    simp [feedOf, hand, WebRtcSession.spawn, standing, waiting, observed]
  | false =>
    refine fed.of_view ?_ (.of_free rfl (fun _ => rfl)
      fun closing => ⟨rfl, (fed.placed.closing closing).2⟩)
    simp [feedOf, hand, WebRtcSession.spawn, standing, waiting]

/-- **A push** that does not drop a unit behind an unread keyframe feeds the session the next
unit, unless the queue is shut down. -/
theorem Fed.enqueue {unit : Stamped EncodedAccessUnit} (fed : Fed published x next)
    (follows : unit.val.keyframe = true ∨ unit.stamp = next)
    (known : published[unit.stamp]? = some unit.val)
    (unread : x.mediaQueue.isShutdown = false → x.mediaQueue.full = true →
      ∀ k ∈ x.worker.unread, k.val.keyframe = false) :
    ∃ next', Fed published (enqueue x unit) next' ∧
      (x.mediaQueue.isShutdown = false → next' = unit.stamp + 1) := by
  cases down : x.mediaQueue.isShutdown with
  | true =>
    have same : WebRtcSession.enqueue x unit = x := by
      simp [WebRtcSession.enqueue, BoundedQueue.push_down unit down]
    rw [same]
    exact ⟨next, fed, by simp⟩
  | false =>
    have taken : x.mediaQueue.full = true → ∀ k, (feedOf x next).hand = .taken k →
        k.val.keyframe = false := by
      intro full k held
      refine unread down full k ?_
      cases standing : x.worker <;> simp_all [feedOf, hand, Worker.unread]
      all_goals split at held <;> cases held
    have moves := BoundedQueue.push_feeds (f := feedOf x next) rfl rfl down follows taken
    refine ⟨unit.stamp + 1, ⟨⟨fed.placed.unborn, fed.placed.opened, fed.placed.settled, ?_,
      fed.placed.closing⟩, fed.feed.run moves, ?_⟩, fun _ => rfl⟩
    · intro shut
      rw [WebRtcSession.enqueue, BoundedQueue.push_isShutdown, down] at shut
      cases shut
    · intro u member
      have sent : u ∈ (feedOf x next).units ∨ u = unit := by
        simp only [Feed.units, feedOf, WebRtcSession.enqueue, List.mem_append] at member ⊢
        rcases member with held | new
        · exact .inl (.inl held)
        · exact (BoundedQueue.mem_push new).imp_left .inr
      rcases sent with old | rfl
      · exact fed.recorded u old
      · exact known

/-- **Every move of the session keeps it fed**, and none sets its media running or starts its
worker. -/
theorem Fed.step {a : Action} (fed : Fed published x next)
    (guard : a = .trackOpens → x.track ≠ .closed) (moved : x.step a = some y) :
    Fed published y next ∧ (y.mediaRunning = true → x.mediaRunning = true) ∧
      (x.worker = .absent ∨ x.worker = .starting → y.worker = x.worker) := by
  have placed := fed.placed
  cases a with
  | peerConnected | peerFailed | peerClosed | iceFailed =>
    cases moved
    exact ⟨fed.of_view rfl ⟨placed.unborn, placed.opened, placed.settled, placed.down, placed.closing⟩,
      fun on => on, fun _ => rfl⟩
  | trackError =>
    cases moved
    refine ⟨fed.recordFailure "media" false, ?_⟩
    obtain ⟨stage', failed', same⟩ := recordFailure_eq x "media" false
    rw [same]
    exact ⟨fun on => on, fun _ => rfl⟩
  | trackOpens =>
    cases moved
    have reopened := guard rfl
    refine ⟨fed.of_view ?_ ⟨placed.unborn, placed.opened, by simp, placed.down, placed.closing⟩,
      fun on => on, fun _ => rfl⟩
    simp [feedOf, hand, live, reopened]
  | trackCloses =>
    cases moved
    obtain ⟨moves, sub⟩ := dies next (y := { x with track := .closed })
      fed.feed.counted rfl rfl rfl rfl rfl (by simp [live])
    exact ⟨fed.of_moves moves sub ⟨placed.unborn, placed.opened, by simp, placed.down, placed.closing⟩,
      fun on => on, fun _ => rfl⟩
  | shutdownQueue =>
    obtain ⟨closing, ⟨⟩⟩ := Option.ite_none_right_eq_some.1 moved
    exact ⟨fed.of_view rfl ⟨placed.unborn, placed.opened, placed.settled,
      fun _ => (placed.closing closing).1, by simp⟩, fun on => on, fun _ => rfl⟩
  | loop =>
    obtain ⟨standing, ⟨⟩⟩ := Option.ite_none_right_eq_some.1 moved
    refine ⟨?_, fun on => on, by simp [standing]⟩
    split <;>
      exact fed.of_view (by simp [feedOf, hand, live, standing, Worker.gated])
        (.of_free rfl placed.down placed.closing)
  | pop =>
    obtain ⟨standing, ⟨⟩⟩ := Option.ite_none_right_eq_some.1 moved
    refine ⟨fed.pop standing, ?_, by simp [standing]⟩
    rcases pop_cases x with ⟨_, same⟩ | ⟨_, _, _, same⟩ <;> rw [same] <;> exact fun on => on
  | gate =>
    simp only [WebRtcSession.step] at moved
    split at moved
    · rename_i unit standing
      cases moved
      exact ⟨fed.gate standing, fun on => on, by simp [standing]⟩
    · cases moved
  | poll =>
    simp only [WebRtcSession.step] at moved
    split at moved
    · rename_i unit standing
      cases moved
      refine ⟨?_, fun on => on, by simp [standing]⟩
      split
      · exact fed.of_view (by simp [feedOf, hand, live, standing, Worker.gated])
          (.of_free rfl placed.down placed.closing)
      · rename_i left
        refine fed.of_view (by simp [feedOf, hand, live, standing, Worker.gated])
          ⟨by simp, by simp, ?_, placed.down, placed.closing⟩
        intro _ _ (running : x.mediaRunning = true) (track : x.track = .connecting)
        simp [running, track] at left
    · cases moved
  | check =>
    simp only [WebRtcSession.step] at moved
    split at moved
    · rename_i unit standing
      cases moved
      refine ⟨fed.check standing, ?_, by simp [standing]⟩
      unfold WebRtcSession.check
      split <;> exact fun on => on
    · cases moved
  | send accepted =>
    simp only [WebRtcSession.step] at moved
    split at moved
    · rename_i unit standing
      cases moved
      refine ⟨fed.send accepted standing, ?_, by simp [standing]⟩
      cases accepted with
      | true => exact fun on => on
      | false => exact nofun
    · cases moved

end SkaiEdge.WebRtc.WebRtcSession
