import SkaiEdge.Core.QueueFeed
import SkaiEdge.WebRtc.WhipPublisher

/-!
# What the WHIP publisher hands to the track

The media path is a `Feed`: `view` reads the session's gate, the queue and the sent list as
one, and every move of the publisher is matched by moves of the feed (`Inv.step`). The feed
forbids one loss, the overflow that falls between the pop of a keyframe and the drop
count read after it, and so does `Undisturbed`; without it the publisher is gap-free in every
interleaving (`sent_gap_free`), with it the next delta goes out after a gap
(`overflow_behind_keyframe`).
-/

namespace SkaiEdge.WebRtc.WhipPublisher

open SkaiEdge.Lib SkaiEdge.Core SkaiEdge.Video

/-- The worker's unit as the feed sees it. -/
def Worker.hand : Worker → Hand EncodedAccessUnit
  | .popped unit => .taken unit
  | .sending unit => .passed unit
  | _ => .empty

/-- The worker is between the check of the peer and the next turn of the loop. -/
def Worker.serving : Worker → Bool
  | .popping | .popped _ | .sending _ => true
  | _ => false

/-- Outside the media loop the gate counts as closed: a new session starts with it closed. -/
def view (s : State) : Feed EncodedAccessUnit where
  next := s.published.length
  pending := s.queue.items
  dropped := s.queue.stats.dropped
  observed := s.observedDrops
  waiting := s.waitingForKeyframe || s.awaitingResume || !s.worker.inLoop
  hand := s.worker.hand
  delivered := s.sent

/-- No push overflows the queue while the worker holds a popped keyframe whose drop count it
has not read. -/
def Undisturbed (s : State) : Action → Prop
  | .push _ => s.queue.isShutdown = false → s.queue.full = true →
      ∀ unit ∈ s.worker.unread, unit.val.keyframe = false
  | _ => True

instance (s : State) : DecidablePred (Undisturbed s) := fun a =>
  match a with
  | .push _ => inferInstanceAs (Decidable (_ → _ → ∀ unit ∈ s.worker.unread, _ = false))
  | .call _ | .stopFlag | .stopQueue | .peerConnected | .peerDisconnected _ | .peerFailed
  | .session _ | .sessionFails _ | .loop | .reconnect _ | .probe _ | .discard | .pop | .gate
  | .send _ | .retry => .isTrue trivial

abbrev Moves : Feed EncodedAccessUnit → Feed EncodedAccessUnit → Prop :=
  Relation.ReflTransGen (Feed.Step EncodedAccessUnit.keyframe)

/-- A move of the worker that leaves the media loop re-arms the feed. -/
theorem leaves_loop {s v : State} (counted : s.observedDrops ≤ s.queue.stats.dropped)
    (left : view v = { view s with waiting := true, hand := .empty }) : Moves (view s) (view v) := by
  rw [left]
  exact .single (.rearm (f := view s) s.observedDrops counted)

theorem send_refines {s : State} {unit : Stamped EncodedAccessUnit} (accepted : Bool)
    (standing : s.worker = .sending unit) (opened : s.waitingForKeyframe = false)
    (resumed : s.awaitingResume = false) (counted : s.observedDrops ≤ s.queue.stats.dropped) :
    Moves (view s) (view { s with
      sent := s.sent ++ [unit], worker := if accepted then .top else .retrying }) := by
  have deliver : Feed.Step EncodedAccessUnit.keyframe (view s) _ :=
    .deliver unit (by simp [view, standing, Worker.hand])
  cases accepted with
  | true => exact .single (by simpa [view, Worker.inLoop, Worker.hand, opened, resumed] using deliver)
  | false =>
    refine .tail (.single deliver) ?_
    have rearm : Feed.Step EncodedAccessUnit.keyframe
        { view s with delivered := s.sent ++ [unit], waiting := false, hand := .empty } _ :=
      .rearm s.observedDrops counted
    simpa [view, Worker.inLoop, Worker.hand] using rearm

/-- The feed's invariant, what the worker's position says about its locals, and that the
stamps are positions of `published`. -/
structure Inv (s : State) : Prop where
  feed : Feed.Inv EncodedAccessUnit.keyframe (view s)
  resumed : s.worker.serving = true → s.awaitingResume = false
  opened : ∀ unit, s.worker = .sending unit → s.waitingForKeyframe = false
  recorded : Recorded s.published (view s).units

theorem inv_init (enabled : Bool) : Inv (init enabled) where
  feed := ⟨.nil, .nil, Nat.le_refl _, fun armed => nomatch armed⟩
  resumed := nofun
  opened := nofun
  recorded := nofun

/-- A move that publishes nothing keeps the stamps. -/
theorem Inv.of_moves {s v : State} (inv : Inv s) (moves : Moves (view s) (view v))
    (log : v.published = s.published) (sub : (view v).units ⊆ (view s).units)
    (resumed : v.worker.serving = true → v.awaitingResume = false)
    (opened : ∀ unit, v.worker = .sending unit → v.waitingForKeyframe = false) : Inv v :=
  ⟨inv.feed.run moves, resumed, opened, log ▸ inv.recorded.subset sub⟩

/-- A move that only changes what the feed does not see. -/
theorem Inv.of_view {s v : State} (inv : Inv s) (same : view v = view s)
    (log : v.published = s.published)
    (resumed : v.worker.serving = true → v.awaitingResume = false)
    (opened : ∀ unit, v.worker = .sending unit → v.waitingForKeyframe = false) : Inv v :=
  inv.of_moves (same ▸ .refl) log (same ▸ List.Subset.refl _) resumed opened

/-- A move to a worker that serves no unit. -/
theorem Inv.idle_of_moves {s v : State} (inv : Inv s) (moves : Moves (view s) (view v))
    (log : v.published = s.published) (sub : (view v).units ⊆ (view s).units)
    (idle : v.worker.serving = false) : Inv v := by
  refine inv.of_moves moves log sub ?_ ?_
  · intro serving
    simp [idle] at serving
  · intro unit sending
    simp [sending, Worker.serving] at idle

theorem Inv.idle_of_view {s v : State} (inv : Inv s) (same : view v = view s)
    (log : v.published = s.published) (idle : v.worker.serving = false) : Inv v :=
  inv.idle_of_moves (same ▸ .refl) log (same ▸ List.Subset.refl _) idle

theorem Inv.push {s v : State} {index : Nat} (inv : Inv s) (guard : Undisturbed s (.push index))
    (moved : push s index = some v) : Inv v := by
  obtain ⟨unit, _, rfl⟩ := Option.map_eq_some_iff.1 moved
  have unread : s.queue.isShutdown = false → s.queue.full = true →
      ∀ k, (view s).hand = .taken k → k.val.keyframe = false := by
    intro down full k held
    refine guard down full k ?_
    cases worker : s.worker <;> simp_all [view, Worker.hand, Worker.unread]
  obtain ⟨feed, recorded⟩ := BoundedQueue.push_keeps unit inv.feed inv.recorded rfl rfl rfl unread
  exact ⟨feed, inv.resumed, inv.opened, recorded⟩

theorem Inv.probe {s : State} {now : Nat} (trackOpen : Bool) (inv : Inv s)
    (standing : s.worker = .probe now) : Inv (probe s now trackOpen) := by
  rcases probe_cases s now trackOpen with
    ⟨closedAt, gave⟩ | ⟨closedAt, worker, paused, stays⟩ | resumes
  · rw [gave]
    refine inv.idle_of_moves (leaves_loop inv.feed.counted ?_) rfl ?_ rfl
    · simp [view, Worker.inLoop, Worker.hand]
    · simp [Feed.units, view, standing, Worker.hand, Hand.toList]
  · rw [stays]
    rcases paused with rfl | rfl
    · exact inv.idle_of_view (by simp [view, standing, Worker.inLoop, Worker.hand]) rfl rfl
    · exact inv.idle_of_view (by simp [view, standing, Worker.inLoop, Worker.hand]) rfl rfl
  · -- resuming moves the closed gate from `awaiting_resume` to `waiting_for_keyframe`
    rw [resumes]
    refine inv.of_view ?_ rfl (fun _ => rfl) (by simp)
    simp only [view, standing, Worker.inLoop, Worker.hand, Bool.or_false, Bool.not_true,
      Bool.or_comm s.awaitingResume]

theorem Inv.pop {s : State} (inv : Inv s) (standing : s.worker = .popping) : Inv (pop s) := by
  rcases pop_cases s with ⟨_, stays⟩ | ⟨front, rest, items, takes⟩
  · rw [stays]
    exact inv.idle_of_view (by simp [view, standing, Worker.inLoop, Worker.hand]) rfl rfl
  · have left := (BoundedQueue.takeFront_cons items).2.1
    have feeds : Moves (view s) _ := BoundedQueue.takeFront_feeds (f := view s) rfl rfl
      (by simp [view, standing, Worker.hand]) items
    have resumed := inv.resumed (by simp [standing, Worker.serving])
    rw [takes]
    refine inv.of_moves ?_ rfl ?_ (fun _ => resumed) (by simp)
    · simpa [view, standing, Worker.inLoop, Worker.hand] using feeds
    · simp [Feed.units, view, standing, Worker.hand, Hand.toList, left, items]

theorem Inv.gate {s : State} {unit : Stamped EncodedAccessUnit} (inv : Inv s)
    (standing : s.worker = .popped unit) : Inv (gate s unit) := by
  have resumed := inv.resumed (by simp [standing, Worker.serving])
  rcases gate_cases s unit with skips | ⟨opens, passes⟩
  · rw [skips]
    have rearm : Feed.Step EncodedAccessUnit.keyframe (view s) _ :=
      .rearm s.queue.stats.dropped (Nat.le_refl _)
    refine inv.idle_of_moves (.single ?_) rfl ?_ rfl
    · simpa [view, Worker.inLoop, Worker.hand] using rearm
    · simp [Feed.units, view, standing, Worker.hand, Hand.toList]
  · rw [passes]
    have pass : Feed.Step EncodedAccessUnit.keyframe (view s) _ :=
      .pass unit false (by simp [view, standing, Worker.hand])
        (by simpa [view, standing, Worker.inLoop, resumed] using opens)
    refine inv.of_moves (.single ?_) rfl ?_ (fun _ => resumed) (fun _ _ => rfl)
    · simpa [view, Worker.inLoop, Worker.hand, resumed] using pass
    · simp [Feed.units, view, standing, Worker.hand, Hand.toList]

/-- The worker discards what is queued, with nothing in hand. -/
theorem Inv.discarded {s v : State} (inv : Inv s) (empty : (view s).hand = .empty)
    (discards : view v = { view s with pending := [], waiting := true })
    (log : v.published = s.published) (idle : v.worker.serving = false) : Inv v := by
  have discard : Feed.Step EncodedAccessUnit.keyframe (view s) _ := .discard empty
  refine inv.idle_of_moves (.single (discards ▸ discard)) log ?_ idle
  rw [discards]
  simp [Feed.units, empty, Hand.toList]

/-- **Every move of the publisher keeps the invariant.** -/
theorem Inv.step {s v : State} {a : Action} (inv : Inv s) (guard : Undisturbed s a)
    (moved : step s a = some v) : Inv v := by
  have counted : s.observedDrops ≤ s.queue.stats.dropped := inv.feed.counted
  cases a with
  | call unit =>
    cases moved
    unfold call
    split
    · exact inv
    · exact inv.of_view rfl rfl inv.resumed inv.opened
  | push index => exact inv.push guard moved
  | stopFlag => cases moved; exact inv.of_view rfl rfl inv.resumed inv.opened
  | stopQueue =>
    obtain ⟨_, ⟨⟩⟩ := Option.ite_none_right_eq_some.1 moved
    exact inv.of_view rfl rfl inv.resumed inv.opened
  | peerConnected => cases moved; exact inv.of_view rfl rfl inv.resumed inv.opened
  | peerDisconnected now => cases moved; exact inv.of_view rfl rfl inv.resumed inv.opened
  | peerFailed => cases moved; exact inv.of_view rfl rfl inv.resumed inv.opened
  | session now =>
    obtain ⟨_, ⟨⟩⟩ := Option.ite_none_right_eq_some.1 moved
    have restart : Feed.Step EncodedAccessUnit.keyframe (view s) _ :=
      .restart s.queue.stats.dropped (Nat.le_refl _)
    refine inv.idle_of_moves (.single ?_) rfl ?_ rfl
    · simpa [view, session, Worker.inLoop, Worker.hand] using restart
    · simp [Feed.units, view, session, Worker.hand, Hand.toList]
  | sessionFails unrecoverable =>
    obtain ⟨standing, ⟨⟩⟩ := Option.ite_none_right_eq_some.1 moved
    cases unrecoverable <;>
      exact inv.idle_of_view (by simp [view, standing, Worker.inLoop, Worker.hand]) rfl rfl
  | loop =>
    obtain ⟨standing, ⟨⟩⟩ := Option.ite_none_right_eq_some.1 moved
    cases s.stopping with
    | true =>
      refine inv.idle_of_moves (leaves_loop counted ?_) rfl ?_ rfl
      · simp [view, Worker.inLoop, Worker.hand]
      · simp [Feed.units, view, standing, Worker.hand, Hand.toList]
    | false => exact inv.idle_of_view (by simp [view, standing, Worker.inLoop, Worker.hand]) rfl rfl
  | reconnect now =>
    obtain ⟨standing, ⟨⟩⟩ := Option.ite_none_right_eq_some.1 moved
    cases s.peer.shouldReconnect now 10000 with
    | true =>
      refine inv.idle_of_moves (leaves_loop counted ?_) rfl ?_ rfl
      · simp [view, Worker.inLoop, Worker.hand]
      · simp [Feed.units, view, standing, Worker.hand, Hand.toList]
    | false => exact inv.idle_of_view (by simp [view, standing, Worker.inLoop, Worker.hand]) rfl rfl
  | probe trackOpen =>
    simp only [WhipPublisher.step] at moved
    split at moved
    · rename_i now standing
      cases moved
      exact inv.probe trackOpen standing
    · cases moved
  | discard =>
    simp only [WhipPublisher.step] at moved
    split at moved
    · rename_i standing
      cases moved
      refine inv.discarded (by simp [view, standing, Worker.hand]) ?_ rfl rfl
      simp [view, standing, Worker.inLoop, Worker.hand]
    · rename_i standing
      cases moved
      refine inv.discarded (by simp [view, standing, Worker.hand]) ?_ rfl rfl
      simp [view, standing, Worker.inLoop, Worker.hand]
    · cases moved
  | pop =>
    obtain ⟨standing, ⟨⟩⟩ := Option.ite_none_right_eq_some.1 moved
    exact inv.pop standing
  | gate =>
    simp only [WhipPublisher.step] at moved
    split at moved
    · rename_i unit standing
      cases moved
      exact inv.gate standing
    · cases moved
  | send accepted =>
    simp only [WhipPublisher.step] at moved
    split at moved
    · rename_i unit standing
      cases moved
      have resumed := inv.resumed (by simp [standing, Worker.serving])
      refine inv.idle_of_moves
        (send_refines accepted standing (inv.opened unit standing) resumed counted) rfl ?_ ?_
      · cases accepted <;> simp [Feed.units, view, standing, Worker.hand, Hand.toList]
      · cases accepted <;> rfl
    · cases moved
  | retry =>
    obtain ⟨standing, ⟨⟩⟩ := Option.ite_none_right_eq_some.1 moved
    cases s.stopping <;>
      exact inv.idle_of_view (by simp [view, standing, Worker.inLoop, Worker.hand]) rfl rfl

/-- **The track gets a gap-free stream.** In every interleaving in which no push overflows the
queue behind an unread keyframe, each delta sent was accepted right after the unit sent just
before it. -/
theorem sent_gap_free {enabled : Bool} {s : State}
    (run : Runs step Undisturbed (init enabled) s) :
    GapFree EncodedAccessUnit.keyframe s.sent ∧ Recorded s.published s.sent := by
  have inv : Inv s := run.invariant (inv_init enabled) fun _ _ _ inv guard moved =>
    inv.step guard moved
  refine ⟨inv.feed.gapFree, inv.recorded.subset ?_⟩
  intro unit member
  simp [Feed.units, view, member]

/-- One turn of the media loop on an open track, from its head to the popped unit. -/
def turn : List Action := [.loop, .reconnect 0, .probe true, .pop]

def deltas (n : Nat) : List Action := (List.replicate n [.call {}, .push 0]).flatten

/-- A keyframe and seven deltas fill the queue, the session starts and pops the keyframe. -/
def filled : List Action :=
  [.call { keyframe := true }, .push 0] ++ deltas 7 ++ [.session 0] ++ turn

/-- An overflow behind a sent keyframe closes the gate: the delta left over is skipped. -/
theorem sent_gap_free_overflow : ∃ s : State, s.queue.stats.dropped = 1 ∧
    s.sent.map (·.stamp) = [0] ∧
    GapFree EncodedAccessUnit.keyframe s.sent ∧ Recorded s.published s.sent := by
  obtain ⟨s, run, dropped, sent⟩ : ∃ s, Runs step Undisturbed (init true) s ∧
      s.queue.stats.dropped = 1 ∧ s.sent.map (·.stamp) = [0] :=
    Runs.exists_of_play (filled ++ [.gate, .send true] ++ deltas 2 ++ turn ++ [.gate])
      (by decide +kernel) (by decide +kernel)
  exact ⟨s, dropped, sent, sent_gap_free run⟩

/-- The overflow that the guard excludes: two pushes between the pop of the keyframe and its
drop count lose the delta after it, and the one after that is sent. -/
theorem overflow_behind_keyframe : ∃ s, Runs step Free (init true) s ∧
    ¬ GapFree EncodedAccessUnit.keyframe s.sent :=
  Runs.exists_of_play (filled ++ deltas 2 ++ [.gate, .send true] ++ turn ++ [.gate, .send true])
    (by decide +kernel) (Meets.free _ _)

end SkaiEdge.WebRtc.WhipPublisher
