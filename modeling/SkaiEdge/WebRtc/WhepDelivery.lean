import SkaiEdge.WebRtc.WhepFeed
import SkaiEdge.WebRtc.WebRtcManager

/-!
# What the WHEP peers are sent

`publish_access_unit` copies `sessions_` under the manager's lock and feeds the copies outside
it, so a session that runs while it is registered gets every unit in order (`Served`): between
two calls its feed stands at the end of `published`, during a call at the unit in flight or
behind it. What the code does not order is the start of a session: `create_session` captures
the cached keyframe and hands it to `activate_media` whatever was published in between, or
even before. `Calm` asks for a fresh keyframe there, excludes the overflow between a keyframe's pop and
the drop count read after it, and a track that opens again. Under it every peer is sent a
gap-free stream in every interleaving (`peer_gap_free`); the cached keyframe alone breaks it
(`stale_keyframe_activated`).
-/

namespace SkaiEdge.WebRtc.WebRtcManager

open SkaiEdge.Lib SkaiEdge.Core SkaiEdge.Video WebRtcSession

/-- The keyframe a `create_session` call has captured. -/
def Call.initialKeyframe : Call → Option (Stamped EncodedAccessUnit)
  | .activating _ initialKeyframe => initialKeyframe
  | _ => none

/-- The session of this call has not been activated. -/
def Call.early : Call → Bool
  | .accepting | .failing _ | .answered _ | .activating _ _ => true
  | _ => false

/-- The next unit to reach the session follows the captured keyframe: nothing was published
after it, or only the unit that is about to be enqueued, right after it or itself a keyframe. -/
def Fresh (s : State) (p : Peer) (k : Stamped EncodedAccessUnit) : Prop :=
  if p.turn = .owed then ∀ unit ∈ s.inFlight, unit.val.keyframe = true ∨ unit.stamp = k.stamp + 1
  else k.stamp + 1 = s.published.length

/-- A move on a session that reaches none of the three gaps. -/
def CalmAt (s : State) (p : Peer) : PeerAction → Prop
  | .activate => p.session.closed = false → p.session.cleanupStarted = false →
      ∀ k ∈ p.call.initialKeyframe, Fresh s p k
  | .enqueuePush => p.session.mediaQueue.isShutdown = false → p.session.mediaQueue.full = true →
      ∀ unit ∈ p.session.worker.unread, unit.val.keyframe = false
  | .session action => action = .trackOpens → p.session.track ≠ .closed
  | _ => True

def Calm (s : State) : Action → Prop
  | .peer handle action => ∀ p ∈ s.peers[handle]?, CalmAt s p action
  | _ => True

instance (s : State) (p : Peer) (k : Stamped EncodedAccessUnit) : Decidable (Fresh s p k) := by
  unfold Fresh
  infer_instance

instance (s : State) (p : Peer) : DecidablePred (CalmAt s p) := fun a =>
  match a with
  | .activate => inferInstanceAs (Decidable (_ → _ → ∀ k ∈ p.call.initialKeyframe, Fresh s p k))
  | .enqueuePush => inferInstanceAs (Decidable (_ → _ → ∀ unit ∈ p.session.worker.unread, _ = false))
  | .session action => inferInstanceAs (Decidable (action = .trackOpens → p.session.track ≠ .closed))
  | .accept _ _ | .capture | .spawn _ | .enqueueCheck | .close _ => .isTrue trivial

instance (s : State) : DecidablePred (Calm s) := fun a =>
  match a with
  | .peer handle action => inferInstanceAs (Decidable (∀ p ∈ s.peers[handle]?, CalmAt s p action))
  | .shutdown _ | .clear | .enable | .setMediaAvailable _ _ | .publish _ | .publishReturns
  | .register _ _ _ | .closeSession _ | .sweep _ _ | .failed _ | .retreat _ => .isTrue trivial

/-- Where a session's feed stands in the published stream. -/
structure Served (s : State) (p : Peer) (next : Nat) : Prop where
  fed : Fed s.published p.session next
  owed : p.turn = .owed → p.session.mediaRunning = true →
    ∀ unit ∈ s.inFlight, unit.val.keyframe = true ∨ unit.stamp = next
  checked : p.turn = .checked → ∀ unit ∈ s.inFlight, unit.val.keyframe = true ∨ unit.stamp = next
  rest : p.turn = .rest → p.registered = true → s.accepting = true →
    p.session.mediaRunning = true → next = s.published.length
  early : p.call.early = true →
    p.session.worker = .absent ∧ p.session.mediaRunning = false ∧ p.turn ≠ .checked
  spawning : ∀ result, p.call = .spawning result → p.session.worker = .starting
  captured : Recorded s.published p.call.initialKeyframe.toList

structure Inv (s : State) : Prop where
  served : ∀ p ∈ s.peers, ∃ next, Served s p next
  offline : s.mediaAvailable = false → ∀ p ∈ s.peers, p.registered = false
  stopped : s.lifecycle ≠ .idle → s.enabled = false
  cleared : ∀ config, s.lifecycle = .cleared config → ∀ p ∈ s.peers, p.registered = false
  cached : Recorded s.published s.latestKeyframe.toList
  flying : ∀ unit ∈ s.inFlight,
    unit.stamp + 1 = s.published.length ∧ s.published[unit.stamp]? = some unit.val
  quiet : s.inFlight = none → ∀ p ∈ s.peers, p.turn = .rest

theorem inv_init (staleTimeout : Nat) : Inv (init staleTimeout) where
  served := by simp [init]
  offline := by simp [init]
  stopped := by simp [init]
  cleared := by simp [init]
  cached := .nil
  flying := by simp [init]
  quiet := by simp [init]

section Served

variable {s s' : State} {p : Peer} {next handle : Nat}

/-- The manager's other fields do not matter to a session, unless it is served again. -/
theorem Served.of_state (served : Served s p next) (log : s'.published = s.published)
    (flight : s'.inFlight = s.inFlight)
    (accepts : p.registered = true → s'.accepting = true → s.accepting = true) : Served s' p next where
  fed := log ▸ served.fed
  owed := flight ▸ served.owed
  checked := flight ▸ served.checked
  rest := by
    intro rest registered accepting running
    rw [log]
    exact served.rest rest registered (accepts registered accepting) running
  early := served.early
  spawning := served.spawning
  captured := log ▸ served.captured

theorem Served.retire (served : Served s p next) (reason : String) :
    Served s (p.retire reason) next :=
  { served with rest := nofun }

/-- A call that has returned asks nothing more. -/
theorem Served.ended (served : Served s p next) (call : Call) (late : call.early = false)
    (settled : ∀ result, call ≠ .spawning result) (closers : List String) :
    Served s { p with call := call, closers := closers } next :=
  { served with
    early := fun early => absurd (late.symm.trans early) nofun
    spawning := fun result same => absurd same (settled result)
    captured := by
      have none : call.initialKeyframe = none := by
        cases call <;> simp_all [Call.early, Call.initialKeyframe]
      rw [none]
      exact .nil }

theorem Served.of_session {y : WebRtcSession} (served : Served s p next)
    (fed : Fed s.published y next)
    (running : y.mediaRunning = true → p.session.mediaRunning = true)
    (worker : p.session.worker = .absent ∨ p.session.worker = .starting →
      y.worker = p.session.worker) : Served s { p with session := y } next where
  fed := fed
  owed := fun owed on => served.owed owed (running on)
  checked := served.checked
  rest := fun rest registered accepting on => served.rest rest registered accepting (running on)
  early := by
    intro early
    obtain ⟨absent, stopped, unchecked⟩ := served.early early
    refine ⟨(worker (.inl absent)).trans absent, ?_, unchecked⟩
    exact Bool.eq_false_iff.2 fun on => by simp [running on] at stopped
  spawning := by
    intro result spawning
    have starting := served.spawning result spawning
    exact (worker (.inr starting)).trans starting
  captured := served.captured

theorem Served.accept {now : Nat} {outcome : CreateSessionResult} {q : Peer}
    (served : Served s p next) (moved : peerStep s handle p (.accept now outcome) = some q) :
    Served s q next := by
  obtain ⟨standing, moved⟩ := Option.ite_none_right_eq_some.1 moved
  have early := served.early (by simp [standing, Call.early])
  split at moved
  · obtain ⟨y, answered, rfl⟩ := Option.map_eq_some_iff.1 moved
    unfold WebRtcSession.answer at answered
    split at answered
    · cases answered
    · cases answered
      have placed := served.fed.placed
      have fed : Fed s.published
          { p.session with answerReady := true, connectionWaitStarted := now } next :=
        served.fed.of_view rfl
          ⟨placed.unborn, placed.opened, placed.settled, placed.down, placed.closing⟩
      exact { served with fed := fed, early := fun _ => early, spawning := nofun, captured := .nil }
  · cases moved
    exact { served with early := fun _ => early, spawning := nofun, captured := .nil }

theorem Served.capture {q : Peer} (served : Served s p next)
    (cached : Recorded s.published s.latestKeyframe.toList)
    (moved : peerStep s handle p .capture = some q) : Served s q next := by
  simp only [peerStep] at moved
  split at moved
  · rename_i result standing
    cases moved
    have early := served.early (by simp [standing, Call.early])
    unfold WebRtcManager.capture
    split
    · exact served.ended (.returned shuttingDown) rfl nofun _
    · exact { served with early := fun _ => early, spawning := nofun, captured := cached }
  · cases moved

/-- **Activation**: a fresh keyframe puts the feed where the next unit will come from. -/
theorem Served.activate {q : Peer} (served : Served s p next)
    (guard : CalmAt s p .activate) (moved : peerStep s handle p .activate = some q) :
    ∃ next', Served s q next' := by
  simp only [peerStep] at moved
  split at moved
  · rename_i result initialKeyframe standing
    obtain ⟨absent, stopped, unchecked⟩ := served.early (by simp [standing, Call.early])
    split at moved
    · cases moved
      exact ⟨next, served.ended .refused rfl (by simp) p.closers⟩
    · rename_i y activated
      cases moved
      have ready : p.session.closed = false ∧ p.session.cleanupStarted = false := by
        unfold activateMedia at activated
        split at activated
        · cases activated
        · simp_all
      have captured := served.captured
      rw [standing] at captured
      obtain ⟨next', behind, owed, rest⟩ : ∃ next',
          (∀ k ∈ initialKeyframe, k.stamp + 1 = next') ∧
          (p.turn = .owed → ∀ unit ∈ s.inFlight, unit.val.keyframe = true ∨ unit.stamp = next') ∧
          (p.turn = .rest → next' = s.published.length) := by
        cases initialKeyframe with
        | some k =>
          have fresh := guard ready.1 ready.2 k (by simp [standing, Call.initialKeyframe])
          unfold Fresh at fresh
          refine ⟨k.stamp + 1, by simp, ?_, ?_⟩
          · intro owed
            rw [if_pos owed] at fresh
            exact fresh
          · intro rest
            simpa [rest] using fresh
        | none =>
          cases flight : s.inFlight with
          | none => exact ⟨s.published.length, by simp, by simp, fun _ => rfl⟩
          | some unit =>
            by_cases owed : p.turn = .owed
            · exact ⟨unit.stamp, by simp, by simp, by simp [owed]⟩
            · exact ⟨s.published.length, by simp, by simp [owed], fun _ => rfl⟩
      obtain ⟨fed, starting, running⟩ :=
        served.fed.placed.activateMedia absent captured behind activated
      exact ⟨next', fed, fun turn _ => owed turn, fun turn => absurd turn unchecked,
        fun turn _ _ _ => rest turn, by simp [Call.early], fun _ _ => starting, .nil⟩
  · cases moved

theorem Served.spawn {started : Bool} {q : Peer} (served : Served s p next)
    (moved : peerStep s handle p (.spawn started) = some q) : Served s q next := by
  simp only [peerStep] at moved
  split at moved
  · rename_i result standing
    cases moved
    have fed := served.fed.spawn started (served.spawning result standing)
    have running : (p.session.spawn started).mediaRunning = true → p.session.mediaRunning = true := by
      cases started with
      | true => exact fun on => on
      | false => exact nofun
    exact ⟨fed, fun owed on => served.owed owed (running on), served.checked,
      fun rest registered accepting on => served.rest rest registered accepting (running on),
      by cases started <;> exact nofun, by cases started <;> exact nofun, by cases started <;> exact .nil⟩
  · cases moved

theorem Served.enqueueCheck {q : Peer} (served : Served s p next)
    (moved : peerStep s handle p .enqueueCheck = some q) : Served s q next := by
  obtain ⟨standing, ⟨⟩⟩ := Option.ite_none_right_eq_some.1 moved
  cases running : p.session.mediaRunning with
  | true =>
    refine { served with owed := nofun, checked := ?_, rest := nofun, early := ?_ }
    · exact fun _ => served.owed standing running
    · intro early
      simp [(served.early early).2.1] at running
  | false =>
    refine { served with owed := nofun, checked := nofun, rest := ?_, early := ?_ }
    · intro _ _ _ on
      simp [running] at on
    · exact fun early => ⟨(served.early early).1, running, nofun⟩

/-- **The push** puts the feed behind the unit in flight. -/
theorem Served.enqueuePush {q : Peer} (served : Served s p next)
    (guard : CalmAt s p .enqueuePush)
    (flying : ∀ unit ∈ s.inFlight,
      unit.stamp + 1 = s.published.length ∧ s.published[unit.stamp]? = some unit.val)
    (moved : peerStep s handle p .enqueuePush = some q) : ∃ next', Served s q next' := by
  obtain ⟨standing, moved⟩ := Option.ite_none_right_eq_some.1 moved
  obtain ⟨unit, flight, rfl⟩ := Option.map_eq_some_iff.1 moved
  obtain ⟨last, known⟩ := flying unit flight
  obtain ⟨next', fed, moved'⟩ := served.fed.enqueue (served.checked standing unit flight) known guard
  refine ⟨next', fed, nofun, nofun, ?_, ?_, served.spawning, served.captured⟩
  · intro _ _ _ running
    have up : p.session.mediaQueue.isShutdown = false := by
      refine Bool.eq_false_iff.2 fun down => ?_
      have stopped := served.fed.placed.down down
      exact absurd (stopped.symm.trans running) nofun
    rw [moved' up, last]
  · exact fun early => absurd standing (served.early early).2.2

/-- **Every calm move on a session keeps it served.** -/
theorem Served.step {a : PeerAction} {q : Peer} (served : Served s p next)
    (guard : CalmAt s p a) (cached : Recorded s.published s.latestKeyframe.toList)
    (flying : ∀ unit ∈ s.inFlight,
      unit.stamp + 1 = s.published.length ∧ s.published[unit.stamp]? = some unit.val)
    (moved : peerStep s handle p a = some q) : ∃ next', Served s q next' := by
  cases a with
  | accept now outcome => exact ⟨next, served.accept moved⟩
  | capture => exact ⟨next, served.capture cached moved⟩
  | activate => exact served.activate guard moved
  | spawn started => exact ⟨next, served.spawn moved⟩
  | enqueueCheck => exact ⟨next, served.enqueueCheck moved⟩
  | enqueuePush => exact served.enqueuePush guard flying moved
  | close index =>
    obtain ⟨_, moved⟩ := Option.ite_none_left_eq_some.1 moved
    obtain ⟨reason, _, rfl⟩ := Option.map_eq_some_iff.1 moved
    have closed := served.of_session (served.fed.closeWithReason reason) ?_ ?_
    · exact ⟨next, { closed with }⟩
    · unfold closeWithReason
      split
      · exact fun on => on
      · exact nofun
    · intro _
      unfold closeWithReason
      split <;> rfl
  | session action =>
    obtain ⟨y, moved', rfl⟩ := Option.map_eq_some_iff.1 moved
    obtain ⟨fed, running, worker⟩ := served.fed.step guard moved'
    exact ⟨next, served.of_session fed running worker⟩

end Served

/-- A move on a session neither registers it nor puts it in the publisher's way. -/
theorem peerStep_frame {s : State} {p q : Peer} {handle : Nat} {a : PeerAction}
    (moved : peerStep s handle p a = some q) :
    q.registered = p.registered ∧ (p.turn = .rest → q.turn = .rest) := by
  cases a with
  | accept now outcome =>
    obtain ⟨_, moved⟩ := Option.ite_none_right_eq_some.1 moved
    split at moved
    · obtain ⟨y, _, rfl⟩ := Option.map_eq_some_iff.1 moved
      exact ⟨rfl, fun rest => rest⟩
    · cases moved
      exact ⟨rfl, fun rest => rest⟩
  | capture =>
    simp only [peerStep] at moved
    split at moved
    · cases moved
      unfold capture
      split <;> exact ⟨rfl, fun rest => rest⟩
    · cases moved
  | activate =>
    simp only [peerStep] at moved
    split at moved
    · split at moved <;> cases moved <;> exact ⟨rfl, fun rest => rest⟩
    · cases moved
  | spawn started =>
    simp only [peerStep] at moved
    split at moved
    · cases moved
      exact ⟨rfl, fun rest => rest⟩
    · cases moved
  | enqueueCheck =>
    obtain ⟨standing, ⟨⟩⟩ := Option.ite_none_right_eq_some.1 moved
    exact ⟨rfl, fun rest => by simp [rest] at standing⟩
  | enqueuePush =>
    obtain ⟨_, moved⟩ := Option.ite_none_right_eq_some.1 moved
    obtain ⟨unit, _, rfl⟩ := Option.map_eq_some_iff.1 moved
    exact ⟨rfl, fun _ => rfl⟩
  | close index =>
    obtain ⟨_, moved⟩ := Option.ite_none_left_eq_some.1 moved
    obtain ⟨reason, _, rfl⟩ := Option.map_eq_some_iff.1 moved
    exact ⟨rfl, fun rest => rest⟩
  | session action =>
    obtain ⟨y, _, rfl⟩ := Option.map_eq_some_iff.1 moved
    exact ⟨rfl, fun rest => rest⟩

/-- What a move that changes sessions one by one has to show. -/
structure Carries (s s' : State) (p q : Peer) : Prop where
  served : ∀ next, Served s p next → ∃ next', Served s' q next'
  registered : q.registered = true → p.registered = true
  turn : p.turn = .rest → q.turn = .rest

theorem Carries.refl {s s' : State} {p : Peer} (log : s'.published = s.published)
    (flight : s'.inFlight = s.inFlight) (accepts : s'.accepting = s.accepting) : Carries s s' p p where
  served := fun next served => ⟨next, served.of_state log flight fun _ on => accepts ▸ on⟩
  registered := fun on => on
  turn := fun rest => rest

/-- **A move inside `peers`** that keeps the manager's flags keeps the invariant. -/
theorem Inv.carry {s s' : State} (inv : Inv s)
    (carries : ∀ q ∈ s'.peers, ∃ p ∈ s.peers, Carries s s' p q)
    (log : s'.published = s.published) (flight : s'.inFlight = s.inFlight)
    (cached : s'.latestKeyframe = s.latestKeyframe) (media : s'.mediaAvailable = s.mediaAvailable)
    (lifecycle : s'.lifecycle = s.lifecycle) (enabled : s'.enabled = s.enabled) : Inv s' where
  served := by
    intro q member
    obtain ⟨p, old, carry⟩ := carries q member
    obtain ⟨next, served⟩ := inv.served p old
    exact carry.served next served
  offline := by
    intro off q member
    obtain ⟨p, old, carry⟩ := carries q member
    have gone := inv.offline (media ▸ off) p old
    exact Bool.eq_false_iff.2 fun on => by simp [carry.registered on] at gone
  stopped := by
    rw [lifecycle, enabled]
    exact inv.stopped
  cleared := by
    intro config standing q member
    obtain ⟨p, old, carry⟩ := carries q member
    have gone := inv.cleared config (lifecycle ▸ standing) p old
    exact Bool.eq_false_iff.2 fun on => by simp [carry.registered on] at gone
  cached := by
    rw [log, cached]
    exact inv.cached
  flying := by
    rw [log, flight]
    exact inv.flying
  quiet := by
    intro none q member
    obtain ⟨p, old, carry⟩ := carries q member
    exact carry.turn (inv.quiet (flight ▸ none) p old)

theorem mem_modify {α : Type*} {l : List α} {index : Nat} {f : α → α} {x : α}
    (member : x ∈ l.modify index f) : ∃ y ∈ l, x = y ∨ x = f y := by
  obtain ⟨i, found⟩ := List.mem_iff_getElem?.1 member
  rw [List.getElem?_modify] at found
  obtain ⟨y, old, rfl⟩ := Option.map_eq_some_iff.1 found
  refine ⟨y, List.mem_of_getElem? old, ?_⟩
  split
  · exact .inr rfl
  · exact .inl rfl

theorem Inv.unregister {s : State} (inv : Inv s) (reason : String) (handle : Nat) :
    Inv (unregister s reason handle) := by
  refine inv.carry ?_ rfl rfl rfl rfl rfl rfl
  intro q member
  obtain ⟨p, old, rfl | rfl⟩ := mem_modify member
  · exact ⟨q, old, .refl rfl rfl rfl⟩
  · refine ⟨p, old, ?_, nofun, fun rest => rest⟩
    intro next served
    exact ⟨next, (served.retire reason).of_state rfl rfl nofun⟩

theorem Inv.closeSession {s : State} (inv : Inv s) (id : String) : Inv (closeSession s id) := by
  unfold WebRtcManager.closeSession
  split
  · exact inv
  · exact inv.unregister _ _

/-- The call behind `handle` returns. -/
theorem Inv.returns {s : State} {p : Peer} {handle : Nat} (inv : Inv s) (errors : Nat)
    (result : CreateSessionResult) (found : s.peers[handle]? = some p) :
    Inv { s with
      signalingErrors := errors, peers := s.peers.set handle { p with call := .returned result } } := by
  refine inv.carry ?_ rfl rfl rfl rfl rfl rfl
  intro q member
  rcases List.mem_or_eq_of_mem_set member with old | rfl
  · exact ⟨q, old, .refl rfl rfl rfl⟩
  · refine ⟨p, List.mem_of_getElem? found, ?_, fun on => on, fun rest => rest⟩
    intro next served
    exact ⟨next, (served.ended (.returned result) rfl nofun p.closers).of_state rfl rfl fun _ on => on⟩

theorem Inv.failed {s v : State} {handle : Nat} (inv : Inv s) (moved : failed s handle = some v) :
    Inv v := by
  obtain ⟨p, found, moved⟩ := Option.bind_eq_some_iff.1 moved
  split at moved
  · rename_i result standing
    have returned := inv.returns (s.signalingErrors + 1) result found
    simp only at moved
    split at moved
    · cases moved
      exact returned
    · rename_i other _
      cases moved
      refine (returned.unregister "signaling_failure" other).carry ?_ rfl rfl rfl rfl rfl rfl
      intro q member
      obtain ⟨p', old, rfl | rfl⟩ := mem_modify member
      · exact ⟨q, old, .refl rfl rfl rfl⟩
      · refine ⟨p', old, ?_, fun on => on, fun rest => rest⟩
        intro next served
        obtain ⟨stage', failed', same⟩ := recordFailure_eq p'.session "signaling" true
        have recorded := served.of_session (served.fed.recordFailure "signaling" true)
          (by rw [same]; exact fun on => on) (by rw [same]; exact fun _ => rfl)
        exact ⟨next, recorded.of_state rfl rfl fun _ on => on⟩
  · cases moved

theorem Inv.retreat {s v : State} {handle : Nat} (inv : Inv s) (moved : retreat s handle = some v) :
    Inv v := by
  obtain ⟨p, found, moved⟩ := Option.bind_eq_some_iff.1 moved
  obtain ⟨_, ⟨⟩⟩ := Option.ite_none_right_eq_some.1 moved
  exact (inv.returns s.signalingErrors shuttingDown found).closeSession _

theorem Inv.sweep {s v : State} {handle now : Nat} (inv : Inv s)
    (moved : sweep s handle now = some v) : Inv v := by
  obtain ⟨p, _, rfl⟩ := Option.map_eq_some_iff.1 moved
  simp only
  split
  · exact inv.unregister _ _
  · exact inv

theorem Inv.peer {s v : State} {handle : Nat} {a : PeerAction} (inv : Inv s)
    (guard : Calm s (.peer handle a)) (moved : step s (.peer handle a) = some v) : Inv v := by
  obtain ⟨p, found, moved⟩ := Option.bind_eq_some_iff.1 moved
  obtain ⟨q, stepped, rfl⟩ := Option.map_eq_some_iff.1 moved
  obtain ⟨registered, turn⟩ := peerStep_frame stepped
  refine inv.carry ?_ rfl rfl rfl rfl rfl rfl
  intro q' member
  rcases List.mem_or_eq_of_mem_set member with old | rfl
  · exact ⟨q', old, .refl rfl rfl rfl⟩
  · refine ⟨p, List.mem_of_getElem? found, ?_, fun on => registered ▸ on, turn⟩
    intro next served
    obtain ⟨next', served'⟩ := served.step (guard p found) inv.cached inv.flying stepped
    exact ⟨next', served'.of_state rfl rfl fun _ on => on⟩

/-- Emptying `sessions_` leaves every session to its closers. -/
theorem Inv.unregisterAll {s : State} (inv : Inv s) (reason : String) :
    Inv (unregisterAll s reason) ∧ ∀ q ∈ (unregisterAll s reason).peers, q.registered = false := by
  have gone : ∀ q ∈ (WebRtcManager.unregisterAll s reason).peers, q.registered = false := by
    intro q member
    obtain ⟨p, _, rfl⟩ := List.mem_map.1 member
    cases registered : p.registered with
    | true => rfl
    | false => exact registered
  refine ⟨⟨?_, fun _ => gone, inv.stopped, fun _ _ => gone, .nil, inv.flying, ?_⟩, gone⟩
  · intro q member
    obtain ⟨p, old, rfl⟩ := List.mem_map.1 member
    obtain ⟨next, served⟩ := inv.served p old
    refine ⟨next, ?_⟩
    split
    · exact (served.retire reason).of_state rfl rfl nofun
    · exact served.of_state rfl rfl fun _ on => on
  · intro none q member
    obtain ⟨p, old, rfl⟩ := List.mem_map.1 member
    have rest := inv.quiet none p old
    split <;> exact rest

/-- With no session registered the manager's flags may change. -/
theorem Inv.reopen {s s' : State} (inv : Inv s) (gone : ∀ p ∈ s.peers, p.registered = false)
    (peers : s'.peers = s.peers) (log : s'.published = s.published)
    (flight : s'.inFlight = s.inFlight) (cached : s'.latestKeyframe = s.latestKeyframe)
    (stopped : s'.lifecycle ≠ .idle → s'.enabled = false) : Inv s' where
  served := by
    intro p member
    rw [peers] at member
    obtain ⟨next, served⟩ := inv.served p member
    exact ⟨next, served.of_state log flight fun registered => by simp [gone p member] at registered⟩
  offline := fun _ => peers ▸ gone
  stopped := stopped
  cleared := fun _ _ => peers ▸ gone
  cached := by
    rw [log, cached]
    exact inv.cached
  flying := by
    rw [log, flight]
    exact inv.flying
  quiet := by
    rw [flight, peers]
    exact inv.quiet

theorem Inv.setMediaAvailable {s : State} (inv : Inv s) (available : Bool) (reason : String) :
    Inv (setMediaAvailable s available reason) := by
  unfold WebRtcManager.setMediaAvailable
  cases available with
  | true =>
    simp only [↓reduceIte]
    split
    · exact inv
    · -- media comes back only from an empty registry, unless just the reason is cleared
      cases media : s.mediaAvailable with
      | true =>
        refine inv.carry (fun q member => ⟨q, member, .refl rfl rfl ?_⟩) rfl rfl rfl ?_ rfl rfl
        · simp [State.accepting, media]
        · exact media.symm
      | false => exact inv.reopen (inv.offline media) rfl rfl rfl rfl inv.stopped
  | false =>
    simp only [Bool.false_eq_true, ↓reduceIte]
    split
    · exact inv
    · obtain ⟨emptied, gone⟩ := inv.unregisterAll "source_media_unavailable"
      exact emptied.reopen gone rfl rfl rfl rfl inv.stopped

/-- The stream grows; the stamps stay. -/
theorem Served.publish {s : State} {p : Peer} {next : Nat} (served : Served s p next)
    (unit : EncodedAccessUnit) :
    Fed (s.published ++ [unit]) p.session next ∧
      Recorded (s.published ++ [unit]) p.call.initialKeyframe.toList :=
  ⟨⟨served.fed.placed, served.fed.feed, served.fed.recorded.publish unit fun _ old => .inr old⟩,
    served.captured.publish unit fun _ old => .inr old⟩

/-- **What `publish_access_unit` can do** under the lock. -/
theorem publish_cases (s : State) (unit : EncodedAccessUnit) :
    (s.accepting = true ∧ publish s unit = { s with
        published := s.published ++ [unit]
        latestKeyframe := if unit.keyframe then some ⟨s.published.length, unit⟩
          else if unit.discontinuity then none else s.latestKeyframe
        inFlight := some ⟨s.published.length, unit⟩
        peers := s.peers.map fun p => if p.registered then { p with turn := .owed } else p }) ∨
    (s.accepting = false ∧ publish s unit = { s with published := s.published ++ [unit] }) := by
  cases accepting : s.accepting with
  | true => exact .inl ⟨rfl, if_pos accepting⟩
  | false => exact .inr ⟨rfl, if_neg (by simpa [State.accepting] using accepting)⟩

/-- **Publishing**: a registered running session stands at the end of the stream, so the new
unit is its next one; a rejected unit finds no session that will be served again. -/
theorem Inv.publish {s : State} (inv : Inv s) (unit : EncodedAccessUnit) (free : s.inFlight = none) :
    Inv (publish s unit) := by
  have quiet := inv.quiet free
  have grown : Recorded (s.published ++ [unit]) s.latestKeyframe.toList :=
    inv.cached.publish unit fun _ old => .inr old
  rcases publish_cases s unit with ⟨accepting, after⟩ | ⟨rejected, after⟩
  · rw [after]
    refine ⟨?_, ?_, inv.stopped, ?_, ?_, by simp, by simp⟩
    · intro q member
      obtain ⟨p, old, rfl⟩ := List.mem_map.1 member
      obtain ⟨next, served⟩ := inv.served p old
      obtain ⟨fed, captured⟩ := served.publish unit
      refine ⟨next, ?_⟩
      cases registered : p.registered with
      | true =>
        refine ⟨fed, ?_, by simp, by simp, ?_, served.spawning, captured⟩
        · intro _ running u flight
          cases flight
          exact .inr (served.rest (quiet p old) registered accepting running).symm
        · intro early
          exact ⟨(served.early early).1, (served.early early).2.1, by simp⟩
      | false =>
        have rest := quiet p old
        exact ⟨fed, by simp [rest], by simp [rest], by simp [registered], served.early, served.spawning,
          captured⟩
    · intro (off : s.mediaAvailable = false)
      simp [State.accepting, off] at accepting
    · intro config standing
      have off := inv.stopped (by simp [show s.lifecycle = .cleared config from standing])
      simp [State.accepting, off] at accepting
    · split
      · intro u member
        simp only [Option.toList_some, List.mem_singleton] at member
        simp [member]
      · split
        · exact .nil
        · exact grown
  · rw [after]
    refine ⟨?_, inv.offline, inv.stopped, inv.cleared, grown, by simp [free], inv.quiet⟩
    intro p old
    obtain ⟨next, served⟩ := inv.served p old
    obtain ⟨fed, captured⟩ := served.publish unit
    have rest := quiet p old
    refine ⟨next, fed, by simp [rest], by simp [rest], ?_, served.early, served.spawning, captured⟩
    intro _ _ (on : s.accepting = true)
    simp [rejected] at on

/-- The publisher returns with nothing owed. -/
theorem Inv.publishReturns {s : State} (inv : Inv s) (rest : ∀ p ∈ s.peers, p.turn = .rest) :
    Inv { s with inFlight := none } := by
  refine { inv with served := ?_, flying := nofun, quiet := fun _ => rest }
  intro p member
  obtain ⟨next, served⟩ := inv.served p member
  exact ⟨next, { served with owed := by simp [rest p member], checked := by simp [rest p member] }⟩

/-- A new session is not fed before it is activated. -/
theorem Inv.register {s v : State} {id : String} {startTimestamp : UInt32} {built : Bool}
    (inv : Inv s) (moved : register s id startTimestamp built = some v) : Inv v := by
  have errors : Inv { s with signalingErrors := s.signalingErrors + 1 } :=
    inv.carry (fun q member => ⟨q, member, .refl rfl rfl rfl⟩) rfl rfl rfl rfl rfl rfl
  unfold WebRtcManager.register at moved
  split at moved
  · cases moved
    exact inv
  · rename_i admitted
    split at moved
    · cases moved
    · split at moved
      · rename_i positive
        split at moved
        · cases moved
          have admits : s.enabled = true ∧ s.mediaAvailable = true := by
            unfold refusal at admitted
            split at admitted
            · cases admitted
            · split at admitted
              · cases admitted
              · simp_all
          refine ⟨?_, ?_, inv.stopped, ?_, inv.cached, inv.flying, ?_⟩
          · intro q member
            rcases List.mem_append.1 member with old | new
            · obtain ⟨next, served⟩ := inv.served q old
              exact ⟨next, served.of_state rfl rfl fun _ on => on⟩
            · simp only [List.mem_singleton] at new
              subst new
              refine ⟨0, ⟨⟨fun _ => ⟨rfl, rfl, rfl⟩, nofun, nofun, nofun, nofun⟩, ?_, .nil⟩, nofun, nofun,
                nofun, fun _ => ⟨rfl, rfl, nofun⟩, nofun, .nil⟩
              exact ⟨.nil, .nil, Nat.le_refl _, nofun⟩
          · intro off
            simp [admits] at off
          · intro config standing
            have off := inv.stopped (by simp [show s.lifecycle = .cleared config from standing])
            simp [admits] at off
          · intro free q member
            rcases List.mem_append.1 member with old | new
            · exact inv.quiet free q old
            · simp only [List.mem_singleton] at new
              rw [new]
        · cases moved
          exact errors
      · cases moved
        exact errors

/-- **Every calm move keeps the invariant.** -/
theorem Inv.step {s v : State} {a : Action} (inv : Inv s) (guard : Calm s a)
    (moved : step s a = some v) : Inv v := by
  cases a with
  | shutdown next =>
    obtain ⟨_, ⟨⟩⟩ := Option.ite_none_right_eq_some.1 moved
    refine { inv with served := ?_, stopped := fun _ => rfl, cleared := nofun }
    intro p member
    obtain ⟨next, served⟩ := inv.served p member
    exact ⟨next, served.of_state rfl rfl nofun⟩
  | clear =>
    simp only [WebRtcManager.step] at moved
    split at moved
    · rename_i next standing
      cases moved
      obtain ⟨emptied, gone⟩ := inv.unregisterAll "service_shutdown"
      have stopped := inv.stopped (by simp [standing])
      exact emptied.reopen gone rfl rfl rfl rfl fun _ => stopped
    · cases moved
  | enable =>
    simp only [WebRtcManager.step] at moved
    split at moved
    · rename_i config standing
      cases moved
      exact inv.reopen (inv.cleared config standing) rfl rfl rfl rfl fun moving => absurd rfl moving
    · cases moved
  | setMediaAvailable available reason =>
    cases moved
    exact inv.setMediaAvailable available reason
  | publish unit =>
    obtain ⟨free, ⟨⟩⟩ := Option.ite_none_right_eq_some.1 moved
    exact inv.publish unit free
  | publishReturns =>
    obtain ⟨rest, ⟨⟩⟩ := Option.ite_none_right_eq_some.1 moved
    exact inv.publishReturns (by simpa using rest)
  | register id startTimestamp built => exact inv.register moved
  | closeSession id =>
    cases moved
    exact inv.closeSession id
  | sweep handle now => exact inv.sweep moved
  | failed handle => exact inv.failed moved
  | retreat handle => exact inv.retreat moved
  | peer handle action => exact inv.peer guard moved

/-- **Every peer gets a gap-free stream.** In every interleaving of calm moves, each delta sent
to a peer was published right after the unit sent to it just before. -/
theorem peer_gap_free {staleTimeout : Nat} {s : State}
    (run : Runs step Calm (init staleTimeout) s) :
    ∀ p ∈ s.peers, GapFree EncodedAccessUnit.keyframe p.session.sent ∧
      Recorded s.published p.session.sent := by
  intro p member
  have inv : Inv s := run.invariant (inv_init staleTimeout) fun _ _ _ inv guard moved =>
    inv.step guard moved
  obtain ⟨next, served⟩ := inv.served p member
  refine ⟨served.fed.feed.gapFree, served.fed.recorded.subset ?_⟩
  intro unit sent
  simp [Feed.units, feedOf, sent]

def configured : List Action := [.shutdown (some {}), .clear, .enable]

/-- One viewer joins and its track opens. -/
def joins : List Action :=
  .register "viewer" 0 true :: [.accept 0 { sessionId := "viewer" }, .capture, .activate, .spawn true,
    .session .trackOpens].map (.peer 0)

/-- A unit is published to the viewer, and the viewer's worker takes one turn. -/
def delivered (unit : EncodedAccessUnit) : List Action :=
  [.publish unit, .peer 0 .enqueueCheck, .peer 0 .enqueuePush, .publishReturns] ++
    [.loop, .pop, .gate, .poll, .check, .send true].map fun a => .peer 0 (.session a)

/-- A viewer that joins right behind a keyframe is sent the keyframe and the delta after it. -/
theorem peer_gap_free_joined : ∃ s : State, s.peers.map (·.session.sent.map (·.stamp)) = [[0, 1]] ∧
    ∀ p ∈ s.peers, GapFree EncodedAccessUnit.keyframe p.session.sent ∧
      Recorded s.published p.session.sent := by
  obtain ⟨s, run, sent⟩ : ∃ s, Runs step Calm (init 0) s ∧
      s.peers.map (·.session.sent.map (·.stamp)) = [[0, 1]] :=
    Runs.exists_of_play (configured ++ [.publish { keyframe := true }, .publishReturns] ++ joins ++
      delivered {} ++ delivered {}) (by decide +kernel) (by decide +kernel)
  exact ⟨s, sent, peer_gap_free run⟩

/-- A delta is published between the cached keyframe and the viewer's activation: the viewer is
sent the keyframe and then the delta after the one it missed. -/
theorem stale_keyframe_activated : ∃ s, Runs step Free (init 0) s ∧
    ∃ p ∈ s.peers, ¬ GapFree EncodedAccessUnit.keyframe p.session.sent :=
  Runs.exists_of_play (configured ++ [.publish { keyframe := true }, .publishReturns, .publish {},
    .publishReturns] ++ joins ++ delivered {} ++ delivered {}) (by decide +kernel) (Meets.free _ _)

end SkaiEdge.WebRtc.WebRtcManager
