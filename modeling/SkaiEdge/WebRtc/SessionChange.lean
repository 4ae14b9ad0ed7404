import SkaiEdge.WebRtc.WhepDelivery

/-!
# What the steps of `WebRtcManager` do to one session

`Change` lists what any step of the manager or of its sessions does to a session. Whatever the
order of such changes, a session that is not registered is closed or somebody is about to close
it, and once `close_with_reason` has started nothing starts its media worker: `activate_media`
refuses, and a worker that was being created held the close up.
-/

namespace SkaiEdge.WebRtc.WebRtcManager

open SkaiEdge.Lib SkaiEdge.Core SkaiEdge.Video WebRtcSession

variable {s : State} {p q : Peer} {handle : Nat}

/-! ## One session -/

/-- `x` went on to `y`: what was closed stays closed, and no worker appears that had not been
started. -/
structure Outlives (x y : WebRtcSession) : Prop where
  sameId : y.id = x.id
  cleanup : x.cleanupStarted = true → y.cleanupStarted = true
  closed : x.closed = true → y.closed = true
  idle : x.cleanupStarted = true → x.worker = .absent → y.worker = .absent

theorem Outlives.refl (x : WebRtcSession) : Outlives x x :=
  ⟨rfl, id, id, fun _ absent => absent⟩

theorem Outlives.trans {x y z : WebRtcSession} (first : Outlives x y) (second : Outlives y z) :
    Outlives x z where
  sameId := second.sameId.trans first.sameId
  cleanup := fun started => second.cleanup (first.cleanup started)
  closed := fun closed => second.closed (first.closed closed)
  idle := fun started absent => second.idle (first.cleanup started) (first.idle started absent)

/-- What the session's own steps keep: they start no worker. -/
structure SelfStep (x y : WebRtcSession) : Prop where
  sameId : y.id = x.id
  cleanup : y.cleanupStarted = x.cleanupStarted
  closed : x.closed = true → y.closed = true
  running : y.mediaRunning = true → x.mediaRunning = true
  starting : y.worker = .starting ↔ x.worker = .starting
  absent : y.worker = .absent ↔ x.worker = .absent

theorem selfStep_recordFailure (x : WebRtcSession) (stage : String) (preserveSpecific : Bool) :
    SelfStep x (x.recordFailure stage preserveSpecific) := by
  obtain ⟨stage', failed', same⟩ := recordFailure_eq x stage preserveSpecific
  rw [same]
  exact ⟨rfl, rfl, id, id, Iff.rfl, Iff.rfl⟩

theorem selfStep {x y : WebRtcSession} {a : WebRtcSession.Action} (moved : x.step a = some y) :
    SelfStep x y := by
  cases a with
  | peerConnected | peerFailed | iceFailed | trackOpens | trackCloses =>
    cases moved
    exact ⟨rfl, rfl, id, id, Iff.rfl, Iff.rfl⟩
  | peerClosed =>
    cases moved
    exact ⟨rfl, rfl, fun _ => rfl, id, Iff.rfl, Iff.rfl⟩
  | trackError =>
    cases moved
    exact selfStep_recordFailure x "media" false
  | shutdownQueue =>
    obtain ⟨_, ⟨⟩⟩ := Option.ite_none_right_eq_some.1 moved
    exact ⟨rfl, rfl, id, id, Iff.rfl, Iff.rfl⟩
  | loop =>
    obtain ⟨standing, ⟨⟩⟩ := Option.ite_none_right_eq_some.1 moved
    refine ⟨rfl, rfl, id, id, ?_, ?_⟩ <;> dsimp only <;> split <;> simp [standing]
  | pop =>
    obtain ⟨standing, ⟨⟩⟩ := Option.ite_none_right_eq_some.1 moved
    rcases pop_cases x with ⟨_, same⟩ | ⟨_, _, _, same⟩
    · rw [same]
      exact ⟨rfl, rfl, id, id, by simp [standing], by simp [standing]⟩
    · rw [same]
      exact ⟨rfl, rfl, id, id, by simp [standing], by simp [standing]⟩
  | gate =>
    simp only [WebRtcSession.step] at moved
    split at moved
    · next unit standing =>
      cases moved
      rcases gate_cases x unit with same | ⟨_, _, same⟩
      · rw [same]
        exact ⟨rfl, rfl, id, id, by simp [standing], by simp [standing]⟩
      · rw [same]
        exact ⟨rfl, rfl, id, id, by simp [standing], by simp [standing]⟩
    · cases moved
  | poll =>
    simp only [WebRtcSession.step] at moved
    split at moved
    · next unit standing =>
      cases moved
      refine ⟨rfl, rfl, id, id, ?_, ?_⟩ <;> dsimp only <;> split <;> simp [standing]
    · cases moved
  | check =>
    simp only [WebRtcSession.step] at moved
    split at moved
    · next unit standing =>
      cases moved
      unfold WebRtcSession.check
      split
      · exact ⟨rfl, rfl, id, id, by simp [standing], by simp [standing]⟩
      · exact ⟨rfl, rfl, id, id, by simp [standing], by simp [standing]⟩
    · cases moved
  | send accepted =>
    simp only [WebRtcSession.step] at moved
    split at moved
    · next unit standing =>
      cases moved
      cases accepted with
      | true => exact ⟨rfl, rfl, id, id, by simp [send, standing], by simp [send, standing]⟩
      | false =>
        obtain ⟨stage', failed', same⟩ :=
          recordFailure_eq { x with sent := x.sent ++ [unit], worker := .top } "media" false
        simp only [send, Bool.false_eq_true, if_false, same]
        exact ⟨rfl, rfl, id, by simp, by simp [standing], by simp [standing]⟩
    · cases moved

theorem SelfStep.outlives {x y : WebRtcSession} (own : SelfStep x y) : Outlives x y where
  sameId := own.sameId
  cleanup := fun started => own.cleanup.trans started
  closed := own.closed
  idle := fun _ absent => own.absent.2 absent

/-! ## One session and the calls on it -/

def Call.spawns : Call → Bool
  | .spawning _ => true
  | _ => false

/-- An offer that failed has an error to return, an accepted one has none. -/
def Call.Proper : Call → Prop
  | .failing result => result.error ≠ .none
  | .answered result | .activating result _ | .spawning result => result.error = .none
  | _ => True

/-- What holds of a session in every state. -/
structure Sound (p : Peer) : Prop where
  leaving : p.registered = false → p.session.cleanupStarted = true ∨ p.closers ≠ []
  ended : p.session.cleanupStarted = true →
    p.session.closed = true ∧ p.session.mediaRunning = false ∧ p.session.worker ≠ .starting
  spawning : p.session.worker = .starting ↔ p.call.spawns = true
  proper : p.call.Proper

/-- **What a step of the manager does to one session**, the sessions behind a step being
changed one after the other. -/
inductive Change : Peer → Peer → Prop where
  | same (p : Peer) : Change p p
  | turn (p : Peer) (turn : Turn) : Change p { p with turn := turn }
  | retire (p : Peer) (reason : String) : Change p (p.retire reason)
  | blame (p : Peer) : Change p { p with session := p.session.recordFailure "signaling" true }
  | returns {p : Peer} (result : CreateSessionResult) :
    (p.call = .failing result ∨ p.call = .refused) → Change p { p with call := .returned result }
  | moved {p q : Peer} {s : State} {handle : Nat} (a : PeerAction) :
    peerStep s handle p a = some q → Change p q
  | trans {p q r : Peer} : Change p q → Change q r → Change p r

theorem Change.registered (change : Change p q) :
    q.registered = true → p.registered = true := by
  induction change with
  | same | turn | blame | returns => exact id
  | retire => exact nofun
  | moved a stepped => rw [(peerStep_frame stepped).1]; exact id
  | trans _ _ first second => exact fun on => first (second on)

theorem Change.gone (change : Change p q) (gone : p.registered = false) : q.registered = false := by
  cases registered : q.registered with
  | false => rfl
  | true =>
    rw [change.registered registered] at gone
    cases gone

theorem Sound.of_self {y : WebRtcSession} (sound : Sound p) (own : SelfStep p.session y) :
    Sound { p with session := y } where
  leaving := fun gone => (sound.leaving gone).imp_left own.cleanup.trans
  ended := by
    intro started
    obtain ⟨closed, stopped, settled⟩ := sound.ended (own.cleanup.symm.trans started)
    refine ⟨own.closed closed, ?_, fun starting => settled (own.starting.1 starting)⟩
    cases running : y.mediaRunning with
    | false => rfl
    | true => exact absurd (own.running running) (by simp [stopped])
  spawning := own.starting.trans sound.spawning
  proper := sound.proper

/-- A worker that is being created keeps the session from being closed. -/
theorem Sound.unclosed (sound : Sound p) (starting : p.session.worker = .starting) :
    p.session.cleanupStarted = false := by
  cases started : p.session.cleanupStarted with
  | false => rfl
  | true => exact absurd starting (sound.ended started).2.2

/-- A call that creates no worker may be replaced by another one. -/
theorem Sound.recall (sound : Sound p) {call : Call} (before : p.call.spawns = false)
    (after : call.spawns = false) (proper : call.Proper) : Sound { p with call := call } where
  leaving := sound.leaving
  ended := sound.ended
  spawning := by
    rw [sound.spawning, before, after]
  proper := proper

theorem closeWithReason_ended (x : WebRtcSession) (reason : String)
    (ended : x.cleanupStarted = true → x.closed = true ∧ x.mediaRunning = false) :
    (x.closeWithReason reason).cleanupStarted = true ∧ (x.closeWithReason reason).closed = true ∧
      (x.closeWithReason reason).mediaRunning = false ∧
      (x.closeWithReason reason).worker = x.worker ∧ (x.closeWithReason reason).id = x.id := by
  unfold closeWithReason
  split
  · next started => exact ⟨started, (ended started).1, (ended started).2, rfl, rfl⟩
  · exact ⟨rfl, rfl, rfl, rfl, rfl⟩

theorem activateMedia_cases {x y : WebRtcSession}
    {initialKeyframe : Option (Stamped EncodedAccessUnit)}
    (started : x.activateMedia initialKeyframe = some y) :
    x.closed = false ∧ x.cleanupStarted = false ∧ y.cleanupStarted = false ∧ y.id = x.id ∧
      y.worker = .starting := by
  unfold activateMedia at started
  obtain ⟨opened, ⟨⟩⟩ := Option.ite_none_left_eq_some.1 started
  simp only [Bool.or_eq_true, not_or, Bool.not_eq_true] at opened
  exact ⟨opened.1, opened.2, opened.2, rfl, rfl⟩

/-- A move on a session keeps it sound, and what is closed closed. -/
theorem peerStep_sound {a : PeerAction} (sound : Sound p)
    (stepped : peerStep s handle p a = some q) :
    Sound q ∧ Outlives p.session q.session := by
  cases a with
  | accept now outcome =>
    obtain ⟨standing, stepped⟩ := Option.ite_none_right_eq_some.1 stepped
    have early : p.call.spawns = false := by rw [standing]; rfl
    split at stepped
    · next accepted =>
      obtain ⟨y, answered, rfl⟩ := Option.map_eq_some_iff.1 stepped
      unfold WebRtcSession.answer at answered
      obtain ⟨_, ⟨⟩⟩ := Option.ite_none_left_eq_some.1 answered
      have own : SelfStep p.session { p.session with
          answerReady := true, connectionWaitStarted := now } :=
        ⟨rfl, rfl, fun closed => closed, fun on => on, Iff.rfl, Iff.rfl⟩
      exact ⟨(sound.of_self own).recall early rfl accepted, own.outlives⟩
    · next failed =>
      cases stepped
      exact ⟨sound.recall early rfl failed, .refl _⟩
  | capture =>
    simp only [peerStep] at stepped
    split at stepped
    · next result standing =>
      cases stepped
      have early : p.call.spawns = false := by rw [standing]; rfl
      have accepted : result.error = .none := by
        have proper := sound.proper
        rw [standing] at proper
        exact proper
      unfold capture
      split
      · have recalled : Sound { p with call := .returned shuttingDown } :=
          sound.recall early rfl trivial
        exact ⟨{ recalled with leaving := fun _ => .inr (by simp) }, .refl _⟩
      · exact ⟨sound.recall early rfl accepted, .refl _⟩
    · cases stepped
  | activate =>
    simp only [peerStep] at stepped
    split at stepped
    · next result initialKeyframe standing =>
      have early : p.call.spawns = false := by rw [standing]; rfl
      have accepted : result.error = .none := by
        have proper := sound.proper
        rw [standing] at proper
        exact proper
      split at stepped
      · cases stepped
        exact ⟨sound.recall early rfl trivial, .refl _⟩
      · next y activated =>
        cases stepped
        obtain ⟨closed, started, started', sameId, starting⟩ := activateMedia_cases activated
        constructor
        · refine ⟨?_, ?_, ?_, accepted⟩
          · intro gone
            exact (sound.leaving gone).imp_left fun on => absurd on (by simp [started])
          · intro on
            exact absurd on (by simp [started'])
          · exact ⟨fun _ => rfl, fun _ => starting⟩
        · refine ⟨sameId, ?_, ?_, ?_⟩
          · intro on
            exact absurd on (by simp [started])
          · intro on
            exact absurd on (by simp [closed])
          · intro on
            exact absurd on (by simp [started])
    · cases stepped
  | spawn begun =>
    simp only [peerStep] at stepped
    split at stepped
    · next result standing =>
      cases stepped
      have starting : p.session.worker = .starting := sound.spawning.2 (by rw [standing]; rfl)
      have started := sound.unclosed starting
      cases begun with
      | true =>
        constructor
        · exact ⟨sound.leaving, fun on => absurd on (by simp [WebRtcSession.spawn, started]),
            by simp [WebRtcSession.spawn, Call.spawns], trivial⟩
        · exact ⟨rfl, fun on => on, fun closed => closed, fun on => absurd on (by simp [started])⟩
      | false =>
        constructor
        · exact ⟨sound.leaving, fun on => absurd on (by simp [WebRtcSession.spawn, started]),
            by simp [WebRtcSession.spawn, Call.spawns], trivial⟩
        · exact ⟨rfl, fun on => on, fun closed => closed, fun on => absurd on (by simp [started])⟩
    · cases stepped
  | enqueueCheck =>
    obtain ⟨_, ⟨⟩⟩ := Option.ite_none_right_eq_some.1 stepped
    exact ⟨⟨sound.leaving, sound.ended, sound.spawning, sound.proper⟩, .refl _⟩
  | enqueuePush =>
    obtain ⟨_, stepped⟩ := Option.ite_none_right_eq_some.1 stepped
    obtain ⟨unit, _, rfl⟩ := Option.map_eq_some_iff.1 stepped
    exact ⟨⟨sound.leaving, sound.ended, sound.spawning, sound.proper⟩,
      ⟨rfl, fun started => started, fun closed => closed, fun _ absent => absent⟩⟩
  | close index =>
    obtain ⟨settled, stepped⟩ := Option.ite_none_left_eq_some.1 stepped
    obtain ⟨reason, _, rfl⟩ := Option.map_eq_some_iff.1 stepped
    obtain ⟨started, closed, stopped, worker, sameId⟩ := closeWithReason_ended p.session reason
      fun on => ⟨(sound.ended on).1, (sound.ended on).2.1⟩
    constructor
    · refine ⟨fun _ => .inl started, fun _ => ⟨closed, stopped, ?_⟩, ?_, sound.proper⟩
      · rw [worker]
        exact settled
      · rw [worker]
        exact sound.spawning
    · exact ⟨sameId, fun _ => started, fun _ => closed, fun _ absent => worker.trans absent⟩
  | session action =>
    obtain ⟨y, moved, rfl⟩ := Option.map_eq_some_iff.1 stepped
    have own := selfStep moved
    exact ⟨sound.of_self own, own.outlives⟩

theorem Change.sound (change : Change p q) (sound : Sound p) :
    Sound q ∧ Outlives p.session q.session := by
  induction change with
  | same => exact ⟨sound, .refl _⟩
  | turn => exact ⟨⟨sound.leaving, sound.ended, sound.spawning, sound.proper⟩, .refl _⟩
  | retire p reason =>
    have owed : (p.retire reason).closers ≠ [] := by simp [Peer.retire]
    exact ⟨⟨fun _ => .inr owed, sound.ended, sound.spawning, sound.proper⟩, .refl _⟩
  | blame p =>
    have own := selfStep_recordFailure p.session "signaling" true
    exact ⟨sound.of_self own, own.outlives⟩
  | returns result standing =>
    refine ⟨sound.recall ?_ rfl trivial, .refl _⟩
    rcases standing with failing | refused
    · rw [failing]
      rfl
    · rw [refused]
      rfl
  | moved a stepped => exact peerStep_sound sound stepped
  | trans _ _ first second =>
    obtain ⟨between, outlives⟩ := first sound
    obtain ⟨after, outlives'⟩ := second between
    exact ⟨after, outlives.trans outlives'⟩

end SkaiEdge.WebRtc.WebRtcManager
