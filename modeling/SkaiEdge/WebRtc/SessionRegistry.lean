import SkaiEdge.Lib.InPlace
import SkaiEdge.WebRtc.SessionChange

/-!
# The session registry of `WebRtcManager`

`create_session`, a client's `DELETE`, the stale sweep, the loss of the media and `shutdown` all
take sessions out of `sessions_`, each in a critical section of its own, and close them outside
it. `Registry` holds the counts and what the flags promise of `sessions_`; `Outcome` says how a
step may change the sessions and the `create_session` calls behind them; `Errors` follows the
calls that returned an error.
-/

namespace SkaiEdge.WebRtc.WebRtcManager

open SkaiEdge.Lib SkaiEdge.Core SkaiEdge.Video WebRtcSession

variable {s v : State} {p q : Peer} {handle : Nat}

/-! ## All sessions -/

/-- No two registered sessions have one id. -/
def Distinct (l : List Peer) : Prop :=
  ∀ (i j : Nat) (p q : Peer), l[i]? = some p → l[j]? = some q → p.registered = true →
    q.registered = true → p.session.id = q.session.id → i = j

theorem changed_sound {l l' : List Peer} (places : List.Forall₂ Change l l') (sound : ∀ p ∈ l, Sound p) :
    ∀ q ∈ l', Sound q := by
  intro q member
  obtain ⟨handle, found⟩ := List.mem_iff_getElem?.1 member
  obtain ⟨p, before, change⟩ := forall₂_back places found
  exact (change.sound (sound p (List.mem_of_getElem? before))).1

theorem changed_distinct {l l' : List Peer} (places : List.Forall₂ Change l l') (sound : ∀ p ∈ l, Sound p)
    (distinct : Distinct l) : Distinct l' := by
  intro i j p' q' first second on on' same
  obtain ⟨p, found, change⟩ := forall₂_back places first
  obtain ⟨q, found', change'⟩ := forall₂_back places second
  have id := (change.sound (sound p (List.mem_of_getElem? found))).2.sameId
  have id' := (change'.sound (sound q (List.mem_of_getElem? found'))).2.sameId
  apply distinct i j p q found found' (change.registered on) (change'.registered on')
  rw [← id, ← id', same]

/-! ## `sessions_.find` -/

theorem find_some {id : String} (found : find s id = some handle) :
    ∃ p, s.peers[handle]? = some p ∧ p.registered = true ∧ p.session.id = id := by
  unfold find at found
  obtain ⟨inside, here, _⟩ := List.findIdx?_eq_some_iff_getElem.1 found
  simp only [Bool.and_eq_true, beq_iff_eq] at here
  exact ⟨s.peers[handle], List.getElem?_eq_getElem inside, here.1, here.2⟩

theorem find_none {id : String} (missing : find s id = none) (member : p ∈ s.peers)
    (on : p.registered = true) : p.session.id ≠ id := by
  unfold find at missing
  have other := List.findIdx?_eq_none_iff.1 missing p member
  simpa [on] using other

/-- A registered session is found under its id. -/
theorem find_own (distinct : Distinct s.peers) (found : s.peers[handle]? = some p)
    (on : p.registered = true) : find s p.session.id = some handle := by
  cases searched : find s p.session.id with
  | none => exact absurd rfl (find_none searched (List.mem_of_getElem? found) on)
  | some other =>
    obtain ⟨q, there, on', same⟩ := find_some searched
    rw [distinct other handle q p there found on' on same]

/-! ## The counts -/

def flags (l : List Peer) : List Bool := l.map (·.registered)

theorem sessionCount_eq (s : State) : sessionCount s = (flags s.peers).count true := by
  rw [sessionCount, flags, List.count_eq_countP, List.countP_map]
  simp [Function.comp_def]

theorem sessionCount_of_flags (same : flags v.peers = flags s.peers) :
    sessionCount v = sessionCount s := by
  rw [sessionCount_eq, sessionCount_eq, same]

theorem sessionCount_unregister (found : s.peers[handle]? = some p) (on : p.registered = true)
    (reason : String) : sessionCount (unregister s reason handle) + 1 = sessionCount s := by
  have here : (flags s.peers)[handle]? = some true := by simp [flags, found, on]
  have flagged : flags (unregister s reason handle).peers = (flags s.peers).set handle false := by
    rw [unregister, modify_eq_set found, flags, List.map_set]
    rfl
  rw [sessionCount_eq, sessionCount_eq, flagged]
  exact count_set_balance here true

theorem sessionCount_unregisterAll (s : State) (reason : String) :
    sessionCount (unregisterAll s reason) = 0 := by
  rw [sessionCount, List.countP_eq_zero]
  intro q member
  obtain ⟨p, _, rfl⟩ := List.mem_map.1 member
  cases on : p.registered with
  | true => simp [Peer.retire]
  | false => simp [on]

/-! ## The registry -/

/-- `shutdown` is between its two critical sections. -/
def Lifecycle.stops : Lifecycle → Bool
  | .stopping _ => true
  | _ => false

/-- No session is registered and no keyframe cached. -/
structure Vacant (s : State) : Prop where
  sessions : sessionCount s = 0
  keyframe : s.latestKeyframe = none

structure Registry (s : State) : Prop where
  sound : ∀ p ∈ s.peers, Sound p
  distinct : Distinct s.peers
  counted : s.sessionsCreated = s.sessionsClosed + sessionCount s
  bounded : sessionCount s ≤ s.maxPeers
  paired : s.stopping = !s.enabled
  resting : s.lifecycle ≠ .idle → s.enabled = false
  stopped : s.enabled = false → s.lifecycle.stops = false → Vacant s
  offline : s.mediaAvailable = false → Vacant s

theorem registry_init (staleTimeout : Nat) : Registry (init staleTimeout) := by
  constructor
  · intro p member
    cases member
  · intro i j p q found
    cases found
  · rfl
  · exact Nat.zero_le _
  · rfl
  · intro moving
    exact absurd rfl moving
  · exact fun _ _ => ⟨rfl, rfl⟩
  · exact fun _ => ⟨rfl, rfl⟩

/-- The flags and the bound that most steps leave alone. -/
structure SameFlags (s v : State) : Prop where
  enabled : v.enabled = s.enabled
  stopping : v.stopping = s.stopping
  media : v.mediaAvailable = s.mediaAvailable
  bound : v.maxPeers = s.maxPeers
  lifecycle : v.lifecycle = s.lifecycle

/-- A change after which the session is out of `sessions_`, or its `create_session` call stands
where it stood. -/
structure Spares (p q : Peer) : Prop where
  change : Change p q
  kept : q.registered = true → q.call = p.call

theorem Spares.refl (p : Peer) : Spares p p := ⟨.same p, fun _ => rfl⟩

theorem Spares.leaves (change : Change p q) (gone : q.registered = false) :
    Spares p q := by
  refine ⟨change, ?_⟩
  intro on
  rw [gone] at on
  cases on

theorem Spares.trans {p' : Peer} (first : Spares p q) (second : Spares q p') :
    Spares p p' :=
  ⟨first.change.trans second.change,
    fun on => (second.kept on).trans (first.kept (second.change.registered on))⟩

theorem spares_refl (l : List Peer) : List.Forall₂ Spares l l :=
  List.forall₂_same.2 fun p _ => .refl p

theorem spares_changes {l l' : List Peer} (places : List.Forall₂ Spares l l') :
    List.Forall₂ Change l l' :=
  places.imp fun _ _ spares => spares.change

/-- The registry is kept, and so are the calls of the sessions that stay in it. -/
structure Stepped (s v : State) : Prop where
  registry : Registry v
  places : List.Forall₂ Spares s.peers v.peers
  lifecycle : v.lifecycle = s.lifecycle

theorem Stepped.refl (reg : Registry s) : Stepped s s := ⟨reg, spares_refl _, rfl⟩

/-- **A step that leaves the flags alone**, changes sessions in their places and caches a
keyframe only while the manager accepts units. -/
theorem Registry.evolve (reg : Registry s) (places : List.Forall₂ Change s.peers v.peers)
    (same : SameFlags s v) (counted : v.sessionsCreated = v.sessionsClosed + sessionCount v)
    (fewer : sessionCount v ≤ sessionCount s)
    (cached : s.accepting = false → s.latestKeyframe = none → v.latestKeyframe = none) :
    Registry v := by
  have vacant : s.accepting = false → Vacant s → Vacant v := by
    intro off empty
    exact ⟨by have := empty.sessions; omega, cached off empty.keyframe⟩
  refine ⟨changed_sound places reg.sound, changed_distinct places reg.sound reg.distinct, counted,
    ?_, ?_, ?_, ?_, ?_⟩
  · rw [same.bound]
    exact fewer.trans reg.bounded
  · rw [same.stopping, same.enabled]
    exact reg.paired
  · rw [same.lifecycle, same.enabled]
    exact reg.resting
  · rw [same.enabled, same.lifecycle]
    intro off quiet
    exact vacant (by simp [State.accepting, off]) (reg.stopped off quiet)
  · rw [same.media]
    intro off
    exact vacant (by simp [State.accepting, off]) (reg.offline off)

/-- The peers stay as they are. -/
theorem Registry.keep (reg : Registry s) (peers : v.peers = s.peers) (same : SameFlags s v)
    (created : v.sessionsCreated = s.sessionsCreated) (closed : v.sessionsClosed = s.sessionsClosed)
    (cached : v.latestKeyframe = s.latestKeyframe) : Stepped s v := by
  have count : sessionCount v = sessionCount s := by rw [sessionCount, sessionCount, peers]
  have places : List.Forall₂ Spares s.peers v.peers := by
    rw [peers]
    exact spares_refl _
  refine ⟨reg.evolve (spares_changes places) same ?_ count.le ?_, places, same.lifecycle⟩
  · rw [created, closed, count]
    exact reg.counted
  · intro _ empty
    exact cached.trans empty

theorem Registry.unregister (reg : Registry s) (found : s.peers[handle]? = some p)
    (on : p.registered = true) (reason : String) : Stepped s (unregister s reason handle) := by
  have fewer := sessionCount_unregister found on reason
  have counted := reg.counted
  have places : List.Forall₂ Spares s.peers (WebRtcManager.unregister s reason handle).peers := by
    rw [WebRtcManager.unregister, modify_eq_set found]
    exact forall₂_set Spares.refl found (.leaves (.retire p reason) rfl)
  refine ⟨reg.evolve (spares_changes places) ⟨rfl, rfl, rfl, rfl, rfl⟩ ?_ ?_ ?_, places, rfl⟩
  · show s.sessionsCreated =
      s.sessionsClosed + 1 + sessionCount (WebRtcManager.unregister s reason handle)
    omega
  · omega
  · exact fun _ empty => empty

theorem Registry.unregisterAll (reg : Registry s) (reason : String) :
    Stepped s (unregisterAll s reason) ∧ Vacant (unregisterAll s reason) := by
  have none := sessionCount_unregisterAll s reason
  have places : List.Forall₂ Spares s.peers (WebRtcManager.unregisterAll s reason).peers := by
    apply List.forall₂_map_right_iff.2
    apply List.forall₂_same.2
    intro p _
    split
    · exact .leaves (.retire p reason) rfl
    · exact .refl p
  refine ⟨⟨reg.evolve (spares_changes places) ⟨rfl, rfl, rfl, rfl, rfl⟩ ?_ ?_ ?_, places, rfl⟩, none, rfl⟩
  · rw [none]
    exact reg.counted
  · omega
  · exact fun _ _ => rfl

theorem Registry.closeSession (reg : Registry s) (id : String) : Stepped s (closeSession s id) := by
  unfold WebRtcManager.closeSession
  split
  · exact .refl reg
  · next handle found =>
    obtain ⟨p, here, on, _⟩ := find_some found
    exact reg.unregister here on _

theorem Registry.sweep {now : Nat} (reg : Registry s) (moved : sweep s handle now = some v) :
    Stepped s v := by
  obtain ⟨p, found, rfl⟩ := Option.map_eq_some_iff.1 moved
  dsimp only
  split
  · next stale =>
    simp only [Bool.and_eq_true] at stale
    exact reg.unregister found stale.1 _
  · exact .refl reg

/-- A change of one session that leaves it in or out of `sessions_`. -/
theorem Registry.set (reg : Registry s) (found : s.peers[handle]? = some p)
    (change : Change p q) (same : q.registered = p.registered) (errors : Nat) :
    Registry { s with signalingErrors := errors, peers := s.peers.set handle q } := by
  have count : sessionCount { s with signalingErrors := errors, peers := s.peers.set handle q } =
      sessionCount s := sessionCount_of_flags (map_set_same found same)
  have places : List.Forall₂ Change s.peers (s.peers.set handle q) :=
    forall₂_set .same found change
  refine reg.evolve places ⟨rfl, rfl, rfl, rfl, rfl⟩ ?_ count.le fun _ empty => empty
  rw [count]
  exact reg.counted

theorem Registry.blame (reg : Registry s) (found : s.peers[handle]? = some p) :
    Stepped s { s with peers := s.peers.modify handle fun q =>
      { q with session := q.session.recordFailure "signaling" true } } := by
  rw [modify_eq_set found]
  have change : Change p { p with session := p.session.recordFailure "signaling" true } := .blame p
  exact ⟨reg.set found change rfl s.signalingErrors,
    forall₂_set Spares.refl found ⟨change, fun _ => rfl⟩, rfl⟩

/-! ## A failed `create_session` -/

theorem missing_own (reg : Registry s) (found : s.peers[handle]? = some p)
    (missing : find s p.session.id = none) : p.registered = false := by
  cases registered : p.registered with
  | false => rfl
  | true =>
    rw [find_own reg.distinct found registered] at missing
    cases missing

/-- The session of a call that looks itself up by its id is not registered afterwards. -/
theorem unregister_own (reg : Registry s) (found : s.peers[handle]? = some p) (reason : String)
    {other : Nat} (searched : find s p.session.id = some other)
    (after : (unregister s reason other).peers[handle]? = some q) : q.registered = false := by
  obtain ⟨p', here, on, _⟩ := find_some searched
  cases registered : p.registered with
  | true =>
    have own := find_own reg.distinct found registered
    rw [searched, Option.some.injEq] at own
    subst own
    rw [unregister, modify_eq_set found,
      List.getElem?_set_self (List.getElem?_eq_some_iff.1 found).1] at after
    rw [← Option.some.inj after]
    rfl
  | false =>
    obtain ⟨before, there, spares⟩ := forall₂_back (reg.unregister here on reason).places after
    rw [found] at there
    cases there
    exact spares.change.gone registered

/-- A call that returns spares all sessions if its own one is gone in the end. -/
theorem spares_returns {l l' : List Peer} (found : l[handle]? = some p) (change : Change p q)
    (places : List.Forall₂ Spares (l.set handle q) l')
    (gone : ∀ last, l'[handle]? = some last → last.registered = false) : List.Forall₂ Spares l l' := by
  induction l generalizing handle l' with
  | nil => cases found
  | cons first l ih =>
    cases handle with
    | zero =>
      cases found
      cases places with
      | cons spares rest => exact .cons (.leaves (change.trans spares.change) (gone _ rfl)) rest
    | succ handle =>
      cases places with
      | cons spares rest => exact .cons spares (ih found rest gone)

theorem Registry.failed (reg : Registry s) (moved : failed s handle = some v) : Stepped s v := by
  obtain ⟨p, found, moved⟩ := Option.bind_eq_some_iff.1 moved
  split at moved
  · next result standing =>
    have change : Change p { p with call := .returned result } := .returns result (.inl standing)
    have returned := reg.set found change rfl (s.signalingErrors + 1)
    have own := List.getElem?_set_self (a := { p with call := .returned result })
      (List.getElem?_eq_some_iff.1 found).1
    dsimp only at moved
    split at moved
    · next searched =>
      cases moved
      refine ⟨returned, spares_returns found change (spares_refl _) ?_, rfl⟩
      intro q here
      rw [own] at here
      cases here
      exact missing_own returned own searched
    · next other searched =>
      cases moved
      obtain ⟨q, here, on, _⟩ := find_some searched
      have removed := returned.unregister here on "signaling_failure"
      obtain ⟨q', there, _⟩ := forall₂_forth removed.places here
      have blamed := removed.registry.blame there
      refine ⟨blamed.registry, spares_returns found change
        (forall₂_trans Spares.trans removed.places blamed.places) ?_, rfl⟩
      intro last here'
      obtain ⟨before, back, spares⟩ := forall₂_back blamed.places here'
      exact spares.change.gone (unregister_own returned own "signaling_failure" searched back)
  · cases moved

theorem Registry.retreat (reg : Registry s) (moved : retreat s handle = some v) : Stepped s v := by
  obtain ⟨p, found, moved⟩ := Option.bind_eq_some_iff.1 moved
  obtain ⟨refused, ⟨⟩⟩ := Option.ite_none_right_eq_some.1 moved
  have change : Change p { p with call := .returned shuttingDown } :=
    .returns shuttingDown (.inr refused)
  have returned := reg.set found change rfl s.signalingErrors
  have own := List.getElem?_set_self (a := { p with call := .returned shuttingDown })
    (List.getElem?_eq_some_iff.1 found).1
  have closed := returned.closeSession p.session.id
  refine ⟨closed.registry, spares_returns found change closed.places ?_, closed.lifecycle⟩
  intro q here
  unfold WebRtcManager.closeSession at here
  split at here
  · next searched =>
    rw [own] at here
    cases here
    exact missing_own returned own searched
  · next other searched => exact unregister_own returned own "client_delete" searched here

/-! ## The other steps -/

theorem Registry.publish (reg : Registry s) (unit : EncodedAccessUnit) :
    Stepped s (publish s unit) := by
  rcases publish_cases s unit with ⟨accepting, same⟩ | ⟨_, same⟩
  · have places : List.Forall₂ Spares s.peers (WebRtcManager.publish s unit).peers := by
      rw [same]
      apply List.forall₂_map_right_iff.2
      apply List.forall₂_same.2
      intro p _
      split
      · exact ⟨.turn p .owed, fun _ => rfl⟩
      · exact .refl p
    have flagged : flags (WebRtcManager.publish s unit).peers = flags s.peers := by
      rw [same, flags, List.map_map]
      apply List.map_congr_left
      intro p _
      dsimp only [Function.comp_apply]
      split <;> rfl
    have count := sessionCount_of_flags flagged
    refine ⟨reg.evolve (spares_changes places) ?_ ?_ count.le ?_, places, by rw [same]⟩
    · rw [same]
      exact ⟨rfl, rfl, rfl, rfl, rfl⟩
    · rw [count, same]
      exact reg.counted
    · intro off
      rw [accepting] at off
      cases off
  · rw [same]
    exact reg.keep rfl ⟨rfl, rfl, rfl, rfl, rfl⟩ rfl rfl rfl

/-- With nothing registered or cached the flags may change. -/
theorem Registry.reflag (reg : Registry s) (vacant : Vacant s) (peers : v.peers = s.peers)
    (counted : v.sessionsCreated = v.sessionsClosed + sessionCount v)
    (paired : v.stopping = !v.enabled) (resting : v.lifecycle ≠ .idle → v.enabled = false)
    (cached : v.latestKeyframe = s.latestKeyframe) : Registry v := by
  have count : sessionCount v = 0 := by
    rw [sessionCount, peers]
    exact vacant.sessions
  have empty : Vacant v := ⟨count, cached.trans vacant.keyframe⟩
  refine ⟨?_, ?_, counted, ?_, paired, resting, fun _ _ => empty, fun _ => empty⟩
  · rw [peers]
    exact reg.sound
  · rw [peers]
    exact reg.distinct
  · rw [count]
    exact Nat.zero_le _

theorem Registry.setMediaAvailable (reg : Registry s) (available : Bool) (reason : String) :
    Stepped s (setMediaAvailable s available reason) := by
  unfold WebRtcManager.setMediaAvailable
  cases available with
  | true =>
    simp only [if_true]
    split
    · exact .refl reg
    · refine ⟨⟨reg.sound, reg.distinct, reg.counted, reg.bounded, reg.paired, reg.resting, ?_, nofun⟩,
        spares_refl _, rfl⟩
      intro off quiet
      exact ⟨(reg.stopped off quiet).sessions, (reg.stopped off quiet).keyframe⟩
  | false =>
    simp only [Bool.false_eq_true, if_false]
    split
    · exact .refl reg
    · obtain ⟨emptied, vacant⟩ := reg.unregisterAll "source_media_unavailable"
      refine ⟨?_, emptied.places, rfl⟩
      exact emptied.registry.reflag vacant rfl emptied.registry.counted reg.paired reg.resting rfl

/-- A new session comes behind all others, under an id of its own. -/
theorem Distinct.snoc {l : List Peer} (distinct : Distinct l)
    (other : ∀ q ∈ l, q.registered = true → q.session.id ≠ p.session.id) : Distinct (l ++ [p]) := by
  intro i j q r first second on on' same
  rcases getElem_snoc first with old | ⟨rfl, rfl⟩
  · rcases getElem_snoc second with old' | ⟨rfl, rfl⟩
    · exact distinct i j q r old old' on on' same
    · exact absurd same (other q (List.mem_of_getElem? old) on)
  · rcases getElem_snoc second with old' | ⟨rfl, rfl⟩
    · exact absurd same.symm (other r (List.mem_of_getElem? old') on')
    · rfl

theorem refusal_none (admitted : refusal s = none) :
    s.enabled = true ∧ s.mediaAvailable = true ∧ sessionCount s < s.maxPeers := by
  unfold refusal at admitted
  split at admitted
  · cases admitted
  · next on =>
    split at admitted
    · cases admitted
    · next available =>
      split at admitted
      · cases admitted
      · next room =>
        simp only [Bool.or_eq_true, Bool.not_eq_true', not_or, Bool.not_eq_false] at on available
        exact ⟨on.1, available, Nat.lt_of_not_le room⟩

theorem Registry.join (reg : Registry s) {session : WebRtcSession}
    (idle : session.worker = .absent) (opened : session.cleanupStarted = false)
    (unused : find s session.id = none) (on : s.enabled = true) (available : s.mediaAvailable = true)
    (room : sessionCount s < s.maxPeers) :
    Registry { s with
      peers := s.peers ++ [{ session := session }]
      sessionsCreated := s.sessionsCreated + 1 } := by
  have count : sessionCount { s with
      peers := s.peers ++ [{ session := session }]
      sessionsCreated := s.sessionsCreated + 1 } = sessionCount s + 1 := by
    simp [sessionCount]
  have counted := reg.counted
  constructor
  · intro q member
    rcases List.mem_append.1 member with old | new
    · exact reg.sound q old
    · rw [List.mem_singleton.1 new]
      exact ⟨nofun, by simp [opened], by simp [idle, Call.spawns], trivial⟩
  · apply reg.distinct.snoc
    intro q member there
    exact find_none unused member there
  · rw [count]
    show s.sessionsCreated + 1 = s.sessionsClosed + (sessionCount s + 1)
    omega
  · rw [count]
    exact room
  · exact reg.paired
  · exact reg.resting
  · intro off
    rw [show s.enabled = false from off] at on
    cases on
  · intro off
    rw [show s.mediaAvailable = false from off] at available
    cases available

/-- `create_session` changes no session that was there, or adds one to the end. -/
theorem Registry.register {id : String} {startTimestamp : UInt32} {built : Bool} (reg : Registry s)
    (moved : register s id startTimestamp built = some v) :
    Stepped s v ∨ Registry v ∧ v.lifecycle = s.lifecycle ∧
      ∃ session, v.peers = s.peers ++ [{ session := session }] := by
  have errors : Stepped s { s with signalingErrors := s.signalingErrors + 1 } :=
    reg.keep rfl ⟨rfl, rfl, rfl, rfl, rfl⟩ rfl rfl rfl
  unfold WebRtcManager.register at moved
  split at moved
  · cases moved
    exact .inl (.refl reg)
  · next admitted =>
    obtain ⟨on, available, room⟩ := refusal_none admitted
    split at moved
    · cases moved
    · next unused =>
      split at moved
      · split at moved
        · cases moved
          exact .inr ⟨reg.join rfl rfl (by simpa using unused) on available room, rfl, _, rfl⟩
        · cases moved
          exact .inl errors
      · cases moved
        exact .inl errors

/-- **What a step does**: it spares the calls of the sessions that stay, changes the lifecycle,
adds a session, or is a move on one session. -/
inductive Outcome (s v : State) : Prop where
  | stepped (stepped : Stepped s v)
  | flagged (registry : Registry v) (places : List.Forall₂ Spares s.peers v.peers)
    (ends : v.lifecycle.stops = true ∨ sessionCount v = 0)
  | joined (registry : Registry v) (lifecycle : v.lifecycle = s.lifecycle) (session : WebRtcSession)
    (peers : v.peers = s.peers ++ [{ session := session }])
  | moved (registry : Registry v) (handle : Nat) {p q : Peer} (a : PeerAction)
    (found : s.peers[handle]? = some p) (stepped : peerStep s handle p a = some q)
    (result : v = { s with peers := s.peers.set handle q })

theorem Registry.step {a : Action} (reg : Registry s) (moved : step s a = some v) :
    Outcome s v := by
  cases a with
  | shutdown next =>
    obtain ⟨_, ⟨⟩⟩ := Option.ite_none_right_eq_some.1 moved
    refine .flagged ⟨reg.sound, reg.distinct, reg.counted, reg.bounded, rfl, fun _ => rfl, nofun, ?_⟩
      (spares_refl _) (.inl rfl)
    intro off
    exact ⟨(reg.offline off).sessions, (reg.offline off).keyframe⟩
  | clear =>
    simp only [WebRtcManager.step] at moved
    split at moved
    · next next standing =>
      cases moved
      obtain ⟨emptied, vacant⟩ := reg.unregisterAll "service_shutdown"
      have off : s.enabled = false := reg.resting (by simp [standing])
      refine .flagged ?_ emptied.places (.inr vacant.sessions)
      exact emptied.registry.reflag vacant rfl emptied.registry.counted reg.paired (fun _ => off) rfl
    · cases moved
  | enable =>
    simp only [WebRtcManager.step] at moved
    split at moved
    · next config standing =>
      cases moved
      have off : s.enabled = false := reg.resting (by simp [standing])
      have vacant : Vacant s := reg.stopped off (by rw [standing]; rfl)
      refine .flagged ?_ (spares_refl _) (.inr vacant.sessions)
      exact reg.reflag vacant rfl reg.counted rfl (fun moving => absurd rfl moving) rfl
    · cases moved
  | setMediaAvailable available reason =>
    cases moved
    exact .stepped (reg.setMediaAvailable available reason)
  | publish unit =>
    obtain ⟨_, ⟨⟩⟩ := Option.ite_none_right_eq_some.1 moved
    exact .stepped (reg.publish unit)
  | publishReturns =>
    obtain ⟨_, ⟨⟩⟩ := Option.ite_none_right_eq_some.1 moved
    exact .stepped (reg.keep rfl ⟨rfl, rfl, rfl, rfl, rfl⟩ rfl rfl rfl)
  | register id startTimestamp built =>
    rcases reg.register moved with stepped | ⟨registry, lifecycle, session, peers⟩
    · exact .stepped stepped
    · exact .joined registry lifecycle session peers
  | closeSession id =>
    cases moved
    exact .stepped (reg.closeSession id)
  | sweep handle now => exact .stepped (reg.sweep moved)
  | failed handle => exact .stepped (reg.failed moved)
  | retreat handle => exact .stepped (reg.retreat moved)
  | peer handle action =>
    obtain ⟨p, found, moved⟩ := Option.bind_eq_some_iff.1 moved
    obtain ⟨q, stepped, rfl⟩ := Option.map_eq_some_iff.1 moved
    exact .moved (reg.set found (.moved action stepped) (peerStep_frame stepped).1 s.signalingErrors)
      handle action found stepped rfl

theorem Outcome.registry (outcome : Outcome s v) : Registry v := by
  cases outcome with
  | stepped stepped => exact stepped.registry
  | flagged registry => exact registry
  | joined registry => exact registry
  | moved registry => exact registry

/-- Every session is still there after a step. -/
theorem Outcome.forth (outcome : Outcome s v) (found : s.peers[handle]? = some p) :
    ∃ q, v.peers[handle]? = some q ∧ Change p q := by
  cases outcome with
  | stepped stepped => exact forall₂_forth (spares_changes stepped.places) found
  | flagged _ places => exact forall₂_forth (spares_changes places) found
  | joined _ _ session peers =>
    refine ⟨p, ?_, .same p⟩
    rw [peers]
    exact getElem_kept _ found
  | moved _ other a found' stepped result =>
    rw [result]
    exact forall₂_forth (forall₂_set .same found' (.moved a stepped)) found

/-! ## Calls that returned an error -/

/-- The session of a `create_session` that returned an error is registered only while a
`shutdown` is on its way to remove it. -/
def Errors (s : State) : Prop :=
  ∀ p ∈ s.peers, ∀ result, p.call = .returned result → result.error ≠ .none →
    p.registered = true → s.lifecycle.stops = true

theorem registered_none (none : sessionCount s = 0) (member : p ∈ s.peers) :
    p.registered = false := by
  have off := List.countP_eq_zero.1 none p member
  simpa using off

/-- A move on a registered session ends its call with an error only during a `shutdown`. -/
theorem peerStep_error {a : PeerAction} {result : CreateSessionResult} (reg : Registry s)
    (found : s.peers[handle]? = some p) (stepped : peerStep s handle p a = some q)
    (returned : q.call = .returned result) (error : result.error ≠ .none)
    (on : q.registered = true) : p.call = q.call ∨ s.lifecycle.stops = true := by
  have there : p.registered = true := (peerStep_frame stepped).1 ▸ on
  have proper := (reg.sound p (List.mem_of_getElem? found)).proper
  cases a with
  | accept now outcome =>
    obtain ⟨_, stepped⟩ := Option.ite_none_right_eq_some.1 stepped
    split at stepped
    · obtain ⟨y, _, rfl⟩ := Option.map_eq_some_iff.1 stepped
      cases returned
    · cases stepped
      cases returned
  | capture =>
    simp only [peerStep] at stepped
    split at stepped
    · cases stepped
      unfold capture at returned
      split at returned
      · next refused =>
        cases stops : s.lifecycle.stops with
        | true => exact .inr rfl
        | false =>
          have registered : ¬Vacant s := by
            intro vacant
            rw [registered_none vacant.sessions (List.mem_of_getElem? found)] at there
            cases there
          have running : s.stopping = false := by
            cases stopping : s.stopping with
            | false => rfl
            | true =>
              have off : s.enabled = false := by simpa [stopping] using reg.paired
              exact absurd (reg.stopped off stops) registered
          have available : s.mediaAvailable = true := by
            cases media : s.mediaAvailable with
            | true => rfl
            | false => exact absurd (reg.offline media) registered
          simp [running, available, find_own reg.distinct found there] at refused
      · cases returned
    · cases stepped
  | activate =>
    simp only [peerStep] at stepped
    split at stepped
    · split at stepped
      · cases stepped
        cases returned
      · cases stepped
        cases returned
    · cases stepped
  | spawn begun =>
    simp only [peerStep] at stepped
    split at stepped
    · next accepted standing =>
      cases stepped
      rw [standing] at proper
      cases begun with
      | true =>
        cases returned
        exact absurd proper error
      | false => cases returned
    · cases stepped
  | enqueueCheck =>
    obtain ⟨_, ⟨⟩⟩ := Option.ite_none_right_eq_some.1 stepped
    exact .inl rfl
  | enqueuePush =>
    obtain ⟨_, stepped⟩ := Option.ite_none_right_eq_some.1 stepped
    obtain ⟨unit, _, rfl⟩ := Option.map_eq_some_iff.1 stepped
    exact .inl rfl
  | close index =>
    obtain ⟨_, stepped⟩ := Option.ite_none_left_eq_some.1 stepped
    obtain ⟨reason, _, rfl⟩ := Option.map_eq_some_iff.1 stepped
    exact .inl rfl
  | session action =>
    obtain ⟨y, _, rfl⟩ := Option.map_eq_some_iff.1 stepped
    exact .inl rfl

theorem Errors.step (errors : Errors s) (reg : Registry s) (outcome : Outcome s v) : Errors v := by
  have spared : List.Forall₂ Spares s.peers v.peers → ∀ q ∈ v.peers, ∀ result, q.call = .returned result →
      result.error ≠ .none → q.registered = true → s.lifecycle.stops = true := by
    intro places q member result returned error on
    obtain ⟨handle, found⟩ := List.mem_iff_getElem?.1 member
    obtain ⟨p, before, spares⟩ := forall₂_back places found
    exact errors p (List.mem_of_getElem? before) result (spares.kept on ▸ returned) error
      (spares.change.registered on)
  cases outcome with
  | stepped stepped =>
    intro q member result returned error on
    rw [stepped.lifecycle]
    exact spared stepped.places q member result returned error on
  | flagged _ places ends =>
    intro q member result returned error on
    rcases ends with stops | none
    · exact stops
    · rw [registered_none none member] at on
      cases on
  | joined _ lifecycle session peers =>
    intro q member result returned error on
    rw [peers] at member
    rw [lifecycle]
    rcases List.mem_append.1 member with old | new
    · exact errors q old result returned error on
    · rw [List.mem_singleton.1 new] at returned
      cases returned
  | @moved _ handle p q' a found stepped result =>
    subst result
    intro q member outcome returned error on
    rcases List.mem_or_eq_of_mem_set member with old | rfl
    · exact errors q old outcome returned error on
    · rcases peerStep_error reg found stepped returned error on with same | stops
      · exact errors p (List.mem_of_getElem? found) outcome (same.trans returned) error
          ((peerStep_frame stepped).1 ▸ on)
      · exact stops

/-! ## Runs -/

theorem runs_registry {staleTimeout : Nat} (run : Runs step Free (init staleTimeout) s) :
    Registry s ∧ Errors s := by
  apply run.invariant
  · refine ⟨registry_init staleTimeout, ?_⟩
    intro p member
    cases member
  · intro u a v inv _ moved
    have outcome := inv.1.step moved
    exact ⟨outcome.registry, inv.2.step inv.1 outcome⟩

/-- What was closed stays closed along a run, without a worker if it had none. -/
theorem runs_outlive (reg : Registry s) (run : Runs step Free s v)
    (found : s.peers[handle]? = some p) :
    Registry v ∧ ∃ q, v.peers[handle]? = some q ∧ Outlives p.session q.session := by
  induction run with
  | refl => exact ⟨reg, p, found, .refl _⟩
  | snoc a _ _ moved ih =>
    obtain ⟨reg', q, found', outlives⟩ := ih
    have outcome := reg'.step moved
    obtain ⟨q', found'', change⟩ := outcome.forth found'
    have sound := reg'.sound q (List.mem_of_getElem? found')
    exact ⟨outcome.registry, q', found'', outlives.trans (change.sound sound).2⟩

theorem peer_move {a : PeerAction} (found : s.peers[handle]? = some p)
    (stepped : peerStep s handle p a = some q) :
    ∃ v, Runs step Free s v ∧ v.peers[handle]? = some q := by
  have moved : step s (.peer handle a) = some { s with peers := s.peers.set handle q } := by
    simp [step, found, stepped]
  exact ⟨_, Runs.refl.snoc (.peer handle a) trivial moved,
    List.getElem?_set_self (List.getElem?_eq_some_iff.1 found).1⟩

theorem closes_settled (sound : Sound p) (found : s.peers[handle]? = some p)
    (pending : p.closers ≠ []) (settled : p.session.worker ≠ .starting) :
    ∃ v, Runs step Free s v ∧ ∃ q, v.peers[handle]? = some q ∧ q.session.cleanupStarted = true := by
  obtain ⟨reason, rest, shape⟩ := List.exists_cons_of_ne_nil pending
  have stepped : peerStep s handle p (.close 0) = some { p with
      session := p.session.closeWithReason reason, closers := rest } := by
    simp [peerStep, settled, shape]
  obtain ⟨v, run, there⟩ := peer_move found stepped
  obtain ⟨started, _⟩ := closeWithReason_ended p.session reason
    fun on => ⟨(sound.ended on).1, (sound.ended on).2.1⟩
  exact ⟨v, run, _, there, started⟩

/-- A pending `close_with_reason` waits at most for the creation of the worker. -/
theorem closes (sound : Sound p) (found : s.peers[handle]? = some p) (pending : p.closers ≠ []) :
    ∃ v, Runs step Free s v ∧ ∃ q, v.peers[handle]? = some q ∧ q.session.cleanupStarted = true := by
  by_cases starting : p.session.worker = .starting
  · have spawning := sound.spawning.1 starting
    cases standing : p.call with
    | spawning result =>
      have stepped : peerStep s handle p (.spawn true) = some { p with
          session := p.session.spawn true, call := .returned result } := by
        simp [peerStep, standing]
      obtain ⟨u, run, there⟩ := peer_move found stepped
      obtain ⟨v, run', closed⟩ := closes_settled (peerStep_sound sound stepped).1 there pending
        (by simp [WebRtcSession.spawn])
      exact ⟨v, run.trans run', closed⟩
    | _ =>
      rw [standing] at spawning
      cases spawning
  · exact closes_settled sound found pending starting

/-- **The session registry**, in every interleaving. The registered sessions are at most
`max_peers_` and as many as were created and not closed; none is registered and no keyframe is
cached while the media is unavailable, or from the last critical section of a `shutdown` until a
`configure` enables the manager again; a `create_session` that returned an error leaves no session
registered outside a `shutdown`. A session that was taken out of the registry is closed, or the
call that took it out is about to close it and can do so. Until that `close_with_reason` a worker may
still be started for the session; the close waits for its creation (`closes`), turns its media off
(`closeWithReason_ended`) and joins it. Once the session is closed it stays so, its media are off and no
worker is started for it. -/
theorem session_registry {staleTimeout : Nat} (run : Runs step Free (init staleTimeout) s) :
    sessionCount s ≤ s.maxPeers ∧
      s.sessionsCreated = s.sessionsClosed + sessionCount s ∧
      (s.mediaAvailable = false → sessionCount s = 0 ∧ s.latestKeyframe = none) ∧
      (∀ v, step s .clear = some v → v.enabled = false ∧ v.lifecycle.stops = false) ∧
      (s.enabled = false → s.lifecycle.stops = false →
        sessionCount s = 0 ∧ s.latestKeyframe = none) ∧
      (∀ p ∈ s.peers, ∀ result, p.call = .returned result → result.error ≠ .none →
        s.lifecycle.stops = false → p.registered = false) ∧
      (∀ (handle : Nat) (p : Peer), s.peers[handle]? = some p → p.registered = false →
        p.session.cleanupStarted = true ∨ p.closers ≠ [] ∧ ∃ v, Runs step Free s v ∧
          ∃ q : Peer, v.peers[handle]? = some q ∧ q.session.cleanupStarted = true) ∧
      ∀ (handle : Nat) (p : Peer), s.peers[handle]? = some p → p.session.cleanupStarted = true →
        ∀ v, Runs step Free s v → ∃ q : Peer, v.peers[handle]? = some q ∧
          q.session.closed = true ∧ q.session.mediaRunning = false ∧
          q.session.worker ≠ .starting ∧ (p.session.worker = .absent → q.session.worker = .absent) := by
  obtain ⟨reg, errors⟩ := runs_registry run
  refine ⟨reg.bounded, reg.counted, ?_, ?_, ?_, ?_, ?_, ?_⟩
  · intro off
    exact ⟨(reg.offline off).sessions, (reg.offline off).keyframe⟩
  · intro v cleared
    simp only [step] at cleared
    split at cleared
    · next next standing =>
      cases cleared
      refine ⟨reg.resting (by simp [standing]), ?_⟩
      cases next <;> rfl
    · cases cleared
  · intro off quiet
    exact ⟨(reg.stopped off quiet).sessions, (reg.stopped off quiet).keyframe⟩
  · intro p member result returned error quiet
    cases registered : p.registered with
    | false => rfl
    | true =>
      rw [errors p member result returned error registered] at quiet
      cases quiet
  · intro handle p found gone
    have sound := reg.sound p (List.mem_of_getElem? found)
    rcases sound.leaving gone with started | pending
    · exact .inl started
    · exact .inr ⟨pending, closes sound found pending⟩
  · intro handle p found started v later
    obtain ⟨reg', q, found', outlives⟩ := runs_outlive reg later found
    obtain ⟨closed, stopped, settled⟩ :=
      (reg'.sound q (List.mem_of_getElem? found')).ended (outlives.cleanup started)
    exact ⟨q, found', closed, stopped, settled, outlives.idle started⟩

/-- A `shutdown` comes while a viewer's offer is negotiated: its `create_session` returns an error
and the session is gone, with the close that `shutdown` owes it. -/
theorem session_registry_shutdown : ∃ s : State, ∃ p ∈ s.peers,
    p.call = .returned shuttingDown ∧ p.registered = false ∧ sessionCount s = 0 ∧
    s.sessionsCreated = s.sessionsClosed + sessionCount s := by
  have reached : ∃ s, Runs step Free (init 0) s ∧ s.enabled = false ∧ s.lifecycle.stops = false ∧
      s.peers.map (·.call) = [.returned shuttingDown] := by
    apply Runs.exists_of_play (configured ++ [.register "viewer" 0 true,
      .peer 0 (.accept 0 { sessionId := "viewer" }), .shutdown none, .peer 0 .capture, .clear])
    · decide +kernel
    · exact Meets.free _ _
  obtain ⟨s, run, off, quiet, calls⟩ := reached
  obtain ⟨_, counted, _, _, stopped, errors, _⟩ := session_registry run
  obtain ⟨p, member, returned⟩ : ∃ p ∈ s.peers, p.call = .returned shuttingDown := by
    rw [← List.mem_map, calls]
    exact List.mem_singleton_self _
  exact ⟨s, p, member, returned, errors p member shuttingDown returned (by decide) quiet,
    (stopped off quiet).1, counted⟩

end SkaiEdge.WebRtc.WebRtcManager
