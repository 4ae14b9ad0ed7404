import SkaiEdge.Web.WhepSignaling
import SkaiEdge.WebRtc.SessionRegistry

/-!
# No session without a client that knows it

`Goes` is what any step of the manager does to the session behind a handle, as far as an exchange
depends on it: the id stays, a call that returned stays so, and an accepted offer answers under the
id of its session. `Owned` says what an exchange knows of the session it created in each phase;
the write that fails closes the session, whatever became of it meanwhile.
-/

namespace SkaiEdge.Web.WhepSignaling

open SkaiEdge.Lib SkaiEdge.WebRtc
open WebRtcManager (Peer Call PeerAction Registry Errors)

/-! ## What the manager does to one session -/

/-- The answer a call carries. -/
def result : Call → Option CreateSessionResult
  | .failing r | .answered r | .activating r _ | .spawning r | .returned r => some r
  | .accepting | .refused => none

structure Goes (p q : Peer) : Prop where
  id : q.session.id = p.session.id
  gone : p.registered = false → q.registered = false
  kept : ∀ r, p.call = .returned r → q.call = .returned r
  named : ∀ r, result q.call = some r → r.error = .none →
    result p.call = some r ∨ r.sessionId = p.session.id

theorem Goes.refl (p : Peer) : Goes p p := ⟨rfl, fun h => h, fun _ h => h, fun _ h _ => .inl h⟩

theorem Goes.trans {p q r : Peer} (first : Goes p q) (second : Goes q r) : Goes p r := by
  refine ⟨second.id.trans first.id, fun gone => second.gone (first.gone gone),
    fun answer returned => second.kept answer (first.kept answer returned), ?_⟩
  intro answer carried fine
  rcases second.named answer carried fine with before | named
  · exact first.named answer before fine
  · exact .inr (named.trans first.id)

/-- A session changed in a way its call does not see. -/
theorem Goes.same {p q : Peer} (id : q.session.id = p.session.id) (call : q.call = p.call)
    (gone : p.registered = false → q.registered = false) : Goes p q := by
  refine ⟨id, gone, fun answer returned => call.trans returned, fun answer carried _ => ?_⟩
  rw [call] at carried
  exact .inl carried

theorem Goes.retire (p : Peer) (reason : String) : Goes p (p.retire reason) :=
  .same rfl rfl fun _ => rfl

/-- A call moves on with the answer it has, or with none. -/
theorem Goes.call {p q : Peer} (id : q.session.id = p.session.id)
    (registered : q.registered = p.registered) (open' : ∀ r, p.call ≠ .returned r)
    (carries : ∀ r, result q.call = some r → r.error = .none → result p.call = some r) : Goes p q := by
  refine ⟨id, fun gone => registered.trans gone, fun answer returned => ?_, fun answer carried fine => ?_⟩
  · exact absurd returned (open' answer)
  · exact .inl (carries answer carried fine)

variable {m m' : WebRtcManager.State}

theorem modify_goes {l : List Peer} (handle : Nat) {f : Peer → Peer} (each : ∀ p, Goes p (f p)) :
    List.Forall₂ Goes l (l.modify handle f) := by
  cases found : l[handle]? with
  | none =>
    rw [List.modify_eq_self (List.getElem?_eq_none_iff.1 found)]
    exact List.forall₂_same.2 fun p _ => .refl p
  | some p =>
    rw [modify_eq_set found]
    exact forall₂_set Goes.refl found (each p)

theorem unregister_goes (reason : String) (handle : Nat) :
    List.Forall₂ Goes m.peers (WebRtcManager.unregister m reason handle).peers :=
  modify_goes handle fun p => .retire p reason

theorem unregisterAll_goes (reason : String) :
    List.Forall₂ Goes m.peers (WebRtcManager.unregisterAll m reason).peers := by
  apply List.forall₂_map_right_iff.2
  apply List.forall₂_same.2
  intro p _
  split
  · exact .retire p reason
  · exact .refl p

theorem peers_goes (same : m'.peers = m.peers) : List.Forall₂ Goes m.peers m'.peers := by
  rw [same]
  exact List.forall₂_same.2 fun p _ => .refl p

theorem closeSession_goes (id : String) :
    List.Forall₂ Goes m.peers (WebRtcManager.closeSession m id).peers := by
  unfold WebRtcManager.closeSession
  split
  · exact peers_goes rfl
  · exact unregister_goes _ _

theorem blame_goes (handle : Nat) {l : List Peer} : List.Forall₂ Goes l (l.modify handle fun q =>
    { q with session := q.session.recordFailure "signaling" true }) :=
  modify_goes handle fun q =>
    .same (WebRtcManager.selfStep_recordFailure q.session "signaling" true).sameId rfl fun gone => gone

theorem failed_goes {handle : Nat} (moved : WebRtcManager.failed m handle = some m') :
    List.Forall₂ Goes m.peers m'.peers := by
  obtain ⟨p, found, moved⟩ := Option.bind_eq_some_iff.1 moved
  split at moved
  · next answer standing =>
    have first : List.Forall₂ Goes m.peers (m.peers.set handle { p with call := .returned answer }) := by
      apply forall₂_set Goes.refl found
      refine Goes.call (by rfl) (by rfl) ?_ ?_
      · intro r returned
        rw [standing] at returned
        cases returned
      · intro r carried _
        rw [standing]
        exact carried
    dsimp only at moved
    split at moved
    · cases moved
      exact first
    · cases moved
      have left := modify_goes (l := m.peers.set handle { p with call := .returned answer }) ‹Nat›
        fun q => .retire q "signaling_failure"
      exact forall₂_trans Goes.trans first (forall₂_trans Goes.trans left (blame_goes _))
  · cases moved

theorem retreat_goes {handle : Nat} (moved : WebRtcManager.retreat m handle = some m') :
    List.Forall₂ Goes m.peers m'.peers := by
  obtain ⟨p, found, moved⟩ := Option.bind_eq_some_iff.1 moved
  obtain ⟨refused, ⟨⟩⟩ := Option.ite_none_right_eq_some.1 moved
  have first : List.Forall₂ Goes m.peers
      (m.peers.set handle { p with call := .returned WebRtcManager.shuttingDown }) := by
    apply forall₂_set Goes.refl found
    refine Goes.call (by rfl) (by rfl) ?_ ?_
    · intro r returned
      rw [refused] at returned
      cases returned
    · intro r carried fine
      cases carried
      cases fine
  have closed := closeSession_goes p.session.id (m := { m with
    peers := m.peers.set handle { p with call := .returned WebRtcManager.shuttingDown } })
  exact forall₂_trans Goes.trans first closed

theorem peerStep_goes {handle : Nat} {p q : Peer} {action : PeerAction} (sound : WebRtcManager.Sound p)
    (moved : WebRtcManager.peerStep m handle p action = some q)
    (answers : ∀ now outcome, action = .accept now outcome → outcome.error = .none →
      outcome.sessionId = p.session.id) : Goes p q := by
  have id := (WebRtcManager.peerStep_sound sound moved).2.sameId
  have registered := (WebRtcManager.peerStep_frame moved).1
  have same : q.call = p.call → Goes p q := fun call =>
    .same id call fun gone => registered.trans gone
  cases action with
  | accept now outcome =>
    obtain ⟨accepting, moved⟩ := Option.ite_none_right_eq_some.1 moved
    refine ⟨id, fun gone => registered.trans gone, fun r returned => ?_, fun r carried fine => .inr ?_⟩
    · rw [accepting] at returned
      cases returned
    · split at moved
      · obtain ⟨y, _, rfl⟩ := Option.map_eq_some_iff.1 moved
        cases carried
        exact answers now _ rfl fine
      · cases moved
        cases carried
        exact answers now _ rfl fine
  | capture =>
    simp only [WebRtcManager.peerStep] at moved
    split at moved
    · next answer standing =>
      cases moved
      apply Goes.call id registered
      · intro r returned
        rw [standing] at returned
        cases returned
      · intro r carried fine
        rw [standing]
        unfold WebRtcManager.capture at carried
        split at carried
        · cases carried
          cases fine
        · exact carried
    · cases moved
  | activate =>
    simp only [WebRtcManager.peerStep] at moved
    split at moved
    · next answer keyframe standing =>
      apply Goes.call id registered
      · intro r returned
        rw [standing] at returned
        cases returned
      · intro r carried _
        rw [standing]
        split at moved
        · cases moved
          cases carried
        · cases moved
          exact carried
    · cases moved
  | spawn started =>
    simp only [WebRtcManager.peerStep] at moved
    split at moved
    · next answer standing =>
      cases moved
      apply Goes.call id registered
      · intro r returned
        rw [standing] at returned
        cases returned
      · intro r carried _
        rw [standing]
        cases started
        · cases carried
        · exact carried
    · cases moved
  | enqueueCheck =>
    obtain ⟨_, ⟨⟩⟩ := Option.ite_none_right_eq_some.1 moved
    exact same rfl
  | enqueuePush =>
    obtain ⟨_, moved⟩ := Option.ite_none_right_eq_some.1 moved
    obtain ⟨unit, _, rfl⟩ := Option.map_eq_some_iff.1 moved
    exact same rfl
  | close index =>
    obtain ⟨_, moved⟩ := Option.ite_none_left_eq_some.1 moved
    obtain ⟨reason, _, rfl⟩ := Option.map_eq_some_iff.1 moved
    exact same rfl
  | session action =>
    obtain ⟨y, _, rfl⟩ := Option.map_eq_some_iff.1 moved
    exact same rfl

/-- Every move of the manager but the creation of a session. -/
theorem foreign_goes {s : State} {action : WebRtcManager.Action} (reg : Registry s.manager)
    (ours : foreign s action = true) (moved : WebRtcManager.step s.manager action = some m') :
    List.Forall₂ Goes s.manager.peers m'.peers := by
  cases action with
  | register => cases ours
  | shutdown next =>
    obtain ⟨_, ⟨⟩⟩ := Option.ite_none_right_eq_some.1 moved
    exact peers_goes rfl
  | clear =>
    simp only [WebRtcManager.step] at moved
    split at moved
    · cases moved
      exact unregisterAll_goes (m := s.manager) "service_shutdown"
    · cases moved
  | enable =>
    simp only [WebRtcManager.step] at moved
    split at moved
    · cases moved
      exact peers_goes rfl
    · cases moved
  | setMediaAvailable available reason =>
    cases moved
    cases available <;> unfold WebRtcManager.setMediaAvailable
    · simp only [Bool.false_eq_true, if_false]
      split
      · exact peers_goes rfl
      · exact unregisterAll_goes (m := { s.manager with
          mediaAvailable := false, mediaUnavailableReason := reason }) _
    · simp only [if_true]
      split <;> exact peers_goes rfl
  | publish unit =>
    obtain ⟨_, ⟨⟩⟩ := Option.ite_none_right_eq_some.1 moved
    unfold WebRtcManager.publish
    dsimp only
    split
    · apply List.forall₂_map_right_iff.2
      apply List.forall₂_same.2
      intro p _
      split
      · exact .same rfl rfl fun gone => gone
      · exact .refl p
    · exact peers_goes rfl
  | publishReturns =>
    obtain ⟨_, ⟨⟩⟩ := Option.ite_none_right_eq_some.1 moved
    exact peers_goes rfl
  | closeSession id =>
    cases moved
    exact closeSession_goes id
  | sweep handle now =>
    obtain ⟨p, found, rfl⟩ := Option.map_eq_some_iff.1 moved
    dsimp only
    split
    · exact unregister_goes _ _
    · exact peers_goes rfl
  | failed handle => exact failed_goes moved
  | retreat handle => exact retreat_goes moved
  | peer handle action =>
    obtain ⟨p, found, moved⟩ := Option.bind_eq_some_iff.1 moved
    obtain ⟨q, stepped, rfl⟩ := Option.map_eq_some_iff.1 moved
    apply forall₂_set Goes.refl found
    apply peerStep_goes (reg.sound p (List.mem_of_getElem? found)) stepped
    rintro now outcome rfl fine
    simpa [foreign, fine, found] using ours

/-! ## The places of the signaling jobs -/

def accepted (l : List Exchange) : Nat := l.countP (·.phase.job)

def counting (l : List Exchange) : Nat := l.countP (·.phase.counting)

structure Slots (jobs limit : Nat) (l : List Exchange) : Prop where
  jobs : jobs = accepted l + counting l
  limited : accepted l ≤ limit
  single : counting l ≤ 1
  room : ∀ x ∈ l, ∀ previous, x.phase = .counted previous →
    x.found = previous ∧ previous ≤ limit ∧ accepted l ≤ previous
  busy : ∀ x ∈ l, x.phase.response = some .busy → x.found = limit

variable {jobs limit : Nat} {l : List Exchange} {e : Nat} {x y : Exchange}

theorem Slots.read (slots : Slots jobs limit l) : Slots jobs limit (l ++ [({} : Exchange)]) := by
  have same : accepted (l ++ [({} : Exchange)]) = accepted l := by simp [accepted, Phase.job]
  have same' : counting (l ++ [({} : Exchange)]) = counting l := by simp [counting, Phase.counting]
  refine ⟨by rw [same, same']; exact slots.jobs, by rw [same]; exact slots.limited,
    by rw [same']; exact slots.single, ?_, ?_⟩
  · intro x member previous phase
    rw [same]
    rcases List.mem_append.1 member with old | new
    · exact slots.room x old previous phase
    · rw [List.mem_singleton.1 new] at phase
      cases phase
  · intro x member phase
    rcases List.mem_append.1 member with old | new
    · exact slots.busy x old phase
    · rw [List.mem_singleton.1 new] at phase
      cases phase

theorem accepted_set (at' : l[e]? = some x) (y : Exchange) :
    accepted (l.set e y) + (if x.phase.job then 1 else 0) = accepted l + if y.phase.job then 1 else 0 :=
  countP_set_balance at' _

theorem counting_set (at' : l[e]? = some x) (y : Exchange) :
    counting (l.set e y) + (if x.phase.counting then 1 else 0) =
      counting l + if y.phase.counting then 1 else 0 :=
  countP_set_balance at' _

theorem not_counted (none' : counting l = 0) {z : Exchange} (member : z ∈ l) (previous : Nat) :
    z.phase ≠ .counted previous := by
  intro phase
  have one : 0 < counting l := List.countP_pos_iff.2 ⟨z, member, by rw [phase]; rfl⟩
  omega

/-- `fetch_add`, while no other exchange is between it and its comparison. -/
theorem Slots.count (slots : Slots jobs limit l) (at' : l[e]? = some x) (reading : x.phase = .read)
    (alone : counting l = 0) :
    Slots (jobs + 1) limit (l.set e { x with phase := .counted jobs, found := jobs }) := by
  have jobs' := slots.jobs
  have limited := slots.limited
  have before := accepted_set at' { x with phase := .counted jobs, found := jobs }
  have after := counting_set at' { x with phase := .counted jobs, found := jobs }
  simp only [reading, Phase.job, Phase.counting, Bool.false_eq_true, if_false, if_true] at before after
  refine ⟨by omega, by omega, by omega, ?_, ?_⟩
  · intro z member previous phase
    rcases List.mem_or_eq_of_mem_set member with old | rfl
    · exact absurd phase (not_counted alone old previous)
    · cases phase
      refine ⟨rfl, ?_, ?_⟩ <;> omega
  · intro z member phase
    rcases List.mem_or_eq_of_mem_set member with old | rfl
    · exact slots.busy z old phase
    · cases phase

/-- The comparison: the place is given back, or kept by the job. -/
theorem Slots.dispatch (slots : Slots jobs limit l) (at' : l[e]? = some x) {previous : Nat}
    (counted : x.phase = .counted previous) :
    (limit ≤ previous → Slots (jobs - 1) limit (l.set e { x with phase := .writing .busy })) ∧
      (previous < limit → Slots jobs limit (l.set e { x with phase := .posted })) := by
  have jobs' := slots.jobs
  have limited := slots.limited
  have single := slots.single
  obtain ⟨found, few, least⟩ := slots.room x (List.mem_of_getElem? at') previous counted
  constructor
  · intro full
    have before := accepted_set at' { x with phase := .writing .busy }
    have after := counting_set at' { x with phase := .writing .busy }
    simp only [counted, Phase.job, Phase.counting, Bool.false_eq_true, if_false, if_true]
      at before after
    have none' : counting (l.set e { x with phase := .writing .busy }) = 0 := by omega
    refine ⟨by omega, by omega, by omega, ?_, ?_⟩
    · intro z member other phase
      exact absurd phase (not_counted none' member other)
    · intro z member phase
      rcases List.mem_or_eq_of_mem_set member with old | rfl
      · exact slots.busy z old phase
      · show x.found = limit
        omega
  · intro room
    have before := accepted_set at' { x with phase := .posted }
    have after := counting_set at' { x with phase := .posted }
    simp only [counted, Phase.job, Phase.counting, Bool.false_eq_true, if_false, if_true]
      at before after
    have none' : counting (l.set e { x with phase := .posted }) = 0 := by omega
    refine ⟨by omega, by omega, by omega, ?_, ?_⟩
    · intro z member other phase
      exact absurd phase (not_counted none' member other)
    · intro z member phase
      rcases List.mem_or_eq_of_mem_set member with old | rfl
      · exact slots.busy z old phase
      · cases phase

/-- Any other move of an exchange; the one that ends the job gives the place back. -/
theorem Slots.move (slots : Slots jobs limit l) (at' : l[e]? = some x)
    (silent : x.phase.counting = false) (silent' : y.phase.counting = false)
    (begins : y.phase.job = true → x.phase.job = true) (found : y.found = x.found)
    (busy : y.phase.response = some .busy → x.phase.response = some .busy) :
    Slots (jobs - if x.phase.job && !y.phase.job then 1 else 0) limit (l.set e y) := by
  have jobs' := slots.jobs
  have limited := slots.limited
  have single := slots.single
  have before := accepted_set at' y
  have after := counting_set at' y
  rw [silent, silent'] at after
  simp only [Bool.false_eq_true, if_false] at after
  have ends : accepted (l.set e y) = accepted l - if x.phase.job && !y.phase.job then 1 else 0 := by
    cases job : x.phase.job <;> cases job' : y.phase.job
    · simpa [job, job'] using before
    · rw [begins job'] at job
      cases job
    · simp [job, job'] at before ⊢
      omega
    · simpa [job, job'] using before
  have kept : (if x.phase.job && !y.phase.job then 1 else 0) ≤ accepted l := by
    split
    · rename_i job
      simp only [Bool.and_eq_true] at job
      exact List.countP_pos_iff.2 ⟨x, List.mem_of_getElem? at', job.1⟩
    · exact Nat.zero_le _
  refine ⟨by omega, by omega, by omega, ?_, ?_⟩
  · intro z member previous phase
    rcases List.mem_or_eq_of_mem_set member with old | rfl
    · obtain ⟨found, few, least⟩ := slots.room z old previous phase
      exact ⟨found, few, by omega⟩
    · rw [phase] at silent'
      cases silent'
  · intro z member phase
    rcases List.mem_or_eq_of_mem_set member with old | rfl
    · exact slots.busy z old phase
    · rw [found]
      exact slots.busy x (List.mem_of_getElem? at') (busy phase)

/-! ## Sessions and exchanges -/

/-- What an exchange knows of the session it created: the call is under way, or has returned the
answer it carries; an answer that could not be written has closed the session. -/
def Owned (m : WebRtcManager.State) (x : Exchange) : Prop :=
  ∀ handle, x.handle = some handle → ∃ p, m.peers[handle]? = some p ∧
    (x.phase = .creating ∨ ∃ r, x.phase.response = some (.routed r) ∧ p.call = .returned r ∧
      (x.phase = .closed (.routed r) true → r.error = .none → p.registered = false))

def Named (p : Peer) : Prop :=
  p.session.id ≠ "" ∧ ∀ r, result p.call = some r → r.error = .none → r.sessionId = p.session.id

structure Sessions (m : WebRtcManager.State) (l : List Exchange) : Prop where
  owned : ∀ x ∈ l, Owned m x
  covered : ∀ handle < m.peers.length, ∃ x ∈ l, x.handle = some handle
  named : ∀ p ∈ m.peers, Named p

theorem Owned.goes (owned : Owned m x) (goes : List.Forall₂ Goes m.peers m'.peers) : Owned m' x := by
  intro handle mine
  obtain ⟨p, found, standing⟩ := owned handle mine
  obtain ⟨q, found', change⟩ := forall₂_forth goes found
  refine ⟨q, found', standing.imp_right ?_⟩
  rintro ⟨r, carries, returned, closed⟩
  exact ⟨r, carries, change.kept r returned, fun failed fine => change.gone (closed failed fine)⟩

theorem Sessions.goes (sessions : Sessions m l) (goes : List.Forall₂ Goes m.peers m'.peers) :
    Sessions m' l := by
  refine ⟨fun x member => (sessions.owned x member).goes goes, ?_, ?_⟩
  · rw [← goes.length_eq]
    exact sessions.covered
  · intro q member
    obtain ⟨handle, found⟩ := List.mem_iff_getElem?.1 member
    obtain ⟨p, before, change⟩ := forall₂_back goes found
    obtain ⟨some, named⟩ := sessions.named p (List.mem_of_getElem? before)
    refine ⟨by rw [change.id]; exact some, fun r carried fine => ?_⟩
    rw [change.id]
    rcases change.named r carried fine with old | new
    · exact named r old fine
    · exact new

/-- An exchange that keeps its session moves on. -/
theorem Sessions.set (sessions : Sessions m l) (at' : l[e]? = some x) (same : y.handle = x.handle)
    (owned : Owned m y) : Sessions m (l.set e y) := by
  obtain ⟨inside, -⟩ := List.getElem?_eq_some_iff.1 at'
  refine ⟨fun z member => ?_, fun handle there => ?_, sessions.named⟩
  · rcases List.mem_or_eq_of_mem_set member with old | rfl
    · exact sessions.owned z old
    · exact owned
  · obtain ⟨z, member, mine⟩ := sessions.covered handle there
    obtain ⟨i, found⟩ := List.mem_iff_getElem?.1 member
    by_cases which : e = i
    · subst which
      rw [at'] at found
      cases found
      exact ⟨y, List.mem_of_getElem? (List.getElem?_set_self inside), same.trans mine⟩
    · refine ⟨z, List.mem_of_getElem? (i := i) ?_, mine⟩
      rw [List.getElem?_set_ne which]
      exact found

/-- What a closed answer does to the session under its id. -/
theorem closed_gone (reg : Registry m) {handle : Nat} {p : Peer} (found : m.peers[handle]? = some p)
    {id : String} (own : id = p.session.id) :
    ∃ q, (WebRtcManager.closeSession m id).peers[handle]? = some q ∧ Goes p q ∧
      q.registered = false := by
  obtain ⟨q, found', change⟩ := forall₂_forth (closeSession_goes id) found
  refine ⟨q, found', change, ?_⟩
  subst own
  cases on : p.registered with
  | false => exact change.gone on
  | true =>
    have searched := WebRtcManager.find_own reg.distinct found on
    rw [WebRtcManager.closeSession, searched] at found'
    simp only [WebRtcManager.unregister, modify_eq_set found,
      List.getElem?_set_self (List.getElem?_eq_some_iff.1 found).1] at found'
    cases found'
    rfl

/-- A session is created by the exchange that comes to own it. -/
theorem Sessions.join (sessions : Sessions m l) (at' : l[e]? = some x) {p : Peer}
    (peers : m'.peers = m.peers ++ [p]) (named : Named p) (none' : x.handle = none)
    (mine : y.handle = some m.peers.length) (creating : y.phase = .creating) :
    Sessions m' (l.set e y) := by
  obtain ⟨inside, -⟩ := List.getElem?_eq_some_iff.1 at'
  refine ⟨fun z member => ?_, fun handle there => ?_, fun q member => ?_⟩
  · rcases List.mem_or_eq_of_mem_set member with old | rfl
    · intro handle own
      obtain ⟨q, found, standing⟩ := sessions.owned z old handle own
      refine ⟨q, ?_, standing⟩
      rw [peers]
      exact getElem_kept _ found
    · intro handle own
      rw [mine] at own
      cases own
      refine ⟨p, ?_, .inl creating⟩
      rw [peers]
      exact List.getElem?_concat_length
  · rw [peers, List.length_append, List.length_singleton] at there
    rcases Nat.lt_succ_iff_lt_or_eq.1 there with old | rfl
    · obtain ⟨z, member, own⟩ := sessions.covered handle old
      obtain ⟨i, found⟩ := List.mem_iff_getElem?.1 member
      have which : e ≠ i := by
        rintro rfl
        rw [at'] at found
        cases found
        rw [none'] at own
        cases own
      refine ⟨z, List.mem_of_getElem? (i := i) ?_, own⟩
      rw [List.getElem?_set_ne which]
      exact found
    · exact ⟨y, List.mem_of_getElem? (List.getElem?_set_self inside), mine⟩
  · rw [peers] at member
    rcases List.mem_append.1 member with old | new
    · exact sessions.named q old
    · rw [List.mem_singleton.1 new]
      exact named

theorem register_cases {id : String} {startTimestamp : UInt32} {built : Bool}
    (moved : WebRtcManager.register m id startTimestamp built = some m') :
    m'.peers = m.peers ∨ ∃ p : Peer, m'.peers = m.peers ++ [p] ∧ p.session.id = id ∧
      p.call = .accepting := by
  unfold WebRtcManager.register at moved
  split at moved
  · cases moved
    exact .inl rfl
  · split at moved
    · cases moved
    · split at moved
      · split at moved <;> cases moved
        · exact .inr ⟨_, rfl, rfl, rfl⟩
        · exact .inl rfl
      · cases moved
        exact .inl rfl

/-! ## Runs -/

structure Inv (s : State) : Prop where
  registry : Registry s.manager
  errors : Errors s.manager
  slots : Slots s.signalingJobs s.signalingLimit s.exchanges
  sessions : Sessions s.manager s.exchanges

variable {s s' : State}

theorem Inv.init (staleTimeout maxPeers : Nat) : Inv (init staleTimeout maxPeers) := by
  refine ⟨WebRtcManager.registry_init staleTimeout, ?_, ?_, ?_⟩
  · intro p member
    cases member
  · refine ⟨rfl, Nat.zero_le _, Nat.zero_le _, ?_, ?_⟩
    · intro x member
      cases member
    · intro x member
      cases member
  · refine ⟨?_, ?_, ?_⟩
    · intro x member
      cases member
    · intro handle there
      cases there
    · intro p member
      cases member

theorem Inv.manager (inv : Inv s) {action : WebRtcManager.Action}
    (moved : WebRtcManager.step s.manager action = some m')
    (sessions : Sessions m' s.exchanges) : Inv { s with manager := m' } := by
  have outcome := inv.registry.step moved
  exact ⟨outcome.registry, inv.errors.step inv.registry outcome, inv.slots, sessions⟩

/-- An exchange that has no session yet gets its response at once. -/
theorem Inv.move (inv : Inv s) (at' : s.exchanges[e]? = some x)
    (slots : Slots jobs s.signalingLimit (s.exchanges.set e y)) (same : y.handle = x.handle)
    (owned : Owned s.manager y) : Inv { set s e y with signalingJobs := jobs } :=
  ⟨inv.registry, inv.errors, slots, inv.sessions.set at' same owned⟩

/-- An exchange goes on and keeps the place it has, or has none. -/
theorem Inv.turn (inv : Inv s) (at' : s.exchanges[e]? = some x)
    (silent : x.phase.counting = false) (silent' : y.phase.counting = false)
    (job : y.phase.job = x.phase.job) (found : y.found = x.found)
    (busy : y.phase.response = some .busy → x.phase.response = some .busy)
    (same : y.handle = x.handle) (owned : Owned s.manager y) : Inv (set s e y) := by
  have slots := inv.slots.move at' silent silent' (fun begins => job ▸ begins) found busy
  rw [job] at slots
  simp only [Bool.and_not_self, Bool.false_eq_true, if_false, Nat.sub_zero] at slots
  exact inv.move at' slots same owned

theorem owned_none (none' : x.handle = none) : Owned m x := by
  intro handle mine
  rw [none'] at mine
  cases mine

/-- Before an exchange creates a session it has none. -/
theorem Inv.fresh (inv : Inv s) (at' : s.exchanges[e]? = some x) (creating : x.phase ≠ .creating)
    (silent : x.phase.response = none) : x.handle = none := by
  by_contra some
  obtain ⟨handle, mine⟩ := Option.ne_none_iff_exists'.1 some
  obtain ⟨p, -, standing⟩ := inv.sessions.owned x (List.mem_of_getElem? at') handle mine
  rcases standing with phase | ⟨r, carries, -⟩
  · exact creating phase
  · rw [silent] at carries
    cases carries

/-- A response on its way is carried on. -/
theorem Inv.carries (inv : Inv s) (at' : s.exchanges[e]? = some x) {response : Response}
    (carries : x.phase.response = some response) (creating : x.phase ≠ .creating)
    (same : y.handle = x.handle) (carries' : y.phase.response = some response)
    (opened : y.phase ≠ .closed response true) : Owned s.manager y := by
  intro handle mine
  obtain ⟨p, found, standing⟩ :=
    inv.sessions.owned x (List.mem_of_getElem? at') handle (same ▸ mine)
  refine ⟨p, found, .inr ?_⟩
  rcases standing with phase | ⟨r, carried, returned, -⟩
  · exact absurd phase creating
  · rw [carries] at carried
    cases carried
    exact ⟨r, carries', returned, fun ended => absurd ended opened⟩

theorem Inv.creates (inv : Inv s) (at' : s.exchanges[e]? = some x) (posted : x.phase = .posted)
    (fresh : x.handle = none) {id : String} (hexadecimal : id.length = 32) {startTimestamp : UInt32}
    {built : Bool} (created : create s e x id startTimestamp built = some s') : Inv s' := by
  obtain ⟨m', registered, rfl⟩ := Option.map_eq_some_iff.1 created
  have some' : id ≠ "" := by
    rintro rfl
    simp at hexadecimal
  rcases register_cases registered with same | ⟨p, peers, own, accepting⟩
  · have length : m'.peers.length = s.manager.peers.length := by rw [same]
    have inv' := inv.manager registered (inv.sessions.goes (peers_goes same))
    dsimp only
    rw [if_pos length]
    exact inv'.turn at' (by simp [posted, Phase.counting]) rfl (by simp [posted, Phase.job]) rfl
      (by simp [Phase.response]) rfl (owned_none fresh)
  · have length : m'.peers.length ≠ s.manager.peers.length := by simp [peers]
    have outcome := inv.registry.step registered
    dsimp only
    rw [if_neg length]
    refine ⟨outcome.registry, inv.errors.step inv.registry outcome, ?_, ?_⟩
    · have slots := inv.slots.move (y := { x with
        phase := .creating, handle := some s.manager.peers.length }) at'
        (by simp [posted, Phase.counting]) rfl (by simp [posted, Phase.job]) rfl (by simp [Phase.response])
      simp only [posted, Phase.job, Bool.not_true, Bool.and_false, Bool.false_eq_true, if_false,
        Nat.sub_zero] at slots
      exact slots
    · refine inv.sessions.join at' peers ⟨by rw [own]; exact some', ?_⟩ fresh rfl rfl
      intro r carried
      rw [accepting] at carried
      cases carried

/-- The write completes; when it fails the session of the answer is closed. -/
theorem Inv.writes (inv : Inv s) (at' : s.exchanges[e]? = some x) {response : Response}
    (writing : x.phase = .writing response) (error : Bool) :
    Inv (if error && response.pendingSessionId ≠ "" then
      { set s e { x with phase := .closed response error } with
        manager := WebRtcManager.closeSession s.manager response.pendingSessionId }
      else set s e { x with phase := .closed response error }) := by
  have pending : ∀ r, response = .routed r → r.error = .none → ∀ p ∈ s.manager.peers,
      p.call = .returned r → response.pendingSessionId = p.session.id ∧ response.pendingSessionId ≠ "" := by
    rintro r rfl fine p member returned
    obtain ⟨some', named⟩ := inv.sessions.named p member
    have own := named r (by rw [returned]; rfl) fine
    simp only [Response.pendingSessionId, fine, if_true, own]
    exact ⟨trivial, some'⟩
  have carried : x.phase.response = some response := by
    rw [writing]
    rfl
  split
  · rename_i closing
    have closes : WebRtcManager.step s.manager (.closeSession response.pendingSessionId) =
        some (WebRtcManager.closeSession s.manager response.pendingSessionId) := rfl
    have outcome := inv.registry.step closes
    have inv' := inv.manager closes
      (inv.sessions.goes (closeSession_goes response.pendingSessionId))
    refine inv'.turn at' (by simp [writing, Phase.counting]) rfl (by simp [writing, Phase.job]) rfl
      (by simp [writing, Phase.response]) rfl ?_
    intro handle mine
    obtain ⟨p, found, standing⟩ := inv.sessions.owned x (List.mem_of_getElem? at') handle mine
    rcases standing with creating | ⟨r, carries, returned, -⟩
    · rw [writing] at creating
      cases creating
    · rw [carried] at carries
      cases carries
      by_cases fine : r.error = .none
      · obtain ⟨own, -⟩ := pending r rfl fine p (List.mem_of_getElem? found) returned
        obtain ⟨q, found', change, gone⟩ := closed_gone inv.registry found own
        exact ⟨q, found', .inr ⟨r, rfl, change.kept r returned, fun _ _ => gone⟩⟩
      · obtain ⟨q, found', change⟩ :=
          forall₂_forth (closeSession_goes (Response.routed r).pendingSessionId) found
        exact ⟨q, found', .inr ⟨r, rfl, change.kept r returned, fun _ none' => absurd none' fine⟩⟩
  · rename_i kept
    refine inv.turn at' (by simp [writing, Phase.counting]) rfl (by simp [writing, Phase.job]) rfl
      (by simp [writing, Phase.response]) rfl ?_
    intro handle mine
    obtain ⟨p, found, standing⟩ := inv.sessions.owned x (List.mem_of_getElem? at') handle mine
    rcases standing with creating | ⟨r, carries, returned, -⟩
    · rw [writing] at creating
      cases creating
    · rw [carried] at carries
      cases carries
      refine ⟨p, found, .inr ⟨r, rfl, returned, fun failed fine => ?_⟩⟩
      obtain ⟨-, some'⟩ := pending r rfl fine p (List.mem_of_getElem? found) returned
      simp only [Phase.closed.injEq, true_and] at failed
      simp [failed, some'] at kept

theorem Inv.step (inv : Inv s) {move : Move} (moved : step s move = some s') : Inv s' := by
  cases move with
  | read =>
    cases moved
    refine ⟨inv.registry, inv.errors, inv.slots.read, ?_, ?_, inv.sessions.named⟩
    · intro x member
      rcases List.mem_append.1 member with old | new
      · exact inv.sessions.owned x old
      · rw [List.mem_singleton.1 new]
        exact owned_none rfl
    · intro handle there
      obtain ⟨x, member, mine⟩ := inv.sessions.covered handle there
      exact ⟨x, List.mem_append_left _ member, mine⟩
  | count e =>
    obtain ⟨x, at', moved⟩ := Option.bind_eq_some_iff.1 moved
    split at moved
    · rename_i ready
      cases moved
      simp only [Bool.and_eq_true, decide_eq_true_eq, Bool.not_eq_true'] at ready
      obtain ⟨reading, alone⟩ := ready
      have none' : counting s.exchanges = 0 := by
        apply List.countP_eq_zero.2
        intro z member
        have := List.any_eq_false.1 alone z member
        simpa using this
      have fresh : x.handle = none :=
        inv.fresh at' (by simp [reading]) (by simp [reading, Phase.response])
      exact inv.move at' (inv.slots.count at' reading none') rfl (owned_none fresh)
    · cases moved
  | dispatch e =>
    obtain ⟨x, at', moved⟩ := Option.bind_eq_some_iff.1 moved
    dsimp only at moved
    split at moved
    · rename_i previous counted
      obtain ⟨refuses, posts⟩ := inv.slots.dispatch at' counted
      have none' : x.handle = none :=
        inv.fresh at' (by simp [counted]) (by simp [counted, Phase.response])
      split at moved
      · rename_i full
        cases moved
        exact inv.move at' (refuses full) rfl (owned_none none')
      · rename_i room
        cases moved
        exact inv.move at' (posts (by omega)) rfl (owned_none none')
    · cases moved
  | create e sdp empty id startTimestamp built =>
    obtain ⟨x, at', moved⟩ := Option.bind_eq_some_iff.1 moved
    split at moved
    · rename_i ready
      simp only [Bool.and_eq_true, decide_eq_true_eq] at ready
      have fresh : x.handle = none :=
        inv.fresh at' (by simp [ready.1]) (by simp [ready.1, Phase.response])
      have answers : ∀ response, response ≠ .busy →
          Inv (set s e { x with phase := .routed response }) := by
        intro response busy
        exact inv.turn at' (by simp [ready.1, Phase.counting]) rfl (by simp [ready.1, Phase.job]) rfl
          (fun is => absurd (Option.some.inj is) busy) rfl (owned_none fresh)
      split at moved
      · cases moved
        exact answers .unsupported (by simp)
      · split at moved
        · cases moved
          exact answers (.routed emptyOffer) (by simp)
        · split at moved
          · rename_i hexadecimal
            exact inv.creates at' ready.1 fresh hexadecimal moved
          · cases moved
    · cases moved
  | returns e =>
    obtain ⟨x, at', moved⟩ := Option.bind_eq_some_iff.1 moved
    obtain ⟨handle, mine, moved⟩ := Option.bind_eq_some_iff.1 moved
    obtain ⟨p, found, moved⟩ := Option.bind_eq_some_iff.1 moved
    split at moved
    · rename_i r creating returned
      cases moved
      refine inv.turn at' (by simp [creating, Phase.counting]) rfl (by simp [creating, Phase.job]) rfl
        (by simp [Phase.response]) rfl ?_
      intro handle' own
      rw [show x.handle = some handle' from own] at mine
      cases mine
      exact ⟨p, found, .inr ⟨r, rfl, returned, by simp⟩⟩
    · cases moved
  | release e =>
    obtain ⟨x, at', moved⟩ := Option.bind_eq_some_iff.1 moved
    dsimp only at moved
    split at moved
    · rename_i response routed
      cases moved
      have slots := inv.slots.move (y := { x with phase := .answered response }) at'
        (by simp [routed, Phase.counting]) rfl (by simp [Phase.job]) rfl
        (by simp [routed, Phase.response])
      simp only [routed, Phase.job, Bool.not_false, Bool.and_self, if_true] at slots
      refine inv.move at' slots rfl ?_
      exact inv.carries at' (by rw [routed]; rfl) (by simp [routed]) rfl rfl (by simp)
    · cases moved
  | send e =>
    obtain ⟨x, at', moved⟩ := Option.bind_eq_some_iff.1 moved
    split at moved
    · rename_i response answered
      cases moved
      refine inv.turn at' (by simp [answered, Phase.counting]) rfl (by simp [answered, Phase.job]) rfl
        (by simp [answered, Phase.response]) rfl ?_
      exact inv.carries at' (by rw [answered]; rfl) (by simp [answered]) rfl rfl (by simp)
    · cases moved
  | written e error =>
    obtain ⟨x, at', moved⟩ := Option.bind_eq_some_iff.1 moved
    dsimp only at moved
    split at moved
    · rename_i response writing
      cases moved
      exact inv.writes at' writing error
    · cases moved
  | manager action =>
    simp only [WhepSignaling.step] at moved
    split at moved
    · rename_i ours
      obtain ⟨m', stepped, rfl⟩ := Option.map_eq_some_iff.1 moved
      exact inv.manager stepped (inv.sessions.goes (foreign_goes inv.registry ours stepped))
    · cases moved

theorem runs_inv {staleTimeout maxPeers : Nat} (run : Runs step Free (init staleTimeout maxPeers) s) :
    Inv s := by
  apply run.invariant
  · exact .init staleTimeout maxPeers
  · intro u move v inv _ moved
    exact inv.step moved

/-- **WHEP requests**, in every interleaving with each other, the manager's threads and the
clients' deletes. The signaling jobs are counted exactly and never more than the limit; a request is
refused for want of a place only when it met as many jobs as the limit. A session that is
registered belongs to an exchange: its `create_session` is under way, or has returned an error
while a `shutdown` is about to remove it, or the answer names the session and is on its way to
the client or was written; the session of an answer that could not be written is closed. -/
theorem whep_signaling {staleTimeout maxPeers : Nat}
    (run : Runs step Free (init staleTimeout maxPeers) s) :
    s.signalingJobs = accepted s.exchanges + counting s.exchanges ∧
      accepted s.exchanges ≤ s.signalingLimit ∧
      (∀ x ∈ s.exchanges, x.phase.response = some .busy → x.found = s.signalingLimit) ∧
      ∀ (handle : Nat) (p : Peer), s.manager.peers[handle]? = some p → p.registered = true →
        ∃ x ∈ s.exchanges, x.handle = some handle ∧
          (x.phase = .creating ∨ ∃ r, x.phase.response = some (.routed r) ∧ p.call = .returned r ∧
            (r.error ≠ .none → s.manager.lifecycle.stops = true) ∧
            (r.error = .none → r.sessionId = p.session.id ∧
              x.phase ≠ .closed (.routed r) true)) := by
  have inv := runs_inv run
  refine ⟨inv.slots.jobs, inv.slots.limited, inv.slots.busy, fun handle p found on => ?_⟩
  have member := List.mem_of_getElem? found
  obtain ⟨x, there, mine⟩ := inv.sessions.covered handle (List.getElem?_eq_some_iff.1 found).1
  refine ⟨x, there, mine, ?_⟩
  obtain ⟨q, found', standing⟩ := inv.sessions.owned x there handle mine
  rw [found] at found'
  cases found'
  refine standing.imp_right ?_
  rintro ⟨r, carries, returned, closed⟩
  refine ⟨r, carries, returned, fun error => inv.errors p member r returned error on, fun fine => ?_⟩
  refine ⟨(inv.sessions.named p member).2 r (by rw [returned]; rfl) fine, fun failed => ?_⟩
  rw [closed failed fine] at on
  cases on

def viewer : String := "00000000000000000000000000000007"

/-- With one place, a second request is refused while the first is routed; the first client is gone
when its answer is written, and its session is closed. -/
theorem whep_signaling_refused : ∃ s : State, ∃ p : Peer, s.manager.peers[0]? = some p ∧
    p.registered = false ∧ (∃ x ∈ s.exchanges, x.phase.response = some .busy ∧ x.found = 1) ∧
    s.signalingJobs = 0 := by
  have reached : ∃ s, Runs step Free (init 0 1) s ∧ s.signalingLimit = 1 ∧
      s.manager.lifecycle.stops = false ∧
      (s.manager.peers[0]?.map fun p => p.call) = some (.returned { sessionId := viewer }) ∧
      s.exchanges.map (fun x => (x.phase, x.handle)) =
        [(.closed (.routed { sessionId := viewer }) true, some 0), (.writing .busy, none)] := by
    apply Runs.exists_of_play [.manager (.shutdown (some { maxPeers := 1 })), .manager .clear,
      .manager .enable, .read, .read, .count 0, .dispatch 0, .create 0 true false viewer 0 true,
      .count 1, .dispatch 1, .manager (.peer 0 (.accept 0 { sessionId := viewer })),
      .manager (.peer 0 .capture), .manager (.peer 0 .activate), .manager (.peer 0 (.spawn true)),
      .returns 0, .release 0, .send 0, .written 0 true]
    · decide +kernel
    · exact Meets.free _ _
  obtain ⟨s, run, one, quiet, call, phases⟩ := reached
  obtain ⟨jobs, -, busy, owned⟩ := whep_signaling run
  obtain ⟨p, found, -⟩ := Option.map_eq_some_iff.1 call
  have each : ∀ x ∈ s.exchanges, (x.phase, x.handle) ∈
      [(.closed (.routed { sessionId := viewer }) true, some 0), (.writing .busy, none)] := by
    intro x member
    rw [← phases]
    exact List.mem_map_of_mem member
  refine ⟨s, p, found, ?_, ?_, ?_⟩
  · cases on : p.registered with
    | false => rfl
    | true =>
      obtain ⟨x, member, mine, standing⟩ := owned 0 p found on
      have is := each x member
      simp only [mine, List.mem_cons, Prod.mk.injEq, and_true, List.not_mem_nil, or_false,
        reduceCtorEq, and_false] at is
      rcases standing with creating | ⟨r, carries, -, -, named⟩
      · rw [is] at creating
        cases creating
      · rw [is] at carries
        cases carries
        exact absurd is (named rfl).2
  · obtain ⟨x, member, is⟩ : ∃ x ∈ s.exchanges, (x.phase, x.handle) = (.writing .busy, none) := by
      rw [← List.mem_map, phases]
      simp
    have carries : x.phase.response = some .busy := by
      rw [(Prod.mk.inj is).1]
      rfl
    exact ⟨x, member, carries, (busy x member carries).trans one⟩
  · have idle : ∀ x ∈ s.exchanges, x.phase.job = false ∧ x.phase.counting = false := by
      intro x member
      have is := each x member
      simp only [List.mem_cons, Prod.mk.injEq, List.not_mem_nil, or_false] at is
      rcases is with ⟨phase, -⟩ | ⟨phase, -⟩
      · rw [phase]
        exact ⟨rfl, rfl⟩
      · rw [phase]
        exact ⟨rfl, rfl⟩
    rw [jobs, accepted, counting, List.countP_eq_zero.2, List.countP_eq_zero.2]
    · intro x member
      simp [(idle x member).2]
    · intro x member
      simp [(idle x member).1]

end SkaiEdge.Web.WhepSignaling
