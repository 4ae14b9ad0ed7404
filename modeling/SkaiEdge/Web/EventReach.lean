import SkaiEdge.Web.EventHub
import SkaiEdge.Lib.InPlace

/-!
# Every session receives what is published while it listens

`Tied` relates the channel's table to the sessions: an entry is the subscription of a session that
still has it, so giving one up removes no other. `Client.Sound` says when a session has one: while
it is listening. So the copy a publisher takes names the sessions that listen then, and what is
due by the fanout is what was heard. `Ledger` relates each inbox to the calls the publishers made.
The session's own invariant carries what was received on to the socket.
-/

namespace SkaiEdge.Web

open SkaiEdge.Lib

/-! ## Sessions and subscriptions -/

structure Client.Sound (s : Client) : Prop where
  inv : Inv s.web
  pushed : s.received.map Prod.snd = s.web.pushed
  fresh : s.handshaking = true → s.web.closed = false ∧ s.web.stopping = false
  listens : s.subscriptionId ≠ 0 ↔
    s.alive = true ∧ s.handshaking = false ∧ s.web.closed = false ∧ s.web.stopping = false

structure Tied (c : EventChannel) (clients : List Client) : Prop where
  issued : ∀ entry ∈ c.subscribers, entry.1 < c.nextId
  distinct : (c.subscribers.map Prod.fst).Nodup
  tied : ∀ id i, (id, i) ∈ c.subscribers ↔
    id ≠ 0 ∧ ∃ s, clients[i]? = some s ∧ s.subscriptionId = id

/-- What a handler may do to the subscription of session `i`, and how many ids it takes. -/
inductive Moved (c : EventChannel) (s : Client) (i : Nat) : Nat → EventChannel → Client → Prop where
  | kept {s' : Client} : s'.subscriptionId = s.subscriptionId → Moved c s i 0 c s'
  | dropped {s' : Client} : s.subscriptionId ≠ 0 → s'.subscriptionId = 0 →
      Moved c s i 0 (c.unsubscribe s.subscriptionId) s'
  | added {s' : Client} : s.subscriptionId = 0 → s'.subscriptionId = c.nextId →
      Moved c s i 1 (c.subscribe i).2 s'

/-- The session keeps what it has received, and is not built again. -/
structure Client.Same (s s' : Client) : Prop where
  received : s'.received = s.received
  alive : s'.alive = true → s.alive = true

variable {c c' : EventChannel} {clients : List Client} {s s' : Client} {i : Nat}

theorem Client.unsubscribe_moved (s₀ : Client) (same : s.subscriptionId = s₀.subscriptionId) (i : Nat) :
    Moved c s₀ i 0 (s.unsubscribe c).1 (s.unsubscribe c).2 := by
  unfold Client.unsubscribe
  split
  · rename_i listening
    rw [same] at listening ⊢
    exact .dropped listening rfl
  · exact .kept same

@[simp] theorem Client.unsubscribe_keeps (c : EventChannel) (s : Client) :
    (s.unsubscribe c).2.web = s.web ∧ (s.unsubscribe c).2.handshaking = s.handshaking ∧
      (s.unsubscribe c).2.alive = s.alive ∧ (s.unsubscribe c).2.received = s.received ∧
      (s.unsubscribe c).2.subscriptionId = 0 := by
  unfold Client.unsubscribe
  split
  · exact ⟨rfl, rfl, rfl, rfl, rfl⟩
  · rename_i silent
    exact ⟨rfl, rfl, rfl, rfl, by simpa using silent⟩

/-- A session that gives its subscription up for a reason is sound. -/
theorem Client.Sound.unsubscribe (inv : Inv s.web) (pushed : s.received.map Prod.snd = s.web.pushed)
    (fresh : s.handshaking = true → s.web.closed = false ∧ s.web.stopping = false)
    (ended : s.alive = false ∨ s.web.closed = true ∨ s.web.stopping = true) (c : EventChannel) :
    (s.unsubscribe c).2.Sound := by
  obtain ⟨web, handshaking, alive, received, none'⟩ := Client.unsubscribe_keeps c s
  refine ⟨by rw [web]; exact inv, by rw [web, received]; exact pushed, ?_, ?_⟩
  · rw [handshaking, web]
    exact fresh
  · rw [none', alive, handshaking, web]
    constructor
    · intro some
      exact absurd rfl some
    · rintro ⟨living, -, opened, going⟩
      rcases ended with dead | closed | stopping
      · rw [dead] at living; contradiction
      · rw [closed] at opened; contradiction
      · rw [stopping] at going; contradiction

theorem Tied.receivers (tied : Tied c clients) : (c.subscribers.map Prod.snd).Nodup := by
  rw [List.Nodup, List.pairwise_map]
  refine (List.pairwise_map.1 tied.distinct).imp_of_mem ?_
  rintro ⟨id, i⟩ ⟨id', i'⟩ member member' apart same
  obtain rfl : i = i' := same
  obtain ⟨-, s, at', mine⟩ := (tied.tied id i).1 member
  obtain ⟨-, s', at'', mine'⟩ := (tied.tied id' i).1 member'
  rw [at'] at at''
  cases at''
  exact apart (mine.symm.trans mine')

theorem Client.listening_iff : s.listening = true ↔
    s.alive = true ∧ s.handshaking = false ∧ s.web.closed = false ∧ s.web.stopping = false := by
  simp [Client.listening, and_assoc]

/-- A publisher's copy of the subscribers names the sessions that listen. -/
theorem Tied.mem_receivers (tied : Tied c clients)
    (sound : ∀ (i : Nat) (s : Client), clients[i]? = some s → s.Sound) (i : Nat) :
    i ∈ c.subscribers.map Prod.snd ↔ clients[i]?.any Client.listening = true := by
  rw [Option.any_eq_true]
  constructor
  · intro named
    obtain ⟨⟨id, j⟩, entry, rfl⟩ := List.mem_map.1 named
    obtain ⟨some, s, at', rfl⟩ := (tied.tied id j).1 entry
    exact ⟨s, at', Client.listening_iff.2 ((sound _ s at').listens.1 some)⟩
  · rintro ⟨s, at', listening⟩
    have some := (sound i s at').listens.2 (Client.listening_iff.1 listening)
    exact List.mem_map.2 ⟨_, (tied.tied _ i).2 ⟨some, s, at', rfl⟩, rfl⟩

theorem Moved.channel {more : Nat} (moved : Moved c s i more c' s') (few : c.nextId + 1 < 2 ^ 64) :
    c'.nextId = c.nextId + more ∧ c'.recentErrors = c.recentErrors := by
  cases moved with
  | kept => exact ⟨rfl, rfl⟩
  | dropped => exact ⟨rfl, rfl⟩
  | added => exact ⟨Nat.mod_eq_of_lt few, rfl⟩

theorem Tied.moved (tied : Tied c clients) (at' : clients[i]? = some s) {more : Nat} (moved : Moved c s i more c' s')
    (first : 0 < c.nextId) (few : c.nextId + 1 < 2 ^ 64) : Tied c' (clients.set i s') := by
  obtain ⟨inside, -⟩ := List.getElem?_eq_some_iff.1 at'
  have here : (clients.set i s')[i]? = some s' := by simp [inside]
  have elsewhere : ∀ j, j ≠ i → (clients.set i s')[j]? = clients[j]? := by
    intro j other
    simp [other.symm]
  have others : ∀ id j, j ≠ i → ((∃ t, (clients.set i s')[j]? = some t ∧ t.subscriptionId = id) ↔
      ∃ t, clients[j]? = some t ∧ t.subscriptionId = id) := by
    intro id j other
    rw [elsewhere j other]
  have mine : ∀ id, (∃ t, (clients.set i s')[i]? = some t ∧ t.subscriptionId = id) ↔
      s'.subscriptionId = id := by
    intro id
    simp [here]
  have mine' : ∀ id, (∃ t, clients[i]? = some t ∧ t.subscriptionId = id) ↔ s.subscriptionId = id := by
    intro id
    simp [at']
  cases moved with
  | kept same =>
    refine ⟨tied.issued, tied.distinct, fun id j => ?_⟩
    rw [tied.tied]
    by_cases which : j = i
    · subst which
      rw [mine, mine', same]
    · rw [others id j which]
  | dropped listening silent =>
    refine ⟨fun entry member => ?_, ?_, fun id j => ?_⟩
    · exact tied.issued entry (List.mem_of_mem_filter member)
    · exact tied.distinct.sublist ((List.filter_sublist).map _)
    · simp only [EventChannel.unsubscribe, List.mem_filter, decide_eq_true_eq]
      rw [tied.tied]
      by_cases which : j = i
      · subst which
        rw [mine, mine', silent]
        constructor
        · rintro ⟨⟨-, is⟩, isNot⟩
          exact absurd is.symm isNot
        · rintro ⟨some, is⟩
          exact absurd is.symm some
      · rw [others id j which, and_iff_left_iff_imp]
        rintro ⟨some, t, at'', is⟩ same
        subst same
        have taken : (s.subscriptionId, j) ∈ c.subscribers := (tied.tied _ _).2 ⟨some, t, at'', is⟩
        have own : (s.subscriptionId, i) ∈ c.subscribers := (tied.tied _ _).2 ⟨some, s, at', rfl⟩
        have one := List.inj_on_of_nodup_map tied.distinct taken own rfl
        exact which (Prod.mk.inj one).2
  | added silent took =>
    have unused : ∀ entry ∈ c.subscribers, entry.1 ≠ c.nextId :=
      fun entry member => (tied.issued entry member).ne
    have absent : (c.subscribers.any (·.1 = c.nextId)) = false := by
      rw [Bool.eq_false_iff]
      intro some
      obtain ⟨entry, member, is⟩ := List.any_eq_true.1 some
      exact unused entry member (of_decide_eq_true is)
    have next : (c.nextId + 1) % 2 ^ 64 = c.nextId + 1 := Nat.mod_eq_of_lt few
    refine ⟨fun entry member => ?_, ?_, fun id j => ?_⟩
    · simp only [EventChannel.subscribe, absent, next] at member ⊢
      rcases List.mem_append.1 member with old | new
      · exact (tied.issued entry old).trans (Nat.lt_succ_self _)
      · rw [List.mem_singleton.1 new]
        exact Nat.lt_succ_self _
    · simp only [EventChannel.subscribe, absent, Bool.false_eq_true, if_false, List.map_append,
        List.map_cons, List.map_nil]
      refine List.nodup_append.2 ⟨tied.distinct, List.nodup_singleton _, ?_⟩
      rintro id member _ last rfl
      obtain ⟨entry, entries, rfl⟩ := List.mem_map.1 member
      exact unused entry entries (List.mem_singleton.1 last)
    · simp only [EventChannel.subscribe, absent, Bool.false_eq_true, if_false, List.mem_append,
        List.mem_singleton, Prod.mk.injEq]
      rw [tied.tied]
      by_cases which : j = i
      · subst which
        rw [mine, mine', silent, took]
        constructor
        · rintro (⟨some, is⟩ | ⟨rfl, -⟩)
          · exact absurd is.symm some
          · exact ⟨first.ne', rfl⟩
        · rintro ⟨-, rfl⟩
          exact .inr ⟨rfl, rfl⟩
      · rw [others id j which]
        simp [which]

/-! ## What a handler does to its session -/

theorem Client.onAccept_spec (sound : s.Sound) (living : s.alive = true)
    (handshaking : s.handshaking = true) (first : 0 < c.nextId) (i : Nat) (error : Bool) :
    (s.onAccept c i error).2.Sound ∧ Client.Same s (s.onAccept c i error).2 ∧
      Moved c s i (if error then 0 else 1) (s.onAccept c i error).1 (s.onAccept c i error).2 := by
  have silent : s.subscriptionId = 0 := by
    by_contra some
    have := (sound.listens.1 some).2.1
    rw [handshaking] at this
    contradiction
  obtain ⟨opened, going⟩ := sound.fresh handshaking
  unfold Client.onAccept
  split
  · refine ⟨?_, ?_, Client.unsubscribe_moved _ (by rfl) i⟩
    · apply Client.Sound.unsubscribe
      · exact sound.inv.cleanup
      · exact sound.pushed
      · intro again
        cases again
      · exact .inr (.inl rfl)
    · exact ⟨by simp, by simp⟩
  · refine ⟨⟨sound.inv, sound.pushed, ?_, ?_⟩, ⟨rfl, fun _ => living⟩, .added silent rfl⟩
    · intro again
      cases again
    · exact ⟨fun _ => ⟨living, rfl, opened, going⟩, fun _ => first.ne'⟩

@[simp] theorem writeNext_keeps (web : State) : (writeNext web).pushed = web.pushed ∧
    (writeNext web).closed = web.closed ∧ (writeNext web).stopping = web.stopping := by
  unfold writeNext
  split <;> exact ⟨rfl, rfl, rfl⟩

@[simp] theorem enqueue_keeps (web : State) (event : Outgoing) :
    (enqueue web event).pushed = web.pushed ∧ (enqueue web event).closed = web.closed ∧
      (enqueue web event).stopping = web.stopping := by
  unfold enqueue
  split
  · exact ⟨rfl, rfl, rfl⟩
  · dsimp only
    split
    · simp
    · exact ⟨rfl, rfl, rfl⟩

@[simp] theorem beginClose_keeps (web : State) : (beginClose web).pushed = web.pushed ∧
    (beginClose web).closed = web.closed ∧ (beginClose web).stopping = web.stopping := by
  unfold beginClose
  split <;> exact ⟨rfl, rfl, rfl⟩

@[simp] theorem stop_keeps (web : State) : (Web.stop web).pushed = web.pushed ∧
    (Web.stop web).closed = web.closed ∧ (Web.stop web).stopping = (web.stopping || !web.closed) := by
  unfold Web.stop
  split
  · rename_i ended
    cases closed : web.closed
    · rw [closed] at ended
      exact ⟨rfl, rfl, by simpa using ended⟩
    · simp
  · rename_i going
    have opened : web.closed = false := by simp_all
    dsimp only
    split <;> simp [opened]

/-- `closed_` and `stopping_` behind a handler of the session. -/
def halted (web : State) : Action → Bool × Bool
  | .written true | .cleanup => (true, web.stopping)
  | .stop => (web.closed, web.stopping || !web.closed)
  | _ => (web.closed, web.stopping)

theorem step_own {web web' : State} {action : Action} (moved : step web action = some web')
    (own : ∀ type timestamp data, action ≠ .push type timestamp data) :
    web'.pushed = web.pushed ∧ (web'.closed, web'.stopping) = halted web action := by
  cases action with
  | push type timestamp data => exact absurd rfl (own type timestamp data)
  | post | drain | enqueueNext | direct =>
    simp only [Web.step] at moved
    split at moved <;> cases moved
    all_goals simp [halted]
  | written error =>
    simp only [Web.step] at moved
    split at moved
    · cases moved
      unfold onWrite
      cases error
      · simp only [Bool.false_eq_true, if_false]
        split <;> simp [halted]
      · exact ⟨rfl, rfl⟩
    · cases moved
  | stop =>
    simp only [Web.step] at moved
    split at moved
    · cases moved
      simp [halted]
    · cases moved
  | cleanup =>
    simp only [Web.step] at moved
    split at moved
    · cases moved
      exact ⟨rfl, rfl⟩
    · cases moved

/-- A handler that leaves the session as open as it was. -/
theorem Client.Sound.quiet (sound : s.Sound) {web : State} (inv : Inv web)
    (pushed : web.pushed = s.web.pushed)
    (same : (web.closed, web.stopping) = (s.web.closed, s.web.stopping)) :
    ({ s with web := web } : Client).Sound := by
  obtain ⟨closed, stopping⟩ := Prod.mk.inj same
  refine ⟨inv, by rw [pushed]; exact sound.pushed, ?_, ?_⟩
  · rw [closed, stopping]
    exact sound.fresh
  · rw [closed, stopping]
    exact sound.listens

/-- A handler that ends the session gives the subscription up. -/
theorem Client.Sound.ended (sound : s.Sound) (accepted : s.handshaking = false) {web : State}
    (inv : Inv web) (pushed : web.pushed = s.web.pushed)
    (over' : web.closed = true ∨ web.stopping = true) (registered : Bool) (i : Nat) :
    let after := Client.unsubscribe c { s with web := web, registered := registered }
    after.2.Sound ∧ Client.Same s after.2 ∧ Moved c s i 0 after.1 after.2 := by
  refine ⟨?_, ⟨by simp, by simp⟩, Client.unsubscribe_moved _ (by rfl) i⟩
  refine Client.Sound.unsubscribe inv ?_ ?_ (.inr over') c
  · rw [pushed]
    exact sound.pushed
  · intro again
    rw [accepted] at again
    contradiction

theorem Client.handler_spec (sound : s.Sound) (accepted : s.handshaking = false) {action : Action}
    (i : Nat) {after : EventChannel × Client} (handled : s.handler c action = some after) :
    after.2.Sound ∧ Client.Same s after.2 ∧ Moved c s i 0 after.1 after.2 := by
  obtain ⟨web, moved, rest⟩ := Option.bind_eq_some_iff.1 handled
  have inv : Inv web := sound.inv.step moved
  have quiet : (∀ type timestamp data, action ≠ .push type timestamp data) →
      halted s.web action = (s.web.closed, s.web.stopping) →
      let s' : Client := { s with web := web }
      s'.Sound ∧ Client.Same s s' ∧ Moved c s i 0 c s' := by
    intro own unchanged
    obtain ⟨pushed, same⟩ := step_own moved own
    exact ⟨sound.quiet inv pushed (same.trans unchanged), ⟨rfl, fun living => living⟩, .kept rfl⟩
  have closes : (∀ type timestamp data, action ≠ .push type timestamp data) →
      halted s.web action = (true, s.web.stopping) →
      let after := s.cleanup c web
      after.2.Sound ∧ Client.Same s after.2 ∧ Moved c s i 0 after.1 after.2 := by
    intro own ending
    unfold Client.cleanup
    split
    · rename_i closed
      exact quiet own (by rw [ending, closed])
    · obtain ⟨pushed, same⟩ := step_own moved own
      exact sound.ended accepted inv pushed (.inl (Prod.mk.inj (same.trans ending)).1) false i
  cases action with
  | push type timestamp data => cases rest
  | post | drain | enqueueNext | direct =>
    cases rest
    exact quiet (by simp) rfl
  | written error =>
    cases error <;> cases rest
    · exact quiet (by simp) rfl
    · exact closes (by simp) rfl
  | stop =>
    cases rest
    unfold Client.stop
    split
    · rename_i ended
      refine quiet (by simp) ?_
      cases closed : s.web.closed <;> simp_all [halted]
    · rename_i going
      obtain ⟨pushed, same⟩ := step_own moved (by simp)
      refine sound.ended accepted inv pushed (.inr ?_) s.registered i
      rw [(Prod.mk.inj same).2]
      simp_all
  | cleanup =>
    cases rest
    exact closes (by simp) rfl

theorem Client.Sound.notify (sound : s.Sound) (publisher : Nat) {event : List Char}
    (some : event ≠ []) : (s.notify publisher event).Sound := by
  unfold Client.notify
  split
  · refine ⟨sound.inv.push some, ?_, sound.fresh, sound.listens⟩
    simp [pushIncoming, sound.pushed]
  · exact sound

/-! ## The whole hub -/

/-- Each inbox has what its publishers' calls brought, all of it while the session lives. -/
structure Ledger (f : Fanout Nat Nat (List Char)) (clients : List Client) : Prop where
  settled : f.Settled
  living : ∀ i s, clients[i]? = some s → s.alive = true → ∀ p, s.receivedFrom p = f.made p i
  gone : ∀ i s, clients[i]? = some s → ∀ p, s.receivedFrom p <+: f.made p i
  absent : ∀ i, clients.length ≤ i → ∀ p, f.due p i = []
  texts : ∀ p, ∀ entry ∈ f.pending p, entry.2 ≠ []

structure Hub.Inv (h : Hub) : Prop where
  sound : ∀ (i : Nat) (s : Client), h.clients[i]? = some s → s.Sound
  tied : Tied h.channel h.clients
  issued : h.channel.nextId = h.subscribed + 1
  ledger : Ledger h.fanout h.clients
  heard : ∀ p i, h.heard p i = h.fanout.due p i
  errors : h.channel.recentErrors = h.errors.drop (h.errors.length - 10)

variable {h h' : Hub} {f : Fanout Nat Nat (List Char)}

theorem Ledger.set (ledger : Ledger f clients) (at' : clients[i]? = some s)
    (same : Client.Same s s') : Ledger f (clients.set i s') := by
  obtain ⟨inside, -⟩ := List.getElem?_eq_some_iff.1 at'
  have received : ∀ p, s'.receivedFrom p = s.receivedFrom p := by
    intro p
    rw [Client.receivedFrom, same.received, Client.receivedFrom]
  refine ⟨ledger.settled, ?_, ?_, ?_, ledger.texts⟩
  · intro j t there living p
    by_cases which : i = j
    · subst which
      obtain rfl : s' = t := by simpa [inside] using there
      rw [received, ledger.living i s at' (same.alive living)]
    · rw [List.getElem?_set_ne which] at there
      exact ledger.living j t there living p
  · intro j t there p
    by_cases which : i = j
    · subst which
      obtain rfl : s' = t := by simpa [inside] using there
      rw [received]
      exact ledger.gone i s at' p
    · rw [List.getElem?_set_ne which] at there
      exact ledger.gone j t there p
  · intro j beyond
    exact ledger.absent j (by simpa using beyond)

theorem Ledger.connect (ledger : Ledger f clients) : Ledger f (clients ++ [({} : Client)]) := by
  have unheard : ∀ p, f.made p clients.length = [] := by
    intro p
    have none' := ledger.absent clients.length le_rfl p
    exact List.prefix_nil.1 (none' ▸ ledger.settled.made_prefix p clients.length)
  refine ⟨ledger.settled, ?_, ?_, ?_, ledger.texts⟩
  · intro j t there living p
    rcases getElem_snoc there with old | ⟨rfl, rfl⟩
    · exact ledger.living j t old living p
    · rw [unheard]
      rfl
  · intro j t there p
    rcases getElem_snoc there with old | ⟨rfl, rfl⟩
    · exact ledger.gone j t old p
    · rw [unheard]
      exact List.prefix_rfl
  · intro j beyond
    simp only [List.length_append, List.length_singleton] at beyond
    exact ledger.absent j (by omega)

theorem Ledger.publish (ledger : Ledger f clients) {p : Nat} (ready : f.pending p = [])
    {event : List Char} (some' : event ≠ []) {receivers : List Nat} (distinct : receivers.Nodup)
    (inside : ∀ k ∈ receivers, k < clients.length) :
    Ledger (f.publish p event receivers) clients := by
  refine ⟨ledger.settled.publish ready event distinct, ledger.living, ledger.gone, ?_, ?_⟩
  · intro j beyond q
    by_cases same : q = p
    · subst same
      have out : j ∉ receivers := by
        intro member
        have := inside j member
        omega
      simp [Fanout.publish, out, ledger.absent j beyond]
    · simp [Fanout.publish, same, ledger.absent j beyond]
  · intro q entry member
    by_cases same : q = p
    · subst same
      simp only [Fanout.publish, Function.update_self, List.mem_map] at member
      obtain ⟨k, -, rfl⟩ := member
      exact some'
    · simp only [Fanout.publish, Function.update_of_ne same] at member
      exact ledger.texts q entry member

/-- A callback brings the event to a session that lives. -/
theorem receivedFrom_notify (s : Client) (p : Nat) (event : List Char) (q : Nat) :
    (s.notify p event).receivedFrom q =
      s.receivedFrom q ++ if s.alive = true ∧ q = p then [event] else [] := by
  unfold Client.notify
  split
  · rename_i living
    by_cases from' : q = p
    · simp [Client.receivedFrom, living, from']
    · have other : ¬p = q := fun eq => from' eq.symm
      simp [Client.receivedFrom, from', other]
  · rename_i dead
    simp [dead]

@[simp] theorem Client.notify_subscriptionId (s : Client) (p : Nat) (event : List Char) :
    (s.notify p event).subscriptionId = s.subscriptionId := by
  unfold Client.notify
  split <;> rfl

theorem Client.notify_alive (s : Client) (p : Nat) (event : List Char) :
    (s.notify p event).alive = s.alive := by
  unfold Client.notify
  split <;> rfl

theorem notify_cases {k p j : Nat} {event : List Char} {t : Client}
    (there : (clients.modify k fun s => s.notify p event)[j]? = some t) :
    ∃ s, clients[j]? = some s ∧ t = if k = j then s.notify p event else s := by
  rw [List.getElem?_modify] at there
  obtain ⟨s, old, is⟩ := Option.map_eq_some_iff.1 there
  exact ⟨s, old, is.symm⟩

theorem Ledger.call (ledger : Ledger f clients) {g : Fanout Nat Nat (List Char)} {p j k : Nat}
    {event : List Char} (called : f.call p j = some ((k, event), g)) :
    Ledger g (clients.modify k fun s => s.notify p event) := by
  have spec := Fanout.call_called called
  refine ⟨ledger.settled.call called, ?_, ?_, ?_, ?_⟩
  · intro i t there living q
    obtain ⟨s, old, rfl⟩ := notify_cases there
    rw [spec.made]
    by_cases to' : k = i
    · subst to'
      rw [if_pos rfl] at living ⊢
      rw [Client.notify_alive] at living
      rw [receivedFrom_notify, ledger.living k s old living]
      simp [living]
    · rw [if_neg to'] at living ⊢
      have other : ¬i = k := fun eq => to' eq.symm
      simp [other, ledger.living i s old living]
  · intro i t there q
    obtain ⟨s, old, rfl⟩ := notify_cases there
    rw [spec.made]
    have gone := ledger.gone i s old q
    by_cases to' : k = i
    · subst to'
      rw [if_pos rfl, receivedFrom_notify]
      by_cases living : s.alive = true
      · rw [ledger.living k s old living]
        simp [living]
      · simp only [living, Bool.false_eq_true, false_and, if_false, List.append_nil]
        exact gone.trans (List.prefix_append _ _)
    · rw [if_neg to']
      exact gone.trans (List.prefix_append _ _)
  · intro i beyond q
    rw [spec.due]
    exact ledger.absent i (by simpa using beyond) q
  · intro q entry member
    exact ledger.texts q entry (spec.pending q entry member)

/-! ## Runs -/

theorem Hub.Inv.init : ({} : Hub).Inv := by
  refine ⟨?_, ?_, rfl, ?_, fun _ _ => rfl, rfl⟩
  · intro i s at'
    simp at at'
  · refine ⟨by simp, by simp, fun id i => ?_⟩
    simp
  · refine ⟨.idle, ?_, ?_, fun _ _ _ => rfl, ?_⟩
    · intro i s at'
      simp at at'
    · intro i s at'
      simp at at'
    · intro p entry member
      cases member

theorem Hub.Inv.set (inv : h.Inv) (at' : h.clients[i]? = some s) {after : EventChannel × Client}
    (sound : after.2.Sound) (same : Client.Same s after.2) {more : Nat}
    (moved : Moved h.channel s i more after.1 after.2) (few : h.subscribed + 2 < 2 ^ 64) :
    ({ h.set i after with subscribed := h.subscribed + more } : Hub).Inv := by
  obtain ⟨inside, -⟩ := List.getElem?_eq_some_iff.1 at'
  have room : h.channel.nextId + 1 < 2 ^ 64 := by
    rw [inv.issued]
    exact few
  obtain ⟨issued, errors⟩ := moved.channel room
  refine ⟨?_, inv.tied.moved at' moved ?_ room, ?_, inv.ledger.set at' same, inv.heard,
    errors.trans inv.errors⟩
  · intro j t there
    by_cases which : i = j
    · subst which
      obtain rfl : after.2 = t := by simpa [Hub.set, inside] using there
      exact sound
    · simp only [Hub.set, List.getElem?_set_ne which] at there
      exact inv.sound j t there
  · rw [inv.issued]
    omega
  · show after.1.nextId = h.subscribed + more + 1
    rw [issued, inv.issued]
    omega

theorem Hub.subscribed_mono {move : Hub.Move} (moved : h.step move = some h') :
    h.subscribed ≤ h'.subscribed := by
  cases move with
  | connect => cases moved; exact le_rfl
  | onAccept i error =>
    obtain ⟨s, -, rest⟩ := Option.bind_eq_some_iff.1 moved
    split at rest
    · cases rest
      exact Nat.le_add_right _ _
    · cases rest
  | handler i action =>
    obtain ⟨s, -, rest⟩ := Option.bind_eq_some_iff.1 moved
    split at rest
    · obtain ⟨after, -, rest⟩ := Option.bind_eq_some_iff.1 rest
      cases rest
      exact le_rfl
    · cases rest
  | destroy i =>
    obtain ⟨s, -, rest⟩ := Option.bind_eq_some_iff.1 moved
    split at rest <;> cases rest
    exact le_rfl
  | publish p type timestamp data =>
    simp only [Hub.step] at moved
    split at moved <;> cases moved
    exact le_rfl
  | call p j =>
    obtain ⟨called, -, rest⟩ := Option.bind_eq_some_iff.1 moved
    cases rest
    exact le_rfl

theorem EventChannel.publish_keeps (c : EventChannel) (type : EventType) (event : List Char) :
    (c.publish type event).2.nextId = c.nextId ∧
      (c.publish type event).2.subscribers = c.subscribers := by
  unfold EventChannel.publish
  dsimp only
  split <;> exact ⟨rfl, rfl⟩

/-- The last ten errors stay. -/
theorem lastTen {errors recent : List (List Char)} (event : List Char)
    (last : recent = errors.drop (errors.length - 10)) :
    (if recent.length = 10 then recent.drop 1 else recent) ++ [event] =
      (errors ++ [event]).drop ((errors ++ [event]).length - 10) := by
  have size : recent.length = min errors.length 10 := by
    rw [last, List.length_drop]
    omega
  split
  · rename_i full
    rw [List.length_append, List.length_singleton, List.drop_append_of_le_length (by omega), last,
      List.drop_drop]
    congr 2
    omega
  · rename_i room
    have few : errors.length < 10 := by omega
    rw [last, List.length_append, List.length_singleton, Nat.sub_eq_zero_of_le (by omega),
      Nat.sub_eq_zero_of_le (by omega)]
    rfl

theorem Client.Sound.new : ({} : Client).Sound := by
  refine ⟨.init, rfl, fun _ => ⟨rfl, rfl⟩, ?_⟩
  simp

theorem Tied.connect (tied : Tied c clients) : Tied c (clients ++ [({} : Client)]) := by
  refine ⟨tied.issued, tied.distinct, fun id i => ?_⟩
  rw [tied.tied]
  refine and_congr_right fun some => ⟨?_, ?_⟩
  · rintro ⟨s, at', is⟩
    exact ⟨s, getElem_kept _ at', is⟩
  · rintro ⟨s, at', is⟩
    rcases getElem_snoc at' with old | ⟨-, rfl⟩
    · exact ⟨s, old, is⟩
    · exact absurd is.symm some

theorem Tied.notify (tied : Tied c clients) (p k : Nat) (event : List Char) :
    Tied c (clients.modify k fun s => s.notify p event) := by
  refine ⟨tied.issued, tied.distinct, fun id i => ?_⟩
  rw [tied.tied, List.getElem?_modify]
  refine and_congr_right fun _ => ?_
  cases clients[i]? with
  | none => rfl
  | some s =>
    by_cases to' : k = i
    · simp [to']
    · simp [to']

/-- What is published is due to the sessions that listen. -/
theorem Hub.Inv.publish (inv : h.Inv) {p : Nat} {type : EventType} {timestamp data : List Char}
    (moved : h.step (.publish p type timestamp data) = some h') : h'.Inv := by
  simp only [Hub.step] at moved
  split at moved
  · rename_i ready
    cases moved
    obtain ⟨nextId, subscribers⟩ := h.channel.publish_keeps type (makeEventJson type timestamp data)
    refine ⟨inv.sound, ?_, nextId.trans inv.issued, ?_, ?_, ?_⟩
    · refine ⟨?_, ?_, ?_⟩ <;> rw [subscribers]
      · rw [nextId]
        exact inv.tied.issued
      · exact inv.tied.distinct
      · exact inv.tied.tied
    · refine inv.ledger.publish (by simpa using ready) (makeEventJson_ne_nil _ _ _)
        inv.tied.receivers ?_
      intro k member
      obtain ⟨⟨id, i⟩, entry, rfl⟩ := List.mem_map.1 member
      obtain ⟨-, s, at', -⟩ := (inv.tied.tied id i).1 entry
      exact (List.getElem?_eq_some_iff.1 at').1
    · intro q i
      have named := inv.tied.mem_receivers inv.sound i
      by_cases same : q = p
      · subst same
        simp only [Fanout.publish, EventChannel.publish, Function.update_self, inv.heard, named,
          true_and]
      · simp [Fanout.publish, same, inv.heard]
    · by_cases error : type = .systemError
      · simp only [EventChannel.publish, error, if_true]
        exact lastTen _ inv.errors
      · simp only [EventChannel.publish, error, if_false]
        exact inv.errors
  · cases moved

theorem Hub.Inv.call (inv : h.Inv) {p j : Nat} (moved : h.step (.call p j) = some h') : h'.Inv := by
  obtain ⟨⟨⟨k, event⟩, fanout⟩, called, rest⟩ := Option.bind_eq_some_iff.1 moved
  cases rest
  have due := (Fanout.call_called called).due
  refine ⟨?_, ?_, inv.issued, inv.ledger.call called, fun q i => ?_, inv.errors⟩
  · intro j t there
    obtain ⟨s, old, rfl⟩ := notify_cases there
    split
    · exact (inv.sound j s old).notify p (inv.ledger.texts p _ (Fanout.call_called called).was)
    · exact inv.sound j s old
  · exact inv.tied.notify p k event
  · rw [due]
    exact inv.heard q i

theorem Hub.Inv.step (inv : h.Inv) {move : Hub.Move} (moved : h.step move = some h')
    (few : h'.subscribed + 2 < 2 ^ 64) : h'.Inv := by
  have few' : h.subscribed + 2 < 2 ^ 64 := by
    have := Hub.subscribed_mono moved
    omega
  cases move with
  | connect =>
    cases moved
    refine ⟨?_, inv.tied.connect, inv.issued, inv.ledger.connect, inv.heard, inv.errors⟩
    intro j t there
    rcases getElem_snoc there with old | ⟨-, rfl⟩
    · exact inv.sound j t old
    · exact .new
  | onAccept i error =>
    obtain ⟨s, at', rest⟩ := Option.bind_eq_some_iff.1 moved
    split at rest
    · rename_i ready
      simp only [Bool.and_eq_true] at ready
      cases rest
      have first : 0 < h.channel.nextId := by
        rw [inv.issued]
        omega
      obtain ⟨sound, same, moved'⟩ :=
        Client.onAccept_spec (inv.sound i s at') ready.1 ready.2 first i error
      exact inv.set at' sound same moved' few'
    · cases rest
  | handler i action =>
    obtain ⟨s, at', rest⟩ := Option.bind_eq_some_iff.1 moved
    split at rest
    · rename_i ready
      obtain ⟨after, handled, rest⟩ := Option.bind_eq_some_iff.1 rest
      simp only [Bool.and_eq_true, Bool.not_eq_true'] at ready
      cases rest
      obtain ⟨sound, same, moved'⟩ := Client.handler_spec (inv.sound i s at') ready.1.2 i handled
      exact inv.set at' sound same moved' few'
    · cases rest
  | destroy i =>
    obtain ⟨s, at', rest⟩ := Option.bind_eq_some_iff.1 moved
    split at rest
    · cases rest
      have sound := inv.sound i s at'
      have moved' := Client.unsubscribe_moved (c := h.channel)
        (s := { s with alive := false, registered := false }) s (by rfl) i
      refine inv.set at' ?_ ?_ moved' few'
      · apply Client.Sound.unsubscribe
        · exact sound.inv
        · exact sound.pushed
        · exact sound.fresh
        · exact .inl rfl
      · exact ⟨by simp, by simp⟩
    · cases rest
  | publish p type timestamp data => exact inv.publish moved
  | call p j => exact inv.call moved

theorem Hub.runs_inv (run : Runs Hub.step Free {} h) (few : h.subscribed + 2 < 2 ^ 64) : h.Inv := by
  have keep : ∀ u move v, (u.subscribed + 2 < 2 ^ 64 → u.Inv) → Free u move →
      Hub.step u move = some v → v.subscribed + 2 < 2 ^ 64 → v.Inv := by
    intro u move v inv _ moved few'
    have before := Hub.subscribed_mono moved
    exact (inv (by omega)).step moved few'
  exact run.invariant (fun _ => Hub.Inv.init) keep few

/-- Modules publish, sessions come and go, in any order. From each publisher a session receives the
events that were published while it was listening, in order and each once, but for the one call
that is still to be made; a session destroyed meanwhile misses the end of them. What it has received
is what its inbox was given, and goes to the socket from there. It is subscribed while it is
listening, and the last ten errors are kept. -/
theorem events_reach_sessions (run : Runs Hub.step Free {} h) (few : h.subscribed + 2 < 2 ^ 64) :
    h.channel.recentErrors = h.errors.drop (h.errors.length - 10) ∧
      ∀ i s, h.clients[i]? = some s →
        (∀ p, s.receivedFrom p <+: h.heard p i) ∧
        (s.alive = true → ∀ p, s.receivedFrom p ++ h.fanout.owed p i = h.heard p i) ∧
        s.received.map Prod.snd = s.web.pushed ∧ Delivered s.web ∧
        ((∃ id, (id, i) ∈ h.channel.subscribers) ↔ s.listening = true) := by
  have inv := Hub.runs_inv run few
  refine ⟨inv.errors, fun i s at' => ?_⟩
  have sound := inv.sound i s at'
  refine ⟨?_, ?_, sound.pushed, sound.inv.delivered, ?_⟩
  · intro p
    rw [inv.heard]
    exact (inv.ledger.gone i s at' p).trans (inv.ledger.settled.made_prefix p i)
  · intro living p
    rw [inv.heard, inv.ledger.living i s at' living]
    exact inv.ledger.settled.exact p i
  · have named := inv.tied.mem_receivers inv.sound i
    rw [at', Option.any_some] at named
    rw [← named, List.mem_map]
    constructor
    · rintro ⟨id, entry⟩
      exact ⟨(id, i), entry, rfl⟩
    · rintro ⟨⟨id, j⟩, entry, rfl⟩
      exact ⟨id, entry⟩

/-- Two modules publish to two browsers: the second one is destroyed before its call, the first
stops with both events in its inbox. -/
theorem events_reach_sessions_crossed : ∃ (h : Hub) (s : Client), h.clients[0]? = some s ∧
    s.web.stopping = true ∧ s.receivedFrom 7 = h.heard 7 0 ∧
    s.receivedFrom 8 = h.heard 8 0 ∧ h.heard 8 0 ≠ [] ∧
    ¬∃ id, (id, 0) ∈ h.channel.subscribers := by
  have reached : ∃ h, Runs Hub.step Free {} h ∧ h.subscribed = 2 ∧
      (h.clients[0]?.map fun s => (s.alive, s.web.stopping)) = some (true, true) ∧
      h.fanout.pending 7 = [] ∧ h.fanout.pending 8 = [] ∧ h.heard 8 0 ≠ [] := by
    apply Runs.exists_of_play [.connect, .connect, .onAccept 0 false, .onAccept 1 false,
      .publish 7 .alert "t".toList "1".toList, .publish 8 .systemError "t".toList "2".toList,
      .call 8 0, .call 7 0, .destroy 1, .handler 0 .stop, .call 7 0, .call 8 0]
    · decide +kernel
    · exact Meets.free _ _
  obtain ⟨h, run, two, state, none7, none8, heard⟩ := reached
  obtain ⟨s, at', is⟩ := Option.map_eq_some_iff.1 state
  obtain ⟨living, stopping⟩ := Prod.mk.inj is
  obtain ⟨-, each⟩ := events_reach_sessions run (by rw [two]; decide)
  obtain ⟨-, exact', -, -, listens⟩ := each 0 s at'
  refine ⟨h, s, at', stopping, ?_, ?_, heard, ?_⟩
  · simpa [Fanout.owed, none7] using exact' living 7
  · simpa [Fanout.owed, none8] using exact' living 8
  · intro subscribed
    have listening := Client.listening_iff.1 (listens.1 subscribed)
    rw [stopping] at listening
    cases listening.2.2.2

end SkaiEdge.Web
