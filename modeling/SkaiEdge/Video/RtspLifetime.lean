import SkaiEdge.Video.RtspMoves

/-!
# What the RTSP source points to

The handlers of GStreamer run beside the worker and store pointers into its pipeline; the worker
closes the pipeline and opens another. `Owned` says that nothing is wrong with the links,
`Phase.Holds` what the worker's phase adds; a `LinkMove` and every step of a handler keep both.
-/

namespace SkaiEdge.Video.RtspSource

open SkaiEdge.Lib SkaiEdge.Core SkaiEdge.Config

/-- What the worker's phase says about the links. -/
def Phase.Holds (l : Links) : Phase → Prop
  | .shut => l.acceptingCallbacks = false ∧ l.callbacks = [] ∧ l.pipeline = none ∧ l.managers = [] ∧
      l.jitterbuffer = none
  | .made => l.acceptingCallbacks = false ∧ l.callbacks = [] ∧ l.pipeline.isSome ∧ l.managers = [] ∧
      l.jitterbuffer = none
  | .serving => l.acceptingCallbacks = true
  | .refusing => True
  | .draining => l.acceptingCallbacks = false
  | .drained => l.acceptingCallbacks = false ∧ l.callbacks = []
  | .released => l.acceptingCallbacks = false ∧ l.callbacks = [] ∧ l.managers = []
  | .emptied => l.acceptingCallbacks = false ∧ l.callbacks = [] ∧ l.managers = [] ∧
      l.jitterbuffer = none

/-- Nothing is wrong with the links: the counter is the number of handlers inside, what was
referenced is what is held, and whatever is borrowed belongs to the pipeline that is there. -/
structure Owned (l : Links) : Prop where
  counted : l.callbacksInFlight = l.callbacks.length
  references : l.references.Perm (l.managers ++ l.jitterbuffer.toList)
  sound : l.fault = false
  borrowed : ∀ owner ∈ l.pointers, l.pipeline = some owner
  served : l.acceptingCallbacks = true ∨ l.callbacks ≠ [] → l.pipeline.isSome

/-! ## The operations on links -/

namespace Owned

variable {l : Links}

theorem touch_eq (owned : Owned l) {owner : Nat} (points : l.pipeline = some owner) :
    l.touch owner = l := by
  have sound := owned.sound
  cases l
  simp_all [Links.touch]

theorem touchPipeline_eq (owned : Owned l) (there : l.pipeline.isSome) : l.touchPipeline = l := by
  have sound := owned.sound
  cases l
  simp_all [Links.touchPipeline]

theorem unref (l : Links) {element : Nat} (held : element ∈ l.references) :
    l.unref element = { l with references := l.references.erase element } := by
  cases l
  simp_all [Links.unref]

/-- Several elements given back, one after another. -/
theorem unref_all (elements : List Nat) {l : Links} {rest : List Nat}
    (held : l.references.Perm (elements ++ rest)) :
    ∃ references, references.Perm rest ∧ elements.foldl Links.unref l = { l with references := references } := by
  induction elements generalizing l with
  | nil => exact ⟨l.references, held, rfl⟩
  | cons element elements ih =>
    have member : element ∈ l.references := held.symm.subset (by simp)
    have left : (l.references.erase element).Perm (elements ++ rest) := by
      have := held.erase element
      simpa using this
    obtain ⟨references, perm, folded⟩ := ih (l := { l with references := l.references.erase element }) left
    refine ⟨references, perm, ?_⟩
    rw [List.foldl_cons, unref l member, folded]

theorem beginCallback (owned : Owned l) (signal : Signal) : Owned (l.beginCallback signal) := by
  unfold Links.beginCallback
  split
  · rename_i accepting
    have bare : signal.callback.owner = [] := by cases signal <;> rfl
    refine ⟨by simp [owned.counted], owned.references, owned.sound, fun owner member => ?_, fun _ => ?_⟩
    · apply owned.borrowed owner
      simpa [Links.pointers, bare] using member
    · exact owned.served (.inl accepting)
  · exact owned

theorem endCallback (owned : Owned l) {i : Nat} {callback : Callback} (at' : l.callbacks[i]? = some callback) :
    Owned (l.endCallback i) := by
  obtain ⟨inside, -⟩ := List.getElem?_eq_some_iff.1 at'
  refine ⟨?_, owned.references, owned.sound, fun owner member => ?_, fun busy => ?_⟩
  · simp [Links.endCallback, List.length_eraseIdx_of_lt inside, owned.counted]
  · apply owned.borrowed owner
    simp only [Links.pointers, Links.endCallback, List.mem_append, List.mem_flatMap] at member ⊢
    rcases member with pointer | ⟨callback, left, owns⟩
    · exact .inl pointer
    · exact .inr ⟨callback, (List.eraseIdx_sublist _ i).subset left, owns⟩
  · apply owned.served
    refine busy.imp_right fun left empty => left ?_
    simp [Links.endCallback, empty]

/-- A handler goes on; what it holds belongs to the pipeline. -/
theorem moveCallback (owned : Owned l) (i : Nat) {callback : Callback}
    (points : ∀ owner ∈ callback.owner, l.pipeline = some owner) : Owned (l.moveCallback i callback) := by
  refine ⟨by simp [Links.moveCallback, owned.counted], owned.references, owned.sound,
    fun owner member => ?_, fun busy => ?_⟩
  · simp only [Links.pointers, Links.moveCallback, List.mem_append, List.mem_flatMap] at member
    rcases member with pointer | ⟨other, set, owns⟩
    · apply owned.borrowed owner
      simp only [Links.pointers, List.mem_append]
      exact .inl pointer
    · rcases List.mem_or_eq_of_mem_set set with old | rfl
      · apply owned.borrowed owner
        simp only [Links.pointers, List.mem_append, List.mem_flatMap]
        exact .inr ⟨other, old, owns⟩
      · exact points owner owns
  · apply owned.served
    refine busy.imp_right fun left empty => left ?_
    simp [Links.moveCallback, empty]

theorem addManager (owned : Owned l) (manager : Nat) : Owned (l.addManager manager) := by
  refine ⟨owned.counted, ?_, owned.sound, owned.borrowed, owned.served⟩
  have grown := owned.references.append_right [manager]
  refine grown.trans ?_
  simp only [Links.addManager, List.append_assoc]
  exact List.perm_append_comm.append_left _

/-- The jitterbuffer is given back. -/
theorem release_jitterbuffer (owned : Owned l) :
    ∃ references, references.Perm l.managers ∧
      l.jitterbuffer.elim l l.unref = { l with references := references } := by
  have held := owned.references
  obtain ⟨_, _, _, _, _, _, managers, jitterbuffer, _, _, references, _⟩ := l
  cases jitterbuffer with
  | none => exact ⟨references, by simpa using held, rfl⟩
  | some element =>
    have turned : references.Perm ([element] ++ managers) := held.trans List.perm_append_comm
    exact unref_all [element] turned

theorem replaceJitterbuffer (owned : Owned l) (element : Nat) :
    Owned (l.replaceJitterbuffer element) := by
  obtain ⟨references, perm, released⟩ := owned.release_jitterbuffer
  unfold Links.replaceJitterbuffer
  rw [released]
  exact ⟨owned.counted, perm.append_right _, owned.sound, owned.borrowed, owned.served⟩

theorem releaseJitterbuffer (owned : Owned l) :
    Owned l.releaseJitterbuffer ∧ ∃ references,
      l.releaseJitterbuffer = { l with references := references, jitterbuffer := none } := by
  obtain ⟨references, perm, released⟩ := owned.release_jitterbuffer
  unfold Links.releaseJitterbuffer
  rw [released]
  exact ⟨⟨owned.counted, by simpa using perm, owned.sound, owned.borrowed, owned.served⟩, references, rfl⟩

theorem releaseManagers (owned : Owned l) :
    Owned l.releaseManagers ∧ ∃ references,
      l.releaseManagers = { l with references := references, managers := [] } := by
  obtain ⟨references, perm, folded⟩ := unref_all l.managers (l := { l with managers := [] })
    owned.references
  unfold Links.releaseManagers
  rw [folded]
  exact ⟨⟨owned.counted, by simpa using perm, owned.sound, owned.borrowed, owned.served⟩, references, rfl⟩

/-- Pointers that are overwritten with null. -/
theorem forget (owned : Owned l) : Owned { l with sink := none, encodedSink := none } := by
  refine ⟨owned.counted, owned.references, owned.sound, fun owner member => ?_, owned.served⟩
  apply owned.borrowed owner
  simp only [Links.pointers, List.mem_append, Option.toList_none, List.not_mem_nil, or_false] at member ⊢
  rcases member with element | callback
  · exact .inl (.inl (.inl element))
  · exact .inr callback

theorem store (owned : Owned l) {owner : Nat} (points : l.pipeline = some owner) :
    Owned { l with sink := some owner } := by
  refine ⟨owned.counted, owned.references, owned.sound, fun other member => ?_, owned.served⟩
  simp only [Links.pointers, List.mem_append, Option.toList_some, List.mem_singleton] at member
  rcases member with ((element | rfl) | encoded) | callback
  · exact owned.borrowed other (by simp [Links.pointers, Option.mem_toList.1 element])
  · exact points
  · exact owned.borrowed other (by simp [Links.pointers, Option.mem_toList.1 encoded])
  · exact owned.borrowed other (by simp only [Links.pointers, List.mem_append]; exact .inr callback)

theorem storeEncoded (owned : Owned l) {owner : Nat} (points : l.pipeline = some owner)
    (encoded : Bool) : Owned { l with encodedSink := if encoded then some owner else none } := by
  refine ⟨owned.counted, owned.references, owned.sound, fun other member => ?_, owned.served⟩
  simp only [Links.pointers, List.mem_append] at member
  rcases member with (before | stored) | callback
  · apply owned.borrowed other
    simp only [Links.pointers, List.mem_append]
    exact .inl (.inl before)
  · cases encoded with
    | false => simp at stored
    | true =>
      obtain rfl : other = owner := by simpa using stored
      exact points
  · exact owned.borrowed other (by simp only [Links.pointers, List.mem_append]; exact .inr callback)

end Owned

/-! ## The steps of a handler -/

/-- Neither the pipeline nor the flag that lets handlers in is for a handler to change. -/
def Links.Unmoved (l m : Links) : Prop :=
  m.pipeline = l.pipeline ∧ m.acceptingCallbacks = l.acceptingCallbacks

/-- **A step of a handler** leaves nothing wrong. -/
theorem Owned.handle {s : State} (owned : Owned s.links) {i : Nat} {callback : Callback} (chain : Chain)
    (at' : s.links.callbacks[i]? = some callback) :
    Owned (s.handle i chain callback).links ∧ s.links.Unmoved (s.handle i chain callback).links := by
  have member := List.mem_of_getElem? at'
  have there : s.links.pipeline.isSome := owned.served (.inr (List.ne_nil_of_mem member))
  have holds : ∀ owner ∈ callback.owner, s.links.pipeline = some owner := by
    intro owner owns
    apply owned.borrowed owner
    simp only [Links.pointers, List.mem_append, List.mem_flatMap]
    exact .inr ⟨callback, member, owns⟩
  cases callback with
  | padAdded codec =>
    simp only [State.handle]
    split
    · exact ⟨owned.moveCallback i (by simp [Callback.owner]), rfl, rfl⟩
    · exact ⟨owned.moveCallback i (by simp [Callback.owner]), rfl, rfl⟩
  | connecting codec =>
    simp only [State.handle, State.connect, owned.touchPipeline_eq there]
    split
    · exact ⟨owned.moveCallback i (by simp [Callback.owner]), rfl, rfl⟩
    · split
      · exact ⟨owned.moveCallback i (by simp [Callback.owner]), rfl, rfl⟩
      · split
        · exact ⟨owned.moveCallback i (by simp [Callback.owner]), rfl, rfl⟩
        · obtain ⟨owner, points⟩ := Option.isSome_iff_exists.1 there
          exact ⟨owned.moveCallback i (by simp [Callback.owner, points]), rfl, rfl⟩
  | storing codec owner encoded decoder =>
    have points := holds owner (by simp [Callback.owner])
    exact ⟨(owned.moveCallback i (by simp [Callback.owner, points])).store points, rfl, rfl⟩
  | storingEncoded codec owner encoded decoder =>
    have points := holds owner (by simp [Callback.owner])
    exact ⟨(owned.moveCallback i (by simp [Callback.owner, points])).storeEncoded points encoded, rfl, rfl⟩
  | noting codec owner decoder =>
    have points := holds owner (by simp [Callback.owner])
    refine ⟨owned.moveCallback i fun other owns => ?_, rfl, rfl⟩
    cases codec <;> simp_all [Callback.owner]
  | declaring owner =>
    have points := holds owner (by simp [Callback.owner])
    simp only [State.handle, State.publishMediaStatus_keeps]
    exact ⟨owned.moveCallback i (by simp [Callback.owner, points]), rfl, rfl⟩
  | syncing owner =>
    have points := holds owner (by simp [Callback.owner])
    simp only [State.handle, owned.touch_eq points]
    exact ⟨owned.moveCallback i (by simp [Callback.owner]), rfl, rfl⟩
  | newManager manager =>
    exact ⟨(owned.addManager manager).moveCallback i (by simp [Callback.owner]), rfl, rfl⟩
  | newJitterbuffer jitterbuffer =>
    obtain ⟨references, -, released⟩ := owned.release_jitterbuffer
    refine ⟨(owned.replaceJitterbuffer jitterbuffer).moveCallback i (by simp [Callback.owner]), ?_⟩
    show s.links.Unmoved (s.links.replaceJitterbuffer jitterbuffer)
    rw [Links.replaceJitterbuffer, released]
    exact ⟨rfl, rfl⟩
  | failing error => exact ⟨owned.moveCallback i (by simp [Callback.owner]), rfl, rfl⟩
  | leaving => exact ⟨owned.endCallback at', rfl, rfl⟩

/-! ## Every run -/

/-- The links, the worker's local copies and its phase fit together. -/
structure Lifetime (v : View) : Prop where
  owned : Owned v.links
  holds : v.phase.Holds v.links
  loaded : ∀ owner ∈ v.pointers, v.links.pipeline = some owner

/-- Where there is no pipeline, nothing is borrowed, and another one can be put there. -/
theorem Owned.repoint {l : Links} (owned : Owned l) (refused : l.acceptingCallbacks = false)
    (idle : l.callbacks = []) (gone : l.pipeline = none) (pipeline element : Option Nat) (created : Nat)
    (belongs : ∀ owner ∈ element, pipeline = some owner) :
    Owned { l with pipeline := pipeline, created := created, rtspElement := element } := by
  have bare : l.pointers = [] := by
    refine List.eq_nil_iff_forall_not_mem.2 fun owner member => ?_
    have points := owned.borrowed owner member
    rw [gone] at points
    cases points
  simp only [Links.pointers, List.append_eq_nil_iff] at bare
  refine ⟨owned.counted, owned.references, owned.sound, fun owner member => ?_, fun busy => ?_⟩
  · simp only [Links.pointers, List.mem_append, bare, List.not_mem_nil, or_false] at member
    exact belongs owner (Option.mem_toList.1 member)
  · simp [refused, idle] at busy

theorem Owned.refuse {l : Links} (owned : Owned l) : Owned { l with acceptingCallbacks := false } := by
  refine ⟨owned.counted, owned.references, owned.sound, owned.borrowed, fun busy => ?_⟩
  exact owned.served (.inr (busy.resolve_left (by simp)))

/-- The handlers are disconnected from an element that is there. -/
theorem Owned.disconnect {l : Links} (owned : Owned l) :
    l.rtspElement.elim { l with acceptingCallbacks := false } { l with acceptingCallbacks := false }.touch =
      { l with acceptingCallbacks := false } := by
  have any : ∀ element : Option Nat, (∀ owner ∈ element, l.pipeline = some owner) →
      element.elim { l with acceptingCallbacks := false } { l with acceptingCallbacks := false }.touch =
        { l with acceptingCallbacks := false } := by
    rintro (_ | owner) points
    · rfl
    · exact owned.refuse.touch_eq (points owner rfl)
  apply any
  intro owner element
  exact owned.borrowed owner (by simp [Links.pointers, Option.mem_def.1 element])

theorem Owned.clear {l : Links} (owned : Owned l) (refused : l.acceptingCallbacks = false)
    (idle : l.callbacks = []) : Owned l.clear := by
  refine ⟨owned.counted, owned.references, owned.sound, fun owner member => ?_, fun busy => ?_⟩
  · simp [Links.pointers, Links.clear, idle] at member
  · simp [Links.clear, refused, idle] at busy

theorem Lifetime.move {v w : View} (lifetime : Lifetime v) (move : LinkMove v w) : Lifetime w := by
  obtain ⟨owned, holds, loaded⟩ := lifetime
  cases move with
  | stay sub =>
    refine ⟨owned, holds, fun owner member => ?_⟩
    rcases List.mem_append.1 (sub member) with old | linked
    · exact loaded owner old
    · exact owned.borrowed owner linked
  | forget => exact ⟨owned.forget, holds, by simp⟩
  | @failed _ l =>
    obtain ⟨refused, idle, gone, managers, jitterbuffer⟩ := holds
    refine ⟨?_, ⟨refused, idle, rfl, managers, jitterbuffer⟩, by simp⟩
    rw [show ({ l with pipeline := none } : Links) = l by cases l; simp_all]
    exact owned
  | @create _ l =>
    obtain ⟨refused, idle, gone, managers, jitterbuffer⟩ := holds
    have bare : l.rtspElement = none := by
      refine Option.eq_none_iff_forall_not_mem.2 fun owner member => ?_
      have points := owned.borrowed owner (by simp [Links.pointers, Option.mem_def.1 member])
      rw [show l.pipeline = none from gone] at points
      cases points
    have repointed := owned.repoint refused idle gone (some l.created) l.rtspElement (l.created + 1)
      (by simp [bare])
    exact ⟨repointed, trivial, by simp⟩
  | @createElement _ l =>
    obtain ⟨refused, idle, gone, managers, jitterbuffer⟩ := holds
    have repointed := owned.repoint refused idle gone (some l.created) (some l.created) (l.created + 1)
      (by simp)
    exact ⟨repointed, ⟨refused, idle, rfl, managers, jitterbuffer⟩, by simp⟩
  | accept =>
    obtain ⟨-, -, there, -, -⟩ := holds
    exact ⟨⟨owned.counted, owned.references, owned.sound, owned.borrowed, fun _ => there⟩, rfl, by simp⟩
  | touchPipeline sub phase =>
    rw [owned.touchPipeline_eq (owned.served (.inl holds))]
    refine ⟨owned, ?_, fun owner member => loaded owner (sub member)⟩
    rcases phase with rfl | rfl
    · exact holds
    · trivial
  | touch member =>
    rw [owned.touch_eq (loaded _ member)]
    exact ⟨owned, holds, loaded⟩
  | close _ => exact ⟨owned, trivial, by simp⟩
  | refuse =>
    rw [owned.disconnect]
    exact ⟨owned.refuse, rfl, by simp⟩
  | drain quiet =>
    refine ⟨owned, ⟨holds, ?_⟩, by simp⟩
    have none := owned.counted
    rw [quiet] at none
    exact List.eq_nil_of_length_eq_zero none.symm
  | managers =>
    obtain ⟨released, references, shape⟩ := owned.releaseManagers
    refine ⟨released, ?_, by simp⟩
    rw [shape]
    exact ⟨holds.1, holds.2, rfl⟩
  | jitterbuffer =>
    obtain ⟨released, references, shape⟩ := owned.releaseJitterbuffer
    refine ⟨released, ?_, by simp⟩
    rw [shape]
    exact ⟨holds.1, holds.2.1, holds.2.2, rfl⟩
  | clear =>
    obtain ⟨refused, idle, managers, jitterbuffer⟩ := holds
    exact ⟨owned.clear refused idle, ⟨refused, idle, rfl, managers, jitterbuffer⟩, by simp⟩

/-- A phase in which a handler may be inside keeps its facts when one moves. -/
theorem Phase.Holds.handled {phase : Phase} {l m : Links} (holds : phase.Holds l) (busy : l.callbacks ≠ [])
    (same : m.acceptingCallbacks = l.acceptingCallbacks) : phase.Holds m := by
  cases phase <;> simp_all [Phase.Holds]

section

variable {s t : State} {setup : Setup} {frames units : Nat} {some' : 0 < frames} {more : 0 < units}
  {ipv4 ipv6 : List Char → Bool}

theorem lifetime_init : Lifetime (init setup frames units some' more).view := by
  refine ⟨⟨rfl, by simp [init, State.view], rfl, by simp [init, State.view, Links.pointers],
    by simp [init, State.view]⟩, ⟨rfl, rfl, rfl, rfl, rfl⟩, by simp [init, State.view, Worker.pointers]⟩

theorem Lifetime.launch (lifetime : Lifetime s.view) (idle : s.worker = .absent) (config : VideoConfig)
    (spawned : Bool) : Lifetime (s.launch config spawned).view := by
  rw [State.view_eq idle] at lifetime
  have worker : (s.launch config spawned).worker.phase = .shut ∧ (s.launch config spawned).worker.pointers = [] := by
    cases spawned <;> exact ⟨rfl, rfl⟩
  have links : (s.launch config spawned).links = { s.links with sink := none, encodedSink := none } := by
    simp [State.launch]
  have seen : (s.launch config spawned).view = ⟨.shut, [], { s.links with sink := none, encodedSink := none }⟩ := by
    simp [State.view, worker, links]
  rw [seen]
  exact lifetime.move .forget

theorem Lifetime.handle (lifetime : Lifetime s.view) {i : Nat} {callback : Callback} (chain : Chain)
    (at' : s.links.callbacks[i]? = some callback) : Lifetime (s.handle i chain callback).view := by
  obtain ⟨owned, points, accepts⟩ := Owned.handle lifetime.owned chain at'
  have busy : s.links.callbacks ≠ [] := List.ne_nil_of_mem (List.mem_of_getElem? at')
  have holds := lifetime.holds
  have loaded := lifetime.loaded
  simp only [State.view] at holds loaded ⊢
  refine ⟨owned, ?_, ?_⟩
  · simpa using holds.handled busy accepts
  · simpa [points] using loaded

theorem Lifetime.step (lifetime : Lifetime s.view) {action : Action}
    (moved : s.step ipv4 ipv6 action = some t) : Lifetime t.view := by
  cases action with
  | start config initialized spawned =>
    obtain ⟨idle, -, -, rfl⟩ := State.start_eq_ok ipv4 ipv6 moved
    exact lifetime.launch idle config spawned
  | requestStop => cases moved; exact lifetime
  | join =>
    simp only [State.step] at moved
    split at moved
    · rename_i idle
      cases moved
      rcases idle with standing | standing
      · rw [State.view_eq standing] at lifetime
        exact lifetime
      · rw [State.view_eq standing] at lifetime
        exact lifetime
    · cases moved
  | work answer => exact lifetime.move (Moved.of_work moved).link
  | signal signal =>
    cases moved
    have kept : (s.links.beginCallback signal).pipeline = s.links.pipeline ∧
        (s.links.beginCallback signal).acceptingCallbacks = s.links.acceptingCallbacks := by
      unfold Links.beginCallback
      split <;> exact ⟨rfl, rfl⟩
    refine ⟨lifetime.owned.beginCallback signal, ?_, fun owner member => ?_⟩
    · have holds := lifetime.holds
      by_cases accepts : s.links.acceptingCallbacks = true
      · simp only [State.view] at holds ⊢
        revert holds
        cases s.worker.phase <;> simp_all [Phase.Holds]
      · have same : s.links.beginCallback signal = s.links := by simp [Links.beginCallback, accepts]
        simpa [State.view, same] using holds
    · exact kept.1 ▸ lifetime.loaded owner member
  | handle i chain =>
    obtain ⟨callback, at', rfl⟩ := Option.map_eq_some_iff.1 moved
    exact lifetime.handle chain at'
  | popFrame => cases moved; exact lifetime
  | popUnit => cases moved; exact lifetime
  | shutdownFrames => cases moved; exact lifetime
  | shutdownUnits => cases moved; exact lifetime

theorem lifetime_of_run {ok : State → Action → Prop}
    (run : Runs (State.step ipv4 ipv6) ok (init setup frames units some' more) s) : Lifetime s.view := by
  have keep : ∀ (u : State) (action : Action) (v : State), Lifetime u.view → ok u action →
      u.step ipv4 ipv6 action = some v → Lifetime v.view :=
    fun _ _ _ lifetime _ moved => lifetime.step moved
  exact run.invariant lifetime_init keep

end

end SkaiEdge.Video.RtspSource
