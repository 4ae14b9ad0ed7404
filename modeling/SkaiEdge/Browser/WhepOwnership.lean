import SkaiEdge.Lib.InPlace
import SkaiEdge.Browser.WhepClient

/-!
# No WHEP session is leaked

A `Location` belongs to the run that reads its body, then to `activeWhepLocation`, then to the
`DELETE` log; `Ledger` counts it in these three places. A run may put it into
`activeWhepLocation` only while no session began after it, and `Fresh` says that nothing is there
then: the generations of the runs are distinct. What breaks the ledger is a body that cannot be
read: the run drops the `Location` it holds.
-/

namespace SkaiEdge.Browser

open SkaiEdge.Lib

variable {s t : State} {i : Nat} {run : Run}

/-- The run has not reached its assignment of `activeWhepLocation`. -/
def Stage.unassigned : Stage → Bool
  | .setRemoteDescription | .returned => false
  | _ => true

/-- The `Location` a run holds while it reads the body. -/
def Stage.held : Stage → List Char
  | .reading location => location.getD []
  | _ => []

def heldLocations (s : State) : List (List Char) := s.runs.map fun run => run.stage.held

def generations (s : State) : List Nat := s.runs.map Run.generation

/-- Each `Location` is held by a run, active, or deleted, as often as it was returned. -/
def Ledger (s : State) : Prop :=
  ∀ location, location ≠ [] → s.posts.count location = s.deletes.count location +
    (if s.activeWhepLocation = location then 1 else 0) + (heldLocations s).count location

/-- Only the active connection is not closed. -/
def Peers (s : State) : Prop :=
  ∀ i run, s.runs[i]? = some run → run.peerClosed = false → s.activePeer = some i

structure Distinct (s : State) : Prop where
  nodup : (generations s).Nodup
  old : ∀ generation ∈ generations s, generation ≤ s.videoGeneration

/-- The newest session's run finds `activeWhepLocation` empty. -/
def Fresh (s : State) : Prop :=
  ∀ run ∈ s.runs, run.generation = s.videoGeneration → run.stage.unassigned = true →
    s.activeWhepLocation = []

structure Inv (s : State) : Prop where
  named : [] ∉ s.posts
  ledger : Ledger s
  peers : Peers s
  distinct : Distinct s
  fresh : Fresh s

/-! ## Closing the session -/

theorem located_count {location other : List Char} (some : other ≠ []) :
    (located location).count other = if location = other then 1 else 0 := by
  cases location with
  | nil => simp [located, some.symm]
  | cons c text => simp [located, List.count_singleton]

theorem located_ne_nil {location other : List Char} (member : other ∈ located location) :
    other ≠ [] := by
  unfold located at member
  split at member
  · cases member
  · next some =>
    rw [List.mem_singleton.1 member]
    simpa using some

/-- The runs after `activePeer.close()`. -/
def closedRuns (s : State) : List Run :=
  match s.activePeer with
  | some peer => s.runs.modify peer closePeer
  | none => s.runs

/-- Closing a connection changes nothing else of its run. -/
theorem closedRuns_map {β : Type} (f : Run → β) (same : ∀ run, f (closePeer run) = f run) :
    (closedRuns s).map f = s.runs.map f := by
  unfold closedRuns
  split
  · exact map_modify_same _ _ same
  · rfl

theorem closedRuns_closed (peers : Peers s) {run : Run} (member : run ∈ closedRuns s) :
    run.peerClosed = true := by
  obtain ⟨i, here⟩ := List.mem_iff_getElem?.1 member
  have elsewhere : s.activePeer ≠ some i → ∀ run, s.runs[i]? = some run → run.peerClosed = true := by
    intro other run found
    cases closed : run.peerClosed with
    | true => rfl
    | false => exact absurd (peers i run found closed) other
  unfold closedRuns at here
  cases active : s.activePeer with
  | none =>
    rw [active] at here
    exact elsewhere (by simp [active]) run here
  | some peer =>
    rw [active] at here
    simp only [List.getElem?_modify] at here
    cases found : s.runs[i]? with
    | none => simp [found] at here
    | some old =>
      simp only [found] at here
      split at here
      · cases here
        rfl
      · next other =>
        cases here
        exact elsewhere (by simp [active, other]) old found

theorem Inv.close (inv : Inv s) : Inv (closeVideoSession s) := by
  have held : heldLocations (closeVideoSession s) = heldLocations s := closedRuns_map _ fun _ => rfl
  have generations : generations (closeVideoSession s) = generations s :=
    closedRuns_map _ fun _ => rfl
  constructor
  · exact inv.named
  · intro location some
    have owned := inv.ledger location some
    rw [held]
    show s.posts.count location = (s.deletes ++ located s.activeWhepLocation).count location +
      (if [] = location then 1 else 0) + _
    rw [List.count_append, located_count some, if_neg some.symm]
    omega
  · intro i run found open'
    rw [closedRuns_closed inv.peers (List.mem_of_getElem? found)] at open'
    cases open'
  · constructor
    · rw [generations]
      exact inv.distinct.nodup
    · intro generation member
      rw [generations] at member
      exact Nat.le_succ_of_le (inv.distinct.old generation member)
  · intro _ _ _ _
    rfl

theorem Inv.retry (inv : Inv s) (generation : Nat) : Inv (retryVideo s generation) := by
  unfold retryVideo
  split
  · exact inv
  · exact ⟨inv.named, inv.ledger, inv.peers, ⟨inv.distinct.nodup, inv.distinct.old⟩, inv.fresh⟩

theorem Inv.connect (inv : Inv s) : Inv (connectVideo s) := by
  have closed := inv.close
  have older : ∀ run ∈ (closeVideoSession s).runs, run.generation ≤ s.videoGeneration := by
    intro run member
    apply inv.distinct.old
    have same : (closedRuns s).map Run.generation = generations s := closedRuns_map _ fun _ => rfl
    rw [← same]
    exact List.mem_map_of_mem member
  constructor
  · exact closed.named
  · intro location some
    have owned := closed.ledger location some
    have idle : (heldLocations (connectVideo s)).count location =
        (heldLocations (closeVideoSession s)).count location := by
      simp [heldLocations, connectVideo, Stage.held, some.symm]
    rw [idle]
    exact owned
  · intro i run found opened
    show some (closedRuns s).length = some i
    rw [Option.some.injEq]
    have found : (closedRuns s ++ [_])[i]? = some run := found
    rcases getElem_snoc found with old | ⟨last, _⟩
    · rw [closedRuns_closed inv.peers (List.mem_of_getElem? old)] at opened
      cases opened
    · exact last.symm
  · constructor
    · show ((closedRuns s ++ [_]).map Run.generation).Nodup
      rw [List.map_append, List.nodup_append]
      refine ⟨closed.distinct.nodup, List.nodup_singleton _, ?_⟩
      intro generation member newest new same
      obtain ⟨run, old, rfl⟩ := List.mem_map.1 member
      have := older run old
      rw [List.mem_singleton.1 new] at same
      have same : run.generation = s.videoGeneration + 1 := same
      omega
    · intro generation member
      obtain ⟨run, old, rfl⟩ := List.mem_map.1 member
      show run.generation ≤ s.videoGeneration + 1
      rcases List.mem_append.1 old with old | new
      · exact Nat.le_succ_of_le (older run old)
      · rw [List.mem_singleton.1 new]
        exact le_rfl
  · intro _ _ _ _
    rfl

/-! ## A run goes on -/

theorem held_moveTo (found : s.runs[i]? = some run) (stage : Stage) (location : List Char) :
    (heldLocations (moveTo s i run stage)).count location +
        (if run.stage.held = location then 1 else 0) =
      (heldLocations s).count location + if stage.held = location then 1 else 0 := by
  have here : (heldLocations s)[i]? = some run.stage.held := by simp [heldLocations, found]
  have moved : heldLocations (moveTo s i run stage) = (heldLocations s).set i stage.held := by
    simp [heldLocations, moveTo, List.map_set]
  rw [moved]
  exact count_set_balance here location

theorem Peers.moveTo (peers : Peers s) (found : s.runs[i]? = some run) (stage : Stage) :
    Peers (moveTo s i run stage) := by
  intro j other at' opened
  have here : (s.runs.set i { run with stage := stage })[j]? = some other := at'
  clear at'
  rw [List.getElem?_set] at here
  split at here
  · next same =>
    subst same
    split at here
    · cases here
      exact peers i run found opened
    · cases here
  · exact peers j other here opened

theorem Distinct.moveTo (distinct : Distinct s) (found : s.runs[i]? = some run) (stage : Stage) :
    Distinct (moveTo s i run stage) := by
  have same : generations (Browser.moveTo s i run stage) = generations s := map_set_same found rfl
  constructor
  · rw [same]
    exact distinct.nodup
  · rw [same]
    exact distinct.old

/-- A run does not go back before its assignment. -/
theorem Fresh.moveTo (fresh : Fresh s) (found : s.runs[i]? = some run) {stage : Stage}
    (onward : stage.unassigned = true → run.stage.unassigned = true) :
    Fresh (moveTo s i run stage) := by
  intro other member newest unassigned
  rcases List.mem_or_eq_of_mem_set member with old | rfl
  · exact fresh other old newest unassigned
  · exact fresh run (List.mem_of_getElem? found) newest (onward unassigned)

theorem Inv.moveTo (inv : Inv s) (found : s.runs[i]? = some run) {stage : Stage}
    (onward : stage.unassigned = true → run.stage.unassigned = true) (drops : run.stage.held = [])
    (takes : stage.held = []) : Inv (moveTo s i run stage) := by
  refine ⟨inv.named, ?_, inv.peers.moveTo found stage, inv.distinct.moveTo found stage,
    inv.fresh.moveTo found onward⟩
  intro location some
  have owned := inv.ledger location some
  have held := held_moveTo found stage location
  rw [drops, takes] at held
  rw [Nat.add_right_cancel held]
  exact owned

theorem Inv.fail (inv : Inv s) (found : s.runs[i]? = some run) (drops : run.stage.held = []) :
    Inv (fail s i run) := by
  have moved : Inv (Browser.moveTo s i run .returned) :=
    inv.moveTo found (fun back => by cases back) drops rfl
  unfold Browser.fail
  dsimp only
  split
  · exact moved
  · exact moved.close.retry _

theorem Inv.onResponse (inv : Inv s) (found : s.runs[i]? = some run)
    (posting : run.stage = .posting) (response : Response) :
    Inv (onResponse s i run response) := by
  have drops : run.stage.held = [] := by rw [posting]; rfl
  unfold Browser.onResponse
  split
  · exact inv.fail found drops
  · have fresh : Fresh (Browser.moveTo s i run (.reading response.location)) :=
      inv.fresh.moveTo found fun _ => by rw [posting]; rfl
    obtain ⟨nodup, old⟩ := inv.distinct.moveTo found (.reading response.location)
    refine ⟨?_, ?_, inv.peers.moveTo found _, ⟨nodup, old⟩, fresh⟩
    · intro member
      rcases List.mem_append.1 member with before | now
      · exact inv.named before
      · exact located_ne_nil now rfl
    intro location some
    have owned := inv.ledger location some
    have held := held_moveTo found (.reading response.location) location
    rw [drops, if_neg some.symm] at held
    show (s.posts ++ located (response.location.getD [])).count location = s.deletes.count location +
      (if s.activeWhepLocation = location then 1 else 0) +
      (heldLocations (Browser.moveTo s i run (.reading response.location))).count location
    rw [List.count_append, located_count some]
    have held : _ = _ + if response.location.getD [] = location then 1 else 0 := held
    omega

/-- The newest session's run is the only one of its generation. -/
theorem Distinct.only (distinct : Distinct s) {other : Run} (found : s.runs[i]? = some run)
    (member : other ∈ s.runs) (same : other.generation = run.generation) : other = run := by
  obtain ⟨j, here⟩ := List.mem_iff_getElem?.1 member
  have first : (generations s)[i]? = some run.generation := by simp [generations, found]
  have second : (generations s)[j]? = some run.generation := by simp [generations, here, same]
  have inside := (List.getElem?_eq_some_iff.1 first).1
  have index : i = j := (List.getElem?_inj inside distinct.nodup).1 (first.trans second.symm)
  subst index
  exact Option.some.inj (here.symm.trans found)

theorem Inv.onAnswer (inv : Inv s) (found : s.runs[i]? = some run)
    {returned : Option (List Char)} (reading : run.stage = .reading returned) :
    Inv (onAnswer s i run returned) := by
  have held : ∀ stage : Stage, stage.held = [] → ∀ location, location ≠ [] →
      (heldLocations (Browser.moveTo s i run stage)).count location +
        (if returned.getD [] = location then 1 else 0) = (heldLocations s).count location := by
    intro stage none location some
    have moved := held_moveTo found stage location
    rw [none, if_neg some.symm, reading] at moved
    exact moved
  unfold Browser.onAnswer
  split
  · have fresh : Fresh (Browser.moveTo s i run .returned) :=
      inv.fresh.moveTo found fun back => by cases back
    obtain ⟨nodup, old⟩ := inv.distinct.moveTo found .returned
    refine ⟨inv.named, ?_, inv.peers.moveTo found _, ⟨nodup, old⟩, fresh⟩
    intro location some
    have owned := inv.ledger location some
    have dropped := held .returned rfl location some
    show s.posts.count location = (s.deletes ++ located (returned.getD [])).count location +
      (if s.activeWhepLocation = location then 1 else 0) +
      (heldLocations (Browser.moveTo s i run .returned)).count location
    rw [List.count_append, located_count some]
    omega
  · next newest =>
    have newest : run.generation = s.videoGeneration := not_not.1 newest
    have empty : s.activeWhepLocation = [] := by
      apply inv.fresh run (List.mem_of_getElem? found) newest
      rw [reading]
      rfl
    have distinct := inv.distinct.moveTo found .setRemoteDescription
    refine ⟨inv.named, ?_, inv.peers.moveTo found _, ⟨distinct.nodup, distinct.old⟩, ?_⟩
    · intro location some
      have owned := inv.ledger location some
      have dropped := held .setRemoteDescription rfl location some
      rw [empty, if_neg some.symm] at owned
      show s.posts.count location = s.deletes.count location +
        (if returned.getD [] = location then 1 else 0) +
        (heldLocations (Browser.moveTo s i run .setRemoteDescription)).count location
      omega
    · -- the run of this generation is past its assignment
      intro other member current unassigned
      have inside := (List.getElem?_eq_some_iff.1 found).1
      have only := distinct.only (List.getElem?_set_self inside) member (current.trans newest.symm)
      rw [only] at unassigned
      cases unassigned

/-! ## Runs -/

/-- The body of a response with a `Location` is read without an error. -/
def BodyRead (s : State) : Action → Prop
  | .settle i .rejected => ∀ run ∈ s.runs[i]?, run.stage.held = []
  | _ => True

instance (s : State) : (action : Action) → Decidable (BodyRead s action)
  | .settle i .rejected => inferInstanceAs (Decidable (∀ run ∈ s.runs[i]?, run.stage.held = []))
  | .settle _ (.resolved _) => .isTrue trivial
  | .connect => .isTrue trivial
  | .timer _ => .isTrue trivial
  | .stateChange _ _ => .isTrue trivial
  | .pagehide => .isTrue trivial

theorem Inv.init : Inv {} := by
  constructor
  · exact List.not_mem_nil
  · intro location some
    simp [heldLocations, some.symm]
  · intro i run found
    cases found
  · exact ⟨List.nodup_nil, fun generation member => by cases member⟩
  · intro run member
    cases member

theorem Inv.resume (inv : Inv s) (found : s.runs[i]? = some run) {outcome : Settled Response}
    (read : outcome = .rejected → run.stage.held = []) (moved : resume s i run outcome = some t) :
    Inv t := by
  cases outcome with
  | rejected =>
    have failed : t = Browser.fail s i run := by
      simp only [Browser.resume] at moved
      split at moved
      · cases moved
      · exact (Option.some.inj moved).symm
    rw [failed]
    exact inv.fail found (read rfl)
  | resolved response =>
    cases stage : run.stage with
    | createOffer | setLocalDescription | iceGathering =>
      simp only [Browser.resume, stage, Option.some.injEq] at moved
      rw [← moved]
      exact inv.moveTo found (fun _ => by rw [stage]; rfl) (by rw [stage]; rfl) rfl
    | posting =>
      simp only [Browser.resume, stage, Option.some.injEq] at moved
      rw [← moved]
      exact inv.onResponse found stage response
    | reading location =>
      simp only [Browser.resume, stage, Option.some.injEq] at moved
      rw [← moved]
      exact inv.onAnswer found stage
    | setRemoteDescription =>
      simp only [Browser.resume, stage, Option.some.injEq] at moved
      rw [← moved]
      exact inv.moveTo found (fun back => by cases back) (by rw [stage]; rfl) rfl
    | returned => simp [Browser.resume, stage] at moved

theorem Inv.step (inv : Inv s) {action : Action} (read : BodyRead s action)
    (moved : step s action = some t) : Inv t := by
  cases action with
  | connect =>
    cases moved
    exact inv.connect
  | timer id =>
    have fired : Inv { s with timers := s.timers.erase id } :=
      ⟨inv.named, inv.ledger, inv.peers, ⟨inv.distinct.nodup, inv.distinct.old⟩, inv.fresh⟩
    obtain ⟨_, ⟨⟩⟩ := Option.ite_none_right_eq_some.1 moved
    exact fired.connect
  | stateChange i state =>
    obtain ⟨run, _, changed⟩ := Option.bind_eq_some_iff.1 moved
    rw [← Option.some.inj changed]
    unfold connectionStateChange
    split
    · exact inv
    · split
      · exact inv.close.retry _
      · exact inv
  | pagehide =>
    cases moved
    exact inv.close
  | settle i outcome =>
    obtain ⟨run, found, resumed⟩ := Option.bind_eq_some_iff.1 moved
    apply inv.resume found _ resumed
    intro rejected
    rw [rejected] at read
    exact read run found

/-- Between the POST and the assignment that follows it. -/
def Stage.pending : Stage → Bool
  | .posting | .reading _ => true
  | _ => false

def Quiet (s : State) : Prop := ∀ run ∈ s.runs, run.stage.pending = false

instance (s : State) : Decidable (Quiet s) :=
  inferInstanceAs (Decidable (∀ run ∈ s.runs, run.stage.pending = false))

/-- The `Location` is active and was sent no `DELETE`, or was sent exactly one. -/
def Owned (s : State) (location : List Char) : Prop :=
  (s.activeWhepLocation = location ∧ s.deletes.count location = 0) ∨
    (s.activeWhepLocation ≠ location ∧ s.deletes.count location = 1)

instance (s : State) (location : List Char) : Decidable (Owned s location) :=
  inferInstanceAs (Decidable (_ ∨ _))

/-- While no run is between its POST and its assignment, no run holds a `Location`. -/
theorem held_quiet (quiet : Quiet s) {location : List Char} (some : location ≠ []) :
    (heldLocations s).count location = 0 := by
  apply List.count_eq_zero.2
  intro member
  obtain ⟨run, here, rfl⟩ := List.mem_map.1 member
  have idle := quiet run here
  cases stage : run.stage with
  | reading location =>
    rw [stage] at idle
    cases idle
  | _ => exact some (by rw [stage]; rfl)

/-- In every run in which no body of a response with a `Location` fails to be read: whenever no
`connectVideo` is between its POST and its assignment, a `Location` is active or deleted as often
as POSTs returned it, so one that a single POST returned is active or was sent exactly one
`DELETE`; and at most one connection is not closed. -/
theorem whep_sessions_owned (run : Runs step BodyRead {} s) (quiet : Quiet s) :
    (∀ location ∈ s.posts, s.posts.count location =
      s.deletes.count location + if s.activeWhepLocation = location then 1 else 0) ∧
      (∀ location ∈ s.posts, s.posts.count location = 1 → Owned s location) ∧
      ∀ (i j : Nat) (a b : Run), s.runs[i]? = some a → s.runs[j]? = some b → a.peerClosed = false →
        b.peerClosed = false → i = j := by
  have inv : Inv s := by
    apply run.invariant
    · exact Inv.init
    · intro u action v inv read moved
      exact inv.step read moved
  have balance : ∀ location ∈ s.posts, s.posts.count location =
      s.deletes.count location + if s.activeWhepLocation = location then 1 else 0 := by
    intro location member
    have some : location ≠ [] := by
      rintro rfl
      exact inv.named member
    have ledger := inv.ledger location some
    rw [held_quiet quiet some] at ledger
    exact ledger
  refine ⟨balance, ?_, ?_⟩
  · intro location member one
    have owned := balance location member
    rw [one] at owned
    split at owned
    · next active => exact .inl ⟨active, by omega⟩
    · next inactive => exact .inr ⟨inactive, by omega⟩
  · intro i j a b first second opened opened'
    have active := inv.peers i a first opened
    have active' := inv.peers j b second opened'
    exact Option.some.inj (active.symm.trans active')

/-- A response with this `Location`; the promises that are not a `fetch` ignore it. -/
def answer (location : String) : Settled Response := .resolved ⟨true, some location.toList⟩

/-- A second `connectVideo` overtakes the first one, which deletes what its POST returned. -/
theorem whep_sessions_owned_overtaken : ∃ s : State,
    (s.activeWhepLocation = "/b".toList ∧ s.deletes = ["/a".toList]) ∧ s.posts.length = 2 ∧
    Owned s "/a".toList ∧ Owned s "/b".toList := by
  have reached : ∃ s, Runs step BodyRead {} s ∧ Quiet s ∧
      s.posts = ["/a".toList, "/b".toList] ∧ s.activeWhepLocation = "/b".toList ∧
      s.deletes = ["/a".toList] := by
    apply Runs.exists_of_play [.connect, .settle 0 (answer ""), .settle 0 (answer ""),
      .settle 0 (answer ""), .settle 0 (answer "/a"), .connect, .settle 0 (answer ""),
      .settle 1 (answer ""), .settle 1 (answer ""), .settle 1 (answer ""), .settle 1 (answer "/b"),
      .settle 1 (answer "")]
    · decide +kernel
    · decide +kernel
  obtain ⟨s, run, quiet, posts, active, deletes⟩ := reached
  obtain ⟨_, owned, _⟩ := whep_sessions_owned run quiet
  refine ⟨s, ⟨active, deletes⟩, by rw [posts]; rfl, owned _ ?_ ?_, owned _ ?_ ?_⟩
  all_goals
    rw [posts]
    decide

/-- The POST is answered with a `Location`, then the body cannot be read: the run ends, and the
session is neither active nor deleted. -/
theorem unread_body_leaks : ∃ s, Runs step Free {} s ∧ Quiet s ∧
    s.posts = ["/a".toList] ∧ ¬Owned s "/a".toList ∧ s.activeWhepLocation = [] ∧ s.deletes = [] := by
  apply Runs.exists_of_play [.connect, .settle 0 (answer ""), .settle 0 (answer ""),
    .settle 0 (answer ""), .settle 0 (answer "/a"), .settle 0 .rejected]
  · decide +kernel
  · exact Meets.free _ _

end SkaiEdge.Browser
