import SkaiEdge.Lib.Runs
import SkaiEdge.WebRtc.WhipResource

/-!
# The WHIP resource (`run` and `publish_once` in `src/webrtc/whip_publisher.cpp`)

A POST that the server answers with 201 leaves a resource on the server, which the publisher
is to DELETE. `Place` follows the worker from one point where it can be interrupted to the
next; `Action` is what happens there: `stop` from another thread, an exception, an answer of
the server. The media loop, which sends no request, is one place (`session`); it is modelled
in `WhipPublisher`. Closing the peer connection and loading the token do not throw.

`log` is ghost: the requests and answers in their order. `Ledger` is the rule they are to
follow; the worker follows it as long as nothing throws between the arrival of a 201 and the
assignment of `location`, and the DELETE request can be built (`resource_lifecycle`). A 201
whose transfer is cut short is forgotten (`aborted_transfer_leaks`).
-/

namespace SkaiEdge.WebRtc.WhipLifecycle

open SkaiEdge.Lib SkaiEdge.WebRtc.WhipResource

/-- What the server sees of the worker, and what it answers. -/
inductive Event where
  | post
  | answered (status : Nat) (location : List Char)
  | delete (url : List Char)
  | exited
  deriving DecidableEq, Repr

/-- The exceptions that `run` tells apart. -/
inductive Thrown where
  | unrecoverable
  | exception
  | unknown
  deriving DecidableEq, Repr

/-- Where the worker stands. -/
inductive Place where
  /-- `while (!stopping_)` in `run`. -/
  | head
  /-- `publish_once` before its `try`. -/
  | opening
  /-- `setLocalDescription` and the wait for the candidates. -/
  | offering
  /-- `request` of the POST, before it is sent. -/
  | posting
  | awaiting
  /-- The header of the answer is in, the rest of the transfer is not. -/
  | answering (status : Nat) (location : List Char)
  | returned (status : Nat) (location : List Char)
  /-- From `setRemoteDescription` to the end of the media loop. -/
  | session
  /-- `peer->close()`, and `close_resource` up to its request. -/
  | closing (raised : Option Thrown)
  | deleting (raised : Option Thrown)
  /-- `publish_once` has returned or thrown. -/
  | caught (raised : Option Thrown)
  | waiting
  | exited
  deriving DecidableEq, Repr

structure State where
  stopping : Bool := false
  place : Place := .head
  location : List Char := []
  log : List Event := []
  deriving DecidableEq, Repr

inductive Action where
  /-- `stop()`. -/
  | stop
  /-- The worker goes on to its next place. -/
  | next
  /-- An exception at this place; only `whip_resource_url` throws an unrecoverable one. -/
  | throws (standard : Bool)
  | answer (status : Nat) (location : List Char)
  /-- `close_resource` sends its request or fails to; its log may throw. -/
  | delete (sent logThrows : Bool)
  deriving DecidableEq, Repr

def thrown (standard : Bool) : Thrown := if standard then .exception else .unknown

/-- The place is inside the `try` of `publish_once`. -/
def Place.guarded : Place → Bool
  | .offering | .posting | .awaiting | .answering _ _ | .returned _ _ | .session => true
  | _ => false

section Step

variable (endpoint : List Char)

/-- What the worker does when nothing goes wrong at its place. -/
def advance (s : State) : Option State :=
  match s.place with
  | .head =>
    if s.stopping then some { s with place := .exited, log := s.log ++ [.exited] }
    else some { s with place := .opening, location := [] }
  | .opening => some { s with place := .offering }
  | .offering =>
    -- a return inside the `try` does not pass the cleanup behind it
    if s.stopping then some { s with place := .caught none } else some { s with place := .posting }
  | .posting => some { s with place := .awaiting, log := s.log ++ [.post] }
  | .awaiting => none
  | .answering status location => some { s with place := .returned status location }
  | .returned status location =>
    if status ≠ 201 then some { s with place := .closing (some .exception) }
    else
      match whipResourceUrl endpoint location with
      | .ok url => some { s with place := .session, location := url }
      | .error _ => some { s with place := .closing (some .unrecoverable) }
  | .session => if s.stopping then some { s with place := .closing none } else some s
  | .closing raised =>
    if s.location = [] then some { s with place := .caught raised }
    else some { s with place := .deleting raised }
  | .deleting _ => none
  | .caught raised =>
    if raised = some .unrecoverable ∨ s.stopping then
      some { s with place := .exited, log := s.log ++ [.exited] }
    else some { s with place := .waiting }
  | .waiting => some { s with place := .head }
  | .exited => none

def step (s : State) : Action → Option State
  | .stop => some { s with stopping := true }
  | .next => advance endpoint s
  | .throws standard =>
    if s.place = .opening then some { s with place := .caught (some (thrown standard)) }
    else if s.place.guarded then some { s with place := .closing (some (thrown standard)) }
    else none
  | .answer status location =>
    if s.place = .awaiting then
      some { s with
        place := .answering status location
        log := s.log ++ [.answered status location] }
    else none
  | .delete sent logThrows =>
    match s.place with
    | .deleting raised =>
      some { s with
        place := .caught (if logThrows then some .exception else raised)
        log := if sent then s.log ++ [.delete s.location] else s.log }
    | _ => none

/-- A 201 is in and `location` is not set. -/
def Place.unrecorded : Place → Bool
  | .answering status _ | .returned status _ => status = 201
  | _ => false

/-- Nothing is lost between a 201 and `location`, and the DELETE is sent. -/
def Undisturbed (s : State) : Action → Prop
  | .throws _ => s.place.unrecorded = false
  | .delete sent _ => sent = true
  | _ => True

instance (s : State) : DecidablePred (Undisturbed s)
  | .throws _ => inferInstanceAs (Decidable (_ = false))
  | .delete _ _ => inferInstanceAs (Decidable (_ = true))
  | .stop | .next | .answer _ _ => .isTrue trivial

end Step

/-! ## The rule -/

/-- What the requests and answers so far ask for. -/
inductive Ledger where
  | idle
  | posted
  /-- This resource is to be deleted. -/
  | owed (url : List Char)
  /-- A resource that cannot be deleted: no further POST. -/
  | barred
  | ended
  deriving DecidableEq, Repr

def Ledger.record (endpoint : List Char) : Ledger → Event → Option Ledger
  | .idle, .post | .posted, .post => some .posted
  | .posted, .answered status location =>
    if status = 201 then
      match whipResourceUrl endpoint location with
      | .ok url => some (.owed url)
      | .error _ => some .barred
    else some .idle
  | .owed url, .delete url' => if url' = url then some .idle else none
  | .idle, .exited | .posted, .exited | .barred, .exited => some .ended
  | _, _ => none

/-- The events that end a turn of the worker. -/
def Event.turns : Event → Bool
  | .post | .exited => true
  | _ => false

/-- The resources that are deleted, in their order. -/
def deleted (log : List Event) : List (List Char) :=
  log.filterMap fun
    | .delete url => some url
    | _ => none

/-- **The lifecycle of the resources.** -/
structure Lifecycle (endpoint : List Char) (log : List Event) : Prop where
  /-- A 201 with an accepted `Location` is followed by one DELETE of its resource, which comes
  before any further POST and before the worker exits. -/
  closed : ∀ before location behind url, log = before ++ .answered 201 location :: behind →
    whipResourceUrl endpoint location = .ok url →
    let turn := behind.takeWhile fun e => !e.turns
    (deleted turn = [] ∧ turn = behind) ∨ deleted turn = [url]
  /-- No other DELETE. -/
  owed : ∀ before url behind, log = before ++ .delete url :: behind →
    ∃ earlier location, before = earlier ++ [.answered 201 location] ∧
      whipResourceUrl endpoint location = .ok url
  /-- A 201 with a rejected `Location` is followed by no POST. -/
  barred : ∀ before location behind reason, log = before ++ .answered 201 location :: behind →
    whipResourceUrl endpoint location = .error reason → .post ∉ behind

section Rule

variable {endpoint : List Char}

/-- The ledger after a log that follows the rule. -/
def Follows (endpoint : List Char) (log : List Event) (m : Ledger) : Prop :=
  log.foldlM (Ledger.record endpoint) .idle = some m

theorem foldlM_split {before behind : List Event} {l m : Ledger}
    (follows : (before ++ behind).foldlM (Ledger.record endpoint) l = some m) :
    ∃ k, before.foldlM (Ledger.record endpoint) l = some k ∧
      behind.foldlM (Ledger.record endpoint) k = some m := by
  rw [List.foldlM_append] at follows
  exact Option.bind_eq_some_iff.1 follows

theorem foldlM_head {e : Event} {behind : List Event} {l m : Ledger}
    (follows : (e :: behind).foldlM (Ledger.record endpoint) l = some m) :
    ∃ k, l.record endpoint e = some k ∧ behind.foldlM (Ledger.record endpoint) k = some m := by
  rw [List.foldlM_cons] at follows
  exact Option.bind_eq_some_iff.1 follows

/-- With nothing to delete, the next event begins or ends a turn. -/
theorem idle_turns {e : Event} {behind : List Event} {m : Ledger}
    (follows : (e :: behind).foldlM (Ledger.record endpoint) .idle = some m) : e.turns = true := by
  obtain ⟨k, recorded, -⟩ := foldlM_head follows
  cases e <;> first | rfl | contradiction

/-- With a resource to delete, its DELETE is the next event, and the turn ends behind it. -/
theorem owed_turn {url : List Char} {behind : List Event} {m : Ledger}
    (follows : behind.foldlM (Ledger.record endpoint) (.owed url) = some m) :
    let turn := behind.takeWhile fun e => !e.turns
    (deleted turn = [] ∧ turn = behind) ∨ deleted turn = [url] := by
  cases behind with
  | nil => exact .inl ⟨rfl, rfl⟩
  | cons e behind =>
    obtain ⟨k, recorded, rest⟩ := foldlM_head follows
    cases e with
    | delete url' =>
      rw [Ledger.record] at recorded
      split at recorded
      · rename_i same
        cases recorded
        subst same
        have turn : (Event.delete url' :: behind).takeWhile (fun e => !e.turns) =
            [.delete url'] := by
          rw [List.takeWhile_cons_of_pos rfl]
          cases behind with
          | nil => rfl
          | cons e behind => rw [List.takeWhile_cons_of_neg (by simp [idle_turns rest])]
        rw [turn]
        exact .inr rfl
      · contradiction
    | post => contradiction
    | answered status location => contradiction
    | exited => contradiction

theorem record_owed {l : Ledger} {e : Event} {url : List Char}
    (recorded : l.record endpoint e = some (.owed url)) :
    ∃ location, e = .answered 201 location ∧ whipResourceUrl endpoint location = .ok url := by
  unfold Ledger.record at recorded
  split at recorded
  case h_3 =>
    rename_i status location
    split at recorded
    · rename_i created
      subst created
      split at recorded
      · rename_i accepted
        cases recorded
        exact ⟨location, rfl, accepted⟩
      · cases recorded
    · cases recorded
  case h_4 =>
    split at recorded
    · cases recorded
    · cases recorded
  all_goals cases recorded

theorem owed_last {url : List Char} {log : List Event}
    (follows : Follows endpoint log (.owed url)) :
    ∃ earlier location, log = earlier ++ [.answered 201 location] ∧
      whipResourceUrl endpoint location = .ok url := by
  rcases List.eq_nil_or_concat' log with rfl | ⟨earlier, e, rfl⟩
  · cases follows
  · obtain ⟨k, -, last⟩ := foldlM_split follows
    obtain ⟨l, recorded, same⟩ := foldlM_head last
    cases same
    obtain ⟨location, rfl, accepted⟩ := record_owed recorded
    exact ⟨earlier, location, rfl, accepted⟩

theorem barred_no_post {behind : List Event} {m : Ledger}
    (follows : behind.foldlM (Ledger.record endpoint) .barred = some m) : .post ∉ behind := by
  cases behind with
  | nil => simp
  | cons e behind =>
    obtain ⟨k, recorded, follows⟩ := foldlM_head follows
    cases e with
    | exited =>
      cases recorded
      cases behind with
      | nil => simp
      | cons e behind =>
        obtain ⟨l, recorded, -⟩ := foldlM_head follows
        cases e <;> contradiction
    | post => contradiction
    | answered status location => contradiction
    | delete url => contradiction

/-- What a 201 makes of the ledger. -/
theorem record_created {l m : Ledger} {location : List Char} {behind : List Event}
    (follows : (.answered 201 location :: behind).foldlM (Ledger.record endpoint) l = some m) :
    (∃ url, whipResourceUrl endpoint location = .ok url ∧
        behind.foldlM (Ledger.record endpoint) (.owed url) = some m) ∨
      (∃ reason, whipResourceUrl endpoint location = .error reason ∧
        behind.foldlM (Ledger.record endpoint) .barred = some m) := by
  obtain ⟨k, recorded, follows⟩ := foldlM_head follows
  cases l with
  | posted =>
    rw [Ledger.record, if_pos rfl] at recorded
    cases accepted : whipResourceUrl endpoint location with
    | ok url =>
      rw [accepted] at recorded
      cases recorded
      exact .inl ⟨url, rfl, follows⟩
    | error reason =>
      rw [accepted] at recorded
      cases recorded
      exact .inr ⟨reason, rfl, follows⟩
  | idle => contradiction
  | owed url => contradiction
  | barred => contradiction
  | ended => contradiction

/-- **The rule gives the lifecycle.** -/
theorem Follows.resources {log : List Event} {m : Ledger} (follows : Follows endpoint log m) :
    Lifecycle endpoint log := by
  refine ⟨?_, ?_, ?_⟩
  · rintro before location behind url rfl accepted
    obtain ⟨k, -, rest⟩ := foldlM_split follows
    rcases record_created rest with ⟨url', accepted', turn⟩ | ⟨reason, rejected, -⟩
    · rw [accepted] at accepted'
      cases accepted'
      exact owed_turn turn
    · rw [accepted] at rejected
      contradiction
  · rintro before url behind rfl
    obtain ⟨k, first, rest⟩ := foldlM_split follows
    obtain ⟨l, recorded, -⟩ := foldlM_head rest
    cases k with
    | owed url' =>
      rw [Ledger.record] at recorded
      split at recorded
      · rename_i same
        subst same
        exact owed_last first
      · contradiction
    | idle => contradiction
    | posted => contradiction
    | barred => contradiction
    | ended => contradiction
  · rintro before location behind reason rfl rejected
    obtain ⟨k, -, rest⟩ := foldlM_split follows
    rcases record_created rest with ⟨url, accepted, -⟩ | ⟨-, -, turn⟩
    · rw [rejected] at accepted
      contradiction
    · exact barred_no_post turn

end Rule

/-! ## The worker follows the rule -/

theorem whipResourceUrl_ne_nil {endpoint location url : List Char}
    (accepted : whipResourceUrl endpoint location = .ok url) : url ≠ [] := by
  unfold whipResourceUrl at accepted
  simp only at accepted
  split at accepted
  · contradiction
  · split at accepted
    · cases accepted
      simp
    · split at accepted
      · cases accepted
        simp
      · split at accepted
        · cases accepted
          simp
        · contradiction

/-- Nothing is to be deleted and a POST may follow. -/
def Ledger.Clear (m : Ledger) : Prop := m = .idle ∨ m = .posted

/-- **What the ledger says at each place of the worker.** -/
def Stands (endpoint : List Char) (s : State) (m : Ledger) : Prop :=
  match s.place with
  | .head | .waiting => m.Clear
  | .opening | .offering | .posting => m.Clear ∧ s.location = []
  | .awaiting => m = .posted ∧ s.location = []
  | .answering status location | .returned status location =>
    Ledger.posted.record endpoint (.answered status location) = some m ∧ s.location = []
  | .session | .deleting _ => m = .owed s.location ∧ s.location ≠ []
  | .closing raised =>
    (m = .owed s.location ∧ s.location ≠ []) ∨
      (s.location = [] ∧ (m.Clear ∨ (m = .barred ∧ raised = some .unrecoverable)))
  | .caught raised => m.Clear ∨ (m = .barred ∧ raised = some .unrecoverable)
  | .exited => m = .ended

section Step

variable {endpoint : List Char} {s t : State} {m : Ledger}

/-- What a step adds to the log, and what the ledger makes of it. -/
def Keeps (endpoint : List Char) (s : State) (m : Ledger) (t : State) : Prop :=
  ∃ events k, t.log = s.log ++ events ∧
    events.foldlM (Ledger.record endpoint) m = some k ∧ Stands endpoint t k

theorem Keeps.silent (same : t.log = s.log) (stands : Stands endpoint t m) :
    Keeps endpoint s m t := ⟨[], m, by simp [same], rfl, stands⟩

theorem Keeps.one {e : Event} {k : Ledger} (log : t.log = s.log ++ [e])
    (recorded : m.record endpoint e = some k) (stands : Stands endpoint t k) :
    Keeps endpoint s m t :=
  ⟨[e], k, log, by rw [List.foldlM_cons, recorded]; rfl, stands⟩

theorem Ledger.Clear.exits (clear : m.Clear) : m.record endpoint .exited = some .ended := by
  rcases clear with rfl | rfl <;> rfl

/-- The answer is judged: a resource to delete, one that cannot be deleted, or none. -/
theorem returned_keeps {status : Nat} {location : List Char}
    (standing : s.place = .returned status location) (stands : Stands endpoint s m)
    (moved : advance endpoint s = some t) : Keeps endpoint s m t := by
  rw [Stands, standing] at stands
  simp only [advance, standing] at moved
  obtain ⟨recorded, fresh⟩ := stands
  rw [Ledger.record] at recorded
  split at moved
  · rename_i other
    cases moved
    rw [if_neg other] at recorded
    cases recorded
    exact .silent rfl (.inr ⟨fresh, .inl (.inl rfl)⟩)
  · rename_i created
    rw [if_pos (not_not.1 created)] at recorded
    split at moved
    · rename_i url accepted
      cases moved
      simp only [accepted] at recorded
      cases recorded
      exact .silent rfl ⟨rfl, whipResourceUrl_ne_nil accepted⟩
    · rename_i reason rejected
      cases moved
      simp only [rejected] at recorded
      cases recorded
      exact .silent rfl (.inr ⟨fresh, .inr ⟨rfl, rfl⟩⟩)

theorem advance_keeps (stands : Stands endpoint s m) (moved : advance endpoint s = some t) :
    Keeps endpoint s m t := by
  cases standing : s.place with
  | head =>
    rw [Stands, standing] at stands
    simp only [advance, standing] at moved
    split at moved
    · cases moved
      exact .one rfl stands.exits rfl
    · cases moved
      exact .silent rfl ⟨stands, rfl⟩
  | opening =>
    rw [Stands, standing] at stands
    simp only [advance, standing] at moved
    cases moved
    exact .silent rfl stands
  | offering =>
    rw [Stands, standing] at stands
    simp only [advance, standing] at moved
    split at moved
    · cases moved
      exact .silent rfl (.inl stands.1)
    · cases moved
      exact .silent rfl stands
  | posting =>
    rw [Stands, standing] at stands
    simp only [advance, standing] at moved
    cases moved
    refine .one (k := .posted) rfl ?_ ⟨rfl, stands.2⟩
    rcases stands.1 with rfl | rfl <;> rfl
  | awaiting => simp [advance, standing] at moved
  | answering status location =>
    rw [Stands, standing] at stands
    simp only [advance, standing] at moved
    cases moved
    exact .silent rfl stands
  | returned status location => exact returned_keeps standing stands moved
  | session =>
    rw [Stands, standing] at stands
    simp only [advance, standing] at moved
    split at moved
    · cases moved
      exact .silent rfl (.inl stands)
    · cases moved
      exact .silent rfl (by rw [Stands, standing]; exact stands)
  | closing raised =>
    rw [Stands, standing] at stands
    simp only [advance, standing] at moved
    split at moved
    · rename_i none'
      cases moved
      rcases stands with ⟨-, some'⟩ | ⟨-, rest⟩
      · exact absurd none' some'
      · exact .silent rfl rest
    · rename_i some'
      cases moved
      rcases stands with owed | ⟨none', -⟩
      · exact .silent rfl owed
      · exact absurd none' some'
  | deleting raised => simp [advance, standing] at moved
  | caught raised =>
    rw [Stands, standing] at stands
    simp only [advance, standing] at moved
    split at moved
    · cases moved
      rcases stands with clear | ⟨rfl, -⟩
      · exact .one rfl clear.exits rfl
      · exact .one rfl rfl rfl
    · rename_i retries
      cases moved
      rcases stands with clear | ⟨-, unrecoverable⟩
      · exact .silent rfl clear
      · exact absurd (.inl unrecoverable) retries
  | waiting =>
    rw [Stands, standing] at stands
    simp only [advance, standing] at moved
    cases moved
    exact .silent rfl stands
  | exited => simp [advance, standing] at moved

/-- An exception loses nothing, except where a 201 is not in `location` yet. -/
theorem throws_keeps {standard : Bool} (stands : Stands endpoint s m)
    (calm : Undisturbed s (.throws standard)) (moved : step endpoint s (.throws standard) = some t) :
    Keeps endpoint s m t := by
  -- a guarded place without a resource goes to the cleanup with nothing to clean up
  have clean : m.Clear → s.location = [] →
      Keeps endpoint s m { s with place := .closing (some (thrown standard)) } :=
    fun clear fresh => .silent rfl (.inr ⟨fresh, .inl clear⟩)
  have answered : ∀ {status : Nat} {location}, decide (status = 201) = false →
      Ledger.posted.record endpoint (.answered status location) = some m → m.Clear := by
    intro status location other recorded
    rw [Ledger.record, if_neg (of_decide_eq_false other)] at recorded
    cases recorded
    exact .inl rfl
  unfold Stands at stands
  rw [step] at moved
  unfold Undisturbed at calm
  cases standing : s.place with
  | opening =>
    simp only [standing, if_true] at stands moved
    cases moved
    exact .silent rfl (.inl stands.1)
  | offering | posting =>
    simp only [standing, Place.guarded, reduceCtorEq, if_false, if_true] at stands moved
    cases moved
    exact clean stands.1 stands.2
  | awaiting =>
    simp only [standing, Place.guarded, reduceCtorEq, if_false, if_true] at stands moved
    cases moved
    exact clean (.inr stands.1) stands.2
  | answering status location | returned status location =>
    simp only [standing, Place.guarded, Place.unrecorded, reduceCtorEq, if_false, if_true]
      at stands moved calm
    cases moved
    exact clean (answered calm stands.1) stands.2
  | session =>
    simp only [standing, Place.guarded, reduceCtorEq, if_false, if_true] at stands moved
    cases moved
    exact .silent rfl (.inl stands)
  | _ => simp [standing, Place.guarded] at moved

theorem step_keeps {a : Action} (stands : Stands endpoint s m) (calm : Undisturbed s a)
    (moved : step endpoint s a = some t) : Keeps endpoint s m t := by
  cases a with
  | stop =>
    cases moved
    exact .silent rfl stands
  | next => exact advance_keeps stands moved
  | throws standard => exact throws_keeps stands calm moved
  | answer status location =>
    rw [step] at moved
    split at moved
    · rename_i standing
      cases moved
      rw [Stands, standing] at stands
      obtain ⟨rfl, fresh⟩ := stands
      obtain ⟨k, recorded⟩ : ∃ k, Ledger.posted.record endpoint (.answered status location) =
          some k := by
        rw [Ledger.record]
        split
        · cases whipResourceUrl endpoint location with
          | ok url => exact ⟨_, rfl⟩
          | error reason => exact ⟨_, rfl⟩
        · exact ⟨_, rfl⟩
      exact .one rfl recorded ⟨recorded, fresh⟩
    · contradiction
  | delete sent logThrows =>
    have sent' : sent = true := calm
    subst sent'
    rw [step] at moved
    split at moved
    · rename_i raised standing
      cases moved
      rw [Stands, standing] at stands
      obtain ⟨rfl, -⟩ := stands
      refine .one (k := .idle) rfl ?_ (.inl (.inl rfl))
      rw [Ledger.record, if_pos rfl]
    · contradiction

/-- The ledger can follow what happened so far and ends where the worker stands. -/
def Sound (endpoint : List Char) (s : State) : Prop :=
  ∃ m, Follows endpoint s.log m ∧ Stands endpoint s m

theorem Sound.step {a : Action} (sound : Sound endpoint s) (calm : Undisturbed s a)
    (moved : step endpoint s a = some t) : Sound endpoint t := by
  obtain ⟨m, follows, stands⟩ := sound
  obtain ⟨events, k, log, recorded, stands'⟩ := step_keeps stands calm moved
  refine ⟨k, ?_, stands'⟩
  rw [Follows, log, List.foldlM_append, follows]
  exact recorded

end Step

/-- **The resources of the server are deleted.** In every run in which nothing throws between
the arrival of a 201 and the assignment of `location` and every DELETE request can be sent,
whatever else throws and whenever `stop` comes: every 201 with an accepted `Location` is
followed by one DELETE of its resource before any further POST and before the worker exits,
there is no other DELETE, and no POST follows a 201 with a rejected `Location`. -/
theorem resource_lifecycle {endpoint : List Char} {s : State}
    (run : Runs (step endpoint) Undisturbed {} s) : Lifecycle endpoint s.log := by
  have sound : Sound endpoint s := run.invariant ⟨.idle, rfl, .inl rfl⟩
    fun _ _ _ sound calm moved => sound.step calm moved
  obtain ⟨m, follows, -⟩ := sound
  exact follows.resources

def endpoint : List Char := ['h', 't', 't', 'p', 's', ':', '/', '/', 'h', '/', 'w']

/-- The way to an answered POST. -/
def created : List Action := [.next, .next, .next, .next, .answer 201 ['/', 'r']]

/-- A session that `stop` ends. -/
theorem resource_lifecycle_session : ∃ s : State, s.log = [.post, .answered 201 ['/', 'r'],
    .delete (endpoint.take 9 ++ ['/', 'r']), .exited] ∧ Lifecycle endpoint s.log := by
  obtain ⟨s, run, log⟩ : ∃ s, Runs (step endpoint) Undisturbed {} s ∧
      s.log = [.post, .answered 201 ['/', 'r'], .delete (endpoint.take 9 ++ ['/', 'r']), .exited] :=
    Runs.exists_of_play (created ++ [.next, .next, .stop, .next, .next, .delete true false, .next])
      (by decide) (by decide)
  exact ⟨s, log, resource_lifecycle run⟩

/-- `stop` comes while the body of the answer is received: the transfer is aborted, the worker
exits and the resource stays. -/
theorem aborted_transfer_leaks : ∃ s, Runs (step endpoint) Free {} s ∧ ¬ Lifecycle endpoint s.log := by
  obtain ⟨s, run, log⟩ : ∃ s, Runs (step endpoint) Free {} s ∧
      s.log = [.post, .answered 201 ['/', 'r'], .exited] :=
    Runs.exists_of_play (created ++ [.stop, .throws true, .next, .next]) (by decide) (Meets.free _ _)
  refine ⟨s, run, fun lifecycle => ?_⟩
  have url : whipResourceUrl endpoint ['/', 'r'] = .ok (endpoint.take 9 ++ ['/', 'r']) := by decide
  have turn := lifecycle.closed [.post] ['/', 'r'] [.exited] _ log url
  revert turn
  decide

end SkaiEdge.WebRtc.WhipLifecycle
