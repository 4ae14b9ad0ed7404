import SkaiEdge.Video.RecordingController

/-!
# The reported state of a recording

The HTTP threads, the recorder's worker and the muxer's thread call the controller in any order.
Two of its member functions take a field at its word that another thread has not caught up
with: `start` leaves the state alone while `active` is still set from the recording that is being
stopped, and `set_active` reports a recording whatever has happened to it in between. `Timely`
names the two; without them the state follows the request and an error stays until it is asked
away, and each of them breaks one or the other.
-/

namespace SkaiEdge.Video

open RecordingController

/-- A call of a member function. -/
inductive Request where
  | configure (enabled : Bool)
  | start
  | stop
  | setActive (path : List Char)
  | setStopped
  | setError (error : List Char)
  | commitWritten (accessUnits bytes : Nat)
  | addDropped
  | setMediaAvailable (available : Bool) (reason : List Char)
  deriving DecidableEq, Repr

def RecordingController.serve (c : RecordingController) : Request → RecordingController
  | .configure enabled => c.configure enabled
  | .start => c.orElse c.start
  | .stop => c.orElse c.stop
  | .setActive path => c.setActive path
  | .setStopped => c.setStopped
  | .setError error => c.setError error
  | .commitWritten accessUnits bytes => c.commitWritten accessUnits bytes
  | .addDropped => c.addDropped
  | .setMediaAvailable available reason => c.setMediaAvailable available reason

/-- The controller after the requests, from its construction on. -/
def served (requests : List Request) : RecordingController := requests.foldl serve {}

/-- The error that nobody has asked away: the one of the last `set_error`, unless a `start`, a
`stop` or a `configure` came after it. -/
def standing (error : Option (List Char)) : Request → Option (List Char)
  | .setError error => some error
  | .start | .stop | .configure _ => none
  | _ => error

def standingError (requests : List Request) : Option (List Char) := requests.foldl standing none

/-- The states that go with a request. -/
def RecordingState.wanted : RecordingState → Bool
  | .starting | .recording => true
  | _ => false

/-- What is promised of the reported state, given the error that stands. -/
structure Reports (c : RecordingController) (error : Option (List Char)) : Prop where
  wanted : c.isRequested = true → c.status.state.wanted = true
  failed : ∀ e, error = some e → c.status.state = .error ∧ c.status.lastError = e

/-- The request does not meet a flag that is out of date: a `start` that is accepted does not find
`active` set under another state than `starting` or `recording`, and no `set_active` comes while
an error stands. -/
def Timely (c : RecordingController) (error : Option (List Char)) : Request → Prop
  | .start => c.configured = true → c.mediaAvailable = true → c.status.active = true →
      c.status.state.wanted = true
  | .setActive _ => error = none
  | _ => True

/-- What the requests keep; media that come back find a recording that was never stopped. -/
structure Followed (c : RecordingController) (error : Option (List Char)) : Prop where
  reports : Reports c error
  active : c.requested = true → c.status.active = true → c.status.state.wanted = true
  dropped : ∀ e, error = some e → c.requested = false

theorem orElse_start (c : RecordingController) : c.orElse c.start =
    if c.configured && c.mediaAvailable then
      { c with
        requested := true
        status := { c.status with
          lastError := []
          state := if !c.status.active then .starting else c.status.state } }
    else c := by
  unfold RecordingController.start
  cases c.configured <;> cases c.mediaAvailable <;> rfl

theorem orElse_stop (c : RecordingController) : c.orElse c.stop =
    if c.configured then
      { c with
        requested := false
        status := { c.status with state := if c.status.active then .stopping else .stopped } }
    else c := by
  unfold RecordingController.stop
  cases c.configured <;> rfl

theorem Followed.start {c : RecordingController} {error : Option (List Char)}
    (followed : Followed c error) (timely : Timely c error .start) :
    Followed (c.orElse c.start) none := by
  rw [orElse_start]
  split
  · rename_i accepted
    obtain ⟨configured, available⟩ := Bool.and_eq_true_iff.1 accepted
    have state : (if !c.status.active then RecordingState.starting
        else c.status.state).wanted = true := by
      cases active : c.status.active with
      | false => rfl
      | true => exact timely configured available active
    exact ⟨⟨fun _ => state, by simp⟩, fun _ _ => state, by simp⟩
  · exact ⟨⟨followed.reports.wanted, by simp⟩, followed.active, by simp⟩

theorem Followed.stop {c : RecordingController} {error : Option (List Char)}
    (followed : Followed c error) : Followed (c.orElse c.stop) none := by
  rw [orElse_stop]
  split
  · exact ⟨⟨by simp [isRequested], by simp⟩, by simp, by simp⟩
  · exact ⟨⟨followed.reports.wanted, by simp⟩, followed.active, by simp⟩

theorem Followed.setMediaAvailable {c : RecordingController} {error : Option (List Char)}
    (followed : Followed c error) (available : Bool) (reason : List Char) :
    Followed (c.setMediaAvailable available reason) error := by
  obtain ⟨⟨wanted, failed⟩, active, dropped⟩ := followed
  have requested : (c.setMediaAvailable available reason).requested = c.requested := rfl
  have error' : (c.setMediaAvailable available reason).status.lastError = c.status.lastError := rfl
  -- a standing error is left alone: nothing is requested then
  have stays : ∀ e, error = some e →
      (c.setMediaAvailable available reason).status.state = .error := by
    intro e stands
    cases available <;>
      simp [RecordingController.setMediaAvailable, (failed e stands).1, dropped e stands]
  refine ⟨⟨?_, fun e stands => ⟨stays e stands, error' ▸ (failed e stands).2⟩⟩, ?_,
    fun e stands => requested ▸ dropped e stands⟩
  · intro asked
    cases available with
    | false => simp [isRequested, RecordingController.setMediaAvailable] at asked
    | true =>
      have on : c.requested = true := by
        simpa [isRequested, RecordingController.setMediaAvailable] using asked
      cases running : c.status.active with
      | false => simp [RecordingController.setMediaAvailable, on, running, RecordingState.wanted]
      | true => simpa [RecordingController.setMediaAvailable, on, running] using active on running
  · intro on running
    rw [requested] at on
    cases available with
    | false => simp [RecordingController.setMediaAvailable] at running
    | true =>
      have running : c.status.active = true := running
      simpa [RecordingController.setMediaAvailable, on, running] using active on running

/-- A timely request keeps what the state says. -/
theorem Followed.serve {c : RecordingController} {error : Option (List Char)} {request : Request}
    (followed : Followed c error) (timely : Timely c error request) :
    Followed (c.serve request) (standing error request) := by
  cases request with
  | configure enabled =>
    refine ⟨⟨?_, by simp [standing]⟩, ?_, by simp [standing]⟩
    · intro asked
      obtain ⟨rfl, available⟩ : enabled = true ∧ c.mediaAvailable = true := by
        simpa [RecordingController.serve, isRequested, RecordingController.configure] using asked
      simp [RecordingController.serve, RecordingController.configure, available, RecordingState.wanted]
    · intro _ running
      simp [RecordingController.serve, RecordingController.configure] at running
  | start => exact followed.start timely
  | stop => exact followed.stop
  | setActive path =>
    obtain rfl : error = none := timely
    exact ⟨⟨fun _ => rfl, by simp [standing]⟩, fun _ _ => rfl, by simp [standing]⟩
  | setStopped =>
    obtain ⟨⟨wanted, failed⟩, active, dropped⟩ := followed
    refine ⟨⟨?_, ?_⟩, ?_, dropped⟩
    · intro asked
      have on : c.requested = true := (Bool.and_eq_true_iff.1 asked).1
      simpa [RecordingController.serve, RecordingController.setStopped, on] using wanted asked
    · intro e stands
      obtain ⟨state, last⟩ := failed e stands
      exact ⟨by simp [RecordingController.serve, RecordingController.setStopped, state], last⟩
    · intro _ running
      simp [RecordingController.serve, RecordingController.setStopped] at running
  | setError e =>
    refine ⟨⟨?_, ?_⟩, ?_, fun _ _ => rfl⟩
    · intro asked
      simp [RecordingController.serve, isRequested, RecordingController.setError] at asked
    · intro e' stands
      cases stands
      exact ⟨rfl, rfl⟩
    · intro on
      simp [RecordingController.serve, RecordingController.setError] at on
  | commitWritten accessUnits bytes =>
    exact ⟨⟨followed.reports.wanted, followed.reports.failed⟩, followed.active, followed.dropped⟩
  | addDropped =>
    exact ⟨⟨followed.reports.wanted, followed.reports.failed⟩, followed.active, followed.dropped⟩
  | setMediaAvailable available reason => exact followed.setMediaAvailable available reason

/-- A request out of time shows at once. -/
theorem timely_of_reports {c : RecordingController} {error : Option (List Char)} {request : Request}
    (reports : Reports (c.serve request) (standing error request)) : Timely c error request := by
  cases request with
  | start =>
    intro configured available active
    have wanted := reports.wanted
    simp only [RecordingController.serve, orElse_start, configured, available, Bool.and_self,
      if_true, isRequested, active, Bool.not_true, Bool.false_eq_true, if_false] at wanted
    exact wanted trivial
  | setActive path =>
    cases error with
    | none => rfl
    | some e => cases (reports.failed e rfl).1
  | _ => trivial

/-- Every state that the requests lead through reports what it should. -/
def Consistent (requests : List Request) : Prop :=
  ∀ made, made <+: requests → Reports (served made) (standingError made)

/-- Every one of the requests is timely where it is made. -/
def AllTimely (requests : List Request) : Prop :=
  ∀ made request, made ++ [request] <+: requests → Timely (served made) (standingError made) request

theorem served_followed {requests : List Request} (timely : AllTimely requests) :
    Followed (served requests) (standingError requests) := by
  induction requests using List.reverseRecOn with
  | nil => exact ⟨⟨by decide, by simp [standingError]⟩, by decide, by simp [standingError]⟩
  | append_singleton made request ih =>
    have before := ih fun made' request' front => timely made' request' (front.trans (List.prefix_append ..))
    have next := before.serve (timely made request List.prefix_rfl)
    rw [served, standingError, List.foldl_append, List.foldl_append]
    exact next

/-- **The reported state follows the requests exactly as long as they are timely**: in every
sequence of calls, the states it leads through are `starting` or `recording` whenever a recording
is requested, and keep `error` with the last error until a `start`, `stop` or `configure`, if and
only if no accepted `start` finds `active` set under another state and no `set_active` comes
while an error stands. -/
theorem recording_state_consistent (requests : List Request) :
    Consistent requests ↔ AllTimely requests := by
  constructor
  · intro consistent made request front
    have reports := consistent (made ++ [request]) front
    rw [served, standingError, List.foldl_append, List.foldl_append] at reports
    exact timely_of_reports reports
  · intro timely made front
    exact (served_followed fun made' request' front' =>
      timely made' request' (front'.trans front)).reports

/-- A `start` right behind a `stop` leaves the state at `stopping`; a segment that the muxer opens
behind an error hides the error. -/
theorem stale_active_reported :
    ¬ Consistent [.configure true, .setActive "a.mp4".toList, .stop, .start] ∧
      ¬ Consistent [.configure true, .setError "disk full".toList, .setActive "b.mp4".toList] := by
  constructor
  · intro consistent
    have := (consistent _ List.prefix_rfl).wanted (by decide)
    revert this
    decide
  · intro consistent
    have := ((consistent _ List.prefix_rfl).failed "disk full".toList (by decide)).1
    revert this
    decide

end SkaiEdge.Video
