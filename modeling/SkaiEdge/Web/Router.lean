import SkaiEdge.Web.JsonDocuments
import SkaiEdge.WebRtc.WebRtcManager

/-!
# The routes of the HTTP interface (`src/web/router.cpp`)

`routeRequest` is the chain of comparisons of the source. What the modules answer to it is an
input, since other threads come in between two calls of one request; what it asks of them is part
of its result. `Route` is the same interface as a table: one path and one method for each route.
-/

namespace SkaiEdge.Web

open SkaiEdge.Lib SkaiEdge.App SkaiEdge.Video SkaiEdge.WebRtc

inductive Method where
  | get
  | post
  | delete
  | other
  deriving DecidableEq, Repr

def Method.name : Method → String
  | .get => "GET"
  | .post => "POST"
  | .delete => "DELETE"
  | .other => ""

structure Request where
  method : Method
  target : List UInt8
  contentType : List UInt8 := []
  body : List UInt8 := []
  deriving DecidableEq

inductive Body where
  | empty
  | json (message : Message)
  | sdp (answer : String)

structure Response where
  status : Nat
  contentType : Option String := none
  noStore : Bool := false
  allow : Option String := none
  location : Option (List UInt8) := none
  body : Body := .empty

def jsonResponse (status : Nat) (message : Message) : Response where
  status := status
  contentType := some "application/json"
  noStore := true
  body := .json message

/-! ## The modules, as a request sees them -/

/-- Every query leaves its error text, or an answer. -/
structure AlertAnswers where
  findById : List UInt8 → Except String (Option (Alerts.AlertEvent Double))
  find : AlertFilter → Except String (List (Alerts.AlertEvent Double))

structure RecordingAnswers where
  status : RecordingStatus
  /-- The error, or the status behind the call. -/
  start : Except String RecordingStatus
  stop : Except String RecordingStatus

structure WebRtcAnswers where
  diagnostics : WebRtcDiagnostics
  createSession : List UInt8 → CreateSessionResult
  closeSession : List UInt8 → Bool

structure Services where
  status : RuntimeStatusSnapshot := {}
  detectorEnabled : Bool := true
  detectorSupported : Bool := true
  publicConfig : Option PublicConfig := none
  latestDetections : Api.LatestDetectionsDto Double := {}
  latestGps : Option GpsFix := none
  alerts : Option AlertAnswers := none
  recording : Option RecordingAnswers := none
  webrtc : Option WebRtcAnswers := none
  metrics : Option MetricsSnapshot := none
  health : Option HealthSnapshot := none

/-- A call that changes something. -/
inductive Effect where
  | createSession (offer : List UInt8)
  | closeSession (id : List UInt8)
  | setDetectorEnabled (enabled : Bool)
  | startRecording
  | stopRecording
  deriving DecidableEq

/-- `make_session_id`: two digits for each of its 16 random bytes. -/
def makeSessionId (bytes : List UInt8) : String :=
  String.ofList (bytes.flatMap fun b => [Nat.digitChar (b.toNat / 16), Nat.digitChar (b.toNat % 16)])

/-! ## `route_request` -/

def alertsPath : List UInt8 := ascii "/api/v1/alerts"

def alertPrefix : List UInt8 := ascii "/api/v1/alerts/"

def sessionPrefix : List UInt8 := ascii "/api/v1/webrtc/sessions/"

/-- `path` is `prefix` and one more segment. -/
def segmentBehind (front path : List UInt8) : Bool :=
  front.isPrefixOf path && front.length < path.length && !(path.drop front.length).contains 0x2f

def alertRoute (path : List UInt8) : Bool := path = alertsPath || segmentBehind alertPrefix path

def createError : CreateSessionError → Nat
  | .invalidOffer => 400
  | .disabled => 503
  | .capacity => 429
  | .gatheringTimeout => 504
  | _ => 500

/-- What `/api/v1/webrtc/whep` does. -/
def createRoute (s : Services) (request : Request) : Response × Option Effect :=
  match s.webrtc with
  | none => (jsonResponse 503 (.error "WebRTC unavailable"), none)
  | some webrtc =>
    if request.contentType ≠ ascii "application/sdp" then
      (jsonResponse 415 (.error "Content-Type must be application/sdp"), none)
    else
      let created := webrtc.createSession request.body
      (if created.error ≠ .none then jsonResponse (createError created.error) (.error created.message)
        else
          { status := 201
            contentType := some "application/sdp"
            noStore := true
            location := some (sessionPrefix ++ utf8Bytes created.sessionId.toList)
            body := .sdp created.answerSdp },
        some (.createSession request.body))

def deleteRoute (s : Services) (id : List UInt8) : Response × Option Effect :=
  match s.webrtc with
  | none => (jsonResponse 503 (.error "WebRTC unavailable"), none)
  | some webrtc =>
    (if webrtc.closeSession id then { status := 204 } else jsonResponse 404 (.error "session not found"),
      some (.closeSession id))

def alertByIdRoute (alerts : AlertAnswers) (id : List UInt8) : Response :=
  match alerts.findById id with
  | .error error => jsonResponse 500 (.error error)
  | .ok none => jsonResponse 404 (.error "alert not found")
  | .ok (some alert) => jsonResponse 200 (.alert alert)

def alertListRoute (alerts : AlertAnswers) (target : List UInt8) : Response :=
  match alertFilter target with
  | .error error => jsonResponse 400 (.error error)
  | .ok filter =>
    match alerts.find filter with
    | .error error => jsonResponse 500 (.error error)
    | .ok items => jsonResponse 200 (.alerts items)

def recordingRoute (s : Services) (start : Bool) : Response × Option Effect :=
  match s.recording.filter (·.status.configured) with
  | none => (jsonResponse 501 .recordingMissing, none)
  | some recording =>
    (match if start then recording.start else recording.stop with
      | .ok status => jsonResponse 200 (.recording status)
      | .error error => jsonResponse 503 (.error error),
      some (if start then .startRecording else .stopRecording))

def routeRequest (s : Services) (request : Request) : Response × Option Effect :=
  let path := Text.upTo request.target (Text.find request.target 0x3f 0)
  let getRoute := path = ascii "/health" || path = ascii "/api/v1/status" ||
    path = ascii "/api/v1/metrics" || path = ascii "/api/v1/config" ||
    path = ascii "/api/v1/detections/latest" || path = ascii "/api/v1/gps" || alertRoute path ||
    path = ascii "/api/v1/recordings"
  let postRoute := path = ascii "/api/v1/recording/start" || path = ascii "/api/v1/recording/stop" ||
    path = ascii "/api/v1/detector/enable" || path = ascii "/api/v1/detector/disable" ||
    path = ascii "/api/v1/webrtc/whep"
  let isDelete := segmentBehind sessionPrefix path
  if !getRoute && !postRoute && !isDelete then (jsonResponse 404 (.error "not found"), none)
  else
    let expected : Method := if getRoute then .get else if isDelete then .delete else .post
    if request.method ≠ expected then
      ({ jsonResponse 405 (.error "method not allowed") with allow := some expected.name }, none)
    else if path = ascii "/health" then
      match s.health with
      | none => (jsonResponse 503 .watchdogUnavailable, none)
      | some health => (jsonResponse (if health.state = .running then 200 else 503) (.health health), none)
    else if path = ascii "/api/v1/status" then
      (jsonResponse 200 (.status s.status s.detectorEnabled (s.webrtc.map (·.diagnostics))), none)
    else if path = ascii "/api/v1/metrics" then
      (jsonResponse 200 (.metrics s.status (s.metrics.getD {}) s.latestGps
        (s.webrtc.map (·.diagnostics))), none)
    else if path = ascii "/api/v1/config" then
      match s.publicConfig with
      | none => (jsonResponse 503 .unavailable, none)
      | some config => (jsonResponse 200 (.config config s.detectorEnabled), none)
    else if path = ascii "/api/v1/detections/latest" then
      (jsonResponse 200 (.detections s.latestDetections), none)
    else if path = ascii "/api/v1/gps" then
      match s.latestGps with
      | none => (jsonResponse 503 .unavailable, none)
      | some fix => (jsonResponse 200 (.gps fix), none)
    else if path = ascii "/api/v1/webrtc/whep" then createRoute s request
    else if isDelete then deleteRoute s (path.drop sessionPrefix.length)
    else if alertRoute path then
      match s.alerts with
      | none => (jsonResponse 503 .noItems, none)
      | some alerts =>
        if path ≠ alertsPath then (alertByIdRoute alerts (path.drop 15), none)
        else (alertListRoute alerts request.target, none)
    else if path = ascii "/api/v1/recordings" then
      match s.recording.filter (·.status.configured) with
      | some recording =>
        (jsonResponse (if recording.status.available then 200 else 503) (.recordings recording.status), none)
      | none => (jsonResponse 503 .noItems, none)
    else if path = ascii "/api/v1/detector/enable" || path = ascii "/api/v1/detector/disable" then
      if !s.detectorSupported then (jsonResponse 503 .unavailable, none)
      else
        let enabled := path = ascii "/api/v1/detector/enable"
        (jsonResponse 200 (.enabled enabled), some (.setDetectorEnabled enabled))
    else recordingRoute s (path = ascii "/api/v1/recording/start")

/-! ## The table -/

inductive Route where
  | health
  | status
  | metrics
  | config
  | detections
  | gps
  | alerts
  | alert (id : List UInt8)
  | recordings
  | recording (start : Bool)
  | detector (enable : Bool)
  | whep
  | session (id : List UInt8)
  deriving DecidableEq

namespace Route

def path : Route → List UInt8
  | health => ascii "/health"
  | status => ascii "/api/v1/status"
  | metrics => ascii "/api/v1/metrics"
  | config => ascii "/api/v1/config"
  | detections => ascii "/api/v1/detections/latest"
  | gps => ascii "/api/v1/gps"
  | alerts => alertsPath
  | alert id => alertPrefix ++ id
  | recordings => ascii "/api/v1/recordings"
  | recording true => ascii "/api/v1/recording/start"
  | recording false => ascii "/api/v1/recording/stop"
  | detector true => ascii "/api/v1/detector/enable"
  | detector false => ascii "/api/v1/detector/disable"
  | whep => ascii "/api/v1/webrtc/whep"
  | session id => sessionPrefix ++ id

def method : Route → Method
  | recording _ | detector _ | whep => .post
  | session _ => .delete
  | _ => .get

/-- An id is one segment of a path. -/
def Segment : Route → Prop
  | alert id | session id => id ≠ [] ∧ 0x2f ∉ id
  | _ => True

def run (s : Services) (request : Request) : Route → Response × Option Effect
  | health =>
    match s.health with
    | none => (jsonResponse 503 .watchdogUnavailable, none)
    | some snapshot =>
      (jsonResponse (if snapshot.state = .running then 200 else 503) (.health snapshot), none)
  | status => (jsonResponse 200 (.status s.status s.detectorEnabled (s.webrtc.map (·.diagnostics))), none)
  | metrics =>
    (jsonResponse 200 (.metrics s.status (s.metrics.getD {}) s.latestGps
      (s.webrtc.map (·.diagnostics))), none)
  | config =>
    match s.publicConfig with
    | none => (jsonResponse 503 .unavailable, none)
    | some dto => (jsonResponse 200 (.config dto s.detectorEnabled), none)
  | detections => (jsonResponse 200 (.detections s.latestDetections), none)
  | gps =>
    match s.latestGps with
    | none => (jsonResponse 503 .unavailable, none)
    | some fix => (jsonResponse 200 (.gps fix), none)
  | alerts =>
    match s.alerts with
    | none => (jsonResponse 503 .noItems, none)
    | some repository => (alertListRoute repository request.target, none)
  | alert id =>
    match s.alerts with
    | none => (jsonResponse 503 .noItems, none)
    | some repository => (alertByIdRoute repository id, none)
  | recordings =>
    match s.recording.filter (·.status.configured) with
    | some control =>
      (jsonResponse (if control.status.available then 200 else 503) (.recordings control.status), none)
    | none => (jsonResponse 503 .noItems, none)
  | recording start => recordingRoute s start
  | detector enable =>
    if !s.detectorSupported then (jsonResponse 503 .unavailable, none)
    else (jsonResponse 200 (.enabled enable), some (.setDetectorEnabled enable))
  | whep => createRoute s request
  | session id => deleteRoute s id

end Route

def notAllowed (method : Method) : Response :=
  { jsonResponse 405 (.error "method not allowed") with allow := some method.name }

def Request.path (request : Request) : List UInt8 :=
  Text.upTo request.target (Text.find request.target 0x3f 0)

/-- What the table says about a request to a route. -/
def Route.answer (s : Services) (request : Request) (r : Route) : Response × Option Effect :=
  if request.method = r.method then r.run s request else (notAllowed r.method, none)

/-! ## Paths with an id -/

section Segments

variable {front other path id : List UInt8}

theorem segmentBehind_iff : segmentBehind front path = true ↔
    ∃ id, path = front ++ id ∧ id ≠ [] ∧ 0x2f ∉ id := by
  simp only [segmentBehind, Bool.and_eq_true, decide_eq_true_eq, Bool.not_eq_true',
    List.contains_eq_mem, decide_eq_false_iff_not, List.isPrefixOf_iff_prefix]
  constructor
  · rintro ⟨⟨⟨id, rfl⟩, longer⟩, single⟩
    rw [List.drop_left] at single
    refine ⟨id, rfl, ?_, single⟩
    rintro rfl
    simp at longer
  · rintro ⟨id, rfl, some', single⟩
    refine ⟨⟨List.prefix_append .., ?_⟩, by rwa [List.drop_left]⟩
    have := List.length_pos_iff.2 some'
    rw [List.length_append]
    omega

theorem behind_ne (apart : ¬front <+: path) : front ++ id ≠ path := by
  rintro rfl
  exact apart (List.prefix_append ..)

/-- Two prefixes of one path are prefixes of each other. -/
theorem segmentBehind_other (apart : ¬other <+: front ∧ ¬front <+: other) :
    segmentBehind other (front ++ id) = false := by
  rw [← Bool.not_eq_true, segmentBehind_iff]
  rintro ⟨rest, same, -⟩
  have first : front <+: front ++ id := List.prefix_append ..
  have second : other <+: front ++ id := ⟨rest, same.symm⟩
  rcases Nat.le_total front.length other.length with shorter | longer
  · exact apart.2 (List.prefix_of_prefix_length_le first second shorter)
  · exact apart.1 (List.prefix_of_prefix_length_le second first longer)

end Segments

/-! ## The chain and the table -/

theorem routeRequest_fixed {s : Services} {request : Request} {r : Route}
    (fixed : (∀ id, r ≠ .alert id) ∧ ∀ id, r ≠ .session id) (at' : request.path = r.path) :
    routeRequest s request = r.answer s request := by
  unfold Request.path at at'
  obtain ⟨noAlert, noSession⟩ := fixed
  cases r with
  | alert id => exact absurd rfl (noAlert id)
  | session id => exact absurd rfl (noSession id)
  | recording start =>
    cases start <;>
      simp +decide only [routeRequest, at', Route.path, Route.answer, Route.method, Route.run, notAllowed,
        if_true, if_false, ne_eq, ite_not] <;> rfl
  | detector enable =>
    cases enable <;>
      simp +decide only [routeRequest, at', Route.path, Route.answer, Route.method, Route.run, notAllowed,
        if_true, if_false, ne_eq, ite_not] <;> rfl
  | _ =>
    simp +decide only [routeRequest, at', Route.path, Route.answer, Route.method, Route.run, notAllowed,
      if_true, if_false, ne_eq, ite_not]
    rfl

theorem routeRequest_alert {s : Services} {request : Request} {id : List UInt8}
    (segment : (Route.alert id).Segment) (at' : request.path = (Route.alert id).path) :
    routeRequest s request = (Route.alert id).answer s request := by
  have front : Text.upTo request.target (Text.find request.target 0x3f 0) = alertPrefix ++ id := at'
  have isAlert : segmentBehind alertPrefix (alertPrefix ++ id) = true :=
    segmentBehind_iff.2 ⟨id, rfl, segment⟩
  have noSession : segmentBehind sessionPrefix (alertPrefix ++ id) = false :=
    segmentBehind_other (by decide)
  have notList : alertPrefix ++ id ≠ alertsPath := behind_ne (by decide)
  have behind : (alertPrefix ++ id).drop 15 = id := List.drop_left' (by decide)
  simp (disch := decide) only [routeRequest, front, alertRoute, isAlert, noSession, notList, behind, behind_ne,
    Bool.or_true, Bool.true_or, Bool.not_true, Bool.false_and, if_true, if_false, Bool.false_eq_true,
    ne_eq, ite_not, not_false_eq_true, Route.answer, Route.method, Route.run, notAllowed]
  rfl

theorem routeRequest_session {s : Services} {request : Request} {id : List UInt8}
    (segment : (Route.session id).Segment) (at' : request.path = (Route.session id).path) :
    routeRequest s request = (Route.session id).answer s request := by
  have front : Text.upTo request.target (Text.find request.target 0x3f 0) = sessionPrefix ++ id := at'
  have isSession : segmentBehind sessionPrefix (sessionPrefix ++ id) = true :=
    segmentBehind_iff.2 ⟨id, rfl, segment⟩
  have noAlert : segmentBehind alertPrefix (sessionPrefix ++ id) = false :=
    segmentBehind_other (by decide)
  have behind : (sessionPrefix ++ id).drop sessionPrefix.length = id := List.drop_left
  have notList : sessionPrefix ++ id ≠ alertsPath := behind_ne (by decide)
  simp (disch := decide) only [routeRequest, front, alertRoute, isSession, noAlert, notList, behind, behind_ne,
    decide_false, Bool.or_false, Bool.and_false, Bool.not_true, if_true, if_false, Bool.false_eq_true,
    ne_eq, ite_not, Route.answer, Route.method, Route.run, notAllowed]
  rfl

/-- **One route answers a path**: the chain of comparisons is the table. -/
theorem routeRequest_route (s : Services) (request : Request) (r : Route) (segment : r.Segment)
    (at' : request.path = r.path) : routeRequest s request = r.answer s request := by
  cases r with
  | alert id => exact routeRequest_alert segment at'
  | session id => exact routeRequest_session segment at'
  | _ => exact routeRequest_fixed ⟨by simp, by simp⟩ at'

theorem routeRequest_lost {s : Services} {request : Request}
    (lost : ∀ r : Route, r.Segment → request.path ≠ r.path) :
    routeRequest s request = (jsonResponse 404 (.error "not found"), none) := by
  have noAlert : segmentBehind alertPrefix request.path = false := by
    rw [← Bool.not_eq_true, segmentBehind_iff]
    rintro ⟨id, at', segment⟩
    exact lost (.alert id) segment at'
  have noSession : segmentBehind sessionPrefix request.path = false := by
    rw [← Bool.not_eq_true, segmentBehind_iff]
    rintro ⟨id, at', segment⟩
    exact lost (.session id) segment at'
  have health := lost .health trivial
  have status := lost .status trivial
  have metrics := lost .metrics trivial
  have config := lost .config trivial
  have detections := lost .detections trivial
  have gps := lost .gps trivial
  have alerts := lost .alerts trivial
  have recordings := lost .recordings trivial
  have start := lost (.recording true) trivial
  have stop := lost (.recording false) trivial
  have enable := lost (.detector true) trivial
  have disable := lost (.detector false) trivial
  have whep := lost .whep trivial
  clear lost
  unfold Request.path at *
  simp only [Route.path] at *
  simp only [routeRequest, alertRoute, health, status, metrics, config, detections, gps, alerts, recordings,
    start, stop, enable, disable, whep, noAlert, noSession, decide_false, Bool.or_false, Bool.not_false,
    Bool.and_self, if_true]

/-! ## Bodies -/

/-- Every double that the modules answer with is finite. -/
structure Services.Finite (s : Services) : Prop where
  status : finite (statusNumbers s.status)
  config : ∀ c ∈ s.publicConfig, finite [c.detectorConfidence, c.detectorNms]
  detections : finite (s.latestDetections.detections.flatMap fun d => [d.confidence, d.x1, d.y1, d.x2, d.y2])
  gps : ∀ fix ∈ s.latestGps, finite (gpsNumbers fix)
  metrics : ∀ m ∈ s.metrics,
    finite (m.encoderFps.toList ++ m.cpuPercent.toList ++ m.gpuPercent.toList)
  alert : ∀ a ∈ s.alerts, ∀ id row, a.findById id = .ok (some row) →
    finite (alertNumbers row.gps row.detections)
  alerts : ∀ a ∈ s.alerts, ∀ filter rows, a.find filter = .ok rows →
    ∀ row ∈ rows, finite (alertNumbers row.gps row.detections)

/-- A body is no JSON, or JSON with finite numbers. -/
def Response.Finite (r : Response) : Prop := ∀ m, r.body = .json m → finite m.numbers

theorem jsonResponse_finite {status : Nat} {m : Message} (numbers : finite m.numbers) :
    (jsonResponse status m).Finite := by
  intro m' same
  cases same
  exact numbers

theorem createRoute_finite (s : Services) (request : Request) : (createRoute s request).1.Finite := by
  unfold createRoute
  split
  · exact jsonResponse_finite finite_nil
  · split
    · exact jsonResponse_finite finite_nil
    · simp only
      split
      · exact jsonResponse_finite finite_nil
      · intro m same
        cases same

theorem deleteRoute_finite (s : Services) (id : List UInt8) : (deleteRoute s id).1.Finite := by
  unfold deleteRoute
  split
  · exact jsonResponse_finite finite_nil
  · simp only
    split
    · intro m same
      cases same
    · exact jsonResponse_finite finite_nil

theorem recordingRoute_finite (s : Services) (start : Bool) : (recordingRoute s start).1.Finite := by
  unfold recordingRoute
  split
  · exact jsonResponse_finite finite_nil
  · simp only
    split <;> exact jsonResponse_finite finite_nil

theorem Route.run_finite {s : Services} (numbers : s.Finite) (request : Request) (r : Route) :
    (r.run s request).1.Finite := by
  cases r with
  | health => simp only [run]; split <;> exact jsonResponse_finite finite_nil
  | status => exact jsonResponse_finite numbers.status
  | metrics =>
    refine jsonResponse_finite ?_
    simp only [Message.numbers, List.append_assoc, finite_append]
    cases found : s.metrics with
    | none => simp [numbers.status]
    | some m =>
      have own := numbers.metrics m found
      simp only [List.append_assoc, finite_append] at own
      exact ⟨numbers.status, own⟩
  | config =>
    simp only [run]
    split
    · exact jsonResponse_finite finite_nil
    · rename_i found
      exact jsonResponse_finite (numbers.config _ found)
  | detections => exact jsonResponse_finite numbers.detections
  | gps =>
    simp only [run]
    split
    · exact jsonResponse_finite finite_nil
    · rename_i found
      exact jsonResponse_finite (numbers.gps _ found)
  | alerts =>
    simp only [run]
    split
    · exact jsonResponse_finite finite_nil
    · rename_i repository found
      simp only [alertListRoute]
      split
      · exact jsonResponse_finite finite_nil
      · split
        · exact jsonResponse_finite finite_nil
        · rename_i rows answered
          refine jsonResponse_finite ?_
          simpa [Message.numbers] using numbers.alerts repository found _ rows answered
  | alert id =>
    simp only [run]
    split
    · exact jsonResponse_finite finite_nil
    · rename_i repository found
      simp only [alertByIdRoute]
      split
      · exact jsonResponse_finite finite_nil
      · exact jsonResponse_finite finite_nil
      · rename_i row answered
        exact jsonResponse_finite (numbers.alert repository found id row answered)
  | recordings => simp only [run]; split <;> exact jsonResponse_finite finite_nil
  | recording start => exact recordingRoute_finite s start
  | detector enable => simp only [run]; split <;> exact jsonResponse_finite finite_nil
  | whep => exact createRoute_finite s request
  | session id => exact deleteRoute_finite s id

theorem createError_ne (error : CreateSessionError) : createError error ≠ 405 := by
  cases error <;> decide

/-- What changes something is no reading, and is not refused. -/
theorem Route.run_effect {s : Services} {request : Request} (r : Route) {effect : Effect}
    (caused : (r.run s request).2 = some effect) (called : request.method = r.method) :
    (request.method = .post ∨ request.method = .delete) ∧ (r.run s request).1.status ≠ 405 := by
  rw [called]
  cases r with
  | recording start =>
    refine ⟨.inl rfl, ?_⟩
    simp only [run, recordingRoute]
    split
    · simp [jsonResponse]
    · simp only
      split <;> simp [jsonResponse]
  | detector enable =>
    refine ⟨.inl rfl, ?_⟩
    simp only [run]
    split <;> simp [jsonResponse]
  | whep =>
    refine ⟨.inl rfl, ?_⟩
    simp only [run, createRoute]
    split
    · simp [jsonResponse]
    · split
      · simp [jsonResponse]
      · simp only
        split
        · exact createError_ne _
        · simp
  | session id =>
    refine ⟨.inr rfl, ?_⟩
    simp only [run, deleteRoute]
    split
    · simp [jsonResponse]
    · simp only
      split <;> simp [jsonResponse]
  | status | metrics | detections => cases caused
  | _ =>
    simp only [run] at caused
    split at caused <;> cases caused

/-- **The HTTP interface is its table.** A path has a route, whose method runs it and whose other
methods are refused with the right `Allow`, or it is not found; only a POST or a DELETE that is not
refused changes anything; every JSON body can be read as long as the numbers in it are finite. -/
theorem http_routes (s : Services) (request : Request) :
    (∀ r : Route, r.Segment → request.path = r.path → routeRequest s request =
        if request.method = r.method then r.run s request
        else ({ jsonResponse 405 (.error "method not allowed") with allow := some r.method.name }, none)) ∧
      ((∀ r : Route, r.Segment → request.path ≠ r.path) →
        routeRequest s request = (jsonResponse 404 (.error "not found"), none)) ∧
      (∀ effect, (routeRequest s request).2 = some effect →
        (request.method = .post ∨ request.method = .delete) ∧ (routeRequest s request).1.status ≠ 405) ∧
      (s.Finite → ∀ m, (routeRequest s request).1.body = .json m →
        Json.parse m.document.text = some m.document.tree) := by
  have cases' : (∃ r : Route, r.Segment ∧ request.path = r.path) ∨
      ∀ r : Route, r.Segment → request.path ≠ r.path := by
    by_cases found : ∃ r : Route, r.Segment ∧ request.path = r.path
    · exact .inl found
    · exact .inr fun r segment at' => found ⟨r, segment, at'⟩
  refine ⟨routeRequest_route s request, routeRequest_lost, fun effect caused => ?_, fun numbers m body => ?_⟩
  · rcases cases' with ⟨r, segment, at'⟩ | lost
    · rw [routeRequest_route s request r segment at', Route.answer] at caused ⊢
      split at caused
      · rename_i called
        rw [if_pos called]
        exact r.run_effect caused called
      · cases caused
    · rw [routeRequest_lost lost] at caused
      cases caused
  · rw [Json.Document.parse_document, if_pos]
    refine (message_valid m).2 ?_
    rcases cases' with ⟨r, segment, at'⟩ | lost
    · rw [routeRequest_route s request r segment at', Route.answer] at body
      split at body
      · exact Route.run_finite numbers request r m body
      · cases body
        exact finite_nil
    · rw [routeRequest_lost lost] at body
      cases body
      exact finite_nil

/-! ## The life of a session in requests -/

theorem digitChar_path {n : Nat} (digit : n < 16) :
    ∃ b, String.utf8EncodeChar (Nat.digitChar n) = [b] ∧ b ≠ 0x2f ∧ b ≠ 0x3f := by
  interval_cases n <;> exact ⟨_, rfl, by decide, by decide⟩

/-- A session id is one segment of a path, and no query begins in it. -/
theorem makeSessionId_path {bytes : List UInt8} (some' : bytes ≠ []) :
    let id := utf8Bytes (makeSessionId bytes).toList
    id ≠ [] ∧ 0x2f ∉ id ∧ 0x3f ∉ id := by
  have shape : utf8Bytes (makeSessionId bytes).toList = bytes.flatMap fun b =>
      String.utf8EncodeChar (Nat.digitChar (b.toNat / 16)) ++
        String.utf8EncodeChar (Nat.digitChar (b.toNat % 16)) := by
    simp [makeSessionId, utf8Bytes, List.flatMap_assoc]
  have each : ∀ c ∈ utf8Bytes (makeSessionId bytes).toList, c ≠ 0x2f ∧ c ≠ 0x3f := by
    intro c member
    rw [shape] at member
    obtain ⟨b, -, inside⟩ := List.mem_flatMap.1 member
    have small := b.toNat_lt
    obtain ⟨high, encoded, first⟩ := digitChar_path (n := b.toNat / 16) (by omega)
    obtain ⟨low, encoded', second⟩ := digitChar_path (n := b.toNat % 16) (by omega)
    rw [encoded, encoded'] at inside
    rcases List.mem_cons.1 inside with rfl | inside
    · exact first
    · rw [List.mem_singleton.1 inside]
      exact second
  refine ⟨?_, fun slash => (each _ slash).1 rfl, fun query => (each _ query).2 rfl⟩
  obtain ⟨b, more, rfl⟩ := List.exists_cons_of_ne_nil some'
  have := String.utf8EncodeChar_ne_nil (c := Nat.digitChar (b.toNat / 16))
  simp [shape, this]

theorem path_eq (request : Request) : request.path = request.target.takeWhile (· ≠ 0x3f) := by
  have cut := Text.upTo_find [] request.target 0x3f
  simpa [Request.path] using cut

/-- A target in front of its query. -/
theorem path_of_target {request : Request} {path query : List UInt8} (noQuery : 0x3f ∉ path)
    (target : request.target = path ∨ request.target = path ++ 0x3f :: query) : request.path = path := by
  have whole : path.takeWhile (· ≠ 0x3f) = path :=
    List.takeWhile_eq_self_iff.2 fun c member => by
      rw [decide_eq_true_eq]
      rintro rfl
      exact noQuery member
  rw [path_eq]
  rcases target with target | target
  · rw [target, whole]
  · rw [target, Text.takeWhile_append_stop _ _ (by decide), whole]

theorem createError_created {error : CreateSessionError} (created : createError error = 201) : False := by
  cases error <;> cases created

theorem createRoute_created {s : Services} {request : Request}
    (created : (createRoute s request).1.status = 201) :
    ∃ webrtc, s.webrtc = some webrtc ∧ (webrtc.createSession request.body).error = .none ∧
      (createRoute s request).1.location =
        some (sessionPrefix ++ utf8Bytes (webrtc.createSession request.body).sessionId.toList) ∧
      (createRoute s request).2 = some (.createSession request.body) := by
  unfold createRoute at created ⊢
  split at created
  · cases created
  · rename_i webrtc found
    split at created
    · cases created
    · rename_i offered
      simp only at created
      split at created
      · exact absurd created createError_created
      · rename_i fine
        simp only [found, if_neg offered, if_neg fine]
        exact ⟨webrtc, rfl, by simpa using fine, rfl, trivial⟩

/-- Only one route creates anything. -/
theorem Route.run_created {s : Services} {request : Request} {r : Route}
    (created : (r.run s request).1.status = 201) : r = .whep := by
  cases r with
  | whep => rfl
  | status | metrics | detections => cases created
  | alerts =>
    simp only [run, alertListRoute] at created
    split at created
    · cases created
    · split at created
      · cases created
      · split at created <;> cases created
  | alert id =>
    simp only [run, alertByIdRoute] at created
    split at created
    · cases created
    · split at created <;> cases created
  | session id =>
    simp only [run, deleteRoute] at created
    split at created
    · cases created
    · simp only at created
      split at created <;> cases created
  | recording start =>
    simp only [run, recordingRoute] at created
    split at created
    · cases created
    · simp only at created
      split at created <;> cases created
  | health =>
    simp only [run] at created
    split at created
    · cases created
    · simp only [jsonResponse] at created
      split at created <;> cases created
  | recordings =>
    simp only [run] at created
    split at created
    · simp only [jsonResponse] at created
      split at created <;> cases created
    · cases created
  | config | gps | detector =>
    simp only [run] at created
    split at created <;> cases created

/-- **A session is closed where it was created.** A 201 names in its `Location` the path whose DELETE
closes this session and no other, whatever query stands behind it. -/
theorem session_location {s : Services} {request : Request}
    (created : (routeRequest s request).1.status = 201) :
    ∃ webrtc, s.webrtc = some webrtc ∧ (webrtc.createSession request.body).error = .none ∧
      request.method = .post ∧ (routeRequest s request).2 = some (.createSession request.body) ∧
      ∀ bytes, bytes ≠ [] → (webrtc.createSession request.body).sessionId = makeSessionId bytes →
        ∃ location, (routeRequest s request).1.location = some location ∧
          ∀ (later : Services) (again : Request) (query : List UInt8), later.webrtc.isSome →
            again.method = .delete → again.target = location ∨ again.target = location ++ 0x3f :: query →
              (routeRequest later again).2 = some (.closeSession (utf8Bytes (makeSessionId bytes).toList)) := by
  by_cases found : ∃ r : Route, r.Segment ∧ request.path = r.path
  · obtain ⟨r, segment, at'⟩ := found
    rw [routeRequest_route s request r segment at', Route.answer] at created ⊢
    split at created
    · rename_i called
      obtain rfl := Route.run_created created
      rw [if_pos called]
      obtain ⟨webrtc, on, fine, location, effect⟩ := createRoute_created created
      refine ⟨webrtc, on, fine, called, effect, fun bytes some' named => ⟨_, location, ?_⟩⟩
      intro later again query running deletes target
      obtain ⟨notEmpty, single, noQuery⟩ := makeSessionId_path some'
      rw [named] at target
      have plain : 0x3f ∉ sessionPrefix ++ utf8Bytes (makeSessionId bytes).toList := by
        rw [List.mem_append, not_or]
        exact ⟨by decide, noQuery⟩
      have path := path_of_target plain target
      obtain ⟨webrtc', on'⟩ := Option.isSome_iff_exists.1 running
      have called' : again.method = (Route.session (utf8Bytes (makeSessionId bytes).toList)).method := deletes
      rw [routeRequest_route later again (.session _) ⟨notEmpty, single⟩ path, Route.answer, if_pos called']
      simp only [Route.run, deleteRoute, on']
    · cases created
  · rw [routeRequest_lost fun r segment at' => found ⟨r, segment, at'⟩] at created
    cases created

/-- An offer that is accepted, and the end of its session. -/
theorem session_location_closed : ∃ (s : Services) (request again : Request),
    (routeRequest s request).1.status = 201 ∧ some again.target = (routeRequest s request).1.location ∧
      (routeRequest s again).2 =
        some (.closeSession (utf8Bytes (makeSessionId (List.replicate 16 0xa7)).toList)) := by
  let webrtc : WebRtcAnswers :=
    { diagnostics := {}
      createSession := fun _ => { sessionId := makeSessionId (List.replicate 16 0xa7), answerSdp := "v=0" }
      closeSession := fun _ => true }
  let s : Services := { webrtc := some webrtc }
  let request : Request :=
    { method := .post
      target := ascii "/api/v1/webrtc/whep"
      contentType := ascii "application/sdp"
      body := ascii "v=0" }
  have created : (routeRequest s request).1.status = 201 := by decide +kernel
  obtain ⟨found, on, -, -, -, closes⟩ := session_location created
  cases on
  obtain ⟨location, at', each⟩ := closes (List.replicate 16 0xa7) (by simp) rfl
  refine ⟨s, request, ⟨.delete, location, [], []⟩, created, at'.symm, ?_⟩
  exact each s _ [] rfl rfl (.inl rfl)

end SkaiEdge.Web
