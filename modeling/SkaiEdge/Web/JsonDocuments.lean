import SkaiEdge.Lib.JsonDocument
import SkaiEdge.WebRtc.SeiJson
import SkaiEdge.Alerts.AlertManager
import SkaiEdge.Api.ApiState
import SkaiEdge.Inference.Detection
import SkaiEdge.App.Diagnostics
import SkaiEdge.Video.RecordingModule
import SkaiEdge.Web.QueryParameters
import SkaiEdge.Web.WebSocketSession

/-!
# The documents of the web interface

Every JSON text that the service sends, as `router.cpp`, `events.cpp`, `websocket_session.cpp`,
`alert_manager.cpp`, `recording.cpp` and `yolo_inference_module.cpp` put it together. Texts are
UTF-8. A stream writes doubles with 6 significant digits, or with as many as `max_digits10` says.
-/

namespace SkaiEdge.Web

open SkaiEdge.Lib SkaiEdge.Lib.Json SkaiEdge.App SkaiEdge.Video SkaiEdge.WebRtc

abbrev Document := Json.Document

/-! ## Strings -/

def utf8Bytes (text : List Char) : List UInt8 := text.flatMap String.utf8EncodeChar

/-- One character of `json_string`. That of `recording.cpp` has no short escapes. -/
def escapeByte (short : Bool) (c : UInt8) : List UInt8 :=
  if c = 0x22 ∨ c = 0x5c then [0x5c, c]
  else if short = true ∧ c = 0x0a then [0x5c, 0x6e]
  else if short = true ∧ c = 0x0d then [0x5c, 0x72]
  else if short = true ∧ c = 0x09 then [0x5c, 0x74]
  else if 0x20 ≤ c then [c]
  else []

/-- The other control characters are dropped. -/
def kept (short : Bool) (value : List UInt8) : List UInt8 :=
  value.filter fun c => 0x20 ≤ c || (short && (c = 0x0a || c = 0x0d || c = 0x09))

theorem escaped_characters (short : Bool) (value : List UInt8) :
    Characters (value.flatMap (escapeByte short)) (kept short value) := by
  induction value with
  | nil => exact .nil
  | cons c value ih =>
    rw [List.flatMap_cons, kept, List.filter_cons, ← kept]
    by_cases quoted : c = 0x22 ∨ c = 0x5c
    · have names : shortEscape c = some c := by rcases quoted with rfl | rfl <;> decide
      have printed : (0x20 : UInt8) ≤ c := by rcases quoted with rfl | rfl <;> decide
      simpa [escapeByte, quoted, printed] using Characters.short names ih
    by_cases printed : (0x20 : UInt8) ≤ c
    · have control : c ≠ 0x0a ∧ c ≠ 0x0d ∧ c ≠ 0x09 := by
        refine ⟨?_, ?_, ?_⟩ <;> rintro rfl <;> contradiction
      have plain := Characters.plain printed (not_or.1 quoted).1 (not_or.1 quoted).2 ih
      simpa [escapeByte, quoted, printed, control] using plain
    cases short with
    | false => simpa [escapeByte, quoted, printed] using ih
    | true =>
      by_cases feed : c = 0x0a
      · subst feed
        exact .short (by decide : shortEscape 0x6e = some 0x0a) ih
      by_cases turn : c = 0x0d
      · subst turn
        exact .short (by decide : shortEscape 0x72 = some 0x0d) ih
      by_cases tab : c = 0x09
      · subst tab
        exact .short (by decide : shortEscape 0x74 = some 0x09) ih
      simpa [escapeByte, quoted, printed, feed, turn, tab] using ih

def jsonBytes (short : Bool) (value : List UInt8) : Document := .string (escaped_characters short value)

/-- `json_string` of all files but `recording.cpp`. -/
def jsonString (value : String) : Document := jsonBytes true (utf8Bytes value.toList)

/-- The `json_string` of `recording.cpp`. -/
def recordingString (value : String) : Document := jsonBytes false (utf8Bytes value.toList)

/-- A text in ASCII that needs no escape. -/
def Plain (value : String) : Prop :=
  ∀ c ∈ value.toList, 0x20 ≤ c.toNat ∧ c.toNat < 0x80 ∧ c ≠ '"' ∧ c ≠ '\\'

instance (value : String) : Decidable (Plain value) := List.decidableBAll _ _

theorem utf8EncodeChar_ascii {c : Char} (small : c.toNat < 0x80) :
    String.utf8EncodeChar c = [c.toUInt8] := by
  have size : c.utf8Size = 1 := by
    rw [Char.utf8Size_eq_one_iff]
    show c.val.toNat ≤ 127
    exact Nat.le_of_lt_succ small
  rw [String.utf8EncodeChar_eq_singleton size]
  rfl

theorem plain_bytes {value : String} (plain : Plain value) :
    ∀ b ∈ utf8Bytes value.toList, (0x20 : UInt8) ≤ b ∧ b ≠ 0x22 ∧ b ≠ 0x5c := by
  intro b member
  obtain ⟨c, inside, byte⟩ := List.mem_flatMap.1 member
  obtain ⟨printed, small, quote, backslash⟩ := plain c inside
  rw [utf8EncodeChar_ascii small, List.mem_singleton] at byte
  subst byte
  have value : c.toUInt8.toNat = c.toNat := by
    show c.val.toUInt8.toNat = c.val.toNat
    rw [UInt32.toNat_toUInt8]
    exact Nat.mod_eq_of_lt (show c.toNat < 2 ^ 8 by omega)
  refine ⟨?_, ?_, ?_⟩
  · rw [UInt8.le_iff_toNat_le, value]
    exact printed
  · intro same
    refine quote (Char.toNat_inj.1 ?_)
    rw [← value, same]
    rfl
  · intro same
    refine backslash (Char.toNat_inj.1 ?_)
    rw [← value, same]
    rfl

theorem plain_characters {value : String} (plain : Plain value) :
    Characters (utf8Bytes value.toList) (utf8Bytes value.toList) := by
  have each := plain_bytes plain
  generalize utf8Bytes value.toList = bytes at each
  induction bytes with
  | nil => exact .nil
  | cons b bytes ih =>
    obtain ⟨printed, quote, backslash⟩ := each b (List.mem_cons_self ..)
    exact .plain printed quote backslash (ih fun c member => each c (List.mem_cons_of_mem _ member))

/-- A text that needs no escape gets none. -/
theorem escape_plain {value : String} (plain : Plain value) (short : Bool) :
    (utf8Bytes value.toList).flatMap (escapeByte short) = utf8Bytes value.toList := by
  have single : ∀ b ∈ utf8Bytes value.toList, escapeByte short b = [b] := by
    intro b member
    obtain ⟨printed, quote, backslash⟩ := plain_bytes plain b member
    have control : b ≠ 0x0a ∧ b ≠ 0x0d ∧ b ≠ 0x09 := by
      refine ⟨?_, ?_, ?_⟩ <;> rintro rfl <;> contradiction
    simp [escapeByte, quote, backslash, control, printed]
  rw [List.flatMap_congr single, List.flatMap_singleton']

/-- A text between quotes, as it is. -/
def plainString (value : String) (plain : Plain value) : Document := .string (plain_characters plain)

/-! ## Numbers -/

theorem natural_written (n : Nat) :
    NumberText (decimalBytes n) ⟨false, decimalBytes n, [], none⟩ := by
  simpa using @NumberText.mk false _ _ _ _ _ (decimalBytes_whole n) .none .none

def natural (n : Nat) : Document := .number (natural_written n)

theorem negative_written (n : Nat) :
    NumberText (0x2d :: decimalBytes n) ⟨true, decimalBytes n, [], none⟩ := by
  simpa using @NumberText.mk true _ _ _ _ _ (decimalBytes_whole n) .none .none

def integer (n : Int) : Document :=
  if n < 0 then .number (negative_written n.natAbs) else natural n.natAbs

/-- `std::setprecision(6)`. -/
def double6 (x : Double) : Document := .double 6 (by decide) x

/-- `max_digits10` of a `float`, and of a `double`. -/
def double9 (x : Double) : Document := .double 9 (by decide) x

def double17 (x : Double) : Document := .double 17 (by decide) x

/-! ## Objects -/

/-- A name, escaped as any string is; none of the names has anything to escape. -/
def field (name : String) (value : Document) : Document.Member :=
  ⟨escaped_characters true (ascii name), value⟩

/-! ## `router.cpp` -/

def errorJson (message : String) : Document := (Document.object [field "error" (jsonString message)]).line

def unavailableJson : Document := (Document.object [field "available" (.bool false)]).line

/-- The answer where there is no list of alerts, or of recordings. -/
def noItemsJson : Document :=
  (Document.object [field "available" (.bool false), field "items" (.array [])]).line

def componentJson (health : ComponentHealth) : Document :=
  .object [field "state" (jsonString (healthStateName health.state)),
    field "detail" (jsonString health.detail)]

def healthJson (health : HealthSnapshot) : Document :=
  (Document.object [field "state" (jsonString (healthStateName health.state)),
    field "components" (.object (allHealthComponents.map fun c =>
      field (healthComponentName c) (componentJson (health.components c))))]).line

def watchdogUnavailableJson : Document :=
  (Document.object [field "state" (jsonString "FAILED"), field "components" (.object []),
    field "detail" (jsonString "health watchdog unavailable")]).line

def peerJson (peer : WebRtcPeerDiagnostics) : Document :=
  .object [field "session_id" (jsonString peer.sessionId),
    field "peer_state" (jsonString peer.peerState),
    field "ice_state" (jsonString peer.iceState),
    field "local_candidate" (jsonString peer.localCandidate),
    field "local_interface" (jsonString peer.localInterface),
    field "selected_interface" (jsonString peer.selectedInterface),
    field "connection_age_s" (natural peer.connectionAgeS),
    field "bytes_sent" (natural peer.bytesSent),
    field "packets_sent" (natural peer.packetsSent),
    field "packets_retransmitted" (natural peer.packetsRetransmitted),
    field "media_queue_drops" (natural peer.mediaQueueDrops),
    field "keyframe_events" (natural peer.keyframeEvents),
    field "failure_stage" (jsonString peer.failureStage),
    field "close_reason" (jsonString peer.closeReason),
    field "last_error" (jsonString peer.lastError)]

def webrtcDiagnosticsJson (diagnostics : WebRtcDiagnostics) : Document :=
  .object [field "enabled" (.bool diagnostics.enabled),
    field "media_available" (.bool diagnostics.mediaAvailable),
    field "media_unavailable_reason" (jsonString diagnostics.mediaUnavailableReason),
    field "keyframe_cached" (.bool diagnostics.keyframeCached),
    field "lan_only" (.bool diagnostics.lanOnly),
    field "max_peers" (natural diagnostics.maxPeers),
    field "active_peers" (natural diagnostics.peers.length),
    field "sessions_created" (natural diagnostics.sessionsCreated),
    field "sessions_closed" (natural diagnostics.sessionsClosed),
    field "signaling_errors" (natural diagnostics.signalingErrors),
    field "media_errors" (natural diagnostics.mediaErrors),
    field "last_close_reason" (jsonString diagnostics.lastCloseReason),
    field "peers" (.array (diagnostics.peers.map peerJson)),
    field "recently_closed" (.array (diagnostics.recentlyClosed.map peerJson))]

def encoderJson (encoder : EncoderReport) : Document :=
  .object [field "frames_submitted" (natural encoder.framesSubmitted),
    field "frames_rejected" (natural encoder.framesRejected),
    field "frames_dropped" (natural encoder.framesDropped),
    field "appsrc_pressure_dropped" (natural encoder.appsrcPressureDropped),
    field "access_units_encoded" (natural encoder.accessUnitsEncoded),
    field "bytes_encoded" (natural encoder.bytesEncoded),
    field "access_units_dropped" (natural encoder.accessUnitsDropped),
    field "last_access_unit_age_ms" (integer encoder.lastAccessUnitAgeMs),
    field "last_error" (jsonString encoder.lastError)]

def statusJson (status : RuntimeStatusSnapshot) (detectorEnabled : Bool)
    (webrtc : Option WebRtcDiagnostics) : Document :=
  (Document.object [field "status" (jsonString status.status.text),
    field "uptime_s" (natural status.uptimeS),
    field "video" (.object [field "fps" (.optional double6 status.videoFps)]),
    field "detector" (.object [field "enabled" (.bool detectorEnabled),
      field "fps" (.optional double6 status.detectorFps),
      field "last_inference_ms" (.optional double6 status.lastInferenceMs)]),
    field "encoder" (.optional encoderJson status.encoder),
    field "webrtc" (.optional webrtcDiagnosticsJson webrtc)]).line

/-- A rational number as a stream prints the double nearest to it. -/
def ofRat (q : ℚ) : Double := .finite (q < 0) ⟨|q|, abs_nonneg q⟩

def rtspJson (source : RtspReport) : Document :=
  .object [field "health" (jsonString (sourceHealthName source.health)),
    field "codec" (jsonString source.codec),
    field "decoder" (jsonString source.decoder),
    field "transport" (jsonString (String.ofList source.transport)),
    field "width" (integer source.width),
    field "height" (integer source.height),
    field "fps_in" (double6 (ofRat source.fpsIn)),
    field "frames_received" (natural source.framesReceived.toNat),
    field "frames_dropped" (natural source.framesDropped),
    field "frames_discarded" (natural source.framesDiscarded),
    field "last_frame_age_ms" (integer source.lastFrameAgeMs),
    field "reconnect_count" (natural source.reconnectCount),
    field "packets_lost" (natural source.packetsLost.toNat),
    field "packets_late" (natural source.packetsLate.toNat),
    field "last_error" (jsonString source.lastError)]

/-- The part of `QueueStats` that is printed, with the depth of the queue. -/
structure QueueReport where
  depth : Nat := 0
  dropped : Nat := 0
  discarded : Nat := 0

def queueJson (queue : QueueReport) : Document :=
  .object [field "depth" (natural queue.depth), field "dropped" (natural queue.dropped),
    field "discarded" (natural queue.discarded)]

def whipJson (whip : WhipMetrics) : Document :=
  .object [field "enabled" (.bool whip.enabled),
    field "peer_state" (jsonString whip.peerState),
    field "ice_state" (jsonString whip.iceState),
    field "last_error" (jsonString whip.lastError),
    field "access_units_sent" (natural whip.accessUnitsSent),
    field "media_queue_drops" (natural whip.mediaQueueDrops),
    field "media_queue_discarded" (natural whip.mediaQueueDiscarded)]

/-! ## `events.cpp` -/

/-- `make_event_json`; `timestamp` is the wall clock's. -/
def eventJson (type : EventType) (timestamp : String) (data : Document) : Document :=
  (Document.object [field "type" (jsonString (String.ofList (eventTypeName type))),
    field "timestamp" (jsonString timestamp), field "data" data]).line

def systemErrorData (module message : String) : Document :=
  .object [field "module" (jsonString module), field "message" (jsonString message)]

/-- An entry of `recent_errors`. -/
structure SystemError where
  timestamp : String
  module : String
  message : String

def SystemError.event (error : SystemError) : Document :=
  eventJson .systemError error.timestamp (systemErrorData error.module error.message)

structure MetricsSnapshot where
  memoryRssBytes : Option Nat := none
  cpuPercent : Option Double := none
  gpuPercent : Option Double := none
  diskFreeBytes : Option Nat := none
  rtsp : Option RtspReport := none
  inferenceQueue : QueueReport := {}
  encodedQueue : QueueReport := {}
  websocketClients : Nat := 0
  whip : WhipMetrics := {}
  alertCount : Option Nat := none
  encoderFps : Option Double := none
  recentErrors : List SystemError := []

def metricsJson (status : RuntimeStatusSnapshot) (metrics : MetricsSnapshot) (gps : Option GpsFix)
    (webrtc : Option WebRtcDiagnostics) : Document :=
  (Document.object [field "ingest_fps" (.optional double6 status.videoFps),
    field "rtsp" (.optional rtspJson metrics.rtsp),
    field "inference_fps" (.optional double6 status.detectorFps),
    field "inference_latency_ms" (.optional double6 status.lastInferenceMs),
    field "inference_queue" (queueJson metrics.inferenceQueue),
    field "encoder_fps" (.optional double6 metrics.encoderFps),
    field "encoder_mode" (jsonString (if status.encoder.isSome then "encode" else "passthrough")),
    field "encoded_media_queue" (queueJson metrics.encodedQueue),
    field "whip" (whipJson metrics.whip),
    field "websocket_clients" (natural metrics.websocketClients),
    field "webrtc" (webrtcDiagnosticsJson (webrtc.getD {})),
    field "gps" (.optional (fun fix : GpsFix =>
      .object [field "source" (jsonString fix.source), field "age_s" .null]) gps),
    field "alert_count" (.optional natural metrics.alertCount),
    field "system" (.object [field "memory_rss_bytes" (.optional natural metrics.memoryRssBytes),
      field "cpu_percent" (.optional double6 metrics.cpuPercent),
      field "gpu_percent" (.optional double6 metrics.gpuPercent),
      field "disk_free_bytes" (.optional natural metrics.diskFreeBytes)]),
    field "recent_errors" (.array (metrics.recentErrors.map SystemError.event))]).line

/-- `PublicConfigDto`. -/
structure PublicConfig where
  videoTransport : String := ""
  videoLatencyMs : Int := 0
  videoStallTimeoutMs : Int := 0
  detectorConfidence : Double := .finite false 0
  detectorNms : Double := .finite false 0
  detectorAnnotate : Bool := false
  webBind : String := ""
  webPort : Int := 0
  recordingConfigured : Bool := false
  recordingSegmentSeconds : Int := 0
  gpsEnabled : Bool := false
  gpsSource : String := ""
  webrtcEnabled : Bool := false
  webrtcMaxPeers : Int := 0
  webrtcConnectionTimeoutMs : Int := 0
  webrtcMediaQueueCapacity : Int := 0

def configJson (config : PublicConfig) (detectorEnabled : Bool) : Document :=
  (Document.object [field "video" (.object [field "transport" (jsonString config.videoTransport),
      field "latency_ms" (integer config.videoLatencyMs),
      field "stall_timeout_ms" (integer config.videoStallTimeoutMs)]),
    field "detector" (.object [field "enabled" (.bool detectorEnabled),
      field "confidence" (double6 config.detectorConfidence),
      field "nms" (double6 config.detectorNms),
      field "annotate" (.bool config.detectorAnnotate)]),
    field "web" (.object [field "bind" (jsonString config.webBind), field "port" (integer config.webPort)]),
    field "recording" (.object [field "configured" (.bool config.recordingConfigured),
      field "segment_seconds" (integer config.recordingSegmentSeconds)]),
    field "gps" (.object [field "enabled" (.bool config.gpsEnabled),
      field "source" (jsonString config.gpsSource)]),
    field "webrtc" (.object [field "enabled" (.bool config.webrtcEnabled),
      field "max_peers" (integer config.webrtcMaxPeers),
      field "connection_timeout_ms" (integer config.webrtcConnectionTimeoutMs),
      field "media_queue_capacity" (integer config.webrtcMediaQueueCapacity)])]).line

/-- A detection, its numbers written by `real`. -/
def detectionJson (real : Double → Document) (classId : Int) (className : String)
    (confidence x1 y1 x2 y2 : Double) : Document :=
  .object [field "class_id" (integer classId), field "class_name" (jsonString className),
    field "confidence" (real confidence), field "box" (.array [real x1, real y1, real x2, real y2])]

def detectionDtoJson (d : Api.DetectionDto Double) : Document :=
  detectionJson double6 d.classId d.className d.confidence d.x1 d.y1 d.x2 d.y2

def alertDetectionJson (d : Alerts.AlertDetection Double) : Document :=
  detectionJson double17 d.classId d.className d.confidence d.x1 d.y1 d.x2 d.y2

def detectionsJson (latest : Api.LatestDetectionsDto Double) : Document :=
  (Document.object [field "available" (.bool latest.available),
    field "frame_sequence" (natural latest.frameSequence.toNat),
    field "pts_ns" (natural latest.ptsNs.toNat),
    field "frame_width" (integer latest.frameWidth),
    field "frame_height" (integer latest.frameHeight),
    field "detections" (.array (latest.detections.map detectionDtoJson))]).line

def alertGpsJson (fix : Alerts.GpsFix Double) : Document :=
  .object [field "valid" (.bool fix.valid), field "source" (jsonString fix.source),
    field "latitude" (double17 fix.latitude), field "longitude" (double17 fix.longitude),
    field "altitude_m" (double17 fix.altitudeM)]

def alertJson (alert : Alerts.AlertEvent Double) : Document :=
  .object [field "id" (jsonString (String.ofList alert.id)),
    field "timestamp_ms" (integer alert.timestampMs),
    field "gps" (.optional alertGpsJson alert.gps),
    field "snapshot_path" (jsonString (String.ofList alert.snapshotPath)),
    field "frame_sequence" (natural alert.frameSequence.toNat),
    field "model_version" (.optional jsonString alert.modelVersion),
    field "detections" (.array (alert.detections.map alertDetectionJson))]

def alertsJson (alerts : List (Alerts.AlertEvent Double)) : Document :=
  (Document.object [field "available" (.bool true), field "items" (.array (alerts.map alertJson))]).line

/-- The members that `/api/v1/gps` and the GPS event print. -/
def gpsMembers (source : Document) (fix : GpsFix) : List Document.Member :=
  [field "available" (.bool true), field "valid" (.bool fix.valid), field "source" source,
    field "latitude" (double17 fix.latitude), field "longitude" (double17 fix.longitude),
    field "altitude_m" (double17 fix.altitudeM), field "hdop" (double17 fix.hdop),
    field "satellites_visible" (integer fix.satellitesVisible),
    field "satellites_used" (integer fix.satellitesUsed)]

def gpsJson (fix : GpsFix) : Document := (Document.object (gpsMembers (jsonString fix.source) fix)).line

def recordingStateText : RecordingState → String
  | .stopped => "stopped"
  | .unavailable => "unavailable"
  | .starting => "starting"
  | .recording => "recording"
  | .stopping => "stopping"
  | .error => "error"

def recordingsJson (status : RecordingStatus) : Document :=
  (Document.object [field "available" (.bool status.available),
    field "state" (jsonString (recordingStateText status.state)),
    field "active" (.bool status.active),
    field "current_path" (jsonString (String.ofList status.currentPath)),
    field "access_units_written" (natural status.accessUnitsWritten),
    field "unavailable_reason" (jsonString (String.ofList status.unavailableReason)),
    field "last_error" (jsonString (String.ofList status.lastError))]).line

/-- The members of a recording's state, in `router.cpp` and in `recording.cpp`. -/
def recordingMembers (text : String → Document) (status : RecordingStatus) : List Document.Member :=
  [field "state" (text (recordingStateText status.state)), field "active" (.bool status.active),
    field "current_path" (text (String.ofList status.currentPath)),
    field "last_error" (text (String.ofList status.lastError))]

def enabledJson (enabled : Bool) : Document := (Document.object [field "enabled" (.bool enabled)]).line

def recordingJson (status : RecordingStatus) : Document :=
  (Document.object (recordingMembers jsonString status)).line

def recordingMissingJson : Document :=
  (Document.object [field "available" (.bool false),
    field "error" (jsonString "recording not implemented")]).line

/-! ## Data of the events -/

def statusData (status : RuntimeStatusSnapshot) (detectorEnabled : Bool)
    (webrtc : Option WebRtcDiagnostics) : Document :=
  .object [field "status" (jsonString status.status.text), field "uptime_s" (natural status.uptimeS),
    field "video_fps" (.optional double6 status.videoFps),
    field "detector_enabled" (.bool detectorEnabled),
    field "detector_fps" (.optional double6 status.detectorFps),
    field "last_inference_ms" (.optional double6 status.lastInferenceMs),
    field "encoder" (.optional (fun encoder : EncoderReport =>
      .object [field "frames_submitted" (natural encoder.framesSubmitted),
        field "frames_dropped" (natural encoder.framesDropped),
        field "access_units_encoded" (natural encoder.accessUnitsEncoded),
        field "access_units_dropped" (natural encoder.accessUnitsDropped),
        field "last_access_unit_age_ms" (integer encoder.lastAccessUnitAgeMs)]) status.encoder),
    field "webrtc" (.optional webrtcDiagnosticsJson webrtc)]

/-- `gps_data` writes the source as it is. -/
def gpsData : Option { fix : GpsFix // Plain fix.source } → Document
  | none => .object [field "available" (.bool false)]
  | some fix => .object (gpsMembers (plainString fix.1.source fix.2) fix.1)

theorem Plain.append {a b : String} (first : Plain a) (second : Plain b) : Plain (a ++ b) := by
  intro c member
  rw [String.toList_append] at member
  exact (List.mem_append.1 member).elim (first c) (second c)

theorem natural_plain (n : Nat) : Plain n.repr := by
  intro c member
  rw [Nat.toList_repr] at member
  have digit := Char.isDigit_iff_toNat.1 (toDigits_isDigit n c member)
  have zero : '0'.toNat = 48 := rfl
  have nine : '9'.toNat = 57 := rfl
  refine ⟨by omega, by omega, ?_, ?_⟩ <;> rintro rfl <;> contradiction

theorem integer_plain (n : Int) : Plain (toString n) := by
  rw [Int.toString_eq_repr, Int.repr_eq_if]
  split
  · exact natural_plain _
  · exact .append (by decide) (natural_plain _)

theorem classId_plain (classId : Int) : Plain ("class_" ++ toString classId) :=
  .append (by decide) (integer_plain classId)

theorem className_plain {names : List String} (plain : ∀ name ∈ names, Plain name) (classId : Int) :
    Plain (Alerts.className classId names) := by
  unfold Alerts.className
  split
  · rw [List.getD_eq_getElem?_getD]
    cases found : names[classId.toNat]? with
    | none => exact classId_plain classId
    | some name => exact plain name (List.mem_of_getElem? found)
  · exact classId_plain classId

/-- The names of the classes, which need no escape. -/
abbrev ClassNames := { names : List String // ∀ name ∈ names, Plain name }

/-- `detection_event_data`. -/
def detectionEventData (names : ClassNames) (frameSequence ptsNs : UInt64) (width height : Int)
    (detections : List (Inference.Detection Double)) : Document :=
  .object [field "available" (.bool true), field "frame_sequence" (natural frameSequence.toNat),
    field "pts_ns" (natural ptsNs.toNat), field "frame_width" (integer width),
    field "frame_height" (integer height),
    field "detections" (.array (detections.map fun d =>
      .object [field "class_id" (integer d.classId),
        field "class_name" (plainString _ (className_plain names.2 d.classId)),
        field "confidence" (double9 d.confidence),
        field "box" (.array [double9 d.x1, double9 d.y1, double9 d.x2, double9 d.y2])]))]

/-- `event_data` of an alert. -/
def alertEventData (alert : Alerts.AlertEvent Double) : Document :=
  .object ([field "id" (jsonString (String.ofList alert.id)),
    field "frame_sequence" (natural alert.frameSequence.toNat),
    field "timestamp_ms" (integer alert.timestampMs),
    field "detections" (.array (alert.detections.map alertDetectionJson))] ++
      match alert.gps.filter (·.valid) with
      | some fix =>
        [field "gps_valid" (.bool true), field "gps_source" (jsonString fix.source),
          field "latitude" (double17 fix.latitude), field "longitude" (double17 fix.longitude),
          field "altitude_m" (double17 fix.altitudeM)]
      | none => [field "gps_valid" (.bool false), field "gps_source" (jsonString "none")])

/-- `RecordingModule::publish_state`. -/
def recordingData (status : RecordingStatus) : Document :=
  .object (recordingMembers recordingString status)

/-- An event is the text that the sessions deliver. -/
theorem eventJson_text (type : EventType) {timestamp : String} (plain : Plain timestamp) {data : Document}
    {text : List Char} (same : data.text = utf8Bytes text) :
    (eventJson type timestamp data).text = utf8Bytes (makeEventJson type timestamp.toList text) := by
  have name : Plain (String.ofList (eventTypeName type)) := by cases type <;> decide
  have escaped := escape_plain name true
  have stamped := escape_plain plain true
  rw [String.toList_ofList] at escaped
  simp only [eventJson, Document.line, Document.object, Document.Member.commas_cons,
    Document.Member.commas_nil, Document.Member.written, field, jsonString, jsonBytes, Document.string,
    Document.ofValue, String.toList_ofList, escaped, stamped, same]
  have append : ∀ a b : List Char, utf8Bytes (a ++ b) = utf8Bytes a ++ utf8Bytes b := fun a b =>
    List.flatMap_append
  have opens : utf8Bytes ('{' :: "\"type\":\"".toList) =
      0x7b :: 0x22 :: ((ascii "type").flatMap (escapeByte true) ++ [0x22, 0x3a, 0x22]) := by decide
  have then' : utf8Bytes "\",\"timestamp\":\"".toList =
      0x22 :: 0x2c :: 0x22 :: ((ascii "timestamp").flatMap (escapeByte true) ++ [0x22, 0x3a, 0x22]) := by
    decide
  have last : utf8Bytes "\",\"data\":".toList =
      0x22 :: 0x2c :: 0x22 :: ((ascii "data").flatMap (escapeByte true) ++ [0x22, 0x3a]) := by decide
  have closes : utf8Bytes "\x7d\n".toList = [0x7d, 0x0a] := by decide
  rw [makeEventJson, append, append, append, append, append, append, opens, then', last, closes]
  simp

/-! ## What is sent -/

inductive EventData where
  | status (status : RuntimeStatusSnapshot) (detectorEnabled : Bool) (webrtc : Option WebRtcDiagnostics)
  | detection (names : ClassNames) (frameSequence ptsNs : UInt64) (width height : Int)
      (detections : List (Inference.Detection Double))
  | detectionLost
  | gps (fix : Option { fix : GpsFix // Plain fix.source })
  | alert (alert : Alerts.AlertEvent Double)
  | recording (status : RecordingStatus)
  | systemError (module message : String)

namespace EventData

def type : EventData → EventType
  | .status .. => .status
  | .detection .. | .detectionLost => .detection
  | .gps _ => .gps
  | .alert _ => .alert
  | .recording _ => .recording
  | .systemError .. => .systemError

def document : EventData → Document
  | .status snapshot detectorEnabled webrtc => statusData snapshot detectorEnabled webrtc
  | .detection names frameSequence ptsNs width height found =>
    detectionEventData names frameSequence ptsNs width height found
  | .detectionLost => .object [field "available" (.bool false)]
  | .gps fix => gpsData fix
  | .alert event => alertEventData event
  | .recording snapshot => recordingData snapshot
  | .systemError module message => systemErrorData module message

end EventData

/-- The bodies of the HTTP responses and the events of the WebSocket. -/
inductive Message where
  | error (message : String)
  | unavailable
  | noItems
  | health (health : HealthSnapshot)
  | watchdogUnavailable
  | status (status : RuntimeStatusSnapshot) (detectorEnabled : Bool) (webrtc : Option WebRtcDiagnostics)
  | metrics (status : RuntimeStatusSnapshot) (metrics : MetricsSnapshot) (gps : Option GpsFix)
      (webrtc : Option WebRtcDiagnostics)
  | config (config : PublicConfig) (detectorEnabled : Bool)
  | detections (latest : Api.LatestDetectionsDto Double)
  | alert (alert : Alerts.AlertEvent Double)
  | alerts (alerts : List (Alerts.AlertEvent Double))
  | gps (fix : GpsFix)
  | recordings (status : RecordingStatus)
  | enabled (enabled : Bool)
  | recording (status : RecordingStatus)
  | recordingMissing
  | event (timestamp : String) (data : EventData)

def Message.document : Message → Document
  | .error text => errorJson text
  | .unavailable => unavailableJson
  | .noItems => noItemsJson
  | .health snapshot => healthJson snapshot
  | .watchdogUnavailable => watchdogUnavailableJson
  | .status snapshot detectorEnabled webrtc => statusJson snapshot detectorEnabled webrtc
  | .metrics snapshot measured fix webrtc => metricsJson snapshot measured fix webrtc
  | .config dto detectorEnabled => configJson dto detectorEnabled
  | .detections latest => detectionsJson latest
  | .alert row => (alertJson row).line
  | .alerts rows => alertsJson rows
  | .gps fix => gpsJson fix
  | .recordings snapshot => recordingsJson snapshot
  | .enabled on => enabledJson on
  | .recording snapshot => recordingJson snapshot
  | .recordingMissing => recordingMissingJson
  | .event timestamp data => eventJson data.type timestamp data.document

/-! ## Which numbers are sent -/

def finite (numbers : List Double) : Prop := ∀ x ∈ numbers, x.isFinite = true

@[simp] theorem finite_nil : finite [] := by simp [finite]

@[simp] theorem finite_cons (x : Double) (numbers : List Double) :
    finite (x :: numbers) ↔ x.isFinite = true ∧ finite numbers := by
  simp [finite]

@[simp] theorem finite_append (a b : List Double) : finite (a ++ b) ↔ finite a ∧ finite b := by
  simp [finite, or_imp, forall_and]

@[simp] theorem finite_toList (x : Option Double) : finite x.toList ↔ ∀ y ∈ x, y.isFinite = true := by
  simp [finite]

@[simp] theorem finite_flatMap {α : Type*} (numbers : α → List Double) (items : List α) :
    finite (items.flatMap numbers) ↔ ∀ item ∈ items, finite (numbers item) := by
  simp only [finite, List.mem_flatMap, forall_exists_index, and_imp]
  exact ⟨fun all item member x inside => all x item member inside,
    fun all x item member inside => all item member x inside⟩

def statusNumbers (status : RuntimeStatusSnapshot) : List Double :=
  status.videoFps.toList ++ status.detectorFps.toList ++ status.lastInferenceMs.toList

def gpsNumbers (fix : GpsFix) : List Double := [fix.latitude, fix.longitude, fix.altitudeM, fix.hdop]

def positionNumbers (fix : Alerts.GpsFix Double) : List Double :=
  [fix.latitude, fix.longitude, fix.altitudeM]

def alertDetectionNumbers (d : Alerts.AlertDetection Double) : List Double :=
  [d.confidence, d.x1, d.y1, d.x2, d.y2]

def alertNumbers (gps : Option (Alerts.GpsFix Double)) (found : List (Alerts.AlertDetection Double)) :
    List Double :=
  gps.toList.flatMap positionNumbers ++ found.flatMap alertDetectionNumbers

/-- The doubles in the data of an event. -/
def EventData.numbers : EventData → List Double
  | .status snapshot .. => statusNumbers snapshot
  | .detection _ _ _ _ _ found => found.flatMap fun d => [d.confidence, d.x1, d.y1, d.x2, d.y2]
  | .gps fix => fix.toList.flatMap fun fix => gpsNumbers fix.1
  | .alert event => alertNumbers (event.gps.filter (·.valid)) event.detections
  | _ => []

/-- The numbers of a message that are doubles; the others are integers. -/
def Message.numbers : Message → List Double
  | .status snapshot .. => statusNumbers snapshot
  | .metrics snapshot measured .. =>
    statusNumbers snapshot ++ measured.encoderFps.toList ++ measured.cpuPercent.toList ++
      measured.gpuPercent.toList
  | .config dto _ => [dto.detectorConfidence, dto.detectorNms]
  | .detections latest => latest.detections.flatMap fun d => [d.confidence, d.x1, d.y1, d.x2, d.y2]
  | .alert row => alertNumbers row.gps row.detections
  | .alerts rows => rows.flatMap fun row => alertNumbers row.gps row.detections
  | .gps fix => gpsNumbers fix
  | .event _ data => data.numbers
  | _ => []

@[simp] theorem valid_jsonString (value : String) : (jsonString value).valid = true := rfl

@[simp] theorem valid_recordingString (value : String) : (recordingString value).valid = true := rfl

@[simp] theorem valid_plainString (value : String) (plain : Plain value) :
    (plainString value plain).valid = true := rfl

@[simp] theorem valid_natural (n : Nat) : (natural n).valid = true := rfl

@[simp] theorem valid_integer (n : Int) : (integer n).valid = true := by
  unfold integer
  split <;> rfl

@[simp] theorem valid_double6 (x : Double) : (double6 x).valid = x.isFinite := by simp [double6]

@[simp] theorem valid_double9 (x : Double) : (double9 x).valid = x.isFinite := by simp [double9]

@[simp] theorem valid_double17 (x : Double) : (double17 x).valid = x.isFinite := by simp [double17]

@[simp] theorem value_field (name : String) (value : Document) : (field name value).value = value := rfl

@[simp] theorem valid_peerJson (peer : WebRtcPeerDiagnostics) : (peerJson peer).valid = true := by
  simp [peerJson]

@[simp] theorem valid_webrtc (diagnostics : WebRtcDiagnostics) :
    (webrtcDiagnosticsJson diagnostics).valid = true := by
  simp [webrtcDiagnosticsJson]

@[simp] theorem valid_encoder (encoder : EncoderReport) : (encoderJson encoder).valid = true := by
  simp [encoderJson]

@[simp] theorem valid_rtsp (source : RtspReport) : (rtspJson source).valid = true := by
  simp [rtspJson, ofRat, Double.isFinite]

@[simp] theorem valid_queue (queue : QueueReport) : (queueJson queue).valid = true := by
  simp [queueJson]

@[simp] theorem valid_whip (whip : WhipMetrics) : (whipJson whip).valid = true := by
  simp [whipJson]

@[simp] theorem valid_event (type : EventType) (timestamp : String) (data : Document) :
    (eventJson type timestamp data).valid = data.valid := by
  simp [eventJson]

@[simp] theorem valid_systemError (error : SystemError) : error.event.valid = true := by
  simp [SystemError.event, systemErrorData]

@[simp] theorem valid_component (health : ComponentHealth) : (componentJson health).valid = true := by
  simp [componentJson]

theorem valid_alert (row : Alerts.AlertEvent Double) :
    (alertJson row).valid = true ↔ finite (alertNumbers row.gps row.detections) := by
  simp [alertJson, alertGpsJson, alertDetectionJson, detectionJson, alertNumbers, positionNumbers,
    alertDetectionNumbers, Option.all_eq_true]

theorem eventData_valid (data : EventData) : data.document.valid = true ↔ finite data.numbers := by
  cases data with
  | status snapshot =>
    simp [EventData.document, EventData.numbers, statusData, statusNumbers, Option.all_eq_true]
  | detection => simp [EventData.document, EventData.numbers, detectionEventData]
  | gps fix =>
    cases fix <;> simp [EventData.document, EventData.numbers, gpsData, gpsMembers, gpsNumbers]
  | alert event =>
    simp only [EventData.document, EventData.numbers, alertEventData]
    cases event.gps.filter (·.valid) with
    | none => simp [alertNumbers, alertDetectionNumbers, alertDetectionJson, detectionJson]
    | some fix =>
      simp [alertNumbers, positionNumbers, alertDetectionNumbers, alertDetectionJson, detectionJson]
      tauto
  | recording => simp [EventData.document, EventData.numbers, recordingData, recordingMembers]
  | _ => simp [EventData.document, EventData.numbers, systemErrorData]

theorem message_valid (m : Message) : m.document.valid = true ↔ finite m.numbers := by
  cases m with
  | status snapshot =>
    simp [Message.document, Message.numbers, statusJson, statusNumbers, Option.all_eq_true]
  | metrics snapshot =>
    simp [Message.document, Message.numbers, metricsJson, statusNumbers, Option.all_eq_true]
  | config => simp [Message.document, Message.numbers, configJson]
  | detections =>
    simp [Message.document, Message.numbers, detectionsJson, detectionDtoJson, detectionJson]
  | alert row => simpa [Message.document, Message.numbers] using valid_alert row
  | alerts rows => simp [Message.document, Message.numbers, alertsJson, valid_alert]
  | gps => simp [Message.document, Message.numbers, gpsJson, gpsMembers, gpsNumbers]
  | event timestamp data => simpa [Message.document, Message.numbers] using eventData_valid data
  | health => simp [Message.document, Message.numbers, healthJson]
  | error => simp [Message.document, Message.numbers, errorJson]
  | recordings => simp [Message.document, Message.numbers, recordingsJson]
  | recording => simp [Message.document, Message.numbers, recordingJson, recordingMembers]
  | _ => simp [Message.document, Message.numbers, unavailableJson, noItemsJson, watchdogUnavailableJson,
      enabledJson, recordingMissingJson]

/-- **A message is JSON exactly when its numbers are finite**, whatever its texts are; a reader then
gets its document. -/
theorem message_read (m : Message) :
    (finite m.numbers → parse m.document.text = some m.document.tree) ∧
      (¬finite m.numbers → parse m.document.text = none) := by
  rw [Document.parse_document, ← message_valid]
  exact ⟨fun valid => if_pos valid, fun invalid => if_neg invalid⟩

/-- A fix that is nowhere, and an error message with a quote and a line feed in it. -/
example : (Message.gps { latitude := .nan false }).document.valid = false ∧
    (Message.error "a\"b\nc").document.tree =
      .object [(ascii "error", .string (ascii "a\"b\nc"))] :=
  ⟨by decide, by rfl⟩

end SkaiEdge.Web
