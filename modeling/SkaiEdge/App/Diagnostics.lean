import SkaiEdge.Lib.GeneralFormat
import SkaiEdge.Video.RecordingController
import SkaiEdge.Video.RtspMetrics

/-!
# What the modules report about themselves

The snapshots that the health probes look at and the web interface prints: `status.hpp`,
`metrics.hpp`, `rtsp_metrics.hpp`, `webrtc_manager.hpp`, `gps_source.hpp` and `health.hpp`.
-/

namespace SkaiEdge.App

open SkaiEdge.Lib SkaiEdge.Video

/-- `diagnostics()` of the source: its own, and what it asks its frame queue and the clock for. -/
structure RtspReport extends RtspDiagnostics where
  framesDropped : Nat := 0
  framesDiscarded : Nat := 0
  lastFrameAgeMs : Int := -1
  deriving DecidableEq

def sourceHealthName : SourceHealth → String
  | .stopped => "stopped"
  | .connecting => "connecting"
  | .connected => "connected"
  | .degraded => "degraded"
  | .stalled => "stalled"
  | .reconnecting => "reconnecting"
  | .error => "error"

structure EncoderReport where
  framesSubmitted : Nat := 0
  framesRejected : Nat := 0
  framesDropped : Nat := 0
  appsrcPressureDropped : Nat := 0
  accessUnitsEncoded : Nat := 0
  bytesEncoded : Nat := 0
  accessUnitsDropped : Nat := 0
  lastAccessUnitAgeMs : Int := -1
  lastError : String := ""
  deriving DecidableEq

/-- The texts of `RuntimeStatusSnapshot::status`. -/
inductive RuntimePhase where
  | starting
  | running
  | degraded
  deriving DecidableEq

def RuntimePhase.text : RuntimePhase → String
  | .starting => "starting"
  | .running => "running"
  | .degraded => "degraded"

structure RuntimeStatusSnapshot where
  status : RuntimePhase := .starting
  uptimeS : Nat := 0
  videoFps : Option Double := none
  detectorFps : Option Double := none
  lastInferenceMs : Option Double := none
  lastInferenceAgeMs : Option Int := none
  encoder : Option EncoderReport := none
  deriving DecidableEq

structure WebRtcPeerDiagnostics where
  sessionId : String := ""
  peerState : String := ""
  iceState : String := ""
  localCandidate : String := ""
  localInterface : String := ""
  selectedInterface : String := ""
  connectionAgeS : Nat := 0
  bytesSent : Nat := 0
  packetsSent : Nat := 0
  packetsRetransmitted : Nat := 0
  mediaQueueDrops : Nat := 0
  keyframeEvents : Nat := 0
  failureStage : String := ""
  closeReason : String := ""
  lastError : String := ""
  deriving DecidableEq

structure WebRtcDiagnostics where
  enabled : Bool := false
  mediaAvailable : Bool := true
  keyframeCached : Bool := false
  mediaUnavailableReason : String := ""
  lanOnly : Bool := true
  maxPeers : Nat := 0
  sessionsCreated : Nat := 0
  sessionsClosed : Nat := 0
  signalingErrors : Nat := 0
  mediaErrors : Nat := 0
  lastCloseReason : String := ""
  peers : List WebRtcPeerDiagnostics := []
  recentlyClosed : List WebRtcPeerDiagnostics := []
  deriving DecidableEq

structure WhipMetrics where
  enabled : Bool := false
  peerState : String := "disabled"
  iceState : String := "disabled"
  lastError : String := ""
  accessUnitsSent : Nat := 0
  mediaQueueDrops : Nat := 0
  mediaQueueDiscarded : Nat := 0
  deriving DecidableEq

structure GpsFix where
  valid : Bool := false
  source : String := ""
  latitude : Double := .finite false 0
  longitude : Double := .finite false 0
  altitudeM : Double := .finite false 0
  hdop : Double := .finite false 0
  satellitesVisible : Int := 0
  satellitesUsed : Int := 0
  deriving DecidableEq

inductive HealthState where
  | starting
  | running
  | degraded
  | stopping
  | failed
  deriving DecidableEq, Repr

def healthStateName : HealthState → String
  | .starting => "STARTING"
  | .running => "RUNNING"
  | .degraded => "DEGRADED"
  | .stopping => "STOPPING"
  | .failed => "FAILED"

inductive HealthComponent where
  | videoSource
  | detector
  | encoder
  | recorder
  | gps
  | web
  | webRtc
  | database
  deriving DecidableEq, Repr

def healthComponentName : HealthComponent → String
  | .videoSource => "video_source"
  | .detector => "detector"
  | .encoder => "encoder"
  | .recorder => "recorder"
  | .gps => "gps"
  | .web => "web"
  | .webRtc => "webrtc"
  | .database => "database"

def allHealthComponents : List HealthComponent :=
  [.videoSource, .detector, .encoder, .recorder, .gps, .web, .webRtc, .database]

structure ComponentHealth where
  state : HealthState := .starting
  detail : String := ""
  deriving DecidableEq, Repr

structure HealthSnapshot where
  state : HealthState
  components : HealthComponent → ComponentHealth

end SkaiEdge.App
