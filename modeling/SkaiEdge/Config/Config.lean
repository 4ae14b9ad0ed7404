import SkaiEdge.Config.Reading
import SkaiEdge.Config.RtspUrl
import SkaiEdge.Lib.GeneralFormat

/-!
# The configuration file (`src/config.cpp`)

`parse` reads the sections one after another and checks the values at the end, each with its own
error; the first one is what `parse_config` answers. What the YAML reader makes of a text and of a
scalar, and what `inet_pton` accepts, are parameters.
-/

namespace SkaiEdge.Lib.Double

def signed (negative : Bool) (size : ℚ≥0) : ℚ := if negative then -size else size

@[simp] theorem signed_false (size : ℚ≥0) : signed false size = size := rfl

@[simp] theorem signed_true (size : ℚ≥0) : signed true size = -size := rfl

/-- `n / d`. -/
def ratio (n d : Nat) : Double := .finite false (n / d)

def value : Double → Option ℚ
  | .finite negative size => some (signed negative size)
  | _ => none

/-- `a < b`. -/
def less : Double → Double → Bool
  | .finite s x, .finite t y => decide (signed s x < signed t y)
  | .infinite s, .finite _ _ => s
  | .finite _ _, .infinite t => !t
  | .infinite s, .infinite t => s && !t
  | _, _ => false

/-- `a <= b`. -/
def lessEq : Double → Double → Bool
  | .finite s x, .finite t y => decide (signed s x ≤ signed t y)
  | .infinite s, .finite _ _ => s
  | .finite _ _, .infinite t => !t
  | .infinite s, .infinite t => s || !t
  | _, _ => false

@[simp] theorem less_finite {s t : Bool} {x y : ℚ≥0} :
    less (.finite s x) (.finite t y) = true ↔ signed s x < signed t y := decide_eq_true_iff

@[simp] theorem lessEq_finite {s t : Bool} {x y : ℚ≥0} :
    lessEq (.finite s x) (.finite t y) = true ↔ signed s x ≤ signed t y := decide_eq_true_iff

/-- `std::abs`. -/
def abs : Double → Double
  | .finite _ size => .finite false size
  | .infinite _ => .infinite false
  | .nan _ => .nan false

end SkaiEdge.Lib.Double

namespace SkaiEdge

open SkaiEdge.Lib

namespace Config

structure DetectorConfig where
  engine : List Char := "models/yolo11s.engine".toList
  confidence : Double := .ratio 3152519739159347 (2 ^ 53)
  nms : Double := .ratio 8106479329266893 (2 ^ 54)
  annotate : Bool := true
  deriving DecidableEq

structure WebConfig where
  bind : List Char := "0.0.0.0".toList
  port : Int := 8080
  root : List Char := "web".toList
  deriving DecidableEq

structure RecordingConfig where
  enabled : Bool := true
  directory : List Char := "recordings".toList
  segmentSeconds : Int := 60
  maxStorageMb : UInt64 := 1024
  minFreeSpaceMb : UInt64 := 100
  deriving DecidableEq

structure StorageConfig where
  databasePath : List Char := "/var/lib/skai-edge/skai-edge.db".toList
  alertDirectory : List Char := "/var/lib/skai-edge/alerts".toList
  deriving DecidableEq

structure AlertRoi where
  x1 : Double := .finite false 0
  y1 : Double := .finite false 0
  x2 : Double := .finite false 1
  y2 : Double := .finite false 1
  deriving DecidableEq

structure AlertRuleConfig where
  className : List Char := []
  confidence : Double := .ratio 3152519739159347 (2 ^ 52)
  consecutiveFrames : Int := 1
  cooldownSeconds : Int := 10
  roi : Option AlertRoi := none
  deriving DecidableEq

structure GpsConfig where
  enabled : Bool := true
  source : List Char := "fixed".toList
  latitude : Double := .ratio 7046434433875401 (2 ^ 48)
  longitude : Double := .ratio 4277169474892911 (2 ^ 45)
  altitudeM : Double := .ratio 10 1
  deriving DecidableEq

structure WebrtcConfig where
  enabled : Bool := true
  maxPeers : Int := 2
  connectionTimeoutMs : Int := 15000
  mediaQueueCapacity : Int := 8
  hostInterfaces : List (List Char) := ["eth0".toList, "wlan0".toList]
  iceLogVerbosity : Int := 1
  deriving DecidableEq

inductive LogLevel where
  | trace
  | debug
  | info
  | warning
  | error
  deriving DecidableEq, Repr

end Config

open Config

structure Config where
  video : VideoConfig := {}
  detector : DetectorConfig := {}
  web : WebConfig := {}
  recording : RecordingConfig := {}
  storage : StorageConfig := {}
  alerts : List AlertRuleConfig := []
  gps : GpsConfig := {}
  webrtc : WebrtcConfig := {}
  whip : WhipConfig := ⟨false, []⟩
  logLevel : LogLevel := .info
  deriving DecidableEq

namespace Config

/-! ## `validate` -/

/-- A double between two bounds, tested as `std::isfinite(x) && x >= low && x <= high`. -/
def between (low high : ℚ≥0) (x : Double) : Bool :=
  x.isFinite && Double.lessEq (.finite false low) x && Double.lessEq x (.finite false high)

/-- The checks of one alert rule. -/
def validateRule (field : String) (rule : AlertRuleConfig) : Except String Unit := do
  checkRange (!rule.className.isEmpty) (field ++ ".class") "must not be empty"
  checkRange (between 0 1 rule.confidence) (field ++ ".confidence") "must be between 0 and 1"
  checkRange (decide (rule.consecutiveFrames ≥ 1)) (field ++ ".consecutive_frames") "must be positive"
  checkRange (decide (rule.cooldownSeconds ≥ 0)) (field ++ ".cooldown_seconds") "must not be negative"
  match rule.roi with
  | none => pure ()
  | some roi =>
    checkRange (roi.x1.isFinite && roi.y1.isFinite && roi.x2.isFinite && roi.y2.isFinite &&
        Double.lessEq (.finite false 0) roi.x1 && Double.lessEq (.finite false 0) roi.y1 &&
        Double.lessEq roi.x2 (.finite false 1) && Double.lessEq roi.y2 (.finite false 1))
      (field ++ ".roi") "coordinates must be between 0 and 1"
    checkRange (Double.less roi.x1 roi.x2 && Double.less roi.y1 roi.y2)
      (field ++ ".roi") "must have x1 < x2 and y1 < y2"

/-- `"alerts[" + std::to_string(index) + "]"`. -/
def alertField (index : Nat) : String := "alerts[" ++ toString index ++ "]"

def validateRules (index : Nat) : List AlertRuleConfig → Except String Unit
  | [] => .ok ()
  | rule :: rules => do
    validateRule (alertField index) rule
    validateRules (index + 1) rules

def validInterface (interface : List Char) : Bool :=
  !interface.isEmpty && !interface.any fun c => " /\t\r\n".toList.contains c

def validateInterfaces : List (List Char) → Except String Unit
  | [] => .ok ()
  | interface :: interfaces => do
    checkRange (validInterface interface) "webrtc.host_interfaces"
      "must contain interface names without spaces or slashes"
    validateInterfaces interfaces

section
variable (ipv4 ipv6 : List Char → Bool)

def validate (config : Config) : Except String Unit := do
  validateVideo ipv4 ipv6 config.video
  checkRange (!config.detector.engine.isEmpty) "detector.engine" "must not be empty"
  checkRange (between 0 1 config.detector.confidence) "detector.confidence" "must be between 0 and 1"
  checkRange (between 0 1 config.detector.nms) "detector.nms" "must be between 0 and 1"
  checkRange (!config.web.bind.isEmpty) "web.bind" "must not be empty"
  checkRange (decide (config.web.port ≥ 0) && decide (config.web.port ≤ 65535))
    "web.port" "must be between 0 and 65535 (0 selects an ephemeral port)"
  checkRange (!config.web.root.isEmpty) "web.root" "must not be empty"
  checkRange (!config.recording.directory.isEmpty) "recording.directory" "must not be empty"
  checkRange (decide (config.recording.segmentSeconds ≥ 1)) "recording.segment_seconds" "must be positive"
  checkRange (decide (config.recording.maxStorageMb ≥ 1)) "recording.max_storage_mb" "must be positive"
  checkRange (decide (config.recording.minFreeSpaceMb ≤ config.recording.maxStorageMb))
    "recording.min_free_space_mb" "must not exceed recording.max_storage_mb"
  checkRange (!config.storage.databasePath.isEmpty) "storage.database_path" "must not be empty"
  checkRange (!config.storage.alertDirectory.isEmpty) "storage.alert_directory" "must not be empty"
  validateRules 0 config.alerts
  checkRange (config.gps.source = "fixed".toList) "gps.source" "must be fixed"
  checkRange (config.gps.latitude.isFinite &&
      Double.lessEq config.gps.latitude.abs (.finite false 90))
    "gps.latitude" "must be between -90 and 90"
  checkRange (config.gps.longitude.isFinite &&
      Double.lessEq config.gps.longitude.abs (.finite false 180))
    "gps.longitude" "must be between -180 and 180"
  checkRange config.gps.altitudeM.isFinite "gps.altitude_m" "must be finite"
  checkRange (decide (config.webrtc.maxPeers ≥ 1) && decide (config.webrtc.maxPeers ≤ 100))
    "webrtc.max_peers" "must be between 1 and 100"
  checkRange (decide (config.webrtc.connectionTimeoutMs ≥ 1000) &&
      decide (config.webrtc.connectionTimeoutMs ≤ 300000))
    "webrtc.connection_timeout_ms" "must be between 1000 and 300000"
  checkRange (decide (config.webrtc.mediaQueueCapacity ≥ 1) &&
      decide (config.webrtc.mediaQueueCapacity ≤ 120))
    "webrtc.media_queue_capacity" "must be between 1 and 120"
  checkRange (decide (config.webrtc.iceLogVerbosity ≥ 0) && decide (config.webrtc.iceLogVerbosity ≤ 5))
    "webrtc.ice_log_verbosity" "must be between 0 and 5"
  checkRange (!config.webrtc.enabled || !config.webrtc.hostInterfaces.isEmpty)
    "webrtc.host_interfaces" "must not be empty when webrtc.enabled is true"
  validateInterfaces config.webrtc.hostInterfaces
  validateWhip config.whip

end

/-! ## `parse` -/

/-- What `as<T>()` of the YAML reader makes of a scalar. -/
structure Conversions where
  int : String → Option Int
  uint64 : String → Option UInt64
  double : String → Option Double
  bool : String → Option Bool

/-- `as<std::string>()`. -/
def string (text : String) : Option (List Char) := some text.toList

section
variable (as' : Conversions)

def videoKeys : List String :=
  ["rtsp_url", "username", "password", "transport", "latency_ms", "reconnect_delay_ms",
    "max_reconnect_delay_ms", "stall_timeout_ms", "first_frame_timeout_ms"]

def readVideo (video : Node) : Except String VideoConfig := do
  let config : VideoConfig := {}
  checkKeys video "video" videoKeys
  let rtspUrl ← readScalar string video "rtsp_url" "video" config.rtspUrl
  let username ← readScalar string video "username" "video" config.username
  let password ← readScalar string video "password" "video" config.password
  let transport ← readScalar string video "transport" "video" config.transport
  let latencyMs ← readScalar as'.int video "latency_ms" "video" config.latencyMs
  let reconnectDelayMs ←
    readScalar as'.int video "reconnect_delay_ms" "video" config.reconnectDelayMs
  let maxReconnectDelayMs ←
    readScalar as'.int video "max_reconnect_delay_ms" "video" config.maxReconnectDelayMs
  let stallTimeoutMs ← readScalar as'.int video "stall_timeout_ms" "video" config.stallTimeoutMs
  let firstFrameTimeoutMs ←
    readScalar as'.int video "first_frame_timeout_ms" "video" config.firstFrameTimeoutMs
  return ⟨rtspUrl, username, password, transport, latencyMs, reconnectDelayMs, maxReconnectDelayMs,
    stallTimeoutMs, firstFrameTimeoutMs⟩

def detectorKeys : List String := ["engine", "confidence", "nms", "annotate"]

def readDetector (node : Node) : Except String DetectorConfig := do
  let config : DetectorConfig := {}
  checkKeys node "detector" detectorKeys
  let engine ← readScalar string node "engine" "detector" config.engine
  let confidence ← readScalar as'.double node "confidence" "detector" config.confidence
  let nms ← readScalar as'.double node "nms" "detector" config.nms
  let annotate ← readScalar as'.bool node "annotate" "detector" config.annotate
  return ⟨engine, confidence, nms, annotate⟩

def webKeys : List String := ["bind", "port", "root"]

def readWeb (node : Node) : Except String WebConfig := do
  let config : WebConfig := {}
  checkKeys node "web" webKeys
  let bind ← readScalar string node "bind" "web" config.bind
  let port ← readScalar as'.int node "port" "web" config.port
  let root ← readScalar string node "root" "web" config.root
  return ⟨bind, port, root⟩

def recordingKeys : List String :=
  ["enabled", "directory", "segment_seconds", "max_storage_mb", "min_free_space_mb"]

def readRecording (node : Node) : Except String RecordingConfig := do
  let config : RecordingConfig := {}
  checkKeys node "recording" recordingKeys
  let enabled ← readScalar as'.bool node "enabled" "recording" config.enabled
  let directory ← readScalar string node "directory" "recording" config.directory
  let segmentSeconds ← readScalar as'.int node "segment_seconds" "recording" config.segmentSeconds
  let maxStorageMb ← readScalar as'.uint64 node "max_storage_mb" "recording" config.maxStorageMb
  let minFreeSpaceMb ←
    readScalar as'.uint64 node "min_free_space_mb" "recording" config.minFreeSpaceMb
  return ⟨enabled, directory, segmentSeconds, maxStorageMb, minFreeSpaceMb⟩

def storageKeys : List String := ["database_path", "alert_directory"]

def readStorage (node : Node) : Except String StorageConfig := do
  let config : StorageConfig := {}
  checkKeys node "storage" storageKeys
  let databasePath ← readScalar string node "database_path" "storage" config.databasePath
  let alertDirectory ← readScalar string node "alert_directory" "storage" config.alertDirectory
  return ⟨databasePath, alertDirectory⟩

def roiKeys : List String := ["x1", "y1", "x2", "y2"]

/-- The loop over the coordinates. -/
def requireKeys (node : Node) (path : String) : List String → Except String Unit
  | [] => .ok ()
  | key :: keys =>
    if (node.find key).isNone then .error (path ++ "." ++ key ++ " is required")
    else requireKeys node path keys

def readRoi (path : String) (node : Node) : Except String (Option AlertRoi) := do
  let config : AlertRoi := {}
  checkKeys node (path ++ ".roi") roiKeys
  requireKeys node (path ++ ".roi") roiKeys
  let x1 ← readScalar as'.double node "x1" (path ++ ".roi") config.x1
  let y1 ← readScalar as'.double node "y1" (path ++ ".roi") config.y1
  let x2 ← readScalar as'.double node "x2" (path ++ ".roi") config.x2
  let y2 ← readScalar as'.double node "y2" (path ++ ".roi") config.y2
  return some ⟨x1, y1, x2, y2⟩

def ruleKeys : List String := ["class", "confidence", "consecutive_frames", "cooldown_seconds", "roi"]

def readRule (path : String) (item : Node) : Except String AlertRuleConfig := do
  let config : AlertRuleConfig := {}
  checkKeys item path ruleKeys
  let className ← readScalar string item "class" path config.className
  let confidence ← readScalar as'.double item "confidence" path config.confidence
  let consecutiveFrames ←
    readScalar as'.int item "consecutive_frames" path config.consecutiveFrames
  let cooldownSeconds ← readScalar as'.int item "cooldown_seconds" path config.cooldownSeconds
  let roi ← ifPresent item "roi" config.roi (readRoi as' path)
  return ⟨className, confidence, consecutiveFrames, cooldownSeconds, roi⟩

def readRules (index : Nat) : List Node → Except String (List AlertRuleConfig)
  | [] => .ok []
  | item :: items => do
    let rule ← readRule as' (alertField index) item
    let rules ← readRules (index + 1) items
    return rule :: rules

def readAlerts (node : Node) : Except String (List AlertRuleConfig) :=
  match node.items with
  | none => .error "alerts must be a sequence"
  | some items => readRules as' 0 items

def gpsKeys : List String := ["enabled", "source", "latitude", "longitude", "altitude_m"]

def readGps (node : Node) : Except String GpsConfig := do
  let config : GpsConfig := {}
  checkKeys node "gps" gpsKeys
  let enabled ← readScalar as'.bool node "enabled" "gps" config.enabled
  let source ← readScalar string node "source" "gps" config.source
  let latitude ← readScalar as'.double node "latitude" "gps" config.latitude
  let longitude ← readScalar as'.double node "longitude" "gps" config.longitude
  let altitudeM ← readScalar as'.double node "altitude_m" "gps" config.altitudeM
  return ⟨enabled, source, latitude, longitude, altitudeM⟩

def readTexts : List Node → Except String (List (List Char))
  | [] => .ok []
  | item :: items =>
    match item.text with
    | none => .error "webrtc.host_interfaces must contain strings"
    | some text => do
      let texts ← readTexts items
      return text.toList :: texts

def readInterfaces (node : Node) : Except String (List (List Char)) :=
  match node.items with
  | none => .error "webrtc.host_interfaces must be a sequence"
  | some items => readTexts items

def webrtcKeys : List String :=
  ["enabled", "max_peers", "connection_timeout_ms", "media_queue_capacity", "host_interfaces",
    "ice_log_verbosity"]

def readWebrtc (node : Node) : Except String WebrtcConfig := do
  let config : WebrtcConfig := {}
  checkKeys node "webrtc" webrtcKeys
  let enabled ← readScalar as'.bool node "enabled" "webrtc" config.enabled
  let maxPeers ← readScalar as'.int node "max_peers" "webrtc" config.maxPeers
  let connectionTimeoutMs ←
    readScalar as'.int node "connection_timeout_ms" "webrtc" config.connectionTimeoutMs
  let mediaQueueCapacity ←
    readScalar as'.int node "media_queue_capacity" "webrtc" config.mediaQueueCapacity
  let iceLogVerbosity ← readScalar as'.int node "ice_log_verbosity" "webrtc" config.iceLogVerbosity
  let hostInterfaces ← ifPresent node "host_interfaces" config.hostInterfaces readInterfaces
  return ⟨enabled, maxPeers, connectionTimeoutMs, mediaQueueCapacity, hostInterfaces,
    iceLogVerbosity⟩

def whipKeys : List String := ["enabled", "url"]

def readWhip (node : Node) : Except String WhipConfig := do
  checkKeys node "whip" whipKeys
  let enabled ← readScalar as'.bool node "enabled" "whip" false
  let url ← readScalar string node "url" "whip" []
  return ⟨enabled, url⟩

def logLevels : List (List Char × LogLevel) :=
  [("trace".toList, .trace), ("debug".toList, .debug), ("info".toList, .info),
    ("warning".toList, .warning), ("error".toList, .error)]

def readLogging (node : Node) : Except String LogLevel := do
  checkKeys node "logging" ["level"]
  let level ← readScalar string node "level" "logging" "info".toList
  match logLevels.lookup level with
  | some level => pure level
  | none => throw "logging.level must be trace, debug, info, warning, or error"

def rootKeys : List String :=
  ["video", "detector", "web", "recording", "storage", "alerts", "gps", "webrtc", "whip", "logging"]

/-- The section that must be there, with its URL. -/
def requiredVideo (root : Node) : Except String Node :=
  match root.find "video" with
  | none => .error "video.rtsp_url is required"
  | some video =>
    if video.entries.isNone || (video.find "rtsp_url").isNone then
      .error "video.rtsp_url is required"
    else .ok video

variable (ipv4 ipv6 : List Char → Bool)

def parse (root : Node) : Except String Config := do
  let defaults : Config := {}
  checkKeys root "" rootKeys
  let section' ← requiredVideo root
  let video ← readVideo as' section'
  let detector ← ifPresent root "detector" defaults.detector (readDetector as')
  let web ← ifPresent root "web" defaults.web (readWeb as')
  let recording ← ifPresent root "recording" defaults.recording (readRecording as')
  let storage ← ifPresent root "storage" defaults.storage readStorage
  let alerts ← ifPresent root "alerts" defaults.alerts (readAlerts as')
  let gps ← ifPresent root "gps" defaults.gps (readGps as')
  let webrtc ← ifPresent root "webrtc" defaults.webrtc (readWebrtc as')
  let whip ← ifPresent root "whip" defaults.whip (readWhip as')
  let logLevel ← ifPresent root "logging" defaults.logLevel readLogging
  let config := ⟨video, detector, web, recording, storage, alerts, gps, webrtc, whip, logLevel⟩
  validate ipv4 ipv6 config
  return config

structure ConfigResult where
  ok : Bool
  config : Config := {}
  error : String := ""
  deriving DecidableEq

/-- `load` is `YAML::Load`. -/
def parseConfig (load : String → Except String Node) (text : String) : ConfigResult :=
  match load text >>= parse as' ipv4 ipv6 with
  | .ok config => { ok := true, config := config }
  | .error error => { ok := false, error := error }

/-- What the file gives: it does not open, a read of it fails, or its text. -/
inductive Input where
  | closed
  | broken
  | text (text : String)

def loadConfig (load : String → Except String Node) (path : String) : Input → ConfigResult
  | .closed => { ok := false, error := "could not open configuration file: " ++ path }
  | .broken => { ok := false, error := "could not read configuration file: " ++ path }
  | .text text =>
    let result := parseConfig as' ipv4 ipv6 load text
    if result.ok then result else { result with error := path ++ ": " ++ result.error }

end

end Config

end SkaiEdge
