import SkaiEdge.Config.Config

/-!
# What a configuration document means

`Describes` gives every field the value that the document has for it, or its default. The sections
of `parse` accept exactly what it says, and it is not about the order of the keys.
-/

namespace SkaiEdge.Config

open SkaiEdge.Lib

section
variable (as' : Conversions)

structure VideoSection (node : Node) (config : VideoConfig) : Prop where
  keyed : Keyed node videoKeys
  rtspUrl : Reads node "rtsp_url" ({} : VideoConfig).rtspUrl (Scalar string) config.rtspUrl
  username : Reads node "username" ({} : VideoConfig).username (Scalar string) config.username
  password : Reads node "password" ({} : VideoConfig).password (Scalar string) config.password
  transport : Reads node "transport" ({} : VideoConfig).transport (Scalar string) config.transport
  latencyMs : Reads node "latency_ms" ({} : VideoConfig).latencyMs (Scalar as'.int) config.latencyMs
  reconnectDelayMs : Reads node "reconnect_delay_ms" ({} : VideoConfig).reconnectDelayMs
    (Scalar as'.int) config.reconnectDelayMs
  maxReconnectDelayMs : Reads node "max_reconnect_delay_ms" ({} : VideoConfig).maxReconnectDelayMs
    (Scalar as'.int) config.maxReconnectDelayMs
  stallTimeoutMs : Reads node "stall_timeout_ms" ({} : VideoConfig).stallTimeoutMs (Scalar as'.int)
    config.stallTimeoutMs
  firstFrameTimeoutMs : Reads node "first_frame_timeout_ms" ({} : VideoConfig).firstFrameTimeoutMs
    (Scalar as'.int) config.firstFrameTimeoutMs

structure DetectorSection (node : Node) (config : DetectorConfig) : Prop where
  keyed : Keyed node detectorKeys
  engine : Reads node "engine" ({} : DetectorConfig).engine (Scalar string) config.engine
  confidence : Reads node "confidence" ({} : DetectorConfig).confidence (Scalar as'.double)
    config.confidence
  nms : Reads node "nms" ({} : DetectorConfig).nms (Scalar as'.double) config.nms
  annotate : Reads node "annotate" ({} : DetectorConfig).annotate (Scalar as'.bool) config.annotate

structure WebSection (node : Node) (config : WebConfig) : Prop where
  keyed : Keyed node webKeys
  bind : Reads node "bind" ({} : WebConfig).bind (Scalar string) config.bind
  port : Reads node "port" ({} : WebConfig).port (Scalar as'.int) config.port
  root : Reads node "root" ({} : WebConfig).root (Scalar string) config.root

structure RecordingSection (node : Node) (config : RecordingConfig) : Prop where
  keyed : Keyed node recordingKeys
  enabled : Reads node "enabled" ({} : RecordingConfig).enabled (Scalar as'.bool) config.enabled
  directory : Reads node "directory" ({} : RecordingConfig).directory (Scalar string) config.directory
  segmentSeconds : Reads node "segment_seconds" ({} : RecordingConfig).segmentSeconds
    (Scalar as'.int) config.segmentSeconds
  maxStorageMb : Reads node "max_storage_mb" ({} : RecordingConfig).maxStorageMb
    (Scalar as'.uint64) config.maxStorageMb
  minFreeSpaceMb : Reads node "min_free_space_mb" ({} : RecordingConfig).minFreeSpaceMb
    (Scalar as'.uint64) config.minFreeSpaceMb

structure StorageSection (node : Node) (config : StorageConfig) : Prop where
  keyed : Keyed node storageKeys
  databasePath : Reads node "database_path" ({} : StorageConfig).databasePath (Scalar string)
    config.databasePath
  alertDirectory : Reads node "alert_directory" ({} : StorageConfig).alertDirectory (Scalar string)
    config.alertDirectory

/-- All four coordinates are there. -/
structure RoiSection (node : Node) (roi : Option AlertRoi) : Prop where
  keyed : Keyed node roiKeys
  complete : ∀ key ∈ roiKeys, (node.find key).isSome = true
  corners : ∃ corners, roi = some corners ∧
    Reads node "x1" ({} : AlertRoi).x1 (Scalar as'.double) corners.x1 ∧
    Reads node "y1" ({} : AlertRoi).y1 (Scalar as'.double) corners.y1 ∧
    Reads node "x2" ({} : AlertRoi).x2 (Scalar as'.double) corners.x2 ∧
    Reads node "y2" ({} : AlertRoi).y2 (Scalar as'.double) corners.y2

structure RuleItem (node : Node) (rule : AlertRuleConfig) : Prop where
  keyed : Keyed node ruleKeys
  className : Reads node "class" ({} : AlertRuleConfig).className (Scalar string) rule.className
  confidence : Reads node "confidence" ({} : AlertRuleConfig).confidence (Scalar as'.double)
    rule.confidence
  consecutiveFrames : Reads node "consecutive_frames" ({} : AlertRuleConfig).consecutiveFrames
    (Scalar as'.int) rule.consecutiveFrames
  cooldownSeconds : Reads node "cooldown_seconds" ({} : AlertRuleConfig).cooldownSeconds
    (Scalar as'.int) rule.cooldownSeconds
  roi : Reads node "roi" ({} : AlertRuleConfig).roi (RoiSection as') rule.roi

/-- A sequence that gives one value for each of its items. -/
def Items {α : Type} (Says : Node → α → Prop) (node : Node) (values : List α) : Prop :=
  ∃ items, node.items = some items ∧ List.Forall₂ Says items values

structure GpsSection (node : Node) (config : GpsConfig) : Prop where
  keyed : Keyed node gpsKeys
  enabled : Reads node "enabled" ({} : GpsConfig).enabled (Scalar as'.bool) config.enabled
  source : Reads node "source" ({} : GpsConfig).source (Scalar string) config.source
  latitude : Reads node "latitude" ({} : GpsConfig).latitude (Scalar as'.double) config.latitude
  longitude : Reads node "longitude" ({} : GpsConfig).longitude (Scalar as'.double) config.longitude
  altitudeM : Reads node "altitude_m" ({} : GpsConfig).altitudeM (Scalar as'.double) config.altitudeM

structure WebrtcSection (node : Node) (config : WebrtcConfig) : Prop where
  keyed : Keyed node webrtcKeys
  enabled : Reads node "enabled" ({} : WebrtcConfig).enabled (Scalar as'.bool) config.enabled
  maxPeers : Reads node "max_peers" ({} : WebrtcConfig).maxPeers (Scalar as'.int) config.maxPeers
  connectionTimeoutMs : Reads node "connection_timeout_ms" ({} : WebrtcConfig).connectionTimeoutMs
    (Scalar as'.int) config.connectionTimeoutMs
  mediaQueueCapacity : Reads node "media_queue_capacity" ({} : WebrtcConfig).mediaQueueCapacity
    (Scalar as'.int) config.mediaQueueCapacity
  iceLogVerbosity : Reads node "ice_log_verbosity" ({} : WebrtcConfig).iceLogVerbosity
    (Scalar as'.int) config.iceLogVerbosity
  hostInterfaces : Reads node "host_interfaces" ({} : WebrtcConfig).hostInterfaces
    (Items (Scalar string)) config.hostInterfaces

structure WhipSection (node : Node) (config : WhipConfig) : Prop where
  keyed : Keyed node whipKeys
  enabled : Reads node "enabled" false (Scalar as'.bool) config.enabled
  url : Reads node "url" [] (Scalar string) config.url

/-- Without a level the section means `info`. -/
structure LoggingSection (node : Node) (level : LogLevel) : Prop where
  keyed : Keyed node ["level"]
  level : ∃ name, Reads node "level" "info".toList (Scalar string) name ∧
    logLevels.lookup name = some level

/-- **What a document means**: every field is what the document says, or its default. -/
structure Describes (root : Node) (config : Config) : Prop where
  keyed : Keyed root rootKeys
  video : ∃ video, root.find "video" = some video ∧ (video.find "rtsp_url").isSome = true ∧
    VideoSection as' video config.video
  detector : Reads root "detector" ({} : Config).detector (DetectorSection as') config.detector
  web : Reads root "web" ({} : Config).web (WebSection as') config.web
  recording : Reads root "recording" ({} : Config).recording (RecordingSection as') config.recording
  storage : Reads root "storage" ({} : Config).storage StorageSection config.storage
  alerts : Reads root "alerts" ({} : Config).alerts (Items (RuleItem as')) config.alerts
  gps : Reads root "gps" ({} : Config).gps (GpsSection as') config.gps
  webrtc : Reads root "webrtc" ({} : Config).webrtc (WebrtcSection as') config.webrtc
  whip : Reads root "whip" ({} : Config).whip (WhipSection as') config.whip
  logLevel : Reads root "logging" ({} : Config).logLevel LoggingSection config.logLevel

theorem readVideo_accepts : Accepts (readVideo as') (VideoSection as') := by
  intro node config
  simp only [readVideo, check_ok, checkKeys_ok]
  simp only [bind_ok, readScalar_ok, pure_ok]
  constructor
  · rintro ⟨keyed, _, url, _, user, _, password, _, transport, _, latency, _, delay, _, most, _, stall,
      _, first, rfl⟩
    exact ⟨keyed, url, user, password, transport, latency, delay, most, stall, first⟩
  · rintro ⟨keyed, url, user, password, transport, latency, delay, most, stall, first⟩
    exact ⟨keyed, _, url, _, user, _, password, _, transport, _, latency, _, delay, _, most, _, stall, _,
      first, rfl⟩

theorem readDetector_accepts : Accepts (readDetector as') (DetectorSection as') := by
  intro node config
  simp only [readDetector, check_ok, checkKeys_ok]
  simp only [bind_ok, readScalar_ok, pure_ok]
  constructor
  · rintro ⟨keyed, _, engine, _, confidence, _, nms, _, annotate, rfl⟩
    exact ⟨keyed, engine, confidence, nms, annotate⟩
  · rintro ⟨keyed, engine, confidence, nms, annotate⟩
    exact ⟨keyed, _, engine, _, confidence, _, nms, _, annotate, rfl⟩

theorem readWeb_accepts : Accepts (readWeb as') (WebSection as') := by
  intro node config
  simp only [readWeb, check_ok, checkKeys_ok]
  simp only [bind_ok, readScalar_ok, pure_ok]
  constructor
  · rintro ⟨keyed, _, bind, _, port, _, root, rfl⟩
    exact ⟨keyed, bind, port, root⟩
  · rintro ⟨keyed, bind, port, root⟩
    exact ⟨keyed, _, bind, _, port, _, root, rfl⟩

theorem readRecording_accepts : Accepts (readRecording as') (RecordingSection as') := by
  intro node config
  simp only [readRecording, check_ok, checkKeys_ok]
  simp only [bind_ok, readScalar_ok, pure_ok]
  constructor
  · rintro ⟨keyed, _, enabled, _, directory, _, seconds, _, most, _, least, rfl⟩
    exact ⟨keyed, enabled, directory, seconds, most, least⟩
  · rintro ⟨keyed, enabled, directory, seconds, most, least⟩
    exact ⟨keyed, _, enabled, _, directory, _, seconds, _, most, _, least, rfl⟩

theorem readStorage_accepts : Accepts readStorage StorageSection := by
  intro node config
  simp only [readStorage, check_ok, checkKeys_ok]
  simp only [bind_ok, readScalar_ok, pure_ok]
  constructor
  · rintro ⟨keyed, _, database, _, alerts, rfl⟩
    exact ⟨keyed, database, alerts⟩
  · rintro ⟨keyed, database, alerts⟩
    exact ⟨keyed, _, database, _, alerts, rfl⟩

theorem requireKeys_ok {node : Node} {path : String} (keys : List String) :
    requireKeys node path keys = .ok () ↔ ∀ key ∈ keys, (node.find key).isSome = true := by
  induction keys with
  | nil => simp [requireKeys]
  | cons key keys ih =>
    rw [requireKeys, List.forall_mem_cons, ← ih]
    cases node.find key <;> simp

theorem readRoi_accepts (path : String) : Accepts (readRoi as' path) (RoiSection as') := by
  intro node roi
  simp only [readRoi, check_ok, checkKeys_ok, requireKeys_ok]
  simp only [bind_ok, readScalar_ok, pure_ok]
  constructor
  · rintro ⟨keyed, complete, _, x1, _, y1, _, x2, _, y2, rfl⟩
    exact ⟨keyed, complete, _, rfl, x1, y1, x2, y2⟩
  · rintro ⟨keyed, complete, _, rfl, x1, y1, x2, y2⟩
    exact ⟨keyed, complete, _, x1, _, y1, _, x2, _, y2, rfl⟩

theorem readRule_accepts (path : String) : Accepts (readRule as' path) (RuleItem as') := by
  intro node rule
  simp only [readRule, check_ok, checkKeys_ok]
  simp only [bind_ok, readScalar_ok,
    ifPresent_ok (readRoi_accepts as' path), pure_ok]
  constructor
  · rintro ⟨keyed, _, name, _, confidence, _, frames, _, cooldown, _, roi, rfl⟩
    exact ⟨keyed, name, confidence, frames, cooldown, roi⟩
  · rintro ⟨keyed, name, confidence, frames, cooldown, roi⟩
    exact ⟨keyed, _, name, _, confidence, _, frames, _, cooldown, _, roi, rfl⟩

theorem readRules_ok (index : Nat) (items : List Node) (rules : List AlertRuleConfig) :
    readRules as' index items = .ok rules ↔ List.Forall₂ (RuleItem as') items rules := by
  induction items generalizing index rules with
  | nil =>
    rw [List.forall₂_nil_left_iff]
    exact ⟨fun run => (Except.ok.inj run).symm, fun none => none ▸ rfl⟩
  | cons item items ih =>
    rw [readRules, List.forall₂_cons_left_iff]
    simp only [bind_ok, pure_ok, ih, readRule_accepts as' _ item _]
    constructor
    · rintro ⟨rule, head, rules, rest, rfl⟩
      exact ⟨rule, rules, head, rest, rfl⟩
    · rintro ⟨rule, rules, head, rest, rfl⟩
      exact ⟨rule, head, rules, rest, rfl⟩

theorem readAlerts_accepts : Accepts (readAlerts as') (Items (RuleItem as')) := by
  intro node rules
  unfold readAlerts Items
  cases node.items with
  | none => simp
  | some items => simp [readRules_ok]

theorem readGps_accepts : Accepts (readGps as') (GpsSection as') := by
  intro node config
  simp only [readGps, check_ok, checkKeys_ok]
  simp only [bind_ok, readScalar_ok, pure_ok]
  constructor
  · rintro ⟨keyed, _, enabled, _, source, _, latitude, _, longitude, _, altitude, rfl⟩
    exact ⟨keyed, enabled, source, latitude, longitude, altitude⟩
  · rintro ⟨keyed, enabled, source, latitude, longitude, altitude⟩
    exact ⟨keyed, _, enabled, _, source, _, latitude, _, longitude, _, altitude, rfl⟩

theorem readTexts_ok (items : List Node) (texts : List (List Char)) :
    readTexts items = .ok texts ↔ List.Forall₂ (Scalar string) items texts := by
  induction items generalizing texts with
  | nil =>
    rw [List.forall₂_nil_left_iff]
    exact ⟨fun run => (Except.ok.inj run).symm, fun none => none ▸ rfl⟩
  | cons item items ih =>
    rw [readTexts, List.forall₂_cons_left_iff]
    cases shape : item.text with
    | none =>
      refine iff_of_false (by rintro ⟨⟩) ?_
      rintro ⟨_, _, ⟨text, shape', -⟩, -⟩
      rw [shape] at shape'
      cases shape'
    | some text =>
      simp only [bind_ok, pure_ok, ih]
      constructor
      · rintro ⟨texts, rest, rfl⟩
        exact ⟨_, texts, ⟨text, shape, rfl⟩, rest, rfl⟩
      · rintro ⟨_, texts, ⟨text', shape', converted⟩, rest, rfl⟩
        rw [shape] at shape'
        cases shape'
        cases converted
        exact ⟨texts, rest, rfl⟩

theorem readInterfaces_accepts : Accepts readInterfaces (Items (Scalar string)) := by
  intro node texts
  unfold readInterfaces Items
  cases node.items with
  | none => simp
  | some items => simp [readTexts_ok]

theorem readWebrtc_accepts : Accepts (readWebrtc as') (WebrtcSection as') := by
  intro node config
  simp only [readWebrtc, check_ok, checkKeys_ok]
  simp only [bind_ok, readScalar_ok,
    ifPresent_ok readInterfaces_accepts, pure_ok]
  constructor
  · rintro ⟨keyed, _, enabled, _, peers, _, timeout, _, capacity, _, verbosity, _, interfaces, rfl⟩
    exact ⟨keyed, enabled, peers, timeout, capacity, verbosity, interfaces⟩
  · rintro ⟨keyed, enabled, peers, timeout, capacity, verbosity, interfaces⟩
    exact ⟨keyed, _, enabled, _, peers, _, timeout, _, capacity, _, verbosity, _, interfaces, rfl⟩

theorem readWhip_accepts : Accepts (readWhip as') (WhipSection as') := by
  intro node config
  simp only [readWhip, check_ok, checkKeys_ok]
  simp only [bind_ok, readScalar_ok, pure_ok]
  constructor
  · rintro ⟨keyed, _, enabled, _, url, rfl⟩
    exact ⟨keyed, enabled, url⟩
  · rintro ⟨keyed, enabled, url⟩
    exact ⟨keyed, _, enabled, _, url, rfl⟩

theorem readLogging_accepts : Accepts readLogging LoggingSection := by
  intro node level
  simp only [readLogging, check_ok, checkKeys_ok]
  simp only [bind_ok, readScalar_ok]
  constructor
  · rintro ⟨keyed, name, read, known⟩
    refine ⟨keyed, name, read, ?_⟩
    cases found : logLevels.lookup name with
    | none =>
      rw [found] at known
      cases known
    | some level' =>
      rw [found] at known
      exact congrArg some (pure_ok.1 known)
  · rintro ⟨keyed, name, read, known⟩
    refine ⟨keyed, name, read, ?_⟩
    rw [known]
    rfl

theorem requiredVideo_ok {root video : Node} : requiredVideo root = .ok video ↔
    root.find "video" = some video ∧ video.entries.isSome = true ∧
      (video.find "rtsp_url").isSome = true := by
  unfold requiredVideo
  cases root.find "video" with
  | none => simp
  | some section' =>
    simp only [Option.some.injEq]
    split
    · rename_i missing
      refine iff_of_false (by rintro ⟨⟩) ?_
      rintro ⟨rfl, map, url⟩
      cases entries : section'.entries <;> cases found : section'.find "rtsp_url" <;>
        simp [entries, found] at missing map url
    · rename_i there
      simp only [Bool.or_eq_true, not_or, Bool.not_eq_true, Option.isNone_eq_false_iff] at there
      constructor
      · rintro ⟨⟩
        exact ⟨rfl, there⟩
      · rintro ⟨rfl, -⟩
        rfl

/-- The sections of a document, before the values are checked. -/
theorem parse_ok {ipv4 ipv6 : List Char → Bool} {root : Node} {config : Config} :
    parse as' ipv4 ipv6 root = .ok config ↔
      Describes as' root config ∧ validate ipv4 ipv6 config = .ok () := by
  simp only [parse, check_ok, checkKeys_ok]
  simp only [bind_ok, requiredVideo_ok, readVideo_accepts as' _ _, ifPresent_ok (readDetector_accepts as'),
    ifPresent_ok (readWeb_accepts as'), ifPresent_ok (readRecording_accepts as'),
    ifPresent_ok readStorage_accepts, ifPresent_ok (readAlerts_accepts as'),
    ifPresent_ok (readGps_accepts as'), ifPresent_ok (readWebrtc_accepts as'),
    ifPresent_ok (readWhip_accepts as'), ifPresent_ok readLogging_accepts, pure_ok]
  constructor
  · rintro ⟨keyed, _, ⟨found, -, url⟩, _, video, _, detector, _, web, _, recording, _, storage, _, alerts, _,
      gps, _, webrtc, _, whip, _, level, ⟨⟩, valid, rfl⟩
    exact ⟨⟨keyed, ⟨_, found, url, video⟩, detector, web, recording, storage, alerts, gps, webrtc, whip,
      level⟩, valid⟩
  · rintro ⟨⟨keyed, ⟨_, found, url, video⟩, detector, web, recording, storage, alerts, gps, webrtc, whip,
      level⟩, valid⟩
    obtain ⟨entries, map, -⟩ := video.keyed
    exact ⟨keyed, _, ⟨found, by rw [map]; rfl, url⟩, _, video, _, detector, _, web, _, recording, _, storage,
      _, alerts, _, gps, _, webrtc, _, whip, _, level, (), valid, rfl⟩

/-! ## The order of the keys -/

end

end SkaiEdge.Config
