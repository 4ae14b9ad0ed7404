import SkaiEdge.Config.Validation
import SkaiEdge.Web.JsonDocuments

/-!
# What the API shows of a configuration (`src/include/skai/api_state.hpp`, `src/gps/gps_source.cpp`)
-/

namespace SkaiEdge.Web

open SkaiEdge.Lib SkaiEdge.App SkaiEdge.Config

/-- `ApiState::configure`; credentials, URLs, engine and file system paths stay behind. -/
def publicConfig (config : Config) : PublicConfig where
  videoTransport := .ofList config.video.transport
  videoLatencyMs := config.video.latencyMs
  videoStallTimeoutMs := config.video.stallTimeoutMs
  detectorConfidence := config.detector.confidence
  detectorNms := config.detector.nms
  detectorAnnotate := config.detector.annotate
  webBind := .ofList config.web.bind
  webPort := config.web.port
  recordingConfigured := config.recording.enabled
  recordingSegmentSeconds := config.recording.segmentSeconds
  gpsEnabled := config.gps.enabled
  gpsSource := .ofList config.gps.source
  webrtcEnabled := config.webrtc.enabled
  webrtcMaxPeers := config.webrtc.maxPeers
  webrtcConnectionTimeoutMs := config.webrtc.connectionTimeoutMs
  webrtcMediaQueueCapacity := config.webrtc.mediaQueueCapacity

/-- `GpsSource::latest`, which `GpsModule::initialize` puts into the state. -/
def latestFix (config : GpsConfig) : Option GpsFix :=
  if !config.enabled || !decide (config.source = "fixed".toList) then none
  else
    some { valid := true, source := "fixed", latitude := config.latitude, longitude := config.longitude,
           altitudeM := config.altitudeM, hdop := .ratio 8106479329266893 (2 ^ 53),
           satellitesVisible := 12, satellitesUsed := 10 }

theorem within_finite {low high : ℚ} {x : Double} (within : Within low high x) : x.isFinite = true := by
  obtain ⟨q, value, -⟩ := within
  exact isFinite_iff.2 ⟨q, value⟩

/-- A valid configuration has a fix exactly when it enables one. -/
theorem latestFix_isSome {ipv4 ipv6 : List Char → Bool} {config : Config} (valid : Valid ipv4 ipv6 config) :
    (latestFix config.gps).isSome = config.gps.enabled := by
  unfold latestFix
  cases config.gps.enabled <;> simp [valid.source]

theorem latestFix_numbers {ipv4 ipv6 : List Char → Bool} {config : Config} (valid : Valid ipv4 ipv6 config)
    {fix : GpsFix} (latest : latestFix config.gps = some fix) : Plain fix.source ∧ finite (gpsNumbers fix) := by
  unfold latestFix at latest
  split at latest
  · cases latest
  · have plain : Plain "fixed" := by decide
    cases latest
    refine ⟨plain, ?_⟩
    simp only [gpsNumbers, finite_cons, finite_nil, and_true]
    exact ⟨within_finite valid.latitude, within_finite valid.longitude, isFinite_iff.2 valid.altitude, rfl⟩

/-- What is sent of a configuration and of its fix. -/
inductive OfConfig (config : Config) : Message → Prop where
  | config (enabled : Bool) : OfConfig config (.config (publicConfig config) enabled)
  | gps {fix : GpsFix} : latestFix config.gps = some fix → OfConfig config (.gps fix)
  | event {fix : GpsFix} (timestamp : String) (plain : Plain fix.source) :
      latestFix config.gps = some fix → OfConfig config (.event timestamp (.gps (some ⟨fix, plain⟩)))

theorem ofConfig_finite {ipv4 ipv6 : List Char → Bool} {config : Config} (valid : Valid ipv4 ipv6 config)
    {m : Message} (sent : OfConfig config m) : finite m.numbers := by
  cases sent with
  | config enabled =>
    simp only [Message.numbers, finite_cons, finite_nil, and_true]
    exact ⟨within_finite valid.confidence, within_finite valid.nms⟩
  | gps latest => exact (latestFix_numbers valid latest).2
  | event timestamp plain latest =>
    simpa [Message.numbers, EventData.numbers] using (latestFix_numbers valid latest).2

/-- **An accepted file makes no message that is not JSON**: its configuration, its fix and the events
of the fix are read as what was written. There is a fix exactly when the file enables one, and its
source needs no escape. -/
theorem configured_messages (as' : Conversions) (ipv4 ipv6 : List Char → Bool)
    (load : String → Except String Node) (path : String) (input : Input) (config : Config)
    (accepted : loadConfig as' ipv4 ipv6 load path input = { ok := true, config := config }) :
    (∀ m, OfConfig config m → Json.parse m.document.text = some m.document.tree) ∧
    (latestFix config.gps).isSome = config.gps.enabled ∧
    ∀ fix, latestFix config.gps = some fix → Plain fix.source := by
  obtain ⟨text, root, -, -, -, valid⟩ := (loadConfig_ok as' ipv4 ipv6 load path input config).1 accepted
  refine ⟨fun m sent => ?_, latestFix_isSome valid, fun fix latest => (latestFix_numbers valid latest).1⟩
  rw [Json.Document.parse_document, if_pos]
  exact (message_valid m).2 (ofConfig_finite valid sent)

theorem configured_messages_person :
    Json.parse (Message.config (publicConfig personConfig) true).document.text =
        some (Message.config (publicConfig personConfig) true).document.tree ∧
      (latestFix personConfig.gps).isSome = true :=
  have sent := configured_messages digits loopback4 loopback6 _ "skai.yaml" (.text "") personConfig
    personConfig_loaded
  ⟨sent.1 _ (.config true), sent.2.1⟩

end SkaiEdge.Web
