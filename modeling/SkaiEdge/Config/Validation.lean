import SkaiEdge.Config.Description

/-!
# Which configurations `validate` accepts

`config_accepted` puts the two halves of `parse` together: a document is accepted exactly when it
describes a valid configuration, and then `parse` answers it, whatever the order of its keys.
-/

namespace SkaiEdge.Config

open SkaiEdge.Lib

/-- A finite value between two bounds. -/
def Within (low high : ℚ) (x : Double) : Prop := ∃ q, x.value = some q ∧ low ≤ q ∧ q ≤ high

/-- Two finite values in their order, both between 0 and 1. -/
def Span (low high : Double) : Prop :=
  ∃ a b, low.value = some a ∧ high.value = some b ∧ 0 ≤ a ∧ a < b ∧ b ≤ 1

structure ValidRule (rule : AlertRuleConfig) : Prop where
  named : rule.className ≠ []
  confidence : Within 0 1 rule.confidence
  frames : 1 ≤ rule.consecutiveFrames
  cooldown : 0 ≤ rule.cooldownSeconds
  roi : ∀ roi ∈ rule.roi, Span roi.x1 roi.x2 ∧ Span roi.y1 roi.y2

structure ValidInterface (interface : List Char) : Prop where
  nonempty : interface ≠ []
  plain : ∀ c ∈ interface, c ∉ [' ', '/', '\t', '\r', '\n']

section
variable (ipv4 ipv6 : List Char → Bool)

structure ValidVideo (video : VideoConfig) : Prop where
  url : checkRtspUrl ipv4 ipv6 video.rtspUrl = .ok ()
  transport : video.transport = "tcp".toList ∨ video.transport = "udp".toList
  credentials : video.password ≠ [] → video.username ≠ []
  latency : 0 ≤ video.latencyMs ∧ video.latencyMs ≤ 10000
  reconnect : 1 ≤ video.reconnectDelayMs ∧ video.reconnectDelayMs ≤ video.maxReconnectDelayMs ∧
    video.maxReconnectDelayMs ≤ 60000
  stall : 1 ≤ video.stallTimeoutMs ∧ video.stallTimeoutMs ≤ 60000
  firstFrame : 100 ≤ video.firstFrameTimeoutMs ∧ video.firstFrameTimeoutMs ≤ 120000

/-- **What `validate` accepts.** -/
structure Valid (config : Config) : Prop where
  video : ValidVideo ipv4 ipv6 config.video
  engine : config.detector.engine ≠ []
  confidence : Within 0 1 config.detector.confidence
  nms : Within 0 1 config.detector.nms
  bind : config.web.bind ≠ []
  port : 0 ≤ config.web.port ∧ config.web.port ≤ 65535
  webRoot : config.web.root ≠ []
  directory : config.recording.directory ≠ []
  segment : 1 ≤ config.recording.segmentSeconds
  storage : 1 ≤ config.recording.maxStorageMb ∧
    config.recording.minFreeSpaceMb ≤ config.recording.maxStorageMb
  database : config.storage.databasePath ≠ []
  alertDirectory : config.storage.alertDirectory ≠ []
  rules : ∀ rule ∈ config.alerts, ValidRule rule
  source : config.gps.source = "fixed".toList
  latitude : Within (-90) 90 config.gps.latitude
  longitude : Within (-180) 180 config.gps.longitude
  altitude : ∃ q, config.gps.altitudeM.value = some q
  peers : 1 ≤ config.webrtc.maxPeers ∧ config.webrtc.maxPeers ≤ 100
  timeout : 1000 ≤ config.webrtc.connectionTimeoutMs ∧ config.webrtc.connectionTimeoutMs ≤ 300000
  capacity : 1 ≤ config.webrtc.mediaQueueCapacity ∧ config.webrtc.mediaQueueCapacity ≤ 120
  verbosity : 0 ≤ config.webrtc.iceLogVerbosity ∧ config.webrtc.iceLogVerbosity ≤ 5
  interfaces : config.webrtc.enabled = true → config.webrtc.hostInterfaces ≠ []
  interface : ∀ interface ∈ config.webrtc.hostInterfaces, ValidInterface interface
  whip : validateWhip config.whip = .ok ()

end

theorem isFinite_iff {x : Double} : x.isFinite = true ↔ ∃ q, x.value = some q := by
  cases x <;> simp [Double.isFinite, Double.value]

theorem between_iff {low high : ℚ≥0} {x : Double} : between low high x = true ↔ Within low high x := by
  unfold between Within
  cases x <;> simp [Double.isFinite, Double.value]

/-- A bound on the absolute value is one from both sides. -/
theorem abs_iff {bound : ℚ≥0} {x : Double} :
    (∃ q, x.value = some q) ∧ Double.lessEq x.abs (.finite false bound) = true ↔
      Within (-bound) bound x := by
  unfold Within
  cases x with
  | finite negative size =>
    have positive : (0 : ℚ) ≤ size := size.2
    have bound_positive : (0 : ℚ) ≤ bound := bound.2
    simp only [Double.abs, Double.lessEq_finite, Double.value, Option.some.injEq, exists_eq',
      exists_eq_left', true_and, Double.signed_false]
    cases negative with
    | false =>
      rw [Double.signed_false]
      exact ⟨fun most => ⟨by linarith, most⟩, fun range => range.2⟩
    | true =>
      rw [Double.signed_true]
      exact ⟨fun most => ⟨by linarith, by linarith⟩, fun range => by linarith [range.1]⟩
  | infinite negative => simp [Double.value]
  | nan negative => simp [Double.value]

/-- The two checks of a region. -/
theorem roi_iff {roi : AlertRoi} :
    ((roi.x1.isFinite && roi.y1.isFinite && roi.x2.isFinite && roi.y2.isFinite &&
        Double.lessEq (.finite false 0) roi.x1 && Double.lessEq (.finite false 0) roi.y1 &&
        Double.lessEq roi.x2 (.finite false 1) && Double.lessEq roi.y2 (.finite false 1)) = true ∧
      (Double.less roi.x1 roi.x2 && Double.less roi.y1 roi.y2) = true) ↔
      Span roi.x1 roi.x2 ∧ Span roi.y1 roi.y2 := by
  have axis : ∀ {low high : Double}, Span low high ↔ low.isFinite = true ∧ high.isFinite = true ∧
      Double.lessEq (.finite false 0) low = true ∧ Double.lessEq high (.finite false 1) = true ∧
      Double.less low high = true := by
    intro low high
    unfold Span
    cases low <;> cases high <;>
      simp [Double.isFinite, Double.value, and_comm]
  rw [axis, axis]
  simp only [Bool.and_eq_true]
  tauto

theorem validateRule_ok {field : String} {rule : AlertRuleConfig} :
    validateRule field rule = .ok () ↔ ValidRule rule := by
  simp only [validateRule, check_ok, checkRange_ok, Bool.not_eq_true', List.isEmpty_eq_false_iff,
    between_iff, decide_eq_true_eq, ge_iff_le]
  cases region : rule.roi with
  | none =>
    constructor
    · rintro ⟨named, confidence, frames, cooldown, -⟩
      refine ⟨named, confidence, frames, cooldown, fun roi member => ?_⟩
      rw [region] at member
      cases member
    · rintro ⟨named, confidence, frames, cooldown, -⟩
      exact ⟨named, confidence, frames, cooldown, rfl⟩
  | some roi =>
    simp only [check_ok, checkRange_ok, roi_iff]
    constructor
    · rintro ⟨named, confidence, frames, cooldown, inside⟩
      refine ⟨named, confidence, frames, cooldown, fun roi' member => ?_⟩
      rw [region] at member
      cases member
      exact inside
    · rintro ⟨named, confidence, frames, cooldown, inside⟩
      exact ⟨named, confidence, frames, cooldown, inside roi region⟩

theorem validateRules_ok (index : Nat) (rules : List AlertRuleConfig) :
    validateRules index rules = .ok () ↔ ∀ rule ∈ rules, ValidRule rule := by
  induction rules generalizing index with
  | nil => exact iff_of_true rfl (by simp)
  | cons rule rules ih => rw [validateRules, check_ok, validateRule_ok, ih, List.forall_mem_cons]

theorem validInterface_iff {interface : List Char} :
    validInterface interface = true ↔ ValidInterface interface := by
  have outside : " /\t\r\n".toList = [' ', '/', '\t', '\r', '\n'] := rfl
  simp only [validInterface, outside, Bool.and_eq_true, Bool.not_eq_true', List.isEmpty_eq_false_iff,
    List.any_eq_false, List.contains_iff_mem]
  exact ⟨fun ⟨nonempty, plain⟩ => ⟨nonempty, plain⟩, fun h => ⟨h.nonempty, h.plain⟩⟩

theorem validateInterfaces_ok (interfaces : List (List Char)) :
    validateInterfaces interfaces = .ok () ↔ ∀ interface ∈ interfaces, ValidInterface interface := by
  induction interfaces with
  | nil => exact iff_of_true rfl (by simp)
  | cons interface interfaces ih =>
    rw [validateInterfaces, check_ok, checkRange_ok, validInterface_iff, ih, List.forall_mem_cons]

theorem validateVideo_ok {ipv4 ipv6 : List Char → Bool} {video : VideoConfig} :
    validateVideo ipv4 ipv6 video = .ok () ↔ ValidVideo ipv4 ipv6 video := by
  simp only [validateVideo, check_ok, checkRange_ok, Bool.or_eq_true, Bool.and_eq_true,
    decide_eq_true_eq, List.isEmpty_iff, Bool.not_eq_true', List.isEmpty_eq_false_iff]
  constructor
  · rintro ⟨url, transport, credentials, latency, delay, most, stall, first⟩
    exact ⟨url, transport, fun password => credentials.resolve_left password, latency,
      ⟨delay.1, most.1, most.2⟩, stall, first⟩
  · rintro ⟨url, transport, credentials, latency, ⟨least, order, most⟩, stall, first⟩
    exact ⟨url, transport, or_iff_not_imp_left.2 credentials, latency, ⟨least, order.trans most⟩,
      ⟨order, most⟩, stall, first⟩

theorem validate_ok {ipv4 ipv6 : List Char → Bool} {config : Config} :
    validate ipv4 ipv6 config = .ok () ↔ Valid ipv4 ipv6 config := by
  simp only [validate, check_ok, validateVideo_ok, validateRules_ok, validateInterfaces_ok,
    checkRange_ok, Bool.not_eq_true', List.isEmpty_eq_false_iff, between_iff, abs_iff, isFinite_iff,
    Bool.and_eq_true, Bool.or_eq_true, decide_eq_true_eq, ge_iff_le]
  constructor
  · rintro ⟨video, engine, confidence, nms, bind, port, webRoot, directory, segment, most, least, database,
      alerts, rules, source, latitude, longitude, altitude, peers, timeout, capacity, verbosity, some',
      each, whip⟩
    exact ⟨video, engine, confidence, nms, bind, port, webRoot, directory, segment, ⟨most, least⟩, database,
      alerts, rules, source, latitude, longitude, altitude, peers, timeout, capacity, verbosity,
      fun enabled => some'.resolve_left (by simp [enabled]), each, whip⟩
  · rintro ⟨video, engine, confidence, nms, bind, port, webRoot, directory, segment, ⟨most, least⟩, database,
      alerts, rules, source, latitude, longitude, altitude, peers, timeout, capacity, verbosity, some',
      each, whip⟩
    refine ⟨video, engine, confidence, nms, bind, port, webRoot, directory, segment, most, least, database,
      alerts, rules, source, latitude, longitude, altitude, peers, timeout, capacity, verbosity, ?_, each,
      whip⟩
    cases enabled : config.webrtc.enabled with
    | false => exact .inl rfl
    | true => exact .inr (some' enabled)

/-! ## The whole file -/

theorem parse_accepts (as' : Conversions) (ipv4 ipv6 : List Char → Bool) :
    Accepts (parse as' ipv4 ipv6) fun root config => Describes as' root config ∧ Valid ipv4 ipv6 config := by
  intro root config
  rw [parse_ok, validate_ok]

theorem parseConfig_ok (as' : Conversions) (ipv4 ipv6 : List Char → Bool)
    (load : String → Except String Node) (text : String) (config : Config) :
    parseConfig as' ipv4 ipv6 load text = { ok := true, config := config } ↔
      ∃ root, load text = .ok root ∧ Describes as' root config ∧ Valid ipv4 ipv6 config := by
  simp only [← parse_accepts as' ipv4 ipv6 _ _, ← bind_ok]
  unfold parseConfig
  cases load text >>= parse as' ipv4 ipv6 with
  | error _ => simp
  | ok _ => simp

theorem loadConfig_ok (as' : Conversions) (ipv4 ipv6 : List Char → Bool)
    (load : String → Except String Node) (path : String) (input : Input) (config : Config) :
    loadConfig as' ipv4 ipv6 load path input = { ok := true, config := config } ↔
      ∃ text root, input = .text text ∧ load text = .ok root ∧ Describes as' root config ∧
        Valid ipv4 ipv6 config := by
  cases input with
  | closed => simp [loadConfig]
  | broken => simp [loadConfig]
  | text text =>
    simp only [Input.text.injEq, exists_and_left, exists_eq_left']
    rw [← parseConfig_ok, loadConfig]
    cases answer : (parseConfig as' ipv4 ipv6 load text).ok with
    | true => simp
    | false =>
      refine iff_of_false (fun same => ?_) (fun same => ?_)
      · simp at same
      · rw [same] at answer
        cases answer

/-- Conversions of the digits that the documents below are written with. -/
def digits : Conversions where
  int text := if text = "3" then some 3 else none
  uint64 _ := none
  double text := if text = "0" then some (.finite false 0) else some (.finite false 1)
  bool _ := none

/-- A document with a URL and one alert rule for persons. -/
def personRule (entry : Node × Node) : Node :=
  .map [(.scalar "video", .map [(.scalar "rtsp_url", .scalar "rtsp://camera/live")]),
    (.scalar "alerts", .sequence [.map [(.scalar "class", .scalar "person"), entry]])]

def personConfig : Config where
  video := { rtspUrl := "rtsp://camera/live".toList }
  alerts := [{ className := "person".toList, consecutiveFrames := 3 }]

theorem personConfig_loaded : loadConfig digits loopback4 loopback6
    (fun _ => .ok (personRule (.scalar "consecutive_frames", .scalar "3"))) "skai.yaml" (.text "") =
      { ok := true, config := personConfig } := by
  decide +kernel

/-- A key that nothing knows, and a region without width. -/
example :
    let region : Node := .map [(.scalar "x1", .scalar "1"), (.scalar "x2", .scalar "1"),
      (.scalar "y1", .scalar "0"), (.scalar "y2", .scalar "1")]
    parse digits loopback4 loopback6 (personRule (.scalar "frames", .scalar "3")) =
        .error "unknown configuration key: alerts[0].frames" ∧
      parse digits loopback4 loopback6 (personRule (.scalar "roi", region)) =
        .error "alerts[0].roi must have x1 < x2 and y1 < y2" := by
  decide +kernel

end SkaiEdge.Config
