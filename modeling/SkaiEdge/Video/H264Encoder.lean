import SkaiEdge.Lib.Runs
import SkaiEdge.Video.EncodedAccessUnit

/-!
# The encoder's timeline (`src/video/h264_encoder.cpp`)

The worker opens and closes pipelines; the appsink's callback captures samples in between. Closing
first refuses new callbacks and then waits for the one in flight, so the steps of both threads
interleave. `opened` and `emitted` only record the run: how many pipelines were opened, and each
emitted unit with its pipeline and the sample it was captured from.
-/

namespace SkaiEdge.Video

open SkaiEdge.Lib

structure H264EncoderConfig where
  bitrateKbps : Int32 := 2000
  keyframeInterval : Int32 := 30
  fpsNum : Int32 := 30
  fpsDen : Int32 := 1
  deriving DecidableEq, Repr

def validConfig (config : H264EncoderConfig) : Except String Unit :=
  if config.bitrateKbps ≤ 0 ∨ config.keyframeInterval ≤ 0 ∨ config.fpsNum ≤ 0 ∨ config.fpsDen ≤ 0 then
    .error "H.264 encoder bitrate, keyframe interval, and frame rate must be positive"
  else if config.bitrateKbps > 14000 then
    .error "H.264 encoder bitrate exceeds constrained-baseline Level 3.1"
  else .ok ()

/-- What the encoder reads of a `Frame`; `bgrSize` is the size of its buffer. -/
structure EncoderFrame where
  width : Int32
  height : Int32
  stride : Int32
  bgrSize : Nat
  deriving DecidableEq, Repr

def macroblocks (frame : EncoderFrame) : Int :=
  (frame.width.toInt + 15).tdiv 16 * (frame.height.toInt + 15).tdiv 16

def level31Supports (frame : EncoderFrame) (config : H264EncoderConfig) : Except String Unit :=
  if macroblocks frame > 3600 ∨
      macroblocks frame * config.fpsNum.toInt > 108000 * config.fpsDen.toInt then
    .error "encoder frame dimensions and rate exceed constrained-baseline Level 3.1"
  else .ok ()

def validFrame (frame : EncoderFrame) : Except String Unit :=
  if frame.width ≤ 0 ∨ frame.height ≤ 0 ∨ frame.stride < 0 ∨ frame.width.toInt > (2 ^ 31 - 1) / 3 then
    .error "encoder frame dimensions or stride are invalid"
  else
    let rowBytes := frame.width.toInt.toNat * 3
    let stride := frame.stride.toInt.toNat
    let rowsBeforeLast := (frame.height.toInt - 1).toNat
    if stride < rowBytes ∨ rowsBeforeLast > (2 ^ 64 - 1 - rowBytes) / stride ∨
        frame.bgrSize < rowsBeforeLast * stride + rowBytes then
      .error "encoder frame buffer is shorter than its BGR dimensions and stride"
    else .ok ()

/-- A `GstSample`: `buffer` when it has a buffer that can be mapped. -/
structure Sample where
  buffer : Bool := true
  offset : UInt64
  pts : UInt64
  dts : UInt64
  deltaUnit : Bool
  bytes : List UInt8
  deriving DecidableEq, Repr

/-- Neither `GST_CLOCK_TIME_NONE` nor `GST_BUFFER_OFFSET_NONE`. -/
def timeIsValid (t : UInt64) : Bool := t ≠ 18446744073709551615

structure Timeline where
  hasOutputPts : Bool := false
  hasPipelineOutputOrigin : Bool := false
  lastOutputPtsNs : UInt64 := 0
  pipelineRawPtsOriginNs : UInt64 := 0
  pipelineOutputPtsOriginNs : UInt64 := 0
  deriving DecidableEq, Repr

/-- `gst_util_uint64_scale_int(GST_SECOND, fps_den, fps_num)`. -/
def frameDurationNs (config : H264EncoderConfig) : UInt64 :=
  UInt64.ofNat (1000000000 * config.fpsDen.toInt.toNat / config.fpsNum.toInt.toNat)

/-- The first timed unit of a pipeline sets its origins. -/
def Timeline.anchor (t : Timeline) (frameDuration pts : UInt64) : Timeline :=
  if t.hasPipelineOutputOrigin then t
  else
    { t with
      pipelineRawPtsOriginNs := pts
      pipelineOutputPtsOriginNs :=
        if t.hasOutputPts then max pts (t.lastOutputPtsNs + frameDuration) else pts
      hasPipelineOutputOrigin := true }

def Timeline.rebase (t : Timeline) (raw : UInt64) : UInt64 :=
  if raw ≥ t.pipelineRawPtsOriginNs then
    t.pipelineOutputPtsOriginNs + (raw - t.pipelineRawPtsOriginNs)
  else
    let delta := t.pipelineRawPtsOriginNs - raw
    if t.pipelineOutputPtsOriginNs > delta then t.pipelineOutputPtsOriginNs - delta else 0

structure Emitted where
  pipeline : Nat
  sample : Sample
  unit : EncodedAccessUnit
  deriving DecidableEq, Repr

structure H264Encoder where
  config : H264EncoderConfig
  pipeline : Bool := false
  acceptingCallbacks : Bool := false
  callback : Option Sample := none
  width : Int32 := 0
  height : Int32 := 0
  nextAccessUnitDiscontinuity : Bool := true
  timeline : Timeline := {}
  opened : Nat := 0
  emitted : List Emitted := []
  deriving DecidableEq, Repr

namespace H264Encoder

def start (config : H264EncoderConfig) : Except String H264Encoder := do
  validConfig config
  return { config }

/-- The unit of a sample before the timeline; the flag is set last. -/
def rawUnit (sample : Sample) : EncodedAccessUnit where
  sequence := if timeIsValid sample.offset then sample.offset else 0
  hasPts := timeIsValid sample.pts
  ptsNs := if timeIsValid sample.pts then sample.pts else 0
  hasDts := timeIsValid sample.dts
  dtsNs := if timeIsValid sample.dts then sample.dts else 0
  keyframe := !sample.deltaUnit
  bytes := sample.bytes

/-- Both times are moved to the outgoing timeline, where the unit has a PTS. -/
def place (e : H264Encoder) (unit : EncodedAccessUnit) : EncodedAccessUnit × Timeline :=
  if unit.hasPts then
    let t := e.timeline.anchor (frameDurationNs e.config) unit.ptsNs
    ({ unit with
        ptsNs := t.rebase unit.ptsNs
        dtsNs := if unit.hasDts then t.rebase unit.dtsNs else unit.dtsNs },
      { t with lastOutputPtsNs := t.rebase unit.ptsNs, hasOutputPts := true })
  else (unit, e.timeline)

def captureSample (e : H264Encoder) (sample : Sample) : H264Encoder :=
  if sample.buffer = false ∨ sample.bytes = [] then e
  else
    let (unit, timeline) := e.place (rawUnit sample)
    { e with
      timeline
      nextAccessUnitDiscontinuity := false
      emitted := e.emitted ++
        [⟨e.opened, sample, { unit with discontinuity := e.nextAccessUnitDiscontinuity }⟩] }

/-- The end of `close_pipeline`, once no callback is in flight. -/
def closePipeline (e : H264Encoder) : H264Encoder :=
  { e with pipeline := false, acceptingCallbacks := false, nextAccessUnitDiscontinuity := true }

/-- How far `open_pipeline` gets; `notLinked` also when an element is missing. A pipeline that does
not reach PLAYING is opened and then closed. -/
inductive OpenOutcome where
  | notCreated
  | notLinked
  | linked
  deriving DecidableEq, Repr

def openPipeline (e : H264Encoder) (frame : EncoderFrame) (outcome : OpenOutcome) : H264Encoder :=
  match level31Supports frame e.config with
  | .error _ => e
  | .ok () =>
    match outcome with
    | .notCreated => e
    | .notLinked => e.closePipeline
    | .linked =>
      { e with
        pipeline := true
        acceptingCallbacks := true
        width := frame.width
        height := frame.height
        timeline := { e.timeline with hasPipelineOutputOrigin := false }
        opened := e.opened + 1 }

inductive Move where
  /-- The worker opens a pipeline for a valid frame. -/
  | openPipeline (frame : EncoderFrame) (outcome : OpenOutcome)
  /-- `begin_callback`, on the streaming thread of the appsink. -/
  | beginCallback (sample : Sample)
  /-- `capture_sample` and `end_callback`. -/
  | capture
  /-- The worker refuses further callbacks. -/
  | refuseCallbacks
  /-- The worker has waited for the callback in flight. -/
  | closed
  deriving DecidableEq, Repr

def step (e : H264Encoder) : Move → Option H264Encoder
  | .openPipeline frame outcome =>
    if e.pipeline = false ∧ validFrame frame = .ok () then some (e.openPipeline frame outcome)
    else none
  | .beginCallback sample =>
    if e.acceptingCallbacks = true ∧ e.callback = none then some { e with callback := some sample }
    else none
  | .capture => e.callback.map fun sample => { e.captureSample sample with callback := none }
  | .refuseCallbacks =>
    if e.pipeline = true then some { e with acceptingCallbacks := false } else none
  | .closed =>
    if e.pipeline = true ∧ e.acceptingCallbacks = false ∧ e.callback = none then
      some e.closePipeline
    else none

end H264Encoder

/-! ## What a run is to keep -/

/-- The units with a PTS. -/
def timed (log : List Emitted) : List Emitted := log.filter fun a => timeIsValid a.sample.pts

/-- The raw PTS increase within each pipeline. -/
def RawIncreasing (log : List Emitted) : Prop :=
  (timed log).Pairwise fun a b => a.pipeline = b.pipeline → a.sample.pts < b.sample.pts

/-- What a timed unit adds to the extent of the stream: the raw difference within a pipeline, `gap`
at the start of another one. -/
def advance (gap : Nat) (a b : Emitted) : Nat :=
  if a.pipeline = b.pipeline then b.sample.pts.toNat - a.sample.pts.toNat else gap

def extent (gap : Nat) : List Emitted → Nat
  | a :: b :: log => advance gap a b + extent gap (b :: log)
  | _ => 0

/-- The raw PTS and the extent of the stream stay below `2 ^ 62`. -/
structure Within (gap : Nat) (log : List Emitted) : Prop where
  pts : ∀ a ∈ timed log, a.sample.pts.toNat < 2 ^ 62
  extent : extent gap (timed log) < 2 ^ 62

instance (log : List Emitted) : Decidable (RawIncreasing log) :=
  inferInstanceAs (Decidable (List.Pairwise _ _))

instance (gap : Nat) (log : List Emitted) : Decidable (Within gap log) :=
  decidable_of_iff ((∀ a ∈ timed log, a.sample.pts.toNat < 2 ^ 62) ∧
      Video.extent gap (timed log) < 2 ^ 62)
    ⟨fun within => ⟨within.1, within.2⟩, fun within => ⟨within.pts, within.extent⟩⟩

structure TimelineKept (log : List Emitted) : Prop where
  carried : ∀ a ∈ log, a.unit.hasPts = timeIsValid a.sample.pts
  increasing : ((log.filter (·.unit.hasPts)).map (·.unit.ptsNs)).Pairwise (· < ·)
  differences : ∀ a ∈ log, ∀ b ∈ log, a.pipeline = b.pipeline → a.unit.hasPts = true →
    b.unit.hasPts = true →
    b.unit.ptsNs.toNat + a.sample.pts.toNat = a.unit.ptsNs.toNat + b.sample.pts.toNat
  decode : ∀ a ∈ log, a.unit.hasPts = true → a.unit.hasDts = true → a.sample.dts ≤ a.sample.pts →
    a.unit.dtsNs ≤ a.unit.ptsNs
  nonempty : ∀ a ∈ log, a.unit.bytes = a.sample.bytes ∧ a.sample.bytes ≠ []
  flagged : ∀ before a after, log = before ++ a :: after →
    (a.unit.discontinuity = true ↔ ∀ b ∈ before, b.pipeline ≠ a.pipeline)

/-! ## The extent, unit by unit -/

theorem timed_snoc (log : List Emitted) (a : Emitted) :
    timed (log ++ [a]) = timed log ++ if timeIsValid a.sample.pts then [a] else [] := by
  rw [timed, List.filter_append, timed]
  cases valid : timeIsValid a.sample.pts with
  | true => simp [valid]
  | false => simp [valid]

theorem extent_snoc (gap : Nat) (log : List Emitted) (a : Emitted) :
    extent gap (log ++ [a]) = extent gap log + (log.getLast?.elim 0 fun last => advance gap last a) := by
  induction log with
  | nil => rfl
  | cons b log ih =>
    cases log with
    | nil => simp [extent]
    | cons c log =>
      have tail : (b :: c :: log).getLast? = (c :: log).getLast? := by simp
      rw [List.cons_append, List.cons_append, extent, ← List.cons_append, ih, extent, tail]
      omega

theorem Within.init {gap : Nat} {log : List Emitted} {a : Emitted} (within : Within gap (log ++ [a])) :
    Within gap log := by
  have pts := within.pts
  have bound := within.extent
  rw [timed_snoc] at pts bound
  refine ⟨fun b member => pts b (List.mem_append_left _ member), ?_⟩
  cases valid : timeIsValid a.sample.pts with
  | false => simpa [valid] using bound
  | true =>
    rw [valid, if_pos rfl, extent_snoc] at bound
    omega

theorem RawIncreasing.init {log : List Emitted} {a : Emitted} (increasing : RawIncreasing (log ++ [a])) :
    RawIncreasing log := by
  rw [RawIncreasing, timed_snoc] at increasing
  exact (List.pairwise_append.1 increasing).1

/-! ## Frames and durations -/

theorem validFrame_positive {frame : EncoderFrame} (valid : validFrame frame = .ok ()) :
    0 < frame.width.toInt ∧ 0 < frame.height.toInt := by
  unfold validFrame at valid
  split at valid
  · cases valid
  · next refused =>
    simp only [not_or, Int32.not_le, Int32.lt_iff_toInt_lt] at refused
    exact ⟨refused.1, refused.2.1⟩

theorem macroblocks_positive {frame : EncoderFrame} (valid : validFrame frame = .ok ()) :
    1 ≤ macroblocks frame := by
  obtain ⟨wide, high⟩ := validFrame_positive valid
  have columns : 1 ≤ (frame.width.toInt + 15).tdiv 16 := by
    rw [Int.tdiv_eq_ediv_of_nonneg (by omega)]
    omega
  have rows : 1 ≤ (frame.height.toInt + 15).tdiv 16 := by
    rw [Int.tdiv_eq_ediv_of_nonneg (by omega)]
    omega
  exact one_le_mul_of_one_le_of_one_le columns rows

theorem validConfig_positive {config : H264EncoderConfig} (valid : validConfig config = .ok ()) :
    0 < config.fpsNum.toInt ∧ 0 < config.fpsDen.toInt := by
  unfold validConfig at valid
  split at valid
  · cases valid
  · next refused =>
    simp only [not_or, Int32.not_le, Int32.lt_iff_toInt_lt] at refused
    exact ⟨refused.2.2.1, refused.2.2.2⟩

/-- A frame rate that Level 3.1 supports leaves each frame a nanosecond. -/
theorem frameDuration_positive {frame : EncoderFrame} {config : H264EncoderConfig}
    (configured : validConfig config = .ok ()) (valid : validFrame frame = .ok ())
    (supported : level31Supports frame config = .ok ()) :
    1 ≤ (frameDurationNs config).toNat := by
  obtain ⟨num, den⟩ := validConfig_positive configured
  have blocks := macroblocks_positive valid
  have rate : macroblocks frame * config.fpsNum.toInt ≤ 108000 * config.fpsDen.toInt := by
    unfold level31Supports at supported
    split at supported
    · cases supported
    · next refused => omega
  have slow : config.fpsNum.toInt ≤ 108000 * config.fpsDen.toInt :=
    le_trans (le_mul_of_one_le_left num.le blocks) rate
  have small : config.fpsDen.toInt < 2 ^ 31 := Int32.toInt_lt _
  have quotient : 1 ≤ 1000000000 * config.fpsDen.toInt.toNat / config.fpsNum.toInt.toNat := by
    rw [Nat.one_le_div_iff (by omega)]
    omega
  have least : 1000000000 * config.fpsDen.toInt.toNat / config.fpsNum.toInt.toNat ≤
      1000000000 * config.fpsDen.toInt.toNat := Nat.div_le_self _ _
  rw [frameDurationNs, UInt64.toNat_ofNat', Nat.mod_eq_of_lt (by omega)]
  exact quotient

/-! ## Placing a unit -/

theorem toNat_max (a b : UInt64) : (max a b).toNat = max a.toNat b.toNat := by
  have choice : max a b = if a ≤ b then b else a := rfl
  rw [choice]
  by_cases order : a ≤ b
  · rw [if_pos order, max_eq_right (UInt64.le_iff_toNat_le.1 order)]
  · rw [if_neg order, max_eq_left]
    exact Nat.le_of_not_le fun other => order (UInt64.le_iff_toNat_le.2 other)

theorem anchor_raw {t : Timeline} (fresh : t.hasPipelineOutputOrigin = false)
    (duration pts : UInt64) : (t.anchor duration pts).pipelineRawPtsOriginNs = pts := by
  simp [Timeline.anchor, fresh]

theorem anchor_output {t : Timeline} (fresh : t.hasPipelineOutputOrigin = false)
    (duration pts : UInt64) : (t.anchor duration pts).pipelineOutputPtsOriginNs =
      if t.hasOutputPts then max pts (t.lastOutputPtsNs + duration) else pts := by
  simp [Timeline.anchor, fresh]

theorem anchor_later {t : Timeline} (anchored : t.hasPipelineOutputOrigin = true)
    (duration pts : UInt64) : t.anchor duration pts = t := by
  simp [Timeline.anchor, anchored]

/-- At or behind the raw origin, and short of the end of the clock, differences are kept. -/
theorem rebase_toNat {t : Timeline} {raw : UInt64} (behind : t.pipelineRawPtsOriginNs ≤ raw)
    (fits : t.pipelineOutputPtsOriginNs.toNat + (raw.toNat - t.pipelineRawPtsOriginNs.toNat) < 2 ^ 64) :
    (t.rebase raw).toNat =
      t.pipelineOutputPtsOriginNs.toNat + (raw.toNat - t.pipelineRawPtsOriginNs.toNat) := by
  rw [Timeline.rebase, if_pos behind, UInt64.toNat_add, UInt64.toNat_sub_of_le _ _ behind,
    Nat.mod_eq_of_lt fits]

/-- An earlier raw time is not moved behind a later one. -/
theorem rebase_mono {t : Timeline} {dts pts : UInt64} (behind : t.pipelineRawPtsOriginNs ≤ pts)
    (fits : t.pipelineOutputPtsOriginNs.toNat + (pts.toNat - t.pipelineRawPtsOriginNs.toNat) < 2 ^ 64)
    (order : dts ≤ pts) : t.rebase dts ≤ t.rebase pts := by
  rw [UInt64.le_iff_toNat_le] at order behind ⊢
  rw [rebase_toNat (UInt64.le_iff_toNat_le.2 behind) fits]
  by_cases early : t.pipelineRawPtsOriginNs ≤ dts
  · have early' := UInt64.le_iff_toNat_le.1 early
    rw [rebase_toNat early (by omega)]
    omega
  · -- Before the raw origin the time is at most the output origin, or cut to zero.
    rw [Timeline.rebase, if_neg early]
    by_cases room : t.pipelineOutputPtsOriginNs > t.pipelineRawPtsOriginNs - dts
    · rw [if_pos room, UInt64.toNat_sub_of_le _ _ (UInt64.le_of_lt room)]
      omega
    · simp [room]

/-! ## The invariant -/

/-- The origins stand for the timed units of the open pipeline. -/
structure Anchored (t : Timeline) (opened : Nat) (log : List Emitted) : Prop where
  first : t.hasPipelineOutputOrigin = true ↔ ∃ a ∈ timed log, a.pipeline = opened
  placed : ∀ a ∈ timed log, a.pipeline = opened → t.pipelineRawPtsOriginNs ≤ a.sample.pts ∧
    a.unit.ptsNs.toNat =
      t.pipelineOutputPtsOriginNs.toNat + (a.sample.pts.toNat - t.pipelineRawPtsOriginNs.toNat)

structure EncoderInv (config : H264EncoderConfig) (e : H264Encoder) : Prop where
  configured : e.config = config
  callback : e.callback ≠ none ∨ e.acceptingCallbacks = true → e.pipeline = true
  duration : e.pipeline = true → 1 ≤ (frameDurationNs config).toNat
  own : ∀ a ∈ e.emitted, a.pipeline ≤ e.opened
  ordered : e.emitted.Pairwise fun a b => a.pipeline ≤ b.pipeline
  flag : e.nextAccessUnitDiscontinuity = true ↔
    (e.pipeline = true → ∀ a ∈ e.emitted, a.pipeline ≠ e.opened)
  last : (timed e.emitted).getLast?.map (·.unit.ptsNs) =
    if e.timeline.hasOutputPts then some e.timeline.lastOutputPtsNs else none
  reach : e.timeline.hasOutputPts = true → e.timeline.lastOutputPtsNs.toNat <
    2 ^ 62 + extent (frameDurationNs config).toNat (timed e.emitted)
  anchored : e.pipeline = true → Anchored e.timeline e.opened e.emitted
  kept : TimelineKept e.emitted

/-- What the new end of the timeline is to satisfy. -/
structure Placed (e : H264Encoder) (t : Timeline) (pts : UInt64) (span : Nat) : Prop where
  behind : t.pipelineRawPtsOriginNs ≤ pts
  fits : t.pipelineOutputPtsOriginNs.toNat + (pts.toNat - t.pipelineRawPtsOriginNs.toNat) <
    2 ^ 62 + span
  later : e.timeline.hasOutputPts = true → e.timeline.lastOutputPtsNs.toNat <
    t.pipelineOutputPtsOriginNs.toNat + (pts.toNat - t.pipelineRawPtsOriginNs.toNat)
  placed : ∀ a ∈ timed e.emitted, a.pipeline = e.opened → t.pipelineRawPtsOriginNs ≤ a.sample.pts ∧
    a.unit.ptsNs.toNat =
      t.pipelineOutputPtsOriginNs.toNat + (a.sample.pts.toNat - t.pipelineRawPtsOriginNs.toNat)

namespace EncoderInv

variable {config : H264EncoderConfig} {e : H264Encoder} {a : Emitted}

theorem last_none (inv : EncoderInv config e) :
    e.timeline.hasOutputPts = false ↔ timed e.emitted = [] := by
  have last := inv.last
  cases has : e.timeline.hasOutputPts with
  | false => simpa [has] using last
  | true =>
    rw [has, if_pos rfl, Option.map_eq_some_iff] at last
    obtain ⟨b, found, -⟩ := last
    refine iff_of_false (by simp) fun empty => ?_
    simp [empty] at found

/-- A timed unit in front of the last output. -/
theorem last_some (inv : EncoderInv config e) (has : e.timeline.hasOutputPts = true) :
    ∃ b ∈ timed e.emitted, (timed e.emitted).getLast? = some b ∧
      b.unit.ptsNs = e.timeline.lastOutputPtsNs := by
  have last := inv.last
  rw [has, if_pos rfl, Option.map_eq_some_iff] at last
  obtain ⟨b, found, same⟩ := last
  exact ⟨b, List.mem_of_getLast? found, found, same⟩

theorem timed_sublist (log : List Emitted) : (timed log).Sublist log := List.filter_sublist

theorem pairwise_getLast {R : Emitted → Emitted → Prop} {log : List Emitted} {b l : Emitted}
    (ordered : log.Pairwise R) (found : log.getLast? = some l) (member : b ∈ log) : b = l ∨ R b l := by
  obtain ⟨init, rfl⟩ := List.getLast?_eq_some_iff.1 found
  obtain inside | here := List.mem_append.1 member
  · exact .inr ((List.pairwise_append.1 ordered).2.2 b inside l (by simp))
  · exact .inl (List.mem_singleton.1 here)

/-- The first timed unit of a pipeline goes a frame duration behind the last one, or later. -/
theorem placed_fresh (inv : EncoderInv config e) (isOpen : e.pipeline = true)
    (owned : a.pipeline = e.opened) (valid : timeIsValid a.sample.pts = true)
    (within : Within (frameDurationNs config).toNat (e.emitted ++ [a]))
    (fresh : e.timeline.hasPipelineOutputOrigin = false) :
    Placed e (e.timeline.anchor (frameDurationNs config) a.sample.pts) a.sample.pts
      (extent (frameDurationNs config).toNat (timed (e.emitted ++ [a]))) := by
  have raw := within.pts a (by simp [timed_snoc, valid])
  have span := within.extent
  have positive := inv.duration isOpen
  have others : ∀ b ∈ timed e.emitted, b.pipeline ≠ e.opened := by
    intro b member same
    have first := (inv.anchored isOpen).first.2 ⟨b, member, same⟩
    rw [fresh] at first
    cases first
  rw [timed_snoc, if_pos valid, extent_snoc] at span ⊢
  cases has : e.timeline.hasOutputPts with
  | false =>
    have output := anchor_output fresh (frameDurationNs config) a.sample.pts
    rw [has, if_neg (by simp)] at output
    refine ⟨?_, ?_, fun earlier => ?_, fun b member same => absurd same (others b member)⟩
    · rw [anchor_raw fresh]
      exact UInt64.le_refl _
    · rw [anchor_raw fresh, output]
      omega
    · rw [has] at earlier
      cases earlier
  | true =>
    obtain ⟨b, member, found, -⟩ := inv.last_some has
    have other : b.pipeline ≠ a.pipeline := owned ▸ others b member
    have reach := inv.reach has
    rw [found] at span ⊢
    simp only [Option.elim_some, advance, if_neg other] at span ⊢
    have sum : (e.timeline.lastOutputPtsNs + frameDurationNs config).toNat =
        e.timeline.lastOutputPtsNs.toNat + (frameDurationNs config).toNat := by
      rw [UInt64.toNat_add, Nat.mod_eq_of_lt (by omega)]
    have output := anchor_output fresh (frameDurationNs config) a.sample.pts
    rw [has, if_pos rfl] at output
    have greater := congrArg UInt64.toNat output
    rw [toNat_max, sum] at greater
    refine ⟨?_, ?_, fun _ => ?_, fun b member same => absurd same (others b member)⟩
    · rw [anchor_raw fresh]
      exact UInt64.le_refl _
    · rw [anchor_raw fresh, greater]
      omega
    · rw [anchor_raw fresh, greater]
      omega

/-- A later one keeps its distance to the last one. -/
theorem placed_anchored (inv : EncoderInv config e) (isOpen : e.pipeline = true)
    (owned : a.pipeline = e.opened) (valid : timeIsValid a.sample.pts = true)
    (increasing : RawIncreasing (e.emitted ++ [a]))
    (anchored : e.timeline.hasPipelineOutputOrigin = true) :
    Placed e e.timeline a.sample.pts
      (extent (frameDurationNs config).toNat (timed (e.emitted ++ [a]))) := by
  obtain ⟨b, member, same⟩ := (inv.anchored isOpen).first.1 anchored
  have has : e.timeline.hasOutputPts = true := by
    rw [← Bool.not_eq_false, inv.last_none]
    exact List.ne_nil_of_mem member
  obtain ⟨l, inside, found, ends⟩ := inv.last_some has
  have newest : l.pipeline = e.opened := by
    have order := pairwise_getLast (inv.ordered.sublist (timed_sublist _)) found member
    have own := inv.own l ((timed_sublist _).subset inside)
    obtain rfl | order := order
    · exact same
    · omega
  have reach := inv.reach has
  obtain ⟨behind, placed⟩ := (inv.anchored isOpen).placed l inside newest
  rw [RawIncreasing, timed_snoc, if_pos valid] at increasing
  have order := (List.pairwise_append.1 increasing).2.2 l inside a (by simp) (newest.trans owned.symm)
  rw [UInt64.lt_iff_toNat_lt] at order
  rw [UInt64.le_iff_toNat_le] at behind
  rw [← ends, placed] at reach
  rw [timed_snoc, if_pos valid, extent_snoc, found]
  simp only [Option.elim_some, advance, if_pos (newest.trans owned.symm)]
  refine ⟨UInt64.le_iff_toNat_le.2 (by omega), by omega, fun _ => ?_, (inv.anchored isOpen).placed⟩
  rw [← ends, placed]
  omega

end EncoderInv

/-! ## Capturing a sample -/

namespace TimelineKept

variable {log : List Emitted}

theorem filter_eq (kept : TimelineKept log) : log.filter (·.unit.hasPts) = timed log :=
  List.filter_congr kept.carried

/-- One more unit, behind all others. -/
theorem snoc (kept : TimelineKept log) {a : Emitted}
    (same : a.unit.hasPts = timeIsValid a.sample.pts)
    (later : a.unit.hasPts = true → ∀ b ∈ timed log, b.unit.ptsNs < a.unit.ptsNs)
    (distance : a.unit.hasPts = true → ∀ b ∈ timed log, b.pipeline = a.pipeline →
      a.unit.ptsNs.toNat + b.sample.pts.toNat = b.unit.ptsNs.toNat + a.sample.pts.toNat)
    (decoded : a.unit.hasPts = true → a.unit.hasDts = true → a.sample.dts ≤ a.sample.pts →
      a.unit.dtsNs ≤ a.unit.ptsNs)
    (whole : a.unit.bytes = a.sample.bytes ∧ a.sample.bytes ≠ [])
    (first : a.unit.discontinuity = true ↔ ∀ b ∈ log, b.pipeline ≠ a.pipeline) :
    TimelineKept (log ++ [a]) := by
  have timed_mem : ∀ {b}, b ∈ log → b.unit.hasPts = true → b ∈ timed log := by
    intro b member has
    rw [← kept.filter_eq]
    exact List.mem_filter.2 ⟨member, has⟩
  refine ⟨?_, ?_, ?_, ?_, ?_, ?_⟩
  · exact List.forall_mem_append.2 ⟨kept.carried, List.forall_mem_singleton.2 same⟩
  · rw [List.filter_append, List.map_append, List.pairwise_append]
    refine ⟨kept.increasing, ?_, ?_⟩
    · cases has : a.unit.hasPts <;> simp [has]
    · intro x before y new
      obtain ⟨b, inside, rfl⟩ := List.mem_map.1 before
      obtain ⟨c, here, rfl⟩ := List.mem_map.1 new
      obtain ⟨here, has⟩ := List.mem_filter.1 here
      rw [List.mem_singleton.1 here] at has ⊢
      exact later has b (kept.filter_eq ▸ inside)
  · intro b member c member' pipeline has has'
    obtain inside | here := List.mem_append.1 member
    · obtain inside' | here' := List.mem_append.1 member'
      · exact kept.differences b inside c inside' pipeline has has'
      · rw [List.mem_singleton.1 here'] at pipeline has' ⊢
        exact distance has' b (timed_mem inside has) pipeline
    · rw [List.mem_singleton.1 here] at pipeline has ⊢
      obtain inside' | here' := List.mem_append.1 member'
      · exact (distance has c (timed_mem inside' has') pipeline.symm).symm
      · rw [List.mem_singleton.1 here']
  · exact List.forall_mem_append.2 ⟨kept.decode, List.forall_mem_singleton.2 decoded⟩
  · exact List.forall_mem_append.2 ⟨kept.nonempty, List.forall_mem_singleton.2 whole⟩
  · intro before b after shape
    obtain rfl | ⟨after, c, rfl⟩ := after.eq_nil_or_concat
    · obtain ⟨rfl, here⟩ := List.append_inj' shape rfl
      obtain rfl := List.singleton_inj.1 here
      exact first
    · rw [List.concat_eq_append, ← List.cons_append, ← List.append_assoc] at shape
      exact kept.flagged before b after (List.append_inj_left' shape rfl)

end TimelineKept

namespace EncoderInv

variable {config : H264EncoderConfig} {e : H264Encoder}

theorem flag_first (inv : EncoderInv config e) (isOpen : e.pipeline = true) :
    e.nextAccessUnitDiscontinuity = true ↔ ∀ b ∈ e.emitted, b.pipeline ≠ e.opened := by
  rw [inv.flag]
  exact ⟨fun all => all isOpen, fun all _ => all⟩

/-- Every timed unit is at or in front of the last output. -/
theorem le_last (inv : EncoderInv config e) {b : Emitted} (member : b ∈ timed e.emitted) :
    e.timeline.hasOutputPts = true ∧
      b.unit.ptsNs.toNat ≤ e.timeline.lastOutputPtsNs.toNat := by
  have has : e.timeline.hasOutputPts = true := by
    rw [← Bool.not_eq_false, inv.last_none]
    exact List.ne_nil_of_mem member
  obtain ⟨l, -, found, ends⟩ := inv.last_some has
  have increasing := inv.kept.increasing
  rw [inv.kept.filter_eq, List.pairwise_map] at increasing
  refine ⟨has, ?_⟩
  rw [← ends]
  obtain rfl | order := pairwise_getLast increasing found member
  · exact Nat.le_refl _
  · exact Nat.le_of_lt (UInt64.lt_iff_toNat_lt.1 order)

/-- What any captured unit keeps, timed or not: it only has to find its place. -/
theorem emitted_by (inv : EncoderInv config e) (isOpen : e.pipeline = true) {a : Emitted} {t : Timeline}
    (owned : a.pipeline = e.opened)
    (last : (timed (e.emitted ++ [a])).getLast?.map (·.unit.ptsNs) =
      if t.hasOutputPts then some t.lastOutputPtsNs else none)
    (reach : t.hasOutputPts = true → t.lastOutputPtsNs.toNat <
      2 ^ 62 + extent (frameDurationNs config).toNat (timed (e.emitted ++ [a])))
    (anchored : Anchored t e.opened (e.emitted ++ [a])) (kept : TimelineKept (e.emitted ++ [a])) :
    EncoderInv config { e with
      timeline := t
      nextAccessUnitDiscontinuity := false
      emitted := e.emitted ++ [a] } := by
  refine ⟨inv.configured, inv.callback, inv.duration, ?_, ?_, ?_, last, reach, fun _ => anchored,
    kept⟩
  · intro b member
    obtain inside | here := List.mem_append.1 member
    · exact inv.own b inside
    · rw [List.mem_singleton.1 here, owned]
  · rw [List.pairwise_append]
    refine ⟨inv.ordered, by simp, fun b inside c here => ?_⟩
    rw [List.mem_singleton.1 here, owned]
    exact inv.own b inside
  · refine iff_of_false (by simp) fun none => ?_
    exact none isOpen a (by simp) owned

theorem capture_untimed (inv : EncoderInv config e) (isOpen : e.pipeline = true) {sample : Sample}
    (whole : sample.bytes ≠ []) (untimed : timeIsValid sample.pts = false) :
    EncoderInv config { e with
      timeline := e.timeline
      nextAccessUnitDiscontinuity := false
      emitted := e.emitted ++ [⟨e.opened, sample,
        { H264Encoder.rawUnit sample with discontinuity := e.nextAccessUnitDiscontinuity }⟩] } := by
  have same : timed (e.emitted ++ [⟨e.opened, sample,
      { H264Encoder.rawUnit sample with discontinuity := e.nextAccessUnitDiscontinuity }⟩]) =
      timed e.emitted := by
    rw [timed_snoc]
    simp [untimed]
  refine inv.emitted_by isOpen rfl (by rw [same]; exact inv.last) (by rw [same]; exact inv.reach) ?_ ?_
  · obtain ⟨first, placed⟩ := inv.anchored isOpen
    refine ⟨?_, ?_⟩
    · rw [same]
      exact first
    · rw [same]
      exact placed
  · have no_pts : (H264Encoder.rawUnit sample).hasPts ≠ true := by simp [H264Encoder.rawUnit, untimed]
    exact inv.kept.snoc rfl (fun has => absurd has no_pts) (fun has => absurd has no_pts)
      (fun has => absurd has no_pts) ⟨rfl, whole⟩ (inv.flag_first isOpen)

/-- The timed unit of a sample on the anchored timeline `t`. -/
def timedUnit (t : Timeline) (sample : Sample) (flag : Bool) : EncodedAccessUnit :=
  let unit := H264Encoder.rawUnit sample
  { unit with
    ptsNs := t.rebase unit.ptsNs
    dtsNs := if unit.hasDts then t.rebase unit.dtsNs else unit.dtsNs
    discontinuity := flag }

theorem timedUnit_pts (t : Timeline) {sample : Sample} (flag : Bool)
    (valid : timeIsValid sample.pts = true) :
    (timedUnit t sample flag).ptsNs = t.rebase sample.pts := by
  simp [timedUnit, H264Encoder.rawUnit, valid]

theorem capture_timed (inv : EncoderInv config e) (isOpen : e.pipeline = true) {sample : Sample}
    {t : Timeline} (whole : sample.bytes ≠ []) (valid : timeIsValid sample.pts = true)
    (within : Within (frameDurationNs config).toNat (e.emitted ++
      [⟨e.opened, sample, timedUnit t sample e.nextAccessUnitDiscontinuity⟩]))
    (origin : t.hasPipelineOutputOrigin = true)
    (found : Placed e t sample.pts (extent (frameDurationNs config).toNat (timed (e.emitted ++
      [⟨e.opened, sample, timedUnit t sample e.nextAccessUnitDiscontinuity⟩])))) :
    EncoderInv config { e with
      timeline := { t with lastOutputPtsNs := t.rebase sample.pts, hasOutputPts := true }
      nextAccessUnitDiscontinuity := false
      emitted := e.emitted ++
        [⟨e.opened, sample, timedUnit t sample e.nextAccessUnitDiscontinuity⟩] } := by
  have span := within.extent
  have fits := found.fits
  have small : t.pipelineOutputPtsOriginNs.toNat +
      (sample.pts.toNat - t.pipelineRawPtsOriginNs.toNat) < 2 ^ 64 := by omega
  have placed := rebase_toNat found.behind small
  have pts := timedUnit_pts t e.nextAccessUnitDiscontinuity valid
  have more := timed_snoc e.emitted ⟨e.opened, sample, timedUnit t sample e.nextAccessUnitDiscontinuity⟩
  rw [if_pos valid] at more
  refine inv.emitted_by isOpen rfl ?_ ?_ ?_ ?_
  · rw [more, List.getLast?_concat]
    simp [pts]
  · intro _
    rw [placed]
    exact fits
  · refine ⟨iff_of_true origin ⟨_, more ▸ List.mem_append_right _ (List.mem_singleton_self _), rfl⟩,
      fun b member owned => ?_⟩
    rw [more] at member
    obtain inside | here := List.mem_append.1 member
    · exact found.placed b inside owned
    · rw [List.mem_singleton.1 here, pts, placed]
      exact ⟨found.behind, rfl⟩
  · refine inv.kept.snoc rfl (fun _ b member => ?_) (fun _ b member owned => ?_) (fun _ has order => ?_)
      ⟨rfl, whole⟩ (inv.flag_first isOpen)
    · obtain ⟨has, before⟩ := inv.le_last member
      rw [pts, UInt64.lt_iff_toNat_lt, placed]
      exact Nat.lt_of_le_of_lt before (found.later has)
    · obtain ⟨behind, there⟩ := found.placed b member owned
      have from_origin := UInt64.le_iff_toNat_le.1 behind
      have from_origin' := UInt64.le_iff_toNat_le.1 found.behind
      rw [pts, placed, there]
      simp only
      omega
    · have dts : (timedUnit t sample e.nextAccessUnitDiscontinuity).dtsNs = t.rebase sample.dts := by
        have valid_dts : timeIsValid sample.dts = true := has
        simp [timedUnit, H264Encoder.rawUnit, valid_dts]
      rw [pts, dts]
      exact rebase_mono found.behind small order

theorem capture (inv : EncoderInv config e) (isOpen : e.pipeline = true) (sample : Sample)
    (increasing : RawIncreasing (e.captureSample sample).emitted)
    (within : Within (frameDurationNs config).toNat (e.captureSample sample).emitted) :
    EncoderInv config (e.captureSample sample) := by
  unfold H264Encoder.captureSample at increasing within ⊢
  by_cases skipped : sample.buffer = false ∨ sample.bytes = []
  · rw [if_pos skipped]
    exact inv
  · rw [if_neg skipped] at increasing within ⊢
    have whole : sample.bytes ≠ [] := fun empty => skipped (.inr empty)
    cases valid : timeIsValid sample.pts with
    | false =>
      have unplaced : e.place (H264Encoder.rawUnit sample) =
          (H264Encoder.rawUnit sample, e.timeline) := by
        simp [H264Encoder.place, H264Encoder.rawUnit, valid]
      rw [unplaced]
      exact inv.capture_untimed isOpen whole valid
    | true =>
      generalize anchor : e.timeline.anchor (frameDurationNs config) sample.pts = t
      have units : { (e.place (H264Encoder.rawUnit sample)).1 with
          discontinuity := e.nextAccessUnitDiscontinuity } =
          timedUnit t sample e.nextAccessUnitDiscontinuity := by
        simp [H264Encoder.place, H264Encoder.rawUnit, valid, timedUnit, inv.configured, anchor]
      have moved : (e.place (H264Encoder.rawUnit sample)).2 =
          { t with lastOutputPtsNs := t.rebase sample.pts, hasOutputPts := true } := by
        simp [H264Encoder.place, H264Encoder.rawUnit, valid, inv.configured, anchor]
      simp only [units, moved] at increasing within ⊢
      cases origin : e.timeline.hasPipelineOutputOrigin with
      | false =>
        have anchored : t.hasPipelineOutputOrigin = true := by
          simp [← anchor, Timeline.anchor, origin]
        refine inv.capture_timed isOpen whole valid within anchored ?_
        rw [← anchor] at within ⊢
        exact inv.placed_fresh isOpen rfl valid within origin
      | true =>
        rw [anchor_later origin] at anchor
        subst anchor
        exact inv.capture_timed isOpen whole valid within origin
          (inv.placed_anchored isOpen rfl valid increasing origin)

end EncoderInv

/-! ## Whole runs -/

theorem captureSample_emitted (e : H264Encoder) (sample : Sample) :
    (e.captureSample sample).emitted = e.emitted ∨
      ∃ a, (e.captureSample sample).emitted = e.emitted ++ [a] := by
  unfold H264Encoder.captureSample
  split
  · exact .inl rfl
  · exact .inr ⟨_, rfl⟩

theorem captureSample_pipeline (e : H264Encoder) (sample : Sample) :
    (e.captureSample sample).pipeline = e.pipeline := by
  unfold H264Encoder.captureSample
  split <;> rfl

/-- Everything a move can do. -/
theorem step_cases {e e' : H264Encoder} {move : H264Encoder.Move} (moved : e.step move = some e') :
    (∃ frame outcome, e.pipeline = false ∧ validFrame frame = .ok () ∧
      e' = e.openPipeline frame outcome) ∨
    (∃ sample, e.acceptingCallbacks = true ∧ e' = { e with callback := some sample }) ∨
    (∃ sample, e.callback = some sample ∧ e' = { e.captureSample sample with callback := none }) ∨
    (e.pipeline = true ∧ e' = { e with acceptingCallbacks := false }) ∨
    (e.callback = none ∧ e' = e.closePipeline) := by
  cases move with
  | openPipeline frame outcome =>
    obtain ⟨⟨closed, valid⟩, same⟩ := Option.ite_none_right_eq_some.1 moved
    exact .inl ⟨frame, outcome, closed, valid, (Option.some.inj same).symm⟩
  | beginCallback sample =>
    obtain ⟨⟨accepting, -⟩, same⟩ := Option.ite_none_right_eq_some.1 moved
    exact .inr (.inl ⟨sample, accepting, (Option.some.inj same).symm⟩)
  | capture =>
    obtain ⟨sample, pending, same⟩ := Option.map_eq_some_iff.1 moved
    exact .inr (.inr (.inl ⟨sample, pending, same.symm⟩))
  | refuseCallbacks =>
    obtain ⟨isOpen, same⟩ := Option.ite_none_right_eq_some.1 moved
    exact .inr (.inr (.inr (.inl ⟨isOpen, (Option.some.inj same).symm⟩)))
  | closed =>
    obtain ⟨⟨-, -, waited⟩, same⟩ := Option.ite_none_right_eq_some.1 moved
    exact .inr (.inr (.inr (.inr ⟨waited, (Option.some.inj same).symm⟩)))

theorem openPipeline_cases (e : H264Encoder) (frame : EncoderFrame) (outcome : H264Encoder.OpenOutcome) :
    e.openPipeline frame outcome = e ∨ e.openPipeline frame outcome = e.closePipeline ∨
    (level31Supports frame e.config = .ok () ∧
      e.openPipeline frame outcome =
        { e with
          pipeline := true
          acceptingCallbacks := true
          width := frame.width
          height := frame.height
          timeline := { e.timeline with hasPipelineOutputOrigin := false }
          opened := e.opened + 1 }) := by
  unfold H264Encoder.openPipeline
  cases supported : level31Supports frame e.config with
  | error message => exact .inl rfl
  | ok _ =>
    cases outcome with
    | notCreated => exact .inl rfl
    | notLinked => exact .inr (.inl rfl)
    | linked => exact .inr (.inr ⟨rfl, rfl⟩)

/-- The log only grows at its end. -/
theorem step_emitted {e e' : H264Encoder} {move : H264Encoder.Move} (moved : e.step move = some e') :
    e'.emitted = e.emitted ∨ ∃ a, e'.emitted = e.emitted ++ [a] := by
  obtain ⟨frame, outcome, -, -, rfl⟩ | ⟨sample, -, rfl⟩ | ⟨sample, -, rfl⟩ | ⟨-, rfl⟩ | ⟨-, rfl⟩ :=
    step_cases moved
  · obtain same | same | ⟨-, same⟩ := openPipeline_cases e frame outcome
    · exact .inl (by rw [same])
    · exact .inl (by rw [same]; rfl)
    · exact .inl (by rw [same])
  · exact .inl rfl
  · exact captureSample_emitted e sample
  · exact .inl rfl
  · exact .inl rfl

namespace EncoderInv

variable {config : H264EncoderConfig} {e e' : H264Encoder}

theorem close (inv : EncoderInv config e) (waited : e.callback = none) :
    EncoderInv config e.closePipeline := by
  refine ⟨inv.configured, ?_, fun isOpen => ?_, inv.own, inv.ordered, ?_, inv.last, inv.reach,
    fun isOpen => ?_, inv.kept⟩
  · rintro (pending | accepting)
    · exact absurd waited pending
    · cases accepting
  · cases isOpen
  · refine iff_of_true rfl fun isOpen => ?_
    cases isOpen
  · cases isOpen

/-- A new pipeline has emitted nothing, and the flag is up from the last close. -/
theorem opened (inv : EncoderInv config e) (closed : e.pipeline = false) (width height : Int32)
    (positive : 1 ≤ (frameDurationNs config).toNat) :
    EncoderInv config { e with
      pipeline := true
      acceptingCallbacks := true
      width := width
      height := height
      timeline := { e.timeline with hasPipelineOutputOrigin := false }
      opened := e.opened + 1 } := by
  have older : ∀ a ∈ e.emitted, a.pipeline ≠ e.opened + 1 := fun a member => by
    have := inv.own a member
    omega
  refine ⟨inv.configured, fun _ => rfl, fun _ => positive, fun a member => ?_, inv.ordered, ?_,
    inv.last, inv.reach, fun _ => ⟨?_, ?_⟩, inv.kept⟩
  · exact Nat.le_succ_of_le (inv.own a member)
  · refine iff_of_true (inv.flag.2 fun isOpen => ?_) fun _ => older
    rw [closed] at isOpen
    cases isOpen
  · refine iff_of_false (by simp) ?_
    rintro ⟨a, member, same⟩
    exact older a ((timed_sublist _).subset member) same
  · exact fun a member same => absurd same (older a ((timed_sublist _).subset member))

/-- **One step keeps the invariant.** -/
theorem step {move : H264Encoder.Move} (configured : validConfig config = .ok ())
    (inv : EncoderInv config e) (moved : e.step move = some e')
    (increasing : RawIncreasing e'.emitted)
    (within : Within (frameDurationNs config).toNat e'.emitted) : EncoderInv config e' := by
  obtain ⟨frame, outcome, closed, valid, rfl⟩ | ⟨sample, accepting, rfl⟩ | ⟨sample, pending, rfl⟩ |
    ⟨isOpen, rfl⟩ | ⟨waited, rfl⟩ := step_cases moved
  · have waited : e.callback = none := by
      by_contra pending
      rw [inv.callback (.inl pending)] at closed
      cases closed
    obtain same | same | ⟨supported, same⟩ := openPipeline_cases e frame outcome
    · rw [same]
      exact inv
    · rw [same]
      exact inv.close waited
    · rw [same]
      rw [inv.configured] at supported
      exact inv.opened closed _ _ (frameDuration_positive configured valid supported)
  · have isOpen := inv.callback (.inr accepting)
    exact ⟨inv.configured, fun _ => isOpen, inv.duration, inv.own, inv.ordered, inv.flag, inv.last,
      inv.reach, inv.anchored, inv.kept⟩
  · have isOpen : e.pipeline = true := inv.callback (.inl (by rw [pending]; simp))
    have captured := inv.capture isOpen sample increasing within
    refine ⟨captured.configured, fun _ => ?_, captured.duration, captured.own, captured.ordered,
      captured.flag, captured.last, captured.reach, captured.anchored, captured.kept⟩
    exact (captureSample_pipeline e sample).trans isOpen
  · exact ⟨inv.configured, fun _ => isOpen, inv.duration, inv.own, inv.ordered, inv.flag, inv.last,
      inv.reach, inv.anchored, inv.kept⟩
  · exact inv.close waited

theorem start (config : H264EncoderConfig) : EncoderInv config { config } where
  configured := rfl
  callback := by simp
  duration := by simp
  own := by simp
  ordered := by simp
  flag := by simp
  last := rfl
  reach := by simp
  anchored := by simp
  kept := ⟨by simp, by simp, by simp, by simp, by simp, by simp⟩

end EncoderInv

theorem start_ok {config : H264EncoderConfig} {e : H264Encoder}
    (started : H264Encoder.start config = .ok e) : validConfig config = .ok () ∧ e = { config } := by
  unfold H264Encoder.start at started
  cases valid : validConfig config with
  | error message =>
    rw [valid] at started
    cases started
  | ok _ =>
    rw [valid] at started
    exact ⟨rfl, (Except.ok.inj started).symm⟩

/-- **Over a whole run the emitted PTS increase, each pipeline keeps its raw differences, a DTS stays
in front of its PTS, and the first unit of a pipeline is the one marked as a discontinuity**, as long
as the stream's extent, with a frame duration for each rebuild, stays below `2 ^ 62`. -/
theorem encoder_timeline {config : H264EncoderConfig} {e₀ e : H264Encoder}
    (started : H264Encoder.start config = .ok e₀) (run : Runs H264Encoder.step Free e₀ e)
    (increasing : RawIncreasing e.emitted)
    (within : Within (frameDurationNs config).toNat e.emitted) : TimelineKept e.emitted := by
  obtain ⟨configured, rfl⟩ := start_ok started
  have inv : RawIncreasing e.emitted → Within (frameDurationNs config).toNat e.emitted →
      EncoderInv config e := by
    refine @Runs.invariant _ _ _ _ _ _ (fun e => RawIncreasing e.emitted →
      Within (frameDurationNs config).toNat e.emitted → EncoderInv config e) run
      (fun _ _ => .start config) ?_
    intro e move e' earlier _ moved increasing within
    obtain same | ⟨a, more⟩ := step_emitted moved
    · exact (earlier (same ▸ increasing) (same ▸ within)).step configured moved increasing within
    · have inv := earlier (RawIncreasing.init (more ▸ increasing)) (Within.init (more ▸ within))
      exact inv.step configured moved increasing within
  exact (inv increasing within).kept

/-- A pipeline opened for a VGA frame, captured from and closed. -/
def cycle (samples : List Sample) : List H264Encoder.Move :=
  [.openPipeline ⟨640, 480, 1920, 921600⟩ .linked] ++
    samples.flatMap (fun sample => [.beginCallback sample, .capture]) ++ [.refuseCallbacks, .closed]

def sampleAt (pts : UInt64) (bytes : List UInt8) : Sample :=
  ⟨true, 0, pts, pts, false, bytes⟩

/-- Two pipelines whose raw clocks both start at zero; the second begins with an empty sample. -/
theorem encoder_timeline_rebuilt : ∃ e, Runs H264Encoder.step Free { config := {} } e ∧
    e.emitted.map (fun a => (a.unit.ptsNs, a.unit.discontinuity)) =
      [(0, true), (40000000, false), (73333333, true)] ∧ TimelineKept e.emitted := by
  have reached : ∃ e, Runs H264Encoder.step Free { config := {} } e ∧
      (e.emitted.map fun a => (a.unit.ptsNs, a.unit.discontinuity)) =
        [(0, true), (40000000, false), (73333333, true)] ∧
      RawIncreasing e.emitted ∧ Within (frameDurationNs {}).toNat e.emitted := by
    apply Runs.exists_of_play
      (cycle [sampleAt 0 [1], sampleAt 40000000 [2]] ++ cycle [sampleAt 0 [], sampleAt 0 [3]])
    · decide +kernel
    · exact Meets.free _ _
  obtain ⟨e, run, ends, increasing, within⟩ := reached
  exact ⟨e, run, ends, encoder_timeline rfl run increasing within⟩

/-- At a frame per `2 ^ 31 - 1` seconds ten pipelines of one unit each carry the timeline past the end
of the 64-bit clock, although every raw PTS is zero. -/
theorem encoder_timeline_wraps : ∃ e₀ e,
    H264Encoder.start { fpsNum := 1, fpsDen := 2147483647 } = .ok e₀ ∧
    Runs H264Encoder.step Free e₀ e ∧ RawIncreasing e.emitted ∧ Within 0 e.emitted ∧
    ¬TimelineKept e.emitted := by
  have reached : ∃ e, Runs H264Encoder.step Free
      { config := { fpsNum := 1, fpsDen := 2147483647 } } e ∧
      RawIncreasing e.emitted ∧ Within 0 e.emitted ∧
      ¬((e.emitted.filter (·.unit.hasPts)).map (·.unit.ptsNs)).Pairwise (· < ·) := by
    apply Runs.exists_of_play ((List.replicate 10 (cycle [sampleAt 0 [1]])).flatten)
    · decide +kernel
    · exact Meets.free _ _
  obtain ⟨e, run, increasing, within, wrapped⟩ := reached
  exact ⟨_, e, rfl, run, increasing, within, fun kept => wrapped kept.increasing⟩

end SkaiEdge.Video
