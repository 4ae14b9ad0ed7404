import SkaiEdge.Lib.Runs
import SkaiEdge.Config.RtspUrl
import SkaiEdge.Core.BoundedQueue
import SkaiEdge.Video.EncodedAccessUnit
import SkaiEdge.Video.RtspMetrics

/-!
# `RtspSource` (`src/video/rtsp_source.cpp`)

The worker that runs `capture_loop`, the threads of GStreamer in the signal handlers and the
callers of `start` and `stop`. Each `Action` is one access to something shared with the local
code around it; what GStreamer answers comes with the action. Elements are named by numbers, a
pipeline by how many were created before it; `sink_`, `encoded_sink_` and `rtsp_element_`
are borrowed, so a pointer is the pipeline that owns the element behind it.

Ghost are `callbacks`, the positions of the threads that `begin_callback` let in, `references`,
what was referenced and not yet given back, `fault`, which is set by an access through a pointer
whose element is gone, and in `Media` the stamps of what was captured and the lists of it.
-/

namespace SkaiEdge.Video.RtspSource

open SkaiEdge.Lib SkaiEdge.Core SkaiEdge.Config

structure Frame where
  sequence : UInt64 := 0
  timestamp : Int := 0
  ptsNs : UInt64 := 0
  sourceGeneration : UInt64 := 0
  width : Int := 0
  height : Int := 0
  stride : Int := 0
  bgr : List UInt8 := []
  deriving DecidableEq, Repr

inductive DecodeMode where
  | auto
  | software
  deriving DecidableEq, Repr

/-- The arguments of the constructor: which of the optional outputs there are. -/
structure Setup where
  decodeMode : DecodeMode := .auto
  enqueueFrames : Bool := true
  status : Bool := true
  encodedAccessUnits : Bool := true
  accessUnitSink : Bool := true
  deriving DecidableEq, Repr

inductive Codec where
  | h264
  | h265
  deriving DecidableEq, Repr

def Codec.name : Codec → String
  | .h264 => "H264"
  | .h265 => "H265"

/-- `elements_for`: the software decoder. -/
def Codec.softwareDecoder : Codec → String
  | .h264 => "avdec_h264"
  | .h265 => "avdec_h265"

/-- The first structure of a pad's caps. -/
structure PadCaps where
  name : String
  encoding : Option String
  deriving DecidableEq, Repr

/-- `video_rtp`; `none` also where there are no caps. -/
def videoRtp (caps : Option PadCaps) : Option Codec :=
  caps.bind fun caps =>
    if caps.name ≠ "application/x-rtp" then none
    else if caps.encoding = some "H264" then some .h264
    else if caps.encoding = some "H265" then some .h265
    else none

/-- What GStreamer answers `connect_rtp_pad`: the plugins there are, whether each element could be
made, and the links. -/
structure Chain where
  plugins : List String := []
  made : Bool := true
  linked : Bool := true
  padLinked : Bool := true
  deriving DecidableEq, Repr

def decoderName (mode : DecodeMode) (plugins : List String) (codec : Codec) : String :=
  if mode = .auto ∧ "nvv4l2decoder" ∈ plugins ∧
      ("nvvidconv" ∈ plugins ∨ "nvvideoconvert" ∈ plugins) then "nvv4l2decoder"
  else codec.softwareDecoder

/-- A signal of GStreamer, with the element or the caps it is about. -/
inductive Signal where
  | padAdded (caps : Option PadCaps)
  | newManager (manager : Nat)
  | newJitterbuffer (jitterbuffer : Nat)
  deriving DecidableEq, Repr

/-- Where a thread stands that `begin_callback` let in. -/
inductive Callback where
  | padAdded (codec : Option Codec)
  | connecting (codec : Codec)
  | storing (codec : Codec) (owner : Nat) (encoded : Bool) (decoder : String)
  | storingEncoded (codec : Codec) (owner : Nat) (encoded : Bool) (decoder : String)
  | noting (codec : Codec) (owner : Nat) (decoder : String)
  | declaring (owner : Nat)
  | syncing (owner : Nat)
  | newManager (manager : Nat)
  | newJitterbuffer (jitterbuffer : Nat)
  | failing (error : String)
  | leaving
  deriving DecidableEq, Repr

def Signal.callback : Signal → Callback
  | .padAdded caps => .padAdded (videoRtp caps)
  | .newManager manager => .newManager manager
  | .newJitterbuffer jitterbuffer => .newJitterbuffer jitterbuffer

/-- The pipeline and everything that points into it. -/
structure Links where
  pipeline : Option Nat := none
  rtspElement : Option Nat := none
  sink : Option Nat := none
  encodedSink : Option Nat := none
  acceptingCallbacks : Bool := false
  callbacksInFlight : Nat := 0
  managers : List Nat := []
  jitterbuffer : Option Nat := none
  callbacks : List Callback := []
  created : Nat := 0
  references : List Nat := []
  fault : Bool := false
  deriving DecidableEq, Repr

namespace Links

/-- An access to an element of the pipeline `owner`. -/
def touch (l : Links) (owner : Nat) : Links := { l with fault := l.fault || l.pipeline ≠ some owner }

/-- An access through `pipeline_`. -/
def touchPipeline (l : Links) : Links := { l with fault := l.fault || l.pipeline.isNone }

/-- `gst_object_unref`. -/
def unref (l : Links) (element : Nat) : Links :=
  { l with references := l.references.erase element, fault := l.fault || element ∉ l.references }

/-- `begin_callback`. -/
def beginCallback (l : Links) (signal : Signal) : Links :=
  if l.acceptingCallbacks then
    { l with
      callbacksInFlight := l.callbacksInFlight + 1
      callbacks := l.callbacks ++ [signal.callback] }
  else l

/-- `end_callback` of the thread `i`. -/
def endCallback (l : Links) (i : Nat) : Links :=
  { l with
    callbacksInFlight := l.callbacksInFlight - 1
    callbacks := l.callbacks.eraseIdx i }

def moveCallback (l : Links) (i : Nat) (callback : Callback) : Links :=
  { l with callbacks := l.callbacks.set i callback }

def addManager (l : Links) (manager : Nat) : Links :=
  { l with managers := l.managers ++ [manager], references := l.references ++ [manager] }

/-- The old jitterbuffer is given back before the new one is referenced. -/
def replaceJitterbuffer (l : Links) (jitterbuffer : Nat) : Links :=
  let l := l.jitterbuffer.elim l l.unref
  { l with jitterbuffer := some jitterbuffer, references := l.references ++ [jitterbuffer] }

/-- `managers_` swapped into a local vector, each disconnected and given back. -/
def releaseManagers (l : Links) : Links :=
  l.managers.foldl unref { l with managers := [] }

def releaseJitterbuffer (l : Links) : Links :=
  { l.jitterbuffer.elim l l.unref with jitterbuffer := none }

def clear (l : Links) : Links :=
  { l with sink := none, encodedSink := none, rtspElement := none, pipeline := none }

end Links

/-- A captured value: the call of `start`, the opening of a pipeline and the number it was given
since that call. -/
structure Captured (α : Type) where
  session : Nat
  opened : Nat
  number : Nat
  value : α
  deriving DecidableEq, Repr

structure Media where
  frames : BoundedQueue (Captured Frame)
  units : BoundedQueue (Captured EncodedAccessUnit)
  accessUnitSequence : UInt64 := 0
  firstAccessUnit : Bool := true
  pipelineGeneration : UInt64 := 0
  session : Nat := 0
  opened : Nat := 0
  frameCount : Nat := 0
  unitCount : Nat := 0
  capturedFrames : List (Captured Frame) := []
  capturedUnits : List (Captured EncodedAccessUnit) := []
  readFrames : List (Captured Frame) := []
  readUnits : List (Captured EncodedAccessUnit) := []

/-- Where `close_pipeline` stands. -/
inductive Closing where
  | refusing
  | draining
  | managers
  | jitterbuffer
  | clearing
  deriving DecidableEq, Repr

/-- Who called `close_pipeline`. -/
inductive Caller where
  | openPipeline (error : String)
  | attempt (error : String)
  | leaving
  deriving DecidableEq, Repr

/-- The local variables of an attempt. -/
structure Attempt where
  started : Int
  receivedFrame : Bool := false
  sink : Option Nat := none
  encodedSink : Option Nat := none
  deriving DecidableEq, Repr

/-- Where the worker stands. -/
inductive Worker where
  | absent
  | top (initialAttempt : Bool)
  | clearing
  | publishing
  | opening
  | announcing
  | creating
  | accepting
  | starting
  | watching (a : Attempt)
  | polling (a : Attempt)
  | loading (a : Attempt)
  | loadingEncoded (a : Attempt)
  | units (a : Attempt)
  | frame (a : Attempt)
  | moreUnits (a : Attempt)
  | stats (a : Attempt)
  | checking (a : Attempt) (now : Int)
  | stalled
  | closing (at' : Closing) (caller : Caller)
  | openFailed (error : String)
  | ended (error : String)
  | discarding (error : String)
  | discardingUnits (error : String)
  | reporting (error : String)
  | failing
  | stopping
  | exiting
  | finished
  deriving DecidableEq, Repr

/-- Where the worker goes on behind `close_pipeline`. -/
def Caller.next : Caller → Worker
  | .openPipeline error => .openFailed error
  | .attempt error => .ended error
  | .leaving => .stopping

structure State where
  setup : Setup
  config : VideoConfig := {}
  running : Bool := false
  worker : Worker := .absent
  recovery : RtspRecovery := ⟨0, 0, 0, .stopped, none, none, 0, 0, 0⟩
  links : Links := {}
  media : Media
  diagnostics : RtspDiagnostics := {}
  lastFrameTime : Option Int := none
  ingestRate : IngestRate := {}
  pipelinePacketsLost : MonotonicCounter := {}
  pipelinePacketsLate : MonotonicCounter := {}
  /-- The last `update_video` since a `clear_video`. -/
  videoFps : Option ℚ := none
  /-- The last status, and the calls of the sink in the order of the sections that decide on them. -/
  mediaStatus : Option (Bool × String) := none
  mediaCalls : List (Bool × String) := []
  /-- The messages of `set_error`. -/
  errors : List String := []
  /-- The readings of `num-lost` since `start`, cut where the counters were reset. -/
  lossReadings : List (List UInt64) := [[]]

namespace State

/-- Called only where the status is shared with `status_`. -/
def updateVideo (s : State) (fps : ℚ) : State :=
  if s.setup.status ∧ fps > 0 then { s with videoFps := some fps } else s

def publishMediaStatus (s : State) (available : Bool) (reason : String) : State :=
  if s.mediaStatus = some (available, reason) then s
  else
    { s with
      mediaStatus := some (available, reason)
      mediaCalls := s.mediaCalls ++ [(available, reason)] }

def setError (s : State) (error : String) : State :=
  { s with
    diagnostics := { s.diagnostics with health := .error, lastError := error }
    videoFps := if s.setup.status then none else s.videoFps
    errors := s.errors ++ [error] }

def publishRecovery (s : State) : State :=
  let health := s.recovery.health
  { s with
    diagnostics :=
      { s.diagnostics with
        health := health
        reconnectCount := s.recovery.reconnectCount
        lastError := if health = .connected then "" else s.diagnostics.lastError }
    videoFps := if s.setup.status ∧ health.live = false then none else s.videoFps }

end State

/-! ## Samples -/

/-- The profile and level of a sample's caps; `none` where there are no caps. -/
abbrev H264Caps := Option (Option String × Option String)

def supportedLevels : List String :=
  ["1", "1b", "1.1", "1.2", "1.3", "2", "2.1", "2.2", "3", "3.1"]

/-- `browser_compatible_h264_caps`: the reason against the caps. -/
def incompatibility : H264Caps → Option String
  | none => some "source H.264 caps are unavailable"
  | some (profile, level) =>
    if profile ≠ some "constrained-baseline" then
      some "source H.264 must use constrained-baseline profile"
    else
      match level with
      | none => some "source H.264 level is unavailable"
      | some level =>
        if supportedLevels.contains level then none
        else some "source H.264 must use level 3.1 or lower"

/-- A compressed sample; `bytes` is `none` where the buffer is missing or could not be mapped. -/
structure EncodedSample where
  caps : H264Caps
  pts : Option UInt64 := none
  dts : Option UInt64 := none
  deltaUnit : Bool := false
  discont : Bool := false
  bytes : Option (List UInt8)
  /-- What the sink or the queue throws. -/
  thrown : Option String := none
  deriving DecidableEq, Repr

/-- A decoded sample that could be mapped. -/
structure RawSample where
  width : Int
  height : Int
  stride : Int
  fpsNum : Int := 0
  fpsDen : Int := 1
  pts : Option UInt64 := none
  pixels : List UInt8
  deriving DecidableEq, Repr

/-- `capture_sample` takes no other samples. -/
def RawSample.usable (sample : RawSample) : Bool :=
  decide (0 < sample.width) && decide (0 < sample.height) && decide (sample.width * 3 ≤ sample.stride)

/-- The rows of the picture without their padding. -/
def packRows (width height stride : Nat) (pixels : List UInt8) : List UInt8 :=
  (List.range height).flatMap fun row => (pixels.drop (row * stride)).take (width * 3)

def unitOf (m : Media) (sample : EncodedSample) (bytes : List UInt8) : EncodedAccessUnit where
  sequence := m.accessUnitSequence + 1
  hasPts := sample.pts.isSome
  ptsNs := sample.pts.getD 0
  hasDts := sample.dts.isSome
  dtsNs := sample.dts.getD 0
  keyframe := !sample.deltaUnit
  discontinuity := m.firstAccessUnit || sample.discont
  sourceGeneration := m.pipelineGeneration
  bytes := bytes

def frameOf (setup : Setup) (received : UInt64) (m : Media) (sample : RawSample) (now : Int) :
    Frame where
  sequence := received + 1
  timestamp := now
  ptsNs := sample.pts.getD 0
  sourceGeneration := m.pipelineGeneration
  width := sample.width
  height := sample.height
  stride := sample.width * 3
  bgr := if setup.enqueueFrames then
    packRows sample.width.toNat sample.height.toNat sample.stride.toNat sample.pixels else []

namespace Media

/-- Stamps for the next unit and the next frame. -/
def stampUnit (m : Media) (unit : EncodedAccessUnit) : Captured EncodedAccessUnit :=
  ⟨m.session, m.opened, m.unitCount + 1, unit⟩

def stampFrame (m : Media) (frame : Frame) : Captured Frame :=
  ⟨m.session, m.opened, m.frameCount + 1, frame⟩

/-- A unit that reached the sink and the queue. -/
def publishUnit (m : Media) (queued : Bool) (unit : EncodedAccessUnit) : Media :=
  { m with
    accessUnitSequence := m.accessUnitSequence + 1
    unitCount := m.unitCount + 1
    units := if queued then (m.units.push (m.stampUnit unit)).1 else m.units
    capturedUnits := m.capturedUnits ++ [m.stampUnit unit]
    firstAccessUnit := false }

/-- A unit whose number is lost: it was empty, or a sink threw. -/
def skipUnit (m : Media) : Media :=
  { m with accessUnitSequence := m.accessUnitSequence + 1, unitCount := m.unitCount + 1 }

def publishFrame (m : Media) (queued : Bool) (frame : Frame) : Media :=
  { m with
    frameCount := m.frameCount + 1
    frames := if queued then (m.frames.push (m.stampFrame frame)).1 else m.frames
    capturedFrames := m.capturedFrames ++ [m.stampFrame frame] }

def openPipeline (m : Media) : Media :=
  { m with
    firstAccessUnit := true
    pipelineGeneration := m.pipelineGeneration + 1
    opened := m.opened + 1 }

def startSession (m : Media) : Media :=
  { m with
    accessUnitSequence := 0
    session := m.session + 1
    frameCount := 0
    unitCount := 0 }

end Media

namespace State

def captureAccessUnit (s : State) (sample : EncodedSample) : State :=
  let reason := incompatibility sample.caps
  let s := s.publishMediaStatus reason.isNone (reason.getD "")
  match reason, sample.bytes with
  | none, some bytes =>
    if bytes = [] ∨ sample.thrown.isSome then { s with media := s.media.skipUnit }
    else { s with media := s.media.publishUnit s.setup.encodedAccessUnits (unitOf s.media sample bytes) }
  | _, _ => s

def captureSample (s : State) (sample : RawSample) (now : Int) : State :=
  let frame := frameOf s.setup s.diagnostics.framesReceived s.media sample now
  let (fps, rate) := s.ingestRate.observe now
  let fpsIn := fps.getD s.diagnostics.fpsIn
  let s :=
    { s with
      recovery := s.recovery.frame now
      diagnostics :=
        { s.diagnostics with
          framesReceived := frame.sequence
          width := sample.width
          height := sample.height
          fpsNum := sample.fpsNum
          fpsDen := sample.fpsDen
          fpsIn := fpsIn }
      ingestRate := rate
      lastFrameTime := some now
      media := s.media.publishFrame s.setup.enqueueFrames frame }
  (s.updateVideo fpsIn).publishRecovery

end State

/-- `num-lost`, `num-late` and `avg-jitter`. -/
structure JitterStats where
  lost : UInt64
  late : UInt64
  jitter : UInt64
  deriving DecidableEq, Repr

namespace State

def readJitterStats (s : State) (stats : JitterStats) (now : Int) : State :=
  let (lost, lostCounter) := s.pipelinePacketsLost.observe stats.lost
  let (late, lateCounter) := s.pipelinePacketsLate.observe stats.late
  let s :=
    { s with
      pipelinePacketsLost := lostCounter
      pipelinePacketsLate := lateCounter
      lossReadings := s.lossReadings.dropLast ++ [s.lossReadings.getLastD [] ++ [stats.lost]]
      recovery := if lost > 0 then s.recovery.packetLoss now else s.recovery
      diagnostics :=
        { s.diagnostics with
          packetsLost := s.diagnostics.packetsLost + lost
          packetsLate := s.diagnostics.packetsLate + late
          avgJitterNs := stats.jitter } }
  if s.recovery.health = .degraded then s.publishRecovery else s

def resetCounters (s : State) : State :=
  { s with
    pipelinePacketsLost := s.pipelinePacketsLost.reset
    pipelinePacketsLate := s.pipelinePacketsLate.reset
    lossReadings := s.lossReadings ++ [[]] }

end State

/-! What the operations leave as it was. -/

namespace State

variable (s : State)

@[simp] theorem publishMediaStatus_keeps (available : Bool) (reason : String) :
    (s.publishMediaStatus available reason).links = s.links ∧
    (s.publishMediaStatus available reason).media = s.media ∧
    (s.publishMediaStatus available reason).setup = s.setup ∧
    (s.publishMediaStatus available reason).worker = s.worker ∧
    (s.publishMediaStatus available reason).running = s.running ∧
    (s.publishMediaStatus available reason).diagnostics = s.diagnostics ∧
    (s.publishMediaStatus available reason).lossReadings = s.lossReadings ∧
    (s.publishMediaStatus available reason).pipelinePacketsLost = s.pipelinePacketsLost := by
  unfold publishMediaStatus
  split <;> exact ⟨rfl, rfl, rfl, rfl, rfl, rfl, rfl, rfl⟩

@[simp] theorem setError_keeps (error : String) :
    (s.setError error).links = s.links ∧ (s.setError error).media = s.media ∧
    (s.setError error).setup = s.setup ∧ (s.setError error).worker = s.worker ∧
    (s.setError error).running = s.running ∧ (s.setError error).lossReadings = s.lossReadings ∧
    (s.setError error).pipelinePacketsLost = s.pipelinePacketsLost ∧
    (s.setError error).diagnostics.framesReceived = s.diagnostics.framesReceived ∧
    (s.setError error).diagnostics.packetsLost = s.diagnostics.packetsLost :=
  ⟨rfl, rfl, rfl, rfl, rfl, rfl, rfl, rfl, rfl⟩

@[simp] theorem publishRecovery_keeps :
    s.publishRecovery.links = s.links ∧ s.publishRecovery.media = s.media ∧
    s.publishRecovery.setup = s.setup ∧ s.publishRecovery.worker = s.worker ∧
    s.publishRecovery.running = s.running ∧ s.publishRecovery.lossReadings = s.lossReadings ∧
    s.publishRecovery.pipelinePacketsLost = s.pipelinePacketsLost ∧
    s.publishRecovery.diagnostics.framesReceived = s.diagnostics.framesReceived ∧
    s.publishRecovery.diagnostics.packetsLost = s.diagnostics.packetsLost :=
  ⟨rfl, rfl, rfl, rfl, rfl, rfl, rfl, rfl, rfl⟩

@[simp] theorem updateVideo_keeps (fps : ℚ) :
    (s.updateVideo fps).links = s.links ∧ (s.updateVideo fps).media = s.media ∧
    (s.updateVideo fps).setup = s.setup ∧ (s.updateVideo fps).worker = s.worker ∧
    (s.updateVideo fps).running = s.running ∧
    (s.updateVideo fps).diagnostics = s.diagnostics ∧
    (s.updateVideo fps).lossReadings = s.lossReadings ∧
    (s.updateVideo fps).pipelinePacketsLost = s.pipelinePacketsLost := by
  unfold updateVideo
  split <;> exact ⟨rfl, rfl, rfl, rfl, rfl, rfl, rfl, rfl⟩

@[simp] theorem resetCounters_keeps :
    s.resetCounters.links = s.links ∧ s.resetCounters.media = s.media ∧
    s.resetCounters.setup = s.setup ∧ s.resetCounters.worker = s.worker ∧
    s.resetCounters.running = s.running ∧ s.resetCounters.diagnostics = s.diagnostics ∧
    s.resetCounters.pipelinePacketsLost = {} ∧
    s.resetCounters.lossReadings = s.lossReadings ++ [[]] :=
  ⟨rfl, rfl, rfl, rfl, rfl, rfl, rfl, rfl⟩

@[simp] theorem readJitterStats_keeps (stats : JitterStats) (now : Int) :
    (s.readJitterStats stats now).links = s.links ∧ (s.readJitterStats stats now).media = s.media ∧
    (s.readJitterStats stats now).setup = s.setup ∧
    (s.readJitterStats stats now).worker = s.worker ∧
    (s.readJitterStats stats now).running = s.running ∧
    (s.readJitterStats stats now).diagnostics.framesReceived = s.diagnostics.framesReceived ∧
    (s.readJitterStats stats now).diagnostics.packetsLost =
      s.diagnostics.packetsLost + (s.pipelinePacketsLost.observe stats.lost).1 ∧
    (s.readJitterStats stats now).pipelinePacketsLost = (s.pipelinePacketsLost.observe stats.lost).2 ∧
    (s.readJitterStats stats now).lossReadings =
      s.lossReadings.dropLast ++ [s.lossReadings.getLastD [] ++ [stats.lost]] := by
  unfold readJitterStats
  dsimp only
  split <;> split <;> exact ⟨rfl, rfl, rfl, rfl, rfl, rfl, rfl, rfl, rfl⟩

@[simp] theorem captureSample_keeps (sample : RawSample) (now : Int) :
    (s.captureSample sample now).links = s.links ∧ (s.captureSample sample now).setup = s.setup ∧
    (s.captureSample sample now).worker = s.worker ∧
    (s.captureSample sample now).running = s.running ∧
    (s.captureSample sample now).lossReadings = s.lossReadings ∧
    (s.captureSample sample now).pipelinePacketsLost = s.pipelinePacketsLost ∧
    (s.captureSample sample now).diagnostics.packetsLost = s.diagnostics.packetsLost ∧
    (s.captureSample sample now).diagnostics.framesReceived = s.diagnostics.framesReceived + 1 ∧
    (s.captureSample sample now).media = s.media.publishFrame s.setup.enqueueFrames
      (frameOf s.setup s.diagnostics.framesReceived s.media sample now) := by
  simp [captureSample, frameOf]

@[simp] theorem captureAccessUnit_keeps (sample : EncodedSample) :
    (s.captureAccessUnit sample).links = s.links ∧ (s.captureAccessUnit sample).setup = s.setup ∧
    (s.captureAccessUnit sample).worker = s.worker ∧
    (s.captureAccessUnit sample).running = s.running ∧
    (s.captureAccessUnit sample).diagnostics = s.diagnostics ∧
    (s.captureAccessUnit sample).lossReadings = s.lossReadings ∧
    (s.captureAccessUnit sample).pipelinePacketsLost = s.pipelinePacketsLost := by
  unfold captureAccessUnit
  dsimp only
  split
  · split <;> simp
  · simp

end State

/-! ## The worker -/

/-- Why the pipeline of an attempt could not be set up. -/
inductive CreateError where
  | pipeline (error : String)
  | source
  | adding
  deriving DecidableEq, Repr

/-- What the clock and GStreamer answer a step of the worker. -/
inductive Answer where
  | go
  | time (now : Int)
  | created (failure : Option CreateError)
  /-- `failure` is `pipeline_->last_error()`. -/
  | started (now : Int) (failure : Option String)
  /-- The detail of an error or of the end of the stream. -/
  | event (detail : Option String)
  | unit (sample : Option EncodedSample)
  /-- A pulled sample may turn out not to be a picture. -/
  | frame (sample : Option (Option RawSample)) (now : Int)
  | stats (now : Int) (statsNow : Int) (stats : Option JitterStats)
  deriving DecidableEq, Repr

namespace State

def close (s : State) (caller : Caller) : State := { s with worker := .closing .refusing caller }

/-- `capture_loop` up to the back-off and `open_pipeline`. -/
def openStep (s : State) : Worker → Answer → Option State
  | .top initialAttempt, .time now =>
    if s.running = false then some (s.close .leaving)
    else if initialAttempt then some { s with worker := .clearing }
    else if s.recovery.nextRetry ≤ now then
      some { s with recovery := s.recovery.retry now, worker := .clearing }
    else none
  | .clearing, .go =>
    some { s with
      diagnostics := { s.diagnostics with codec := "", decoder := "" }
      worker := .publishing }
  | .publishing, .go => some { s.publishRecovery with worker := .opening }
  | .opening, .go =>
    some { s with
      links := { s.links with sink := none, encodedSink := none }
      media := s.media.openPipeline
      ingestRate := s.ingestRate.reset
      diagnostics := { s.diagnostics with fpsIn := 0 }
      worker := .announcing }
  | .announcing, .go =>
    some { s.publishMediaStatus false "RTSP source is reconnecting" with worker := .creating }
  | .creating, .created failure =>
    let links := { s.links with pipeline := some s.links.created, created := s.links.created + 1 }
    match failure with
    | some (.pipeline error) =>
      some { s with links := { s.links with pipeline := none }, worker := .openFailed error }
    | some .source =>
      some ({ s with links := links }.close (.openPipeline "GStreamer rtspsrc plugin is unavailable"))
    | some .adding =>
      some ({ s with links := links }.close
        (.openPipeline "could not add rtspsrc to RTSP pipeline"))
    | none =>
      some { s with links := { links with rtspElement := links.pipeline }, worker := .accepting }
  | .accepting, .go =>
    some { s with links := { s.links with acceptingCallbacks := true }, worker := .starting }
  | .starting, .started now failure =>
    let s := { s with links := s.links.touchPipeline }
    match failure with
    | none => some { s with worker := .watching { started := now } }
    | some error =>
      let detail := s.diagnostics.lastError
      some (s.close (.openPipeline (if detail ≠ "" then detail else error)))
  | .openFailed error, .go =>
    if s.running then some { s with worker := .reporting error } else some (s.close .leaving)
  | _, _ => none

/-- The two loops that take the access units; `next` is behind them. -/
def pullUnits (s : State) (a : Attempt) (sample : Option EncodedSample) (next : Worker) :
    Option State :=
  match a.encodedSink, sample with
  | none, none => some { s with worker := next }
  | none, some _ => none
  | some owner, none => some { s with links := s.links.touch owner, worker := next }
  | some owner, some sample =>
    some ({ s with links := s.links.touch owner }.captureAccessUnit sample)

def pullFrame (s : State) (a : Attempt) (sample : Option (Option RawSample)) (now : Int) :
    Option State :=
  match a.sink, sample with
  | none, none => some { s with worker := .moreUnits a }
  | none, some _ => none
  | some owner, some (some sample) =>
    let s := { s with links := s.links.touch owner }
    if sample.usable then
      some { s.captureSample sample now with worker := .moreUnits { a with receivedFrame := true } }
    else some { s with worker := .moreUnits a }
  | some owner, _ => some { s with links := s.links.touch owner, worker := .moreUnits a }

/-- The inner loop of `capture_loop`. -/
def attemptStep (s : State) : Worker → Answer → Option State
  | .watching a, .go =>
    if s.running = false then some (s.close (.attempt ""))
    else if s.diagnostics.health = .error then some (s.close (.attempt s.diagnostics.lastError))
    else some { s with worker := .polling a }
  | .polling a, .event detail =>
    let s := { s with links := s.links.touchPipeline }
    match detail with
    | some error => some (s.close (.attempt error))
    | none => some { s with worker := .loading a }
  | .loading a, .go => some { s with worker := .loadingEncoded { a with sink := s.links.sink } }
  | .loadingEncoded a, .go => some { s with worker := .units { a with encodedSink := s.links.encodedSink } }
  | .units a, .unit sample => s.pullUnits a sample (.frame a)
  | .frame a, .frame sample now => s.pullFrame a sample now
  | .moreUnits a, .unit sample => s.pullUnits a sample (.stats a)
  | .stats a, .stats now statsNow stats =>
    match s.links.jitterbuffer, stats with
    | none, some _ => none
    | some _, some stats => some { s.readJitterStats stats statsNow with worker := .checking a now }
    | _, none => some { s with worker := .checking a now }
  | .checking a now, .go =>
    if a.receivedFrame = false ∧ now - a.started ≥ s.config.firstFrameTimeoutMs * 1000000 then
      some (s.close (.attempt "RTSP source did not receive a video frame before timeout"))
    else if (s.recovery.checkStall now).1 then
      some { { s with recovery := (s.recovery.checkStall now).2 }.publishRecovery with
        worker := .stalled }
    else some { s with worker := .watching a }
  | .stalled, .go => some (s.close (.attempt "RTSP source stalled: no fresh frames"))
  | _, _ => none

/-- `close_pipeline`. -/
def closeStep (s : State) (at' : Closing) (caller : Caller) : Option State :=
  match at' with
  | .refusing =>
    let links := { s.links with acceptingCallbacks := false }
    some { s with
      links := links.rtspElement.elim links links.touch
      worker := .closing .draining caller }
  | .draining =>
    if s.links.callbacksInFlight = 0 then some { s with worker := .closing .managers caller }
    else none
  | .managers => some { s with links := s.links.releaseManagers, worker := .closing .jitterbuffer caller }
  | .jitterbuffer =>
    some { { s with links := s.links.releaseJitterbuffer }.resetCounters with
      worker := .closing .clearing caller }
  | .clearing => some { s with links := s.links.clear, worker := caller.next }

/-- `capture_loop` behind an attempt, and its end. -/
def endStep (s : State) : Worker → Answer → Option State
  | .ended error, .go =>
    if s.running then some { s with worker := .discarding error } else some (s.close .leaving)
  | .discarding error, .go =>
    some { s with
      media := { s.media with frames := s.media.frames.discardAll.1 }
      worker := .discardingUnits error }
  | .discardingUnits error, .go =>
    some { s with
      media :=
        if s.setup.encodedAccessUnits then
          { s.media with units := s.media.units.discardAll.1 }
        else s.media
      worker := .reporting error }
  | .reporting error, .go => some { s.setError error with worker := .failing }
  | .failing, .time now =>
    some { { s with recovery := s.recovery.fail now }.publishRecovery with worker := .top false }
  | .stopping, .go =>
    some { { s with recovery := s.recovery.stop }.publishRecovery with worker := .exiting }
  | .exiting, .go => some { s with running := false, worker := .finished }
  | _, _ => none

def work (s : State) (answer : Answer) : Option State :=
  match s.worker with
  | .closing at' caller => if answer = .go then s.closeStep at' caller else none
  | .top _ | .clearing | .publishing | .opening | .announcing | .creating | .accepting
  | .starting | .openFailed _ => s.openStep s.worker answer
  | .ended _ | .discarding _ | .discardingUnits _ | .reporting _ | .failing | .stopping
  | .exiting => s.endStep s.worker answer
  | _ => s.attemptStep s.worker answer

end State

/-! ## The other threads -/

namespace State

/-- `connect_rtp_pad` behind the test of `sink_`, up to the links. -/
def connect (s : State) (i : Nat) (codec : Codec) (chain : Chain) : State :=
  let fail (links : Links) (error : String) := { s with links := links.moveCallback i (.failing error) }
  let links := s.links.touchPipeline
  if chain.made = false then
    fail s.links ("RTSP " ++ codec.name ++ " depay, parser, decoder, or color plugin is unavailable")
  else if chain.linked = false then fail links ("could not link RTSP " ++ codec.name ++ " decode chain")
  else if chain.padLinked = false then fail links ("could not link RTSP " ++ codec.name ++ " RTP pad")
  else
    let encoded := codec = .h264 && (s.setup.encodedAccessUnits || s.setup.accessUnitSink)
    { s with links := links.moveCallback i (.storing codec (links.pipeline.getD 0) encoded
        (decoderName s.setup.decodeMode chain.plugins codec)) }

/-- One step of the thread `i` in its handler. -/
def handle (s : State) (i : Nat) (chain : Chain) : Callback → State
  | .padAdded codec =>
    match codec, s.links.sink with
    | some codec, none => { s with links := s.links.moveCallback i (.connecting codec) }
    | _, _ => { s with links := s.links.moveCallback i .leaving }
  | .connecting codec => s.connect i codec chain
  | .storing codec owner encoded decoder =>
    { s with links := { s.links.moveCallback i (.storingEncoded codec owner encoded decoder) with
        sink := some owner } }
  | .storingEncoded codec owner encoded decoder =>
    { s with links := { s.links.moveCallback i (.noting codec owner decoder) with
        encodedSink := if encoded then some owner else none } }
  | .noting codec owner decoder =>
    { s with
      diagnostics := { s.diagnostics with codec := codec.name, decoder := decoder }
      links := s.links.moveCallback i (if codec = .h264 then .syncing owner else .declaring owner) }
  | .declaring owner =>
    let s := s.publishMediaStatus false "recording and WebRTC require H.264 input"
    { s with links := s.links.moveCallback i (.syncing owner) }
  | .syncing owner => { s with links := (s.links.touch owner).moveCallback i .leaving }
  | .newManager manager =>
    { s with links := (s.links.addManager manager).moveCallback i .leaving }
  | .newJitterbuffer jitterbuffer =>
    let s := { s with links := (s.links.replaceJitterbuffer jitterbuffer).moveCallback i .leaving }
    s.resetCounters
  | .failing error =>
    let s := s.setError error
    { s with links := s.links.moveCallback i .leaving }
  | .leaving => { s with links := s.links.endCallback i }

/-- A handler leaves the worker and what was captured and counted alone. -/
@[simp] theorem handle_keeps (s : State) (i : Nat) (chain : Chain) (callback : Callback) :
    (s.handle i chain callback).worker = s.worker ∧ (s.handle i chain callback).running = s.running ∧
    (s.handle i chain callback).media = s.media ∧ (s.handle i chain callback).setup = s.setup ∧
    (s.handle i chain callback).diagnostics.framesReceived = s.diagnostics.framesReceived ∧
    (s.handle i chain callback).diagnostics.packetsLost = s.diagnostics.packetsLost := by
  cases callback with
  | padAdded codec =>
    simp only [handle]
    split <;> exact ⟨rfl, rfl, rfl, rfl, rfl, rfl⟩
  | connecting codec =>
    simp only [handle, connect]
    split
    · exact ⟨rfl, rfl, rfl, rfl, rfl, rfl⟩
    · split
      · exact ⟨rfl, rfl, rfl, rfl, rfl, rfl⟩
      · split <;> exact ⟨rfl, rfl, rfl, rfl, rfl, rfl⟩
  | declaring owner => simp [handle]
  | _ => exact ⟨rfl, rfl, rfl, rfl, rfl, rfl⟩

end State

inductive Action where
  /-- `start`: whether GStreamer is initialized and whether the thread could be made. -/
  | start (config : VideoConfig) (initialized spawned : Bool)
  | requestStop
  /-- `stop` behind `request_stop`. -/
  | join
  | work (answer : Answer)
  | signal (signal : Signal)
  | handle (i : Nat) (chain : Chain)
  | popFrame
  | popUnit
  | shutdownFrames
  | shutdownUnits
  deriving DecidableEq, Repr

namespace State

variable (ipv4 ipv6 : List Char → Bool)

/-- `start` behind its checks. Where the thread cannot be made, what was set stays. -/
def launch (s : State) (config : VideoConfig) (spawned : Bool) : State :=
  let s :=
    { s with
      config := config
      videoFps := none
      links := { s.links with sink := none, encodedSink := none }
      media := s.media.startSession }
  let s := s.publishMediaStatus false "waiting for a browser-compatible H.264 source"
  { s with
    diagnostics :=
      { health := .connecting
        urlConfigured := config.rtspUrl ≠ []
        transport := config.transport }
    lastFrameTime := none
    ingestRate := s.ingestRate.reset
    recovery := RtspRecovery.begin
      { stallTimeout := config.stallTimeoutMs.toNat
        reconnectDelay := config.reconnectDelayMs.toNat
        maxReconnectDelay := config.maxReconnectDelayMs.toNat }
    lossReadings := [[]]
    running := spawned
    worker := if spawned then .top true else .absent }

def start (s : State) (config : VideoConfig) (initialized spawned : Bool) : Except String State := do
  if s.worker ≠ .absent then throw "RTSP source is already running"
  validateVideo ipv4 ipv6 config
  if !initialized then throw "GStreamer must be initialized before the RTSP source"
  return s.launch config spawned

def join (s : State) : State :=
  { s with
    worker := .absent
    diagnostics := { s.diagnostics with health := .stopped }
    videoFps := none }

def popFrame (s : State) : State :=
  { s with media := { s.media with
      frames := s.media.frames.takeFront.2
      readFrames := s.media.readFrames ++ s.media.frames.takeFront.1.toList } }

def popUnit (s : State) : State :=
  { s with media := { s.media with
      units := s.media.units.takeFront.2
      readUnits := s.media.readUnits ++ s.media.units.takeFront.1.toList } }

def step (s : State) : Action → Option State
  | .start config initialized spawned => (s.start ipv4 ipv6 config initialized spawned).toOption
  | .requestStop => some { s with running := false }
  | .join =>
    if s.worker = .absent ∨ s.worker = .finished then some { s with running := false }.join else none
  | .work answer => s.work answer
  | .signal signal => some { s with links := s.links.beginCallback signal }
  | .handle i chain => s.links.callbacks[i]?.map (s.handle i chain)
  | .popFrame => some s.popFrame
  | .popUnit => some s.popUnit
  | .shutdownFrames => some { s with media := { s.media with frames := s.media.frames.shutdown } }
  | .shutdownUnits => some { s with media := { s.media with units := s.media.units.shutdown } }

theorem start_eq_ok {s t : State} {config : VideoConfig} {initialized spawned : Bool}
    (started : (s.start ipv4 ipv6 config initialized spawned).toOption = some t) :
    s.worker = .absent ∧ validateVideo ipv4 ipv6 config = .ok () ∧ initialized = true ∧
      t = s.launch config spawned := by
  unfold start at started
  by_cases idle : s.worker = .absent
  · cases valid : validateVideo ipv4 ipv6 config with
    | error => simp [idle, valid, bind, Except.bind, Except.toOption] at started
    | ok =>
      cases initialized with
      | false => simp [idle, valid, bind, Except.bind, Except.toOption, throw, throwThe, MonadExceptOf.throw] at started
      | true =>
        simp [idle, valid, bind, Except.bind, Except.toOption, pure, Except.pure] at started
        exact ⟨idle, rfl, rfl, started.symm⟩
  · simp [idle, bind, Except.bind, Except.toOption, throw, throwThe, MonadExceptOf.throw] at started

end State

/-- A new source on empty queues of any capacity. -/
def init (setup : Setup) (frames units : Nat) (some' : 0 < frames) (more : 0 < units) : State where
  setup := setup
  media := { frames := .create frames some', units := .create units more }

/-- A camera whose H.264 pad was connected and whose jitterbuffer is known. -/
def connecting : List Action :=
  [.start {} true true, .work (.time 0), .work .go, .work .go, .work .go, .work .go,
    .work (.created none), .work .go, .signal (.newManager 7), .handle 0 {}, .handle 0 {},
    .signal (.newJitterbuffer 8), .signal (.padAdded (some ⟨"application/x-rtp", some "H264"⟩)),
    .handle 0 {}, .handle 0 {}, .handle 0 {}, .handle 0 {}, .handle 0 {}, .handle 0 {}, .handle 0 {},
    .handle 0 {}, .handle 0 {}, .work (.started 0 none), .work .go, .work (.event none), .work .go,
    .work .go]

/-- The attempt behind `connecting` goes on with a unit and a picture and ends with an error; the
next pipeline delivers a unit again. -/
def reconnecting (sample : EncodedSample) (picture : RawSample) : List Action :=
  connecting ++
    [.work (.unit (some sample)), .work (.unit none), .work (.frame (some (some picture)) 5),
      .work (.unit none), .work (.stats 6 6 (some ⟨3, 0, 0⟩)), .work .go, .work .go,
      .work (.event (some "lost")), .work .go, .work .go, .work .go, .work .go, .work .go, .work .go,
      .work .go, .work .go, .work .go, .work (.time 7), .work (.time 2000000000), .work .go, .work .go,
      .work .go, .work .go, .work (.created none), .work .go,
      .signal (.padAdded (some ⟨"application/x-rtp", some "H264"⟩)), .handle 0 {}, .handle 0 {},
      .handle 0 {}, .handle 0 {}, .handle 0 {}, .handle 0 {}, .handle 0 {},
      .work (.started 2000000000 none), .work .go, .work (.event none), .work .go, .work .go,
      .work (.unit (some sample))]

end SkaiEdge.Video.RtspSource
