import SkaiEdge.Lib.Runs

/-!
# The detector switch (`include/skai/api_state.hpp`, `include/skai/status.hpp`)

`ApiState` decides whether the results of an inference may be published. The HTTP threads turn
the detector on and off, `configure` and `set_detector_supported` come from the runtime, and the
inference worker (`YoloInferenceModule::run`) takes a permit before each inference and hands in
its result, or its failure, with that permit. Every method of `ApiState` is one critical section
of `mutex_` and one step here, the callback of a commit included; the worker clears
`RuntimeStatus` outside of it, one atomic store at a time. The runtime binds one `RuntimeStatus`
to both sides before any of this starts. The generation is unbounded here.

`log` is ghost: the calls that renew the generation, the permits taken, the commits and
invalidations that took effect and what they did outside `ApiState`, in order.
-/

namespace SkaiEdge.Api

/-- The detector's part of `RuntimeStatus`, one field for each atomic. -/
structure RuntimeStatus (D : Type) where
  detectorExpected : Bool := false
  detectorAvailable : Bool := false
  detectorFpsAvailable : Bool := false
  detectorFps : Option D := none
  inferenceMs : Option D := none
  inferenceAtNs : Int := 0
  deriving DecidableEq, Repr

namespace RuntimeStatus

variable {D : Type}

def setDetectorExpected (status : RuntimeStatus D) (expected : Bool) : RuntimeStatus D :=
  { status with
    detectorExpected := expected
    detectorAvailable := expected && status.detectorAvailable }

def updateDetector (status : RuntimeStatus D) (fps inferenceMs : D) (nowNs : Int) : RuntimeStatus D :=
  { status with
    detectorFps := some fps
    inferenceMs := some inferenceMs
    inferenceAtNs := nowNs
    detectorFpsAvailable := true
    detectorAvailable := true }

def updateInference (status : RuntimeStatus D) (inferenceMs : D) (nowNs : Int) : RuntimeStatus D :=
  { status with
    inferenceMs := some inferenceMs
    inferenceAtNs := nowNs
    detectorAvailable := true }

def clearDetector (status : RuntimeStatus D) : RuntimeStatus D :=
  { status with detectorAvailable := false, detectorFpsAvailable := false }

/-- The detector metrics of `snapshot`: frames per second, inference time. -/
def detectorMetrics (status : RuntimeStatus D) : Option D × Option D :=
  if status.detectorAvailable then
    (if status.detectorFpsAvailable then status.detectorFps else none, status.inferenceMs)
  else (none, none)

end RuntimeStatus

structure DetectionDto (F : Type) where
  classId : Int
  className : String
  confidence : F
  x1 : F
  y1 : F
  x2 : F
  y2 : F
  deriving DecidableEq, Repr

structure LatestDetectionsDto (F : Type) where
  available : Bool := false
  frameSequence : UInt64 := 0
  ptsNs : UInt64 := 0
  frameWidth : Int := 0
  frameHeight : Int := 0
  detections : List (DetectionDto F) := []
  deriving DecidableEq, Repr

structure DetectorPermit where
  enabled : Bool
  generation : Nat
  deriving DecidableEq, Repr

structure ApiState (F : Type) where
  configured : Bool := false
  detectorEnabled : Bool := true
  detectorSupported : Bool := true
  detectorGeneration : Nat := 0
  latest : LatestDetectionsDto F := {}
  deriving DecidableEq, Repr

/-- What a result does outside `ApiState`. -/
inductive Effect (F D : Type) where
  /-- `update_detector`, or `update_inference` for the first result. -/
  | update (fps : Option D) (inferenceMs : D)
  /-- A detection event: the detections, or `{"available":false}`. -/
  | event (detections : Option (List (DetectionDto F)))
  | sink (ptsNs : UInt64) (detections : List (DetectionDto F))
  | alert (generation : Nat)
  deriving DecidableEq, Repr

inductive Entry (F D : Type) where
  /-- A `set_detector_enabled`, `configure` or `set_detector_supported(false)`, with
  `detector_enabled_` behind it. -/
  | call (enabled : Bool)
  | permit
  /-- A commit that took effect, with the position of its permit in the log. -/
  | commit (permit : Nat)
  | invalidate (permit : Nat)
  | effect (effect : Effect F D)
  deriving DecidableEq, Repr

/-- Where the inference worker stands. -/
inductive Worker where
  | idle
  /-- The permit was not given: `clear_detector`, before its first and its second store. -/
  | refused
  | clearing
  /-- An inference with a permit, taken at this position of the log. -/
  | inferring (permit : DetectorPermit) (position : Nat)
  deriving DecidableEq, Repr

/-- Which of its optional outputs the worker was given. -/
structure Outputs where
  events : Bool
  sink : Bool
  alerts : Bool
  deriving DecidableEq, Repr

/-- A finished inference: the frame, its detections and what the clock measured. -/
structure Inferred (F D : Type) where
  frameSequence : UInt64
  frameWidth : Int
  frameHeight : Int
  ptsNs : UInt64
  detections : List (DetectionDto F)
  fps : D
  inferenceMs : D
  nowNs : Int
  deriving DecidableEq, Repr

structure State (F D : Type) where
  api : ApiState F := {}
  status : RuntimeStatus D := {}
  worker : Worker := .idle
  hasPrevious : Bool := false
  log : List (Entry F D) := []
  deriving DecidableEq, Repr

inductive Action (F D : Type) where
  | configure
  | setDetectorEnabled (enabled : Bool)
  | setDetectorSupported (supported : Bool)
  /-- The worker popped a frame and took a permit. -/
  | permit
  /-- The next store of the worker's `clear_detector`. -/
  | clear
  | commit (result : Inferred F D)
  /-- The inference or the annotation failed. -/
  | invalidate
  deriving DecidableEq, Repr

variable {F D : Type}

def synchronizeRuntimeStatus (status : RuntimeStatus D) (enabled : Bool) : RuntimeStatus D :=
  status.clearDetector.setDetectorExpected enabled

/-- The common part of the calls that renew the generation. -/
def renew (s : State F D) (supported enabled configured : Bool) : State F D :=
  { s with
    api := {
      configured := configured
      detectorEnabled := enabled
      detectorSupported := supported
      detectorGeneration := s.api.detectorGeneration + 1
      latest := {} }
    status := synchronizeRuntimeStatus s.status enabled
    log := s.log ++ [.call enabled] }

def configure (s : State F D) : State F D :=
  renew s s.api.detectorSupported s.api.detectorSupported true

def setDetectorEnabled (s : State F D) (enabled : Bool) : State F D :=
  renew s s.api.detectorSupported (enabled && s.api.detectorSupported) s.api.configured

def setDetectorSupported (s : State F D) (supported : Bool) : State F D :=
  if supported then
    { s with
      api := { s.api with detectorSupported := true }
      status := synchronizeRuntimeStatus s.status s.api.detectorEnabled }
  else renew s false false s.api.configured

def detectorPermit (api : ApiState F) : DetectorPermit :=
  ⟨api.detectorEnabled, api.detectorGeneration⟩

/-- The test of `commit_detections` and `invalidate_detections`. -/
def accepts (api : ApiState F) (permit : DetectorPermit) : Bool :=
  api.detectorEnabled && permit.generation == api.detectorGeneration

/-- What the callback of a commit does, in the order of its statements. -/
def commitEffects (outputs : Outputs) (hasPrevious : Bool) (permit : DetectorPermit)
    (result : Inferred F D) : List (Effect F D) :=
  [.update (if hasPrevious then some result.fps else none) result.inferenceMs] ++
    (if outputs.events then [.event (some result.detections)] else []) ++
    (if outputs.sink then [.sink result.ptsNs result.detections] else []) ++
    (if outputs.alerts then [.alert permit.generation] else [])

def commitDetections (outputs : Outputs) (s : State F D) (permit : DetectorPermit) (position : Nat)
    (result : Inferred F D) : State F D :=
  if accepts s.api permit then
    { s with
      api := { s.api with
        latest := {
          available := true
          frameSequence := result.frameSequence
          ptsNs := result.ptsNs
          frameWidth := result.frameWidth
          frameHeight := result.frameHeight
          detections := result.detections } }
      status :=
        if s.hasPrevious then s.status.updateDetector result.fps result.inferenceMs result.nowNs
        else s.status.updateInference result.inferenceMs result.nowNs
      log := s.log ++ .commit position ::
        (commitEffects outputs s.hasPrevious permit result).map .effect }
  else s

def invalidateDetections (outputs : Outputs) (s : State F D) (permit : DetectorPermit)
    (position : Nat) : State F D :=
  if accepts s.api permit then
    { s with
      api := { s.api with latest := {} }
      status := s.status.clearDetector
      log := s.log ++ .invalidate position ::
        if s.api.latest.available && outputs.events then [.effect (.event none)] else [] }
  else s

def step (outputs : Outputs) (s : State F D) : Action F D → Option (State F D)
  | .configure => some (configure s)
  | .setDetectorEnabled enabled => some (setDetectorEnabled s enabled)
  | .setDetectorSupported supported => some (setDetectorSupported s supported)
  | .permit =>
    match s.worker with
    | .idle =>
      let permit := detectorPermit s.api
      if permit.enabled then
        some { s with worker := .inferring permit s.log.length, log := s.log ++ [.permit] }
      else some { s with worker := .refused }
    | _ => none
  | .clear =>
    match s.worker with
    | .refused =>
      some { s with status := { s.status with detectorAvailable := false }, worker := .clearing }
    | .clearing =>
      some { s with status := { s.status with detectorFpsAvailable := false }, worker := .idle }
    | _ => none
  | .commit result =>
    match s.worker with
    | .inferring permit position =>
      some { commitDetections outputs s permit position result with
        worker := .idle
        hasPrevious := true }
    | _ => none
  | .invalidate =>
    match s.worker with
    | .inferring permit position =>
      some { invalidateDetections outputs s permit position with
        worker := .idle
        hasPrevious := false }
    | _ => none

end SkaiEdge.Api
