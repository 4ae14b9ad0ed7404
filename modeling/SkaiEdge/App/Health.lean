import SkaiEdge.Lib.Runs
import SkaiEdge.App.Diagnostics

/-!
# The health watchdog (`src/health.cpp`, `src/runtime.cpp`)

`HealthWatchdog::tick` asks the eight probes one after another, without the lock, and takes their
answers over at once under it. The first tick is `start`'s own; the worker ticks again every half
second until `stopping_`. `snapshot` may come at any moment from any thread; its argument is the
clock before it waits for the lock. A step here is one critical section, or one probe.

`published` is ghost: what the probes answered in the last tick that was taken over, and when.
-/

namespace SkaiEdge.App

open SkaiEdge.Lib SkaiEdge.Video

/-! ## Probes -/

/-- What `Runtime::initialize` takes from the configuration for its probes. -/
structure HealthConfig where
  stallTimeoutMs : Int := 3000
  recordingEnabled : Bool := false
  webrtcEnabled : Bool := false
  whipEnabled : Bool := false
  gpsEnabled : Bool := false
  deriving DecidableEq

/-- What the probes see of the modules. -/
structure Sample where
  rtsp : Option RtspReport := none
  detectorSupported : Bool := true
  detectorEnabled : Bool := true
  status : RuntimeStatusSnapshot := {}
  webrtc : WebRtcDiagnostics := {}
  recording : RecordingStatus := {}
  recordingRequested : Bool := false
  gps : Option GpsFix := none
  serving : Bool := false
  whip : WhipMetrics := {}
  databaseError : String := ""
  deriving DecidableEq

def videoHealth (diagnostics : Option RtspReport) (stallTimeoutMs : Int) : ComponentHealth :=
  match diagnostics with
  | none => ⟨.starting, "source not initialized"⟩
  | some value =>
    if value.health = .connected ∧ value.lastFrameAgeMs ≥ 0 ∧ value.lastFrameAgeMs > stallTimeoutMs then
      ⟨.degraded, "source frame is stale"⟩
    else
      match value.health with
      | .connected => ⟨.running, ""⟩
      | .connecting =>
        ⟨if value.framesReceived = 0 then .starting else .degraded, "source connecting"⟩
      | .degraded => ⟨.degraded, "source packet loss"⟩
      | .stalled => ⟨.degraded, "source stalled"⟩
      | .reconnecting =>
        ⟨.degraded, if value.lastError = "" then "source reconnecting" else value.lastError⟩
      | .error => ⟨.failed, if value.lastError = "" then "source failed" else value.lastError⟩
      | .stopped => ⟨.failed, "source stopped"⟩

def detectorHealth (supported enabled : Bool) (status : RuntimeStatusSnapshot) : ComponentHealth :=
  if !supported then ⟨.running, "not installed"⟩
  else if !enabled then ⟨.running, "disabled"⟩
  else if status.lastInferenceMs.isNone then ⟨.degraded, "no current inference"⟩
  else if status.lastInferenceAgeMs.any (· > 3000) then ⟨.degraded, "inference is stale"⟩
  else ⟨.running, ""⟩

def encoderHealth (status : RuntimeStatusSnapshot) (mediaAvailable h264Required : Bool) :
    ComponentHealth :=
  if !h264Required && status.encoder.isNone then ⟨.running, "not required"⟩
  else if !mediaAvailable then ⟨.degraded, "H.264 media unavailable"⟩
  else
    match status.encoder with
    | none => ⟨.running, "H.264 passthrough"⟩
    | some encoder =>
      if encoder.lastError ≠ "" then ⟨.degraded, encoder.lastError⟩
      else if encoder.lastAccessUnitAgeMs > 3000 then ⟨.degraded, "encoded media is stale"⟩
      else ⟨.running, ""⟩

def recorderHealth (status : RecordingStatus) (requested enabledByConfig : Bool) : ComponentHealth :=
  if status.state = .error then ⟨.failed, String.ofList status.lastError⟩
  else if !status.configured || (!enabledByConfig && !requested && !status.active) then
    ⟨.running, "disabled"⟩
  else if status.state = .unavailable then ⟨.degraded, String.ofList status.unavailableReason⟩
  else if !requested then ⟨.running, "stopped"⟩
  else if !status.available then ⟨.degraded, String.ofList status.unavailableReason⟩
  else if status.active then ⟨.running, ""⟩
  else ⟨.starting, "recording starting"⟩

def gpsHealth (enabled : Bool) (fix : Option GpsFix) : ComponentHealth :=
  if !enabled then ⟨.running, "disabled"⟩
  else if !fix.any (·.valid) then ⟨.degraded, "GPS fix unavailable"⟩
  else ⟨.running, ""⟩

/-- The part of `webrtc_health` about the uplink; `none` where it goes on. -/
def whipHealth (whip : WhipMetrics) : Option ComponentHealth :=
  if !whip.enabled then none
  else if whip.peerState = "failed" ∨ whip.peerState = "stopped" then
    some ⟨.failed, if whip.lastError = "" then "WHIP uplink stopped" else whip.lastError⟩
  else if whip.peerState = "retrying" ∨ whip.peerState = "disconnected" ∨ whip.iceState = "failed" ∨
      whip.iceState = "disconnected" then
    some ⟨.degraded, if whip.lastError = "" then "WHIP uplink reconnecting" else whip.lastError⟩
  else if whip.peerState ≠ "connected" ∨ (whip.iceState ≠ "connected" ∧ whip.iceState ≠ "completed") then
    some ⟨.starting, "WHIP uplink connecting"⟩
  else none

def webrtcHealth (diagnostics : WebRtcDiagnostics) (whip : WhipMetrics) : ComponentHealth :=
  match whipHealth whip with
  | some health => health
  | none =>
    if diagnostics.enabled && !diagnostics.mediaAvailable then
      ⟨.degraded, diagnostics.mediaUnavailableReason⟩
    else if !diagnostics.enabled && !whip.enabled then ⟨.running, "disabled"⟩
    else ⟨.running, ""⟩

def webHealth (serving : Bool) : ComponentHealth :=
  if serving then ⟨.running, ""⟩ else ⟨.failed, "HTTP server not serving"⟩

def databaseHealth (error : String) : ComponentHealth :=
  if error = "" then ⟨.running, ""⟩ else ⟨.failed, error⟩

/-- The probes of `Runtime::initialize`. -/
def probe (config : HealthConfig) (sample : Sample) : HealthComponent → ComponentHealth
  | .videoSource => videoHealth sample.rtsp config.stallTimeoutMs
  | .detector => detectorHealth sample.detectorSupported sample.detectorEnabled sample.status
  | .encoder =>
    encoderHealth sample.status sample.webrtc.mediaAvailable
      (config.recordingEnabled || config.webrtcEnabled || config.whipEnabled)
  | .recorder => recorderHealth sample.recording sample.recordingRequested config.recordingEnabled
  | .gps => gpsHealth config.gpsEnabled sample.gps
  | .web => webHealth sample.serving
  | .webRtc => webrtcHealth sample.webrtc sample.whip
  | .database => databaseHealth sample.databaseError

/-- A failure of these fails the whole service. -/
def critical : HealthComponent → Bool
  | .web | .database => true
  | _ => false

/-! ## Watchdog -/

namespace HealthComponent

/-- Its place in the arrays. -/
def index : HealthComponent → Nat
  | .videoSource => 0
  | .detector => 1
  | .encoder => 2
  | .recorder => 3
  | .gps => 4
  | .web => 5
  | .webRtc => 6
  | .database => 7

end HealthComponent

/-- How a registered probe ends. -/
inductive ProbeAnswer where
  | returned (sample : Sample)
  | threw (what : String)
  /-- Something that is no `std::exception`. -/
  | threwOther
  deriving DecidableEq

/-- One probe of a tick; no answer where none is registered. -/
structure Probed where
  answer : Option ProbeAnswer
  time : Int
  deriving DecidableEq

def Probed.health (config : HealthConfig) (c : HealthComponent) (p : Probed) : ComponentHealth :=
  match p.answer with
  | none => ⟨.starting, "probe not registered"⟩
  | some (.returned sample) => probe config sample c
  | some (.threw what) => ⟨.failed, what⟩
  | some .threwOther => ⟨.failed, "probe failed"⟩

structure Entry where
  registered : Bool := false
  health : ComponentHealth := {}
  critical : Bool := false
  deriving DecidableEq

inductive Worker where
  /-- Not joinable. -/
  | absent
  /-- In `tick`, of `start` or of the worker. -/
  | polling (first : Bool) (now : Int) (observed : List Probed)
  /-- `start` behind its tick. -/
  | polled
  | waiting
  | finished
  deriving DecidableEq

structure Watchdog where
  config : HealthConfig
  clock : Int
  entries : HealthComponent → Entry := fun _ => {}
  /-- 0 for a default time point. -/
  lastPoll : Int := 0
  lifecycle : HealthState := .starting
  stopping : Bool := false
  worker : Worker := .absent
  published : List Probed := []

namespace Watchdog

/-- Two seconds. -/
def patience : Int := 2 * 10 ^ 9

def stale (s : Watchdog) (now : Int) : Bool := s.lastPoll ≠ 0 ∧ now - s.lastPoll > patience

/-- The output of `snapshot` for a component. -/
def component (s : Watchdog) (now : Int) (c : HealthComponent) : ComponentHealth :=
  if s.stale now then ⟨.failed, "watchdog poll stale"⟩ else (s.entries c).health

/-- The three flags of the loop of `snapshot`. -/
structure Flags where
  starting : Bool := false
  degraded : Bool := false
  failed : Bool
  deriving DecidableEq

def Flags.add (s : Watchdog) (now : Int) (flags : Flags) (c : HealthComponent) : Flags :=
  match (s.component now c).state with
  | .failed => if (s.entries c).critical then { flags with failed := true } else { flags with degraded := true }
  | .degraded => { flags with degraded := true }
  | .starting => { flags with starting := true }
  | _ => flags

def flags (s : Watchdog) (now : Int) : Flags :=
  allHealthComponents.foldl (Flags.add s now) { failed := s.stale now }

def snapshot (s : Watchdog) (now : Int) : HealthSnapshot where
  state :=
    if s.lifecycle = .running then
      if (s.flags now).failed then .failed
      else if (s.flags now).degraded then .degraded
      else if (s.flags now).starting then .starting else .running
    else s.lifecycle
  components := s.component now

inductive Action where
  | pass (time : Nat)
  | setProbe (c : HealthComponent)
  | start
  /-- The next probe of the tick, or the note that there is none. -/
  | observe (answer : ProbeAnswer)
  | publish
  | setLifecycle
  /-- The wait ends. -/
  | wake
  | stop
  | join
  deriving DecidableEq

def step (s : Watchdog) : Action → Option Watchdog
  | .pass time => some { s with clock := s.clock + time }
  | .setProbe c =>
    some { s with
      entries := Function.update s.entries c
        { s.entries c with registered := true, critical := critical c } }
  | .start => if s.worker = .absent then some { s with worker := .polling true s.clock [] } else none
  | .observe answer =>
    match s.worker with
    | .polling first now observed => do
      let c ← allHealthComponents[observed.length]?
      let answer := if (s.entries c).registered then some answer else none
      some { s with worker := .polling first now (observed ++ [⟨answer, s.clock⟩]) }
    | _ => none
  | .publish =>
    match s.worker with
    | .polling first now observed =>
      if observed.length = 8 then
        some { s with
          entries := fun c => { s.entries c with
            health := (observed[c.index]?.map (Probed.health s.config c)).getD {} }
          lastPoll := now
          published := observed
          worker := if first then .polled else .waiting }
      else none
    | _ => none
  | .setLifecycle =>
    if s.worker = .polled then some { s with lifecycle := .running, worker := .waiting } else none
  | .wake =>
    if s.worker = .waiting then
      some { s with worker := if s.stopping then .finished else .polling false s.clock [] }
    else none
  | .stop => some { s with stopping := true, lifecycle := .stopping }
  | .join => if s.worker = .finished then some { s with worker := .absent } else none

def init (config : HealthConfig) (clock : Int) : Watchdog := { config, clock }

end Watchdog

/-! ## What a probe finds -/

namespace Probed

variable {config : HealthConfig} {c : HealthComponent} {p : Probed}

end Probed

namespace Watchdog

variable {s t : Watchdog}

/-! ## A snapshot -/

/-- A tick that began at `now`: every probe was asked after that. -/
structure Fresh (clock now : Int) (observed : List Probed) : Prop where
  begun : 0 < now ∧ now ≤ clock
  since : ∀ p ∈ observed, now ≤ p.time ∧ p.time ≤ clock

theorem Fresh.pass {clock now : Int} {observed : List Probed} (fresh : Fresh clock now observed)
    (time : Nat) : Fresh (clock + time) now observed := by
  refine ⟨⟨fresh.begun.1, by have := fresh.begun.2; omega⟩, fun p member => ?_⟩
  have := fresh.since p member
  omega

theorem Fresh.snoc {clock now : Int} {observed : List Probed} (fresh : Fresh clock now observed)
    (answer : Option ProbeAnswer) : Fresh clock now (observed ++ [⟨answer, clock⟩]) := by
  refine ⟨fresh.begun, fun p member => ?_⟩
  rcases List.mem_append.1 member with old | new
  · exact fresh.since p old
  · rw [List.mem_singleton.1 new]
    exact ⟨fresh.begun.2, le_rfl⟩

structure Inv (s : Watchdog) : Prop where
  clock : 0 < s.clock
  polling : ∀ first now observed, s.worker = .polling first now observed → Fresh s.clock now observed
  unpolled : s.lastPoll = 0 → s.published = []
  polled : s.lastPoll ≠ 0 → Fresh s.clock s.lastPoll s.published
  taken : ∀ c, (s.entries c).health =
    (s.published[c.index]?.map (Probed.health s.config c)).getD {}
  grave : ∀ c, (s.entries c).critical = true → critical c = true
  lifecycle : s.lifecycle ≠ .failed

theorem Inv.step {action : Action} (inv : Inv s) (moved : s.step action = some t) : Inv t := by
  cases action with
  | pass time =>
    cases moved
    refine { inv with clock := ?_, polling := ?_, polled := ?_ }
    · have := inv.clock
      show 0 < s.clock + time
      omega
    · intro first now observed polling
      exact (inv.polling first now observed polling).pass time
    · intro polled
      exact (inv.polled polled).pass time
  | setProbe c =>
    cases moved
    refine { inv with taken := fun d => ?_, grave := fun d hard => ?_ }
    · by_cases same : d = c
      · subst same
        simpa using inv.taken d
      · simpa [same] using inv.taken d
    · by_cases same : d = c
      · subst same
        simpa using hard
      · simp only [Function.update_of_ne same] at hard
        exact inv.grave d hard
  | start =>
    simp only [Watchdog.step] at moved
    split at moved
    · cases moved
      refine { inv with polling := ?_ }
      rintro first now observed polling
      cases polling
      exact ⟨⟨inv.clock, le_rfl⟩, by simp⟩
    · cases moved
  | observe answer =>
    simp only [Watchdog.step] at moved
    split at moved
    · rename_i first now observed polling
      obtain ⟨c, -, moved⟩ := Option.bind_eq_some_iff.1 moved
      cases moved
      refine { inv with polling := ?_ }
      rintro first' now' observed' polling'
      cases polling'
      exact (inv.polling first now observed polling).snoc _
    · cases moved
  | publish =>
    simp only [Watchdog.step] at moved
    split at moved
    · rename_i first now observed polling
      split at moved
      · cases moved
        have fresh := inv.polling first now observed polling
        refine { inv with polling := ?_, unpolled := ?_, polled := fun _ => fresh, taken := fun _ => rfl }
        · intro first' now' observed' polling'
          cases first <;> cases polling'
        · intro zero
          have := fresh.begun.1
          simp only at zero
          omega
      · cases moved
    · cases moved
  | setLifecycle =>
    simp only [Watchdog.step] at moved
    split at moved
    · cases moved
      refine { inv with polling := ?_, lifecycle := by simp }
      intro first now observed polling
      cases polling
    · cases moved
  | wake =>
    simp only [Watchdog.step] at moved
    split at moved
    · cases moved
      refine { inv with polling := ?_ }
      intro first now observed polling
      simp only at polling
      split at polling
      · cases polling
      · cases polling
        exact ⟨⟨inv.clock, le_rfl⟩, by simp⟩
    · cases moved
  | stop =>
    cases moved
    exact { inv with lifecycle := by simp }
  | join =>
    simp only [Watchdog.step] at moved
    split at moved
    · cases moved
      refine { inv with polling := ?_ }
      intro first now observed polling
      cases polling
    · cases moved

end Watchdog

end SkaiEdge.App
