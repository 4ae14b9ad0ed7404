import SkaiEdge.Lib.Runs
import SkaiEdge.Lib.Stream
import SkaiEdge.Core.BoundedQueue
import SkaiEdge.Video.EncodedAccessUnit
import SkaiEdge.Video.RecordingController
import SkaiEdge.Video.RecordingQuota

/-!
# `RecordingModule` (`src/video/recording.cpp`)

The producers of the input queue, the callers of the controller, the worker that runs `run`
and GStreamer's own thread, which asks for segment names and writes the segments. Each `Action`
is one access to a shared object with the worker's local code around it. What GStreamer and the
file system answer comes with the action.

`published`, `written`, the stamps and the last three fields of a `Pipeline` are ghost. They record
what the run was given: the units the queue accepted and those that the pipeline opened last
accepted; the directory as it was in front of the open, the bytes GStreamer wrote since, and those
of the recordings that were there under the name of a segment when GStreamer asked for it.
-/

namespace SkaiEdge.Video

open SkaiEdge.Lib SkaiEdge.Core

structure RecordingConfig where
  enabled : Bool := true
  directory : List Char := "recordings".toList
  maxStorageMb : UInt64 := 1024
  minFreeSpaceMb : UInt64 := 100
  deriving DecidableEq, Repr

namespace RecordingModule

/-- An open pipeline: the segment names it was given and what is not committed yet. -/
structure Pipeline where
  segments : List (List Char) := []
  pendingAccessUnits : Nat := 0
  pendingBytes : Nat := 0
  found : List Entry
  grown : Nat := 0
  replaced : Nat := 0
  deriving DecidableEq, Repr

/-- Where the worker stands; a unit it holds comes with it. -/
inductive Worker where
  | top
  | check
  | idle
  | idlePop
  | pop
  | popped (unit : Option (Stamped EncodedAccessUnit))
  | poll (unit : Option (Stamped EncodedAccessUnit))
  | ending
  | gate (unit : Stamped EncodedAccessUnit)
  | opening (unit : Stamped EncodedAccessUnit)
  | writing (unit : Stamped EncodedAccessUnit)
  | failing (error : List Char) (closes : Bool)
  | closing
  | leaving
  | finished
  deriving DecidableEq, Repr

/-- The unit that was popped and whose `stats().dropped` read is still to come. -/
def Worker.unread : Worker → Option (Stamped EncodedAccessUnit)
  | .popped unit => unit
  | _ => none

structure State where
  config : RecordingConfig
  queue : BoundedQueue (Stamped EncodedAccessUnit)
  control : RecordingController
  running : Bool
  entries : List Entry
  pipeline : Option Pipeline
  waitingForKeyframe : Bool
  observedQueueDrops : Nat
  sessionId : List Char
  worker : Worker
  published : List EncodedAccessUnit
  written : List (Stamped EncodedAccessUnit)

/-- A new module after `initialize` and `start`, on an input queue of any capacity and with a
controller that may have been in use. -/
def init (config : RecordingConfig) (capacity : Nat) (positive : 0 < capacity)
    (control : RecordingController) (entries : List Entry) : State where
  config := config
  queue := .create capacity positive
  control := control.configure config.enabled
  running := true
  entries := entries
  pipeline := none
  waitingForKeyframe := true
  observedQueueDrops := 0
  sessionId := []
  worker := .top
  published := []
  written := []

/-- `gst::BusEvent`. -/
inductive BusEvent where
  | none
  | error (detail : List Char)
  | eos
  | stateChanged
  deriving DecidableEq, Repr

/-- Why a pipeline could not be set up. -/
inductive PipelineError where
  | create (message : List Char)
  | plugins
  | link
  | start
  deriving DecidableEq, Repr

def PipelineError.text : PipelineError → List Char
  | .create message => message
  | .plugins => "required GStreamer MP4 recording plugins are unavailable".toList
  | .link => "could not link MP4 recording pipeline".toList
  | .start => "failed to start MP4 recording pipeline".toList

/-- What the file system and GStreamer answer `open_pipeline`. -/
structure Opening where
  created : Except (List Char) Unit := .ok ()
  inspection : Inspection := {}
  space : Except (List Char) UInt64
  pipeline : Option PipelineError := none
  cleanup : Inspection := {}

inductive WriteError where
  | allocate
  | map
  | rejected
  deriving DecidableEq, Repr

def WriteError.text : WriteError → List Char
  | .allocate => "could not allocate recording buffer".toList
  | .map => "could not map recording buffer".toList
  | .rejected => "MP4 recorder rejected H.264 access unit".toList

/-- What `write_access_unit` meets: two buffers queued already, an error, or neither. -/
inductive Writing where
  | congested
  | failed (error : WriteError)
  | accepted
  deriving DecidableEq, Repr

/-- How a closing pipeline ends: `finalized` if the end of the stream was seen. -/
structure Closing where
  finalized : Bool := false
  inspection : Inspection := {}

/-- `close_pipeline(finalize)`. -/
def closePipeline (s : State) (finalize : Bool) (c : Closing) : State :=
  match s.pipeline with
  | none => s
  | some p =>
    { s with
      pipeline := none
      control :=
        if finalize && c.finalized then s.control.commitWritten p.pendingAccessUnits p.pendingBytes
        else s.control
      entries := enforceQuota c.inspection s.config.maxStorageMb s.entries }

/-- `prepare_directory`: the directory it leaves, and the error. -/
def prepareDirectory (s : State) (o : Opening) : List Entry × Option (List Char) :=
  match o.created with
  | .error message => (s.entries, some ("could not create recording directory: ".toList ++ message))
  | .ok () =>
    let entries := enforceQuota o.inspection s.config.maxStorageMb s.entries
    match o.space with
    | .error message => (entries, some ("could not inspect recording disk space: ".toList ++ message))
    | .ok available =>
      if available < s.config.minFreeSpaceMb * mib then
        (entries, some "insufficient free disk space for recording".toList)
      else (entries, none)

/-- `open_pipeline`; once `pipeline_` is set an error closes it again. -/
def openPipeline (s : State) (o : Opening) : State × Option (List Char) :=
  match prepareDirectory s o with
  | (entries, some error) => ({ s with entries := entries }, some error)
  | (entries, none) =>
    match o.pipeline with
    | some (.create message) => ({ s with entries := entries }, some message)
    | some error =>
      ({ s with entries := enforceQuota o.cleanup s.config.maxStorageMb entries }, some error.text)
    | none =>
      ({ s with
          entries := entries
          pipeline := some { found := s.entries }
          written := [] }, none)

/-- `next_path` without the directory; `now` is the local time as `put_time` writes it. -/
def nextName (now sessionId : List Char) (fragmentId : Nat) : List Char :=
  let digits := Nat.toDigits 10 fragmentId
  "recording_".toList ++ now ++ '_' :: sessionId ++
    (if fragmentId = 0 then [] else '_' :: List.replicate (3 - digits.length) '0' ++ digits) ++
    ".mp4".toList

/-- `directory / name`. -/
def joinPath (directory name : List Char) : List Char :=
  if directory.getLast? = some '/' then directory ++ name else directory ++ '/' :: name

/-- A segment file is created, or truncated if the name is taken. -/
def createFile (entries : List Entry) (name : List Char) (time : Nat) : List Entry :=
  entries.filter (·.name ≠ name) ++ [⟨name, true, 0, time⟩]

/-- The bytes of the recordings with this name. -/
def bytesNamed (entries : List Entry) (name : List Char) : Nat :=
  bytesOf (fun e => e.recorded && decide (e.name = name)) entries

/-- `on_format_location` for the pipeline's next segment, and the file that follows. -/
def formatLocation (s : State) (p : Pipeline) (now : List Char) (time : Nat) : State :=
  let name := nextName now s.sessionId p.segments.length
  { s with
    control := s.control.setActive (joinPath s.config.directory name)
    entries := createFile s.entries name time
    pipeline := some { p with
      segments := p.segments ++ [name]
      replaced := p.replaced + bytesNamed s.entries name } }

/-- GStreamer writes to one of the pipeline's segments. -/
def growFile (entries : List Entry) (name : List Char) (bytes time : Nat) : List Entry :=
  entries.map fun entry =>
    if entry.name = name then { entry with size := entry.size + bytes, time := time } else entry

inductive Action where
  | push (unit : EncodedAccessUnit)
  | shutdownQueue
  | start
  | stop
  | setMediaAvailable (available : Bool) (reason : List Char)
  | stopModule
  | formatLocation (now : List Char) (time : Nat)
  | grow (name : List Char) (bytes time : Nat)
  | loop
  | check
  | setStopped (closing : Closing)
  | idlePop
  | pop
  | read (closing : Closing)
  | poll (event : BusEvent)
  | ending
  | gate (steady : Nat) (closing : Closing)
  | open (opening : Opening)
  | write (writing : Writing)
  | fail
  | close (closing : Closing)
  | leave (closing : Closing)

/-- The drop counter is read: an overflow closes the pipeline and the gate. -/
def read (s : State) (unit : Option (Stamped EncodedAccessUnit)) (c : Closing) : State :=
  let drops := s.queue.stats.dropped
  if drops ≠ s.observedQueueDrops then
    { closePipeline s true c with
      observedQueueDrops := drops, waitingForKeyframe := true, worker := .poll unit }
  else { s with worker := .poll unit }

/-- The bus of an open pipeline is polled. -/
def poll (s : State) (unit : Option (Stamped EncodedAccessUnit)) (event : BusEvent) : State :=
  match s.pipeline, event with
  | some _, .error detail => { s with worker := .failing detail true }
  | some _, .eos => { s with worker := .failing "recording pipeline ended unexpectedly".toList true }
  | _, _ =>
    match unit with
    | none => { s with worker := .ending }
    | some unit => { s with worker := .gate unit }

/-- The discontinuity and keyframe gate. -/
def gate (s : State) (unit : Stamped EncodedAccessUnit) (steady : Nat) (c : Closing) : State :=
  let s := if unit.val.discontinuity then { closePipeline s true c with waitingForKeyframe := true }
    else s
  if s.waitingForKeyframe then
    if !unit.val.keyframe then { s with control := s.control.addDropped, worker := .top }
    else
      { s with
        waitingForKeyframe := false
        sessionId := Nat.toDigits 10 steady
        worker := .opening unit }
  else { s with worker := .opening unit }

/-- `open_pipeline` where there is none. -/
def openStep (s : State) (unit : Stamped EncodedAccessUnit) (o : Opening) : State :=
  match s.pipeline with
  | some _ => { s with worker := .writing unit }
  | none =>
    match openPipeline s o with
    | (s, some error) => { s with worker := .failing error false }
    | (s, none) => { s with worker := .writing unit }

/-- `write_access_unit`. -/
def write (s : State) (p : Pipeline) (unit : Stamped EncodedAccessUnit) : Writing → State
  | .congested =>
    { s with control := s.control.addDropped, waitingForKeyframe := true, worker := .top }
  | .failed error => { s with worker := .failing error.text true }
  | .accepted =>
    { s with
      pipeline := some { p with
        pendingAccessUnits := p.pendingAccessUnits + 1
        pendingBytes := p.pendingBytes + unit.val.bytes.length }
      written := s.written ++ [unit]
      worker := .top }

/-- `input_.pop_for`. -/
def pop (s : State) : State :=
  match s.queue.takeFront with
  | (unit, queue) => { s with queue := queue, worker := .popped unit }

/-- The pop of a worker that is not recording; the unit is counted and dropped. -/
def idlePop (s : State) : State :=
  match s.queue.takeFront with
  | (some _, queue) => { s with queue := queue, control := s.control.addDropped, worker := .top }
  | (none, queue) => { s with queue := queue, worker := .top }

def push (s : State) (unit : EncodedAccessUnit) : State :=
  let (queue, accepted) := s.queue.push ⟨s.published.length, unit⟩
  { s with
    queue := queue
    published := if accepted then s.published ++ [unit] else s.published }

def step (s : State) : Action → Option State
  | .push unit => some (push s unit)
  | .shutdownQueue => some { s with queue := s.queue.shutdown }
  | .start => some { s with control := s.control.orElse s.control.start }
  | .stop => some { s with control := s.control.orElse s.control.stop }
  | .setMediaAvailable available reason =>
    some { s with control := s.control.setMediaAvailable available reason }
  | .stopModule => some { s with running := false }
  | .formatLocation now time => s.pipeline.map fun p => formatLocation s p now time
  | .grow name bytes time =>
    match s.pipeline with
    | some p =>
      if name ∈ p.segments then
        some { s with
          entries := growFile s.entries name bytes time
          pipeline := some { p with grown := p.grown + bytes } }
      else none
    | none => none
  | .loop =>
    if s.worker = .top then some { s with worker := if s.running then .check else .leaving } else none
  | .check =>
    if s.worker = .check then
      some { s with worker := if s.control.isRequested then .pop else .idle }
    else none
  | .setStopped c =>
    if s.worker = .idle then
      let s := { closePipeline s true c with waitingForKeyframe := true }
      some { s with control := s.control.setStopped, worker := .idlePop }
    else none
  | .idlePop => if s.worker = .idlePop then some (idlePop s) else none
  | .pop => if s.worker = .pop then some (pop s) else none
  | .read c =>
    match s.worker with
    | .popped unit => some (read s unit c)
    | _ => none
  | .poll event =>
    match s.worker with
    | .poll unit => some (poll s unit event)
    | _ => none
  | .ending =>
    if s.worker = .ending then
      some { s with worker := if s.queue.isShutdown then .leaving else .top }
    else none
  | .gate steady c =>
    match s.worker with
    | .gate unit => some (gate s unit steady c)
    | _ => none
  | .open o =>
    match s.worker with
    | .opening unit => some (openStep s unit o)
    | _ => none
  | .write w =>
    match s.worker, s.pipeline with
    | .writing unit, some p => some (write s p unit w)
    | _, _ => none
  | .fail =>
    match s.worker with
    | .failing error closes =>
      some { s with
        control := s.control.setError error
        worker := if closes then .closing else .top }
    | _ => none
  | .close c =>
    if s.worker = .closing then some { closePipeline s false c with worker := .top } else none
  | .leave c =>
    if s.worker = .leaving then some { closePipeline s true c with worker := .finished } else none

/-- The pipeline and the directory stay, or the pipeline is gone and files may be. -/
def Retired (s : State) (entries : List Entry) (pipeline : Option Pipeline) : Prop :=
  pipeline = s.pipeline ∧ entries = s.entries ∨ pipeline = none ∧ entries.Sublist s.entries

/-- `close_pipeline` in the recorder's own fields. -/
theorem closePipeline_eq (s : State) (finalize : Bool) (c : Closing) : ∃ control entries,
    entries.Sublist s.entries ∧ closePipeline s finalize c =
      { s with pipeline := none, control := control, entries := entries } := by
  cases pipeline : s.pipeline with
  | none =>
    refine ⟨s.control, s.entries, .refl _, ?_⟩
    simp only [closePipeline, pipeline]
    rw [← pipeline]
  | some p =>
    simp only [closePipeline, pipeline]
    exact ⟨_, _, enforceQuota_sublist _ _ _, rfl⟩

/-- A pop that finds nothing changes nothing, one that finds a unit takes it. -/
theorem pop_cases (s : State) :
    (s.queue.items = [] ∧ pop s = { s with worker := .popped none }) ∨
    (∃ front rest, s.queue.items = front :: rest ∧
      pop s = { s with queue := s.queue.takeFront.2, worker := .popped (some front) }) := by
  cases items : s.queue.items with
  | nil => exact .inl ⟨rfl, by simp only [pop, BoundedQueue.takeFront_nil items]⟩
  | cons front rest =>
    refine .inr ⟨front, rest, rfl, ?_⟩
    unfold pop
    rw [BoundedQueue.takeFront_eq items]

/-- **What the drop count can do**: it closes the gate, or it leaves an open gate and its
pipeline alone. -/
theorem read_cases (s : State) (unit : Option (Stamped EncodedAccessUnit)) (c : Closing) :
    (∃ control entries pipeline, Retired s entries pipeline ∧ read s unit c = { s with
      control := control, entries := entries, pipeline := pipeline, waitingForKeyframe := true,
      observedQueueDrops := s.queue.stats.dropped, worker := .poll unit }) ∨
    (s.waitingForKeyframe = false ∧ s.observedQueueDrops = s.queue.stats.dropped ∧
      read s unit c = { s with worker := .poll unit }) := by
  unfold read
  by_cases drops : s.queue.stats.dropped = s.observedQueueDrops
  · rw [if_neg (not_not.2 drops)]
    cases waiting : s.waitingForKeyframe with
    | true =>
      refine .inl ⟨s.control, s.entries, s.pipeline, .inl ⟨rfl, rfl⟩, ?_⟩
      rw [← waiting, drops]
    | false => exact .inr ⟨rfl, drops.symm, by rw [← waiting]⟩
  · obtain ⟨control, entries, sub, closed⟩ := closePipeline_eq s true c
    simp only [drops, ne_eq, not_false_eq_true, ↓reduceIte, closed]
    exact .inl ⟨control, entries, none, .inr ⟨rfl, sub⟩, rfl⟩

/-- **What polling the bus can do.** -/
theorem poll_cases (s : State) (unit : Option (Stamped EncodedAccessUnit)) (event : BusEvent) :
    (∃ error, s.pipeline ≠ none ∧ poll s unit event = { s with worker := .failing error true }) ∨
    (unit = none ∧ poll s unit event = { s with worker := .ending }) ∨
    (∃ u, unit = some u ∧ poll s unit event = { s with worker := .gate u }) := by
  unfold poll
  split
  · rename_i p detail held
    exact .inl ⟨detail, by simp [held], rfl⟩
  · rename_i p held
    exact .inl ⟨_, by simp [held], rfl⟩
  · cases unit with
    | none => exact .inr (.inl ⟨rfl, rfl⟩)
    | some u => exact .inr (.inr ⟨u, rfl, rfl⟩)

/-- **What the gate can do**: skip a delta and stay closed, or let the unit through; without a
pipeline it lets a keyframe through only. -/
theorem gate_cases (s : State) (unit : Stamped EncodedAccessUnit) (steady : Nat) (c : Closing) :
    (∃ control entries pipeline, Retired s entries pipeline ∧ gate s unit steady c = { s with
      control := control, entries := entries, pipeline := pipeline, waitingForKeyframe := true,
      worker := .top }) ∨
    (∃ control entries sessionId,
      unit.val.keyframe = true ∧ entries.Sublist s.entries ∧ gate s unit steady c = { s with
        control := control, entries := entries, pipeline := none, sessionId := sessionId,
        waitingForKeyframe := false, worker := .opening unit }) ∨
    (∃ sessionId, (unit.val.keyframe = true ∨ s.waitingForKeyframe = false) ∧
      gate s unit steady c = { s with
        sessionId := sessionId, waitingForKeyframe := false, worker := .opening unit }) := by
  obtain ⟨control, entries, sub, closed⟩ := closePipeline_eq s true c
  cases key : unit.val.keyframe with
  | true =>
    cases broken : unit.val.discontinuity with
    | true =>
      refine .inr (.inl ⟨control, entries, Nat.toDigits 10 steady, rfl, sub, ?_⟩)
      simp [gate, broken, key, closed]
    | false =>
      cases waiting : s.waitingForKeyframe with
      | true =>
        refine .inr (.inr ⟨Nat.toDigits 10 steady, .inl rfl, ?_⟩)
        simp [gate, broken, key, waiting]
      | false =>
        refine .inr (.inr ⟨s.sessionId, .inl rfl, ?_⟩)
        simp [gate, broken, waiting]
  | false =>
    cases broken : unit.val.discontinuity with
    | true =>
      refine .inl ⟨control.addDropped, entries, none, .inr ⟨rfl, sub⟩, ?_⟩
      simp [gate, broken, key, closed]
    | false =>
      cases waiting : s.waitingForKeyframe with
      | true =>
        refine .inl ⟨s.control.addDropped, s.entries, s.pipeline, .inl ⟨rfl, rfl⟩, ?_⟩
        simp [gate, broken, key, waiting]
      | false =>
        refine .inr (.inr ⟨s.sessionId, .inr rfl, ?_⟩)
        simp [gate, broken, waiting]

theorem prepareDirectory_cases (s : State) (o : Opening) :
    (∃ entries error, entries.Sublist s.entries ∧ prepareDirectory s o = (entries, some error)) ∨
    prepareDirectory s o =
      (enforceQuota o.inspection s.config.maxStorageMb s.entries, none) := by
  have kept := enforceQuota_sublist o.inspection s.config.maxStorageMb s.entries
  unfold prepareDirectory
  split
  · exact .inl ⟨_, _, .refl _, rfl⟩
  · simp only
    split
    · exact .inl ⟨_, _, kept, rfl⟩
    · split
      · exact .inl ⟨_, _, kept, rfl⟩
      · exact .inr rfl

/-- **What opening can do**: fail and leave no pipeline, or start a new list behind an
`enforce_quota`. -/
theorem openPipeline_cases (s : State) (o : Opening) :
    (∃ entries error, entries.Sublist s.entries ∧
      openPipeline s o = ({ s with entries := entries }, some error)) ∨
    openPipeline s o =
      ({ s with
          entries := enforceQuota o.inspection s.config.maxStorageMb s.entries
          pipeline := some { found := s.entries }
          written := [] }, none) := by
  have kept := enforceQuota_sublist o.inspection s.config.maxStorageMb s.entries
  rcases prepareDirectory_cases s o with ⟨entries, error, sub, fails⟩ | prepared
  · simp only [openPipeline, fails]
    exact .inl ⟨entries, error, sub, rfl⟩
  · simp only [openPipeline, prepared]
    split
    · exact .inl ⟨_, _, kept, rfl⟩
    · exact .inl ⟨_, _, (enforceQuota_sublist _ _ _).trans kept, rfl⟩
    · exact .inr rfl

end RecordingModule

end SkaiEdge.Video
