import Mathlib

/-!
# `RecordingController` (`include/skai/video/recording_control.hpp`, `src/video/recording.cpp`)

Every member function is one critical section of `mutex_`. Texts are lists of characters.
-/

namespace SkaiEdge.Video

/-- The texts of `status_.state`. -/
inductive RecordingState where
  | stopped
  | unavailable
  | starting
  | recording
  | stopping
  | error
  deriving DecidableEq, Repr

structure RecordingStatus where
  configured : Bool := false
  available : Bool := true
  active : Bool := false
  state : RecordingState := .stopped
  currentPath : List Char := []
  lastError : List Char := []
  unavailableReason : List Char := []
  accessUnitsWritten : Nat := 0
  bytesWritten : Nat := 0
  accessUnitsDropped : Nat := 0
  deriving DecidableEq, Repr

structure RecordingController where
  configured : Bool := false
  requested : Bool := false
  mediaAvailable : Bool := true
  mediaUnavailableReason : List Char := []
  status : RecordingStatus := {}
  deriving DecidableEq, Repr

namespace RecordingController

/-- `configure`, given `config.enabled`. -/
def configure (c : RecordingController) (enabled : Bool) : RecordingController :=
  { c with
    configured := true
    requested := enabled
    status :=
      { configured := true
        available := c.mediaAvailable
        unavailableReason := c.mediaUnavailableReason
        state := if !c.mediaAvailable then .unavailable else if enabled then .starting else .stopped } }

/-- `start`, with the text it leaves in `error`. -/
def start (c : RecordingController) : Except (List Char) RecordingController :=
  if !c.configured then .error "recording is not configured".toList
  else if !c.mediaAvailable then
    .error (if c.mediaUnavailableReason.isEmpty then "source H.264 is unavailable".toList
      else c.mediaUnavailableReason)
  else
    .ok { c with
      requested := true
      status := { c.status with
        lastError := []
        state := if !c.status.active then .starting else c.status.state } }

def stop (c : RecordingController) : Except (List Char) RecordingController :=
  if !c.configured then .error "recording is not configured".toList
  else
    .ok { c with
      requested := false
      status := { c.status with state := if c.status.active then .stopping else .stopped } }

/-- `requested()`. -/
def isRequested (c : RecordingController) : Bool := c.requested && c.mediaAvailable

def setActive (c : RecordingController) (path : List Char) : RecordingController :=
  { c with status := { c.status with active := true, state := .recording, currentPath := path } }

def setStopped (c : RecordingController) : RecordingController :=
  { c with status := { c.status with
      active := false
      state := if !c.requested && c.status.state != .error then .stopped else c.status.state } }

def setError (c : RecordingController) (error : List Char) : RecordingController :=
  { c with
    requested := false
    status := { c.status with active := false, state := .error, lastError := error } }

def commitWritten (c : RecordingController) (accessUnits bytes : Nat) : RecordingController :=
  { c with status := { c.status with
      accessUnitsWritten := c.status.accessUnitsWritten + accessUnits
      bytesWritten := c.status.bytesWritten + bytes } }

def addDropped (c : RecordingController) : RecordingController :=
  { c with status := { c.status with accessUnitsDropped := c.status.accessUnitsDropped + 1 } }

def setMediaAvailable (c : RecordingController) (available : Bool) (reason : List Char) :
    RecordingController :=
  let reason := if available then [] else reason
  let state := c.status.state
  { c with
    mediaAvailable := available
    mediaUnavailableReason := reason
    status := { c.status with
      available := available
      unavailableReason := reason
      active := if !available then false else c.status.active
      state :=
        if !available then if state != .error then .unavailable else state
        else if c.requested && !c.status.active then .starting
        else if !c.requested && state != .error then .stopped
        else state } }

/-- A refused `start` or `stop` leaves the controller as it is. -/
def orElse (c : RecordingController) : Except (List Char) RecordingController → RecordingController
  | .ok changed => changed
  | .error _ => c

end RecordingController

end SkaiEdge.Video
