import SkaiEdge.Lib.Runs

/-!
# The browser's WHEP session (`web/app.js`)

One JavaScript thread: code between two `await`s is one step, and a `connectVideo` run waits at
its `await` until the promise settles. Every event may come while runs wait: a retry timer, a
change of a connection's state, `pagehide`, another `connectVideo`. A run compares its own
`generation` with `videoGeneration` to see whether it was overtaken; `closeVideoSession` raises
`videoGeneration`.

`posts` and `deletes` are ghost: the `Location`s of the successful POSTs, and the `DELETE`s sent.
-/

namespace SkaiEdge.Browser

open SkaiEdge.Lib

/-- The `await` at which a run of `connectVideo` stands. -/
inductive Stage where
  | createOffer
  | setLocalDescription
  | iceGathering
  /-- `fetch` of the POST. -/
  | posting
  /-- `response.text()`, with the `Location` of the response. -/
  | reading (location : Option (List Char))
  | setRemoteDescription
  | returned
  deriving DecidableEq, Repr

/-- A run of `connectVideo` and the `RTCPeerConnection` it created. -/
structure Run where
  generation : Nat
  stage : Stage
  peerClosed : Bool
  deriving DecidableEq, Repr

inductive ConnectionState where
  | new
  | connecting
  | connected
  | disconnected
  | failed
  | closed
  deriving DecidableEq, Repr

/-- How an `await` ends. -/
inductive Settled (α : Type) where
  | resolved (value : α)
  | rejected
  deriving DecidableEq, Repr

/-- What `connectVideo` reads of the response to its POST. -/
structure Response where
  ok : Bool
  location : Option (List Char)
  deriving DecidableEq, Repr

structure State where
  videoGeneration : Nat := 0
  videoRetryTimer : Nat := 0
  activeWhepLocation : List Char := []
  /-- The run whose connection it is. -/
  activePeer : Option Nat := none
  /-- Timers that wait, and how many were ever set; their ids start at 1. -/
  timers : List Nat := []
  timersSet : Nat := 0
  runs : List Run := []
  posts : List (List Char) := []
  deletes : List (List Char) := []
  deriving DecidableEq, Repr

/-- An empty text is no `Location`, as in `if (location)`. -/
def located (location : List Char) : List (List Char) :=
  if location.isEmpty then [] else [location]

/-- `if (location) fetch(location, {method: "DELETE"})`. -/
def sendDelete (s : State) (location : List Char) : State :=
  { s with deletes := s.deletes ++ located location }

def closePeer (run : Run) : Run := { run with peerClosed := true }

def closeVideoSession (s : State) : State :=
  let location := s.activeWhepLocation
  let s := { s with
    videoGeneration := s.videoGeneration + 1
    timers := s.timers.erase s.videoRetryTimer
    activeWhepLocation := []
    activePeer := none
    runs := match s.activePeer with
      | some peer => s.runs.modify peer closePeer
      | none => s.runs }
  sendDelete s location

def retryVideo (s : State) (generation : Nat) : State :=
  if generation ≠ s.videoGeneration then s
  else { s with
    timers := s.timers ++ [s.timersSet + 1]
    timersSet := s.timersSet + 1
    videoRetryTimer := s.timersSet + 1 }

/-- `connectVideo` up to its first `await`. -/
def connectVideo (s : State) : State :=
  let s := closeVideoSession s
  { s with
    activePeer := some s.runs.length
    runs := s.runs ++ [⟨s.videoGeneration, .createOffer, false⟩] }

/-- The `connectionstatechange` listener of a run's connection. -/
def connectionStateChange (s : State) (generation : Nat) (state : ConnectionState) : State :=
  if generation ≠ s.videoGeneration then s
  else if state = .failed ∨ state = .disconnected ∨ state = .closed then
    let s := closeVideoSession s
    retryVideo s s.videoGeneration
  else s

/-- Run `i`, which is `run`, goes on to its next `await`. -/
def moveTo (s : State) (i : Nat) (run : Run) (stage : Stage) : State :=
  { s with runs := s.runs.set i { run with stage := stage } }

/-- The `catch` of `connectVideo`. -/
def fail (s : State) (i : Nat) (run : Run) : State :=
  let s := moveTo s i run .returned
  if run.generation ≠ s.videoGeneration then s
  else
    let s := closeVideoSession s
    retryVideo s s.videoGeneration

/-- The POST was answered. -/
def onResponse (s : State) (i : Nat) (run : Run) (response : Response) : State :=
  if !response.ok then fail s i run
  else { moveTo s i run (.reading response.location) with
    posts := s.posts ++ located (response.location.getD []) }

/-- The body was read. -/
def onAnswer (s : State) (i : Nat) (run : Run) (location : Option (List Char)) : State :=
  if run.generation ≠ s.videoGeneration then
    sendDelete (moveTo s i run .returned) (location.getD [])
  else
    { moveTo s i run .setRemoteDescription with activeWhepLocation := location.getD [] }

inductive Action where
  /-- A call of `connectVideo`, as `initializeVideo` makes. -/
  | connect
  /-- A retry timer fires. -/
  | timer (id : Nat)
  | stateChange (run : Nat) (state : ConnectionState)
  | pagehide
  /-- The promise a run waits for settles; `response` is the value of a `fetch`. -/
  | settle (run : Nat) (outcome : Settled Response)
  deriving DecidableEq, Repr

/-- Run `i` goes on from its `await`. Only the value of the `fetch` matters. -/
def resume (s : State) (i : Nat) (run : Run) : Settled Response → Option State
  | .rejected =>
    match run.stage with
    | .returned => none
    | _ => some (fail s i run)
  | .resolved response =>
    match run.stage with
    | .createOffer => some (moveTo s i run .setLocalDescription)
    | .setLocalDescription => some (moveTo s i run .iceGathering)
    | .iceGathering => some (moveTo s i run .posting)
    | .posting => some (onResponse s i run response)
    | .reading location => some (onAnswer s i run location)
    | .setRemoteDescription => some (moveTo s i run .returned)
    | .returned => none

def step (s : State) : Action → Option State
  | .connect => some (connectVideo s)
  | .timer id =>
    if id ∈ s.timers then some (connectVideo { s with timers := s.timers.erase id }) else none
  | .stateChange i state => do
    let run ← s.runs[i]?
    some (connectionStateChange s run.generation state)
  | .pagehide => some (closeVideoSession s)
  | .settle i outcome => do
    let run ← s.runs[i]?
    resume s i run outcome

end SkaiEdge.Browser
