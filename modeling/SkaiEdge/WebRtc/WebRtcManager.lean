import SkaiEdge.Lib.Runs
import SkaiEdge.WebRtc.WebRtcSession

/-!
# `WebRtcManager` (`src/webrtc/webrtc_manager.cpp`)

The manager's critical sections, one step each, interleaved with the steps of its sessions.
Sessions are never taken out of `peers`: `sessions_` is the registered ones among them, and a
session that leaves it keeps its worker, the calls that are about to close it and the
publisher's claim on it. Any number of `create_session` calls may run, one behind each peer;
`configure` and `shutdown` come from one thread (`lifecycle`), and `publish_access_unit` from
one, the source's.

`published` and the stamps are ghost: the units of all `publish_access_unit` calls, the
rejected ones included. Of `recently_closed_` and the diagnostics nothing is kept.
-/

namespace SkaiEdge.WebRtc

open SkaiEdge.Lib SkaiEdge.Core SkaiEdge.Video

inductive CreateSessionError where
  | none
  | disabled
  | capacity
  | invalidOffer
  | gatheringTimeout
  | internal
  deriving DecidableEq, Repr

structure CreateSessionResult where
  error : CreateSessionError := .none
  sessionId : String := ""
  answerSdp : String := ""
  message : String := ""
  deriving DecidableEq, Repr

structure WebrtcConfig where
  enabled : Bool := true
  maxPeers : Nat := 2
  connectionTimeoutMs : Nat := 15000
  mediaQueueCapacity : Nat := 8
  deriving DecidableEq, Repr

namespace WebRtcManager

/-- Where the `create_session` call of a registered session stands. -/
inductive Call where
  | accepting
  | failing (result : CreateSessionResult)
  | answered (result : CreateSessionResult)
  | activating (result : CreateSessionResult) (initialKeyframe : Option (Stamped EncodedAccessUnit))
  | spawning (result : CreateSessionResult)
  | refused
  | returned (result : CreateSessionResult)
  deriving DecidableEq, Repr

/-- What the publisher that took its snapshot of `sessions_` still has to do for a session:
nothing, all of `enqueue`, or the push alone. -/
inductive Turn where
  | rest
  | owed
  | checked
  deriving DecidableEq, Repr

/-- A session with what the manager's threads hold for it. `closers` are the pending calls of
`close_with_reason`. -/
structure Peer where
  session : WebRtcSession
  registered : Bool := true
  call : Call := .accepting
  turn : Turn := .rest
  closers : List String := []
  deriving DecidableEq

/-- `shutdown` has set the flags, or has emptied `sessions_` inside a `configure`. -/
inductive Lifecycle where
  | idle
  | stopping (next : Option WebrtcConfig)
  | cleared (config : WebrtcConfig)
  deriving DecidableEq, Repr

structure State where
  enabled : Bool := false
  stopping : Bool := true
  mediaAvailable : Bool := true
  mediaUnavailableReason : String := ""
  maxPeers : Nat := 0
  mediaQueueCapacity : Nat := 8
  connectionTimeout : Nat := 15000
  timeoutOverridden : Bool := false
  latestKeyframe : Option (Stamped EncodedAccessUnit) := none
  sessionsCreated : Nat := 0
  sessionsClosed : Nat := 0
  signalingErrors : Nat := 0
  lastCloseReason : String := ""
  lifecycle : Lifecycle := .idle
  peers : List Peer := []
  published : List EncodedAccessUnit := []
  inFlight : Option (Stamped EncodedAccessUnit) := none

/-- The constructor; a positive `stale_timeout` overrides the configured one. -/
def init (staleTimeout : Nat) : State :=
  { connectionTimeout := if staleTimeout > 0 then staleTimeout else 15000
    timeoutOverridden := decide (staleTimeout > 0) }

/-- Moves on one session: of its `create_session` call, of the publisher, of a call that closes
it, and its own. -/
inductive PeerAction where
  | accept (now : Nat) (outcome : CreateSessionResult)
  | capture
  | activate
  | spawn (started : Bool)
  | enqueueCheck
  | enqueuePush
  | close (index : Nat)
  | session (action : WebRtcSession.Action)
  deriving DecidableEq, Repr

inductive Action where
  | shutdown (next : Option WebrtcConfig)
  | clear
  | enable
  | setMediaAvailable (available : Bool) (reason : String)
  | publish (unit : EncodedAccessUnit)
  | publishReturns
  | register (id : String) (startTimestamp : UInt32) (built : Bool)
  | closeSession (id : String)
  | sweep (handle : Nat) (now : Nat)
  | failed (handle : Nat)
  | retreat (handle : Nat)
  | peer (handle : Nat) (action : PeerAction)
  deriving DecidableEq, Repr

/-- `publish_access_unit` and `create_session` go on. -/
def State.accepting (s : State) : Bool := s.enabled && !s.stopping && s.mediaAvailable

def sessionCount (s : State) : Nat := s.peers.countP (·.registered)

/-- `sessions_.find(id)`. -/
def find (s : State) (id : String) : Option Nat :=
  s.peers.findIdx? fun p => p.registered && p.session.id == id

/-- A session moved out of `sessions_` and handed to `remember_closed`. -/
def Peer.retire (reason : String) (p : Peer) : Peer :=
  { p with registered := false, closers := p.closers ++ [reason] }

def unregister (s : State) (reason : String) (handle : Nat) : State :=
  { s with
    peers := s.peers.modify handle (Peer.retire reason)
    sessionsClosed := s.sessionsClosed + 1
    lastCloseReason := reason }

/-- Every registered session moved out at once. -/
def unregisterAll (s : State) (reason : String) : State :=
  { s with
    peers := s.peers.map fun p => if p.registered then p.retire reason else p
    sessionsClosed := s.sessionsClosed + sessionCount s
    lastCloseReason := if sessionCount s = 0 then s.lastCloseReason else reason
    latestKeyframe := none }

def closeSession (s : State) (id : String) : State :=
  match find s id with
  | none => s
  | some handle => unregister s "client_delete" handle

/-- What `create_session` answers before it creates anything. -/
def refusal (s : State) : Option CreateSessionResult :=
  if !s.enabled || s.stopping then some { error := .disabled, message := "WebRTC is disabled" }
  else if !s.mediaAvailable then
    some {
      error := .disabled
      message := if s.mediaUnavailableReason = "" then "browser-compatible source H.264 is unavailable"
        else s.mediaUnavailableReason }
  else if sessionCount s ≥ s.maxPeers then
    some { error := .capacity, message := "maximum peer count reached" }
  else none

/-- The first critical section of `create_session`; `built` says whether `create_peer_session`
delivered a session. -/
def register (s : State) (id : String) (startTimestamp : UInt32) (built : Bool) : Option State :=
  match refusal s with
  | some _ => some s
  | none =>
    if (find s id).isSome then none
    else if positive : 0 < s.mediaQueueCapacity then
      if built then
        let session : WebRtcSession :=
          { id := id, mediaQueue := .create s.mediaQueueCapacity positive, startTimestamp := startTimestamp }
        some { s with peers := s.peers ++ [{ session := session }], sessionsCreated := s.sessionsCreated + 1 }
      else some { s with signalingErrors := s.signalingErrors + 1 }
    else some { s with signalingErrors := s.signalingErrors + 1 }

def shuttingDown : CreateSessionResult :=
  { error := .disabled, message := "WebRTC is shutting down" }

/-- The critical section behind a failed `accept_offer`: the session under this call's id leaves. -/
def failed (s : State) (handle : Nat) : Option State :=
  s.peers[handle]?.bind fun p =>
    match p.call with
    | .failing result =>
      let s := { s with
        signalingErrors := s.signalingErrors + 1
        peers := s.peers.set handle { p with call := .returned result } }
      match find s p.session.id with
      | none => some s
      | some found =>
        let s := unregister s "signaling_failure" found
        some { s with peers := s.peers.modify found fun q =>
          { q with session := q.session.recordFailure "signaling" true } }
    | _ => none

/-- `close_session` at the end of a `create_session` whose session could not be activated. -/
def retreat (s : State) (handle : Nat) : Option State :=
  s.peers[handle]?.bind fun p =>
    if p.call = .refused then
      some (closeSession
        { s with peers := s.peers.set handle { p with call := .returned shuttingDown } } p.session.id)
    else none

/-- One session of `cleanup_stale_sessions`. -/
def sweep (s : State) (handle now : Nat) : Option State :=
  s.peers[handle]?.map fun p =>
    let reason := p.session.staleReason now s.connectionTimeout
    if p.registered && reason != "" then unregister s reason handle else s

/-- The critical section of `publish_access_unit`. -/
def publish (s : State) (unit : EncodedAccessUnit) : State :=
  let stamped : Stamped EncodedAccessUnit := ⟨s.published.length, unit⟩
  let s := { s with published := s.published ++ [unit] }
  if s.accepting then
    { s with
      latestKeyframe := if unit.keyframe then some stamped
        else if unit.discontinuity then none else s.latestKeyframe
      inFlight := some stamped
      peers := s.peers.map fun p => if p.registered then { p with turn := .owed } else p }
  else s

def setMediaAvailable (s : State) (available : Bool) (reason : String) : State :=
  let reason := if available then "" else reason
  if s.mediaAvailable = available && s.mediaUnavailableReason = reason then s
  else
    let s := { s with mediaAvailable := available, mediaUnavailableReason := reason }
    if available then s else unregisterAll s "source_media_unavailable"

def enable (s : State) (config : WebrtcConfig) : State :=
  { s with
    enabled := config.enabled
    maxPeers := config.maxPeers
    mediaQueueCapacity := config.mediaQueueCapacity
    connectionTimeout := if s.timeoutOverridden then s.connectionTimeout
      else config.connectionTimeoutMs
    stopping := !config.enabled
    lifecycle := .idle }

/-- The critical section behind an accepted offer: the cached keyframe is captured. -/
def capture (s : State) (handle : Nat) (p : Peer) (result : CreateSessionResult) : Peer :=
  if s.stopping || !s.mediaAvailable || find s p.session.id != some handle then
    { p with closers := p.closers ++ ["session_closed"], call := .returned shuttingDown }
  else { p with call := .activating result s.latestKeyframe }

/-- A move on the session `p` behind `handle`. -/
def peerStep (s : State) (handle : Nat) (p : Peer) : PeerAction → Option Peer
  | .accept now outcome =>
    if p.call = .accepting then
      if outcome.error = .none then
        (p.session.answer now).map fun session => { p with session := session, call := .answered outcome }
      else some { p with call := .failing outcome }
    else none
  | .capture =>
    match p.call with
    | .answered result => some (capture s handle p result)
    | _ => none
  | .activate =>
    match p.call with
    | .activating result initialKeyframe =>
      match p.session.activateMedia initialKeyframe with
      | none => some { p with call := .refused }
      | some session => some { p with session := session, call := .spawning result }
    | _ => none
  | .spawn started =>
    match p.call with
    | .spawning result =>
      some { p with
        session := p.session.spawn started
        call := if started then .returned result else .refused }
    | _ => none
  | .enqueueCheck =>
    if p.turn = .owed then
      some { p with turn := if p.session.mediaRunning then .checked else .rest }
    else none
  | .enqueuePush =>
    if p.turn = .checked then
      s.inFlight.map fun unit => { p with session := p.session.enqueue unit, turn := .rest }
    else none
  | .close index =>
    if p.session.worker = .starting then none
    else p.closers[index]?.map fun reason =>
      { p with session := p.session.closeWithReason reason, closers := p.closers.eraseIdx index }
  | .session action => (p.session.step action).map fun session => { p with session := session }

def step (s : State) : Action → Option State
  | .shutdown next =>
    if s.lifecycle = .idle then
      some { s with enabled := false, stopping := true, lifecycle := .stopping next }
    else none
  | .clear =>
    match s.lifecycle with
    | .stopping next =>
      some { unregisterAll s "service_shutdown" with lifecycle := next.elim .idle .cleared }
    | _ => none
  | .enable =>
    match s.lifecycle with
    | .cleared config => some (enable s config)
    | _ => none
  | .setMediaAvailable available reason => some (setMediaAvailable s available reason)
  | .publish unit => if s.inFlight = none then some (publish s unit) else none
  | .publishReturns =>
    if s.peers.all (fun p => p.turn = .rest) then some { s with inFlight := none } else none
  | .register id startTimestamp built => register s id startTimestamp built
  | .closeSession id => some (closeSession s id)
  | .sweep handle now => sweep s handle now
  | .failed handle => failed s handle
  | .retreat handle => retreat s handle
  | .peer handle action =>
    s.peers[handle]?.bind fun p =>
      (peerStep s handle p action).map fun q => { s with peers := s.peers.set handle q }

end WebRtcManager

end SkaiEdge.WebRtc
