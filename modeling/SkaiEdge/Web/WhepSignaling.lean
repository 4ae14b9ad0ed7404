import SkaiEdge.WebRtc.WebRtcManager

/-!
# WHEP requests on their way through the server (`src/web/http_server.cpp`)

A POST to `/api/v1/webrtc/whep` takes a place among the signaling jobs and is routed by one of the
two threads of `signaling_pool_`, where `create_session` may wait for ICE; everything else of an
exchange runs on the one thread of the io context. `send` remembers the session of a 201, and
closes it again when the answer cannot be written. The moves of the manager are those of
`WebRtcManager`, except that a session is created by an exchange alone.

`handle` and `found` are ghost: the session an exchange created, and the count it met.
-/

namespace SkaiEdge.Web.WhepSignaling

open SkaiEdge.Lib SkaiEdge.WebRtc

inductive Response where
  /-- 429, "signaling queue is full". -/
  | busy
  /-- 415, "Content-Type must be application/sdp". -/
  | unsupported
  /-- What `create_session` returned: 201 under the session's path, or an error. -/
  | routed (result : CreateSessionResult)
  deriving DecidableEq, Repr

/-- `pending_session_id_` of `send`: the id behind the prefix of a 201's location. -/
def Response.pendingSessionId : Response → String
  | .routed result => if result.error = .none then result.sessionId else ""
  | _ => ""

/-- Where an exchange stands. -/
inductive Phase where
  | read
  /-- Behind `fetch_add`. -/
  | counted (previous : Nat)
  | posted
  /-- Inside `create_session`, behind its first critical section. -/
  | creating
  | routed (response : Response)
  /-- The job is over, its response waits for the io thread. -/
  | answered (response : Response)
  | writing (response : Response)
  | closed (response : Response) (error : Bool)
  deriving DecidableEq, Repr

/-- The exchange has a signaling job. -/
def Phase.job : Phase → Bool
  | .posted | .creating | .routed _ => true
  | _ => false

def Phase.running : Phase → Bool
  | .creating | .routed _ => true
  | _ => false

def Phase.counting : Phase → Bool
  | .counted _ => true
  | _ => false

def Phase.response : Phase → Option Response
  | .routed response | .answered response | .writing response | .closed response _ => some response
  | _ => none

structure Exchange where
  phase : Phase := .read
  handle : Option Nat := none
  found : Nat := 0
  deriving DecidableEq

structure State where
  manager : WebRtcManager.State
  signalingJobs : Nat := 0
  signalingLimit : Nat
  exchanges : List Exchange := []

/-- `State` of the server; `signaling_limit` comes from the configured `max_peers`. -/
def init (staleTimeout maxPeers : Nat) : State :=
  { manager := WebRtcManager.init staleTimeout, signalingLimit := max 1 maxPeers }

inductive Move where
  | read
  /-- `signaling_jobs_.fetch_add(1)`. -/
  | count (e : Nat)
  /-- The comparison behind it: the refusal, or the post to the pool. -/
  | dispatch (e : Nat)
  /-- A thread of the pool begins the job; `sdp` and `empty` are the content type and the body. -/
  | create (e : Nat) (sdp empty : Bool) (id : String) (startTimestamp : UInt32) (built : Bool)
  | returns (e : Nat)
  /-- `fetch_sub(1)` and the post to the stream's executor. -/
  | release (e : Nat)
  | send (e : Nat)
  | written (e : Nat) (error : Bool)
  | manager (action : WebRtcManager.Action)
  deriving DecidableEq, Repr

def set (s : State) (e : Nat) (exchange : Exchange) : State :=
  { s with exchanges := s.exchanges.set e exchange }

def emptyOffer : CreateSessionResult := { error := .invalidOffer, message := "SDP offer is empty" }

def creationFailed : CreateSessionResult :=
  { error := .internal, message := "PeerConnection creation failed" }

/-- The first critical section of `create_session`: an answer at once, or a session. -/
def create (s : State) (e : Nat) (exchange : Exchange) (id : String) (startTimestamp : UInt32)
    (built : Bool) : Option State :=
  (WebRtcManager.step s.manager (.register id startTimestamp built)).map fun manager =>
    let s' := { s with manager := manager }
    if manager.peers.length = s.manager.peers.length then
      let result := (WebRtcManager.refusal s.manager).getD creationFailed
      set s' e { exchange with phase := .routed (.routed result) }
    else
      set s' e { exchange with phase := .creating, handle := some s.manager.peers.length }

/-- The moves the manager makes on its own or for other requests; an accepted offer answers under
the id of its session. -/
def foreign (s : State) : WebRtcManager.Action → Bool
  | .register _ _ _ => false
  | .peer handle (.accept _ outcome) =>
    outcome.error ≠ .none ||
      (s.manager.peers[handle]?).any fun p => outcome.sessionId = p.session.id
  | _ => true

def step (s : State) : Move → Option State
  | .read => some { s with exchanges := s.exchanges ++ [{}] }
  | .count e => do
    let exchange ← s.exchanges[e]?
    -- one handler of the io thread at a time
    if exchange.phase = .read && !s.exchanges.any fun other => other.phase.counting then
      return { set s e { exchange with phase := .counted s.signalingJobs, found := s.signalingJobs } with
        signalingJobs := s.signalingJobs + 1 }
    else none
  | .dispatch e => do
    let exchange ← s.exchanges[e]?
    match exchange.phase with
    | .counted previous =>
      if previous ≥ s.signalingLimit then
        return { set s e { exchange with phase := .writing .busy } with
          signalingJobs := s.signalingJobs - 1 }
      else return set s e { exchange with phase := .posted }
    | _ => none
  | .create e sdp empty id startTimestamp built => do
    let exchange ← s.exchanges[e]?
    if exchange.phase = .posted && (s.exchanges.countP fun other => other.phase.running) < 2 then
      if !sdp then return set s e { exchange with phase := .routed .unsupported }
      else if empty then return set s e { exchange with phase := .routed (.routed emptyOffer) }
      -- sixteen random bytes in hexadecimal
      else if id.length = 32 then create s e exchange id startTimestamp built
      else none
    else none
  | .returns e => do
    let exchange ← s.exchanges[e]?
    let handle ← exchange.handle
    let p ← s.manager.peers[handle]?
    match exchange.phase, p.call with
    | .creating, .returned result => return set s e { exchange with phase := .routed (.routed result) }
    | _, _ => none
  | .release e => do
    let exchange ← s.exchanges[e]?
    match exchange.phase with
    | .routed response =>
      return { set s e { exchange with phase := .answered response } with
        signalingJobs := s.signalingJobs - 1 }
    | _ => none
  | .send e => do
    let exchange ← s.exchanges[e]?
    match exchange.phase with
    | .answered response => return set s e { exchange with phase := .writing response }
    | _ => none
  | .written e error => do
    let exchange ← s.exchanges[e]?
    match exchange.phase with
    | .writing response =>
      let s' := set s e { exchange with phase := .closed response error }
      return if error && response.pendingSessionId ≠ "" then
        { s' with manager := WebRtcManager.closeSession s.manager response.pendingSessionId }
      else s'
    | _ => none
  | .manager action =>
    if foreign s action then
      (WebRtcManager.step s.manager action).map fun manager => { s with manager := manager }
    else none

end SkaiEdge.Web.WhepSignaling
