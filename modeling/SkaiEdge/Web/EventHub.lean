import SkaiEdge.Lib.Fanout
import SkaiEdge.Web.EventDelivery

/-!
# From the modules to every browser (`src/events.cpp`, `src/web/websocket_session.cpp`)

`EventChannel::publish` copies the subscribers under the lock and calls them without it, so a
session can subscribe, unsubscribe, stop or be destroyed between the copy and its call. Modules
publish from their own threads. A session subscribes once, when its handshake is done, and gives
the subscription up in `stop`, in `cleanup` or in its destructor, whichever comes first; the
callback holds a weak pointer, which finds nothing once the session is destroyed.

`received` tags what was pushed into a session's inbox with the thread it came from, `heard` has
what each publisher published while a session was open, whoever the channel called. They,
`subscribed`, `errors` and the ledger of the fanout are ghost.
-/

namespace SkaiEdge.Web

open SkaiEdge.Lib

structure EventChannel where
  nextId : Nat := 1
  /-- The ids and, for the callbacks, the sessions they point to. -/
  subscribers : List (Nat × Nat) := []
  recentErrors : List (List Char) := []

namespace EventChannel

/-- `next_id_` has 64 bits, and `emplace` leaves an id that is there as it is. -/
def subscribe (c : EventChannel) (session : Nat) : Nat × EventChannel :=
  (c.nextId,
    { c with
      nextId := (c.nextId + 1) % 2 ^ 64
      subscribers := if c.subscribers.any (·.1 = c.nextId) then c.subscribers
        else c.subscribers ++ [(c.nextId, session)] })

def unsubscribe (c : EventChannel) (id : Nat) : EventChannel :=
  { c with subscribers := c.subscribers.filter (·.1 ≠ id) }

/-- The critical section of `publish`: the error log and the copy of the subscribers. -/
def publish (c : EventChannel) (type : EventType) (event : List Char) : List Nat × EventChannel :=
  (c.subscribers.map Prod.snd,
    if type = .systemError then
      let errors := if c.recentErrors.length = 10 then c.recentErrors.drop 1 else c.recentErrors
      { c with recentErrors := errors ++ [event] }
    else c)

end EventChannel

/-- A `WebSocketSession` from its construction on. -/
structure Client where
  web : State := {}
  handshaking : Bool := true
  /-- `subscription_id_`; 0 without one. -/
  subscriptionId : Nat := 0
  /-- The server's list of sessions has it. -/
  registered : Bool := false
  alive : Bool := true
  received : List (Nat × List Char) := []

namespace Client

/-- From the end of its handshake until it stops, closes or is destroyed. -/
def listening (s : Client) : Bool :=
  s.alive && !s.handshaking && !s.web.closed && !s.web.stopping

def unsubscribe (c : EventChannel) (s : Client) : EventChannel × Client :=
  if s.subscriptionId ≠ 0 then (c.unsubscribe s.subscriptionId, { s with subscriptionId := 0 })
  else (c, s)

/-- `on_accept`, up to the events it enqueues; `self` is the session's own callback. -/
def onAccept (c : EventChannel) (self : Nat) (s : Client) (error : Bool) : EventChannel × Client :=
  if error then
    unsubscribe c { s with handshaking := false, web := Web.cleanup s.web, registered := false }
  else
    let (id, c) := c.subscribe self
    (c, { s with handshaking := false, registered := true, subscriptionId := id })

/-- `cleanup`; `web` is the session behind it. -/
def cleanup (c : EventChannel) (s : Client) (web : State) : EventChannel × Client :=
  if s.web.closed then (c, { s with web := web })
  else unsubscribe c { s with web := web, registered := false }

def stop (c : EventChannel) (s : Client) (web : State) : EventChannel × Client :=
  if s.web.closed || s.web.stopping then (c, { s with web := web })
  else unsubscribe c { s with web := web }

/-- A handler of the session; a push comes from a publisher. -/
def handler (c : EventChannel) (s : Client) (action : Action) : Option (EventChannel × Client) := do
  let web ← step s.web action
  match action with
  | .push _ _ _ => none
  | .written true | .cleanup => return s.cleanup c web
  | .stop => return s.stop c web
  | _ => return (c, { s with web := web })

/-- The callback; a session that is gone takes nothing. -/
def notify (s : Client) (publisher : Nat) (event : List Char) : Client :=
  if s.alive then
    { s with web := pushIncoming s.web event, received := s.received ++ [(publisher, event)] }
  else s

/-- What came from one publisher. -/
def receivedFrom (s : Client) (publisher : Nat) : List (List Char) :=
  (s.received.filter (·.1 = publisher)).map Prod.snd

end Client

structure Hub where
  channel : EventChannel := {}
  clients : List Client := []
  fanout : Fanout Nat Nat (List Char) := .idle
  heard : Nat → Nat → List (List Char) := fun _ _ => []
  subscribed : Nat := 0
  errors : List (List Char) := []

namespace Hub

inductive Move where
  /-- An upgrade request: the session is built and `async_accept` begins. -/
  | connect
  | onAccept (i : Nat) (error : Bool)
  | handler (i : Nat) (action : Action)
  /-- The last reference to the session goes. -/
  | destroy (i : Nat)
  | publish (publisher : Nat) (type : EventType) (timestamp dataJson : List Char)
  /-- A publisher makes one of the calls left. -/
  | call (publisher : Nat) (j : Nat)

def set (h : Hub) (i : Nat) (after : EventChannel × Client) : Hub :=
  { h with channel := after.1, clients := h.clients.set i after.2 }

/-- A publisher's call holds the session until its post is made, a running drain does so too. -/
def step (h : Hub) : Move → Option Hub
  | .connect => some { h with clients := h.clients ++ [{}] }
  | .onAccept i error => do
    let s ← h.clients[i]?
    if s.alive && s.handshaking then
      let h' := h.set i (s.onAccept h.channel i error)
      return { h' with subscribed := h.subscribed + if error then 0 else 1 }
    else none
  | .handler i action => do
    let s ← h.clients[i]?
    if s.alive && !s.handshaking && (action ≠ .stop || s.registered) then
      return h.set i (← s.handler h.channel action)
    else none
  | .destroy i => do
    let s ← h.clients[i]?
    if s.alive && s.web.posters = 0 && s.web.batch.isEmpty then
      return h.set i (Client.unsubscribe h.channel { s with alive := false, registered := false })
    else none
  | .publish publisher type timestamp dataJson =>
    if (h.fanout.pending publisher).isEmpty then
      let event := makeEventJson type timestamp dataJson
      let (receivers, channel) := h.channel.publish type event
      some { h with
        channel := channel
        fanout := h.fanout.publish publisher event receivers
        heard := fun p i => h.heard p i ++
          if p = publisher ∧ h.clients[i]?.any Client.listening then [event] else []
        errors := if type = .systemError then h.errors ++ [event] else h.errors }
    else none
  | .call publisher j => do
    let (receiver, fanout) ← h.fanout.call publisher j
    return { h with
      fanout := fanout
      clients := h.clients.modify receiver.1 fun s => s.notify publisher receiver.2 }

end Hub

end SkaiEdge.Web
