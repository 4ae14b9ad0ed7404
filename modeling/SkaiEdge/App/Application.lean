import SkaiEdge.Lib.Runs

/-!
# `Application` (`src/application.cpp`)

One thread calls `initialize` and `start`, any number of threads call `stop` and `wait`. What
runs with `mutex_` held is one step: all of `initialize` and of a `start` that succeeds, and the
changes of state at both ends of `stop` and `wait`. Their loops over `active_` run without the
lock, one step for each module, and nothing but the state keeps two threads out of them. A
`start` that fails leaves the lock and then calls `stop` and `wait` itself.

`log` is ghost: the calls the modules received, in order.
-/

namespace SkaiEdge.App

inductive Module where
  | storage
  | webrtc
  | whip
  | web
  | encoder
  | detector
  | recording
  | video
  | gps
  deriving DecidableEq, Repr

namespace Module

/-- The order of initialization. -/
def ordered : List Module :=
  [storage, webrtc, whip, web, encoder, detector, recording, video, gps]

def name : Module → String
  | storage => "storage"
  | webrtc => "webrtc"
  | whip => "whip"
  | web => "web"
  | encoder => "encoder"
  | detector => "detector"
  | recording => "recording"
  | video => "video"
  | gps => "gps"

end Module

/-- How a module answers `initialize` or `start`. -/
inductive Answer where
  | returned (ok : Bool)
  /-- A `std::exception`. -/
  | threw
  deriving DecidableEq, Repr

def tryAction : Answer → Bool
  | .returned ok => ok
  | .threw => false

/-- A call that a module received. -/
inductive Event where
  | initialized (module : Module)
  | initializeFailed (module : Module)
  | start (module : Module)
  | stop (module : Module)
  | wait (module : Module)
  deriving DecidableEq, Repr

/-- `Application::State`. -/
inductive Phase where
  | new
  | initialized
  | running
  | stopping
  | stopped
  | joining
  deriving DecidableEq, Repr

/-- The members that `mutex_` guards. -/
structure Application where
  phase : Phase := .new
  active : List Module := []
  lastError : String := ""
  lastErrorModule : String := "core"
  deriving DecidableEq, Repr

/-- What a call of `initialize` meets: the error of `load_config`, the modules' answers and the
texts of `last_error`. -/
structure Surroundings where
  configError : Option String
  answers : Module → Answer
  details : Module → String

/-- The loop of `initialize`: the modules initialized and the one that failed. -/
def initializeModules (answers : Module → Answer) : List Module → List Module × Option Module
  | [] => ([], none)
  | module :: rest =>
    if tryAction (answers module) then
      ((initializeModules answers rest).1.cons module, (initializeModules answers rest).2)
    else ([], some module)

def stops (active : List Module) : List Event := active.reverse.map .stop

def waits (active : List Module) : List Event := active.reverse.map .wait

/-- `Application::initialize`, with the calls it makes. -/
def Application.initializeCall (present : Module → Bool) (env : Surroundings) (app : Application) :
    Bool × Application × List Event :=
  if app.phase ≠ .new then
    (false, { app with
      lastError := "application must be stopped and joined before initialization"
      lastErrorModule := "core" }, [])
  else
    match env.configError with
    | some error => (false, { app with lastError := error, lastErrorModule := "config" }, [])
    | none =>
      let (initialized, failed) := initializeModules env.answers (Module.ordered.filter present)
      match failed with
      | none =>
        (true, { app with
          phase := .initialized
          active := app.active ++ initialized
          lastError := ""
          lastErrorModule := "core" }, initialized.map .initialized)
      | some module =>
        let active := app.active ++ initialized
        (false, { app with
          active := []
          lastError :=
            if (env.details module).isEmpty then module.name ++ ".initialize failed"
            else env.details module
          lastErrorModule := module.name },
          initialized.map .initialized ++ [.initializeFailed module] ++ stops active ++ waits active)

/-- The loop of `start`: the modules called and the one that failed. -/
def startModules (answers : Module → Answer) : List Module → List Module × Option Module
  | [] => ([], none)
  | module :: rest =>
    if tryAction (answers module) then
      ((startModules answers rest).1.cons module, (startModules answers rest).2)
    else ([module], some module)

/-- `Application::start` up to its return or to the `stop` after a failure. -/
def Application.start (answers : Module → Answer) (app : Application) :
    Bool × Application × List Event :=
  if app.phase ≠ .initialized then
    (false, { app with
      lastError := "application must be initialized before start"
      lastErrorModule := "core" }, [])
  else
    let (called, failed) := startModules answers app.active
    match failed with
    | none =>
      (true, { app with phase := .running, lastError := "", lastErrorModule := "core" },
        called.map .start)
    | some module =>
      (false, { app with
        lastError := module.name ++ ".start failed"
        lastErrorModule := module.name }, called.map .start)

/-- Where a thread stands. -/
inductive Thread where
  | idle
  /-- A failed `start`, before its `stop`. -/
  | startFailed
  /-- In the loop of `stop`, with the modules left; `wait` follows in a failed `start`. -/
  | stopping (left : List Module) (thenWait : Bool)
  /-- A failed `start`, before its `wait`. -/
  | stopReturned
  /-- In `wait`, until the state is `New`, `Stopped` or `Joining`. -/
  | waiting
  /-- In `wait`, until another thread has joined. -/
  | awaiting
  /-- In the loop of `wait`, with the modules left. -/
  | joining (left : List Module)
  deriving DecidableEq, Repr

structure State where
  app : Application := {}
  threads : Nat → Thread := fun _ => .idle
  log : List Event := []

/-- Thread 0 is the one that calls `initialize` and `start`. -/
inductive Action where
  | initializeCall (env : Surroundings)
  | start (answers : Module → Answer)
  | stop (thread : Nat)
  | stopModule (thread : Nat)
  | stopReturn (thread : Nat)
  | wait (thread : Nat)
  | wake (thread : Nat)
  | waitModule (thread : Nat)
  | waitReturn (thread : Nat)

def State.goto (s : State) (thread : Nat) (place : Thread) : State :=
  { s with threads := Function.update s.threads thread place }

@[simp] theorem State.goto_self (s : State) (thread : Nat) (place : Thread) :
    (s.goto thread place).threads thread = place := Function.update_self ..

theorem State.goto_other (s : State) {thread other : Nat} (place : Thread)
    (different : other ≠ thread) : (s.goto thread place).threads other = s.threads other :=
  Function.update_of_ne different _ _

/-- The first critical section of `stop`. -/
def beginStop (s : State) (thread : Nat) (thenWait : Bool) : State :=
  if s.app.phase = .initialized ∨ s.app.phase = .running then
    { s.goto thread (.stopping s.app.active.reverse thenWait) with
      app := { s.app with phase := .stopping } }
  else s.goto thread (if thenWait then .stopReturned else .idle)

def step (present : Module → Bool) (s : State) : Action → Option State
  | .initializeCall env =>
    match s.threads 0 with
    | .idle =>
      let (_, app, calls) := s.app.initializeCall present env
      some { s with app := app, log := s.log ++ calls }
    | _ => none
  | .start answers =>
    match s.threads 0 with
    | .idle =>
      let (ok, app, calls) := s.app.start answers
      let failed := !ok && s.app.phase = .initialized
      some { s.goto 0 (if failed then .startFailed else .idle) with
        app := app
        log := s.log ++ calls }
    | _ => none
  | .stop thread =>
    match s.threads thread with
    | .idle => some (beginStop s thread false)
    | .startFailed => some (beginStop s thread true)
    | _ => none
  | .stopModule thread =>
    match s.threads thread with
    | .stopping (module :: left) thenWait =>
      some { s.goto thread (.stopping left thenWait) with log := s.log ++ [.stop module] }
    | _ => none
  | .stopReturn thread =>
    match s.threads thread with
    | .stopping [] thenWait =>
      some { s.goto thread (if thenWait then .stopReturned else .idle) with
        app := { s.app with phase := .stopped } }
    | _ => none
  | .wait thread =>
    match s.threads thread with
    | .idle => some (s.goto thread .waiting)
    | .stopReturned => some (s.goto thread .waiting)
    | _ => none
  | .wake thread =>
    match s.threads thread with
    | .waiting =>
      match s.app.phase with
      | .new => some (s.goto thread .idle)
      | .joining => some (s.goto thread .awaiting)
      | .stopped =>
        some { s.goto thread (.joining s.app.active.reverse) with
          app := { s.app with phase := .joining } }
      | _ => none
    | .awaiting => if s.app.phase = .joining then none else some (s.goto thread .idle)
    | _ => none
  | .waitModule thread =>
    match s.threads thread with
    | .joining (module :: left) =>
      some { s.goto thread (.joining left) with log := s.log ++ [.wait module] }
    | _ => none
  | .waitReturn thread =>
    match s.threads thread with
    | .joining [] =>
      some { s.goto thread .idle with app := { s.app with active := [], phase := .new } }
    | _ => none

end SkaiEdge.App
