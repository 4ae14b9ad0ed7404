import SkaiEdge.Lib.Runs
import SkaiEdge.Lib.Stream
import SkaiEdge.Core.BoundedQueue
import SkaiEdge.Alerts.AlertManager

/-!
# The alert path of the detector (`src/inference/yolo_inference_module.cpp`)

The inference worker commits a result and pushes it into `alert_queue_`; the alert worker runs
`persist_alerts`, which pops one result after the other and calls `AlertManager::process`. The
commit is one step, since only its push is shared with the alert worker, and `process` is one,
since no other thread touches the rules. `restart` is a `wait`, `initialize` and `start`.

`committed`, `raised` and the stamps are ghost: the results in commit order, and for each
alert the position of its result, its rule's index and the rule.
-/

namespace SkaiEdge.Inference.YoloInferenceModule

open SkaiEdge.Lib SkaiEdge.Core SkaiEdge.Alerts

structure AlertWork (F : Type*) where
  detections : DetectionResult F
  snapshot : Frame
  generation : UInt64 := 0
  deriving DecidableEq, Repr

/-- The alert worker blocks in `pop`, holds a result, or has returned. -/
inductive Worker (F : Type*) where
  | waiting
  | holding (work : Stamped (AlertWork F))
  | finished

structure Raised (D : Type*) where
  stamp : Nat
  index : Nat
  rule : AlertRuleConfig D

structure State (F D : Type*) where
  queue : BoundedQueue (Stamped (AlertWork F)) := .create 2 (by decide)
  manager : AlertManager D
  worker : Worker F := .waiting
  committed : List (AlertWork F) := []
  raised : List (Raised D) := []

variable {F D : Type*} [Floating F D]

/-- A module after `initialize` and `start`: the rules are freshly configured. -/
def init (rules : List (AlertRuleConfig D)) (directory : List Char) (version : String) : State F D where
  manager := ({} : AlertManager D).configure rules directory version

inductive Action (F D : Type*) where
  | commit (work : AlertWork F)
  | stop
  | pop
  | process (persist : AlertEvent D → Option (AlertEvent D)) (gps : Option (GpsFix D))
      (wallTime monotonicTime : Int)
  | restart (rules : List (AlertRuleConfig D)) (directory : List Char) (version : String)

/-- The arguments `persist_alerts` calls `process` with. -/
def AlertWork.call (work : AlertWork F) (gps : Option (GpsFix D)) (wallTime monotonicTime : Int) :
    Call F D where
  result := work.detections
  frameWidth := work.snapshot.width
  frameHeight := work.snapshot.height
  detectorGeneration := work.generation
  gps := gps
  wallTime := wallTime
  monotonicTime := monotonicTime

/-- The alerts among the rules' answers, in the order of the rules. -/
def raisedBy (stamp : Nat) (answers : List (RuleState D × Option (AlertEvent D))) : List (Raised D) :=
  answers.zipIdx.filterMap fun (answer, index) =>
    answer.2.map fun _ => ⟨stamp, index, answer.1.rule⟩

/-- `pop` blocks on an empty queue that is not shut down. -/
def pop (s : State F D) : Option (State F D) :=
  match s.queue.takeFront with
  | (some work, queue) => some { s with queue := queue, worker := .holding work }
  | (none, _) => if s.queue.isShutdown then some { s with worker := .finished } else none

def step (names : List String) (s : State F D) : Action F D → Option (State F D)
  | .commit work =>
    some { s with
      queue := (s.queue.push ⟨s.committed.length, work⟩).1
      committed := s.committed ++ [work] }
  | .stop => some { s with queue := s.queue.shutdown }
  | .pop =>
    match s.worker with
    | .waiting => pop s
    | _ => none
  | .process persist gps wallTime monotonicTime =>
    match s.worker with
    | .holding work =>
      let (answers, manager) := s.manager.process (m := Id) persist names
        (work.val.call gps wallTime monotonicTime)
      some { s with
        manager := manager
        worker := .waiting
        raised := s.raised ++ raisedBy work.stamp answers }
    | _ => none
  | .restart rules directory version =>
    match s.worker with
    | .finished =>
      some { s with
        queue := s.queue.reset
        manager := s.manager.configure rules directory version
        worker := .waiting }
    | _ => none

/-- The result holds a detection that matches the rule. -/
def AlertWork.hits (names : List String) (work : AlertWork F) (rule : AlertRuleConfig D) : Bool :=
  !(matching names work.snapshot.width work.snapshot.height rule
    work.detections.detections).isEmpty

/-- The result committed at position `j` holds a detection that matches the rule. -/
def Hit (names : List String) (committed : List (AlertWork F)) (rule : AlertRuleConfig D)
    (j : Nat) : Prop :=
  committed[j]?.any (fun work => work.hits names rule) = true

/-- The result committed at `stamp` and the `consecutive_frames - 1` ones before it all hold a
detection that matches the rule. -/
def Earned (names : List String) (committed : List (AlertWork F)) (rule : AlertRuleConfig D)
    (stamp : Nat) : Prop :=
  rule.consecutiveFrames ≤ stamp + 1 ∧
    ∀ j ≤ stamp, stamp < j + rule.consecutiveFrames → Hit names committed rule j

instance (names : List String) (committed : List (AlertWork F)) (rule : AlertRuleConfig D) :
    DecidablePred (Hit names committed rule) :=
  fun _ => inferInstanceAs (Decidable (_ = true))

instance (names : List String) (committed : List (AlertWork F)) (rule : AlertRuleConfig D) :
    DecidablePred (Earned names committed rule) :=
  fun stamp => inferInstanceAs (Decidable (_ ∧ ∀ j ≤ stamp, _ → Hit names committed rule j))

end SkaiEdge.Inference.YoloInferenceModule
