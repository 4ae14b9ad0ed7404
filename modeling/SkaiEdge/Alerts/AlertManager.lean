import Mathlib
import SkaiEdge.Inference.Detection

/-!
# Alert rules (`src/alerts/alert_manager.cpp`)

`process` counts, for each rule, the processed results in a row that hold a detection matching
it, and raises an alert when the count is reached and the rule has cooled down. What stores
the alert is a parameter: `process` runs in any monad, and `persist` answers with the alert as
stored, or `none` when it could not be stored. Times are nanoseconds of the two clocks. An
exception other than the ones `persist` catches (no memory) is left out.
-/

namespace SkaiEdge.Alerts

open SkaiEdge.Inference

structure AlertRoi (D : Type*) where
  x1 : D
  y1 : D
  x2 : D
  y2 : D
  deriving DecidableEq, Repr

/-- The configuration accepts a positive `consecutive_frames` and a cooldown that is not negative. -/
structure AlertRuleConfig (D : Type*) where
  className : String
  confidence : D
  consecutiveFrames : Nat := 1
  cooldownSeconds : Nat := 10
  roi : Option (AlertRoi D) := none
  deriving DecidableEq, Repr

structure GpsFix (D : Type*) where
  valid : Bool
  source : String
  latitude : D
  longitude : D
  altitudeM : D
  deriving DecidableEq, Repr

structure AlertDetection (D : Type*) where
  classId : Int
  className : String
  confidence : D
  x1 : D
  y1 : D
  x2 : D
  y2 : D
  deriving DecidableEq, Repr

/-- Ids and paths are texts that the store takes apart again. -/
structure AlertEvent (D : Type*) where
  id : List Char
  timestampMs : Int
  gps : Option (GpsFix D) := none
  snapshotPath : List Char := []
  frameSequence : UInt64 := 0
  modelVersion : Option String := none
  detections : List (AlertDetection D) := []
  deriving DecidableEq, Repr

structure RuleState (D : Type*) where
  rule : AlertRuleConfig D
  consecutive : Nat := 0
  lastAlert : Option Int := none
  deriving DecidableEq, Repr

structure AlertManager (D : Type*) where
  snapshotDirectory : List Char := []
  modelVersion : String := ""
  rules : List (RuleState D) := []
  detectorGeneration : Option UInt64 := none
  nextId : Nat := 1
  deriving DecidableEq, Repr

/-- The arguments of one `process` call, with the fix that `gps_->latest()` answers. -/
structure Call (F D : Type*) where
  result : DetectionResult F
  frameWidth : Int
  frameHeight : Int
  detectorGeneration : UInt64
  gps : Option (GpsFix D) := none
  wallTime : Int
  monotonicTime : Int
  deriving DecidableEq, Repr

variable {F D : Type*} [Floating F D]

/-- `class_name(class_id, names)`. -/
def className (classId : Int) (names : List String) : String :=
  if 0 ≤ classId then names.getD classId.toNat ("class_" ++ toString classId)
  else "class_" ++ toString classId

def inRoi (detection : Detection F) (width height : Int) : Option (AlertRoi D) → Bool
  | none => true
  | some roi =>
    if width ≤ 0 ∨ height ≤ 0 then false
    else
      let centerX := Floating.centre detection.x1 detection.x2 width
      let centerY := Floating.centre detection.y1 detection.y2 height
      Floating.lessEq F roi.x1 centerX && Floating.lessEq F centerX roi.x2 &&
        Floating.lessEq F roi.y1 centerY && Floating.lessEq F centerY roi.y2

/-- The detection as the alert keeps it, if it matches the rule. -/
def matched (names : List String) (width height : Int) (rule : AlertRuleConfig D)
    (detection : Detection F) : Option (AlertDetection D) :=
  let name := className detection.classId names
  if !Floating.isFinite detection.confidence || !Floating.isFinite detection.x1 ||
      !Floating.isFinite detection.y1 || !Floating.isFinite detection.x2 ||
      !Floating.isFinite detection.y2 || name != rule.className ||
      Floating.less F (Floating.promote detection.confidence) rule.confidence ||
      !inRoi detection width height rule.roi then none
  else
    some ⟨detection.classId, name, Floating.promote detection.confidence,
      Floating.promote detection.x1, Floating.promote detection.y1,
      Floating.promote detection.x2, Floating.promote detection.y2⟩

def matching (names : List String) (width height : Int) (rule : AlertRuleConfig D)
    (detections : List (Detection F)) : List (AlertDetection D) :=
  detections.filterMap (matched names width height rule)

def decimal : Int → List Char
  | .ofNat n => Nat.toDigits 10 n
  | .negSucc n => '-' :: Nat.toDigits 10 (n + 1)

/-- `"alert-" + timestamp_ms + '-' + frame_sequence + '-' + rule_index + '-' + next_id_`. -/
def alertId (timestampMs : Int) (frameSequence : UInt64) (ruleIndex nextId : Nat) : List Char :=
  ['a', 'l', 'e', 'r', 't', '-'] ++ decimal timestampMs ++ '-' :: Nat.toDigits 10 frameSequence.toNat ++
    '-' :: Nat.toDigits 10 ruleIndex ++ '-' :: Nat.toDigits 10 nextId

/-- `duration_cast<milliseconds>` rounds towards zero. -/
def Call.timestampMs (call : Call F D) : Int := call.wallTime.tdiv 1000000

def RuleState.cooling (state : RuleState D) (monotonicTime : Int) : Bool :=
  state.lastAlert.any fun last =>
    decide (monotonicTime - last < state.rule.cooldownSeconds * 1000000000)

/-- The alert a rule raises, before it is stored. -/
def alertOf (call : Call F D) (modelVersion : String) (ruleIndex nextId : Nat)
    (detections : List (AlertDetection D)) : AlertEvent D where
  id := alertId call.timestampMs call.result.frameSequence ruleIndex nextId
  timestampMs := call.timestampMs
  gps := call.gps
  frameSequence := call.result.frameSequence
  modelVersion := if modelVersion = "" then none else some modelVersion
  detections := detections

section Process

variable {m : Type _ → Type _} [Monad m] (persist : AlertEvent D → m (Option (AlertEvent D)))
  (names : List String) (call : Call F D) (modelVersion : String)

/-- One turn of the loop over the rules: the rule's new state, its alert, the next id. -/
def processRule (ruleIndex nextId : Nat) (state : RuleState D) :
    m (RuleState D × Option (AlertEvent D) × Nat) :=
  let detections :=
    matching names call.frameWidth call.frameHeight state.rule call.result.detections
  if detections.isEmpty then pure ({ state with consecutive := 0 }, none, nextId)
  else
    let state := { state with
      consecutive := min (state.consecutive + 1) state.rule.consecutiveFrames }
    if state.consecutive < state.rule.consecutiveFrames then pure (state, none, nextId)
    else if state.cooling call.monotonicTime then pure (state, none, nextId)
    else do
      match ← persist (alertOf call modelVersion ruleIndex nextId detections) with
      | none => pure (state, none, nextId + 1)
      | some alert =>
        pure ({ state with consecutive := 0, lastAlert := some call.monotonicTime },
          some alert, nextId + 1)

def processRules (ruleIndex nextId : Nat) :
    List (RuleState D) → m (List (RuleState D × Option (AlertEvent D)) × Nat)
  | [] => pure ([], nextId)
  | state :: rest => do
    let (state, alert, nextId) ← processRule persist names call modelVersion ruleIndex nextId state
    let (rest, nextId) ← processRules (ruleIndex + 1) nextId rest
    pure ((state, alert) :: rest, nextId)

end Process

/-- The rules a call starts from: a new detector generation resets every count. -/
def AlertManager.counted (manager : AlertManager D) (generation : UInt64) : List (RuleState D) :=
  if manager.detectorGeneration = some generation then manager.rules
  else manager.rules.map fun state => { state with consecutive := 0 }

/-- `process`, rule by rule; what it returns are the alerts among the answers. -/
def AlertManager.process {m : Type _ → Type _} [Monad m]
    (persist : AlertEvent D → m (Option (AlertEvent D))) (names : List String) (call : Call F D)
    (manager : AlertManager D) :
    m (List (RuleState D × Option (AlertEvent D)) × AlertManager D) := do
  let (answers, nextId) ← processRules persist names call manager.modelVersion 0 manager.nextId
    (manager.counted call.detectorGeneration)
  pure (answers, { manager with
    rules := answers.map (·.1)
    detectorGeneration := some call.detectorGeneration
    nextId := nextId })

/-- `configure` up to `reconcile_deletions`. -/
def AlertManager.configure (manager : AlertManager D) (rules : List (AlertRuleConfig D))
    (snapshotDirectory : List Char) (modelVersion : String) : AlertManager D :=
  { manager with
    rules := rules.map fun rule => { rule := rule }
    detectorGeneration := none
    snapshotDirectory := snapshotDirectory
    modelVersion := modelVersion }

/-- **What one call can do to a rule**, whatever the store answers. -/
inductive RuleMove (names : List String) (call : Call F D) (state : RuleState D) :
    RuleState D × Option (AlertEvent D) → Prop where
  | unmatched (none' : matching names call.frameWidth call.frameHeight state.rule
      call.result.detections = []) : RuleMove names call state ({ state with consecutive := 0 }, none)
  | counts (some' : matching names call.frameWidth call.frameHeight state.rule
      call.result.detections ≠ []) :
      RuleMove names call state ({ state with
        consecutive := min (state.consecutive + 1) state.rule.consecutiveFrames }, none)
  | raises (some' : matching names call.frameWidth call.frameHeight state.rule
      call.result.detections ≠ [])
      (reached : state.rule.consecutiveFrames ≤ state.consecutive + 1) (alert : AlertEvent D) :
      RuleMove names call state
        ({ state with consecutive := 0, lastAlert := some call.monotonicTime }, some alert)

theorem processRule_move (persist : AlertEvent D → Option (AlertEvent D)) (names : List String)
    (call : Call F D) (modelVersion : String) (ruleIndex nextId : Nat) (state : RuleState D) :
    ∃ answer nextId', processRule (m := Id) persist names call modelVersion ruleIndex nextId state =
      (answer.1, answer.2, nextId') ∧ RuleMove names call state answer := by
  unfold processRule
  simp only
  split
  · rename_i none'
    exact ⟨_, _, rfl, .unmatched (by simpa using none')⟩
  · rename_i some'
    have some' : matching names call.frameWidth call.frameHeight state.rule
        call.result.detections ≠ [] := by simpa using some'
    split
    · exact ⟨_, _, rfl, .counts some'⟩
    · rename_i reached
      split
      · exact ⟨_, _, rfl, .counts some'⟩
      · cases persist (alertOf call modelVersion ruleIndex nextId
          (matching names call.frameWidth call.frameHeight state.rule call.result.detections)) with
        | none =>
          exact ⟨_, nextId + 1, rfl, .counts some'⟩
        | some alert =>
          refine ⟨_, nextId + 1, rfl, .raises some' ?_ alert⟩
          omega

/-- **One call moves every rule on its own.** -/
theorem processRules_moves (persist : AlertEvent D → Option (AlertEvent D)) (names : List String)
    (call : Call F D) (modelVersion : String) (ruleIndex nextId : Nat) (rules : List (RuleState D)) :
    List.Forall₂ (RuleMove names call) rules
      (processRules (m := Id) persist names call modelVersion ruleIndex nextId rules).1 := by
  induction rules generalizing ruleIndex nextId with
  | nil => exact .nil
  | cons state rest ih =>
    obtain ⟨answer, nextId', same, move⟩ :=
      processRule_move persist names call modelVersion ruleIndex nextId state
    have shape : (processRules (m := Id) persist names call modelVersion ruleIndex nextId
        (state :: rest)).1 = answer ::
          (processRules (m := Id) persist names call modelVersion (ruleIndex + 1) nextId' rest).1 := by
      simp only [processRules, bind, pure, same]
      rfl
    rw [shape]
    exact .cons move (ih _ _)

end SkaiEdge.Alerts
