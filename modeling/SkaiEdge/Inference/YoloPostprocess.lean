import SkaiEdge.Lib.Greedy
import SkaiEdge.Inference.Detection

/-!
# YOLO postprocessing (`src/inference/yolo_postprocess.cpp`)

Raw detector output to detections in the source frame: filtering, ranking, non-maximum
suppression, clipping. A `float` is read as the rational number it stands for, and as `none`
when it is not finite; the arithmetic is exact, so casts and the finiteness of sums are not
modelled. `nms_correct` says what the returned detections are.
-/

namespace SkaiEdge.Inference

open SkaiEdge.Lib

/-- A `float` that is read: `none` is an infinity or not a number. -/
abbrev Reading := Option ℚ

structure PreprocessPlan where
  sourceWidth : Int
  sourceHeight : Int
  width : Int
  height : Int
  resizedWidth : Int
  resizedHeight : Int
  padLeft : Int
  padTop : Int
  deriving DecidableEq, Repr

structure YoloPostprocessConfig where
  confidenceThreshold : Reading := some (1 / 4)
  nmsIouThreshold : Reading := some (9 / 20)
  maxDetections : Nat := 300
  deriving DecidableEq, Repr

/-- Raw output, channel-major: center-x, center-y, width, height, then one score per class.
`data` is `none` for a null pointer, else it points to `elements` values. -/
structure YoloOutputView where
  data : Option (List Reading)
  elements : Nat
  channels : Int
  candidates : Int
  buffer : ∀ values ∈ data, values.length = elements

structure Candidate where
  classId : Int
  confidence : ℚ
  x1 : ℚ
  y1 : ℚ
  x2 : ℚ
  y2 : ℚ
  index : Nat
  deriving DecidableEq, Repr

def validPlan (plan : PreprocessPlan) : Bool :=
  plan.sourceWidth > 0 && plan.sourceHeight > 0 && plan.width > 0 && plan.height > 0 &&
    plan.resizedWidth > 0 && plan.resizedHeight > 0 && plan.padLeft ≥ 0 && plan.padTop ≥ 0 &&
    plan.padLeft + plan.resizedWidth ≤ plan.width && plan.padTop + plan.resizedHeight ≤ plan.height

def intersectionOverUnion (a b : Candidate) : ℚ :=
  let left := max a.x1 b.x1
  let top := max a.y1 b.y1
  let right := min a.x2 b.x2
  let bottom := min a.y2 b.y2
  let intersection := max 0 (right - left) * max 0 (bottom - top)
  let areaA := (a.x2 - a.x1) * (a.y2 - a.y1)
  let areaB := (b.x2 - b.x1) * (b.y2 - b.y1)
  let total := areaA + areaB - intersection
  if total > 0 then intersection / total else 0

/-- The shape check; a `size_t` has 64 bits. -/
def YoloOutputView.invalid (output : YoloOutputView) : Bool :=
  output.data.isNone || output.channels ≤ 4 || output.candidates ≤ 0 ||
    output.channels.toNat > (2 ^ 64 - 1) / output.candidates.toNat ||
    output.elements ≠ output.channels.toNat * output.candidates.toNat

/-- The thresholds of a configuration that passes the check. -/
def YoloPostprocessConfig.thresholds (config : YoloPostprocessConfig) : Option (ℚ × ℚ) :=
  match config.confidenceThreshold, config.nmsIouThreshold with
  | some confidence, some iou =>
    if confidence < 0 ∨ confidence > 1 ∨ iou < 0 ∨ iou > 1 ∨ config.maxDetections = 0 then none
    else some (confidence, iou)
  | _, _ => none

/-- `output.data[i]`. -/
def YoloOutputView.reading (output : YoloOutputView) (i : Nat) : Reading :=
  (output.data.getD []).getD i none

/-- One turn of the loop over the channels; the best score so far and its class. -/
def betterScore (output : YoloOutputView) (index : Nat) (best : Option (ℚ × Int)) (channel : Nat) :
    Option (ℚ × Int) :=
  match output.reading (channel * output.candidates.toNat + index) with
  | none => best
  | some value =>
    if best.all (fun (score, _) => value > score) then some (value, (channel : Int) - 4) else best

/-- The best finite score of a candidate, the first one among equals, and its class. -/
def bestScore (output : YoloOutputView) (index : Nat) : Option (ℚ × Int) :=
  (List.range' 4 (output.channels.toNat - 4)).foldl (betterScore output index) none

/-- The candidate at `index`, if it passes the filters. -/
def candidateAt (output : YoloOutputView) (plan : PreprocessPlan) (confidenceThreshold : ℚ)
    (index : Nat) : Option Candidate := do
  let count := output.candidates.toNat
  let contentRight : ℚ := plan.padLeft + plan.resizedWidth
  let contentBottom : ℚ := plan.padTop + plan.resizedHeight
  let (score, classId) ← bestScore output index
  if score ≤ confidenceThreshold then none
  else do
    let cx ← output.reading index
    let cy ← output.reading (count + index)
    let width ← output.reading (2 * count + index)
    let height ← output.reading (3 * count + index)
    if width ≤ 0 ∨ height ≤ 0 then none
    else
      let x1 := cx - width / 2
      let x2 := cx + width / 2
      let y1 := cy - height / 2
      let y2 := cy + height / 2
      -- A box wholly in padding cannot produce a visible source-frame box.
      if x2 ≤ plan.padLeft ∨ x1 ≥ contentRight ∨ y2 ≤ plan.padTop ∨ y1 ≥ contentBottom then none
      else some ⟨classId, score, x1, y1, x2, y2, index⟩

/-- The candidates that pass the filters, by index. -/
def filteredCandidates (output : YoloOutputView) (plan : PreprocessPlan)
    (confidenceThreshold : ℚ) : List Candidate :=
  (List.range output.candidates.toNat).filterMap (candidateAt output plan confidenceThreshold)

/-- The comparison of the sort: by descending confidence, ties by index. -/
def ranksBefore (a b : Candidate) : Bool :=
  if a.confidence ≠ b.confidence then a.confidence > b.confidence else a.index < b.index

/-- `std::clamp`. -/
def clamp (value low high : ℚ) : ℚ :=
  if value < low then low else if high < value then high else value

/-- The detection of a candidate, back in the source frame. -/
def restore (plan : PreprocessPlan) (candidate : Candidate) : Detection ℚ :=
  let xScale : ℚ := plan.sourceWidth / plan.resizedWidth
  let yScale : ℚ := plan.sourceHeight / plan.resizedHeight
  { classId := candidate.classId
    confidence := candidate.confidence
    x1 := clamp ((candidate.x1 - plan.padLeft) * xScale) 0 plan.sourceWidth
    y1 := clamp ((candidate.y1 - plan.padTop) * yScale) 0 plan.sourceHeight
    x2 := clamp ((candidate.x2 - plan.padLeft) * xScale) 0 plan.sourceWidth
    y2 := clamp ((candidate.y2 - plan.padTop) * yScale) 0 plan.sourceHeight }

/-- `kept` suppresses `candidate`. -/
def suppresses (iouThreshold : ℚ) (candidate kept : Candidate) : Bool :=
  candidate.classId = kept.classId && intersectionOverUnion candidate kept > iouThreshold

/-- Something of the box is left in the source frame. -/
def visible (plan : PreprocessPlan) (candidate : Candidate) : Bool :=
  let detection := restore plan candidate
  !(detection.x2 ≤ detection.x1 || detection.y2 ≤ detection.y1)

/-- `kept_model_boxes` at the end of the loop over the ranked candidates; each of them gave one
detection. -/
def keptModelBoxes (plan : PreprocessPlan) (iouThreshold : ℚ) (maxDetections : Nat)
    (ranked : List Candidate) : List Candidate :=
  Greedy.select (suppresses iouThreshold) (visible plan) maxDetections [] ranked

def postprocessYolo (output : YoloOutputView) (plan : PreprocessPlan)
    (config : YoloPostprocessConfig) (frameSequence : UInt64) :
    Except String (DetectionResult ℚ) :=
  if output.invalid then .error "YOLO output shape or buffer is invalid"
  else if !validPlan plan then .error "YOLO preprocessing plan is invalid"
  else
    match config.thresholds with
    | none => .error "YOLO confidence/NMS threshold or max detections is invalid"
    | some (confidenceThreshold, iouThreshold) =>
      let filtered := filteredCandidates output plan confidenceThreshold
      let ranked := filtered.mergeSort fun a b => !ranksBefore b a
      .ok {
        frameSequence := frameSequence
        detections := (keptModelBoxes plan iouThreshold config.maxDetections ranked).map
          (restore plan) }

/-! ## The measure of the suppression -/

/-- A box with an inside. -/
structure Candidate.Proper (c : Candidate) : Prop where
  wide : c.x1 < c.x2
  high : c.y1 < c.y2

def area (c : Candidate) : ℚ := (c.x2 - c.x1) * (c.y2 - c.y1)

/-- The area that two boxes share. -/
def overlap (a b : Candidate) : ℚ :=
  max 0 (min a.x2 b.x2 - max a.x1 b.x1) * max 0 (min a.y2 b.y2 - max a.y1 b.y1)

section Measure

variable {a b : Candidate}

theorem Candidate.Proper.area_pos (proper : a.Proper) : 0 < area a :=
  mul_pos (sub_pos.2 proper.wide) (sub_pos.2 proper.high)

theorem overlap_comm (a b : Candidate) : overlap a b = overlap b a := by
  simp only [overlap, max_comm a.x1, max_comm a.y1, min_comm a.x2, min_comm a.y2]

theorem overlap_nonneg (a b : Candidate) : 0 ≤ overlap a b :=
  mul_nonneg (le_max_left _ _) (le_max_left _ _)

/-- The shared length of two intervals is within the first one. -/
theorem shared_le {x1 x2 : ℚ} (proper : x1 < x2) (y1 y2 : ℚ) :
    max 0 (min x2 y2 - max x1 y1) ≤ x2 - x1 := by
  have right := min_le_left x2 y2
  have left := le_max_left x1 y1
  exact max_le (by linarith) (by linarith)

theorem overlap_le (proper : a.Proper) (b : Candidate) : overlap a b ≤ area a :=
  mul_le_mul (shared_le proper.wide _ _) (shared_le proper.high _ _) (le_max_left _ _)
    (sub_nonneg.2 proper.wide.le)

theorem overlap_self (proper : a.Proper) : overlap a a = area a := by
  rw [overlap, area, min_self, max_self, min_self, max_self, max_eq_right, max_eq_right]
  · exact sub_nonneg.2 proper.high.le
  · exact sub_nonneg.2 proper.wide.le

/-- Boxes side by side, or one above the other, share nothing. -/
theorem overlap_disjoint (apart : a.x2 ≤ b.x1 ∨ a.y2 ≤ b.y1) : overlap a b = 0 := by
  rcases apart with beside | above
  · have none' : min a.x2 b.x2 - max a.x1 b.x1 ≤ 0 := by
      have right := min_le_left a.x2 b.x2
      have left := le_max_right a.x1 b.x1
      linarith
    rw [overlap, max_eq_left none', zero_mul]
  · have none' : min a.y2 b.y2 - max a.y1 b.y1 ≤ 0 := by
      have bottom := min_le_left a.y2 b.y2
      have top := le_max_right a.y1 b.y1
      linarith
    rw [overlap, max_eq_left none', mul_zero]

/-- **The measure**: the shared area over the area that the two boxes cover together. -/
theorem intersectionOverUnion_eq (properA : a.Proper) (properB : b.Proper) :
    intersectionOverUnion a b = overlap a b / (area a + area b - overlap a b) := by
  have shared := overlap_le properA b
  have positive := properB.area_pos
  have total : area a + area b - overlap a b > 0 := by linarith
  exact if_pos total

theorem intersectionOverUnion_comm (a b : Candidate) :
    intersectionOverUnion a b = intersectionOverUnion b a := by
  simp only [intersectionOverUnion, max_comm a.x1, max_comm a.y1, min_comm a.x2, min_comm a.y2,
    add_comm ((a.x2 - a.x1) * (a.y2 - a.y1))]

theorem intersectionOverUnion_nonneg (a b : Candidate) : 0 ≤ intersectionOverUnion a b := by
  rw [intersectionOverUnion]
  split
  · rename_i total
    exact div_nonneg (overlap_nonneg a b) total.le
  · exact le_refl 0

theorem intersectionOverUnion_le_one (properA : a.Proper) (properB : b.Proper) :
    intersectionOverUnion a b ≤ 1 := by
  have shared := overlap_le properA b
  have shared' := overlap_le properB a
  have positive := properB.area_pos
  rw [overlap_comm] at shared'
  rw [intersectionOverUnion_eq properA properB, div_le_one (by linarith)]
  linarith

theorem intersectionOverUnion_self (proper : a.Proper) : intersectionOverUnion a a = 1 := by
  rw [intersectionOverUnion_eq proper proper, overlap_self proper, add_sub_cancel_right,
    div_self proper.area_pos.ne']

theorem intersectionOverUnion_disjoint (apart : a.x2 ≤ b.x1 ∨ a.y2 ≤ b.y1) :
    intersectionOverUnion a b = 0 := by
  have none' := overlap_disjoint apart
  rw [intersectionOverUnion]
  split
  · exact (congrArg (· / _) none').trans (zero_div _)
  · rfl

end Measure

/-! ## The candidates -/

/-- What a candidate that passes the filters is: a proper box that reaches into the picture. -/
structure InPicture (plan : PreprocessPlan) (c : Candidate) : Prop where
  wide : c.x1 < c.x2
  high : c.y1 < c.y2
  right : (plan.padLeft : ℚ) < c.x2
  left : c.x1 < plan.padLeft + plan.resizedWidth
  bottom : (plan.padTop : ℚ) < c.y2
  top : c.y1 < plan.padTop + plan.resizedHeight

theorem InPicture.proper {plan : PreprocessPlan} {c : Candidate} (inside : InPicture plan c) :
    c.Proper := ⟨inside.wide, inside.high⟩

theorem candidateAt_spec {output : YoloOutputView} {plan : PreprocessPlan} {threshold : ℚ}
    {index : Nat} {c : Candidate} (found : candidateAt output plan threshold index = some c) :
    c.index = index ∧ InPicture plan c := by
  simp only [candidateAt, bind, Option.bind_eq_some_iff, Prod.exists] at found
  obtain ⟨score, classId, -, found⟩ := found
  split at found
  · contradiction
  simp only [Option.bind_eq_some_iff] at found
  obtain ⟨cx, -, cy, -, width, -, height, -, found⟩ := found
  split at found
  · contradiction
  rename_i positive
  split at found
  · contradiction
  rename_i inside
  cases found
  simp only [not_or, not_le, ge_iff_le] at positive inside
  obtain ⟨right, left, bottom, top⟩ := inside
  refine ⟨rfl, ?_, ?_, right, left, bottom, top⟩
  · simp only
    linarith [positive.1]
  · simp only
    linarith [positive.2]

theorem filtered_inPicture {output : YoloOutputView} {plan : PreprocessPlan} {threshold : ℚ}
    {c : Candidate} (member : c ∈ filteredCandidates output plan threshold) :
    InPicture plan c := by
  obtain ⟨index, -, found⟩ := List.mem_filterMap.1 member
  exact (candidateAt_spec found).2

/-- Of any two candidates the measure is a share. -/
theorem filtered_share {output : YoloOutputView} {plan : PreprocessPlan} {threshold : ℚ}
    {a b : Candidate} (memberA : a ∈ filteredCandidates output plan threshold)
    (memberB : b ∈ filteredCandidates output plan threshold) :
    0 ≤ intersectionOverUnion a b ∧ intersectionOverUnion a b ≤ 1 :=
  ⟨intersectionOverUnion_nonneg a b, intersectionOverUnion_le_one
    (filtered_inPicture memberA).proper (filtered_inPicture memberB).proper⟩

/-- No two candidates have the same index. -/
theorem filtered_distinct (output : YoloOutputView) (plan : PreprocessPlan) (threshold : ℚ) :
    (filteredCandidates output plan threshold).Pairwise fun a b => a.index ≠ b.index := by
  rw [filteredCandidates, List.pairwise_filterMap]
  refine List.nodup_range.imp ?_
  intro i j different a foundA b foundB
  rw [(candidateAt_spec foundA).1, (candidateAt_spec foundB).1]
  exact different

/-! ## The ranking -/

theorem ranksBefore_iff {a b : Candidate} : ranksBefore a b = true ↔
    b.confidence < a.confidence ∨ (a.confidence = b.confidence ∧ a.index < b.index) := by
  unfold ranksBefore
  split
  · rename_i different
    simp only [decide_eq_true_eq, gt_iff_lt, different, false_and, or_false]
  · rename_i same
    rw [not_not] at same
    simp [same]

/-- The comparison that the sort uses, as an order. -/
theorem notBehind_iff {a b : Candidate} : (!ranksBefore b a) = true ↔
    b.confidence < a.confidence ∨ (a.confidence = b.confidence ∧ a.index ≤ b.index) := by
  rw [Bool.not_eq_true', Bool.eq_false_iff, Ne, ranksBefore_iff, not_or, not_and, not_lt, not_lt]
  constructor
  · rintro ⟨atMost, index⟩
    rcases lt_or_eq_of_le atMost with below | same
    · exact .inl below
    · exact .inr ⟨same.symm, index same⟩
  · rintro (below | ⟨same, index⟩)
    · exact ⟨below.le, fun equal => absurd equal below.ne⟩
    · exact ⟨same.ge, fun _ => index⟩

theorem ranked_sorted (output : YoloOutputView) (plan : PreprocessPlan) (threshold : ℚ) :
    ((filteredCandidates output plan threshold).mergeSort fun a b => !ranksBefore b a).Pairwise
      fun a b => ranksBefore a b = true := by
  have sorted : ((filteredCandidates output plan threshold).mergeSort
      fun a b => !ranksBefore b a).Pairwise fun a b => (!ranksBefore b a) = true := by
    apply List.pairwise_mergeSort
    · intro a b c first second
      rw [notBehind_iff] at first second ⊢
      rcases first with below | ⟨same, index⟩
      · rcases second with below' | ⟨same', -⟩
        · exact .inl (below'.trans below)
        · exact .inl (same' ▸ below)
      · rcases second with below' | ⟨same', index'⟩
        · exact .inl (same ▸ below')
        · exact .inr ⟨same.trans same', index.trans index'⟩
    · intro a b
      rw [Bool.or_eq_true, notBehind_iff, notBehind_iff]
      rcases lt_trichotomy a.confidence b.confidence with below | same | above
      · exact .inr (.inl below)
      · rcases Nat.le_total a.index b.index with first | second
        · exact .inl (.inr ⟨same, first⟩)
        · exact .inr (.inr ⟨same.symm, second⟩)
      · exact .inl (.inl above)
  have distinct := ((List.mergeSort_perm (filteredCandidates output plan threshold)
    fun a b => !ranksBefore b a).pairwise_iff (fun different => different.symm)).2
      (filtered_distinct output plan threshold)
  refine sorted.imp₂ ?_ distinct
  intro a b notBehind different
  rw [notBehind_iff] at notBehind
  rw [ranksBefore_iff]
  exact notBehind.imp_right fun ⟨same, index⟩ => ⟨same, by omega⟩

/-! ## The boxes in the source frame -/

theorem clamp_mem {value high : ℚ} (positive : 0 ≤ high) :
    0 ≤ clamp value 0 high ∧ clamp value 0 high ≤ high := by
  unfold clamp
  split
  · exact ⟨le_refl 0, positive⟩
  · split
    · exact ⟨positive, le_refl high⟩
    · rename_i low upper
      exact ⟨not_lt.1 low, not_lt.1 upper⟩

/-- Clipping keeps an interval that reaches into `0 .. high` proper. -/
theorem clamp_lt {a b high : ℚ} (proper : a < b) (reaches : 0 < b) (starts : a < high)
    (positive : 0 < high) : clamp a 0 high < clamp b 0 high := by
  unfold clamp
  split_ifs <;> linarith

/-- One axis of `restore`. -/
theorem restored_interval {a b pad resized source : ℚ} (proper : a < b) (reaches : pad < b)
    (starts : a < pad + resized) (positive : 0 < resized) (some' : 0 < source) :
    0 ≤ clamp ((a - pad) * (source / resized)) 0 source ∧
      clamp ((a - pad) * (source / resized)) 0 source <
        clamp ((b - pad) * (source / resized)) 0 source ∧
      clamp ((b - pad) * (source / resized)) 0 source ≤ source := by
  have scale : 0 < source / resized := div_pos some' positive
  have inside : (a - pad) * (source / resized) < source := by
    calc (a - pad) * (source / resized) < resized * (source / resized) :=
          mul_lt_mul_of_pos_right (by linarith) scale
      _ = source := mul_div_cancel₀ source positive.ne'
  refine ⟨(clamp_mem some'.le).1, clamp_lt ?_ (mul_pos (by linarith) scale) inside some',
    (clamp_mem some'.le).2⟩
  exact mul_lt_mul_of_pos_right (by linarith) scale

/-- A box inside the source frame. -/
def InFrame (plan : PreprocessPlan) (d : Detection ℚ) : Prop :=
  (0 ≤ d.x1 ∧ d.x1 < d.x2 ∧ d.x2 ≤ plan.sourceWidth) ∧
    (0 ≤ d.y1 ∧ d.y1 < d.y2 ∧ d.y2 ≤ plan.sourceHeight)

theorem InPicture.inFrame {plan : PreprocessPlan} {c : Candidate} (inside : InPicture plan c)
    (valid : validPlan plan = true) : InFrame plan (restore plan c) := by
  simp only [validPlan, Bool.and_eq_true, decide_eq_true_eq] at valid
  obtain ⟨⟨⟨⟨⟨⟨⟨⟨⟨sourceWidth, sourceHeight⟩, -⟩, -⟩, resizedWidth⟩, resizedHeight⟩, -⟩, -⟩, -⟩, -⟩ :=
    valid
  exact ⟨restored_interval inside.wide inside.right inside.left (by exact_mod_cast resizedWidth)
      (by exact_mod_cast sourceWidth),
    restored_interval inside.high inside.bottom inside.top (by exact_mod_cast resizedHeight)
      (by exact_mod_cast sourceHeight)⟩

theorem InFrame.visible {plan : PreprocessPlan} {c : Candidate}
    (inside : InFrame plan (restore plan c)) : visible plan c = true := by
  simp only [Inference.visible, Bool.not_eq_true', Bool.or_eq_false_iff, decide_eq_false_iff_not,
    not_le]
  exact ⟨inside.1.2.1, inside.2.2.1⟩

theorem suppresses_iff {iou : ℚ} {candidate kept : Candidate} :
    suppresses iou candidate kept = true ↔
      kept.classId = candidate.classId ∧ iou < intersectionOverUnion kept candidate := by
  rw [suppresses, Bool.and_eq_true, decide_eq_true_eq, decide_eq_true_eq,
    intersectionOverUnion_comm candidate kept, eq_comm]

/-! ## What is returned -/

/-- `kept` is what non-maximum suppression keeps of the candidates that pass the filters. -/
structure Suppression (iou : ℚ) (maxDetections : Nat) (filtered kept : List Candidate) : Prop where
  candidates : ∀ c ∈ kept, c ∈ filtered
  few : kept.length ≤ maxDetections
  ordered : kept.Pairwise fun a b => ranksBefore a b = true
  apart : kept.Pairwise fun a b => a.classId = b.classId → intersectionOverUnion a b ≤ iou
  maximal : ∀ c ∈ filtered, c ∉ kept →
    (∃ better ∈ kept, ranksBefore better c = true ∧ better.classId = c.classId ∧
      iou < intersectionOverUnion better c) ∨
    (kept.length = maxDetections ∧ ∀ better ∈ kept, ranksBefore better c = true)

theorem keptModelBoxes_suppression (output : YoloOutputView) {plan : PreprocessPlan}
    (threshold iou : ℚ) {maxDetections : Nat} (valid : validPlan plan = true)
    (some' : 0 < maxDetections) :
    Suppression iou maxDetections (filteredCandidates output plan threshold)
      (keptModelBoxes plan iou maxDetections ((filteredCandidates output plan threshold).mergeSort
        fun a b => !ranksBefore b a)) := by
  have ranked := ranked_sorted output plan threshold
  have greedy := Greedy.selects (suppresses iou) (visible plan) ranked some'
  have same : ∀ c, c ∈ (filteredCandidates output plan threshold).mergeSort
      (fun a b => !ranksBefore b a) ↔ c ∈ filteredCandidates output plan threshold :=
    fun c => List.mem_mergeSort
  refine ⟨fun c member => (same c).1 (greedy.sublist.subset member), greedy.few,
    ranked.sublist greedy.sublist, greedy.apart.imp ?_, fun c member out => ?_⟩
  · intro a b free sameClass
    by_contra overlaps
    have blocked := suppresses_iff.2 ⟨sameClass, not_le.1 overlaps⟩
    rw [free] at blocked
    contradiction
  · have inside := (filtered_inPicture member).inFrame valid
    rcases greedy.maximal c ((same c).2 member) inside.visible out with
      ⟨better, kept, rank, blocked⟩ | last
    · exact .inl ⟨better, kept, rank, suppresses_iff.1 blocked⟩
    · exact .inr last

theorem thresholds_some {config : YoloPostprocessConfig} {confidence iou : ℚ}
    (valid : config.thresholds = some (confidence, iou)) : 0 < config.maxDetections := by
  unfold YoloPostprocessConfig.thresholds at valid
  split at valid
  · split at valid
    · contradiction
    · rename_i inRange
      simp only [not_or] at inRange
      exact Nat.pos_of_ne_zero inRange.2.2.2.2
  · contradiction

/-- **Non-maximum suppression is correct.** For an output of a valid shape, a valid plan and a
valid configuration, the returned detections are the boxes of candidates that passed the
filters: at most `max_detections`, in the order of their rank, two of one class with an IoU of
at most the threshold, each box proper and inside the source frame. A candidate left out is
overlapped by a better one of its class that is returned, or ranks behind all of them with
`max_detections` reached. -/
theorem nms_correct (output : YoloOutputView) (plan : PreprocessPlan)
    (config : YoloPostprocessConfig) (frameSequence : UInt64) (confidence iou : ℚ)
    (shape : output.invalid = false) (valid : validPlan plan = true)
    (configured : config.thresholds = some (confidence, iou)) :
    ∃ result kept, postprocessYolo output plan config frameSequence = .ok result ∧
      result.frameSequence = frameSequence ∧ result.detections = kept.map (restore plan) ∧
      Suppression iou config.maxDetections (filteredCandidates output plan confidence) kept ∧
      ∀ d ∈ result.detections, InFrame plan d := by
  have suppression := keptModelBoxes_suppression output confidence iou valid
    (thresholds_some configured)
  refine ⟨⟨frameSequence, _⟩, _, ?_, rfl, rfl, suppression, ?_⟩
  · rw [postprocessYolo, shape, valid, configured]
    rfl
  · intro d member
    obtain ⟨c, kept, rfl⟩ := List.mem_map.1 member
    exact (filtered_inPicture (suppression.candidates c kept)).inFrame valid

/-- Two boxes of one class that overlap, in a picture of 640 by 640. -/
def twoBoxes : YoloOutputView where
  data := some (([100, 102, 100, 100, 40, 40, 20, 20, 9 / 10, 8 / 10] : List ℚ).map some)
  elements := 10
  channels := 5
  candidates := 2
  buffer := by simp

def square : PreprocessPlan := ⟨640, 640, 640, 640, 640, 640, 0, 0⟩

/-- Its candidates are this one and `weaker`. -/
def stronger : Candidate := ⟨0, 9 / 10, 80, 90, 120, 110, 0⟩

def weaker : Candidate := ⟨0, 8 / 10, 82, 90, 122, 110, 1⟩

theorem twoBoxes_filtered : filteredCandidates twoBoxes square (1 / 4) = [stronger, weaker] := by
  decide +kernel

/-- Only the better one of the two is returned. -/
theorem nms_correct_two : ∃ result, postprocessYolo twoBoxes square {} 42 = .ok result ∧
    result.detections = [⟨0, 9 / 10, 80, 90, 120, 110⟩] := by
  obtain ⟨result, kept, returned, -, detections, suppression, -⟩ := nms_correct twoBoxes square {} 42
    (1 / 4) (9 / 20) (by decide) (by decide) (by
      rw [YoloPostprocessConfig.thresholds]
      norm_num)
  obtain ⟨candidates, few, ordered, apart, maximal⟩ := suppression
  rw [twoBoxes_filtered] at candidates maximal
  have distinct : kept.Nodup := by
    refine ordered.imp ?_
    rintro a _ before rfl
    simp [ranksBefore] at before
  have first : stronger ∈ kept := by
    by_contra out
    rcases maximal stronger (by simp) out with ⟨better, member, before, -⟩ | ⟨full, -⟩
    · have known := candidates better member
      revert before
      simp only [List.mem_cons, List.not_mem_nil, or_false] at known
      rcases known with rfl | rfl
      · decide +kernel
      · decide +kernel
    · have short := (distinct.subperm candidates).length_le
      simp [full] at short
  have second : weaker ∉ kept := by
    intro member
    have symmetric : Std.Symm fun a b : Candidate =>
        a.classId = b.classId → intersectionOverUnion a b ≤ 9 / 20 :=
      ⟨fun a b free same => (intersectionOverUnion_comm b a).trans_le (free same.symm)⟩
    have close := apart.forall first member (by decide +kernel) rfl
    revert close
    decide +kernel
  have only : kept = [stronger] := by
    refine List.perm_singleton.1 ((List.perm_ext_iff_of_nodup distinct (List.nodup_singleton _)).2 ?_)
    intro c
    rw [List.mem_singleton]
    constructor
    · intro member
      rcases List.mem_pair.1 (candidates c member) with same | rfl
      · exact same
      · exact absurd member second
    · rintro rfl
      exact first
  refine ⟨result, returned, ?_⟩
  rw [detections, only]
  decide +kernel

end SkaiEdge.Inference
