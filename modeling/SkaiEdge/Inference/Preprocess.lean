import SkaiEdge.Inference.YoloPostprocess

/-!
# Preprocessing (`src/inference/preprocess.cpp`)

The letterbox plan and the reference tensor. `Floats` names the operations on `double` (`D`) and
`float` (`F`) that the code uses; `exact` is their exact meaning on the rationals. In exact arithmetic
`letterbox_restored` says that postprocessing undoes the plan.
-/

namespace SkaiEdge.Inference

/-- Operations on `double` and `float`. -/
structure Floats (D F : Type) where
  double : Int → D
  /-- `/`, `*` and `std::min` on `double`. -/
  quotient : D → D → D
  product : D → D → D
  least : D → D → D
  /-- `static_cast<int>(std::round(x))`. -/
  round : D → Int
  narrow : D → F
  float : Int → F
  literal : ℚ → F
  add : F → F → F
  sub : F → F → F
  mul : F → F → F
  div : F → F → F
  /-- `static_cast<int>(std::floor(x))`. -/
  floor : F → Int
  /-- `x <= 0.0f`. -/
  nonpositive : F → Bool
  /-- The lesser of two quotients of positive numbers is positive, as a `float` too. -/
  ratio_positive : ∀ a b c d : Int, 0 < a → 0 < b → 0 < c → 0 < d →
    nonpositive (narrow (least (quotient (double a) (double b))
      (quotient (double c) (double d)))) = false

/-- `std::round`: half away from zero. -/
def roundAway (x : ℚ) : Int := if 0 ≤ x then ⌊x + 1 / 2⌋ else -⌊-x + 1 / 2⌋

/-- Exact arithmetic. -/
def exact : Floats ℚ ℚ where
  double n := n
  quotient := (· / ·)
  product := (· * ·)
  least a b := if b < a then b else a
  round := roundAway
  narrow x := x
  float n := n
  literal x := x
  add := (· + ·)
  sub := (· - ·)
  mul := (· * ·)
  div := (· / ·)
  floor x := ⌊x⌋
  nonpositive x := decide (x ≤ 0)
  ratio_positive a b c d pa pb pc pd := by
    have first : (0 : ℚ) < a / b := div_pos (by exact_mod_cast pa) (by exact_mod_cast pb)
    have second : (0 : ℚ) < c / d := div_pos (by exact_mod_cast pc) (by exact_mod_cast pd)
    simp only [decide_eq_false_iff_not, not_le]
    split
    · exact second
    · exact first

/-- A borrowed packed BGR frame. `data` is `none` for a null pointer, else it points to `bytes`
bytes. -/
structure BgrImageView where
  data : Option (List UInt8)
  bytes : Nat
  width : Int32
  height : Int32
  stride : Int32
  buffer : ∀ values ∈ data, values.length = bytes

def validateImage (image : BgrImageView) : Except String Unit :=
  if image.data.isNone ∨ image.width ≤ 0 ∨ image.height ≤ 0 ∨
      image.width.toInt > (2 ^ 31 - 1) / 3 then
    .error "BGR image must have non-null data and positive dimensions"
  else
    let rowBytes := image.width.toInt.toNat * 3
    if image.stride < 0 ∨ image.stride.toInt.toNat < rowBytes then
      .error "BGR image stride is shorter than a packed row"
    else
      let rowsBeforeLast := (image.height.toInt - 1).toNat
      let stride := image.stride.toInt.toNat
      if rowsBeforeLast > (2 ^ 64 - 1 - rowBytes) / stride ∨
          image.bytes < rowsBeforeLast * stride + rowBytes then
        .error "BGR image buffer is shorter than its dimensions and stride"
      else .ok ()

/-- The plan with its nominal ratio, which only the preprocessing looks at. -/
structure ScaledPlan (F : Type) extends PreprocessPlan where
  scale : F
  deriving DecidableEq, Repr

/-- `std::clamp` on `int`. -/
def clampInt (value low high : Int) : Int :=
  if value < low then low else if high < value then high else value

section
variable {D F : Type} (A : Floats D F)

def letterboxRatio (image : BgrImageView) (targetWidth targetHeight : Int32) : D :=
  A.least (A.quotient (A.double targetWidth.toInt) (A.double image.width.toInt))
    (A.quotient (A.double targetHeight.toInt) (A.double image.height.toInt))

/-- One axis of the resized image. -/
def resizedExtent (ratio : D) (source target : Int) : Int :=
  clampInt (A.round (A.product (A.double source) ratio)) 1 target

def makePreprocessPlan (image : BgrImageView) (targetWidth targetHeight : Int32) :
    Except String (ScaledPlan F) := do
  validateImage image
  if targetWidth ≤ 0 ∨ targetHeight ≤ 0 then
    .error "preprocessing target dimensions must be positive"
  else
    let ratio := letterboxRatio A image targetWidth targetHeight
    let resizedWidth := resizedExtent A ratio image.width.toInt targetWidth.toInt
    let resizedHeight := resizedExtent A ratio image.height.toInt targetHeight.toInt
    return {
      sourceWidth := image.width.toInt
      sourceHeight := image.height.toInt
      width := targetWidth.toInt
      height := targetHeight.toInt
      resizedWidth
      resizedHeight
      padLeft := (targetWidth.toInt - resizedWidth).tdiv 2
      padTop := (targetHeight.toInt - resizedHeight).tdiv 2
      scale := A.narrow ratio }

/-- The checks of `preprocess_cpu`. -/
def checkPlan (image : BgrImageView) (plan : ScaledPlan F) : Except String Unit := do
  validateImage image
  if image.width.toInt ≠ plan.sourceWidth ∨ image.height.toInt ≠ plan.sourceHeight ∨
      plan.width ≤ 0 ∨ plan.height ≤ 0 ∨ A.nonpositive plan.scale = true ∨
      plan.resizedWidth ≤ 0 ∨ plan.resizedHeight ≤ 0 ∨ plan.padLeft < 0 ∨ plan.padTop < 0 ∨
      plan.padLeft + plan.resizedWidth > plan.width ∨
      plan.padTop + plan.resizedHeight > plan.height then
    .error "preprocessing plan does not match the BGR image"
  else if plan.height.toNat > (2 ^ 64 - 1) / plan.width.toNat / 3 then
    .error "preprocessing tensor size overflow"
  else .ok ()

end

/-! ## The plan -/

theorem validateImage_positive {image : BgrImageView} (accepted : validateImage image = .ok ()) :
    0 < image.width.toInt ∧ 0 < image.height.toInt := by
  unfold validateImage at accepted
  split at accepted
  · cases accepted
  · next refused =>
    simp only [not_or, Int32.not_le, Int32.lt_iff_toInt_lt] at refused
    exact ⟨refused.2.1, refused.2.2.1⟩

theorem clampInt_mem {value high : Int} (room : 1 ≤ high) :
    1 ≤ clampInt value 1 high ∧ clampInt value 1 high ≤ high := by
  unfold clampInt
  split
  · omega
  · split
    · omega
    · omega

/-- What every plan is, whatever the arithmetic: one axis. -/
structure Axis (source target resized pad : Int) : Prop where
  source : 0 < source
  least : 1 ≤ resized
  most : resized ≤ target
  pad : pad = (target - resized) / 2

namespace Axis

variable {source target resized pad : Int} (axis : Axis source target resized pad)
include axis

theorem pad_nonneg : 0 ≤ pad := by
  have most := axis.most
  rw [axis.pad]
  omega

theorem fits : pad + resized ≤ target := by
  have most := axis.most
  rw [axis.pad]
  omega

theorem bounds : 0 < source ∧ 1 ≤ resized ∧ resized ≤ target ∧ 0 ≤ pad ∧ pad + resized ≤ target :=
  ⟨axis.source, axis.least, axis.most, axis.pad_nonneg, axis.fits⟩

/-- The paddings on both sides differ by a pixel at most. -/
theorem balanced : |pad - (target - resized - pad)| ≤ 1 := by
  have most := axis.most
  rw [abs_le, axis.pad]
  omega

end Axis

section
variable {D F : Type} {A : Floats D F} {image : BgrImageView} {targetWidth targetHeight : Int32}
  {plan : ScaledPlan F}

/-- What a plan is made of. -/
structure Planned (A : Floats D F) (image : BgrImageView) (targetWidth targetHeight : Int32)
    (plan : ScaledPlan F) : Prop where
  accepted : validateImage image = .ok ()
  width : plan.width = targetWidth.toInt
  height : plan.height = targetHeight.toInt
  sourceWidth : plan.sourceWidth = image.width.toInt
  sourceHeight : plan.sourceHeight = image.height.toInt
  resizedWidth : plan.resizedWidth =
    resizedExtent A (letterboxRatio A image targetWidth targetHeight) plan.sourceWidth plan.width
  resizedHeight : plan.resizedHeight =
    resizedExtent A (letterboxRatio A image targetWidth targetHeight) plan.sourceHeight plan.height
  across : Axis plan.sourceWidth plan.width plan.resizedWidth plan.padLeft
  down : Axis plan.sourceHeight plan.height plan.resizedHeight plan.padTop
  scale : A.nonpositive plan.scale = false

theorem resizedExtent_axis (ratio : D) {source target : Int} (positive : 0 < source)
    (room : 0 < target) : Axis source target (resizedExtent A ratio source target)
      ((target - resizedExtent A ratio source target).tdiv 2) := by
  obtain ⟨least, most⟩ :=
    @clampInt_mem (A.round (A.product (A.double source) ratio)) target (by omega)
  have nonneg : 0 ≤ target - resizedExtent A ratio source target := by
    rw [resizedExtent]
    omega
  exact ⟨positive, least, most, Int.tdiv_eq_ediv_of_nonneg nonneg⟩

theorem makePreprocessPlan_planned
    (made : makePreprocessPlan A image targetWidth targetHeight = .ok plan) :
    Planned A image targetWidth targetHeight plan := by
  unfold makePreprocessPlan at made
  cases accepted : validateImage image with
  | error message =>
    rw [accepted] at made
    cases made
  | ok _ =>
    rw [accepted] at made
    obtain ⟨wide, high⟩ := validateImage_positive accepted
    simp only [bind, Except.bind] at made
    split at made
    · cases made
    · next refused =>
      simp only [not_or, Int32.not_le, Int32.lt_iff_toInt_lt] at refused
      have target : 0 < targetWidth.toInt ∧ 0 < targetHeight.toInt := refused
      obtain rfl := Except.ok.inj made
      exact ⟨accepted, rfl, rfl, rfl, rfl, rfl, rfl, resizedExtent_axis _ wide target.1,
        resizedExtent_axis _ high target.2,
        A.ratio_positive _ _ _ _ target.1 wide target.2 high⟩

theorem makePreprocessPlan_ok (A : Floats D F) (accepted : validateImage image = .ok ())
    (wide : 0 < targetWidth) (high : 0 < targetHeight) :
    ∃ plan, makePreprocessPlan A image targetWidth targetHeight = .ok plan := by
  have positive : ¬(targetWidth ≤ 0 ∨ targetHeight ≤ 0) := by
    rw [not_or, Int32.not_le, Int32.not_le]
    exact ⟨wide, high⟩
  unfold makePreprocessPlan
  rw [accepted]
  simp only [bind, Except.bind]
  rw [if_neg positive]
  exact ⟨_, rfl⟩

/-- Whatever the arithmetic, a plan passes the checks of its users. -/
theorem Planned.checkPlan (planned : Planned A image targetWidth targetHeight plan) :
    Inference.checkPlan A image plan = .ok () := by
  obtain ⟨source, least, most, left, right⟩ := planned.across.bounds
  obtain ⟨source', least', most', top, bottom⟩ := planned.down.bounds
  have width : plan.width < 2 ^ 31 := planned.width ▸ targetWidth.toInt_lt
  have height : plan.height < 2 ^ 31 := planned.height ▸ targetHeight.toInt_lt
  unfold Inference.checkPlan
  rw [planned.accepted]
  simp only [bind, Except.bind]
  rw [if_neg, if_neg]
  · rw [Nat.div_div_eq_div_mul, not_lt, Nat.le_div_iff_mul_le (by omega)]
    have product : plan.height.toNat * plan.width.toNat ≤ (2 ^ 31 - 1) * (2 ^ 31 - 1) :=
      Nat.mul_le_mul (by omega) (by omega)
    calc plan.height.toNat * (plan.width.toNat * 3)
        = plan.height.toNat * plan.width.toNat * 3 := by ring
      _ ≤ (2 ^ 31 - 1) * (2 ^ 31 - 1) * 3 := Nat.mul_le_mul_right 3 product
      _ ≤ 2 ^ 64 - 1 := by norm_num
  · simp only [planned.sourceWidth, planned.sourceHeight, planned.scale, ne_eq, not_true_eq_false,
      Bool.false_eq_true, false_or, not_or]
    omega

theorem Planned.validPlan (planned : Planned A image targetWidth targetHeight plan) :
    Inference.validPlan plan.toPreprocessPlan = true := by
  obtain ⟨source, least, most, left, right⟩ := planned.across.bounds
  obtain ⟨source', least', most', top, bottom⟩ := planned.down.bounds
  simp only [Inference.validPlan, Bool.and_eq_true, decide_eq_true_eq]
  omega

end

/-! ## In exact arithmetic -/

theorem roundAway_int (n : Int) (nonneg : 0 ≤ n) : roundAway n = n := by
  rw [roundAway, if_pos (by exact_mod_cast nonneg), Int.floor_eq_iff]
  constructor
  · linarith
  · linarith

/-- The axis that decides the ratio is filled. -/
theorem resizedExtent_exact {source target : Int} (positive : 0 < source) (room : 0 < target) :
    resizedExtent exact ((target : ℚ) / source) source target = target := by
  have nonzero : (source : ℚ) ≠ 0 := by exact_mod_cast positive.ne'
  have product : exact.round (exact.product (exact.double source) ((target : ℚ) / source)) =
      target := by
    have cancel : (source : ℚ) * ((target : ℚ) / source) = target := mul_div_cancel₀ _ nonzero
    calc exact.round (exact.product (exact.double source) ((target : ℚ) / source))
        = roundAway ((source : ℚ) * ((target : ℚ) / source)) := rfl
      _ = roundAway target := by rw [cancel]
      _ = target := roundAway_int target room.le
  rw [resizedExtent, product, clampInt]
  split
  · omega
  · split
    · omega
    · rfl

theorem Planned.fills {image : BgrImageView} {targetWidth targetHeight : Int32} {plan : ScaledPlan ℚ}
    (planned : Planned exact image targetWidth targetHeight plan) :
    plan.resizedWidth = plan.width ∨ plan.resizedHeight = plan.height := by
  have across := planned.across
  have down := planned.down
  have room : 0 < plan.width := by
    have := across.least
    have := across.most
    omega
  have room' : 0 < plan.height := by
    have := down.least
    have := down.most
    omega
  have ratio : letterboxRatio exact image targetWidth targetHeight =
      if (plan.height : ℚ) / plan.sourceHeight < (plan.width : ℚ) / plan.sourceWidth then
        (plan.height : ℚ) / plan.sourceHeight else (plan.width : ℚ) / plan.sourceWidth := by
    rw [planned.width, planned.height, planned.sourceWidth, planned.sourceHeight]
    rfl
  have width := planned.resizedWidth
  have height := planned.resizedHeight
  rw [ratio] at width height
  split at width
  · next smaller =>
    rw [if_pos smaller] at height
    exact .inr (height.trans (resizedExtent_exact down.source room'))
  · exact .inl (width.trans (resizedExtent_exact across.source room))

/-! ## Boxes -/

/-- One axis of a source-frame box in the model frame. -/
def toModel (source resized pad : Int) (x : ℚ) : ℚ := x * (resized / source) + pad

/-- The frame's edges go to the edges of the picture. -/
theorem toModel_edges {source : Int} (resized pad : Int) (positive : 0 < source) :
    toModel source resized pad 0 = pad ∧ toModel source resized pad source = pad + resized := by
  have nonzero : (source : ℚ) ≠ 0 := by exact_mod_cast positive.ne'
  unfold toModel
  constructor
  · ring
  · rw [mul_div_cancel₀ _ nonzero]
    ring

section
variable {source resized : Int} (pad : Int) (positive : 0 < source) (some' : 0 < resized)
include positive some'

/-- `restore` takes it back. -/
theorem toModel_restored (x : ℚ) :
    (toModel source resized pad x - pad) * (source / resized) = x := by
  have nonzero : (source : ℚ) ≠ 0 := by exact_mod_cast positive.ne'
  have nonzero' : (resized : ℚ) ≠ 0 := by exact_mod_cast some'.ne'
  rw [toModel]
  field_simp
  ring

theorem toModel_lt {a b : ℚ} (less : a < b) :
    toModel source resized pad a < toModel source resized pad b := by
  have ratio : (0 : ℚ) < resized / source :=
    div_pos (by exact_mod_cast some') (by exact_mod_cast positive)
  have scaled := mul_lt_mul_of_pos_right less ratio
  unfold toModel
  linarith

/-- A proper interval of the frame is one in the picture. -/
theorem toModel_interval {a b : ℚ} (start : 0 ≤ a) (proper : a < b) (ends : b ≤ source) :
    toModel source resized pad a < toModel source resized pad b ∧
      (pad : ℚ) < toModel source resized pad b ∧ toModel source resized pad a < pad + resized := by
  obtain ⟨low, high⟩ := toModel_edges resized pad positive
  refine ⟨toModel_lt pad positive some' proper, ?_, ?_⟩
  · rw [← low]
    exact toModel_lt pad positive some' (start.trans_lt proper)
  · rw [← high]
    exact toModel_lt pad positive some' (proper.trans_le ends)

end

/-- The candidate at `index` is the box of `d` in the model frame, and no other one has a score above
the threshold. -/
structure OnlyCandidate (output : YoloOutputView) (plan : PreprocessPlan) (threshold : ℚ)
    (d : Detection ℚ) (index : Nat) : Prop where
  inside : index < output.candidates.toNat
  best : bestScore output index = some (d.confidence, d.classId)
  above : threshold < d.confidence
  others : ∀ j < output.candidates.toNat, j ≠ index → ∀ score ∈ bestScore output j, score.1 ≤ threshold
  centreX : output.reading index =
    some ((toModel plan.sourceWidth plan.resizedWidth plan.padLeft d.x1 +
      toModel plan.sourceWidth plan.resizedWidth plan.padLeft d.x2) / 2)
  centreY : output.reading (output.candidates.toNat + index) =
    some ((toModel plan.sourceHeight plan.resizedHeight plan.padTop d.y1 +
      toModel plan.sourceHeight plan.resizedHeight plan.padTop d.y2) / 2)
  width : output.reading (2 * output.candidates.toNat + index) =
    some (toModel plan.sourceWidth plan.resizedWidth plan.padLeft d.x2 -
      toModel plan.sourceWidth plan.resizedWidth plan.padLeft d.x1)
  height : output.reading (3 * output.candidates.toNat + index) =
    some (toModel plan.sourceHeight plan.resizedHeight plan.padTop d.y2 -
      toModel plan.sourceHeight plan.resizedHeight plan.padTop d.y1)

/-- The candidate of a box of the source frame. -/
def modelCandidate (plan : PreprocessPlan) (d : Detection ℚ) (index : Nat) : Candidate where
  classId := d.classId
  confidence := d.confidence
  x1 := toModel plan.sourceWidth plan.resizedWidth plan.padLeft d.x1
  y1 := toModel plan.sourceHeight plan.resizedHeight plan.padTop d.y1
  x2 := toModel plan.sourceWidth plan.resizedWidth plan.padLeft d.x2
  y2 := toModel plan.sourceHeight plan.resizedHeight plan.padTop d.y2
  index := index

section
variable {output : YoloOutputView} {plan : PreprocessPlan} {threshold : ℚ} {d : Detection ℚ}
  {index : Nat}

theorem validPlan_positive (valid : validPlan plan = true) :
    (0 < plan.sourceWidth ∧ 0 < plan.resizedWidth) ∧
      (0 < plan.sourceHeight ∧ 0 < plan.resizedHeight) := by
  simp only [validPlan, Bool.and_eq_true, decide_eq_true_eq] at valid
  omega

/-- A proper box inside the source frame is inside the picture of the model frame. -/
theorem modelCandidate_inPicture (valid : validPlan plan = true) (inside : InFrame plan d)
    (index : Nat) : InPicture plan (modelCandidate plan d index) := by
  obtain ⟨⟨source, resized⟩, source', resized'⟩ := validPlan_positive valid
  obtain ⟨⟨left, wide, right⟩, top, high, bottom⟩ := inside
  obtain ⟨proper, reaches, starts⟩ :=
    toModel_interval plan.padLeft source resized left wide right
  obtain ⟨proper', reaches', starts'⟩ :=
    toModel_interval plan.padTop source' resized' top high bottom
  exact ⟨proper, proper', reaches, starts, reaches', starts'⟩

theorem clamp_inside {x high : ℚ} (least : 0 ≤ x) (most : x ≤ high) : clamp x 0 high = x := by
  rw [clamp, if_neg (not_lt.2 least), if_neg (not_lt.2 most)]

/-- Restoring undoes the mapping. -/
theorem restore_modelCandidate (valid : validPlan plan = true) (inside : InFrame plan d)
    (index : Nat) : restore plan (modelCandidate plan d index) = d := by
  obtain ⟨⟨source, resized⟩, source', resized'⟩ := validPlan_positive valid
  obtain ⟨⟨left, wide, right⟩, top, high, bottom⟩ := inside
  simp only [restore, modelCandidate, toModel_restored plan.padLeft source resized,
    toModel_restored plan.padTop source' resized']
  rw [clamp_inside left (wide.le.trans right), clamp_inside (left.trans wide.le) right,
    clamp_inside top (high.le.trans bottom), clamp_inside (top.trans high.le) bottom]

theorem OnlyCandidate.candidateAt (only : OnlyCandidate output plan threshold d index)
    (valid : validPlan plan = true) (inside : InFrame plan d) :
    Inference.candidateAt output plan threshold index = some (modelCandidate plan d index) := by
  obtain ⟨wide, high, right, left, bottom, top⟩ := modelCandidate_inPicture valid inside index
  simp only [modelCandidate] at wide high right left bottom top
  have halves : ∀ a b : ℚ, (a + b) / 2 - (b - a) / 2 = a ∧ (a + b) / 2 + (b - a) / 2 = b :=
    fun a b => ⟨by ring, by ring⟩
  simp only [Inference.candidateAt, only.best, only.centreX, only.centreY, only.width, only.height,
    Option.bind_eq_bind, Option.bind_some, (halves _ _).1, (halves _ _).2]
  rw [if_neg (not_le.2 only.above), if_neg, if_neg]
  · rfl
  · simp only [not_or, not_le, ge_iff_le]
    exact ⟨right, left, bottom, top⟩
  · rw [not_or, not_le, not_le, sub_pos, sub_pos]
    exact ⟨wide, high⟩

theorem OnlyCandidate.filteredCandidates (only : OnlyCandidate output plan threshold d index)
    (valid : validPlan plan = true) (inside : InFrame plan d) :
    Inference.filteredCandidates output plan threshold = [modelCandidate plan d index] := by
  obtain ⟨before, after, split⟩ := List.append_of_mem (List.mem_range.2 only.inside)
  have distinct := List.nodup_range (n := output.candidates.toNat)
  have none_of : ∀ j ∈ List.range output.candidates.toNat, j ≠ index →
      Inference.candidateAt output plan threshold j = none := by
    intro j member other
    have low := only.others j (List.mem_range.1 member) other
    unfold Inference.candidateAt
    cases best : bestScore output j with
    | none => rfl
    | some score =>
      simp only [Option.bind_eq_bind, Option.bind_some]
      rw [if_pos (low score best)]
  rw [Inference.filteredCandidates]
  rw [split] at distinct none_of ⊢
  obtain ⟨-, apart, others⟩ := List.nodup_append.1 distinct
  have first : before.filterMap (Inference.candidateAt output plan threshold) = [] := by
    rw [List.filterMap_eq_nil_iff]
    exact fun j member => none_of j (List.mem_append_left _ member)
      (others j member index (List.mem_cons_self))
  have last : after.filterMap (Inference.candidateAt output plan threshold) = [] := by
    rw [List.filterMap_eq_nil_iff]
    intro j member
    refine none_of j (List.mem_append_right _ (List.mem_cons_of_mem _ member)) ?_
    rintro rfl
    exact (List.nodup_cons.1 apart).1 member
  rw [List.filterMap_append, List.filterMap_cons, only.candidateAt valid inside, first, last]
  rfl

/-- The only candidate is returned. -/
theorem OnlyCandidate.returned (only : OnlyCandidate output plan threshold d index)
    (valid : validPlan plan = true) (inside : InFrame plan d) (shape : output.invalid = false)
    {config : YoloPostprocessConfig} {iou : ℚ}
    (configured : config.thresholds = some (threshold, iou)) (frameSequence : UInt64) :
    postprocessYolo output plan config frameSequence = .ok ⟨frameSequence, [d]⟩ := by
  have limit := thresholds_some configured
  have restored := restore_modelCandidate valid inside index
  have seen : visible plan (modelCandidate plan d index) = true :=
    ((modelCandidate_inPicture valid inside index).inFrame valid).visible
  have kept : keptModelBoxes plan iou config.maxDetections [modelCandidate plan d index] =
      [modelCandidate plan d index] := by
    simp only [keptModelBoxes, SkaiEdge.Lib.Greedy.select, List.any_nil, seen, List.nil_append]
    simp
  rw [postprocessYolo, shape, valid, configured]
  simp only [only.filteredCandidates valid inside, List.mergeSort_singleton, kept, List.map_cons,
    List.map_nil, restored, Bool.false_eq_true, if_false, Bool.not_true]

end

/-- **Letterboxing is undone by restoration.** In exact arithmetic every accepted image and every
positive target has a plan that its users accept; it fills one axis of the target, its paddings
differ by a pixel at most, and a box of the source frame that is mapped into the model frame and is
the only candidate comes back as it was. -/
theorem letterbox_restored (image : BgrImageView) (targetWidth targetHeight : Int32)
    (accepted : validateImage image = .ok ()) (wide : 0 < targetWidth) (high : 0 < targetHeight) :
    ∃ plan, makePreprocessPlan exact image targetWidth targetHeight = .ok plan ∧
      checkPlan exact image plan = .ok () ∧ validPlan plan.toPreprocessPlan = true ∧
      (plan.resizedWidth = targetWidth.toInt ∨ plan.resizedHeight = targetHeight.toInt) ∧
      |plan.padLeft - (plan.width - plan.resizedWidth - plan.padLeft)| ≤ 1 ∧
      |plan.padTop - (plan.height - plan.resizedHeight - plan.padTop)| ≤ 1 ∧
      ∀ (d : Detection ℚ) (output : YoloOutputView) (config : YoloPostprocessConfig)
        (threshold iou : ℚ) (index : Nat) (frameSequence : UInt64),
        InFrame plan.toPreprocessPlan d → output.invalid = false →
        config.thresholds = some (threshold, iou) →
        OnlyCandidate output plan.toPreprocessPlan threshold d index →
        postprocessYolo output plan.toPreprocessPlan config frameSequence =
          .ok ⟨frameSequence, [d]⟩ := by
  obtain ⟨plan, made⟩ := makePreprocessPlan_ok exact accepted wide high
  have planned := makePreprocessPlan_planned made
  refine ⟨plan, made, planned.checkPlan, planned.validPlan, ?_, planned.across.balanced,
    planned.down.balanced, ?_⟩
  · rw [← planned.width, ← planned.height]
    exact planned.fills
  · intro d output config threshold iou index frameSequence inside shape configured only
    exact only.returned planned.validPlan inside shape configured frameSequence

/-- A picture of 4 by 2, letterboxed to 8 by 8. -/
def small : BgrImageView where
  data := some (List.replicate 24 0)
  bytes := 24
  width := 4
  height := 2
  stride := 12
  buffer := by simp

def smallBox : Detection ℚ := ⟨0, 9 / 10, 1, 0, 3, 1⟩

/-- `smallBox` in the model frame. -/
def smallOutput : YoloOutputView where
  data := some (([4, 3, 4, 2, 9 / 10] : List ℚ).map some)
  elements := 5
  channels := 5
  candidates := 1
  buffer := by simp

theorem letterbox_restored_small : ∃ plan, makePreprocessPlan exact small 8 8 = .ok plan ∧
    postprocessYolo smallOutput plan.toPreprocessPlan {} 7 = .ok ⟨7, [smallBox]⟩ := by
  obtain ⟨plan, made, -, -, -, -, -, returned⟩ :=
    letterbox_restored small 8 8 (by decide +kernel) (by decide) (by decide)
  have computed : makePreprocessPlan exact small 8 8 =
      .ok ⟨⟨4, 2, 8, 8, 8, 4, 0, 2⟩, 2⟩ := by decide +kernel
  obtain rfl := Except.ok.inj (made.symm.trans computed)
  refine ⟨_, made, returned smallBox smallOutput {} (1 / 4) (9 / 20) 0 7 ?_ (by decide) ?_ ?_⟩
  · unfold InFrame
    decide +kernel
  · rw [YoloPostprocessConfig.thresholds]
    norm_num
  · exact ⟨by decide, by decide +kernel, by decide +kernel, by decide +kernel, by decide +kernel,
      by decide +kernel, by decide +kernel, by decide +kernel⟩

end SkaiEdge.Inference
