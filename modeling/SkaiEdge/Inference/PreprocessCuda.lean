import SkaiEdge.Lib.Writes
import SkaiEdge.Inference.Preprocess
import SkaiEdge.Inference.TensorLayout

/-!
# Preprocessing on the GPU (`src/inference/preprocess_cuda.cu`)

`preprocess_cpu` fills the tensor with the padding and then visits the picture; the kernel decides for
each thread of a grid that is rounded up to blocks of 16 by 16. A thread is the list of its writes, so
that the writes of all threads may come in any order. The float operations are the same abstract ones on
both sides.
-/

namespace SkaiEdge.Inference

open SkaiEdge.Lib

variable {D F : Type} (A : Floats D F)

/-- `image.data[i]`. -/
def BgrImageView.byte (image : BgrImageView) (i : Nat) : UInt8 := (image.data.getD []).getD i 0

def pixel (image : BgrImageView) (x y : Int) (channel : Nat) : F :=
  A.float (image.byte (y.toNat * image.stride.toInt.toNat + x.toNat * 3 + channel)).toNat

def sampleChannel (image : BgrImageView) (x y : F) (channel : Nat) : F :=
  let xFloor := A.floor x
  let yFloor := A.floor y
  let wx := A.sub x (A.float xFloor)
  let wy := A.sub y (A.float yFloor)
  let x0 := clampInt xFloor 0 (image.width.toInt - 1)
  let x1 := clampInt (xFloor + 1) 0 (image.width.toInt - 1)
  let y0 := clampInt yFloor 0 (image.height.toInt - 1)
  let y1 := clampInt (yFloor + 1) 0 (image.height.toInt - 1)
  let upper := A.add (A.mul (pixel A image x0 y0 channel) (A.sub (A.literal 1) wx))
    (A.mul (pixel A image x1 y0 channel) wx)
  let lower := A.add (A.mul (pixel A image x0 y1 channel) (A.sub (A.literal 1) wx))
    (A.mul (pixel A image x1 y1 channel) wx)
  A.add (A.mul upper (A.sub (A.literal 1) wy)) (A.mul lower wy)

/-- `(static_cast<float>(position - pad) + 0.5f) * source / resized - 0.5f`, in both versions. -/
def sourceCoordinate (position pad source resized : Int) : F :=
  A.sub (A.div (A.mul (A.add (A.float (position - pad)) (A.literal (1 / 2))) (A.float source))
    (A.float resized)) (A.literal (1 / 2))

def padding : F := A.div (A.literal 114) (A.literal 255)

def preprocessCpu (image : BgrImageView) (plan : ScaledPlan F) : Except String (List F) := do
  checkPlan A image plan
  let width := plan.width.toNat
  let plane := width * plan.height.toNat
  let rows := List.range' plan.padTop.toNat plan.resizedHeight.toNat
  let columns := List.range' plan.padLeft.toNat plan.resizedWidth.toNat
  return rows.foldl (fun output (y : Nat) =>
    let sourceY := sourceCoordinate A y plan.padTop plan.sourceHeight plan.resizedHeight
    columns.foldl (fun output (x : Nat) =>
      let sourceX := sourceCoordinate A x plan.padLeft plan.sourceWidth plan.resizedWidth
      let offset := y * width + x
      ((output.set offset (A.div (sampleChannel A image sourceX sourceY 2) (A.literal 255))).set
        (plane + offset) (A.div (sampleChannel A image sourceX sourceY 1) (A.literal 255))).set
        (plane * 2 + offset) (A.div (sampleChannel A image sourceX sourceY 0) (A.literal 255)))
      output) (List.replicate (plane * 3) (padding A))

/-! ## The kernel -/

def channelAt (source : Nat → UInt8) (stride x y : Int) (channel : Nat) : F :=
  A.float (source (y.toNat * stride.toNat + x.toNat * 3 + channel)).toNat

def bilinearChannel (source : Nat → UInt8) (stride sourceWidth sourceHeight : Int) (sx sy : F)
    (channel : Nat) : F :=
  let floorX := A.floor sx
  let floorY := A.floor sy
  let wx := A.sub sx (A.float floorX)
  let wy := A.sub sy (A.float floorY)
  let x0 := max 0 (min floorX (sourceWidth - 1))
  let x1 := max 0 (min (floorX + 1) (sourceWidth - 1))
  let y0 := max 0 (min floorY (sourceHeight - 1))
  let y1 := max 0 (min (floorY + 1) (sourceHeight - 1))
  let upper := A.add (A.mul (channelAt A source stride x0 y0 channel) (A.sub (A.literal 1) wx))
    (A.mul (channelAt A source stride x1 y0 channel) wx)
  let lower := A.add (A.mul (channelAt A source stride x0 y1 channel) (A.sub (A.literal 1) wx))
    (A.mul (channelAt A source stride x1 y1 channel) wx)
  A.add (A.mul upper (A.sub (A.literal 1) wy)) (A.mul lower wy)

/-- The writes of one thread. -/
def preprocessKernel (source : Nat → UInt8) (stride : Int) (plan : ScaledPlan F)
    (thread : Nat × Nat) : List (Nat × F) :=
  let x : Int := thread.1
  let y : Int := thread.2
  if x ≥ plan.width ∨ y ≥ plan.height then []
  else
    let plane := plan.width.toNat * plan.height.toNat
    let offset := thread.2 * plan.width.toNat + thread.1
    if x < plan.padLeft ∨ x ≥ plan.padLeft + plan.resizedWidth ∨
        y < plan.padTop ∨ y ≥ plan.padTop + plan.resizedHeight then
      let pad := A.div (A.literal 114) (A.literal 255)
      [(offset, pad), (plane + offset, pad), (2 * plane + offset, pad)]
    else
      let sx := sourceCoordinate A x plan.padLeft plan.sourceWidth plan.resizedWidth
      let sy := sourceCoordinate A y plan.padTop plan.sourceHeight plan.resizedHeight
      let sample := fun channel => A.div
        (bilinearChannel A source stride plan.sourceWidth plan.sourceHeight sx sy channel) (A.literal 255)
      [(offset, sample 2), (plane + offset, sample 1), (2 * plane + offset, sample 0)]

/-- The threads of the launch: blocks of 16 by 16, rounded up. -/
def grid (plan : ScaledPlan F) : List (Nat × Nat) :=
  (List.range ((plan.height.toNat + 16 - 1) / 16)).flatMap fun blockY =>
    (List.range ((plan.width.toNat + 16 - 1) / 16)).flatMap fun blockX =>
      (List.range 16).flatMap fun threadY => (List.range 16).map fun threadX =>
        (blockX * 16 + threadX, blockY * 16 + threadY)

/-- What `CudaPreprocessor::run` asks of the engine; `buffers` when the device buffer and the stream
are there. -/
structure Engine where
  loaded : Bool
  tensors : List TensorInfo
  buffers : Bool
  deriving DecidableEq, Repr

/-- `CudaPreprocessor::run` up to its first CUDA call. -/
def prepare (engine : Engine) (inputName : String) (image : BgrImageView) :
    Except String (ScaledPlan F) :=
  if !engine.loaded then .error "TensorRT engine is not loaded"
  else
    match engine.tensors.find? fun tensor => tensor.name = inputName && tensor.input with
    | none => .error ("TensorRT input tensor '" ++ inputName ++ "' is unavailable")
    | some binding =>
      match binding.dataType, binding.shape with
      | "FP32", [1, 3, height, width] =>
        if height > 2147483647 ∨ width > 2147483647 then
          .error ("TensorRT input '" ++ inputName ++ "' must be FP32 NCHW [1,3,H,W]")
        else do
          let plan ← makePreprocessPlan A image width.toInt32 height.toInt32
          if !engine.buffers then
            .error "TensorRT input buffer or CUDA stream is unavailable"
          else if image.height.toInt.toNat > (2 ^ 64 - 1) / image.stride.toInt.toNat then
            .error "BGR upload size overflow"
          else return plan
      | _, _ => .error ("TensorRT input '" ++ inputName ++ "' must be FP32 NCHW [1,3,H,W]")

/-- `cudaMemcpy2DAsync`: the bytes of each row, over what the staging buffer held. -/
def upload (image : BgrImageView) (staging : Nat → UInt8) : Nat → UInt8 :=
  (List.range image.height.toInt.toNat).foldl (fun staging row i =>
    let start := row * image.stride.toInt.toNat
    if start ≤ i ∧ i < start + image.width.toInt.toNat * 3 then image.byte i else staging i) staging

/-! ## Elements of the tensor -/

/-- The element of channel `c` (red first) at column `x` and row `y`. -/
def address (width height c y x : Nat) : Nat := c * (width * height) + (y * width + x)

theorem offset_lt {width height y x : Nat} (column : x < width) (row : y < height) :
    y * width + x < width * height := by
  calc y * width + x < y * width + width := by omega
    _ = (y + 1) * width := by ring
    _ ≤ height * width := Nat.mul_le_mul_right width row
    _ = width * height := Nat.mul_comm _ _

theorem address_lt {width height c y x : Nat} (column : x < width) (row : y < height)
    (channel : c < 3) : address width height c y x < width * height * 3 := by
  have inside := offset_lt column row
  have planes : c * (width * height) ≤ 2 * (width * height) := Nat.mul_le_mul_right _ (by omega)
  rw [address]
  omega

theorem digits_inj {base q r q' r' : Nat} (digit : r < base) (digit' : r' < base)
    (same : q * base + r = q' * base + r') : q = q' ∧ r = r' := by
  have quotient : ∀ {q r}, r < base → (q * base + r) / base = q := by
    intro q r digit
    rw [Nat.mul_comm, Nat.mul_add_div (by omega), Nat.div_eq_of_lt digit, Nat.add_zero]
  have first : q = q' := by rw [← @quotient q r digit, same, quotient digit']
  subst first
  exact ⟨rfl, Nat.add_left_cancel same⟩

/-- An address tells its channel, row and column. -/
theorem address_inj {width height c y x c' y' x' : Nat} (column : x < width) (row : y < height)
    (column' : x' < width) (row' : y' < height)
    (same : address width height c y x = address width height c' y' x') :
    c = c' ∧ y = y' ∧ x = x' := by
  obtain ⟨channel, offset⟩ := digits_inj (offset_lt column row) (offset_lt column' row') same
  exact ⟨channel, digits_inj column column' offset⟩

/-- Every element of the tensor has an address. -/
theorem address_surj {width height i : Nat} (inside : i < width * height * 3) :
    ∃ c y x, c < 3 ∧ y < height ∧ x < width ∧ i = address width height c y x := by
  have plane : 0 < width * height := by
    by_contra empty
    rw [Nat.eq_zero_of_not_pos empty] at inside
    omega
  have positive : 0 < width := Nat.pos_of_mul_pos_right plane
  refine ⟨i / (width * height), i % (width * height) / width, i % (width * height) % width, ?_, ?_,
    Nat.mod_lt _ positive, ?_⟩
  · exact Nat.div_lt_of_lt_mul inside
  · exact Nat.div_lt_of_lt_mul (Nat.mod_lt _ plane)
  · rw [address, Nat.div_add_mod', Nat.div_add_mod']

/-- In the picture, not in the padding. -/
def inContent (plan : ScaledPlan F) (y x : Nat) : Prop :=
  (plan.padLeft ≤ x ∧ x < plan.padLeft + plan.resizedWidth) ∧
    (plan.padTop ≤ y ∧ y < plan.padTop + plan.resizedHeight)

instance (plan : ScaledPlan F) (y x : Nat) : Decidable (inContent plan y x) := by
  unfold inContent
  infer_instance

/-- What the tensor is to hold. -/
def element (image : BgrImageView) (plan : ScaledPlan F) (c y x : Nat) : F :=
  if inContent plan y x then
    A.div (sampleChannel A image
      (sourceCoordinate A x plan.padLeft plan.sourceWidth plan.resizedWidth)
      (sourceCoordinate A y plan.padTop plan.sourceHeight plan.resizedHeight) (2 - c)) (A.literal 255)
  else padding A

/-- The three writes of an element. -/
def elementWrites (image : BgrImageView) (plan : ScaledPlan F) (y x : Nat) : List (Nat × F) :=
  (List.range 3).map fun c =>
    (address plan.width.toNat plan.height.toNat c y x, element A image plan c y x)

variable {A} {image : BgrImageView} {targetWidth targetHeight : Int32} {plan : ScaledPlan F}

/-! ## The reference -/

theorem Planned.nonneg (planned : Planned A image targetWidth targetHeight plan) :
    (0 ≤ plan.padLeft ∧ 0 ≤ plan.resizedWidth ∧ plan.padLeft + plan.resizedWidth ≤ plan.width) ∧
      (0 ≤ plan.padTop ∧ 0 ≤ plan.resizedHeight ∧ plan.padTop + plan.resizedHeight ≤ plan.height) := by
  have across := planned.across.least
  have down := planned.down.least
  exact ⟨⟨planned.across.pad_nonneg, by omega, planned.across.fits⟩,
    planned.down.pad_nonneg, by omega, planned.down.fits⟩

/-- The loops of the reference visit the picture. -/
theorem mem_content (planned : Planned A image targetWidth targetHeight plan) {y x : Nat} :
    y ∈ List.range' plan.padTop.toNat plan.resizedHeight.toNat ∧
      x ∈ List.range' plan.padLeft.toNat plan.resizedWidth.toNat ↔ inContent plan y x := by
  obtain ⟨⟨left, width, -⟩, top, height, -⟩ := planned.nonneg
  rw [List.mem_range'_1, List.mem_range'_1, inContent]
  omega

theorem elementWrites_content {y x : Nat} (inside : inContent plan y x) :
    elementWrites A image plan y x =
      let sx := sourceCoordinate A x plan.padLeft plan.sourceWidth plan.resizedWidth
      let sy := sourceCoordinate A y plan.padTop plan.sourceHeight plan.resizedHeight
      let plane := plan.width.toNat * plan.height.toNat
      let offset := y * plan.width.toNat + x
      [(offset, A.div (sampleChannel A image sx sy 2) (A.literal 255)),
        (plane + offset, A.div (sampleChannel A image sx sy 1) (A.literal 255)),
        (2 * plane + offset, A.div (sampleChannel A image sx sy 0) (A.literal 255))] := by
  simp [elementWrites, element, inside, address, List.range_succ]

/-- **The reference is the padding with the writes of the picture.** -/
theorem preprocessCpu_eq (planned : Planned A image targetWidth targetHeight plan) :
    preprocessCpu A image plan = .ok (Writes.setAll
      (List.replicate (plan.width.toNat * plan.height.toNat * 3) (padding A))
      ((List.range' plan.padTop.toNat plan.resizedHeight.toNat).flatMap fun y =>
        (List.range' plan.padLeft.toNat plan.resizedWidth.toNat).flatMap fun x =>
          elementWrites A image plan y x)) := by
  unfold preprocessCpu
  rw [planned.checkPlan]
  simp only [bind, Except.bind, pure, Except.pure]
  congr 1
  rw [Writes.setAll_flatMap]
  apply List.foldl_ext
  intro output y row
  rw [Writes.setAll_flatMap]
  apply List.foldl_ext
  intro output x column
  rw [elementWrites_content ((mem_content planned).1 ⟨row, column⟩)]
  simp only [Writes.setAll, List.foldl_cons, List.foldl_nil, Nat.mul_comm 2]

/-- The reference holds the elements. -/
theorem preprocessCpu_element (planned : Planned A image targetWidth targetHeight plan) :
    ∃ tensor, preprocessCpu A image plan = .ok tensor ∧
      tensor.length = plan.width.toNat * plan.height.toNat * 3 ∧
      ∀ c y x, c < 3 → y < plan.height.toNat → x < plan.width.toNat →
        tensor[address plan.width.toNat plan.height.toNat c y x]? = some (element A image plan c y x) := by
  refine ⟨_, preprocessCpu_eq planned, by rw [Writes.length_setAll, List.length_replicate], ?_⟩
  intro c y x channel row column
  have inside := address_lt column row channel
  rw [Writes.setAll_eq_run _ (by rw [List.length_replicate]; exact inside)]
  -- A write to this address is the one of this element.
  have agreed : ∀ write ∈ (List.range' plan.padTop.toNat plan.resizedHeight.toNat).flatMap (fun y =>
      (List.range' plan.padLeft.toNat plan.resizedWidth.toNat).flatMap fun x =>
        elementWrites A image plan y x),
      write.1 = address plan.width.toNat plan.height.toNat c y x →
      inContent plan y x ∧ write.2 = element A image plan c y x := by
    intro write member same
    obtain ⟨y', row', member⟩ := List.mem_flatMap.1 member
    obtain ⟨x', column', member⟩ := List.mem_flatMap.1 member
    obtain ⟨c', -, rfl⟩ := List.mem_map.1 member
    have content := (mem_content planned).1 ⟨row', column'⟩
    obtain ⟨⟨left, -, right⟩, top, -, bottom⟩ := planned.nonneg
    have bounds := content
    obtain ⟨⟨low, high⟩, low', high'⟩ := bounds
    obtain ⟨rfl, rfl, rfl⟩ := address_inj (by omega) (by omega) column row same
    exact ⟨content, rfl⟩
  by_cases content : inContent plan y x
  · refine Writes.run_agreed ⟨(address plan.width.toNat plan.height.toNat c y x,
      element A image plan c y x), ?_, rfl⟩ fun write member same => (agreed write member same).2
    obtain ⟨row', column'⟩ := (mem_content planned).2 content
    exact List.mem_flatMap.2 ⟨y, row', List.mem_flatMap.2 ⟨x, column',
      List.mem_map.2 ⟨c, List.mem_range.2 channel, rfl⟩⟩⟩
  · rw [Writes.run_untouched fun write member same => content (agreed write member same).1,
      List.getElem?_replicate, if_pos inside, element, if_neg content]

/-! ## The staging buffer and the kernel -/

/-- The upload brings every byte of the packed rows. -/
theorem upload_inside {image : BgrImageView} (staging : Nat → UInt8) {row byte : Nat}
    (inside : row < image.height.toInt.toNat) (packed : byte < image.width.toInt.toNat * 3) :
    upload image staging (row * image.stride.toInt.toNat + byte) =
      image.byte (row * image.stride.toInt.toNat + byte) := by
  unfold upload
  generalize image.height.toInt.toNat = rows at inside
  induction rows with
  | zero => omega
  | succ rows ih =>
    rw [List.range_succ, List.foldl_append, List.foldl_cons, List.foldl_nil]
    dsimp only
    split
    · rfl
    · next outside =>
      apply ih
      by_contra last
      obtain rfl : row = rows := by omega
      exact outside ⟨by omega, by omega⟩

theorem clampInt_eq {value size : Int} (positive : 0 < size) :
    max 0 (min value (size - 1)) = clampInt value 0 (size - 1) := by
  unfold clampInt
  split
  · omega
  · split
    · omega
    · omega

theorem clampInt_range {value size : Int} (positive : 0 < size) :
    0 ≤ clampInt value 0 (size - 1) ∧ clampInt value 0 (size - 1) < size := by
  unfold clampInt
  split
  · omega
  · split
    · omega
    · omega

/-- A sample of the staging buffer is the sample of the image. -/
theorem bilinearChannel_eq (accepted : validateImage image = .ok ()) (staging : Nat → UInt8)
    (sx sy : F) {channel : Nat} (colour : channel < 3) :
    bilinearChannel A (upload image staging) image.stride.toInt image.width.toInt
      image.height.toInt sx sy channel = sampleChannel A image sx sy channel := by
  obtain ⟨wide, high⟩ := validateImage_positive accepted
  have read : ∀ x y, channelAt A (upload image staging) image.stride.toInt
      (clampInt x 0 (image.width.toInt - 1)) (clampInt y 0 (image.height.toInt - 1)) channel =
      pixel A image (clampInt x 0 (image.width.toInt - 1)) (clampInt y 0 (image.height.toInt - 1))
        channel := by
    intro x y
    obtain ⟨left, right⟩ := @clampInt_range x _ wide
    obtain ⟨top, bottom⟩ := @clampInt_range y _ high
    rw [channelAt, pixel, Nat.add_assoc, upload_inside staging (by omega) (by omega)]
  simp only [bilinearChannel, sampleChannel, clampInt_eq wide, clampInt_eq high, read]

theorem preprocessKernel_eq (planned : Planned A image targetWidth targetHeight plan)
    (staging : Nat → UInt8) {y x : Nat} (row : y < plan.height.toNat) (column : x < plan.width.toNat) :
    preprocessKernel A (upload image staging) image.stride.toInt plan (x, y) =
      elementWrites A image plan y x := by
  have sampled := fun sx sy channel colour =>
    @bilinearChannel_eq _ _ A image planned.accepted staging sx sy channel colour
  unfold preprocessKernel
  simp only
  rw [if_neg (by omega)]
  by_cases content : inContent plan y x
  · rw [if_neg, elementWrites_content content]
    · simp only [planned.sourceWidth, planned.sourceHeight, sampled _ _ _ (show 2 < 3 by omega),
        sampled _ _ _ (show 1 < 3 by omega), sampled _ _ _ (show 0 < 3 by omega)]
    · obtain ⟨⟨left, right⟩, top, bottom⟩ := content
      omega
  · rw [if_pos]
    · simp [elementWrites, element, content, address, List.range_succ, padding]
    · unfold inContent at content
      omega

/-- Every element has its thread. -/
theorem mem_grid {y x : Nat} (row : y < plan.height.toNat) (column : x < plan.width.toNat) :
    (x, y) ∈ grid plan := by
  refine List.mem_flatMap.2 ⟨y / 16, List.mem_range.2 (by omega), List.mem_flatMap.2 ⟨x / 16,
    List.mem_range.2 (by omega), List.mem_flatMap.2 ⟨y % 16, List.mem_range.2 (by omega),
    List.mem_map.2 ⟨x % 16, List.mem_range.2 (by omega), ?_⟩⟩⟩⟩
  rw [Nat.div_add_mod', Nat.div_add_mod']

/-- A write of the launch is the write of an element. -/
theorem mem_launch (planned : Planned A image targetWidth targetHeight plan)
    (staging : Nat → UInt8) {write : Nat × F}
    (member : write ∈ (grid plan).flatMap
      (preprocessKernel A (upload image staging) image.stride.toInt plan)) :
    ∃ c y x, c < 3 ∧ y < plan.height.toNat ∧ x < plan.width.toNat ∧
      write = (address plan.width.toNat plan.height.toNat c y x, element A image plan c y x) := by
  obtain ⟨⟨x, y⟩, -, member⟩ := List.mem_flatMap.1 member
  by_cases outside : (x : Int) ≥ plan.width ∨ (y : Int) ≥ plan.height
  · rw [preprocessKernel, if_pos outside] at member
    cases member
  · rw [not_or] at outside
    have row : y < plan.height.toNat := by omega
    have column : x < plan.width.toNat := by omega
    rw [preprocessKernel_eq planned staging row column] at member
    obtain ⟨c, channel, rfl⟩ := List.mem_map.1 member
    exact ⟨c, y, x, List.mem_range.1 channel, row, column, rfl⟩

/-- **GPU and CPU preprocessing agree.** Whatever the staging buffer and the device memory held, and in
whatever order the writes of the launched threads come, the device memory holds the reference tensor
at the end, element by element, and nothing behind it has changed. -/
theorem gpu_matches_cpu (A : Floats D F) (image : BgrImageView) (targetWidth targetHeight : Int32)
    (plan : ScaledPlan F) (made : makePreprocessPlan A image targetWidth targetHeight = .ok plan)
    (staging : Nat → UInt8) (memory : Nat → Option F) (writes : List (Nat × F))
    (launched : writes.Perm ((grid plan).flatMap
      (preprocessKernel A (upload image staging) image.stride.toInt plan))) :
    ∃ tensor, preprocessCpu A image plan = .ok tensor ∧
      tensor.length = 3 * (plan.width.toNat * plan.height.toNat) ∧
      (∀ i < tensor.length, (∃ write ∈ writes, write.1 = i) ∧
        Writes.run memory writes i = tensor[i]?) ∧
      ∀ i, tensor.length ≤ i → Writes.run memory writes i = memory i := by
  have planned := makePreprocessPlan_planned made
  obtain ⟨tensor, reference, length, elements⟩ := preprocessCpu_element planned
  refine ⟨tensor, reference, by omega, fun i inside => ?_, fun i outside => ?_⟩
  · rw [length] at inside
    obtain ⟨c, y, x, channel, row, column, rfl⟩ := address_surj inside
    have written : ∃ write ∈ writes, write.1 = address plan.width.toNat plan.height.toNat c y x := by
      refine ⟨(_, element A image plan c y x), launched.mem_iff.2 (List.mem_flatMap.2
        ⟨(x, y), mem_grid row column, ?_⟩), rfl⟩
      rw [preprocessKernel_eq planned staging row column]
      exact List.mem_map.2 ⟨c, List.mem_range.2 channel, rfl⟩
    refine ⟨written, ?_⟩
    rw [elements c y x channel row column]
    apply Writes.run_agreed written
    intro write member same
    obtain ⟨c', y', x', -, row', column', rfl⟩ := mem_launch planned staging (launched.mem_iff.1 member)
    obtain ⟨rfl, rfl, rfl⟩ := address_inj column' row' column row same
    rfl
  · apply Writes.run_untouched
    intro write member same
    obtain ⟨c, y, x, channel, row, column, rfl⟩ := mem_launch planned staging (launched.mem_iff.1 member)
    have inside := address_lt column row channel
    simp only at same
    omega

theorem gpu_matches_cpu_small : ∃ plan tensor, makePreprocessPlan exact small 8 8 = .ok plan ∧
    preprocessCpu exact small plan = .ok tensor ∧ tensor.length = 192 ∧
    ∀ i < 192, Writes.run (fun _ => none) ((grid plan).flatMap
      (preprocessKernel exact (upload small fun _ => 7) small.stride.toInt plan)) i = tensor[i]? := by
  have made : makePreprocessPlan exact small 8 8 = .ok ⟨⟨4, 2, 8, 8, 8, 4, 0, 2⟩, 2⟩ := by
    decide +kernel
  obtain ⟨tensor, reference, length, held, -⟩ :=
    gpu_matches_cpu exact small 8 8 _ made (fun _ => 7) (fun _ => none) _ (List.Perm.refl _)
  have size : tensor.length = 192 := length
  exact ⟨_, tensor, made, reference, size, fun i inside => (held i (size ▸ inside)).2⟩

/-- The plan that the launch uses is one of `make_preprocess_plan`, for the extents of the input
tensor. -/
theorem prepare_made {engine : Engine} {inputName : String}
    (prepared : prepare A engine inputName image = .ok plan) :
    ∃ targetWidth targetHeight, makePreprocessPlan A image targetWidth targetHeight = .ok plan := by
  unfold prepare at prepared
  split at prepared
  · cases prepared
  split at prepared
  · cases prepared
  split at prepared
  · next binding _ height width _ _ =>
    split at prepared
    · cases prepared
    cases made : makePreprocessPlan A image width.toInt32 height.toInt32 with
    | error message =>
      rw [made] at prepared
      cases prepared
    | ok plan' =>
      rw [made] at prepared
      simp only [bind, Except.bind] at prepared
      split at prepared
      · cases prepared
      split at prepared
      · cases prepared
      obtain rfl := Except.ok.inj prepared
      exact ⟨width.toInt32, height.toInt32, made⟩
  · cases prepared

end SkaiEdge.Inference
