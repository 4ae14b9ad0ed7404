import Mathlib

/-!
# The tensors of an engine (`src/inference/tensor_layout.cpp`)

`validate_tensor_layout` accepts fixed, linear, device-resident tensors and computes how many
bytes each of them takes. The product is tested against overflow factor by factor, dividing by
the product so far; `layout_exact` compares it with the product of the numbers themselves.
-/

namespace SkaiEdge.Inference

structure TensorDescription where
  name : String := ""
  input : Bool := false
  shape : List Int64 := []
  dataType : String := ""
  componentBytes : UInt64 := 0
  device : Bool := true
  linear : Bool := true
  deriving DecidableEq, Repr

structure TensorInfo where
  name : String := ""
  input : Bool := false
  shape : List Int64 := []
  dataType : String := ""
  bytes : UInt64 := 0
  deriving DecidableEq, Repr

/-- The loop over the dimensions of the tensor `name`. -/
def multiplyShape (name : String) : UInt64 → List Int64 → Except String UInt64
  | bytes, [] => .ok bytes
  | bytes, dimension :: shape =>
    if dimension < 0 then
      .error ("tensor '" ++ name ++ "' has a dynamic dimension; rebuild with fixed shapes")
    else if dimension = 0 then .error ("tensor '" ++ name ++ "' has a zero dimension")
    else
      let count := dimension.toUInt64
      if count > 0xffffffffffffffff / bytes then
        .error ("tensor '" ++ name ++ "' byte size overflow")
      else multiplyShape name (bytes * count) shape

/-- What the loop over the descriptions has seen. -/
structure LayoutScan where
  names : List String := []
  hasInput : Bool := false
  hasOutput : Bool := false
  validated : List TensorInfo := []
  deriving DecidableEq, Repr

def validateBinding (scan : LayoutScan) (binding : TensorDescription) : Except String LayoutScan :=
  if binding.name = "" then .error "engine contains an unnamed I/O tensor"
  else if binding.name ∈ scan.names then .error ("duplicate I/O tensor: " ++ binding.name)
  else if !binding.device then .error ("tensor '" ++ binding.name ++ "' is not device-resident")
  else if !binding.linear then
    .error ("tensor '" ++ binding.name ++ "' does not use a linear format")
  else if binding.componentBytes = 0 ∨ binding.dataType = "" then
    .error ("tensor '" ++ binding.name ++ "' has an unsupported data type")
  else do
    let bytes ← multiplyShape binding.name binding.componentBytes binding.shape
    return {
      names := binding.name :: scan.names
      hasInput := scan.hasInput || binding.input
      hasOutput := scan.hasOutput || !binding.input
      validated := scan.validated ++
        [⟨binding.name, binding.input, binding.shape, binding.dataType, bytes⟩] }

/-- The returned value and the two output parameters. -/
structure LayoutResult where
  ok : Bool
  tensors : List TensorInfo
  error : String
  deriving DecidableEq, Repr

def validateTensorLayout (descriptions : List TensorDescription) : LayoutResult :=
  match descriptions.foldlM validateBinding {} with
  | .error error => ⟨false, [], error⟩
  | .ok scan =>
    if !scan.hasInput || !scan.hasOutput then
      ⟨false, [], if scan.hasInput then "engine has no output tensor"
        else "engine has no input tensor"⟩
    else ⟨true, scan.validated, ""⟩

/-! ## The product -/

def shapeProduct (shape : List Int64) : Nat := (shape.map fun d => d.toInt.toNat).prod

/-- The bytes that a tensor takes. -/
def TensorDescription.size (binding : TensorDescription) : Nat :=
  binding.componentBytes.toNat * shapeProduct binding.shape

/-- All dimensions are at least 1. -/
def Fixed (shape : List Int64) : Prop := ∀ d ∈ shape, 1 ≤ d.toInt

theorem Fixed.product_pos {shape : List Int64} (fixed : Fixed shape) : 0 < shapeProduct shape := by
  apply List.prod_pos
  intro n member
  obtain ⟨d, inside, rfl⟩ := List.mem_map.1 member
  have := fixed d inside
  omega

/-- The quotient test is the test of the product. -/
theorem fits_iff_product {bytes count : UInt64} (some' : 0 < bytes.toNat) :
    ¬ count > 0xffffffffffffffff / bytes ↔ bytes.toNat * count.toNat < 2 ^ 64 := by
  rw [gt_iff_lt, UInt64.not_lt, UInt64.le_iff_toNat_le, UInt64.toNat_div, Nat.le_div_iff_mul_le some',
    Nat.mul_comm]
  have limit : (0xffffffffffffffff : UInt64).toNat = 2 ^ 64 - 1 := rfl
  omega

/-- A dimension that passes both tests is the factor it is cast to. -/
theorem factor_of_static {d : Int64} (static : ¬d < 0) (nonzero : ¬d = 0) :
    d.toUInt64.toNat = d.toInt.toNat ∧ 1 ≤ d.toInt := by
  have nonneg : 0 ≤ d := Int64.not_lt.1 static
  have lower := Int64.le_iff_toInt_le.1 nonneg
  have apart : d.toInt ≠ (0 : Int64).toInt := fun same => nonzero (Int64.toInt_inj.1 same)
  have zero : (0 : Int64).toInt = 0 := rfl
  refine ⟨?_, by omega⟩
  rw [Int64.toNat_toUInt64_of_le nonneg, Int64.toNat_toInt]

/-- **The running product is exact**: the loop succeeds iff the whole product fits, whatever the
order of its factors. -/
theorem multiplyShape_eq_ok {name : String} {bytes total : UInt64} {shape : List Int64}
    (some' : 0 < bytes.toNat) :
    multiplyShape name bytes shape = .ok total ↔
      Fixed shape ∧ total.toNat = bytes.toNat * shapeProduct shape := by
  induction shape generalizing bytes with
  | nil => simp [multiplyShape, Fixed, shapeProduct, ← UInt64.toNat_inj, eq_comm]
  | cons d shape ih =>
    have cut : shapeProduct (d :: shape) = d.toInt.toNat * shapeProduct shape := by
      simp [shapeProduct]
    have both : Fixed (d :: shape) ↔ 1 ≤ d.toInt ∧ Fixed shape := by simp [Fixed]
    rw [multiplyShape]
    split
    · rename_i dynamic
      rw [Int64.lt_iff_toInt_lt] at dynamic
      refine iff_of_false (by simp) fun valid => ?_
      have := (both.1 valid.1).1
      have zero : (0 : Int64).toInt = 0 := rfl
      omega
    split
    · rename_i zero
      refine iff_of_false (by simp) fun valid => ?_
      have := (both.1 valid.1).1
      rw [zero] at this
      contradiction
    · rename_i static nonzero
      obtain ⟨count, positive⟩ := factor_of_static static nonzero
      simp only
      split
      · rename_i large
        refine iff_of_false (by simp) fun ⟨fixed, same⟩ => ?_
        apply (fits_iff_product some').2 _ large
        -- the product of the first factors is at most the whole product
        rw [cut, ← Nat.mul_assoc, ← count] at same
        have rest := (both.1 fixed).2.product_pos
        have bound := total.toNat_lt
        calc bytes.toNat * d.toUInt64.toNat
            ≤ bytes.toNat * d.toUInt64.toNat * shapeProduct shape := Nat.le_mul_of_pos_right _ rest
          _ = total.toNat := same.symm
          _ < 2 ^ 64 := bound
      · rename_i small
        have product := (fits_iff_product some').1 small
        have next : (bytes * d.toUInt64).toNat = bytes.toNat * d.toInt.toNat := by
          rw [UInt64.toNat_mul, Nat.mod_eq_of_lt product, count]
        rw [ih (by rw [next]; apply Nat.mul_pos some'; omega), both, next, cut, Nat.mul_assoc]
        simp [positive]

theorem multiplyShape_overflow {name error : String} {bytes : UInt64} {shape : List Int64}
    (fixed : Fixed shape) (failed : multiplyShape name bytes shape = .error error) :
    error = "tensor '" ++ name ++ "' byte size overflow" := by
  induction shape generalizing bytes with
  | nil => contradiction
  | cons d shape ih =>
    have first := fixed d (List.mem_cons_self ..)
    have zero : (0 : Int64).toInt = 0 := rfl
    rw [multiplyShape, if_neg, if_neg] at failed
    · simp only at failed
      split at failed
      · exact (Except.error.inj failed).symm
      · exact ih (fun e member => fixed e (List.mem_cons_of_mem d member)) failed
    · rintro rfl
      omega
    · rw [Int64.lt_iff_toInt_lt]
      omega

/-- The loop in closed form. -/
theorem multiplyShape_fixed {name : String} {bytes : UInt64} {shape : List Int64}
    (some' : 0 < bytes.toNat) (fixed : Fixed shape) :
    multiplyShape name bytes shape =
      if bytes.toNat * shapeProduct shape < 2 ^ 64 then
        .ok (.ofNat (bytes.toNat * shapeProduct shape))
      else .error ("tensor '" ++ name ++ "' byte size overflow") := by
  split
  · rename_i fits
    refine (multiplyShape_eq_ok some').2 ⟨fixed, ?_⟩
    rw [UInt64.toNat_ofNat', Nat.mod_eq_of_lt fits]
  · rename_i large
    cases product : multiplyShape name bytes shape with
    | error error => rw [multiplyShape_overflow fixed product]
    | ok total =>
      have same := ((multiplyShape_eq_ok some').1 product).2
      have bound := total.toNat_lt
      omega

/-! ## The scan -/

/-- What a single tensor has to be. -/
structure TensorDescription.Valid (binding : TensorDescription) : Prop where
  named : binding.name ≠ ""
  device : binding.device = true
  linear : binding.linear = true
  component : 0 < binding.componentBytes.toNat
  typed : binding.dataType ≠ ""
  fixed : Fixed binding.shape
  fits : binding.size < 2 ^ 64

/-- How a valid tensor is listed. -/
def TensorDescription.info (binding : TensorDescription) : TensorInfo :=
  ⟨binding.name, binding.input, binding.shape, binding.dataType, .ofNat binding.size⟩

theorem TensorDescription.Valid.info_bytes {binding : TensorDescription} (valid : binding.Valid) :
    binding.info.bytes.toNat = binding.size := by
  rw [info, UInt64.toNat_ofNat', Nat.mod_eq_of_lt valid.fits]

def LayoutScan.add (scan : LayoutScan) (binding : TensorDescription) : LayoutScan where
  names := binding.name :: scan.names
  hasInput := scan.hasInput || binding.input
  hasOutput := scan.hasOutput || !binding.input
  validated := scan.validated ++ [binding.info]

theorem validateBinding_eq_ok {scan next : LayoutScan} {binding : TensorDescription} :
    validateBinding scan binding = .ok next ↔
      (binding.Valid ∧ binding.name ∉ scan.names) ∧ next = scan.add binding := by
  rw [validateBinding]
  split
  · rename_i unnamed
    exact iff_of_false (by simp) fun valid => valid.1.1.named unnamed
  split
  · rename_i duplicate
    exact iff_of_false (by simp) fun valid => valid.1.2 duplicate
  split
  · rename_i host
    exact iff_of_false (by simp) fun valid => by simp [valid.1.1.device] at host
  split
  · rename_i tiled
    exact iff_of_false (by simp) fun valid => by simp [valid.1.1.linear] at tiled
  split
  · rename_i untyped
    refine iff_of_false (by simp) fun valid => ?_
    rcases untyped with zero | unknown
    · have some' := valid.1.1.component
      rw [zero] at some'
      contradiction
    · exact valid.1.1.typed unknown
  rename_i named fresh device linear typed
  rw [not_or] at typed
  have component : 0 < binding.componentBytes.toNat :=
    Nat.pos_of_ne_zero fun zero => typed.1 (UInt64.toNat_inj.1 zero)
  cases product : multiplyShape binding.name binding.componentBytes binding.shape with
  | error reason =>
    refine iff_of_false (by simp [bind, Except.bind]) fun valid => ?_
    rw [(multiplyShape_eq_ok component).2 ⟨valid.1.1.fixed, valid.1.1.info_bytes⟩] at product
    contradiction
  | ok bytes =>
    obtain ⟨fixed, total⟩ := (multiplyShape_eq_ok component).1 product
    have size : bytes.toNat = binding.size := total
    have valid : binding.Valid := {
      named
      device := by simpa using device
      linear := by simpa using linear
      component
      typed := typed.2
      fixed
      fits := size ▸ bytes.toNat_lt }
    have listed : binding.info =
        ⟨binding.name, binding.input, binding.shape, binding.dataType, bytes⟩ := by
      rw [TensorDescription.info, ← size, UInt64.ofNat_toNat]
    simp [bind, Except.bind, pure, Except.pure, LayoutScan.add, listed, valid, fresh, eq_comm]

/-- The names of the tensors are new and differ. -/
def Fresh (names : List String) (descriptions : List TensorDescription) : Prop :=
  (∀ binding ∈ descriptions, binding.name ∉ names) ∧ (descriptions.map (·.name)).Nodup

theorem fresh_cons {names : List String} {binding : TensorDescription}
    {descriptions : List TensorDescription} :
    Fresh names (binding :: descriptions) ↔
      binding.name ∉ names ∧ Fresh (binding.name :: names) descriptions := by
  rw [Fresh, Fresh, List.forall_mem_cons, List.map_cons, List.nodup_cons]
  simp only [List.mem_cons, not_or, List.mem_map, not_exists, not_and]
  constructor
  · rintro ⟨⟨first, others⟩, apart, distinct⟩
    exact ⟨first, fun other member => ⟨fun same => apart other member same, others other member⟩,
      distinct⟩
  · rintro ⟨first, others, distinct⟩
    exact ⟨⟨first, fun other member => (others other member).2⟩,
      fun other member => (others other member).1, distinct⟩

/-- **The scan accepts exactly the lists of valid tensors with distinct names.** -/
theorem foldlM_validateBinding {scan final : LayoutScan} {descriptions : List TensorDescription} :
    descriptions.foldlM validateBinding scan = .ok final ↔
      ((∀ binding ∈ descriptions, binding.Valid) ∧ Fresh scan.names descriptions) ∧
        final = descriptions.foldl LayoutScan.add scan := by
  induction descriptions generalizing scan with
  | nil => simp [Fresh, pure, Except.pure, eq_comm]
  | cons binding descriptions ih =>
    rw [List.foldlM_cons, fresh_cons, List.forall_mem_cons, List.foldl_cons]
    cases first : validateBinding scan binding with
    | error reason =>
      refine iff_of_false (by simp [bind, Except.bind]) fun ⟨⟨valid, fresh⟩, _⟩ => ?_
      have accepted := validateBinding_eq_ok.2 ⟨⟨valid.1, fresh.1⟩, rfl⟩
      rw [first] at accepted
      contradiction
    | ok next =>
      obtain ⟨⟨valid, fresh⟩, rfl⟩ := validateBinding_eq_ok.1 first
      change List.foldlM validateBinding (scan.add binding) descriptions = .ok final ↔ _
      rw [ih]
      constructor
      · rintro ⟨⟨others, distinct⟩, same⟩
        exact ⟨⟨⟨valid, others⟩, fresh, distinct⟩, same⟩
      · rintro ⟨⟨⟨_, others⟩, _, distinct⟩, same⟩
        exact ⟨⟨others, distinct⟩, same⟩

theorem foldl_add (scan : LayoutScan) (descriptions : List TensorDescription) :
    (descriptions.foldl LayoutScan.add scan).hasInput =
        (scan.hasInput || descriptions.any (·.input)) ∧
      (descriptions.foldl LayoutScan.add scan).hasOutput =
        (scan.hasOutput || descriptions.any fun binding => !binding.input) ∧
      (descriptions.foldl LayoutScan.add scan).validated =
        scan.validated ++ descriptions.map (·.info) := by
  induction descriptions generalizing scan with
  | nil => simp
  | cons binding descriptions ih =>
    obtain ⟨input, output, validated⟩ := ih (scan.add binding)
    rw [List.foldl_cons, input, output, validated]
    simp [LayoutScan.add, Bool.or_assoc]

/-! ## The layout -/

structure ValidLayout (descriptions : List TensorDescription) : Prop where
  tensors : ∀ binding ∈ descriptions, binding.Valid
  distinct : (descriptions.map (·.name)).Nodup
  input : ∃ binding ∈ descriptions, binding.input = true
  output : ∃ binding ∈ descriptions, binding.input = false

theorem validateTensorLayout_ok_iff (descriptions : List TensorDescription) :
    (validateTensorLayout descriptions).ok = true ↔ ValidLayout descriptions := by
  rw [validateTensorLayout]
  cases scanned : descriptions.foldlM validateBinding {} with
  | error reason =>
    refine iff_of_false (by simp) fun valid => ?_
    have fresh : Fresh ({} : LayoutScan).names descriptions :=
      ⟨fun _ _ => List.not_mem_nil, valid.distinct⟩
    rw [foldlM_validateBinding.2 ⟨⟨valid.tensors, fresh⟩, rfl⟩] at scanned
    contradiction
  | ok scan =>
    obtain ⟨⟨tensors, -, distinct⟩, rfl⟩ := foldlM_validateBinding.1 scanned
    obtain ⟨input, output, -⟩ := foldl_add {} descriptions
    simp only [input, output, Bool.false_or]
    constructor
    · intro accepted
      split at accepted
      · contradiction
      · rename_i both
        simp only [Bool.or_eq_true, Bool.not_eq_true', not_or, Bool.not_eq_false, List.any_eq_true]
          at both
        exact ⟨tensors, distinct, both.1, both.2⟩
    · intro valid
      rw [if_neg]
      simp only [Bool.or_eq_true, Bool.not_eq_true', not_or, Bool.not_eq_false, List.any_eq_true]
      exact ⟨valid.input, by simpa using valid.output⟩

theorem validateTensorLayout_tensors (descriptions : List TensorDescription) :
    (validateTensorLayout descriptions).tensors =
      if (validateTensorLayout descriptions).ok then descriptions.map (·.info) else [] := by
  rw [validateTensorLayout]
  cases scanned : descriptions.foldlM validateBinding {} with
  | error reason => rfl
  | ok scan =>
    obtain ⟨-, rfl⟩ := foldlM_validateBinding.1 scanned
    simp only
    split
    · rfl
    · rw [if_pos rfl, (foldl_add {} descriptions).2.2]
      rfl

/-- The same tensor with its dimensions in another order. -/
structure Reordered (binding other : TensorDescription) : Prop where
  shape : binding.shape.Perm other.shape
  rest : other = { binding with shape := other.shape }

theorem Reordered.valid {binding other : TensorDescription} (same : Reordered binding other)
    (valid : binding.Valid) : other.Valid := by
  rw [same.rest]
  refine { valid with fixed := fun d member => valid.fixed d (same.shape.mem_iff.2 member), fits := ?_ }
  have product : shapeProduct other.shape = shapeProduct binding.shape :=
    (same.shape.symm.map _).prod_eq
  rw [TensorDescription.size, product]
  exact valid.fits

theorem Reordered.symm {binding other : TensorDescription} (same : Reordered binding other) :
    Reordered other binding := by
  obtain ⟨shape, rest⟩ := same
  refine ⟨shape.symm, ?_⟩
  rw [rest]

theorem map_eq_of_reordered {α : Type*} {f : TensorDescription → α}
    (unread : ∀ binding shape, f { binding with shape } = f binding)
    {descriptions others : List TensorDescription}
    (same : List.Forall₂ Reordered descriptions others) : others.map f = descriptions.map f := by
  induction same with
  | nil => rfl
  | cons first _ ih => rw [List.map_cons, List.map_cons, ih, first.rest, unread]

theorem ValidLayout.reordered {descriptions others : List TensorDescription}
    (same : List.Forall₂ Reordered descriptions others) (valid : ValidLayout descriptions) :
    ValidLayout others := by
  have inputs : others.map (·.input) = descriptions.map (·.input) :=
    map_eq_of_reordered (fun _ _ => rfl) same
  have has : ∀ {b : Bool}, (∃ binding ∈ descriptions, binding.input = b) →
      ∃ binding ∈ others, binding.input = b := by
    intro b found
    rw [← List.mem_map, inputs]
    exact List.mem_map.2 found
  refine ⟨?_, ?_, has valid.input, has valid.output⟩
  · have each := valid.tensors
    clear valid inputs has
    induction same with
    | nil => simp
    | cons first _ ih =>
      rw [List.forall_mem_cons] at each ⊢
      exact ⟨first.valid each.1, ih each.2⟩
  · rw [map_eq_of_reordered (fun _ _ => rfl) same]
    exact valid.distinct

/-- **The layout is validated exactly.** The tensors are accepted iff each is named, device-resident,
linear and typed with all dimensions at least 1 and a byte size below `2^64`, no two share a name,
and there is an input and an output; they are then listed in order with their byte sizes, and
otherwise nothing is listed. Dimensions in another order are accepted alike, and where they are
all at least 1 the product comes out or overflows alike. -/
theorem layout_exact (descriptions : List TensorDescription) :
    ((validateTensorLayout descriptions).ok = true ↔ ValidLayout descriptions) ∧
    ((validateTensorLayout descriptions).ok = true →
      (validateTensorLayout descriptions).tensors = descriptions.map (·.info) ∧
      ∀ binding ∈ descriptions, binding.info.bytes.toNat = binding.size) ∧
    ((validateTensorLayout descriptions).ok = false →
      (validateTensorLayout descriptions).tensors = []) ∧
    (∀ others, List.Forall₂ Reordered descriptions others →
      (validateTensorLayout others).ok = (validateTensorLayout descriptions).ok) ∧
    ∀ (name : String) (bytes : UInt64) (shape shape' : List Int64), 0 < bytes.toNat →
      Fixed shape → shape.Perm shape' →
      multiplyShape name bytes shape' = multiplyShape name bytes shape := by
  refine ⟨validateTensorLayout_ok_iff descriptions, fun ok => ⟨?_, fun binding member => ?_⟩,
    fun failed => ?_, fun others same => ?_, fun name bytes shape shape' some' fixed same => ?_⟩
  · rw [validateTensorLayout_tensors, if_pos ok]
  · exact (((validateTensorLayout_ok_iff descriptions).1 ok).tensors binding member).info_bytes
  · rw [validateTensorLayout_tensors, failed]
    rfl
  · rw [Bool.eq_iff_iff, validateTensorLayout_ok_iff, validateTensorLayout_ok_iff]
    exact ⟨.reordered (same.flip.imp fun _ _ => Reordered.symm), .reordered same⟩
  · have fixed' : Fixed shape' := fun d member => fixed d (same.mem_iff.2 member)
    have product : shapeProduct shape' = shapeProduct shape := (same.symm.map _).prod_eq
    rw [multiplyShape_fixed some' fixed, multiplyShape_fixed some' fixed', product]

end SkaiEdge.Inference
