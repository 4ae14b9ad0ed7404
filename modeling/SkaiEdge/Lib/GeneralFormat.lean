import SkaiEdge.Lib.Json

/-!
# Printing a number to a fixed number of significant digits

What a C++ stream in its default format, the `%g` of C, writes for a `double`: the value rounded to
`precision` decimal digits, ties to the even one, in scientific notation when its exponent is
below -4 or not below the precision, and without the zeros at the end of its fraction. The text
of a finite value is a JSON number; the number is the rounded value.
-/

namespace SkaiEdge.Lib

/-- A floating-point value, as far as printing it goes. -/
inductive Double where
  | finite (negative : Bool) (size : ℚ≥0)
  | infinite (negative : Bool)
  | nan (negative : Bool)
  deriving DecidableEq

namespace Double

open Json (digitsValue)

def isFinite : Double → Bool
  | .finite _ _ => true
  | _ => false

/-- Ties go to the even integer. -/
def roundHalfEven (x : ℚ) : Int :=
  if x - ⌊x⌋ < 1 / 2 then ⌊x⌋
  else if 1 / 2 < x - ⌊x⌋ then ⌊x⌋ + 1
  else if ⌊x⌋ % 2 = 0 then ⌊x⌋ else ⌊x⌋ + 1

/-- The last `count` decimal digits of `n`. -/
def fixedDigits : (count : Nat) → Nat → List UInt8
  | 0, _ => []
  | count + 1, n => fixedDigits count (n / 10) ++ [(48 + n % 10).toUInt8]

def stripZeros (digits : List UInt8) : List UInt8 := digits.rdropWhile (· = 0x30)

/-- The value of a unit in the last of `precision` digits. -/
def unit (precision : Nat) (size : ℚ) : ℚ := 10 ^ (Int.log 10 size - (precision - 1))

/-- The digits of the rounded value as an integer, and the exponent of its first one. -/
def significant (precision : Nat) (size : ℚ) : Nat × Int :=
  let digits := (roundHalfEven (size / unit precision size)).toNat
  if digits = 10 ^ precision then (10 ^ (precision - 1), Int.log 10 size + 1)
  else (digits, Int.log 10 size)

/-- At least two digits. -/
def exponentDigits (n : Nat) : List UInt8 := fixedDigits (max 2 (Nat.log 10 n + 1)) n

/-- The digits of a positive value in front of the point, behind it, and the exponent. -/
def layout (precision : Nat) (digits : Nat) (exponent : Int) :
    List UInt8 × List UInt8 × Option (Bool × List UInt8) :=
  let text := fixedDigits precision digits
  if exponent < -4 ∨ precision ≤ exponent then
    (text.take 1, stripZeros (text.drop 1),
      some (decide (exponent < 0), exponentDigits exponent.natAbs))
  else if 0 ≤ exponent then
    (text.take (exponent.toNat + 1), stripZeros (text.drop (exponent.toNat + 1)), none)
  else ([0x30], stripZeros (List.replicate (-exponent - 1).toNat 0x30 ++ text), none)

def number (precision : Nat) (negative : Bool) (size : ℚ≥0) : Json.Number :=
  let (whole, fraction, exponent) :=
    if size = 0 then ([0x30], [], none)
    else
      let (digits, exponent) := significant precision size
      layout precision digits exponent
  ⟨negative, whole, fraction, exponent⟩

def scaleText : Option (Bool × List UInt8) → List UInt8
  | none => []
  | some (negative, digits) => 0x65 :: (if negative then 0x2d else 0x2b) :: digits

def numberText (n : Json.Number) : List UInt8 :=
  (if n.negative then [0x2d] else []) ++
    (n.whole ++ ((if n.fraction = [] then [] else 0x2e :: n.fraction) ++ scaleText n.exponent))

/-- `output << std::setprecision(precision) << x`. -/
def print (precision : Nat) : Double → List UInt8
  | .finite negative size => numberText (number precision negative size)
  | .infinite negative => (if negative then [0x2d] else []) ++ [0x69, 0x6e, 0x66]
  | .nan negative => (if negative then [0x2d] else []) ++ [0x6e, 0x61, 0x6e]

/-! ## Digits -/

theorem fixedDigits_length (count n : Nat) : (fixedDigits count n).length = count := by
  induction count generalizing n with
  | zero => rfl
  | succ count ih => simp [fixedDigits, ih]

theorem digit_toNat (n : Nat) : ((48 + n % 10).toUInt8).toNat = 48 + n % 10 := by
  have := Nat.mod_lt n (show 0 < 10 by decide)
  simp [Nat.toUInt8]
  omega

theorem fixedDigits_isDigit (count n : Nat) : ∀ c ∈ fixedDigits count n, Json.isDigit c = true := by
  induction count generalizing n with
  | zero => simp [fixedDigits]
  | succ count ih =>
    intro c member
    rcases List.mem_append.1 member with front | last
    · exact ih _ c front
    · rw [List.mem_singleton.1 last]
      have := Nat.mod_lt n (show 0 < 10 by decide)
      have value := digit_toNat n
      simp only [Json.isDigit, Bool.and_eq_true, decide_eq_true_eq, UInt8.le_iff_toNat_le, value]
      constructor
      · show 48 ≤ 48 + n % 10
        omega
      · show 48 + n % 10 ≤ 57
        omega

theorem digitsValue_append (a b : List UInt8) :
    digitsValue (a ++ b) = digitsValue a * 10 ^ b.length + digitsValue b := by
  induction b using List.reverseRecOn with
  | nil => simp [digitsValue]
  | append_singleton b c ih =>
    have last : ∀ l : List UInt8, digitsValue (l ++ [c]) = digitsValue l * 10 + (c.toNat - 48) := by
      intro l
      simp [digitsValue]
    rw [← List.append_assoc, last, last, ih, List.length_append, List.length_singleton]
    ring

theorem digitsValue_fixedDigits (count n : Nat) :
    digitsValue (fixedDigits count n) = n % 10 ^ count := by
  induction count generalizing n with
  | zero => simp [fixedDigits, digitsValue, Nat.mod_one]
  | succ count ih =>
    have one : digitsValue [(48 + n % 10).toUInt8] = n % 10 := by
      simp only [digitsValue, List.foldl_cons, List.foldl_nil, digit_toNat]
      omega
    rw [fixedDigits, digitsValue_append, ih, one, List.length_singleton, pow_one, pow_succ', Nat.mod_mul]
    ring

/-- The first of the digits that are all needed is not zero. -/
theorem fixedDigits_head {count n : Nat} (least : 10 ^ count ≤ n) (few : n < 10 ^ (count + 1)) :
    ∃ c more, fixedDigits (count + 1) n = c :: more ∧ c ≠ 0x30 := by
  induction count generalizing n with
  | zero =>
    refine ⟨(48 + n % 10).toUInt8, [], rfl, ?_⟩
    intro zero
    have value := digit_toNat n
    rw [zero] at value
    simp at least few value
    omega
  | succ count ih =>
    rw [pow_succ] at least few
    obtain ⟨c, more, shape, nonzero⟩ := ih (n := n / 10) (by omega) (by omega)
    exact ⟨c, more ++ [_], by rw [fixedDigits, shape, List.cons_append], nonzero⟩

theorem stripZeros_spec (digits : List UInt8) :
    ∃ zeros, digits = stripZeros digits ++ List.replicate zeros 0x30 := by
  refine ⟨(digits.rtakeWhile (· = 0x30)).length, ?_⟩
  have only : digits.rtakeWhile (· = 0x30) =
      List.replicate (digits.rtakeWhile (· = 0x30)).length 0x30 := by
    apply List.eq_replicate_of_mem
    intro c member
    have := List.mem_rtakeWhile_imp member
    simpa using this
  rw [← only, stripZeros]
  exact List.rdropWhile_append_rtakeWhile.symm

theorem digitsValue_zeros (zeros : Nat) : digitsValue (List.replicate zeros 0x30) = 0 := by
  induction zeros with
  | zero => rfl
  | succ zeros ih =>
    rw [List.replicate_succ', digitsValue_append, ih]
    rfl

/-- Zeros at the end of a fraction do not count. -/
theorem stripZeros_value (digits : List UInt8) :
    (digitsValue (stripZeros digits) : ℚ) / 10 ^ (stripZeros digits).length =
      digitsValue digits / 10 ^ digits.length := by
  obtain ⟨zeros, shape⟩ := stripZeros_spec digits
  have value := congrArg digitsValue shape
  have length := congrArg List.length shape
  rw [digitsValue_append, digitsValue_zeros, List.length_replicate, Nat.add_zero] at value
  rw [List.length_append, List.length_replicate] at length
  rw [value, length, pow_add]
  push_cast
  field_simp

theorem stripZeros_subset {digits : List UInt8} {c : UInt8} (member : c ∈ stripZeros digits) :
    c ∈ digits :=
  (List.rdropWhile_prefix ..).subset member

/-! ## The number that is written -/

/-- A point between two digits, the zeros behind it stripped. -/
theorem split_value (text : List UInt8) (k : Nat) :
    (digitsValue (text.take k) : ℚ) +
        digitsValue (stripZeros (text.drop k)) / 10 ^ (stripZeros (text.drop k)).length =
      digitsValue text / 10 ^ (text.length - k) := by
  have value := congrArg (fun n : Nat => (n : ℚ)) (congrArg digitsValue (List.take_append_drop k text))
  simp only [digitsValue_append, List.length_drop, Nat.cast_add, Nat.cast_mul, Nat.cast_pow,
    Nat.cast_ofNat] at value
  rw [stripZeros_value, List.length_drop, ← value]
  field_simp

/-- `Number.value` without the sign. -/
def magnitude (whole fraction : List UInt8) (exponent : Option (Bool × List UInt8)) : ℚ :=
  Json.Number.value ⟨false, whole, fraction, exponent⟩

theorem value_eq (negative : Bool) (whole fraction : List UInt8)
    (exponent : Option (Bool × List UInt8)) :
    Json.Number.value ⟨negative, whole, fraction, exponent⟩ =
      if negative then -magnitude whole fraction exponent else magnitude whole fraction exponent := by
  cases negative with
  | false => rfl
  | true =>
    rcases exponent with - | ⟨below, digits⟩
    · rfl
    · cases below with
      | false => exact neg_mul _ _
      | true => exact neg_div _ _

theorem exponentDigits_value (n : Nat) : digitsValue (exponentDigits n) = n := by
  rw [exponentDigits, digitsValue_fixedDigits, Nat.mod_eq_of_lt]
  calc n < 10 ^ (Nat.log 10 n + 1) := Nat.lt_pow_succ_log_self (by decide) n
    _ ≤ 10 ^ max 2 (Nat.log 10 n + 1) := Nat.pow_le_pow_right (by decide) (le_max_right _ _)

theorem layout_value {precision digits : Nat} (some' : 1 ≤ precision) (few : digits < 10 ^ precision)
    (exponent : Int) :
    let l := layout precision digits exponent
    magnitude l.1 l.2.1 l.2.2 = digits * 10 ^ (exponent - (precision - 1)) := by
  have length := fixedDigits_length precision digits
  have value : digitsValue (fixedDigits precision digits) = digits := by
    rw [digitsValue_fixedDigits, Nat.mod_eq_of_lt few]
  have ten : (10 : ℚ) ≠ 0 := by norm_num
  unfold layout
  dsimp only
  split
  · have split' := split_value (fixedDigits precision digits) 1
    rw [length, value] at split'
    have power : (10 : ℚ) ^ (exponent - (precision - 1)) = 10 ^ exponent / 10 ^ (precision - 1) := by
      rw [zpow_sub₀ ten, ← zpow_natCast (10 : ℚ) (precision - 1), Nat.cast_sub some', Nat.cast_one]
    rw [power]
    by_cases below : exponent < 0
    · have size : (10 : ℚ) ^ exponent = (10 ^ exponent.natAbs)⁻¹ := by
        rw [← zpow_natCast, ← zpow_neg]
        congr 1
        omega
      simp only [magnitude, Json.Number.value, below, decide_true, exponentDigits_value, split',
        Bool.false_eq_true, if_false, size]
      field_simp
    · have size : (10 : ℚ) ^ exponent = 10 ^ exponent.natAbs := by
        rw [← zpow_natCast]
        congr 1
        omega
      simp only [magnitude, Json.Number.value, below, decide_false, exponentDigits_value, split',
        Bool.false_eq_true, if_false, size]
      field_simp
  · rename_i plain
    split
    · have split' := split_value (fixedDigits precision digits) (exponent.toNat + 1)
      rw [length, value] at split'
      simp only [magnitude, Json.Number.value, Bool.false_eq_true, if_false, split']
      have power : (10 : ℚ) ^ (exponent - (precision - 1)) =
          (10 ^ (precision - (exponent.toNat + 1)))⁻¹ := by
        rw [← zpow_natCast, ← zpow_neg]
        congr 1
        omega
      rw [power, div_eq_mul_inv]
    · simp only [magnitude, Json.Number.value, Bool.false_eq_true, if_false, stripZeros_value,
        digitsValue_append, digitsValue_zeros, value, List.length_append, List.length_replicate, length]
      have power : (10 : ℚ) ^ (exponent - (precision - 1)) =
          (10 ^ ((-exponent - 1).toNat + precision))⁻¹ := by
        rw [← zpow_natCast, ← zpow_neg]
        congr 1
        omega
      have zero : digitsValue [0x30] = 0 := rfl
      rw [power, div_eq_mul_inv, zero]
      simp

theorem roundHalfEven_close (x : ℚ) : |(roundHalfEven x : ℚ) - x| ≤ 1 / 2 := by
  have low := Int.floor_le x
  have high := Int.lt_floor_add_one x
  unfold roundHalfEven
  split
  · rw [abs_le]
    constructor <;> linarith
  · split
    · push_cast
      rw [abs_le]
      constructor <;> linarith
    · split
      · rw [abs_le]
        constructor <;> linarith
      · push_cast
        rw [abs_le]
        constructor <;> linarith

theorem roundHalfEven_int_le {x : ℚ} {n : Int} (least : n ≤ x) : n ≤ roundHalfEven x := by
  have floor : n ≤ ⌊x⌋ := Int.le_floor.2 least
  unfold roundHalfEven
  split
  · exact floor
  · split
    · omega
    · split <;> omega

theorem roundHalfEven_le_int {x : ℚ} {n : Int} (most : x ≤ n) : roundHalfEven x ≤ n := by
  have close := abs_le.1 (roundHalfEven_close x)
  have below : (roundHalfEven x : ℚ) < n + 1 := by linarith [close.2]
  have : roundHalfEven x < n + 1 := by exact_mod_cast below
  omega

theorem unit_pos (precision : Nat) (size : ℚ) : 0 < unit precision size := by
  unfold unit
  positivity

/-- The digits fill the precision, and stand for the rounded value. -/
theorem significant_spec {precision : Nat} (some' : 1 ≤ precision) {size : ℚ} (positive : 0 < size) :
    let s := significant precision size
    10 ^ (precision - 1) ≤ s.1 ∧ s.1 < 10 ^ precision ∧
      (s.1 : ℚ) * 10 ^ (s.2 - (precision - 1)) =
        roundHalfEven (size / unit precision size) * unit precision size := by
  have pos := unit_pos precision size
  have ten : (10 : ℚ) ≠ 0 := by norm_num
  have cast : ((precision - 1 : Nat) : Int) = precision - 1 := by omega
  have low : (10 : ℚ) ^ (precision - 1) ≤ size / unit precision size := by
    rw [le_div_iff₀ pos, unit, ← zpow_natCast, ← zpow_add₀ ten, cast]
    have := Int.zpow_log_le_self (b := 10) (by decide) positive
    rw [show (precision - 1 : Int) + (Int.log 10 size - (precision - 1)) = Int.log 10 size by ring]
    exact_mod_cast this
  have high : size / unit precision size ≤ (10 : ℚ) ^ precision := by
    rw [div_le_iff₀ pos, unit, ← zpow_natCast, ← zpow_add₀ ten]
    have := (Int.lt_zpow_succ_log_self (b := 10) (by decide) size).le
    rw [show (precision : Int) + (Int.log 10 size - (precision - 1)) = Int.log 10 size + 1 by ring]
    exact_mod_cast this
  have low' : ((10 ^ (precision - 1) : Nat) : Int) ≤ roundHalfEven (size / unit precision size) :=
    roundHalfEven_int_le (by exact_mod_cast low)
  have high' : roundHalfEven (size / unit precision size) ≤ ((10 ^ precision : Nat) : Int) :=
    roundHalfEven_le_int (by exact_mod_cast high)
  generalize rounded : roundHalfEven (size / unit precision size) = r at low' high'
  have least : 10 ^ (precision - 1) ≤ r.toNat := by
    have := Int.toNat_le_toNat low'
    rwa [Int.toNat_natCast] at this
  have most : r.toNat ≤ 10 ^ precision := by
    have := Int.toNat_le_toNat high'
    rwa [Int.toNat_natCast] at this
  have whole : ((r.toNat : Nat) : ℚ) = r := by
    have : ((r.toNat : Nat) : Int) = r := Int.toNat_of_nonneg ((Int.natCast_nonneg _).trans low')
    exact_mod_cast congrArg (fun n : Int => (n : ℚ)) this
  unfold significant
  rw [rounded]
  dsimp only
  split
  · rename_i full
    refine ⟨le_rfl, Nat.pow_lt_pow_right (by decide) (by omega), ?_⟩
    rw [← whole, full, unit]
    push_cast
    rw [← zpow_natCast, ← zpow_natCast, ← zpow_add₀ ten, ← zpow_add₀ ten, cast]
    congr 1
    ring
  · rename_i less
    exact ⟨least, by omega, by rw [whole, unit]⟩

/-- The parts a number text is made of. -/
structure Parts (l : List UInt8 × List UInt8 × Option (Bool × List UInt8)) : Prop where
  whole : Json.Whole l.1
  fraction : ∀ c ∈ l.2.1, Json.isDigit c = true
  exponent : ∀ e ∈ l.2.2, Json.Digits e.2

theorem exponentDigits_digits (n : Nat) : Json.Digits (exponentDigits n) := by
  refine ⟨?_, fixedDigits_isDigit _ n⟩
  intro none'
  have length := fixedDigits_length (max 2 (Nat.log 10 n + 1)) n
  rw [show fixedDigits _ n = [] from none'] at length
  simp at length
  omega

theorem layout_parts {precision digits : Nat} (some' : 1 ≤ precision)
    (least : 10 ^ (precision - 1) ≤ digits) (few : digits < 10 ^ precision) (exponent : Int) :
    Parts (layout precision digits exponent) := by
  obtain ⟨count, rfl⟩ : ∃ count, precision = count + 1 := ⟨precision - 1, by omega⟩
  rw [Nat.add_sub_cancel] at least
  obtain ⟨c, more, shape, nonzero⟩ := fixedDigits_head least few
  have digit := fixedDigits_isDigit (count + 1) digits
  have front : ∀ k, Json.Whole ((fixedDigits (count + 1) digits).take (k + 1)) := by
    intro k
    refine ⟨⟨by simp [shape], fun d member => digit d (List.mem_of_mem_take member)⟩, ?_⟩
    rw [shape, List.take_succ_cons]
    intro zero
    exact absurd (Option.some.inj zero) nonzero
  have behind : ∀ k, ∀ d ∈ stripZeros ((fixedDigits (count + 1) digits).drop k), Json.isDigit d = true :=
    fun k d member => digit d (List.mem_of_mem_drop (stripZeros_subset member))
  unfold layout
  dsimp only
  split
  · refine ⟨front 0, behind 1, ?_⟩
    intro e member
    cases member
    exact exponentDigits_digits _
  · split
    · exact ⟨front _, behind _, by simp⟩
    · refine ⟨⟨⟨by simp, by simp [Json.isDigit]⟩, fun _ => rfl⟩, ?_, by simp⟩
      intro d member
      rcases List.mem_append.1 (stripZeros_subset member) with zero | later
      · rw [List.eq_of_mem_replicate zero]
        rfl
      · exact digit d later

theorem numberText_written (negative : Bool) {l : List UInt8 × List UInt8 × Option (Bool × List UInt8)}
    (parts : Parts l) : Json.NumberText (numberText ⟨negative, l.1, l.2.1, l.2.2⟩)
      ⟨negative, l.1, l.2.1, l.2.2⟩ := by
  apply Json.NumberText.mk parts.whole
  · by_cases none' : l.2.1 = []
    · rw [if_pos none', none']
      exact .none
    · rw [if_neg none']
      exact .some ⟨none', parts.fraction⟩
  · cases shape : l.2.2 with
    | none => exact .none
    | some e =>
      obtain ⟨below, digits⟩ := e
      have written := parts.exponent _ (by rw [shape]; rfl)
      cases below
      · exact .signed (.inl rfl) (.inl rfl) written
      · exact .signed (.inl rfl) (.inr rfl) written

/-- The value the digits stand for. -/
def rounded (precision : Nat) (size : ℚ) : ℚ :=
  if size = 0 then 0 else roundHalfEven (size / unit precision size) * unit precision size

/-- The rounded value is within half a unit in the last digit. -/
theorem rounded_close (precision : Nat) (size : ℚ) :
    |rounded precision size - size| ≤ unit precision size / 2 := by
  have pos := unit_pos precision size
  unfold rounded
  split
  · rename_i zero
    rw [zero] at pos ⊢
    simp only [sub_zero, abs_zero]
    positivity
  · have close := roundHalfEven_close (size / unit precision size)
    have scaled : roundHalfEven (size / unit precision size) * unit precision size - size =
        (roundHalfEven (size / unit precision size) - size / unit precision size) *
          unit precision size := by
      field_simp
    rw [scaled, abs_mul, abs_of_pos pos]
    calc |(roundHalfEven (size / unit precision size) : ℚ) - size / unit precision size| *
          unit precision size
        ≤ 1 / 2 * unit precision size := mul_le_mul_of_nonneg_right close pos.le
      _ = unit precision size / 2 := by ring

/-- **A finite value is printed as a JSON number**, the one it is rounded to. -/
theorem print_written {precision : Nat} (some' : 1 ≤ precision) (negative : Bool) (size : ℚ≥0) :
    Json.NumberText (print precision (.finite negative size)) (number precision negative size) ∧
      (number precision negative size).value =
        if negative then -rounded precision size else rounded precision size := by
  unfold print number rounded
  by_cases zero : size = 0
  · have parts : Parts (([0x30], [], none) : List UInt8 × List UInt8 × Option (Bool × List UInt8)) :=
      ⟨⟨⟨by simp, by simp [Json.isDigit]⟩, fun _ => rfl⟩, by simp, by simp⟩
    simp only [zero, if_true]
    refine ⟨numberText_written negative parts, ?_⟩
    rw [value_eq]
    have none' : magnitude [0x30] [] none = 0 := by simp [magnitude, Json.Number.value, digitsValue]
    rw [none']
    simp
  · have positive : (0 : ℚ) < size := by
      have := pos_iff_ne_zero.2 zero
      exact_mod_cast this
    obtain ⟨least, few, same⟩ := significant_spec some' positive
    have nonzero : ¬(size : ℚ) = 0 := positive.ne'
    simp only [zero, if_false, nonzero]
    refine ⟨numberText_written negative (layout_parts some' least few _), ?_⟩
    rw [value_eq, layout_value some' few, same]

end Double

end SkaiEdge.Lib
