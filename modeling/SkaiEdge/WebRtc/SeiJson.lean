import SkaiEdge.Lib.Json
import SkaiEdge.WebRtc.DetectionSei

/-!
# What a viewer reads in the SEI JSON

The encoder writes its JSON by hand, byte by byte. Here its output is brought into the form of
`Lib.Json`, from which follow that every byte is printable and that a JSON parser finds the
results again: `sei_json_round_trip`.
-/

namespace SkaiEdge.WebRtc

open SkaiEdge.Lib

/-! ## Digits -/

theorem digit_range {c : Char} (digit : c.isDigit = true) : 48 ≤ c.toNat ∧ c.toNat ≤ 57 := by
  simpa [Char.isDigit, UInt32.le_iff_toNat_le] using digit

theorem digit_toNat {c : Char} (digit : c.isDigit = true) : c.toNat.toUInt8.toNat = c.toNat := by
  have := digit_range digit
  rw [Nat.toUInt8, UInt8.toNat_ofNat']
  omega

theorem isDigit_ascii {text : List Char} (digits : ∀ c ∈ text, c.isDigit = true) :
    ∀ b ∈ ascii text, Json.isDigit b = true := by
  intro b member
  obtain ⟨c, inside, rfl⟩ := List.mem_map.1 member
  have range := digit_range (digits c inside)
  simp only [Json.isDigit, Bool.and_eq_true, decide_eq_true_eq, UInt8.le_iff_toNat_le,
    digit_toNat (digits c inside)]
  exact range

theorem digitsValue_ascii {text : List Char} (digits : ∀ c ∈ text, c.isDigit = true) :
    Json.digitsValue (ascii text) = Nat.ofDigitChars 10 text 0 := by
  rw [Json.digitsValue, ascii, List.foldl_map, Nat.ofDigitChars_eq_foldl]
  apply List.foldl_ext
  intro value c inside
  rw [digit_toNat (digits c inside), Nat.mul_comm]
  rfl

theorem toDigits_isDigit (n : Nat) : ∀ c ∈ Nat.toDigits 10 n, c.isDigit = true :=
  fun _ member => Nat.isDigit_of_mem_toDigits (by decide) (by decide) member

theorem decimalBytes_isDigit (n : Nat) : ∀ b ∈ decimalBytes n, Json.isDigit b = true :=
  isDigit_ascii (toDigits_isDigit n)

theorem decimalBytes_value (n : Nat) : Json.digitsValue (decimalBytes n) = n := by
  rw [decimalBytes, digitsValue_ascii (toDigits_isDigit n), Nat.ofDigitChars_ten_toDigits]

theorem decimalBytes_ne_nil (n : Nat) : decimalBytes n ≠ [] := by
  simp [decimalBytes, ascii, Nat.toDigits_ne_nil]

/-- The first digit of a number is not a zero, unless it is the only one. -/
theorem toDigits_head (n : Nat) (zero : (Nat.toDigits 10 n).head? = some '0') :
    Nat.toDigits 10 n = ['0'] := by
  induction n using Nat.strongRecOn with
  | ind n ih =>
    rw [Nat.toDigits_eq_if (by decide)] at zero ⊢
    split
    · rename_i small
      rw [if_pos small] at zero
      exact congrArg (fun c => [c]) (Option.some.inj zero)
    · rename_i large
      rw [if_neg large, List.head?_append_of_ne_nil _ Nat.toDigits_ne_nil] at zero
      have value := congrArg (Nat.ofDigitChars 10 · 0) (ih (n / 10) (by omega) zero)
      simp only [Nat.ofDigitChars_ten_toDigits] at value
      have : n / 10 = 0 := value
      omega

theorem toUInt8_digit {c d : Char} (digit : c.isDigit = true) (digit' : d.isDigit = true)
    (same : c.toNat.toUInt8 = d.toNat.toUInt8) : c = d := by
  have value := congrArg UInt8.toNat same
  rw [digit_toNat digit, digit_toNat digit'] at value
  exact Char.toNat_inj.1 value

theorem decimalBytes_whole (n : Nat) : Json.Whole (decimalBytes n) := by
  refine ⟨⟨decimalBytes_ne_nil n, decimalBytes_isDigit n⟩, fun zero => ?_⟩
  obtain ⟨c, head, byte⟩ := Option.map_eq_some_iff.1 ((List.head?_map ..).symm.trans zero)
  have digit := toDigits_isDigit n c (List.mem_of_mem_head? head)
  obtain rfl := toUInt8_digit (d := '0') digit (by decide) byte
  rw [decimalBytes, toDigits_head n head]
  rfl

section Padded

variable {width n : Nat}

theorem padded_isDigit (width n : Nat) :
    ∀ c ∈ List.replicate (width - (Nat.toDigits 10 n).length) '0' ++ Nat.toDigits 10 n,
      c.isDigit = true := by
  intro c member
  rcases List.mem_append.1 member with padding | digit
  · rw [List.eq_of_mem_replicate padding]
    rfl
  · exact toDigits_isDigit n c digit

theorem zeroPadded_isDigit (width n : Nat) :
    ∀ b ∈ zeroPadded 10 width n, Json.isDigit b = true :=
  isDigit_ascii (padded_isDigit width n)

theorem zeroPadded_value (width n : Nat) : Json.digitsValue (zeroPadded 10 width n) = n := by
  rw [zeroPadded, digitsValue_ascii (padded_isDigit width n), Nat.ofDigitChars_append,
    Nat.ofDigitChars_replicate_zero, Nat.mul_zero, Nat.ofDigitChars_ten_toDigits]

theorem zeroPadded_length (fits : n < 10 ^ width) (some' : 0 < width) :
    (zeroPadded 10 width n).length = width := by
  have short := (Nat.length_toDigits_le_iff (b := 10) (by decide) some').2 fits
  simp only [zeroPadded, ascii, List.length_map, List.length_append, List.length_replicate]
  omega

/-- The last digit. -/
theorem zeroPadded_last (width : Nat) (rest : n % 10 ≠ 0) :
    (zeroPadded 10 width n).getLast? ≠ some 0x30 := by
  have last : (Nat.toDigits 10 n).getLast? = some (Nat.digitChar (n % 10)) := by
    rw [Nat.toDigits_eq_if (by decide)]
    split
    · rename_i small
      rw [Nat.mod_eq_of_lt small]
      rfl
    · exact List.getLast?_concat
  have digit : (Nat.digitChar (n % 10)).isDigit = true :=
    toDigits_isDigit n _ (List.mem_of_getLast? last)
  rw [zeroPadded, ascii, List.getLast?_map, List.getLast?_append, last]
  intro zero
  have same := toUInt8_digit (d := '0') digit (by decide) (Option.some.inj zero)
  have value := Nat.toNat_digitChar_sub_48_of_lt_ten (n := n % 10) (by omega)
  rw [same] at value
  exact rest value.symm

end Padded

/-- The trailing zeros are gone and the value is the same. -/
theorem stripZeros_spec {digits fraction : Nat} (some' : 0 < fraction)
    (fits : fraction < 10 ^ digits) :
    ∃ d f, stripZeros digits fraction = (d, f) ∧ 0 < d ∧ d ≤ digits ∧ f < 10 ^ d ∧ f % 10 ≠ 0 ∧
      f * 10 ^ (digits - d) = fraction := by
  induction digits generalizing fraction with
  | zero =>
    rw [Nat.pow_zero] at fits
    omega
  | succ digits ih =>
    rw [stripZeros]
    split
    · rename_i trailing
      rw [Nat.pow_succ] at fits
      obtain ⟨d, f, strips, positive, fewer, small, last, value⟩ :=
        @ih (fraction / 10) (by omega) (by omega)
      refine ⟨d, f, strips, positive, by omega, small, last, ?_⟩
      rw [Nat.succ_sub fewer, Nat.pow_succ, ← Nat.mul_assoc, value]
      omega
    · rename_i last
      exact ⟨digits + 1, fraction, rfl, by omega, le_refl _, fits, last, by simp⟩

/-! ## The text in the form of `Lib.Json` -/

/-- The digits of the fraction, for the value `n / 10000`. -/
def fractionDigits (n : Nat) : List UInt8 :=
  if n % 10000 = 0 then []
  else
    let (digits, fraction) := stripZeros 4 (n % 10000)
    zeroPadded 10 digits fraction

/-- How `append_number` writes `n / 10000`. -/
def writtenNumber (n : Int) : Json.Number :=
  ⟨decide (n < 0), decimalBytes (n.natAbs / 10000), fractionDigits n.natAbs, none⟩

def numberBytes (n : Int) : List UInt8 :=
  Json.numberText (decide (n < 0)) (decimalBytes (n.natAbs / 10000)) (fractionDigits n.natAbs)

/-- The digits of a fraction that is not zero. -/
theorem fractionDigits_spec {n : Nat} (some' : n % 10000 ≠ 0) :
    ∃ d f, stripZeros 4 (n % 10000) = (d, f) ∧ fractionDigits n = zeroPadded 10 d f ∧
      (fractionDigits n).length = d ∧ 0 < d ∧ f % 10 ≠ 0 ∧ f * 10 ^ (4 - d) = n % 10000 ∧ d ≤ 4 := by
  obtain ⟨d, f, strips, positive, fewer, small, last, value⟩ :=
    @stripZeros_spec 4 _ (Nat.pos_of_ne_zero some') (show n % 10000 < 10 ^ 4 by omega)
  have written : fractionDigits n = zeroPadded 10 d f := by
    rw [fractionDigits, if_neg some', strips]
  exact ⟨d, f, strips, written, by rw [written, zeroPadded_length small positive], positive, last,
    value, fewer⟩

theorem fractionDigits_isDigit (n : Nat) : ∀ b ∈ fractionDigits n, Json.isDigit b = true := by
  intro b member
  by_cases integral : n % 10000 = 0
  · simp [fractionDigits, integral] at member
  · obtain ⟨d, f, -, written, -⟩ := fractionDigits_spec integral
    rw [written] at member
    exact zeroPadded_isDigit d f b member

/-- The fraction that is written is the one of the number. -/
theorem fractionDigits_value (n : Nat) :
    (Json.digitsValue (fractionDigits n) : ℚ) / 10 ^ (fractionDigits n).length =
      (n % 10000 : Nat) / 10000 := by
  by_cases integral : n % 10000 = 0
  · simp [fractionDigits, integral, Json.digitsValue]
  · obtain ⟨d, f, -, written, length, -, -, value, fewer⟩ := fractionDigits_spec integral
    rw [length, written, zeroPadded_value, ← value, div_eq_div_iff (by positivity) (by positivity)]
    have scale : (10000 : ℚ) = 10 ^ (4 - d) * 10 ^ d := by
      rw [← pow_add, Nat.sub_add_cancel fewer]
      norm_num
    push_cast
    rw [scale, mul_assoc]

theorem fractionDigits_last (n : Nat) : (fractionDigits n).getLast? ≠ some 0x30 := by
  by_cases integral : n % 10000 = 0
  · simp [fractionDigits, integral]
  · obtain ⟨d, f, -, written, -, -, last, -⟩ := fractionDigits_spec integral
    rw [written]
    exact zeroPadded_last d last

/-- **The number that is written is the value, in the shortest form.** -/
theorem writtenNumber_value (n : Int) : (writtenNumber n).value = n / 10000 := by
  have parts : (n.natAbs : ℚ) = (n.natAbs / 10000 : Nat) * 10000 + (n.natAbs % 10000 : Nat) := by
    have := Nat.div_add_mod' n.natAbs 10000
    exact_mod_cast this.symm
  have size : (Json.digitsValue (decimalBytes (n.natAbs / 10000)) : ℚ) +
      Json.digitsValue (fractionDigits n.natAbs) / 10 ^ (fractionDigits n.natAbs).length =
        (n.natAbs : ℚ) / 10000 := by
    rw [decimalBytes_value, fractionDigits_value, parts]
    ring
  simp only [writtenNumber, Json.Number.value, size, decide_eq_true_eq]
  split
  · rename_i negative
    have same : (n.natAbs : Int) = -n := by omega
    rw [← Int.cast_natCast, same, Int.cast_neg, neg_div, neg_neg]
  · rename_i positive
    have same : (n.natAbs : Int) = n := by omega
    rw [← Int.cast_natCast, same]

theorem writtenNumber_shortest (n : Int) : (writtenNumber n).Shortest := by
  refine ⟨rfl, fractionDigits_last n.natAbs, fun negative => ?_⟩
  have negative : n < 0 := by simpa [writtenNumber] using negative
  rw [writtenNumber_value]
  have : (n : ℚ) < 0 := by exact_mod_cast negative
  have : (n : ℚ) / 10000 < 0 := by linarith
  exact this.ne

section Json

variable {D : Type} [Double D]

theorem appendNumber_eq (out : List UInt8) (value : D) :
    appendNumber out value = out ++ numberBytes (Double.scaled value) := by
  generalize scaled : Double.scaled value = n
  have sign : (if n < 0 then out ++ ascii ['-'] else out) =
      out ++ if decide (n < 0) then [0x2d] else [] := by
    by_cases negative : n < 0
    · simp [negative, ascii]
    · simp [negative]
  simp only [appendNumber, scaled, sign, numberBytes, Json.numberText]
  by_cases integral : n.natAbs % 10000 = 0
  · simp [integral, fractionDigits]
  · obtain ⟨d, f, strips, written, length, positive, -⟩ := fractionDigits_spec integral
    have digits : fractionDigits n.natAbs ≠ [] := by
      rw [← List.length_pos_iff, length]
      exact positive
    rw [if_neg integral, if_neg digits, strips, written]
    simp [ascii]

/-- What one byte of a class name becomes. -/
def escapedByte (c : UInt8) : List UInt8 :=
  if c = 0x22 ∨ c = 0x5c then [0x5c, c]
  else if c < 0x20 then ascii ['\\', 'u'] ++ zeroPadded 16 4 c.toNat
  else [c]

theorem appendString_eq (out value : List UInt8) :
    appendString out value = out ++ 0x22 :: (value.flatMap escapedByte ++ [0x22]) := by
  have char : ∀ (out : List UInt8) c, appendChar out c = out ++ escapedByte c := by
    intro out c
    unfold appendChar escapedByte
    split
    · rfl
    · split
      · rw [List.append_assoc]
      · rfl
  have chars : ∀ out : List UInt8, value.foldl appendChar out = out ++ value.flatMap escapedByte := by
    induction value with
    | nil => simp
    | cons c value ih =>
      intro out
      rw [List.foldl_cons, ih, char, List.flatMap_cons, List.append_assoc]
  rw [appendString, chars]
  simp

/-- A list of texts as a JSON array. -/
def arrayText (texts : List (List UInt8)) : List UInt8 :=
  0x5b :: ([0x2c].intercalate texts ++ [0x5d])

def objectText (members : List (List UInt8 × List UInt8)) : List UInt8 :=
  0x7b :: ([0x2c].intercalate (members.map Json.memberText) ++ [0x7d])

theorem boxJson_eq (box : SeiBox D) : boxJson box =
    arrayText [numberBytes (Double.scaled box.x), numberBytes (Double.scaled box.y),
      numberBytes (Double.scaled box.w), numberBytes (Double.scaled box.h),
      0x22 :: (box.className.flatMap escapedByte ++ [0x22]),
      numberBytes (Double.scaled box.score)] := by
  simp [boxJson, arrayText, appendNumber_eq, appendString_eq, ascii, List.intercalate_cons_cons]

theorem resultJson_eq (result : SeiResult D) : resultJson result =
    objectText [(ascii ['d', 't'], decimalBytes result.dt.toNat),
      (ascii ['b'], arrayText (result.boxes.map boxJson))] := by
  simp [resultJson, objectText, arrayText, Json.memberText, ascii, List.intercalate_cons_cons]

theorem detectionSeiJson_eq (results : List (SeiResult D)) : detectionSeiJson results =
    objectText [(ascii ['v'], decimalBytes 1), (ascii ['r'], arrayText (results.map resultJson))] := by
  have one : decimalBytes 1 = [0x31] := rfl
  simp [detectionSeiJson, objectText, arrayText, Json.memberText, ascii, List.intercalate_cons_cons,
    one]

end Json

theorem escapedByte_control : ∀ n < 32, Json.hexValue (zeroPadded 16 4 n) = some n ∧
    (zeroPadded 16 4 n).length = 4 := by decide

theorem escaped_reads (name : List UInt8) : Json.ReadsString (name.flatMap escapedByte) name := by
  induction name with
  | nil => exact .nil
  | cons c name ih =>
    rw [List.flatMap_cons, escapedByte]
    split
    · rename_i special
      have short : Json.shortEscape c = some c := by
        rw [Json.shortEscape, if_pos (by rcases special with rfl | rfl <;> decide)]
      exact ih.escape [c] fun rest => Json.readEscape_short rest short
    · rename_i ordinary
      split
      · rename_i control
        have small : c.toNat < 32 := UInt8.lt_iff_toNat_lt.1 control
        obtain ⟨value, four⟩ := escapedByte_control c.toNat small
        have stands : Json.utf8 c.toNat = [c] := by
          rw [Json.utf8, if_pos (by omega)]
          simp
        have unit := ih.escape (0x75 :: zeroPadded 16 4 c.toNat) fun rest =>
          Json.readEscape_unit rest four value (.inl (by omega))
        rw [stands] at unit
        exact unit
      · rename_i printable
        rw [not_or] at ordinary
        exact ih.plain (UInt8.not_lt.1 printable) ordinary.1 ordinary.2

theorem numberBytes_reads (n : Int) : Json.Reads (numberBytes n) (.number (writtenNumber n)) :=
  Json.reads_number _ (decimalBytes_whole _) (fractionDigits_isDigit _)

/-- A natural number that was written with `std::to_string`. -/
def writtenNatural (n : Nat) : Json.Number := ⟨false, decimalBytes n, [], none⟩

theorem decimalBytes_reads (n : Nat) :
    Json.Reads (decimalBytes n) (.number (writtenNatural n)) := by
  have reads := @Json.reads_number false _ [] (decimalBytes_whole n) (by simp)
  simpa [Json.numberText, writtenNatural] using reads

section Tree

variable {D : Type} [Double D]

/-! The trees that a parser finds. -/

def boxTree (box : SeiBox D) : Json :=
  .array [.number (writtenNumber (Double.scaled box.x)), .number (writtenNumber (Double.scaled box.y)),
    .number (writtenNumber (Double.scaled box.w)), .number (writtenNumber (Double.scaled box.h)),
    .string box.className, .number (writtenNumber (Double.scaled box.score))]

def resultTree (result : SeiResult D) : Json :=
  .object [(ascii ['d', 't'], .number (writtenNatural result.dt.toNat)),
    (ascii ['b'], .array (result.boxes.map boxTree))]

def detectionsTree (results : List (SeiResult D)) : Json :=
  .object [(ascii ['v'], .number (writtenNatural 1)), (ascii ['r'], .array (results.map resultTree))]

theorem boxJson_reads (box : SeiBox D) : Json.Reads (boxJson box) (boxTree box) := by
  rw [boxJson_eq]
  refine Json.reads_array (.cons (numberBytes_reads _) (.cons (numberBytes_reads _)
    (.cons (numberBytes_reads _) (.cons (numberBytes_reads _) (.cons ?_
      (.cons (numberBytes_reads _) .nil))))))
  exact Json.reads_string (escaped_reads box.className)

theorem arrayText_reads {α : Type*} {text : α → List UInt8} {tree : α → Json} (items : List α)
    (reads : ∀ item, Json.Reads (text item) (tree item)) :
    Json.Reads (arrayText (items.map text)) (.array (items.map tree)) := by
  apply Json.reads_array
  rw [List.forall₂_map_left_iff, List.forall₂_map_right_iff]
  exact List.forall₂_same.2 fun item _ => reads item

/-- A name that needs no escape. -/
theorem plain_reads {name : List UInt8} (plain : ∀ c ∈ name, 0x20 ≤ c ∧ c ≠ 0x22 ∧ c ≠ 0x5c) :
    Json.ReadsString name name := by
  induction name with
  | nil => exact .nil
  | cons c name ih =>
    obtain ⟨printable, noQuote, noBackslash⟩ := plain c (List.mem_cons_self ..)
    exact (ih fun d member => plain d (List.mem_cons_of_mem c member)).plain printable noQuote
      noBackslash

theorem resultJson_reads (result : SeiResult D) :
    Json.Reads (resultJson result) (resultTree result) := by
  have dt : Json.ReadsString (ascii ['d', 't']) _ := plain_reads (by simp [ascii])
  have b : Json.ReadsString (ascii ['b']) _ := plain_reads (by simp [ascii])
  rw [resultJson_eq]
  exact Json.reads_object (.cons ⟨dt, decimalBytes_reads _⟩
    (.cons ⟨b, arrayText_reads result.boxes boxJson_reads⟩ .nil)) (by simp)

/-- **The parser reads the whole text.** -/
theorem detectionSeiJson_reads (results : List (SeiResult D)) :
    Json.Reads (detectionSeiJson results) (detectionsTree results) := by
  have v : Json.ReadsString (ascii ['v']) _ := plain_reads (by simp [ascii])
  have r : Json.ReadsString (ascii ['r']) _ := plain_reads (by simp [ascii])
  rw [detectionSeiJson_eq]
  exact Json.reads_object (.cons ⟨v, decimalBytes_reads _⟩
    (.cons ⟨r, arrayText_reads results resultJson_reads⟩ .nil)) (by simp)

end Tree

/-! ## Every byte is printable -/

def Printable (text : List UInt8) : Prop := ∀ b ∈ text, 0x20 ≤ b

-- not by a search through all bytes, as instance resolution would have it
instance : DecidablePred Printable := fun text => List.decidableBAll (0x20 ≤ ·) text

namespace Printable

variable {a b : List UInt8} {c : UInt8}

theorem nil : Printable [] := fun _ member => absurd member (by simp)

theorem cons (first : 0x20 ≤ c) (rest : Printable a) : Printable (c :: a) := by
  intro d member
  rcases List.mem_cons.1 member with rfl | later
  · exact first
  · exact rest d later

theorem append (first : Printable a) (second : Printable b) : Printable (a ++ b) := by
  intro d member
  rcases List.mem_append.1 member with left | right
  · exact first d left
  · exact second d right

theorem digits (written : ∀ d ∈ a, Json.isDigit d = true) : Printable a := by
  intro d member
  have digit := written d member
  simp only [Json.isDigit, Bool.and_eq_true, decide_eq_true_eq] at digit
  exact UInt8.le_trans (by decide) digit.1

theorem commas {texts : List (List UInt8)} (each : ∀ text ∈ texts, Printable text) :
    Printable ([0x2c].intercalate texts) := by
  induction texts with
  | nil => exact nil
  | cons text texts ih =>
    have later := ih fun other member => each other (List.mem_cons_of_mem text member)
    have first := each text (List.mem_cons_self ..)
    cases texts with
    | nil => simpa using first
    | cons next others =>
      rw [List.intercalate_cons_cons, List.append_assoc, List.singleton_append]
      exact first.append (later.cons (by decide))

theorem array {texts : List (List UInt8)} (each : ∀ text ∈ texts, Printable text) :
    Printable (arrayText texts) :=
  ((commas each).append (nil.cons (by decide))).cons (by decide)

theorem object {members : List (List UInt8 × List UInt8)}
    (each : ∀ member ∈ members, Printable member.1 ∧ Printable member.2) :
    Printable (objectText members) := by
  refine ((commas ?_).append (nil.cons (by decide))).cons (by decide)
  intro text found
  obtain ⟨member, inside, rfl⟩ := List.mem_map.1 found
  obtain ⟨name, value⟩ := each member inside
  exact (name.append ((value.cons (by decide)).cons (by decide))).cons (by decide)

end Printable

theorem numberBytes_printable (n : Int) : Printable (numberBytes n) := by
  have whole : Printable (decimalBytes (n.natAbs / 10000)) := .digits (decimalBytes_isDigit _)
  have fraction : Printable (fractionDigits n.natAbs) := .digits (fractionDigits_isDigit _)
  have point : Printable (if fractionDigits n.natAbs = [] then [] else
      0x2e :: fractionDigits n.natAbs) := by
    split
    · exact .nil
    · exact fraction.cons (by decide)
  have sign : Printable (if decide (n < 0) then [0x2d] else []) := by
    split
    · exact Printable.nil.cons (by decide)
    · exact .nil
  exact sign.append (whole.append point)

theorem escapedByte_printable (c : UInt8) : Printable (escapedByte c) := by
  have control : ∀ n < 32, Printable (zeroPadded 16 4 n) := by decide
  unfold escapedByte
  split
  · rename_i special
    have printable : 0x20 ≤ c := by rcases special with rfl | rfl <;> decide
    exact (Printable.nil.cons printable).cons (by decide)
  · split
    · rename_i small
      exact ((Printable.nil.cons (by decide)).cons (by decide)).append
        (control c.toNat (UInt8.lt_iff_toNat_lt.1 small))
    · rename_i large
      exact Printable.nil.cons (UInt8.not_lt.1 large)

section Printed

variable {D : Type} [Double D]

theorem boxJson_printable (box : SeiBox D) : Printable (boxJson box) := by
  have name : Printable (0x22 :: (box.className.flatMap escapedByte ++ [0x22])) := by
    refine Printable.cons (by decide) (.append ?_ (Printable.nil.cons (by decide)))
    intro b member
    obtain ⟨c, -, inside⟩ := List.mem_flatMap.1 member
    exact escapedByte_printable c b inside
  rw [boxJson_eq]
  apply Printable.array
  simp only [List.forall_mem_cons, numberBytes_printable, name, true_and]
  simp

theorem resultJson_printable (result : SeiResult D) : Printable (resultJson result) := by
  have dt : Printable (ascii ['d', 't']) := by decide
  have b : Printable (ascii ['b']) := by decide
  rw [resultJson_eq]
  apply Printable.object
  simp only [List.forall_mem_cons, List.not_mem_nil, false_implies, implies_true, and_true]
  refine ⟨⟨dt, .digits (decimalBytes_isDigit _)⟩, b, .array ?_⟩
  intro text member
  obtain ⟨box, -, rfl⟩ := List.mem_map.1 member
  exact boxJson_printable box

theorem detectionSeiJson_printable (results : List (SeiResult D)) :
    Printable (detectionSeiJson results) := by
  have v : Printable (ascii ['v']) := by decide
  have r : Printable (ascii ['r']) := by decide
  rw [detectionSeiJson_eq]
  apply Printable.object
  simp only [List.forall_mem_cons, List.not_mem_nil, false_implies, implies_true, and_true]
  refine ⟨⟨v, .digits (decimalBytes_isDigit _)⟩, r, .array ?_⟩
  intro text member
  obtain ⟨result, -, rfl⟩ := List.mem_map.1 member
  exact resultJson_printable result

end Printed

/-! ## The results, as a viewer takes them -/

/-- `std::llround`: halves are rounded away from zero. -/
def llround (x : ℚ) : Int := if x < 0 then -⌊-x + 1 / 2⌋ else ⌊x + 1 / 2⌋

/-- Exact values, as `append_number` reads them: a value beyond `1e9` is printed as 0. -/
instance : Double ℚ where
  scaled value := if |value| > 1000000000 then 0 else llround (value * 10000)
  greater a b := decide (a > b)

/-- A number of ten-thousandths that is not beyond `1e9`. -/
def Exact (value : ℚ) : Prop := ∃ n : Int, |n| ≤ 10 ^ 13 ∧ value = n / 10000

theorem llround_int (n : Int) : llround n = n := by
  unfold llround
  split
  · have floor : ⌊-(n : ℚ) + 1 / 2⌋ = -n := by
      rw [Int.floor_eq_iff]
      push_cast
      constructor <;> linarith
    rw [floor, neg_neg]
  · rw [Int.floor_eq_iff]
    constructor <;> linarith

theorem Exact.scaled {value : ℚ} (exact' : Exact value) :
    (Double.scaled value : ℚ) / 10000 = value := by
  obtain ⟨n, small, rfl⟩ := exact'
  have small : |(n : ℚ)| ≤ 10 ^ 13 := by exact_mod_cast small
  have printed : ¬ |(n : ℚ) / 10000| > 1000000000 := by
    rw [abs_div, abs_of_pos (show (0 : ℚ) < 10000 by norm_num), not_lt, div_le_iff₀ (by norm_num)]
    linarith
  have whole : (n : ℚ) / 10000 * 10000 = n := by ring
  rw [show Double.scaled ((n : ℚ) / 10000) = _ from if_neg printed, whole, llround_int]

/-- A number in the shortest form. -/
def shortestOf : Json → Option ℚ
  | .number n => if n.Shortest then some n.value else none
  | _ => none

/-- A natural number in the shortest form. -/
def naturalOf (tree : Json) : Option Nat :=
  (shortestOf tree).bind fun value => if value = value.num.toNat then some value.num.toNat else none

def boxOf : Json → Option (SeiBox ℚ)
  | .array [x, y, w, h, .string className, score] => do
    let x ← shortestOf x
    let y ← shortestOf y
    let w ← shortestOf w
    let h ← shortestOf h
    let score ← shortestOf score
    some ⟨x, y, w, h, className, score⟩
  | _ => none

def resultOf : Json → Option (SeiResult ℚ)
  | .object [(dtName, dt), (bName, .array boxes)] =>
    if dtName = ascii ['d', 't'] ∧ bName = ascii ['b'] then do
      let dt ← naturalOf dt
      let boxes ← boxes.mapM boxOf
      if dt < 2 ^ 32 then some ⟨dt.toUInt32, boxes⟩ else none
    else none
  | _ => none

/-- The version `v` and the results `r`. -/
def detectionsOf : Json → Option (Nat × List (SeiResult ℚ))
  | .object [(vName, v), (rName, .array results)] =>
    if vName = ascii ['v'] ∧ rName = ascii ['r'] then do
      let v ← naturalOf v
      let results ← results.mapM resultOf
      some (v, results)
    else none
  | _ => none

theorem shortestOf_written {value : ℚ} (exact' : Exact value) :
    shortestOf (.number (writtenNumber (Double.scaled value))) = some value := by
  rw [shortestOf, if_pos (writtenNumber_shortest _), writtenNumber_value, exact'.scaled]

theorem naturalOf_written (n : Nat) : naturalOf (.number (writtenNatural n)) = some n := by
  have value : (writtenNatural n).value = n := by
    have none' : Json.digitsValue [] = 0 := rfl
    simp [writtenNatural, Json.Number.value, decimalBytes_value, none']
  have shortest : (writtenNatural n).Shortest := ⟨rfl, by simp [writtenNatural], by simp [writtenNatural]⟩
  simp [naturalOf, shortestOf, shortest, value]

/-- The numbers of a box. -/
def SeiBox.numbers (box : SeiBox ℚ) : List ℚ := [box.x, box.y, box.w, box.h, box.score]

theorem boxOf_tree {box : SeiBox ℚ} (exact' : ∀ value ∈ box.numbers, Exact value) :
    boxOf (boxTree box) = some box := by
  simp only [SeiBox.numbers, List.forall_mem_cons, List.not_mem_nil, false_implies, implies_true,
    and_true] at exact'
  obtain ⟨x, y, w, h, score⟩ := exact'
  simp only [boxTree, boxOf, shortestOf_written x, shortestOf_written y, shortestOf_written w,
    shortestOf_written h, shortestOf_written score, bind, Option.bind_some]

theorem mapM_tree {α : Type*} {read : Json → Option α} {tree : α → Json} {items : List α}
    (reads : ∀ item ∈ items, read (tree item) = some item) :
    (items.map tree).mapM read = some items := by
  induction items with
  | nil => rfl
  | cons item items ih =>
    rw [List.map_cons, List.mapM_cons, reads item (List.mem_cons_self ..),
      ih fun other member => reads other (List.mem_cons_of_mem item member)]
    rfl

theorem resultOf_tree {result : SeiResult ℚ}
    (exact' : ∀ box ∈ result.boxes, ∀ value ∈ box.numbers, Exact value) :
    resultOf (resultTree result) = some result := by
  have ticks : result.dt.toNat < 2 ^ 32 := result.dt.toNat_lt
  have boxes := mapM_tree fun box member => boxOf_tree (exact' box member)
  simp only [resultTree, resultOf, and_self, if_true, naturalOf_written, boxes, bind,
    Option.bind_some, if_pos ticks]
  simp

/-- **The SEI JSON round trip.** For results whose numbers are ten-thousandths up to `1e9`, with
class names of any bytes, the text holds no byte below `20`, is JSON, and is parsed to version 1
and the same results: in the same order, with the same `dt`, boxes, class names and numbers, each
number written in the shortest form. -/
theorem sei_json_round_trip (results : List (SeiResult ℚ))
    (exact' : ∀ result ∈ results, ∀ box ∈ result.boxes, ∀ value ∈ box.numbers, Exact value) :
    (∀ b ∈ detectionSeiJson results, 0x20 ≤ b) ∧
      ∃ tree, Json.Text (detectionSeiJson results) tree ∧
        Json.parse (detectionSeiJson results) = some tree ∧
        detectionsOf tree = some (1, results) := by
  have parsed := Json.parse_reads (detectionSeiJson_reads results)
  refine ⟨detectionSeiJson_printable results, _, Json.parse_sound parsed, parsed, ?_⟩
  have all := mapM_tree fun result member => resultOf_tree (exact' result member)
  simp only [detectionsTree, detectionsOf, and_self, if_true, naturalOf_written, all, bind,
    Option.bind_some]

/-- A class name with a quote, a control character and a byte that is not UTF-8. -/
def oddBox : SeiBox ℚ := ⟨1 / 4, 0, 1 / 2, -1 / 10000, [0x22, 0x07, 0xff], 9 / 10⟩

theorem sei_json_round_trip_odd :
    ∃ tree, Json.parse (detectionSeiJson [⟨7, [oddBox]⟩]) = some tree ∧
      detectionsOf tree = some (1, [⟨7, [oddBox]⟩]) := by
  have numbers : ∀ value ∈ oddBox.numbers, Exact value := by
    simp only [SeiBox.numbers, oddBox, List.forall_mem_cons, List.not_mem_nil, false_implies,
      implies_true, and_true]
    exact ⟨⟨2500, by decide, by norm_num⟩, ⟨0, by decide, by norm_num⟩, ⟨5000, by decide, by norm_num⟩,
      ⟨-1, by decide, by norm_num⟩, ⟨9000, by decide, by norm_num⟩⟩
  obtain ⟨-, tree, -, parsed, same⟩ := sei_json_round_trip [⟨7, [oddBox]⟩] (by simpa using numbers)
  exact ⟨tree, parsed, same⟩

end SkaiEdge.WebRtc
