import SkaiEdge.Lib.AnnexB

/-!
# The detection SEI (`src/webrtc/detection_sei.cpp`, `include/skai/webrtc/detection_sei.hpp`)

The SEI contract v1: detections ride to cloud viewers inside the H.264 stream as
`user_data_unregistered` SEI. This module is the encoding (JSON, SEI message, emulation
prevention) and the insertion into an access unit. Of a `double` the encoder reads only the
rounded ten-thousandths that `append_number` prints and the order of scores; both are left to
the instance of `Double`, so that what is proved holds for every arithmetic behind them.
-/

namespace SkaiEdge.WebRtc

open SkaiEdge.Lib

/-- What the encoder uses of a `double`. -/
class Double (D : Type) where
  /-- `llround(value * 10000.0)` in `append_number`, 0 for a value it does not print. -/
  scaled : D → Int
  /-- `a > b`. -/
  greater : D → D → Bool

/-- Values that are already rounded to 4 decimals, in ten-thousandths. -/
instance : Double Int := ⟨id, fun a b => decide (a > b)⟩

structure SeiBox (D : Type) where
  x : D
  y : D
  w : D
  h : D
  className : List UInt8
  score : D
  deriving DecidableEq, Repr

/-- One inference result as sent in the SEI `r` array. -/
structure SeiResult (D : Type) where
  dt : UInt32
  boxes : List (SeiBox D)
  deriving DecidableEq, Repr

/-- `dt = round((attach - source) * 90000 / 1e9)`; empty when source is newer. -/
def seiDtTicks (attachPtsNs sourcePtsNs : UInt64) : Option UInt32 :=
  if sourcePtsNs > attachPtsNs then none
  else
    let elapsed := attachPtsNs - sourcePtsNs
    some ((elapsed * 9 + 50000) / 100000).toUInt32

/-! ## JSON -/

def ascii (text : List Char) : List UInt8 := text.map fun c => c.toNat.toUInt8

/-- `std::to_string` of an unsigned value. -/
def decimalBytes (n : Nat) : List UInt8 := ascii (Nat.toDigits 10 n)

/-- The loop of `append_number` that strips trailing zeros. It is entered with a fraction in
`1 .. 9999` and 4 digits, so it ends before `digits` is 0. -/
def stripZeros : (digits fraction : Nat) → Nat × Nat
  | 0, fraction => (0, fraction)
  | digits + 1, fraction =>
    if fraction % 10 = 0 then stripZeros digits (fraction / 10) else (digits + 1, fraction)

/-- `%0*lld` and `%04x`. -/
def zeroPadded (base width n : Nat) : List UInt8 :=
  let digits := Nat.toDigits base n
  ascii (List.replicate (width - digits.length) '0' ++ digits)

section Json

variable {D : Type} [Double D]

def appendNumber (out : List UInt8) (value : D) : List UInt8 :=
  let scaled := Double.scaled value
  let out := if scaled < 0 then out ++ ascii ['-'] else out
  let scaled := scaled.natAbs
  let out := out ++ decimalBytes (scaled / 10000)
  let fraction := scaled % 10000
  if fraction = 0 then out
  else
    let (digits, fraction) := stripZeros 4 fraction
    out ++ ascii ['.'] ++ zeroPadded 10 digits fraction

/-- One character of `append_string`: quotes, backslashes and control characters are escaped. -/
def appendChar (out : List UInt8) (c : UInt8) : List UInt8 :=
  if c = 0x22 ∨ c = 0x5c then out ++ [0x5c, c]
  else if c < 0x20 then out ++ ascii ['\\', 'u'] ++ zeroPadded 16 4 c.toNat
  else out ++ [c]

def appendString (out value : List UInt8) : List UInt8 :=
  value.foldl appendChar (out ++ [0x22]) ++ [0x22]

def boxJson (box : SeiBox D) : List UInt8 :=
  let out := appendNumber (ascii ['[']) box.x
  let out := appendNumber (out ++ ascii [',']) box.y
  let out := appendNumber (out ++ ascii [',']) box.w
  let out := appendNumber (out ++ ascii [',']) box.h
  let out := appendString (out ++ ascii [',']) box.className
  appendNumber (out ++ ascii [',']) box.score ++ ascii [']']

def resultJson (result : SeiResult D) : List UInt8 :=
  ascii "\x7b\"dt\":".toList ++ decimalBytes result.dt.toNat ++ ascii ",\"b\":[".toList ++
    (ascii [',']).intercalate (result.boxes.map boxJson) ++ ascii "]\x7d".toList

/-- `{"v":1,"r":[{"dt":...,"b":[[x,y,w,h,"class",score],...]},...]}` -/
def detectionSeiJson (results : List (SeiResult D)) : List UInt8 :=
  ascii "\x7b\"v\":1,\"r\":[".toList ++ (ascii [',']).intercalate (results.map resultJson) ++
    ascii "]\x7d".toList

end Json

/-! ## The SEI NAL -/

/-- The size of an SEI message: a byte `ff` for each full 255, then the rest. -/
def chainedSize (size : Nat) : List UInt8 :=
  if size ≥ 255 then 0xff :: chainedSize (size - 255) else [UInt8.ofNat size]

/-- The message before emulation prevention: type 5, chained size, uuid, payload, trailing bits. -/
def userDataRbsp (uuid : Vector UInt8 16) (payload : List UInt8) : List UInt8 :=
  5 :: chainedSize (uuid.size + payload.length) ++ uuid.toList ++ payload ++ [0x80]

/-- Annex-B SEI NAL (4-byte start code) carrying uuid and payload, with emulation prevention
applied to the whole RBSP including the trailing bits. -/
def encodeUserDataSeiNal (uuid : Vector UInt8 16) (payload : List UInt8) : List UInt8 :=
  [0, 0, 0, 1, 0x06] ++ AnnexB.escape 0 (userDataRbsp uuid payload)

def detectionSeiUuid : Vector UInt8 16 :=
  #v[0x19, 0x7c, 0x65, 0xee, 0xa1, 0x32, 0x4f, 0x53,
     0x85, 0xa0, 0x8a, 0xf9, 0xad, 0x15, 0x3c, 0x4b]

def encodeResults {D : Type} [Double D] (results : List (SeiResult D)) : List UInt8 :=
  encodeUserDataSeiNal detectionSeiUuid (detectionSeiJson results)

/-! ## Insertion into an access unit -/

def isVcl (header : UInt8) : Bool :=
  let type := header &&& 0x1f
  type ≥ 1 && type ≤ 5

/-- The scan of `insert_before_first_vcl` from index `i` on; `bytes` are the unit's bytes from
there. A start code without a VCL header is passed as a whole. -/
def firstVcl (i : Nat) : List UInt8 → Option Nat
  | a :: b :: c :: header :: rest =>
    if a ≠ 0 ∨ b ≠ 0 ∨ c ≠ 1 then firstVcl (i + 1) (b :: c :: header :: rest)
    else if isVcl header then some i
    else firstVcl (i + 3) (header :: rest)
  | _ => none

/-- Inserts `nal` before the first VCL NAL; `false` and the unit unchanged when there is none. -/
def insertBeforeFirstVcl (accessUnit nal : List UInt8) : List UInt8 × Bool :=
  match firstVcl 0 accessUnit with
  | none => (accessUnit, false)
  | some i =>
    -- Keep a 4-byte start code's zero_byte with the slice it introduces.
    let place := if i > 0 ∧ accessUnit[i - 1]? = some 0 then i - 1 else i
    (accessUnit.take place ++ nal ++ accessUnit.drop place, true)

/-- A start code with a VCL header behind it stands at index `i`. -/
def VclAt (bytes : List UInt8) (i : Nat) : Prop :=
  ∃ header, [0, 0, 1, header] <+: bytes.drop i ∧ isVcl header = true

/-- The bytes start with a VCL NAL, behind a start code of 3 or 4 bytes. -/
def StartsVcl (bytes : List UInt8) : Prop := VclAt bytes 0 ∨ (bytes.head? = some 0 ∧ VclAt bytes 1)

theorem vclAt_zero {a b c header : UInt8} {rest : List UInt8} :
    VclAt (a :: b :: c :: header :: rest) 0 ↔ a = 0 ∧ b = 0 ∧ c = 1 ∧ isVcl header = true := by
  simp only [VclAt, List.drop_zero, List.cons_prefix_cons, List.nil_prefix]
  constructor
  · rintro ⟨_, ⟨rfl, rfl, rfl, rfl, _⟩, vcl⟩
    exact ⟨rfl, rfl, rfl, vcl⟩
  · rintro ⟨rfl, rfl, rfl, vcl⟩
    exact ⟨header, ⟨rfl, rfl, rfl, rfl, trivial⟩, vcl⟩

/-- Fewer than four bytes hold no NAL. -/
theorem VclAt.size {bytes : List UInt8} {j : Nat} (found : VclAt bytes j) :
    j + 4 ≤ bytes.length := by
  obtain ⟨header, ahead, _⟩ := found
  have size := ahead.length_le
  simp only [List.length_cons, List.length_nil, List.length_drop] at size
  omega

/-- What the scan finds: the first VCL NAL, or that there is none. The bytes passed with a
start code are `00 00 01`, where no other start code begins. -/
theorem firstVcl_least (i : Nat) (bytes : List UInt8) :
    (firstVcl i bytes = none ∧ ∀ j, ¬ VclAt bytes j) ∨
      ∃ d, firstVcl i bytes = some (i + d) ∧ VclAt bytes d ∧ ∀ j, VclAt bytes j → d ≤ j := by
  fun_induction firstVcl i bytes with
  | case1 i a b c header rest other ih =>
    have notHere : ¬ VclAt (a :: b :: c :: header :: rest) 0 := by
      rw [vclAt_zero]
      rintro ⟨rfl, rfl, rfl, _⟩
      simp at other
    rcases ih with ⟨none, nowhere⟩ | ⟨d, found, here, least⟩
    · refine .inl ⟨none, fun j => ?_⟩
      cases j with
      | zero => exact notHere
      | succ j => exact nowhere j
    · refine .inr ⟨d + 1, by rw [found]; congr 1; omega, here, fun j at_j => ?_⟩
      cases j with
      | zero => exact absurd at_j notHere
      | succ j => exact Nat.succ_le_succ (least j at_j)
  | case2 i a b c header rest code vcl =>
    simp only [ne_eq, not_or, not_not] at code
    exact .inr ⟨0, rfl, vclAt_zero.2 ⟨code.1, code.2.1, code.2.2, vcl⟩, fun j _ => Nat.zero_le j⟩
  | case3 i a b c header rest code plain ih =>
    simp only [ne_eq, not_or, not_not] at code
    obtain ⟨rfl, rfl, rfl⟩ := code
    -- a start code begins neither at this one's header nor inside it
    have inside : ∀ j, VclAt (0 :: 0 :: 1 :: header :: rest) j →
        ∃ d, j = d + 3 ∧ VclAt (header :: rest) d := by
      intro j at_j
      match j with
      | 0 => exact absurd (vclAt_zero.1 at_j).2.2.2 plain
      | 1 =>
        obtain ⟨_, ahead, _⟩ := at_j
        simp [List.cons_prefix_cons] at ahead
      | 2 =>
        obtain ⟨_, ahead, _⟩ := at_j
        simp [List.cons_prefix_cons] at ahead
      | d + 3 => exact ⟨d, rfl, at_j⟩
    rcases ih with ⟨none, nowhere⟩ | ⟨d, found, here, least⟩
    · refine .inl ⟨none, fun j at_j => ?_⟩
      obtain ⟨d, _, at_d⟩ := inside j at_j
      exact nowhere d at_d
    · refine .inr ⟨d + 3, by rw [found]; congr 1; omega, here, fun j at_j => ?_⟩
      obtain ⟨d', rfl, at_d⟩ := inside j at_j
      have := least d' at_d
      omega
  | case4 bytes i short =>
    refine .inl ⟨rfl, fun j at_j => ?_⟩
    have size := at_j.size
    match bytes, short with
    | [], _ | [_], _ | [_, _], _ | [_, _, _], _ =>
      simp only [List.length_cons, List.length_nil] at size
      omega
    | a :: b :: c :: header :: rest, short => exact short a b c header rest rfl

theorem firstVcl_isSome (bytes : List UInt8) :
    (firstVcl 0 bytes).isSome = true ↔ ∃ j, VclAt bytes j := by
  rcases firstVcl_least 0 bytes with ⟨none, nowhere⟩ | ⟨i, found, here, _⟩
  · simp [none, nowhere]
  · simp only [found, Option.isSome_some, true_iff]
    exact ⟨i, here⟩

/-- `nal` stands in `bytes` right before the first VCL NAL of `unit`, and nothing else changed. -/
def Inserted (unit nal bytes : List UInt8) : Prop :=
  ∃ before behind, unit = before ++ behind ∧ bytes = before ++ nal ++ behind ∧ StartsVcl behind ∧
    ∀ j, VclAt unit j → before.length ≤ j

/-- **What the insertion can do.** -/
theorem insert_cases (unit nal : List UInt8) :
    ((∀ j, ¬ VclAt unit j) ∧ insertBeforeFirstVcl unit nal = (unit, false)) ∨
      ((∃ j, VclAt unit j) ∧ (insertBeforeFirstVcl unit nal).2 = true ∧
        Inserted unit nal (insertBeforeFirstVcl unit nal).1) := by
  rcases firstVcl_least 0 unit with ⟨none, nowhere⟩ | ⟨i, found, here, least⟩
  · exact .inl ⟨nowhere, by simp [insertBeforeFirstVcl, none]⟩
  · rw [Nat.zero_add] at found
    refine .inr ⟨⟨i, here⟩, by simp [insertBeforeFirstVcl, found], ?_⟩
    simp only [insertBeforeFirstVcl, found]
    have size := here.size
    by_cases zeroByte : i > 0 ∧ unit[i - 1]? = some 0
    · rw [if_pos zeroByte]
      refine ⟨unit.take (i - 1), unit.drop (i - 1), (List.take_append_drop ..).symm, rfl, ?_, ?_⟩
      · refine .inr ⟨by rw [List.head?_drop]; exact zeroByte.2, ?_⟩
        obtain ⟨header, ahead, vcl⟩ := here
        refine ⟨header, ?_, vcl⟩
        rw [List.drop_drop, Nat.sub_add_cancel zeroByte.1]
        exact ahead
      · intro j at_j
        have := least j at_j
        rw [List.length_take]
        omega
    · rw [if_neg zeroByte]
      refine ⟨unit.take i, unit.drop i, (List.take_append_drop ..).symm, rfl, .inl ?_, ?_⟩
      · obtain ⟨header, ahead, vcl⟩ := here
        exact ⟨header, ahead, vcl⟩
      · intro j at_j
        have := least j at_j
        rw [List.length_take]
        omega

end SkaiEdge.WebRtc
