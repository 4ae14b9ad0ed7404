import SkaiEdge.Video.RtspRecovery

/-!
# What the RTSP source measures (`include/skai/video/rtsp_metrics.hpp`, `include/skai/metrics.hpp`)

Times are nanoseconds of the steady clock. A rate is the exact quotient here.
-/

namespace SkaiEdge.Video

structure RtspDiagnostics where
  health : SourceHealth := .stopped
  codec : String := ""
  decoder : String := ""
  width : Int := 0
  height : Int := 0
  fpsNum : Int := 0
  fpsDen : Int := 1
  fpsIn : ℚ := 0
  urlConfigured : Bool := false
  transport : List Char := []
  packetsLost : UInt64 := 0
  packetsLate : UInt64 := 0
  avgJitterNs : UInt64 := 0
  framesReceived : UInt64 := 0
  reconnectCount : Nat := 0
  lastError : String := ""
  deriving DecidableEq, Repr

/-- Statistics of a jitterbuffer are cumulative; a reading that goes back counts for nothing. -/
structure MonotonicCounter where
  highWater : UInt64 := 0
  deriving DecidableEq, Repr

namespace MonotonicCounter

def observe (counter : MonotonicCounter) (value : UInt64) : UInt64 × MonotonicCounter :=
  if value ≤ counter.highWater then (0, counter) else (value - counter.highWater, ⟨value⟩)

def reset (_ : MonotonicCounter) : MonotonicCounter := {}

/-- The greatest of the readings of one epoch. -/
def peak (readings : List UInt64) : Nat := readings.foldl (fun high value => max high value.toNat) 0

@[simp] theorem peak_nil : peak [] = 0 := rfl

@[simp] theorem peak_snoc (readings : List UInt64) (value : UInt64) :
    peak (readings ++ [value]) = max (peak readings) value.toNat := by
  simp [peak]

/-- **One reading**: what it adds takes the mark from one peak to the next. -/
theorem observe_toNat {counter : MonotonicCounter} {readings : List UInt64}
    (marked : counter.highWater.toNat = peak readings) (value : UInt64) :
    (counter.observe value).2.highWater.toNat = peak (readings ++ [value]) ∧
      (counter.observe value).1.toNat = peak (readings ++ [value]) - peak readings := by
  rw [peak_snoc, ← marked]
  unfold observe
  split
  · rename_i low
    have low := UInt64.le_iff_toNat_le.1 low
    have none : (0 : UInt64).toNat = 0 := rfl
    simp only [none]
    omega
  · rename_i high
    have high : counter.highWater.toNat < value.toNat := by
      rw [UInt64.le_iff_toNat_le] at high
      omega
    have added := UInt64.toNat_sub_of_le value counter.highWater
      (UInt64.le_iff_toNat_le.2 (Nat.le_of_lt high))
    simp only [added]
    omega

end MonotonicCounter

/-- Frames that arrived since `first`. -/
structure IngestRate where
  first : Option Int := none
  frames : Nat := 0
  deriving DecidableEq, Repr

namespace IngestRate

def observe (rate : IngestRate) (now : Int) : Option ℚ × IngestRate :=
  match rate.first with
  | none => (none, { rate with first := some now })
  | some first =>
    let frames := rate.frames + 1
    let elapsed := now - first
    if elapsed ≤ 0 then (none, { rate with frames := frames })
    else
      (some (frames * 1000000000 / elapsed),
        if elapsed ≥ milliseconds 1000 then ⟨some now, 0⟩ else { rate with frames := frames })

def reset (_ : IngestRate) : IngestRate := {}

end IngestRate

end SkaiEdge.Video
