import Mathlib

/-!
# `EncodedAccessUnit` (`include/skai/video/encoded_access_unit.hpp`)
-/

namespace SkaiEdge.Video

/-- One complete H.264 access unit in Annex-B format. -/
structure EncodedAccessUnit where
  sequence : UInt64 := 0
  ptsNs : UInt64 := 0
  dtsNs : UInt64 := 0
  hasPts : Bool := false
  hasDts : Bool := false
  keyframe : Bool := false
  discontinuity : Bool := false
  sourceGeneration : UInt64 := 0
  bytes : List UInt8 := []
  deriving DecidableEq, Repr

/-- 90 kHz ticks of a PTS in nanoseconds, truncated to 32 bits. -/
def h264RtpTimestamp (ptsNs : UInt64) : UInt32 :=
  let seconds := ptsNs / 1000000000
  let remainder := ptsNs % 1000000000
  (seconds * 90000 + remainder * 90000 / 1000000000).toUInt32

/-- 90 kHz ticks, rounded down, modulo 2^32. -/
theorem h264RtpTimestamp_toNat (ptsNs : UInt64) :
    (h264RtpTimestamp ptsNs).toNat = ptsNs.toNat * 9 / 100000 % 2 ^ 32 := by
  have bound := ptsNs.toNat_lt
  simp only [h264RtpTimestamp, UInt64.toNat_toUInt32, UInt64.toNat_add, UInt64.toNat_mul,
    UInt64.toNat_div, UInt64.toNat_mod, UInt64.reduceToNat]
  generalize ptsNs.toNat = pts at bound ⊢
  rw [Nat.mod_eq_of_lt (show pts / 1000000000 * 90000 < 2 ^ 64 by omega),
    Nat.mod_eq_of_lt (show pts % 1000000000 * 90000 < 2 ^ 64 by omega),
    Nat.mod_eq_of_lt (show pts / 1000000000 * 90000 + pts % 1000000000 * 90000 / 1000000000 < 2 ^ 64
      by omega)]
  congr 1
  omega

theorem h264RtpTimestamp_eq (ptsNs : UInt64) :
    h264RtpTimestamp ptsNs = UInt32.ofNat (ptsNs.toNat * 9 / 100000) := by
  apply UInt32.toNat_inj.1
  rw [h264RtpTimestamp_toNat, UInt32.toNat_ofNat']

end SkaiEdge.Video
