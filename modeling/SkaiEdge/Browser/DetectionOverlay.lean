import SkaiEdge.Video.EncodedAccessUnit

/-!
# The detection overlay (`web/app.js`)

The browser keeps the latest detections by the RTP timestamp that their PTS has, and draws those
nearest to the video frame it presents. A JavaScript number is read as the rational it stands
for, and as `none` when it is not finite; arithmetic on it is exact.

`rtp_timestamp_agrees` compares the mapping from PTS to RTP time with the server's;
`presented_own` says what it is for.
-/

namespace SkaiEdge.Browser

open SkaiEdge.Video

/-- `x >>> 0`: cut towards zero, modulo 2^32. -/
def toUint32 (x : ℚ) : Nat := ((if x < 0 then ⌈x⌉ else ⌊x⌋) % 2 ^ 32).toNat

def ptsToRtpTimestamp : Option ℚ → Option Nat
  | none => none
  | some value =>
    if value < 0 then none
    else
      let seconds : ℚ := ⌊value / 1000000000⌋
      let remainder := value - seconds * 1000000000
      some (toUint32 (seconds * 90000 + ⌊remainder * 90000 / 1000000000⌋))

def signedRtpDistance (left right : Nat) : Int :=
  let difference := toUint32 ((left : ℚ) - right)
  if difference > 0x7fffffff then (difference : Int) - 0x100000000 else difference

structure DetectionFrame (D : Type*) where
  rtpTimestamp : Nat
  data : D

section Present

variable {D : Type*}

/-- One turn of the loop: `selected` and `selectedDistance`. -/
def nearer (timestamp : Nat) (selected : Option (D × Nat)) (frame : DetectionFrame D) :
    Option (D × Nat) :=
  let distance := (signedRtpDistance frame.rtpTimestamp timestamp).natAbs
  if distance ≤ 9000 ∧ selected.all (fun (_, least) => distance < least) then
    some (frame.data, distance)
  else selected

/-- The overlay and the frames that are kept. -/
def presentDetectionFrame (frames : List (DetectionFrame D)) (timestamp : Nat) :
    Option D × List (DetectionFrame D) :=
  ((frames.foldl (nearer timestamp) none).map (·.1),
    frames.filter fun frame => signedRtpDistance frame.rtpTimestamp timestamp ≥ -9000)

end Present

/-! ## The timestamps -/

theorem toUint32_natCast (n : Nat) : toUint32 n = n % 2 ^ 32 := by
  have nonneg : ¬ (n : ℚ) < 0 := by simp
  rw [toUint32, if_neg nonneg, Int.floor_natCast]
  omega

theorem floor_natCast_div (n : Nat) {d : Nat} {q : ℚ} (same : q = d) :
    ⌊(n : ℚ) / q⌋ = (n / d : Nat) := by
  rw [same]
  exact Rat.floor_natCast_div_natCast n d

/-- The browser's mapping: the seconds are split off and put back. -/
theorem ptsToRtpTimestamp_natCast (pts : Nat) :
    ptsToRtpTimestamp (some pts) = some (pts * 90000 / 1000000000 % 2 ^ 32) := by
  have nonneg : ¬ (pts : ℚ) < 0 := by simp
  have seconds : ⌊(pts : ℚ) / 1000000000⌋ = (pts / 1000000000 : Nat) :=
    floor_natCast_div pts (by norm_num)
  have remainder : (pts : ℚ) - (pts / 1000000000 : Nat) * 1000000000 = (pts % 1000000000 : Nat) := by
    have whole : ((pts / 1000000000 * 1000000000 + pts % 1000000000 : Nat) : ℚ) = pts := by
      rw [Nat.div_add_mod']
    push_cast at whole
    linarith
  have ticks : ⌊((pts % 1000000000 : Nat) : ℚ) * 90000 / 1000000000⌋ =
      (pts % 1000000000 * 90000 / 1000000000 : Nat) := by
    rw [show ((pts % 1000000000 : Nat) : ℚ) * 90000 = (pts % 1000000000 * 90000 : Nat) by norm_cast]
    exact floor_natCast_div _ (by norm_num)
  have sum : ((pts / 1000000000 : Nat) : ℚ) * 90000 + (pts % 1000000000 * 90000 / 1000000000 : Nat) =
      (pts / 1000000000 * 90000 + pts % 1000000000 * 90000 / 1000000000 : Nat) := by norm_cast
  simp only [ptsToRtpTimestamp, if_neg nonneg, seconds, Int.cast_natCast, remainder, ticks, sum,
    toUint32_natCast]
  congr 2
  omega

/-- **The server and the browser map a PTS to the same RTP time**, the 90 kHz ticks rounded down,
modulo 2^32; the server for every PTS of 64 bits, where no intermediate value overflows. -/
theorem rtp_timestamp_agrees :
    (∀ ptsNs : UInt64,
      ((h264RtpTimestamp ptsNs).toNat : Int) = ⌊(ptsNs.toNat : ℚ) * 90000 / 10 ^ 9⌋ % 2 ^ 32 ∧
      (ptsNs / 1000000000 * 90000).toNat = ptsNs.toNat / 1000000000 * 90000 ∧
      (ptsNs % 1000000000 * 90000).toNat = ptsNs.toNat % 1000000000 * 90000 ∧
      (ptsNs / 1000000000 * 90000 + ptsNs % 1000000000 * 90000 / 1000000000).toNat =
        ptsNs.toNat / 1000000000 * 90000 + ptsNs.toNat % 1000000000 * 90000 / 1000000000) ∧
    ∀ pts : Nat, pts < 2 ^ 53 → (ptsToRtpTimestamp (some pts)).map Int.ofNat =
      some (⌊(pts : ℚ) * 90000 / 10 ^ 9⌋ % 2 ^ 32) := by
  have undivided : ∀ pts : Nat, ⌊(pts : ℚ) * 90000 / 10 ^ 9⌋ = (pts * 90000 / 1000000000 : Nat) := by
    intro pts
    rw [show (pts : ℚ) * 90000 = (pts * 90000 : Nat) by norm_cast]
    exact floor_natCast_div _ (by norm_num)
  refine ⟨fun ptsNs => ?_, fun pts _ => ?_⟩
  · have bound := ptsNs.toNat_lt
    have whole : (ptsNs / 1000000000 * 90000).toNat = ptsNs.toNat / 1000000000 * 90000 := by
      simp only [UInt64.toNat_mul, UInt64.toNat_div, UInt64.reduceToNat]
      omega
    have rest : (ptsNs % 1000000000 * 90000).toNat = ptsNs.toNat % 1000000000 * 90000 := by
      simp only [UInt64.toNat_mul, UInt64.toNat_mod, UInt64.reduceToNat]
      omega
    refine ⟨?_, whole, rest, ?_⟩
    · have reduced : ptsNs.toNat * 90000 / 1000000000 = ptsNs.toNat * 9 / 100000 := by omega
      rw [h264RtpTimestamp_toNat, undivided, reduced]
      rfl
    · simp only [UInt64.toNat_add, whole, UInt64.toNat_div, rest, UInt64.reduceToNat]
      omega
  · rw [ptsToRtpTimestamp_natCast, undivided, Option.map_some]
    congr 1

/-! ## The overlay -/

section Overlay

variable {D : Type*} {timestamp : Nat} {frames : List (DetectionFrame D)}

theorem signedRtpDistance_self (n : Nat) : signedRtpDistance n n = 0 := by
  have zero : toUint32 ((n : ℚ) - n) = 0 := by
    rw [sub_self]
    exact toUint32_natCast 0
  rw [signedRtpDistance, zero]
  rfl

/-- What the loop has selected: nothing if no frame is within 9000 ticks, else a nearest one. -/
structure Nearest (timestamp : Nat) (frames : List (DetectionFrame D)) (selected : Option (D × Nat)) :
    Prop where
  chosen : ∀ data distance, selected = some (data, distance) → ∃ frame ∈ frames,
    frame.data = data ∧ (signedRtpDistance frame.rtpTimestamp timestamp).natAbs = distance
  least : ∀ frame ∈ frames, (signedRtpDistance frame.rtpTimestamp timestamp).natAbs ≤ 9000 →
    ∃ data distance, selected = some (data, distance) ∧
      distance ≤ (signedRtpDistance frame.rtpTimestamp timestamp).natAbs

theorem Nearest.next {selected : Option (D × Nat)} (nearest : Nearest timestamp frames selected)
    (frame : DetectionFrame D) :
    Nearest timestamp (frames ++ [frame]) (nearer timestamp selected frame) := by
  rw [nearer]
  simp only
  split
  · rename_i near
    refine ⟨?_, fun other member close => ⟨_, _, rfl, ?_⟩⟩
    · rintro data distance ⟨⟩
      exact ⟨frame, by simp, rfl, rfl⟩
    · rcases List.mem_append.1 member with earlier | last
      · obtain ⟨data, least, known, below⟩ := nearest.least other earlier close
        rw [known] at near
        have closer : _ < least := of_decide_eq_true near.2
        omega
      · rw [List.mem_singleton.1 last]
  · rename_i far
    refine ⟨?_, fun other member close => ?_⟩
    · intro data distance known
      obtain ⟨chosen, member, same⟩ := nearest.chosen data distance known
      exact ⟨chosen, List.mem_append_left _ member, same⟩
    · rcases List.mem_append.1 member with earlier | last
      · exact nearest.least other earlier close
      · rw [List.mem_singleton.1 last] at close ⊢
        cases known : selected with
        | none => simp [known, close] at far
        | some best =>
          refine ⟨best.1, best.2, rfl, ?_⟩
          by_contra closer
          apply far
          rw [known]
          exact ⟨close, decide_eq_true (Nat.not_le.1 closer)⟩

theorem foldl_nearest (timestamp : Nat) (frames : List (DetectionFrame D)) :
    Nearest timestamp frames (frames.foldl (nearer timestamp) none) := by
  induction frames using List.reverseRecOn with
  | nil => exact ⟨by simp, by simp⟩
  | append_singleton frames frame ih =>
    rw [List.foldl_append]
    exact ih.next frame

/-- **A video frame is presented with its own detections**: if detections of its PTS have arrived,
those that are drawn have its RTP timestamp. -/
theorem presented_own (frames : List (DetectionFrame D)) (ptsNs : UInt64) {frame : DetectionFrame D}
    (arrived : frame ∈ frames)
    (mapped : ptsToRtpTimestamp (some (ptsNs.toNat : ℚ)) = some frame.rtpTimestamp) :
    ∃ own ∈ frames, (presentDetectionFrame frames (h264RtpTimestamp ptsNs).toNat).1 = some own.data ∧
      signedRtpDistance own.rtpTimestamp (h264RtpTimestamp ptsNs).toNat = 0 := by
  have same : (h264RtpTimestamp ptsNs).toNat = frame.rtpTimestamp := by
    have reduced : ptsNs.toNat * 90000 / 1000000000 = ptsNs.toNat * 9 / 100000 := by omega
    rw [ptsToRtpTimestamp_natCast, reduced] at mapped
    rw [h264RtpTimestamp_toNat]
    exact Option.some.inj mapped
  have nearest := foldl_nearest (h264RtpTimestamp ptsNs).toNat frames
  have zero : (signedRtpDistance frame.rtpTimestamp (h264RtpTimestamp ptsNs).toNat).natAbs = 0 := by
    rw [same, signedRtpDistance_self]
    rfl
  obtain ⟨data, distance, selected, closest⟩ := nearest.least frame arrived (by omega)
  obtain ⟨own, member, rfl, exact'⟩ := nearest.chosen data distance selected
  refine ⟨own, member, ?_, by omega⟩
  rw [presentDetectionFrame, selected]
  rfl

end Overlay

end SkaiEdge.Browser
