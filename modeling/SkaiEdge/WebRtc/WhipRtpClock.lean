import Mathlib
import SkaiEdge.Video.EncodedAccessUnit

/-!
# `WhipRtpClock` (`src/webrtc/whip_policy.cpp`)

The clock maps access units to RTP timestamps on one SSRC, all modulo 2^32. A unit with PTS is
placed by its ticks and an offset, a unit without PTS one learned frame interval behind the
unit before it, and after a change of generation the offset is set so that the next PTS goes
on from there.

`Track` follows the calls alone, without the clock: the last unit with PTS, how many units
without PTS came after it and the frame interval their steps teach. `stamps_ahead_iff` says in
these terms when the timestamps move forward.
-/

namespace SkaiEdge.WebRtc

open SkaiEdge.Video

/-- `static_cast<std::int32_t>`. -/
def signed (x : UInt32) : Int := x.toBitVec.toInt

structure WhipRtpClock where
  start : UInt32
  offset : UInt32 := 0
  last : UInt32 := 0
  frameTicks : UInt32 := 3000
  lastPtsTicks : Option UInt32 := none
  generation : UInt64 := 0
  hasLast : Bool := false
  deriving DecidableEq, Repr

namespace WhipRtpClock

/-- The arguments of one call of `timestamp`. -/
structure Call where
  generation : UInt64
  hasPts : Bool
  ptsNs : UInt64 := 0
  deriving DecidableEq, Repr

def Call.ticks (call : Call) : UInt32 := h264RtpTimestamp call.ptsNs

/-- The frame interval after a PTS step of `ticks - previous`: steps at 10 fps or faster count. -/
def learn (frameTicks ticks previous : UInt32) : UInt32 :=
  let step := signed (ticks - previous)
  if step > 0 ∧ step ≤ 9000 then ticks - previous else frameTicks

/-- `last_pts_ticks_` once the generation is compared. -/
def keptPts (clock : WhipRtpClock) (call : Call) : Option UInt32 :=
  if clock.hasLast && call.generation != clock.generation then none else clock.lastPtsTicks

def timestamp (clock : WhipRtpClock) (call : Call) : UInt32 × WhipRtpClock :=
  let lastPtsTicks := clock.keptPts call
  let next := if clock.hasLast then clock.last + clock.frameTicks else clock.start
  if call.hasPts then
    let ticks := call.ticks
    let offset := if clock.hasLast && lastPtsTicks.isNone then next - ticks else clock.offset
    let frameTicks :=
      match lastPtsTicks with
      | none => clock.frameTicks
      | some previous => learn clock.frameTicks ticks previous
    let next := ticks + offset
    (next, { clock with
      offset := offset
      frameTicks := frameTicks
      lastPtsTicks := some ticks
      generation := call.generation
      last := next
      hasLast := true })
  else
    (next, { clock with
      lastPtsTicks := lastPtsTicks
      generation := call.generation
      last := next
      hasLast := true })

/-- The timestamps returned by a sequence of calls. -/
def stamps (clock : WhipRtpClock) : List Call → List UInt32
  | [] => []
  | call :: calls => (clock.timestamp call).1 :: stamps (clock.timestamp call).2 calls

/-- `b` is strictly ahead of `a`. -/
def Ahead (a b : UInt32) : Prop := 0 < signed (b - a)

instance (a b : UInt32) : Decidable (Ahead a b) := inferInstanceAs (Decidable (_ < _))

/-- What the calls so far say about the source: the generation of the last one, the last one
with PTS, the number of calls after it and the interval learned up to it. -/
structure Track where
  generation : Option UInt64 := none
  anchor : Option Call := none
  missing : Nat := 0
  interval : UInt32 := 3000

/-- The last call with PTS, if it is of this generation. -/
def Track.anchorIn (track : Track) (generation : UInt64) : Option Call :=
  match track.anchor with
  | none => none
  | some anchor => if anchor.generation = generation then some anchor else none

def Track.next (track : Track) (call : Call) : Track :=
  if call.hasPts then
    { generation := some call.generation
      anchor := some call
      missing := 0
      interval :=
        match track.anchorIn call.generation with
        | none => track.interval
        | some anchor => learn track.interval call.ticks anchor.ticks }
  else { track with generation := some call.generation, missing := track.missing + 1 }

/-- `P` holds at every call, given what the calls before it say. -/
def Along (P : Track → Call → Prop) : Track → List Call → Prop
  | _, [] => True
  | track, call :: calls => P track call ∧ Along P (track.next call) calls

/-- Generations never decrease, and the PTS of one generation move forward by less than 2^31
ticks. -/
structure Admissible (track : Track) (call : Call) : Prop where
  generation : ∀ g ∈ track.generation, g ≤ call.generation
  pts : call.hasPts = true → ∀ anchor ∈ track.anchorIn call.generation, Ahead anchor.ticks call.ticks

/-- A PTS behind units without PTS is more than their frame intervals ahead of the PTS before
them. -/
def Resumes (track : Track) (call : Call) : Prop :=
  call.hasPts = true → 0 < track.missing → ∀ anchor ∈ track.anchorIn call.generation,
    Ahead (anchor.ticks + UInt32.ofNat track.missing * track.interval) call.ticks

instance (track : Track) (call : Call) : Decidable (Admissible track call) :=
  decidable_of_iff (track.generation.all (fun g => decide (g ≤ call.generation)) = true ∧
    (call.hasPts = true → ∀ anchor ∈ track.anchorIn call.generation, Ahead anchor.ticks call.ticks))
    ⟨fun h => ⟨by simpa [Option.all_eq_true] using h.1, h.2⟩,
      fun h => ⟨by simpa [Option.all_eq_true] using h.generation, h.pts⟩⟩

instance (track : Track) (call : Call) : Decidable (Resumes track call) :=
  inferInstanceAs (Decidable (_ → _ → ∀ anchor ∈ track.anchorIn call.generation, Ahead _ _))

instance {P : Track → Call → Prop} [∀ track call, Decidable (P track call)] :
    ∀ (track : Track) (calls : List Call), Decidable (Along P track calls)
  | _, [] => .isTrue trivial
  | track, call :: calls =>
    have : Decidable (Along P (track.next call) calls) := instDecidableAlong (track.next call) calls
    inferInstanceAs (Decidable (_ ∧ _))

/-- How the clock's fields follow the calls once there was one. -/
structure Follows (clock : WhipRtpClock) (track : Track) : Prop where
  started : clock.hasLast = true
  generation : track.generation = some clock.generation
  interval : clock.frameTicks = track.interval
  positive : 0 < clock.frameTicks.toNat ∧ clock.frameTicks.toNat ≤ 9000
  older : ∀ anchor ∈ track.anchor, anchor.generation ≤ clock.generation
  lastPts : clock.lastPtsTicks = (track.anchorIn clock.generation).map Call.ticks
  placed : ∀ anchor ∈ track.anchorIn clock.generation,
    clock.last = anchor.ticks + clock.offset + UInt32.ofNat track.missing * track.interval

theorem signed_eq (x : UInt32) :
    signed x = if x.toNat < 2 ^ 31 then (x.toNat : Int) else x.toNat - 2 ^ 32 := by
  have same : x.toBitVec.toNat = x.toNat := rfl
  rw [signed, BitVec.toInt_eq_toNat_cond, same]
  split <;> split <;> omega

theorem ahead_add {a b : UInt32} (positive : 0 < b.toNat ∧ b.toNat ≤ 9000) : Ahead a (a + b) := by
  have distance : a + b - a = b := by grind
  unfold Ahead
  rw [distance, signed_eq]
  split <;> omega

theorem learn_bounds {frameTicks ticks previous : UInt32}
    (positive : 0 < frameTicks.toNat ∧ frameTicks.toNat ≤ 9000) :
    0 < (learn frameTicks ticks previous).toNat ∧
      (learn frameTicks ticks previous).toNat ≤ 9000 := by
  by_cases step : signed (ticks - previous) > 0 ∧ signed (ticks - previous) ≤ 9000
  · simp only [learn, step, and_self, ↓reduceIte]
    have bound := (ticks - previous).toNat_lt
    rw [signed_eq] at step
    split at step <;> omega
  · simpa only [learn, step, ↓reduceIte] using positive

/-- A unit without PTS. -/
theorem timestamp_missing {clock : WhipRtpClock} {call : Call} (started : clock.hasLast = true)
    (noPts : call.hasPts = false) : clock.timestamp call =
      (clock.last + clock.frameTicks, { clock with
        lastPtsTicks := clock.keptPts call
        generation := call.generation
        last := clock.last + clock.frameTicks }) := by
  simp [timestamp, started, noPts]

/-- The first unit with PTS of a generation goes on one frame behind the last unit. -/
theorem timestamp_rebased {clock : WhipRtpClock} {call : Call} (started : clock.hasLast = true)
    (pts : call.hasPts = true) (fresh : clock.keptPts call = none) : clock.timestamp call =
      (clock.last + clock.frameTicks, { clock with
        offset := clock.last + clock.frameTicks - call.ticks
        lastPtsTicks := some call.ticks
        generation := call.generation
        last := clock.last + clock.frameTicks }) := by
  have back : call.ticks + (clock.last + clock.frameTicks - call.ticks) =
      clock.last + clock.frameTicks := by grind
  simp [timestamp, started, pts, fresh, back]

/-- A later unit with PTS is placed by the offset. -/
theorem timestamp_placed {clock : WhipRtpClock} {call : Call} {previous : UInt32}
    (started : clock.hasLast = true) (pts : call.hasPts = true)
    (known : clock.keptPts call = some previous) : clock.timestamp call =
      (call.ticks + clock.offset, { clock with
        frameTicks := learn clock.frameTicks call.ticks previous
        lastPtsTicks := some call.ticks
        generation := call.generation
        last := call.ticks + clock.offset }) := by
  simp [timestamp, started, pts, known]

theorem Track.anchorIn_some {track : Track} {generation : UInt64} {anchor : Call} :
    track.anchorIn generation = some anchor ↔
      track.anchor = some anchor ∧ anchor.generation = generation := by
  unfold anchorIn
  cases track.anchor with
  | none => simp
  | some a =>
    by_cases same : a.generation = generation
    · simp only [same, ↓reduceIte, Option.some.injEq]
      exact ⟨fun h => ⟨h, h ▸ same⟩, And.left⟩
    · simp only [same, ↓reduceIte, reduceCtorEq, Option.some.injEq, false_iff, not_and]
      exact fun h => h ▸ same

/-- A generation that is newer than every call so far has no anchor. -/
theorem Follows.anchorIn_newer {clock : WhipRtpClock} {track : Track} {generation : UInt64}
    (follows : Follows clock track) (newer : clock.generation ≤ generation)
    (other : generation ≠ clock.generation) : track.anchorIn generation = none := by
  cases found : track.anchorIn generation with
  | none => rfl
  | some anchor =>
    obtain ⟨anchored, rfl⟩ := Track.anchorIn_some.1 found
    exact absurd (UInt64.le_antisymm (follows.older anchor anchored) newer) other

theorem Follows.keptPts_eq {clock : WhipRtpClock} {track : Track} {call : Call}
    (follows : Follows clock track) (admissible : Admissible track call) :
    clock.keptPts call = (track.anchorIn call.generation).map Call.ticks := by
  unfold keptPts
  by_cases same : call.generation = clock.generation
  · simp [same, follows.lastPts]
  · have newer := admissible.generation _ follows.generation
    simp [follows.started, same, follows.anchorIn_newer newer same]

theorem Follows.same_generation {clock : WhipRtpClock} {track : Track} {call anchor : Call}
    (follows : Follows clock track) (admissible : Admissible track call)
    (anchored : track.anchorIn call.generation = some anchor) :
    clock.generation = call.generation := by
  by_contra other
  have newer := admissible.generation _ follows.generation
  rw [follows.anchorIn_newer newer (Ne.symm other)] at anchored
  cases anchored

/-- **One call moves forward exactly when it resumes ahead.** -/
theorem Follows.ahead_iff {clock : WhipRtpClock} {track : Track} {call : Call}
    (follows : Follows clock track) (admissible : Admissible track call) :
    Ahead clock.last (clock.timestamp call).1 ↔ Resumes track call := by
  have kept := follows.keptPts_eq admissible
  cases pts : call.hasPts with
  | false =>
    rw [timestamp_missing follows.started pts]
    simp [Resumes, pts, ahead_add follows.positive]
  | true =>
    cases anchored : track.anchorIn call.generation with
    | none =>
      rw [timestamp_rebased follows.started pts (by rw [kept, anchored]; rfl)]
      simp [Resumes, anchored, ahead_add follows.positive]
    | some anchor =>
      rw [timestamp_placed follows.started pts (by rw [kept, anchored]; rfl)]
      have same := follows.same_generation admissible anchored
      have last := follows.placed anchor (same ▸ anchored)
      have ahead := admissible.pts pts anchor anchored
      have distance : call.ticks + clock.offset - clock.last =
          call.ticks - (anchor.ticks + UInt32.ofNat track.missing * track.interval) := by
        rw [last]; grind
      simp only [Resumes, pts, anchored, Option.mem_def, Option.some.injEq, forall_eq', Ahead,
        distance, forall_const]
      cases missing : track.missing with
      | zero => simpa [missing, Ahead] using ahead
      | succ k => simp

/-- **Every call keeps the fields in step with the calls.** -/
theorem Follows.next {clock : WhipRtpClock} {track : Track} {call : Call}
    (follows : Follows clock track) (admissible : Admissible track call) :
    Follows (clock.timestamp call).2 (track.next call) := by
  have kept := follows.keptPts_eq admissible
  have newer := admissible.generation _ follows.generation
  cases pts : call.hasPts with
  | false =>
    rw [timestamp_missing follows.started pts]
    simp only [Track.next, pts, Bool.false_eq_true, ↓reduceIte]
    refine ⟨follows.started, rfl, follows.interval, follows.positive, ?_, kept, ?_⟩
    · intro anchor found
      exact UInt64.le_trans (follows.older anchor found) newer
    · intro anchor anchored
      have same := follows.same_generation admissible anchored
      have last := follows.placed anchor (same ▸ anchored)
      have next : UInt32.ofNat (track.missing + 1) = UInt32.ofNat track.missing + 1 := by simp
      simp only [last, follows.interval, next]
      grind
  | true =>
    cases anchored : track.anchorIn call.generation with
    | none =>
      rw [timestamp_rebased follows.started pts (by rw [kept, anchored]; rfl)]
      simp only [Track.next, pts, anchored, ↓reduceIte]
      refine ⟨follows.started, rfl, follows.interval, follows.positive, ?_, ?_, ?_⟩
      · rintro anchor ⟨⟩
        exact UInt64.le_refl _
      · simp [Track.anchorIn]
      · intro anchor found
        obtain ⟨⟨⟩, _⟩ := Track.anchorIn_some.1 found
        show clock.last + clock.frameTicks =
          call.ticks + (clock.last + clock.frameTicks - call.ticks) + UInt32.ofNat 0 * track.interval
        rw [show UInt32.ofNat 0 = 0 from rfl]
        grind
    | some anchor =>
      rw [timestamp_placed follows.started pts (by rw [kept, anchored]; rfl)]
      simp only [Track.next, pts, anchored, ↓reduceIte]
      refine ⟨follows.started, rfl, ?_, learn_bounds follows.positive, ?_, ?_, ?_⟩
      · rw [follows.interval]
      · rintro anchor ⟨⟩
        exact UInt64.le_refl _
      · simp [Track.anchorIn]
      · simp [Track.anchorIn]

theorem follows_first (start : UInt32) (call : Call) :
    Follows (timestamp { start := start } call).2 (Track.next {} call) := by
  have positive : 0 < (3000 : UInt32).toNat ∧ (3000 : UInt32).toNat ≤ 9000 := by decide
  cases pts : call.hasPts with
  | false =>
    simp only [timestamp, Track.next, keptPts, pts, Bool.false_eq_true, ↓reduceIte, Bool.false_and]
    exact ⟨rfl, rfl, rfl, positive, nofun, rfl, nofun⟩
  | true =>
    simp only [timestamp, Track.next, keptPts, pts, Bool.false_eq_true, ↓reduceIte, Bool.false_and]
    refine ⟨rfl, rfl, rfl, positive, ?_, ?_, ?_⟩
    · rintro anchor ⟨⟩
      exact UInt64.le_refl _
    · simp [Track.anchorIn]
    · simp [Track.anchorIn]

/-- `last_` is the timestamp returned last. -/
theorem timestamp_last (clock : WhipRtpClock) (call : Call) :
    (clock.timestamp call).2.last = (clock.timestamp call).1 := by
  unfold timestamp
  cases call.hasPts <;> rfl

/-- The timestamps from a started clock on. -/
theorem Follows.chain_iff {clock : WhipRtpClock} {track : Track} (calls : List Call)
    (follows : Follows clock track) (admissible : Along Admissible track calls) :
    (clock.last :: stamps clock calls).IsChain Ahead ↔ Along Resumes track calls := by
  induction calls generalizing clock track with
  | nil => simp [stamps, Along]
  | cons call calls ih =>
    obtain ⟨now, later⟩ := admissible
    rw [stamps, List.isChain_cons_cons, follows.ahead_iff now, ← timestamp_last,
      ih (follows.next now) later]
    rfl

/-- **The timestamps move forward exactly when every PTS behind units without PTS is ahead of
them.** For every sequence of calls whose generations never decrease and whose PTS move
forward within a generation. -/
theorem stamps_ahead_iff (start : UInt32) (calls : List Call)
    (admissible : Along Admissible {} calls) :
    (stamps { start := start } calls).IsChain Ahead ↔ Along Resumes {} calls := by
  cases calls with
  | nil => simp [stamps, Along]
  | cons call calls =>
    have first : Resumes {} call := fun _ missing => absurd missing (Nat.lt_irrefl 0)
    rw [stamps, ← timestamp_last, (follows_first start call).chain_iff calls admissible.2, Along]
    exact (and_iff_right first).symm

/-- Units 40 ms apart, one of them without PTS, keep moving forward. -/
theorem stamps_ahead_one_missing :
    (stamps { start := 7 } [⟨0, true, 0⟩, ⟨0, false, 0⟩, ⟨0, true, 80000000⟩]).IsChain Ahead :=
  (stamps_ahead_iff 7 _ (by decide +kernel)).2 (by decide +kernel)

/-- A unit without PTS between two units 20 ms apart: 0, 3000, 1800. -/
theorem resume_goes_back : Along Admissible {} [⟨0, true, 0⟩, ⟨0, false, 0⟩, ⟨0, true, 20000000⟩] ∧
    ¬ (stamps { start := 7 } [⟨0, true, 0⟩, ⟨0, false, 0⟩, ⟨0, true, 20000000⟩]).IsChain Ahead := by
  decide +kernel

end WhipRtpClock

end SkaiEdge.WebRtc
