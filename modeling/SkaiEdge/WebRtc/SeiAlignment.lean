import SkaiEdge.WebRtc.WhipRtpClock
import SkaiEdge.WebRtc.SeiResultSelector

/-!
# The RTP clock and the ticks in the SEI

When every unit has a PTS, the clock never loses the ticks: within a run of one generation two
timestamps differ as the ticks of their PTS do, and a new generation starts exactly one learned
frame interval behind the timestamp before it. So a viewer that subtracts the `dt` of an SEI
from the timestamp of the unit that carries it lands within one tick of the timestamp its source
was sent with.
-/

namespace SkaiEdge.WebRtc

open SkaiEdge.Video

/-- Two counts that are `dt` apart, up to one, are so on the clock that wraps. -/
theorem near_ticks {a b : Nat} {dt : UInt32} (above : a ≤ b + dt.toNat + 1)
    (below : b + dt.toNat ≤ a + 1) :
    UInt32.ofNat a - UInt32.ofNat b - dt = 0 ∨ UInt32.ofNat a - UInt32.ofNat b - dt = 1 ∨
      UInt32.ofNat a - UInt32.ofNat b - dt = -1 := by
  have apart : a = b + dt.toNat ∨ a = b + dt.toNat + 1 ∨ a + 1 = b + dt.toNat := by omega
  rcases apart with same | late | early
  · left
    rw [same, UInt32.ofNat_add, UInt32.ofNat_toNat]
    grind
  · right; left
    rw [late, UInt32.ofNat_add, UInt32.ofNat_add, UInt32.ofNat_toNat]
    grind
  · right; right
    have sum : UInt32.ofNat (a + 1) = UInt32.ofNat (b + dt.toNat) := congrArg UInt32.ofNat early
    rw [UInt32.ofNat_add, UInt32.ofNat_add, UInt32.ofNat_toNat] at sum
    grind

/-- Two floors and one rounding: the ticks of a distance of at most one second are the
difference of the ticks, up to one. -/
theorem ticks_align {attach source : UInt64} {dt : UInt32} (past : source ≤ attach)
    (window : attach.toNat - source.toNat ≤ 1000000000) (ticks : seiDtTicks attach source = some dt) :
    |signed (h264RtpTimestamp attach - h264RtpTimestamp source - dt)| ≤ 1 := by
  obtain ⟨dt', same, rounded⟩ := seiDtTicks_window past window
  obtain rfl : dt = dt' := Option.some.inj (ticks.symm.trans same)
  have order := UInt64.le_iff_toNat_le.1 past
  have near : attach.toNat * 9 / 100000 ≤ source.toNat * 9 / 100000 + dt.toNat + 1 ∧
      source.toNat * 9 / 100000 + dt.toNat ≤ attach.toNat * 9 / 100000 + 1 := by omega
  rw [h264RtpTimestamp_eq, h264RtpTimestamp_eq]
  rcases near_ticks near.1 near.2 with same | late | early
  · rw [same]
    decide
  · rw [late]
    decide
  · rw [early]
    decide

namespace WhipRtpClock

/-- The interval the clock has learned from the calls: the last step within one generation that
was at 10 fps or faster. -/
def interval (frameTicks : UInt32) : List Call → UInt32
  | a :: b :: rest =>
    interval (if b.generation = a.generation then learn frameTicks b.ticks a.ticks else frameTicks)
      (b :: rest)
  | _ => frameTicks

theorem interval_bounds {frameTicks : UInt32} (calls : List Call)
    (positive : 0 < frameTicks.toNat ∧ frameTicks.toNat ≤ 9000) :
    0 < (interval frameTicks calls).toNat ∧ (interval frameTicks calls).toNat ≤ 9000 := by
  fun_induction interval frameTicks calls with
  | case1 frameTicks a b rest ih =>
    apply ih
    split
    · exact learn_bounds positive
    · exact positive
  | case2 => exact positive

/-- The clock after a call with PTS. -/
structure At (clock : WhipRtpClock) (call : Call) (frameTicks : UInt32) : Prop where
  started : clock.hasLast = true
  generation : clock.generation = call.generation
  lastPts : clock.lastPtsTicks = some call.ticks
  placed : clock.last = call.ticks + clock.offset
  interval : clock.frameTicks = frameTicks

theorem At.first (start : UInt32) {call : Call} (pts : call.hasPts = true) :
    At (timestamp { start := start } call).2 call 3000 := by
  simp only [timestamp, keptPts, pts, if_true]
  exact ⟨rfl, rfl, rfl, rfl, rfl⟩

theorem shifted (a b offset : UInt32) : a + offset - (b + offset) = a - b := by grind

theorem rebased (next ticks : UInt32) : next = ticks + (next - ticks) := by grind

/-- One call: in the same generation the timestamp moves with the ticks, a new one goes on one
interval behind. -/
theorem At.next {clock : WhipRtpClock} {call next : Call} {frameTicks : UInt32}
    (known : At clock call frameTicks) (pts : next.hasPts = true) :
    (next.generation = call.generation →
        (clock.timestamp next).1 - clock.last = next.ticks - call.ticks) ∧
      (next.generation ≠ call.generation →
        (clock.timestamp next).1 = clock.last + frameTicks) ∧
      At (clock.timestamp next).2 next
        (if next.generation = call.generation then learn frameTicks next.ticks call.ticks
        else frameTicks) := by
  by_cases same : next.generation = call.generation
  · have kept : clock.keptPts next = some call.ticks := by
      simp [keptPts, same, known.generation, known.lastPts]
    have moved := timestamp_placed known.started pts kept
    have now : (clock.timestamp next).1 = next.ticks + clock.offset := congrArg Prod.fst moved
    have after := congrArg Prod.snd moved
    dsimp only at after
    refine ⟨fun _ => ?_, fun other => absurd same other, ?_⟩
    · rw [now, known.placed]
      exact shifted _ _ _
    · rw [if_pos same, after, ← known.interval]
      exact ⟨known.started, rfl, rfl, rfl, rfl⟩
  · have kept : clock.keptPts next = none := by
      simp [keptPts, same, known.generation, known.started]
    have moved := timestamp_rebased known.started pts kept
    have now : (clock.timestamp next).1 = clock.last + clock.frameTicks := congrArg Prod.fst moved
    have after := congrArg Prod.snd moved
    dsimp only at after
    refine ⟨fun equal => absurd equal same, fun _ => ?_, ?_⟩
    · rw [now, known.interval]
    · rw [if_neg same, after, ← known.interval]
      exact ⟨known.started, rfl, rfl, rebased _ _, rfl⟩

/-- The timestamps of two consecutive calls. -/
def Consecutive (frameTicks : UInt32) (calls : List Call) (times : List UInt32) : Prop :=
  ∀ i a b x y, calls[i]? = some a → calls[i + 1]? = some b → times[i]? = some x →
    times[i + 1]? = some y →
    (b.generation = a.generation → y - x = b.ticks - a.ticks) ∧
      (b.generation ≠ a.generation → y = x + interval frameTicks (calls.take (i + 1)))

theorem At.consecutive {clock : WhipRtpClock} {call : Call} {frameTicks : UInt32}
    (known : At clock call frameTicks) (calls : List Call)
    (timed : ∀ c ∈ calls, c.hasPts = true) :
    Consecutive frameTicks (call :: calls) (clock.last :: stamps clock calls) := by
  induction calls generalizing clock call frameTicks with
  | nil =>
    intro i a b x y _ at_b
    simp at at_b
  | cons next calls ih =>
    obtain ⟨moves, rebases, after⟩ := known.next (timed next List.mem_cons_self)
    have later := ih after fun c member => timed c (List.mem_cons_of_mem _ member)
    rw [timestamp_last] at later
    intro i a b x y at_a at_b at_x at_y
    cases i with
    | zero =>
      simp only [List.getElem?_cons_zero, List.getElem?_cons_succ, Option.some.injEq,
        Nat.zero_add, stamps] at at_a at_b at_x at_y
      subst at_a at_b at_x at_y
      exact ⟨moves, rebases⟩
    | succ i => exact later i a b x y at_a at_b at_x at_y

theorem stamps_length (clock : WhipRtpClock) (calls : List Call) :
    (stamps clock calls).length = calls.length := by
  induction calls generalizing clock with
  | nil => rfl
  | cons call calls ih => simp [stamps, ih]

theorem consecutive_stamps (start : UInt32) {calls : List Call}
    (timed : ∀ c ∈ calls, c.hasPts = true) :
    Consecutive 3000 calls (stamps { start := start } calls) := by
  cases calls with
  | nil =>
    intro i a b x y at_a
    simp at at_a
  | cons call calls =>
    have first := At.first start (timed call List.mem_cons_self)
    have later := first.consecutive calls fun c member => timed c (List.mem_cons_of_mem _ member)
    rw [timestamp_last] at later
    exact later

/-- The clock after the calls. -/
def after (clock : WhipRtpClock) (calls : List Call) : WhipRtpClock :=
  calls.foldl (fun clock call => (clock.timestamp call).2) clock

theorem At.after_frameTicks {clock : WhipRtpClock} {call : Call} {frameTicks : UInt32}
    (known : At clock call frameTicks) (calls : List Call)
    (timed : ∀ c ∈ calls, c.hasPts = true) :
    (clock.after calls).frameTicks = WhipRtpClock.interval frameTicks (call :: calls) := by
  induction calls generalizing clock call frameTicks with
  | nil => exact known.interval
  | cons next calls ih =>
    obtain ⟨_, _, moved⟩ := known.next (timed next List.mem_cons_self)
    exact ih moved fun c member => timed c (List.mem_cons_of_mem _ member)

/-- `frame_ticks_` is the interval the calls teach. -/
theorem after_frameTicks (start : UInt32) {calls : List Call}
    (timed : ∀ c ∈ calls, c.hasPts = true) :
    (after { start := start } calls).frameTicks = interval 3000 calls := by
  cases calls with
  | nil => rfl
  | cons call calls =>
    have first := At.first start (timed call List.mem_cons_self)
    exact first.after_frameTicks calls fun c member => timed c (List.mem_cons_of_mem _ member)

/-- All calls between two indices are of one generation. -/
def SameRun (calls : List Call) (i j : Nat) : Prop :=
  ∃ generation, ∀ k c, min i j ≤ k → k ≤ max i j → calls[k]? = some c → c.generation = generation

theorem SameRun.symm {calls : List Call} {i j : Nat} (run : SameRun calls i j) :
    SameRun calls j i := by
  unfold SameRun at run ⊢
  rwa [Nat.min_comm, Nat.max_comm]

/-- Along a run of one generation the steps add up. -/
theorem Consecutive.difference {frameTicks : UInt32} {calls : List Call} {times : List UInt32}
    (steps : Consecutive frameTicks calls times) (sizes : times.length = calls.length) {i j : Nat}
    (order : i ≤ j) (run : SameRun calls i j) {a b : Call} {x y : UInt32}
    (at_a : calls[i]? = some a) (at_b : calls[j]? = some b) (at_x : times[i]? = some x)
    (at_y : times[j]? = some y) : y - x = b.ticks - a.ticks := by
  obtain ⟨generation, same⟩ := run
  rw [Nat.min_eq_left order, Nat.max_eq_right order] at same
  induction order generalizing b y with
  | refl =>
    obtain rfl := Option.some.inj (at_a.symm.trans at_b)
    obtain rfl := Option.some.inj (at_x.symm.trans at_y)
    grind
  | @step j order ih =>
    have inside : j < calls.length := by
      have := (List.getElem?_eq_some_iff.1 at_b).1
      omega
    have at_c : calls[j]? = some calls[j] := List.getElem?_eq_getElem inside
    have at_z : times[j]? = some times[j] := List.getElem?_eq_getElem (sizes ▸ inside)
    have before := ih at_c at_z fun k c low high => same k c low (by omega)
    have level : b.generation = calls[j].generation := by
      rw [same (j + 1) b (Nat.le_succ_of_le order) (Nat.le_refl _) at_b,
        same j _ order (Nat.le_succ j) at_c]
    have last := (steps j _ b _ y at_c at_b at_z at_y).1 level
    calc y - x = (y - times[j]) + (times[j] - x) := by grind
      _ = (b.ticks - calls[j].ticks) + (calls[j].ticks - a.ticks) := by rw [last, before]
      _ = b.ticks - a.ticks := by grind

/-- **Exactness and alignment.** For every sequence of calls with PTS: two timestamps of one run
of a generation differ as the ticks of their PTS do; a call of another generation than the one
before it gets that one's timestamp plus the learned frame interval, which is between 1 and
9000; and for two units of a run, the source at most one second before the unit that carries its
SEI, the timestamp minus `dt` is within one tick of the source's timestamp. -/
theorem stamps_exact (start : UInt32) (calls : List Call) (timed : ∀ c ∈ calls, c.hasPts = true) :
    let times := stamps { start := start } calls
    times.length = calls.length ∧
      (∀ i j a b x y, SameRun calls i j → calls[i]? = some a → calls[j]? = some b →
        times[i]? = some x → times[j]? = some y → y - x = b.ticks - a.ticks) ∧
      (∀ i a b x y, calls[i]? = some a → calls[i + 1]? = some b → times[i]? = some x →
        times[i + 1]? = some y → b.generation ≠ a.generation →
        y = x + (after { start := start } (calls.take (i + 1))).frameTicks) ∧
      (∀ i, let learned := (after { start := start } (calls.take i)).frameTicks
        learned = interval 3000 (calls.take i) ∧ 1 ≤ learned.toNat ∧ learned.toNat ≤ 9000) ∧
      (∀ i j source attach x y dt, SameRun calls i j → calls[i]? = some source →
        calls[j]? = some attach → times[i]? = some x → times[j]? = some y →
        source.ptsNs ≤ attach.ptsNs → attach.ptsNs.toNat - source.ptsNs.toNat ≤ 1000000000 →
        seiDtTicks attach.ptsNs source.ptsNs = some dt → |signed (y - dt - x)| ≤ 1) := by
  intro times
  have sizes : times.length = calls.length := stamps_length _ calls
  have steps : Consecutive 3000 calls times := consecutive_stamps start timed
  have prefixTimed : ∀ i, ∀ c ∈ calls.take i, c.hasPts = true :=
    fun i c member => timed c (List.mem_of_mem_take member)
  have apart : ∀ i j a b x y, SameRun calls i j → calls[i]? = some a → calls[j]? = some b →
      times[i]? = some x → times[j]? = some y → y - x = b.ticks - a.ticks := by
    intro i j a b x y run at_a at_b at_x at_y
    rcases Nat.le_total i j with order | order
    · exact steps.difference sizes order run at_a at_b at_x at_y
    · have back := steps.difference sizes order run.symm at_b at_a at_y at_x
      grind
  refine ⟨sizes, apart, ?_, ?_, ?_⟩
  · intro i a b x y at_a at_b at_x at_y other
    rw [after_frameTicks start (prefixTimed (i + 1))]
    exact (steps i a b x y at_a at_b at_x at_y).2 other
  · intro i learned
    have same : learned = interval 3000 (calls.take i) := after_frameTicks start (prefixTimed i)
    have positive : 0 < (3000 : UInt32).toNat ∧ (3000 : UInt32).toNat ≤ 9000 := by decide
    rw [same]
    exact ⟨rfl, interval_bounds _ positive⟩
  · intro i j source attach x y dt run at_source at_attach at_x at_y past window ticks
    have moved := apart i j source attach x y run at_source at_attach at_x at_y
    have aligned := ticks_align past window ticks
    have same : y - dt - x = attach.ticks - source.ticks - dt := by
      rw [← moved]
      grind
    rw [same]
    exact aligned

/-- A restart after two units 40 ms apart goes on 3600 ticks later. -/
theorem stamps_exact_restart :
    (stamps { start := 7 } [⟨1, true, 0⟩, ⟨1, true, 40000000⟩, ⟨2, true, 0⟩])[2]? = some 7200 ∧
      (7200 : UInt32) = 3600 + (after { start := 7 } [⟨1, true, 0⟩, ⟨1, true, 40000000⟩]).frameTicks := by
  have exact_ := stamps_exact 7 [⟨1, true, 0⟩, ⟨1, true, 40000000⟩, ⟨2, true, 0⟩] (by decide)
  refine ⟨by decide +kernel, ?_⟩
  exact exact_.2.2.1 1 ⟨1, true, 40000000⟩ ⟨2, true, 0⟩ 3600 7200 rfl rfl (by decide +kernel)
    (by decide +kernel) (by decide)

end WhipRtpClock

end SkaiEdge.WebRtc
