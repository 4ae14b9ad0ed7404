import SkaiEdge.Video.RtspMoves

/-!
# The packet losses that the RTSP source reports

`num-lost` of a jitterbuffer is cumulative, and a new jitterbuffer counts from zero. The readings
of one jitterbuffer are an epoch: what the source adds to `packets_lost` for it is their peak.
-/

namespace SkaiEdge.Video.RtspSource

open SkaiEdge.Lib SkaiEdge.Core

/-- The counter stands at the peak of the last epoch, the total at the sum of the peaks. -/
structure Counted (v : LossView) : Prop where
  epoch : v.readings ≠ []
  marked : v.counter.highWater.toNat = MonotonicCounter.peak (v.readings.getLastD [])
  total : v.lost.toNat = (v.readings.map MonotonicCounter.peak).sum % 2 ^ 64

theorem Counted.move {v w : LossView} (counted : Counted v) (move : LossMove v w) : Counted w := by
  obtain ⟨epoch, marked, total⟩ := counted
  cases move with
  | keep => exact ⟨epoch, marked, total⟩
  | read value =>
    obtain ⟨front, last, cut⟩ := (List.eq_nil_or_concat' v.readings).resolve_left epoch
    have current : v.readings.getLastD [] = last := by simp [cut]
    rw [current] at marked
    obtain ⟨mark, added⟩ := MonotonicCounter.observe_toNat marked value
    have grows : MonotonicCounter.peak last ≤ MonotonicCounter.peak (last ++ [value]) := by
      rw [MonotonicCounter.peak_snoc]
      exact Nat.le_max_left ..
    refine ⟨by simp, by simpa [cut] using mark, ?_⟩
    have sums : (((v.readings.dropLast ++ [v.readings.getLastD [] ++ [value]]).map
        MonotonicCounter.peak).sum : Nat) =
        (v.readings.map MonotonicCounter.peak).sum + (v.counter.observe value).1.toNat := by
      rw [current, cut, added]
      simp only [List.dropLast_concat, List.map_append, List.map_cons, List.map_nil, List.sum_append,
        List.sum_cons, List.sum_nil]
      omega
    show (v.lost + (v.counter.observe value).1).toNat = _
    rw [sums, UInt64.toNat_add, total]
    omega
  | reset =>
    refine ⟨by simp, by simp, ?_⟩
    simpa using total

/-- No jitterbuffer was read since the counters were reset. -/
def Phase.resting : Phase → Bool
  | .shut | .made | .emptied => true
  | _ => false

section

variable {s t : State} {setup : Setup} {frames units : Nat} {some' : 0 < frames} {more : 0 < units}
  {ipv4 ipv6 : List Char → Bool} {w : Worker} {answer : Answer}

theorem State.openStep_counter (moved : s.openStep w answer = some t) :
    t.pipelinePacketsLost = s.pipelinePacketsLost := by
  unfold openStep at moved
  split at moved
  · split at moved
    · cases moved; rfl
    · split at moved
      · cases moved; rfl
      · split at moved <;> cases moved
        rfl
  · cases moved; rfl
  · cases moved; rfl
  · cases moved; rfl
  · cases moved; simp
  · dsimp only at moved
    split at moved <;> cases moved <;> rfl
  · cases moved; rfl
  · dsimp only at moved
    split at moved <;> cases moved <;> rfl
  · split at moved <;> cases moved <;> rfl
  · cases moved

theorem State.endStep_counter (moved : s.endStep w answer = some t) :
    t.pipelinePacketsLost = s.pipelinePacketsLost := by
  unfold endStep at moved
  split at moved
  · split at moved <;> cases moved <;> rfl
  all_goals cases moved
  all_goals rfl

theorem State.attemptStep_serving (moved : s.attemptStep w answer = some t) : w.phase = .serving := by
  unfold attemptStep at moved
  split at moved
  all_goals first
    | rfl
    | cases moved

/-- The counter is touched in an attempt and where its jitterbuffer is given back. -/
theorem State.work_counter (moved : s.work answer = some t) :
    t.pipelinePacketsLost = s.pipelinePacketsLost ∧ s.worker.phase ≠ .released ∨
      s.worker.phase = .serving ∨ t.pipelinePacketsLost = {} := by
  unfold work at moved
  split at moved
  · rename_i at' caller standing
    split at moved
    · unfold closeStep at moved
      rw [standing]
      split at moved
      · cases moved
        exact .inl ⟨rfl, by simp [Worker.phase]⟩
      · split at moved
        · cases moved
          exact .inl ⟨rfl, by simp [Worker.phase]⟩
        · cases moved
      · cases moved
        exact .inl ⟨rfl, by simp [Worker.phase]⟩
      · cases moved
        exact .inr (.inr rfl)
      · cases moved
        exact .inl ⟨rfl, by simp [Worker.phase]⟩
    · cases moved
  all_goals first
    | exact .inr (.inl (attemptStep_serving moved))
    | exact .inl ⟨openStep_counter moved, by rename_i standing; simp [standing, Worker.phase]⟩
    | exact .inl ⟨endStep_counter moved, by rename_i standing; simp [standing, Worker.phase]⟩

/-- The losses are counted, and a worker at rest has no reading behind it. -/
structure Tallied (s : State) : Prop where
  counted : Counted s.lossView
  resting : s.worker.phase.resting = true → s.pipelinePacketsLost = {}

theorem LinkMove.rests {v w : View} (move : LinkMove v w) (resting : w.phase.resting = true) :
    v.phase.resting = true ∨ v.phase = .released := by
  cases move with
  | stay _ => exact .inl resting
  | touchPipeline _ phase => rcases phase with rfl | rfl <;> cases resting
  | touch _ | close _ | create | refuse | drain _ | managers => cases resting
  | jitterbuffer => exact .inr rfl
  | _ => exact .inl rfl

theorem Tallied.work (tallied : Tallied s) (moved : s.work answer = some t) : Tallied t := by
  have moves := Moved.of_work moved
  refine ⟨tallied.counted.move moves.loss, fun resting => ?_⟩
  rcases State.work_counter moved with ⟨same, held⟩ | serving | reset
  · rw [same]
    exact tallied.resting ((moves.link.rests resting).resolve_right held)
  · have before := moves.link.rests resting
    rw [State.view, serving] at before
    rcases before with rest | released
    · cases rest
    · cases released
  · exact reset

theorem Tallied.handle (tallied : Tallied s) {i : Nat} (chain : Chain) (callback : Callback) :
    Tallied (s.handle i chain callback) := by
  have lost : (s.handle i chain callback).diagnostics.packetsLost = s.diagnostics.packetsLost := by simp
  have same : (s.handle i chain callback).lossView = s.lossView ∨
      (s.handle i chain callback).lossView = ⟨{}, s.diagnostics.packetsLost, s.lossReadings ++ [[]]⟩ := by
    cases callback with
    | padAdded codec =>
      simp only [State.handle]
      split <;> exact .inl rfl
    | connecting codec =>
      simp only [State.handle, State.connect]
      split
      · exact .inl rfl
      · split
        · exact .inl rfl
        · split <;> exact .inl rfl
    | declaring owner => simp [State.handle, State.lossView]
    | newJitterbuffer jitterbuffer => exact .inr rfl
    | _ => exact .inl rfl
  have worker : (s.handle i chain callback).worker = s.worker := by simp
  rcases same with same | reset
  · refine ⟨same ▸ tallied.counted, fun resting => ?_⟩
    rw [worker] at resting
    exact (congrArg LossView.counter same).trans (tallied.resting resting)
  · refine ⟨?_, fun _ => congrArg LossView.counter reset⟩
    rw [reset]
    exact tallied.counted.move .reset

theorem Tallied.step (tallied : Tallied s) {action : Action}
    (moved : s.step ipv4 ipv6 action = some t) : Tallied t := by
  cases action with
  | start config initialized spawned =>
    obtain ⟨idle, -, -, rfl⟩ := State.start_eq_ok ipv4 ipv6 moved
    have rest : s.pipelinePacketsLost = {} := tallied.resting (by rw [idle]; rfl)
    have counter : (s.launch config spawned).pipelinePacketsLost = {} := by simp [State.launch, rest]
    refine ⟨⟨by simp [State.launch, State.lossView], ?_, rfl⟩, fun _ => counter⟩
    rw [State.lossView, counter]
    rfl
  | requestStop => cases moved; exact ⟨tallied.counted, tallied.resting⟩
  | join =>
    simp only [State.step] at moved
    split at moved
    · rename_i idle
      cases moved
      have rest : s.pipelinePacketsLost = {} :=
        tallied.resting (by rcases idle with standing | standing <;> rw [standing] <;> rfl)
      exact ⟨tallied.counted, fun _ => rest⟩
    · cases moved
  | work answer => exact tallied.work moved
  | signal signal => cases moved; exact ⟨tallied.counted, tallied.resting⟩
  | handle i chain =>
    obtain ⟨callback, -, rfl⟩ := Option.map_eq_some_iff.1 moved
    exact tallied.handle chain callback
  | popFrame => cases moved; exact ⟨tallied.counted, tallied.resting⟩
  | popUnit => cases moved; exact ⟨tallied.counted, tallied.resting⟩
  | shutdownFrames => cases moved; exact ⟨tallied.counted, tallied.resting⟩
  | shutdownUnits => cases moved; exact ⟨tallied.counted, tallied.resting⟩

end

end SkaiEdge.Video.RtspSource
